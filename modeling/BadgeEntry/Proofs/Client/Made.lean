import BadgeEntry.Client.Basic
import BadgeEntry.Proofs.Site.Pages

/-!
# Clients that were made

A client is made for a root that has an address.  The root is normalized when the client
is made, so the pages of every project have addresses on its site.

## Main definitions

* `Client.IsMade` — a client that was made, perhaps with another way to find tokens.
* `Client.IsPlain` — one that was made for a plain site.

## Main results

* `Client.IsMade.exists_parse_root` — the root of a client has an address.
* `Client.IsMade.exists_pages` — **the pages of a project have addresses on its site.**
-/

namespace BadgeEntry.Client

open Site Url EditPage

section

variable [NameMapping]

/-- A client that was made for a site, perhaps with another way to find tokens. -/
def IsMade (c : Client) : Prop :=
  ∃ settings made, create? settings = .ok made ∧ c = made.withExtractor c.extractor

/-- A client is made for a normalized root with an address. -/
theorem create?_eq_ok {settings : Settings} {c : Client} (h : create? settings = .ok c) :
    ∃ root base, normalize settings.root = some root ∧ Address.parse root = .ok base ∧
      c = ⟨{ settings with root }, Extractor.usual⟩ := by
  unfold create? at h
  split at h
  · cases h
  · next root hroot =>
    split at h
    · cases h
    · next base hbase =>
      rw [Except.ok.injEq] at h
      exact ⟨root, base, hroot, hbase, h.symm⟩

theorem isMade_of_create? {settings : Settings} {c : Client} (h : create? settings = .ok c) :
    c.IsMade :=
  ⟨settings, c, h, rfl⟩

variable {c : Client}

theorem IsMade.exists_normalize (h : c.IsMade) :
    ∃ input base, normalize input = some c.root ∧ Address.parse c.root = .ok base := by
  obtain ⟨settings, made, hmade, hc⟩ := h
  obtain ⟨root, base, hroot, hbase, rfl⟩ := create?_eq_ok hmade
  have : c.root = root := by rw [hc]; rfl
  exact ⟨settings.root, base, this ▸ hroot, this ▸ hbase⟩

/-- The root of a client has an address. -/
theorem IsMade.exists_parse_root (h : c.IsMade) : ∃ base, Address.parse c.root = .ok base := by
  obtain ⟨-, base, -, hbase⟩ := h.exists_normalize
  exact ⟨base, hbase⟩

/-- **The pages of a project have addresses on the site of the client.** -/
theorem IsMade.exists_pages (h : c.IsMade) {base : Address}
    (hbase : Address.parse c.root = .ok base) (hweb : base.kind = .web) (project : ProjectId) :
    ∃ page form, Address.parse (editPage c.root project) = .ok page ∧ page.IsOnSite base ∧
      Address.parse (projectPage c.root project) = .ok form ∧ form.IsOnSite base := by
  obtain ⟨_, _, hroot, -⟩ := h.exists_normalize
  have hslash := getLast?_normalize hroot
  obtain ⟨page, hpage, hpageSite⟩ := exists_editPage hbase hweb hslash project
  obtain ⟨form, hform, hformSite⟩ := exists_projectPage hbase hweb hslash project
  exact ⟨page, form, hpage, hpageSite, hform, hformSite⟩

end

/-! ### Plain sites -/

/-- A client that was made for a plain site: its root has the scheme `http`, and neither
user information nor a fragment. -/
structure IsPlain [NameMapping] (c : Client) : Prop where
  made : c.IsMade
  root : ∃ base, Address.parse c.root = .ok base ∧ base.scheme = "http" ∧ base.IsPlain

theorem kind_of_http {base : Address} (h : base.scheme = "http") : base.kind = .web := by
  rw [Address.kind, h]
  rfl

/-- A client of the site on this machine. -/
def onThisMachine : Client :=
  ⟨{ root := localRoot }, Extractor.usual⟩

theorem create?_localRoot : create? { root := localRoot } = .ok onThisMachine := rfl

theorem isPlain_onThisMachine : onThisMachine.IsPlain :=
  ⟨isMade_of_create? create?_localRoot, _, rfl, rfl, by decide⟩

/-- The pages of a project on a plain site are plain as well. -/
theorem IsPlain.exists_pages [NameMapping] {c : Client} (h : c.IsPlain) (project : ProjectId) :
    ∃ page form, Address.parse (editPage c.root project) = .ok page ∧
      Address.parse (projectPage c.root project) = .ok form ∧
        (page.scheme = "http" ∧ page.IsPlain) ∧ form.scheme = "http" ∧ form.IsPlain := by
  obtain ⟨base, hbase, hhttp, hplain⟩ := h.root
  obtain ⟨page, form, hpage, hpageSite, hform, hformSite⟩ :=
    h.made.exists_pages hbase (kind_of_http hhttp) project
  exact ⟨page, form, hpage, hform,
    ⟨hpageSite.scheme.trans hhttp, hpageSite.isPlain_iff.mpr hplain⟩,
    hformSite.scheme.trans hhttp, hformSite.isPlain_iff.mpr hplain⟩

end BadgeEntry.Client
