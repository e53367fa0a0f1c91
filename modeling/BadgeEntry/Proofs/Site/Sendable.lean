import BadgeEntry.Session.Cookie
import BadgeEntry.Site.Settings
import Mathlib.Data.List.Basic

/-!
# Fields that can be sent

The fields of a submitted form are those of the request for the edit page, but for
the login, which may be a new one, and the token of the page.  A value that was read
from an answer holds visible characters, spaces and tabs only, so a login that an
answer sets can be sent; of the token nothing is known.

## Main results

* `isSendable_append` — a value can be sent if its parts can.
* `isSendable_nextLogin` — a new login can be sent if the old one can.
* `firstInvalid?_writeFields` — **after a page was read, only its token can keep a form
  from being sent.**
-/

namespace BadgeEntry

open Http Site

namespace Http

@[simp] theorem isSendable_append (s t : String) :
    isSendable (s ++ t) = (isSendable s && isSendable t) := by
  rw [isSendable, String.toList_append, List.all_append]
  rfl

theorem firstInvalid?_eq_none_iff {fields : Fields} :
    firstInvalid? fields = none ↔ ∀ f ∈ fields, isSendable f.2 = true := by
  simp [firstInvalid?]

/-- Whether a value with the character `c` can be sent. -/
def isSendableChar (c : Char) : Bool :=
  c == '\t' || (0x20 ≤ c.toNat && c.toNat != 0x7F)

theorem isSendable_iff {value : String} :
    isSendable value = true ↔ ∀ c ∈ value.toList, isSendableChar c = true :=
  List.all_eq_true

/-- A readable byte is a character that can be sent. -/
theorem isSendableChar_ofNat {b : UInt8}
    (h : (b == 0x09 || (0x20 ≤ b.toNat && b.toNat < 0x7F)) = true) :
    isSendableChar (Char.ofNat b.toNat) = true := by
  -- there are few readable bytes, so they are tried one by one
  have hall : ∀ n : Fin 127, n.val = 9 ∨ 32 ≤ n.val → isSendableChar (Char.ofNat n) = true := by
    decide
  rw [Bool.or_eq_true, beq_iff_eq, Bool.and_eq_true, decide_eq_true_eq, decide_eq_true_eq] at h
  rcases h with rfl | ⟨hlow, hhigh⟩
  · exact hall 9 (Or.inl rfl)
  · exact hall ⟨b.toNat, hhigh⟩ (Or.inr hlow)

/-- A readable value can be sent. -/
theorem isSendable_of_text? {h : Header} {text : String} (htext : h.text? = some text) :
    isSendable text = true := by
  unfold Header.text? at htext
  split at htext
  · next hall =>
    rw [Option.some.injEq] at htext
    subst htext
    rw [isSendable_iff, String.toList_ofList, List.forall_mem_map]
    exact fun b hb => isSendableChar_ofNat (List.all_eq_true.mp hall b hb)
  · cases htext

theorem isSendable_of_mem_textsOf {name text : String} {headers : List Header}
    (h : text ∈ textsOf name headers) : isSendable text = true := by
  obtain ⟨header, -, htext⟩ := List.mem_filterMap.mp h
  exact isSendable_of_text? htext

end Http

/-! ### The new login -/

namespace Session

/-- A cookie carries its name, an equals sign, and a login with what follows it. -/
theorem cookieLogin?_eq_some_iff {name cookie login : String} :
    cookieLogin? name cookie = some login ↔
      ∃ rest, cookie.toList = (name ++ "=").toList ++ rest ∧
        login = String.ofList (beforeSemicolon rest) := by
  unfold cookieLogin?
  simp only [Option.map_eq_some_iff, List.isPrefixOf?_eq_some_iff_append_eq]
  constructor
  · rintro ⟨rest, hrest, rfl⟩
    exact ⟨rest, hrest.symm, rfl⟩
  · rintro ⟨rest, hrest, rfl⟩
    exact ⟨rest, hrest.symm, rfl⟩

/-- A login in a value that can be sent can itself be sent. -/
theorem isSendable_of_cookieLogin? {name cookie login : String}
    (hlogin : cookieLogin? name cookie = some login) (hcookie : isSendable cookie = true) :
    isSendable login = true := by
  obtain ⟨rest, hrest, rfl⟩ := cookieLogin?_eq_some_iff.mp hlogin
  rw [isSendable_iff, hrest] at hcookie
  rw [isSendable_iff, String.toList_ofList]
  intro c hc
  exact hcookie c (List.mem_append_right _ ((List.takeWhile_subset _) hc))

/-- **A new login can be sent** if the old one can. -/
theorem isSendable_nextLogin {headers : List Header} {name current : String}
    (h : isSendable current = true) : isSendable (nextLogin headers name current).1 = true := by
  unfold nextLogin
  split
  · exact h
  · split
    · next login hfound =>
      obtain ⟨cookie, hmem, hlogin⟩ := List.exists_of_findSome?_eq_some hfound
      exact isSendable_of_cookieLogin? hlogin (isSendable_of_mem_textsOf hmem)
    · exact h

end Session

/-! ### The fields of a form -/

namespace Site

theorem isSendable_cookieValue_iff {name login : String} :
    isSendable (cookieValue name login) = true ↔
      isSendable name = true ∧ isSendable login = true := by
  have hsign : isSendable "=" = true := by decide
  simp [cookieValue, hsign]

theorem firstInvalid?_readFields_eq_none_iff {s : Settings} {login : String} :
    firstInvalid? (s.readFields login) = none ↔
      isSendable s.cookieName = true ∧ isSendable login = true ∧
        isSendable s.introduction = true := by
  have haccept : isSendable acceptedPages = true := by decide
  simp [firstInvalid?_eq_none_iff, Settings.readFields, haccept, isSendable_cookieValue_iff,
    and_assoc]

/-- **After a page was read, only its token can keep a form from being sent.** -/
theorem firstInvalid?_writeFields {s : Settings} {login next : String} {csrf : Option String}
    (hread : firstInvalid? (s.readFields login) = none) (hnext : isSendable next = true) :
    firstInvalid? (s.writeFields next csrf) =
      if csrf.any (!isSendable ·) then some .csrfToken else none := by
  obtain ⟨hname, -, hintroduction⟩ := firstInvalid?_readFields_eq_none_iff.mp hread
  have hcookie := isSendable_cookieValue_iff.mpr ⟨hname, hnext⟩
  have haccept : isSendable acceptedPages = true := by decide
  have hkind : isSendable formContentType = true := by decide
  cases csrf with
  | none =>
    simp [firstInvalid?, Settings.writeFields, haccept, hkind, hcookie, hintroduction]
  | some token =>
    by_cases htoken : isSendable token = true <;>
      simp [firstInvalid?, Settings.writeFields, haccept, hkind, hcookie, hintroduction, htoken]

end Site

end BadgeEntry
