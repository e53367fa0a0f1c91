import BadgeEntry.Url.Basic

/-!
# Addresses as they are asked for

A request is sent without the user information and the fragment of its address, and
the answer comes from the address without them.  So the address that was asked for is
the address of the answer just when there is neither.

## Main definitions

* `Address.userinfo` — name and password, empty if there are none.
* `Address.IsPlain` — neither user information nor a fragment.

## Main results

* `Address.requested_beq_iff` — **an address is the one it is requested as if and only
  if it is plain.**
-/

namespace BadgeEntry.Url

/-- Name and password as they are written, empty if there are none. -/
def Address.userinfo (u : Address) : List Char :=
  u.authority.elim [] Authority.userinfo

/-- Whether there is neither user information nor a fragment. -/
def Address.IsPlain (u : Address) : Prop :=
  u.userinfo = [] ∧ u.fragment = none

instance (u : Address) : Decidable u.IsPlain :=
  inferInstanceAs (Decidable (_ ∧ _))

@[simp] theorem Address.requested_scheme (u : Address) : u.requested.scheme = u.scheme := rfl

/-- A plain address is requested as it is. -/
theorem Address.requested_eq_self {u : Address} (h : u.IsPlain) : u.requested = u := by
  obtain ⟨scheme, authority, path, query, fragment⟩ := u
  obtain ⟨huser, hfragment⟩ := h
  cases authority with
  | none => simp_all [Address.requested]
  | some a =>
    obtain ⟨userinfo, host, port⟩ := a
    simp_all [Address.requested, Address.userinfo]

/-- How much longer user information makes an address. -/
def userinfoLength (userinfo : List Char) : Nat :=
  if userinfo.isEmpty then 0 else userinfo.length + 1

theorem userinfoLength_eq_zero_iff {userinfo : List Char} :
    userinfoLength userinfo = 0 ↔ userinfo = [] := by
  cases userinfo <;> simp [userinfoLength]

theorem Authority.length_render (a : Authority) :
    a.render.length =
      ({ a with userinfo := [] } : Authority).render.length + userinfoLength a.userinfo := by
  unfold Authority.render userinfoLength
  cases a.userinfo with
  | nil => rfl
  | cons c cs => simp; omega

theorem Address.length_renderAuthority (u : Address) :
    u.renderAuthority.length =
      u.requested.renderAuthority.length + userinfoLength u.userinfo := by
  obtain ⟨scheme, authority, path, query, fragment⟩ := u
  cases authority with
  | none => rfl
  | some a =>
    change a.render.length + 2 =
      ({ a with userinfo := [] } : Authority).render.length + 2 + userinfoLength a.userinfo
    rw [a.length_render]
    omega

/-- What is left out of a request makes an address longer. -/
theorem Address.length_render (u : Address) :
    u.render.length = u.requested.render.length + userinfoLength u.userinfo +
      (renderPart '#' u.fragment).length := by
  simp only [Address.render, List.length_append, List.length_cons, u.length_renderAuthority]
  simp only [Address.requested, renderPart, List.length_nil]
  omega

/-- **An address is the one it is requested as** if and only if it is plain. -/
theorem Address.requested_beq_iff (u : Address) : (u.requested == u) = true ↔ u.IsPlain := by
  constructor
  · intro h
    have hrender : u.requested.render = u.render := eq_of_beq h
    -- both have the same length, so nothing was left out
    have hlength := u.length_render
    rw [hrender] at hlength
    refine ⟨userinfoLength_eq_zero_iff.mp (by omega), ?_⟩
    cases hfragment : u.fragment with
    | none => rfl
    | some text =>
      rw [hfragment, renderPart, List.length_cons] at hlength
      omega
  · intro h
    rw [Address.requested_eq_self h]
    exact beq_self_eq_true u.render

end BadgeEntry.Url
