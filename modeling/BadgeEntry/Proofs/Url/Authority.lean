import BadgeEntry.Proofs.Text.Utf8Order
import BadgeEntry.Proofs.Url.Below
import BadgeEntry.Proofs.Url.Hosts

/-!
# Authorities are read back

User information is written in codes, so that no second at sign, no second colon and
nothing that ends an authority is left in it.  So an authority on the web, as it is
written, has the same three parts when it is read again.

## Main definitions

* `Authority.IsWritten` — an authority that is read back.

## Main results

* `isWritten_of_readRegion` — what was read is an authority that is read back.
* `readAuthority_render` — **an authority is read back**, and ends before a slash.
-/

namespace BadgeEntry.Url

open Text Decimal

/-! ### User information -/

theorem keepsCodes_isUserinfoCoded : KeepsCodes isUserinfoCoded where
  percent := by decide
  digit := by decide

theorem percentEncode_ne_nil {coded : Char → Bool} {cs : List Char} (h : cs ≠ []) :
    percentEncode coded cs ≠ [] := by
  obtain ⟨c, cs, rfl⟩ := List.exists_cons_of_ne_nil h
  rw [percentEncode_cons]
  refine List.append_ne_nil_of_left_ne_nil ?_ _
  by_cases hself : IsUncoded coded c
  · rw [percentChar_of_isUncoded hself]
    exact List.cons_ne_nil _ _
  · rw [percentChar_of_not_isUncoded hself, Utf8.utf8EncodeChar_eq, List.flatMap_cons]
    exact List.cons_ne_nil _ _

/-- A name and a password in codes. -/
def joinUserinfo (name password : List Char) : List Char :=
  percentEncode isUserinfoCoded name ++
    if password.isEmpty then [] else ':' :: percentEncode isUserinfoCoded password

theorem isUncoded_of_mem_joinUserinfo {name password : List Char} {c : Char}
    (h : c ∈ joinUserinfo name password) : IsUncoded isUserinfoCoded c ∨ c = ':' := by
  rw [joinUserinfo, List.mem_append] at h
  rcases h with h | h
  · exact Or.inl (isUncoded_of_mem_percentEncode keepsCodes_isUserinfoCoded c h)
  · split at h
    · exact absurd h List.not_mem_nil
    · rcases List.mem_cons.mp h with rfl | h
      · exact Or.inr rfl
      · exact Or.inl (isUncoded_of_mem_percentEncode keepsCodes_isUserinfoCoded c h)

/-- What is in codes already is not coded again. -/
theorem percentEncode_idem {coded : Char → Bool} (hkeeps : KeepsCodes coded) (cs : List Char) :
    percentEncode coded (percentEncode coded cs) = percentEncode coded cs :=
  percentEncode_eq_self (isUncoded_of_mem_percentEncode hkeeps)

/-- A name holds no colon once it is in codes, so the password is found behind it. -/
theorem readUserinfo_joinUserinfo (name password : List Char) :
    readUserinfo (joinUserinfo name password) = joinUserinfo name password := by
  have hname : ∀ c ∈ percentEncode isUserinfoCoded name, (c != ':') = true := by
    intro c hc
    have huncoded := isUncoded_of_mem_percentEncode keepsCodes_isUserinfoCoded c hc
    rw [bne_iff_ne]
    rintro rfl
    exact absurd huncoded.2 (by decide)
  unfold readUserinfo joinUserinfo
  dsimp only
  by_cases hpassword : password = []
  · have hnone : password.isEmpty = true := List.isEmpty_iff.mpr hpassword
    rw [if_pos hnone, takeWhile_append_of_stop hname (stops_nil _),
      dropWhile_append_of_stop hname (stops_nil _), percentEncode_idem keepsCodes_isUserinfoCoded]
    rfl
  · have hsome : ¬password.isEmpty = true := by rwa [List.isEmpty_iff]
    have hcolon : Stops (· != ':') (':' :: percentEncode isUserinfoCoded password) :=
      (stops_cons _).mpr rfl
    rw [if_neg hsome, takeWhile_append_of_stop hname hcolon,
      dropWhile_append_of_stop hname hcolon, percentEncode_idem keepsCodes_isUserinfoCoded,
      List.drop_one, List.tail_cons, percentEncode_idem keepsCodes_isUserinfoCoded,
      if_neg (by rw [List.isEmpty_iff]; exact percentEncode_ne_nil hpassword)]

theorem isHostChar_of_isUncoded {c : Char} (h : IsUncoded isUserinfoCoded c) :
    isHostChar c = true :=
  of_ascii (P := fun c => isUserinfoCoded c = false → isHostChar c = true) (by decide) h.1 h.2

/-! ### Ports -/

/-- A port as it is written after a host. -/
def portText : Option Nat → List Char
  | some port => ':' :: digits port
  | none => []

/-- A port that is written: it is not the usual one of the scheme. -/
def IsPort (scheme : String) (port : Nat) : Prop :=
  port ≤ 65535 ∧ webPorts.lookup scheme ≠ some port

theorem all_isDigit_digits (n : Nat) : ∀ c ∈ digits n, c.isDigit = true :=
  fun _ hc => isDigit_of_mem_digits hc

theorem readPort_digits {scheme : String} {port : Nat} (h : IsPort scheme port) :
    readPort scheme (digits port) = .ok (some port, []) := by
  have htake := takeWhile_append_of_stop (all_isDigit_digits port) (stops_nil _)
  have hdrop := dropWhile_append_of_stop (all_isDigit_digits port) (stops_nil _)
  rw [List.append_nil] at htake hdrop
  have hne : ¬(digits port).isEmpty = true := by
    rw [List.isEmpty_iff]
    exact digits_ne_nil port
  unfold readPort
  dsimp only
  rw [htake, hdrop, value_digits, if_neg (Nat.not_lt.mpr h.1)]
  dsimp only
  rw [readPort.port, value_digits, if_neg fun hor => hor.elim hne h.2]

/-- What is read as a port is written as one, and leaves nothing but a backslash. -/
theorem isPort_of_readPort {scheme : String} {cs tail : List Char} {port : Option Nat}
    (h : readPort scheme cs = .ok (port, tail)) :
    (∀ n ∈ port, IsPort scheme n) ∧ (tail = [] ∨ '\\' ∈ cs) := by
  unfold readPort at h
  dsimp only at h
  split at h
  · cases h
  · next hvalue =>
    have hport : ∀ n ∈ readPort.port scheme (cs.takeWhile Char.isDigit), IsPort scheme n := by
      intro n hn
      unfold readPort.port at hn
      split at hn
      · cases hn
      · next husual =>
        cases hn
        exact ⟨Nat.not_lt.mp hvalue, fun heq => husual (Or.inr heq)⟩
    split at h
    · next c rest hrest =>
      split at h
      · next hc =>
        cases h
        refine ⟨hport, Or.inr ?_⟩
        have hmem : c ∈ cs.dropWhile Char.isDigit := by
          rw [hrest]
          exact List.mem_cons_self
        rw [← hc]
        exact (List.dropWhile_sublist _).subset hmem
      · cases h
    · next hnil =>
      cases h
      rw [hnil]
      exact ⟨hport, Or.inl rfl⟩

/-! ### Hosts and ports -/

theorem takeHost_append (inside : Bool) (cs : List Char) :
    (takeHost inside cs).1 ++ (takeHost inside cs).2 = cs := by
  induction cs generalizing inside with
  | nil => rfl
  | cons c cs ih =>
    rw [takeHost]
    split
    · rfl
    · dsimp only
      rw [List.cons_append, ih]

/-- Nothing but a colon ends a host. -/
theorem takeHost_stops (inside : Bool) (cs : List Char) :
    Stops (· != ':') (takeHost inside cs).2 := by
  induction cs generalizing inside with
  | nil => exact stops_nil _
  | cons c cs ih =>
    rw [takeHost]
    split
    · next hc =>
      rw [hc.1]
      exact (stops_cons _).mpr rfl
    · exact ih _

/-- On the web there is a host, and a port if there is a colon. -/
theorem readHostAndPort_eq_ok_iff [NameMapping] {scheme : String} (hweb : kindOf scheme = .web)
    {cs hostText after tail : List Char} {host : Host} {port : Option Nat}
    (htake : takeHost false cs = (hostText, after)) :
    readHostAndPort scheme cs = .ok ((host, port), tail) ↔
      hostText ≠ [] ∧ readWebHost hostText = .ok host ∧
        (after = [] ∧ port = none ∧ tail = [] ∨
          ∃ ds, after = ':' :: ds ∧ host ≠ .name [] ∧ readPort scheme ds = .ok (port, tail)) := by
  have hstops : Stops (· != ':') after := by
    have hstops := takeHost_stops false cs
    rwa [htake] at hstops
  unfold readHostAndPort
  rw [hweb, htake]
  by_cases hempty : hostText = []
  · simp [hempty, Kind.isSpecial, bind, Except.bind, throw, throwThe, MonadExceptOf.throw]
  · cases hread : readWebHost hostText with
    | error fault => simp [hempty, hread, Kind.isSpecial, bind, Except.bind]
    | ok found =>
      cases after with
      | nil =>
        simp [hempty, hread, Kind.isSpecial, bind, Except.bind, pure, Except.pure]
        grind
      | cons c ds =>
        obtain rfl : c = ':' := by simpa using (stops_cons _).mp hstops
        by_cases hname : found = .name []
        · simp [hempty, hread, hname, Kind.isSpecial, bind, Except.bind, throw, throwThe,
            MonadExceptOf.throw]
          grind
        · cases hport : readPort scheme ds with
          | error fault =>
            simp [hempty, hread, hname, hport, Kind.isSpecial, bind, Except.bind]
          | ok found' =>
            simp [hempty, hread, hname, hport, Kind.isSpecial, bind, Except.bind, pure,
              Except.pure]
            grind

/-! ### Whole authorities -/

theorem splitLastAt_of_notMem {cs : List Char} (h : '@' ∉ cs) : splitLastAt cs = none :=
  if_neg h

theorem splitLastAt_append {after : List Char} (h : '@' ∉ after) (before : List Char) :
    splitLastAt (before ++ '@' :: after) = some (before, after) := by
  have hafter : ∀ c ∈ after.reverse, (c != '@') = true := by
    intro c hc
    rw [bne_iff_ne]
    rintro rfl
    exact h (List.mem_reverse.mp hc)
  have hsign : Stops (· != '@') ('@' :: before.reverse) := (stops_cons _).mpr rfl
  have htake : (before ++ '@' :: after).reverse.takeWhile (· != '@') = after.reverse := by
    rw [List.reverse_append, List.reverse_cons, List.append_assoc, List.singleton_append]
    exact takeWhile_append_of_stop hafter hsign
  have hlength : (before ++ '@' :: after).length - after.length - 1 = before.length := by
    rw [List.length_append, List.length_cons]
    omega
  unfold splitLastAt
  rw [if_pos (by simp), htake, List.reverse_reverse]
  dsimp only
  rw [hlength, List.take_left]

/-- What stands behind the last at sign is a part of the text. -/
theorem mem_of_splitLastAt {cs before after : List Char} {c : Char}
    (h : (splitLastAt cs).getD ([], cs) = (before, after)) (hc : c ∈ after) : c ∈ cs := by
  unfold splitLastAt at h
  split at h
  · cases h
    exact List.mem_reverse.mp ((List.takeWhile_sublist _).subset (List.mem_reverse.mp hc))
  · cases h
    exact hc

theorem readRegion_eq_ok_iff [NameMapping] {scheme : String} {region before after tail : List Char}
    {a : Authority} (hsplit : (splitLastAt region).getD ([], region) = (before, after)) :
    readRegion scheme region = .ok (a, tail) ↔
      a.userinfo = readUserinfo before ∧
        readHostAndPort scheme after = .ok ((a.host, a.port), tail) ∧
          ¬(a.host = .name [] ∧ a.userinfo ≠ []) := by
  obtain ⟨userinfo, host, port⟩ := a
  unfold readRegion
  rw [hsplit]
  cases hread : readHostAndPort scheme after with
  | error fault => simp [hread, bind, Except.bind]
  | ok found =>
    obtain ⟨⟨host', port'⟩, tail'⟩ := found
    by_cases hlost : host' = .name [] ∧ readUserinfo before ≠ []
    · -- user information without a host is refused
      simp [hread, hlost, bind, Except.bind, throw, throwThe, MonadExceptOf.throw]
      grind
    · simp [hread, hlost, bind, Except.bind, pure, Except.pure]
      grind

/-- An authority that is read back. -/
structure Authority.IsWritten [NameMapping] (scheme : String) (a : Authority) : Prop where
  userinfo : ∃ name password, a.userinfo = joinUserinfo name password
  host : a.host.IsWritten
  port : ∀ n ∈ a.port, IsPort scheme n

/-- What was read is an authority that is read back, and nothing is left of it. -/
theorem isWritten_of_readRegion [NameMapping] {scheme : String} (hweb : kindOf scheme = .web)
    {region tail : List Char} {a : Authority} (hbackslash : '\\' ∉ region)
    (h : readRegion scheme region = .ok (a, tail)) : a.IsWritten scheme ∧ tail = [] := by
  rcases hsplit : (splitLastAt region).getD ([], region) with ⟨before, after⟩
  rcases htake : takeHost false after with ⟨hostText, behind⟩
  obtain ⟨huser, hread, -⟩ := (readRegion_eq_ok_iff hsplit).mp h
  obtain ⟨-, hhost, hport⟩ := (readHostAndPort_eq_ok_iff hweb htake).mp hread
  have hwritten : a.host.IsWritten := isWritten_of_readWebHost hhost
  rcases hport with ⟨-, hnone, htail⟩ | ⟨ds, hcolon, -, hport⟩
  · refine ⟨⟨⟨_, _, huser⟩, hwritten, ?_⟩, htail⟩
    rw [hnone]
    exact fun n hn => by cases hn
  · obtain ⟨hports, htail⟩ := isPort_of_readPort hport
    refine ⟨⟨⟨_, _, huser⟩, hwritten, hports⟩, htail.resolve_right fun hmem => ?_⟩
    -- the digits of the port are a part of the text, which has no backslash
    have happend := takeHost_append false after
    rw [htake, hcolon] at happend
    refine hbackslash (mem_of_splitLastAt hsplit ?_)
    rw [← happend]
    exact List.mem_append_right _ (List.mem_cons_of_mem _ hmem)

theorem isHostChar_of_mem_portText {port : Option Nat} {c : Char} (hc : c ∈ portText port) :
    isHostChar c = true := by
  cases port with
  | none => exact absurd hc List.not_mem_nil
  | some port =>
    rcases List.mem_cons.mp hc with rfl | hc
    · decide
    · exact isHostChar_of_isNameChar (isNameChar_of_mem_digits hc)

variable [NameMapping]

theorem notMem_render_append {h : Host} (hwritten : h.IsWritten) (port : Option Nat) :
    '@' ∉ h.render ++ portText port := by
  intro hmem
  rcases List.mem_append.mp hmem with hmem | hmem
  · exact absurd (hwritten.chars _ hmem) (by decide)
  · exact absurd (isHostChar_of_mem_portText hmem) (by decide)

theorem splitLastAt_render {scheme : String} {a : Authority} (h : a.IsWritten scheme) :
    (splitLastAt a.render).getD ([], a.render) =
      (a.userinfo, a.host.render ++ portText a.port) := by
  have hsign := notMem_render_append h.host a.port
  have hrender : a.render = (if a.userinfo.isEmpty then [] else a.userinfo ++ ['@']) ++
      (a.host.render ++ portText a.port) := List.append_assoc ..
  rw [hrender]
  by_cases hempty : a.userinfo = []
  · rw [if_pos (List.isEmpty_iff.mpr hempty), List.nil_append, splitLastAt_of_notMem hsign, hempty]
    rfl
  · rw [if_neg (by rwa [List.isEmpty_iff]), List.append_assoc, List.singleton_append,
      splitLastAt_append hsign]
    rfl

theorem readRegion_render {scheme : String} (hweb : kindOf scheme = .web) {a : Authority}
    (h : a.IsWritten scheme) : readRegion scheme a.render = .ok (a, []) := by
  have htake : takeHost false (a.host.render ++ portText a.port) =
      (a.host.render, portText a.port) := by
    refine h.host.taken _ ?_
    cases a.port <;> rfl
  have hname : a.host ≠ .name [] := fun hname => h.host.nonempty (by rw [hname]; rfl)
  obtain ⟨name, password, huser⟩ := h.userinfo
  refine (readRegion_eq_ok_iff (splitLastAt_render h)).mpr ⟨?_, ?_, fun hlost => hname hlost.1⟩
  · rw [huser, readUserinfo_joinUserinfo]
  · refine (readHostAndPort_eq_ok_iff hweb htake).mpr ⟨h.host.nonempty, h.host.read, ?_⟩
    cases hport : a.port with
    | none => exact Or.inl ⟨rfl, rfl, rfl⟩
    | some port => exact Or.inr ⟨_, rfl, hname, readPort_digits (h.port port hport)⟩

theorem isHostChar_of_mem_userinfo {scheme : String} {a : Authority} (h : a.IsWritten scheme)
    {c : Char} (hc : c ∈ a.userinfo) : isHostChar c = true := by
  obtain ⟨name, password, huser⟩ := h.userinfo
  rw [huser] at hc
  rcases isUncoded_of_mem_joinUserinfo hc with hc | rfl
  · exact isHostChar_of_isUncoded hc
  · decide

theorem mem_render {scheme : String} {a : Authority} (h : a.IsWritten scheme) {c : Char}
    (hc : c ∈ a.render) : isHostChar c = true ∨ c = '@' := by
  have hrender : a.render = (if a.userinfo.isEmpty then [] else a.userinfo ++ ['@']) ++
      (a.host.render ++ portText a.port) := List.append_assoc ..
  rw [hrender, List.mem_append, List.mem_append] at hc
  rcases hc with hc | hc | hc
  · split at hc
    · exact absurd hc List.not_mem_nil
    · rw [List.mem_append, List.mem_singleton] at hc
      exact hc.imp_left (isHostChar_of_mem_userinfo h)
  · exact Or.inl (h.host.chars c hc)
  · exact Or.inl (isHostChar_of_mem_portText hc)

/-- An authority begins with user information or with a host. -/
theorem exists_render_eq_cons {scheme : String} {a : Authority} (h : a.IsWritten scheme) :
    ∃ c cs, a.render = c :: cs ∧ isHostChar c = true := by
  unfold Authority.render
  cases huser : a.userinfo with
  | cons c cs =>
    refine ⟨c, _, rfl, isHostChar_of_mem_userinfo h ?_⟩
    rw [huser]
    exact List.mem_cons_self
  | nil =>
    obtain ⟨c, cs, hhost⟩ := List.exists_cons_of_ne_nil h.host.nonempty
    refine ⟨c, _, by rw [hhost]; rfl, h.host.chars c ?_⟩
    rw [hhost]
    exact List.mem_cons_self

/-- **An authority is read back**, and ends before a slash. -/
theorem readAuthority_render {scheme : String} (hweb : kindOf scheme = .web) {a : Authority}
    (h : a.IsWritten scheme) (rest : List Char) :
    readAuthority scheme (a.render ++ '/' :: rest) = .ok (a, '/' :: rest) := by
  have hinside : ∀ c ∈ a.render, inAuthority scheme c = true := by
    have hall {c : Char} (hc : isHostChar c = true) : inAuthority scheme c = true := by
      unfold isHostChar at hc
      simp_all [inAuthority, endsAuthority]
    intro c hc
    rcases mem_render h hc with hc | rfl
    · exact hall hc
    · simp [inAuthority, endsAuthority]
  have hslash : Stops (inAuthority scheme) ('/' :: rest) := (stops_cons _).mpr rfl
  rw [readAuthority_eq_ok_iff, takeWhile_append_of_stop hinside hslash,
    dropWhile_append_of_stop hinside hslash]
  refine ⟨fun hlone => ?_, [], readRegion_render hweb h, rfl⟩
  obtain ⟨c, cs, hrender, hc⟩ := exists_render_eq_cons h
  rw [hrender] at hlone
  obtain rfl : c = '@' := (List.cons.inj hlone.1).1
  exact absurd hc (by decide)

end BadgeEntry.Url
