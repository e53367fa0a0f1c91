import BadgeEntry.Proofs.Site.Sendable
import BadgeEntry.Proofs.Text.Percent
import BadgeEntry.Proofs.Text.Spans
import Mathlib.Data.List.Forall2

/-!
# The login that an answer leaves behind

An answer may set any number of cookies, and have any other fields besides.  The login of the
next request is the one in the first cookie with the right name, among those whose text can be
read: what stands between the equals sign and the first semicolon.  Without such a cookie the
login stays, and there is one warning, which tells whether any other cookie could be read.

## Main definitions

* `Header.IsCalled` — a field has a name, in letters of either case.
* `Header.SetsCookie`, `Header.SetsCookieNamed` — a field sets a cookie with some text, or with
  some name.
* `Header.CarriesLogin` — a field sets a cookie that carries a login under a name.

## Main results

* `Header.setsCookie_iff` — the cookies that are read are those that are set.
* `nextLogin_of_first`, `nextLogin_of_forall_not` — the new login, and the old one.
* `nextLogin_exact` — **the login after an answer, and what is reported.**
-/

namespace BadgeEntry

open Http Text

namespace Http

/-! ### Names of fields -/

/-- A field is called `name`: its bytes are the letters of that name, each in either case. -/
def Header.IsCalled (h : Header) (name : String) : Prop :=
  List.Forall₂ (fun b c => b.toNat = c.toNat ∨ b.toNat = c.toUpper.toNat) h.name name.toList

/-- A small letter in capitals; other characters of ASCII stay. -/
theorem toNat_toUpper {c : Char} (h : c.toNat < 0x80) :
    c.toUpper.toNat = if 0x61 ≤ c.toNat ∧ c.toNat ≤ 0x7A then c.toNat - 0x20 else c.toNat := by
  revert h
  apply of_ascii
  decide

/-- Without regard to case a byte is a character that is not a capital. -/
theorem foldCase_eq_iff {b : UInt8} {c : Char} (hascii : c.toNat < 0x80)
    (hsmall : ¬(0x41 ≤ c.toNat ∧ c.toNat ≤ 0x5A)) :
    foldCase b = UInt8.ofNat c.toNat ↔ b.toNat = c.toNat ∨ b.toNat = c.toUpper.toNat := by
  have hb := b.toNat_lt
  rw [toNat_toUpper hascii, ← UInt8.toNat_inj,
    UInt8.toNat_ofNat_of_lt' (Nat.lt_trans hascii (by decide)), foldCase]
  simp only [UInt8.le_iff_toNat_le, UInt8.toNat_ofNat]
  split
  · rw [UInt8.toNat_add, UInt8.toNat_ofNat]
    split <;> omega
  · split <;> omega

theorem map_foldCase_eq_iff {bytes : List UInt8} {cs : List Char}
    (h : ∀ c ∈ cs, c.toNat < 0x80 ∧ ¬(0x41 ≤ c.toNat ∧ c.toNat ≤ 0x5A)) :
    bytes.map foldCase = cs.map (fun c => UInt8.ofNat c.toNat) ↔
      List.Forall₂ (fun b c => b.toNat = c.toNat ∨ b.toNat = c.toUpper.toNat) bytes cs := by
  induction cs generalizing bytes with
  | nil => simp
  | cons c cs ih =>
    rw [List.forall_mem_cons] at h
    cases bytes with
    | nil => simp
    | cons b bytes =>
      rw [List.map_cons, List.map_cons, List.cons.injEq, List.forall₂_cons, ih h.2,
        foldCase_eq_iff h.1.1 h.1.2]

/-- The fields that set a cookie are found whatever the case of their names. -/
theorem isNamed_setCookie_iff {h : Header} :
    h.isNamed "set-cookie" = true ↔ h.IsCalled "set-cookie" := by
  have hsmall : ∀ c ∈ "set-cookie".toList,
      c.toNat < 0x80 ∧ ¬(0x41 ≤ c.toNat ∧ c.toNat ≤ 0x5A) := by
    simp
  rw [Header.isNamed, beq_iff_eq, encode_of_ascii fun c hc => (hsmall c hc).1]
  exact map_foldCase_eq_iff hsmall

/-! ### Cookies -/

/-- The characters of a value that can be read: the visible ones of ASCII, the space and the
tab. -/
def IsReadableChar (c : Char) : Prop :=
  c = '\t' ∨ ' ' ≤ c ∧ c ≤ '~'

/-- A field of an answer sets a cookie: it has the name of such fields, and its bytes are a text
that can be read. -/
structure Header.SetsCookie (h : Header) (cookie : String) : Prop where
  called : h.IsCalled "set-cookie"
  readable : ∀ c ∈ cookie.toList, IsReadableChar c
  value : h.value = Utf8.encode cookie.toList

/-- A field of an answer sets the cookie called `name`. -/
def Header.SetsCookieNamed (h : Header) (name : String) : Prop :=
  ∃ rest, h.SetsCookie (name ++ "=" ++ rest)

/-- A field of an answer carries a login: it sets the cookie called `name`, whose text has the
login up to its first semicolon. -/
def Header.CarriesLogin (h : Header) (name login : String) : Prop :=
  ∃ attributes, h.SetsCookie (name ++ "=" ++ login ++ attributes) ∧ ';' ∉ login.toList ∧
    (attributes = "" ∨ ∃ rest, attributes = ";" ++ rest)

instance : DecidablePred IsReadableChar :=
  fun _ => inferInstanceAs (Decidable (_ ∨ _ ∧ _))

theorem IsReadableChar.toNat_lt {c : Char} (h : IsReadableChar c) : c.toNat < 0x80 := by
  rcases h with rfl | ⟨-, hhigh⟩
  · decide
  · have hle : c.toNat ≤ 0x7E := hhigh
    omega

/-- Whether a byte can be read. -/
def isReadableByte (b : UInt8) : Bool :=
  b == 0x09 || (0x20 ≤ b.toNat && b.toNat < 0x7F)

/-- A character of ASCII can be read just if its byte can. -/
theorem isReadableByte_iff {c : Char} (h : c.toNat < 0x80) :
    isReadableByte (UInt8.ofNat c.toNat) = true ↔ IsReadableChar c := by
  revert h
  apply of_ascii
  decide

/-- A byte that can be read is that of a character of ASCII. -/
theorem exists_ascii_of_isReadableByte {b : UInt8} (h : isReadableByte b = true) :
    (Char.ofNat b.toNat).toNat = b.toNat ∧ b.toNat < 0x80 := by
  have hlow : b.toNat < 0x80 := by
    simp only [isReadableByte, Bool.or_eq_true, beq_iff_eq, Bool.and_eq_true,
      decide_eq_true_eq] at h
    rcases h with rfl | ⟨-, hhigh⟩
    · decide
    · omega
  refine ⟨?_, hlow⟩
  have hvalid : b.toNat.isValidChar := Or.inl (by omega)
  rw [Char.ofNat, dif_pos hvalid]
  rfl

/-- A value is read as the text whose bytes it holds, if all of that can be read. -/
theorem Header.text?_eq_some_iff {h : Header} {text : String} : h.text? = some text ↔
    (∀ c ∈ text.toList, IsReadableChar c) ∧ h.value = Utf8.encode text.toList := by
  have htext : h.text? = if h.value.all isReadableByte then
      some (String.ofList (h.value.map fun b => Char.ofNat b.toNat)) else none := rfl
  rw [htext]
  constructor
  · intro hsome
    obtain ⟨hall, hsome⟩ := Option.ite_none_right_eq_some.mp hsome
    obtain rfl := Option.some.inj hsome
    have hbytes := List.all_eq_true.mp hall
    have hreadable : ∀ c ∈ h.value.map (fun b => Char.ofNat b.toNat), IsReadableChar c := by
      rw [List.forall_mem_map]
      intro b hb
      obtain ⟨hsame, hlow⟩ := exists_ascii_of_isReadableByte (hbytes b hb)
      rw [← isReadableByte_iff (by omega), hsame, UInt8.ofNat_toNat]
      exact hbytes b hb
    have hsame : ∀ b ∈ h.value, UInt8.ofNat (Char.ofNat b.toNat).toNat = b := by
      intro b hb
      rw [(exists_ascii_of_isReadableByte (hbytes b hb)).1, UInt8.ofNat_toNat]
    rw [String.toList_ofList, encode_of_ascii fun c hc => (hreadable c hc).toNat_lt, List.map_map]
    exact ⟨hreadable, ((List.map_congr_left hsame).trans (List.map_id _)).symm⟩
  · rintro ⟨hreadable, hvalue⟩
    have hascii := fun c hc => (hreadable c hc).toNat_lt
    rw [encode_of_ascii hascii] at hvalue
    have hall : h.value.all isReadableByte = true := by
      rw [hvalue, List.all_map, List.all_eq_true]
      exact fun c hc => (isReadableByte_iff (hascii c hc)).mpr (hreadable c hc)
    have hsame : ∀ c ∈ text.toList, Char.ofNat (UInt8.ofNat c.toNat).toNat = c := by
      intro c hc
      have hlow : c.toNat < 256 := Nat.lt_trans (hascii c hc) (by decide)
      rw [UInt8.toNat_ofNat_of_lt' hlow, Char.ofNat_toNat]
    rw [if_pos hall, hvalue, List.map_map]
    refine congrArg some ?_
    refine Eq.trans ?_ (String.ofList_toList (s := text))
    exact congrArg String.ofList ((List.map_congr_left hsame).trans (List.map_id _))

/-- **The cookies that are read are those that are set.** -/
theorem Header.setsCookie_iff {h : Header} {cookie : String} :
    h.SetsCookie cookie ↔ h.isNamed "set-cookie" = true ∧ h.text? = some cookie := by
  rw [isNamed_setCookie_iff, Header.text?_eq_some_iff]
  exact ⟨fun h => ⟨h.called, h.readable, h.value⟩, fun h => ⟨h.1, h.2.1, h.2.2⟩⟩

theorem textsOf_append (name : String) (headers others : List Header) :
    textsOf name (headers ++ others) = textsOf name headers ++ textsOf name others := by
  simp [textsOf]

variable {headers : List Header} {h : Header} {cookie name : String}

theorem mem_textsOf_setCookie :
    cookie ∈ textsOf "set-cookie" headers ↔ ∃ h ∈ headers, h.SetsCookie cookie := by
  simp [textsOf, Header.setsCookie_iff, and_assoc]

/-- A cookie that is set is the next one that is read. -/
theorem Header.SetsCookie.textsOf_cons (hset : h.SetsCookie cookie) (headers : List Header) :
    textsOf "set-cookie" (h :: headers) = cookie :: textsOf "set-cookie" headers := by
  obtain ⟨hnamed, htext⟩ := Header.setsCookie_iff.mp hset
  simp [textsOf, hnamed, htext]

/-- A field of another name adds nothing to the cookies. -/
theorem textsOf_cons_of_not_called (hother : ¬h.IsCalled "set-cookie") (headers : List Header) :
    textsOf "set-cookie" (h :: headers) = textsOf "set-cookie" headers := by
  have hnamed : h.isNamed "set-cookie" = false := by
    rwa [← isNamed_setCookie_iff, Bool.not_eq_true] at hother
  simp [textsOf, hnamed]

end Http

/-! ### The login of a cookie -/

namespace Session

variable {headers before after : List Header} {h : Header} {name cookie login current : String}

/-- A text has a first part without a semicolon, with one behind it or nothing. -/
theorem exists_eq_append_semicolon (cs : List Char) : ∃ login attributes,
    cs = login ++ attributes ∧ ';' ∉ login ∧
      (attributes = [] ∨ ∃ rest, attributes = ';' :: rest) := by
  by_cases hmem : ';' ∈ cs
  · obtain ⟨login, rest, rfl, hlogin⟩ := List.eq_append_cons_of_mem hmem
    exact ⟨login, ';' :: rest, rfl, hlogin, Or.inr ⟨rest, rfl⟩⟩
  · exact ⟨cs, [], (List.append_nil cs).symm, hmem, Or.inl rfl⟩

theorem beforeSemicolon_append {cs attributes : List Char} (hcs : ';' ∉ cs)
    (hattributes : attributes = [] ∨ ∃ rest, attributes = ';' :: rest) :
    beforeSemicolon (cs ++ attributes) = cs := by
  have hpassed : ∀ c ∈ cs, (c != ';') = true := by
    intro c hc
    rw [bne_iff_ne]
    rintro rfl
    exact hcs hc
  apply takeWhile_append_of_stop hpassed
  rcases hattributes with rfl | ⟨rest, rfl⟩
  · exact stops_nil _
  · exact (stops_cons _).mpr (by decide)

theorem notMem_beforeSemicolon (cs : List Char) : ';' ∉ beforeSemicolon cs := by
  obtain ⟨login, attributes, rfl, hlogin, hends⟩ := exists_eq_append_semicolon cs
  rwa [beforeSemicolon_append hlogin hends]

/-- A field that sets the cookie of a name carries a login. -/
theorem exists_carriesLogin (hset : h.SetsCookieNamed name) :
    ∃ login, h.CarriesLogin name login := by
  obtain ⟨rest, hset⟩ := hset
  obtain ⟨login, attributes, hrest, hlogin, hends⟩ := exists_eq_append_semicolon rest.toList
  have hsplit : rest = String.ofList login ++ String.ofList attributes := by
    rw [← String.ofList_append, ← hrest, String.ofList_toList]
  refine ⟨String.ofList login, String.ofList attributes, ?_, ?_, ?_⟩
  · rwa [hsplit, ← String.append_assoc] at hset
  · rwa [String.toList_ofList]
  · rcases hends with rfl | ⟨others, rfl⟩
    · exact Or.inl rfl
    · refine Or.inr ⟨String.ofList others, ?_⟩
      rw [← List.singleton_append, String.ofList_append]

/-- A field that carries a login sets a cookie, and the login is read from it. -/
theorem exists_cookieLogin (hlogin : h.CarriesLogin name login) :
    ∃ cookie, h.SetsCookie cookie ∧ cookieLogin? name cookie = some login := by
  obtain ⟨attributes, hset, hsemicolon, hends⟩ := hlogin
  refine ⟨_, hset, cookieLogin?_eq_some_iff.mpr ⟨login.toList ++ attributes.toList, ?_, ?_⟩⟩
  · simp only [String.toList_append, List.append_assoc]
  · rw [beforeSemicolon_append hsemicolon, String.ofList_toList]
    rcases hends with rfl | ⟨rest, rfl⟩
    · exact Or.inl rfl
    · exact Or.inr ⟨rest.toList, by simp⟩

/-- No login is read from a cookie of another name. -/
theorem cookieLogin?_of_not (hset : h.SetsCookie cookie) (hnot : ¬h.SetsCookieNamed name) :
    cookieLogin? name cookie = none := by
  rw [Option.eq_none_iff_forall_ne_some]
  intro login hlogin
  obtain ⟨rest, hrest, -⟩ := cookieLogin?_eq_some_iff.mp hlogin
  have hcookie : cookie = name ++ "=" ++ String.ofList rest := by
    rw [← String.toList_inj, hrest, eq_comm, String.toList_append, String.toList_ofList]
  exact hnot ⟨String.ofList rest, hcookie ▸ hset⟩

/-! ### The next login -/

theorem nextLogin_of_findSome?
    (h : (textsOf "set-cookie" headers).findSome? (cookieLogin? name) = some login) :
    nextLogin headers name current = (login, []) := by
  unfold nextLogin
  split
  · next hnone =>
    rw [hnone] at h
    cases h
  · rw [h]

/-- **The first cookie of a name has the next login.** -/
theorem nextLogin_of_first (hbefore : ∀ e ∈ before, ¬e.SetsCookieNamed name)
    (hlogin : h.CarriesLogin name login) :
    nextLogin (before ++ h :: after) name current = (login, []) := by
  obtain ⟨cookie, hset, hcookie⟩ := exists_cookieLogin hlogin
  have hpassed : (textsOf "set-cookie" before).findSome? (cookieLogin? name) = none := by
    rw [List.findSome?_eq_none_iff]
    intro other hother
    obtain ⟨e, he, hset⟩ := mem_textsOf_setCookie.mp hother
    exact cookieLogin?_of_not hset (hbefore e he)
  apply nextLogin_of_findSome?
  rw [textsOf_append, hset.textsOf_cons, List.findSome?_append, hpassed, List.findSome?_cons,
    hcookie]
  rfl

/-- If there is a cookie of the name, then a login is read, and it has no semicolon. -/
theorem exists_nextLogin_eq (hmem : h ∈ headers) (hset : h.SetsCookieNamed name) :
    ∃ login, nextLogin headers name current = (login, []) ∧ ';' ∉ login.toList := by
  obtain ⟨_, hlogin⟩ := exists_carriesLogin hset
  obtain ⟨cookie, hset, hcookie⟩ := exists_cookieLogin hlogin
  have hsome : ((textsOf "set-cookie" headers).findSome? (cookieLogin? name)).isSome := by
    rw [List.findSome?_isSome_iff]
    exact ⟨cookie, mem_textsOf_setCookie.mpr ⟨h, hmem, hset⟩, by rw [hcookie]; rfl⟩
  obtain ⟨login, hfound⟩ := Option.isSome_iff_exists.mp hsome
  obtain ⟨_, -, hread⟩ := List.exists_of_findSome?_eq_some hfound
  obtain ⟨rest, -, rfl⟩ := cookieLogin?_eq_some_iff.mp hread
  refine ⟨_, nextLogin_of_findSome? hfound, ?_⟩
  rw [String.toList_ofList]
  exact notMem_beforeSemicolon rest

/-- **Without a cookie of the name the login stays.** -/
theorem nextLogin_of_forall_not (hnot : ∀ h ∈ headers, ¬h.SetsCookieNamed name) :
    nextLogin headers name current = (current, [if textsOf "set-cookie" headers = [] then
      .noCookie else .otherCookie name]) := by
  have hnone : (textsOf "set-cookie" headers).findSome? (cookieLogin? name) = none := by
    rw [List.findSome?_eq_none_iff]
    intro cookie hcookie
    obtain ⟨h, hmem, hset⟩ := mem_textsOf_setCookie.mp hcookie
    exact cookieLogin?_of_not hset (hnot h hmem)
  unfold nextLogin
  split
  · next hcookies => rw [if_pos hcookies]
  · next hcookies => rw [hnone, if_neg hcookies]

/-- A field of another name than those that set a cookie makes no difference. -/
theorem nextLogin_of_not_called (hother : ¬h.IsCalled "set-cookie") :
    nextLogin (before ++ h :: after) name current = nextLogin (before ++ after) name current := by
  have htexts : textsOf "set-cookie" (before ++ h :: after) =
      textsOf "set-cookie" (before ++ after) := by
    rw [textsOf_append, textsOf_cons_of_not_called hother, textsOf_append]
  unfold nextLogin
  rw [htexts]

/-- A cookie of another name is not one of this name. -/
theorem not_setsCookieNamed_of_ne {other value : String}
    (hset : h.SetsCookie (other ++ "=" ++ value)) (hother : '=' ∉ other.toList)
    (hname : '=' ∉ name.toList) (hne : other ≠ name) : ¬h.SetsCookieNamed name := by
  rintro ⟨rest, hsame⟩
  have htexts := (Header.setsCookie_iff.mp hset).2.symm.trans (Header.setsCookie_iff.mp hsame).2
  have hcookies := congrArg String.toList (Option.some.inj htexts)
  have hsign : "=".toList = ['='] := rfl
  simp only [String.toList_append, hsign, List.append_assoc, List.singleton_append] at hcookies
  -- both names stand before the first equals sign
  have hfront : ∀ {front rest : List Char}, '=' ∉ front →
      (front ++ '=' :: rest).takeWhile (· != '=') = front := by
    intro front rest hfront
    refine takeWhile_append_of_stop (fun c hc => ?_) ((stops_cons _).mpr (by decide))
    rw [bne_iff_ne]
    rintro rfl
    exact hfront hc
  have hnames := congrArg (List.takeWhile (· != '=')) hcookies
  rw [hfront hother, hfront hname] at hnames
  exact hne (String.toList_inj.mp hnames)

/-- **The login after an answer.**  The first field that sets the cookie of a name has the next
login: what stands behind the equals sign up to the first semicolon, or all of it.  Nothing is
reported then.  If there is none, the login stays and there is just one warning: that there is no
cookie, or that there is another one, whichever is the case.  Cookies of other names, and values
that cannot be read, are passed over, and fields of other names make no difference. -/
theorem nextLogin_exact (headers : List Header) (name current : String) :
    (∀ before h after login, headers = before ++ h :: after →
      (∀ e ∈ before, ¬e.SetsCookieNamed name) → h.CarriesLogin name login →
      nextLogin headers name current = (login, [])) ∧
    ((∃ h ∈ headers, h.SetsCookieNamed name) →
      ∃ login, nextLogin headers name current = (login, []) ∧ ';' ∉ login.toList) ∧
    ((∀ h ∈ headers, ¬h.SetsCookieNamed name) →
      ∃ event, nextLogin headers name current = (current, [event]) ∧ event.level = .warn ∧
        ((event = .otherCookie name ∧ ∃ h ∈ headers, ∃ cookie, h.SetsCookie cookie) ∨
          (event = .noCookie ∧ ∀ h ∈ headers, ∀ cookie, ¬h.SetsCookie cookie))) ∧
    (∀ before h after, headers = before ++ h :: after → ¬h.IsCalled "set-cookie" →
      nextLogin headers name current = nextLogin (before ++ after) name current) ∧
    (∀ (h : Header) (other value : String), h.SetsCookie (other ++ "=" ++ value) →
      '=' ∉ other.toList → '=' ∉ name.toList → other ≠ name → ¬h.SetsCookieNamed name) := by
  refine ⟨?first, ?found, ?none, ?others, ?names⟩
  case first =>
    rintro before h after login rfl hbefore hlogin
    exact nextLogin_of_first hbefore hlogin
  case found =>
    rintro ⟨h, hmem, hset⟩
    exact exists_nextLogin_eq hmem hset
  case none =>
    intro hnot
    by_cases hcookies : textsOf "set-cookie" headers = []
    · refine ⟨.noCookie, ?_, rfl, Or.inr ⟨rfl, fun h hmem cookie hset => ?_⟩⟩
      · rw [nextLogin_of_forall_not hnot, if_pos hcookies]
      · have hread := mem_textsOf_setCookie.mpr ⟨h, hmem, hset⟩
        rw [hcookies] at hread
        cases hread
    · obtain ⟨cookie, hcookie⟩ := List.exists_mem_of_ne_nil _ hcookies
      refine ⟨.otherCookie name, ?_, rfl, Or.inl ⟨rfl, ?_⟩⟩
      · rw [nextLogin_of_forall_not hnot, if_neg hcookies]
      · obtain ⟨h, hmem, hset⟩ := mem_textsOf_setCookie.mp hcookie
        exact ⟨h, hmem, cookie, hset⟩
  case others =>
    rintro before h after rfl hother
    exact nextLogin_of_not_called hother
  case names =>
    intro h other value hset hother hname hne
    exact not_setsCookieNamed_of_ne hset hother hname hne

/-- A field of an answer, from its name and its value. -/
def fieldOf (name value : String) : Header :=
  ⟨Utf8.encode name.toList, Utf8.encode value.toList⟩

/-- The fields of an answer that sets three cookies: one that is not ASCII, one with a longer name,
and a login. -/
def rotatingFields : List Header :=
  [fieldOf "Content-Type" "text/html", fieldOf "SET-COOKIE" "_BadgeApp_session=\u00E9",
    fieldOf "set-cookie" "_BadgeApp_session_v2=x; path=/",
    fieldOf "Set-Cookie" "_BadgeApp_session=NEW; path=/"]

theorem nextLogin_rotatingFields :
    nextLogin rotatingFields "_BadgeApp_session" "old" = ("NEW", []) := by
  have hread : (rotatingFields.take 3).all fun e =>
      !(e.isNamed "set-cookie" && (e.text?.bind (cookieLogin? "_BadgeApp_session")).isSome) := by
    decide
  have hnot : ∀ e ∈ rotatingFields.take 3, ¬e.SetsCookieNamed "_BadgeApp_session" := by
    intro e he hset
    obtain ⟨login, hlogin⟩ := exists_carriesLogin hset
    obtain ⟨cookie, hset, hcookie⟩ := exists_cookieLogin hlogin
    obtain ⟨hnamed, htext⟩ := Header.setsCookie_iff.mp hset
    have hunread := List.all_eq_true.mp hread e he
    simp [hnamed, htext, hcookie] at hunread
  refine (nextLogin_exact rotatingFields "_BadgeApp_session" "old").1 (rotatingFields.take 3)
    (fieldOf "Set-Cookie" "_BadgeApp_session=NEW; path=/") [] "NEW" rfl hnot ?_
  refine ⟨"; path=/", Header.setsCookie_iff.mpr ⟨?_, ?_⟩, ?_, ?_⟩
  · decide
  · decide
  · decide
  · exact Or.inr ⟨" path=/", rfl⟩

end Session

end BadgeEntry
