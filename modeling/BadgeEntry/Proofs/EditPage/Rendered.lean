import BadgeEntry.Proofs.EditPage.Extraction
import Mathlib.Order.Nat

/-!
# The tokens of a page

Of a page the usual way to find tokens gives just the first one of a kind, and without any it
reports that.  A page as the site renders it has one of each kind, whatever characters they are
made of: nothing before a token reads as the text that announces it.

## Main definitions

* `TokenAt`, `IsFirstToken` — the tokens of a page, and the first one of a kind.
* `renderedPage` — an edit page as the site renders it.
* `Avoids` — a text that begins nowhere in another.

## Main results

* `extract_of_isFirstToken`, `extract_of_forall_not` — what is found in a page.
* `isFirstToken_csrf`, `isFirstToken_authenticity` — the tokens of a rendered page.
* `Extractor.usual_extract` — **just the first token is found, and its absence reported.**
-/

namespace BadgeEntry.EditPage

open Text

/-! ### The tokens of any page -/

/-- At a place of a page stands the text before a token of a kind, then the token, which is not
empty and has no double quote, and then a double quote. -/
def TokenAt (page : String) (kind : TokenKind) (place : Nat) (token : String) : Prop :=
  BeginsWithToken (opening kind).toList (page.toList.drop place) token.toList

/-- The token of a kind at the first place where there is one. -/
def IsFirstToken (page : String) (kind : TokenKind) (token : String) : Prop :=
  ∃ place, TokenAt page kind place token ∧
    ∀ earlier < place, ∀ other, ¬TokenAt page kind earlier other

theorem getLast?_opening (kind : TokenKind) : (opening kind).toList.getLast? = some '"' := by
  cases kind <;> simp [opening]

theorem usualPattern_eq (kind : TokenKind) :
    usualPattern kind = patternAfter (opening kind).toList :=
  rfl

theorem pattern_usual (kind : TokenKind) :
    TokenPatterns.usual.pattern kind = usualPattern kind := by
  cases kind <;> rfl

variable {page : String} {kind : TokenKind} {token : String}

theorem extract_of_isFirstToken (h : IsFirstToken page kind token) :
    Extractor.usual.extract page kind = (some token, []) := by
  obtain ⟨place, htoken, hfirst⟩ := h
  have hgroup : (usualPattern kind).group? 1 page = some token := by
    rw [usualPattern_eq, group?_of_first (getLast?_opening kind) htoken, String.ofList_toList]
    exact fun earlier hearlier other hother => hfirst earlier hearlier (String.ofList other)
      (by rwa [TokenAt, String.toList_ofList])
  change TokenPatterns.usual.extract page kind = _
  rw [TokenPatterns.extract, pattern_usual, hgroup]

theorem extract_of_forall_not (h : ∀ place token, ¬TokenAt page kind place token) :
    Extractor.usual.extract page kind = (none, [.tokenMissing kind]) := by
  have hgroup : (usualPattern kind).group? 1 page = none := by
    rw [usualPattern_eq]
    exact group?_of_forall_not (getLast?_opening kind) fun place token htoken =>
      h place (String.ofList token) (by rwa [TokenAt, String.toList_ofList])
  change TokenPatterns.usual.extract page kind = _
  rw [TokenPatterns.extract, pattern_usual, hgroup]

/-- If there is a token of a kind, then there is a first one. -/
theorem exists_isFirstToken (h : ∃ place token, TokenAt page kind place token) :
    ∃ first, IsFirstToken page kind first := by
  classical
  obtain ⟨first, hfirst⟩ := Nat.find_spec h
  exact ⟨first, Nat.find h, hfirst, fun earlier hearlier other hother =>
    Nat.find_min h hearlier ⟨other, hother⟩⟩

/-- The usual notation gives the instructions of the usual patterns. -/
theorem exists_read?_usualNotation_eq (kind : TokenKind) :
    ∃ p, Pattern.read? (usualNotation kind) = some p ∧ p.group? = (usualPattern kind).group? := by
  have hcode : (Pattern.read? (usualNotation kind)).map (·.code 0) =
      some ((usualPattern kind).code 0) := by
    cases kind <;> decide +kernel
  obtain ⟨p, hp, hsame⟩ := Option.map_eq_some_iff.mp hcode
  exact ⟨p, hp, Pattern.group?_congr hsame⟩

/-- So patterns that are read from it find the same. -/
theorem exists_read?_usualNotation : ∃ x,
    Extractor.read? (usualNotation .authenticity) (usualNotation .csrf) = some x ∧
      x.extract = Extractor.usual.extract := by
  obtain ⟨p, hp, hgroup⟩ := exists_read?_usualNotation_eq .authenticity
  obtain ⟨q, hq, hgroup'⟩ := exists_read?_usualNotation_eq .csrf
  refine ⟨.ofPatterns ⟨p, q⟩, ?_, ?_⟩
  · rw [Extractor.read?, TokenPatterns.read?, hp, hq]
    rfl
  · funext page kind
    change TokenPatterns.extract ⟨p, q⟩ page kind = TokenPatterns.usual.extract page kind
    cases kind with
    | authenticity => rw [TokenPatterns.extract, TokenPatterns.pattern, hgroup]; rfl
    | csrf => rw [TokenPatterns.extract, TokenPatterns.pattern, hgroup']; rfl

/-! ### Texts that begin nowhere -/

/-- Nowhere in `cs` the text begins, also if it went on in `rest`. -/
def Avoids (text cs rest : List Char) : Prop :=
  ∀ place < cs.length, ¬text <+: cs.drop place ++ rest

section
variable {text cs ds rest : List Char}

theorem Avoids.append (hcs : Avoids text cs (ds ++ rest)) (hds : Avoids text ds rest) :
    Avoids text (cs ++ ds) rest := by
  intro place hplace
  rcases Nat.lt_or_ge place cs.length with hlt | hge
  · rw [List.drop_append_of_le_length (Nat.le_of_lt hlt), List.append_assoc]
    exact hcs place hlt
  · rw [List.drop_append, List.drop_eq_nil_of_le hge, List.nil_append]
    rw [List.length_append] at hplace
    exact hds (place - cs.length) (by omega)

/-- It is enough that the text differs at every place from what stands there, as far as that
goes. -/
theorem avoids_of_differs
    (h : ∀ place < cs.length, ¬text <+: cs.drop place ∧ ¬cs.drop place <+: text)
    (rest : List Char) : Avoids text cs rest := by
  intro place hplace hbegins
  obtain ⟨hshorter, hlonger⟩ := h place hplace
  rcases List.prefix_or_prefix_of_prefix hbegins (List.prefix_append _ rest) with htext | hcs
  · exact hshorter htext
  · exact hlonger hcs

/-- Characters without a quote hide no text that has one, if what stands behind their closing quote
differs. -/
theorem avoids_of_quoted {front : List Char} {c d : Char} (hfront : '"' ∉ front) (hcs : '"' ∉ cs)
    (hne : c ≠ d) : Avoids (front ++ '"' :: c :: text) cs ('"' :: d :: rest) := by
  rintro place - ⟨others, heq⟩
  have hpasses {xs : List Char} (h : '"' ∉ xs) : ∀ x ∈ xs, decide (x ≠ '"') = true :=
    fun x hx => decide_eq_true fun hquote => h (hquote ▸ hx)
  have hstops (xs : List Char) : Stops (fun x => decide (x ≠ '"')) ('"' :: xs) :=
    (stops_cons _).mpr rfl
  have hdrop : '"' ∉ cs.drop place := fun h => hcs (List.mem_of_mem_drop h)
  rw [List.append_assoc] at heq
  have hbehind := congrArg (List.dropWhile fun x => decide (x ≠ '"')) heq
  rw [List.cons_append, dropWhile_append_of_stop (hpasses hfront) (hstops _),
    dropWhile_append_of_stop (hpasses hdrop) (hstops _)] at hbehind
  exact hne (List.cons.inj (List.cons.inj hbehind).2).1

end

/-- A token is the first one if nothing before it announces one. -/
theorem isFirstToken_of_avoids {head after : List Char}
    (hpage : page.toList = head ++ ((opening kind).toList ++ (token.toList ++ '"' :: after)))
    (hne : token ≠ "") (hquote : '"' ∉ token.toList)
    (havoids : Avoids (opening kind).toList head
      ((opening kind).toList ++ (token.toList ++ '"' :: after))) :
    IsFirstToken page kind token := by
  have hne : token.toList ≠ [] := fun h => hne (String.toList_eq_nil_iff.mp h)
  refine ⟨head.length, ⟨hne, hquote, after, ?_⟩, fun earlier hearlier other hother => ?_⟩
  · rw [hpage, List.drop_left]
  · obtain ⟨-, -, others, heq⟩ := hother
    rw [hpage, List.drop_append_of_le_length (Nat.le_of_lt hearlier)] at heq
    exact havoids earlier hearlier ⟨_, heq.symm⟩

/-! ### A rendered page -/

/-- An edit page as the site renders it. -/
def renderedPage (authenticity csrf : String) : String :=
  "<!DOCTYPE html>\n<html><head>\n" ++
  "<meta name=\"csrf-param\" content=\"authenticity_token\" />\n" ++
  "<meta name=\"csrf-token\" content=\"" ++ csrf ++ "\" />\n" ++
  "</head><body>\n" ++
  "<form class=\"edit_project\" action=\"/en/projects/1\" method=\"post\">" ++
  "<input type=\"hidden\" name=\"_method\" value=\"patch\" />" ++
  "<input type=\"hidden\" name=\"authenticity_token\" value=\"" ++ authenticity ++ "\" />" ++
  "</form>\n</body></html>\n"

/-- What stands before the token in the metadata and the text that announces it. -/
def pageHead : String :=
  "<!DOCTYPE html>\n<html><head>\n" ++
  "<meta name=\"csrf-param\" content=\"authenticity_token\" />\n"

/-- What stands between the quote behind that token and the text that announces the other. -/
def pageMiddle : String :=
  " />\n" ++ "</head><body>\n" ++
  "<form class=\"edit_project\" action=\"/en/projects/1\" method=\"post\">" ++
  "<input type=\"hidden\" name=\"_method\" value=\"patch\" />"

/-- What stands behind the quote behind the other token. -/
def pageEnd : String :=
  " />" ++ "</form>\n</body></html>\n"

variable (authenticity csrf : String)

theorem toList_renderedPage : (renderedPage authenticity csrf).toList =
    pageHead.toList ++ ((opening .csrf).toList ++ (csrf.toList ++ '"' :: (pageMiddle.toList ++
      ((opening .authenticity).toList ++ (authenticity.toList ++ '"' :: pageEnd.toList))))) := by
  have hline : "\" />\n".toList = '"' :: " />\n".toList := by simp
  have hfield : "\" />".toList = '"' :: " />".toList := by simp
  unfold renderedPage pageHead pageMiddle pageEnd opening
  simp only [String.toList_append, List.append_assoc]
  rw [hline, hfield]
  rfl

variable {authenticity csrf}

/-- Nothing before the token in the metadata announces it. -/
theorem isFirstToken_csrf (hne : csrf ≠ "") (hquote : '"' ∉ csrf.toList) :
    IsFirstToken (renderedPage authenticity csrf) .csrf csrf := by
  refine isFirstToken_of_avoids (toList_renderedPage authenticity csrf) hne hquote
    (avoids_of_differs ?_ _)
  unfold pageHead opening
  simp only [String.toList_append, String.reduceToList]
  decide +kernel

/-- Nothing before the token in the form announces it, neither the token in the metadata nor what
stands around that one. -/
theorem isFirstToken_authenticity (hne : authenticity ≠ "") (hquote : '"' ∉ authenticity.toList)
    (hcsrf : '"' ∉ csrf.toList) :
    IsFirstToken (renderedPage authenticity csrf) .authenticity authenticity := by
  have hpage := toList_renderedPage authenticity csrf
  have hbefore : ∀ rest, Avoids (opening .authenticity).toList
      (pageHead.toList ++ (opening .csrf).toList) rest := by
    refine avoids_of_differs ?_
    unfold pageHead opening
    simp only [String.toList_append, String.reduceToList]
    decide +kernel
  have hbehind : ∀ rest, Avoids (opening .authenticity).toList ('"' :: pageMiddle.toList) rest := by
    refine avoids_of_differs ?_
    unfold pageMiddle opening
    simp only [String.toList_append, String.reduceToList]
    decide +kernel
  have htoken : ∀ rest, Avoids (opening .authenticity).toList csrf.toList
      ('"' :: (pageMiddle.toList ++ rest)) := by
    intro rest
    obtain ⟨text, htext⟩ : ∃ text, (opening .authenticity).toList =
        "<input type=".toList ++ '"' :: 'h' :: text :=
      ⟨(opening .authenticity).toList.drop 14, by simp [opening]⟩
    obtain ⟨line, hline⟩ : ∃ line, pageMiddle.toList = ' ' :: line := by
      have hspace : " />\n".toList = ' ' :: "/>\n".toList := by simp
      unfold pageMiddle
      rw [String.toList_append, String.toList_append, String.toList_append, hspace]
      exact ⟨_, rfl⟩
    rw [htext, hline]
    exact avoids_of_quoted (by simp) hcsrf (by decide)
  rw [← List.append_assoc, ← List.append_assoc, ← List.cons_append, ← List.append_assoc] at hpage
  refine isFirstToken_of_avoids hpage hne hquote (.append (.append (hbefore _) ?_) (hbehind _))
  exact htoken _

/-! ### What is found -/

/-- **The usual patterns find just the first token** of a kind: the one at the first place where the
text that announces it stands, then characters without a double quote, at least one, and then a
double quote.  Without a token, one warning that names the kind is all there is to report, and
otherwise there is none.  The patterns may as well be given in their notation.  Of a rendered page
both tokens are found, whatever characters they are made of. -/
theorem Extractor.usual_extract :
    (∀ page kind,
      (∀ token, (usual.extract page kind).1 = some token ↔ IsFirstToken page kind token) ∧
      ((usual.extract page kind).1 = none ↔ ∀ place token, ¬TokenAt page kind place token) ∧
      (usual.extract page kind).2 =
        if (usual.extract page kind).1 = none then [.tokenMissing kind] else []) ∧
    (∀ kind, (Event.tokenMissing kind).level = .warn ∧
      (Event.tokenMissing kind).details = [("token", .text kind.name)]) ∧
    (∃ x, read? (usualNotation .authenticity) (usualNotation .csrf) = some x ∧
      x.extract = usual.extract) ∧
    ∀ authenticity csrf, authenticity ≠ "" → '"' ∉ authenticity.toList → csrf ≠ "" →
      '"' ∉ csrf.toList →
      usual.extract (renderedPage authenticity csrf) .authenticity = (some authenticity, []) ∧
      usual.extract (renderedPage authenticity csrf) .csrf = (some csrf, []) := by
  refine ⟨fun page kind => ?_, fun kind => ⟨rfl, rfl⟩, exists_read?_usualNotation,
    fun authenticity csrf hauthenticity hplain hcsrf hquote => ⟨?_, ?_⟩⟩
  · by_cases hexists : ∃ place token, TokenAt page kind place token
    · obtain ⟨first, hfirst⟩ := exists_isFirstToken hexists
      have hfound := extract_of_isFirstToken hfirst
      refine ⟨fun token => ⟨fun h => ?_, fun h => by rw [extract_of_isFirstToken h]⟩, ?_, ?_⟩
      · rw [hfound] at h
        obtain rfl := Option.some.inj h
        exact hfirst
      · rw [hfound]
        refine iff_of_false nofun fun hnone => ?_
        obtain ⟨place, token, htoken⟩ := hexists
        exact hnone place token htoken
      · rw [hfound]
        rfl
    · have hnone : ∀ place token, ¬TokenAt page kind place token :=
        fun place token htoken => hexists ⟨place, token, htoken⟩
      rw [extract_of_forall_not hnone]
      refine ⟨fun token => iff_of_false nofun ?_, iff_of_true rfl hnone, rfl⟩
      rintro ⟨place, htoken, -⟩
      exact hnone place token htoken
  · exact extract_of_isFirstToken (isFirstToken_authenticity hauthenticity hplain hquote)
  · exact extract_of_isFirstToken (isFirstToken_csrf hcsrf hquote)

/-- An empty value is passed over. -/
example : Extractor.usual.extract ("<meta name=\"csrf-token\" content=\"\" />" ++
    "<meta name=\"csrf-token\" content=\"c\" />") .csrf = (some "c", []) := by
  decide +kernel

end BadgeEntry.EditPage
