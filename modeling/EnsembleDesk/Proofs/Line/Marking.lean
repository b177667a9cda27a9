import EnsembleDesk.Line.Refinement
import EnsembleDesk.Proofs.Line.Arguments
/-!
# How refinement marks tokens

Refinement gives some tokens other kinds, the marks, one operation after the other. A `Marking` says
how tokens are marked, by their places. Which marks an operation sets is told by the texts of the
tokens, and never by their kinds (`MarksAt`), so that an operation done twice is done once
(`MarksAt.apply_apply`). What an argument marks is at its own places (`MarksAt.refineArguments`).
-/

namespace EnsembleDesk

/-- Whether refinement marks tokens with the kind. -/
def TokenKind.isMark : TokenKind → Bool
  | .invalid | .warning | .constant | .number => true
  | _ => false

/-- Whether arguments are marked with the kind. -/
def TokenKind.isArgumentMark : TokenKind → Bool
  | .invalid | .constant | .number => true
  | _ => false

/-- The marks of arguments are among those of refinement. -/
theorem TokenKind.isMark_of_isArgumentMark {kind : TokenKind} (h : kind.isArgumentMark = true) :
    kind.isMark = true := by
  revert h
  cases kind <;> decide

/-- The value of a parameter is marked as arguments are. -/
theorem Parameter.isArgumentMark_of_valueKind? {parameter : Parameter} {value : String}
    {kind : TokenKind} (h : parameter.valueKind? value = some kind) :
    kind.isArgumentMark = true := by
  unfold Parameter.valueKind? at h
  split at h
  · cases h
    split <;> rfl
  · split at h
    · cases h
      split <;> rfl
    · cases h

/-- A kind that refinement marks tokens with. -/
abbrev Mark := { kind : TokenKind // kind.isMark = true }

namespace Mark

/-- Refinement makes nothing a delimiter. -/
theorem ne_delimiter (mark : Mark) : mark.val ≠ .delimiter := by
  obtain ⟨kind, hmark⟩ := mark
  revert hmark
  cases kind <;> decide

/-- What is marked carries meaning. -/
theorem significant (mark : Mark) : mark.val.significant = true := by
  obtain ⟨kind, hmark⟩ := mark
  revert hmark
  cases kind <;> decide

end Mark

/-- The marks of the tokens at some places. -/
abbrev Marking := Nat → Option Mark

namespace Marking

/-- A token with the kind that its place is marked with. -/
def mark (marks : Marking) (place : Nat) (token : Token) : Token :=
  { token with kind := ((marks place).map Subtype.val).getD token.kind }

/-- Tokens with the kinds that their places are marked with. -/
def applyAll (marks : Marking) (tokens : List Token) : List Token := tokens.mapIdx marks.mark

/-- A token at a place with the kind that the place is marked with. -/
def apply (marks : Marking) (entry : Token × Nat) : Token × Nat :=
  (marks.mark entry.2 entry.1, entry.2)

variable {marks others : Marking} {tokens : List Token} {token next : Token} {place other : Nat}
  {text : String}

/-- Whether tokens adjoin does not depend on their marks. -/
@[simp]
theorem adjoins_mark :
    (marks.mark place token).adjoins (marks.mark other next) = token.adjoins next := rfl

/-- Tokens are marked one by one. -/
theorem map_apply_cons {rest : List (Token × Nat)} :
    ((token, place) :: rest).map marks.apply =
      (marks.mark place token, place) :: rest.map marks.apply := rfl

/-- A token at a place without a mark stays what it is. -/
theorem mark_of_none (h : marks place = none) : marks.mark place token = token := by
  rw [mark, h]
  rfl

/-- A token that is marked is no delimiter any more. -/
theorem isDelimiter_mark_of_ne_none (h : marks place ≠ none) :
    (marks.mark place token).isDelimiter text = false := by
  obtain ⟨mark, hmark⟩ := Option.ne_none_iff_exists'.1 h
  refine LineParts.isDelimiter_of_kind ?_
  rw [Marking.mark, hmark]
  exact mark.ne_delimiter

/-- No token becomes a delimiter. -/
theorem isDelimiter_mark (h : token.isDelimiter text = false) :
    (marks.mark place token).isDelimiter text = false := by
  by_cases hmark : marks place = none
  · rwa [mark_of_none hmark]
  · exact isDelimiter_mark_of_ne_none hmark

/-- A marked token carries meaning. -/
theorem significant_mark (h : marks place ≠ none) :
    (marks.mark place token).significant = true := by
  obtain ⟨mark, hmark⟩ := Option.ne_none_iff_exists'.1 h
  rw [Token.significant, Marking.mark, hmark]
  exact mark.significant

/-- Marked tokens stand at the places where they stood before. -/
theorem zipIdx_applyAll : (marks.applyAll tokens).zipIdx = tokens.zipIdx.map marks.apply := by
  refine List.ext_getElem? fun place => ?_
  rw [List.getElem?_zipIdx, applyAll, List.getElem?_mapIdx, List.getElem?_map, List.getElem?_zipIdx]
  cases tokens[place]? <;> simp [apply]

/-- Without marks all tokens stay what they are. -/
theorem applyAll_none (tokens : List Token) : applyAll (fun _ => none) tokens = tokens := by
  refine List.ext_getElem? fun place => ?_
  rw [applyAll, List.getElem?_mapIdx]
  cases tokens[place]? <;> rfl

/-- One kind that is set later is a mark that goes before the others. -/
theorem setKind_applyAll (place : Nat) (kind : Mark) :
    setKind (marks.applyAll tokens) place kind.val =
      applyAll (Function.update marks place (some kind)) tokens := by
  refine List.ext_getElem? fun other => ?_
  rw [setKind, List.getElem?_modify, applyAll, applyAll, List.getElem?_mapIdx, List.getElem?_mapIdx]
  by_cases h : other = place
  · subst h
    cases tokens[other]? <;> simp [mark]
  · cases tokens[other]? <;> simp [mark, h, Ne.symm h]

/-- Tokens that are marked carry meaning, so marks change nothing of which tokens do. -/
theorem filter_significant_applyAll
    (hmarks : ∀ entry ∈ tokens.zipIdx, marks entry.2 ≠ none → entry.1.significant = true) :
    (marks.applyAll tokens).zipIdx.filter (·.1.significant) =
      (tokens.zipIdx.filter (·.1.significant)).map marks.apply := by
  rw [zipIdx_applyAll, List.filter_map]
  congr 1
  refine List.filter_congr fun entry hentry => ?_
  by_cases hmark : marks entry.2 = none
  · rw [Function.comp_apply, apply, mark_of_none hmark]
  · exact (significant_mark hmark).trans (hmarks entry hentry hmark).symm

/-- Parentheses that are never closed are marked as invalid in turn. -/
theorem foldl_setKind_applyAll (marks : Marking) (places : List Nat) :
    ∃ after : Marking, places.foldl (fun marked place => setKind marked place .invalid)
        (marks.applyAll tokens) = after.applyAll tokens ∧
      ∀ place, after place ≠ none ↔ place ∈ places ∨ marks place ≠ none := by
  induction places generalizing marks with
  | nil => exact ⟨marks, rfl, fun place => by simp⟩
  | cons first places ih =>
    obtain ⟨after, hafter, hplaces⟩ := ih (Function.update marks first (some ⟨.invalid, rfl⟩))
    refine ⟨after, ?_, fun place => ?_⟩
    · rw [List.foldl_cons, ← hafter, ← setKind_applyAll]
    · rw [hplaces]
      by_cases h : place = first <;> simp [h]

/-- Of two marks the later one counts. -/
theorem applyAll_applyAll :
    others.applyAll (marks.applyAll tokens) =
      applyAll (fun place => (others place).or (marks place)) tokens := by
  refine List.ext_getElem? fun place => ?_
  simp only [applyAll, List.getElem?_mapIdx, Option.map_map]
  congr 1
  funext token
  simp only [Function.comp_apply, mark]
  cases others place <;> rfl

/-- Marking again changes nothing. -/
theorem applyAll_twice : marks.applyAll (marks.applyAll tokens) = marks.applyAll tokens := by
  rw [applyAll_applyAll]
  congr 1
  funext place
  exact Option.or_self

/-- Marks change no text. -/
theorem textAt_applyAll : textAt (marks.applyAll tokens) = textAt tokens := by
  funext place
  simp only [textAt, applyAll, List.getElem?_mapIdx, Option.map_map]
  rfl

/-- Marks make no delimiter. -/
theorem isDelimiter_map_apply (marks : Marking) {placed : List (Token × Nat)} {text : String}
    (h : ∀ entry ∈ placed, entry.1.isDelimiter text = false) :
    ∀ entry ∈ placed.map marks.apply, entry.1.isDelimiter text = false :=
  List.forall_mem_map.2 fun entry hentry => isDelimiter_mark (h entry hentry)

end Marking

/-- Where the texts of tokens are given, an operation marks the tokens in one way, and only at some
of the places. -/
def MarksAt (places : List Nat) (text : Nat → String)
    (operation : List Token → List Token) : Prop :=
  ∃ marks : Marking, (∀ place, marks place ≠ none → place ∈ places) ∧
    ∀ tokens, textAt tokens = text → operation tokens = marks.applyAll tokens

namespace MarksAt

variable {places : List Nat} {text : Nat → String} {first second : List Token → List Token}

/-- Doing nothing marks nothing. -/
theorem unmarked : MarksAt places text fun tokens => tokens :=
  ⟨fun _ => none, fun _ h => absurd rfl h, fun tokens _ => (Marking.applyAll_none tokens).symm⟩

/-- To set the kind of one token is to mark its place. -/
theorem setKind {place : Nat} (hplace : place ∈ places) {kind : TokenKind}
    (hkind : kind.isMark = true) : MarksAt places text (setKind · place kind) := by
  refine ⟨Function.update (fun _ => none) place (some ⟨kind, hkind⟩), fun other hother => ?_,
    fun tokens _ => ?_⟩
  · by_cases hsame : other = place
    · exact hsame ▸ hplace
    · exact absurd (Function.update_of_ne hsame _ _) hother
  · rw [← Marking.setKind_applyAll, Marking.applyAll_none]

/-- To make one token invalid is to mark its place. -/
theorem invalid {place : Nat} (hplace : place ∈ places) :
    MarksAt places text (EnsembleDesk.setKind · place .invalid) :=
  MarksAt.setKind hplace rfl

/-- Operations that mark one after the other mark together. -/
theorem comp (hsecond : MarksAt places text second) (hfirst : MarksAt places text first) :
    MarksAt places text fun tokens => second (first tokens) := by
  obtain ⟨others, hotherPlaces, hothers⟩ := hsecond
  obtain ⟨marks, hplaces, hmarks⟩ := hfirst
  refine ⟨fun place => (others place).or (marks place), fun place hplace => ?_,
    fun tokens htext => ?_⟩
  · by_cases hother : others place = none
    · exact hplaces place fun hmark => hplace (Option.or_eq_none_iff.2 ⟨hother, hmark⟩)
    · exact hotherPlaces place hother
  · beta_reduce
    rw [hmarks tokens htext, hothers _ (Marking.textAt_applyAll.trans htext),
      Marking.applyAll_applyAll]

/-- What depends on the texts may be decided before. -/
theorem congr (h : MarksAt places text second)
    (hsame : ∀ tokens, textAt tokens = text → first tokens = second tokens) :
    MarksAt places text first := by
  obtain ⟨marks, hplaces, hmarks⟩ := h
  exact ⟨marks, hplaces, fun tokens htext => (hsame tokens htext).trans (hmarks tokens htext)⟩

/-- Marking tokens again changes nothing. -/
theorem apply_apply {tokens : List Token} (h : MarksAt places (textAt tokens) first) :
    first (first tokens) = first tokens := by
  obtain ⟨marks, -, hmarks⟩ := h
  rw [hmarks tokens rfl, hmarks _ Marking.textAt_applyAll, Marking.applyAll_twice]

/-- The token at another place is not marked. -/
theorem getElem?_of_not_mem {tokens : List Token} (h : MarksAt places (textAt tokens) first)
    {place : Nat} (hplace : place ∉ places) : (first tokens)[place]? = tokens[place]? := by
  obtain ⟨marks, hplaces, hmarks⟩ := h
  have hnone : marks place = none := by
    by_contra hmark
    exact hplace (hplaces place hmark)
  rw [hmarks tokens rfl, Marking.applyAll, List.getElem?_mapIdx]
  cases tokens[place]? <;> simp [Marking.mark_of_none hnone]

/-- A positional argument is refined by marking its place. -/
theorem refinePositional (parameter : Parameter) {place : Nat} (hplace : place ∈ places) :
    MarksAt places text (refinePositional parameter place) := by
  by_cases hfits : parameter.fits (text place) = true
  · refine unmarked.congr fun tokens htext => ?_
    rw [EnsembleDesk.refinePositional, htext, if_pos hfits]
  · refine (invalid hplace).congr fun tokens htext => ?_
    rw [EnsembleDesk.refinePositional, htext, if_neg hfits]

/-- A named argument is refined by marking its name and its value. -/
theorem refineNamed (keyword : Keyword) {name : Nat} {value : Option Nat}
    (hplaces : ∀ place ∈ name :: value.toList, place ∈ places) :
    MarksAt places text (refineNamed keyword name value) := by
  -- the texts decide which of the branches is taken, for all such tokens alike
  cases hparameter : (keyword.parameter? (text name)).filter (·.named) with
  | none =>
    refine (invalid (hplaces name List.mem_cons_self)).congr fun tokens htext => ?_
    simp only [EnsembleDesk.refineNamed, htext, hparameter]
  | some parameter =>
    cases value with
    | none =>
      refine unmarked.congr fun tokens htext => ?_
      simp only [EnsembleDesk.refineNamed, htext, hparameter]
    | some value =>
      cases hkind : parameter.valueKind? (text value) with
      | none =>
        refine unmarked.congr fun tokens htext => ?_
        simp only [EnsembleDesk.refineNamed, htext, hparameter, hkind]
      | some kind =>
        have hvalue := hplaces value (by simp)
        have hmark := TokenKind.isMark_of_isArgumentMark
          (parameter.isArgumentMark_of_valueKind? hkind)
        refine (MarksAt.setKind hvalue hmark).congr fun tokens htext => ?_
        simp only [EnsembleDesk.refineNamed, htext, hparameter, hkind]

/-- The arguments are marked in turn, each at its own places. -/
theorem refineArguments (keyword : Keyword) (parameters : List Parameter)
    {arguments : List Argument}
    (hplaces : ∀ place ∈ arguments.flatMap Argument.places, place ∈ places) :
    MarksAt places text (refineArguments keyword parameters arguments) := by
  induction arguments generalizing parameters with
  | nil => exact unmarked.congr fun tokens _ => by rw [EnsembleDesk.refineArguments]
  | cons argument arguments ih =>
    rw [List.flatMap_cons, List.forall_mem_append] at hplaces
    obtain ⟨hfirst, hrest⟩ := hplaces
    cases argument with
    | positional place =>
      cases parameters with
      | nil => exact (ih [] hrest).congr fun tokens _ => by rw [EnsembleDesk.refineArguments]
      | cons parameter parameters =>
        have hplace : place ∈ places := hfirst place List.mem_cons_self
        refine ((ih parameters hrest).comp (refinePositional parameter hplace)).congr
          fun tokens _ => ?_
        rw [EnsembleDesk.refineArguments]
    | named name value =>
      refine ((ih parameters hrest).comp (refineNamed keyword hfirst)).congr fun tokens _ => ?_
      rw [EnsembleDesk.refineArguments]

/-- Parentheses that are never closed are marked one after the other. -/
theorem foldl_setKind {unclosed : List Nat} (hplaces : ∀ place ∈ unclosed, place ∈ places) :
    MarksAt places text fun tokens =>
      unclosed.foldl (fun marked place => EnsembleDesk.setKind marked place .invalid) tokens := by
  induction unclosed with
  | nil => exact unmarked
  | cons place unclosed ih =>
    obtain ⟨hfirst, hrest⟩ := List.forall_mem_cons.1 hplaces
    exact (ih hrest).comp (invalid hfirst)

/-- The tokens at places that are marked as invalid in turn are invalid. -/
theorem kind_foldl_setKind {tokens : List Token} {unclosed : List Nat} {place : Nat}
    (hplace : place ∈ unclosed) {token : Token}
    (htoken : (unclosed.foldl (fun marked place => EnsembleDesk.setKind marked place .invalid)
      tokens)[place]? = some token) : token.kind = .invalid := by
  induction unclosed generalizing tokens with
  | nil => cases hplace
  | cons first unclosed ih =>
    rw [List.foldl_cons] at htoken
    by_cases hrest : place ∈ unclosed
    · exact ih hrest htoken
    · obtain rfl := (List.mem_cons.1 hplace).resolve_right hrest
      rw [(foldl_setKind fun _ => id).getElem?_of_not_mem hrest, EnsembleDesk.setKind,
        List.getElem?_modify_eq] at htoken
      obtain ⟨before, -, rfl⟩ := Option.map_eq_some_iff.1 htoken
      rfl

end MarksAt

/-! ### A line with known parts -/

/-- Refines a keyword and its arguments. -/
def refineKeyword (keyword : Keyword) (head : Nat) (arguments : List Argument)
    (tokens : List Token) : List Token :=
  refineArguments keyword keyword.positionals arguments
    (if keyword.deprecated then setKind tokens head .warning else tokens)

/-- Refines a keyword, its arguments and the parentheses that are never closed. -/
def refineParts (keyword : Keyword) (head : Nat) (arguments : List Argument) (unclosed : List Nat)
    (tokens : List Token) : List Token :=
  unclosed.foldl (fun marked place => setKind marked place .invalid)
    (refineKeyword keyword head arguments tokens)

section Parts

variable {places : List Nat} {text : Nat → String} {head : Nat} {arguments : List Argument}

/-- A keyword is refined by marking it and its arguments. -/
theorem marksAt_refineKeyword (keyword : Keyword) (hhead : head ∈ places)
    (harguments : ∀ place ∈ arguments.flatMap Argument.places, place ∈ places) :
    MarksAt places text (refineKeyword keyword head arguments) := by
  refine (MarksAt.refineArguments keyword keyword.positionals harguments).comp ?_
  split
  · exact .setKind hhead rfl
  · exact .unmarked

/-- A line is refined by marking its keyword, its arguments and its open parentheses. -/
theorem marksAt_refineParts (keyword : Keyword) {unclosed : List Nat} (hhead : head ∈ places)
    (harguments : ∀ place ∈ arguments.flatMap Argument.places, place ∈ places)
    (hunclosed : ∀ place ∈ unclosed, place ∈ places) :
    MarksAt places text (refineParts keyword head arguments unclosed) :=
  (MarksAt.foldl_setKind hunclosed).comp (marksAt_refineKeyword keyword hhead harguments)

/-- A line that a keyword leads is refined part by part. -/
theorem refine_eq_refineParts {tokens : List Token} {keyword : Keyword}
    (hhead : (LineParts.ofTokens tokens).head = some head)
    (hkeyword : (LineParts.ofTokens tokens).keyword? tokens = some keyword) :
    refine tokens =
      refineParts keyword head (LineParts.ofTokens tokens).arguments
        (LineParts.ofTokens tokens).unclosed tokens := by
  simp only [refine, hhead, hkeyword, refineParts, refineKeyword]

end Parts

end EnsembleDesk
