import EnsembleDesk.Proofs.Line.Arguments
import EnsembleDesk.Proofs.Line.Covering
/-!
# What refinement marks as invalid

Comparing the arguments of a line with the parameters of its keyword makes some tokens invalid. A
misfit (`MisfitAt`) is the place of a token that does not fit. No two arguments of a line share a
place, so that what one argument marks is not looked at again, and refinement marks the places of
misfits and no others: `invalidAt_refineArguments` for the arguments that are left, and from it
`invalidAt_refine` for a line.
-/

namespace EnsembleDesk

/-! ### Marks at places -/

/-- The text of a piece of a line. -/
def WordSpan.string (word : WordSpan) : String := String.ofList word.text

/-- The token at a place is invalid. -/
def InvalidAt (tokens : List Token) (place : Nat) : Prop :=
  (tokens[place]?.map Token.kind) = some .invalid

section Marks

variable {tokens others : List Token} {place other : Nat} {kind : TokenKind}

/-- A token is invalid where there is one and its kind says so. -/
theorem invalidAt_iff :
    InvalidAt tokens place ↔ ∃ token, tokens[place]? = some token ∧ token.kind = .invalid :=
  Option.map_eq_some_iff

/-- Tokens that are invalid are found at their places. -/
theorem exists_invalid_iff {part : WordSpan} :
    (∃ token ∈ tokens, token.kind = .invalid ∧ token.span = part) ↔
      ∃ place, InvalidAt tokens place ∧ spanAt tokens place = part := by
  simp only [List.mem_iff_getElem?, invalidAt_iff]
  constructor
  · rintro ⟨token, ⟨place, hplace⟩, hkind, rfl⟩
    exact ⟨place, ⟨token, hplace, hkind⟩, by rw [spanAt, hplace]; rfl⟩
  · rintro ⟨place, ⟨token, hplace, hkind⟩, rfl⟩
    exact ⟨token, ⟨place, hplace⟩, hkind, by rw [spanAt, hplace]; rfl⟩

/-- Tokens that differ in their kinds only are the same pieces of the line. -/
theorem spanAt_of_map_unkinded (h : others.map Token.unkinded = tokens.map Token.unkinded) :
    spanAt others = spanAt tokens := by
  have hspan : ∀ tokens : List Token,
      spanAt tokens = fun place => ((tokens.map Token.unkinded)[place]?.map Token.span).getD
        ⟨[], 0⟩ := by
    intro tokens
    funext place
    rw [spanAt, List.getElem?_map, Option.map_map]
    rfl
  rw [hspan, hspan, h]

/-- The text at a place is that of the piece of the line. -/
theorem textAt_eq_string (tokens : List Token) (place : Nat) :
    textAt tokens place = (spanAt tokens place).string := by
  rw [textAt, spanAt]
  cases tokens[place]? with
  | none => rfl
  | some token => simp [WordSpan.string, Token.span]

/-- Tokens that differ in their kinds only have the same texts. -/
theorem textAt_of_map_unkinded (h : others.map Token.unkinded = tokens.map Token.unkinded) :
    textAt others = textAt tokens := by
  funext place
  rw [textAt_eq_string, textAt_eq_string, spanAt_of_map_unkinded h]

/-- Tokens that differ in their kinds only are as many. -/
theorem length_of_map_unkinded (h : others.map Token.unkinded = tokens.map Token.unkinded) :
    others.length = tokens.length := by
  simpa using congrArg List.length h

/-- The kind of a token is set at its own place alone. -/
theorem invalidAt_setKind (hplace : place < tokens.length) :
    InvalidAt (setKind tokens place kind) other ↔
      if other = place then kind = .invalid else InvalidAt tokens other := by
  rw [InvalidAt, setKind, List.getElem?_modify]
  by_cases h : other = place
  · subst h
    simp [hplace]
  · simp [h, Ne.symm h, InvalidAt]

/-- A positional argument becomes invalid if it does not fit its parameter. -/
theorem invalidAt_refinePositional {parameter : Parameter} (hplace : place < tokens.length) :
    InvalidAt (refinePositional parameter place tokens) other ↔
      InvalidAt tokens other ∨ (other = place ∧ parameter.fits (textAt tokens place) = false) := by
  rw [refinePositional]
  split
  · rename_i hfits
    simp [hfits]
  · rename_i hfits
    rw [invalidAt_setKind hplace]
    by_cases h : other = place
    · simp [h, hfits]
    · simp [h]

end Marks

/-- The parameter that a keyword takes under a name. -/
def Keyword.namedParameter? (keyword : Keyword) (name : String) : Option Parameter :=
  (keyword.parameter? name).filter (·.named)

/-- The name or the value of an argument does not fit; `text` gives the texts at the places. -/
def NamedMisfit (keyword : Keyword) (text : Nat → String) (name : Nat) (value : Option Nat)
    (place : Nat) : Prop :=
  match keyword.namedParameter? (text name) with
  | none => place = name
  | some parameter => value = some place ∧ parameter.valueKind? (text place) = some .invalid

/-- The misfit is at one of the places of the argument. -/
theorem NamedMisfit.mem_places {keyword : Keyword} {text : Nat → String} {name place : Nat}
    {value : Option Nat} (h : NamedMisfit keyword text name value place) :
    place ∈ name :: value.toList := by
  unfold NamedMisfit at h
  split at h
  · exact h ▸ List.mem_cons_self
  · exact List.mem_cons_of_mem _ (Option.mem_toList.2 h.1)

/-- A named argument becomes invalid at its name or its value if these do not fit. -/
theorem invalidAt_refineNamed {tokens : List Token} {keyword : Keyword} {name other : Nat}
    {value : Option Nat} (hname : name < tokens.length)
    (hvalue : ∀ place ∈ value, place < tokens.length ∧ ¬ InvalidAt tokens place) :
    InvalidAt (refineNamed keyword name value tokens) other ↔
      InvalidAt tokens other ∨ NamedMisfit keyword (textAt tokens) name value other := by
  have hparameter : (keyword.parameter? (textAt tokens name)).filter (·.named) =
      keyword.namedParameter? (textAt tokens name) := rfl
  unfold refineNamed NamedMisfit
  rw [hparameter]
  cases keyword.namedParameter? (textAt tokens name) with
  | none =>
    rw [invalidAt_setKind hname]
    by_cases h : other = name <;> simp [h]
  | some parameter =>
    cases value with
    | none => simp
    | some value =>
      obtain ⟨hvalue, hvalid⟩ := hvalue value rfl
      -- any other kind that the value is given would hide that it was invalid before
      cases hkind : parameter.valueKind? (textAt tokens value) with
      | none =>
        by_cases h : value = other
        · subst h
          simp [hkind]
        · simp [hkind, h]
      | some kind =>
        simp only [hkind]
        rw [invalidAt_setKind hvalue]
        by_cases h : other = value
        · subst h
          simp [hkind, hvalid]
        · simp [h, Ne.symm h]

/-! ### All arguments -/

namespace Argument

/-- The place of an argument that its position tells apart. -/
def positional? : Argument → Option Nat
  | positional place => some place
  | named _ _ => none

end Argument

/-- What stands at a place does not fit the arguments of a line. -/
def MisfitAt (keyword : Keyword) (text : Nat → String) (parameters : List Parameter)
    (arguments : List Argument) (place : Nat) : Prop :=
  (∃ parameter, (place, parameter) ∈ (arguments.filterMap Argument.positional?).zip parameters ∧
      parameter.fits (text place) = false) ∨
    ∃ name value, .named name value ∈ arguments ∧ NamedMisfit keyword text name value place

section Misfits

variable {keyword : Keyword} {text : Nat → String} {parameters : List Parameter}
  {arguments : List Argument} {place : Nat}

/-- Without arguments nothing is a misfit. -/
theorem misfitAt_nil : ¬ MisfitAt keyword text parameters [] place := by
  simp [MisfitAt]

/-- An argument that no parameter is left for is no misfit by itself. -/
theorem misfitAt_surplus {other : Nat} :
    MisfitAt keyword text [] (.positional other :: arguments) place ↔
      MisfitAt keyword text [] arguments place := by
  simp [MisfitAt]

/-- A positional argument uses up a parameter, which it has to fit. -/
theorem misfitAt_positional {parameter : Parameter} {other : Nat} :
    MisfitAt keyword text (parameter :: parameters) (.positional other :: arguments) place ↔
      (place = other ∧ parameter.fits (text other) = false) ∨
        MisfitAt keyword text parameters arguments place := by
  simp only [MisfitAt, List.filterMap_cons, Argument.positional?, List.zip_cons_cons,
    List.mem_cons, Prod.mk.injEq, or_and_right, exists_or, reduceCtorEq, false_or, or_assoc]
  refine or_congr_left ⟨?_, ?_⟩
  · rintro ⟨parameter, ⟨rfl, rfl⟩, hfits⟩
    exact ⟨rfl, hfits⟩
  · rintro ⟨rfl, hfits⟩
    exact ⟨parameter, ⟨rfl, rfl⟩, hfits⟩

/-- A named argument uses up no parameter. -/
theorem misfitAt_named {name : Nat} {value : Option Nat} :
    MisfitAt keyword text parameters (.named name value :: arguments) place ↔
      NamedMisfit keyword text name value place ∨
        MisfitAt keyword text parameters arguments place := by
  simp only [MisfitAt, List.filterMap_cons, Argument.positional?, List.mem_cons,
    Argument.named.injEq, or_and_right, exists_or, and_assoc, exists_and_left, exists_eq_left]
  rw [or_left_comm]

end Misfits

/-- Exactly the places that do not fit become invalid. -/
theorem invalidAt_refineArguments {keyword : Keyword} {parameters : List Parameter}
    {arguments : List Argument} {tokens : List Token} {place : Nat}
    (hnodup : (arguments.flatMap Argument.places).Nodup)
    (hinside : ∀ other ∈ arguments.flatMap Argument.places, other < tokens.length)
    (hvalid : ∀ other ∈ arguments.flatMap Argument.places, ¬ InvalidAt tokens other) :
    InvalidAt (refineArguments keyword parameters arguments tokens) place ↔
      InvalidAt tokens place ∨ MisfitAt keyword (textAt tokens) parameters arguments place := by
  -- what an argument marks is at its own places, so the places of those behind it stay valid
  fun_induction refineArguments keyword parameters arguments tokens with
  | case1 => simp [misfitAt_nil]
  | case2 other rest tokens ih =>
    rw [misfitAt_surplus]
    rw [List.flatMap_cons, Argument.places, List.singleton_append] at hnodup hinside hvalid
    exact ih hnodup.of_cons (List.forall_mem_cons.1 hinside).2 (List.forall_mem_cons.1 hvalid).2
  | case3 parameter parameters other rest tokens ih =>
    have hsame := map_unkinded_refinePositional parameter other tokens
    rw [textAt_of_map_unkinded hsame, length_of_map_unkinded hsame] at ih
    rw [List.flatMap_cons, Argument.places, List.singleton_append] at hnodup hinside hvalid
    obtain ⟨hother, hinside⟩ := List.forall_mem_cons.1 hinside
    obtain ⟨hnotMem, hnodup⟩ := List.nodup_cons.1 hnodup
    rw [ih hnodup hinside, invalidAt_refinePositional hother, misfitAt_positional, or_assoc]
    intro next hnext
    rw [invalidAt_refinePositional hother]
    rintro (hinvalid | ⟨rfl, -⟩)
    · exact hvalid next (List.mem_cons_of_mem _ hnext) hinvalid
    · exact hnotMem hnext
  | case4 parameters name value rest tokens ih =>
    have hsame := map_unkinded_refineNamed keyword name value tokens
    rw [textAt_of_map_unkinded hsame, length_of_map_unkinded hsame] at ih
    rw [List.flatMap_cons, Argument.places] at hnodup hinside hvalid
    obtain ⟨-, hnodup, hdisjoint⟩ := List.nodup_append.1 hnodup
    obtain ⟨hinsideFirst, hinside⟩ := List.forall_mem_append.1 hinside
    obtain ⟨hvalidFirst, hvalid⟩ := List.forall_mem_append.1 hvalid
    have hname := hinsideFirst name List.mem_cons_self
    have hvalue : ∀ place ∈ value, place < tokens.length ∧ ¬ InvalidAt tokens place := by
      intro place hplace
      have hmem : place ∈ name :: value.toList :=
        List.mem_cons_of_mem _ (Option.mem_toList.2 hplace)
      exact ⟨hinsideFirst place hmem, hvalidFirst place hmem⟩
    rw [ih hnodup hinside, invalidAt_refineNamed hname hvalue, misfitAt_named, or_assoc]
    intro next hnext
    rw [invalidAt_refineNamed hname hvalue]
    rintro (hinvalid | hmisfit)
    · exact hvalid next hnext hinvalid
    · exact hdisjoint next hmisfit.mem_places next hnext rfl

/-! ### A line -/

section Line

variable {keyword : Keyword} {tokens : List Token} {arguments : List Argument} {head : Token}
  {place : Nat}

/-- A line that a keyword leads, and in which every parenthesis is closed, is refined by the
arguments. -/
theorem refine_of_parts (hparts : LineParts.ofTokens tokens = ⟨some place, arguments, []⟩)
    (hhead : tokens[place]? = some head) (hkeyword : head.keyword = some keyword) :
    refine tokens = refineArguments keyword keyword.positionals arguments
      (if keyword.deprecated then setKind tokens place .warning else tokens) := by
  have hfound : (LineParts.mk (some place) arguments []).keyword? tokens = some keyword := by
    simp [LineParts.keyword?, hhead, hkeyword]
  rw [refine, hparts]
  simp only [hfound, List.foldl_nil]

/-- Tokens of which none is invalid are refined to invalid ones just where an argument does not
fit. -/
theorem invalidAt_refine (hparts : LineParts.ofTokens tokens = ⟨some place, arguments, []⟩)
    (hhead : tokens[place]? = some head) (hkeyword : head.keyword = some keyword)
    (hvalid : ∀ token ∈ tokens, token.kind ≠ .invalid)
    (hnodup : (arguments.flatMap Argument.places).Nodup)
    (hinside : ∀ other ∈ arguments.flatMap Argument.places, other < tokens.length) (other : Nat) :
    InvalidAt (refine tokens) other ↔
      MisfitAt keyword (textAt tokens) keyword.positionals arguments other := by
  have hnone : ∀ other, ¬ InvalidAt tokens other := by
    intro other hinvalid
    obtain ⟨token, hother, hkind⟩ := invalidAt_iff.1 hinvalid
    exact hvalid token (List.mem_of_getElem? hother) hkind
  rw [refine_of_parts hparts hhead hkeyword]
  split
  -- a deprecated keyword is marked as well, but not as invalid
  · have hsame := map_unkinded_setKind tokens place .warning
    have hmarked : ∀ other, ¬ InvalidAt (setKind tokens place .warning) other := by
      intro other
      rw [invalidAt_setKind (List.getElem?_eq_some_iff.1 hhead).1]
      split
      · exact TokenKind.noConfusion
      · exact hnone other
    rw [invalidAt_refineArguments hnodup (length_of_map_unkinded hsame ▸ hinside)
      fun other _ => hmarked other, textAt_of_map_unkinded hsame, or_iff_right (hmarked other)]
  · rw [invalidAt_refineArguments hnodup hinside fun other _ => hnone other,
      or_iff_right (hnone other)]

end Line

end EnsembleDesk
