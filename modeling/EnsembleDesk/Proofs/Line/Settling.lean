import EnsembleDesk.Proofs.Line.LeadingWord
import EnsembleDesk.Proofs.Line.SeenArguments
import Mathlib.Data.List.Nodup
/-!
# Refined tokens are settled

Refinement looks for arguments by the kinds of the tokens and changes kinds. On the tokens of a
configuration line it is nevertheless done at once: refining them again changes nothing, and all
that it changes of the tokens that the grammar yields are the kinds of those that carry meaning
(`Language.refine_settles`).

Marks are told by texts, so where the same parts are found again, they are marked in the same way
(`refine_refine_of_parts`). That is so where no parenthesis is opened. The argument of the keyword
`FORWARD_MODEL` may be any word; there the parentheses that are never closed are all that is marked,
and hiding them leaves no other open (`LineParts.unclosed_marked`).
-/

namespace EnsembleDesk

open LineParts ErtGrammar EnsembleDesk.Language

section Parts

variable {tokens : List Token} {keyword : Keyword}

/-- If the same parts are found again, then the same marks are set again. -/
theorem refine_refine_of_parts (h : ofTokens (refine tokens) = ofTokens tokens) :
    refine (refine tokens) = refine tokens := by
  cases hkeyword : (ofTokens tokens).keyword? tokens with
  | none => rw [refine_of_keyword?_eq_none hkeyword, refine_of_keyword?_eq_none hkeyword]
  | some keyword =>
    obtain ⟨head, hhead, -⟩ := Option.bind_eq_some_iff.1 hkeyword
    have hagain := (keyword?_refine tokens).trans hkeyword
    rw [refine_eq_refineParts (h ▸ hhead) hagain, h, refine_eq_refineParts hhead hkeyword]
    exact (marksAt_refineParts keyword List.mem_cons_self
      (fun _ hplace => List.mem_cons_of_mem head (List.mem_append_left _ hplace))
      fun _ hplace => List.mem_cons_of_mem head (List.mem_append_right _ hplace)).apply_apply

/-- Arguments that are told apart by their positions fit if every word does. -/
theorem refineArguments_of_fits {parameters : List Parameter} {arguments : List Argument}
    (hfits : ∀ parameter ∈ parameters, ∀ value, parameter.fits value = true)
    (harguments : ∀ argument ∈ arguments, ∃ place, argument = .positional place) :
    refineArguments keyword parameters arguments tokens = tokens := by
  fun_induction refineArguments keyword parameters arguments tokens with
  | case1 => rfl
  | case2 place rest tokens ih => exact ih hfits (List.forall_mem_cons.1 harguments).2
  | case3 parameter parameters place rest tokens ih =>
    obtain ⟨hfirst, hfits⟩ := List.forall_mem_cons.1 hfits
    rw [ih hfits (List.forall_mem_cons.1 harguments).2, refinePositional, if_pos (hfirst _)]
  | case4 parameters name value rest tokens ih =>
    obtain ⟨place, hplace⟩ := harguments _ List.mem_cons_self
    cases hplace

end Parts

/-! ### Parentheses that are found again -/

namespace LineParts

variable {marks : Marking} {unclosed : List Nat} {placed rest : List (Token × Nat)} {token : Token}
  {place : Nat}

/-- Without opening parentheses no others are left open than before. -/
theorem unclosed_suffix_of_no_opening (h : ∀ entry ∈ placed, entry.1.isDelimiter "(" = false) :
    (readArguments unclosed placed).2 <:+ unclosed := by
  fun_induction readArguments unclosed placed with
  | case3 unclosed token place rest _ _ ih =>
    exact (ih (List.forall_mem_cons.1 h).2).trans (List.tail_suffix unclosed)
  | _ => simp_all [addArgument]

/-- Without colons all arguments are told apart by their positions. -/
theorem positional_of_no_colon (h : ∀ entry ∈ placed, entry.1.isDelimiter ":" = false) :
    ∀ argument ∈ (readArguments unclosed placed).1, ∃ place, argument = .positional place := by
  fun_induction readArguments unclosed placed <;> simp_all [addArgument]

/-- A token that is no delimiter opens and closes nothing. -/
theorem unclosed_of_word (hopening : token.isDelimiter "(" = false)
    (hclosing : token.isDelimiter ")" = false)
    (hcolon : ∀ entry ∈ rest, entry.1.isDelimiter ":" = false) :
    (readArguments unclosed ((token, place) :: rest)).2 = (readArguments unclosed rest).2 := by
  cases unclosed with
  | nil =>
    rw [readArguments_positional hopening hclosing fun next hnext => by
      rw [hcolon next (List.mem_of_mem_head? hnext), Bool.false_and]]
    rfl
  | cons first unclosed =>
    rw [readArguments_within hopening hclosing (List.cons_ne_nil first unclosed)]

/-- What is read behind a token that is no delimiter is marked where it was marked. -/
theorem marked_of_word (hopening : token.isDelimiter "(" = false)
    (hclosing : token.isDelimiter ")" = false)
    (hcolon : ∀ entry ∈ rest, entry.1.isDelimiter ":" = false)
    (hplace : place ∉ rest.map Prod.snd)
    (hmarked : Marked marks (rest.map Prod.snd) (readArguments unclosed ((token, place) :: rest))) :
    Marked marks (rest.map Prod.snd) (readArguments unclosed rest) := by
  cases unclosed with
  | nil =>
    rw [readArguments_positional hopening hclosing fun next hnext => by
      rw [hcolon next (List.mem_of_mem_head? hnext), Bool.false_and]] at hmarked
    refine hmarked.of_addArgument fun other hother hsame => hplace ?_
    rwa [← List.mem_singleton.1 hsame]
  | cons first unclosed =>
    rwa [readArguments_within hopening hclosing (List.cons_ne_nil first unclosed)] at hmarked

/-- A parenthesis that is neither part of an argument nor left open is not marked. -/
theorem Marked.eq_none_of_not_mem {places : List Nat} {read : List Argument × List Nat}
    (hmarked : Marked marks (place :: places) read) (hplace : place ∉ rest.map Prod.snd)
    (hread : read.1 = (readArguments unclosed rest).1) (hunclosed : place ∉ read.2) :
    marks place = none := by
  refine hmarked.eq_none List.mem_cons_self (fun hargument => hplace ?_) hunclosed
  rw [hread] at hargument
  exact (places_readArguments unclosed rest).subset hargument

/-- An opening parenthesis that is never closed is passed over when it is marked. -/
theorem unclosed_marked_opening (hopening : token.isDelimiter "(" = true)
    (hcolon : ∀ entry ∈ rest.map marks.apply, entry.1.isDelimiter ":" = false)
    (hplace : place ∉ rest.map Prod.snd)
    (hmarked : Marked marks (place :: rest.map Prod.snd) (readArguments (place :: unclosed) rest)) :
    (readArguments (unclosed.filter (· ∉ (readArguments (place :: unclosed) rest).2))
      (((token, place) :: rest).map marks.apply)).2 =
    (readArguments ((place :: unclosed).filter (· ∉ (readArguments (place :: unclosed) rest).2))
      (rest.map marks.apply)).2 := by
  rw [Marking.map_apply_cons]
  by_cases hopen : place ∈ (readArguments (place :: unclosed) rest).2
  -- it is no delimiter any more, nor is it counted among those that are open
  · have hmark := hmarked.unclosed place hopen
    rw [List.filter_cons_of_neg (by simp [hopen]),
      unclosed_of_word (Marking.isDelimiter_mark_of_ne_none hmark)
        (Marking.isDelimiter_mark_of_ne_none hmark) hcolon]
  · rw [List.filter_cons_of_pos (by simp [hopen]),
      Marking.mark_of_none (hmarked.eq_none_of_not_mem hplace rfl hopen),
      readArguments_opening hopening]

/-- A closing parenthesis is not marked, and closes what it closed before. -/
theorem unclosed_marked_closing (hopening : token.isDelimiter "(" = false)
    (hclosing : token.isDelimiter ")" = true)
    (hnodup : (place :: (unclosed ++ rest.map Prod.snd)).Nodup)
    (hmarked : Marked marks (place :: rest.map Prod.snd) (readArguments unclosed.tail rest)) :
    (readArguments (unclosed.filter (· ∉ (readArguments unclosed.tail rest).2))
      (((token, place) :: rest).map marks.apply)).2 =
    (readArguments (unclosed.tail.filter (· ∉ (readArguments unclosed.tail rest).2))
      (rest.map marks.apply)).2 := by
  obtain ⟨hout, hnodup⟩ := List.nodup_cons.1 hnodup
  -- what is open at the end was open behind the parenthesis, or is opened later
  have hopen : ∀ other ∈ (readArguments unclosed.tail rest).2,
      other ∈ unclosed.tail ++ rest.map Prod.snd := fun other hother =>
    List.mem_append.2 (mem_unclosed_readArguments _ _ other hother)
  have hunclosed : place ∉ (readArguments unclosed.tail rest).2 := fun hother =>
    hout (((List.tail_sublist unclosed).append_right _).subset (hopen place hother))
  have hplace : place ∉ rest.map Prod.snd := fun hother => hout (List.mem_append_right _ hother)
  rw [Marking.map_apply_cons,
    Marking.mark_of_none (hmarked.eq_none_of_not_mem hplace rfl hunclosed),
    readArguments_closing hopening hclosing]
  -- the parenthesis that is closed here is not left open, so both readings close the same one
  cases unclosed with
  | nil => rfl
  | cons first unclosed =>
    have hfirst : first ∉ (readArguments unclosed rest).2 := fun hother =>
      (List.nodup_cons.1 hnodup).1 (hopen first hother)
    rw [List.tail_cons, List.filter_cons_of_pos (by simp [hfirst]), List.tail_cons]

/-- Where there are no colons, hiding the parentheses that are never closed leaves none open: those
that were closed still are. -/
theorem unclosed_marked (hcolon : ∀ entry ∈ placed, entry.1.isDelimiter ":" = false)
    (hnodup : (unclosed ++ placed.map Prod.snd).Nodup)
    (hmarked : Marked marks (placed.map Prod.snd) (readArguments unclosed placed)) :
    (readArguments (unclosed.filter (· ∉ (readArguments unclosed placed).2))
      (placed.map marks.apply)).2 = [] := by
  -- of the parentheses that are open before, the second reading knows those that are closed later
  induction placed generalizing unclosed with
  | nil => simp
  | cons entry rest ih =>
    obtain ⟨token, place⟩ := entry
    rw [List.map_cons] at hmarked hnodup
    obtain ⟨-, hcolon⟩ := List.forall_mem_cons.1 hcolon
    have hagain := marks.isDelimiter_map_apply hcolon
    have hplace : place ∉ rest.map Prod.snd :=
      (List.nodup_cons.1 (List.nodup_append.1 hnodup).2.1).1
    have htail := hmarked.mono fun _ => List.mem_cons_of_mem place
    cases hopening : token.isDelimiter "(" with
    | true =>
      rw [readArguments_opening hopening] at hmarked htail ⊢
      rw [unclosed_marked_opening hopening hagain hplace hmarked]
      exact ih hcolon (List.nodup_middle.1 hnodup) htail
    | false =>
      have hrest := hnodup.sublist ((List.sublist_cons_self ..).append_left _)
      cases hclosing : token.isDelimiter ")" with
      | true =>
        rw [readArguments_closing hopening hclosing] at hmarked htail ⊢
        rw [unclosed_marked_closing hopening hclosing (List.nodup_middle.1 hnodup) hmarked]
        exact ih hcolon (hrest.sublist ((List.tail_sublist unclosed).append_right _)) htail
      | false =>
        rw [unclosed_of_word hopening hclosing hcolon, Marking.map_apply_cons, unclosed_of_word
          (Marking.isDelimiter_mark hopening) (Marking.isDelimiter_mark hclosing) hagain]
        exact ih hcolon hrest (marked_of_word hopening hclosing hcolon hplace htail)

end LineParts

/-! ### Refining again -/

section Line

variable {tokens : List Token} {marks : Marking} {first : Token × Nat} {rest : List (Token × Nat)}
  {keyword : Keyword}

/-- Where no parenthesis is opened, the same parts are found again. -/
theorem RefinedBy.ofTokens_refine_of_no_opening (h : RefinedBy tokens marks first rest)
    (hopening : ∀ entry ∈ rest, entry.1.isDelimiter "(" = false) :
    ofTokens (refine tokens) = ofTokens tokens := by
  have hagain := marks.isDelimiter_map_apply hopening
  have hunclosed := List.suffix_nil.1 (unclosed_suffix_of_no_opening hopening)
  have hfinds := (staysOpen_or_findsAgain h.nodup h.marked).resolve_left StaysOpen.not_nil
  obtain ⟨further, harguments, hfurther⟩ := hfinds.arguments
  rw [hunclosed, List.getLast?_nil, Option.map_eq_none_iff, List.head?_eq_none_iff] at hfurther
  rw [h.ofTokens_refine_eq, h.ofTokens_eq, harguments, hfurther, List.append_nil, hunclosed,
    List.suffix_nil.1 (unclosed_suffix_of_no_opening hagain)]

/-- Where any word will do for the arguments and none is given by name, nothing is left to mark. -/
theorem RefinedBy.refine_refine_of_no_colon (h : RefinedBy tokens marks first rest)
    (hcolon : ∀ entry ∈ rest, entry.1.isDelimiter ":" = false)
    (hkeyword : (ofTokens tokens).keyword? tokens = some keyword)
    (hdeprecated : keyword.deprecated = false)
    (hfits : ∀ parameter ∈ keyword.positionals, ∀ value, parameter.fits value = true) :
    refine (refine tokens) = refine tokens := by
  have hagain := marks.isDelimiter_map_apply hcolon
  have hunclosed := unclosed_marked hcolon h.nodup h.marked
  rw [List.filter_nil] at hunclosed
  rw [refine_eq_refineParts (congrArg LineParts.head h.ofTokens_refine_eq)
    ((keyword?_refine tokens).trans hkeyword), refineParts, refineKeyword,
    h.ofTokens_refine_eq, hunclosed, List.foldl_nil, hdeprecated, if_neg Bool.false_ne_true,
    refineArguments_of_fits hfits (positional_of_no_colon hagain)]

end Line

/-- What refinement may make of a token. -/
structure RefinedTo (token refined : Token) : Prop where
  /-- Nothing but the kind is another. -/
  kind : refined = { token with kind := refined.kind }
  /-- White space and comments stay what they are, and nothing else becomes one. -/
  blank : token.significant = false ∨ refined.significant = false → refined = token

namespace RefinedTo

variable {token : Token} {marks : Marking} {place : Nat}

theorem refl (token : Token) : RefinedTo token token := ⟨rfl, fun _ => rfl⟩

/-- A mark on a token that is significant makes of it what refinement may make of it. -/
theorem of_mark (h : marks place ≠ none → token.significant = true) :
    RefinedTo token (marks.mark place token) := by
  by_cases hmark : marks place = none
  · rw [Marking.mark_of_none hmark]
    exact refl token
  · refine ⟨rfl, ?_⟩
    rw [h hmark, Marking.significant_mark hmark, or_self]
    exact nofun

end RefinedTo

/-- Refinement makes of each token of a line what it may make of it, and leaves none out. -/
theorem RefinedBy.forall₂_refinedTo {tokens : List Token} {marks : Marking} {first : Token × Nat}
    {rest : List (Token × Nat)} (h : RefinedBy tokens marks first rest) :
    List.Forall₂ RefinedTo tokens (refine tokens) := by
  rw [h.refine_eq, List.forall₂_iff_get]
  refine ⟨by simp [Marking.applyAll], fun place hplace hrefined => ?_⟩
  simp only [Marking.applyAll, List.get_eq_getElem, List.getElem_mapIdx]
  have hentry : (tokens[place], place) ∈ tokens.zipIdx :=
    List.mem_zipIdx_iff_getElem?.2 (List.getElem?_eq_getElem hplace)
  exact .of_mark (h.significant _ hentry)

/-- The keyword of a job is not deprecated, and any word will do for the job. -/
theorem fits_forwardModel {keyword : Keyword}
    (h : Keyword.find? ertGrammar.keywords "FORWARD_MODEL" = some keyword) :
    keyword.deprecated = false ∧
      ∀ parameter ∈ keyword.positionals, ∀ value, parameter.fits value = true := by
  have hany : ∀ keyword ∈ Keyword.find? ertGrammar.keywords "FORWARD_MODEL",
      keyword.deprecated = false ∧ ∀ parameter ∈ keyword.positionals,
        parameter.choices = [] ∧ parameter.numerical = false := by decide +kernel
  obtain ⟨hdeprecated, hparameters⟩ := hany keyword h
  refine ⟨hdeprecated, fun parameter hparameter value => ?_⟩
  obtain ⟨hchoices, hnumerical⟩ := hparameters parameter hparameter
  simp [Parameter.fits, Parameter.accepts, hchoices, hnumerical]

/-- Refinement is done at once: the tokens of a configuration line are not changed by refining them
again. Compared with the tokens that the grammar yields, there are as many, and of each that carries
meaning nothing but the kind may be another. White space and comments are the same. -/
theorem Language.refine_settles (line : Nat) (text : String) :
    let tokens := ertGrammar.tokensOf line text
    let refined := Language.ert.tokensOf line text
    refine refined = refined ∧ List.Forall₂ RefinedTo tokens refined := by
  intro tokens refined
  have hrefined : refined = refine tokens := rfl
  rw [hrefined]
  cases hkeyword : (ofTokens tokens).keyword? tokens with
  | none =>
    rw [refine_of_keyword?_eq_none hkeyword]
    exact ⟨refine_of_keyword?_eq_none hkeyword, List.forall₂_same.2 fun token _ => .refl token⟩
  | some keyword =>
    obtain ⟨marks, first, rest, h⟩ := exists_refinedBy hkeyword
    refine ⟨?_, h.forall₂_refinedTo⟩
    have hleads : first.1.keyword = some keyword := h.keyword?_eq.symm.trans hkeyword
    -- colons and parentheses do not meet, and each is harmless without the other
    cases delimiters_behind_keyword line text h.filter_significant with
    | unknown hnone => rw [hleads] at hnone; cases hnone
    | words hopening =>
      exact refine_refine_of_parts
        (h.ofTokens_refine_of_no_opening (List.forall_mem_map.1 hopening))
    | job hjob hcolon =>
      obtain ⟨hdeprecated, hfits⟩ := fits_forwardModel (hjob.symm.trans hleads)
      exact h.refine_refine_of_no_colon (List.forall_mem_map.1 hcolon) hkeyword hdeprecated hfits

end EnsembleDesk
