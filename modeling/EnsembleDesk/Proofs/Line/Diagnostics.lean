import EnsembleDesk.Line.Diagnostic
import EnsembleDesk.Proofs.Line.LeadingWord
import EnsembleDesk.Proofs.Line.LineNumbers
import EnsembleDesk.Proofs.Line.SeenArguments
import EnsembleDesk.Proofs.Text.LineBreaks
/-!
# Diagnostics of texts that follow one another

The problems of a text are found line by line, but for the required keywords that lead none of its
lines. So the problems of two texts, the first of which ends with a line, are those of both, and a
keyword is missing just if both texts miss it (`Diagnostic.ofText_append`).
-/

namespace EnsembleDesk

open LineParts Schema

/-- Whether the problem is that a required keyword leads no line. -/
def Problem.isMissingKeyword : Problem → Bool
  | missingKeyword _ => true
  | _ => false

namespace Diagnostic

/-- A problem, that many lines below. -/
def movedDown (count : Nat) (diagnostic : Diagnostic) : Diagnostic :=
  { diagnostic with line := diagnostic.line + count }

/-- The problems of a text but for the required keywords that lead none of its lines. -/
def ownOfText (text : String) : List Diagnostic :=
  (ofText text).filter (!·.problem.isMissingKeyword)

/-- A keyword is reported that is required and leads no line of a text. -/
def LacksKeyword (text label : String) : Prop :=
  ∃ diagnostic ∈ ofText text, diagnostic.problem = .missingKeyword label

/-! ### Line by line -/

section Lines

variable {tokens : List Token} {count : Nat}

/-- The problem of a token moves down with its line. -/
theorem ofToken?_movedDown (count : Nat) (head : Option Nat) (token : Token) (place : Nat) :
    ofToken? head (token.movedDown count) place =
      (ofToken? head token place).map (movedDown count) := by
  have hkind : (token.movedDown count).kind = token.kind := rfl
  rw [ofToken?, ofToken?, hkind]
  split <;> rfl

/-- Whether arguments are missing does not depend on where the line is. -/
theorem missingArguments_movedDown (count : Nat) (keyword : Keyword) (tokens : List Token)
    (arguments : List Argument) :
    missingArguments keyword (tokens.map (Token.movedDown count)) arguments =
      missingArguments keyword tokens arguments := by
  simp only [missingArguments, givenNames, textAt_movedDown]

/-- A line that many lines below has the same problems, moved down. -/
theorem ofLine_movedDown (count : Nat) (tokens : List Token) :
    ofLine (tokens.map (Token.movedDown count)) = (ofLine tokens).map (movedDown count) := by
  have hown : ∀ head, ((tokens.map (Token.movedDown count)).zipIdx.filterMap fun entry =>
        ofToken? head entry.1 entry.2) =
      (tokens.zipIdx.filterMap fun entry => ofToken? head entry.1 entry.2).map
        (movedDown count) := by
    intro head
    rw [List.zipIdx_map, List.filterMap_map, List.map_filterMap]
    exact congrArg (List.filterMap · _) (funext fun entry => ofToken?_movedDown count head _ _)
  have hhead : (ofTokens tokens).head.bind ((tokens.map (Token.movedDown count))[·]?) =
      ((ofTokens tokens).head.bind (tokens[·]?)).map (Token.movedDown count) := by
    simp only [List.getElem?_map, Option.map_bind]
    rfl
  simp only [ofLine, ofTokens_movedDown, keyword?_movedDown, missingArguments_movedDown, hown,
    hhead]
  cases (ofTokens tokens).head.bind (tokens[·]?) with
  | none => rfl
  | some token =>
    cases (ofTokens tokens).keyword? tokens with
    | none => rfl
    | some keyword =>
      rw [Option.map_some, List.map_append, List.map_map]
      rfl

/-- What is wrong with a line is not that a keyword leads none. -/
theorem isMissingKeyword_of_mem_ofLine {diagnostic : Diagnostic} (h : diagnostic ∈ ofLine tokens) :
    diagnostic.problem.isMissingKeyword = false := by
  have hown : ∀ head, ∀ diagnostic ∈ tokens.zipIdx.filterMap fun entry =>
      ofToken? head entry.1 entry.2, diagnostic.problem.isMissingKeyword = false := by
    intro head diagnostic hmem
    obtain ⟨⟨token, place⟩, -, hfound⟩ := List.mem_filterMap.1 hmem
    unfold ofToken? at hfound
    split at hfound
    · cases hfound
      rw [atToken]
      split <;> rfl
    · cases hfound
      rfl
    · cases hfound
  have hmissing : ∀ keyword arguments, ∀ problem ∈ missingArguments keyword tokens arguments,
      problem.isMissingKeyword = false := by
    intro keyword arguments problem hmem
    rcases List.mem_append.1 hmem with hfew | hparameter
    · split at hfew
      · cases List.mem_singleton.1 hfew
        rfl
      · cases hfew
    · obtain ⟨parameter, -, rfl⟩ := List.mem_map.1 hparameter
      rfl
  -- a line has the problems of its tokens, and behind a keyword those of missing arguments
  unfold ofLine at h
  simp only at h
  split at h
  · rcases List.mem_append.1 h with h | h
    · exact hown _ _ h
    · obtain ⟨problem, hproblem, rfl⟩ := List.mem_map.1 h
      exact hmissing _ _ _ hproblem
  · exact hown _ _ h

end Lines

/-! ### Texts -/

section Texts

variable {above below text label : String}

/-- The problems of a text are those of its lines, one after the other. -/
theorem ownOfText_eq (text : String) :
    ownOfText text = (Language.ert.documentTokens text).flatMap ofLine := by
  have hown : ∀ diagnostic ∈ (Language.ert.documentTokens text).flatMap ofLine,
      (!diagnostic.problem.isMissingKeyword) = true := by
    intro diagnostic hmem
    obtain ⟨tokens, -, hline⟩ := List.mem_flatMap.1 hmem
    rw [isMissingKeyword_of_mem_ofLine hline]
    rfl
  have hmissing : ∀ diagnostic ∈ missingKeywords (Language.ert.documentTokens text),
      ¬ (!diagnostic.problem.isMissingKeyword) = true := by
    intro diagnostic hmem
    obtain ⟨keyword, -, rfl⟩ := List.mem_map.1 hmem
    exact Bool.false_ne_true
  rw [ownOfText, ofText, List.filter_append, List.filter_eq_self.2 hown,
    List.filter_eq_nil_iff.2 hmissing, List.append_nil]

/-- The problems of two texts, one below the other, are those of both, the ones of the second moved
down. -/
theorem ownOfText_append (h : above = "" ∨ above.toList.getLast? = some '\n') (below : String) :
    ownOfText (above ++ below) = ownOfText above ++
      (ownOfText below).map (movedDown (linesOf above.toList).length) := by
  rw [ownOfText_eq, ownOfText_eq, ownOfText_eq, Language.documentTokens_append _ h,
    List.flatMap_append, List.flatMap_map, List.map_flatMap]
  congr 2
  funext tokens
  exact ofLine_movedDown _ tokens

/-- The keyword that leads a line is that of its first word, unless a comment begins there. -/
theorem keyword?_tokensOf {line : List Char} (hline : '\n' ∉ line) (number : Nat) :
    let tokens := Language.ert.tokensOf number (String.ofList line)
    (ofTokens tokens).keyword? tokens =
      (contentWords line).head?.bind fun word =>
        Keyword.find? ertKeywords (String.ofList word) := by
  have hled := ErtGrammar.ledBy_tokensOf number (String.ofList line)
  rw [String.toList_ofList, firstLeading?_of_line hline] at hled
  rw [← map_text_leadingWord? 1 line]
  refine (keyword?_refine _).trans ?_
  generalize hfilter : (Language.ertGrammar.tokensOf number (String.ofList line)).filter
    Token.significant = significant at hled
  generalize leadingWord? 1 line = leading at hled ⊢
  cases hled with
  | nothing => exact keyword?_of_filter_eq_nil hfilter
  | @word word stack _ column rest =>
    rw [← map_fst_filter_significant] at hfilter
    obtain ⟨first, rest, hplaced, hfirst, -⟩ := List.map_eq_cons_iff.1 hfilter
    exact (keyword?_of_filter_eq_cons hplaced).trans
      (hfirst ▸ ErtGrammar.keyword_leadingToken number word)

/-- The label of a keyword leads a line just if it is the first word, and no comment. -/
theorem leadingLabel?_eq_some_iff {line : List Char} (hline : '\n' ∉ line) (number : Nat)
    {keyword : Keyword} (hkeyword : keyword ∈ ertKeywords) :
    leadingLabel? (Language.ert.tokensOf number (String.ofList line)) = some keyword.label ↔
      (contentWords line).head? = some keyword.label.toList := by
  rw [leadingLabel?, keyword?_tokensOf hline]
  constructor
  · intro h
    obtain ⟨found, hfound, hlabel⟩ := Option.map_eq_some_iff.1 h
    obtain ⟨word, hword, hfind⟩ := Option.bind_eq_some_iff.1 hfound
    rw [hword, ← hlabel, ((Keyword.find?_eq_some_iff nodup_ertKeywords).1 hfind).2,
      String.toList_ofList]
  · intro h
    rw [h, Option.bind_some, String.ofList_toList,
      (Keyword.find?_eq_some_iff nodup_ertKeywords).2 ⟨hkeyword, rfl⟩, Option.map_some]

/-- A keyword leads some line of a text just if it is the first word of one of its lines. -/
theorem mem_leadingLabels_iff {keyword : Keyword} (hkeyword : keyword ∈ ertKeywords) :
    keyword.label ∈ (Language.ert.documentTokens text).filterMap leadingLabel? ↔
      ∃ line ∈ linesOf text.toList, (contentWords line).head? = some keyword.label.toList := by
  rw [List.mem_filterMap]
  constructor
  · rintro ⟨_, htokens, hleads⟩
    obtain ⟨⟨line, number⟩, hplaced, rfl⟩ := List.mem_map.1 htokens
    have hline : line ∈ linesOf text.toList := List.fst_mem_of_mem_zipIdx hplaced
    exact ⟨line, hline,
      (leadingLabel?_eq_some_iff (not_mem_of_mem_linesOf hline) _ hkeyword).1 hleads⟩
  · rintro ⟨line, hline, hfirst⟩
    obtain ⟨number, hnumber⟩ := List.mem_iff_getElem?.1 hline
    exact ⟨_, List.mem_map.2 ⟨(line, number), List.mem_zipIdx_iff_getElem?.2 hnumber, rfl⟩,
      (leadingLabel?_eq_some_iff (not_mem_of_mem_linesOf hline) _ hkeyword).2 hfirst⟩

/-- The keywords that are reported are the required ones that lead no line. -/
theorem lacksKeyword_iff :
    LacksKeyword text label ↔
      (∃ keyword ∈ ertKeywords, keyword.required = true ∧ keyword.label = label) ∧
        ∀ line ∈ linesOf text.toList, (contentWords line).head? ≠ some label.toList := by
  constructor
  · rintro ⟨diagnostic, hmem, hproblem⟩
    -- what is wrong with a line is of another kind
    rcases List.mem_append.1 hmem with hline | hmissing
    · obtain ⟨tokens, -, hline⟩ := List.mem_flatMap.1 hline
      have hother := isMissingKeyword_of_mem_ofLine hline
      rw [hproblem] at hother
      cases hother
    · obtain ⟨keyword, hkept, rfl⟩ := List.mem_map.1 hmissing
      obtain ⟨hkeyword, hlacks⟩ := List.mem_filter.1 hkept
      cases hproblem
      simp only [Bool.and_eq_true, Bool.not_eq_true', List.contains_eq_mem, decide_eq_false_iff_not,
        mem_leadingLabels_iff hkeyword] at hlacks
      exact ⟨⟨keyword, hkeyword, hlacks.1, rfl⟩, fun line hline hfirst =>
        hlacks.2 ⟨line, hline, hfirst⟩⟩
  · rintro ⟨⟨keyword, hkeyword, hrequired, rfl⟩, hlacks⟩
    refine ⟨⟨1, 1, 1, .missingKeyword keyword.label⟩, List.mem_append_right _ (List.mem_map.2
      ⟨keyword, List.mem_filter.2 ⟨hkeyword, ?_⟩, rfl⟩), rfl⟩
    simp only [Bool.and_eq_true, Bool.not_eq_true', List.contains_eq_mem, decide_eq_false_iff_not,
      mem_leadingLabels_iff hkeyword]
    exact ⟨hrequired, fun ⟨line, hline, hfirst⟩ => hlacks line hline hfirst⟩

end Texts

/-- The problems of a text that ends with a line are followed by those of the text behind it, moved
down by as many lines. A keyword is missing from both together just if each of them lacks it, and
that is, just if it is required and leads no line. -/
theorem ofText_append (above below : String)
    (h : above = "" ∨ above.toList.getLast? = some '\n') :
    ownOfText (above ++ below) = ownOfText above ++
        (ownOfText below).map (movedDown (linesOf above.toList).length) ∧
      ∀ label,
        (LacksKeyword (above ++ below) label ↔
          LacksKeyword above label ∧ LacksKeyword below label) ∧
        (LacksKeyword (above ++ below) label ↔
          (∃ keyword ∈ ertKeywords, keyword.required = true ∧ keyword.label = label) ∧
            ∀ line ∈ linesOf (above ++ below).toList,
              (contentWords line).head? ≠ some label.toList) := by
  have hlines := linesOf_append (h.imp_left (congrArg String.toList)) below.toList
  refine ⟨ownOfText_append h below, fun label => ⟨?_, lacksKeyword_iff⟩⟩
  rw [lacksKeyword_iff, lacksKeyword_iff, lacksKeyword_iff, String.toList_append, hlines,
    List.forall_mem_append]
  exact and_and_left

/-- An unknown keyword behind a line is reported in the line after it. -/
theorem ofText_append_unknownKeyword :
    ("NUM_REALIZATIONS 10\n" = "" ∨ "NUM_REALIZATIONS 10\n".toList.getLast? = some '\n') ∧
      ownOfText ("NUM_REALIZATIONS 10\n" ++ "BOGUS 1") =
        ownOfText "NUM_REALIZATIONS 10\n" ++ (ownOfText "BOGUS 1").map (movedDown 1) ∧
      (LacksKeyword ("NUM_REALIZATIONS 10\n" ++ "BOGUS 1") "NUM_REALIZATIONS" ↔
        LacksKeyword "NUM_REALIZATIONS 10\n" "NUM_REALIZATIONS" ∧
          LacksKeyword "BOGUS 1" "NUM_REALIZATIONS") := by
  have hends : "NUM_REALIZATIONS 10\n".toList.getLast? = some '\n' := by decide
  have hlength : (linesOf "NUM_REALIZATIONS 10\n".toList).length = 1 := by
    have hlines := @linesOf_of_break "NUM_REALIZATIONS 10".toList (by decide) []
    rw [linesOf_nil] at hlines
    exact congrArg List.length hlines
  obtain ⟨hown, hlacks⟩ := ofText_append "NUM_REALIZATIONS 10\n" "BOGUS 1" (.inr hends)
  rw [hlength] at hown
  exact ⟨.inr hends, hown, (hlacks _).1⟩

end Diagnostic

end EnsembleDesk
