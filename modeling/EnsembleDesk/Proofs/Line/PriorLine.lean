import EnsembleDesk.Language
import EnsembleDesk.Line.Prior
import EnsembleDesk.Proofs.Grammar.WordModes
import EnsembleDesk.Proofs.Schema.Labels
/-!
# The lines that define a prior

The three modes of the grammar of priors that a line can be in read words, so the tokens that carry
meaning are those of its words before the comment. Read word by word, a line defines a prior if and
only if it is a name that is no keyword, a keyword, and as many numbers as the keyword counts.

## Main results

* `definesPrior_tokensOf_iff`: which lines define a prior.
-/

namespace EnsembleDesk

open Schema EnsembleDesk.Language

/-- Whether a word is the label of a keyword of priors. -/
def isPriorLabel (word : List Char) : Bool :=
  distKeywords.any (·.label == String.ofList word)

/-- The grammar of priors reads a line word by word. -/
theorem readsWords_distGrammar :
    distGrammar.ReadsWords [.root, .hasIdentifier, .afterKeyword] where
  rules mode hmode := by
    simp only [List.mem_cons, List.not_mem_nil, or_false] at hmode
    rcases hmode with rfl | rfl | rfl <;> rfl
  total mode hmode := by
    simp only [List.mem_cons, List.not_mem_nil, or_false] at hmode
    rcases hmode with rfl | rfl | rfl <;> exact ⟨_, List.mem_cons_of_mem _ List.mem_cons_self, rfl⟩
  significant := by decide +kernel
  stays := by decide +kernel
  targets := by decide +kernel

/-! ### The three modes -/

/-- The kinds of the keywords and of the other words in a mode that knows keywords, and the modes
that follow. -/
theorem wordTokens_of_keyword {mode : Mode} {kind : TokenKind} {action other : Action}
    (hcases : distGrammar.wordCases mode =
      [⟨.keyword, .keyword, action⟩, LineGrammar.anyWord kind other])
    (word : List Char) (words : List (List Char)) :
    distGrammar.wordTokens mode (word :: words) =
      if isPriorLabel word then
        distGrammar.token 0 0 .keyword word ::
          distGrammar.wordTokens (action.transition.target?.getD mode) words
      else
        distGrammar.token 0 0 kind word ::
          distGrammar.wordTokens (other.transition.target?.getD mode) words := by
  have hlabel : Matcher.accepts distGrammar.keywords (String.ofList word) .keyword =
      isPriorLabel word := rfl
  rw [Grammar.wordTokens, hcases, List.find?_cons, hlabel]
  cases isPriorLabel word <;> rfl

/-- The first word of a line of priors is a keyword, or else a name. -/
theorem wordTokens_root (word : List Char) (words : List (List Char)) :
    distGrammar.wordTokens .root (word :: words) =
      if isPriorLabel word then
        distGrammar.token 0 0 .keyword word :: distGrammar.wordTokens .afterKeyword words
      else
        distGrammar.token 0 0 .identifier word :: distGrammar.wordTokens .hasIdentifier words := by
  have hcases : distGrammar.wordCases .root =
      [⟨.keyword, .keyword, { transition := .push .afterKeyword }⟩,
        LineGrammar.anyWord .identifier
          { transition := .push .hasIdentifier, atLineEnd := some .stay }] := rfl
  exact wordTokens_of_keyword hcases word words

/-- Behind a name, words are names until a keyword comes. -/
theorem wordTokens_hasIdentifier (word : List Char) (words : List (List Char)) :
    distGrammar.wordTokens .hasIdentifier (word :: words) =
      if isPriorLabel word then
        distGrammar.token 0 0 .keyword word :: distGrammar.wordTokens .afterKeyword words
      else
        distGrammar.token 0 0 .identifier word :: distGrammar.wordTokens .hasIdentifier words := by
  have hcases : distGrammar.wordCases .hasIdentifier =
      [⟨.keyword, .keyword, { transition := .switch .afterKeyword }⟩,
        LineGrammar.anyWord .identifier LineGrammar.endAtLineEnd] := rfl
  exact wordTokens_of_keyword hcases word words

/-- The kind of a word behind the keyword. -/
def argumentKind (word : List Char) : TokenKind :=
  if isNumericLiteral (String.ofList word) then .number else .identifier

/-- Every word behind the keyword is an argument, of the kind that its text tells. -/
theorem wordTokens_afterKeyword (words : List (List Char)) :
    distGrammar.wordTokens .afterKeyword words =
      words.map fun word => distGrammar.token 0 0 (argumentKind word) word := by
  induction words with
  | nil => rfl
  | cons word words ih =>
    have hcases : distGrammar.wordCases .afterKeyword =
        [⟨.predicate isNumericLiteral, .number, LineGrammar.endAtLineEnd⟩,
          LineGrammar.anyWord .identifier LineGrammar.endAtLineEnd] := rfl
    have hnumber : Matcher.accepts distGrammar.keywords (String.ofList word)
        (.predicate isNumericLiteral) = isNumericLiteral (String.ofList word) := rfl
    rw [Grammar.wordTokens, hcases, List.find?_cons, hnumber, List.map_cons, ← ih, argumentKind]
    cases isNumericLiteral (String.ofList word) <;> rfl

/-! ### Lines of words -/

/-- A word is a label if and only if a keyword of priors has it as its label. -/
theorem isPriorLabel_iff {word : List Char} :
    isPriorLabel word = true ↔ ∃ keyword ∈ distKeywords, keyword.label = String.ofList word := by
  simp [isPriorLabel]

/-- What the tokens of a line that defines a prior are, apart from white space and comments. -/
def PriorTokens : List Token → Prop
  | name :: head :: numbers =>
    name.kind = .identifier ∧ head.kind = .keyword ∧
      ∃ keyword, head.keyword = some keyword ∧ keyword.arity = numbers.length ∧
        ∀ number ∈ numbers, number.kind = .number
  | _ => False

/-- Whether a line defines a prior is told by its tokens apart from white space and comments. -/
theorem definesPrior_iff {tokens : List Token} :
    definesPrior tokens = true ↔ PriorTokens (tokens.filter Token.significant) := by
  rw [definesPrior, PriorLine.ofTokens?]
  generalize tokens.filter Token.significant = significant
  -- a line with fewer than two such tokens has no keyword in its place
  match significant with
  | [] => exact ⟨nofun, nofun⟩
  | [_] => exact ⟨nofun, nofun⟩
  | name :: head :: numbers =>
    rw [PriorTokens]
    cases hkeyword : head.keyword with
    | none => simp [hkeyword]
    | some keyword =>
      simp only [hkeyword, Option.some.injEq, exists_eq_left', List.all_eq_true,
        decide_eq_true_eq]
      split
      · rename_i h
        exact ⟨fun _ => h, fun _ => rfl⟩
      · rename_i h
        exact ⟨nofun, fun h' => absurd h' h⟩

/-- Where tokens stand does not matter. -/
theorem priorTokens_map_unplaced {tokens : List Token} :
    PriorTokens (tokens.map Token.unplaced) ↔ PriorTokens tokens := by
  match tokens with
  | [] => exact Iff.rfl
  | [_] => exact Iff.rfl
  | name :: head :: numbers =>
    simp only [List.map_cons, PriorTokens, Token.unplaced, List.length_map, List.forall_mem_map]

/-- The words of a line that defines a prior: a name that is no keyword, a keyword, and as many
numbers as the keyword counts. -/
def PriorWords : List (List Char) → Prop
  | name :: head :: arguments =>
    (∀ keyword ∈ distKeywords, keyword.label ≠ String.ofList name) ∧
      ∃ keyword ∈ distKeywords, keyword.label = String.ofList head ∧
        arguments.length = keyword.arity ∧
        ∀ argument ∈ arguments, isNumericLiteral (String.ofList argument) = true
  | _ => False

/-- An argument is a number if and only if it is a numeric literal. -/
theorem kind_argumentKind {word : List Char} :
    argumentKind word = .number ↔ isNumericLiteral (String.ofList word) = true := by
  rw [argumentKind]
  split <;> simp_all

/-- The tokens of the words of a line define a prior if and only if the words do. -/
theorem priorTokens_wordTokens_iff {words : List (List Char)} :
    PriorTokens (distGrammar.wordTokens .root words) ↔ PriorWords words := by
  match words with
  | [] => exact Iff.rfl
  | [name] =>
    rw [wordTokens_root]
    split <;> exact Iff.rfl
  | name :: head :: arguments =>
    rw [PriorWords, wordTokens_root]
    by_cases hname : isPriorLabel name = true
    -- the name is a keyword
    · obtain ⟨keyword, hkeyword, hlabel⟩ := isPriorLabel_iff.1 hname
      rw [if_pos hname, wordTokens_afterKeyword]
      exact ⟨fun h => (nomatch h.1), fun h => absurd hlabel (h.1 keyword hkeyword)⟩
    · have hfree : ∀ keyword ∈ distKeywords, keyword.label ≠ String.ofList name :=
        fun keyword hkeyword hlabel => hname (isPriorLabel_iff.2 ⟨keyword, hkeyword, hlabel⟩)
      rw [if_neg hname, wordTokens_hasIdentifier]
      by_cases hhead : isPriorLabel head = true
      · rw [if_pos hhead, wordTokens_afterKeyword, PriorTokens]
        simp only [List.length_map, List.forall_mem_map]
        have hkind : ∀ word, (distGrammar.token 0 0 (argumentKind word) word).kind = .number ↔
            isNumericLiteral (String.ofList word) = true := fun word => kind_argumentKind
        have hkeyword : (distGrammar.token 0 0 .keyword head).keyword =
            Keyword.find? distKeywords (String.ofList head) := rfl
        simp only [hkind, hkeyword, Keyword.find?_eq_some_iff nodup_distKeywords]
        constructor
        · rintro ⟨-, -, keyword, ⟨hmem, hlabel⟩, hlength, harguments⟩
          exact ⟨hfree, keyword, hmem, hlabel, hlength.symm, harguments⟩
        · rintro ⟨-, keyword, hmem, hlabel, hlength, harguments⟩
          exact ⟨rfl, rfl, keyword, ⟨hmem, hlabel⟩, hlength.symm, harguments⟩
      -- the second word is no keyword
      · rw [if_neg hhead]
        refine ⟨fun h => (nomatch h.2.1), fun ⟨_, keyword, hkeyword, hlabel, _⟩ => ?_⟩
        exact absurd (isPriorLabel_iff.2 ⟨keyword, hkeyword, hlabel⟩) hhead

/-- A line defines a prior if and only if its words before the comment are a name that is no
keyword, a keyword, and as many numbers as the keyword counts. -/
theorem definesPrior_tokensOf_iff (n : Nat) {line : String} (hline : '\n' ∉ line.toList) :
    definesPrior (Language.dist.tokensOf n line) = true ↔
      PriorWords (contentWords line.toList) := by
  have htokens : ((Language.dist.tokensOf n line).filter Token.significant).map Token.unplaced =
      distGrammar.wordTokens .root (contentWords line.toList) :=
    readsWords_distGrammar.significant_tokensFrom n hline (by simp [ModeStack.modes])
  rw [definesPrior_iff, ← priorTokens_map_unplaced, htokens, priorTokens_wordTokens_iff]

/-- A line with a comment behind its numbers, and one in which the comment swallows a number. -/
theorem definesPrior_normal_iff :
    definesPrior (Language.dist.tokensOf 1 "poro NORMAL 0 1.5 --flat") = true ∧
      ¬ definesPrior (Language.dist.tokensOf 1 "poro NORMAL 0 --1.5") = true := by
  have hwords : contentWords "poro NORMAL 0 1.5 --flat".toList =
      ["poro".toList, "NORMAL".toList, "0".toList, "1.5".toList] := by decide +kernel
  have hshort : contentWords "poro NORMAL 0 --1.5".toList =
      ["poro".toList, "NORMAL".toList, "0".toList] := by decide +kernel
  constructor
  · rw [definesPrior_tokensOf_iff 1 (by decide), hwords]
    exact ⟨by decide +kernel, distKeywords[0], by decide +kernel, rfl, rfl, by decide +kernel⟩
  · rw [definesPrior_tokensOf_iff 1 (by decide), hshort]
    rintro ⟨-, keyword, hmem, hlabel, hlength, -⟩
    have harity : ∀ keyword ∈ distKeywords, keyword.label = "NORMAL" → keyword.arity = 2 := by
      decide +kernel
    rw [harity keyword hmem hlabel] at hlength
    -- one number is left of the two
    cases hlength

end EnsembleDesk
