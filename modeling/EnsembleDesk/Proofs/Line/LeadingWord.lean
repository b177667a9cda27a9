import EnsembleDesk.Proofs.Grammar.Kinds
import EnsembleDesk.Proofs.Line.ArgumentWords
import EnsembleDesk.Proofs.Line.Covering
import EnsembleDesk.Proofs.Schema.Labels
import EnsembleDesk.Proofs.Text.LeadingWords
/-!
# Reading the word that leads a line

The grammar of configurations reads the word that leads a line in its root mode, and leaves that
mode with it: arguments are read in modes of words, the job of `FORWARD_MODEL` in a mode of its own
(`ErtGrammar.ledBy_tokensOf`).

Colons and parentheses do not meet in a configuration line. The jobs of the forward model are the
only arguments with parentheses, and no parameter is given by name among them; behind any other
keyword a parenthesis is part of a word: `Language.delimiters_behind_keyword`.
-/

namespace EnsembleDesk

open LineGrammar ErtGrammar EnsembleDesk.Language

namespace ErtGrammar

/-- The modes in which queues and their options are read. -/
def queueModes : List Mode :=
  [.queueSystem, .queueOption, .lsfQueue, .slurmQueue, .torqueQueue, .localQueue]

/-- The modes behind the keywords whose arguments have no parentheses. -/
def wordStacks : List ModeStack := (argumentModes ++ queueModes).map (⟨·, [.root]⟩)

/-- The mode of a job. -/
def jobStack : ModeStack := ⟨.forwardModel, [.root]⟩

/-- The modes of what stands between the parentheses of a job. -/
def callStack : ModeStack := ⟨.forwardModelParams, [.forwardModel, .root]⟩

/-- The modes of a job and of what stands between its parentheses. -/
def jobStacks : List ModeStack := [jobStack, callStack]

/-- Blanks are skipped in every mode. -/
theorem skipsBlanks_rulesOf (mode : Mode) :
    ∀ rule ∈ ertGrammar.rulesOf mode, rule.SkipsBlanks := by
  have hskips : ∀ mode ∈ Mode.all, ∀ rule ∈ ertGrammar.rulesOf mode, rule.skips = true := by
    decide +kernel
  exact fun rule hrule => Rule.skipsBlanks_of_skips (hskips mode mode.mem_all rule hrule)

/-! ### The word that leads a line -/

/-- The token that a word becomes that leads a line. -/
def leadingToken (line : Nat) (word : WordSpan) : Token :=
  let known := Keyword.find? ertGrammar.keywords (String.ofList word.text)
  ertGrammar.token line word.start (if known.isSome then .keyword else .invalid) word.text

/-- The token of a word that leads a line refers to the keyword of the word. -/
theorem keyword_leadingToken (line : Nat) (word : WordSpan) :
    (leadingToken line word).keyword =
      Keyword.find? ertGrammar.keywords (String.ofList word.text) := by
  rw [leadingToken, Grammar.token]
  cases Keyword.find? ertGrammar.keywords (String.ofList word.text) <;> rfl

/-- The token of a word that leads a line is a keyword if the word is one, and invalid otherwise. -/
theorem kind_leadingToken (line : Nat) (word : WordSpan) :
    (leadingToken line word).kind =
      if (leadingToken line word).keyword.isSome then .keyword else .invalid := by
  rw [keyword_leadingToken]
  rfl

/-- Every word that leads a line is accepted by one of the rules of the root mode. -/
theorem exists_rootCase (text : List Char) :
    ∃ arm, rootCases.find? (·.matcher.accepts ertGrammar.keywords (String.ofList text)) =
      some arm :=
  Option.isSome_iff_exists.1 (List.find?_isSome.2 ⟨_, List.mem_append_right _
    (List.mem_cons_of_mem _ List.mem_cons_self), rfl⟩)

/-- The word that leads a line is a keyword just if the table has it. -/
theorem kind_of_rootCases {text : String} {arm : Case}
    (harm : rootCases.find? (·.matcher.accepts ertGrammar.keywords text) = some arm) :
    arm.kind = if (Keyword.find? ertGrammar.keywords text).isSome then .keyword else .invalid := by
  have hrouted : ∀ entry ∈ routedKeywords,
      (Keyword.find? ertGrammar.keywords entry.1).isSome = true := by decide +kernel
  have hknown : (Keyword.find? ertGrammar.keywords text).isSome =
      ertGrammar.keywords.any (·.label == text) := by
    rw [Bool.eq_iff_iff, Keyword.find?, List.find?_isSome, List.any_eq_true]
  rw [rootCases, List.find?_append] at harm
  rcases Option.or_eq_some_iff.1 harm with hroute | ⟨-, hother⟩
  · obtain ⟨⟨label, mode⟩, hentry, rfl⟩ := List.mem_map.1 (List.mem_of_find?_eq_some hroute)
    have haccepts := List.find?_some hroute
    obtain rfl : label = text := beq_iff_eq.1 haccepts
    rw [if_pos (hrouted _ hentry)]
  · rw [List.find?_cons] at hother
    rw [hknown]
    -- of the cases that are left, one is that of the table, and the other one applies always
    simp only [Matcher.accepts] at hother
    cases hany : ertGrammar.keywords.any (·.label == text) <;> rw [hany] at hother <;>
      cases hother <;> rfl

/-- The modes behind a word that leads a line. -/
def Behind (word : List Char) (stack : ModeStack) : Prop :=
  stack ∈ wordStacks ∨ word = "FORWARD_MODEL".toList ∧ stack = jobStack

/-- The word that leads a line leaves the mode of the beginning. -/
theorem behind_of_rootCases {text : List Char} {arm : Case}
    (harm : rootCases.find? (·.matcher.accepts ertGrammar.keywords (String.ofList text)) = some arm)
    (lineEnds : Bool) : Behind text ((arm.action.resolve lineEnds).apply ⟨.root, []⟩) := by
  have hrouted : ∀ entry ∈ routedKeywords,
      ⟨entry.2, [.root]⟩ ∈ wordStacks ∨ entry = ("FORWARD_MODEL", .forwardModel) := by decide
  have hpush : ∀ mode, ((Action.mk (.push mode) none).resolve lineEnds).apply ⟨.root, []⟩ =
      ⟨mode, [.root]⟩ := fun mode => by cases lineEnds <;> rfl
  have haccepts := List.find?_some harm
  rcases List.mem_append.1 (List.mem_of_find?_eq_some harm) with hroute | hother
  · obtain ⟨⟨label, mode⟩, hentry, rfl⟩ := List.mem_map.1 hroute
    rw [hpush]
    rcases hrouted _ hentry with hstack | hjob
    · exact .inl hstack
    · obtain ⟨rfl, rfl⟩ := Prod.mk.inj hjob
      exact .inr ⟨by rw [beq_iff_eq.1 haccepts, String.toList_ofList], rfl⟩
  · rcases List.mem_pair.1 hother with rfl | rfl <;> exact .inl (hpush _ ▸ by decide)

/-! ### Reading -/

/-- The tokens that carry meaning, of a line that a word leads, or of one that no word leads. -/
inductive LedBy (line : Nat) : Option WordSpan → List Token → Prop where
  /-- No word leads the line. -/
  | nothing : LedBy line none []
  /-- A word leads the line; what is left is read in the modes behind it. -/
  | word {word stack} (hbehind : Behind word.text stack) (column : Nat) (rest : List Char) :
    LedBy line (some word) (leadingToken line word ::
      (ertGrammar.tokensFrom line column stack rest).filter Token.significant)

/-- What leads a line is read first. -/
theorem ledBy_tokensFrom (line column : Nat) (rest : List Char) :
    LedBy line (firstLeading? column (splitAtChar '\n' rest))
      ((ertGrammar.tokensFrom line column ⟨.root, []⟩ rest).filter Token.significant) := by
  have hroot : ertGrammar.rulesOf .root = wordRules rootCases := rfl
  have hleads : ∀ arm ∈ rootCases, arm.kind.significant = true := by decide +kernel
  generalize hstack : (⟨.root, []⟩ : ModeStack) = stack
  -- the mode stays that of the beginning until a word is read that leads the line
  induction column, stack, rest using Grammar.reading_induction ertGrammar line with
  | hnil column stack =>
    rw [Grammar.tokensFrom_nil, firstLeading?_nil]
    exact .nothing
  | hcons column stack c rest found hfound ih =>
    subst hstack
    rw [Grammar.tokensFrom_cons hfound, List.filter_append]
    -- blanks and comments are passed over, and any other word leads the line
    cases hc : isBlank c with
    | true =>
      obtain ⟨blanks, more, hline, hblanks, hlength, hkept, htokens⟩ :=
        hfound ▸ Grammar.step_blank (skipsBlanks_rulesOf .root) hc
      have ih := ih hkept.symm
      rw [hline, hlength, List.drop_left] at ih
      rw [htokens, List.nil_append, hline, firstLeading?_of_blanks hblanks, hlength, List.drop_left]
      exact ih
    | false =>
      cases hcomment : startsWith (c :: rest) ['-', '-'] with
      | true =>
        rw [Grammar.step_commentText hroot hcomment] at hfound
        subst hfound
        have ih := ih rfl
        rw [Grammar.drop_length_takeWhile] at ih
        rw [firstLeading?_of_comment hcomment, Grammar.drop_length_takeWhile]
        exact ih
      | false =>
        obtain ⟨arm, harm⟩ := exists_rootCase ((c :: rest).takeWhile (!isBlank ·))
        rw [Grammar.step_word hroot hc hcomment harm] at hfound
        subst hfound
        have hkept :
            [ertGrammar.token line column arm.kind ((c :: rest).takeWhile (!isBlank ·))].filter
                Token.significant =
              [leadingToken line ⟨(c :: rest).takeWhile (!isBlank ·), column⟩] := by
          rw [leadingToken, ← kind_of_rootCases harm]
          exact List.filter_cons_of_pos (hleads arm (List.mem_of_find?_eq_some harm))
        rw [hkept, firstLeading?_of_word hc hcomment]
        exact .word (behind_of_rootCases harm _) _ _

/-- What leads a line is its first token that carries meaning. -/
theorem ledBy_tokensOf (line : Nat) (text : String) :
    LedBy line (firstLeading? 1 (splitAtChar '\n' text.toList))
      ((ertGrammar.tokensOf line text).filter Token.significant) :=
  ledBy_tokensFrom line 1 text.toList

end ErtGrammar

/-! ### Delimiters behind a keyword -/

namespace ErtGrammar

/-- The only delimiter behind a keyword whose arguments have no parentheses is a colon. -/
theorem confines_wordStacks : ertGrammar.Confines wordStacks [':'] where
  rules := by decide +kernel
  actions := by decide +kernel
  default := by decide +kernel

/-- The delimiters of a job are parentheses and commas. -/
theorem confines_jobStacks : ertGrammar.Confines jobStacks ['(', ')', ','] where
  rules := by decide +kernel
  actions := by decide +kernel
  default := by decide +kernel

/-- In the mode of a job no parameter is given by name. -/
theorem not_colon_of_job (line column : Nat) (rest : List Char) :
    ∀ token ∈ (ertGrammar.tokensFrom line column jobStack rest).filter Token.significant,
      token.isDelimiter ":" = false := fun token htoken =>
  confines_jobStacks.isDelimiter_tokensFrom (rulesCover_grammar .ert) (by decide) (by decide) line
    column rest List.mem_cons_self token (List.mem_of_mem_filter htoken)

/-- The delimiters that may stand behind a word that leads a line. -/
inductive Separated (keyword : Option Keyword) (others : List Token) : Prop
  /-- The word is no keyword. -/
  | unknown (hkeyword : keyword = none)
  /-- No parenthesis is opened behind the keyword. -/
  | words (hopening : ∀ token ∈ others, token.isDelimiter "(" = false)
  /-- No parameter is given by name behind the keyword of a job. -/
  | job (hkeyword : keyword = Keyword.find? ertGrammar.keywords "FORWARD_MODEL")
      (hcolon : ∀ token ∈ others, token.isDelimiter ":" = false)

end ErtGrammar

/-- What separates the words behind the one that leads a configuration line. -/
theorem Language.delimiters_behind_keyword (line : Nat) (text : String) {head : Token}
    {others : List Token}
    (h : (ertGrammar.tokensOf line text).filter Token.significant = head :: others) :
    Separated head.keyword others := by
  have hled := h ▸ ledBy_tokensOf line text
  generalize firstLeading? 1 (splitAtChar '\n' text.toList) = leading at hled
  obtain _ | @⟨word, stack, hbehind, column, rest⟩ := hled
  rcases hbehind with hstack | ⟨hword, rfl⟩
  · refine .words fun token htoken => ?_
    exact confines_wordStacks.isDelimiter_tokensFrom (rulesCover_grammar .ert) (by decide)
      (by decide) line column rest hstack token (List.mem_of_mem_filter htoken)
  · exact .job (by rw [keyword_leadingToken, hword, String.ofList_toList])
      (not_colon_of_job line column rest)

end EnsembleDesk
