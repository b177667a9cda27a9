import EnsembleDesk.Proofs.Grammar.Reading
import EnsembleDesk.Proofs.Pattern.Runs
import EnsembleDesk.Proofs.Text.Words
import Mathlib.Data.List.TakeWhile
/-!
# Modes that read words

In many modes a line is read word by word: runs of spaces and tabs and comments are skipped, and a
word is classified by cases of which one always applies. Where the cases of some modes lead to these
modes only (`Grammar.ReadsWords`), the tokens that carry meaning are those of the words, each
classified in the mode that the words before it lead to: `Grammar.significant_tokensFrom`. White
space that no rule knows is read by the fallback and makes no difference.
-/

namespace EnsembleDesk

/-- The words of a line before its comment, which begins at the first word that begins with two
hyphens. -/
def contentWords (line : List Char) : List (List Char) :=
  (wordsOf line).takeWhile (!startsWith · ['-', '-'])

namespace LineGrammar

/-- The rules of a mode that reads words. -/
def wordRules (arms : List Case) : List Rule :=
  [⟨spaces, .kind .white {}⟩, ⟨comment, .kind .comment {}⟩, ⟨word, .cases arms⟩]

end LineGrammar

/-- A rule reads spaces and tabs, or its matches do not begin with a blank. -/
def Rule.SkipsBlanks (rule : Rule) : Prop :=
  rule = ⟨LineGrammar.spaces, .kind .white {}⟩ ∨
    ∀ c rest, isBlank c = true → rule.pattern.matchLength? (c :: rest) = none

/-- A token regardless of where it stands. -/
def Token.unplaced (token : Token) : Token := { token with line := 0, start := 0 }

namespace Grammar

open LineGrammar

variable {grammar : Grammar} {line column : Nat} {stack : ModeStack} {rest : List Char}

/-! ### Applying a rule -/

/-- A rule whose pattern does not match does not apply. -/
theorem applyRule?_of_none {rule : Rule} (h : rule.pattern.matchLength? rest = none) :
    grammar.applyRule? line column stack rest rule = none := by
  rw [applyRule?, Option.map_eq_none_iff.1 h]
  rfl

/-- A rule of one kind makes a token of its match. -/
theorem applyRule?_kind {pattern : Pattern} {kind : TokenKind} {action : Action} {n : Nat}
    (h : pattern.matchLength? rest = some n) (hn : n ≠ 0) :
    grammar.applyRule? line column stack rest ⟨pattern, .kind kind action⟩ =
      some ⟨[grammar.token line column kind (rest.take n)], n,
        (action.resolve (allBlank (rest.drop n))).apply stack⟩ := by
  obtain ⟨found, hfound, rfl⟩ := Option.map_eq_some_iff.1 h
  rw [applyRule?, hfound]
  exact if_neg hn

/-- A rule of cases makes a token of the kind of the first case that accepts the match. -/
theorem applyRule?_cases {pattern : Pattern} {arms : List Case} {n : Nat}
    (h : pattern.matchLength? rest = some n) (hn : n ≠ 0) {arm : Case}
    (harm : arms.find? (·.matcher.accepts grammar.keywords (String.ofList (rest.take n))) =
      some arm) :
    grammar.applyRule? line column stack rest ⟨pattern, .cases arms⟩ =
      some ⟨[grammar.token line column arm.kind (rest.take n)], n,
        (arm.action.resolve (allBlank (rest.drop n))).apply stack⟩ := by
  obtain ⟨found, hfound, rfl⟩ := Option.map_eq_some_iff.1 h
  rw [applyRule?, hfound]
  refine (if_neg hn).trans ?_
  rw [emitted?, harm]
  rfl

/-! ### One step in a mode that reads words -/

/-- What a run takes is the beginning of the text of its length. -/
theorem take_length_takeWhile {α : Type} (p : α → Bool) (text : List α) :
    text.take (text.takeWhile p).length = text.takeWhile p :=
  (List.prefix_iff_eq_take.1 (List.takeWhile_prefix p)).symm

/-- What a run leaves is the text without that beginning. -/
theorem drop_length_takeWhile {α : Type} (p : α → Bool) (text : List α) :
    text.drop (text.takeWhile p).length = text.dropWhile p := by
  conv => lhs; arg 2; rw [← List.takeWhile_append_dropWhile (p := p) (l := text)]
  exact List.drop_left

/-- A run that begins is not empty. -/
theorem length_takeWhile_cons_ne_zero {α : Type} {p : α → Bool} {a : α} (h : p a = true)
    (rest : List α) : ((a :: rest).takeWhile p).length ≠ 0 := by
  rw [List.takeWhile_cons_of_pos h]
  exact Nat.succ_ne_zero _

/-- Spaces and tabs are blank. -/
theorem isBlank_of_mem_spaces {c : Char} (h : [' ', '\t'].contains c = true) :
    isBlank c = true := by
  rcases List.mem_cons.1 (List.contains_iff_mem.1 h) with rfl | h
  · rfl
  · rw [List.mem_singleton.1 h]
    rfl

/-- No spaces are matched in front of something else. -/
theorem matchLength?_spaces_of_not {c : Char} (h : [' ', '\t'].contains c = false)
    (rest : List Char) : spaces.matchLength? (c :: rest) = none := by
  rw [matchLength?_spaces, List.takeWhile_cons_of_neg (by rw [h]; exact Bool.false_ne_true)]
  rfl

/-- A text that begins with a blank begins with no comment. -/
theorem startsWith_hyphens_of_blank {c : Char} (h : isBlank c = true) (rest : List Char) :
    startsWith (c :: rest) ['-', '-'] = false := by
  have hne : ('-' == c) = false := by
    rw [beq_eq_false_iff_ne]
    rintro rfl
    cases h
  rw [startsWith, List.isPrefixOf, hne, Bool.false_and]

/-- No comment is matched in front of a blank. -/
theorem matchLength?_comment_of_blank {c : Char} (h : isBlank c = true) (rest : List Char) :
    comment.matchLength? (c :: rest) = none := by
  rw [matchLength?_comment, startsWith_hyphens_of_blank h]
  rfl

/-- No word is matched in front of a blank. -/
theorem matchLength?_word_of_blank {c : Char} (h : isBlank c = true) (rest : List Char) :
    word.matchLength? (c :: rest) = none := by
  rw [matchLength?_word, List.takeWhile_cons_of_neg (by simp [h])]
  rfl

/-- The rules of words read spaces and tabs, or match nothing that begins with a blank. -/
theorem skipsBlanks_wordRules {arms : List Case} : ∀ rule ∈ wordRules arms, rule.SkipsBlanks := by
  intro rule hrule
  simp only [wordRules, List.mem_cons, List.not_mem_nil, or_false] at hrule
  rcases hrule with rfl | rfl | rfl
  · exact .inl rfl
  · exact .inr fun c rest h => matchLength?_comment_of_blank h rest
  · exact .inr fun c rest h => matchLength?_word_of_blank h rest

/-- An action that says nothing stays in its mode. -/
theorem resolve_default (lineEnds : Bool) : Action.resolve {} lineEnds = .stay := by
  cases lineEnds <;> rfl

section Blanks

/-- What a step does that skips blanks. -/
theorem step_skips {p : Char → Bool} {kind : TokenKind} {c : Char}
    (hkind : kind.significant = false) (hp : ∀ d, p d = true → isBlank d = true)
    (hstep : grammar.step line column stack (c :: rest) =
      ⟨[grammar.token line column kind ((c :: rest).takeWhile p)], ((c :: rest).takeWhile p).length,
        stack⟩) :
    ∃ blanks more, c :: rest = blanks ++ more ∧ (∀ d ∈ blanks, isBlank d = true) ∧
      (grammar.step line column stack (c :: rest)).length = blanks.length ∧
      (grammar.step line column stack (c :: rest)).stack = stack ∧
      (grammar.step line column stack (c :: rest)).tokens.filter Token.significant = [] := by
  refine ⟨(c :: rest).takeWhile p, (c :: rest).dropWhile p, List.takeWhile_append_dropWhile.symm,
    fun d hd => hp d (List.mem_takeWhile_imp hd), ?_⟩
  rw [hstep]
  refine ⟨rfl, rfl, ?_⟩
  rw [List.filter_cons_of_neg (by simp [Token.significant, token, hkind]), List.filter_nil]

/-- Blanks are skipped where every rule but that of spaces and tabs needs another character. -/
theorem step_blank (hskips : ∀ rule ∈ grammar.rulesOf stack.top, rule.SkipsBlanks) {c : Char}
    (hc : isBlank c = true) :
    ∃ blanks more, c :: rest = blanks ++ more ∧ (∀ d ∈ blanks, isBlank d = true) ∧
      (grammar.step line column stack (c :: rest)).length = blanks.length ∧
      (grammar.step line column stack (c :: rest)).stack = stack ∧
      (grammar.step line column stack (c :: rest)).tokens.filter Token.significant = [] := by
  rcases step_cases grammar line column stack (c :: rest) with ⟨rule, hrule, happly⟩ | hfallback
  · rcases hskips rule hrule with rfl | hnone
    · by_cases hspace : [' ', '\t'].contains c = true
      · have hlength : spaces.matchLength? (c :: rest) =
            some ((c :: rest).takeWhile [' ', '\t'].contains).length := by
          rw [matchLength?_spaces, List.takeWhile_cons_of_pos hspace]
          rfl
        rw [applyRule?_kind hlength (length_takeWhile_cons_ne_zero hspace rest),
          take_length_takeWhile, resolve_default] at happly
        exact step_skips rfl (fun d => isBlank_of_mem_spaces) (Option.some.inj happly).symm
      · rw [applyRule?_of_none (matchLength?_spaces_of_not (by simpa using hspace) rest)] at happly
        cases happly
    · rw [applyRule?_of_none (hnone c rest hc)] at happly
      cases happly
  -- no rule knows the blank
  · rw [fallback_cons, hc] at hfallback
    exact step_skips rfl (fun d hd => by simpa using hd) hfallback

end Blanks

section Step

variable {arms : List Case} (hrules : grammar.rulesOf stack.top = wordRules arms)

include hrules

/-- A comment goes to the next line feed. -/
theorem step_commentText (hcomment : startsWith rest ['-', '-'] = true) :
    grammar.step line column stack rest =
      ⟨[grammar.token line column .comment (rest.takeWhile (· != '\n'))],
        (rest.takeWhile (· != '\n')).length, stack⟩ := by
  obtain ⟨text, rfl⟩ := List.isPrefixOf_iff_prefix.1 hcomment
  have hlength : comment.matchLength? (['-', '-'] ++ text) =
      some ((['-', '-'] ++ text).takeWhile (· != '\n')).length := by
    rw [matchLength?_comment, if_pos hcomment, Nat.add_comm]
    rfl
  rw [step, hrules, wordRules, List.findSome?_cons,
    applyRule?_of_none (matchLength?_spaces_of_not rfl _), List.findSome?_cons,
    applyRule?_kind hlength (Nat.succ_ne_zero _), resolve_default, take_length_takeWhile]
  rfl

/-- Where there is no line feed, it goes to the end. -/
theorem step_comment (hcomment : startsWith rest ['-', '-'] = true) (hline : '\n' ∉ rest) :
    grammar.step line column stack rest =
      ⟨[grammar.token line column .comment rest], rest.length, stack⟩ := by
  have hwhole : rest.takeWhile (· != '\n') = rest := by
    rw [List.takeWhile_eq_self_iff]
    exact fun c hc => bne_iff_ne.2 fun heq => hline (heq ▸ hc)
  rw [step_commentText hrules hcomment, hwhole]

/-- A word is classified. -/
theorem step_word {c : Char} (hc : isBlank c = false)
    (hcomment : startsWith (c :: rest) ['-', '-'] = false) {arm : Case}
    (harm : arms.find? (·.matcher.accepts grammar.keywords
      (String.ofList ((c :: rest).takeWhile (!isBlank ·)))) = some arm) :
    grammar.step line column stack (c :: rest) =
      ⟨[grammar.token line column arm.kind ((c :: rest).takeWhile (!isBlank ·))],
        ((c :: rest).takeWhile (!isBlank ·)).length,
        (arm.action.resolve (allBlank ((c :: rest).dropWhile (!isBlank ·)))).apply stack⟩ := by
  have hlength : word.matchLength? (c :: rest) =
      some ((c :: rest).takeWhile (!isBlank ·)).length := by
    rw [matchLength?_word, List.takeWhile_cons_of_pos (by simp [hc])]
    rfl
  have hpos : ((c :: rest).takeWhile (!isBlank ·)).length ≠ 0 :=
    length_takeWhile_cons_ne_zero (by simp [hc]) rest
  -- the two rules that are tried before do not match
  have hnospace : [' ', '\t'].contains c = false := by
    rw [Bool.eq_false_iff]
    exact fun h => by simp [isBlank_of_mem_spaces h] at hc
  have hnocomment : comment.matchLength? (c :: rest) = none := by
    rw [matchLength?_comment, hcomment]
    rfl
  rw [step, hrules, wordRules, List.findSome?_cons,
    applyRule?_of_none (matchLength?_spaces_of_not hnospace rest), List.findSome?_cons,
    applyRule?_of_none hnocomment, List.findSome?_cons,
    applyRule?_cases hlength hpos (by rwa [take_length_takeWhile]), Option.getD_some,
    take_length_takeWhile, drop_length_takeWhile]

end Step

/-! ### Reading a line in modes that read words -/

/-- The cases by which a mode that reads words classifies them. -/
def wordCases (grammar : Grammar) (mode : Mode) : List Case :=
  match grammar.rulesOf mode with
  | [_, _, ⟨_, .cases arms⟩] => arms
  | _ => []

/-- The tokens of words, regardless of where they stand; the case that applies to a word also leads
to the mode of the next one. -/
def wordTokens (grammar : Grammar) : Mode → List (List Char) → List Token
  | _, [] => []
  | mode, word :: words =>
    match (grammar.wordCases mode).find?
        (·.matcher.accepts grammar.keywords (String.ofList word)) with
    | some arm =>
      grammar.token 0 0 arm.kind word ::
        wordTokens grammar (arm.action.transition.target?.getD mode) words
    | none => []

/-- Some modes read words: in each of them a case applies to every word and gives it a kind that
carries meaning, and the modes that follow are among them. Before the last word of a line no mode is
left for the one below it. -/
structure ReadsWords (grammar : Grammar) (modes : List Mode) : Prop where
  /-- The rules of the modes. -/
  rules : ∀ mode ∈ modes, grammar.rulesOf mode = wordRules (grammar.wordCases mode)
  /-- One case always applies. -/
  total : ∀ mode ∈ modes, ∃ arm ∈ grammar.wordCases mode, arm.matcher = .any
  /-- Words carry meaning. -/
  significant : ∀ mode ∈ modes, ∀ arm ∈ grammar.wordCases mode, arm.kind.significant = true
  /-- No mode is left. -/
  stays : ∀ mode ∈ modes, ∀ arm ∈ grammar.wordCases mode,
    arm.action.transition ≠ .pop ∧ arm.action.transition ≠ .popAll
  /-- The modes that follow are among them. -/
  targets : ∀ mode ∈ modes, ∀ arm ∈ grammar.wordCases mode,
    ∀ target ∈ arm.action.targets, target ∈ modes

end Grammar

/-- The modes of a stack. -/
def ModeStack.modes (stack : ModeStack) : List Mode := stack.top :: stack.below

/-- A transition brings no modes but the one that it enters. -/
theorem Transition.modes_apply {transition : Transition} {stack : ModeStack} {mode : Mode}
    (h : mode ∈ (transition.apply stack).modes) :
    mode ∈ stack.modes ∨ transition.target? = some mode := by
  obtain ⟨top, below⟩ := stack
  cases transition with
  | stay => exact .inl h
  | push target =>
    rcases List.mem_cons.1 h with rfl | h
    · exact .inr rfl
    · exact .inl h
  | pop =>
    cases below with
    | nil => exact .inl h
    | cons next below => exact .inl (List.mem_cons_of_mem _ h)
  | switch target =>
    rcases List.mem_cons.1 h with rfl | h
    · exact .inr rfl
    · exact .inl (List.mem_cons_of_mem _ h)
  | popAll =>
    rw [List.mem_singleton.1 h]
    exact .inl (List.getLast_mem _)

/-- A transition that leaves no mode leads to its target, or stays. -/
theorem Transition.top_apply {transition : Transition} (stack : ModeStack)
    (h : transition ≠ .pop ∧ transition ≠ .popAll) :
    (transition.apply stack).top = transition.target?.getD stack.top := by
  cases transition with
  | pop => exact absurd rfl h.1
  | popAll => exact absurd rfl h.2
  | _ => rfl

/-- An action leads to one of its targets. -/
theorem Action.mem_targets_of_resolve {action : Action} {lineEnds : Bool} {mode : Mode}
    (h : (action.resolve lineEnds).target? = some mode) : mode ∈ action.targets := by
  rw [targets, List.mem_append]
  cases lineEnds with
  | false => exact .inl (by simpa [resolve] using h)
  | true =>
    cases hend : action.atLineEnd with
    | none => exact .inl (by simpa [resolve, hend] using h)
    | some transition => exact .inr (by simpa [resolve, hend] using h)

/-! ### Content words -/

/-- A blank line has no words. -/
theorem contentWords_of_allBlank {line : List Char} (h : allBlank line = true) :
    contentWords line = [] := by
  rw [contentWords, wordsOf_of_allBlank h]
  rfl

/-- Blanks in front of a line do not count. -/
theorem contentWords_append_of_blank {blanks : List Char} (h : ∀ c ∈ blanks, isBlank c = true)
    (rest : List Char) : contentWords (blanks ++ rest) = contentWords rest := by
  rw [contentWords, wordsOf_append_of_blank h, contentWords]

/-- A comment has no words. -/
theorem contentWords_of_comment {line : List Char} (h : startsWith line ['-', '-'] = true) :
    contentWords line = [] := by
  obtain ⟨text, rfl⟩ := List.isPrefixOf_iff_prefix.1 h
  rw [contentWords, List.cons_append, wordsOf_cons rfl]
  exact List.takeWhile_cons_of_neg Bool.false_ne_true

/-- What a text does not begin with, its first word does not begin with either. -/
theorem startsWith_takeWhile {p : Char → Bool} {text beginning : List Char}
    (h : startsWith text beginning = false) : startsWith (text.takeWhile p) beginning = false := by
  rw [Bool.eq_false_iff]
  intro hword
  have hprefix := (List.isPrefixOf_iff_prefix.1 hword).trans (List.takeWhile_prefix _)
  rw [startsWith, List.isPrefixOf_iff_prefix.2 hprefix] at h
  cases h

/-- A line that begins with a word has that word and those behind it. -/
theorem contentWords_cons {c : Char} (hc : isBlank c = false) {rest : List Char}
    (h : startsWith (c :: rest) ['-', '-'] = false) :
    contentWords (c :: rest) =
      (c :: rest).takeWhile (!isBlank ·) ::
        contentWords ((c :: rest).dropWhile (!isBlank ·)) := by
  rw [contentWords, wordsOf_cons hc]
  exact List.takeWhile_cons_of_pos (by rw [startsWith_takeWhile h]; rfl)

namespace Grammar

variable {grammar : Grammar} {modes : List Mode}

/-- The modes after a step are modes that were there or are entered. -/
theorem ReadsWords.modes_resolve (hreads : grammar.ReadsWords modes) {stack : ModeStack}
    (hstack : ∀ mode ∈ stack.modes, mode ∈ modes) {arm : Case}
    (harm : arm ∈ grammar.wordCases stack.top) (lineEnds : Bool) :
    ∀ mode ∈ ((arm.action.resolve lineEnds).apply stack).modes, mode ∈ modes := by
  intro mode hmode
  rcases Transition.modes_apply hmode with hmode | htarget
  · exact hstack mode hmode
  · exact hreads.targets stack.top (hstack _ List.mem_cons_self) arm harm mode
      (Action.mem_targets_of_resolve htarget)

/-- A case applies to every word. -/
theorem ReadsWords.exists_arm (hreads : grammar.ReadsWords modes) {mode : Mode}
    (hmode : mode ∈ modes) (word : List Char) :
    ∃ arm ∈ grammar.wordCases mode, (grammar.wordCases mode).find?
      (·.matcher.accepts grammar.keywords (String.ofList word)) = some arm := by
  obtain ⟨last, hlast, hany⟩ := hreads.total mode hmode
  have hfound : ((grammar.wordCases mode).find?
      (·.matcher.accepts grammar.keywords (String.ofList word))).isSome = true :=
    List.find?_isSome.2 ⟨last, hlast, by rw [hany]; rfl⟩
  obtain ⟨arm, harm⟩ := Option.isSome_iff_exists.1 hfound
  exact ⟨arm, List.mem_of_find?_eq_some harm, harm⟩

/-- Behind the last word no mode matters; before it the case that applies leads to the next mode. -/
theorem ReadsWords.wordTokens_resolve (hreads : grammar.ReadsWords modes) {stack : ModeStack}
    (htop : stack.top ∈ modes) {arm : Case} (harm : arm ∈ grammar.wordCases stack.top)
    {rest : List Char} :
    grammar.wordTokens ((arm.action.resolve (allBlank rest)).apply stack).top (contentWords rest) =
      grammar.wordTokens (arm.action.transition.target?.getD stack.top) (contentWords rest) := by
  cases hblank : allBlank rest with
  | true => rw [contentWords_of_allBlank hblank, wordTokens, wordTokens]
  | false =>
    exact congrArg (grammar.wordTokens · _)
      (Transition.top_apply stack (hreads.stays stack.top htop arm harm))

/-- The tokens that carry meaning are those of the words before the comment. -/
theorem ReadsWords.significant_tokensFrom (hreads : grammar.ReadsWords modes) (line : Nat)
    {column : Nat} {stack : ModeStack} {rest : List Char} (hline : '\n' ∉ rest)
    (hstack : ∀ mode ∈ stack.modes, mode ∈ modes) :
    ((grammar.tokensFrom line column stack rest).filter Token.significant).map Token.unplaced =
      grammar.wordTokens stack.top (contentWords rest) := by
  induction column, stack, rest using reading_induction grammar line with
  | hnil column stack =>
    rw [tokensFrom_nil, contentWords_of_allBlank rfl]
    rfl
  | hcons column stack c rest found hstep ih =>
    have htop := hstack stack.top List.mem_cons_self
    have hrules := hreads.rules stack.top htop
    have hnext : '\n' ∉ (c :: rest).drop found.length := fun h => hline (List.mem_of_mem_drop h)
    rw [tokensFrom_cons hstep, List.filter_append, List.map_append]
    cases hc : isBlank c with
    | true =>
      -- neither the modes nor the words of the line have changed
      obtain ⟨blanks, more, hline, hblank, hlength, hkept, htokens⟩ :=
        hstep ▸ step_blank (hrules ▸ skipsBlanks_wordRules) hc
      rw [htokens, ih hnext (hkept ▸ hstack), hkept, hlength, hline, List.drop_left,
        contentWords_append_of_blank hblank]
      rfl
    | false =>
      cases hcomment : startsWith (c :: rest) ['-', '-'] with
      | true =>
        rw [step_comment hrules hcomment hline] at hstep
        rw [← hstep, List.drop_length, tokensFrom_nil, contentWords_of_comment hcomment]
        rfl
      | false =>
        obtain ⟨arm, hmem, harm⟩ :=
          hreads.exists_arm htop ((c :: rest).takeWhile (!isBlank ·))
        rw [step_word hrules hc hcomment harm] at hstep
        subst hstep
        -- the word is kept by its kind, and the words behind it are read in the next mode
        have hkept :
            [grammar.token line column arm.kind ((c :: rest).takeWhile (!isBlank ·))].filter
              Token.significant = [_] :=
          List.filter_cons_of_pos (hreads.significant stack.top htop arm hmem)
        rw [ih hnext (hreads.modes_resolve hstack hmem _), drop_length_takeWhile,
          hreads.wordTokens_resolve htop hmem, contentWords_cons hc hcomment, wordTokens, harm]
        exact congrArg (·.map Token.unplaced ++ _) hkept

end Grammar

end EnsembleDesk
