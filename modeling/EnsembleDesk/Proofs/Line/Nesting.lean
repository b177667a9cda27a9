import EnsembleDesk.Proofs.Line.Arguments
import EnsembleDesk.Proofs.Line.LeadingWord
import Mathlib.Data.Int.Notation
/-!
# Parentheses of a line

The parentheses that tokens open and do not close are counted by their `depth`. Where no parenthesis
is opened within another one, a token opens one, closes one or does neither (`Nested`), and the
number of open parentheses is one or zero (`Nested.depth_eq`). The grammar of configurations reads
all lines so: in the mode of a job a parenthesis is opened, which leads to the mode of what stands
within, and only there one is closed (`ErtGrammar.parenthesized_tokensOf`).
-/

namespace EnsembleDesk

open LineGrammar ErtGrammar EnsembleDesk.Language

/-! ### Depth -/

/-- What a token adds to the number of open parentheses. -/
def Token.parenthesis (token : Token) : ℤ :=
  if token.isDelimiter "(" then 1 else if token.isDelimiter ")" then -1 else 0

/-- The number of parentheses that tokens leave open, less that of those that they close and that
were open before. -/
def depth : List Token → ℤ
  | [] => 0
  | token :: tokens => token.parenthesis + depth tokens

/-- Each parenthesis is closed, and none is opened within another one. -/
structure Balanced (tokens : List Token) : Prop where
  /-- A parenthesis is closed only if it was opened before, and before another one is opened. -/
  bounded : ∀ before, before <+: tokens → 0 ≤ depth before ∧ depth before ≤ 1
  /-- None is left open. -/
  closed : depth tokens = 0

/-- One of some tokens closes the parenthesis that stands in front of them: between the two,
parentheses are closed just if they are opened there. -/
def ClosedBehind (tokens : List Token) : Prop :=
  ∃ between closing behind, tokens = between ++ closing :: behind ∧
    closing.isDelimiter ")" = true ∧ depth between = 0 ∧
    ∀ before, before <+: between → 0 ≤ depth before

@[simp]
theorem depth_nil : depth [] = 0 := rfl

/-- The depth is counted token by token. -/
@[simp]
theorem depth_cons (token : Token) (tokens : List Token) :
    depth (token :: tokens) = token.parenthesis + depth tokens := rfl

namespace Token

variable {token : Token}

/-- Whether a token is no parenthesis. -/
def isPlain (token : Token) : Bool := !token.isDelimiter "(" && !token.isDelimiter ")"

/-- A token that is no parenthesis is neither an opening nor a closing one. -/
theorem isPlain_iff :
    token.isPlain = true ↔ token.isDelimiter "(" = false ∧ token.isDelimiter ")" = false := by
  rw [isPlain, Bool.and_eq_true, Bool.not_eq_true', Bool.not_eq_true']

/-- What is no delimiter is no parenthesis. -/
theorem isPlain_of_kind (h : token.kind ≠ .delimiter) : token.isPlain = true :=
  isPlain_iff.2 ⟨LineParts.isDelimiter_of_kind h, LineParts.isDelimiter_of_kind h⟩

/-- What carries no meaning is no parenthesis. -/
theorem isPlain_of_not_significant (h : token.significant = false) : token.isPlain = true := by
  refine isPlain_of_kind fun hkind => ?_
  rw [significant, hkind] at h
  cases h

/-- Parentheses carry meaning. -/
theorem significant_of_isPlain_eq_false (h : token.isPlain = false) : token.significant = true :=
  eq_true_of_ne_false fun hblank => ne_true_of_eq_false h (isPlain_of_not_significant hblank)

theorem isPlain_of_opening (h : token.isDelimiter "(" = true) : token.isPlain = false := by
  rw [isPlain, h]
  rfl

/-- A token is one delimiter at most. -/
theorem isDelimiter_of_ne {text other : String} (h : token.isDelimiter text = true)
    (hne : text ≠ other) : token.isDelimiter other = false := by
  simp only [isDelimiter, Bool.and_eq_true, beq_iff_eq] at h
  simp [isDelimiter, h.2, hne]

/-- An opening parenthesis adds one. -/
theorem parenthesis_of_opening (h : token.isDelimiter "(" = true) : token.parenthesis = 1 :=
  if_pos h

/-- A closing parenthesis takes one away. -/
theorem parenthesis_of_closing (h : token.isDelimiter ")" = true) : token.parenthesis = -1 := by
  rw [parenthesis, isDelimiter_of_ne h (by decide), h]
  rfl

/-- Other tokens add nothing. -/
theorem parenthesis_of_isPlain (h : token.isPlain = true) : token.parenthesis = 0 := by
  obtain ⟨hopening, hclosing⟩ := isPlain_iff.1 h
  rw [parenthesis, hopening, hclosing]
  rfl

end Token

/-! ### Parentheses that are not nested -/

/-- Tokens in which no parenthesis is opened within another one, and none is closed that was not
opened; before and after them a parenthesis may be open. -/
inductive Nested : Bool → List Token → Bool → Prop where
  /-- Nothing is opened or closed. -/
  | nil {isOpen} : Nested isOpen [] isOpen
  /-- A token that is no parenthesis. -/
  | plain {isOpen token tokens staysOpen} (h : token.isPlain = true)
    (hrest : Nested isOpen tokens staysOpen) : Nested isOpen (token :: tokens) staysOpen
  /-- A parenthesis is opened. -/
  | opening {token tokens staysOpen} (h : token.isDelimiter "(" = true)
    (hrest : Nested true tokens staysOpen) : Nested false (token :: tokens) staysOpen
  /-- A parenthesis is closed. -/
  | closing {token tokens staysOpen} (h : token.isDelimiter ")" = true)
    (hrest : Nested false tokens staysOpen) : Nested true (token :: tokens) staysOpen

namespace Nested

variable {isOpen middle staysOpen : Bool} {tokens others : List Token}

/-- Tokens without parentheses leave open what was open. -/
theorem of_isPlain (h : ∀ token ∈ tokens, token.isPlain = true) :
    Nested isOpen tokens isOpen := by
  induction tokens with
  | nil => exact .nil
  | cons token tokens ih =>
    obtain ⟨htoken, hrest⟩ := List.forall_mem_cons.1 h
    exact .plain htoken (ih hrest)

/-- Tokens that follow go on from what was left open. -/
theorem append (h : Nested isOpen tokens middle) (hothers : Nested middle others staysOpen) :
    Nested isOpen (tokens ++ others) staysOpen := by
  induction h with
  | nil => exact hothers
  | plain h _ ih => exact .plain h (ih hothers)
  | opening h _ ih => exact .opening h (ih hothers)
  | closing h _ ih => exact .closing h (ih hothers)

/-- In between tokens something is open or not. -/
theorem exists_of_append (h : Nested isOpen (tokens ++ others) staysOpen) :
    ∃ middle, Nested isOpen tokens middle ∧ Nested middle others staysOpen := by
  induction tokens generalizing isOpen with
  | nil => exact ⟨isOpen, .nil, h⟩
  | cons token tokens ih =>
    cases h with
    | plain htoken hrest =>
      obtain ⟨middle, hfirst, hsecond⟩ := ih hrest
      exact ⟨middle, .plain htoken hfirst, hsecond⟩
    | opening htoken hrest =>
      obtain ⟨middle, hfirst, hsecond⟩ := ih hrest
      exact ⟨middle, .opening htoken hfirst, hsecond⟩
    | closing htoken hrest =>
      obtain ⟨middle, hfirst, hsecond⟩ := ih hrest
      exact ⟨middle, .closing htoken hfirst, hsecond⟩

/-- White space and comments make no difference. -/
theorem filter_significant_iff :
    Nested isOpen (tokens.filter Token.significant) staysOpen ↔ Nested isOpen tokens staysOpen := by
  induction tokens generalizing isOpen with
  | nil => rfl
  | cons token tokens ih =>
    -- a token that is left out is no parenthesis
    cases hsignificant : token.significant with
    | false =>
      have hplain := Token.isPlain_of_not_significant hsignificant
      obtain ⟨hopening, hclosing⟩ := Token.isPlain_iff.1 hplain
      rw [List.filter_cons_of_neg (by simp [hsignificant]), ih]
      refine ⟨.plain hplain, fun h => ?_⟩
      cases h with
      | plain _ hrest => exact hrest
      | opening h => cases hopening.symm.trans h
      | closing h => cases hclosing.symm.trans h
    | true =>
      rw [List.filter_cons_of_pos hsignificant]
      constructor
      · intro h
        cases h with
        | plain h hrest => exact .plain h (ih.1 hrest)
        | opening h hrest => exact .opening h (ih.1 hrest)
        | closing h hrest => exact .closing h (ih.1 hrest)
      · intro h
        cases h with
        | plain h hrest => exact .plain h (ih.2 hrest)
        | opening h hrest => exact .opening h (ih.2 hrest)
        | closing h hrest => exact .closing h (ih.2 hrest)

/-- The number of open parentheses is one or zero. -/
theorem depth_eq (h : Nested isOpen tokens staysOpen) :
    (isOpen.toNat : ℤ) + depth tokens = staysOpen.toNat := by
  induction h with
  | nil => simp
  | plain h _ ih => rw [depth_cons, Token.parenthesis_of_isPlain h, Int.zero_add, ih]
  | opening h _ ih =>
    rw [depth_cons, Token.parenthesis_of_opening h, ← ih]
    simp
  | closing h _ ih =>
    rw [depth_cons, Token.parenthesis_of_closing h, ← ih, Bool.toNat_true, Bool.toNat_false]
    omega

/-- Tokens before and after which nothing is open are balanced. -/
theorem balanced (h : Nested false tokens false) : Balanced tokens where
  bounded before hbefore := by
    obtain ⟨behind, rfl⟩ := hbefore
    obtain ⟨middle, hfirst, -⟩ := h.exists_of_append
    have hdepth := hfirst.depth_eq
    cases middle <;> simp_all
  closed := by simpa using h.depth_eq

/-- Behind an opening parenthesis, the first one closes it. -/
theorem closedBehind_iff (h : Nested true tokens staysOpen) :
    ClosedBehind tokens ↔ ∃ token ∈ tokens, token.isDelimiter ")" = true := by
  constructor
  · rintro ⟨between, closing, behind, rfl, hclosing, -⟩
    exact ⟨closing, by simp, hclosing⟩
  · rintro ⟨token, htoken, hclosing⟩
    generalize hopen : true = isOpen at h
    -- in front of the parenthesis that closes it there are plain tokens only
    induction h with
    | nil => cases htoken
    | plain hplain _ ih =>
      have hplain' := (Token.isPlain_iff.1 hplain).2
      rcases List.mem_cons.1 htoken with rfl | htoken
      · cases hplain'.symm.trans hclosing
      · obtain ⟨between, closing, behind, rfl, hcloses, hdepth, hbounded⟩ := ih htoken hopen
        refine ⟨_ :: between, closing, behind, rfl, hcloses, ?_, fun before hbefore => ?_⟩
        · rw [depth_cons, Token.parenthesis_of_isPlain hplain, hdepth, Int.zero_add]
        · rcases List.prefix_cons_iff.1 hbefore with rfl | ⟨rest, rfl, hrest⟩
          · exact Int.le_refl 0
          · rw [depth_cons, Token.parenthesis_of_isPlain hplain, Int.zero_add]
            exact hbounded rest hrest
    | opening => cases hopen
    | closing hcloses _ _ =>
      refine ⟨[], _, _, rfl, hcloses, depth_nil, fun before hbefore => ?_⟩
      rw [List.prefix_nil.1 hbefore]
      exact Int.le_refl 0

end Nested

/-! ### Reading -/

/-- Whether a rule reads a character as a delimiter. -/
def Rule.delimits (rule : Rule) (c : Char) : Bool :=
  match rule.emit with
  | .kind kind _ => kind == .delimiter && rule.pattern == .char c
  | _ => false

namespace ErtGrammar

/-- Whether a parenthesis is open in the modes of a job. -/
def isOpenIn (stack : ModeStack) : Bool := stack == callStack

/-- Whether a rule opens a parenthesis only in the mode of a job, closes one only within, and leaves
the modes otherwise. -/
def nestsIn (stack : ModeStack) (rule : Rule) : Bool :=
  rule.emit.actions.all fun action =>
    let next := (action.resolve false).apply stack
    if rule.delimits '(' then stack == jobStack && next == callStack
    else if rule.delimits ')' then stack == callStack && next == jobStack
    else rule.yieldsOnly [','] && next == stack

variable {line column : Nat} {stack : ModeStack} {rest : List Char}

/-- Where only commas delimit there are no parentheses. -/
theorem isPlain_of_delimitsOnly {token : Token} (h : token.DelimitsOnly [',']) :
    token.isPlain = true :=
  Token.isPlain_iff.2 ⟨h.isDelimiter (c := '(') (by decide), h.isDelimiter (c := ')') (by decide)⟩

/-- A rule that reads a character as a delimiter yields it. -/
theorem tokens_of_delimits {rule : Rule} {c : Char} (h : rule.delimits c = true) {found : Cursor}
    (hfound : rule.pattern.match? rest = some found) {tokens : List Token} {action : Action}
    (hemitted : ertGrammar.emitted? line column found (rest.take found.offset) rule.emit =
      some (tokens, action)) : ∃ token, tokens = [token] ∧
        token.isDelimiter (String.ofList [c]) = true := by
  obtain ⟨pattern, emit⟩ := rule
  cases emit with
  | kind kind other =>
    simp only [Rule.delimits, Bool.and_eq_true, beq_iff_eq] at h
    obtain ⟨rfl, rfl⟩ := h
    cases hemitted
    rw [Pattern.take_of_match?_char hfound]
    exact ⟨_, rfl, by simp [Token.isDelimiter, Grammar.token]⟩
  | _ => cases h

/-- What a rule yields is opened and closed as it leads to other modes. -/
theorem nested_of_nestsIn (hstack : stack ∈ jobStacks) {rule : Rule}
    (hnests : nestsIn stack rule = true) {found : Cursor}
    (hfound : rule.pattern.match? rest = some found) {tokens : List Token} {action : Action}
    (hemitted : ertGrammar.emitted? line column found (rest.take found.offset) rule.emit =
      some (tokens, action)) :
    (action.resolve false).apply stack ∈ jobStacks ∧
      Nested (isOpenIn stack) tokens (isOpenIn ((action.resolve false).apply stack)) := by
  have hnext := List.all_eq_true.1 hnests action (Grammar.mem_actions_of_emitted? hemitted)
  -- a rule opens a parenthesis, closes one, or yields none
  by_cases hopening : rule.delimits '(' = true
  · rw [if_pos hopening, Bool.and_eq_true, beq_iff_eq, beq_iff_eq] at hnext
    obtain ⟨rfl, hnext⟩ := hnext
    obtain ⟨token, rfl, htoken⟩ := tokens_of_delimits hopening hfound hemitted
    rw [hnext]
    exact ⟨by decide, .opening htoken .nil⟩
  · rw [if_neg hopening] at hnext
    by_cases hclosing : rule.delimits ')' = true
    · rw [if_pos hclosing, Bool.and_eq_true, beq_iff_eq, beq_iff_eq] at hnext
      obtain ⟨rfl, hnext⟩ := hnext
      obtain ⟨token, rfl, htoken⟩ := tokens_of_delimits hclosing hfound hemitted
      rw [hnext]
      exact ⟨by decide, .closing htoken .nil⟩
    · rw [if_neg hclosing, Bool.and_eq_true, beq_iff_eq] at hnext
      rw [hnext.2]
      exact ⟨hstack, .of_isPlain fun token htoken => isPlain_of_delimitsOnly
        (Grammar.delimitsOnly_emitted? hnext.1 hfound hemitted token htoken)⟩

/-- A step opens and closes what leads to the modes after it. -/
theorem nested_step (hstack : stack ∈ jobStacks) (line column : Nat) (c : Char)
    (rest : List Char) :
    ∃ next ∈ jobStacks,
      Nested (isOpenIn stack) (ertGrammar.step line column stack (c :: rest)).tokens
        (isOpenIn next) ∧
      ((ertGrammar.step line column stack (c :: rest)).stack = next ∨
        allBlank ((c :: rest).drop (ertGrammar.step line column stack (c :: rest)).length) =
          true) := by
  have hnests : ∀ stack ∈ jobStacks, ∀ rule ∈ ertGrammar.rulesOf stack.top,
      nestsIn stack rule = true := by decide +kernel
  rcases Grammar.step_cases ertGrammar line column stack (c :: rest) with
    ⟨rule, hrule, happly⟩ | hfallback
  · obtain ⟨found, tokens, action, hfound, -, hemitted, hstep⟩ :=
      Grammar.applyRule?_eq_some happly
    obtain ⟨hnext, hnested⟩ :=
      nested_of_nestsIn hstack (hnests stack hstack rule hrule) hfound hemitted
    rw [hstep]
    refine ⟨_, hnext, hnested, ?_⟩
    cases hblank : allBlank ((c :: rest).drop found.offset) with
    | true => exact .inr rfl
    | false => exact .inl rfl
  · rw [hfallback, Grammar.fallback_cons]
    refine ⟨stack, hstack, .plain (Token.isPlain_of_kind ?_) .nil, .inl rfl⟩
    cases isBlank c <;> exact TokenKind.noConfusion

/-- In the modes of a job no parenthesis is opened within another one. -/
theorem nested_tokensFrom (hstack : stack ∈ jobStacks) (line column : Nat) (rest : List Char) :
    ∃ staysOpen, Nested (isOpenIn stack)
      ((ertGrammar.tokensFrom line column stack rest).filter Token.significant) staysOpen := by
  induction column, stack, rest using Grammar.reading_induction ertGrammar line with
  | hnil column stack =>
    rw [Grammar.tokensFrom_nil]
    exact ⟨_, .nil⟩
  | hcons column stack c rest found hfound ih =>
    obtain ⟨next, hnext, hnested, hreaches⟩ := hfound ▸ nested_step hstack line column c rest
    rw [Grammar.tokensFrom_cons hfound, List.filter_append]
    rcases hreaches with rfl | hblank
    · obtain ⟨staysOpen, hrest⟩ := ih hnext
      exact ⟨staysOpen, (Nested.filter_significant_iff.2 hnested).append hrest⟩
    · rw [Grammar.significant_of_blank (skipsBlanks_rulesOf _) _ _ (List.dropWhile_eq_nil_iff.2
        (List.all_eq_true.1 hblank)), List.append_nil]
      exact ⟨_, Nested.filter_significant_iff.2 hnested⟩

/-- In the modes of words there are no parentheses. -/
theorem isPlain_wordStacks (hstack : stack ∈ wordStacks) (line column : Nat) (rest : List Char) :
    ∀ token ∈ ertGrammar.tokensFrom line column stack rest, token.isPlain = true := by
  intro token htoken
  have hother : ∀ c, c ∉ [':'] → isBlank c = false →
      token.isDelimiter (String.ofList [c]) = false := fun c hc hblank =>
    confines_wordStacks.isDelimiter_tokensFrom (rulesCover_grammar .ert) hc hblank line column rest
      hstack token htoken
  exact Token.isPlain_iff.2 ⟨hother '(' (by decide) rfl, hother ')' (by decide) rfl⟩

/-- The token that leads a line is no parenthesis. -/
theorem isPlain_leadingToken (line : Nat) (word : WordSpan) :
    (leadingToken line word).isPlain = true := by
  refine Token.isPlain_of_kind ?_
  rw [kind_leadingToken]
  split <;> exact TokenKind.noConfusion

/-- The parentheses of the tokens of a line that carry meaning. -/
inductive Parenthesized : List Token → Prop where
  /-- There are none. -/
  | plain {tokens} (h : ∀ token ∈ tokens, token.isPlain = true) : Parenthesized tokens
  /-- They are those of a job, in which no parameter is given by name. -/
  | job {head others keyword staysOpen} (hhead : head.isPlain = true)
    (hkeyword : head.keyword = some keyword) (hnested : Nested false others staysOpen)
    (hcolon : ∀ token ∈ others, token.isDelimiter ":" = false) : Parenthesized (head :: others)

/-- However the tokens of a line are parenthesized, they are nested. -/
theorem Parenthesized.exists_nested {tokens : List Token} (h : Parenthesized tokens) :
    ∃ staysOpen, Nested false tokens staysOpen := by
  cases h with
  | plain h => exact ⟨_, .of_isPlain h⟩
  | job hhead _ hnested _ => exact ⟨_, .plain hhead hnested⟩

/-- The tokens of every line that carry meaning are parenthesized. -/
theorem parenthesized_tokensOf (line : Nat) (text : String) :
    Parenthesized ((ertGrammar.tokensOf line text).filter Token.significant) := by
  have hled := ledBy_tokensOf line text
  generalize firstLeading? 1 (splitAtChar '\n' text.toList) = leading at hled
  generalize (ertGrammar.tokensOf line text).filter Token.significant = tokens at hled ⊢
  cases hled with
  | nothing => exact .plain (List.forall_mem_nil _)
  | @word word stack hbehind column rest =>
    have hhead := isPlain_leadingToken line word
    rcases hbehind with hstack | ⟨hword, rfl⟩
    · refine .plain (List.forall_mem_cons.2 ⟨hhead, fun token htoken => ?_⟩)
      exact isPlain_wordStacks hstack line column rest token (List.mem_of_mem_filter htoken)
    · have hknown : (Keyword.find? ertGrammar.keywords "FORWARD_MODEL").isSome = true := by
        decide +kernel
      obtain ⟨keyword, hkeyword⟩ := Option.isSome_iff_exists.1 hknown
      rw [← String.ofList_toList (s := "FORWARD_MODEL"), ← hword, ← keyword_leadingToken line]
        at hkeyword
      have hstack : jobStack ∈ jobStacks := List.mem_cons_self
      obtain ⟨staysOpen, hnested⟩ := nested_tokensFrom hstack line column rest
      exact .job hhead hkeyword hnested (not_colon_of_job line column rest)

end ErtGrammar

end EnsembleDesk
