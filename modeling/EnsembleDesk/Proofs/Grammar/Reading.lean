import EnsembleDesk.Grammar.Line
import EnsembleDesk.Proofs.Pattern.Ends
/-!
# The reading of a line, step by step

A step applies a rule of the current mode or, if none applies, the fallback (`Grammar.step_cases`).
Either way it takes at least one character (`Grammar.length_step_pos`), so that the tokens of a line
are those of a step and of what the step leaves (`Grammar.tokensFrom_cons`), and what every step
carries back holds of every line (`Grammar.reading_induction`), and what it says of its tokens holds
of all tokens (`Grammar.forall_tokensFrom`).
-/

namespace EnsembleDesk

namespace Grammar

variable {grammar : Grammar} {line column : Nat} {stack : ModeStack} {rest : List Char}

/-- What a rule does that applies. -/
theorem applyRule?_eq_some {rule : Rule} {step : Step}
    (h : grammar.applyRule? line column stack rest rule = some step) :
    ∃ found tokens action, rule.pattern.match? rest = some found ∧ 0 < found.offset ∧
      grammar.emitted? line column found (rest.take found.offset) rule.emit =
        some (tokens, action) ∧
      step = ⟨tokens, found.offset,
        (action.resolve (allBlank (rest.drop found.offset))).apply stack⟩ := by
  obtain ⟨found, hfound, h⟩ := Option.bind_eq_some_iff.1 h
  split at h
  · cases h
  · rename_i hoffset
    obtain ⟨⟨tokens, action⟩, hemitted, h⟩ := Option.bind_eq_some_iff.1 h
    cases h
    exact ⟨found, tokens, action, hfound, Nat.pos_of_ne_zero hoffset, hemitted, rfl⟩

/-- The actions of a match are those of its rule. -/
theorem mem_actions_of_emitted? {found : Cursor} {matched : List Char} {emit : Emit}
    {tokens : List Token} {action : Action}
    (h : grammar.emitted? line column found matched emit = some (tokens, action)) :
    action ∈ emit.actions := by
  cases emit with
  | kind kind other =>
    cases h
    exact List.mem_singleton_self _
  | groups kinds other =>
    cases h
    exact List.mem_singleton_self _
  | cases arms =>
    obtain ⟨arm, harm, heq⟩ := Option.map_eq_some_iff.1 h
    cases heq
    exact List.mem_map_of_mem (List.mem_of_find?_eq_some harm)

/-- A step applies a rule of the current mode, or the fallback. -/
theorem step_cases (grammar : Grammar) (line column : Nat) (stack : ModeStack) (rest : List Char) :
    (∃ rule ∈ grammar.rulesOf stack.top, grammar.applyRule? line column stack rest rule =
        some (grammar.step line column stack rest)) ∨
      grammar.step line column stack rest = grammar.fallback line column stack rest := by
  rw [step]
  cases hstep : (grammar.rulesOf stack.top).findSome? (grammar.applyRule? line column stack rest)
    with
  | none => exact .inr rfl
  | some step => exact .inl (List.exists_of_findSome?_eq_some hstep)

/-- The fallback reads a run of blanks, or of characters that are not blank. -/
theorem fallback_cons (grammar : Grammar) (line column : Nat) (stack : ModeStack) (c : Char)
    (rest : List Char) :
    grammar.fallback line column stack (c :: rest) =
      ⟨[grammar.token line column (if isBlank c then .white else grammar.defaultKind)
        ((c :: rest).takeWhile fun other => isBlank other == isBlank c)],
        ((c :: rest).takeWhile fun other => isBlank other == isBlank c).length, stack⟩ := rfl

/-- A step takes something. -/
theorem length_step_pos (grammar : Grammar) (line column : Nat) (stack : ModeStack) (c : Char)
    (rest : List Char) : 0 < (grammar.step line column stack (c :: rest)).length := by
  rcases step_cases grammar line column stack (c :: rest) with ⟨rule, -, happly⟩ | hfallback
  · obtain ⟨found, tokens, action, -, hpos, -, hstep⟩ := applyRule?_eq_some happly
    rw [hstep]
    exact hpos
  · rw [hfallback, fallback_cons]
    exact List.length_pos_iff.2 (by simp)

@[simp]
theorem tokensFrom_nil (grammar : Grammar) (line column : Nat) (stack : ModeStack) :
    grammar.tokensFrom line column stack [] = [] := by
  rw [tokensFrom]

/-- The tokens of a line are those of a step and of what the step leaves. -/
theorem tokensFrom_cons {found : Step} {c : Char}
    (hstep : grammar.step line column stack (c :: rest) = found) :
    grammar.tokensFrom line column stack (c :: rest) =
      found.tokens ++ grammar.tokensFrom line (column + found.length) found.stack
        ((c :: rest).drop found.length) := by
  rw [tokensFrom, Nat.max_eq_left (length_step_pos grammar line column stack c rest), hstep]

/-- What holds at the end of a line, and holds before every step if it holds after it, holds
everywhere. -/
theorem reading_induction {P : Nat → ModeStack → List Char → Prop} (grammar : Grammar) (line : Nat)
    (hnil : ∀ column stack, P column stack [])
    (hcons : ∀ column stack c rest found, grammar.step line column stack (c :: rest) = found →
      P (column + found.length) found.stack ((c :: rest).drop found.length) →
      P column stack (c :: rest))
    (column : Nat) (stack : ModeStack) (rest : List Char) : P column stack rest := by
  induction column, stack, rest using tokensFrom.induct grammar line with
  | case1 column stack => exact hnil column stack
  | case2 column stack c rest found length ih =>
    have hlength : length = found.length :=
      Nat.max_eq_left (length_step_pos grammar line column stack c rest)
    exact hcons column stack c rest found rfl (hlength ▸ ih)

/-- What holds of the tokens of every step holds of the tokens of a line. -/
theorem forall_tokensFrom {P : Token → Prop} (grammar : Grammar) (line : Nat)
    (hstep : ∀ column stack c rest,
      ∀ token ∈ (grammar.step line column stack (c :: rest)).tokens, P token)
    (column : Nat) (stack : ModeStack) (rest : List Char) :
    ∀ token ∈ grammar.tokensFrom line column stack rest, P token := by
  induction column, stack, rest using reading_induction grammar line with
  | hnil column stack =>
    rw [tokensFrom_nil]
    exact List.forall_mem_nil P
  | hcons column stack c rest found hfound ih =>
    rw [tokensFrom_cons hfound]
    intro token htoken
    rcases List.mem_append.1 htoken with htoken | htoken
    · exact hstep column stack c rest token (hfound ▸ htoken)
    · exact ih token htoken

end Grammar

end EnsembleDesk
