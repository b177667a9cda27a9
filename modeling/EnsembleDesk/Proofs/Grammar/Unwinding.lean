import EnsembleDesk.Proofs.Grammar.Compiling
/-!
# Unwinding the stack of modes

A transition that unwinds the stack of modes ends all of them but the lowest one. Every line begins
in the root mode, and it stays the lowest one unless a switch is made when no other mode is left:
then another mode takes its place (`Transition.SwitchesLowest`). The mode that unwinding leads to is
therefore the root mode or the one that the last such switch has entered. Where the rules of the
root mode do not switch to another mode, it is always the root mode.

## Main results

* `Grammar.popAll_leaves_lowest`: the mode that unwinding leads to.
-/

namespace EnsembleDesk

/-! ### The transition of a step -/

/-- The action that is taken when the pattern of a rule matched a text; none if the match does not
count. -/
def Emit.action? (keywords : List Keyword) (text : String) : Emit → Option Action
  | kind _ action => some action
  | groups _ action => some action
  | cases arms => (arms.find? (·.matcher.accepts keywords text)).map (·.action)

namespace Grammar

variable {grammar : Grammar} {line column : Nat} {text : String} {stack : ModeStack}
  {rest : List Char} {transitions : List Transition}

/-- The transition that a rule makes; none if it does not apply. -/
def ruleTransition? (grammar : Grammar) (rest : List Char) (rule : Rule) : Option Transition := do
  let found ← rule.pattern.match? rest
  if found.offset = 0 then none
  else do
    let action ← rule.emit.action? grammar.keywords (String.ofList (rest.take found.offset))
    some (action.resolve (allBlank (rest.drop found.offset)))

/-- The transition of a step: that of the first rule of the mode that applies. The fallback makes
none. -/
def transitionAt (grammar : Grammar) (mode : Mode) (rest : List Char) : Transition :=
  ((grammar.rulesOf mode).findSome? (grammar.ruleTransition? rest)).getD .stay

/-- The action that comes with the tokens of a match depends on the rule and on the matched text
only. -/
theorem map_snd_emitted? (line column : Nat) (found : Cursor) (matched : List Char) (emit : Emit) :
    (grammar.emitted? line column found matched emit).map Prod.snd =
      emit.action? grammar.keywords (String.ofList matched) := by
  cases emit with
  | kind kind action => rfl
  | groups kinds action => rfl
  | cases arms =>
    rw [emitted?, Emit.action?, Option.map_map]
    rfl

/-- A rule that applies leads to the stack that its transition makes. -/
theorem map_stack_applyRule? (rule : Rule) :
    (grammar.applyRule? line column stack rest rule).map Step.stack =
      (grammar.ruleTransition? rest rule).map (·.apply stack) := by
  rw [applyRule?, ruleTransition?]
  cases rule.pattern.match? rest with
  | none => rfl
  | some found =>
    simp only [Option.bind_eq_bind, Option.bind_some]
    split
    · rfl
    · rw [← map_snd_emitted? line column found]
      cases grammar.emitted? line column found (rest.take found.offset) rule.emit <;> rfl

/-- A step makes its transition. -/
theorem stack_step (grammar : Grammar) (line column : Nat) (stack : ModeStack) (rest : List Char) :
    (grammar.step line column stack rest).stack =
      (grammar.transitionAt stack.top rest).apply stack := by
  have hrules : ((grammar.rulesOf stack.top).findSome?
        (grammar.applyRule? line column stack rest)).map Step.stack =
      ((grammar.rulesOf stack.top).findSome? (grammar.ruleTransition? rest)).map
        (·.apply stack) := by
    simp only [List.map_findSome?, Function.comp_def, map_stack_applyRule?]
  rw [step, transitionAt]
  cases hfound : (grammar.rulesOf stack.top).findSome?
      (grammar.applyRule? line column stack rest) <;>
    cases htransition : (grammar.rulesOf stack.top).findSome? (grammar.ruleTransition? rest) <;>
    simp_all [fallback, Transition.apply]

/-- A step in a mode makes no transition, or one of a rule of the mode. -/
theorem transitionAt_cases (grammar : Grammar) (mode : Mode) (rest : List Char) :
    grammar.transitionAt mode rest = .stay ∨ ∃ rule ∈ grammar.rulesOf mode,
      ∃ action ∈ rule.emit.actions, ∃ lineEnds,
        grammar.transitionAt mode rest = action.resolve lineEnds := by
  rw [transitionAt]
  cases hfound : (grammar.rulesOf mode).findSome? (grammar.ruleTransition? rest) with
  | none => exact .inl rfl
  | some transition =>
    obtain ⟨rule, hrule, happly⟩ := List.exists_of_findSome?_eq_some hfound
    obtain ⟨found, -, happly⟩ := Option.bind_eq_some_iff.1 happly
    split at happly
    · cases happly
    · obtain ⟨action, haction, happly⟩ := Option.bind_eq_some_iff.1 happly
      cases happly
      rw [← map_snd_emitted? 0 0 found] at haction
      obtain ⟨⟨tokens, action⟩, hemitted, rfl⟩ := Option.map_eq_some_iff.1 haction
      exact .inr ⟨rule, hrule, action, mem_actions_of_emitted? hemitted, _, rfl⟩

end Grammar

/-! ### The lowest mode -/

namespace Transition

variable {transitions before : List Transition} {mode : Mode}

/-- One more transition acts on the modes that those before it have led to. -/
theorem modesAfter_concat (transitions : List Transition) (transition : Transition) :
    modesAfter (transitions ++ [transition]) = transition.onModes (modesAfter transitions) := by
  rw [modesAfter, List.foldl_append]
  rfl

/-- Among the transitions, behind some of them, is a switch to a mode that is made when only the
lowest mode is left. -/
def SwitchesLowest (transitions before : List Transition) (mode : Mode) : Prop :=
  before ++ [switch mode] <+: transitions ∧ (modesAfter before).length = 1

/-- The lowest mode after some transitions: it is the root mode if no switch has been made when only
the lowest mode was left, and else the mode that the last such switch has entered. -/
inductive Lowest (made : List Transition) : Mode → Prop where
  /-- No switch has been made there. -/
  | root (h : ∀ before mode, ¬ SwitchesLowest made before mode) : Lowest made .root
  /-- The last switch that has been made there. -/
  | switched {before : List Transition} {mode : Mode} (h : SwitchesLowest made before mode)
    (hlast : ∀ other mode, SwitchesLowest made other mode → other.length ≤ before.length) :
    Lowest made mode

/-- With one more transition, the switches of the lowest mode are those made before, and the new one
if it switches while only the lowest mode is left. -/
theorem switchesLowest_concat {transition : Transition} :
    SwitchesLowest (transitions ++ [transition]) before mode ↔
      SwitchesLowest transitions before mode ∨
        before = transitions ∧ transition = switch mode ∧ (modesAfter transitions).length = 1 := by
  rw [SwitchesLowest, SwitchesLowest, List.prefix_concat_iff]
  constructor
  · rintro ⟨heq | hbegins, hlength⟩
    · obtain ⟨rfl, hlast⟩ := List.append_inj' heq rfl
      exact .inr ⟨rfl, (List.singleton_inj.1 hlast).symm, hlength⟩
    · exact .inl ⟨hbegins, hlength⟩
  · rintro (⟨hbegins, hlength⟩ | ⟨rfl, rfl, hlength⟩)
    · exact ⟨.inr hbegins, hlength⟩
    · exact ⟨.inl rfl, hlength⟩

/-- A transition leaves the lowest mode, unless it is a switch that is made when only that mode is
left. -/
theorem getLast?_onModes (transition : Transition) {modes : List Mode} (h : modes ≠ []) :
    (transition.onModes modes).getLast? = modes.getLast? ∨
      ∃ mode, transition = switch mode ∧ modes.length = 1 ∧
        transition.onModes modes = [mode] := by
  obtain ⟨top, below, rfl⟩ := List.exists_cons_of_ne_nil h
  cases transition with
  | stay => exact .inl rfl
  | push mode => exact .inl (List.getLast?_cons_cons ..)
  | pop =>
    cases below with
    | nil => exact .inl rfl
    | cons next below => exact .inl (by simp [onModes, List.getLast?_cons_cons])
  | switch mode =>
    cases below with
    | nil => exact .inr ⟨mode, rfl, rfl, rfl⟩
    | cons next below => exact .inl (by simp [onModes, List.getLast?_cons_cons])
  | popAll =>
    refine .inl ?_
    rw [onModes, List.getLast?_drop, if_neg (by simp)]

/-- After any transitions there is a lowest mode, and the switches of the lowest mode tell which one
it is. -/
theorem exists_lowest (transitions : List Transition) :
    ∃ lowest, (modesAfter transitions).getLast? = some lowest ∧ Lowest transitions lowest := by
  -- from the end: only the last transition can be a later switch than those made before it
  induction transitions using List.reverseRecOn with
  | nil =>
    refine ⟨.root, rfl, .root fun before mode h => ?_⟩
    have := List.prefix_nil.1 h.1
    simp at this
  | append_singleton transitions transition ih =>
    obtain ⟨lowest, hlowest, hih⟩ := ih
    rw [modesAfter_concat]
    by_cases hswitch : ∃ mode, transition = switch mode ∧ (modesAfter transitions).length = 1
    · -- this switch is now the last one
      obtain ⟨mode, rfl, hlength⟩ := hswitch
      obtain ⟨only, honly⟩ := List.length_eq_one_iff.1 hlength
      refine ⟨mode, by rw [honly]; rfl,
        .switched (switchesLowest_concat.2 (.inr ⟨rfl, rfl, hlength⟩)) ?_⟩
      intro other mode' h
      rcases switchesLowest_concat.1 h with h | ⟨rfl, -⟩
      · have := h.1.length_le
        simp only [List.length_append, List.length_cons, List.length_nil] at this
        omega
      · exact le_rfl
    · -- the switches are those that were made before
      have hsame : ∀ before mode, SwitchesLowest (transitions ++ [transition]) before mode ↔
          SwitchesLowest transitions before mode := fun before mode =>
        switchesLowest_concat.trans (or_iff_left fun h => hswitch ⟨mode, h.2⟩)
      refine ⟨lowest, ?_, ?_⟩
      · rcases getLast?_onModes transition (modesAfter_ne_nil transitions) with h | ⟨mode, h, h', -⟩
        · exact h.trans hlowest
        · exact absurd ⟨mode, h, h'⟩ hswitch
      · cases hih with
        | root h => exact .root fun before mode => (hsame before mode).not.2 (h before mode)
        | switched h hlast =>
          exact .switched ((hsame _ _).2 h) fun other mode' h => hlast other mode' ((hsame _ _).1 h)

end Transition

/-! ### Reading and its transitions -/

namespace Grammar

variable {grammar : Grammar} {line column : Nat} {text : String} {stack : ModeStack} {c : Char}
  {rest : List Char} {transitions : List Transition}

/-- The reading of a line makes some transitions and comes to a column, with the modes and the
characters that are left. -/
inductive ReadsBy (grammar : Grammar) (line : Nat) (text : String) :
    List Transition → Nat → ModeStack → List Char → Prop where
  | start : ReadsBy grammar line text [] 1 ⟨.root, []⟩ text.toList
  | step {made column stack c rest}
    (h : ReadsBy grammar line text made column stack (c :: rest)) :
    ReadsBy grammar line text (made ++ [grammar.transitionAt stack.top (c :: rest)])
      (column + (grammar.step line column stack (c :: rest)).length)
      (grammar.step line column stack (c :: rest)).stack
      ((c :: rest).drop (grammar.step line column stack (c :: rest)).length)

/-- Wherever reading comes to, it comes by some transitions. -/
theorem readsTo_iff_exists_readsBy : grammar.ReadsTo line text column stack rest ↔
    ∃ transitions, grammar.ReadsBy line text transitions column stack rest := by
  constructor
  · intro h
    induction h with
    | start => exact ⟨[], .start⟩
    | step _ ih =>
      obtain ⟨transitions, h⟩ := ih
      exact ⟨_, h.step⟩
  · rintro ⟨transitions, h⟩
    induction h with
    | start => exact .start
    | step _ ih => exact ih.step

/-- The modes of a reading are those that its transitions lead to from the root mode. -/
theorem ReadsBy.modes_eq (h : grammar.ReadsBy line text transitions column stack rest) :
    stack.modes = Transition.modesAfter transitions := by
  induction h with
  | start => rfl
  | @step transitions column stack c rest _ ih =>
    rw [stack_step, Transition.modes_apply_eq, ih, Transition.modesAfter_concat]

/-- The rules of the root mode do not switch to another mode. -/
def KeepsRoot (grammar : Grammar) : Prop :=
  ∀ rule ∈ grammar.rulesOf .root, ∀ action ∈ rule.emit.actions, ∀ lineEnds mode,
    action.resolve lineEnds = .switch mode → mode = .root

/-- If the rules of the root mode do not switch to another mode, then neither does a step in the
root mode. -/
theorem KeepsRoot.of_transitionAt (hkeeps : grammar.KeepsRoot) {mode : Mode}
    (h : grammar.transitionAt .root rest = .switch mode) : mode = .root := by
  rcases transitionAt_cases grammar .root rest with hstay | ⟨rule, hrule, action, haction, lineEnds,
    hresolve⟩
  · rw [hstay] at h
    cases h
  · exact hkeeps rule hrule action haction lineEnds mode (hresolve.symm.trans h)

/-- If the rules of the root mode do not switch to another mode, then it stays the lowest one. -/
theorem KeepsRoot.lowest_eq (hkeeps : grammar.KeepsRoot)
    (h : grammar.ReadsBy line text transitions column stack rest) :
    (Transition.modesAfter transitions).getLast? = some .root := by
  induction h with
  | start => rfl
  | @step transitions column stack c rest h ih =>
    rw [Transition.modesAfter_concat]
    rcases Transition.getLast?_onModes (grammar.transitionAt stack.top (c :: rest))
      (Transition.modesAfter_ne_nil transitions) with hsame | ⟨mode, hswitch, hlength, hmodes⟩
    · exact hsame.trans ih
    · -- the only mode that is left is the root mode, so that one of its rules has switched
      obtain ⟨only, honly⟩ := List.length_eq_one_iff.1 hlength
      rw [honly] at ih
      obtain rfl : only = .root := Option.some.inj ih
      have htop : stack.top = .root := (List.cons_eq_cons.1 (h.modes_eq.trans honly)).1
      rw [htop] at hswitch
      rw [hmodes, hkeeps.of_transitionAt hswitch]
      rfl

/-- After a step that unwinds the stack, the lowest mode is the only one. It is the root mode if no
switch has been made when only the lowest mode was left, and else the mode that the last such switch
has entered. Where the rules of the root mode do not switch to another mode, it is the root mode. -/
theorem popAll_leaves_lowest
    (hreads : grammar.ReadsBy line text transitions column stack (c :: rest))
    (hpopAll : grammar.transitionAt stack.top (c :: rest) = .popAll) :
    ∃ lowest, (grammar.step line column stack (c :: rest)).stack = ⟨lowest, []⟩ ∧
      Transition.Lowest transitions lowest ∧ (grammar.KeepsRoot → lowest = .root) := by
  obtain ⟨lowest, hlast, hlowest⟩ := Transition.exists_lowest transitions
  refine ⟨lowest, ?_, hlowest, fun hkeeps => ?_⟩
  · -- unwinding leaves the last of the modes, which the transitions before have led to
    obtain ⟨top, below⟩ := stack
    rw [← hreads.modes_eq, ModeStack.modes,
      List.getLast?_eq_some_getLast (List.cons_ne_nil _ _)] at hlast
    rw [stack_step, hpopAll, Transition.apply, Option.some.inj hlast]
  · exact Option.some.inj (hlast.symm.trans (hkeeps.lowest_eq hreads))

/-- Rules by which the root mode makes a transition at an `s` and another mode unwinds at an `r`. -/
def unwindingRules (transition : Transition) : List (Mode × List Rule) :=
  [(.root, [⟨.char 's', .kind .type { transition }⟩, ⟨.char 'x', .kind .string {}⟩]),
    (.numbers, [⟨.char 'r', .kind .delimiter { transition := .popAll }⟩,
      ⟨.char 'x', .kind .number {}⟩])]

/-- The rules as a table. -/
def unwindingTable (transition : Transition) : GrammarTable Pattern where
  name := "unwinding"
  defaultKind := .invalid
  keywords := []
  modes := (unwindingRules transition).map fun (mode, rules) =>
    (mode, rules.map fun rule => .rule rule.pattern rule.emit)

/-- The rules as a grammar. -/
def unwinding (transition : Transition) : Grammar :=
  ⟨"unwinding", .invalid, [], unwindingRules transition⟩

/-- The letter that makes the transition is read first, whatever the transition is. -/
theorem readsBy_unwinding (transition : Transition) :
    (unwinding transition).ReadsBy 1 "srx" [transition] 2 (transition.apply ⟨.root, []⟩)
      ['r', 'x'] :=
  @ReadsBy.step _ 1 "srx" [] 1 ⟨.root, []⟩ 's' ['r', 'x'] .start

/-- A push is no switch, so that the rules of the root mode keep it. -/
theorem keepsRoot_unwinding_push (mode : Mode) : (unwinding (.push mode)).KeepsRoot := by
  intro rule hrule action haction lineEnds target hswitch
  rcases List.mem_pair.1 hrule with rfl | rfl <;> cases List.mem_singleton.1 haction <;>
    cases lineEnds <;> cases hswitch

/-- A mode that was put on top is unwound to the root mode. -/
theorem popAll_leaves_lowest_pushed :
    (unwindingTable (.push .numbers)).compile .ok = .ok (unwinding (.push .numbers)) ∧
      ((unwinding (.push .numbers)).step 1 2 ⟨.numbers, [.root]⟩ ['r', 'x']).stack =
        ⟨.root, []⟩ := by
  obtain ⟨lowest, hstack, -, hroot⟩ := popAll_leaves_lowest (readsBy_unwinding (.push .numbers)) rfl
  rw [hroot (keepsRoot_unwinding_push .numbers)] at hstack
  exact ⟨rfl, hstack⟩

/-- After a switch in the root mode, unwinding does not lead to the root mode. -/
theorem popAll_leaves_switched :
    (unwindingTable (.switch .numbers)).compile .ok = .ok (unwinding (.switch .numbers)) ∧
      (unwinding (.switch .numbers)).ReadsBy 1 "srx" [.switch .numbers] 2 ⟨.numbers, []⟩
        ['r', 'x'] ∧
      (unwinding (.switch .numbers)).transitionAt .numbers ['r', 'x'] = .popAll ∧
      ((unwinding (.switch .numbers)).step 1 2 ⟨.numbers, []⟩ ['r', 'x']).stack.top ≠ .root :=
  ⟨rfl, readsBy_unwinding (.switch .numbers), rfl, by decide⟩

end Grammar

end EnsembleDesk
