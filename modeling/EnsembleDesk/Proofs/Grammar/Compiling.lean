import EnsembleDesk.Proofs.Grammar.Splices
import EnsembleDesk.Proofs.Grammar.WordModes
/-!
# Compiling a grammar table

A table is compiled mode by mode, in some order, and compiling stops at the first error. Which error
that is depends on the order; whether there is one does not, and neither does the grammar: a table
compiles just if it is well-formed (`GrammarTable.WellFormed`), and then each mode has the rules
that its entries stand for (`GrammarTable.Compiled`).

A line that is read with a compiled grammar never comes to a mode without rules of its own: the
modes that rules enter were looked for. Nor does it ever run out of modes, as the last one is not
left.

## Main results

* `GrammarTable.compiles_iff_wellFormed`: when a table compiles, to what, and what reading with it
  comes to.
-/

namespace EnsembleDesk

/-- Two grammars are the same but for the order of their modes. -/
structure Grammar.Agrees (grammar again : Grammar) : Prop where
  /-- They have the same name. -/
  name : grammar.name = again.name
  /-- A word that no rule matches has the same kind. -/
  defaultKind : grammar.defaultKind = again.defaultKind
  /-- They have the same keywords. -/
  keywords : grammar.keywords = again.keywords
  /-- Each mode has the same rules. -/
  rules : ∀ mode, grammar.rules.lookup mode = again.rules.lookup mode

/-! ### Compiling -/

/-- The actions that are taken are among those that are written. -/
theorem WrittenRule.mem_actions {π : Type} (rule : WrittenRule π) {action : Action}
    (h : action ∈ rule.emit.actions) : action ∈ rule.actions := by
  rw [WrittenRule.actions]
  split
  · rename_i arms hemit
    rw [hemit] at h
    exact List.mem_cons_of_mem _ h
  · exact h

namespace GrammarTable

variable {π : Type} {read? : π → Except GrammarError Pattern} {table : GrammarTable π}
  {mode : Mode} {order : List Mode} {grammar : Grammar}

/-- No target of a rule is missing if and only if the table defines the modes that all its actions
enter. -/
theorem missingTarget?_eq_none_iff {rule : WrittenRule π} :
    table.missingTarget? rule = none ↔
      ∀ action ∈ rule.actions, ∀ target ∈ action.targets, table.defines target = true := by
  simp only [missingTarget?, List.find?_eq_none, List.mem_flatMap, Bool.not_eq_true',
    Bool.not_eq_false]
  constructor
  · exact fun h action haction target htarget => h target ⟨action, haction, htarget⟩
  · rintro h target ⟨action, haction, htarget⟩
    exact h action haction target htarget

/-- A rule compiles just if the modes that it enters are there and its pattern can be read. -/
theorem compileRule_eq_ok_iff {rule : WrittenRule π} {compiled : Rule} :
    table.compileRule read? rule = .ok compiled ↔
      (∀ action ∈ rule.actions, ∀ target ∈ action.targets, table.defines target = true) ∧
        read? rule.pattern = .ok compiled.pattern ∧ compiled.emit = rule.emit := by
  rw [← missingTarget?_eq_none_iff, compileRule]
  split
  · rename_i target hmissing
    simp [hmissing]
  · rename_i hnone
    rw [Except.map_eq_ok_iff, and_iff_right hnone]
    constructor
    · rintro ⟨pattern, hpattern, rfl⟩
      exact ⟨hpattern, rfl⟩
    · rintro ⟨hpattern, hemit⟩
      exact ⟨compiled.pattern, hpattern, by rw [← hemit]⟩

/-- The rule is one of those that the entries of a mode stand for. -/
def Flat (table : GrammarTable π) (rule : WrittenRule π) : Prop :=
  ∃ mode entries rules, table.entriesOf? mode = some entries ∧ table.Expands entries rules ∧
    rule ∈ rules

/-- A table in which nothing is missing: the mode that every line begins in is there, and so are
those that are spliced or entered; no mode is spliced into itself, and all patterns can be read. -/
structure WellFormed (read? : π → Except GrammarError Pattern) (table : GrammarTable π) : Prop where
  /-- Every line begins in a mode that is there. -/
  root : table.defines .root = true
  /-- The modes that are spliced are there. -/
  splices : ∀ mode other, table.Includes mode other → table.defines other = true
  /-- No mode is spliced into itself, by however many steps. -/
  acyclic : ∀ mode, ¬ Relation.TransGen table.Includes mode mode
  /-- The modes that rules enter are there. -/
  targets : ∀ rule, table.Flat rule →
    ∀ action ∈ rule.actions, ∀ target ∈ action.targets, table.defines target = true
  /-- The patterns of rules can be read. -/
  patterns : ∀ rule, table.Flat rule → ∃ pattern, read? rule.pattern = .ok pattern

/-- The modes of a table in some order. -/
def Orders (table : GrammarTable π) (order : List Mode) : Prop :=
  ∀ mode, mode ∈ order ↔ table.defines mode = true

/-- The order in which a table lists its modes is one of its orders. -/
theorem orders_definedModes (table : GrammarTable π) : table.Orders table.definedModes := by
  intro mode
  rw [definedModes, List.mem_filter, and_iff_right (Mode.mem_all mode)]

/-- What a table is compiled to: its grammar has, for each mode, the rules that the entries of the
mode stand for, with their patterns read. -/
structure Compiled (read? : π → Except GrammarError Pattern) (table : GrammarTable π)
    (grammar : Grammar) : Prop where
  /-- The grammar has the name of the table. -/
  name : grammar.name = table.name
  /-- A word that no rule matches has the kind that the table says. -/
  defaultKind : grammar.defaultKind = table.defaultKind
  /-- The keywords are those of the table. -/
  keywords : grammar.keywords = table.keywords
  /-- The rules of a mode are those that its entries stand for, in order. -/
  rules : ∀ mode entries, table.entriesOf? mode = some entries →
    ∃ flat rules, table.Expands entries flat ∧ grammar.rules.lookup mode = some rules ∧
      List.Forall₂ (fun written rule =>
        read? written.pattern = .ok rule.pattern ∧ rule.emit = written.emit) flat rules
  /-- There are no other modes. -/
  undefined : ∀ mode, table.entriesOf? mode = none → grammar.rules.lookup mode = none

/-- A mode is compiled if and only if its entries can be flattened and each of the rules they stand
for is compiled, one by one. -/
theorem compileMode_eq_ok_iff {compiled : List Rule} :
    table.compileMode read? mode = .ok compiled ↔ ∃ flat, table.flatten mode = .ok flat ∧
      List.Forall₂ (fun rule compiled => table.compileRule read? rule = .ok compiled) flat
        compiled := by
  simp only [compileMode, Except.bind_eq_ok_iff, Except.mapM_eq_ok_iff]

/-- A table is compiled if and only if the root mode is defined and each mode is compiled, in the
order given. -/
theorem compileIn_eq_ok_iff :
    table.compileIn read? order = .ok grammar ↔ table.defines .root = true ∧
      ∃ rules, (order.mapM fun mode => (table.compileMode read? mode).map (mode, ·)) = .ok rules ∧
        grammar = ⟨table.name, table.defaultKind, table.keywords, rules⟩ := by
  rw [compileIn]
  cases table.defines .root with
  | false =>
    constructor
    · intro h
      cases h
    · rintro ⟨h, -⟩
      cases h
  | true =>
    constructor
    · intro h
      obtain ⟨rules, hrules, h⟩ := Except.bind_eq_ok_iff.1 h
      exact ⟨rfl, rules, hrules, (Except.ok.inj h).symm⟩
    · rintro ⟨-, rules, hrules, rfl⟩
      exact Except.bind_eq_ok_iff.2 ⟨rules, hrules, rfl⟩

/-- A mode compiles just if its rules are found and each of them compiles. -/
theorem exists_compileMode_eq_ok_iff :
    (∃ compiled, table.compileMode read? mode = .ok compiled) ↔
      ∃ flat, table.flatten mode = .ok flat ∧
        ∀ rule ∈ flat, ∃ compiled, table.compileRule read? rule = .ok compiled := by
  simp only [compileMode, Except.bind_eq_ok_iff, ← Except.exists_mapM_eq_ok_iff]
  constructor
  · rintro ⟨compiled, flat, hflat, hcompiled⟩
    exact ⟨flat, hflat, compiled, hcompiled⟩
  · rintro ⟨flat, hflat, compiled, hcompiled⟩
    exact ⟨compiled, flat, hflat, hcompiled⟩

/-- A rule is compiled if and only if the modes that it enters are defined and its pattern can be
read. -/
theorem exists_compileRule_eq_ok_iff {rule : WrittenRule π} :
    (∃ compiled, table.compileRule read? rule = .ok compiled) ↔
      (∀ action ∈ rule.actions, ∀ target ∈ action.targets, table.defines target = true) ∧
        ∃ pattern, read? rule.pattern = .ok pattern := by
  simp only [compileRule_eq_ok_iff]
  constructor
  · rintro ⟨compiled, htargets, hpattern, -⟩
    exact ⟨htargets, compiled.pattern, hpattern⟩
  · rintro ⟨htargets, pattern, hpattern⟩
    exact ⟨⟨pattern, rule.emit⟩, htargets, hpattern, rfl⟩

/-- The rules of a mode that are found are those that the entries of a mode stand for. -/
theorem flat_of_flatten {rules : List (WrittenRule π)} (h : table.flatten mode = .ok rules) :
    ∀ rule ∈ rules, table.Flat rule := by
  obtain ⟨entries, hmode, hexpands⟩ := expands_of_flatten h
  exact fun rule hrule => ⟨mode, entries, rules, hmode, hexpands, hrule⟩

/-- In whatever order its modes are taken, a table compiles just if it is well-formed. -/
theorem exists_compileIn_eq_ok_iff (horder : table.Orders order) :
    (∃ grammar, table.compileIn read? order = .ok grammar) ↔ table.WellFormed read? := by
  have hmodes : (∃ rules, (order.mapM fun mode =>
      (table.compileMode read? mode).map (mode, ·)) = .ok rules) ↔
      ∀ mode, table.defines mode = true →
        ∃ compiled, table.compileMode read? mode = .ok compiled := by
    simp only [Except.exists_mapM_eq_ok_iff, Except.map_eq_ok_iff, horder _]
    constructor
    · intro h mode hmode
      obtain ⟨_, compiled, hcompiled, -⟩ := h mode hmode
      exact ⟨compiled, hcompiled⟩
    · intro h mode hmode
      obtain ⟨compiled, hcompiled⟩ := h mode hmode
      exact ⟨_, compiled, hcompiled, rfl⟩
  constructor
  · rintro ⟨grammar, hgrammar⟩
    obtain ⟨hroot, rules, hrules, -⟩ := compileIn_eq_ok_iff.1 hgrammar
    have hfound := fun mode hmode =>
      exists_compileMode_eq_ok_iff.1 (hmodes.1 ⟨rules, hrules⟩ mode hmode)
    obtain ⟨hsplices, hacyclic⟩ := forall_exists_flatten_iff.1 fun mode hmode =>
      (hfound mode hmode).imp fun _ h => h.1
    -- a rule that entries stand for is found in the mode of the entries
    have hflat : ∀ rule, table.Flat rule →
        ∃ compiled, table.compileRule read? rule = .ok compiled := by
      rintro rule ⟨mode, entries, rules, hmode, hexpands, hrule⟩
      obtain ⟨found, hflatten, hcompiled⟩ :=
        hfound mode (Option.isSome_iff_exists.2 ⟨entries, hmode⟩)
      obtain ⟨_, hsame, hother⟩ := expands_of_flatten hflatten
      obtain rfl := Option.some.inj (hmode.symm.trans hsame)
      exact hcompiled rule (hexpands.unique hother ▸ hrule)
    exact ⟨hroot, hsplices, hacyclic,
      fun rule hrule => (exists_compileRule_eq_ok_iff.1 (hflat rule hrule)).1,
      fun rule hrule => (exists_compileRule_eq_ok_iff.1 (hflat rule hrule)).2⟩
  · intro h
    -- a well-formed table has all that the compiling of a mode asks for
    have hfound : ∀ mode, table.defines mode = true →
        ∃ compiled, table.compileMode read? mode = .ok compiled := by
      intro mode hmode
      obtain ⟨flat, hflatten⟩ := forall_exists_flatten_iff.2 ⟨h.splices, h.acyclic⟩ mode hmode
      refine exists_compileMode_eq_ok_iff.2 ⟨flat, hflatten, fun rule hrule => ?_⟩
      have hrule := flat_of_flatten hflatten rule hrule
      exact exists_compileRule_eq_ok_iff.2 ⟨h.targets rule hrule, h.patterns rule hrule⟩
    obtain ⟨rules, hrules⟩ := hmodes.2 hfound
    exact ⟨_, compileIn_eq_ok_iff.2 ⟨h.root, rules, hrules, rfl⟩⟩

/-- Each mode has the rules that it compiles to. -/
theorem lookup_of_compileIn (horder : table.Orders order)
    (h : table.compileIn read? order = .ok grammar) {compiled : List Rule} :
    grammar.rules.lookup mode = some compiled ↔
      table.defines mode = true ∧ table.compileMode read? mode = .ok compiled := by
  obtain ⟨-, rules, hrules, rfl⟩ := compileIn_eq_ok_iff.1 h
  rw [Except.lookup_of_mapM_eq_ok hrules, horder mode]

/-- A table is compiled to the rules that the entries of its modes stand for. -/
theorem compiled_of_compileIn (horder : table.Orders order)
    (h : table.compileIn read? order = .ok grammar) : table.Compiled read? grammar := by
  have hlookup := fun mode => @lookup_of_compileIn _ _ _ mode _ _ horder h
  obtain ⟨-, rules, hrules, rfl⟩ := compileIn_eq_ok_iff.1 h
  refine ⟨rfl, rfl, rfl, fun mode entries hmode => ?_, fun mode hmode => ?_⟩
  · have hdefined : table.defines mode = true := Option.isSome_iff_exists.2 ⟨entries, hmode⟩
    obtain ⟨_, hfound⟩ :=
      Except.exists_mapM_eq_ok_iff.1 ⟨rules, hrules⟩ mode ((horder mode).2 hdefined)
    obtain ⟨compiled, hcompiled, -⟩ := Except.map_eq_ok_iff.1 hfound
    obtain ⟨flat, hflatten, hcompile⟩ := compileMode_eq_ok_iff.1 hcompiled
    obtain ⟨_, hsame, hexpands⟩ := expands_of_flatten hflatten
    obtain rfl := Option.some.inj (hmode.symm.trans hsame)
    refine ⟨flat, compiled, hexpands, (hlookup mode).2 ⟨hdefined, hcompiled⟩, ?_⟩
    exact hcompile.imp fun rule compiled h => (compileRule_eq_ok_iff.1 h).2
  · refine Option.eq_none_iff_forall_ne_some.2 fun compiled hsome => ?_
    have hdefined := ((hlookup mode).1 hsome).1
    rw [defines, hmode] at hdefined
    cases hdefined

/-- In whatever order its modes are taken, a table compiles to the same grammar. -/
theorem agrees_of_compileIn (horder : table.Orders order)
    (h : table.compileIn read? order = .ok grammar) {other : List Mode} {again : Grammar}
    (hother : table.Orders other) (hagain : table.compileIn read? other = .ok again) :
    grammar.Agrees again := by
  have hfirst := compiled_of_compileIn horder h
  have hsecond := compiled_of_compileIn hother hagain
  refine ⟨hfirst.name.trans hsecond.name.symm, hfirst.defaultKind.trans hsecond.defaultKind.symm,
    hfirst.keywords.trans hsecond.keywords.symm, fun mode => Option.ext fun compiled => ?_⟩
  -- both orders have the same modes, and a mode compiles to the same rules in each
  rw [lookup_of_compileIn horder h, lookup_of_compileIn hother hagain]

/-- The modes that the rules of a compiled grammar enter have rules. -/
theorem lookup_of_target (horder : table.Orders order)
    (h : table.compileIn read? order = .ok grammar) {rule : Rule}
    (hrule : rule ∈ grammar.rulesOf mode) {action : Action} (haction : action ∈ rule.emit.actions)
    {target : Mode} (htarget : target ∈ action.targets) :
    ∃ rules, grammar.rules.lookup target = some rules := by
  -- the rules of the mode were compiled one by one
  obtain ⟨compiled, hlookup⟩ : ∃ compiled, grammar.rules.lookup mode = some compiled := by
    cases hlookup : grammar.rules.lookup mode with
    | none =>
      rw [Grammar.rulesOf, hlookup] at hrule
      cases hrule
    | some compiled => exact ⟨compiled, rfl⟩
  rw [Grammar.rulesOf, hlookup, Option.getD_some] at hrule
  obtain ⟨-, hcompiled⟩ := (lookup_of_compileIn horder h).1 hlookup
  obtain ⟨flat, -, hrules⟩ := Except.bind_eq_ok_iff.1 hcompiled
  obtain ⟨written, -, hwritten⟩ := Except.exists_of_mapM_eq_ok hrules hrule
  obtain ⟨htargets, -, hemit⟩ := compileRule_eq_ok_iff.1 hwritten
  rw [hemit] at haction
  have hdefined := htargets action (written.mem_actions haction) target htarget
  obtain ⟨entries, hentries⟩ := Option.isSome_iff_exists.1 hdefined
  obtain ⟨_, rules, -, hfound, -⟩ := (compiled_of_compileIn horder h).rules target entries hentries
  exact ⟨rules, hfound⟩

end GrammarTable

/-! ### Stacks of modes -/

namespace Transition

/-- What a transition does to a list of modes, the current one first. -/
def onModes : Transition → List Mode → List Mode
  | stay, modes => modes
  | push mode, modes => mode :: modes
  | pop, modes => if 1 < modes.length then modes.tail else modes
  | switch _, [] => []
  | switch mode, _ :: below => mode :: below
  | popAll, modes => modes.drop (modes.length - 1)

/-- The modes after some transitions, from the one that every line begins in. -/
def modesAfter (transitions : List Transition) : List Mode :=
  transitions.foldl (fun modes transition => transition.onModes modes) [.root]

/-- What a transition does to a stack is what it does to the list of its modes. -/
theorem modes_apply_eq (transition : Transition) (stack : ModeStack) :
    (transition.apply stack).modes = transition.onModes stack.modes := by
  obtain ⟨top, below⟩ := stack
  cases transition with
  | pop => cases below <;> simp [apply, onModes, ModeStack.modes]
  | popAll =>
    simp only [apply, onModes, ModeStack.modes, List.length_cons, Nat.add_sub_cancel]
    exact (List.drop_length_cons (List.cons_ne_nil top below) top).symm
  | _ => rfl

/-- A transition leaves a mode to go on in. -/
theorem onModes_ne_nil (transition : Transition) {modes : List Mode} (h : modes ≠ []) :
    transition.onModes modes ≠ [] := by
  -- modes that are not empty are those of a stack, and a transition leaves a stack
  obtain ⟨top, below, rfl⟩ := List.exists_cons_of_ne_nil h
  have hstack := modes_apply_eq transition ⟨top, below⟩
  rw [ModeStack.modes, ModeStack.modes] at hstack
  rw [← hstack]
  exact List.cons_ne_nil _ _

/-- Some mode is always left. -/
theorem modesAfter_ne_nil (transitions : List Transition) : modesAfter transitions ≠ [] := by
  refine List.foldlRecOn transitions _ (motive := (· ≠ [])) (List.cons_ne_nil _ _) ?_
  exact fun modes h transition _ => transition.onModes_ne_nil h

end Transition

namespace Grammar

/-- The reading of a line comes to a column, with the modes and the characters that are left. -/
inductive ReadsTo (grammar : Grammar) (line : Nat) (text : String) :
    Nat → ModeStack → List Char → Prop where
  | start : ReadsTo grammar line text 1 ⟨.root, []⟩ text.toList
  | step {column stack c rest} (h : ReadsTo grammar line text column stack (c :: rest)) :
    ReadsTo grammar line text (column + (grammar.step line column stack (c :: rest)).length)
      (grammar.step line column stack (c :: rest)).stack
      ((c :: rest).drop (grammar.step line column stack (c :: rest)).length)

variable {grammar : Grammar} {line column : Nat} {text : String} {rest : List Char}
  {stack : ModeStack}

/-- The tokens that are left are those of the reading from here on. -/
theorem ReadsTo.exists_tokens (h : grammar.ReadsTo line text column stack rest) :
    ∃ before, grammar.tokensOf line text =
      before ++ grammar.tokensFrom line column stack rest := by
  induction h with
  | start => exact ⟨[], rfl⟩
  | @step column stack c rest _ ih =>
    obtain ⟨before, hbefore⟩ := ih
    refine ⟨before ++ (grammar.step line column stack (c :: rest)).tokens, ?_⟩
    rw [hbefore, tokensFrom_cons rfl, List.append_assoc]

/-- A step makes a transition, which enters a mode that a rule of the current mode enters, or
none. -/
theorem exists_transition_step (grammar : Grammar) (line column : Nat) (stack : ModeStack)
    (rest : List Char) :
    ∃ transition : Transition,
      (grammar.step line column stack rest).stack = transition.apply stack ∧
      ∀ target ∈ transition.target?, ∃ rule ∈ grammar.rulesOf stack.top,
        ∃ action ∈ rule.emit.actions, target ∈ action.targets := by
  rcases step_cases grammar line column stack rest with ⟨rule, hrule, happly⟩ | hfallback
  · obtain ⟨found, tokens, action, -, -, hemitted, hstep⟩ := applyRule?_eq_some happly
    refine ⟨action.resolve (allBlank (rest.drop found.offset)), by rw [hstep], ?_⟩
    exact fun target htarget => ⟨rule, hrule, action, mem_actions_of_emitted? hemitted,
      Action.mem_targets_of_resolve htarget⟩
  · exact ⟨.stay, by rw [hfallback]; rfl, fun target htarget => by cases htarget⟩

/-- The modes that reading comes to are those after some transitions. -/
theorem ReadsTo.exists_transitions (h : grammar.ReadsTo line text column stack rest) :
    ∃ transitions, stack.modes = Transition.modesAfter transitions := by
  induction h with
  | start => exact ⟨[], rfl⟩
  | @step column stack c rest _ ih =>
    obtain ⟨transitions, hmodes⟩ := ih
    obtain ⟨transition, hstack, -⟩ := exists_transition_step grammar line column stack (c :: rest)
    refine ⟨transitions ++ [transition], ?_⟩
    rw [hstack, Transition.modes_apply_eq, hmodes, Transition.modesAfter, Transition.modesAfter,
      List.foldl_append]
    rfl

end Grammar

/-! ### Reading with a compiled grammar -/

namespace GrammarTable

variable {π : Type} {read? : π → Except GrammarError Pattern} {table : GrammarTable π}
  {order : List Mode} {grammar : Grammar}

/-- Each mode that the reading of a line comes to has rules. -/
theorem exists_rules_of_readsTo (horder : table.Orders order)
    (h : table.compileIn read? order = .ok grammar) {line column : Nat} {text : String}
    {rest : List Char} {stack : ModeStack} (hreads : grammar.ReadsTo line text column stack rest) :
    ∀ mode ∈ stack.modes, ∃ rules, grammar.rules.lookup mode = some rules := by
  induction hreads with
  | start =>
    obtain ⟨entries, hroot⟩ := Option.isSome_iff_exists.1 (compileIn_eq_ok_iff.1 h).1
    obtain ⟨_, rules, -, hfound, -⟩ := (compiled_of_compileIn horder h).rules .root entries hroot
    exact List.forall_mem_singleton.2 ⟨rules, hfound⟩
  | @step column stack c rest _ ih =>
    obtain ⟨transition, hstack, htarget⟩ :=
      grammar.exists_transition_step line column stack (c :: rest)
    intro mode hmode
    rw [hstack] at hmode
    -- the mode was on the stack before the step, or a rule of the current mode enters it
    rcases Transition.modes_apply hmode with hmode | hentered
    · exact ih mode hmode
    · obtain ⟨rule, hrule, action, haction, hmem⟩ := htarget mode hentered
      exact lookup_of_target horder h hrule haction hmem

/-- Finding the rules of a mode comes to an end. In whatever order its modes are taken, a table
compiles just if it is well-formed, and to the same grammar, whose modes have the rules that their
entries stand for. Wherever the reading of a line comes to with it, each mode on the stack has
rules; the stack is changed by transitions alone, and no transitions leave it empty. -/
theorem compiles_iff_wellFormed (read? : π → Except GrammarError Pattern)
    (table : GrammarTable π) :
    (∀ mode, table.Flattens [] [.splice mode] (table.flatten mode)) ∧
      (∀ order, table.Orders order →
        ((∃ grammar, table.compileIn read? order = .ok grammar) ↔ table.WellFormed read?)) ∧
      (∀ order grammar, table.Orders order → table.compileIn read? order = .ok grammar →
        table.Compiled read? grammar ∧
        (∀ other again, table.Orders other → table.compileIn read? other = .ok again →
          grammar.Agrees again) ∧
        ∀ line text column stack rest, grammar.ReadsTo line text column stack rest →
          (∃ before, grammar.tokensOf line text =
            before ++ grammar.tokensFrom line column stack rest) ∧
          (∀ mode ∈ stack.modes, ∃ rules, grammar.rules.lookup mode = some rules) ∧
          ∃ transitions, stack.modes = Transition.modesAfter transitions) ∧
      ∀ transitions, Transition.modesAfter transitions ≠ [] := by
  refine ⟨table.flattens_flatten, fun order => exists_compileIn_eq_ok_iff, ?_,
    Transition.modesAfter_ne_nil⟩
  intro order grammar horder h
  refine ⟨compiled_of_compileIn horder h, fun other again hother hagain => ?_, ?_⟩
  · exact agrees_of_compileIn horder h hother hagain
  · intro line text column stack rest hreads
    exact ⟨hreads.exists_tokens, exists_rules_of_readsTo horder h hreads,
      hreads.exists_transitions⟩

/-- A table in which two modes that are spliced beside each other splice the same third one. -/
def diamond : GrammarTable Pattern where
  name := "diamond"
  defaultKind := .invalid
  keywords := []
  modes := [(.root, [.splice .numbers, .splice .booleans]),
    (.numbers, [.splice .whitespace,
      .rule LineGrammar.word (.kind .number { transition := .push .strings })]),
    (.booleans, [.splice .whitespace]),
    (.whitespace, [.rule LineGrammar.spaces (.kind .white {})]),
    (.strings, [])]

/-- The table compiles in both directions, and a mode that a rule enters has rules. -/
theorem compiles_iff_wellFormed_diamond :
    diamond.WellFormed .ok ∧ ∃ grammar again,
      diamond.compileIn .ok diamond.definedModes = .ok grammar ∧
      diamond.compileIn .ok diamond.definedModes.reverse = .ok again ∧
      grammar.Agrees again ∧ diamond.Compiled .ok grammar ∧
      ∀ mode ∈ (grammar.step 1 1 ⟨.root, []⟩ ['1']).stack.modes,
        ∃ rules, grammar.rules.lookup mode = some rules := by
  have horder := diamond.orders_definedModes
  have hreverse : diamond.Orders diamond.definedModes.reverse :=
    fun mode => List.mem_reverse.trans (horder mode)
  obtain ⟨-, hwellFormed, hcompiles, -⟩ := compiles_iff_wellFormed .ok diamond
  obtain ⟨grammar, hgrammar⟩ :
      ∃ grammar, diamond.compileIn .ok diamond.definedModes = .ok grammar := ⟨_, rfl⟩
  obtain ⟨again, hagain⟩ :
      ∃ again, diamond.compileIn .ok diamond.definedModes.reverse = .ok again := ⟨_, rfl⟩
  obtain ⟨hcompiled, hagrees, hreads⟩ := hcompiles _ grammar horder hgrammar
  exact ⟨(hwellFormed _ horder).1 ⟨grammar, hgrammar⟩, grammar, again, hgrammar, hagain,
    hagrees _ again hreverse hagain, hcompiled, (hreads 1 "1" _ _ _ (.step .start)).2.1⟩

end GrammarTable

end EnsembleDesk
