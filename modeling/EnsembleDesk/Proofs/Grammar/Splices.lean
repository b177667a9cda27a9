import Mathlib.Logic.Relation
import EnsembleDesk.Grammar.Table
import EnsembleDesk.Proofs.Result
/-!
# The rules of a mode, spliced

The entries of a mode stand for rules, in order and with every splice replaced by the rules of its
mode (`GrammarTable.Expands`). They stand for some just if no splice names a mode that is not there
and no mode is spliced into itself, by however many steps; one that is spliced in twice, each time
beside the other, does no harm.

`GrammarTable.Flattens` is how the rules are found: entry by entry, with the modes kept in mind that
are being spliced. It comes to an end from every table (`GrammarTable.flattens_flatten`), and finds
the rules if there are any (`GrammarTable.forall_exists_flatten_iff`).

## Main results

* `GrammarTable.flattens_flatten`: the depth to which modes are expanded suffices;
* `GrammarTable.forall_exists_flatten_iff`: when the rules of all modes are found.
-/

namespace EnsembleDesk

namespace GrammarTable

variable {π : Type}

/-- The rules that entries stand for. -/
inductive Expands (table : GrammarTable π) : List (Entry π) → List (WrittenRule π) → Prop where
  | nil : Expands table [] []
  /-- A rule stands for itself. -/
  | rule {entries rules} (pattern : π) (emit : Emit) (idle : Action)
    (hrest : Expands table entries rules) :
    Expands table (.rule pattern emit idle :: entries) (⟨pattern, emit, idle⟩ :: rules)
  /-- A splice stands for what the entries of its mode stand for. -/
  | splice {mode spliced first entries rules} (hmode : table.entriesOf? mode = some spliced)
    (hspliced : Expands table spliced first) (hrest : Expands table entries rules) :
    Expands table (.splice mode :: entries) (first ++ rules)

/-- The entries of a mode contain a splice of another. -/
def Includes (table : GrammarTable π) (mode other : Mode) : Prop :=
  ∃ entries, table.entriesOf? mode = some entries ∧ .splice other ∈ entries

/-- Finding the rules of entries, one after the other, while the surrounding modes are being
spliced. -/
inductive Flattens (table : GrammarTable π) :
    List Mode → List (Entry π) → Except GrammarError (List (WrittenRule π)) → Prop where
  | nil (surrounding : List Mode) : Flattens table surrounding [] (.ok [])
  /-- A rule is found, and then those of the other entries. -/
  | rule {surrounding entries result} (pattern : π) (emit : Emit) (idle : Action)
    (hrest : Flattens table surrounding entries result) :
    Flattens table surrounding (.rule pattern emit idle :: entries)
      (result.map (⟨pattern, emit, idle⟩ :: ·))
  /-- There is no such mode. -/
  | unknown {mode} (surrounding : List Mode) (entries : List (Entry π))
    (hmode : table.entriesOf? mode = none) :
    Flattens table surrounding (.splice mode :: entries) (.error (.unknownMode table.name mode))
  /-- The mode is being spliced already. -/
  | cycle {mode spliced surrounding} (entries : List (Entry π))
    (hmode : table.entriesOf? mode = some spliced) (hmem : mode ∈ surrounding) :
    Flattens table surrounding (.splice mode :: entries) (.error (.spliceCycle mode))
  /-- The rules of the mode cannot be found. -/
  | stops {mode spliced surrounding error} (entries : List (Entry π))
    (hmode : table.entriesOf? mode = some spliced) (hmem : mode ∉ surrounding)
    (hspliced : Flattens table (mode :: surrounding) spliced (.error error)) :
    Flattens table surrounding (.splice mode :: entries) (.error error)
  /-- The rules of the mode are found, and then those of the other entries. -/
  | splice {mode spliced surrounding first entries result}
    (hmode : table.entriesOf? mode = some spliced) (hmem : mode ∉ surrounding)
    (hspliced : Flattens table (mode :: surrounding) spliced (.ok first))
    (hrest : Flattens table surrounding entries result) :
    Flattens table surrounding (.splice mode :: entries) (result.map (first ++ ·))

section

variable {table : GrammarTable π} {mode : Mode} {surrounding : List Mode}
  {entries : List (Entry π)} {rules : List (WrittenRule π)}

/-! ### What entries stand for -/

/-- Entries stand for one list of rules. -/
theorem Expands.unique {again : List (WrittenRule π)} (h : table.Expands entries rules)
    (hagain : table.Expands entries again) : rules = again := by
  induction h generalizing again with
  | nil =>
    cases hagain
    rfl
  | rule pattern emit idle hrest ih =>
    cases hagain with
    | rule _ _ _ hother => rw [ih hother]
  | splice hmode hspliced hrest ihspliced ihrest =>
    cases hagain with
    | splice hother hsame hrest =>
      obtain rfl := Option.some.inj (hmode.symm.trans hother)
      rw [ihspliced hsame, ihrest hrest]

/-- The entries that stand for rules splice modes that are there, of which none is spliced into
itself. -/
theorem Expands.of_mem (h : table.Expands entries rules) (hmem : .splice mode ∈ entries) :
    table.defines mode = true ∧ ¬ Relation.TransGen table.Includes mode mode := by
  induction h generalizing mode with
  | nil => cases hmem
  | rule pattern emit idle hrest ih =>
    obtain heq | hmem := List.mem_cons.1 hmem
    · cases heq
    · exact ih hmem
  | @splice head spliced _ _ _ hmode hspliced hrest ihspliced ihrest =>
    obtain heq | hmem := List.mem_cons.1 hmem
    · cases heq
      refine ⟨Option.isSome_iff_exists.2 ⟨spliced, hmode⟩, fun hcycle => ?_⟩
      -- the next mode of the cycle is spliced here, and lies on the same cycle
      obtain ⟨next, ⟨found, hfound, hnext⟩, hback⟩ := Relation.TransGen.head'_iff.1 hcycle
      obtain rfl := Option.some.inj (hmode.symm.trans hfound)
      exact (ihspliced hnext).2 (.tail' hback ⟨spliced, hmode, hnext⟩)
    · exact ihrest hmem

/-! ### How the rules are found -/

/-- The rules that are found are those that the entries stand for. -/
theorem Flattens.expands (h : table.Flattens surrounding entries (.ok rules)) :
    table.Expands entries rules := by
  generalize hresult : Except.ok rules = result at h
  induction h generalizing rules with
  | nil surrounding =>
    cases hresult
    exact .nil
  | rule pattern emit idle hrest ih =>
    obtain ⟨found, rfl, rfl⟩ := Except.map_eq_ok_iff.1 hresult.symm
    exact .rule pattern emit idle (ih rfl)
  | splice hmode hmem hspliced hrest ihspliced ihrest =>
    obtain ⟨found, rfl, rfl⟩ := Except.map_eq_ok_iff.1 hresult.symm
    exact .splice hmode (ihspliced rfl) (ihrest rfl)
  | _ => cases hresult

/-- The rules of entries are found if each splice names a mode that is there, and none that the
surrounding modes are spliced into. -/
theorem Flattens.ne_error {error : GrammarError}
    (hdefines : ∀ mode other, table.Includes mode other → table.defines other = true)
    (hacyclic : ∀ mode, ¬ Relation.TransGen table.Includes mode mode)
    (hentries : ∀ mode, .splice mode ∈ entries → table.defines mode = true ∧
      ∀ outer ∈ surrounding, Relation.TransGen table.Includes outer mode) :
    ¬ table.Flattens surrounding entries (.error error) := by
  intro h
  generalize hresult : Except.error error = result at h
  -- a mode that is being spliced reaches each of those that its entries splice
  have hinner : ∀ {mode surrounding spliced}, table.entriesOf? mode = some spliced →
      (∀ outer ∈ surrounding, Relation.TransGen table.Includes outer mode) →
      ∀ next, .splice next ∈ spliced → table.defines next = true ∧
        ∀ outer ∈ mode :: surrounding, Relation.TransGen table.Includes outer next := by
    intro mode surrounding spliced hmode houter next hnext
    have hincludes : table.Includes mode next := ⟨spliced, hmode, hnext⟩
    refine ⟨hdefines mode next hincludes, List.forall_mem_cons.2 ⟨.single hincludes, ?_⟩⟩
    exact fun outer hmem => (houter outer hmem).tail hincludes
  induction h generalizing error with
  | nil surrounding => cases hresult
  | rule pattern emit idle hrest ih =>
    have hrest := Except.map_eq_error_iff.1 hresult.symm
    exact ih (fun mode hmem => hentries mode (List.mem_cons_of_mem _ hmem)) hrest.symm
  | unknown surrounding entries hmode =>
    have hdefined := (hentries _ List.mem_cons_self).1
    rw [defines, hmode] at hdefined
    cases hdefined
  | cycle entries hmode hmem => exact hacyclic _ ((hentries _ List.mem_cons_self).2 _ hmem)
  | stops entries hmode hmem hspliced ih =>
    exact ih (hinner hmode (hentries _ List.mem_cons_self).2) hresult
  | splice hmode hmem hspliced hrest ihspliced ihrest =>
    have hrest := Except.map_eq_error_iff.1 hresult.symm
    exact ihrest (fun mode hmem => hentries mode (List.mem_cons_of_mem _ hmem)) hrest.symm

/-! ### Depth -/

/-- The modes that are not being spliced. -/
def outside (surrounding : List Mode) : List Mode := Mode.all.filter (· ∉ surrounding)

/-- Splicing a mode leaves fewer that are not being spliced. -/
theorem length_outside_cons_lt (hmem : mode ∉ surrounding) :
    (outside (mode :: surrounding)).length < (outside surrounding).length := by
  have hfilter : outside (mode :: surrounding) = (outside surrounding).filter (· ≠ mode) := by
    rw [outside, outside, List.filter_filter]
    refine List.filter_congr fun other _ => ?_
    simp [List.mem_cons, not_or]
  rw [hfilter, List.length_filter_lt_length_iff_exists]
  exact ⟨mode, List.mem_filter.2 ⟨Mode.mem_all mode, by simpa using hmem⟩, by simp⟩

theorem Flattens.append {first result : Except GrammarError (List (WrittenRule π))}
    (hfirst : table.Flattens surrounding [.splice mode] first)
    (hrest : table.Flattens surrounding entries result) :
    table.Flattens surrounding (.splice mode :: entries)
      (first >>= fun first => result.map (first ++ ·)) := by
  cases hfirst with
  | unknown _ _ hmode => exact .unknown surrounding entries hmode
  | cycle _ hmode hmem => exact .cycle entries hmode hmem
  | stops _ hmode hmem hspliced => exact .stops entries hmode hmem hspliced
  | splice hmode hmem hspliced hnil =>
    cases hnil
    have h := Flattens.splice hmode hmem hspliced hrest
    simpa [Except.map] using h

/-- The rules of entries are found where those of each splice are. -/
theorem flattens_entryRules {find : Mode → Except GrammarError (List (WrittenRule π))}
    (hfind : ∀ mode, table.Flattens surrounding [.splice mode] (find mode))
    (entries : List (Entry π)) :
    table.Flattens surrounding entries (entryRules find entries) := by
  induction entries with
  | nil => exact .nil surrounding
  | cons entry entries ih =>
    cases entry with
    | rule pattern emit idle => exact .rule pattern emit idle ih
    | splice mode => exact (hfind mode).append ih

/-- The depth to which a mode is expanded suffices if it exceeds the number of modes that are not
being spliced. -/
theorem flattens_expand {depth : Nat} (hdepth : (outside surrounding).length < depth)
    (mode : Mode) :
    table.Flattens surrounding [.splice mode] (table.expand depth surrounding mode) := by
  induction depth generalizing surrounding mode with
  | zero => exact absurd hdepth (Nat.not_lt_zero _)
  | succ depth ih =>
    rw [expand]
    split
    · rename_i hmode
      exact .unknown surrounding [] hmode
    · rename_i spliced hmode
      split
      · rename_i hmem
        exact .cycle [] hmode hmem
      · rename_i hmem
        -- within the mode there is one mode less left, and one level less
        have hdepth : (outside (mode :: surrounding)).length < depth :=
          Nat.lt_of_lt_of_le (length_outside_cons_lt hmem) (Nat.le_of_lt_succ hdepth)
        have hspliced := flattens_entryRules (ih hdepth) spliced
        cases hresult : entryRules (table.expand depth (mode :: surrounding)) spliced with
        | error error => exact .stops [] hmode hmem (hresult ▸ hspliced)
        | ok first =>
          have h := Flattens.splice hmode hmem (hresult ▸ hspliced) (.nil surrounding)
          simpa [Except.map] using h

/-- Finding the rules of a mode comes to an end. -/
theorem flattens_flatten (table : GrammarTable π) (mode : Mode) :
    table.Flattens [] [.splice mode] (table.flatten mode) :=
  flattens_expand (Nat.lt_succ_of_le (List.length_filter_le _ _)) mode

/-- The rules that are found of a mode are those that its entries stand for. -/
theorem expands_of_flatten (h : table.flatten mode = .ok rules) :
    ∃ entries, table.entriesOf? mode = some entries ∧ table.Expands entries rules := by
  have hflattens := table.flattens_flatten mode
  rw [h] at hflattens
  cases hflattens.expands with
  | splice hmode hspliced hrest =>
    cases hrest
    exact ⟨_, hmode, by rwa [List.append_nil]⟩

/-- The rules of all modes are found just if every splice names a mode that is there and no mode is
spliced into itself. -/
theorem forall_exists_flatten_iff :
    (∀ mode, table.defines mode = true → ∃ rules, table.flatten mode = .ok rules) ↔
      (∀ mode other, table.Includes mode other → table.defines other = true) ∧
        ∀ mode, ¬ Relation.TransGen table.Includes mode mode := by
  constructor
  · intro hfound
    -- what holds of the splices of a mode holds of all modes that splice something
    have hmem : ∀ mode other, table.Includes mode other →
        table.defines other = true ∧ ¬ Relation.TransGen table.Includes other other := by
      rintro mode other ⟨entries, hentries, hmem⟩
      obtain ⟨rules, hrules⟩ := hfound mode (Option.isSome_iff_exists.2 ⟨entries, hentries⟩)
      obtain ⟨_, hfound, hexpands⟩ := expands_of_flatten hrules
      obtain rfl := Option.some.inj (hentries.symm.trans hfound)
      exact hexpands.of_mem hmem
    refine ⟨fun mode other h => (hmem mode other h).1, fun mode hcycle => ?_⟩
    obtain ⟨last, -, hlast⟩ := Relation.TransGen.tail'_iff.1 hcycle
    exact (hmem last mode hlast).2 hcycle
  · rintro ⟨hdefines, hacyclic⟩ mode hmode
    cases hflatten : table.flatten mode with
    | ok rules => exact ⟨rules, rfl⟩
    | error error =>
      have h := table.flattens_flatten mode
      rw [hflatten] at h
      refine absurd h (Flattens.ne_error hdefines hacyclic fun other hother => ?_)
      obtain rfl : other = mode := by simpa using hother
      exact ⟨hmode, List.forall_mem_nil _⟩

end

end GrammarTable

end EnsembleDesk
