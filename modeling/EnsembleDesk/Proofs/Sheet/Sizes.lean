import EnsembleDesk.Sheet.Sizes
import EnsembleDesk.Proofs.Sheet.Tables
/-!
# Sizes of their own

`Sizes.set` gives no line the common size as a size of its own, and moving lines gives none a new
size. So all sizes that come from a common one are exceptions (`Sizes.Exceptional`), and then they
are made again of the exceptions alone (`Sizes.Exceptional.setAll_own`).
-/

namespace EnsembleDesk

namespace Sizes

open Scalar

variable {α : Type} [Scalar α] {sizes : Sizes α}

/-- A line that has a size of its own does not have the common one. -/
def Exceptional (sizes : Sizes α) : Prop :=
  ∀ i size, sizes.own.get? i = some size → same size sizes.common = false

/-- Setting the size of a line keeps the common size. -/
theorem common_set (sizes : Sizes α) (i : Index) (size : α) :
    (sizes.set i size).common = sizes.common := by
  rw [set]
  split <;> rfl

/-- The size that a line has of its own after the size of one was set. -/
theorem get?_set (sizes : Sizes α) (j : Index) (size : α) (i : Index) :
    (sizes.set j size).own.get? i =
      if j = i then (if same size sizes.common then none else some size)
      else sizes.own.get? i := by
  rw [set]
  split
  · rw [Sparse.get?_erase]
    simp [Sparse.number_eq_iff]
  · rw [Sparse.get?_insert]
    simp [Sparse.number_eq_iff]

/-- Where all lines have the common size, none has one of its own. -/
theorem Exceptional.uniform (size : α) : (uniform size).Exceptional := by
  intro i own h
  cases h

/-- A size that is the common one is not kept as one of its own. -/
theorem Exceptional.set (h : sizes.Exceptional) (i : Index) (size : α) :
    (sizes.set i size).Exceptional := by
  intro j own hown
  rw [common_set]
  rw [get?_set] at hown
  split at hown
  · split at hown
    · cases hown
    · rename_i hsame
      rw [← Option.some.inj hown]
      exact Bool.not_eq_true _ ▸ hsame
  · exact h j own hown

/-- Lines that move keep their sizes. -/
theorem Exceptional.move (h : sizes.Exceptional) (target : Index → Option Index) :
    Exceptional { sizes with own := sizes.own.move target } := by
  intro j own hown
  obtain ⟨i, hi, -⟩ := Sparse.get?_move hown
  exact h i own hi

/-- Sizes that are all exceptions are all put down. -/
theorem setAll_eq (base : Sizes α) {entries : List (Index × α)}
    (h : ∀ entry ∈ entries, same entry.2 base.common = false) :
    base.setAll entries = { base with
      own := entries.foldl (fun own entry => own.insert entry.1 entry.2) base.own } := by
  induction entries generalizing base with
  | nil => rfl
  | cons entry entries ih =>
    have hset : base.set entry.1 entry.2 =
        { base with own := base.own.insert entry.1 entry.2 } := by
      rw [set, h entry List.mem_cons_self]
      exact if_neg Bool.false_ne_true
    have hrest : ∀ other ∈ entries, same other.2 base.common = false :=
      fun other hmem => h other (List.mem_cons_of_mem _ hmem)
    rw [setAll, List.foldl_cons, List.foldl_cons, hset]
    exact ih { base with own := base.own.insert entry.1 entry.2 } hrest

/-- Exceptions from a common size make the same sizes again. -/
theorem Exceptional.setAll_own {base : Sizes α} (h : sizes.Exceptional) (hbase : base.own = .empty)
    (hcommon : base.common = sizes.common) : base.setAll sizes.own.entries = sizes := by
  have hentries : ∀ entry ∈ sizes.own.entries, same entry.2 base.common = false := by
    intro entry hmem
    rw [hcommon]
    exact h entry.1 entry.2 (Sparse.get?_eq_some_iff.2 hmem)
  have hown : sizes.own.entries.foldl (fun own entry => own.insert entry.1 entry.2) base.own =
      sizes.own := by
    rw [hbase]
    exact Sparse.ofList_eq fun _ => Iff.rfl
  rw [setAll_eq base hentries, hown, hcommon]

/-- Setting the sizes of several lines keeps the common size. -/
theorem common_setAll (sizes : Sizes α) (entries : List (Index × α)) :
    (sizes.setAll entries).common = sizes.common := by
  induction entries generalizing sizes with
  | nil => rfl
  | cons entry entries ih => exact (ih _).trans (common_set sizes entry.1 entry.2)

/-- A line for which no size is set keeps its own. -/
theorem get?_setAll_of_not_mem (sizes : Sizes α) {entries : List (Index × α)} {i : Index}
    (h : i ∉ entries.map Prod.fst) : (sizes.setAll entries).own.get? i = sizes.own.get? i := by
  induction entries generalizing sizes with
  | nil => rfl
  | cons entry entries ih =>
    have hset := ih (sizes.set entry.1 entry.2) (List.not_mem_of_not_mem_cons h)
    rw [get?_set, if_neg (List.ne_of_not_mem_cons h).symm] at hset
    exact hset

/-- A line for which a size is set has it of its own, unless it is the common one. -/
theorem get?_setAll_of_mem (sizes : Sizes α) {entries : List (Index × α)} {i : Index} {size : α}
    (hnodup : (entries.map Prod.fst).Nodup) (h : (i, size) ∈ entries) :
    (sizes.setAll entries).own.get? i =
      if same size sizes.common then none else some size := by
  -- what is set before the line's own size does not matter, and nothing is set for it afterwards
  obtain ⟨before, after, rfl⟩ := List.append_of_mem h
  have hafter : i ∉ after.map Prod.fst := by
    rw [List.map_append, List.map_cons] at hnodup
    exact (List.nodup_cons.1 (List.nodup_append.1 hnodup).2.1).1
  have hsplit : sizes.setAll (before ++ (i, size) :: after) =
      ((sizes.setAll before).set i size).setAll after := List.foldl_append
  rw [hsplit, get?_setAll_of_not_mem _ hafter, get?_set, if_pos rfl, common_setAll]

/-- The size that a line has of its own after all sizes of a table were set: the one of the table,
unless it is the common one, and what the line had before if the table has none. -/
theorem get?_setAll_entries (base : Sizes α) (own : Sparse Index α) (i : Index) :
    (base.setAll own.entries).own.get? i =
      match own.get? i with
      | some size => if same size base.common then none else some size
      | none => base.own.get? i := by
  cases hsize : own.get? i with
  | some size =>
    exact get?_setAll_of_mem base own.nodup_positions (Sparse.get?_eq_some_iff.1 hsize)
  | none =>
    refine get?_setAll_of_not_mem base fun hmem => ?_
    obtain ⟨size, hsome⟩ := Sparse.mem_positions_iff.1 hmem
    rw [hsize] at hsome
    cases hsome

/-- Sizes that lines have after some were set over none were set. -/
theorem of_get?_setAll_entries {base : Sizes α} (hbase : base.own = .empty)
    {own : Sparse Index α} {i : Index} {size : α}
    (h : (base.setAll own.entries).own.get? i = some size) : own.get? i = some size := by
  rw [get?_setAll_entries, hbase] at h
  split at h
  · split at h
    · cases h
    · rwa [← h]
  · cases h

/-- Sizes are made again over some of them, if only the common size compares as equal with it. -/
theorem size_setAll_own {base sizes : Sizes α} (hcommon : base.common = sizes.common)
    (hown : ∀ i size, base.own.get? i = some size → sizes.own.get? i = some size)
    (hsame : ∀ size, same size sizes.common = true → size = sizes.common) (i : Index) :
    (base.setAll sizes.own.entries).size i = sizes.size i := by
  rw [Sizes.size, Sizes.size, common_setAll, hcommon, get?_setAll_entries, hcommon]
  cases hsize : sizes.own.get? i with
  | some size =>
    -- a line whose size is dropped has the common one
    simp only
    split
    · rename_i heq
      exact (hsame size heq).symm
    · rfl
  | none =>
    cases hbase : base.own.get? i with
    | none => rfl
    | some size =>
      rw [hown i size hbase] at hsize
      cases hsize

end Sizes

end EnsembleDesk
