/-!
# Sparse tables

A sparse table holds a value at some of the positions of a line: the cells of a sheet, the sizes of
single rows. Its entries are kept in the order of their positions, so that two tables with the same
value at every position are equal (`Sparse.ext_get?`).

The operations are described by `Sparse.get?`: `get?_insert`, `get?_erase`.
-/

namespace EnsembleDesk

/-- Positions that are numbered: no two of them have the same number. -/
class Position (κ : Type) where
  /-- The number of a position. -/
  number : κ → Nat
  /-- A number belongs to one position only. -/
  eq_of_number : ∀ {a b : κ}, number a = number b → a = b

/-- Values at some of the positions. -/
structure Sparse (κ α : Type) [Position κ] where
  /-- The positions that hold a value, with their values. -/
  entries : List (κ × α)
  /-- Every position comes after those with smaller numbers. -/
  ordered : entries.Pairwise fun a b => Position.number a.1 < Position.number b.1
deriving DecidableEq

namespace Sparse

open Position

variable {κ α : Type} [Position κ]

/-- The table without values. -/
def empty : Sparse κ α := ⟨[], .nil⟩

instance : Inhabited (Sparse κ α) := ⟨empty⟩

/-- The number of positions that hold a value. -/
def size (table : Sparse κ α) : Nat := table.entries.length

/-- The positions that hold a value, in order. -/
def positions (table : Sparse κ α) : List κ := table.entries.map Prod.fst

/-- The value that a list of entries has for a position. -/
@[specialize]
def find (position : κ) : List (κ × α) → Option α
  | [] => none
  | (k, v) :: rest => if number k = number position then some v else find position rest

/-- The value at a position. -/
def get? (table : Sparse κ α) (position : κ) : Option α := find position table.entries

/-- Puts an entry into an ordered list, in place of one with its position. -/
@[specialize]
def insertEntry (position : κ) (value : α) : List (κ × α) → List (κ × α)
  | [] => [(position, value)]
  | (k, v) :: rest =>
    if number position < number k then (position, value) :: (k, v) :: rest
    else if number position = number k then (position, value) :: rest
    else (k, v) :: insertEntry position value rest

theorem mem_insertEntry {position : κ} {value : α} {entry : κ × α} {entries : List (κ × α)}
    (h : entry ∈ insertEntry position value entries) :
    entry = (position, value) ∨ entry ∈ entries := by
  induction entries with
  | nil => exact .inl (List.mem_singleton.1 h)
  | cons head rest ih =>
    obtain ⟨k, v⟩ := head
    rw [insertEntry] at h
    split at h
    · exact List.mem_cons.1 h
    · split at h
      · exact (List.mem_cons.1 h).imp_right (List.mem_cons_of_mem _)
      · rcases List.mem_cons.1 h with rfl | h
        · exact .inr List.mem_cons_self
        · exact (ih h).imp_right (List.mem_cons_of_mem _)

theorem ordered_insertEntry (position : κ) (value : α) {entries : List (κ × α)}
    (h : entries.Pairwise fun a b => number a.1 < number b.1) :
    (insertEntry position value entries).Pairwise fun a b => number a.1 < number b.1 := by
  induction entries with
  | nil => exact List.pairwise_singleton _ _
  | cons head rest ih =>
    obtain ⟨k, v⟩ := head
    have hrest := List.pairwise_cons.1 h
    rw [insertEntry]
    split
    · rename_i hlt
      refine List.pairwise_cons.2 ⟨fun entry hmem => ?_, h⟩
      rcases List.mem_cons.1 hmem with rfl | hmem
      · exact hlt
      · exact Nat.lt_trans hlt (hrest.1 entry hmem)
    · split
      · rename_i heq
        exact List.pairwise_cons.2 ⟨fun entry hmem => heq ▸ hrest.1 entry hmem, hrest.2⟩
      · refine List.pairwise_cons.2 ⟨fun entry hmem => ?_, ih hrest.2⟩
        rcases mem_insertEntry hmem with rfl | hmem
        · show number k < number position
          omega
        · exact hrest.1 entry hmem

/-- Puts a value at a position. -/
def insert (table : Sparse κ α) (position : κ) (value : α) : Sparse κ α :=
  ⟨insertEntry position value table.entries, ordered_insertEntry position value table.ordered⟩

/-- Removes the value at a position. -/
def erase (table : Sparse κ α) (position : κ) : Sparse κ α :=
  ⟨table.entries.filter fun entry => number entry.1 != number position, table.ordered.filter _⟩

/-- The table of some entries; of several values for a position the last one counts. -/
def ofList (entries : List (κ × α)) : Sparse κ α :=
  entries.foldl (fun table entry => table.insert entry.1 entry.2) empty

/-- Moves every value to another position, or drops it where there is none. -/
def move (table : Sparse κ α) (target : κ → Option κ) : Sparse κ α :=
  ofList (table.entries.filterMap fun entry => (target entry.1).map fun k => (k, entry.2))

/-! ### Values at positions -/

theorem find_insertEntry (position other : κ) (value : α) (entries : List (κ × α)) :
    find other (insertEntry position value entries) =
      if number position = number other then some value else find other entries := by
  induction entries with
  | nil => rfl
  | cons head rest ih =>
    obtain ⟨k, v⟩ := head
    rw [insertEntry]
    split
    · rfl
    · split
      · rename_i heq
        by_cases h : number position = number other
        · simp [find, h]
        · simp [find, h, ← heq]
      · rename_i hne
        by_cases h : number k = number other
        · have : number position ≠ number other := h ▸ hne
          simp [find, h, this]
        · simp [find, h, ih]

theorem get?_insert (table : Sparse κ α) (position other : κ) (value : α) :
    (table.insert position value).get? other =
      if number position = number other then some value else table.get? other :=
  find_insertEntry position other value table.entries

theorem find_filter_ne (position other : κ) (entries : List (κ × α)) :
    find other (entries.filter fun entry => number entry.1 != number position) =
      if number position = number other then none else find other entries := by
  induction entries with
  | nil => simp [find]
  | cons head rest ih =>
    obtain ⟨k, v⟩ := head
    by_cases hk : number k = number position
    · rw [List.filter_cons_of_neg (by simp [hk]), ih]
      by_cases h : number position = number other
      · rw [if_pos h, if_pos h]
      · rw [if_neg h, if_neg h, find, if_neg (hk ▸ h)]
    · rw [List.filter_cons_of_pos (by simp [hk]), find, find, ih]
      by_cases hko : number k = number other
      · rw [if_pos hko, if_pos hko, if_neg (hko ▸ Ne.symm hk)]
      · rw [if_neg hko, if_neg hko]

theorem get?_erase (table : Sparse κ α) (position other : κ) :
    (table.erase position).get? other =
      if number position = number other then none else table.get? other :=
  find_filter_ne position other table.entries

/-- A value at a position is an entry, and the other way round. -/
theorem get?_eq_some_iff {table : Sparse κ α} {position : κ} {value : α} :
    table.get? position = some value ↔ (position, value) ∈ table.entries := by
  obtain ⟨entries, ordered⟩ := table
  show find position entries = some value ↔ _
  induction entries with
  | nil => simp [find]
  | cons head rest ih =>
    obtain ⟨k, v⟩ := head
    have hrest := List.pairwise_cons.1 ordered
    by_cases hk : number k = number position
    · have hkey : k = position := eq_of_number hk
      subst hkey
      simp only [find, if_true, Option.some.injEq, List.mem_cons, Prod.mk.injEq, true_and]
      refine ⟨fun h => .inl h.symm, fun h => h.elim Eq.symm fun hmem => ?_⟩
      exact absurd (hrest.1 _ hmem) (Nat.lt_irrefl _)
    · have hkey : ¬ position = k := fun h => hk (h ▸ rfl)
      simp only [find, hk, if_false, List.mem_cons, Prod.mk.injEq, hkey, false_and, false_or]
      exact ih hrest.2

/-- Entries in order do not occur twice. -/
theorem nodup_of_ordered {entries : List (κ × α)}
    (h : entries.Pairwise fun a b => number a.1 < number b.1) : entries.Nodup := by
  apply h.imp
  rintro entry _ hlt rfl
  exact Nat.lt_irrefl _ hlt

/-- Entries in order are those of a table if they are the same. -/
theorem entries_eq {entries : List (κ × α)} {table : Sparse κ α}
    (hordered : entries.Pairwise fun a b => number a.1 < number b.1)
    (h : ∀ entry, entry ∈ entries ↔ entry ∈ table.entries) : entries = table.entries := by
  have hperm : entries.Perm table.entries :=
    (List.perm_ext_iff_of_nodup (nodup_of_ordered hordered) (nodup_of_ordered table.ordered)).2 h
  -- no two entries come before each other, so they can be listed in one order only
  exact hperm.eq_of_pairwise (fun _ _ _ _ hlt hgt => absurd hlt (Nat.lt_asymm hgt)) hordered
    table.ordered

/-- Tables with the same value at every position are equal. -/
theorem ext_get? {s t : Sparse κ α} (h : ∀ position, s.get? position = t.get? position) :
    s = t := by
  have hentries : s.entries = t.entries := entries_eq s.ordered fun entry => by
    rw [← get?_eq_some_iff, ← get?_eq_some_iff, h]
  cases s
  cases t
  cases hentries
  rfl

end Sparse

end EnsembleDesk
