import EnsembleDesk.Sheet.Sparse
import Mathlib.Data.List.Nodup
/-!
# Tables built of entries

`Sparse.ofList` takes entries one after the other. The values of the table are some of the entries
(`Sparse.mem_of_get?_ofList`), every position that occurs has one (`Sparse.get?_ofList_isSome`), and
a table is built again of its own entries, whatever their order (`Sparse.ofList_eq`).

`Sparse.move` takes the value at a position to another one. Where no two values come to the same
position, each is found where it went (`Sparse.get?_move_eq_bind`), none is lost
(`Sparse.perm_move`), and values that move back make the same table again (`Sparse.move_move`).
-/

namespace EnsembleDesk

namespace Sparse

open Position

variable {κ α : Type} [Position κ]

theorem number_eq_iff {a b : κ} : number a = number b ↔ a = b :=
  ⟨eq_of_number, congrArg _⟩

/-- A value of a table that was built of entries is one of them. -/
theorem mem_of_get?_ofList {entries : List (κ × α)} {position : κ} {value : α}
    (h : (ofList entries).get? position = some value) : (position, value) ∈ entries := by
  -- entries are put into a table that may have the value already
  have hfold : ∀ (entries : List (κ × α)) (table : Sparse κ α),
      (entries.foldl (fun table entry => table.insert entry.1 entry.2) table).get? position =
        some value → (position, value) ∈ entries ∨ table.get? position = some value := by
    intro entries
    induction entries with
    | nil => exact fun table h => .inr h
    | cons entry entries ih =>
      intro table h
      rcases ih (table.insert entry.1 entry.2) h with h | h
      · exact .inl (List.mem_cons_of_mem _ h)
      · rw [get?_insert] at h
        split at h
        · rename_i hnumber
          rw [← eq_of_number hnumber, ← Option.some.inj h]
          exact .inl List.mem_cons_self
        · exact .inr h
  rcases hfold entries empty h with h | h
  · exact h
  · cases h

/-- A position that occurs among the entries has a value in the table that is built of them. -/
theorem get?_ofList_isSome {entries : List (κ × α)} {position : κ}
    (h : position ∈ entries.map Prod.fst) : ((ofList entries).get? position).isSome := by
  have hfold : ∀ (entries : List (κ × α)) (table : Sparse κ α),
      position ∈ entries.map Prod.fst ∨ (table.get? position).isSome →
        ((entries.foldl (fun table entry => table.insert entry.1 entry.2) table).get?
          position).isSome := by
    intro entries
    induction entries with
    | nil => exact fun table h => h.resolve_left List.not_mem_nil
    | cons entry entries ih =>
      intro table h
      refine ih (table.insert entry.1 entry.2) ?_
      rw [get?_insert]
      rw [List.map_cons, List.mem_cons, or_assoc] at h
      rcases h with rfl | h | h
      · rw [if_pos rfl]
        exact .inr rfl
      · exact .inl h
      · right
        split
        · rfl
        · exact h
  exact hfold entries empty (.inl h)

/-- A table is built again of its entries, in whatever order they are taken. -/
theorem ofList_eq {entries : List (κ × α)} {table : Sparse κ α}
    (h : ∀ entry, entry ∈ entries ↔ entry ∈ table.entries) : ofList entries = table := by
  refine ext_get? fun position => ?_
  cases hlist : (ofList entries).get? position with
  | some value =>
    have hmem := (h (position, value)).1 (mem_of_get?_ofList hlist)
    exact (get?_eq_some_iff.2 hmem).symm
  | none =>
    cases htable : table.get? position with
    | none => rfl
    | some value =>
      -- the position would occur among the entries, and so would have a value
      have hmem := (h (position, value)).2 (get?_eq_some_iff.1 htable)
      have hsome := get?_ofList_isSome (List.mem_map.2 ⟨_, hmem, rfl⟩)
      rw [hlist] at hsome
      cases hsome

/-- No position comes after the last one. -/
theorem number_le_of_getLast? {table : Sparse κ α} {last position : κ}
    (hlast : table.positions.getLast? = some last) (h : position ∈ table.positions) :
    number position ≤ number last := by
  obtain ⟨front, hfront⟩ := List.getLast?_eq_some_iff.1 hlast
  have hordered : table.positions.Pairwise fun a b => number a < number b :=
    List.pairwise_map.2 table.ordered
  rw [hfront] at hordered h
  rcases List.mem_append.1 h with h | h
  · exact Nat.le_of_lt ((List.pairwise_append.1 hordered).2.2 _ h _ (List.mem_singleton.2 rfl))
  · exact Nat.le_of_eq (congrArg number (List.mem_singleton.1 h))

/-- A value of a table that was moved comes from some position. -/
theorem get?_move {table : Sparse κ α} {target : κ → Option κ} {position : κ} {value : α}
    (h : (table.move target).get? position = some value) :
    ∃ origin, table.get? origin = some value ∧ target origin = some position := by
  obtain ⟨⟨origin, v⟩, hmem, hmap⟩ := List.mem_filterMap.1 (mem_of_get?_ofList h)
  obtain ⟨k, htarget, hk⟩ := Option.map_eq_some_iff.1 hmap
  cases hk
  exact ⟨origin, get?_eq_some_iff.2 hmem, htarget⟩

theorem nodup_positions (table : Sparse κ α) : table.positions.Nodup :=
  List.pairwise_map.2 (table.ordered.imp fun hlt heq => Nat.ne_of_lt hlt (congrArg number heq))

theorem mem_positions_iff {table : Sparse κ α} {position : κ} :
    position ∈ table.positions ↔ ∃ value, table.get? position = some value := by
  simp [positions, get?_eq_some_iff]

/-- A value that moves to a position which no other value moves to is found there. -/
theorem get?_move_of_forall_eq {table : Sparse κ α} {target : κ → Option κ} {origin position : κ}
    {value : α} (hvalue : table.get? origin = some value) (htarget : target origin = some position)
    (honly : ∀ other ∈ table.positions, target other = some position → other = origin) :
    (table.move target).get? position = some value := by
  have hmem : position ∈ (table.entries.filterMap fun entry =>
      (target entry.1).map fun k => (k, entry.2)).map Prod.fst :=
    List.mem_map.2 ⟨(position, value), List.mem_filterMap.2
      ⟨(origin, value), get?_eq_some_iff.1 hvalue, by simp [htarget]⟩, rfl⟩
  obtain ⟨found, hfound⟩ := Option.isSome_iff_exists.1 (get?_ofList_isSome hmem)
  -- what is found comes from some position, and that can only be the given one
  obtain ⟨other, hother, hmoved⟩ := get?_move hfound
  obtain rfl := honly other (mem_positions_iff.2 ⟨found, hother⟩) hmoved
  rw [← hvalue, hother]
  exact hfound

/-- If the positions that values move to are undone by `source`, then the value at a position of the
moved table is the one at its source. -/
theorem get?_move_eq_bind {table : Sparse κ α} {target : κ → Option κ} (source : κ → Option κ)
    (h : ∀ origin ∈ table.positions, ∀ position,
      target origin = some position ↔ source position = some origin) (position : κ) :
    (table.move target).get? position = (source position).bind table.get? := by
  cases hmoved : (table.move target).get? position with
  | some value =>
    obtain ⟨origin, hvalue, htarget⟩ := get?_move hmoved
    have hsource := (h origin (mem_positions_iff.2 ⟨value, hvalue⟩) position).1 htarget
    simp [hsource, hvalue]
  | none =>
    -- a value at the source would have moved here
    symm
    rw [Option.bind_eq_none_iff]
    intro origin hsource
    by_contra hne
    obtain ⟨value, hvalue⟩ := Option.ne_none_iff_exists'.1 hne
    have htarget := (h origin (mem_positions_iff.2 ⟨value, hvalue⟩) position).2 hsource
    have hfound := get?_move_of_forall_eq hvalue htarget fun other hother hmoves =>
      Option.some.inj (((h other hother position).1 hmoves).symm.trans hsource)
    simp [hmoved] at hfound

/-- Values that move and then move back make the same table again. -/
theorem move_move {table : Sparse κ α} {there back : κ → Option κ}
    (h : ∀ origin ∈ table.positions, ∃ position,
      there origin = some position ∧ back position = some origin) :
    (table.move there).move back = table := by
  refine ext_get? fun origin => ?_
  -- a value that was moved has come from where it goes back to
  have hback : ∀ position value, (table.move there).get? position = some value →
      ∃ origin, back position = some origin ∧ there origin = some position ∧
        table.get? origin = some value := by
    intro position value hvalue
    obtain ⟨origin, horigin, hthere⟩ := get?_move hvalue
    obtain ⟨other, hother, hreturns⟩ := h origin (mem_positions_iff.2 ⟨value, horigin⟩)
    obtain rfl := Option.some.inj (hthere.symm.trans hother)
    exact ⟨origin, hreturns, hthere, horigin⟩
  cases hvalue : table.get? origin with
  | some value =>
    obtain ⟨position, hthere, hreturns⟩ := h origin (mem_positions_iff.2 ⟨value, hvalue⟩)
    have hmoved : (table.move there).get? position = some value := by
      refine get?_move_of_forall_eq hvalue hthere fun other hother hmoves => ?_
      obtain ⟨same, hsame, hreturns'⟩ := h other hother
      obtain rfl := Option.some.inj (hmoves.symm.trans hsame)
      exact Option.some.inj (hreturns'.symm.trans hreturns)
    refine get?_move_of_forall_eq hmoved hreturns fun other hother hmoves => ?_
    obtain ⟨found, hfound⟩ := mem_positions_iff.1 hother
    obtain ⟨from', hfrom, hthere', -⟩ := hback other found hfound
    obtain rfl := Option.some.inj (hmoves.symm.trans hfrom)
    exact Option.some.inj (hthere'.symm.trans hthere)
  | none =>
    by_contra hne
    obtain ⟨value, hfound⟩ := Option.ne_none_iff_exists'.1 hne
    obtain ⟨position, hposition, hreturns⟩ := get?_move hfound
    obtain ⟨same, hsame, -, hold⟩ := hback position value hposition
    obtain rfl := Option.some.inj (hreturns.symm.trans hsame)
    simp [hvalue] at hold

/-- The entries of a list in which no position occurs twice are those of the table built of it. -/
theorem perm_ofList {entries : List (κ × α)} (h : (entries.map Prod.fst).Nodup) :
    (ofList entries).entries.Perm entries := by
  have hordered := (ofList entries).nodup_positions
  rw [List.perm_ext_iff_of_nodup (List.Nodup.of_map _ hordered) (List.Nodup.of_map _ h)]
  rintro ⟨position, value⟩
  rw [← get?_eq_some_iff]
  refine ⟨mem_of_get?_ofList, fun hmem => ?_⟩
  obtain ⟨found, hfound⟩ := Option.isSome_iff_exists.1
    (get?_ofList_isSome (List.mem_map.2 ⟨_, hmem, rfl⟩))
  -- the position has one value only
  have heq := List.inj_on_of_nodup_map h hmem (mem_of_get?_ofList hfound) rfl
  rw [hfound, (Prod.mk.inj heq).2]

/-- If no two values move to one position, the entries of a moved table are those that move, each
once. -/
theorem perm_move {table : Sparse κ α} {target : κ → Option κ}
    (h : ∀ origin ∈ table.positions, ∀ other ∈ table.positions, ∀ position,
      target origin = some position → target other = some position → origin = other) :
    (table.move target).entries.Perm
      (table.entries.filterMap fun entry => (target entry.1).map fun k => (k, entry.2)) := by
  refine perm_ofList ?_
  rw [List.map_filterMap]
  simp only [Option.map_map, Function.comp_def]
  have hdistinct : table.entries.Pairwise fun entry other => entry.1 ≠ other.1 :=
    table.ordered.imp fun hlt heq => absurd hlt (by rw [heq]; exact Nat.lt_irrefl _)
  refine List.pairwise_filterMap.2 (hdistinct.imp_of_mem fun hentry hother hne => ?_)
  intro position hposition position' hposition' heq
  simp only [Option.map_id'] at hposition hposition'
  subst heq
  exact hne (h _ (List.mem_map.2 ⟨_, hentry, rfl⟩) _ (List.mem_map.2 ⟨_, hother, rfl⟩) _
    hposition hposition')

end Sparse

end EnsembleDesk
