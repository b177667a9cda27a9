import EnsembleDesk.Json.Basic
/-!
# Settled values

`settleMembers` brings members into the order of their keys. Members with different keys are only
rearranged (`perm_settleMembers`), and members in order are left alone (`settleMembers_of_sorted`).
So a value that is settled stays as it is when it is settled again (`Json.settled_settled`).

`Json.induct` is induction over a value with the items of arrays and the members of objects as its
parts.
-/

namespace EnsembleDesk

/-! ### Members in order -/

section Members

variable {α β : Type}

/-- The members are in increasing order of their keys. -/
def SortedKeys (members : List (String × α)) : Prop :=
  members.Pairwise fun member other => member.1 < other.1

theorem lt_of_not_lt_of_ne {key other : String} (hlt : ¬ key < other) (hne : ¬ key = other) :
    other < key := by
  rcases String.le_total key other with hle | hle
  · exact absurd (String.le_antisymm hle (String.not_lt.1 hlt)) hne
  · exact Classical.byContradiction fun h =>
      hne (String.le_antisymm (String.not_lt.1 h) hle)

/-- Inserting a member brings in no other one. -/
theorem mem_insertMember {key : String} {value : α} {member : String × α}
    {members : List (String × α)} (h : member ∈ insertMember key value members) :
    member = (key, value) ∨ member ∈ members := by
  induction members with
  | nil => exact .inl (List.mem_singleton.1 h)
  | cons head rest ih =>
    obtain ⟨k, v⟩ := head
    rw [insertMember] at h
    split at h
    · exact List.mem_cons.1 h
    · split at h
      · exact (List.mem_cons.1 h).imp_right (List.mem_cons_of_mem _)
      · rcases List.mem_cons.1 h with rfl | h
        · exact .inr List.mem_cons_self
        · exact (ih h).imp_right (List.mem_cons_of_mem _)

/-- A member is inserted in the order of the keys. -/
theorem sorted_insertMember (key : String) (value : α) {members : List (String × α)}
    (h : SortedKeys members) : SortedKeys (insertMember key value members) := by
  induction members with
  | nil => exact List.pairwise_singleton _ _
  | cons head rest ih =>
    obtain ⟨k, v⟩ := head
    obtain ⟨hhead, hrest⟩ := List.pairwise_cons.1 h
    rw [insertMember]
    split
    · rename_i hlt
      refine List.pairwise_cons.2 ⟨fun member hmem => ?_, h⟩
      rcases List.mem_cons.1 hmem with rfl | hmem
      · exact hlt
      · exact String.lt_trans hlt (hhead member hmem)
    · rename_i hlt
      split
      · rename_i heq
        exact List.pairwise_cons.2 ⟨fun member hmem => heq ▸ hhead member hmem, hrest⟩
      · rename_i hne
        refine List.pairwise_cons.2 ⟨fun member hmem => ?_, ih hrest⟩
        rcases mem_insertMember hmem with rfl | hmem
        · exact lt_of_not_lt_of_ne hlt hne
        · exact hhead member hmem

/-- Settling brings in no member. -/
theorem mem_settleMembers {member : String × α} {members : List (String × α)}
    (h : member ∈ settleMembers members) : member ∈ members := by
  have hfold : ∀ rest ⊆ members, ∀ settled ⊆ members,
      rest.foldl (fun settled member => insertMember member.1 member.2 settled) settled ⊆
        members := by
    intro rest
    induction rest with
    | nil => exact fun _ settled hsettled => hsettled
    | cons next rest ih =>
      intro hrest settled hsettled
      refine ih (List.subset_of_cons_subset hrest) _ fun other hother => ?_
      rcases mem_insertMember hother with rfl | hother
      · exact hrest List.mem_cons_self
      · exact hsettled hother
  exact hfold members (List.Subset.refl _) [] (List.nil_subset _) h

/-- Settled members are in the order of their keys. -/
theorem sorted_settleMembers (members : List (String × α)) : SortedKeys (settleMembers members) :=
  List.foldlRecOn _ _ List.Pairwise.nil fun _ h _ _ => sorted_insertMember _ _ h

/-- A member whose key comes last is put at the end. -/
theorem insertMember_of_forall_lt {key : String} (value : α) {members : List (String × α)}
    (h : ∀ member ∈ members, member.1 < key) :
    insertMember key value members = members ++ [(key, value)] := by
  induction members with
  | nil => rfl
  | cons head rest ih =>
    obtain ⟨k, v⟩ := head
    have hk : k < key := h (k, v) List.mem_cons_self
    rw [insertMember, if_neg (String.lt_asymm hk), if_neg fun heq => ?_,
      ih fun member hmem => h member (List.mem_cons_of_mem _ hmem), List.cons_append]
    rw [heq] at hk
    exact String.lt_irrefl k hk

/-- Members in order are left alone. -/
theorem settleMembers_of_sorted {members : List (String × α)} (h : SortedKeys members) :
    settleMembers members = members := by
  -- the members that are left come after those that were put in, so each is put at the end
  have hfold : ∀ (rest settled : List (String × α)), SortedKeys (settled ++ rest) →
      rest.foldl (fun settled member => insertMember member.1 member.2 settled) settled =
        settled ++ rest := by
    intro rest
    induction rest with
    | nil => exact fun settled _ => (List.append_nil settled).symm
    | cons member rest ih =>
      intro settled hsorted
      have hlast := List.pairwise_append.1 hsorted
      rw [List.foldl_cons, insertMember_of_forall_lt _ fun other hmem =>
        hlast.2.2 other hmem member List.mem_cons_self]
      have happend : settled ++ [(member.1, member.2)] ++ rest = settled ++ member :: rest := by
        rw [List.append_assoc, List.singleton_append]
      rw [ih _ (happend ▸ hsorted), happend]
  exact hfold members [] h

/-- No key is lost when a member is put in, and its own key is not either. -/
theorem keys_subset_insertMember (key : String) (value : α) (members : List (String × α)) :
    key :: members.map Prod.fst ⊆ (insertMember key value members).map Prod.fst := by
  induction members with
  | nil => exact List.Subset.refl _
  | cons head rest ih =>
    obtain ⟨k, v⟩ := head
    rw [insertMember]
    split
    · exact List.Subset.refl _
    · split
      · rename_i heq
        rw [heq]
        exact List.cons_subset.2 ⟨List.mem_cons_self, List.Subset.refl _⟩
      · obtain ⟨hkey, hrest⟩ := List.cons_subset.1 ih
        rw [List.map_cons, List.map_cons]
        exact List.cons_subset.2
          ⟨List.mem_cons_of_mem k hkey, List.cons_subset_cons k hrest⟩

/-- Settling loses no key. -/
theorem keys_subset_settleMembers (members : List (String × α)) :
    members.map Prod.fst ⊆ (settleMembers members).map Prod.fst := by
  have hfold : ∀ rest settled : List (String × α), (settled ++ rest).map Prod.fst ⊆
      (rest.foldl (fun settled member => insertMember member.1 member.2 settled) settled).map
        Prod.fst := by
    intro rest
    induction rest with
    | nil =>
      intro settled
      rw [List.append_nil]
      exact List.Subset.refl _
    | cons member rest ih =>
      intro settled
      obtain ⟨hkey, hsettled⟩ := List.cons_subset.1
        (keys_subset_insertMember member.1 member.2 settled)
      refine List.Subset.trans ?_ (ih (insertMember member.1 member.2 settled))
      rw [List.map_append, List.map_append, List.map_cons]
      exact List.append_subset.2 ⟨List.subset_append_of_subset_left _ hsettled,
        List.cons_subset.2 ⟨List.mem_append_left _ hkey, List.subset_append_right _ _⟩⟩
  exact hfold members []

/-- A member with a new key is added. -/
theorem perm_insertMember {key : String} (value : α) {members : List (String × α)}
    (h : key ∉ members.map Prod.fst) :
    (insertMember key value members).Perm ((key, value) :: members) := by
  induction members with
  | nil => exact .refl _
  | cons head rest ih =>
    obtain ⟨k, v⟩ := head
    rw [List.map_cons, List.mem_cons, not_or] at h
    rw [insertMember, if_neg h.1]
    split
    · exact .refl _
    · exact ((ih h.2).cons (k, v)).trans (.swap _ _ _)

/-- Members with different keys are only rearranged. -/
theorem perm_settleMembers {members : List (String × α)} (h : (members.map Prod.fst).Nodup) :
    (settleMembers members).Perm members := by
  have hfold : ∀ (rest settled : List (String × α)), ((settled ++ rest).map Prod.fst).Nodup →
      (rest.foldl (fun settled member => insertMember member.1 member.2 settled) settled).Perm
        (settled ++ rest) := by
    intro rest
    induction rest with
    | nil =>
      intro settled _
      rw [List.append_nil]
      exact .refl _
    | cons member rest ih =>
      intro settled hnodup
      -- the member that is put in next is new among those before it
      have hmiddle : (settled ++ member :: rest).Perm (member :: settled ++ rest) :=
        List.perm_middle
      have hkeys := (hmiddle.map Prod.fst).nodup_iff.1 hnodup
      rw [List.cons_append, List.map_cons, List.nodup_cons, List.map_append, List.mem_append,
        not_or] at hkeys
      have hinsert := perm_insertMember member.2 hkeys.1.1
      have hall := hinsert.append_right rest
      have hrest := (hall.map Prod.fst).nodup_iff.2 ((hmiddle.map Prod.fst).nodup_iff.1 hnodup)
      exact (ih _ hrest).trans (hall.trans hmiddle.symm)
  exact hfold members [] h

/-- Changing the values of members does not depend on their order. -/
theorem insertMember_map (f : α → β) (key : String) (value : α) (members : List (String × α)) :
    insertMember key (f value) (members.map fun member => (member.1, f member.2)) =
      (insertMember key value members).map fun member => (member.1, f member.2) := by
  induction members with
  | nil => rfl
  | cons head rest ih =>
    obtain ⟨k, v⟩ := head
    rw [List.map_cons, insertMember, insertMember, ih]
    split
    · rfl
    · split <;> rfl

/-- Settling does not look at the values. -/
theorem settleMembers_map (f : α → β) (members : List (String × α)) :
    settleMembers (members.map fun member => (member.1, f member.2)) =
      (settleMembers members).map fun member => (member.1, f member.2) := by
  have hfold : ∀ (rest settled : List (String × α)),
      (rest.map fun member => (member.1, f member.2)).foldl
          (fun settled member => insertMember member.1 member.2 settled)
          (settled.map fun member => (member.1, f member.2)) =
        (rest.foldl (fun settled member => insertMember member.1 member.2 settled) settled).map
          fun member => (member.1, f member.2) := by
    intro rest
    induction rest with
    | nil => exact fun _ => rfl
    | cons member rest ih =>
      intro settled
      rw [List.map_cons, List.foldl_cons, List.foldl_cons, ← ih, ← insertMember_map]
  exact hfold members []

/-- Settling is done once. -/
theorem settleMembers_settleMembers (members : List (String × α)) :
    settleMembers (settleMembers members) = settleMembers members :=
  settleMembers_of_sorted (sorted_settleMembers members)

/-! ### Finding members -/

/-- Of members with different keys, each is found under its key. -/
theorem lookup_eq_some_iff_mem {members : List (String × α)} (h : (members.map Prod.fst).Nodup)
    {key : String} {value : α} :
    members.lookup key = some value ↔ (key, value) ∈ members := by
  induction members with
  | nil => simp
  | cons head rest ih =>
    obtain ⟨k, v⟩ := head
    rw [List.map_cons, List.nodup_cons] at h
    rw [List.mem_cons, Prod.mk.injEq, ← ih h.2]
    by_cases hkey : key = k
    · subst hkey
      rw [List.lookup_cons_self, Option.some.injEq]
      refine ⟨fun heq => .inl ⟨rfl, heq.symm⟩, fun hor => ?_⟩
      rcases hor with heq | hrest
      · exact heq.2.symm
      · exact absurd (List.mem_map.2 ⟨(key, value), (ih h.2).1 hrest, rfl⟩) h.1
    · rw [List.lookup_cons, beq_eq_false_iff_ne.2 hkey]
      exact ⟨.inr, fun hor => hor.resolve_left fun heq => hkey heq.1⟩

end Members

/-! ### Values -/

namespace Json

/-- Induction over a value: the items of an array and the members of an object are its parts. -/
theorem induct {P : Json → Prop} (null : P .null) (bool : ∀ b, P (.bool b))
    (number : ∀ n, P (.number n)) (string : ∀ s, P (.string s))
    (array : ∀ items, (∀ item ∈ items, P item) → P (.array items))
    (object : ∀ members, (∀ member ∈ members, P member.2) → P (.object members)) :
    ∀ value, P value := by
  intro value
  -- the recursor asks for the lists of items and members, and for single members, as well
  refine @Json.rec P (fun items => ∀ item ∈ items, P item)
    (fun members => ∀ member ∈ members, P member.2) (fun member => P member.2)
    null bool number string array object ?_ ?_ ?_ ?_ (fun _ _ h => h) value
  · exact fun _ h => nomatch h
  · intro item items hitem hitems other hmem
    rcases List.mem_cons.1 hmem with rfl | hmem
    · exact hitem
    · exact hitems other hmem
  · exact fun _ h => nomatch h
  · intro member members hmember hmembers other hmem
    rcases List.mem_cons.1 hmem with rfl | hmem
    · exact hmember
    · exact hmembers other hmem

/-- The items of an array are settled one by one. -/
theorem settledItems_eq_map (items : List Json) : settledItems items = items.map settled := by
  induction items with
  | nil => rw [settledItems, List.map_nil]
  | cons item items ih => rw [settledItems, ih, List.map_cons]

/-- The values of an object are settled one by one. -/
theorem settledMembers_eq_map (members : List (String × Json)) :
    settledMembers members = members.map fun member => (member.1, member.2.settled) := by
  induction members with
  | nil => rw [settledMembers, List.map_nil]
  | cons member members ih => rw [settledMembers, ih, List.map_cons]

/-- An array is settled in its items. -/
theorem settled_array (items : List Json) : (array items).settled = array (items.map settled) := by
  rw [settled, settledItems_eq_map]

/-- An object is settled in its values, and then in its keys. -/
theorem settled_object (members : List (String × Json)) :
    (object members).settled =
      object (settleMembers (members.map fun member => (member.1, member.2.settled))) := by
  rw [settled, settledMembers_eq_map]

/-- A value that is settled stays as it is. -/
theorem settled_settled (value : Json) : value.settled.settled = value.settled := by
  induction value using induct with
  | null => simp only [settled]
  | bool b => simp only [settled]
  | number n => simp only [settled]
  | string s => simp only [settled]
  | array items ih =>
    rw [settled_array, settled_array, List.map_map]
    exact congrArg array (List.map_congr_left fun item hmem => ih item hmem)
  | object members ih =>
    -- the values are settled already, and settling values does not depend on the order of members
    have hvalues : (members.map fun member => (member.1, member.2.settled)).map
        (fun member => (member.1, member.2.settled)) =
          members.map fun member => (member.1, member.2.settled) := by
      rw [List.map_map]
      refine List.map_congr_left fun member hmem => ?_
      rw [Function.comp_apply, ih member hmem]
    rw [settled_object, settled_object, ← settleMembers_map, hvalues, settleMembers_settleMembers]

end Json

end EnsembleDesk
