import Mathlib.Data.List.Forall2
/-!
# Results that may be errors

What is needed of `Except` to follow a computation that may be refused: a computation goes on with
what was found (`Except.ok_bind`), one that succeeded has succeeded in each of its parts
(`Except.bind_eq_ok_iff`), one that was refused was refused in one of them
(`Except.bind_eq_error_iff`), what is found of all of a list is found of each
(`Except.mapM_eq_ok_iff`), and what every step of a fold keeps holds at its end
(`Except.foldlM_keeps`). `Yields` says that a computation succeeds, and what holds of its result.
Readers that may find nothing are read part by part (`mapM_map_eq_some`).
-/

namespace EnsembleDesk

namespace Except

variable {ε α β : Type}

@[simp]
theorem ok_bind (a : α) (f : α → Except ε β) : (Except.ok a >>= f) = f a := rfl

/-- A computation in two parts succeeds if and only if the first part does and the second one does
on its result. -/
theorem bind_eq_ok_iff {x : Except ε α} {f : α → Except ε β} {b : β} :
    (x >>= f) = .ok b ↔ ∃ a, x = .ok a ∧ f a = .ok b := by
  cases x with
  | ok a => simp
  | error e =>
    constructor
    · intro h
      cases h
    · rintro ⟨a, ha, -⟩
      cases ha

/-- A mapped computation succeeds with the images of what it succeeds with. -/
theorem map_eq_ok_iff {x : Except ε α} {f : α → β} {b : β} :
    x.map f = .ok b ↔ ∃ a, x = .ok a ∧ f a = b := by
  cases x with
  | ok a => simp [Except.map]
  | error e => simp [Except.map]

/-- A computation in two parts fails if and only if the first part does, or the second one does on
its result. -/
theorem bind_eq_error_iff {x : Except ε α} {f : α → Except ε β} {e : ε} :
    (x >>= f) = .error e ↔ x = .error e ∨ ∃ a, x = .ok a ∧ f a = .error e := by
  cases x with
  | ok a => simp
  | error e' =>
    constructor
    · intro h
      cases h
      exact .inl rfl
    · rintro (h | ⟨a, h, -⟩)
      · cases h
        rfl
      · cases h

/-- A mapped computation fails as it does without the map. -/
theorem map_eq_error_iff {x : Except ε α} {f : α → β} {e : ε} :
    x.map f = .error e ↔ x = .error e := by
  cases x <;> simp [Except.map]

/-! ### Lists -/

section

variable {f : α → Except ε β} {as : List α} {bs : List β}

/-- A computation for each entry of a list succeeds if and only if all of them do, and gives their
results in order. -/
theorem mapM_eq_ok_iff :
    as.mapM f = .ok bs ↔ List.Forall₂ (fun a b => f a = .ok b) as bs := by
  induction as generalizing bs with
  | nil =>
    rw [List.mapM_nil, List.forall₂_nil_left_iff]
    exact ⟨fun h => (Except.ok.inj h).symm, fun h => h ▸ rfl⟩
  | cons a as ih =>
    rw [List.mapM_cons, bind_eq_ok_iff, List.forall₂_cons_left_iff]
    constructor
    · rintro ⟨b, hb, h⟩
      obtain ⟨rest, hrest, h⟩ := bind_eq_ok_iff.1 h
      exact ⟨b, rest, hb, ih.1 hrest, (Except.ok.inj h).symm⟩
    · rintro ⟨b, rest, hb, hrest, rfl⟩
      refine ⟨b, hb, ?_⟩
      rw [ih.2 hrest]
      rfl

/-- Something is found of all of a list just if something is found of each. -/
theorem exists_mapM_eq_ok_iff :
    (∃ bs, as.mapM f = .ok bs) ↔ ∀ a ∈ as, ∃ b, f a = .ok b := by
  induction as with
  | nil => exact ⟨fun _ => List.forall_mem_nil _, fun _ => ⟨[], rfl⟩⟩
  | cons a as ih =>
    rw [List.forall_mem_cons, ← ih]
    simp only [List.mapM_cons, bind_eq_ok_iff]
    constructor
    · rintro ⟨_, b, hb, rest, hrest, -⟩
      exact ⟨⟨b, hb⟩, rest, hrest⟩
    · rintro ⟨⟨b, hb⟩, rest, hrest⟩
      exact ⟨b :: rest, b, hb, rest, hrest, rfl⟩

/-- Every result of the computations for the entries of a list is that of some entry. -/
theorem exists_of_mapM_eq_ok (h : as.mapM f = .ok bs) {b : β} (hb : b ∈ bs) :
    ∃ a ∈ as, f a = .ok b := by
  induction mapM_eq_ok_iff.1 h with
  | nil => cases hb
  | cons hhead htail ih =>
    rcases List.mem_cons.1 hb with rfl | hb
    · exact ⟨_, List.mem_cons_self, hhead⟩
    · obtain ⟨a, ha, hfound⟩ := ih (mapM_eq_ok_iff.2 htail) hb
      exact ⟨a, List.mem_cons_of_mem _ ha, hfound⟩

/-- What is found of each key is looked up under it. -/
theorem lookup_of_mapM_eq_ok {κ : Type} [BEq κ] [LawfulBEq κ] {find : κ → Except ε β}
    {keys : List κ} {found : List (κ × β)}
    (h : (keys.mapM fun key => (find key).map (key, ·)) = .ok found) {key : κ} {b : β} :
    found.lookup key = some b ↔ key ∈ keys ∧ find key = .ok b := by
  induction keys generalizing found with
  | nil =>
    cases h
    simp
  | cons first keys ih =>
    rw [List.mapM_cons, bind_eq_ok_iff] at h
    obtain ⟨entry, hentry, h⟩ := h
    obtain ⟨rest, hrest, h⟩ := bind_eq_ok_iff.1 h
    cases h
    obtain ⟨value, hvalue, rfl⟩ := map_eq_ok_iff.1 hentry
    rw [List.lookup_cons, List.mem_cons]
    -- a key that comes again finds the same, so the first entry decides
    by_cases hkey : key = first
    · subst hkey
      simp [hvalue]
    · have hne : (key == first) = false := beq_eq_false_iff_ne.2 hkey
      simp only [hne, hkey, false_or, ih hrest]

end

/-- A fold that is refused is refused by one of its steps. -/
theorem exists_of_foldlM_eq_error {step : β → α → Except ε β} {items : List α} {b : β} {e : ε}
    (h : items.foldlM step b = .error e) : ∃ b', ∃ a ∈ items, step b' a = .error e := by
  induction items generalizing b with
  | nil => cases h
  | cons a items ih =>
    rw [List.foldlM_cons, bind_eq_error_iff] at h
    rcases h with h | ⟨next, -, h⟩
    · exact ⟨b, a, List.mem_cons_self, h⟩
    · obtain ⟨b', a', ha', h⟩ := ih h
      exact ⟨b', a', List.mem_cons_of_mem _ ha', h⟩

/-- A fold that succeeds has succeeded in each of its steps. -/
theorem exists_of_foldlM_eq_ok {step : β → α → Except ε β} {items : List α} {b b' : β}
    (h : items.foldlM step b = .ok b') {a : α} (ha : a ∈ items) :
    ∃ before after, step before a = .ok after := by
  induction items generalizing b with
  | nil => exact absurd ha List.not_mem_nil
  | cons head items ih =>
    rw [List.foldlM_cons, bind_eq_ok_iff] at h
    obtain ⟨next, hnext, h⟩ := h
    rcases List.mem_cons.1 ha with rfl | ha
    · exact ⟨b, next, hnext⟩
    · exact ih h ha

/-- What every step of a fold keeps holds at its end. -/
theorem foldlM_keeps {P : β → Prop} {step : β → α → Except ε β} {items : List α}
    (hstep : ∀ b, ∀ a ∈ items, P b → ∀ b', step b a = .ok b' → P b') {b b' : β} (hb : P b)
    (h : items.foldlM step b = .ok b') : P b' := by
  induction items generalizing b with
  | nil =>
    cases h
    exact hb
  | cons a items ih =>
    rw [List.foldlM_cons, bind_eq_ok_iff] at h
    obtain ⟨next, hnext, h⟩ := h
    refine ih (fun b a' ha' => hstep b a' (List.mem_cons_of_mem _ ha')) ?_ h
    exact hstep b a List.mem_cons_self hb next hnext

end Except

/-- The computation succeeds, and its result has the property. -/
def Yields {ε α : Type} (x : Except ε α) (P : α → Prop) : Prop := ∃ a, x = .ok a ∧ P a

namespace Yields

variable {ε α β : Type} {P : α → Prop} {Q : β → Prop} {x : Except ε α}

theorem ok {a : α} (h : P a) : Yields (Except.ok a : Except ε α) P := ⟨a, rfl, h⟩

theorem imp {P' : α → Prop} (hx : Yields x P) (h : ∀ a, P a → P' a) : Yields x P' := by
  obtain ⟨a, rfl, ha⟩ := hx
  exact ok (h a ha)

/-- What is done with the result of a computation that succeeds. -/
theorem bind {f : α → Except ε β} (hx : Yields x P) (hf : ∀ a, P a → Yields (f a) Q) :
    Yields (x >>= f) Q := by
  obtain ⟨a, rfl, ha⟩ := hx
  exact hf a ha

theorem map {f : α → β} (hx : Yields x P) (hf : ∀ a, P a → Q (f a)) : Yields (x.map f) Q := by
  obtain ⟨a, rfl, ha⟩ := hx
  exact ok (hf a ha)

end Yields

/-- Reading each of several parts reads them all. -/
theorem mapM_map_eq_some {α β γ : Type} {read? : β → Option γ} {write : α → β} {result : α → γ}
    {parts : List α} (h : ∀ part ∈ parts, read? (write part) = some (result part)) :
    (parts.map write).mapM read? = some (parts.map result) := by
  induction parts with
  | nil => rfl
  | cons part parts ih =>
    have hpart := h part List.mem_cons_self
    have hrest := ih fun other hmem => h other (List.mem_cons_of_mem _ hmem)
    simp [List.mapM_cons, hpart, hrest]

end EnsembleDesk
