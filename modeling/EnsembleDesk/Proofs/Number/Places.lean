import EnsembleDesk.Number.Scalar
/-!
# Places on the number line

Numbers are compared by their places. A finite number has one, and apart from the two zeros
different numbers have different places, so the order tells numbers from one on apart
(`Binary64.eq_of_le_of_le`).
-/

namespace EnsembleDesk

namespace Binary64

variable {x y : Binary64}

/-- Numbers compare as their places do; nothing is less than what has no place. -/
theorem lt_iff : x < y ↔ ∃ a b, x.place = some a ∧ y.place = some b ∧ a < b := Iff.rfl

/-- Numbers compare as their places do. -/
theorem le_iff : x ≤ y ↔ ∃ a b, x.place = some a ∧ y.place = some b ∧ a ≤ b := Iff.rfl

/-- A finite number has a place on the number line. -/
theorem exists_place_of_isFinite (h : x.isFinite = true) : ∃ a, x.place = some a := by
  cases x with
  | nan => cases h
  | signed negative rank => exact ⟨_, rfl⟩

/-- Finite numbers are comparable. -/
theorem not_le_iff_of_isFinite (hx : x.isFinite = true) (hy : y.isFinite = true) :
    ¬ x ≤ y ↔ y < x := by
  obtain ⟨a, ha⟩ := exists_place_of_isFinite hx
  obtain ⟨b, hb⟩ := exists_place_of_isFinite hy
  rw [le_iff, lt_iff, ha, hb]
  simp

/-- Only the two zeros share a place. -/
theorem eq_of_place {a : Int} (hx : x.place = some a) (hy : y.place = some a) (ha : a ≠ 0) :
    x = y := by
  cases x with
  | nan => cases hx
  | signed negative r =>
    cases y with
    | nan => cases hy
    | signed negative' s =>
      have hr := Option.some.inj hx
      have hs := Option.some.inj hy
      cases negative <;> cases negative' <;>
        simp only [Bool.false_eq_true, if_true, if_false] at hr hs <;>
        simp only [signed.injEq, Fin.ext_iff, reduceCtorEq, true_and, false_and] <;> omega

theorem one_le_one : (1 : Binary64) ≤ 1 := by decide +kernel

/-- A number that compares as equal with one from one on is that number. -/
theorem eq_of_le_of_le (hle : x ≤ y) (hge : y ≤ x) (hone : 1 ≤ y) : x = y := by
  have hplace : (1 : Binary64).place = some 4607182418800017408 := by decide +kernel
  obtain ⟨a, b, ha, hb, hab⟩ := hle
  obtain ⟨c, d, hc, hd, hcd⟩ := hge
  obtain ⟨e, f, he, hf, hef⟩ := hone
  -- each number has one place
  rw [hb] at hc hf
  rw [ha] at hd
  rw [hplace] at he
  cases hc
  cases hf
  cases hd
  cases he
  exact eq_of_place ha (hb.trans (congrArg some (Int.le_antisymm hcd hab))) (by omega)

/-- Only the number one is neither less nor more than one. -/
theorem le_one_and_one_le_iff : x ≤ 1 ∧ 1 ≤ x ↔ x = 1 := by
  constructor
  · rintro ⟨hle, hge⟩
    exact eq_of_le_of_le hle hge one_le_one
  · rintro rfl
    exact ⟨one_le_one, one_le_one⟩

/-- What is at least one is from one on, whatever it was made of. -/
theorem one_le_larger_one (x : Binary64) : 1 ≤ Scalar.larger x 1.0 := by
  have hone : (1.0 : Binary64) = 1 := by decide +kernel
  rw [Scalar.larger, hone]
  split
  · assumption
  · exact one_le_one

end Binary64

end EnsembleDesk
