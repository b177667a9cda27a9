import EnsembleDesk.Sheet.CellValue
/-!
# Equality of cells

Cells are compared as values: the two zeros are the same number, and NaN is not even the same as
itself. So `CellValue.sameCell` is no equivalence on all cells, and an argument that goes from one
cell to the next needs a relation that is: `CellValue.Alike` holds of cells that are identical or
the same.

## Main results

* `CellValue.Alike.refl`, `CellValue.Alike.symm`, `CellValue.Alike.trans`: it is an equivalence;
* `CellValue.Alike.sameCell`: cells that are alike are the same, if one of them is finite;
* `CellValue.sameCell_iff_oppositeZeros`: the same cells that do not show the same are two zeros.
-/

namespace EnsembleDesk

namespace Binary64

/-- Numerical equality does not depend on the order. -/
theorem numericEq_comm (x y : Binary64) : x.numericEq y = y.numericEq x := by
  unfold numericEq
  cases x.place <;> cases y.place <;> simp [Bool.beq_comm]

/-- Numerical equality goes on. -/
theorem numericEq_trans {x y z : Binary64} (hxy : x.numericEq y = true)
    (hyz : y.numericEq z = true) : x.numericEq z = true := by
  unfold numericEq at hxy hyz ⊢
  cases hx : x.place <;> cases hy : y.place <;> cases hz : z.place <;>
    simp only [hx, hy, hz, beq_iff_eq] at hxy hyz ⊢ <;> simp_all

/-- The two zeros, in either order. -/
def OppositeZeros (x y : Binary64) : Prop := x = zero ∧ y = -zero ∨ x = -zero ∧ y = zero

/-- The numbers without a magnitude are the two zeros. -/
theorem signed_of_val_eq_zero (negative : Bool) {rank : Fin (infiniteRank + 1)}
    (h : rank.val = 0) : signed negative rank = if negative then -zero else zero := by
  have hzero : signed false rank = zero :=
    congrArg (signed false) (Fin.ext (h.trans (Nat.zero_min _).symm))
  cases negative with
  | false => exact hzero
  | true => exact congrArg Binary64.neg hzero

/-- Numbers that are equal are the same number, or the two zeros. -/
theorem eq_or_oppositeZeros {x y : Binary64} (h : x.numericEq y = true) :
    x = y ∨ x.OppositeZeros y := by
  cases x with
  | nan => cases h
  | signed negative rank =>
    cases y with
    | nan => cases h
    | signed negative' rank' =>
      simp only [numericEq, place, beq_iff_eq] at h
      by_cases hsign : negative = negative'
      · -- of one sign, equal places are equal ranks
        subst hsign
        refine .inl (congrArg (signed negative) (Fin.ext ?_))
        cases negative <;> simp only [reduceIte, Bool.false_eq_true] at h <;> omega
      · -- of different signs, both ranks are zero
        obtain rfl : negative = !negative' := Bool.eq_not.mpr hsign
        have hranks : rank.val = 0 ∧ rank'.val = 0 := by
          cases negative' <;>
            simp only [reduceIte, Bool.not_true, Bool.not_false, Bool.false_eq_true] at h <;>
            omega
        right
        rw [signed_of_val_eq_zero _ hranks.1, signed_of_val_eq_zero _ hranks.2]
        cases negative' <;> simp [OppositeZeros]

/-- The two zeros are numerically equal. -/
theorem OppositeZeros.numericEq {x y : Binary64} (h : x.OppositeZeros y) :
    x.numericEq y = true := by
  rcases h with ⟨rfl, rfl⟩ | ⟨rfl, rfl⟩ <;> rfl

/-- A finite number equals itself. -/
theorem numericEq_self {x : Binary64} (h : x.isFinite = true) : x.numericEq x = true := by
  cases x with
  | nan => cases h
  | signed negative rank => simp [numericEq, place]

end Binary64

namespace CellValue

/-- A value that is not a number, or a finite one. -/
def IsFinite : CellValue → Prop
  | number x => x.isFinite = true
  | _ => True

instance (value : CellValue) : Decidable value.IsFinite := by
  cases value <;> unfold IsFinite <;> infer_instance

/-- Values are the same in either order. -/
theorem same_comm (v w : CellValue) : v.same w = w.same v := by
  cases v <;> cases w <;> simp [same, Binary64.numericEq_comm, Bool.beq_comm]

/-- Being the same value goes on. -/
theorem same_trans {u v w : CellValue} (huv : u.same v = true) (hvw : v.same w = true) :
    u.same w = true := by
  cases u <;> cases v <;> cases w <;> simp_all only [same, beq_iff_eq, Bool.false_eq_true]
  exact Binary64.numericEq_trans huv hvw

/-- A finite value is the same as itself. -/
theorem same_self {v : CellValue} (h : v.IsFinite) : v.same v = true := by
  cases v with
  | number x => exact Binary64.numericEq_self h
  | text s => simp [same]
  | boolean b => simp [same]
  | date d => simp [same]

/-- Cells are the same in either order. -/
theorem sameCell_comm (v w : Option CellValue) : sameCell v w = sameCell w v := by
  cases v <;> cases w <;> simp [sameCell, same_comm]

/-- Holding the same goes on. -/
theorem sameCell_trans {u v w : Option CellValue} (huv : sameCell u v = true)
    (hvw : sameCell v w = true) : sameCell u w = true := by
  cases u <;> cases v <;> cases w <;> simp_all only [sameCell, Bool.false_eq_true]
  exact same_trans huv hvw

/-- Values that are the same are identical, unless they are numbers. -/
theorem eq_or_numbers_of_same (v : CellValue) {w : CellValue} (h : v.same w = true) :
    v = w ∨ ∃ x y, v = number x ∧ w = number y ∧ x.numericEq y = true := by
  cases v with
  | number x =>
    cases w with
    | number y => exact .inr ⟨x, y, rfl, rfl, h⟩
    | _ => cases h
  | text s =>
    cases w with
    | text t => exact .inl (congrArg text (eq_of_beq h))
    | _ => cases h
  | boolean a =>
    cases w with
    | boolean b => exact .inl (congrArg boolean (eq_of_beq h))
    | _ => cases h
  | date d =>
    cases w with
    | date e => exact .inl (congrArg date (eq_of_beq h))
    | _ => cases h

/-- Cells that hold the two zeros, in either order. -/
def OppositeZeros (v w : Option CellValue) : Prop :=
  ∃ x y, v = some (number x) ∧ w = some (number y) ∧ x.OppositeZeros y

/-- Cells that are the same hold the same value, or the two zeros. -/
theorem eq_or_oppositeZeros {v w : Option CellValue} (h : sameCell v w = true) :
    v = w ∨ OppositeZeros v w := by
  cases v with
  | none =>
    cases w with
    | none => exact .inl rfl
    | some w => cases h
  | some v =>
    cases w with
    | none => cases h
    | some w =>
      rcases v.eq_or_numbers_of_same h with rfl | ⟨x, y, rfl, rfl, hequal⟩
      · exact .inl rfl
      · rcases Binary64.eq_or_oppositeZeros hequal with rfl | hzeros
        · exact .inl rfl
        · exact .inr ⟨x, y, rfl, rfl, hzeros⟩

/-- Of cells that do not show the same, only the two zeros are the same. -/
theorem sameCell_iff_oppositeZeros {v w : Option CellValue} (h : v.map display ≠ w.map display) :
    sameCell v w = true ↔ OppositeZeros v w := by
  constructor
  · intro hsame
    rcases eq_or_oppositeZeros hsame with rfl | hzeros
    · exact absurd rfl h
    · exact hzeros
  · rintro ⟨x, y, rfl, rfl, hzeros⟩
    exact hzeros.numericEq

/-- Cells that are identical or the same. -/
def Alike (v w : Option CellValue) : Prop := v = w ∨ sameCell v w = true

namespace Alike

theorem refl (v : Option CellValue) : Alike v v := .inl rfl

theorem symm {v w : Option CellValue} (h : Alike v w) : Alike w v := by
  rcases h with rfl | h
  · exact refl _
  · exact .inr (sameCell_comm v w ▸ h)

theorem trans {u v w : Option CellValue} (huv : Alike u v) (hvw : Alike v w) : Alike u w := by
  rcases huv with rfl | huv
  · exact hvw
  · rcases hvw with rfl | hvw
    · exact .inr huv
    · exact .inr (sameCell_trans huv hvw)

/-- Cells that are alike are the same, unless they hold a number that is not finite. -/
theorem sameCell {v w : Option CellValue} (h : Alike v w) (hfinite : ∀ x ∈ v, x.IsFinite) :
    sameCell v w = true := by
  rcases h with rfl | h
  · cases v with
    | none => rfl
    | some x => exact same_self (hfinite x rfl)
  · exact h

end Alike

end CellValue

end EnsembleDesk
