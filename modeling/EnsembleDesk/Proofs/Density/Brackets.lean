import Mathlib.Order.Interval.Set.Defs
import Mathlib.Tactic.Linarith
import Mathlib.Tactic.Positivity
import Mathlib.Tactic.Ring
import EnsembleDesk.Density.Bisection
import EnsembleDesk.Proofs.Number.OrderedField
/-!
# Brackets of a bisection

A bisection looks for the place where a function comes up to a level. Its bracket has a number at
which the function is still below the level for its lower end, and one at which the function has
come up to it for its upper end (`Bisection.Brackets`). Each halving keeps that, whichever half is
taken (`Bisection.Brackets.halve`), and makes the bracket half as wide (`Bisection.width_halve`). So
does the loop, which is as many halvings as it takes (`Bisection.exists_iterate_of_narrow`).

Nothing of this needs a function without jumps or without flat parts. That the function is monotone
is only needed to tell the numbers outside of the bracket: those below it are below the level, and
those above it have come up to the level.

## Main results

* `Bisection.bisection_keeps_bracket`: the loop stops after at most two hundred halvings with a
  bracket that is narrow or has been halved that often, and the inverse is the middle of it.
-/

namespace EnsembleDesk

namespace Bisection

variable {K : Type} [Field K] [LinearOrder K] [FloorSemiring K]

/-- The ends of a bracket in `[lo, hi]`: at the lower one `f` is below the level `p`, at the upper
one it has come up to it. -/
structure Brackets (f : K → K) (lo hi p : K) (bracket : K × K) : Prop where
  /-- The bracket begins in the interval. -/
  lo_le : lo ≤ bracket.1
  /-- The bracket has inner numbers. -/
  lt : bracket.1 < bracket.2
  /-- The bracket ends in the interval. -/
  le_hi : bracket.2 ≤ hi
  /-- At its lower end the function is below the level. -/
  below : f bracket.1 < p
  /-- At its upper end the function has come up to the level. -/
  reached : p ≤ f bracket.2

/-- A place in `[lo, hi]` where `f` crosses the level `p`: before it the function is below the
level, behind it the function has come up to it. -/
structure CrossesAt (f : K → K) (lo hi p x : K) : Prop where
  /-- The place is in the interval. -/
  mem : x ∈ Set.Icc lo hi
  /-- Before the place the function is below the level. -/
  below : ∀ y ∈ Set.Ico lo x, f y < p
  /-- Behind the place the function has come up to the level. -/
  reached : ∀ y ∈ Set.Ioc x hi, p ≤ f y

variable {f : K → K} {lo hi p : K} {bracket : K × K}

/-- The loop makes some number of halvings, and stops because the bracket is narrow or because there
are no steps left. -/
theorem exists_iterate_of_narrow (f : K → K) (p : K) (steps : ℕ) (bracket : K × K) :
    ∃ n ≤ steps, narrow f p steps bracket = (halve f p)^[n] bracket ∧
      (isNarrow (narrow f p steps bracket) = true ∨ n = steps) := by
  induction steps generalizing bracket with
  | zero => exact ⟨0, le_rfl, rfl, .inr rfl⟩
  | succ steps ih =>
    rw [narrow]
    split
    · rename_i hnarrow
      exact ⟨1, Nat.le_add_left 1 steps, rfl, .inl hnarrow⟩
    · obtain ⟨n, hn, hiterate, hstops⟩ := ih (halve f p bracket)
      refine ⟨n + 1, Nat.succ_le_succ hn, hiterate, hstops.imp_right ?_⟩
      rintro rfl
      rfl

/-- The middle of a bracket is the mean of its ends. -/
theorem middle_field (bracket : K × K) : middle bracket = (bracket.1 + bracket.2) / 2 := by
  unfold middle
  ring

/-- Either half of a bracket is half as wide. -/
theorem width_halve (f : K → K) (p : K) (bracket : K × K) :
    (halve f p bracket).2 - (halve f p bracket).1 = (bracket.2 - bracket.1) / 2 := by
  simp only [halve, middle_field]
  split
  · ring
  · ring

/-- Each halving leaves half of the width. -/
theorem width_iterate_halve (f : K → K) (p : K) (n : ℕ) (bracket : K × K) :
    ((halve f p)^[n] bracket).2 - ((halve f p)^[n] bracket).1 =
      (bracket.2 - bracket.1) / 2 ^ n := by
  induction n with
  | zero => simp
  | succ n ih => rw [Function.iterate_succ_apply', width_halve, ih, div_div, ← pow_succ]

namespace Brackets

/-- Up to the bracket a monotone function is below the level. -/
theorem below_of_le (h : Brackets f lo hi p bracket) (hmono : MonotoneOn f (Set.Icc lo hi)) {x : K}
    (hx : x ∈ Set.Icc lo bracket.1) : f x < p := by
  have hend : bracket.1 ∈ Set.Icc lo hi := ⟨h.lo_le, h.lt.le.trans h.le_hi⟩
  exact (hmono ⟨hx.1, hx.2.trans hend.2⟩ hend hx.2).trans_lt h.below

/-- From the end of the bracket on a monotone function has come up to the level. -/
theorem reached_of_le (h : Brackets f lo hi p bracket) (hmono : MonotoneOn f (Set.Icc lo hi))
    {x : K} (hx : x ∈ Set.Icc bracket.2 hi) : p ≤ f x := by
  have hend : bracket.2 ∈ Set.Icc lo hi := ⟨h.lo_le.trans h.lt.le, h.le_hi⟩
  exact h.reached.trans (hmono hend ⟨hend.1.trans hx.1, hx.2⟩ hx.1)

/-- A place where the level is crossed is in every bracket. -/
theorem mem_of_crossesAt (h : Brackets f lo hi p bracket) {x : K} (hx : CrossesAt f lo hi p x) :
    x ∈ Set.Icc bracket.1 bracket.2 := by
  constructor
  · by_contra hlt
    have hreached := hx.reached bracket.1 ⟨not_le.1 hlt, h.lt.le.trans h.le_hi⟩
    exact hreached.not_gt h.below
  · by_contra hlt
    have hbelow := hx.below bracket.2 ⟨h.lo_le.trans h.lt.le, not_le.1 hlt⟩
    exact h.reached.not_gt hbelow

end Brackets

variable [IsStrictOrderedRing K]

/-- A bracket is narrow when its width is within a tolerance that is relative to its ends. -/
theorem isNarrow_field (bracket : K × K) :
    isNarrow bracket = true ↔
      bracket.2 - bracket.1 ≤ 1e-14 * (1 + max |bracket.1| |bracket.2|) := by
  simp [isNarrow]

namespace Brackets

/-- The half that is taken is the one in which the function comes up to the level. -/
theorem halve (h : Brackets f lo hi p bracket) :
    Brackets f lo hi p (Bisection.halve f p bracket) := by
  obtain ⟨hlo, hlt, hhi, hbelow, hreached⟩ := h
  have hleft : bracket.1 < middle bracket := by
    rw [middle_field]
    linarith
  have hright : middle bracket < bracket.2 := by
    rw [middle_field]
    linarith
  simp only [Bisection.halve]
  split
  · rename_i hmiddle
    exact ⟨hlo.trans hleft.le, hright, hhi, hmiddle, hreached⟩
  · rename_i hmiddle
    exact ⟨hlo, hleft, hright.le.trans hhi, hbelow, not_lt.1 hmiddle⟩

/-- By induction over the halvings: a bracket stays one. -/
theorem iterate_halve (h : Brackets f lo hi p bracket) (n : ℕ) :
    Brackets f lo hi p ((Bisection.halve f p)^[n] bracket) := by
  induction n with
  | zero => exact h
  | succ n ih =>
    rw [Function.iterate_succ_apply']
    exact ih.halve

end Brackets

/-- A number in a bracket is at most half its width away from the middle. -/
theorem abs_middle_sub_le {x : K} (hx : x ∈ Set.Icc bracket.1 bracket.2) :
    |middle bracket - x| ≤ (bracket.2 - bracket.1) / 2 := by
  rw [middle_field, abs_le]
  constructor
  · linarith [hx.2]
  · linarith [hx.1]

/-- The inverse of a monotone function at a level between its values at the ends of an interval is
the middle of a bracket, and the bracket is narrow unless it has been halved two hundred times. All
numbers before the bracket are below the level and those behind it are not, so that the inverse is
at most half the width of the bracket away from every place where the level is crossed. -/
theorem bisection_keeps_bracket (hlt : lo < hi) (hmono : MonotoneOn f (Set.Icc lo hi))
    (hp : p ∈ Set.Ioo 0 1) (hbelow : f lo < p) (hreached : p ≤ f hi) :
    ∃ n ≤ 200, ∃ l h,
      narrow f p 200 (lo, hi) = (l, h) ∧ (halve f p)^[n] (lo, hi) = (l, h) ∧
      Brackets f lo hi p (l, h) ∧
      (h - l ≤ 1e-14 * (1 + max |l| |h|) ∨ h - l = (hi - lo) / 2 ^ 200) ∧
      (∀ x ∈ Set.Icc lo l, f x < p) ∧ (∀ x ∈ Set.Icc h hi, p ≤ f x) ∧
      bisectInverse f lo hi p = (l + h) / 2 ∧
      ∀ x, CrossesAt f lo hi p x → |bisectInverse f lo hi p - x| ≤ (h - l) / 2 := by
  obtain ⟨n, hn, hiterate, hstops⟩ := exists_iterate_of_narrow f p 200 (lo, hi)
  have hinverse : bisectInverse f lo hi p = middle (narrow f p 200 (lo, hi)) := by
    rw [bisectInverse, if_neg (by simpa using hp.1), if_neg (by simpa using hp.2)]
  -- the first bracket is the interval; halving keeps what makes it a bracket
  have hstart : Brackets f lo hi p (lo, hi) := ⟨le_rfl, hlt, le_rfl, hbelow, hreached⟩
  have hbracket := hstart.iterate_halve n
  have hwidth := width_iterate_halve f p n (lo, hi)
  obtain ⟨⟨l, h⟩, hresult⟩ : ∃ bracket, narrow f p 200 (lo, hi) = bracket := ⟨_, rfl⟩
  rw [← hiterate, hresult] at hbracket hwidth
  rw [hresult] at hiterate hstops hinverse
  refine ⟨n, hn, l, h, hresult, hiterate.symm, hbracket, ?_, fun x => hbracket.below_of_le hmono,
    fun x => hbracket.reached_of_le hmono, hinverse.trans (middle_field _), fun x hx => ?_⟩
  · refine hstops.imp (isNarrow_field _).1 ?_
    rintro rfl
    exact hwidth
  · rw [hinverse]
    exact abs_middle_sub_le (hbracket.mem_of_crossesAt hx)

/-- A function that jumps over the level between two flat parts. No halving meets the place of the
jump, and the inverse is as close to it as the bracket is wide. -/
theorem bisection_keeps_bracket_jump :
    let f : ℝ → ℝ := fun x => if x < 1 / 3 then 0 else 1
    MonotoneOn f (Set.Icc 0 1) ∧ (1 / 2 : ℝ) ∈ Set.Ioo 0 1 ∧ f 0 < 1 / 2 ∧ 1 / 2 ≤ f 1 ∧
      CrossesAt f 0 1 (1 / 2) (1 / 3) ∧
      ∃ l h, Brackets f 0 1 (1 / 2) (l, h) ∧
        (h - l ≤ 1e-14 * (1 + max |l| |h|) ∨ h - l = (1 - 0) / 2 ^ 200) ∧
        |bisectInverse f 0 1 (1 / 2) - 1 / 3| ≤ (h - l) / 2 := by
  intro f
  have hmono : MonotoneOn f (Set.Icc 0 1) := by
    intro x _ y _ hxy
    simp only [f]
    split_ifs <;> linarith
  have hcross : CrossesAt f 0 1 (1 / 2) (1 / 3) := by
    refine ⟨by norm_num, fun y hy => ?_, fun y hy => ?_⟩
    · norm_num [f, hy.2]
    · norm_num [f, hy.1.le.not_gt]
  have hlevel : (1 / 2 : ℝ) ∈ Set.Ioo 0 1 := by norm_num
  have hbelow : f 0 < 1 / 2 := by norm_num [f]
  have hreached : 1 / 2 ≤ f 1 := by norm_num [f]
  obtain ⟨-, -, l, h, -, -, hbracket, hwidth, -, -, -, hclose⟩ :=
    bisection_keeps_bracket one_pos hmono hlevel hbelow hreached
  exact ⟨hmono, hlevel, hbelow, hreached, hcross, l, h, hbracket, hwidth, hclose _ hcross⟩

end Bisection

end EnsembleDesk
