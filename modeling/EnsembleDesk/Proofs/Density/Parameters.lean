import EnsembleDesk.Density.Preview
import EnsembleDesk.Proofs.Number.MachineFloat
/-!
# The parameters of distributions

Each family of distributions checks its parameters. `Distribution.Decides` says which parameters a
check lets pass, and that it never complains about one that is infinite or NaN; checks that are made
one after the other decide the conjunction (`Distribution.Decides.bind`). A family that keeps the
points of a grid needs memory for them besides, and `Distribution.DecidesWithin` says when there is
none. For the parameters that stand behind a keyword the conditions are collected in
`Distribution.Fits`, and those on memory in `Distribution.FitsMemory`.

## Main results

* `Distribution.decides_ofPrior?`: which numbers behind a keyword make a distribution, and which
  stop the program;
* `Preview.map_distribution_build`: the preview of a keyword shows the distribution that the
  constructor of its family makes of the numbers, in their order.
-/

namespace EnsembleDesk

namespace Distribution

open Scalar

variable {β γ : Type}

/-! ### Checks -/

/-- A check lets its parameters pass if and only if the condition holds, and it never complains
about a parameter that is not finite. -/
structure Decides (result : Except (ParameterError Float) β) (condition : Prop) : Prop where
  /-- Which parameters pass. -/
  ok_iff : (∃ value, result = .ok value) ↔ condition
  /-- No parameter is infinite or NaN. -/
  ne_notFinite : ∀ name, result ≠ .error (.notFinite name)

namespace Decides

variable {condition other : Prop}

/-- The condition may be said differently. -/
theorem congr {result : Except (ParameterError Float) β} (h : Decides result condition)
    (hiff : condition ↔ other) : Decides result other :=
  ⟨h.ok_iff.trans hiff, h.ne_notFinite⟩

/-- What is not checked passes. -/
theorem ok (value : β) : Decides (.ok value) True :=
  ⟨iff_of_true ⟨value, rfl⟩ trivial, nofun⟩

/-- A condition that is tested, with an error that is not about finiteness where it fails. -/
theorem ite [Decidable condition] (value : β) {error : ParameterError Float}
    (herror : ∀ name, error ≠ .notFinite name) :
    Decides (if condition then .ok value else .error error) condition := by
  split
  · rename_i h
    exact (ok value).congr (iff_of_true trivial h)
  · rename_i h
    exact ⟨iff_of_false nofun h, fun name heq => herror name (Except.error.inj heq)⟩

/-- Checks that are made one after the other. -/
theorem bind {result : Except (ParameterError Float) β} {next : β → Except (ParameterError Float) γ}
    (h : Decides result condition) (hnext : ∀ value, Decides (next value) other) :
    Decides (result >>= next) (condition ∧ other) := by
  cases result with
  | error error =>
    refine ⟨?_, fun name heq => h.ne_notFinite name (congrArg _ (Except.error.inj heq))⟩
    exact iff_of_false nofun fun hboth => nomatch h.ok_iff.2 hboth.1
  | ok value =>
    exact (hnext value).congr (and_iff_right (h.ok_iff.1 ⟨value, rfl⟩)).symm

end Decides

/-- A computation has a result if and only if the condition holds and there is room; where the
condition holds and there is no room, the program stops. It never complains about a parameter that
is not finite. -/
structure DecidesWithin (result : Except (Failure (ParameterError Float)) β)
    (condition room : Prop) : Prop where
  /-- When there is a result. -/
  ok_iff : (∃ value, result = .ok value) ↔ condition ∧ room
  /-- When the program stops. -/
  outOfMemory_iff : result = .error .outOfMemory ↔ condition ∧ ¬ room
  /-- No parameter is infinite or NaN. -/
  ne_notFinite : ∀ name, result ≠ .error (.error (.notFinite name))

namespace DecidesWithin

variable {condition other room space : Prop}

/-- The condition and the room may be said differently, the room where the condition holds. -/
theorem congr {result : Except (Failure (ParameterError Float)) β}
    (h : DecidesWithin result condition room) (hiff : condition ↔ other)
    (hroom : condition → (room ↔ space)) : DecidesWithin result other space where
  ok_iff := by rw [h.ok_iff, ← hiff, and_congr_right hroom]
  outOfMemory_iff := by
    rw [h.outOfMemory_iff, ← hiff, and_congr_right fun hcondition => not_congr (hroom hcondition)]
  ne_notFinite := h.ne_notFinite

/-- There is always room for what asks for none. -/
theorem lift {result : Except (ParameterError Float) β} (h : Decides result condition) :
    DecidesWithin (Failure.lift result) condition True where
  ok_iff := by simpa only [Failure.lift_eq_ok_iff, and_true] using h.ok_iff
  outOfMemory_iff := by cases result <;> simp
  ne_notFinite name heq := by
    cases result with
    | ok value => cases heq
    | error error => exact h.ne_notFinite name (by cases heq; rfl)

/-- There is room for a list that takes less than half of the addresses. -/
theorem allocate (n : Nat) (value : β) :
    DecidesWithin (Distribution.allocate Float n >>= fun _ => .ok value) True (n < 2 ^ 60) := by
  have hroom : hasRoom Float n = true ↔ n < 2 ^ 60 := by
    show decide (8 * n < 2 ^ 64 / 2) = true ↔ _
    rw [decide_eq_true_iff]
    omega
  rw [Distribution.allocate]
  split
  · rename_i h
    have hlt : n < 2 ^ 60 := hroom.1 h
    exact ⟨iff_of_true ⟨value, rfl⟩ ⟨trivial, hlt⟩,
      iff_of_false nofun fun hnot => hnot.2 hlt, nofun⟩
  · rename_i h
    have hnot : ¬ n < 2 ^ 60 := mt hroom.2 h
    exact ⟨iff_of_false nofun fun hlt => hnot hlt.2, iff_of_true rfl ⟨trivial, hnot⟩, nofun⟩

/-- A check before a computation. -/
theorem check {result : Except (ParameterError Float) β}
    {next : β → Except (Failure (ParameterError Float)) γ} (h : Decides result condition)
    (hnext : ∀ value, result = .ok value → DecidesWithin (next value) other room) :
    DecidesWithin (Failure.lift result >>= next) (condition ∧ other) room := by
  cases result with
  | error error =>
    have hfails : ¬ condition := fun hcondition => nomatch h.ok_iff.2 hcondition
    refine ⟨iff_of_false nofun fun hall => hfails hall.1.1,
      iff_of_false nofun fun hall => hfails hall.1.1, fun name heq => ?_⟩
    exact h.ne_notFinite name (by cases heq; rfl)
  | ok value =>
    have hcondition : condition := h.ok_iff.1 ⟨value, rfl⟩
    exact (hnext value rfl).congr (and_iff_right hcondition).symm fun _ => Iff.rfl

end DecidesWithin

theorem zero_eq_toFloat : (0.0 : Float) = (0 : Binary64).toFloat := rfl

theorem one_eq_toFloat : (1.0 : Float) = (1 : Binary64).toFloat := rfl

theorem two_eq_toFloat : (2.0 : Float) = (2 : Binary64).toFloat := rfl

section Checks

variable {x mean std min mode max bins skewness width : Binary64}

/-- A finite parameter passes. -/
theorem decides_checkFinite (h : x.isFinite = true) (name : String) :
    Decides (checkFinite name x.toFloat) True := by
  have hfinite : Scalar.isFinite x.toFloat = true := (Binary64.isFinite_toFloat x).trans h
  rw [checkFinite, if_pos hfinite]
  exact .ok ()

/-- A standard deviation passes if it is positive. -/
theorem decides_checkStd (h : std.isFinite = true) :
    Decides (checkStd std.toFloat) (0 < std) := by
  have htest : Decides (if (0.0 : Float) < std.toFloat then .ok () else
      .error (.nonPositiveStd std.toFloat)) ((0.0 : Float) < std.toFloat) :=
    .ite () nofun
  refine ((decides_checkFinite h "std").bind fun _ => htest).congr ?_
  rw [true_and, zero_eq_toFloat, Binary64.toFloat_lt_toFloat]

/-- Bounds pass if they are in order. -/
theorem decides_checkRange (hmin : min.isFinite = true) (hmax : max.isFinite = true) :
    Decides (checkRange min.toFloat max.toFloat) (min < max) := by
  have htest : Decides (if min.toFloat < max.toFloat then .ok () else
      .error (.emptyRange min.toFloat max.toFloat)) (min.toFloat < max.toFloat) :=
    .ite () nofun
  refine ((decides_checkFinite hmin "min").bind fun _ =>
    (decides_checkFinite hmax "max").bind fun _ => htest).congr ?_
  rw [true_and, true_and, Binary64.toFloat_lt_toFloat]

/-- A mode passes if it lies between bounds that are in order. -/
theorem decides_checkMode (hmin : min.isFinite = true) (hmode : mode.isFinite = true)
    (hmax : max.isFinite = true) :
    Decides (checkMode min.toFloat mode.toFloat max.toFloat)
      (min < max ∧ min ≤ mode ∧ mode ≤ max) := by
  have htest : Decides (if within min.toFloat max.toFloat mode.toFloat = true then .ok () else
      .error (.modeOutside min.toFloat mode.toFloat max.toFloat))
      (within min.toFloat max.toFloat mode.toFloat = true) :=
    .ite () nofun
  refine ((decides_checkRange hmin hmax).bind fun _ =>
    (decides_checkFinite hmode "mode").bind fun _ => htest).congr ?_
  rw [true_and, within, Bool.and_eq_true, decide_eq_true_iff, decide_eq_true_iff,
    Binary64.toFloat_le_toFloat, Binary64.toFloat_le_toFloat]

/-- A number of bins passes if it is an integer of at least two. -/
theorem decides_binCount (h : bins.isFinite = true) :
    Decides (binCount bins.toFloat) (2 ≤ bins ∧ bins.IsInteger) := by
  have htest : Decides (binCount bins.toFloat) _ := .ite _ nofun
  refine htest.congr ?_
  have hfinite : Scalar.isFinite bins.toFloat = true := (Binary64.isFinite_toFloat bins).trans h
  rw [hfinite, Bool.true_and, Bool.and_eq_true, decide_eq_true_iff, two_eq_toFloat,
    Binary64.toFloat_le_toFloat]
  exact and_congr_right fun htwo => Binary64.isWhole_toFloat htwo h

/-- The count stops at the last address, which is behind what there is room for. -/
theorem binCount_lt_iff {n : Nat} (h : binCount bins.toFloat = .ok n) :
    n < 2 ^ 60 ↔ bins.truncated < 2 ^ 60 := by
  have hcount : count bins.toFloat = Nat.min bins.truncated (2 ^ 64 - 1) := by
    show Nat.min (Binary64.ofFloat bins.toFloat).truncated (2 ^ 64 - 1) = _
    rw [Binary64.ofFloat_toFloat]
  rw [binCount] at h
  split at h
  · obtain rfl := Except.ok.inj h
    rw [hcount]
    exact min_lt_iff.trans (or_iff_left (by decide))
  · cases h

/-- A number of bins is read, and what is done with it asks for the memory of so many bins. -/
theorem decidesWithin_binCount (hbins : bins.isFinite = true) {condition : Prop}
    {next : Nat → Except (Failure (ParameterError Float)) β}
    (hnext : ∀ n, DecidesWithin (next n) condition (n < 2 ^ 60)) :
    DecidesWithin (Failure.lift (binCount bins.toFloat) >>= next)
      (condition ∧ 2 ≤ bins ∧ bins.IsInteger) (bins.truncated < 2 ^ 60) := by
  have hroom (n : Nat) (hn : binCount bins.toFloat = .ok n) :=
    (hnext n).congr Iff.rfl fun _ => binCount_lt_iff hn
  exact (DecidesWithin.check (decides_binCount hbins) hroom).congr and_comm fun _ => Iff.rfl

/-- A transformation passes if its width is positive. -/
theorem decides_skewTransform (hskewness : skewness.isFinite = true)
    (hwidth : width.isFinite = true) :
    Decides (skewTransform skewness.toFloat width.toFloat) (0 < width) := by
  have htest : Decides (if width.toFloat ≤ (0.0 : Float) then
      .error (.nonPositiveWidth width.toFloat)
      else .ok (⟨skewness.toFloat, width.toFloat⟩ : SkewTransform Float))
      (¬ width.toFloat ≤ (0.0 : Float)) := by
    rw [← ite_not]
    exact .ite _ nofun
  refine ((decides_checkFinite hskewness "skewness").bind fun _ =>
    (decides_checkFinite hwidth "width").bind fun _ => htest).congr ?_
  rw [true_and, true_and, zero_eq_toFloat, Binary64.toFloat_le_toFloat,
    Binary64.not_le_iff_of_isFinite hwidth rfl]

/-! ### Constructors -/

/-- A normal distribution needs a positive standard deviation. -/
theorem decides_normal? (hmean : mean.isFinite = true) (hstd : std.isFinite = true) :
    Decides (normal? mean.toFloat std.toFloat) (0 < std) :=
  ((decides_checkFinite hmean "mean").bind fun _ =>
    (decides_checkStd hstd).bind fun _ => .ok (normal mean.toFloat std.toFloat)).congr (by simp)

/-- A log-normal distribution needs a positive standard deviation. -/
theorem decides_logNormal? (hmean : mean.isFinite = true) (hstd : std.isFinite = true) :
    Decides (logNormal? mean.toFloat std.toFloat) (0 < std) :=
  ((decides_checkFinite hmean "mean").bind fun _ =>
    (decides_checkStd hstd).bind fun _ => .ok (logNormal mean.toFloat std.toFloat)).congr (by simp)

/-- The probability of an interval under a normal distribution, as it is computed. -/
def intervalMass (mean std min max : Float) : Float :=
  StandardNormal.cdf ((max - mean) / std) - StandardNormal.cdf ((min - mean) / std)

/-- A truncated normal needs a range in which it has a mass. -/
theorem decides_truncatedNormal? (hmean : mean.isFinite = true) (hstd : std.isFinite = true)
    (hmin : min.isFinite = true) (hmax : max.isFinite = true) :
    Decides (truncatedNormal? mean.toFloat std.toFloat min.toFloat max.toFloat)
      (0 < std ∧ min < max ∧
        ¬ intervalMass mean.toFloat std.toFloat min.toFloat max.toFloat ≤ 0.0) := by
  have htest : Decides
      (if intervalMass mean.toFloat std.toFloat min.toFloat max.toFloat ≤ 0.0 then
        .error (.emptyRange min.toFloat max.toFloat)
      else .ok (truncatedNormal mean.toFloat std.toFloat min.toFloat max.toFloat
        (intervalMass mean.toFloat std.toFloat min.toFloat max.toFloat)))
      (¬ intervalMass mean.toFloat std.toFloat min.toFloat max.toFloat ≤ 0.0) := by
    rw [← ite_not]
    exact .ite _ nofun
  exact ((decides_checkFinite hmean "mean").bind fun _ => (decides_checkStd hstd).bind fun _ =>
    (decides_checkRange hmin hmax).bind fun _ => htest).congr (by simp)

/-- A uniform distribution needs bounds that are in order. -/
theorem decides_uniform? (hmin : min.isFinite = true) (hmax : max.isFinite = true) :
    Decides (uniform? min.toFloat max.toFloat) (min < max) :=
  ((decides_checkRange hmin hmax).bind fun _ => .ok (uniform min.toFloat max.toFloat)).congr
    (by simp)

/-- A log-uniform distribution needs bounds that are positive besides. -/
theorem decides_logUniform? (hmin : min.isFinite = true) (hmax : max.isFinite = true) :
    Decides (logUniform? min.toFloat max.toFloat) (0 < min ∧ min < max) := by
  have htest : Decides (if min.toFloat ≤ (0.0 : Float) then
      .error (.nonPositiveBound min.toFloat) else .ok (logUniform min.toFloat max.toFloat))
      (¬ min.toFloat ≤ (0.0 : Float)) := by
    rw [← ite_not]
    exact .ite _ nofun
  refine ((decides_checkRange hmin hmax).bind fun _ => htest).congr ?_
  rw [zero_eq_toFloat, Binary64.toFloat_le_toFloat, Binary64.not_le_iff_of_isFinite hmin rfl,
    and_comm]

/-- Every number is a constant. -/
theorem decides_point? (h : x.isFinite = true) : Decides (point? x.toFloat) True :=
  ((decides_checkFinite h "value").bind fun _ => .ok (point x.toFloat)).congr (by simp)

/-- A uniform grid needs bounds in order and two points or more, and memory for them. -/
theorem decides_discreteUniform? (hbins : bins.isFinite = true) (hmin : min.isFinite = true)
    (hmax : max.isFinite = true) :
    DecidesWithin (discreteUniform? bins.toFloat min.toFloat max.toFloat)
      (min < max ∧ 2 ≤ bins ∧ bins.IsInteger) (bins.truncated < 2 ^ 60) := by
  refine decidesWithin_binCount hbins fun n => ?_
  exact (DecidesWithin.check (decides_checkRange hmin hmax) fun _ _ =>
    .allocate n (discreteUniform n min.toFloat max.toFloat
      (Masses.uniform n min.toFloat max.toFloat))).congr (by rw [and_true]) fun _ => Iff.rfl

/-- A single bin is not checked as a number of bins. -/
theorem decides_gridUniform? (hbins : bins.isFinite = true) (hmin : min.isFinite = true)
    (hmax : max.isFinite = true) :
    DecidesWithin (if same bins.toFloat (1.0 : Float) = true
        then Failure.lift (uniform? min.toFloat max.toFloat)
        else discreteUniform? bins.toFloat min.toFloat max.toFloat)
      (min < max ∧ (bins = 1 ∨ 2 ≤ bins ∧ bins.IsInteger)) (bins.truncated < 2 ^ 60) := by
  have hsame : same bins.toFloat (1.0 : Float) = true ↔ bins = 1 := by
    rw [one_eq_toFloat, Binary64.same_toFloat, Binary64.le_one_and_one_le_iff]
  split
  · rename_i hone
    obtain rfl := hsame.1 hone
    have hroom : (1 : Binary64).truncated < 2 ^ 60 := by decide +kernel
    exact (DecidesWithin.lift (decides_uniform? hmin hmax)).congr (by simp) fun _ =>
      iff_of_true trivial hroom
  · rename_i hmany
    refine (decides_discreteUniform? hbins hmin hmax).congr ?_ fun _ => Iff.rfl
    rw [hsame] at hmany
    simp [hmany]

/-- A skewed distribution needs bounds in order and a positive width. -/
theorem decides_skewed? (hmin : min.isFinite = true) (hmax : max.isFinite = true)
    (hskewness : skewness.isFinite = true) (hwidth : width.isFinite = true) :
    Decides (skewed? min.toFloat max.toFloat skewness.toFloat width.toFloat)
      (min < max ∧ 0 < width) :=
  ((decides_checkRange hmin hmax).bind fun _ => (decides_skewTransform hskewness hwidth).bind
    fun transform => .ok (skewed min.toFloat max.toFloat transform)).congr (by rw [and_true])

/-- A skewed grid needs bounds in order, a positive width and two points or more, and memory for
them. -/
theorem decides_discreteSkewed? (hbins : bins.isFinite = true) (hmin : min.isFinite = true)
    (hmax : max.isFinite = true) (hskewness : skewness.isFinite = true)
    (hwidth : width.isFinite = true) :
    DecidesWithin
      (discreteSkewed? bins.toFloat min.toFloat max.toFloat skewness.toFloat width.toFloat)
      (min < max ∧ 0 < width ∧ 2 ≤ bins ∧ bins.IsInteger) (bins.truncated < 2 ^ 60) := by
  refine (decidesWithin_binCount hbins fun n => ?_).congr and_assoc fun _ => Iff.rfl
  exact (DecidesWithin.check (decides_checkRange hmin hmax) fun _ _ =>
    .check (decides_skewTransform hskewness hwidth) fun transform _ =>
      .allocate n (discreteSkewed (transform.masses StandardNormal.cdf StandardNormal.quantile n
        min.toFloat max.toFloat))).congr (by rw [and_true]) fun _ => Iff.rfl

/-- A triangle needs bounds in order and a mode between them. -/
theorem decides_triangular? (hmin : min.isFinite = true) (hmode : mode.isFinite = true)
    (hmax : max.isFinite = true) :
    Decides (triangular? min.toFloat mode.toFloat max.toFloat)
      (min < max ∧ min ≤ mode ∧ mode ≤ max) :=
  ((decides_checkMode hmin hmode hmax).bind fun _ => .ok (triangular _)).congr (by rw [and_true])

end Checks

/-! ### The numbers behind a keyword -/

/-- The distribution that the numbers behind a keyword stand for, passed to the constructor of the
family in their order; none where the keyword has no density or counts other numbers. A single bin
has no grid, and its range is taken as a whole. -/
def ofPrior? {α : Type} [Elementary α] (label : String) (numbers : List α) :
    Option (Except (Failure (ParameterError α)) (Distribution α)) :=
  match label, numbers with
  | "NORMAL", [mean, std] => some (normal? mean std)
  | "LOGNORMAL", [mean, std] => some (logNormal? mean std)
  | "TRUNCATED_NORMAL", [mean, std, min, max] => some (truncatedNormal? mean std min max)
  | "UNIFORM", [min, max] => some (uniform? min max)
  | "LOGUNIF", [min, max] => some (logUniform? min max)
  | "CONST", [value] => some (point? value)
  | "DUNIF", [bins, min, max] =>
    some (if same bins 1.0 then uniform? min max else discreteUniform? bins min max)
  | "ERRF", [min, max, skewness, width] => some (skewed? min max skewness width)
  | "DERRF", [bins, min, max, skewness, width] =>
    some (discreteSkewed? bins min max skewness width)
  | "TRIANGULAR", [min, mode, max] => some (triangular? min mode max)
  | _, _ => none

/-- Which numbers behind a keyword make a distribution. -/
def Fits (label : String) (numbers : List Binary64) : Prop :=
  match label, numbers with
  | "NORMAL", [_, std] => 0 < std
  | "LOGNORMAL", [_, std] => 0 < std
  | "TRUNCATED_NORMAL", [mean, std, min, max] =>
    0 < std ∧ min < max ∧
      ¬ intervalMass mean.toFloat std.toFloat min.toFloat max.toFloat ≤ 0.0
  | "UNIFORM", [min, max] => min < max
  | "LOGUNIF", [min, max] => 0 < min ∧ min < max
  | "CONST", [_] => True
  | "DUNIF", [bins, min, max] => min < max ∧ (bins = 1 ∨ 2 ≤ bins ∧ bins.IsInteger)
  | "ERRF", [min, max, _, width] => min < max ∧ 0 < width
  | "DERRF", [bins, min, max, _, width] => min < max ∧ 0 < width ∧ 2 ≤ bins ∧ bins.IsInteger
  | "TRIANGULAR", [min, mode, max] => min < max ∧ min ≤ mode ∧ mode ≤ max
  | _, _ => False

/-- Which numbers behind a keyword leave room in memory: a list of numbers may take half of the
`2 ^ 64` addresses, at eight for a number, so there are less than `2 ^ 60` bins. -/
def FitsMemory (label : String) (numbers : List Binary64) : Prop :=
  match label, numbers with
  | "DUNIF", [bins, _, _] => bins.truncated < 2 ^ 60
  | "DERRF", [bins, _, _, _, _] => bins.truncated < 2 ^ 60
  | _, _ => True

/-- The numbers behind a keyword are checked by the conditions of `Fits`, and those that pass ask
for memory that there is by the conditions of `FitsMemory`. -/
theorem decides_ofPrior? {label : String} {numbers : List Binary64}
    (hfinite : ∀ x ∈ numbers, x.isFinite = true)
    {result : Except (Failure (ParameterError Float)) (Distribution Float)}
    (h : ofPrior? label (numbers.map Binary64.toFloat) = some result) :
    DecidesWithin result (Fits label numbers) (FitsMemory label numbers) := by
  unfold ofPrior? at h
  -- one case for each keyword; its numbers are those that were made machine floats of
  split at h
  all_goals
    rename_i heq
    simp only [List.map_eq_cons_iff, List.map_eq_nil_iff] at heq
  case h_1 =>
    obtain ⟨mean, _, rfl, rfl, std, _, rfl, rfl, rfl⟩ := heq
    cases h
    exact .lift (decides_normal? (hfinite mean (by simp)) (hfinite std (by simp)))
  case h_2 =>
    obtain ⟨mean, _, rfl, rfl, std, _, rfl, rfl, rfl⟩ := heq
    cases h
    exact .lift (decides_logNormal? (hfinite mean (by simp)) (hfinite std (by simp)))
  case h_3 =>
    obtain ⟨mean, _, rfl, rfl, std, _, rfl, rfl, min, _, rfl, rfl, max, _, rfl, rfl, rfl⟩ := heq
    cases h
    exact .lift (decides_truncatedNormal? (hfinite mean (by simp)) (hfinite std (by simp))
      (hfinite min (by simp)) (hfinite max (by simp)))
  case h_4 =>
    obtain ⟨min, _, rfl, rfl, max, _, rfl, rfl, rfl⟩ := heq
    cases h
    exact .lift (decides_uniform? (hfinite min (by simp)) (hfinite max (by simp)))
  case h_5 =>
    obtain ⟨min, _, rfl, rfl, max, _, rfl, rfl, rfl⟩ := heq
    cases h
    exact .lift (decides_logUniform? (hfinite min (by simp)) (hfinite max (by simp)))
  case h_6 =>
    obtain ⟨value, _, rfl, rfl, rfl⟩ := heq
    cases h
    exact .lift (decides_point? (hfinite value (by simp)))
  case h_7 =>
    obtain ⟨bins, _, rfl, rfl, min, _, rfl, rfl, max, _, rfl, rfl, rfl⟩ := heq
    cases h
    exact decides_gridUniform? (hfinite bins (by simp)) (hfinite min (by simp))
      (hfinite max (by simp))
  case h_8 =>
    obtain ⟨min, _, rfl, rfl, max, _, rfl, rfl, skewness, _, rfl, rfl, width, _, rfl, rfl, rfl⟩ :=
      heq
    cases h
    exact .lift (decides_skewed? (hfinite min (by simp)) (hfinite max (by simp))
      (hfinite skewness (by simp)) (hfinite width (by simp)))
  case h_9 =>
    obtain ⟨bins, _, rfl, rfl, min, _, rfl, rfl, max, _, rfl, rfl, skewness, _, rfl, rfl, width, _,
      rfl, rfl, rfl⟩ := heq
    cases h
    exact decides_discreteSkewed? (hfinite bins (by simp)) (hfinite min (by simp))
      (hfinite max (by simp)) (hfinite skewness (by simp)) (hfinite width (by simp))
  case h_10 =>
    obtain ⟨min, _, rfl, rfl, mode, _, rfl, rfl, max, _, rfl, rfl, rfl⟩ := heq
    cases h
    exact .lift (decides_triangular? (hfinite min (by simp)) (hfinite mode (by simp))
      (hfinite max (by simp)))
  case h_11 => cases h

end Distribution

namespace Preview

variable {α : Type}

/-- A preview that is made of a distribution shows it, and an error stays what it is. -/
theorem map_distribution_checked
    (result : Except (Failure (ParameterError α)) (Distribution α))
    {next : Distribution α → Preview α} (hnext : ∀ d, (next d).distribution = d) :
    ((checked result).bind fun d => .ok (next d)).map Preview.distribution =
      result.mapError (.map .parameters) := by
  cases result with
  | error error => rfl
  | ok d => exact congrArg Except.ok (hnext d)

/-- The preview of a keyword shows the distribution that its numbers stand for. -/
theorem map_distribution_build [Elementary α] {label : String} {numbers : List α}
    {result : Except (Failure (ParameterError α)) (Distribution α)}
    (h : Distribution.ofPrior? label numbers = some result) :
    (build label numbers).map Preview.distribution = result.mapError (.map .parameters) := by
  unfold Distribution.ofPrior? at h
  split at h
  case h_11 => cases h
  case h_7 bins min max =>
    obtain rfl := Option.some.inj h
    show (if Scalar.same bins 1.0 = true then _ else _ :
      Except (Failure (PreviewError α)) (Preview α)).map _ = _
    split
    · exact map_distribution_checked _ fun _ => rfl
    · exact map_distribution_checked _ fun _ => rfl
  all_goals
    obtain rfl := Option.some.inj h
    exact map_distribution_checked _ fun _ => rfl

end Preview

end EnsembleDesk
