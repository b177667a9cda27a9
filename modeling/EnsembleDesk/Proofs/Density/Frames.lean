import Mathlib.Order.Interval.Set.UnorderedInterval
import EnsembleDesk.Density.Plot
import EnsembleDesk.Proofs.Density.ExactFamilies
import EnsembleDesk.Proofs.Density.RealNormal
/-!
# Plots within their axes

A plot is made by parts that know nothing of each other: the range of a preview, the numbers at
which its density is evaluated, the density that the top of the frame stands for, and the frame.
Over exact numbers they fit together, and nothing of a density that is not negative is drawn outside
of the axes.

* A preview over a linear range has inner points in its range and the points of a discrete
  distribution in it, whichever family it is of (`Preview.placed_of_build`). The range of a constant
  is made of a margin that is positive for every constant (`Preview.constantMargin_pos`).
* A range with inner points is mapped into the interval of an axis, also where that is told from its
  greater end, as the vertical axis is (`mapInterval_mem_uIcc`).
* The top is positive and no sample is above it, also when none of them is positive
  (`Preview.topOf_pos`, `Preview.le_topOf`).
* A frame has a width and a height in every picture (`Frame.proper_ofSize`).

## Main results

* `Preview.drawn_within_axes`: at which numbers a preview is evaluated, and that everything that is
  drawn for the samples lies between the axes.
-/

namespace EnsembleDesk

open Scalar

/-- The places that a shape is told by. -/
def Shape.places {α : Type} : Shape α → List (α × α)
  | path places => places
  | line start stop => [start, stop]
  | marker center => [center]

section Areas

variable {K : Type} [LinearOrder K]

namespace Frame

/-- The places between the axes. -/
def area (frame : Frame K) : Set (K × K) :=
  Set.Icc frame.left frame.right ×ˢ Set.Icc frame.top frame.bottom

/-- A frame with a width and a height. -/
structure Proper (frame : Frame K) : Prop where
  /-- The right end is to the right of the vertical axis. -/
  left_lt_right : frame.left < frame.right
  /-- The upper end is above the horizontal axis. -/
  top_lt_bottom : frame.top < frame.bottom

end Frame

namespace Shape

variable {frame : Frame K} {places : List (K × K)}

/-- A curve lies where its places do. -/
theorem places_mem_area_of_curve (hplaces : ∀ place ∈ places, place ∈ frame.area) :
    ∀ shape ∈ (Marks.curve places).shapes frame.bottom, ∀ place ∈ shape.places,
      place ∈ frame.area := by
  intro shape hshape
  obtain rfl := List.mem_singleton.1 hshape
  exact hplaces

/-- A stem begins on the horizontal axis, which bounds the frame. -/
theorem places_mem_area_of_stems (hframe : frame.Proper)
    (hplaces : ∀ place ∈ places, place ∈ frame.area) :
    ∀ shape ∈ (Marks.stems places).shapes frame.bottom, ∀ place ∈ shape.places,
      place ∈ frame.area := by
  intro shape hshape
  obtain ⟨stop, hstop, hshape⟩ := List.mem_flatMap.1 hshape
  have hmem : stop ∈ frame.area := hplaces stop hstop
  have hfoot : (stop.1, frame.bottom) ∈ frame.area := ⟨hmem.1, hframe.top_lt_bottom.le, le_rfl⟩
  rw [List.mem_pair] at hshape
  rcases hshape with rfl | rfl
  · simp [Shape.places, hfoot, hmem]
  · simp [Shape.places, hmem]

end Shape

end Areas

variable {K : Type} [Field K] [LinearOrder K] [FloorSemiring K] [ElementaryFunctions K]

namespace Preview

variable {preview : Preview K} {samples : List (K × K)}

/-! ### Samples -/

/-- Over a linear range the numbers are evenly spread, two of them at least. -/
theorem spread_linear (domain : K × K) (count : ℕ) :
    spread .linear domain count = evenGrid (max count 2) domain.1 domain.2 := by
  unfold spread evenGrid
  simp only [div_mul_eq_mul_div, mul_div_assoc]

/-- The numbers at which the density of a preview over a linear range is evaluated. -/
def abscissae (preview : Preview K) (count : ℕ) : List K :=
  match preview.sampling with
  | .points points => points
  | .continuous => evenGrid (max count 2) preview.domain.1 preview.domain.2

/-- Exact numbers are finite, so no sample is dropped. -/
theorem samplesOf_eq_map (density : K → K) (hscale : preview.scale = .linear) (count : ℕ) :
    preview.samplesOf density count = (preview.abscissae count).map fun x => (x, density x) := by
  unfold samplesOf abscissae
  cases preview.sampling <;>
    simp only [hscale, spread_linear, isFinite_field, Bool.and_self, List.filter_true]

/-- The samples of a density: the density at evenly spaced numbers from one end of the range to the
other, or at the points of a discrete distribution, which lie in the range. -/
structure Samples (density : K → K) (preview : Preview K) (count : ℕ) (samples : List (K × K)) :
    Prop where
  /-- Every sample is a number with its density. -/
  snd_eq : ∀ sample ∈ samples, sample.2 = density sample.1
  /-- The numbers at which a continuous density is evaluated. -/
  fst_of_continuous : preview.sampling = .continuous →
    EvenlySpaced (max count 2) preview.domain.1 preview.domain.2 (samples.map Prod.fst)
  /-- The numbers at which the density of a discrete distribution is evaluated. -/
  fst_of_points : ∀ points, preview.sampling = .points points →
    samples.map Prod.fst = points ∧ ∀ x ∈ points, x ∈ Set.Icc preview.domain.1 preview.domain.2

/-! ### The top of a frame -/

/-- The top is the greatest density, or one where no density is positive. -/
theorem topOf_eq_ite (samples : List (K × K)) :
    topOf samples =
      if 0 < samples.foldl (fun top sample => max top sample.2) 0 then
        samples.foldl (fun top sample => max top sample.2) 0
      else 1 := by
  simp only [topOf, larger_field, zero_field, one_field]

/-- A maximum is below a bound if everything it is taken of is. -/
theorem foldl_max_le_iff {start bound : K} :
    samples.foldl (fun top sample => max top sample.2) start ≤ bound ↔
      start ≤ bound ∧ ∀ sample ∈ samples, sample.2 ≤ bound := by
  induction samples generalizing start with
  | nil => simp
  | cons head samples ih => simp [ih, and_assoc]

/-- The top is above zero. -/
theorem topOf_pos (samples : List (K × K)) : 0 < topOf samples := by
  rw [topOf_eq_ite]
  split
  · assumption
  · exact zero_lt_one

/-- No density is above the top. -/
theorem le_topOf {sample : K × K} (h : sample ∈ samples) : sample.2 ≤ topOf samples := by
  have hle : sample.2 ≤ samples.foldl (fun top sample => max top sample.2) 0 :=
    (foldl_max_le_iff.1 le_rfl).2 sample h
  rw [topOf_eq_ite]
  split
  · exact hle
  · rename_i hpos
    exact (hle.trans (not_lt.1 hpos)).trans zero_le_one

/-! ### Ranges -/

/-- A preview whose range has inner points and contains the points of a discrete distribution. -/
structure Placed (preview : Preview K) : Prop where
  /-- The lower end of the range is below the upper one. -/
  domain_lt : preview.domain.1 < preview.domain.2
  /-- The points at which a discrete distribution is evaluated lie in the range. -/
  points_mem : ∀ points, preview.sampling = .points points →
    ∀ x ∈ points, x ∈ Set.Icc preview.domain.1 preview.domain.2

/-- A continuous preview whose range has inner points is placed. -/
theorem placed_of_continuous (h : preview.domain.1 < preview.domain.2)
    (hsampling : preview.sampling = .continuous) : preview.Placed where
  domain_lt := h
  points_mem points hpoints := by
    rw [hsampling] at hpoints
    cases hpoints

end Preview

variable [IsStrictOrderedRing K]

/-! ### Axes -/

/-- A frame has a width and a height, however small the picture is. -/
theorem Frame.proper_ofSize (width height : K) : (ofSize width height).Proper where
  left_lt_right := by
    have h : (36.0 : K) < 36.0 + 1.0 := by norm_num
    simpa only [ofSize, larger_field] using h.trans_le (le_max_right _ _)
  top_lt_bottom := by
    have h : (10.0 : K) < 10.0 + 1.0 := by norm_num
    simpa only [ofSize, larger_field] using h.trans_le (le_max_right _ _)

/-- A number of an interval is mapped between the ends of the range, in whichever order they are. -/
theorem mapInterval_mem_uIcc (domain range : K × K) (h : domain.1 < domain.2) {x : K}
    (hx : x ∈ Set.Icc domain.1 domain.2) :
    mapInterval domain range x ∈ Set.uIcc range.1 range.2 := by
  have hwidth : 0 < domain.2 - domain.1 := sub_pos.2 h
  -- the part of the interval that is in front of the number
  set part := (x - domain.1) / (domain.2 - domain.1) with hpart
  have hnonneg : 0 ≤ part := div_nonneg (sub_nonneg.2 hx.1) hwidth.le
  have hle : part ≤ 1 := (div_le_one hwidth).2 (sub_le_sub_right hx.2 _)
  have hmap : mapInterval domain range x = range.1 + part * (range.2 - range.1) := by
    simp [mapInterval, h.ne', hpart]
  rw [hmap]
  rcases le_total range.1 range.2 with hrange | hrange
  · rw [Set.uIcc_of_le hrange]
    have hlength : 0 ≤ range.2 - range.1 := sub_nonneg.2 hrange
    have hlow := mul_nonneg hnonneg hlength
    have hhigh := mul_le_of_le_one_left hlength hle
    constructor <;> linarith
  · -- the same with the inequalities the other way, since the length is not positive
    rw [Set.uIcc_of_ge hrange]
    have hlength : range.2 - range.1 ≤ 0 := sub_nonpos.2 hrange
    have hhigh := mul_nonpos_of_nonneg_of_nonpos hnonneg hlength
    have hlow := mul_le_mul_of_nonpos_right hle hlength
    constructor <;> linarith

namespace Preview

variable {preview : Preview K}

/-- A preview of an even grid is placed. -/
theorem placed_of_evenGrid {n : ℕ} (hn : 2 ≤ n) (h : preview.domain.1 < preview.domain.2)
    (hsampling : preview.sampling = .points (evenGrid n preview.domain.1 preview.domain.2)) :
    preview.Placed where
  domain_lt := h
  points_mem points hpoints x hx := by
    rw [hsampling] at hpoints
    cases hpoints
    exact mem_Icc_of_mem_evenGrid hn h hx

/-- The range around a constant has a width, on either side of zero and at it. -/
theorem constantMargin_pos (value : K) : 0 < constantMargin value := by
  unfold constantMargin
  split
  · norm_num
  · rename_i hne
    rw [same_field, zero_field] at hne
    rw [magnitude_field]
    exact div_pos (abs_pos.2 hne) (by norm_num)

/-- A preview goes on with the distribution that its constructor made. -/
theorem checked_eq_ok_iff {α : Type} {result : Except (Failure (ParameterError α)) (Distribution α)}
    {d : Distribution α} : checked result = .ok d ↔ result = .ok d := by
  cases result <;> simp [checked, Except.mapError]

/-- Every preview over a linear range is placed. -/
theorem placed_of_build {label : String} {numbers : List K}
    (hbuild : build label numbers = .ok preview) (hscale : preview.scale = .linear) :
    preview.Placed := by
  unfold build at hbuild
  -- one case for each keyword, and in it what is read and checked one after the other
  split at hbuild
  all_goals simp only [Except.bind_eq_ok_iff, checked_eq_ok_iff, Failure.lift_eq_ok_iff] at hbuild
  case h_1 =>
    obtain ⟨mean, -, std, -, d, hd, h⟩ := hbuild
    cases h
    have hstd : 0 < 6.0 * std := mul_pos (by norm_num) (Distribution.normal?_eq_ok_iff.1 hd).1
    exact placed_of_continuous (by show mean - _ < mean + _; linarith) rfl
  case h_2 =>
    -- the range is logarithmic
    obtain ⟨_, -, _, -, d, -, h⟩ := hbuild
    cases h
    cases hscale
  case h_3 =>
    obtain ⟨lo, -, hi, -, _, -, _, -, d, hd, h⟩ := hbuild
    cases h
    exact placed_of_continuous (Distribution.lt_of_truncatedNormal?_eq_ok hd) rfl
  case h_4 =>
    obtain ⟨lo, -, hi, -, d, hd, h⟩ := hbuild
    cases h
    exact placed_of_continuous (Distribution.uniform?_eq_ok_iff.1 hd).1 rfl
  case h_5 =>
    -- the range is logarithmic
    obtain ⟨_, -, _, -, d, -, h⟩ := hbuild
    cases h
    cases hscale
  case h_6 =>
    obtain ⟨value, -, d, -, h⟩ := hbuild
    cases h
    have hmargin : 0 < constantMargin value := constantMargin_pos value
    refine ⟨by show value - _ < value + _; linarith, fun points hpoints x hx => ?_⟩
    cases hpoints
    obtain rfl := List.mem_singleton.1 hx
    exact ⟨sub_le_self x hmargin.le, le_add_of_nonneg_right hmargin.le⟩
  case h_7 =>
    obtain ⟨bins, -, lo, -, hi, -, hbuild⟩ := hbuild
    -- a single bin is shown as a continuous range
    split at hbuild
    all_goals
      simp only [Except.bind_eq_ok_iff, checked_eq_ok_iff, Failure.lift_eq_ok_iff] at hbuild
      obtain ⟨d, hd, h⟩ := hbuild
      cases h
    · exact placed_of_continuous (Distribution.uniform?_eq_ok_iff.1 hd).1 rfl
    · obtain ⟨n, hn, -, hlt, rfl⟩ := Distribution.discreteUniform?_eq_ok_iff.1 hd
      exact placed_of_evenGrid hn hlt (congrArg Sampling.points (support_uniform n lo hi))
  case h_8 =>
    obtain ⟨lo, -, hi, -, _, -, _, -, d, hd, h⟩ := hbuild
    cases h
    exact placed_of_continuous (Distribution.skewed?_eq_ok_iff.1 hd).1 rfl
  case h_9 =>
    obtain ⟨lo, -, hi, -, _, -, _, -, _, -, d, hd, h⟩ := hbuild
    cases h
    obtain ⟨n, hn, -, hlt, -, rfl⟩ := Distribution.discreteSkewedOf?_eq_ok_iff.1 hd
    exact placed_of_evenGrid hn hlt (congrArg Sampling.points (support_masses _ _ _ n lo hi))
  case h_10 =>
    obtain ⟨lo, -, hi, -, _, -, d, hd, h⟩ := hbuild
    cases h
    exact placed_of_continuous (Distribution.triangular?_eq_ok_iff.1 hd).1 rfl
  case h_11 => cases hbuild

/-! ### What is drawn -/

namespace Placed

variable {density : K → K} {count : ℕ}

/-- A density is evaluated within the range. -/
theorem mem_domain_of_mem_abscissae (hplaced : preview.Placed) {x : K}
    (hx : x ∈ preview.abscissae count) : x ∈ Set.Icc preview.domain.1 preview.domain.2 := by
  unfold abscissae at hx
  split at hx
  · rename_i points hpoints
    exact hplaced.points_mem points hpoints x hx
  · exact mem_Icc_of_mem_evenGrid (le_max_right count 2) hplaced.domain_lt hx

/-- The samples of a placed preview are those of its density. -/
theorem samples_samplesOf (hplaced : preview.Placed) (hscale : preview.scale = .linear) :
    Samples density preview count (preview.samplesOf density count) := by
  have hfst : (preview.samplesOf density count).map Prod.fst = preview.abscissae count := by
    simp [samplesOf_eq_map density hscale, Function.comp_def]
  refine ⟨?_, fun hsampling => ?_, fun points hsampling => ?_⟩
  · simp [samplesOf_eq_map density hscale]
  · rw [hfst, abscissae, hsampling]
    exact evenlySpaced_evenGrid (le_max_right count 2) hplaced.domain_lt
  · rw [hfst, abscissae, hsampling]
    exact ⟨rfl, hplaced.points_mem points hsampling⟩

/-- A sample in the range of a preview whose density is not negative is placed between the axes. -/
theorem place_mem_area (hplaced : preview.Placed) (hscale : preview.scale = .linear)
    {frame : Frame K} (hframe : frame.Proper) {samples : List (K × K)} {sample : K × K}
    (hsample : sample ∈ samples) (hfst : sample.1 ∈ Set.Icc preview.domain.1 preview.domain.2)
    (hsnd : 0 ≤ sample.2) : preview.place frame (topOf samples) sample ∈ frame.area := by
  constructor
  · have hmem := mapInterval_mem_uIcc preview.domain (frame.left, frame.right)
      hplaced.domain_lt hfst
    rw [Set.uIcc_of_le hframe.left_lt_right.le] at hmem
    simpa only [place, horizontal, hscale] using hmem
  · have hheight : sample.2 ∈ Set.Icc (0 : K) (topOf samples) := ⟨hsnd, le_topOf hsample⟩
    have hmem := mapInterval_mem_uIcc (0, topOf samples) (frame.bottom, frame.top)
      (topOf_pos samples) hheight
    rw [Set.uIcc_of_ge hframe.top_lt_bottom.le] at hmem
    simpa only [place, zero_field] using hmem

/-- So everything that is drawn for such samples lies between the axes. -/
theorem shapes_mem_area (hplaced : preview.Placed) (hscale : preview.scale = .linear)
    {samples : List (K × K)} (hsamples : ∀ sample ∈ samples,
      sample.1 ∈ Set.Icc preview.domain.1 preview.domain.2 ∧ 0 ≤ sample.2) (width height : K) :
    ∀ shape ∈ (preview.plotOf samples width height).shapes, ∀ place ∈ shape.places,
      place ∈ (Frame.ofSize width height).area := by
  have hframe := Frame.proper_ofSize width height
  have hplaces : ∀ place ∈ samples.map (preview.place (Frame.ofSize width height) (topOf samples)),
      place ∈ (Frame.ofSize width height).area := by
    rw [List.forall_mem_map]
    intro sample hsample
    obtain ⟨hfst, hsnd⟩ := hsamples sample hsample
    exact hplaced.place_mem_area hscale hframe hsample hfst hsnd
  unfold Plot.shapes plotOf
  cases preview.sampling with
  | continuous => exact Shape.places_mem_area_of_curve hplaces
  | points _ => exact Shape.places_mem_area_of_stems hframe hplaces

end Placed

/-- A preview over a linear range is evaluated at evenly spaced numbers from one end of its range to
the other, or at points in the range. What is drawn for a density that is not negative lies between
the axes, which have a length in a picture of any size. -/
theorem drawn_within_axes {label : String} {numbers : List K}
    (hbuild : build label numbers = .ok preview) (hscale : preview.scale = .linear)
    {density : K → K} (hdensity : ∀ x, 0 ≤ density x) (count : ℕ) (width height : K) :
    let samples := preview.samplesOf density count
    let plot := preview.plotOf samples width height
    Samples density preview count samples ∧ plot.frame.Proper ∧
      ∀ shape ∈ plot.shapes, ∀ place ∈ shape.places, place ∈ plot.frame.area := by
  have hplaced : preview.Placed := placed_of_build hbuild hscale
  refine ⟨hplaced.samples_samplesOf hscale, Frame.proper_ofSize width height,
    hplaced.shapes_mem_area hscale ?_ width height⟩
  rw [samplesOf_eq_map density hscale, List.forall_mem_map]
  exact fun x hx => ⟨hplaced.mem_domain_of_mem_abscissae hx, hdensity x⟩

/-- A negative constant in a picture that has no room for margins. -/
theorem drawn_within_axes_negative_constant :
    let preview : Preview ℝ := { keyword := "CONST", distribution := .point (-100),
                                 domain := (-101, -99), sampling := .points [-100] }
    let plot := preview.plot { width := 0, height := 0, samples := 100 }
    build "CONST" [(-100 : ℝ)] = .ok preview ∧ preview.scale = .linear ∧
      (∀ x, 0 ≤ preview.distribution.pdf x) ∧
      Samples preview.distribution.pdf preview 100 (preview.sample 100) ∧ plot.frame.Proper ∧
      ∀ shape ∈ plot.shapes, ∀ place ∈ shape.places, place ∈ plot.frame.area := by
  intro preview plot
  have hmargin : constantMargin (-100 : ℝ) = 1 := by
    have hne : ¬ same (-100 : ℝ) 0.0 = true := by norm_num
    rw [constantMargin, if_neg hne, magnitude_field]
    norm_num
  have hbuild : build "CONST" [(-100 : ℝ)] = .ok preview := by
    have hlow : (-100 : ℝ) - constantMargin (-100) = -101 := by norm_num [hmargin]
    have hhigh : (-100 : ℝ) + constantMargin (-100) = -99 := by norm_num [hmargin]
    show Except.ok _ = Except.ok _
    simp only [hlow, hhigh, preview]
  have hdensity (x : ℝ) : 0 ≤ preview.distribution.pdf x := by
    show 0 ≤ (if same x (-100) = true then 1.0 else 0.0 : ℝ)
    split <;> norm_num
  exact ⟨hbuild, rfl, hdensity, drawn_within_axes hbuild rfl hdensity 100 _ _⟩

end Preview

end EnsembleDesk
