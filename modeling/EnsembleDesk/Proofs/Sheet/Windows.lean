import EnsembleDesk.Proofs.Sheet.Offsets
import EnsembleDesk.Sheet.Viewport
import Mathlib.Data.Fintype.EquivFin
import Mathlib.Data.Fintype.Lattice
import Mathlib.Order.Bounds.Basic
/-!
# Windows over lines

`Sizes.indexAt` walks along the lines that have a size of their own and skips the others block by
block, `Sizes.countToFill` adds lines up one by one, and `Sizes.offsetOf` sums exceptions. Over
exact numbers all three describe the same places. The walk carries the entries that are left
(`Sizes.Left`), and ends in the line that the place lies in (`Sizes.liesIn_indexAt`). The lines that
are added up cover a length as soon as the next one begins behind its end (`Sizes.exists_fills`).

## Main results

* `Viewport.window_shown_exactly`: along both axes, a window begins with the line that its scroll
  position lies in, and has as few lines as reach its end.
-/

namespace EnsembleDesk

namespace Sizes

open Scalar

/-! ### Walking along the lines -/

section Walk

variable {α : Type} {sizes : Sizes α} {own : List (Index × α)} {next : Index}

/-- The entries that are left of a walk along the lines: those from a line on. -/
structure Left (sizes : Sizes α) (own : List (Index × α)) (next : Index) : Prop where
  /-- They are in order. -/
  ordered : own.Pairwise fun a b => Position.number a.1 < Position.number b.1
  /-- None is in front of the line. -/
  le : ∀ entry ∈ own, next ≤ entry.1
  /-- They have the sizes of the lines from there on. -/
  find : ∀ k, next ≤ k → Sparse.find k own = sizes.own.get? k

namespace Left

variable {entry : Index × α}

theorem all (sizes : Sizes α) : sizes.Left sizes.own.entries .first :=
  ⟨sizes.own.ordered, fun _ _ => Nat.zero_le _, fun _ _ => rfl⟩

theorem get?_head (h : sizes.Left (entry :: own) next) :
    sizes.own.get? entry.1 = some entry.2 := by
  rw [← h.find entry.1 (h.le entry List.mem_cons_self)]
  exact if_pos rfl

/-- Up to the first entry that is left, no line has a size of its own. -/
theorem get?_of_lt_head (h : sizes.Left (entry :: own) next) {k : Index} (hle : next ≤ k)
    (hlt : k < entry.1) : sizes.own.get? k = none := by
  rw [← h.find k hle]
  refine Sparse.find_eq_none_of_forall_lt fun other hmem => ?_
  rcases List.mem_cons.1 hmem with rfl | hmem
  · exact hlt
  · exact Nat.lt_trans hlt ((List.pairwise_cons.1 h.ordered).1 other hmem)

/-- The walk goes on behind the line of the first entry. -/
theorem tail (h : sizes.Left (entry :: own) next) (hlast : entry.1 < .unbounded) :
    sizes.Left own entry.1.next := by
  have hnext := Index.val_next_of_lt hlast
  obtain ⟨hhead, hordered⟩ := List.pairwise_cons.1 h.ordered
  refine ⟨hordered, fun other hmem => ?_, fun k hk => ?_⟩
  · have hlt : entry.1.val < other.1.val := hhead other hmem
    exact Fin.le_def.2 (by omega)
  · have hk' : entry.1.val < k.val := by
      have := Fin.le_def.1 hk
      omega
    rw [← h.find k (le_trans (h.le entry List.mem_cons_self) (Nat.le_of_lt hk'))]
    exact (if_neg (Nat.ne_of_lt hk')).symm

end Left

variable [Scalar α]

/-- The walk of `Sizes.indexFrom` with its steps checked: there is no result if a line is counted
from one that does not come before it, or if no line follows the one that is passed. -/
def checkedIndexFrom (sizes : Sizes α) : List (Index × α) → Index → α → Option (Index × α)
  | [], next, distance => some (sizes.commonIndexAt next distance)
  | (i, size) :: own, next, distance =>
    if next ≤ i then
      let block := ((i.val - next.val : Nat) : α) * sizes.common
      if distance < block then some (sizes.commonIndexAt next distance)
      else if distance - block < size then some (i, distance - block)
      else if i < .unbounded then sizes.checkedIndexFrom own i.next (distance - block - size)
      else none
    else none

/-- The walk of `Sizes.indexAt` with its steps checked. -/
def checkedIndexAt (sizes : Sizes α) (place : α) : Option (Index × α) :=
  sizes.checkedIndexFrom sizes.own.entries .first (if 0.0 < place then place else 0.0)

/-- If the last line has the common size, no step of the walk fails. -/
theorem checkedIndexFrom_eq (hleft : sizes.Left own next)
    (hlast : sizes.own.get? .unbounded = none) (distance : α) :
    sizes.checkedIndexFrom own next distance = some (sizes.indexFrom own next distance) := by
  induction own generalizing next distance with
  | nil => rfl
  | cons entry own ih =>
    obtain ⟨i, size⟩ := entry
    have hi : i < .unbounded := by
      refine Nat.lt_of_le_of_ne (Index.le_unbounded i) fun heq => ?_
      have hsize := hleft.get?_head
      rw [Fin.ext heq, hlast] at hsize
      cases hsize
    simp only [checkedIndexFrom, indexFrom, if_pos (hleft.le _ List.mem_cons_self), if_pos hi]
    split
    · rfl
    · split
      · rfl
      · exact ih (hleft.tail hi) _

end Walk

/-! ### The line that a place lies in -/

variable {sizes : Sizes ℚ} {own : List (Index × ℚ)} {next : Index} {distance : ℚ}

/-- Among lines of the common size, the whole sizes of a distance are counted. -/
theorem liesIn_commonIndexAt (hpositive : sizes.Positive) (hdistance : 0 ≤ distance) (room : Nat)
    (hroom : next.val + room ≤ Index.unbounded.val + 1)
    (hcommon : ∀ k, next ≤ k → k.val < next.val + room → sizes.own.get? k = none)
    (hlt : distance < room * sizes.common) :
    sizes.LiesIn (sizes.offsetOf next + distance) (sizes.commonIndexAt next distance).1
      (sizes.commonIndexAt next distance).2 := by
  have hpos := hpositive.common
  have hquotient : 0 ≤ distance / sizes.common := div_nonneg hdistance hpos.le
  let steps := ⌊distance / sizes.common⌋₊
  have hstep : sizes.commonIndexAt next distance =
      (next.plus steps, distance - steps * sizes.common) := rfl
  -- the steps stay within the room, where all lines have the common size
  have hsteps : steps < room := (Nat.floor_lt hquotient).2 ((div_lt_iff₀ hpos).2 hlt)
  have hle : steps * sizes.common ≤ distance := (le_div_iff₀ hpos).1 (Nat.floor_le hquotient)
  have hlt' : distance < (steps + 1) * sizes.common :=
    (div_lt_iff₀ hpos).1 (Nat.lt_floor_add_one _)
  have hval : (next.plus steps).val = next.val + steps := Index.val_plus_of_le (by omega)
  have hoffset := offsetOf_plus sizes next steps (by omega)
    fun k hk hk' => hcommon k hk (by omega)
  have hsize : sizes.size (next.plus steps) = sizes.common := by
    rw [size, hcommon _ (Fin.le_def.2 (by omega)) (by omega)]
    rfl
  rw [hstep]
  refine ⟨?_, ?_, ?_⟩
  · rw [hoffset]
    ring
  · linarith
  · rw [hsize]
    linarith

/-- The walk ends in the line that its place lies in, if one of the lines does. The induction is on
the entries that are left; what is left of the distance leads from the line that the walk has come
to to the same place. -/
theorem liesIn_indexFrom (hpositive : sizes.Positive) (hleft : sizes.Left own next)
    (hdistance : 0 ≤ distance)
    (hend : sizes.offsetOf next + distance <
      sizes.offsetOf .unbounded + sizes.size .unbounded) :
    sizes.LiesIn (sizes.offsetOf next + distance) (sizes.indexFrom own next distance).1
      (sizes.indexFrom own next distance).2 := by
  induction own generalizing next distance with
  | nil =>
    -- all lines from here on have the common size, the last one too
    have hcommon (k : Index) (hk : next ≤ k) : sizes.own.get? k = none := (hleft.find k hk).symm
    have hnext := Fin.le_def.1 (Index.le_unbounded next)
    have hplus : next.plus (Index.unbounded.val - next.val) = .unbounded := by
      rw [Fin.ext_iff, Index.val_plus_of_le (by omega)]
      omega
    have hoffset := offsetOf_plus sizes next (Index.unbounded.val - next.val) (by omega)
      fun k hk _ => hcommon k hk
    have hsize : sizes.size .unbounded = sizes.common := by
      rw [size, hcommon _ (Index.le_unbounded next)]
      rfl
    rw [hplus] at hoffset
    refine liesIn_commonIndexAt hpositive hdistance (Index.unbounded.val - next.val + 1) (by omega)
      (fun k hk _ => hcommon k hk) ?_
    push_cast
    linarith
  | cons entry own ih =>
    obtain ⟨i, size⟩ := entry
    have hle : next.val ≤ i.val := hleft.le _ List.mem_cons_self
    have hi := Fin.le_def.1 (Index.le_unbounded i)
    have hcommon (k : Index) (hk : next ≤ k) (hk' : k.val < next.val + (i.val - next.val)) :
        sizes.own.get? k = none := by
      refine hleft.get?_of_lt_head hk ?_
      show k.val < i.val
      omega
    have hsize : sizes.size i = size := by rw [Sizes.size, hleft.get?_head]; rfl
    have hplus : next.plus (i.val - next.val) = i := by
      rw [Fin.ext_iff, Index.val_plus_of_le (by omega)]
      omega
    -- the block in front of the line of the entry is the way to its beginning
    have hblock := offsetOf_plus sizes next (i.val - next.val) (by omega) hcommon
    rw [hplus] at hblock
    rw [indexFrom]
    by_cases hskip : distance < ((i.val - next.val : Nat) : ℚ) * sizes.common
    · rw [if_pos hskip]
      exact liesIn_commonIndexAt hpositive hdistance (i.val - next.val) (by omega) hcommon hskip
    · rw [if_neg hskip]
      by_cases hin : distance - ((i.val - next.val : Nat) : ℚ) * sizes.common < size
      · rw [if_pos hin]
        refine ⟨?_, ?_, ?_⟩
        · simp only [hblock]
          ring
        · simp only
          linarith
        · simpa only [hsize] using hin
      · rw [if_neg hin]
        -- the last line ends behind the place, so this is not the last one
        have hlast : i < .unbounded := by
          refine lt_of_le_of_ne (Index.le_unbounded i) fun heq => ?_
          rw [← heq, hsize, hblock] at hend
          linarith
        have hbehind : sizes.offsetOf i.next +
            (distance - ((i.val - next.val : Nat) : ℚ) * sizes.common - size) =
              sizes.offsetOf next + distance := by
          rw [offsetOf_next sizes hlast, hblock, hsize]
          ring
        rw [← hbehind] at hend ⊢
        exact ih (hleft.tail hlast) (by linarith) hend

/-- A place that is not behind the last line lies in the line that is found for it. -/
theorem liesIn_indexAt (hpositive : sizes.Positive) {place : ℚ} (hplace : 0 ≤ place)
    (hend : place < sizes.offsetOf .unbounded + sizes.size .unbounded) :
    sizes.LiesIn place (sizes.indexAt place).1 (sizes.indexAt place).2 := by
  have hclamped : (if (0.0 : ℚ) < place then place else 0.0) = place := by
    rw [zero_field]
    split
    · rfl
    · linarith
  have hfirst : sizes.offsetOf .first + place = place := by rw [offsetOf_first, zero_add]
  have hindexAt : sizes.indexAt place = sizes.indexFrom sizes.own.entries .first place :=
    congrArg (sizes.indexFrom sizes.own.entries .first) hclamped
  have hlies := liesIn_indexFrom hpositive (.all sizes) hplace (hfirst.symm ▸ hend)
  rwa [hfirst, ← hindexAt] at hlies

/-- The line that is found for the beginning of a line is that line. -/
theorem indexAt_offsetOf (hpositive : sizes.Positive) (i : Index) :
    sizes.indexAt (sizes.offsetOf i) = (i, 0) := by
  have hmono := hpositive.strictMono_offsetOf.monotone
  have hfirst := hmono (Fin.le_def.2 (Nat.zero_le i.val) : Index.first ≤ i)
  rw [offsetOf_first] at hfirst
  have hlast := hmono (Index.le_unbounded i)
  have hsize := hpositive.size .unbounded
  have hlies := liesIn_indexAt hpositive hfirst (by linarith)
  obtain ⟨hindex, hinto⟩ := hlies.unique hpositive (.offsetOf hpositive i)
  exact Prod.ext hindex hinto

/-! ### The lines that cover a length -/

section Fill

variable {α : Type} [Scalar α]

/-- Lines are added up, from one on and with a part of a length covered, until the length is
covered. The last argument is the number of lines that are added. -/
inductive Fills (sizes : Sizes α) (length : α) : Index → α → Nat → Prop where
  /-- The length is covered. -/
  | covered {line : Index} {covered : α} (h : ¬ covered < length) :
    Fills sizes length line covered 0
  /-- One more line is added. -/
  | add {line : Index} {covered : α} {count : Nat} (h : covered < length)
    (rest : Fills sizes length line.next (covered + sizes.size line) count) :
    Fills sizes length line covered (count + 1)

/-- Any bound on the steps that does not stop the counting gives the same number. -/
theorem Fills.countFrom_eq {sizes : Sizes α} {length covered : α} {line : Index} {count steps : Nat}
    (h : sizes.Fills length line covered count) (hsteps : count ≤ steps) (before : Nat) :
    sizes.countFrom length steps line covered before = before + count := by
  induction h generalizing steps before with
  | covered hcovered =>
    cases steps with
    | zero => rfl
    | succ steps => rw [countFrom, if_neg hcovered, Nat.add_zero]
  | @add line covered count hlt rest ih =>
    cases steps with
    | zero => omega
    | succ steps =>
      rw [countFrom, if_pos hlt, ih (Nat.le_of_succ_le_succ hsteps)]
      omega

end Fill

/-- Lines cover a length that ends in front of the last line, and no fewer lines do: the next one
begins at its end or behind it. -/
theorem exists_fills (length covered : ℚ) (line : Index)
    (hend : sizes.offsetOf line + (length - covered) ≤ sizes.offsetOf .unbounded) :
    ∃ count, sizes.Fills length line covered count ∧
      line.val + count ≤ Index.unbounded.val ∧
      IsLeast {n | sizes.offsetOf line + (length - covered) ≤ sizes.offsetOf (line.plus n)}
        count := by
  -- the induction is on the number of lines behind this one
  induction hbehind : Index.unbounded.val - line.val generalizing line covered with
  | zero =>
    have hlast := Fin.le_def.1 (Index.le_unbounded line)
    have hline : line = .unbounded := Fin.ext (by omega)
    have hcovered : ¬ covered < length := by
      rw [hline] at hend
      linarith
    refine ⟨0, .covered hcovered, by omega, ?_, fun n _ => Nat.zero_le n⟩
    rw [Set.mem_ofPred_eq, Index.plus_zero]
    linarith
  | succ behind ih =>
    by_cases hcovered : covered < length
    · have hlast : line < .unbounded := Fin.lt_def.2 (by omega)
      have hnext := Index.val_next_of_lt hlast
      -- what is left of the length ends at the same place
      have hsame : sizes.offsetOf line.next + (length - (covered + sizes.size line)) =
          sizes.offsetOf line + (length - covered) := by
        rw [offsetOf_next sizes hlast]
        ring
      obtain ⟨count, hfills, hcount, hreaches, hleast⟩ :=
        ih (covered + sizes.size line) line.next (by linarith) (by omega)
      refine ⟨count + 1, .add hcovered hfills, by omega, ?_, fun n hn => ?_⟩
      · rwa [Set.mem_ofPred_eq, Index.plus_succ, ← hsame]
      · cases n with
        | zero =>
          rw [Set.mem_ofPred_eq, Index.plus_zero] at hn
          linarith
        | succ n =>
          rw [Set.mem_ofPred_eq, Index.plus_succ, ← hsame] at hn
          exact Nat.succ_le_succ (hleast hn)
    · refine ⟨0, .covered hcovered, by omega, ?_, fun n _ => Nat.zero_le n⟩
      rw [Set.mem_ofPred_eq, Index.plus_zero]
      linarith

/-- The lines that are counted cover the length. -/
theorem fills_countToFill {first : Index} {length : ℚ}
    (hend : sizes.offsetOf first + length ≤ sizes.offsetOf .unbounded) :
    sizes.Fills length first 0 (sizes.countToFill first length) ∧
      IsLeast {n | sizes.offsetOf first + length ≤ sizes.offsetOf (first.plus n)}
        (sizes.countToFill first length) := by
  obtain ⟨count, hfills, hcount, hleast⟩ :=
    exists_fills length 0 first (by simpa using hend)
  have hbound : Index.unbounded.val = 4294967295 := rfl
  have hcounted : sizes.countToFill first length = count := by
    rw [countToFill, zero_field, hfills.countFrom_eq (by omega) 0, Nat.zero_add]
  rw [hcounted]
  rw [sub_zero] at hleast
  exact ⟨hfills, hleast⟩

/-- If lines have a positive size, they cover any length in the end. -/
theorem Positive.exists_fills (hpositive : sizes.Positive) (length : ℚ) (line : Index) :
    ∃ count, sizes.Fills length line 0 count := by
  obtain ⟨least, hleast⟩ := Finite.exists_min sizes.size
  have hpos := hpositive.size least
  -- each line adds at least the smallest size, so so many lines suffice
  have hsteps (steps : Nat) (covered : ℚ) (line : Index)
      (h : length ≤ covered + steps * sizes.size least) :
      ∃ count, sizes.Fills length line covered count := by
    induction steps generalizing covered line with
    | zero => exact ⟨0, .covered (by simpa using h)⟩
    | succ steps ih =>
      by_cases hcovered : covered < length
      · have hadded := hleast line
        push_cast at h
        obtain ⟨count, hfills⟩ := ih (covered + sizes.size line) line.next (by linarith)
        exact ⟨count + 1, .add hcovered hfills⟩
      · exact ⟨0, .covered hcovered⟩
  have hceil := (div_le_iff₀ hpos).1 (Nat.le_ceil (length / sizes.size least))
  exact hsteps ⌈length / sizes.size least⌉₊ 0 line (by rwa [zero_add])

/-- The offsets, the walk and the counting along an axis describe the same lines. -/
structure Coherent (sizes : Sizes ℚ) : Prop where
  /-- The line that is found for the beginning of a line is that line. -/
  indexAt_offsetOf : ∀ i, sizes.indexAt (sizes.offsetOf i) = (i, 0)
  /-- No step of a walk fails. -/
  checked : ∀ place, sizes.checkedIndexAt place = some (sizes.indexAt place)
  /-- Lines that are added up one by one cover any length in the end. -/
  covers : ∀ length first, ∃ count, sizes.Fills length first 0 count
  /-- The number of lines that are counted is the number of those that are added up, if they lie in
  front of the last one. -/
  counted : ∀ length first, sizes.offsetOf first + length ≤ sizes.offsetOf .unbounded →
    sizes.Fills length first 0 (sizes.countToFill first length)

/-- Lines of a positive size are described coherently, if the last line has the common size. -/
theorem Positive.coherent (hpositive : sizes.Positive)
    (hlast : sizes.own.get? .unbounded = none) : sizes.Coherent where
  indexAt_offsetOf := Sizes.indexAt_offsetOf hpositive
  checked _ := checkedIndexFrom_eq (.all sizes) hlast _
  covers := hpositive.exists_fills
  counted _ _ hend := (fills_countToFill hend).1

/-- A length at a scroll position lies in front of the last line. -/
structure InFront (sizes : Sizes ℚ) (scroll length : ℚ) : Prop where
  /-- The position is not in front of the first line. -/
  scroll_nonneg : 0 ≤ scroll
  /-- The position is in front of the last line. -/
  scroll_lt : scroll < sizes.offsetOf .unbounded
  /-- The length ends where the last line begins or in front of it. -/
  end_le : scroll + length ≤ sizes.offsetOf .unbounded

end Sizes

/-! ### The lines that a window shows -/

/-- The line after the last one of a window has an index. So the sums of 32 bits that lead to it are
those of natural numbers. -/
def Window.WithinIndices {α : Type} (window : Window α) : Prop :=
  window.first.val + window.count ≤ Index.unbounded.val

instance {α : Type} (window : Window α) : Decidable window.WithinIndices :=
  inferInstanceAs (Decidable (_ ≤ _))

/-- A window shows the lines that a length at a scroll position covers, and `overscan` more. -/
structure Window.Shows (window : Window ℚ) (sizes : Sizes ℚ) (scroll length : ℚ) (overscan : Nat) :
    Prop where
  /-- The first line, and no other, begins at the scroll position or in front of it and ends behind
  it. -/
  first_iff : ∀ i, i = window.first ↔ sizes.offsetOf i ≤ scroll ∧ scroll < sizes.offsetOf i.next
  /-- Seen from the scroll position, the first line begins this far in front. -/
  into_eq : -window.into = sizes.offsetOf window.first - scroll
  /-- As few lines are shown as reach the end of the length. -/
  count_eq : ∃ count, window.count = count + overscan ∧
    IsLeast {n | scroll + length ≤ sizes.offsetOf (window.first.plus n)} count
  /-- All of them have an index. -/
  stop_eq : window.stop.val = window.first.val + window.count

/-- Along an axis, a window shows the lines that it covers. -/
theorem Window.shows_compute {sizes : Sizes ℚ} (hpositive : sizes.Positive) {scroll length : ℚ}
    (hfront : sizes.InFront scroll length) {overscan : Nat}
    (hwithin : (Window.compute sizes scroll length overscan).WithinIndices) :
    (Window.compute sizes scroll length overscan).Shows sizes scroll length overscan := by
  let window := Window.compute sizes scroll length overscan
  have hsize := hpositive.size .unbounded
  have hlt := hfront.scroll_lt
  have hlies : sizes.LiesIn scroll window.first window.into :=
    Sizes.liesIn_indexAt hpositive hfront.scroll_nonneg (by linarith)
  have hplace := hlies.place_eq
  have hinto := hlies.nonneg
  -- the first line begins in front of the last one, so it has a next one
  have hfirst : window.first < .unbounded :=
    hpositive.strictMono_offsetOf.lt_iff_lt.1 (by linarith)
  have hnext := Sizes.offsetOf_next sizes hfirst
  have hlength : sizes.offsetOf window.first + (length + window.into) = scroll + length := by
    linarith
  refine ⟨fun i => ⟨?_, fun ⟨hle, hends⟩ => ?_⟩, ?_, ?_, Index.val_plus_of_le hwithin⟩
  · rintro rfl
    have hin := hlies.lt_size
    exact ⟨by linarith, by linarith⟩
  · have hi : i < .unbounded := hpositive.strictMono_offsetOf.lt_iff_lt.1 (by linarith)
    rw [Sizes.offsetOf_next sizes hi] at hends
    have hother : sizes.LiesIn scroll i (scroll - sizes.offsetOf i) :=
      ⟨add_sub_cancel _ _, by linarith, by linarith⟩
    exact (hother.unique hpositive hlies).1
  · linarith
  · have hend := hfront.end_le
    obtain ⟨-, hleast⟩ := Sizes.fills_countToFill (hlength.trans_le hend)
    rw [hlength] at hleast
    exact ⟨sizes.countToFill window.first (length + window.into), rfl, hleast⟩

namespace Viewport

/-- A window shows exactly the rows and columns that it covers, and `overscan` more along each axis;
and along both axes, offsets, walks and counting describe the same lines. The window may not reach
beyond the last index with the lines that it shows besides. -/
theorem window_shown_exactly {columns rows : Sizes ℚ} (hcolumns : columns.Positive)
    (hrows : rows.Positive) (hlastColumn : columns.own.get? .unbounded = none)
    (hlastRow : rows.own.get? .unbounded = none) (scroll client : Pair ℚ)
    (hleft : columns.InFront scroll.left client.left)
    (htop : rows.InFront scroll.top client.top) (overscan : Nat)
    (hrowsWithin : (Window.compute rows scroll.top client.top overscan).WithinIndices)
    (hcolumnsWithin : (Window.compute columns scroll.left client.left overscan).WithinIndices) :
    let viewport := Viewport.compute scroll client columns rows overscan
    viewport.rows.Shows rows scroll.top client.top overscan ∧
      viewport.columns.Shows columns scroll.left client.left overscan ∧
      rows.Coherent ∧ columns.Coherent :=
  ⟨Window.shows_compute hrows htop hrowsWithin,
    Window.shows_compute hcolumns hleft hcolumnsWithin, hrows.coherent hlastRow,
    hcolumns.coherent hlastColumn⟩

/-- Rows the first two of which are higher than the others, and one is lower. -/
def unevenRows : Sizes ℚ := (Sizes.uniform 24).setAll [(0, 30), (1, 48), (7, 10)]

/-- The first row is hidden, the second one is cut, and it takes ten rows to reach the end. -/
theorem window_shown_exactly_uneven :
    let viewport := Viewport.compute (α := ℚ) ⟨250, 36⟩ ⟨400, 240⟩ (.uniform 100) unevenRows 2
    viewport = ⟨⟨1, 12, 6⟩, ⟨2, 7, 50⟩⟩ ∧
      viewport.rows.Shows unevenRows 36 240 2 ∧
      viewport.columns.Shows (.uniform 100) 250 400 2 ∧
      unevenRows.Coherent ∧ (Sizes.uniform (100 : ℚ)).Coherent := by
  refine ⟨by decide +kernel, ?_⟩
  exact window_shown_exactly ⟨by decide +kernel, by decide +kernel⟩
    ⟨by decide +kernel, by decide +kernel⟩ (by decide +kernel) (by decide +kernel)
    ⟨250, 36⟩ ⟨400, 240⟩
    ⟨by decide +kernel, by decide +kernel, by decide +kernel⟩
    ⟨by decide +kernel, by decide +kernel, by decide +kernel⟩ 2 (by decide +kernel)
    (by decide +kernel)

end Viewport

end EnsembleDesk
