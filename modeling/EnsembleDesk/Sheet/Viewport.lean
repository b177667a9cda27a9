import EnsembleDesk.Sheet.Sizes
/-!
# The visible part of a sheet

Only the lines that can be seen, and a few more, are shown. `Viewport.compute` finds them from the
scroll position and the size of the window; `Extent` is how far the sheet can be scrolled, which
grows while the user scrolls towards its end.
-/

namespace EnsembleDesk

open Scalar

variable {α : Type} [Scalar α]

/-- The lines along one axis that are shown. -/
structure Window (α : Type) where
  /-- The first line. -/
  first : Index
  /-- The number of lines. -/
  count : Nat
  /-- How far the window begins behind the beginning of the first line. -/
  into : α
deriving DecidableEq

namespace Window

/-- The lines that a window of a length at a scroll position shows, and `overscan` more. The sum is
a natural number; in 32 bits, in which it is not checked, it is the same only up to the last
index. -/
def compute (sizes : Sizes α) (scroll length : α) (overscan : Nat) : Window α :=
  let (first, into) := sizes.indexAt scroll
  ⟨first, sizes.countToFill first (length + into) + overscan, into⟩

/-- The line after the last one. -/
def stop (window : Window α) : Index := window.first.plus window.count

/-- The window without the lines from `limit` on. -/
def within (window : Window α) (limit : Index) : Window α :=
  { window with count := min window.count (limit.val - window.first.val) }

end Window

/-- A pair of numbers, one for each axis. -/
structure Pair (α : Type) where
  /-- Along the columns. -/
  left : α
  /-- Along the rows. -/
  top : α
deriving DecidableEq, Inhabited

/-- The part of a sheet that is shown. -/
structure Viewport (α : Type) where
  /-- The rows. -/
  rows : Window α
  /-- The columns. -/
  columns : Window α
deriving DecidableEq

namespace Viewport

/-- The part of a sheet that a window of the given size at a scroll position shows. -/
def compute (scroll client : Pair α) (columns rows : Sizes α) (overscan : Nat) : Viewport α :=
  ⟨.compute rows scroll.top client.top overscan,
    .compute columns scroll.left client.left overscan⟩

end Viewport

/-- What the host reports when the user has scrolled. -/
structure ScrollEvent (α : Type) where
  /-- The scroll position. -/
  scroll : Pair α
  /-- The size of what is scrolled. -/
  content : Pair α
  /-- The size of the window. -/
  client : Pair α
deriving DecidableEq

/-- How far a sheet can be scrolled. -/
structure Extent (α : Type) where
  /-- The number of rows. -/
  rows : Index
  /-- The number of columns. -/
  columns : Index
  /-- The part of the way to the end at which the sheet grows. -/
  threshold : α
  /-- The scroll position of the last event. -/
  lastScroll : Pair α
deriving DecidableEq

namespace Extent

/-- An extent before the first event. -/
def start (rows columns : Index) (threshold : α) : Extent α :=
  ⟨rows, columns, threshold, ⟨0.0, 0.0⟩⟩

/-- The extent with at least a number of rows and columns. -/
def ensure (extent : Extent α) (rows columns : Index) : Extent α :=
  { extent with rows := extent.rows.later rows, columns := extent.columns.later columns }

/-- The extent with a range of cells inside. -/
def ensureCell (extent : Extent α) (a : Address) : Extent α :=
  extent.ensure a.row.next a.column.next

/-- Whether an event that scrolls from `last` to `scroll` comes close enough to the end for the
sheet to grow. -/
def grows (threshold last scroll content client : α) : Bool :=
  last < scroll && threshold * larger (content - client) 0.0 ≤ scroll

/-- Whether the rows grow at an event. -/
def rowsGrow (extent : Extent α) (event : ScrollEvent α) : Bool :=
  grows extent.threshold extent.lastScroll.top event.scroll.top event.content.top event.client.top

/-- Whether the columns grow at an event. -/
def columnsGrow (extent : Extent α) (event : ScrollEvent α) : Bool :=
  grows extent.threshold extent.lastScroll.left event.scroll.left event.content.left
    event.client.left

/-- The extent after an event: each axis grows by one line at most. -/
def afterScroll (extent : Extent α) (event : ScrollEvent α) : Extent α :=
  { extent with
    rows := if extent.rowsGrow event then extent.rows.next else extent.rows
    columns := if extent.columnsGrow event then extent.columns.next else extent.columns
    lastScroll := event.scroll }

end Extent

end EnsembleDesk
