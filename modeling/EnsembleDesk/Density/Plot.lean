import EnsembleDesk.Density.Preview
/-!
# Plots of densities

A plot is computed in two steps. `Preview.sample` evaluates the density at the points to be shown;
`Preview.plot` places the samples in a frame of the picture, as a curve or as stems with markers,
and `Plot.shapes` are the lines and markers that these are made of. All of this is exact geometry
over any numbers; writing it down is left to another module.
-/

namespace EnsembleDesk

/-- The colours of a plot. -/
inductive PlotTheme where
  | light
  | dark
deriving DecidableEq, Inhabited

/-- What the user can choose about a plot. -/
structure PlotOptions where
  /-- The width of the picture. -/
  width : Nat := 235
  /-- The height of the picture. -/
  height : Nat := 235
  /-- The colours. -/
  theme : PlotTheme := .light
  /-- How many samples a continuous density has; there are at least two. -/
  samples : Nat := 100
deriving DecidableEq, Inhabited

/-- The part of a picture in which a density is drawn, between the axes. -/
structure Frame (α : Type) where
  /-- The place of the vertical axis. -/
  left : α
  /-- The right end. -/
  right : α
  /-- The upper end. -/
  top : α
  /-- The place of the horizontal axis. -/
  bottom : α

/-- How samples are marked. -/
inductive Marks (α : Type) where
  /-- A line through all places. -/
  | curve (places : List (α × α))
  /-- For every place a line up from the horizontal axis, and a marker. -/
  | stems (places : List (α × α))

/-- One thing that is drawn. -/
inductive Shape (α : Type) where
  /-- A line through places. -/
  | path (places : List (α × α))
  /-- A line between two places. -/
  | line (start stop : α × α)
  /-- A marker around a place. -/
  | marker (center : α × α)

/-- What is drawn for marks, with the horizontal axis at `bottom`. -/
def Marks.shapes {α : Type} (bottom : α) : Marks α → List (Shape α)
  | curve places => [.path places]
  | stems places => places.flatMap fun place => [.line (place.1, bottom) place, .marker place]

/-- A density placed in a picture. -/
structure Plot (α : Type) where
  /-- The axes. -/
  frame : Frame α
  /-- The samples. -/
  marks : Marks α
  /-- The places of the labels of the range, with the numbers that label them. -/
  ends : (α × α) × (α × α)
  /-- The density at the top of the frame. -/
  top : α

/-- What is drawn for the samples. -/
def Plot.shapes {α : Type} (plot : Plot α) : List (Shape α) := plot.marks.shapes plot.frame.bottom

open Elementary Scalar

variable {α : Type} [Elementary α]

namespace Frame

/-- The frame of a picture: the margins leave room for the labels. A picture that is too small for
its margins has a frame of one unit. -/
def ofSize (width height : α) : Frame α :=
  ⟨36.0, larger (width - 12.0) (36.0 + 1.0), 10.0, larger (height - 22.0) (10.0 + 1.0)⟩

end Frame

/-- Maps an interval linearly onto another; an interval of one point goes to the middle. -/
def mapInterval (domain range : α × α) (x : α) : α :=
  if same domain.2 domain.1 then 0.5 * (range.1 + range.2)
  else range.1 + (x - domain.1) / (domain.2 - domain.1) * (range.2 - range.1)

namespace Preview

/-- The numbers at which a continuous density is evaluated: from one end of the range to the other
in equal steps. -/
def spread (scale : AxisScale) (domain : α × α) (samples : Nat) : List α :=
  let n := max samples 2
  let fraction (i : Nat) : α := (i : α) / ((n - 1 : Nat) : α)
  match scale with
  | .linear =>
    (List.range n).map fun i => domain.1 + fraction i * (domain.2 - domain.1)
  | .log =>
    let lo := log domain.1
    let hi := log domain.2
    (List.range n).map fun i => exp (lo + fraction i * (hi - lo))

/-- The samples of a density; those that are not finite are dropped. -/
def samplesOf (density : α → α) (preview : Preview α) (samples : Nat) : List (α × α) :=
  let xs := match preview.sampling with
    | .points points => points
    | .continuous => spread preview.scale preview.domain samples
  (xs.map fun x => (x, density x)).filter fun sample => isFinite sample.1 && isFinite sample.2

/-- The samples of the density of a preview. -/
def sample (preview : Preview α) (samples : Nat) : List (α × α) :=
  preview.samplesOf preview.distribution.pdf samples

/-- The place of a number along the horizontal axis. -/
def horizontal (preview : Preview α) (frame : Frame α) (x : α) : α :=
  match preview.scale with
  | .linear => mapInterval preview.domain (frame.left, frame.right) x
  | .log =>
    mapInterval (log preview.domain.1, log preview.domain.2) (frame.left, frame.right) (log x)

/-- The largest density among samples; one if none is positive. -/
def topOf (samples : List (α × α)) : α :=
  let top := samples.foldl (fun top sample => larger top sample.2) 0.0
  if 0.0 < top then top else 1.0

/-- The place of a sample in a frame at the top of which the density is `top`. -/
def place (preview : Preview α) (frame : Frame α) (top : α) (sample : α × α) : α × α :=
  (preview.horizontal frame sample.1,
    mapInterval (0.0, top) (frame.bottom, frame.top) sample.2)

/-- Places samples in a picture of the given size. -/
def plotOf (preview : Preview α) (samples : List (α × α)) (width height : α) : Plot α :=
  let frame := Frame.ofSize width height
  let top := topOf samples
  let places := samples.map (preview.place frame top)
  { frame
    marks := match preview.sampling with
      | .continuous => .curve places
      | .points _ => .stems places
    ends := ((preview.horizontal frame preview.domain.1, preview.domain.1),
      (preview.horizontal frame preview.domain.2, preview.domain.2))
    top }

/-- The plot of a preview. -/
def plot (preview : Preview α) (options : PlotOptions) : Plot α :=
  preview.plotOf (preview.sample options.samples) (options.width : α) (options.height : α)

end Preview

end EnsembleDesk
