import EnsembleDesk.Density.Plot
import EnsembleDesk.Text.Bytes
/-!
# Pictures of plots

A plot is written as a standalone SVG document, which Markdown can hold as a data URL. Coordinates
have two places; labels are short: three places without trailing zeros, or two digits and an
exponent for numbers too large or too small.
-/

namespace EnsembleDesk

/-- Drops trailing zeros, and a point that is left at the end. -/
def dropTrailingZeros (text : String) : String :=
  let reversed := text.toList.reverse.dropWhile (· == '0')
  let reversed := match reversed with
    | '.' :: rest => rest
    | reversed => reversed
  String.ofList reversed.reverse

/-- Zero without its sign. -/
def unsignedZero (text : String) : String :=
  if text = "-0" then "0" else text

/-- A number as the label of an axis. -/
def tickText (x : Float) : String :=
  let size := x.abs
  let number := Binary64.ofFloat x
  if size != 0.0 && !(1e-3 ≤ size && size < 1e4) then number.scientific 1
  else unsignedZero (dropTrailingZeros (number.fixed 3))

/-- A coordinate, with two places. -/
def coordinateText (x : Float) : String := (Binary64.ofFloat x).fixed 2

/-- The colours of a picture. -/
structure Palette where
  /-- The background. -/
  background : String
  /-- The axes. -/
  axis : String
  /-- Curves, stems and markers. -/
  curve : String
  /-- Labels. -/
  text : String

/-- The colours of a theme. -/
def PlotTheme.palette : PlotTheme → Palette
  | light => ⟨"#ffffff", "#616161", "#0066b8", "#333333"⟩
  | dark => ⟨"#1e1e1e", "#9d9d9d", "#4fc1ff", "#cccccc"⟩

namespace Svg

/-- An attribute of an element. -/
def field (name value : String) : String := " " ++ name ++ "=\"" ++ value ++ "\""

/-- The opening of an element. -/
def opening (name : String) (attributes : List (String × String)) : String :=
  "<" ++ name ++ String.join (attributes.map fun (n, v) => field n v)

/-- An element without content, on a line of its own. -/
def element (name : String) (attributes : List (String × String)) : String :=
  opening name attributes ++ "/>\n"

/-- A label, on a line of its own. -/
def label (x y : Float) (anchor fill text : String) : String :=
  opening "text" [("x", coordinateText x), ("y", coordinateText y), ("font-size", "10"),
    ("font-family", "sans-serif"), ("text-anchor", anchor), ("fill", fill)] ++
  ">" ++ text ++ "</text>\n"

/-- A path through places. -/
def path (places : List (Float × Float)) : String :=
  String.join (places.zipIdx.map fun ((x, y), i) =>
    (if i = 0 then "M" else "L") ++ coordinateText x ++ "," ++ coordinateText y)

/-- A shape in a colour. -/
def shape (color : String) : Shape Float → String
  | .path places =>
    element "path" [("d", path places), ("fill", "none"), ("stroke", color),
      ("stroke-width", "2")]
  | .line start stop =>
    element "line" [("x1", coordinateText start.1), ("y1", coordinateText start.2),
      ("x2", coordinateText stop.1), ("y2", coordinateText stop.2), ("stroke", color),
      ("stroke-width", "2")]
  | .marker center =>
    element "circle" [("cx", coordinateText center.1), ("cy", coordinateText center.2), ("r", "3"),
      ("fill", color)]

end Svg

open Svg in
/-- The SVG document of a plot. -/
def Plot.svg (plot : Plot Float) (options : PlotOptions) : String :=
  let palette := options.theme.palette
  let frame := plot.frame
  let width := natText options.width
  let height := natText options.height
  let below := frame.bottom + 15.0
  let ((x₀, first), (x₁, last)) := plot.ends
  opening "svg" [("xmlns", "http://www.w3.org/2000/svg"), ("width", width), ("height", height),
    ("viewBox", "0 0 " ++ width ++ " " ++ height)] ++ ">\n" ++
  element "rect" [("width", "100%"), ("height", "100%"), ("fill", palette.background)] ++
  element "path" [("d", "M" ++ coordinateText frame.left ++ "," ++ coordinateText frame.top ++
      "V" ++ coordinateText frame.bottom ++ "H" ++ coordinateText frame.right),
    ("fill", "none"), ("stroke", palette.axis), ("stroke-width", "1")] ++
  String.join (plot.shapes.map (shape palette.curve)) ++
  label x₀ below "start" palette.text (tickText first) ++
  label x₁ below "end" palette.text (tickText last) ++
  label (frame.left - 4.0) (frame.top + 8.0) "end" palette.text (tickText plot.top) ++
  "</svg>"

namespace Preview

/-- The SVG document of a preview. -/
def svg (preview : Preview Float) (options : PlotOptions) : String :=
  (preview.plot options).svg options

end Preview

/-- A data URL that holds an SVG document. -/
def svgDataUrl (svg : String) : String :=
  "data:image/svg+xml;base64," ++ base64 svg

/-- A Markdown image of a preview. -/
def Preview.image (preview : Preview Float) (options : PlotOptions) : String :=
  "![" ++ preview.keyword ++ " density](" ++ svgDataUrl (preview.svg options) ++ ")"

end EnsembleDesk
