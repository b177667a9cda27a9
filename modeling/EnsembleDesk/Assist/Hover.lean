import EnsembleDesk.Assist.Completion
import EnsembleDesk.Density.Picture
/-!
# Hovers

What is shown when the pointer rests on a line: the documentation of the keyword under it, or, on a
line that defines a prior, the plot of its density with its moments.
-/

namespace EnsembleDesk

/-- Blocks of Markdown about a part of a line. -/
structure Hover where
  /-- The part of the line. -/
  range : LineRange
  /-- The blocks. -/
  contents : List String
deriving DecidableEq

/-- A block of text as it is. -/
def codeBlock (text : String) : String := "```\n" ++ text ++ "\n```"

/-- The documentation of the keyword at a cursor. -/
def keywordHover (language : Language) (line : Nat) (text : List Char) (column : Nat) :
    Option Hover := do
  let word ← wordAt? text column
  let keyword ← language.keyword? (String.ofList word.text)
  some ⟨⟨line, word.start, word.stop⟩, [keyword.documentation, codeBlock keyword.usageLine]⟩

/-- How many places show a number of the given rank with six significant digits, ten at most. -/
def significantPlaces (rank : Nat) : Nat :=
  if rank = 0 then 10
  else
    let (num, den) := Binary64.magnitude rank
    (5 - max (Decimal.quotientLog10 num den) (-5)).toNat

/-- A moment of a distribution: six significant digits without trailing zeros, with an exponent
when the number is too large or too small for that. -/
def momentText (x : Float) : String :=
  match Binary64.ofFloat x with
  | .nan => Binary64.nan.plain
  | number@(.signed _ rank) =>
    let size := x.abs
    if !number.isFinite then number.plain
    else if size != 0.0 && !(1e-4 ≤ size && size < 1e6) then number.scientific 5
    else
      let text := number.fixed (significantPlaces rank.val)
      unsignedZero (if text.toList.contains '.' then dropTrailingZeros text else text)

/-- The moments of a distribution as a list. -/
def momentList (d : Distribution Float) : String :=
  "- mean: " ++ momentText d.mean ++ "\n- median: " ++ momentText d.median ++
    "\n- mode: " ++ momentText d.mode ++ "\n- std: " ++ momentText d.std

/-- The plot and the moments of the prior that a line defines, while the cursor is between the first
and the last token that carries meaning. A line that has no preview for an error has no hover. -/
def priorHover (line : Nat) (text : String) (column : Nat) (options : PlotOptions) :
    Except (Failure Empty) (Option Hover) :=
  let tokens := Language.dist.tokensOf line text
  let significant := tokens.filter Token.significant
  match significant.head?, significant.getLast? with
  | some first, some last =>
    if column < first.start ∨ last.stop < column then .ok none
    else (Failure.caught (previewOfTokens tokens)).map fun found => do
      let preview ← found
      let prior ← PriorLine.ofTokens? tokens
      some ⟨⟨line, first.start, last.stop⟩,
        [codeBlock prior.keyword.usageLine, preview.image options,
          momentList preview.distribution]⟩
  | _, _ => .ok none

/-- The hover at a cursor: the prior of a line that has one, the keyword otherwise. -/
def hover (language : Language) (line : Nat) (text : String) (column : Nat)
    (options : PlotOptions) : Except (Failure Empty) (Option Hover) :=
  match language with
  | .ert => .ok (keywordHover .ert line text.toList column)
  | .dist => (priorHover line text column options).map fun prior =>
    prior.or (keywordHover .dist line text.toList column)

end EnsembleDesk
