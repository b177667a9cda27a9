import EnsembleDesk.Json.Basic
import EnsembleDesk.Number.Decimal
import EnsembleDesk.Sheet.Date
import EnsembleDesk.Sheet.Problem
import EnsembleDesk.Text.Lines
/-!
# Cell values

A cell holds a text, a number, a truth value or a date. `CellValue.ofInput` says what typed or
pasted text means, `CellValue.display` what is shown for a value; what is shown means the same value
again when it is typed, unless it is a text that looks like a value of another kind.
-/

namespace EnsembleDesk

/-- The value of a cell. -/
inductive CellValue where
  | text (text : String)
  | number (number : Binary64)
  | boolean (value : Bool)
  | date (date : DateTime)
deriving DecidableEq

/-- The kind of a cell's value. -/
inductive CellType where
  | text
  | number
  | boolean
  | date
deriving DecidableEq

namespace CellType

/-- The tag of a kind in files. -/
def tag : CellType → String
  | text => "s"
  | number => "n"
  | boolean => "b"
  | date => "d"

/-- The kind of a tag. -/
def ofTag? (tag : String) : Option CellType :=
  [text, number, boolean, date].find? fun type => type.tag == tag

end CellType

namespace CellValue

/-- The kind of a value. -/
def type : CellValue → CellType
  | text _ => .text
  | number _ => .number
  | boolean _ => .boolean
  | date _ => .date

/-- Whether two values are equal as values: numbers are compared numerically. -/
def same : CellValue → CellValue → Bool
  | text s, text t => s == t
  | number x, number y => x.numericEq y
  | boolean a, boolean b => a == b
  | date d, date e => d == e
  | _, _ => false

/-- Whether two cells are both empty or have equal values. -/
def sameCell : Option CellValue → Option CellValue → Bool
  | none, none => true
  | some v, some w => v.same w
  | _, _ => false

/-- A number that a cell can hold. -/
def ofNumber (x : Binary64) : Except GridError CellValue :=
  if x.isFinite then .ok (number x) else .error (.notFinite x)

/-- The value of a JSON value: nothing is converted, and only simple values are taken. -/
def ofJson : Json → Except GridError CellValue
  | .string s => .ok (text s)
  | .number n => ofNumber n.toBinary64
  | .bool b => .ok (boolean b)
  | .null => .error (.unsupportedValue .null)
  | .array _ => .error (.unsupportedValue .array)
  | .object _ => .error (.unsupportedValue .object)

/-- What typed or pasted text means. Blanks around a number, a truth value or a date do not count; a
text keeps them. Nothing but blanks means an empty cell. -/
def ofInput (input : List Char) : Option CellValue :=
  let trimmed := trimBlanks input
  if trimmed.isEmpty then none
  else match Binary64.readFinite? trimmed with
    | some x => some (number x)
    | none =>
      if trimmed = "TRUE".toList then some (boolean true)
      else if trimmed = "FALSE".toList then some (boolean false)
      else match DateTime.read? trimmed with
        | some d => some (date d)
        | none => some (text (String.ofList input))

/-- What is shown for a value. -/
def display : CellValue → String
  | text s => s
  | number x => x.plain
  | boolean true => "TRUE"
  | boolean false => "FALSE"
  | date d => d.text

/-- What is shown for a cell; nothing if it is empty. -/
def displayCell (cell : Option CellValue) : String :=
  (cell.map display).getD ""

end CellValue

end EnsembleDesk
