import EnsembleDesk.Book.DelimitedFile
import EnsembleDesk.Book.JsonFile
import EnsembleDesk.Text.Lines
/-!
# File formats

A path names a file by the names on the way to it, with slashes between them. Paths that are spelled
differently may name the same file: repeated slashes, a slash at the end and dots that stand for the
directory itself do not count (`filePlace`).

The format of a workbook's file follows from the extension of its path: JSON, text delimited by
tabs, and text delimited by commas for every other extension.
-/

namespace EnsembleDesk

/-! ### File paths -/

/-- The place a path leads to: whether it starts at the root, and the names on the way. A dot that
begins a path is kept. -/
structure FilePlace where
  /-- Whether the way starts at the root. -/
  absolute : Bool
  /-- The names on the way. -/
  names : List (List Char)
deriving DecidableEq

/-- The place a path leads to. -/
def filePlace (path : List Char) : FilePlace :=
  let names := splitAtChar '/' path
  let onTheWay := names.filter fun name => !(name.isEmpty || name == ['.'])
  if path.head? = some '/' then ⟨true, onTheWay⟩
  else if names.head? = some ['.'] then ⟨false, ['.'] :: onTheWay⟩
  else ⟨false, onTheWay⟩

/-- The name of the file a path leads to; none if the path ends in dots that lead elsewhere. -/
def fileName? (path : List Char) : Option (List Char) :=
  (filePlace path).names.getLast?.filter fun name => name != ['.'] && name != ['.', '.']

/-- What follows the last dot of a file's name, if there is a name before it. -/
def extension? (path : List Char) : Option (List Char) := do
  let name ← fileName? path
  let reversed := name.reverse
  let stem := (reversed.dropWhile (· != '.')).drop 1
  if stem.isEmpty then none else some (reversed.takeWhile (· != '.')).reverse

/-! ### Formats -/

/-- The format of a file. -/
inductive BookFormat where
  /-- A JSON document. -/
  | json
  /-- Text with a delimiter. -/
  | delimited (delimiter : UInt8)
deriving DecidableEq

namespace BookFormat

/-- The comma. -/
def comma : UInt8 := 0x2C

/-- The tab. -/
def tab : UInt8 := 0x09

/-- The format of the file at a path. -/
def ofPath (path : String) : BookFormat :=
  match (extension? path.toList).map fun name => String.ofList (name.map Char.toLower) with
  | some "json" => json
  | some "tsv" => delimited tab
  | _ => delimited comma

/-- Reads a workbook. -/
def read : BookFormat → List UInt8 → Except GridError Workbook
  | json, bytes => JsonFile.read bytes
  | delimited delimiter, bytes => DelimitedFile.read delimiter bytes

/-- Writes a workbook. -/
def write : BookFormat → Workbook → List UInt8
  | json, book => JsonFile.write book
  | delimited delimiter, book => DelimitedFile.write delimiter book

end BookFormat

end EnsembleDesk
