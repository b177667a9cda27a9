import EnsembleDesk.Json.Basic
import EnsembleDesk.Json.Written
/-!
# Reading JSON

`WrittenJson.value?` is the value that a document means, all of it: no half of a surrogate pair, no
number beyond the range of binary64, and a bounded number of arrays and objects in one another.
`Json.read?` reads a document for its value, with at most 127 arrays and objects around a part.
-/

namespace EnsembleDesk

namespace WrittenChar

/-- The character that is written without hexadecimal digits. -/
def plain? : WrittenChar → Option Char
  | char c => some c
  | unit _ => none

/-- Whether a code unit is the first half of a surrogate pair. -/
def isHighSurrogate (unit : Nat) : Bool := 0xD800 ≤ unit && unit < 0xDC00

/-- Whether a code unit is the second half of a surrogate pair. -/
def isLowSurrogate (unit : Nat) : Bool := 0xDC00 ≤ unit && unit < 0xE000

/-- The character of a surrogate pair. -/
def ofSurrogates (high low : Nat) : Char :=
  Char.ofNat (0x10000 + (high - 0xD800) * 0x400 + (low - 0xDC00))

/-- The characters that are meant; none if half of a surrogate pair stands alone. -/
def chars? : List WrittenChar → Option (List Char)
  | [] => some []
  | char c :: rest => (chars? rest).map (c :: ·)
  | unit high :: unit low :: rest =>
    if isHighSurrogate high then
      if isLowSurrogate low then (chars? rest).map (ofSurrogates high low :: ·) else none
    else if isLowSurrogate high then none
    else (chars? (unit low :: rest)).map (Char.ofNat high :: ·)
  | unit n :: rest =>
    if isHighSurrogate n || isLowSurrogate n then none
    else (chars? rest).map (Char.ofNat n :: ·)

/-- The text that is meant. -/
def text? (written : List WrittenChar) : Option String :=
  (chars? written).map String.ofList

end WrittenChar

namespace WrittenJson

mutual

/-- The value that is meant, with at most `depth` arrays and objects in one another. -/
def value? (depth : Nat) : WrittenJson → Option Json
  | null => some .null
  | bool b => some (.bool b)
  | number n => n.value?.map .number
  | string s => (WrittenChar.text? s).map .string
  | array items =>
    if depth = 0 then none else (itemValues? (depth - 1) items).map .array
  | object members =>
    if depth = 0 then none else (memberValues? (depth - 1) members).map .object

/-- The values of the items of an array. -/
def itemValues? (depth : Nat) : List WrittenJson → Option (List Json)
  | [] => some []
  | item :: rest => do
    let item ← value? depth item
    let rest ← itemValues? depth rest
    some (item :: rest)

/-- The keys and values of the members of an object. -/
def memberValues? (depth : Nat) :
    List (List WrittenChar × WrittenJson) → Option (List (String × Json))
  | [] => some []
  | (key, value) :: rest => do
    let key ← WrittenChar.text? key
    let value ← value? depth value
    let rest ← memberValues? depth rest
    some ((key, value) :: rest)

end

/-- The text of a string. -/
def string? : WrittenJson → Option String
  | string s => WrittenChar.text? s
  | _ => none

/-- A number, integers included, as a binary64 number. -/
def binary64? : WrittenJson → Option Binary64
  | number n => n.value?.map JsonNumber.toBinary64
  | _ => none

/-- An index or count: an integer that fits 32 bits without a sign. -/
def word? : WrittenJson → Option (Fin 4294967296)
  | number n => n.value?.bind JsonNumber.word?
  | _ => none

/-- Null, or a value that is read. -/
def orNull? {α : Type} (read? : WrittenJson → Option α) : WrittenJson → Option (Option α)
  | null => some none
  | value => (read? value).map some

end WrittenJson

namespace Json

/-- Reads a whole document for its value. -/
def read? (text : String) : Option Json :=
  (WrittenJson.read? text).bind (WrittenJson.value? 127)

end Json

end EnsembleDesk
