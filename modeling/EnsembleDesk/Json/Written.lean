import EnsembleDesk.Json.Number
import EnsembleDesk.Text.CharClass
/-!
# JSON as it is written

`WrittenJson` is the syntax tree of a JSON document: what the grammar of JSON tells apart, before
numbers and strings get their meaning. `WrittenJson.read?` reads one document, a value with nothing
but space around it. It is strict about the grammar: no comments, no trailing commas, no control
characters in strings, no zero in front of a number.

A document may be well written and still hold a number beyond every range or half of a surrogate
pair. That is found when the value is asked for, so that a part that nobody asks for does no harm.

The readers take the rest of the text and give back what they read with what is left of it.
-/

namespace EnsembleDesk

/-- A character of a string as it is written. -/
inductive WrittenChar where
  /-- A character that is written as itself or by the name of its escape. -/
  | char (value : Char)
  /-- A code unit of UTF-16, written in hexadecimal digits. -/
  | unit (value : Nat)
deriving DecidableEq, Inhabited

/-- A JSON value as it is written. -/
inductive WrittenJson where
  | null
  | bool (value : Bool)
  | number (value : WrittenNumber)
  | string (value : List WrittenChar)
  | array (items : List WrittenJson)
  | object (members : List (List WrittenChar × WrittenJson))
deriving Inhabited

namespace WrittenJson

/-- The space allowed between the parts of a document. -/
def isSpace (c : Char) : Bool :=
  c == ' ' || c == '\n' || c == '\t' || c == '\r'

/-- Drops leading space. -/
def skipSpace (text : List Char) : List Char :=
  text.dropWhile isSpace

/-! ### Strings -/

/-- Reads four hexadecimal digits. -/
def readHex? : List Char → Option (Nat × List Char)
  | a :: b :: c :: d :: rest => (hexNumber? [a, b, c, d]).map (·, rest)
  | _ => none

/-- Reads what follows a backslash. -/
def readEscape? : List Char → Option (WrittenChar × List Char)
  | '"' :: rest => some (.char '"', rest)
  | '\\' :: rest => some (.char '\\', rest)
  | '/' :: rest => some (.char '/', rest)
  | 'b' :: rest => some (.char '\x08', rest)
  | 'f' :: rest => some (.char '\x0c', rest)
  | 'n' :: rest => some (.char '\n', rest)
  | 'r' :: rest => some (.char '\r', rest)
  | 't' :: rest => some (.char '\t', rest)
  | 'u' :: rest => (readHex? rest).map fun (unit, rest) => (.unit unit, rest)
  | _ => none

/-- Reads the characters of a string up to and with its closing quote. Every step takes at least
one character, so a bound above the text's length is never reached. -/
def readChars? : Nat → List Char → Option (List WrittenChar × List Char)
  | 0, _ => none
  | _ + 1, [] => none
  | bound + 1, c :: rest =>
    if c = '"' then some ([], rest)
    else if c = '\\' then do
      let (c, rest) ← readEscape? rest
      let (chars, rest) ← readChars? bound rest
      some (c :: chars, rest)
    else if c.toNat < 0x20 then none
    else do
      let (chars, rest) ← readChars? bound rest
      some (.char c :: chars, rest)

/-- Reads a string after its opening quote. -/
def readString? (text : List Char) : Option (List WrittenChar × List Char) :=
  readChars? (text.length + 1) text

/-! ### Numbers -/

/-- Reads the digits of the integer part: no zero before another digit. -/
def readWhole? (text : List Char) : Option (List Char × List Char) :=
  let digits := text.takeWhile Char.isDigit
  let rest := text.dropWhile Char.isDigit
  match digits with
  | [] => none
  | '0' :: _ :: _ => none
  | digits => some (digits, rest)

/-- Reads a fraction if there is one; it has at least one digit. -/
def readFraction? : List Char → Option (List Char × List Char)
  | '.' :: text =>
    let digits := text.takeWhile Char.isDigit
    if digits.isEmpty then none else some (digits, text.dropWhile Char.isDigit)
  | text => some ([], text)

/-- Reads an exponent if there is one; it has at least one digit. -/
def readPower? : List Char → Option (Option Int × List Char)
  | c :: text =>
    if c = 'e' ∨ c = 'E' then
      let (negative, text) := Decimal.readSign text
      let digits := text.takeWhile Char.isDigit
      if digits.isEmpty then none
      else some (some (if negative then -(digitsValue digits : Int) else digitsValue digits),
        text.dropWhile Char.isDigit)
    else some (none, c :: text)
  | [] => some (none, [])

/-- Reads a number. -/
def readNumber? (text : List Char) : Option (WrittenNumber × List Char) := do
  let (negative, text) := match text with
    | '-' :: rest => (true, rest)
    | text => (false, text)
  let (whole, text) ← readWhole? text
  let (fraction, text) ← readFraction? text
  let (power, text) ← readPower? text
  some (⟨negative, whole, fraction, power⟩, text)

/-! ### Values -/

/-- Reads a value that is neither an array nor an object. -/
def readScalar? : List Char → Option (WrittenJson × List Char)
  | 'n' :: 'u' :: 'l' :: 'l' :: rest => some (null, rest)
  | 't' :: 'r' :: 'u' :: 'e' :: rest => some (bool true, rest)
  | 'f' :: 'a' :: 'l' :: 's' :: 'e' :: rest => some (bool false, rest)
  | '"' :: rest => (readString? rest).map fun (s, rest) => (string s, rest)
  | text => (readNumber? text).map fun (n, rest) => (number n, rest)

/-- Reads the key of a member and the colon after it. -/
def readKey? (text : List Char) : Option (List WrittenChar × List Char) :=
  match skipSpace text with
  | '"' :: rest => do
    let (key, rest) ← readString? rest
    match skipSpace rest with
    | ':' :: rest => some (key, rest)
    | _ => none
  | _ => none

mutual

/-- Reads a value. The bound falls at most twice for a character that is taken, so one above twice
the text's length is never reached. -/
def readValue? : Nat → List Char → Option (WrittenJson × List Char)
  | 0, _ => none
  | bound + 1, text =>
    match skipSpace text with
    | '[' :: rest =>
      match skipSpace rest with
      | ']' :: rest => some (array [], rest)
      | rest => (readItems? bound rest).map fun (items, rest) => (array items, rest)
    | '\x7b' :: rest =>
      match skipSpace rest with
      | '\x7d' :: rest => some (object [], rest)
      | rest => (readMembers? bound rest).map fun (members, rest) => (object members, rest)
    | text => readScalar? text

/-- Reads one or more items of an array up to and with its closing bracket. -/
def readItems? : Nat → List Char → Option (List WrittenJson × List Char)
  | 0, _ => none
  | bound + 1, text => do
    let (item, rest) ← readValue? bound text
    match skipSpace rest with
    | ']' :: rest => some ([item], rest)
    | ',' :: rest =>
      let (items, rest) ← readItems? bound rest
      some (item :: items, rest)
    | _ => none

/-- Reads one or more members of an object up to and with its closing brace. -/
def readMembers? : Nat → List Char → Option (List (List WrittenChar × WrittenJson) × List Char)
  | 0, _ => none
  | bound + 1, text => do
    let (key, rest) ← readKey? text
    let (value, rest) ← readValue? bound rest
    match skipSpace rest with
    | '\x7d' :: rest => some ([(key, value)], rest)
    | ',' :: rest =>
      let (members, rest) ← readMembers? bound rest
      some ((key, value) :: members, rest)
    | _ => none

end

/-- Reads a whole document. -/
def read? (text : String) : Option WrittenJson :=
  let chars := text.toList
  match readValue? (2 * chars.length + 1) chars with
  | some (value, rest) => if (skipSpace rest).isEmpty then some value else none
  | none => none

/-! ### Parts -/

/-- The members of an object. -/
def members? : WrittenJson → Option (List (List WrittenChar × WrittenJson))
  | object members => some members
  | _ => none

/-- The items of an array. -/
def items? : WrittenJson → Option (List WrittenJson)
  | array items => some items
  | _ => none

end WrittenJson

end EnsembleDesk
