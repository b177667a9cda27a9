import EnsembleDesk.Pattern.Written
import EnsembleDesk.Text.CharClass
/-!
# The text of escapes and bracketed sets

The readers take the rest of the text and give back what they read with what is left of it.
-/

namespace EnsembleDesk

/-! ### Escapes -/

/-- A character, as itself or escaped, or an escaped class. -/
inductive WrittenUnit where
  | char (c : Char)
  | named (negated : Bool) (name : CharClass)
deriving DecidableEq, Inhabited

namespace WrittenUnit

/-- The code points that a unit stands for. -/
def codePoints : WrittenUnit → CodePoints
  | char c => .range c.toNat c.toNat
  | named negated name => (CharItem.named negated name).codePoints

/-- The unit that an escaped character stands for by itself. -/
def escaped? (c : Char) : Option WrittenUnit :=
  if c = 's' then some (named false .blank)
  else if c = 'S' then some (named true .blank)
  else if c = 'd' then some (named false .digit)
  else if c = 'D' then some (named true .digit)
  else if c = 'w' then some (named false .word)
  else if c = 'W' then some (named true .word)
  else if c = 'n' then some (char '\n')
  else if c = 't' then some (char '\t')
  else if c = 'r' then some (char '\r')
  else if c = 'f' then some (char '\x0c')
  else if c = 'v' then some (char '\x0b')
  else if c = 'a' then some (char '\x07')
  else if c.toNat < 0x80 && !c.isAlphanum && c != '<' && c != '>' then some (char c)
  else none

/-- The number of hexadecimal digits after an escaped letter, unless they stand in braces. -/
def hexLength? (c : Char) : Option Nat :=
  if c = 'x' then some 2 else if c = 'u' then some 4 else if c = 'U' then some 8 else none

/-- The character with a code point in hexadecimal digits. -/
def ofHex? (digits : List Char) : Option WrittenUnit := do
  let n ← hexNumber? digits
  if n.isValidChar then some (char (Char.ofNat n)) else none

/-- Reads a code point in hexadecimal digits, as many as `length` or any number of them in
braces. -/
def readHex? (length : Nat) (text : List Char) : Option (WrittenUnit × List Char) :=
  match text with
  | '\x7b' :: text =>
    match text.dropWhile (· != '\x7d') with
    | [] => none
    | _ :: rest => (ofHex? (text.takeWhile (· != '\x7d'))).map (·, rest)
  | text =>
    if text.length < length then none
    else (ofHex? (text.take length)).map (·, text.drop length)

/-- Reads what follows a backslash. -/
def readEscape? : List Char → Option (WrittenUnit × List Char)
  | [] => none
  | c :: rest =>
    match hexLength? c with
    | some length => readHex? length rest
    | none => (escaped? c).map (·, rest)

/-- Reads a unit between brackets. -/
def read? : List Char → Option (WrittenUnit × List Char)
  | [] => none
  | '\\' :: rest => readEscape? rest
  | c :: rest => some (char c, rest)

end WrittenUnit

/-! ### Bracketed sets -/

namespace WrittenSet

/-- The ranges of the classes of ASCII characters that have names. -/
def asciiRanges? (name : String) : Option (List (Nat × Nat)) :=
  [("alnum", [(0x30, 0x39), (0x41, 0x5A), (0x61, 0x7A)]),
    ("alpha", [(0x41, 0x5A), (0x61, 0x7A)]),
    ("ascii", [(0x0, 0x7F)]),
    ("blank", [(0x9, 0x9), (0x20, 0x20)]),
    ("cntrl", [(0x0, 0x1F), (0x7F, 0x7F)]),
    ("digit", [(0x30, 0x39)]),
    ("graph", [(0x21, 0x7E)]),
    ("lower", [(0x61, 0x7A)]),
    ("print", [(0x20, 0x7E)]),
    ("punct", [(0x21, 0x2F), (0x3A, 0x40), (0x5B, 0x60), (0x7B, 0x7E)]),
    ("space", [(0x9, 0xD), (0x20, 0x20)]),
    ("upper", [(0x41, 0x5A)]),
    ("word", [(0x30, 0x39), (0x41, 0x5A), (0x5F, 0x5F), (0x61, 0x7A)]),
    ("xdigit", [(0x30, 0x39), (0x41, 0x46), (0x61, 0x66)])].lookup name

/-- Reads a `^` that makes a set hold what is outside of it. -/
def readNegation : List Char → Bool × List Char
  | '^' :: rest => (true, rest)
  | text => (false, text)

/-- Reads the class of ASCII characters that `[:name:]` stands for, after its opening bracket. -/
def readAscii? : List Char → Option (WrittenSet × List Char)
  | ':' :: text =>
    let (negated, text) := readNegation text
    match text.dropWhile (· != ':') with
    | ':' :: ']' :: rest =>
      (asciiRanges? (String.ofList (text.takeWhile (· != ':')))).map fun ranges =>
        let points := CodePoints.ofRanges ranges
        (item (if negated then points.complement else points), rest)
    | _ => none
  | _ => none

/-- A character as an item. -/
def ofChar (c : Char) : WrittenSet := item (.range c.toNat c.toNat)

/-- Reads what is special behind an opening bracket: a negation, hyphens that stand for themselves
or, if there are none, a closing bracket that does. Gives whether the set is negated and the items
read. -/
def readOpening (text : List Char) : Bool × List WrittenSet × List Char :=
  let (negated, text) := readNegation text
  match text.takeWhile (· == '-'), text.dropWhile (· == '-') with
  | [], ']' :: rest => (negated, [ofChar ']'], rest)
  | hyphens, rest => (negated, hyphens.map ofChar, rest)

/-- Reads a unit or a range. A hyphen before a closing bracket or another hyphen is not the sign of
a range. -/
def readItem? (text : List Char) : Option (WrittenSet × List Char) := do
  let (first, rest) ← WrittenUnit.read? text
  match rest with
  | '-' :: ']' :: _ | '-' :: '-' :: _ => some (item first.codePoints, rest)
  | '-' :: rest =>
    let (last, rest) ← WrittenUnit.read? rest
    match first, last with
    | .char first, .char last =>
      if first ≤ last then some (item (.range first.toNat last.toNat), rest) else none
    | _, _ => none
  | _ => some (item first.codePoints, rest)

/-- Reads an operator. -/
def readOperator? : List Char → Option (SetOperator × List Char)
  | '&' :: '&' :: rest => some (.intersection, rest)
  | '-' :: '-' :: rest => some (.difference, rest)
  | '~' :: '~' :: rest => some (.symmetricDifference, rest)
  | _ => none

/-- The set of what was read so far: the left side with its operator, if there was one, and the
items behind it, the last one first. -/
def close (left : Option (SetOperator × WrittenSet)) (items : List WrittenSet) : WrittenSet :=
  match left with
  | none => union items.reverse
  | some (operator, left) => combined operator left (union items.reverse)

/-- Reads the inside of a bracketed set and its closing bracket; `left` and `items` are what was
read of it. All operators bind alike, from the left. Every step takes at least one character, so a
bound above the text's length is never reached. -/
def readInside? :
    Nat → Option (SetOperator × WrittenSet) → List WrittenSet → List Char →
      Option (WrittenSet × List Char)
  | 0, _, _, _ => none
  | _ + 1, _, _, [] => none
  | _ + 1, left, items, ']' :: rest => some (close left items, rest)
  | bound + 1, left, items, '[' :: rest =>
    match readAscii? rest with
    | some (set, rest) => readInside? bound left (set :: items) rest
    | none => do
      let (negated, first, rest) := readOpening rest
      let (inside, rest) ← readInside? bound none first.reverse rest
      readInside? bound left (bracketed negated inside :: items) rest
  | bound + 1, left, items, text =>
    match readOperator? text with
    | some (operator, rest) => readInside? bound (some (operator, close left items)) [] rest
    | none => do
      let (set, rest) ← readItem? text
      readInside? bound left (set :: items) rest

/-- Reads a bracketed set after its opening bracket. -/
def readBracketed? (text : List Char) : Option (WrittenPattern × List Char) := do
  let (negated, first, rest) := readOpening text
  let (inside, rest) ← readInside? (text.length + 1) none first.reverse rest
  some (.bracketed negated inside, rest)

end WrittenSet

end EnsembleDesk
