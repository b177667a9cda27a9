import EnsembleDesk.Text.CharClass
import EnsembleDesk.Text.CodePoints
/-!
# Sets of characters in patterns

A `CharSet` is given by its parts, which are ranges and named classes, or by those of its
complement. `CharSet.ofCodePoints` gives sets with the same members the same parts, so that they can
be compared.
-/

namespace EnsembleDesk

/-- The named classes of characters in patterns. -/
inductive CharClass where
  /-- White space. -/
  | blank
  /-- Decimal digits. -/
  | digit
  /-- Characters of identifiers. -/
  | word
deriving DecidableEq, Inhabited

namespace CharClass

/-- Whether a character is in a named class. -/
def contains : CharClass → Char → Bool
  | blank => isBlank
  | digit => isPatternDigit
  | word => isIdentifierChar

/-- The code points of the characters in a named class. -/
def codePoints : CharClass → CodePoints
  | blank => .ofRanges blankRanges
  | digit => (CodePoints.ofRanges ((0x30, 0x39) :: decimalDigitRanges)).difference added
  | word =>
    (CodePoints.ofRanges ([(0x30, 0x39), (0x41, 0x5A), (0x5F, 0x5F), (0x61, 0x7A),
      (0x200C, 0x200D)] ++ connectorRanges ++ alphabeticRanges ++ markRanges ++
      decimalDigitRanges)).difference added
where
  /-- What the classes leave out. -/
  added : CodePoints := .ofRanges addedRanges

end CharClass

/-- A part of a set of characters. -/
inductive CharItem where
  /-- The characters from `first` to `last`. -/
  | range (first last : Char)
  /-- The characters of a class, or those outside of it. -/
  | named (negated : Bool) (name : CharClass)
deriving DecidableEq, Inhabited

namespace CharItem

/-- Whether a character is in a part of a set. -/
def contains : CharItem → Char → Bool
  | range first last, c => first ≤ c && c ≤ last
  | named negated name, c => name.contains c != negated

/-- The code points of a part of a set. -/
def codePoints : CharItem → CodePoints
  | range first last => .range first.toNat last.toNat
  | named false name => name.codePoints
  | named true name => name.codePoints.complement

end CharItem

/-- A set of characters, given by its parts or by those of its complement. -/
structure CharSet where
  /-- Whether the parts are what the set leaves out. -/
  negated : Bool
  /-- The parts. -/
  items : List CharItem
deriving DecidableEq, Inhabited

namespace CharSet

/-- Whether a character is in a set. -/
def contains (set : CharSet) (c : Char) : Bool :=
  set.items.any (·.contains c) != set.negated

/-- The set of one character. -/
def single (c : Char) : CharSet := ⟨false, [.range c c]⟩

/-- The set of the given characters. -/
def ofChars (chars : List Char) : CharSet := ⟨false, chars.map fun c => .range c c⟩

/-- The set of all but the given characters. -/
def allBut (chars : List Char) : CharSet := ⟨true, chars.map fun c => .range c c⟩

/-- The characters that are not white space. -/
def nonBlank : CharSet := ⟨false, [.named true .blank]⟩

/-- All characters but the line feed. -/
def inLine : CharSet := allBut ['\n']

/-- Whether a set has no parts that it could have members in. -/
def isEmpty (set : CharSet) : Bool := !set.negated && set.items.isEmpty

/-- The only character of a set that is written as one character. -/
def only? : CharSet → Option Char
  | ⟨false, [.range first last]⟩ => if first = last then some first else none
  | _ => none

/-- The code points of the characters in a set. -/
def codePoints (set : CharSet) : CodePoints :=
  let points := set.items.foldr (fun item points => item.codePoints.union points) .empty
  if set.negated then points.complement else points

/-- The set of the characters with given code points. -/
def ofCodePoints (points : CodePoints) : CharSet :=
  ⟨false, points.ranges.map fun range => .range (Char.ofNat range.1) (Char.ofNat range.2)⟩

end CharSet

end EnsembleDesk
