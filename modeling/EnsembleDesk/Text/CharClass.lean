import EnsembleDesk.Text.UnicodeTables
/-!
# Character classes

The classes of characters the editor tells apart, over all of Unicode. Core's predicates on `Char`
know ASCII only; these follow the tables of the standard.

Digits in base sixteen are a class of their own, whose letters may be of either case; `hexNumber?`
is the number that they write.
-/

namespace EnsembleDesk

/-- Whether a character lies in one of the ranges of a table. -/
def inRanges (ranges : List (Nat × Nat)) (c : Char) : Bool :=
  ranges.any fun range => range.1 ≤ c.toNat && c.toNat ≤ range.2

/-- The ranges of the Unicode property White_Space. -/
def blankRanges : List (Nat × Nat) :=
  [(0x9, 0xD), (0x20, 0x20), (0x85, 0x85), (0xA0, 0xA0), (0x1680, 0x1680), (0x2000, 0x200A),
   (0x2028, 0x2029), (0x202F, 0x202F), (0x205F, 0x205F), (0x3000, 0x3000)]

/-- White space: the Unicode property White_Space. -/
def isBlank (c : Char) : Bool := inRanges blankRanges c

/-- Letters: the Unicode property Alphabetic. -/
def isLetter (c : Char) : Bool :=
  if c.toNat < 0x80 then c.isAlpha else inRanges alphabeticRanges c

/-- Decimal digits of any script. -/
def isDecimalDigit (c : Char) : Bool :=
  if c.toNat < 0x80 then c.isDigit else inRanges decimalDigitRanges c

/-- The ranges of connecting punctuation beyond ASCII. -/
def connectorRanges : List (Nat × Nat) :=
  [(0x203F, 0x2040), (0x2054, 0x2054), (0xFE33, 0xFE34), (0xFE4D, 0xFE4F), (0xFF3F, 0xFF3F)]

/-- Connecting punctuation, such as the low line. -/
def isConnector (c : Char) : Bool :=
  c == '_' || inRanges connectorRanges c

/-- Letters, marks and digits that version 16 of the standard does not have. -/
def isAdded (c : Char) : Bool :=
  0x80 ≤ c.toNat && inRanges addedRanges c

/-- Decimal digits in a pattern. -/
def isPatternDigit (c : Char) : Bool := isDecimalDigit c && !isAdded c

/-- Characters of an identifier in a pattern: letters, marks, decimal digits, connecting
punctuation and the two join controls. -/
def isIdentifierChar (c : Char) : Bool :=
  (isLetter c || isDecimalDigit c || isConnector c ||
    (0x80 ≤ c.toNat && (inRanges markRanges c || c.toNat == 0x200C || c.toNat == 0x200D))) &&
    !isAdded c

/-- Characters of a word around the cursor: letters, digits and numerals of any script, and the
low line. -/
def isWordChar (c : Char) : Bool :=
  isLetter c || isDecimalDigit c || c == '_' || (0x80 ≤ c.toNat && inRanges numeralRanges c)

/-- Control characters. -/
def isControl (c : Char) : Bool :=
  c.toNat < 0x20 || (0x7F ≤ c.toNat && c.toNat < 0xA0)

/-- Between the space and the control characters behind ASCII there is no white space. -/
theorem isBlank_of_toNat {c : Char} (h : 0x20 < c.toNat) (h' : c.toNat < 0x85) :
    isBlank c = false := by
  rw [isBlank, inRanges, List.any_eq_false]
  intro range hrange
  simp only [blankRanges, List.mem_cons, List.not_mem_nil, or_false] at hrange
  simp only [Bool.and_eq_true, decide_eq_true_eq]
  rcases hrange with rfl | rfl | rfl | rfl | rfl | rfl | rfl | rfl | rfl | rfl <;>
    simp only [not_and, Nat.not_le] <;> omega

/-! ### Hexadecimal digits -/

/-- The value of a hexadecimal digit. -/
def hexValue? (c : Char) : Option Nat :=
  if c.isDigit then some (c.toNat - '0'.toNat)
  else if 'a' ≤ c ∧ c ≤ 'f' then some (c.toNat - 'a'.toNat + 10)
  else if 'A' ≤ c ∧ c ≤ 'F' then some (c.toNat - 'A'.toNat + 10)
  else none

/-- The number that hexadecimal digits stand for; none if there are no digits, or others. -/
def hexNumber? (digits : List Char) : Option Nat :=
  if digits.isEmpty then none
  else digits.foldlM (fun n c => (hexValue? c).map (n * 16 + ·)) 0

end EnsembleDesk
