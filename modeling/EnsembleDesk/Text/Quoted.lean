import EnsembleDesk.Text.CharClass
import EnsembleDesk.Text.UnicodeTables
/-!
# Quoted texts

A text in double quotes, in which quotes, backslashes and everything that has no glyph of its own
is escaped.
-/

namespace EnsembleDesk

/-- The escape of a character by its code point. -/
def codePointEscape (c : Char) : List Char :=
  ['\\', 'u', '\x7b'] ++ Nat.toDigits 16 c.toNat ++ ['\x7d']

/-- Characters beyond ASCII that are not seen, or not by themselves. -/
def isUnseen (c : Char) : Bool :=
  0x80 ≤ c.toNat &&
    (inRanges unprintableRanges c || inRanges fillerRanges c || inRanges graphemeExtendRanges c)

/-- A character as it is written between quotes. -/
def quotedChar (c : Char) : List Char :=
  if c = '\x00' then ['\\', '0']
  else if c = '\t' then ['\\', 't']
  else if c = '\r' then ['\\', 'r']
  else if c = '\n' then ['\\', 'n']
  else if c = '"' then ['\\', '"']
  else if c = '\\' then ['\\', '\\']
  else if isControl c || isUnseen c then codePointEscape c
  else [c]

/-- A text between double quotes. -/
def quoted (text : String) : String :=
  String.ofList ('"' :: text.toList.flatMap quotedChar ++ ['"'])

end EnsembleDesk
