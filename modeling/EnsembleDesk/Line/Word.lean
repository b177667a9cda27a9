import EnsembleDesk.Text.CharClass
/-!
# The word at the cursor

A cursor stands between two characters of a line, in a column that counts from one; a column beyond
the line counts as its end. `wordBefore` is the run of word characters that ends at the cursor,
`wordAt?` the whole run that touches it.
-/

namespace EnsembleDesk

/-- A piece of a line with its columns. -/
structure WordSpan where
  /-- The text of the piece. -/
  text : List Char
  /-- The column of its first character. -/
  start : Nat
deriving DecidableEq

namespace WordSpan

/-- The column after the last character. -/
def stop (word : WordSpan) : Nat := word.start + word.text.length

end WordSpan

/-- The number of characters before a cursor in a column. -/
def cursorOffset (line : List Char) (column : Nat) : Nat :=
  min (max column 1 - 1) line.length

/-- The word characters at the end of a text. -/
def trailingWord (text : List Char) : List Char :=
  (text.reverse.takeWhile isWordChar).reverse

/-- The part of the word before the cursor; empty if no word character is before it. -/
def wordBefore (line : List Char) (column : Nat) : WordSpan :=
  let offset := cursorOffset line column
  let word := trailingWord (line.take offset)
  ⟨word, offset - word.length + 1⟩

/-- The word that touches the cursor. -/
def wordAt? (line : List Char) (column : Nat) : Option WordSpan :=
  let before := wordBefore line column
  let word := before.text ++ (line.drop (cursorOffset line column)).takeWhile isWordChar
  if word.isEmpty then none else some ⟨word, before.start⟩

end EnsembleDesk
