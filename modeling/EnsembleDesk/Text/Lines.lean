import EnsembleDesk.Text.CharClass
/-!
# Lines and words

How a text falls into lines, a line into words, and a word into runs of characters of one class.
-/

namespace EnsembleDesk

/-- Drops the blanks at both ends. -/
def trimBlanks (text : List Char) : List Char :=
  ((text.dropWhile isBlank).reverse.dropWhile isBlank).reverse

/-- Whether a text holds nothing but blanks. -/
def allBlank (text : List Char) : Bool :=
  text.all isBlank

/-- Drops a carriage return that ends a line. -/
def dropReturn (line : List Char) : List Char :=
  if line.getLast? = some '\r' then line.dropLast else line

/-- The part of a text after its first line break, and whether there is one. -/
def afterBreak (text : List Char) : Option (List Char) :=
  match text.dropWhile (· != '\n') with
  | [] => none
  | _ :: rest => some rest

theorem length_afterBreak {text rest : List Char} (h : afterBreak text = some rest) :
    rest.length < text.length := by
  unfold afterBreak at h
  split at h
  · cases h
  · rename_i head tail heq
    cases h
    have : (text.dropWhile (· != '\n')).length ≤ text.length :=
      (List.dropWhile_sublist _).length_le
    rw [heq, List.length_cons] at this
    omega

/-- The lines of a text: it is cut after every line feed, and a line feed is dropped together with
a carriage return before it. A text that ends in a line feed has no empty line after it. -/
def linesOf (text : List Char) : List (List Char) :=
  if text.isEmpty then []
  else
    let line := text.takeWhile (· != '\n')
    match _h : afterBreak text with
    | none => [line]
    | some rest => dropReturn line :: linesOf rest
termination_by text.length
decreasing_by exact length_afterBreak ‹_›

/-- The words of a line: its maximal runs of characters that are not blank. -/
def wordsOf (line : List Char) : List (List Char) :=
  match _h : line.dropWhile isBlank with
  | [] => []
  | c :: rest =>
    ((c :: rest).takeWhile (!isBlank ·)) :: wordsOf (rest.dropWhile (!isBlank ·))
termination_by line.length
decreasing_by
  have h₁ : (line.dropWhile isBlank).length ≤ line.length :=
    (List.dropWhile_sublist _).length_le
  have h₂ : (rest.dropWhile (!isBlank ·)).length ≤ rest.length :=
    (List.dropWhile_sublist _).length_le
  rw [‹line.dropWhile isBlank = _›, List.length_cons] at h₁
  omega

/-- Whether a text has another as its beginning. -/
def startsWith (text beginning : List Char) : Bool :=
  beginning.isPrefixOf text

/-- Cuts a text at every occurrence of a character; there is one piece more than occurrences. -/
def splitAtChar (separator : Char) : List Char → List (List Char)
  | [] => [[]]
  | c :: rest =>
    if c = separator then [] :: splitAtChar separator rest
    else match splitAtChar separator rest with
      | [] => [[c]]
      | piece :: pieces => (c :: piece) :: pieces

end EnsembleDesk
