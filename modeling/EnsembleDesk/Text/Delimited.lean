/-!
# Delimited text

A text of records, one a line, whose fields are separated by a delimiter. A field that begins with a
quote goes to the closing quote, and inside a doubled quote stands for one; what follows the closing
quote belongs to the field. Lines end with a line feed, a carriage return or both, and empty lines
are no records.

Everything is said in bytes: the delimiter, the quote and the line ends are ASCII, and the other
bytes of a field are taken as they are.
-/

namespace EnsembleDesk

namespace Delimited

/-- The quote. -/
def quote : UInt8 := 0x22

/-- The line feed. -/
def lineFeed : UInt8 := 0x0A

/-- The carriage return. -/
def carriageReturn : UInt8 := 0x0D

/-- Whether a byte ends a line. -/
def isLineEnd (b : UInt8) : Bool := b == lineFeed || b == carriageReturn

/-- Whether a byte ends a field that is not in quotes. -/
def endsField (delimiter b : UInt8) : Bool := b == delimiter || isLineEnd b

/-! ### Reading -/

/-- Reads the rest of a field that is not in quotes. -/
def readPlain (delimiter : UInt8) (bytes : List UInt8) : List UInt8 × List UInt8 :=
  (bytes.takeWhile (!endsField delimiter ·), bytes.dropWhile (!endsField delimiter ·))

/-- Reads the rest of a field after its opening quote; without a closing quote it goes to the end
of the text. -/
def readQuoted (delimiter : UInt8) : List UInt8 → List UInt8 × List UInt8
  | [] => ([], [])
  | b :: rest =>
    if b = quote then
      match rest with
      | [] => ([], [])
      | c :: after =>
        if c = quote then
          let (field, rest) := readQuoted delimiter after
          (quote :: field, rest)
        else readPlain delimiter (c :: after)
    else
      let (field, rest) := readQuoted delimiter rest
      (b :: field, rest)

/-- Reads a field. -/
def readField (delimiter : UInt8) : List UInt8 → List UInt8 × List UInt8
  | [] => ([], [])
  | b :: rest => if b = quote then readQuoted delimiter rest else readPlain delimiter (b :: rest)

theorem length_readPlain (delimiter : UInt8) (bytes : List UInt8) :
    (readPlain delimiter bytes).2.length ≤ bytes.length :=
  (List.dropWhile_sublist _).length_le

theorem length_readQuoted (delimiter : UInt8) (bytes : List UInt8) :
    (readQuoted delimiter bytes).2.length ≤ bytes.length := by
  fun_induction readQuoted delimiter bytes with
  | case1 => exact Nat.le_refl _
  | case2 => exact Nat.zero_le _
  | case3 after field rest h ih =>
    rw [h] at ih
    simp only [List.length_cons] at *
    exact Nat.le_trans ih (by omega)
  | case4 c after _ =>
    have := length_readPlain delimiter (c :: after)
    simp only [List.length_cons] at *
    omega
  | case5 b rest _ field rest' h ih =>
    rw [h] at ih
    simp only [List.length_cons] at *
    exact Nat.le_trans ih (by omega)

theorem length_readField (delimiter : UInt8) (bytes : List UInt8) :
    (readField delimiter bytes).2.length ≤ bytes.length := by
  unfold readField
  split
  · exact Nat.le_refl _
  · split
    · exact Nat.le_succ_of_le (length_readQuoted delimiter _)
    · exact length_readPlain delimiter _

/-- Reads the fields of a record with the byte that ends its line. A line feed after a carriage
return is left; it reads as an empty line. -/
def readRecord (delimiter : UInt8) (bytes : List UInt8) :
    List (List UInt8) × List UInt8 :=
  match _h : readField delimiter bytes with
  | (field, []) => ([field], [])
  | (field, b :: rest) =>
    if b = delimiter then
      let (fields, rest) := readRecord delimiter rest
      (field :: fields, rest)
    else ([field], rest)
termination_by bytes.length
decreasing_by
  have := length_readField delimiter bytes
  rw [‹readField delimiter bytes = _›, List.length_cons] at this
  omega

theorem length_readRecord (delimiter : UInt8) (bytes : List UInt8) :
    (readRecord delimiter bytes).2.length ≤ bytes.length - 1 := by
  fun_induction readRecord delimiter bytes with
  | case1 => exact Nat.zero_le _
  | case2 bytes field rest fields rest' hrest hfield ih =>
    have := length_readField delimiter bytes
    rw [hfield, List.length_cons] at this
    rw [hrest] at ih
    exact Nat.le_trans ih (by omega)
  | case3 bytes field b rest h _ =>
    have := length_readField delimiter bytes
    rw [h, List.length_cons] at this
    exact Nat.le_sub_one_of_lt this

/-- The records of a text. -/
def records (delimiter : UInt8) (bytes : List UInt8) : List (List (List UInt8)) :=
  match _h : bytes.dropWhile isLineEnd with
  | [] => []
  | b :: rest =>
    (readRecord delimiter (b :: rest)).1 :: records delimiter (readRecord delimiter (b :: rest)).2
termination_by bytes.length
decreasing_by
  have h₁ := length_readRecord delimiter (b :: rest)
  have h₂ := (List.dropWhile_sublist isLineEnd (l := bytes)).length_le
  rw [‹bytes.dropWhile isLineEnd = _›] at h₂
  rw [List.length_cons] at h₁ h₂
  omega

/-- The records of a text that may begin with a byte order mark. -/
def read (delimiter : UInt8) : List UInt8 → List (List (List UInt8))
  | 0xEF :: 0xBB :: 0xBF :: bytes => records delimiter bytes
  | bytes => records delimiter bytes

/-! ### Writing -/

/-- Whether a field has to be written in quotes. -/
def needsQuotes (delimiter : UInt8) (field : List UInt8) : Bool :=
  field.any fun b => endsField delimiter b || b == quote

/-- A field as it is written. -/
def writeField (delimiter : UInt8) (field : List UInt8) : List UInt8 :=
  if needsQuotes delimiter field then
    quote :: field.flatMap (fun b => if b = quote then [quote, quote] else [b]) ++ [quote]
  else field

/-- The fields of a record with the delimiter between them. -/
def writeFields (delimiter : UInt8) (fields : List (List UInt8)) : List UInt8 :=
  List.intercalate [delimiter] (fields.map (writeField delimiter))

/-- A record as a line; one empty field is written in quotes, since an empty line is no record. -/
def writeRecord (delimiter : UInt8) (fields : List (List UInt8)) : List UInt8 :=
  if fields = [[]] then [quote, quote, lineFeed]
  else writeFields delimiter fields ++ [lineFeed]

/-- The text of some records. -/
def write (delimiter : UInt8) (records : List (List (List UInt8))) : List UInt8 :=
  records.flatMap (writeRecord delimiter)

end Delimited

end EnsembleDesk
