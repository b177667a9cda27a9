import EnsembleDesk.Number.Layout
import EnsembleDesk.Sheet.Sparse
import EnsembleDesk.Sheet.Index
/-!
# Cell addresses

An address is a row and a column. Files write it as the letters of the column, counted in base 26
without a zero (`A` to `Z`, then `AA`), followed by the row counted from one: `Address.text`, read
by `Address.read?`.
-/

namespace EnsembleDesk

/-- The place of a cell. -/
structure Address where
  /-- The row, counted from zero. -/
  row : Index
  /-- The column, counted from zero. -/
  column : Index
deriving DecidableEq, Inhabited

namespace Address

/-- The index of an address along an axis. -/
def along (a : Address) : Axis → Index
  | .row => a.row
  | .column => a.column

/-- The address with another index along an axis. -/
def withIndex (a : Address) (axis : Axis) (i : Index) : Address :=
  match axis with
  | .row => ⟨i, a.column⟩
  | .column => ⟨a.row, i⟩

/-- The address a signed distance away, within the lines that have cells. -/
def offset (a : Address) (rows columns : Int) : Address :=
  ⟨a.row.offset rows, a.column.offset columns⟩

/-- Addresses are numbered row by row; a row has 65536 times 65536 columns. -/
def number (a : Address) : Nat := a.row.val * 65536 * 65536 + a.column.val

theorem eq_of_number {a b : Address} (h : a.number = b.number) : a = b := by
  obtain ⟨⟨r, hr⟩, ⟨c, hc⟩⟩ := a
  obtain ⟨⟨r', hr'⟩, ⟨c', hc'⟩⟩ := b
  simp only [number] at h
  have hrow : r = r' := by omega
  subst hrow
  have hcolumn : c = c' := by omega
  subst hcolumn
  rfl

instance : Position Address := ⟨number, eq_of_number⟩

instance : Position Index := ⟨Fin.val, Fin.eq_of_val_eq⟩

/-! ### Text -/

/-- A letter by its place in the alphabet. -/
def letter (n : Nat) : Char := Char.ofNat ('A'.toNat + n)

/-- The letters of a column. -/
def columnLetters (column : Nat) : List Char :=
  if column < 26 then [letter column]
  else columnLetters (column / 26 - 1) ++ [letter (column % 26)]
termination_by column

/-- The text of an address. -/
def chars (a : Address) : List Char :=
  columnLetters a.column.val ++ Decimal.digitsOf (a.row.val + 1)

/-- The text of an address. -/
def text (a : Address) : String := String.ofList a.chars

/-- The number that letters write in base 26 without a zero. -/
def lettersValue (letters : List Char) : Nat :=
  letters.foldl (fun n c => 26 * n + (c.toNat - 'A'.toNat + 1)) 0

/-- Reads a line that is counted from one. -/
def counted? (n : Nat) : Option Index :=
  if 1 ≤ n ∧ n ≤ 4294967295 then some (.capped (n - 1)) else none

/-- Reads an address: capital letters, then digits that do not write zero. -/
def read? (text : List Char) : Option Address := do
  let letters := text.takeWhile (!·.isDigit)
  let digits := text.dropWhile (!·.isDigit)
  if letters.all Char.isUpper && digits.all Char.isDigit then
    let column ← counted? (lettersValue letters)
    let row ← counted? (digitsValue digits)
    some ⟨row, column⟩
  else none

end Address

end EnsembleDesk
