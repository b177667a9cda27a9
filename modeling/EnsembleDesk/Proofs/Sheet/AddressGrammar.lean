import EnsembleDesk.Proofs.Sheet.AddressText
import Mathlib.Data.Nat.Digits.Defs
/-!
# The texts that are addresses

An address is written by capital letters and then by digits, and both count from one: the letters in
base 26 without a zero, the digits in base ten. `Address.Spelled` says so, with the numbers as sums
of powers of the base, and apart from the reader. What the reader takes is exactly that, so it tells
apart all addresses that are written, and an address that was read is written again as it was,
unless zeros stood in front of its digits.

## Main results

* `Address.read?_eq_some_iff`: the texts that are read as an address;
* `Address.columnLetters_lettersValue`, `Address.columnLetters_injective`: every run of capital
  letters stands for a column of its own;
* `CellRange.read?_eq_some_iff`: the texts that are read as a range;
* `Address.texts_of_addresses`: all of it, for addresses and ranges.
-/

namespace EnsembleDesk

/-- Digits that are taken from the left write the number that has them as its digits. -/
theorem foldl_eq_ofDigits (base : Nat) (value : Char → Nat) (text : List Char) :
    text.foldl (fun n c => base * n + value c) 0 = Nat.ofDigits base (text.reverse.map value) := by
  induction text using List.reverseRecOn with
  | nil => rfl
  | append_singleton front c ih =>
    rw [List.foldl_append, ih, List.reverse_append, List.reverse_singleton, List.singleton_append,
      List.map_cons, Nat.ofDigits_cons]
    exact Nat.add_comm _ _

namespace Address

/-! ### Letters -/

/-- The place of a capital letter in the alphabet, counted from one. -/
def letterPlace (c : Char) : Nat := c.toNat - 'A'.toNat + 1

/-- A capital letter is one of the twenty-six. -/
theorem exists_letter_of_isUpper {c : Char} (h : c.isUpper = true) : ∃ n < 26, c = letter n := by
  obtain ⟨hlow, hhigh⟩ : 'A'.toNat ≤ c.toNat ∧ c.toNat ≤ 'Z'.toNat := of_decide_eq_true h
  have hletters : 'Z'.toNat - 'A'.toNat = 25 := rfl
  refine ⟨c.toNat - 'A'.toNat, by omega, ?_⟩
  rw [letter, Nat.add_sub_cancel' hlow, Char.ofNat_toNat]

/-- A capital letter is no digit. -/
theorem isDigit_of_isUpper {c : Char} (h : c.isUpper = true) : c.isDigit = false := by
  obtain ⟨n, hn, rfl⟩ := exists_letter_of_isUpper h
  exact (letter_spec n hn).2.2

/-- Letters count from one. -/
theorem lettersValue_pos {letters : List Char} (hne : letters ≠ []) : 0 < lettersValue letters := by
  rw [← List.dropLast_concat_getLast hne, lettersValue, List.foldl_append]
  exact Nat.succ_pos _

/-- Capital letters are those of the column that they count. -/
theorem columnLetters_lettersValue {letters : List Char} (hne : letters ≠ [])
    (hupper : ∀ c ∈ letters, c.isUpper = true) :
    columnLetters (lettersValue letters - 1) = letters := by
  induction letters using List.reverseRecOn with
  | nil => exact absurd rfl hne
  | append_singleton front c ih =>
    obtain ⟨n, hn, rfl⟩ := exists_letter_of_isUpper
      (hupper c (List.mem_append_right _ List.mem_cons_self))
    have hvalue : lettersValue (front ++ [letter n]) - 1 = 26 * lettersValue front + n := by
      rw [lettersValue_append_letter front hn, ← Nat.add_assoc, Nat.add_sub_cancel]
    rw [hvalue]
    by_cases hfront : front = []
    · subst hfront
      have hzero : 26 * lettersValue [] + n = n := Nat.zero_add n
      rw [hzero, columnLetters_of_lt hn, List.nil_append]
    · -- letters in front count at least once, so the last letter is a remainder
      have hpos := lettersValue_pos hfront
      have hrest := ih hfront fun d hd => hupper d (List.mem_append_left _ hd)
      have hdiv : (26 * lettersValue front + n) / 26 = lettersValue front := by omega
      have hmod : (26 * lettersValue front + n) % 26 = n := by omega
      rw [columnLetters_of_le (by omega), hdiv, hmod, hrest]

/-- Different columns have different letters. -/
theorem columnLetters_injective : Function.Injective columnLetters := by
  intro i j h
  have hvalue := congrArg lettersValue h
  rw [lettersValue_columnLetters, lettersValue_columnLetters] at hvalue
  exact Nat.succ.inj hvalue

/-! ### Spelling -/

/-- Letters and digits that spell an address. -/
structure Spelled (letters digits : List Char) (a : Address) : Prop where
  /-- There are letters. -/
  letters_ne_nil : letters ≠ []
  /-- They are capital letters. -/
  upper : ∀ c ∈ letters, c.isUpper = true
  /-- There are digits. -/
  digits_ne_nil : digits ≠ []
  /-- There is nothing else. -/
  digit : ∀ c ∈ digits, c.isDigit = true
  /-- The letters count the column from one. -/
  column : Nat.ofDigits 26 (letters.reverse.map letterPlace) = a.column.val + 1
  /-- The digits count the row from one. -/
  row : Nat.ofDigits 10 (digits.reverse.map digitValue) = a.row.val + 1
  /-- Neither counts beyond the largest index. -/
  bounded : a.Bounded

/-- A number that counts from one names the index before it, if that is the index of a line. -/
theorem counted?_eq_some_iff {n : Nat} {i : Index} :
    counted? n = some i ↔ n = i.val + 1 ∧ i < .unbounded := by
  constructor
  · intro h
    obtain ⟨hn, hi⟩ := Option.ite_none_right_eq_some.1 h
    have hval := Index.val_capped (n - 1)
    rw [Option.some.inj hi] at hval
    have hcount : n = i.val + 1 := by omega
    exact ⟨hcount, lt_unbounded_of_counted? (hcount ▸ h)⟩
  · rintro ⟨rfl, hi⟩
    exact counted?_val_succ hi

variable {text letters digits : List Char} {a : Address}

/-- Letters and digits spell an address if they are capital letters and digits, and their values
name its column and its row. -/
theorem spelled_iff :
    Spelled letters digits a ↔
      (∀ c ∈ letters, c.isUpper = true) ∧ (∀ c ∈ digits, c.isDigit = true) ∧
        counted? (lettersValue letters) = some a.column ∧
        counted? (digitsValue digits) = some a.row := by
  have hletters : lettersValue letters = Nat.ofDigits 26 (letters.reverse.map letterPlace) :=
    foldl_eq_ofDigits 26 letterPlace letters
  have hdigits : digitsValue digits = Nat.ofDigits 10 (digits.reverse.map digitValue) :=
    foldl_eq_ofDigits 10 digitValue digits
  rw [counted?_eq_some_iff, counted?_eq_some_iff, hletters, hdigits]
  constructor
  · intro h
    exact ⟨h.upper, h.digit, ⟨h.column, h.bounded.2⟩, h.row, h.bounded.1⟩
  · rintro ⟨hupper, hdigit, ⟨hcolumn, hcolumn_lt⟩, hrow, hrow_lt⟩
    -- no letters and no digits would count nothing
    refine ⟨?_, hupper, ?_, hdigit, hcolumn, hrow, hrow_lt, hcolumn_lt⟩
    · rintro rfl
      cases hcolumn
    · rintro rfl
      cases hrow

/-- What the reader cuts a text into is what it takes the address from. -/
theorem read?_eq_some_iff_cut :
    read? text = some a ↔
      Spelled (text.takeWhile (!·.isDigit)) (text.dropWhile (!·.isDigit)) a := by
  rw [spelled_iff, read?]
  simp only [Bool.and_eq_true, List.all_eq_true, Option.ite_none_right_eq_some, Option.bind_eq_bind,
    Option.bind_eq_some_iff, Option.some.injEq, and_assoc]
  refine and_congr_right fun _ => and_congr_right fun _ => ?_
  constructor
  · rintro ⟨column, hcolumn, row, hrow, rfl⟩
    exact ⟨hcolumn, hrow⟩
  · rintro ⟨hcolumn, hrow⟩
    exact ⟨a.column, hcolumn, a.row, hrow, rfl⟩

/-- The digits of an address begin with the first digit of its text. -/
theorem Spelled.cut (h : Spelled letters digits a) :
    (letters ++ digits).takeWhile (!·.isDigit) = letters ∧
      (letters ++ digits).dropWhile (!·.isDigit) = digits := by
  have hletters : ∀ c ∈ letters, (!c.isDigit) = true := fun c hc => by
    rw [isDigit_of_isUpper (h.upper c hc)]
    rfl
  have hdigits : StartsWithout (!·.isDigit) digits := fun c hc => by
    simp only [h.digit c (List.mem_of_mem_head? hc), Bool.not_true]
  exact ⟨takeWhile_run hletters hdigits, dropWhile_run hletters hdigits⟩

/-- A text is read as an address if letters and digits that spell it are all that the text is. -/
theorem read?_eq_some_iff :
    read? text = some a ↔
      ∃ letters digits, text = letters ++ digits ∧ Spelled letters digits a := by
  rw [read?_eq_some_iff_cut]
  constructor
  · intro h
    exact ⟨_, _, List.takeWhile_append_dropWhile.symm, h⟩
  · rintro ⟨letters, digits, rfl, h⟩
    rwa [h.cut.1, h.cut.2]

/-- The first digit of the text of an address is that of its row. -/
theorem Spelled.find?_isDigit (h : Spelled letters digits a) :
    (letters ++ digits).find? Char.isDigit = digits.head? := by
  obtain ⟨c, rest, hdigits⟩ := List.exists_cons_of_ne_nil h.digits_ne_nil
  have hnone : letters.find? Char.isDigit = none :=
    List.find?_eq_none.2 fun d hd => by simp [isDigit_of_isUpper (h.upper d hd)]
  rw [List.find?_append, hnone, Option.none_or, hdigits,
    List.find?_cons_of_pos (h.digit c (hdigits ▸ List.mem_cons_self)), List.head?_cons]

/-- An address is written with the letters that spell it, and with the digits if they do not begin
with a zero. -/
theorem Spelled.chars_eq_iff (h : Spelled letters digits a) :
    a.chars = letters ++ digits ↔ digits.head? ≠ some '0' := by
  obtain ⟨-, -, hcolumn, hrow⟩ := spelled_iff.1 h
  rw [counted?_eq_some_iff] at hcolumn hrow
  have hletters : columnLetters a.column.val = letters := by
    rw [← columnLetters_lettersValue h.letters_ne_nil h.upper, hcolumn.1, Nat.add_sub_cancel]
  rw [chars, hletters, List.append_cancel_left_eq, ← hrow.1]
  constructor
  · intro hdigits
    rw [← hdigits]
    exact Decimal.head?_digitsOf_ne (by omega)
  · exact digitsOf_digitsValue h.digits_ne_nil h.digit

/-- An address that was read is written as its text, unless its digits begin with a zero. -/
theorem chars_eq_iff_of_read? (h : read? text = some a) :
    a.chars = text ↔ text.find? Char.isDigit ≠ some '0' := by
  obtain ⟨letters, digits, rfl, hspelled⟩ := read?_eq_some_iff.1 h
  rw [hspelled.chars_eq_iff, hspelled.find?_isDigit]

/-- No colon stands in a text that is read as an address. -/
theorem ne_colon_of_read? (h : read? text = some a) : ∀ c ∈ text, (c != ':') = true := by
  obtain ⟨letters, digits, rfl, hspelled⟩ := read?_eq_some_iff.1 h
  intro c hc
  rw [bne_iff_ne]
  rintro rfl
  rcases List.mem_append.1 hc with hc | hc
  · exact absurd (hspelled.upper _ hc) (by decide)
  · exact absurd (hspelled.digit _ hc) (by decide)

end Address

/-! ### Ranges -/

namespace CellRange

/-- A range with two cells at opposite corners, whichever they are. -/
structure HasCorners (range : CellRange) (a b : Address) : Prop where
  /-- It begins with the upper row. -/
  top : range.start.row.val = min a.row.val b.row.val
  /-- It begins with the left column. -/
  left : range.start.column.val = min a.column.val b.column.val
  /-- It ends with the lower row. -/
  bottom : range.stop.row.val = max a.row.val b.row.val
  /-- It ends with the right column. -/
  right : range.stop.column.val = max a.column.val b.column.val

/-- The range that two cells span has them at its corners. -/
theorem hasCorners_spanning (a b : Address) : (spanning a b).HasCorners a b where
  top := Index.val_earlier _ _
  left := Index.val_earlier _ _
  bottom := Index.val_later _ _
  right := Index.val_later _ _

/-- There is one range with two cells at opposite corners. -/
theorem hasCorners_iff {range : CellRange} {a b : Address} :
    range.HasCorners a b ↔ range = spanning a b := by
  constructor
  · intro h
    have hspanning := hasCorners_spanning a b
    obtain ⟨⟨top, bottom, _⟩, ⟨left, right, _⟩⟩ := range
    rw [spanning, mk.injEq, Span.between, Span.between, Span.mk.injEq, Span.mk.injEq]
    exact
      ⟨⟨Fin.ext (h.top.trans hspanning.top.symm), Fin.ext (h.bottom.trans hspanning.bottom.symm)⟩,
        Fin.ext (h.left.trans hspanning.left.symm), Fin.ext (h.right.trans hspanning.right.symm)⟩
  · rintro rfl
    exact hasCorners_spanning a b

/-- A cell spans with itself the range of that cell. -/
theorem spanning_self (a : Address) : spanning a a = single a := by
  have hself : ∀ i : Index, Span.between i i = .single i := fun i =>
    Span.between_start_stop (.single i)
  rw [spanning, single, hself, hself]

/-- The texts of the two addresses that a text names: around a colon, or the whole text twice. -/
def Names (text first second : List Char) : Prop :=
  text = first ++ ':' :: second ∨ (text = first ∧ text = second)

/-- A text is read as a range if it names two addresses, or one, and as the range with these at
opposite corners. -/
theorem read?_eq_some_iff {text : List Char} {range : CellRange} :
    read? text = some range ↔ ∃ first second a b, Names text first second ∧
      Address.read? first = some a ∧ Address.read? second = some b ∧ range.HasCorners a b := by
  have hcut := List.takeWhile_append_dropWhile (p := (· != ':')) (l := text)
  simp only [hasCorners_iff]
  constructor
  · intro h
    rw [read?] at h
    split at h
    · rename_i hdrop
      obtain ⟨a, ha, rfl⟩ := Option.map_eq_some_iff.1 h
      exact ⟨text, text, a, a, .inr ⟨rfl, rfl⟩, ha, ha, (spanning_self a).symm⟩
    · rename_i c rest hdrop
      simp only [Option.bind_eq_bind, Option.bind_eq_some_iff, Option.some.injEq] at h
      obtain ⟨a, ha, b, hb, rfl⟩ := h
      -- what the text is cut at is a colon
      have hcolon : c = ':' := by
        have := List.head?_dropWhile_not (· != ':') text
        rw [hdrop] at this
        simpa using this
      rw [hdrop, hcolon] at hcut
      exact ⟨_, rest, a, b, .inl hcut.symm, ha, hb, rfl⟩
  · rintro ⟨first, second, a, b, hnames | ⟨rfl, rfl⟩, ha, hb, rfl⟩
    · have hcolon := Address.ne_colon_of_read? ha
      have hrest : StartsWithout (· != ':') (':' :: second) := .cons rfl _
      rw [hnames, read?, dropWhile_run hcolon hrest, takeWhile_run hcolon hrest]
      simp only [ha, hb, Option.bind_eq_bind, Option.bind_some]
    · have hdrop := dropWhile_run (Address.ne_colon_of_read? ha) .nil
      rw [List.append_nil] at hdrop
      obtain rfl := Option.some.inj (ha.symm.trans hb)
      rw [read?, hdrop, spanning_self]
      simp only [ha, Option.map_some]

end CellRange

namespace Address

/-- The texts of addresses and ranges. A text is read as an address exactly if letters and digits
that spell it are all of the text, and such an address is written in the same way unless its digits
begin with a zero. What is written for an address or a range is read back as long as it does not
reach the last row and column, and different columns have different letters. A text that is read as
a range names the cells at two opposite corners, and the range goes from the upper left one to the
lower right one, however the text has them. -/
theorem texts_of_addresses :
    (∀ text a, read? text = some a ↔
      ∃ letters digits, text = letters ++ digits ∧ Spelled letters digits a) ∧
    (∀ text a, read? text = some a → (a.chars = text ↔ text.find? Char.isDigit ≠ some '0')) ∧
    (∀ a, read? a.chars = some a ↔ a.Bounded) ∧
    Function.Injective columnLetters ∧
    (∀ range, CellRange.read? range.chars = some range ↔ range.stop.Bounded) ∧
    ∀ text range, CellRange.read? text = some range ↔
      ∃ first second a b, CellRange.Names text first second ∧
        read? first = some a ∧ read? second = some b ∧ range.HasCorners a b :=
  ⟨fun _ _ => read?_eq_some_iff, fun _ _ => chars_eq_iff_of_read?,
    fun _ => ⟨bounded_of_read?_chars, read?_chars⟩, columnLetters_injective,
    fun _ => ⟨CellRange.bounded_of_read?_chars, CellRange.read?_chars⟩,
    fun _ _ => CellRange.read?_eq_some_iff⟩

/-- A zero in front of the digits is read but not written, and the corners of a range may be named
from the lower right one to the upper left one. -/
theorem texts_of_addresses_lowerRightFirst :
    read? "AA07".toList = some ⟨6, 26⟩ ∧ (⟨6, 26⟩ : Address).chars ≠ "AA07".toList ∧
      (⟨6, 26⟩ : Address).chars = "AA7".toList ∧
      read? (⟨6, 26⟩ : Address).chars = some ⟨6, 26⟩ ∧
      CellRange.read? "AA7:B3".toList = some ⟨⟨2, 6, by decide⟩, ⟨1, 26, by decide⟩⟩ := by
  obtain ⟨-, hwritten, hback, -, -, hrange⟩ := texts_of_addresses
  have hzero : read? "AA07".toList = some ⟨6, 26⟩ := by decide
  have hread : read? "AA7".toList = some ⟨6, 26⟩ := by decide
  refine ⟨hzero, mt (hwritten _ _ hzero).1 (by decide), (hwritten _ _ hread).2 (by decide),
    (hback _).2 (by decide), ?_⟩
  exact (hrange _ _).2 ⟨"AA7".toList, "B3".toList, _, ⟨2, 1⟩, .inl (by decide), hread, by decide,
    rfl, rfl, rfl, rfl⟩

end Address

end EnsembleDesk
