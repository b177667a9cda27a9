import EnsembleDesk.Proofs.Text.Digits
import EnsembleDesk.Sheet.Range
/-!
# Addresses that are read back

An address below the last row and column is read back from its text, and so is a range with such
corners.

## Main results

* `Address.lettersValue_columnLetters`: the letters of a column count it from one;
* `Address.read?_chars`, `CellRange.read?_chars`: what was written is read back;
* `Address.bounded_of_read?_chars`, `CellRange.bounded_of_read?_chars`: no more is.
-/

namespace EnsembleDesk

namespace Address

/-! ### Letters -/

/-- The letters are the upper-case letters in their order. -/
theorem letter_spec : ∀ n < 26,
    (letter n).toNat = 'A'.toNat + n ∧ (letter n).isUpper = true ∧ (letter n).isDigit = false := by
  decide

/-- The first columns have one letter. -/
theorem columnLetters_of_lt {column : Nat} (h : column < 26) :
    columnLetters column = [letter column] := by
  rw [columnLetters, if_pos h]

/-- The other columns have one letter more than the column of the block that they are in. -/
theorem columnLetters_of_le {column : Nat} (h : 26 ≤ column) :
    columnLetters column = columnLetters (column / 26 - 1) ++ [letter (column % 26)] := by
  rw [columnLetters, if_neg (Nat.not_lt.2 h)]

/-- The text of a column consists of letters. -/
theorem mem_columnLetters {column : Nat} {c : Char} (h : c ∈ columnLetters column) :
    ∃ n < 26, c = letter n := by
  induction column using columnLetters.induct with
  | case1 column hlt =>
    rw [columnLetters_of_lt hlt] at h
    exact ⟨column, hlt, List.mem_singleton.1 h⟩
  | case2 column hge ih =>
    rw [columnLetters_of_le (Nat.le_of_not_lt hge)] at h
    rcases List.mem_append.1 h with h | h
    · exact ih h
    · exact ⟨column % 26, Nat.mod_lt _ (by decide), List.mem_singleton.1 h⟩

/-- The text of a column is not empty. -/
theorem columnLetters_ne_nil (column : Nat) : columnLetters column ≠ [] := by
  by_cases h : column < 26
  · rw [columnLetters_of_lt h]
    exact List.cons_ne_nil _ _
  · rw [columnLetters_of_le (Nat.le_of_not_lt h)]
    exact List.append_ne_nil_of_right_ne_nil _ (List.cons_ne_nil _ _)

/-- One letter more multiplies the value by their number. -/
theorem lettersValue_append_letter (letters : List Char) {n : Nat} (h : n < 26) :
    lettersValue (letters ++ [letter n]) = 26 * lettersValue letters + (n + 1) := by
  rw [lettersValue, List.foldl_append, ← lettersValue, List.foldl_cons, List.foldl_nil,
    (letter_spec n h).1, Nat.add_sub_cancel_left]

/-- The letters of a column count it from one. -/
theorem lettersValue_columnLetters (column : Nat) :
    lettersValue (columnLetters column) = column + 1 := by
  induction column using columnLetters.induct with
  | case1 column hlt =>
    rw [columnLetters_of_lt hlt, ← List.nil_append [letter column],
      lettersValue_append_letter [] hlt]
    exact Nat.zero_add (column + 1)
  | case2 column hge ih =>
    rw [columnLetters_of_le (Nat.le_of_not_lt hge),
      lettersValue_append_letter _ (Nat.mod_lt column (by decide)), ih]
    omega

/-! ### Addresses -/

/-- Both indices come before the last one, which is no line of its own in texts. -/
def Bounded (a : Address) : Prop := a.row < .unbounded ∧ a.column < .unbounded

instance (a : Address) : Decidable a.Bounded := inferInstanceAs (Decidable (_ ∧ _))

/-- A line in front of the last one is counted by its number. -/
theorem counted?_val_succ {i : Index} (h : i < .unbounded) : counted? (i.val + 1) = some i := by
  have hi : i.val < 4294967295 := h
  rw [counted?, if_pos (by omega), Option.some.injEq, Fin.ext_iff, Index.val_capped]
  omega

/-- The last index is beyond the lines that are counted. -/
theorem lt_unbounded_of_counted? {i j : Index} (h : counted? (i.val + 1) = some j) :
    i < .unbounded := by
  rw [counted?, Option.ite_none_right_eq_some] at h
  have hi : i.val < 4294967295 := by omega
  exact hi

/-- The text of an address is read for its column and its row, both counted from one. -/
theorem read?_chars_eq (a : Address) :
    read? a.chars = (counted? (a.column.val + 1)).bind fun column =>
      (counted? (a.row.val + 1)).bind fun row => some ⟨row, column⟩ := by
  -- the reader cuts the text in front of its first digit
  have hletters : ∀ c ∈ columnLetters a.column.val, (!c.isDigit) = true := by
    intro c hc
    obtain ⟨n, hn, rfl⟩ := mem_columnLetters hc
    rw [(letter_spec n hn).2.2]
    rfl
  have hupper : (columnLetters a.column.val).all Char.isUpper = true := by
    rw [List.all_eq_true]
    intro c hc
    obtain ⟨n, hn, rfl⟩ := mem_columnLetters hc
    exact (letter_spec n hn).2.1
  have hdigits : (Decimal.digitsOf (a.row.val + 1)).all Char.isDigit = true :=
    List.all_eq_true.2 fun c hc => Decimal.isDigit_of_mem_digitsOf hc
  have hrest : StartsWithout (!·.isDigit) (Decimal.digitsOf (a.row.val + 1)) := by
    intro c hc
    simp only [Decimal.isDigit_of_mem_digitsOf (List.mem_of_mem_head? hc), Bool.not_true]
  simp only [read?, chars, takeWhile_run hletters hrest, dropWhile_run hletters hrest, hupper,
    hdigits, Bool.and_self, if_true, lettersValue_columnLetters, digitsValue_digitsOf]
  rfl

/-- An address is read back from its text. -/
theorem read?_chars {a : Address} (h : a.Bounded) : read? a.chars = some a := by
  rw [read?_chars_eq, counted?_val_succ h.1, counted?_val_succ h.2, Option.bind_some,
    Option.bind_some]

/-- Of the other addresses no text is read. -/
theorem bounded_of_read?_chars {a b : Address} (h : read? a.chars = some b) : a.Bounded := by
  rw [read?_chars_eq, Option.bind_eq_some_iff] at h
  obtain ⟨column, hcolumn, h⟩ := h
  obtain ⟨row, hrow, -⟩ := Option.bind_eq_some_iff.1 h
  exact ⟨lt_unbounded_of_counted? hrow, lt_unbounded_of_counted? hcolumn⟩

/-- The text of an address holds letters and digits only. -/
theorem mem_chars {a : Address} {c : Char} (h : c ∈ a.chars) :
    c.isUpper = true ∨ c.isDigit = true := by
  rcases List.mem_append.1 h with h | h
  · obtain ⟨n, hn, rfl⟩ := mem_columnLetters h
    exact .inl (letter_spec n hn).2.1
  · exact .inr (Decimal.isDigit_of_mem_digitsOf h)

/-- The text of an address is not empty. -/
theorem chars_ne_nil (a : Address) : a.chars ≠ [] :=
  List.append_ne_nil_of_left_ne_nil (columnLetters_ne_nil _) _

/-- An address is written in upper-case letters and digits. -/
theorem not_mem_chars {a : Address} {c : Char} (hupper : c.isUpper = false)
    (hdigit : c.isDigit = false) : c ∉ a.chars := by
  intro h
  rcases mem_chars h with h | h
  · rw [hupper] at h
    cases h
  · rw [hdigit] at h
    cases h

/-- An address is written without a colon. -/
theorem ne_colon_of_mem_chars (a : Address) : ∀ c ∈ a.chars, (c != ':') = true := by
  intro c hc
  rw [bne_iff_ne]
  rintro rfl
  exact not_mem_chars rfl rfl hc

/-- Different addresses have different texts. -/
theorem text_injective {a b : Address} (ha : a.Bounded) (hb : b.Bounded) (h : a.text = b.text) :
    a = b := by
  have hchars : a.chars = b.chars := by
    have := congrArg String.toList h
    rwa [text, text, String.toList_ofList, String.toList_ofList] at this
  have hread := read?_chars ha
  rw [hchars, read?_chars hb] at hread
  exact (Option.some.inj hread).symm

end Address

/-! ### Ranges -/

/-- A span that ends where it begins is a single line. -/
theorem Span.single_of_eq {span : Span} (h : span.start = span.stop) :
    single span.start = span := by
  obtain ⟨start, stop, hle⟩ := span
  cases h
  rfl

/-- A span is the lines between its ends. -/
theorem Span.between_start_stop (span : Span) : between span.start span.stop = span := by
  obtain ⟨start, stop, hle⟩ := span
  simp only [between, Index.earlier, Index.later, if_pos hle]

namespace CellRange

/-- A range is read back from its text. -/
theorem read?_chars {range : CellRange} (h : range.stop.Bounded) :
    read? range.chars = some range := by
  have hstart : range.start.Bounded :=
    ⟨Fin.lt_of_le_of_lt range.rows.start_le_stop h.1,
      Fin.lt_of_le_of_lt range.columns.start_le_stop h.2⟩
  have hcolon := range.start.ne_colon_of_mem_chars
  rw [read?, chars]
  -- a range of one cell is written without a colon
  by_cases hsingle : range.start = range.stop
  · have hdrop := dropWhile_run hcolon .nil
    rw [List.append_nil] at hdrop
    obtain ⟨hrow, hcolumn⟩ := Address.mk.inj hsingle
    rw [if_pos hsingle, hdrop]
    simp only [Address.read?_chars hstart, Option.map_some]
    rw [single, start, Span.single_of_eq hrow, Span.single_of_eq hcolumn]
  · have hrest : StartsWithout (· != ':') (':' :: range.stop.chars) := .cons rfl _
    rw [if_neg hsingle, dropWhile_run hcolon hrest, takeWhile_run hcolon hrest]
    simp only [Address.read?_chars hstart, Address.read?_chars h, Option.bind_eq_bind,
      Option.bind_some]
    rw [spanning, start, stop, Span.between_start_stop, Span.between_start_stop]

/-- Of a range with another last cell no text is read. -/
theorem bounded_of_read?_chars {range read : CellRange} (h : read? range.chars = some read) :
    range.stop.Bounded := by
  have hcolon := range.start.ne_colon_of_mem_chars
  rw [read?, chars] at h
  by_cases hsingle : range.start = range.stop
  · have hdrop := dropWhile_run hcolon .nil
    rw [List.append_nil] at hdrop
    rw [if_pos hsingle, hdrop] at h
    obtain ⟨a, ha, -⟩ := Option.map_eq_some_iff.1 h
    exact hsingle ▸ Address.bounded_of_read?_chars ha
  · have hrest : StartsWithout (· != ':') (':' :: range.stop.chars) := .cons rfl _
    rw [if_neg hsingle, dropWhile_run hcolon hrest, takeWhile_run hcolon hrest] at h
    simp only [Option.bind_eq_bind, Option.bind_eq_some_iff] at h
    obtain ⟨-, -, a, ha, -⟩ := h
    exact Address.bounded_of_read?_chars ha

end CellRange

end EnsembleDesk
