import EnsembleDesk.Proofs.Text.Digits
import EnsembleDesk.Sheet.Date
/-!
# Dates that are read back

The text of a date and time is read back part by part. Two digits are enough for every part but the
year, and a year of more than four digits has a sign, so that the reader knows where each part ends.

## Main results

* `DateTime.read?_chars`: a date is read back from its text.
-/

namespace EnsembleDesk

/-- A digit is no blank. -/
theorem isBlank_of_isDigit {c : Char} (h : c.isDigit = true) : isBlank c = false := by
  have hdigit := Char.isDigit_iff_toNat.1 h
  have hzero : '0'.toNat = 48 := rfl
  have hnine : '9'.toNat = 57 := rfl
  exact isBlank_of_toNat (by omega) (by omega)

/-- A beginning of a text starts without the characters that the text starts without. -/
theorem StartsWithout.take {p : Char → Bool} {text : List Char} (h : StartsWithout p text)
    (k : Nat) : StartsWithout p (text.take k) := by
  cases text with
  | nil =>
    rw [List.take_nil]
    exact .nil
  | cons c text =>
    cases k with
    | zero => exact .nil
    | succ k => exact .cons h.head _

namespace DateTime

/-! ### Padded numbers -/

/-- A padded number consists of digits. -/
theorem isDigit_of_mem_padded {width n : Nat} {c : Char} (h : c ∈ padded width n) :
    c.isDigit = true := by
  rcases List.mem_append.1 h with h | h
  · rw [List.eq_of_mem_replicate h]
    rfl
  · exact Decimal.isDigit_of_mem_digitsOf h

/-- A padded number is not empty. -/
theorem padded_ne_nil (width n : Nat) : padded width n ≠ [] :=
  List.append_ne_nil_of_right_ne_nil _ (Decimal.digitsOf_ne_nil n)

/-- The leading zeros of a padded number do not change its value. -/
theorem digitsValue_padded (width n : Nat) : digitsValue (padded width n) = n := by
  rw [padded, digitsValue_zeros_append, digitsValue_digitsOf]

/-- A padded number begins with a digit. -/
theorem padded_append_ne_cons {width n : Nat} {c : Char} (hc : c.isDigit = false)
    {rest rest' : List Char} : padded width n ++ rest ≠ c :: rest' := by
  intro h
  obtain ⟨d, digits, hdigits⟩ := List.exists_cons_of_ne_nil (padded_ne_nil width n)
  have hd : d ∈ padded width n := hdigits ▸ List.mem_cons_self
  rw [hdigits, List.cons_append, List.cons.injEq] at h
  rw [← h.1, isDigit_of_mem_padded hd] at hc
  cases hc

/-- A number that fits is padded to the width. -/
theorem length_padded {width n : Nat} (hwidth : 0 < width) (h : n < 10 ^ width) :
    (padded width n).length = width := by
  have := Decimal.length_digitsOf_le hwidth h
  rw [padded, List.length_append, zeros, List.length_replicate]
  omega

/-! ### Reading numbers -/

/-- Digits are read as a whole if they reach the limit, or if no digit follows them. -/
theorem readDigits?_run {run rest : List Char} {limit : Nat}
    (hrun : ∀ c ∈ run, c.isDigit = true) (hne : run ≠ []) (hle : run.length ≤ limit)
    (hstop : run.length = limit ∨ StartsWithout Char.isDigit rest) :
    readDigits? limit (run ++ rest) = some (digitsValue run, rest) := by
  -- the limit cuts the text off behind the run or beyond it, never within it
  have htake : ((run ++ rest).take limit).takeWhile Char.isDigit = run := by
    rw [List.take_append, List.take_of_length_le hle]
    rcases hstop with hlength | hrest
    · rw [hlength, Nat.sub_self, List.take_zero]
      exact takeWhile_run hrun .nil
    · exact takeWhile_run hrun (hrest.take _)
  simp only [readDigits?, htake, List.isEmpty_eq_false_iff.2 hne, Bool.false_eq_true, if_false,
    List.drop_left]

/-- Nothing is dropped in front of a padded number as a blank. -/
theorem dropWhile_isBlank_padded (width n : Nat) (rest : List Char) :
    (padded width n ++ rest).dropWhile isBlank = padded width n ++ rest := by
  have hstart : StartsWithout isBlank (padded width n) := fun c hc =>
    isBlank_of_isDigit (isDigit_of_mem_padded (List.mem_of_mem_head? hc))
  exact dropWhile_of_startsWithout (hstart.append (padded_ne_nil width n) rest)

/-- A number of two digits is read back from its padded text. -/
theorem readPair?_padded {n : Nat} (h : n < 100) (rest : List Char) :
    readPair? (padded 2 n ++ rest) = some (n, rest) := by
  have hlength : (padded 2 n).length = 2 := length_padded (by decide) h
  rw [readPair?, dropWhile_isBlank_padded,
    readDigits?_run (fun _ => isDigit_of_mem_padded) (padded_ne_nil 2 n) (Nat.le_of_eq hlength)
      (.inl hlength), digitsValue_padded]

/-- A year is read back if no digit follows it. -/
theorem readYear?_yearChars (year : Int) {rest : List Char}
    (hrest : StartsWithout Char.isDigit rest) :
    readYear? (yearChars year ++ rest) = some (year, rest) := by
  have hsigned : readDigits? (padded 4 year.natAbs ++ rest).length (padded 4 year.natAbs ++ rest) =
      some (year.natAbs, rest) := by
    rw [readDigits?_run (fun _ => isDigit_of_mem_padded) (padded_ne_nil 4 _)
      (by rw [List.length_append]; omega) (.inr hrest), digitsValue_padded]
  rw [yearChars]
  split
  · rename_i hnegative
    -- a negative year, with any number of digits
    rw [readYear?, List.cons_append, List.dropWhile_cons_of_neg (by decide)]
    simp only [hsigned, Option.map_some]
    rw [show -(year.natAbs : Int) = year by omega]
  · split
    · rename_i hlarge
      -- a year of five digits or more, which has a plus sign
      rw [readYear?, List.cons_append, List.dropWhile_cons_of_neg (by decide)]
      simp only [hsigned, Option.map_some]
      rw [show (year.natAbs : Int) = year by omega]
    · rename_i hnonnegative hsmall
      -- four digits without a sign are as many as the reader takes
      have hlength : (padded 4 year.natAbs).length = 4 := length_padded (by decide) (by omega)
      have hread : readDigits? 4 (padded 4 year.natAbs ++ rest) = some (year.natAbs, rest) := by
        rw [readDigits?_run (fun _ => isDigit_of_mem_padded) (padded_ne_nil 4 _)
          (Nat.le_of_eq hlength) (.inl hlength), digitsValue_padded]
      rw [readYear?, dropWhile_isBlank_padded]
      split
      · rename_i heq
        exact absurd heq (padded_append_ne_cons rfl)
      · rename_i heq
        exact absurd heq (padded_append_ne_cons rfl)
      · simp only [hread, Option.map_some]
        rw [show (year.natAbs : Int) = year by omega]

/-! ### Reading dates -/

/-- No month has more than 31 days. -/
theorem daysInMonth_le (year : Int) (month : Nat) : daysInMonth year month ≤ 31 := by
  rw [daysInMonth]
  split
  · split <;> omega
  · split <;> omega

/-- Every part but the year has two digits at most. -/
theorem parts_lt (d : DateTime) :
    d.month < 100 ∧ d.day < 100 ∧ d.hour < 100 ∧ d.minute < 100 ∧ d.second < 100 := by
  have hvalid := d.valid
  have hdays := daysInMonth_le d.year d.month
  simp only [isDay, isTimeOfDay, Bool.and_eq_true, decide_eq_true_eq] at hvalid
  omega

/-- The day of a date is read back from its text. -/
theorem readDay?_chars (d : DateTime) (rest : List Char) :
    readDay? (yearChars d.year ++ '-' :: (padded 2 d.month ++ '-' :: (padded 2 d.day ++ rest))) =
      some ((d.year, d.month, d.day), rest) := by
  obtain ⟨hmonth, hday, -⟩ := d.parts_lt
  have hyear := readYear?_yearChars d.year
    (.cons (c := '-') rfl (padded 2 d.month ++ '-' :: (padded 2 d.day ++ rest)))
  simp only [readDay?, hyear, Option.bind_eq_bind, Option.bind_some, expect, if_true,
    readPair?_padded hmonth, readPair?_padded hday]

/-- The time of a date is read back from its text. -/
theorem readTime?_chars (d : DateTime) :
    readTime? (padded 2 d.hour ++ ':' :: (padded 2 d.minute ++ ':' :: padded 2 d.second)) =
      some ((d.hour, d.minute, d.second), []) := by
  obtain ⟨-, -, hhour, hminute, hsecond⟩ := d.parts_lt
  have hlast := readPair?_padded hsecond []
  rw [List.append_nil] at hlast
  simp only [readTime?, readPair?_padded hhour, readPair?_padded hminute, hlast,
    Option.bind_eq_bind, Option.bind_some, expect, if_true]

/-- The text of a date, part by part from the front. -/
theorem chars_eq (d : DateTime) :
    d.chars = yearChars d.year ++ '-' :: (padded 2 d.month ++ '-' :: (padded 2 d.day ++
      'T' :: (padded 2 d.hour ++ ':' :: (padded 2 d.minute ++ ':' :: padded 2 d.second)))) := by
  simp only [chars, List.append_assoc, List.cons_append]

/-- A date is read back from its text. -/
theorem read?_chars (d : DateTime) : read? d.chars = some d := by
  rw [chars_eq, read?, readDay?_chars d]
  simp only [Option.bind_eq_bind, Option.bind_some, List.isEmpty_cons, Bool.false_eq_true,
    if_false, expect, if_true, readTime?_chars d, List.isEmpty_nil, of?]
  exact dif_pos d.valid

end DateTime

end EnsembleDesk
