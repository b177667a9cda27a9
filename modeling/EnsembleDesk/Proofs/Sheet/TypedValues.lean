import EnsembleDesk.Proofs.Number.PlainText
import EnsembleDesk.Proofs.Sheet.DateText
import EnsembleDesk.Sheet.CellValue
/-!
# Typed values that stay what they are

What is typed is taken as a number, a truth value, a date or a text, in this order. A value that was
typed is shown as a text that means the same value again: the texts of numbers, truth values and
dates have no blanks that would be dropped, each is read as the value that it shows, and none is
taken for a value of a kind that comes before. A text is shown as it was typed.

## Main results

* `CellValue.ofInput_display`: the text of a value that was typed means that value, and the text of
  a date is read as that date.
-/

namespace EnsembleDesk

/-- Nothing is dropped from a text without blanks. -/
theorem trimBlanks_of_forall {text : List Char} (h : ∀ c ∈ text, isBlank c = false) :
    trimBlanks text = text := by
  have hstart : StartsWithout isBlank text := fun c hc => h c (List.mem_of_mem_head? hc)
  have hend : StartsWithout isBlank text.reverse := fun c hc =>
    h c (List.mem_reverse.1 (List.mem_of_mem_head? hc))
  rw [trimBlanks, dropWhile_of_startsWithout hstart, dropWhile_of_startsWithout hend,
    List.reverse_reverse]

/-- The text of a finite number has no blanks. -/
theorem Binary64.isBlank_of_mem_plain {x : Binary64} (h : x.isFinite = true) {c : Char}
    (hc : c ∈ x.plain.toList) : isBlank c = false := by
  cases x with
  | nan => cases h
  | signed negative rank =>
    rw [toList_plain_signed (bne_iff_ne.1 h)] at hc
    rcases List.mem_append.1 hc with hc | hc
    · cases negative with
      | true =>
        rw [List.mem_singleton.1 hc]
        decide
      | false => cases hc
    · rcases mem_positional (Decimal.digitsOf_ne_nil _) hc with hc | rfl | rfl
      · exact isBlank_of_isDigit (Decimal.isDigit_of_mem_digitsOf hc)
      · decide
      · decide

namespace DateTime

/-! ### Texts of dates -/

theorem isBlank_of_mem_padded {width n : Nat} : ∀ c ∈ padded width n, isBlank c = false :=
  fun _ hc => isBlank_of_isDigit (isDigit_of_mem_padded hc)

theorem isBlank_of_mem_yearChars (year : Int) : ∀ c ∈ yearChars year, isBlank c = false := by
  rw [yearChars]
  split
  · exact List.forall_mem_cons.2 ⟨by decide, isBlank_of_mem_padded⟩
  split
  · exact List.forall_mem_cons.2 ⟨by decide, isBlank_of_mem_padded⟩
  · exact isBlank_of_mem_padded

/-- The text of a date has no blanks. -/
theorem isBlank_of_mem_chars (d : DateTime) : ∀ c ∈ d.chars, isBlank c = false := by
  have hmarks : isBlank '-' = false ∧ isBlank 'T' = false ∧ isBlank ':' = false := by decide
  have hyear := isBlank_of_mem_yearChars d.year
  have hpadded (n : Nat) : ∀ c ∈ padded 2 n, isBlank c = false := isBlank_of_mem_padded
  rw [chars_eq]
  simp only [List.forall_mem_append, List.forall_mem_cons]
  exact ⟨hyear, hmarks.1, hpadded _, hmarks.1, hpadded _, hmarks.2.1, hpadded _, hmarks.2.2,
    hpadded _, hmarks.2.2, hpadded _⟩

/-- A year is a sign, or none, and digits. -/
theorem exists_readSign_yearChars (year : Int) (rest : List Char) :
    ∃ negative, Decimal.readSign (yearChars year ++ rest) =
      (negative, padded 4 year.natAbs ++ rest) := by
  rw [yearChars]
  split
  · exact ⟨true, rfl⟩
  split
  · exact ⟨false, rfl⟩
  · obtain ⟨c, digits, hdigits⟩ := List.exists_cons_of_ne_nil (padded_ne_nil 4 year.natAbs)
    have hmem : c ∈ padded 4 year.natAbs := hdigits ▸ List.mem_cons_self
    refine ⟨false, ?_⟩
    rw [hdigits, List.cons_append, Decimal.readSign_of_isDigit (isDigit_of_mem_padded hmem)]

/-- The text of a date is no number, since a hyphen stands behind the digits of the year. -/
theorem binary64_read?_chars (d : DateTime) : Binary64.read? d.chars = none := by
  obtain ⟨rest, hchars⟩ : ∃ rest, d.chars = yearChars d.year ++ '-' :: rest := ⟨_, d.chars_eq⟩
  obtain ⟨negative, hsign⟩ := exists_readSign_yearChars d.year ('-' :: rest)
  obtain ⟨c, digits, hdigits⟩ := List.exists_cons_of_ne_nil (padded_ne_nil 4 d.year.natAbs)
  have hmem : c ∈ padded 4 d.year.natAbs := hdigits ▸ List.mem_cons_self
  rw [hdigits, List.cons_append, ← hchars] at hsign
  rw [Binary64.read?_of_digit hsign (isDigit_of_mem_padded hmem), ← List.cons_append, ← hdigits,
    Decimal.readUnsigned?_of_hyphen negative (fun _ => isDigit_of_mem_padded), Option.map_none]

/-- The text of a date has a colon, and is none of the texts that have none. -/
theorem chars_ne (d : DateTime) {text : List Char} (h : ':' ∉ text) : d.chars ≠ text := by
  rintro rfl
  exact h (by simp [chars])

end DateTime

namespace CellValue

/-! ### What a text means -/

/-- What is typed is a finite number, a truth value, a date, or the text as it was typed. -/
theorem eq_or_of_ofInput {input : List Char} {v : CellValue} (h : ofInput input = some v) :
    (∃ x : Binary64, x.isFinite = true ∧ v = number x) ∨ (∃ b, v = boolean b) ∨
      (∃ d, v = date d) ∨ v = text (String.ofList input) := by
  simp only [ofInput] at h
  split at h
  · cases h
  split at h
  · rename_i x hread
    obtain ⟨-, hfinite⟩ := Option.filter_eq_some_iff.1 hread
    exact .inl ⟨x, hfinite, (Option.some.inj h).symm⟩
  split at h
  · exact .inr (.inl ⟨true, (Option.some.inj h).symm⟩)
  split at h
  · exact .inr (.inl ⟨false, (Option.some.inj h).symm⟩)
  split at h
  · exact .inr (.inr (.inl ⟨_, (Option.some.inj h).symm⟩))
  · exact .inr (.inr (.inr (Option.some.inj h).symm))

/-- The text of a finite number means the number. -/
theorem ofInput_plain {x : Binary64} (h : x.isFinite = true) :
    ofInput x.plain.toList = some (number x) := by
  have hread := Binary64.readFinite?_plain h
  have htrim : trimBlanks x.plain.toList = x.plain.toList :=
    trimBlanks_of_forall fun _ => Binary64.isBlank_of_mem_plain h
  have hempty : x.plain.toList.isEmpty = false := by
    refine List.isEmpty_eq_false_iff.2 fun hnil => ?_
    rw [hnil] at hread
    cases hread
  simp only [ofInput, htrim, hempty, Bool.false_eq_true, if_false, hread]

/-- The text of a date means the date: it is no number and no truth value. -/
theorem ofInput_chars (d : DateTime) : ofInput d.chars = some (date d) := by
  have htrim : trimBlanks d.chars = d.chars := trimBlanks_of_forall d.isBlank_of_mem_chars
  have hempty : d.chars.isEmpty = false := List.isEmpty_eq_false_iff.2 (d.chars_ne List.not_mem_nil)
  have hnumber : Binary64.readFinite? d.chars = none := by
    rw [Binary64.readFinite?, d.binary64_read?_chars, Option.filter_none]
  have htrue : d.chars ≠ "TRUE".toList := d.chars_ne (by decide)
  have hfalse : d.chars ≠ "FALSE".toList := d.chars_ne (by decide)
  simp only [ofInput, htrim, hempty, Bool.false_eq_true, if_false, hnumber, htrue, hfalse,
    d.read?_chars]

/-- A value that was typed is shown as a text that means the same value again, a zero with its sign,
and every date is read from the text that it is written as. -/
theorem ofInput_display :
    (∀ input v, ofInput input = some v → ofInput v.display.toList = some v) ∧
      ∀ d : DateTime, DateTime.read? d.text.toList = some d := by
  refine ⟨fun input v h => ?_, fun d => ?_⟩
  · -- a finite number, a truth value, a date, or a text that means none of these
    obtain ⟨x, hfinite, rfl⟩ | ⟨b, rfl⟩ | ⟨d, rfl⟩ | rfl := eq_or_of_ofInput h
    · exact ofInput_plain hfinite
    · cases b with
      | true => decide
      | false => decide
    · rw [display, DateTime.text, String.toList_ofList, ofInput_chars]
    · rw [display, String.toList_ofList, h]
  · rw [DateTime.text, String.toList_ofList, d.read?_chars]

/-- A negative zero, a date without a time of day and a leap second in a year of five digits are
shown in other words than they were typed, and mean the same. -/
theorem ofInput_display_otherWords :
    (∃ v, ofInput " -0.00".toList = some v ∧ v.display = "-0" ∧ ofInput "-0".toList = some v) ∧
      (∃ v, ofInput "-44-3-15\t".toList = some v ∧ v.display = "-0044-03-15T00:00:00" ∧
        ofInput "-0044-03-15T00:00:00".toList = some v) ∧
      ∃ v, ofInput "+12345-6-7T8:9:60".toList = some v ∧ v.display = "+12345-06-07T08:09:60" ∧
        ofInput "+12345-06-07T08:09:60".toList = some v := by
  have hshown (input shown : String) (h : (ofInput input.toList).map display = some shown) :
      ∃ v, ofInput input.toList = some v ∧ v.display = shown ∧ ofInput shown.toList = some v := by
    obtain ⟨v, hv, rfl⟩ := Option.map_eq_some_iff.1 h
    exact ⟨v, hv, rfl, ofInput_display.1 _ _ hv⟩
  exact ⟨hshown _ _ (by decide +kernel), hshown _ _ (by decide +kernel),
    hshown _ _ (by decide +kernel)⟩

end CellValue

end EnsembleDesk
