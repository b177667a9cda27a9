import EnsembleDesk.Json.Printer
import EnsembleDesk.Json.Reader
import EnsembleDesk.Proofs.Text.Digits
/-!
# Strings and numbers that are read back

A string is read back from its text, whatever its characters are (`WrittenJson.readString?_text`).
For a number that depends on how its digits are rounded: `JsonNumber.ReadsBack` says of a number
that its text alone is read as the number. What follows in a document does not change that, unless
it would continue the number (`WrittenJson.readNumber?_append`).
-/

namespace EnsembleDesk

/-! ### Strings -/

namespace WrittenChar

/-- A character as the reader of strings finds it: control characters without a short escape are
written in hexadecimal digits. -/
def ofChar (c : Char) : WrittenChar :=
  if c.toNat < 0x20 ∧ c ∉ ['\n', '\r', '\t', '\x08', '\x0c'] then unit c.toNat else char c

/-- A code unit below the surrogates is a character by itself. -/
theorem chars?_unit {n : Nat} (h : n < 0xD800) (rest : List WrittenChar) :
    chars? (unit n :: rest) = (chars? rest).map (Char.ofNat n :: ·) := by
  have hhigh : isHighSurrogate n = false := by
    rw [isHighSurrogate, decide_eq_false (by omega), Bool.false_and]
  have hlow : isLowSurrogate n = false := by
    rw [isLowSurrogate, decide_eq_false (by omega), Bool.false_and]
  cases rest with
  | nil => simp [chars?, hhigh, hlow]
  | cons next rest => cases next <;> simp [chars?, hhigh, hlow]

/-- The characters that are found are those of the text. -/
theorem chars?_map_ofChar (text : List Char) : chars? (text.map ofChar) = some text := by
  induction text with
  | nil => rfl
  | cons c text ih =>
    rw [List.map_cons, ofChar]
    split
    · rename_i hcontrol
      rw [chars?_unit (by omega), ih, Option.map_some, Char.ofNat_toNat]
    · rw [chars?, ih, Option.map_some]

end WrittenChar

namespace WrittenJson

open WrittenChar

/-- The hexadecimal digits of a control character are read as its number. -/
theorem hexNumber?_hexDigits : ∀ n < 0x20,
    hexNumber? ['0', '0', Json.hexDigit (n / 16), Json.hexDigit (n % 16)] = some n := by
  decide

/-- The characters that have a short escape, each with the letter of its escape. -/
def shortEscapes : List (Char × Char) :=
  [('"', '"'), ('\\', '\\'), ('\n', 'n'), ('\r', 'r'), ('\t', 't'), ('\x08', 'b'), ('\x0c', 'f')]

/-- A character with a short escape is written and found by it. -/
theorem escapedChar_short : ∀ escape ∈ shortEscapes,
    Json.escapedChar escape.1 = ['\\', escape.2] ∧ ofChar escape.1 = .char escape.1 := by
  decide

/-- A short escape is read as its character. -/
theorem readEscape?_short {escape : Char × Char} (h : escape ∈ shortEscapes) (rest : List Char) :
    readEscape? (escape.2 :: rest) = some (.char escape.1, rest) := by
  simp only [shortEscapes, List.mem_cons, List.not_mem_nil, or_false] at h
  rcases h with rfl | rfl | rfl | rfl | rfl | rfl | rfl <;> rfl

/-- A character is written by itself or by an escape that means it. -/
theorem escapedChar_cases (c : Char) :
    (∃ name, Json.escapedChar c = '\\' :: name ∧
      ∀ rest, readEscape? (name ++ rest) = some (ofChar c, rest)) ∨
      (Json.escapedChar c = [c] ∧ ofChar c = .char c ∧
        c ≠ '"' ∧ c ≠ '\\' ∧ ¬ c.toNat < 0x20) := by
  by_cases hshort : ∃ escape ∈ shortEscapes, escape.1 = c
  · obtain ⟨escape, hmem, rfl⟩ := hshort
    obtain ⟨hwritten, hchar⟩ := escapedChar_short escape hmem
    refine .inl ⟨[escape.2], hwritten, fun rest => ?_⟩
    rw [List.singleton_append, readEscape?_short hmem, hchar]
  obtain ⟨hquote, hslash, hline, hreturn, htab, hback, hfeed⟩ : c ≠ '"' ∧ c ≠ '\\' ∧ c ≠ '\n' ∧
      c ≠ '\r' ∧ c ≠ '\t' ∧ c ≠ '\x08' ∧ c ≠ '\x0c' := by
    simpa [shortEscapes, eq_comm] using hshort
  simp only [Json.escapedChar, hquote, hslash, hline, hreturn, htab, hback, hfeed, if_false]
  by_cases hcontrol : c.toNat < 0x20
  · -- the other control characters are written with four hexadecimal digits
    left
    rw [if_pos hcontrol]
    refine ⟨_, rfl, fun rest => ?_⟩
    have hunit : ofChar c = .unit c.toNat := by
      rw [ofChar, if_pos]
      simp [hcontrol, hline, hreturn, htab, hback, hfeed]
    simp only [List.cons_append, List.nil_append, readEscape?, readHex?,
      hexNumber?_hexDigits _ hcontrol, hunit, Option.map_some]
  · right
    rw [if_neg hcontrol]
    exact ⟨rfl, if_neg fun h => hcontrol h.1, hquote, hslash, hcontrol⟩

/-- One character of a string is read back. -/
theorem readChars?_escapedChar {bound : Nat} {c : Char} {text rest : List Char}
    {chars : List WrittenChar} (h : readChars? bound text = some (chars, rest)) :
    readChars? (bound + 1) (Json.escapedChar c ++ text) = some (ofChar c :: chars, rest) := by
  rcases escapedChar_cases c with ⟨name, hname, hread⟩ | ⟨hself, hchar, hquote, hslash, hcontrol⟩
  · rw [hname, List.cons_append, readChars?, if_neg (by decide), if_pos rfl, hread]
    simp only [Option.bind_eq_bind, Option.bind_some, h]
  · rw [hself, List.singleton_append, readChars?, if_neg hquote, if_neg hslash, if_neg hcontrol,
      h, hchar]
    rfl

/-- The characters of an escaped text are read up to the closing quotation mark. -/
theorem readChars?_text {text : List Char} {bound : Nat} (hbound : text.length < bound)
    (rest : List Char) :
    readChars? bound (text.flatMap Json.escapedChar ++ '"' :: rest) =
      some (text.map ofChar, rest) := by
  induction text generalizing bound with
  | nil =>
    obtain ⟨bound, rfl⟩ := Nat.exists_eq_succ_of_ne_zero (Nat.ne_of_gt hbound)
    rw [List.flatMap_nil, List.nil_append, readChars?, if_pos rfl, List.map_nil]
  | cons c text ih =>
    obtain ⟨bound, rfl⟩ := Nat.exists_eq_succ_of_ne_zero (Nat.ne_of_gt (Nat.zero_lt_of_lt hbound))
    rw [List.flatMap_cons, List.append_assoc, List.map_cons]
    exact readChars?_escapedChar (ih (Nat.lt_of_succ_lt_succ hbound))

/-- Escapes make no text shorter. -/
theorem length_le_length_flatMap_escapedChar (text : List Char) :
    text.length ≤ (text.flatMap Json.escapedChar).length := by
  induction text with
  | nil => exact Nat.le_refl _
  | cons c text ih =>
    have hpos : 0 < (Json.escapedChar c).length := by
      rcases escapedChar_cases c with ⟨name, hname, -⟩ | ⟨hself, -⟩
      · rw [hname]
        exact Nat.succ_pos _
      · rw [hself]
        exact Nat.one_pos
    rw [List.flatMap_cons, List.length_append, List.length_cons]
    omega

/-- A string is read back from what stands behind its opening quote. -/
theorem readString?_text (s : String) (rest : List Char) :
    readString? (s.toList.flatMap Json.escapedChar ++ '"' :: rest) =
      some (s.toList.map ofChar, rest) := by
  have hlength := length_le_length_flatMap_escapedChar s.toList
  refine readChars?_text ?_ rest
  rw [List.length_append]
  omega

/-- The characters that are found are those of the text. -/
theorem text?_map_ofChar (s : String) : WrittenChar.text? (s.toList.map ofChar) = some s := by
  rw [WrittenChar.text?, chars?_map_ofChar, Option.map_some, String.ofList_toList]

/-! ### Numbers -/

/-- Whether a character could continue a number. -/
def continuesNumber (c : Char) : Bool := c.isDigit || c == '.' || c == 'e' || c == 'E'

variable {text rest after : List Char}

/-- What does not continue a number does not begin with a digit. -/
theorem startsWithout_isDigit (h : StartsWithout continuesNumber rest) :
    StartsWithout Char.isDigit rest := by
  intro c hc
  have := h c hc
  simp only [continuesNumber, Bool.or_eq_false_iff] at this
  exact this.1.1.1

/-- The digits before the point are the same in front of what does not continue a number. -/
theorem readWhole?_append {digits : List Char} (hrest : StartsWithout continuesNumber rest)
    (h : readWhole? text = some (digits, after)) :
    readWhole? (text ++ rest) = some (digits, after ++ rest) := by
  simp only [readWhole?, takeWhile_append_of_startsWithout (startsWithout_isDigit hrest),
    dropWhile_append_of_startsWithout (startsWithout_isDigit hrest)] at h ⊢
  split at h
  · cases h
  · cases h
  · obtain ⟨rfl, rfl⟩ := Prod.mk.inj (Option.some.inj h)
    rfl

/-- The digits behind the point are the same in front of what does not continue a number. -/
theorem readFraction?_append {digits : List Char} (hrest : StartsWithout continuesNumber rest)
    (h : readFraction? text = some (digits, after)) :
    readFraction? (text ++ rest) = some (digits, after ++ rest) := by
  have hnone : ∀ text, (∀ tail, text ≠ '.' :: tail) → readFraction? text = some ([], text) := by
    intro text htext
    rw [readFraction?]
    exact fun tail htail => htext tail htail
  -- only a text that begins with a point has a fraction; what follows it begins with none
  by_cases hpoint : ∃ tail, text = '.' :: tail
  · obtain ⟨tail, rfl⟩ := hpoint
    simp only [List.cons_append, readFraction?,
      takeWhile_append_of_startsWithout (startsWithout_isDigit hrest),
      dropWhile_append_of_startsWithout (startsWithout_isDigit hrest)] at h ⊢
    split at h
    · cases h
    · rename_i hdigits
      obtain ⟨rfl, rfl⟩ := Prod.mk.inj (Option.some.inj h)
      rw [if_neg hdigits]
  · rw [hnone text fun tail htail => hpoint ⟨tail, htail⟩] at h
    obtain ⟨rfl, rfl⟩ := Prod.mk.inj (Option.some.inj h)
    refine hnone _ fun tail htail => ?_
    cases text with
    | nil =>
      rw [List.nil_append] at htail
      rw [htail] at hrest
      exact absurd hrest.head (by decide)
    | cons c text => exact hpoint ⟨text, by rw [(List.cons.inj htail).1]⟩

/-- The sign is the same whatever follows. -/
theorem readSign_append {c : Char} :
    Decimal.readSign (c :: text ++ rest) =
      ((Decimal.readSign (c :: text)).1, (Decimal.readSign (c :: text)).2 ++ rest) := by
  rw [List.cons_append, Decimal.readSign.eq_def, Decimal.readSign.eq_def]
  split
  · rename_i heq
    obtain ⟨rfl, rfl⟩ := List.cons.inj heq
    rfl
  · rename_i heq
    obtain ⟨rfl, rfl⟩ := List.cons.inj heq
    rfl
  · rename_i hminus hplus
    split
    · rename_i heq
      obtain ⟨rfl, rfl⟩ := List.cons.inj heq
      exact absurd rfl (hminus _)
    · rename_i heq
      obtain ⟨rfl, rfl⟩ := List.cons.inj heq
      exact absurd rfl (hplus _)
    · rfl

/-- The exponent is the same in front of what does not continue a number. -/
theorem readPower?_append {power : Option Int} (hrest : StartsWithout continuesNumber rest)
    (h : readPower? text = some (power, after)) :
    readPower? (text ++ rest) = some (power, after ++ rest) := by
  cases text with
  | nil =>
    obtain ⟨rfl, rfl⟩ := Prod.mk.inj (Option.some.inj h)
    cases rest with
    | nil => rfl
    | cons c rest =>
      -- no exponent may begin in what follows
      have hc : ¬ (c = 'e' ∨ c = 'E') := by
        rintro (rfl | rfl)
        · exact absurd hrest.head (by decide)
        · exact absurd hrest.head (by decide)
      rw [List.nil_append, readPower?, if_neg hc]
  | cons c text =>
    rw [List.cons_append]
    simp only [readPower?] at h ⊢
    split at h
    · rename_i hc
      rw [if_pos hc]
      cases text with
      | nil => cases h
      | cons d text =>
        -- the sign is part of the number, since a digit must follow it
        rw [readSign_append]
        simp only [takeWhile_append_of_startsWithout (startsWithout_isDigit hrest),
          dropWhile_append_of_startsWithout (startsWithout_isDigit hrest)] at h ⊢
        split at h
        · cases h
        · rename_i hdigits
          rw [if_neg hdigits]
          obtain ⟨rfl, rfl⟩ := Prod.mk.inj (Option.some.inj h)
          rfl
    · rename_i hc
      rw [if_neg hc]
      obtain ⟨rfl, rfl⟩ := Prod.mk.inj (Option.some.inj h)
      rfl

/-- Reads a number behind its sign. -/
def readMagnitude? (negative : Bool) (text : List Char) : Option (WrittenNumber × List Char) := do
  let (whole, text) ← readWhole? text
  let (fraction, text) ← readFraction? text
  let (power, text) ← readPower? text
  some (⟨negative, whole, fraction, power⟩, text)

/-- A number without a minus sign is its magnitude. -/
theorem readNumber?_of_ne_minus (h : ∀ tail, text ≠ '-' :: tail) :
    readNumber? text = readMagnitude? false text := by
  rw [readNumber?, readMagnitude?]
  exact fun tail htail => h tail htail

/-- The magnitude is the same in front of what does not continue a number. -/
theorem readMagnitude?_append {negative : Bool} {number : WrittenNumber}
    (hrest : StartsWithout continuesNumber rest)
    (h : readMagnitude? negative text = some (number, after)) :
    readMagnitude? negative (text ++ rest) = some (number, after ++ rest) := by
  simp only [readMagnitude?, Option.bind_eq_bind, Option.bind_eq_some_iff, Prod.exists] at h
  obtain ⟨whole, text₁, hwhole, fraction, text₂, hfraction, power, text₃, hpower, h⟩ := h
  obtain ⟨rfl, rfl⟩ := Prod.mk.inj (Option.some.inj h)
  simp only [readMagnitude?, Option.bind_eq_bind, readWhole?_append hrest hwhole,
    readFraction?_append hrest hfraction, readPower?_append hrest hpower, Option.bind_some]

/-- A number begins with a digit behind its sign. -/
theorem exists_digit_of_readMagnitude? {negative : Bool} {number : WrittenNumber}
    (h : readMagnitude? negative text = some (number, after)) :
    ∃ c tail, text = c :: tail ∧ c.isDigit = true := by
  cases text with
  | nil => cases h
  | cons c tail =>
    cases hc : c.isDigit with
    | true => exact ⟨c, tail, rfl, hc⟩
    | false =>
      have hwhole : readWhole? (c :: tail) = none := by
        rw [readWhole?, List.takeWhile_cons_of_neg (by rw [hc]; exact Bool.false_ne_true)]
      rw [readMagnitude?, hwhole] at h
      cases h

/-- A number begins with a minus sign or a digit. -/
theorem exists_cons_of_readNumber? {number : WrittenNumber}
    (h : readNumber? text = some (number, after)) :
    ∃ c tail, text = c :: tail ∧ (c = '-' ∨ c.isDigit = true) := by
  by_cases hminus : ∃ tail, text = '-' :: tail
  · obtain ⟨tail, rfl⟩ := hminus
    exact ⟨'-', tail, rfl, .inl rfl⟩
  · rw [readNumber?_of_ne_minus fun tail htail => hminus ⟨tail, htail⟩] at h
    obtain ⟨c, tail, htext, hc⟩ := exists_digit_of_readMagnitude? h
    exact ⟨c, tail, htext, .inr hc⟩

/-- What follows a number does not change it, unless it would continue it. -/
theorem readNumber?_append {number : WrittenNumber} (hrest : StartsWithout continuesNumber rest)
    (h : readNumber? text = some (number, after)) :
    readNumber? (text ++ rest) = some (number, after ++ rest) := by
  obtain ⟨c, tail, rfl, -⟩ := exists_cons_of_readNumber? h
  by_cases hc : c = '-'
  · subst hc
    exact readMagnitude?_append hrest h
  · have hminus : ∀ tail tail', c :: tail ≠ '-' :: tail' := fun _ _ heq => hc (List.cons.inj heq).1
    rw [readNumber?_of_ne_minus (hminus tail)] at h
    rw [List.cons_append, readNumber?_of_ne_minus (hminus _), ← List.cons_append]
    exact readMagnitude?_append hrest h

end WrittenJson

/-- The text of the number is read as another number. -/
def JsonNumber.ReadsAs (number other : JsonNumber) : Prop :=
  ∃ written, WrittenJson.readNumber? (Json.numberText number) = some (written, []) ∧
    written.value? = some other

/-- The text of the number is read as the number. -/
def JsonNumber.ReadsBack (number : JsonNumber) : Prop :=
  ∃ written, WrittenJson.readNumber? (Json.numberText number) = some (written, []) ∧
    written.value? = some number

instance (number : JsonNumber) : Decidable number.ReadsBack :=
  decidable_of_iff
    (∃ read ∈ WrittenJson.readNumber? (Json.numberText number),
      read.2 = [] ∧ read.1.value? = some number) <| by
    constructor
    · rintro ⟨⟨written, rest⟩, hread, rfl, hvalue⟩
      exact ⟨written, hread, hvalue⟩
    · rintro ⟨written, hread, hvalue⟩
      exact ⟨(written, []), hread, rfl, hvalue⟩

/-! ### Natural numbers -/

/-- Further digits make a significand no smaller. -/
theorem le_foldl_digits (significand : Nat) (digits : List Char) :
    significand ≤ digits.foldl (fun n c => 10 * n + digitValue c) significand := by
  induction digits generalizing significand with
  | nil => exact Nat.le_refl _
  | cons c digits ih => exact Nat.le_trans (by omega) (ih (10 * significand + digitValue c))

/-- Digits that fit 64 bits are all gathered. -/
theorem WrittenNumber.gather_eq {significand : Nat} {digits : List Char}
    (h : digits.foldl (fun n c => 10 * n + digitValue c) significand < Nat.pow 2 64) :
    gather significand digits =
      (digits.foldl (fun n c => 10 * n + digitValue c) significand, 0) := by
  induction digits generalizing significand with
  | nil => rfl
  | cons c digits ih =>
    rw [List.foldl_cons] at h
    have hfits := Nat.lt_of_le_of_lt (le_foldl_digits _ digits) h
    rw [gather, if_pos hfits, ih h, List.foldl_cons]

/-- A natural number of 64 bits is read back. -/
theorem JsonNumber.readsBack_natural {n : Nat} (h : n < Nat.pow 2 64) :
    (JsonNumber.integer n).ReadsBack := by
  have htext : Json.numberText (.integer n) = Decimal.digitsOf n := by
    rw [Json.numberText, intText, if_neg (by omega), Int.natAbs_natCast, natText,
      String.toList_ofList]
  have hdigits : ∀ c ∈ Decimal.digitsOf n, c.isDigit = true :=
    fun c hc => Decimal.isDigit_of_mem_digitsOf hc
  -- the digits are read to their end, as none stands behind a leading zero
  have hwhole : WrittenJson.readWhole? (Decimal.digitsOf n) = some (Decimal.digitsOf n, []) := by
    have hend : StartsWithout Char.isDigit [] := .nil
    have htake := takeWhile_run hdigits hend
    have hdrop := dropWhile_run hdigits hend
    rw [List.append_nil] at htake hdrop
    rw [WrittenJson.readWhole?]
    simp only [htake, hdrop]
    split
    · rename_i hnil
      exact absurd hnil (Decimal.digitsOf_ne_nil n)
    · rename_i hzero
      exact absurd hzero (Decimal.digitsOf_ne_zero_cons n _ _)
    · rfl
  have hminus : ∀ tail, Decimal.digitsOf n ≠ '-' :: tail := by
    intro tail heq
    exact absurd (hdigits '-' (heq ▸ List.mem_cons_self)) (by decide)
  refine ⟨⟨false, Decimal.digitsOf n, [], none⟩, ?_, ?_⟩
  · rw [htext, WrittenJson.readNumber?_of_ne_minus hminus, WrittenJson.readMagnitude?, hwhole]
    rfl
  · have hvalue : digitsValue (Decimal.digitsOf n) = n := digitsValue_digitsOf n
    rw [digitsValue] at hvalue
    simp [WrittenNumber.value?, WrittenNumber.gather_eq (hvalue ▸ h), hvalue]

end EnsembleDesk
