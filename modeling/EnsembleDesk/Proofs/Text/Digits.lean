import EnsembleDesk.Number.Layout
import Mathlib.Algebra.Group.Nat.Defs
import Mathlib.Data.List.Induction
/-!
# Digits that are read back

A reader of digits takes as many as there are, so what follows a number must not begin with a digit
(`StartsWithout`). Under that condition the digits of a natural number are taken as a whole, and
their value is the number again (`digitsValue_digitsOf`). The other way round, digits are those of
their value if no zero stands in front of them (`digitsOf_digitsValue`).
-/

namespace EnsembleDesk

/-- A text that does not begin with a character of a kind; it may be empty. -/
def StartsWithout (p : Char → Bool) (text : List Char) : Prop := ∀ c ∈ text.head?, p c = false

namespace StartsWithout

variable {p : Char → Bool}

theorem nil : StartsWithout p [] := fun _ h => nomatch h

theorem cons {c : Char} (h : p c = false) (rest : List Char) : StartsWithout p (c :: rest) := by
  intro d hd
  obtain rfl := Option.some.inj hd
  exact h

/-- A text without a character of the kind in front begins with none. -/
theorem head {c : Char} {rest : List Char} (h : StartsWithout p (c :: rest)) : p c = false :=
  h c rfl

instance : ∀ text : List Char, Decidable (StartsWithout p text)
  | [] => isTrue nil
  | _ :: rest => decidable_of_iff _ ⟨fun h => cons h rest, head⟩

/-- What follows a text that is not empty is not its beginning. -/
theorem append {text : List Char} (h : StartsWithout p text) (hne : text ≠ [])
    (rest : List Char) : StartsWithout p (text ++ rest) := by
  cases text with
  | nil => exact absurd rfl hne
  | cons c text => exact .cons h.head (text ++ rest)

/-- A text that begins with none of more characters begins with none of fewer. -/
theorem mono {q : Char → Bool} {text : List Char} (h : StartsWithout q text)
    (hle : ∀ c, p c = true → q c = true) : StartsWithout p text := by
  intro c hc
  rw [Bool.eq_false_iff]
  intro hp
  simpa [h c hc] using hle c hp

/-- What is left of a run does not go on with the run. -/
theorem of_dropWhile (p : Char → Bool) (text : List Char) :
    StartsWithout p (text.dropWhile p) := by
  intro c hc
  have := List.head?_dropWhile_not p text
  rw [Option.mem_def.1 hc] at this
  exact this

end StartsWithout

section Runs

variable {p : Char → Bool} {text run rest : List Char}

/-- Nothing is taken from a text that does not begin with a character of the kind. -/
theorem takeWhile_of_startsWithout (hrest : StartsWithout p rest) : rest.takeWhile p = [] := by
  cases rest with
  | nil => rfl
  | cons c rest => exact List.takeWhile_cons_of_neg (by simp [hrest.head])

/-- Nothing is dropped from a text that does not begin with the kind. -/
theorem dropWhile_of_startsWithout (hrest : StartsWithout p rest) : rest.dropWhile p = rest := by
  cases rest with
  | nil => rfl
  | cons c rest => exact List.dropWhile_cons_of_neg (by simp [hrest.head])

/-- What follows does not change what is taken, unless it would continue it. -/
theorem takeWhile_append_of_startsWithout (hrest : StartsWithout p rest) :
    (text ++ rest).takeWhile p = text.takeWhile p := by
  induction text with
  | nil => exact takeWhile_of_startsWithout hrest
  | cons c text ih => rw [List.cons_append, List.takeWhile_cons, List.takeWhile_cons, ih]

/-- A run does not go on into a text that does not begin with the kind. -/
theorem dropWhile_append_of_startsWithout (hrest : StartsWithout p rest) :
    (text ++ rest).dropWhile p = text.dropWhile p ++ rest := by
  induction text with
  | nil => exact dropWhile_of_startsWithout hrest
  | cons c text ih =>
    rw [List.cons_append, List.dropWhile_cons, List.dropWhile_cons, ih]
    split
    · rfl
    · rfl

/-- A run of characters of a kind is taken as a whole. -/
theorem takeWhile_run (hrun : ∀ c ∈ run, p c = true) (hrest : StartsWithout p rest) :
    (run ++ rest).takeWhile p = run := by
  rw [List.takeWhile_append_of_pos hrun, takeWhile_of_startsWithout hrest, List.append_nil]

/-- What is left behind a run of characters of a kind. -/
theorem dropWhile_run (hrun : ∀ c ∈ run, p c = true) (hrest : StartsWithout p rest) :
    (run ++ rest).dropWhile p = rest := by
  rw [List.dropWhile_append_of_pos hrun, dropWhile_of_startsWithout hrest]

end Runs

/-! ### Natural numbers -/

namespace Decimal

/-- The text of a number consists of digits. -/
theorem isDigit_of_mem_digitsOf {n : Nat} {c : Char} (h : c ∈ digitsOf n) : c.isDigit = true :=
  Nat.isDigit_of_mem_toDigits (by decide) (Nat.le_refl 10) h

/-- The text of a number is not empty. -/
theorem digitsOf_ne_nil (n : Nat) : digitsOf n ≠ [] := Nat.toDigits_ne_nil

/-- The text of a number other than zero begins with no zero. -/
theorem head?_digitsOf_ne {n : Nat} (h : n ≠ 0) : (digitsOf n).head? ≠ some '0' := by
  induction n using Nat.strongRecOn with
  | ind n ih =>
    have hdigit : ∀ d < 10, d ≠ 0 → Nat.digitChar d ≠ '0' := by decide
    rw [digitsOf, Nat.toDigits_eq_if (by decide)]
    split
    · rename_i hlt
      simpa using hdigit n hlt h
    -- the first digit is that of the number without its last digit
    · rename_i hle
      have hfirst := ih (n / 10) (by omega) (by omega)
      obtain ⟨c, rest, hdigits⟩ := List.exists_cons_of_ne_nil (digitsOf_ne_nil (n / 10))
      rw [hdigits] at hfirst
      rw [digitsOf] at hdigits
      rw [hdigits]
      exact hfirst

/-- No zero stands in front of another digit of a number. -/
theorem digitsOf_ne_zero_cons (n : Nat) (c : Char) (rest : List Char) :
    digitsOf n ≠ '0' :: c :: rest := by
  rintro h
  by_cases hn : n = 0
  · rw [hn, digitsOf, Nat.toDigits_zero] at h
    cases h
  · exact head?_digitsOf_ne hn (by rw [h]; rfl)

/-- A number below a power of ten has as many digits at most. -/
theorem length_digitsOf_le {n k : Nat} (hk : 0 < k) (h : n < 10 ^ k) : (digitsOf n).length ≤ k :=
  (Nat.length_toDigits_le_iff (by decide) hk).2 h

end Decimal

/-- The digits of a number write that number. -/
theorem digitsValue_digitsOf (n : Nat) : digitsValue (Decimal.digitsOf n) = n :=
  Nat.ofDigitChars_ten_toDigits

/-- Zeros in front of digits do not change their value. -/
theorem digitsValue_zeros_append (k : Nat) (digits : List Char) :
    digitsValue (zeros k ++ digits) = digitsValue digits := by
  -- digits are taken from the left, and as long as they are zeros the number stays zero
  have hzeros : Nat.ofDigitChars 10 (List.replicate k '0') 0 = 10 ^ k * 0 :=
    Nat.ofDigitChars_replicate_zero
  rw [Nat.mul_zero] at hzeros
  have happend := @Nat.ofDigitChars_append 10 (zeros k) digits 0
  rw [zeros, hzeros] at happend
  exact happend

/-- Another digit is added in the last place. -/
theorem digitsValue_concat (digits : List Char) (c : Char) :
    digitsValue (digits ++ [c]) = 10 * digitsValue digits + digitValue c :=
  List.foldl_append

/-- Zeros behind digits multiply their value. -/
theorem digitsValue_append_zeros (digits : List Char) (k : Nat) :
    digitsValue (digits ++ zeros k) = digitsValue digits * 10 ^ k := by
  induction k with
  | zero => rw [zeros, List.replicate_zero, List.append_nil, Nat.pow_zero, Nat.mul_one]
  | succ k ih =>
    rw [zeros, List.replicate_succ', ← List.append_assoc, digitsValue_concat, ← zeros, ih,
      Nat.mul_comm, Nat.mul_assoc, ← Nat.pow_succ]
    rfl

/-! ### Runs of digits -/

/-- Zeros are digits. -/
theorem isDigit_of_mem_zeros {n : Nat} {c : Char} (h : c ∈ zeros n) : c.isDigit = true := by
  rw [List.eq_of_mem_replicate h]
  rfl

/-- The value of a digit is nine at most. -/
theorem digitValue_le {c : Char} (h : c.isDigit = true) : digitValue c ≤ 9 :=
  Nat.sub_le_sub_right (Char.isDigit_iff_toNat.1 h).2 '0'.toNat

/-- Digits write a number below the power of ten that their number is the exponent of. -/
theorem digitsValue_lt {digits : List Char} (h : ∀ c ∈ digits, c.isDigit = true) :
    digitsValue digits < 10 ^ digits.length := by
  induction digits using List.reverseRecOn with
  | nil => decide
  | append_singleton digits c ih =>
    have hdigits := ih fun d hd => h d (List.mem_append_left _ hd)
    have hc := digitValue_le (h c (List.mem_append_right _ (List.mem_singleton.2 rfl)))
    rw [digitsValue_concat, List.length_append, List.length_singleton, Nat.pow_succ]
    omega

/-- The text of the value of a digit is that digit. -/
theorem digitsOf_digitValue {c : Char} (h : c.isDigit = true) :
    Decimal.digitsOf (digitValue c) = [c] := by
  have hlow : '0'.toNat ≤ c.toNat := (Char.isDigit_iff_toNat.1 h).1
  have hlt : digitValue c < 10 := Nat.lt_succ_of_le (digitValue_le h)
  have hchar : (Nat.digitChar (digitValue c)).toNat = c.toNat := by
    rw [Nat.toNat_digitChar_of_lt_ten hlt]
    exact Nat.add_sub_cancel' hlow
  rw [Decimal.digitsOf, Nat.toDigits_of_lt_base hlt, Char.toNat_inj.1 hchar]

/-- Digits that begin with another one than zero are those of the number that they write. -/
theorem digitsOf_digitsValue {digits : List Char} (hne : digits ≠ [])
    (hdigits : ∀ c ∈ digits, c.isDigit = true) (hzero : digits.head? ≠ some '0') :
    Decimal.digitsOf (digitsValue digits) = digits := by
  induction digits using List.reverseRecOn with
  | nil => exact absurd rfl hne
  | append_singleton front c ih =>
    have hc := hdigits c (List.mem_append_right _ List.mem_cons_self)
    cases front with
    | nil =>
      have hvalue : digitsValue ([] ++ [c]) = digitValue c := Nat.zero_add _
      rw [hvalue, digitsOf_digitValue hc, List.nil_append]
    | cons d front =>
      have hfront := ih (List.cons_ne_nil d front)
        (fun e he => hdigits e (List.mem_append_left _ he)) hzero
      -- the digits in front write another number than zero, since they do not begin with it
      have hpos : 0 < digitsValue (d :: front) := by
        refine Nat.pos_of_ne_zero fun hvalue => hzero ?_
        rw [hvalue] at hfront
        rw [List.cons_append, ← (List.cons.inj hfront).1]
        rfl
      rw [digitsValue_concat, Decimal.digitsOf, ← Nat.toDigits_append_toDigits (by decide) hpos
        (Nat.lt_succ_of_le (digitValue_le hc))]
      exact congrArg₂ (· ++ ·) hfront (digitsOf_digitValue hc)

end EnsembleDesk
