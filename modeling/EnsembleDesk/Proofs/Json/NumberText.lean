import EnsembleDesk.Json.Printer
import EnsembleDesk.Proofs.Json.Scaling
import EnsembleDesk.Proofs.Number.Shortest
/-!
# Texts of finite numbers

The text of a finite number is a number to every reader of JSON, and a finite one: its digits stand
for a decimal number that is rounded to the number itself, so they are no larger than the next one,
and a reader may miss the number but does not leave the finite ones. Only the texts of the two
largest numbers stand for more than is certain to stay finite, and those are read by themselves
(`Binary64.read_largest`).

## Main results

* `Binary64.exists_read_json`: the text of a finite number is read as a finite number.
-/

namespace EnsembleDesk

namespace WrittenJson

variable {whole fraction rest : List Char}

/-- Digits that may stand in front of a point. -/
structure IsWhole (digits : List Char) : Prop where
  /-- There is a digit. -/
  ne_nil : digits ≠ []
  /-- There is nothing else. -/
  digit : ∀ c ∈ digits, c.isDigit = true
  /-- No zero stands in front of another digit. -/
  ne_zero_cons : ∀ c rest, digits ≠ '0' :: c :: rest

/-- A single digit may stand in front of a point, also a zero. -/
theorem isWhole_singleton {c : Char} (h : c.isDigit = true) : IsWhole [c] where
  ne_nil := List.cons_ne_nil _ _
  digit _ hd := List.mem_singleton.1 hd ▸ h
  ne_zero_cons d rest heq := List.cons_ne_nil d rest (List.cons.inj heq).2.symm

/-- The digits in front of a point are read as far as they go. -/
theorem readWhole?_run (hwhole : IsWhole whole) (hrest : StartsWithout Char.isDigit rest) :
    readWhole? (whole ++ rest) = some (whole, rest) := by
  rw [readWhole?, takeWhile_run hwhole.digit hrest, dropWhile_run hwhole.digit hrest]
  split
  · exact absurd rfl hwhole.ne_nil
  · exact absurd rfl (hwhole.ne_zero_cons _ _)
  · rfl

/-- A point and the digits behind it are read as far as the digits go. -/
theorem readFraction?_run (hne : fraction ≠ []) (hfraction : ∀ c ∈ fraction, c.isDigit = true)
    (hrest : StartsWithout Char.isDigit rest) :
    readFraction? ('.' :: (fraction ++ rest)) = some (fraction, rest) := by
  have hempty : fraction.isEmpty = false := List.isEmpty_eq_false_iff.2 hne
  simp only [readFraction?, takeWhile_run hfraction hrest, dropWhile_run hfraction hrest, hempty,
    Bool.false_eq_true, if_false]

/-- The text of an exponent with its sign. -/
def powerText (n : Int) : List Char :=
  'e' :: ((if 0 ≤ n then ['+'] else []) ++ (intText n).toList)

/-- The text of an exponent is read back as the exponent. -/
theorem readPower?_powerText (n : Int) : readPower? (powerText n) = some (some n, []) := by
  have hdigits : ∀ c ∈ Decimal.digitsOf n.natAbs, c.isDigit = true :=
    fun c hc => Decimal.isDigit_of_mem_digitsOf hc
  have htake := takeWhile_run hdigits .nil
  have hdrop := dropWhile_run hdigits .nil
  have hempty : (Decimal.digitsOf n.natAbs).isEmpty = false :=
    List.isEmpty_eq_false_iff.2 (Decimal.digitsOf_ne_nil _)
  rw [List.append_nil] at htake hdrop
  -- behind the sign all digits are read, so it is left to read the sign
  have hread : ∀ negative, Decimal.readSign ((if 0 ≤ n then ['+'] else []) ++ (intText n).toList) =
      (negative, Decimal.digitsOf n.natAbs) →
      readPower? (powerText n) = some (some (if negative then -(n.natAbs : Int) else n.natAbs),
        []) := by
    intro negative hsign
    simp only [powerText, readPower?, true_or, if_true, hsign, htake, hdrop, hempty,
      digitsValue_digitsOf, Bool.false_eq_true, if_false]
  by_cases hn : 0 ≤ n
  · rw [hread false]
    · simp [abs_of_nonneg hn]
    · rw [if_pos hn, intText, if_neg (Int.not_lt.2 hn), natText, String.toList_ofList]
      rfl
  · have hneg := Int.not_le.1 hn
    rw [hread true]
    · simp [abs_of_neg hneg]
    · have htext : (intText n).toList = '-' :: Decimal.digitsOf n.natAbs := by
        have hnat : (natText n.natAbs).toList = Decimal.digitsOf n.natAbs := by
          rw [natText, String.toList_ofList]
        rw [intText, if_pos hneg, String.toList_append, hnat]
        rfl
      rw [if_neg hn, htext]
      rfl

/-- Digits with a point and no exponent are a number. -/
theorem readMagnitude?_point (negative : Bool) (hwhole : IsWhole whole) (hne : fraction ≠ [])
    (hfraction : ∀ c ∈ fraction, c.isDigit = true) :
    readMagnitude? negative (whole ++ '.' :: fraction) =
      some (⟨negative, whole, fraction, none⟩, []) := by
  have hread : readWhole? (whole ++ '.' :: fraction) = some (whole, '.' :: fraction) :=
    readWhole?_run hwhole (.cons rfl _)
  have hpoint := readFraction?_run hne hfraction .nil
  rw [List.append_nil] at hpoint
  rw [readMagnitude?, hread]
  simp only [Option.bind_eq_bind, Option.bind_some, hpoint]
  rfl

/-- A digit and an exponent are a number, also with a fraction between them. -/
theorem readMagnitude?_leadingDigit (negative : Bool) {c : Char}
    (hdigits : ∀ d ∈ c :: fraction, d.isDigit = true) (n : Int) :
    readMagnitude? negative (leadingDigit (c :: fraction) ++ powerText n) =
      some (⟨negative, [c], fraction, some n⟩, []) := by
  have hwhole := isWhole_singleton (hdigits c List.mem_cons_self)
  cases fraction with
  | nil =>
    have hread : readWhole? ([c] ++ powerText n) = some ([c], powerText n) :=
      readWhole?_run hwhole (.cons rfl _)
    have hnone : readFraction? (powerText n) = some ([], powerText n) := rfl
    rw [leadingDigit, readMagnitude?, hread]
    simp only [Option.bind_eq_bind, Option.bind_some, hnone, readPower?_powerText]
  | cons d fraction =>
    have hread : readWhole? ([c] ++ '.' :: (d :: fraction ++ powerText n)) =
        some ([c], '.' :: (d :: fraction ++ powerText n)) := readWhole?_run hwhole (.cons rfl _)
    have hpoint : readFraction? ('.' :: (d :: fraction ++ powerText n)) =
        some (d :: fraction, powerText n) :=
      readFraction?_run (List.cons_ne_nil d fraction)
        (fun e he => hdigits e (List.mem_cons_of_mem _ he)) (.cons rfl _)
    have htext : leadingDigit (c :: d :: fraction) ++ powerText n =
        [c] ++ '.' :: (d :: fraction ++ powerText n) := rfl
    rw [htext, readMagnitude?, hread]
    simp only [Option.bind_eq_bind, Option.bind_some, hpoint, readPower?_powerText]

/-- A number with a sign is the number behind the sign, which is read for the sign. -/
theorem readNumber?_signed {text : List Char} {negative : Bool} {number : WrittenNumber}
    (h : readMagnitude? negative text = some (number, [])) :
    readNumber? ((if negative then ['-'] else []) ++ text) = some (number, []) := by
  cases negative with
  | true => exact h
  | false =>
    obtain ⟨c, tail, rfl, hc⟩ := exists_digit_of_readMagnitude? h
    have hminus : ∀ rest, c :: tail ≠ '-' :: rest := by
      intro rest heq
      rw [(List.cons.inj heq).1] at hc
      cases hc
    exact (readNumber?_of_ne_minus hminus).trans h

end WrittenJson

/-! ### Texts of decimal numbers -/

namespace Decimal

/-- The digits of a decimal number. -/
def digits (d : Decimal) : List Char := digitsOf d.coefficient

/-- The number of digits in front of the point; not above zero if the point stands in front of
them. -/
def point (d : Decimal) : Int := d.digits.length + d.exponent

/-- A decimal number as JSON lays it out. -/
def json (d : Decimal) : List Char :=
  let first := (d.digits.length : Int) - 1 + d.exponent
  if -5 ≤ first && first ≤ 15 then
    positional d.digits d.exponent ++ (if 0 ≤ d.exponent then ['.', '0'] else [])
  else leadingDigit d.digits ++ WrittenJson.powerText first

/-- What the text of a decimal number is read as: at most sixteen digits stand in front of a point,
and an exponent gives the value of the decimal number. -/
structure ReadAs (d : Decimal) (negative : Bool) (number : WrittenNumber) : Prop where
  /-- The text is a number. -/
  read : WrittenJson.readMagnitude? negative d.json = some (number, [])
  /-- It is no integer. -/
  fractional : number.fraction ≠ [] ∨ number.power ≠ none
  /-- The digits in front of the point have 64 bits. -/
  whole : digitsValue number.whole < Nat.pow 2 64
  /-- It is less than `10 ^ 16`, or the decimal number. -/
  value : number.exact < 10 ^ 16 ∨ number.exact = d.value

variable {d : Decimal}

/-- A number without exponent is less than the power of ten of the digits in front of its point. -/
theorem exact_point_lt {negative : Bool} {whole fraction : List Char} {n : Nat}
    (hwhole : ∀ c ∈ whole, c.isDigit = true) (hfraction : ∀ c ∈ fraction, c.isDigit = true)
    (hlength : whole.length ≤ n) :
    (WrittenNumber.mk negative whole fraction none).exact < 10 ^ n := by
  have hdigits : ∀ c ∈ whole ++ fraction, c.isDigit = true := fun c hc =>
    (List.mem_append.1 hc).elim (hwhole c) (hfraction c)
  have hlt : (digitsValue (whole ++ fraction) : ℚ) < 10 ^ (whole.length + fraction.length) := by
    rw [← List.length_append]
    exact_mod_cast digitsValue_lt hdigits
  rw [WrittenNumber.exact, Option.getD_none, zero_sub, zpow_neg, zpow_natCast, ← div_eq_mul_inv,
    div_lt_iff₀ (by positivity)]
  calc (digitsValue (whole ++ fraction) : ℚ) < 10 ^ (whole.length + fraction.length) := hlt
    _ = 10 ^ whole.length * 10 ^ fraction.length := pow_add _ _ _
    _ ≤ 10 ^ n * 10 ^ fraction.length := by
      gcongr
      norm_num

/-- All digits of a decimal number are digits. -/
theorem isDigit_of_mem_digits {c : Char} (h : c ∈ d.digits) : c.isDigit = true :=
  isDigit_of_mem_digitsOf h

/-- A decimal number has digits. -/
theorem digits_ne_nil (d : Decimal) : d.digits ≠ [] := digitsOf_ne_nil d.coefficient

/-- A decimal number has at least one digit. -/
theorem length_digits_pos (d : Decimal) : 0 < d.digits.length :=
  List.length_pos_iff.2 d.digits_ne_nil

/-- Without an exponent, JSON lays a decimal number out as it is displayed, with a fraction of zero
behind a whole number. -/
theorem json_eq_positional (hlow : -5 < d.point) (hhigh : d.point ≤ 16) :
    d.json = positional d.digits d.exponent ++ (if 0 ≤ d.exponent then ['.', '0'] else []) := by
  rw [point] at hlow hhigh
  have hfirst : (decide (-5 ≤ (d.digits.length : Int) - 1 + d.exponent) &&
      decide ((d.digits.length : Int) - 1 + d.exponent ≤ 15)) = true := by
    rw [Bool.and_eq_true, decide_eq_true_iff, decide_eq_true_iff]
    omega
  exact if_pos hfirst

/-- Digits in front of a point and behind it. -/
theorem readAs_point (negative : Bool) {whole fraction : List Char}
    (htext : d.json = whole ++ '.' :: fraction) (hwhole : WrittenJson.IsWhole whole)
    (hlength : whole.length ≤ 16) (hne : fraction ≠ [])
    (hfraction : ∀ c ∈ fraction, c.isDigit = true) :
    d.ReadAs negative ⟨negative, whole, fraction, none⟩ where
  read := by rw [htext, WrittenJson.readMagnitude?_point negative hwhole hne hfraction]
  fractional := .inl hne
  whole := by
    have hlt := digitsValue_lt hwhole.digit
    have hle : 10 ^ whole.length ≤ 10 ^ 16 := Nat.pow_le_pow_right (by decide) hlength
    exact Nat.lt_of_lt_of_le hlt (Nat.le_trans hle (by decide +kernel))
  value := .inl (exact_point_lt hwhole.digit hfraction hlength)

/-- A large number: zeros behind the digits, and one more behind the point. -/
theorem exists_readAs_of_exponent (hzero : d.coefficient = 0 → d.exponent = 0)
    (hexponent : 0 ≤ d.exponent) (hhigh : d.point ≤ 16) (negative : Bool) :
    ∃ number, d.ReadAs negative number := by
  have hpositive := d.length_digits_pos
  have htext : d.json = (d.digits ++ zeros d.exponent.toNat) ++ '.' :: ['0'] := by
    rw [json_eq_positional (by rw [point]; omega) hhigh, if_pos hexponent, positional,
      if_pos hexponent]
  have hwhole : WrittenJson.IsWhole (d.digits ++ zeros d.exponent.toNat) := by
    refine ⟨List.append_ne_nil_of_left_ne_nil d.digits_ne_nil _, fun c hc => ?_,
      fun c rest heq => ?_⟩
    · exact (List.mem_append.1 hc).elim isDigit_of_mem_digits isDigit_of_mem_zeros
    · -- a digit in front of others is not zero, since the coefficient has no leading zeros
      by_cases hc : d.coefficient = 0
      · rw [hzero hc, digits, hc, digitsOf, Nat.toDigits_zero] at heq
        cases heq
      · have hhead := head?_digitsOf_ne hc
        obtain ⟨e, tail, hcons⟩ := List.exists_cons_of_ne_nil d.digits_ne_nil
        rw [hcons] at heq
        rw [← digits, hcons] at hhead
        exact hhead (congrArg some (List.cons.inj heq).1)
  have hfraction : ∀ c ∈ ['0'], c.isDigit = true := (WrittenJson.isWhole_singleton rfl).digit
  refine ⟨_, readAs_point negative htext hwhole ?_ (List.cons_ne_nil _ _) hfraction⟩
  rw [point] at hhigh
  rw [List.length_append, zeros, List.length_replicate]
  omega

/-- A number with a fraction: a point between the digits. -/
theorem exists_readAs_of_point (hexponent : d.exponent < 0) (hlow : 0 < d.point)
    (hhigh : d.point ≤ 16) (negative : Bool) : ∃ number, d.ReadAs negative number := by
  have hpoint : d.point.toNat < d.digits.length := by
    rw [point] at hlow ⊢
    omega
  have htext : d.json = d.digits.take d.point.toNat ++ '.' :: d.digits.drop d.point.toNat := by
    rw [json_eq_positional (by omega) hhigh, if_neg (Int.not_le.2 hexponent), List.append_nil,
      positional, if_neg (Int.not_le.2 hexponent)]
    exact if_pos hlow
  have hwhole : WrittenJson.IsWhole (d.digits.take d.point.toNat) := by
    refine ⟨?_, fun c hc => isDigit_of_mem_digits (List.mem_of_mem_take hc), fun c rest heq => ?_⟩
    · rw [← List.length_pos_iff, List.length_take]
      omega
    · have hall := List.take_append_drop d.point.toNat d.digits
      rw [heq] at hall
      exact digitsOf_ne_zero_cons d.coefficient _ _ hall.symm
  refine ⟨_, readAs_point negative htext hwhole ?_ ?_ fun c hc =>
    isDigit_of_mem_digits (List.mem_of_mem_drop hc)⟩
  · rw [List.length_take]
    omega
  · rw [← List.length_pos_iff, List.length_drop]
    omega

/-- A small number: zeros in front of the digits. -/
theorem exists_readAs_of_zeros (hexponent : d.exponent < 0) (hlow : -5 < d.point)
    (hhigh : d.point ≤ 0) (negative : Bool) : ∃ number, d.ReadAs negative number := by
  have htext : d.json = ['0'] ++ '.' :: (zeros (-d.point).toNat ++ d.digits) := by
    rw [json_eq_positional hlow (by omega), if_neg (Int.not_le.2 hexponent), List.append_nil,
      positional, if_neg (Int.not_le.2 hexponent)]
    exact if_neg (Int.not_lt.2 hhigh)
  exact ⟨_, readAs_point negative htext (WrittenJson.isWhole_singleton rfl) (by decide)
    (List.append_ne_nil_of_right_ne_nil _ d.digits_ne_nil) fun c hc =>
      (List.mem_append.1 hc).elim isDigit_of_mem_zeros isDigit_of_mem_digits⟩

/-- A very small or very large number: one digit in front of the point, and an exponent. -/
theorem exists_readAs_of_power (hpoint : d.point ≤ -5 ∨ 16 < d.point) (negative : Bool) :
    ∃ number, d.ReadAs negative number := by
  obtain ⟨c, rest, hcons⟩ := List.exists_cons_of_ne_nil d.digits_ne_nil
  have hdigits : ∀ e ∈ c :: rest, e.isDigit = true := by
    rw [← hcons]
    exact fun e he => isDigit_of_mem_digits he
  have htext : d.json =
      leadingDigit (c :: rest) ++ WrittenJson.powerText ((rest.length : Int) + d.exponent) := by
    have hfirst : ¬ (decide (-5 ≤ (d.digits.length : Int) - 1 + d.exponent) &&
        decide ((d.digits.length : Int) - 1 + d.exponent ≤ 15)) = true := by
      rw [point] at hpoint
      rw [Bool.and_eq_true, decide_eq_true_iff, decide_eq_true_iff]
      omega
    refine (if_neg hfirst).trans ?_
    rw [hcons, List.length_cons, Nat.cast_succ, add_sub_cancel_right]
  -- one digit stands in front of the point, and the exponent accounts for all others
  have hvalue : digitsValue (c :: rest) = d.coefficient := by
    rw [← hcons, digits, digitsValue_digitsOf]
  have hwhole : digitsValue [c] < 10 :=
    digitsValue_lt fun e he => by
      rw [List.mem_singleton.1 he]
      exact hdigits c List.mem_cons_self
  refine ⟨⟨negative, [c], rest, some ((rest.length : Int) + d.exponent)⟩, ?_,
    .inr (Option.some_ne_none _), Nat.lt_trans hwhole (by decide), .inr ?_⟩
  · rw [htext, WrittenJson.readMagnitude?_leadingDigit negative hdigits]
  · rw [WrittenNumber.exact, List.singleton_append, hvalue, Option.getD_some, add_sub_cancel_left]
    rfl

/-- The text of a decimal number is read as a number. -/
theorem exists_readAs (hzero : d.coefficient = 0 → d.exponent = 0) (negative : Bool) :
    ∃ number, d.ReadAs negative number := by
  by_cases hpower : d.point ≤ -5 ∨ 16 < d.point
  · exact exists_readAs_of_power hpower negative
  by_cases hexponent : 0 ≤ d.exponent
  · exact exists_readAs_of_exponent hzero hexponent (by omega) negative
  by_cases hpoint : 0 < d.point
  · exact exists_readAs_of_point (by omega) hpoint (by omega) negative
  · exact exists_readAs_of_zeros (by omega) (by omega) (by omega) negative

end Decimal

/-! ### Texts of finite numbers -/

namespace WrittenNumber

/-- What is no integer is scaled. -/
theorem value?_of_fractional {number : WrittenNumber}
    (h : number.fraction ≠ [] ∨ number.power ≠ none) :
    number.value? = number.scaled?.map .float := by
  have hinteger : (number.fraction.isEmpty && number.power.isNone &&
      (gather 0 number.whole).2 == 0) = false := by
    rcases h with h | h
    · rw [List.isEmpty_eq_false_iff.2 h, Bool.false_and, Bool.false_and]
    · rw [Option.isNone_eq_false_iff.2 (Option.isSome_iff_ne_none.2 h), Bool.and_false,
        Bool.false_and]
  rw [value?]
  simp only [hinteger, Bool.false_eq_true, if_false]

end WrittenNumber

namespace Binary64

/-- The text of a finite number is that of its shortest decimal number, behind its sign. -/
theorem numberText_signed {negative : Bool} {rank : Fin (infiniteRank + 1)}
    (h : rank.val ≠ infiniteRank) :
    Json.numberText (.float (signed negative rank)) =
      (if negative then ['-'] else []) ++ (shortest .even rank.val).json := by
  have hfinite : (signed negative rank).isFinite = true := bne_iff_ne.2 h
  rw [Json.numberText, if_pos hfinite, Binary64.json, layout, if_neg h, String.toList_ofList]
  exact congrArg _ (if_congr Iff.rfl rfl (List.append_assoc _ _ _))

/-- A number below the rank of infinity is finite. -/
theorem isFinite_ofRank {negative : Bool} {rank : Nat} (h : rank < infiniteRank) :
    (ofRank negative rank).isFinite = true := by
  rw [ofRank, isFinite, bne_iff_ne]
  exact Nat.ne_of_lt (Nat.lt_of_le_of_lt (Nat.min_le_left _ _) h)

/-- The texts of the two largest finite numbers are read as the largest one. -/
theorem read_largest : ∀ negative : Bool, ∀ rank ∈ [nextToLargest, infiniteRank - 1],
    (WrittenJson.readNumber? (Json.numberText (.float (ofRank negative rank)))).map
        (fun read => (read.2, read.1.value?)) =
      some ([], some (.float (ofRank negative (infiniteRank - 1)))) := by
  decide +kernel

/-- The text of a finite number is read as a finite number. -/
theorem exists_read_json {x : Binary64} (h : x.isFinite = true) :
    ∃ number y, WrittenJson.readNumber? (Json.numberText (.float x)) = some (number, []) ∧
      number.value? = some (.float y) ∧ y.isFinite = true := by
  cases x with
  | nan => cases h
  | signed negative rank =>
    have hne : rank.val ≠ infiniteRank := bne_iff_ne.1 h
    have hfinite : rank.val < infiniteRank := Nat.lt_of_le_of_ne (Nat.lt_succ_iff.1 rank.isLt) hne
    -- the powers of ten are rounded too, so the two largest ranks are read by evaluation
    by_cases hlarge : nextToLargest ≤ rank.val
    · have hmem : rank.val ∈ [nextToLargest, infiniteRank - 1] := by
        rw [nextToLargest] at hlarge ⊢
        rw [List.mem_pair]
        omega
      have hrank : ofRank negative rank.val = signed negative rank := by
        rw [ofRank]
        exact congrArg _ (Fin.ext (Nat.min_eq_left hfinite.le))
      have hread := read_largest negative rank.val hmem
      rw [hrank, Option.map_eq_some_iff] at hread
      obtain ⟨⟨number, rest⟩, hread, hvalue⟩ := hread
      obtain ⟨rfl, hvalue⟩ := Prod.mk.inj hvalue
      exact ⟨number, _, hread, hvalue, isFinite_ofRank (by decide)⟩
    · -- the digits stand for less than the value of the rank below the largest
      have hzero : (shortest .even rank.val).coefficient = 0 →
          (shortest .even rank.val).exponent = 0 := by
        intro hcoefficient
        by_cases hrank : rank.val = 0
        · rw [hrank]
          rfl
        · exact absurd hcoefficient (coefficient_shortest_ne_zero _ hfinite hrank)
      obtain ⟨number, hread⟩ := Decimal.exists_readAs hzero negative
      have hvalue : number.exact ≤ exact nextToLargest := by
        rcases hread.value with hsmall | hsame
        · have hpower : (10 : ℚ) ^ 16 ≤ exact nextToLargest := by
            have hnat : 10 ^ 16 ≤ (magnitude nextToLargest).1 := by decide +kernel
            rw [exact_nextToLargest]
            exact_mod_cast hnat
          exact hsmall.le.trans hpower
        · rw [hsame]
          exact (value_shortest_lt _ hfinite (Nat.not_le.1 hlarge)).le
      obtain ⟨result, hresult, hscaled⟩ := WrittenNumber.exists_scaled? hread.whole hvalue
      refine ⟨number, ofRank number.negative result, ?_, ?_, isFinite_ofRank hresult⟩
      · rw [numberText_signed hne]
        exact WrittenJson.readNumber?_signed hread.read
      · rw [WrittenNumber.value?_of_fractional hread.fractional, hscaled, Option.map_some]

end Binary64

end EnsembleDesk
