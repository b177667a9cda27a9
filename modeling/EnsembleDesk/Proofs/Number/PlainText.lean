import EnsembleDesk.Proofs.Number.Shortest
import EnsembleDesk.Proofs.Text.Digits
/-!
# Plain texts that are read back

`positional` writes digits for a power of ten with zeros behind them, or with a point among them and
the zeros that stand in front of them (`positional_cases`). Either way, what is read has the value
of the digits times the power (`Decimal.exists_readUnsigned?_positional`). The digits of a plain
text are the shortest ones, which are rounded to the number, so a number is read back from its plain
text, zeros with their signs.

## Main results

* `Binary64.read?_plain`: every number is read back from its plain text;
* `Binary64.readFinite?_plain`: a finite number also where only finite numbers are taken.
-/

namespace EnsembleDesk

/-- Digits are laid out with zeros behind them, or with a point in front of the last ones, of which
there are as many as the power of ten says; zeros may stand in front of them then. -/
theorem positional_cases {digits : List Char} (hne : digits ≠ []) (e : Int) :
    (0 ≤ e ∧ positional digits e = digits ++ zeros e.toNat) ∨
      ∃ k whole fraction, positional digits e = whole ++ '.' :: fraction ∧ whole ≠ [] ∧
        whole ++ fraction = zeros k ++ digits ∧ e = -(fraction.length : Int) := by
  have hlength := List.length_pos_iff.2 hne
  rw [positional]
  split
  · rename_i he
    exact .inl ⟨he, rfl⟩
  split
  · rename_i he hpoint
    -- the digits are cut where the point stands
    refine .inr ⟨0, _, _, rfl, ?_, List.take_append_drop _ digits, ?_⟩
    · rw [← List.length_pos_iff, List.length_take]
      omega
    · rw [List.length_drop]
      omega
  · rename_i he hpoint
    -- the zero in front of the point and those behind it are zeros in front of the digits
    let k := (-((digits.length : Int) + e)).toNat
    refine .inr ⟨k + 1, ['0'], zeros k ++ digits, rfl, List.cons_ne_nil _ _, rfl, ?_⟩
    rw [List.length_append, zeros, List.length_replicate]
    omega

theorem mem_positional {digits : List Char} (hne : digits ≠ []) {e : Int} {c : Char}
    (h : c ∈ positional digits e) : c ∈ digits ∨ c = '0' ∨ c = '.' := by
  have hzeros (k : Nat) (hc : c ∈ zeros k) : c = '0' := List.eq_of_mem_replicate hc
  obtain ⟨-, htext⟩ | ⟨k, whole, fraction, htext, -, hall, -⟩ := positional_cases hne e
  · rw [htext, List.mem_append] at h
    exact h.imp_right fun hc => .inl (hzeros _ hc)
  · by_cases hpoint : c = '.'
    · exact .inr (.inr hpoint)
    · have hmem : c ∈ whole ++ fraction := by
        rw [htext, List.mem_append, List.mem_cons] at h
        exact List.mem_append.2 (h.imp_right fun hc => hc.resolve_left hpoint)
      rw [hall, List.mem_append] at hmem
      exact hmem.symm.imp_right fun hc => .inl (hzeros k hc)

namespace Decimal

variable {whole fraction digits : List Char}

/-! ### Reading digits -/

/-- A digit is no sign. -/
theorem readSign_of_isDigit {c : Char} (h : c.isDigit = true) (rest : List Char) :
    readSign (c :: rest) = (false, c :: rest) := by
  rw [readSign.eq_def]
  split
  · rename_i heq
    rw [(List.cons.inj heq).1] at h
    cases h
  · rename_i heq
    rw [(List.cons.inj heq).1] at h
    cases h
  · rfl

/-- Digits without a point are a whole number. -/
theorem readUnsigned?_whole (negative : Bool) (hne : whole ≠ [])
    (hwhole : ∀ c ∈ whole, c.isDigit = true) :
    readUnsigned? negative whole = some ⟨negative, digitsValue whole, 0⟩ := by
  have htake := takeWhile_run hwhole .nil
  have hdrop := dropWhile_run hwhole .nil
  rw [List.append_nil] at htake hdrop
  simp only [readUnsigned?, htake, hdrop, List.isEmpty_eq_false_iff.2 hne, Bool.false_and,
    Bool.false_eq_true, if_false, readExponent?, Option.map_some, List.append_nil, List.length_nil,
    Nat.cast_zero, sub_zero]

/-- Digits with a point between them are scaled by the digits behind it. -/
theorem readUnsigned?_point (negative : Bool) (hne : whole ≠ [])
    (hwhole : ∀ c ∈ whole, c.isDigit = true) (hfraction : ∀ c ∈ fraction, c.isDigit = true) :
    readUnsigned? negative (whole ++ '.' :: fraction) =
      some ⟨negative, digitsValue (whole ++ fraction), -(fraction.length : Int)⟩ := by
  have hpoint : StartsWithout Char.isDigit ('.' :: fraction) := .cons rfl fraction
  have htake := takeWhile_run hfraction .nil
  have hdrop := dropWhile_run hfraction .nil
  rw [List.append_nil] at htake hdrop
  simp only [readUnsigned?, takeWhile_run hwhole hpoint, dropWhile_run hwhole hpoint, htake, hdrop,
    List.isEmpty_eq_false_iff.2 hne, Bool.false_and, Bool.false_eq_true, if_false, readExponent?,
    Option.map_some, zero_sub]

/-- Neither a fraction nor an exponent begins with a hyphen. -/
theorem readUnsigned?_of_hyphen (negative : Bool) (hwhole : ∀ c ∈ whole, c.isDigit = true)
    (rest : List Char) : readUnsigned? negative (whole ++ '-' :: rest) = none := by
  have hhyphen : StartsWithout Char.isDigit ('-' :: rest) := .cons rfl rest
  have hexponent : readExponent? ('-' :: rest) = none := by
    rw [readExponent?, if_neg (by decide)]
  simp only [readUnsigned?, takeWhile_run hwhole hhyphen, dropWhile_run hwhole hhyphen]
  change (if _ then none else (readExponent? ('-' :: rest)).map _) = none
  rw [hexponent, Option.map_none, ite_self]

/-! ### Reading what was laid out -/

/-- Digits that are laid out for a power of ten have the value of the digits times the power. -/
theorem exists_readUnsigned?_positional (negative : Bool) (hne : digits ≠ [])
    (hdigits : ∀ c ∈ digits, c.isDigit = true) (e : Int) :
    ∃ d : Decimal, readUnsigned? negative (positional digits e) = some d ∧
      d.negative = negative ∧ d.value = digitsValue digits * 10 ^ e := by
  obtain ⟨he, htext⟩ | ⟨k, whole, fraction, htext, hwhole, hall, he⟩ := positional_cases hne e
  · -- zeros behind the digits multiply their value
    have hdigit : ∀ c ∈ digits ++ zeros e.toNat, c.isDigit = true := fun c hc =>
      (List.mem_append.1 hc).elim (hdigits c) isDigit_of_mem_zeros
    rw [htext]
    refine ⟨_, readUnsigned?_whole negative (List.append_ne_nil_of_left_ne_nil hne _) hdigit, rfl,
      ?_⟩
    rw [value, digitsValue_append_zeros, zpow_zero, mul_one, zpow_eq_pow_toNat 10 he, Nat.cast_mul,
      Nat.cast_pow, Nat.cast_ofNat]
  · -- zeros in front of the digits do not change it, and those behind the point are divided
    have hdigit : ∀ c ∈ whole ++ fraction, c.isDigit = true := by
      rw [hall]
      exact fun c hc => (List.mem_append.1 hc).elim isDigit_of_mem_zeros (hdigits c)
    rw [htext]
    refine ⟨_, readUnsigned?_point negative hwhole
      (fun c hc => hdigit c (List.mem_append_left _ hc))
      (fun c hc => hdigit c (List.mem_append_right _ hc)), rfl, ?_⟩
    rw [value, hall, digitsValue_zeros_append, he]

/-- A text that is laid out begins with a digit. -/
theorem exists_digit_positional (hne : digits ≠ []) (hdigits : ∀ c ∈ digits, c.isDigit = true)
    (e : Int) : ∃ c rest, positional digits e = c :: rest ∧ c.isDigit = true := by
  obtain ⟨-, htext⟩ | ⟨k, whole, fraction, htext, hwhole, hall, -⟩ := positional_cases hne e
  · obtain ⟨c, tail, rfl⟩ := List.exists_cons_of_ne_nil hne
    exact ⟨c, _, htext, hdigits c List.mem_cons_self⟩
  · obtain ⟨c, tail, rfl⟩ := List.exists_cons_of_ne_nil hwhole
    have hmem : c ∈ zeros k ++ digits := hall ▸ List.mem_cons_self
    exact ⟨c, _, htext, (List.mem_append.1 hmem).elim isDigit_of_mem_zeros (hdigits c)⟩

end Decimal

/-! ### Numbers -/

namespace Binary64

theorem toLower_of_isDigit {c : Char} (h : c.isDigit = true) : c.toLower = c := by
  have hnine := (Char.isDigit_iff_toNat.1 h).2
  refine dif_neg fun hupper => ?_
  have hA : 'A'.toNat ≤ c.toNat := hupper.1
  exact absurd (hA.trans hnine) (by decide)

/-- A text that begins with a digit, behind its sign, is no name of a special value. -/
theorem read?_of_digit {text rest : List Char} {negative : Bool} {c : Char}
    (hsign : Decimal.readSign text = (negative, c :: rest)) (hc : c.isDigit = true) :
    read? text = (Decimal.readUnsigned? negative (c :: rest)).map Decimal.toBinary64 := by
  have hname : ∀ d name, d.isDigit = false →
      String.ofList ((c :: rest).map Char.toLower) ≠ String.ofList (d :: name) := by
    intro d name hd heq
    have hfirst := (List.cons.inj (String.ofList_injective heq)).1
    rw [toLower_of_isDigit hc] at hfirst
    rw [hfirst, hd] at hc
    cases hc
  have hnan : String.ofList ((c :: rest).map Char.toLower) ≠ "nan" := hname 'n' _ rfl
  have hinf : String.ofList ((c :: rest).map Char.toLower) ≠ "inf" := hname 'i' _ rfl
  have hinfinity : String.ofList ((c :: rest).map Char.toLower) ≠ "infinity" := hname 'i' _ rfl
  simp only [read?, hsign, hnan, hinf, hinfinity, or_self, if_false]

theorem toList_plain_signed {negative : Bool} {rank : Fin (infiniteRank + 1)}
    (h : rank.val ≠ infiniteRank) :
    (signed negative rank).plain.toList = (if negative then ['-'] else []) ++
      positional (Decimal.digitsOf (shortest .larger rank.val).coefficient)
        (shortest .larger rank.val).exponent := by
  rw [plain, layout, if_neg h, String.toList_ofList]

/-- A finite number is read back from its plain text. -/
theorem read?_plain_of_ne {negative : Bool} {rank : Fin (infiniteRank + 1)}
    (h : rank.val ≠ infiniteRank) :
    read? (signed negative rank).plain.toList = some (signed negative rank) := by
  have hfinite : rank.val < infiniteRank := Nat.lt_of_le_of_ne (Nat.lt_succ_iff.1 rank.isLt) h
  let d := shortest .larger rank.val
  have hne := Decimal.digitsOf_ne_nil d.coefficient
  have hdigits : ∀ c ∈ Decimal.digitsOf d.coefficient, c.isDigit = true := fun c hc =>
    Decimal.isDigit_of_mem_digitsOf hc
  obtain ⟨c, rest, htext, hc⟩ := Decimal.exists_digit_positional hne hdigits d.exponent
  obtain ⟨read, hread, hnegative, hvalue⟩ :=
    Decimal.exists_readUnsigned?_positional negative hne hdigits d.exponent
  rw [htext] at hread
  have hsign : Decimal.readSign (signed negative rank).plain.toList = (negative, c :: rest) := by
    rw [toList_plain_signed h, htext]
    cases negative with
    | true => rfl
    | false => exact Decimal.readSign_of_isDigit hc rest
  -- what is read has the value of the shortest digits, which are rounded to the rank
  have hnearest : nearest read.value = rank.val := by
    rw [hvalue, digitsValue_digitsOf]
    exact nearest_value_shortest .larger hfinite
  rw [read?_of_digit hsign hc, hread, Option.map_some, Decimal.toBinary64_eq, hnegative, hnearest,
    ofRank]
  exact congrArg (some <| signed negative ·) (Fin.ext (Nat.min_eq_left hfinite.le))

/-- Every number is read back from its plain text. -/
theorem read?_plain (x : Binary64) : read? x.plain.toList = some x := by
  cases x with
  | nan => decide
  | signed negative rank =>
    by_cases h : rank.val = infiniteRank
    · obtain rfl : rank = Fin.last infiniteRank := Fin.ext h
      cases negative with
      | true => decide
      | false => decide
    · exact read?_plain_of_ne h

/-- A finite number is read back where only finite numbers are taken. -/
theorem readFinite?_plain {x : Binary64} (h : x.isFinite = true) :
    readFinite? x.plain.toList = some x := by
  rw [readFinite?, read?_plain, Option.filter_some, if_pos h]

end Binary64

end EnsembleDesk
