import Mathlib.Algebra.Order.Field.Power
import Mathlib.Algebra.Order.Ring.Abs
import Mathlib.Data.String.Basic
import Mathlib.Tactic.Positivity
import SqlTemplate.Coercion.Scalar
import SqlTemplate.Proofs.Number.Denotation

/-!
# Texts in slots for numbers

`Numeral.toInt64?` moves the point through the written digits, counts places with integers that
stop at the ends of 64 bits, cuts at most as many digits as there are and appends at most nineteen
zeros.  None of this is visible: what it answers is the exact value of the numeral.

* `Fits` bounds the lengths of a numeral, and `fits_of_ofChars?` gets it from the length of the
  text: an exponent that leaves 64 bits takes up twenty characters, which are not in the fraction.
* `min_natAbs_boundedScale`, `boundedScale_eq` and `lt_scale`: what the bounded scale says of the
  scale.
* `magnitude_of_shifted?` and `lt_of_shifted?_eq_none`: the digits with the point moved are the
  number, and where there are none the number is no integer, or one beyond 64 bits.
* `toInt64?_eq_some_iff`: the answer is the value.
* `wholeNumber_of_not_denotes`, `wholeNumber_of_denotes` and `wholeNumber_of_forall_ne`: the three
  outcomes for a text.
* `coerceScalar_numberText` states them for the texts in slots.
-/

namespace SqlTemplate

open Text

/-! ## Integers of 64 bits -/

theorem int64?_eq_some_iff {n : Int} {m : Int64} : int64? n = some m ↔ m.toInt = n := by
  refine ⟨toInt_of_int64?, ?_⟩
  rintro rfl
  have hlow := m.le_toInt
  have hhigh := m.toInt_lt
  rw [int64?, if_pos, Int64.ofInt_toInt]
  rw [Int64.toInt_minValue, Int64.toInt_maxValue]
  omega

namespace Numeral

variable {n : Numeral}

/-! ## Counting places -/

/-- The digits can be counted with an integer of 64 bits, and an exponent that such an integer
cannot hold has room for twenty more characters. -/
structure Fits (n : Numeral) : Prop where
  digits : n.whole.length + n.fraction.length < 2 ^ 63
  exponent : 2 ^ 63 ≤ n.exponent → n.fraction.length + 20 < 2 ^ 63

/-- The numeral of a text of bounded length has bounded parts. -/
theorem fits_of_ofChars? {cs : List Char} (h : ofChars? cs = some n) (hcs : cs.length < 2 ^ 63) :
    n.Fits := by
  obtain ⟨exponent, hexponent, hlengths⟩ := lengths_of_ofChars? h
  refine ⟨by omega, fun hlarge => ?_⟩
  have hdigits : 20 ≤ exponent.length := by
    by_contra hshort
    have hpower := Nat.lt_of_lt_of_le hexponent.natAbs_lt
      (Nat.pow_le_pow_right (by decide) (by omega : exponent.length - 1 ≤ 18))
    omega
  omega

/-- Where digits are cut off, the bounded scale cuts as many as the scale. -/
theorem min_natAbs_boundedScale (h : n.Fits) (hneg : n.boundedScale < 0) :
    n.scale < 0 ∧ min n.boundedScale.natAbs (n.whole ++ n.fraction).length =
      min n.scale.natAbs (n.whole ++ n.fraction).length := by
  have hdigits := h.digits
  have hexponent := h.exponent
  rw [List.length_append]
  simp only [boundedScale, scale, saturated, Int64.toInt_maxValue, Int64.toInt_minValue]
    at hneg ⊢
  omega

/-- Where zeros are appended, the bounded scale is the scale. -/
theorem boundedScale_eq (h : n.Fits) (hlow : 0 ≤ n.boundedScale) (hhigh : n.boundedScale ≤ 19) :
    n.scale = n.boundedScale := by
  have hdigits := h.digits
  have hexponent := h.exponent
  simp only [boundedScale, scale, saturated, Int64.toInt_maxValue, Int64.toInt_minValue]
    at hlow hhigh ⊢
  omega

theorem lt_scale (h : n.Fits) (hlarge : 19 < n.boundedScale) : 19 < n.scale := by
  have hdigits := h.digits
  have hexponent := h.exponent
  simp only [boundedScale, scale, saturated, Int64.toInt_maxValue, Int64.toInt_minValue]
    at hlarge ⊢
  omega

/-! ## Moving the point -/

/-- The value without its sign. -/
def magnitude (n : Numeral) : ℚ :=
  n.digits * 10 ^ n.scale

/-- The digits that a cut keeps are the number without the places of the others. -/
theorem digits_eq_take_drop (keep : Nat) :
    n.digits = decimalValue ((n.whole ++ n.fraction).take keep) *
        10 ^ ((n.whole ++ n.fraction).length - keep) +
      decimalValue ((n.whole ++ n.fraction).drop keep) := by
  rw [← List.length_drop, ← decimalValue_append, List.take_append_drop, digits]

theorem magnitude_of_neg (h : n.scale < 0) : n.magnitude = n.digits / 10 ^ n.scale.natAbs := by
  have hscale : n.scale = -(n.scale.natAbs : ℤ) := by omega
  rw [magnitude, hscale, zpow_neg, zpow_natCast, Int.natAbs_neg, Int.natAbs_natCast]
  rfl

theorem magnitude_of_nonneg (h : 0 ≤ n.scale) :
    n.magnitude = (n.digits * 10 ^ n.scale.toNat : ℕ) := by
  have hscale : n.scale = (n.scale.toNat : ℤ) := by omega
  rw [magnitude, hscale, zpow_natCast, Int.toNat_natCast]
  push_cast
  rfl

section Shifted

variable (hfits : n.Fits) (hdigits : ∀ c ∈ n.whole ++ n.fraction, isAsciiDigit c = true)

include hdigits in
theorem digits_eq_zero_iff : n.digits = 0 ↔ (n.whole ++ n.fraction).all (· == '0') = true := by
  rw [digits, decimalValue_eq_zero_iff hdigits, List.all_eq_true]
  simp only [beq_iff_eq]

include hdigits in
/-- What a cut keeps is the number, when nothing but zeros is cut off. -/
theorem magnitude_of_cut {keep : Nat} (hneg : n.scale < 0)
    (hkeep : keep = (n.whole ++ n.fraction).length -
      min n.scale.natAbs (n.whole ++ n.fraction).length)
    (hzeros : ((n.whole ++ n.fraction).drop keep).all (· == '0') = true) :
    n.magnitude = decimalValue ((n.whole ++ n.fraction).take keep) := by
  have hrest : decimalValue ((n.whole ++ n.fraction).drop keep) = 0 := by
    rw [decimalValue_eq_zero_iff fun c hc => hdigits c (List.mem_of_mem_drop hc)]
    simpa using hzeros
  rw [magnitude_of_neg hneg, n.digits_eq_take_drop keep, hrest, Nat.add_zero]
  -- A cut beyond the first digit leaves nothing, and the digits were all zeros.
  rcases Nat.le_total n.scale.natAbs (n.whole ++ n.fraction).length with hle | hge
  · have hcount : (n.whole ++ n.fraction).length - keep = n.scale.natAbs := by omega
    rw [hcount]
    push_cast
    field_simp
  · have hnone : keep = 0 := by omega
    have hempty : decimalValue [] = 0 := rfl
    simp [hnone, hempty]

include hdigits in
/-- The number is no integer, when digits other than zeros are cut off: it would be a multiple of
a power of ten that those digits do not reach. -/
theorem magnitude_ne_of_cut {keep : Nat} (hneg : n.scale < 0)
    (hkeep : keep = (n.whole ++ n.fraction).length -
      min n.scale.natAbs (n.whole ++ n.fraction).length)
    (hlost : ¬ ((n.whole ++ n.fraction).drop keep).all (· == '0') = true) (m : ℕ) :
    n.magnitude ≠ m := by
  intro hm
  have hrest : ∀ c ∈ (n.whole ++ n.fraction).drop keep, isAsciiDigit c = true :=
    fun c hc => hdigits c (List.mem_of_mem_drop hc)
  have hpositive : 0 < decimalValue ((n.whole ++ n.fraction).drop keep) := by
    rw [Nat.pos_iff_ne_zero, ne_eq, decimalValue_eq_zero_iff hrest]
    simpa using hlost
  have hproduct : n.digits = m * 10 ^ n.scale.natAbs := by
    rw [magnitude_of_neg hneg, div_eq_iff (by positivity)] at hm
    exact_mod_cast hm
  have hdvd : 10 ^ ((n.whole ++ n.fraction).drop keep).length ∣ n.digits := by
    rw [hproduct]
    refine Dvd.dvd.mul_left (Nat.pow_dvd_pow 10 ?_) m
    rw [List.length_drop]
    omega
  rw [n.digits_eq_take_drop keep, ← List.length_drop,
    Nat.dvd_add_right (Nat.dvd_mul_left _ _)] at hdvd
  exact absurd (Nat.le_of_dvd hpositive hdvd) (Nat.not_le.mpr (decimalValue_lt hrest))

include hfits hdigits in
/-- The digits with the point moved are the number. -/
theorem magnitude_of_shifted? {shifted : List Char} (h : n.shifted? = some shifted) :
    n.magnitude = decimalValue shifted := by
  simp only [shifted?] at h
  split at h
  · rename_i hcut
    obtain ⟨hneg, hmin⟩ := min_natAbs_boundedScale hfits hcut
    split at h
    · rename_i hzeros
      cases h
      rw [hmin] at hzeros ⊢
      exact magnitude_of_cut hdigits hneg rfl hzeros
    · cases h
  split at h
  · rename_i hzero
    cases h
    have hnone := (digits_eq_zero_iff hdigits).mpr hzero
    have hvalue : decimalValue (n.whole ++ n.fraction) = 0 := hnone
    rw [magnitude, hnone, hvalue, Nat.cast_zero, zero_mul]
  split at h
  · rename_i hfew
    cases h
    have hscale := boundedScale_eq hfits (by omega) hfew
    rw [magnitude_of_nonneg (by omega), decimalValue_append_zeros, hscale, digits]
  · cases h

include hfits hdigits in
/-- Where the point cannot be moved, the number is no integer, or one beyond 64 bits. -/
theorem lt_of_shifted?_eq_none (h : n.shifted? = none) {m : ℕ} (hm : n.magnitude = m) :
    2 ^ 63 < m := by
  simp only [shifted?] at h
  split at h
  · rename_i hcut
    obtain ⟨hneg, hmin⟩ := min_natAbs_boundedScale hfits hcut
    split at h
    · cases h
    · rename_i hlost
      rw [hmin] at hlost
      exact absurd hm (magnitude_ne_of_cut hdigits hneg rfl hlost m)
  split at h
  · cases h
  rename_i hsome
  split at h
  · cases h
  have hscale := lt_scale hfits (by omega)
  have hpositive : 1 ≤ n.digits :=
    Nat.one_le_iff_ne_zero.mpr fun hnone => hsome ((digits_eq_zero_iff hdigits).mp hnone)
  rw [magnitude_of_nonneg (by omega), Nat.cast_inj] at hm
  have hpow : 10 ^ 20 ≤ 10 ^ n.scale.toNat := Nat.pow_le_pow_right (by decide) (by omega)
  have hproduct := Nat.mul_le_mul hpositive hpow
  omega

/-! ## The answer -/

theorem value_eq_magnitude : n.value = factor n.negative * n.magnitude := by
  rw [value, magnitude, factor, mul_assoc]
  push_cast
  rfl

include hfits hdigits in
/-- A numeral narrows to an integer of 64 bits exactly if that integer is its value. -/
theorem toInt64?_eq_some_iff {m : Int64} : n.toInt64? = some m ↔ n.value = m.toInt := by
  have hfraction : ¬ Int64.maxValue.toInt < n.fraction.length := by
    have hcount := hfits.digits
    rw [Int64.toInt_maxValue]
    omega
  rw [toInt64?, if_neg hfraction, value_eq_magnitude]
  cases hshifted : n.shifted? with
  | some shifted =>
    have hsigned : (if n.negative then -(decimalValue shifted : Int) else decimalValue shifted) =
        factor n.negative * decimalValue shifted := by
      unfold factor
      split <;> simp
    rw [Option.bind_some, int64?_eq_some_iff, hsigned, magnitude_of_shifted? hfits hdigits hshifted,
      eq_comm]
    norm_cast
  | none =>
    simp only [Option.bind_none, reduceCtorEq, false_iff]
    intro hvalue
    have hmagnitude : n.magnitude = (m.toInt.natAbs : ℕ) := by
      have hnonneg : 0 ≤ n.magnitude := by
        unfold magnitude
        positivity
      have habs : |n.magnitude| = |(m.toInt : ℚ)| := by
        rw [← hvalue, abs_mul, factor]
        split <;> simp
      rw [abs_of_nonneg hnonneg] at habs
      rw [habs, Nat.cast_natAbs, Int.cast_abs]
    have hlarge := lt_of_shifted?_eq_none hfits hdigits hshifted hmagnitude
    have hlow := m.le_toInt
    have hhigh := m.toInt_lt
    omega

end Shifted

/-- A text denotes one number at most. -/
theorem Denotes.unique {cs : List Char} {p q : ℚ} (hp : Denotes cs p) (hq : Denotes cs q) :
    p = q := by
  obtain ⟨n, hn, rfl⟩ := exists_ofChars?_of_denotes hp
  obtain ⟨m, hm, rfl⟩ := exists_ofChars?_of_denotes hq
  rw [Option.some.inj (hn.symm.trans hm)]

end Numeral

/-! ## Texts -/

theorem length_trim_le (cs : List Char) : (trim cs).length ≤ cs.length := by
  rw [trim, List.length_reverse]
  refine Nat.le_trans (List.dropWhile_sublist _).length_le ?_
  rw [List.length_reverse]
  exact (List.dropWhile_sublist _).length_le

/-- A character takes up a byte at least. -/
theorem length_toList_le (raw : String) : raw.toList.length ≤ raw.utf8ByteSize := by
  have hbytes : ∀ cs : List Char, cs.length ≤ String.utf8Len cs := by
    intro cs
    induction cs with
    | nil => exact Nat.le_refl 0
    | cons c cs ih =>
      have hc := c.utf8Size_pos
      rw [List.length_cons, String.utf8Len_cons]
      omega
  have hsize := String.utf8ByteSize_ofList raw.toList
  rw [String.ofList_toList] at hsize
  rw [hsize]
  exact hbytes raw.toList

/-- A text that is no decimal number between blanks is refused as it is. -/
theorem numeral_of_not_denotes {raw : String} (h : ¬ ∃ q, Numeral.Denotes (trim raw.toList) q) :
    numeral raw = .error (.notNumeric raw) := by
  cases hread : Numeral.ofChars? (trim raw.toList) with
  | none => simp only [numeral, hread]
  | some n => exact absurd ⟨n.value, Numeral.denotes_of_ofChars? hread⟩ h

/-- A decimal number between blanks narrows to the integer that it denotes. -/
theorem numeral_of_denotes {raw : String} (hraw : raw.utf8ByteSize < 2 ^ 63) {q : ℚ}
    (h : Numeral.Denotes (trim raw.toList) q) :
    ∃ n, numeral raw = .ok (trim raw.toList, n) ∧
      ∀ m, n.toInt64? = some m ↔ q = m.toInt := by
  obtain ⟨n, hread, rfl⟩ := Numeral.exists_ofChars?_of_denotes h
  refine ⟨n, by simp only [numeral, hread], fun m => ?_⟩
  have hlength : (trim raw.toList).length < 2 ^ 63 :=
    Nat.lt_of_le_of_lt (length_trim_le _) (Nat.lt_of_le_of_lt (length_toList_le raw) hraw)
  exact Numeral.toInt64?_eq_some_iff (Numeral.fits_of_ofChars? hread hlength)
    (Numeral.forall_isAsciiDigit hread)

theorem wholeNumber_of_not_denotes {raw : String}
    (h : ¬ ∃ q, Numeral.Denotes (trim raw.toList) q) :
    wholeNumber (.text raw) = .error (.notNumeric raw) := by
  simp only [wholeNumber, numeral_of_not_denotes h]
  rfl

/-- A text that denotes an integer of 64 bits is that integer. -/
theorem wholeNumber_of_denotes {raw : String} (hraw : raw.utf8ByteSize < 2 ^ 63) {n : ℤ}
    (hlow : -2 ^ 63 ≤ n) (hhigh : n < 2 ^ 63) (h : Numeral.Denotes (trim raw.toList) n) :
    wholeNumber (.text raw) = .ok (.ofInt n) := by
  obtain ⟨numeral, hnumeral, hvalue⟩ := numeral_of_denotes hraw h
  have hsome : numeral.toInt64? = some (.ofInt n) := by
    rw [hvalue, Int64.toInt_ofInt_of_le hlow hhigh]
  simp only [wholeNumber, hnumeral, bind, Except.bind, hsome]

/-- A text that denotes another number loses data. -/
theorem wholeNumber_of_forall_ne {raw : String} (hraw : raw.utf8ByteSize < 2 ^ 63) {q : ℚ}
    (h : Numeral.Denotes (trim raw.toList) q)
    (hne : ¬ ∃ n : ℤ, -2 ^ 63 ≤ n ∧ n < 2 ^ 63 ∧ q = n) :
    ∃ x, wholeNumber (.text raw) = .error (.dataLoss x) := by
  obtain ⟨numeral, hnumeral, hvalue⟩ := numeral_of_denotes hraw h
  have hnone : numeral.toInt64? = none := by
    rw [Option.eq_none_iff_forall_ne_some]
    intro m hm
    exact hne ⟨m.toInt, m.le_toInt, m.toInt_lt, (hvalue m).mp hm⟩
  refine ⟨numeral.toDouble, ?_⟩
  simp only [wholeNumber, hnumeral, bind, Except.bind, hnone]

/-! ## Slots for numbers -/

section Lax

variable (config : Config) (nullable : Bool) {scalar : Scalar}

theorem coerceScalar_lax (hscalar : scalar ≠ .null) (family : ScalarFamily) :
    coerceScalar config (.scalar family false nullable) scalar =
      some <$> family.literal config scalar := by
  simp [coerceScalar, hscalar]

/-- What the slots for integers hold for a scalar that is one. -/
theorem coerceScalar_lax_of_wholeNumber (hscalar : scalar ≠ .null) {m : Int64}
    (h : wholeNumber scalar = .ok m) :
    let judged family := coerceScalar config (.scalar family false nullable) scalar
    let written := Except.ok (some (int64Text m))
    judged .integer = written ∧
      judged .unsigned = (if m.toInt < 0 then .error (.negative m) else written) ∧
      judged .natural = (if m.toInt ≤ 0 then .error (.notNatural m) else written) := by
  intro judged written
  refine ⟨?_, ?_, ?_⟩
  · simp only [judged, coerceScalar_lax _ _ hscalar, ScalarFamily.literal, h]
    rfl
  · simp only [judged, coerceScalar_lax _ _ hscalar, ScalarFamily.literal, h, bind, Except.bind,
      fromZero]
    by_cases hnegative : m.toInt < 0
    · simp only [if_pos hnegative]
      rfl
    · simp only [if_neg hnegative]
      rfl
  · simp only [judged, coerceScalar_lax _ _ hscalar, ScalarFamily.literal, h, bind, Except.bind,
      fromOne, if_neg hscalar]
    by_cases hsmall : m.toInt ≤ 0
    · simp only [if_pos hsmall]
      rfl
    · simp only [if_neg hsmall]
      rfl

theorem coerceScalar_lax_of_wholeNumber_error (hscalar : scalar ≠ .null) {reason : Rejection}
    (h : wholeNumber scalar = .error reason) :
    ∀ family ∈ [ScalarFamily.integer, .unsigned, .natural],
      coerceScalar config (.scalar family false nullable) scalar = .error reason := by
  simp only [List.forall_mem_cons, List.not_mem_nil, false_implies, implies_true, and_true,
    coerceScalar_lax _ _ hscalar, ScalarFamily.literal, h, if_neg hscalar]
  exact ⟨rfl, rfl, rfl⟩

end Lax

section NumberText

variable (config : Config) (nullable : Bool) {raw : String}

theorem text_ne_null : Scalar.text raw ≠ .null :=
  nofun

theorem coerceScalar_of_wholeNumber {m : Int64} (h : wholeNumber (.text raw) = .ok m) :
    let judged family := coerceScalar config (.scalar family false nullable) (.text raw)
    let written := Except.ok (some (int64Text m))
    judged .integer = written ∧
      judged .unsigned = (if m.toInt < 0 then .error (.negative m) else written) ∧
      judged .natural = (if m.toInt ≤ 0 then .error (.notNatural m) else written) :=
  coerceScalar_lax_of_wholeNumber config nullable text_ne_null h

theorem coerceScalar_of_wholeNumber_error {reason : Rejection}
    (h : wholeNumber (.text raw) = .error reason) :
    ∀ family ∈ [ScalarFamily.integer, .unsigned, .natural],
      coerceScalar config (.scalar family false nullable) (.text raw) = .error reason :=
  coerceScalar_lax_of_wholeNumber_error config nullable text_ne_null h

theorem coerceScalar_double :
    coerceScalar config (.scalar .double false nullable) (.text raw) =
      (numeral raw).map fun parts => some (String.ofList parts.1) := by
  simp only [coerceScalar_lax _ _ text_ne_null, ScalarFamily.literal, doubleLiteral]
  cases numeral raw <;> rfl

end NumberText

/-- A text in a slot for numbers is judged by its exact value.  A text that is no decimal number
between blanks is refused.  Of the others, those whose value is an integer of 64 bits are written
as that integer, if it has the sign that the slot asks for, and a slot for doubles keeps each of
them as it is. -/
theorem coerceScalar_numberText (config : Config) (nullable : Bool) {raw : String}
    (hraw : raw.utf8ByteSize < 2 ^ 63) :
    let text := trim raw.toList
    let judged family := coerceScalar config (.scalar family false nullable) (.text raw)
    ((¬ ∃ q, Numeral.Denotes text q) →
      ∀ family ∈ [ScalarFamily.integer, .unsigned, .natural, .double],
        judged family = .error (.notNumeric raw)) ∧
    ∀ q, Numeral.Denotes text q →
      judged .double = .ok (some (String.ofList text)) ∧
      (∀ n : ℤ, -2 ^ 63 ≤ n → n < 2 ^ 63 → q = n →
        let written := Except.ok (some (String.ofList (intText n)))
        judged .integer = written ∧
        judged .unsigned = (if n < 0 then .error (.negative (.ofInt n)) else written) ∧
        judged .natural = (if n ≤ 0 then .error (.notNatural (.ofInt n)) else written)) ∧
      ((¬ ∃ n : ℤ, -2 ^ 63 ≤ n ∧ n < 2 ^ 63 ∧ q = n) →
        ∃ x, ∀ family ∈ [ScalarFamily.integer, .unsigned, .natural],
          judged family = .error (.dataLoss x)) := by
  intro text judged
  refine ⟨fun hnone => ?_, fun q hq => ⟨?_, fun n hlow hhigh hn => ?_, fun hnone => ?_⟩⟩
  · have hwhole := wholeNumber_of_not_denotes hnone
    have hwholes := coerceScalar_of_wholeNumber_error config nullable hwhole
    have hdouble : judged .double = .error (.notNumeric raw) := by
      simp only [judged, coerceScalar_double, numeral_of_not_denotes hnone]
      rfl
    simp only [List.forall_mem_cons, List.not_mem_nil, false_implies, implies_true,
      and_true] at hwholes ⊢
    exact ⟨hwholes.1, hwholes.2.1, hwholes.2.2, hdouble⟩
  · obtain ⟨numeral, hnumeral, -⟩ := numeral_of_denotes hraw hq
    simp only [judged, coerceScalar_double, hnumeral]
    rfl
  · rw [hn] at hq
    have hwhole := wholeNumber_of_denotes hraw hlow hhigh hq
    have hwritten := coerceScalar_of_wholeNumber config nullable hwhole
    rwa [int64Text, Int64.toInt_ofInt_of_le hlow hhigh] at hwritten
  · obtain ⟨x, hwhole⟩ := wholeNumber_of_forall_ne hraw hq hnone
    exact ⟨x, coerceScalar_of_wholeNumber_error config nullable hwhole⟩

/-- The least integer of 64 bits, with a point in it that the exponent moves away. -/
theorem coerceScalar_numberText_limit :
    let raw := " -922337203685477580.800e+1\n"
    let judged family := coerceScalar (.ofDialect .mysql) (.scalar family false true) (.text raw)
    raw.utf8ByteSize < 2 ^ 63 ∧
      Numeral.Denotes (trim raw.toList) ((-9223372036854775808 : ℤ) : ℚ) ∧
      judged .integer = .ok (some "-9223372036854775808") ∧
      judged .unsigned = .error (.negative .minValue) ∧
      judged .natural = .error (.notNatural .minValue) ∧
      judged .double = .ok (some "-922337203685477580.800e+1") := by
  intro raw judged
  have hsize : raw.utf8ByteSize < 2 ^ 63 := by decide
  have htrim : trim raw.toList = "-922337203685477580.800e+1".toList := by decide +kernel
  have hread : Numeral.ofChars? (trim raw.toList) =
      some ⟨true, "922337203685477580".toList, "800".toList, 1⟩ := by
    rw [htrim]
    rfl
  have hdenotes : Numeral.Denotes (trim raw.toList) ((-9223372036854775808 : ℤ) : ℚ) := by
    have hdigits : decimalValue ("922337203685477580".toList ++ "800".toList) =
        922337203685477580800 := by
      decide +kernel
    have hlength : "800".toList.length = 3 := by decide
    have hvalue := Numeral.denotes_of_ofChars? hread
    rw [Numeral.value_mk, hdigits, hlength] at hvalue
    convert hvalue using 1
    norm_num [Numeral.factor]
  obtain ⟨hdouble, hinteger, -⟩ :=
    (coerceScalar_numberText (.ofDialect .mysql) true hsize).2 _ hdenotes
  obtain ⟨hinteger, hunsigned, hnatural⟩ := hinteger _ (by decide) (by decide) rfl
  have hwritten : String.ofList (intText (-9223372036854775808)) = "-9223372036854775808" := by
    decide +kernel
  rw [htrim, String.ofList_toList] at hdouble
  rw [hwritten] at hinteger
  exact ⟨hsize, hdenotes, hinteger, hunsigned, hnatural, hdouble⟩

end SqlTemplate
