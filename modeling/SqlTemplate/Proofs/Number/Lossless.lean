import Mathlib.Algebra.Order.Field.Power
import Mathlib.Data.Rat.Cast.Order
import Mathlib.Tactic.Ring
import SqlTemplate.Proofs.Number.Narrowing
import SqlTemplate.Proofs.Number.Nearest
import SqlTemplate.Proofs.Rendering

/-!
# Doubles in slots for whole numbers

A double goes into a slot for whole numbers by a cast, which cuts and clamps, behind a guard that
compares doubles.  Neither is visible: what a slot holds depends on the exact value alone.

* `Double.value` is the rational number that the bits encode, and `Double.value_eq` brings it
  together with the units that the guard and the cast count.
* `Double.below_iff`, `hasFraction_eq_false_iff` and `value_neg` are the parts of the guard, and
  `guard_eq_false_iff` says what it lets through.
* `Double.toInt64_eq`: of what the guard lets through the cast changes nothing.
* `lossless_of_isInt64`, `lossless_of_not_isFinite` and `lossless_of_not_exists`: the three
  outcomes of both.
* `Placeholder.assign_double` states them for the slots.
-/

namespace SqlTemplate

open Text

namespace Double

variable {x y : Double} {n : ℤ}

/-! ## The value of the bits -/

/-- The sign as a factor. -/
def signFactor (x : Double) : ℚ :=
  if x.negative then -1 else 1

/-- The rational number that the bits of a finite double encode.  Its fraction follows a one, and a
zero if the exponent is the smallest. -/
def value (x : Double) : ℚ :=
  if x.exponentField = 0 then x.signFactor * (x.fractionField / 2 ^ 52) * 2 ^ (-1022 : ℤ)
  else x.signFactor * (1 + x.fractionField / 2 ^ 52) * 2 ^ ((x.exponentField : ℤ) - 1023)

theorem cast_signedUnits (x : Double) : (x.signedUnits : ℚ) = x.signFactor * x.units := by
  unfold signedUnits signFactor
  split <;> simp

theorem cast_unitsOfOne_pos : (0 : ℚ) < unitsOfOne :=
  Nat.cast_pos.mpr unitsOfOne_pos

theorem scale_eq (k : ℕ) : (2 : ℚ) ^ ((k : ℤ) - 1022) = 2 ^ k * 2 ^ 52 / unitsOfOne := by
  have hunits : (unitsOfOne : ℚ) = 2 ^ 52 * 2 ^ 1022 := by
    rw [← pow_add, unitsOfOne, pow2_eq]
    exact Nat.cast_pow 2 1074
  have hsplit : (2 : ℚ) ^ ((k : ℤ) - 1022) = 2 ^ k / 2 ^ 1022 := by
    rw [zpow_sub₀ two_ne_zero, zpow_natCast]
    rfl
  rw [hsplit, hunits, mul_comm (2 ^ k : ℚ), mul_div_mul_left _ _ (by positivity)]

/-- A fraction over a power is a multiple of the unit that the power scales. -/
theorem div_mul_scale {q : ℚ} (hq : q ≠ 0) (s a p u : ℚ) :
    s * (a / q) * (p * q / u) = s * (a * p) / u := by
  rw [mul_assoc, div_mul_div_comm, ← mul_assoc a, mul_comm q u, mul_div_mul_right _ _ hq,
    ← mul_div_assoc]

/-- The value counts the units of one. -/
theorem value_eq (x : Double) : x.value = x.signedUnits / unitsOfOne := by
  have hfine : (2 ^ 52 : ℚ) ≠ 0 := pow_ne_zero _ two_ne_zero
  rw [cast_signedUnits, value, units]
  by_cases hsmall : x.exponentField = 0
  · have hscale := scale_eq 0
    rw [Nat.cast_zero, zero_sub] at hscale
    rw [if_pos hsmall, if_pos hsmall, hscale, div_mul_scale hfine, pow_zero, mul_one]
  · have hexponent : (x.exponentField : ℤ) - 1023 = (x.exponentField - 1 : ℕ) - 1022 := by omega
    have hone : 1 + (x.fractionField : ℚ) / 2 ^ 52 = (2 ^ 52 + x.fractionField) / 2 ^ 52 := by
      rw [add_div, div_self hfine]
    rw [if_neg hsmall, if_neg hsmall, hexponent, scale_eq, hone, div_mul_scale hfine, pow2_eq,
      pow2_eq, Nat.cast_mul, Nat.cast_add, Nat.cast_pow, Nat.cast_pow, Nat.cast_ofNat]

theorem value_eq_intCast_iff : x.value = n ↔ x.signedUnits = n * unitsOfOne := by
  rw [value_eq, div_eq_iff cast_unitsOfOne_pos.ne']
  exact_mod_cast Iff.rfl

/-! ## The guard -/

theorem below_iff : x.below y = true ↔ x.value < y.value := by
  rw [below, decide_eq_true_iff, value_eq, value_eq,
    div_lt_div_iff_of_pos_right cast_unitsOfOne_pos, Int.cast_lt]

theorem hasFraction_eq_false_iff : x.hasFraction = false ↔ ∃ n : ℤ, x.value = n := by
  have hmagnitude : x.signedUnits.natAbs = x.units := by
    unfold signedUnits
    split <;> simp
  have hdvd : x.hasFraction = false ↔ (unitsOfOne : ℤ) ∣ x.signedUnits := by
    rw [hasFraction, bne_eq_false_iff_eq, Int.natCast_dvd, hmagnitude, Nat.dvd_iff_mod_eq_zero]
  rw [hdvd]
  constructor
  · rintro ⟨n, hn⟩
    exact ⟨n, value_eq_intCast_iff.mpr (hn.trans (Int.mul_comm _ _))⟩
  · rintro ⟨n, hn⟩
    exact ⟨n, (value_eq_intCast_iff.mp hn).trans (Int.mul_comm _ _)⟩

theorem value_neg (x : Double) : x.neg.value = -x.value := by
  have hsmall : x.bits.toNat % pow2 63 < 2 ^ 63 := Nat.mod_lt _ (pow2_pos 63)
  have hexponent : x.neg.exponentField = x.exponentField := by
    rw [neg, exponentField_ofMagnitude hsmall, exponentField, pow2_eq, pow2_eq, pow2_eq]
    omega
  have hfraction : x.neg.fractionField = x.fractionField := by
    rw [neg, fractionField_ofMagnitude hsmall, fractionField, pow2_eq, pow2_eq]
    omega
  have hsign : x.neg.signFactor = -x.signFactor := by
    rw [signFactor, signFactor, neg, negative_ofMagnitude hsmall]
    cases x.negative <;> simp
  rw [value, value, hexponent, hfraction, hsign]
  split <;> ring

theorem value_int64Limit : int64Limit.value = 2 ^ 63 := by
  have hunits : int64Limit.signedUnits = (2 ^ 63 : ℤ) * unitsOfOne := by decide +kernel
  exact_mod_cast value_eq_intCast_iff.mpr hunits

/-- A double is finite and has the value of an integer of 64 bits. -/
structure IsInt64 (x : Double) (n : ℤ) : Prop where
  isFinite : x.isFinite = true
  value_eq : x.value = n
  low : -2 ^ 63 ≤ n
  high : n < 2 ^ 63

/-- Of the finite doubles the guard lets through those whose values are integers of 64 bits. -/
theorem guard_eq_false_iff (hfinite : x.isFinite = true) :
    (x.hasFraction || x.below int64Limit.neg || !x.below int64Limit) = false ↔
      ∃ n, x.IsInt64 n := by
  have hlow : x.below int64Limit.neg = false ↔ -2 ^ 63 ≤ x.value := by
    rw [← Bool.not_eq_true, below_iff, value_neg, value_int64Limit, not_lt]
  have hhigh : (!x.below int64Limit) = false ↔ x.value < 2 ^ 63 := by
    rw [Bool.not_eq_false', below_iff, value_int64Limit]
  rw [Bool.or_eq_false_iff, Bool.or_eq_false_iff, hasFraction_eq_false_iff, hlow, hhigh]
  constructor
  · rintro ⟨⟨⟨n, hn⟩, hlow⟩, hhigh⟩
    rw [hn] at hlow hhigh
    exact ⟨n, hfinite, hn, by exact_mod_cast hlow, by exact_mod_cast hhigh⟩
  · rintro ⟨n, -, hn, hlow, hhigh⟩
    rw [hn]
    exact ⟨⟨⟨n, rfl⟩, by exact_mod_cast hlow⟩, by exact_mod_cast hhigh⟩

/-! ## The cast -/

theorem saturated_eq_self (hlow : -2 ^ 63 ≤ n) (hhigh : n < 2 ^ 63) : saturated n = n := by
  rw [saturated, Int64.toInt_minValue, Int64.toInt_maxValue, if_neg (by omega), if_neg (by omega)]

/-- The cast of an integer of 64 bits is that integer. -/
theorem toInt64_eq (h : x.IsInt64 n) : x.toInt64 = .ofInt n := by
  have hunits : (unitsOfOne : ℤ) ≠ 0 := Int.natCast_ne_zero.mpr unitsOfOne_pos.ne'
  rw [toInt64, value_eq_intCast_iff.mp h.value_eq, Int.mul_tdiv_cancel _ hunits,
    saturated_eq_self h.low h.high]

end Double

/-! ## Both together -/

section Lossless

variable {x : Double}

theorem lossless_of_not_isFinite (h : x.isFinite = false) :
    lossless x = .error (.notFinite x) := by
  rw [lossless, finite, h]
  rfl

theorem lossless_of_isFinite (h : x.isFinite = true) :
    lossless x =
      if x.hasFraction || x.below Double.int64Limit.neg || !x.below Double.int64Limit then
        .error (.dataLoss x)
      else
        .ok x.toInt64 := by
  rw [lossless, finite, if_pos h]
  rfl

theorem lossless_of_isInt64 {n : ℤ} (h : x.IsInt64 n) : lossless x = .ok (.ofInt n) := by
  have hguard := (Double.guard_eq_false_iff h.isFinite).mpr ⟨n, h⟩
  rw [lossless_of_isFinite h.isFinite, hguard, Double.toInt64_eq h]
  rfl

theorem lossless_of_not_exists (hfinite : x.isFinite = true) (h : ¬ ∃ n, x.IsInt64 n) :
    lossless x = .error (.dataLoss x) := by
  rw [← Double.guard_eq_false_iff hfinite, Bool.not_eq_false] at h
  rw [lossless_of_isFinite hfinite, if_pos h]

end Lossless

/-! ## Slots -/

/-- What a slot for whole numbers makes of a double that is one. -/
theorem coerceScalar_of_isInt64 (config : Config) (nullable : Bool) {family : ScalarFamily}
    (hfamily : family ∈ [ScalarFamily.integer, .unsigned, .natural]) {x : Double} {n : ℤ}
    (h : x.IsInt64 n) :
    coerceScalar config (.scalar family false nullable) (.double x) =
      if family = .unsigned ∧ n < 0 then .error (.negative (.ofInt n))
      else if family = .natural ∧ n ≤ 0 then .error (.notNatural (.ofInt n))
      else .ok (some (String.ofList (intText n))) := by
  have hnonnull : Scalar.double x ≠ .null := nofun
  have hwhole : wholeNumber (.double x) = .ok (.ofInt n) := lossless_of_isInt64 h
  obtain ⟨hinteger, hunsigned, hnatural⟩ :=
    coerceScalar_lax_of_wholeNumber config nullable hnonnull hwhole
  rw [int64Text, Int64.toInt_ofInt_of_le h.low h.high] at hinteger hunsigned hnatural
  cases family with
  | integer => simpa using hinteger
  | unsigned => simpa using hunsigned
  | natural => simpa using hnatural
  | text | double | boolean => exact absurd hfamily (by decide)

/-- A double in a slot for whole numbers is judged by the exact value of its bits.  One that is
infinite or undefined is refused as such, and one whose value is no integer of 64 bits because it
would lose data.  Any other is written as the integer that it is, if that has the sign that the
slot asks for. -/
theorem Placeholder.assign_double {placeholder : Placeholder} {family : ScalarFamily}
    {nullable : Bool} (hfamily : family ∈ [ScalarFamily.integer, .unsigned, .natural])
    (htype : placeholder.type = .scalar family false nullable) {value : Value} {x : Double}
    {log after : CallLog} (hvalue : value.resolve log = (.scalar (.double x), after))
    (config : Config) :
    let assigned := placeholder.assign config value log
    let bound text := ((.ok (), { placeholder with value := some text }), after)
    let refused reason :=
      ((.error ⟨placeholder.index, placeholder.type, .double, reason⟩,
        { placeholder with value := none }), after)
    (family = .integer →
      ∀ text, assigned = bound text ↔ ∃ n, x.IsInt64 n ∧ text = String.ofList (intText n)) ∧
    (x.isFinite = false → assigned = refused (.notFinite x)) ∧
    (x.isFinite = true → (¬ ∃ n, x.IsInt64 n) → assigned = refused (.dataLoss x)) ∧
    ∀ n, x.IsInt64 n → assigned =
      if family = .unsigned ∧ n < 0 then refused (.negative (.ofInt n))
      else if family = .natural ∧ n ≤ 0 then refused (.notNatural (.ofInt n))
      else bound (String.ofList (intText n)) := by
  intro assigned bound refused
  have hslot : placeholder.type.needsArray = false := by rw [htype]; rfl
  have hrefused : ∀ {reason}, lossless x = .error reason → assigned = refused reason := by
    intro reason hlossless
    have hnonnull : Scalar.double x ≠ .null := nofun
    have hscalar := coerceScalar_lax_of_wholeNumber_error config nullable hnonnull hlossless
      family hfamily
    rw [← htype] at hscalar
    exact assign_of_scalar_error hslot hvalue hscalar
  have hinfinite : x.isFinite = false → assigned = refused (.notFinite x) :=
    fun hfinite => hrefused (lossless_of_not_isFinite hfinite)
  have hloss : x.isFinite = true → (¬ ∃ n, x.IsInt64 n) → assigned = refused (.dataLoss x) :=
    fun hfinite hnone => hrefused (lossless_of_not_exists hfinite hnone)
  have hwritten : ∀ n, x.IsInt64 n → assigned =
      if family = .unsigned ∧ n < 0 then refused (.negative (.ofInt n))
      else if family = .natural ∧ n ≤ 0 then refused (.notNatural (.ofInt n))
      else bound (String.ofList (intText n)) := by
    intro n hn
    have hscalar := coerceScalar_of_isInt64 config nullable hfamily hn
    rw [← htype] at hscalar
    split_ifs at hscalar ⊢
    · exact assign_of_scalar_error hslot hvalue hscalar
    · exact assign_of_scalar_error hslot hvalue hscalar
    · exact assign_of_scalar_ok hslot hvalue hscalar
  refine ⟨?_, hinfinite, hloss, hwritten⟩
  rintro rfl text
  have hinteger : ∀ n, x.IsInt64 n → assigned = bound (String.ofList (intText n)) := by
    intro n hn
    simpa using hwritten n hn
  constructor
  · intro hbound
    by_cases hwhole : ∃ n, x.IsInt64 n
    · obtain ⟨n, hn⟩ := hwhole
      have hsame := hbound.symm.trans (hinteger n hn)
      exact ⟨n, hn, Option.some.inj (congrArg (fun outcome => outcome.1.2.value) hsame)⟩
    · cases hfinite : x.isFinite with
      | false => cases hbound.symm.trans (hinfinite hfinite)
      | true => cases hbound.symm.trans (hloss hfinite hwhole)
  · rintro ⟨n, hn, rfl⟩
    exact hinteger n hn

/-- The least integer of 64 bits, the double that follows the largest one, negative zero, and a
double that is no number. -/
theorem Placeholder.assign_double_limits :
    let slot family := Placeholder.new (.name "n") (.scalar family false true) false
    let assigned family x :=
      (slot family).assign (Config.ofDialect .mysql) (.scalar (.double x)) []
    let bound family text := ((.ok (), { slot family with value := some text }), [])
    let refused family reason :=
      ((.error ⟨.name "n", .scalar family false true, .double, reason⟩, slot family), [])
    let least : Double := ⟨0xc3e0000000000000⟩
    let negativeZero : Double := ⟨0x8000000000000000⟩
    let undefined : Double := ⟨0x7ff8000000000000⟩
    (least.value = -2 ^ 63 ∧ assigned .integer least = bound .integer "-9223372036854775808" ∧
      assigned .unsigned least = refused .unsigned (.negative .minValue)) ∧
    (Double.int64Limit.value = 2 ^ 63 ∧
      assigned .integer Double.int64Limit = refused .integer (.dataLoss Double.int64Limit)) ∧
    (negativeZero.value = 0 ∧ assigned .integer negativeZero = bound .integer "0" ∧
      assigned .natural negativeZero = refused .natural (.notNatural 0)) ∧
    undefined.isFinite = false ∧
      assigned .natural undefined = refused .natural (.notFinite undefined) := by
  intro slot assigned bound refused least negativeZero undefined
  have hleast : least.IsInt64 (-2 ^ 63) :=
    ⟨by decide +kernel, Double.value_eq_intCast_iff.mpr (by decide +kernel), by decide, by decide⟩
  have hzero : negativeZero.IsInt64 0 :=
    ⟨by decide +kernel, Double.value_eq_intCast_iff.mpr (by decide +kernel), by decide, by decide⟩
  have hlimit : ¬ ∃ n, Double.int64Limit.IsInt64 n := by
    rintro ⟨n, -, hn, -, hhigh⟩
    rw [Double.value_int64Limit] at hn
    have hsame : (2 ^ 63 : ℤ) = n := by exact_mod_cast hn
    omega
  have htype : ∀ family, (slot family).type = .scalar family false true := fun _ => rfl
  have hvalue : ∀ x : Double,
      (Value.scalar (.double x)).resolve [] = (.scalar (.double x), []) := fun _ => rfl
  have hjudged family hfamily x :=
    assign_double hfamily (htype family) (hvalue x) (Config.ofDialect .mysql)
  obtain ⟨-, -, -, hwritten⟩ := hjudged .integer (by decide) least
  obtain ⟨-, -, -, hnegative⟩ := hjudged .unsigned (by decide) least
  obtain ⟨-, -, hloss, -⟩ := hjudged .integer (by decide) Double.int64Limit
  obtain ⟨hiff, -⟩ := hjudged .integer (by decide) negativeZero
  obtain ⟨-, -, -, hnatural⟩ := hjudged .natural (by decide) negativeZero
  obtain ⟨-, hundefined, -⟩ := hjudged .natural (by decide) undefined
  refine ⟨⟨?_, hwritten _ hleast, hnegative _ hleast⟩,
    ⟨Double.value_int64Limit, hloss (by decide +kernel) hlimit⟩,
    ⟨?_, (hiff rfl "0").mpr ⟨0, hzero, rfl⟩, hnatural _ hzero⟩,
    by decide +kernel, hundefined (by decide +kernel)⟩
  · exact_mod_cast hleast.value_eq
  · exact_mod_cast hzero.value_eq

end SqlTemplate
