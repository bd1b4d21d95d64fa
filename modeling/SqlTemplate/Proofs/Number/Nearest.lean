import Mathlib.Data.Nat.Dist
import SqlTemplate.Double.Rounding

/-!
# Rounding to the nearest double

`Double.nearest` gives a double that no finite double is nearer than.  Distances are measured on
natural numbers: both values are scaled by the denominator and by the units of one, so that no
fraction is left.

* `dist_roundHalfEven_le`: rounding on the grid of one step.
* `units_ofMagnitude` and `units_grid`: the doubles on that grid, and the ones below it.
* `dist_nearest_le`: the two together.
* `exists_toInt?_nearest` is the case of a whole number, and `exists_toInt?_of_lt` and
  `dvd_of_toInt?` say which whole numbers are doubles.
-/

namespace SqlTemplate.Double

theorem pow2_eq (n : Nat) : pow2 n = 2 ^ n := rfl

theorem pow2_pos (n : Nat) : 0 < pow2 n := Nat.two_pow_pos n

theorem pow2_add (m n : Nat) : pow2 (m + n) = pow2 m * pow2 n := Nat.pow_add 2 m n

theorem pow2_le_pow2 {m n : Nat} (h : m ≤ n) : pow2 m ≤ pow2 n :=
  Nat.pow_le_pow_right (by decide) h

theorem log2_lt_of_lt_pow2 {n k : Nat} (hpos : 0 < k) (h : n < pow2 k) : Nat.log2 n < k := by
  rcases Nat.eq_zero_or_pos n with rfl | hn
  · rwa [Nat.log2_zero]
  · exact (Nat.log2_lt hn.ne').mpr h

theorem le_log2_of_pow2_le {n k : Nat} (h : pow2 k ≤ n) : k ≤ Nat.log2 n :=
  (Nat.le_log2 ((pow2_pos k).trans_le h).ne').mpr h

/-! ## Rounding on a grid -/

theorem roundHalfEven_cases (numerator denominator : Nat) :
    let quotient := numerator / denominator
    let remainder := numerator % denominator
    (roundHalfEven numerator denominator = quotient ∧ 2 * remainder ≤ denominator) ∨
      (roundHalfEven numerator denominator = quotient + 1 ∧ denominator ≤ 2 * remainder) := by
  intro quotient remainder
  rw [roundHalfEven]
  split
  · exact Or.inl ⟨rfl, by omega⟩
  · split
    · exact Or.inr ⟨rfl, by omega⟩
    · have hparity : quotient % 2 = 0 ∨ quotient % 2 = 1 := by omega
      rcases hparity with heven | hodd
      · exact Or.inl ⟨by omega, by omega⟩
      · exact Or.inr ⟨by omega, by omega⟩

/-- No multiple of the denominator is nearer than the rounded one. -/
theorem dist_roundHalfEven_le {denominator : Nat} (hpos : 0 < denominator) (numerator k : Nat) :
    Nat.dist (roundHalfEven numerator denominator * denominator) numerator ≤
      Nat.dist (k * denominator) numerator := by
  have hsplit := Nat.div_add_mod' numerator denominator
  have hremainder := Nat.mod_lt numerator hpos
  have hside : k * denominator ≤ numerator / denominator * denominator ∨
      (numerator / denominator + 1) * denominator ≤ k * denominator := by
    rcases Nat.lt_or_ge (numerator / denominator) k with habove | hbelow
    · exact Or.inr (Nat.mul_le_mul_right _ habove)
    · exact Or.inl (Nat.mul_le_mul_right _ hbelow)
  rw [Nat.add_mul, Nat.one_mul] at hside
  simp only [Nat.dist]
  rcases roundHalfEven_cases numerator denominator with ⟨hround, hhalf⟩ | ⟨hround, hhalf⟩
  · rw [hround]
    omega
  · rw [hround, Nat.add_mul, Nat.one_mul]
    omega

/-! ## Fields of a magnitude -/

theorem infinityMagnitude_eq : infinityMagnitude = 2047 * 2 ^ 52 := rfl

section Fields

variable {negative : Bool} {magnitude : Nat}

theorem toNat_bits_ofMagnitude (h : magnitude < 2 ^ 63) :
    (ofMagnitude negative magnitude).bits.toNat = (if negative then 2 ^ 63 else 0) + magnitude := by
  rw [ofMagnitude, UInt64.toNat_ofNat', pow2_eq]
  apply Nat.mod_eq_of_lt
  split <;> omega

theorem negative_ofMagnitude (h : magnitude < 2 ^ 63) :
    (ofMagnitude negative magnitude).negative = negative := by
  rw [Double.negative, toNat_bits_ofMagnitude h, pow2_eq]
  cases negative
  · exact decide_eq_false (by simpa using h)
  · exact decide_eq_true (by simp)

theorem exponentField_ofMagnitude (h : magnitude < 2 ^ 63) :
    (ofMagnitude negative magnitude).exponentField = magnitude / 2 ^ 52 := by
  rw [exponentField, toNat_bits_ofMagnitude h, pow2_eq, pow2_eq]
  split <;> omega

theorem fractionField_ofMagnitude (h : magnitude < 2 ^ 63) :
    (ofMagnitude negative magnitude).fractionField = magnitude % 2 ^ 52 := by
  rw [fractionField, toNat_bits_ofMagnitude h, pow2_eq]
  split <;> omega

theorem isFinite_ofMagnitude (h : magnitude < infinityMagnitude) :
    (ofMagnitude negative magnitude).isFinite = true := by
  rw [infinityMagnitude_eq] at h
  rw [isFinite, exponentField_ofMagnitude (by omega), bne_iff_ne]
  have htop : topExponent = 2047 := rfl
  omega

theorem not_isFinite_ofMagnitude_infinity :
    (ofMagnitude negative infinityMagnitude).isFinite = false := by
  have hsmall : infinityMagnitude < 2 ^ 63 := by decide
  rw [isFinite, exponentField_ofMagnitude hsmall]
  decide

end Fields

/-- A significand, on the grid of a shift, is what the magnitude made of both holds.  A significand
that is one too large carries into the exponent. -/
theorem units_ofMagnitude (negative : Bool) {shift significand : Nat}
    (hlarge : significand ≤ 2 ^ 53) (hnormal : shift = 0 ∨ 2 ^ 52 ≤ significand)
    (h : shift * pow2 52 + significand < infinityMagnitude) :
    (ofMagnitude negative (shift * pow2 52 + significand)).units = significand * pow2 shift := by
  rw [infinityMagnitude_eq, pow2_eq] at h
  rw [units, pow2_eq, exponentField_ofMagnitude (by omega), fractionField_ofMagnitude (by omega)]
  by_cases hsubnormal : significand < 2 ^ 52
  · have hshift : shift = 0 := hnormal.resolve_right (by omega)
    rw [hshift, if_pos (by omega), pow2_eq]
    omega
  · rw [if_neg (by omega)]
    by_cases hcarry : significand = 2 ^ 53
    · have hexponent : (shift * 2 ^ 52 + significand) / 2 ^ 52 - 1 = 1 + shift := by omega
      have hfraction : (shift * 2 ^ 52 + significand) % 2 ^ 52 = 0 := by omega
      rw [hexponent, hfraction, pow2_add, hcarry, ← Nat.mul_assoc]
      rfl
    · have hexponent : (shift * 2 ^ 52 + significand) / 2 ^ 52 - 1 = shift := by omega
      have hfraction : 2 ^ 52 + (shift * 2 ^ 52 + significand) % 2 ^ 52 = significand := by omega
      rw [hexponent, hfraction]

/-- A double is on the grid of a shift, or has too few units to be normal there. -/
theorem units_grid (x : Double) (shift : Nat) :
    (∃ k, x.units = k * pow2 shift) ∨ (0 < shift ∧ x.units < pow2 52 * pow2 shift) := by
  have hfraction : x.fractionField < pow2 52 := Nat.mod_lt _ (pow2_pos 52)
  rcases Nat.eq_zero_or_pos shift with rfl | hshift
  · exact Or.inl ⟨x.units, (Nat.mul_one _).symm⟩
  rw [units]
  split
  · exact Or.inr ⟨hshift,
      Nat.lt_of_lt_of_le hfraction (Nat.le_mul_of_pos_right _ (pow2_pos shift))⟩
  rcases Nat.lt_or_ge (x.exponentField - 1) shift with hfine | hcoarse
  · refine Or.inr ⟨hshift, ?_⟩
    have hsignificand : pow2 52 + x.fractionField < pow2 52 * pow2 1 := by
      rw [pow2_eq] at hfraction ⊢
      rw [pow2_eq]
      omega
    have hpower : pow2 1 * pow2 (x.exponentField - 1) ≤ pow2 shift := by
      rw [← pow2_add]
      exact pow2_le_pow2 (by omega)
    calc (pow2 52 + x.fractionField) * pow2 (x.exponentField - 1)
        < pow2 52 * pow2 1 * pow2 (x.exponentField - 1) :=
          Nat.mul_lt_mul_of_pos_right hsignificand (pow2_pos _)
      _ ≤ pow2 52 * pow2 shift := by
          rw [Nat.mul_assoc]
          exact Nat.mul_le_mul_left _ hpower
  · refine Or.inl ⟨(pow2 52 + x.fractionField) * pow2 (x.exponentField - 1 - shift), ?_⟩
    rw [Nat.mul_assoc, ← pow2_add, Nat.sub_add_cancel hcoarse]

/-! ## The nearest double -/

/-- The shift that leaves fifty-three bits of a number, if it has so many. -/
theorem div_shift_bounds (n : Nat) :
    let shift := Nat.log2 n - 52
    n / pow2 shift < 2 ^ 53 ∧ (shift = 0 ∨ 2 ^ 52 ≤ n / pow2 shift) := by
  intro shift
  constructor
  · rw [Nat.div_lt_iff_lt_mul (pow2_pos _)]
    calc n < 2 ^ (Nat.log2 n + 1) := Nat.lt_log2_self
      _ ≤ 2 ^ (53 + shift) := pow2_le_pow2 (by omega)
      _ = 2 ^ 53 * pow2 shift := Nat.pow_add ..
  · rcases Nat.eq_zero_or_pos shift with hzero | hpos
    · exact Or.inl hzero
    · refine Or.inr ((Nat.le_div_iff_mul_le (pow2_pos _)).mpr ?_)
      have hlog : 52 + shift = Nat.log2 n := by omega
      have hn : n ≠ 0 := by
        rintro rfl
        exact absurd hpos (by decide)
      rw [pow2_eq, ← Nat.pow_add, hlog]
      exact Nat.log2_self_le hn

section Nearest

variable {negative : Bool} {numerator denominator : Nat}

/-- The shift that `nearest` takes. -/
def nearestShift (numerator denominator : Nat) : Nat :=
  Nat.log2 (numerator * unitsOfOne / denominator) - 52

/-- The significand that `nearest` takes. -/
def nearestSignificand (numerator denominator : Nat) : Nat :=
  roundHalfEven (numerator * unitsOfOne) (denominator * pow2 (nearestShift numerator denominator))

theorem nearest_eq : nearest negative numerator denominator =
    ofMagnitude negative (min (nearestShift numerator denominator * pow2 52 +
      nearestSignificand numerator denominator) infinityMagnitude) :=
  rfl

theorem nearestSignificand_bounds (numerator denominator : Nat) :
    nearestSignificand numerator denominator ≤ 2 ^ 53 ∧
      (nearestShift numerator denominator = 0 ∨
        2 ^ 52 ≤ nearestSignificand numerator denominator) := by
  obtain ⟨hbelow, hnormal⟩ := div_shift_bounds (numerator * unitsOfOne / denominator)
  rw [Nat.div_div_eq_div_mul, ← nearestShift] at hbelow hnormal
  obtain ⟨hround, -⟩ | ⟨hround, -⟩ := roundHalfEven_cases (numerator * unitsOfOne)
    (denominator * pow2 (nearestShift numerator denominator)) <;>
  · rw [nearestSignificand, hround]
    exact ⟨by omega, hnormal.imp_right fun h => by omega⟩

theorem lt_infinityMagnitude_of_isFinite
    (h : (nearest negative numerator denominator).isFinite = true) :
    nearestShift numerator denominator * pow2 52 + nearestSignificand numerator denominator <
      infinityMagnitude := by
  by_contra hlarge
  rw [nearest_eq, Nat.min_eq_right (Nat.not_lt.mp hlarge), not_isFinite_ofMagnitude_infinity] at h
  cases h

theorem negative_nearest (negative : Bool) (numerator denominator : Nat) :
    (nearest negative numerator denominator).negative = negative := by
  refine negative_ofMagnitude (Nat.lt_of_le_of_lt (Nat.min_le_right _ _) ?_)
  decide

theorem units_nearest (h : (nearest negative numerator denominator).isFinite = true) :
    (nearest negative numerator denominator).units =
      nearestSignificand numerator denominator * pow2 (nearestShift numerator denominator) := by
  have hsmall := lt_infinityMagnitude_of_isFinite h
  obtain ⟨hbelow, hnormal⟩ := nearestSignificand_bounds numerator denominator
  rw [nearest_eq, Nat.min_eq_left hsmall.le]
  exact units_ofMagnitude negative hbelow hnormal hsmall

/-- What is not too large stays finite. -/
theorem isFinite_nearest (hpos : 0 < denominator) (h : numerator < denominator * pow2 1023) :
    (nearest negative numerator denominator).isFinite = true := by
  have hquotient : numerator * unitsOfOne / denominator < pow2 (1023 + 1074) := by
    rw [Nat.div_lt_iff_lt_mul hpos, pow2_add, Nat.mul_right_comm, Nat.mul_comm (pow2 1023)]
    exact Nat.mul_lt_mul_of_pos_right h (pow2_pos 1074)
  have hlog := log2_lt_of_lt_pow2 (by decide) hquotient
  have hshift : nearestShift numerator denominator ≤ 2044 := by
    rw [nearestShift]
    omega
  obtain ⟨hbelow, -⟩ := nearestSignificand_bounds numerator denominator
  rw [nearest_eq]
  refine isFinite_ofMagnitude (Nat.lt_of_le_of_lt (Nat.min_le_left _ _) ?_)
  rw [infinityMagnitude_eq, pow2_eq]
  omega

/-- No double is nearer than the nearest one. -/
theorem dist_nearest_le (hpos : 0 < denominator)
    (hfinite : (nearest negative numerator denominator).isFinite = true) (x : Double) :
    Nat.dist ((nearest negative numerator denominator).units * denominator)
        (numerator * unitsOfOne) ≤
      Nat.dist (x.units * denominator) (numerator * unitsOfOne) := by
  have hgridPos : 0 < denominator * pow2 (nearestShift numerator denominator) :=
    Nat.mul_pos hpos (pow2_pos _)
  have hround := dist_roundHalfEven_le hgridPos (numerator * unitsOfOne)
  have hgrid : ∀ k, k * pow2 (nearestShift numerator denominator) * denominator =
      k * (denominator * pow2 (nearestShift numerator denominator)) := by
    intro k
    rw [Nat.mul_assoc, Nat.mul_comm (pow2 _)]
  rw [units_nearest hfinite, nearestSignificand, hgrid]
  obtain ⟨k, hk⟩ | ⟨hshift, hbelow⟩ := units_grid x (nearestShift numerator denominator)
  · rw [hk, hgrid]
    exact hround k
  · -- The fraction is normal on its grid, so the smallest normal value is between `x` and it.
    refine (hround (pow2 52)).trans ?_
    have hnormal : pow2 52 * (denominator * pow2 (nearestShift numerator denominator)) ≤
        numerator * unitsOfOne := by
      obtain ⟨-, hzero | hlow⟩ := div_shift_bounds (numerator * unitsOfOne / denominator)
      · exact absurd hzero hshift.ne'
      · rw [Nat.div_div_eq_div_mul] at hlow
        exact (Nat.le_div_iff_mul_le hgridPos).mp hlow
    have hx : x.units * denominator ≤
        pow2 52 * (denominator * pow2 (nearestShift numerator denominator)) := by
      rw [← hgrid]
      exact Nat.mul_le_mul_right _ hbelow.le
    rw [Nat.dist_eq_sub_of_le hnormal, Nat.dist_eq_sub_of_le (hx.trans hnormal)]
    exact Nat.sub_le_sub_left hx _

end Nearest

/-! ## Whole numbers -/

theorem unitsOfOne_pos : 0 < unitsOfOne := pow2_pos 1074

theorem units_of_toInt? {x : Double} {k : Int} (h : x.toInt? = some k) :
    x.units = k.natAbs * unitsOfOne := by
  rw [toInt?] at h
  split at h
  · rename_i hwhole
    rw [Bool.and_eq_true, beq_iff_eq] at hwhole
    obtain ⟨-, hmultiple⟩ := hwhole
    have hmagnitude : k.natAbs = x.units / unitsOfOne := by
      rw [← Option.some.inj h, ← Int.natCast_ediv]
      split
      · rw [Int.natAbs_neg, Int.natAbs_natCast]
      · rw [Int.natAbs_natCast]
    rw [hmagnitude, Nat.div_mul_cancel (Nat.dvd_of_mod_eq_zero hmultiple)]
  · cases h

theorem toInt?_of_units {x : Double} (hfinite : x.isFinite = true) (hsign : x.negative = false)
    {m : Nat} (h : x.units = m * unitsOfOne) : x.toInt? = some (m : Int) := by
  have hquotient : (m * unitsOfOne : Nat) / (unitsOfOne : Int) = m := by
    rw [← Int.natCast_ediv, Nat.mul_div_cancel _ unitsOfOne_pos]
  rw [toInt?, hfinite, hsign, h, Nat.mul_mod_left, hquotient]
  rfl

/-- A whole number of fifty-three bits, shifted, is a double. -/
theorem exists_toInt?_of_lt (significand shift : Nat) (hlow : 2 ^ 52 ≤ significand)
    (hhigh : significand ≤ 2 ^ 53) (hshift : shift ≤ 970) :
    ∃ x : Double, x.toInt? = some ((significand * 2 ^ shift : Nat) : Int) := by
  have hsmall : (shift + 1074) * pow2 52 + significand < infinityMagnitude := by
    rw [infinityMagnitude_eq, pow2_eq]
    omega
  refine ⟨ofMagnitude false ((shift + 1074) * pow2 52 + significand),
    toInt?_of_units (isFinite_ofMagnitude hsmall) (negative_ofMagnitude ?_) ?_⟩
  · exact hsmall.trans (by decide)
  · rw [units_ofMagnitude false hhigh (Or.inr hlow) hsmall, pow2_add, ← Nat.mul_assoc]
    rfl

/-- A double with more bits before the point than it has room for ends in zeros. -/
theorem dvd_of_toInt? {x : Double} {k : Int} (h : x.toInt? = some k) (shift : Nat)
    (hlarge : 2 ^ (52 + shift) ≤ k.natAbs) : 2 ^ shift ∣ k.natAbs := by
  have hunits := units_of_toInt? h
  obtain ⟨j, hj⟩ | ⟨-, hbelow⟩ := units_grid x (shift + 1074)
  · refine ⟨j, Nat.eq_of_mul_eq_mul_right unitsOfOne_pos ?_⟩
    rw [← hunits, hj, pow2_add, ← Nat.mul_assoc, Nat.mul_comm j]
    rfl
  · rw [hunits, pow2_add, ← Nat.mul_assoc, ← pow2_add] at hbelow
    exact absurd hlarge (Nat.not_le.mpr (Nat.lt_of_mul_lt_mul_right hbelow))

/-- The nearest double of a large whole number is a whole number, and none is nearer. -/
theorem exists_toInt?_nearest {n : Nat} (hlow : 2 ^ 52 ≤ n) (hhigh : n < pow2 1023) :
    ∃ m : Nat, (nearest false n 1).toInt? = some (m : Int) ∧
      ∀ (x : Double) (k : Int), x.toInt? = some k → (m - n : Int).natAbs ≤ (k - n).natAbs := by
  have hfinite : (nearest false n 1).isFinite = true :=
    isFinite_nearest Nat.one_pos (by rwa [Nat.one_mul])
  obtain ⟨shift, hshift⟩ : ∃ shift, nearestShift n 1 = shift + 1074 := by
    have hlog : 52 + 1074 ≤ Nat.log2 (n * unitsOfOne / 1) := by
      apply le_log2_of_pow2_le
      rw [Nat.div_one, pow2_add]
      exact Nat.mul_le_mul_right _ hlow
    exact ⟨Nat.log2 (n * unitsOfOne / 1) - 52 - 1074, by rw [nearestShift]; omega⟩
  have hunits : (nearest false n 1).units = nearestSignificand n 1 * pow2 shift * unitsOfOne := by
    rw [units_nearest hfinite, hshift, pow2_add, Nat.mul_assoc]
    rfl
  refine ⟨nearestSignificand n 1 * pow2 shift,
    toInt?_of_units hfinite (negative_nearest false n 1) hunits, fun x k hx => ?_⟩
  have hdist := dist_nearest_le Nat.one_pos hfinite x
  rw [Nat.mul_one, Nat.mul_one, hunits, units_of_toInt? hx, Nat.dist_mul_right, Nat.dist_mul_right]
    at hdist
  have hnear := Nat.le_of_mul_le_mul_right hdist unitsOfOne_pos
  simp only [Nat.dist] at hnear
  omega

end SqlTemplate.Double
