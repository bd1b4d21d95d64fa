import Mathlib.Data.List.TakeWhile
import Mathlib.Data.Rat.Cast.Order
import Mathlib.Tactic.FieldSimp
import Mathlib.Tactic.Ring
import SqlTemplate.Number.Numeral

/-!
# The number that a text denotes

A decimal number is written as an optional sign, digits with an optional fraction, and an
optional exponent.  `Denotes` is this grammar with the rational number that a text stands for,
and says nothing of how a text is read.

* `decimalValue_append`, `decimalValue_lt` and `decimalValue_eq_zero_iff`: the number that a row
  of digits denotes.
* `Numeral.value` is the number that the parts of a numeral denote.
* `exists_ofChars?_of_denotes` and `denotes_of_ofChars?`: the texts of the grammar are those that
  spell a numeral, and the numeral has the value that the text denotes.
-/

namespace SqlTemplate

open Text

/-! ## Digits -/

namespace Text

/-- A row of digits that is not empty. -/
def IsDigits (cs : List Char) : Prop :=
  cs ≠ [] ∧ ∀ c ∈ cs, isAsciiDigit c = true

theorem decimalValue_append (front back : List Char) :
    decimalValue (front ++ back) = decimalValue front * 10 ^ back.length + decimalValue back := by
  rw [decimalValue, Nat.ofDigitChars_append, Nat.ofDigitChars_eq_ofDigitChars_zero, Nat.mul_comm]
  rfl

theorem decimalValue_cons (c : Char) (cs : List Char) :
    decimalValue (c :: cs) = (c.toNat - 48) * 10 ^ cs.length + decimalValue cs := by
  rw [← List.singleton_append, decimalValue_append]
  congr 2
  simp [decimalValue, Nat.ofDigitChars_cons]

theorem decimalValue_lt {cs : List Char} (h : ∀ c ∈ cs, isAsciiDigit c = true) :
    decimalValue cs < 10 ^ cs.length := by
  induction cs with
  | nil => decide
  | cons c cs ih =>
    have hbounds := toNat_of_isAsciiDigit (h c List.mem_cons_self)
    have hrest := ih fun d hd => h d (List.mem_cons_of_mem _ hd)
    have hfirst : (c.toNat - 48) * 10 ^ cs.length ≤ 9 * 10 ^ cs.length :=
      Nat.mul_le_mul_right _ (by omega)
    rw [decimalValue_cons, List.length_cons, Nat.pow_succ]
    omega

theorem decimalValue_eq_zero_iff {cs : List Char} (h : ∀ c ∈ cs, isAsciiDigit c = true) :
    decimalValue cs = 0 ↔ ∀ c ∈ cs, c = '0' := by
  induction cs with
  | nil => exact iff_of_true rfl nofun
  | cons c cs ih =>
    have hbounds := toNat_of_isAsciiDigit (h c List.mem_cons_self)
    have hpow : 10 ^ cs.length ≠ 0 := Nat.ne_of_gt (Nat.pow_pos (by decide))
    have hdigit : c.toNat - 48 = 0 ↔ c = '0' := by
      rw [← Char.toNat_inj]
      show _ ↔ c.toNat = 48
      omega
    rw [decimalValue_cons, Nat.add_eq_zero_iff, Nat.mul_eq_zero, or_iff_left hpow, hdigit,
      ih fun d hd => h d (List.mem_cons_of_mem _ hd), List.forall_mem_cons]

/-- Zeros behind a row of digits multiply the number. -/
theorem decimalValue_append_zeros (cs : List Char) (count : Nat) :
    decimalValue (cs ++ List.replicate count '0') = decimalValue cs * 10 ^ count := by
  have hzeros : decimalValue (List.replicate count '0') = 0 := by
    rw [decimalValue_eq_zero_iff fun c hc => by rw [List.eq_of_mem_replicate hc]; rfl]
    exact fun c hc => List.eq_of_mem_replicate hc
  rw [decimalValue_append, hzeros, List.length_replicate, Nat.add_zero]

end Text

namespace Numeral

/-! ## The grammar -/

/-- A sign that may be missing, and the factor that it stands for. -/
inductive Sign : List Char → ℤ → Prop where
  | none : Sign [] 1
  | plus : Sign ['+'] 1
  | minus : Sign ['-'] (-1)

/-- Digits with an optional fraction, or a fraction alone, and the number that they denote. -/
inductive Mantissa : List Char → ℚ → Prop where
  | whole {whole : List Char} (h : IsDigits whole) : Mantissa whole (decimalValue whole)
  | mixed {whole fraction : List Char} (h : IsDigits whole)
      (hfraction : ∀ c ∈ fraction, isAsciiDigit c = true) :
      Mantissa (whole ++ '.' :: fraction)
        (decimalValue whole + decimalValue fraction / 10 ^ fraction.length)
  | fraction {fraction : List Char} (h : IsDigits fraction) :
      Mantissa ('.' :: fraction) (decimalValue fraction / 10 ^ fraction.length)

/-- An exponent that may be missing, and the power of ten. -/
inductive Exponent : List Char → ℤ → Prop where
  | none : Exponent [] 0
  | some {mark : Char} {sign digits : List Char} {factor : ℤ} (hmark : mark = 'e' ∨ mark = 'E')
      (hsign : Sign sign factor) (h : IsDigits digits) :
      Exponent (mark :: (sign ++ digits)) (factor * decimalValue digits)

/-- The text is a decimal number, and the rational number is its exact value. -/
inductive Denotes : List Char → ℚ → Prop where
  | intro {sign mantissa exponent : List Char} {factor power : ℤ} {magnitude : ℚ}
      (hsign : Sign sign factor) (hmantissa : Mantissa mantissa magnitude)
      (hexponent : Exponent exponent power) :
      Denotes (sign ++ mantissa ++ exponent) (factor * magnitude * 10 ^ power)

/-- The exact value of a numeral. -/
def value (n : Numeral) : ℚ :=
  (if n.negative then -1 else 1) * n.digits * 10 ^ n.scale

/-- The factor of a sign. -/
def factor (negative : Bool) : ℤ :=
  if negative then -1 else 1

/-- The number that the digits around a point denote. -/
theorem mantissa_eq (whole fraction : List Char) :
    (decimalValue whole + decimalValue fraction / 10 ^ fraction.length : ℚ) =
      decimalValue (whole ++ fraction) / 10 ^ fraction.length := by
  rw [decimalValue_append]
  push_cast
  field_simp

theorem value_mk (negative : Bool) (whole fraction : List Char) (exponent : ℤ) :
    value ⟨negative, whole, fraction, exponent⟩ =
      factor negative * (decimalValue (whole ++ fraction) / 10 ^ fraction.length) *
        10 ^ exponent := by
  have hten : (10 : ℚ) ≠ 0 := by norm_num
  rw [value, digits, scale, zpow_sub₀ hten, zpow_natCast, factor]
  push_cast
  ring

/-! ## Reading what the grammar describes -/

theorem not_isAsciiDigit_of_mark {c : Char} (h : c = 'e' ∨ c = 'E') : isAsciiDigit c = false := by
  rcases h with rfl | rfl <;> decide

/-- Digits are taken up to the first other character. -/
theorem span_digits {digits rest : List Char} (h : ∀ c ∈ digits, isAsciiDigit c = true)
    (hrest : ∀ c ∈ rest.head?, isAsciiDigit c = false) :
    (digits ++ rest).takeWhile isAsciiDigit = digits ∧
      (digits ++ rest).dropWhile isAsciiDigit = rest := by
  rw [List.takeWhile_append_of_pos h, List.dropWhile_append_of_pos h]
  cases rest with
  | nil => simp
  | cons c rest =>
    have hc := hrest c rfl
    rw [List.takeWhile_cons_of_neg (by simp [hc]), List.dropWhile_cons_of_neg (by simp [hc]),
      List.append_nil]
    exact ⟨rfl, rfl⟩

theorem splitSign_append {sign rest : List Char} {power : ℤ} (h : Sign sign power)
    (hrest : ∀ c ∈ rest.head?, c ≠ '-' ∧ c ≠ '+') :
    ∃ negative, splitSign (sign ++ rest) = (negative, rest) ∧ factor negative = power := by
  cases h with
  | none =>
    refine ⟨false, ?_, rfl⟩
    cases rest with
    | nil => rfl
    | cons c rest =>
      obtain ⟨hminus, hplus⟩ := hrest c rfl
      rw [List.nil_append, splitSign]
      · exact fun other hother => hminus (List.cons.inj hother).1
      · exact fun other hother => hplus (List.cons.inj hother).1
  | plus => exact ⟨false, rfl, rfl⟩
  | minus => exact ⟨true, rfl, rfl⟩

theorem ne_sign_of_isAsciiDigit {c : Char} (h : isAsciiDigit c = true) : c ≠ '-' ∧ c ≠ '+' := by
  constructor <;> rintro rfl <;> revert h <;> decide

theorem exponent?_of_exponent {cs : List Char} {power : ℤ} (h : Exponent cs power) :
    exponent? cs = some power ∧ ∀ c ∈ cs.head?, c = 'e' ∨ c = 'E' := by
  cases h with
  | none => exact ⟨rfl, nofun⟩
  | @some mark sign digits power hmark hsign hdigits =>
    have hhead : ∀ c ∈ digits.head?, c ≠ '-' ∧ c ≠ '+' :=
      fun c hc => ne_sign_of_isAsciiDigit (hdigits.2 c (List.mem_of_mem_head? hc))
    obtain ⟨negative, hsplit, rfl⟩ := splitSign_append hsign hhead
    refine ⟨?_, by simpa using hmark⟩
    have hshape : ((mark == 'e' || mark == 'E') && !digits.isEmpty && digits.all isAsciiDigit) =
        true := by
      simpa [hmark, hdigits.1] using hdigits.2
    simp only [exponent?, hsplit, hshape, if_true]
    cases negative <;> simp [factor]

theorem splitFraction_of_not_point {cs : List Char} (h : ∀ c ∈ cs.head?, c ≠ '.') :
    splitFraction cs = ([], cs) := by
  cases cs with
  | nil => rfl
  | cons c cs =>
    rw [splitFraction]
    exact fun rest hrest => h c rfl (List.cons.inj hrest).1

theorem splitFraction_point {fraction rest : List Char}
    (h : ∀ c ∈ fraction, isAsciiDigit c = true)
    (hrest : ∀ c ∈ rest.head?, c = 'e' ∨ c = 'E') :
    splitFraction ('.' :: (fraction ++ rest)) = (fraction, rest) := by
  obtain ⟨htake, hdrop⟩ := span_digits h fun c hc => not_isAsciiDigit_of_mark (hrest c hc)
  rw [splitFraction, htake, hdrop]

theorem isAsciiDigit_of_mem_head? {digits rest : List Char} (h : IsDigits digits) :
    ∀ c ∈ (digits ++ rest).head?, isAsciiDigit c = true := by
  obtain ⟨first, others, rfl⟩ := List.exists_cons_of_ne_nil h.1
  rintro _ ⟨⟩
  exact h.2 first List.mem_cons_self

/-- A mantissa is read up to the mark of an exponent or to the end. -/
theorem read_mantissa {mantissa rest : List Char} {magnitude : ℚ} (h : Mantissa mantissa magnitude)
    (hrest : ∀ c ∈ rest.head?, c = 'e' ∨ c = 'E') :
    ∃ whole fraction, (mantissa ++ rest).takeWhile isAsciiDigit = whole ∧
      splitFraction ((mantissa ++ rest).dropWhile isAsciiDigit) = (fraction, rest) ∧
      (whole.isEmpty && fraction.isEmpty) = false ∧
      magnitude = decimalValue (whole ++ fraction) / 10 ^ fraction.length ∧
      ∀ c ∈ (mantissa ++ rest).head?, c ≠ '-' ∧ c ≠ '+' := by
  cases h with
  | whole hwhole =>
    obtain ⟨htake, hdrop⟩ := span_digits hwhole.2 fun c hc => not_isAsciiDigit_of_mark (hrest c hc)
    have hpoint : ∀ c ∈ rest.head?, c ≠ '.' := by
      intro c hc
      rcases hrest c hc with rfl | rfl <;> decide
    refine ⟨mantissa, [], htake, ?_, by simp [hwhole.1], by simp, fun c hc => ?_⟩
    · rw [hdrop, splitFraction_of_not_point hpoint]
    · exact ne_sign_of_isAsciiDigit (isAsciiDigit_of_mem_head? hwhole c hc)
  | @mixed whole fraction hwhole hfraction =>
    have hsplit : whole ++ '.' :: fraction ++ rest = whole ++ '.' :: (fraction ++ rest) := by simp
    have hpoint : ∀ c ∈ ('.' :: (fraction ++ rest)).head?, isAsciiDigit c = false := by
      rintro _ ⟨⟩
      decide
    obtain ⟨htake, hdrop⟩ := span_digits hwhole.2 hpoint
    rw [hsplit]
    refine ⟨whole, fraction, htake, ?_, by simp [hwhole.1], mantissa_eq whole fraction,
      fun c hc => ?_⟩
    · rw [hdrop, splitFraction_point hfraction hrest]
    · exact ne_sign_of_isAsciiDigit (isAsciiDigit_of_mem_head? hwhole c hc)
  | @fraction fraction hfraction =>
    refine ⟨[], fraction, rfl, splitFraction_point hfraction.2 hrest, by simp [hfraction.1], rfl,
      ?_⟩
    rintro _ ⟨⟩
    decide

/-- A text of the grammar spells a numeral that has the value the text denotes. -/
theorem exists_ofChars?_of_denotes {cs : List Char} {q : ℚ} (h : Denotes cs q) :
    ∃ n, ofChars? cs = some n ∧ n.value = q := by
  cases h with
  | @intro sign mantissa exponent power scaled magnitude hsign hmantissa hexponent =>
    obtain ⟨hpower, hmark⟩ := exponent?_of_exponent hexponent
    obtain ⟨whole, fraction, htake, hsplit, hne, rfl, hhead⟩ := read_mantissa hmantissa hmark
    obtain ⟨negative, hnegative, rfl⟩ := splitSign_append hsign hhead
    refine ⟨⟨negative, whole, fraction, scaled⟩, ?_, value_mk _ _ _ _⟩
    simp [ofChars?, List.append_assoc, hnegative, htake, hsplit, hne, hpower]

/-! ## What is read is in the grammar -/

theorem exists_sign (cs : List Char) :
    ∃ sign, Sign sign (factor (splitSign cs).1) ∧ cs = sign ++ (splitSign cs).2 := by
  unfold splitSign
  split
  · exact ⟨['-'], .minus, rfl⟩
  · exact ⟨['+'], .plus, rfl⟩
  · exact ⟨[], .none, rfl⟩

theorem isDigits_takeWhile {cs : List Char} (h : (cs.takeWhile isAsciiDigit) ≠ []) :
    IsDigits (cs.takeWhile isAsciiDigit) :=
  ⟨h, fun _ hc => List.mem_takeWhile_imp hc⟩

theorem exists_mantissa {unsigned fraction rest : List Char}
    (hsplit : splitFraction (unsigned.dropWhile isAsciiDigit) = (fraction, rest))
    (hne : unsigned.takeWhile isAsciiDigit ≠ [] ∨ fraction ≠ []) :
    ∃ mantissa, unsigned = mantissa ++ rest ∧
      Mantissa mantissa (decimalValue (unsigned.takeWhile isAsciiDigit ++ fraction) /
        10 ^ fraction.length) := by
  have hunsigned : unsigned = unsigned.takeWhile isAsciiDigit ++ unsigned.dropWhile isAsciiDigit :=
    List.takeWhile_append_dropWhile.symm
  unfold splitFraction at hsplit
  split at hsplit
  · rename_i tail htail
    obtain ⟨rfl, rfl⟩ := Prod.mk.inj hsplit
    have hdigits : ∀ c ∈ tail.takeWhile isAsciiDigit, isAsciiDigit c = true :=
      fun c hc => List.mem_takeWhile_imp hc
    have hpoint : unsigned = unsigned.takeWhile isAsciiDigit ++
        '.' :: tail.takeWhile isAsciiDigit ++ tail.dropWhile isAsciiDigit := by
      rw [List.append_assoc, List.cons_append, List.takeWhile_append_dropWhile, ← htail]
      exact hunsigned
    refine ⟨_, hpoint, ?_⟩
    by_cases hwhole : unsigned.takeWhile isAsciiDigit = []
    · rw [hwhole]
      exact .fraction ⟨hne.resolve_left (absurd hwhole), hdigits⟩
    · rw [← mantissa_eq]
      exact .mixed (isDigits_takeWhile hwhole) hdigits
  · obtain ⟨rfl, rfl⟩ := Prod.mk.inj hsplit
    refine ⟨_, hunsigned, ?_⟩
    have hwhole := Mantissa.whole (isDigits_takeWhile (hne.resolve_right (absurd rfl)))
    simpa using hwhole

theorem exponent_of_exponent? {cs : List Char} {power : ℤ} (h : exponent? cs = some power) :
    Exponent cs power := by
  cases cs with
  | nil =>
    cases h
    exact .none
  | cons mark rest =>
    obtain ⟨sign, hsign, hrest⟩ := exists_sign rest
    rcases hsplit : splitSign rest with ⟨negative, digits⟩
    rw [hsplit] at hsign hrest
    simp only [exponent?, hsplit] at h
    split at h
    · rename_i hshape
      simp only [Bool.and_eq_true, Bool.or_eq_true, beq_iff_eq, List.all_eq_true,
        Bool.not_eq_true', List.isEmpty_eq_false_iff] at hshape
      obtain ⟨⟨hmark, hne⟩, hdigits⟩ := hshape
      have hpower : power = factor negative * decimalValue digits := by
        rw [← Option.some.inj h, factor]
        split <;> simp
      rw [hpower, hrest]
      exact .some hmark hsign ⟨hne, hdigits⟩
    · cases h

/-- The parts of a numeral are what was read one after the other. -/
theorem parts_of_ofChars? {cs : List Char} {n : Numeral} (h : ofChars? cs = some n) :
    ∃ unsigned rest, splitSign cs = (n.negative, unsigned) ∧
      unsigned.takeWhile isAsciiDigit = n.whole ∧
      splitFraction (unsigned.dropWhile isAsciiDigit) = (n.fraction, rest) ∧
      (n.whole ≠ [] ∨ n.fraction ≠ []) ∧ exponent? rest = some n.exponent := by
  rcases hnegative : splitSign cs with ⟨negative, unsigned⟩
  rcases hfraction : splitFraction (unsigned.dropWhile isAsciiDigit) with ⟨fraction, rest⟩
  simp only [ofChars?, hnegative, hfraction] at h
  split at h
  · cases h
  rename_i hempty
  obtain ⟨power, hpower, rfl⟩ := Option.map_eq_some_iff.mp h
  refine ⟨unsigned, rest, rfl, rfl, hfraction, ?_, hpower⟩
  rwa [Bool.and_eq_true, List.isEmpty_iff, List.isEmpty_iff, not_and_or] at hempty

/-- A text that spells a numeral is in the grammar and denotes the value of the numeral. -/
theorem denotes_of_ofChars? {cs : List Char} {n : Numeral} (h : ofChars? cs = some n) :
    Denotes cs n.value := by
  obtain ⟨unsigned, rest, hnegative, hwhole, hfraction, hne, hexponent⟩ := parts_of_ofChars? h
  obtain ⟨sign, hsign, hcs⟩ := exists_sign cs
  rw [hnegative] at hsign hcs
  rw [← hwhole] at hne
  obtain ⟨mantissa, hmantissa, hmagnitude⟩ := exists_mantissa hfraction hne
  have hvalue := Denotes.intro hsign hmagnitude (exponent_of_exponent? hexponent)
  rwa [hwhole, ← value_mk, List.append_assoc, ← hmantissa, ← hcs] at hvalue

/-! ## How long the parts are -/

/-- An exponent has as many digits as it needs, behind its mark. -/
theorem Exponent.natAbs_lt {cs : List Char} {power : ℤ} (h : Exponent cs power) :
    power.natAbs < 10 ^ (cs.length - 1) := by
  cases h with
  | none => decide
  | @some mark sign digits power _ hsign hdigits =>
    have hpower : (power * decimalValue digits).natAbs = decimalValue digits := by
      cases hsign <;> simp
    have hlength : digits.length ≤ (mark :: (sign ++ digits)).length - 1 := by simp
    rw [hpower]
    exact Nat.lt_of_lt_of_le (decimalValue_lt hdigits.2) (Nat.pow_le_pow_right (by decide) hlength)

/-- The digits of a numeral and its exponent stand side by side in the text. -/
theorem lengths_of_ofChars? {cs : List Char} {n : Numeral} (h : ofChars? cs = some n) :
    ∃ exponent, Exponent exponent n.exponent ∧
      n.whole.length + n.fraction.length + exponent.length ≤ cs.length := by
  obtain ⟨unsigned, rest, hnegative, hwhole, hfraction, _, hexponent⟩ := parts_of_ofChars? h
  refine ⟨rest, exponent_of_exponent? hexponent, ?_⟩
  have hcs : unsigned.length ≤ cs.length := by
    obtain ⟨sign, _, hcs⟩ := exists_sign cs
    rw [hnegative] at hcs
    rw [hcs, List.length_append]
    exact Nat.le_add_left _ _
  have htail : n.fraction.length + rest.length ≤ (unsigned.dropWhile isAsciiDigit).length := by
    unfold splitFraction at hfraction
    split at hfraction
    · rename_i tail htail
      obtain ⟨hdigits, hrest⟩ := Prod.mk.inj hfraction
      have hsplit := congrArg List.length (List.takeWhile_append_dropWhile (p := isAsciiDigit)
        (l := tail))
      rw [List.length_append, hdigits, hrest] at hsplit
      rw [htail, List.length_cons]
      omega
    · obtain ⟨hdigits, hrest⟩ := Prod.mk.inj hfraction
      rw [← hdigits, ← hrest, List.length_nil, Nat.zero_add]
  have hunsigned := congrArg List.length (List.takeWhile_append_dropWhile (p := isAsciiDigit)
    (l := unsigned))
  rw [List.length_append, hwhole] at hunsigned
  omega

theorem forall_isAsciiDigit {cs : List Char} {n : Numeral} (h : ofChars? cs = some n) :
    ∀ c ∈ n.whole ++ n.fraction, isAsciiDigit c = true := by
  obtain ⟨unsigned, rest, _, hwhole, hfraction, _⟩ := parts_of_ofChars? h
  intro c hc
  rcases List.mem_append.mp hc with hmem | hmem
  · rw [← hwhole] at hmem
    exact List.mem_takeWhile_imp hmem
  · unfold splitFraction at hfraction
    split at hfraction
    · rw [← (Prod.mk.inj hfraction).1] at hmem
      exact List.mem_takeWhile_imp hmem
    · rw [← (Prod.mk.inj hfraction).1] at hmem
      cases hmem

end Numeral

end SqlTemplate
