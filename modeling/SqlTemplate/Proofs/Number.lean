import SqlTemplate.Double.Text
import SqlTemplate.Proofs.Number.Denotation

/-!
# The characters of written numbers

Which characters a written number has, and where a sign may stand in it.

* `intText_eq`: an integer is digits with at most a minus sign in front.
* `Double.text_eq`: a finite double is digits and points with at most a minus sign in
  front.
* `Numeral.ofChars?_eq_some`: a text that spells a numeral is a sign, digits, a fraction
  and an exponent, each of which may be missing.
-/

namespace SqlTemplate

open Text

/-! ## Integers -/

theorem intText_eq (n : Int) :
    ∃ sign digits, intText n = sign ++ digits ∧ (sign = [] ∨ sign = ['-']) ∧
      ∀ c ∈ digits, isAsciiDigit c = true := by
  cases n with
  | ofNat n => exact ⟨[], decimal n, rfl, Or.inl rfl, fun c hc => isAsciiDigit_of_mem_decimal hc⟩
  | negSucc n =>
    exact ⟨['-'], decimal (n + 1), rfl, Or.inr rfl, fun c hc => isAsciiDigit_of_mem_decimal hc⟩

/-! ## Doubles -/

theorem isAsciiDigit_zero : isAsciiDigit '0' = true := by decide

theorem mem_positional {digits : List Char} (hdigits : ∀ c ∈ digits, isAsciiDigit c = true)
    (exponent : Int) : ∀ c ∈ Double.positional digits exponent,
      isAsciiDigit c = true ∨ c = '.' := by
  have hzeros : ∀ (count : Nat), ∀ c ∈ List.replicate count '0', isAsciiDigit c = true := by
    intro count c hc
    rw [List.eq_of_mem_replicate hc]
    exact isAsciiDigit_zero
  intro c hc
  unfold Double.positional at hc
  split at hc
  · rcases List.mem_append.mp hc with hdigit | hzero
    · exact Or.inl (hdigits c hdigit)
    · exact Or.inl (hzeros _ c hzero)
  · have hpadded : ∀ c ∈ List.replicate ((-exponent).toNat + 1 - digits.length) '0' ++ digits,
        isAsciiDigit c = true := by
      intro c hc
      rcases List.mem_append.mp hc with hzero | hdigit
      · exact hzeros _ c hzero
      · exact hdigits c hdigit
    rcases List.mem_append.mp hc with hwhole | hrest
    · exact Or.inl (hpadded c (List.mem_of_mem_take hwhole))
    rcases List.mem_cons.mp hrest with hpoint | hfraction
    · exact Or.inr hpoint
    · exact Or.inl (hpadded c (List.mem_of_mem_drop hfraction))

theorem mem_trimmed (d : ShortDecimal) : ∀ c ∈ d.trimmed.1, isAsciiDigit c = true := by
  intro c hc
  simp only [ShortDecimal.trimmed, List.mem_reverse] at hc
  have hmem := (List.dropWhile_sublist _).subset hc
  exact isAsciiDigit_of_mem_decimal (List.mem_reverse.mp hmem)

theorem Double.text_eq {x : Double} (hfinite : x.isFinite = true) :
    ∃ sign magnitude, x.text.toList = sign ++ magnitude ∧ (sign = [] ∨ sign = ['-']) ∧
      ∀ c ∈ magnitude, isAsciiDigit c = true ∨ c = '.' := by
  have hnumber : x.isNaN = false := by
    simp only [isFinite, bne_iff_ne, ne_eq] at hfinite
    simp [isNaN, hfinite]
  refine ⟨if x.negative then ['-'] else [],
    if x.isZero then ['0'] else positional x.shortest.trimmed.1 x.shortest.trimmed.2,
    ?_, ?_, ?_⟩
  · simp [text, write, hnumber, hfinite]
  · split
    · exact Or.inr rfl
    · exact Or.inl rfl
  · intro c hc
    split at hc
    · rw [List.mem_singleton.mp hc]
      exact Or.inl isAsciiDigit_zero
    · exact mem_positional (mem_trimmed _) _ c hc

/-! ## Numerals -/

namespace Numeral

/-- Nothing, a minus sign or a plus sign. -/
def IsSign (cs : List Char) : Prop :=
  cs = [] ∨ cs = ['-'] ∨ cs = ['+']

/-- Nothing, or a point and digits. -/
def IsFraction (cs : List Char) : Prop :=
  cs = [] ∨ ∃ digits, cs = '.' :: digits ∧ ∀ c ∈ digits, isAsciiDigit c = true

/-- Nothing, or a mark, a sign and digits. -/
def IsExponent (cs : List Char) : Prop :=
  cs = [] ∨ ∃ mark sign digits, cs = mark :: (sign ++ digits) ∧ (mark = 'e' ∨ mark = 'E') ∧
    IsSign sign ∧ ∀ c ∈ digits, isAsciiDigit c = true

theorem isSign_of_sign {cs : List Char} {factor : ℤ} (h : Sign cs factor) : IsSign cs := by
  cases h with
  | none => exact Or.inl rfl
  | minus => exact Or.inr (Or.inl rfl)
  | plus => exact Or.inr (Or.inr rfl)

theorem isExponent_of_exponent {cs : List Char} {power : ℤ} (h : Exponent cs power) :
    IsExponent cs := by
  cases h with
  | none => exact Or.inl rfl
  | some hmark hsign hdigits =>
    exact Or.inr ⟨_, _, _, rfl, hmark, isSign_of_sign hsign, hdigits.2⟩

theorem exists_fraction_of_mantissa {cs : List Char} {magnitude : ℚ} (h : Mantissa cs magnitude) :
    ∃ whole fraction, cs = whole ++ fraction ∧ (∀ c ∈ whole, isAsciiDigit c = true) ∧
      IsFraction fraction := by
  cases h with
  | whole hwhole => exact ⟨cs, [], (List.append_nil cs).symm, hwhole.2, Or.inl rfl⟩
  | mixed hwhole hfraction => exact ⟨_, _, rfl, hwhole.2, Or.inr ⟨_, rfl, hfraction⟩⟩
  | fraction hfraction => exact ⟨[], _, rfl, nofun, Or.inr ⟨_, rfl, hfraction.2⟩⟩

/-- A text that spells a numeral is a sign, digits, a fraction and an exponent. -/
theorem ofChars?_eq_some {cs : List Char} {n : Numeral} (h : ofChars? cs = some n) :
    ∃ sign whole fraction exponent, cs = sign ++ whole ++ fraction ++ exponent ∧
      IsSign sign ∧ (∀ c ∈ whole, isAsciiDigit c = true) ∧ IsFraction fraction ∧
      IsExponent exponent := by
  have hdenotes := denotes_of_ofChars? h
  generalize n.value = value at hdenotes
  obtain ⟨hsign, hmantissa, hexponent⟩ := hdenotes
  obtain ⟨whole, fraction, rfl, hwhole, hfraction⟩ := exists_fraction_of_mantissa hmantissa
  refine ⟨_, whole, fraction, _, ?_, isSign_of_sign hsign, hwhole, hfraction,
    isExponent_of_exponent hexponent⟩
  simp only [List.append_assoc]

end Numeral

end SqlTemplate
