import SqlTemplate.Number.Power
import SqlTemplate.Text.CharClass

/-!
# Decimal numbers

How whole numbers are written, and which texts are the written form of one.  A number is
written with the digits zero to nine, the most significant first, without leading zeros;
a negative one has a minus sign in front.

A *position* is a number that may stand for a place in a list of values: it is at most
`largestPosition`.  `position?` recognizes exactly the written forms of positions.
-/

namespace SqlTemplate.Text

/-! ## Writing -/

/-- The digits of a natural number. -/
def decimal (n : Nat) : List Char :=
  Nat.toDigits 10 n

/-- The written form of an integer. -/
def intText : Int → List Char
  | .ofNat n => decimal n
  | .negSucc n => '-' :: decimal (n + 1)

/-! ## Reading -/

/-- The number that a run of digits denotes, leading zeros allowed. -/
def decimalValue (digits : List Char) : Nat :=
  Nat.ofDigitChars 10 digits 0

/-- Whether a text is the written form of a natural number: digits only, at least one,
and no leading zero but that of zero itself. -/
def isCanonicalDecimal (cs : List Char) : Bool :=
  !cs.isEmpty && cs.all isAsciiDigit && (cs.head? != some '0' || cs.length == 1)

/-- The largest number that may stand for a place in a list of values. -/
def largestPosition : Nat :=
  pow2 63 - 1

theorem le_largestPosition_iff {n : Nat} : n ≤ largestPosition ↔ n < pow2 63 :=
  Nat.le_sub_one_iff_lt (by decide)

/-- The position of which the text is the written form. -/
def position? (name : String) : Option Nat :=
  let cs := name.toList
  if isCanonicalDecimal cs && decimalValue cs ≤ largestPosition then
    some (decimalValue cs)
  else
    none

/-! ## Reading back what was written -/

theorem decimalValue_decimal (n : Nat) : decimalValue (decimal n) = n :=
  Nat.ofDigitChars_toDigits (by decide) (by decide)

theorem toNat_of_isAsciiDigit {c : Char} (h : isAsciiDigit c = true) :
    48 ≤ c.toNat ∧ c.toNat ≤ 57 := by
  simp only [isAsciiDigit, Bool.and_eq_true, decide_eq_true_eq] at h
  exact ⟨h.1, h.2⟩

theorem isAsciiDigit_of_mem_decimal {n : Nat} {c : Char} (h : c ∈ decimal n) :
    isAsciiDigit c = true := by
  have hdigit := Nat.isDigit_of_mem_toDigits (by decide) (by decide) h
  simp only [Char.isDigit, Bool.and_eq_true, decide_eq_true_eq] at hdigit
  simp only [isAsciiDigit, Bool.and_eq_true, decide_eq_true_eq]
  exact ⟨hdigit.1, hdigit.2⟩

/-- A digit is the written form of its value. -/
theorem decimal_of_isAsciiDigit {c : Char} (h : isAsciiDigit c = true) :
    decimal (c.toNat - 48) = [c] := by
  have hbounds := toNat_of_isAsciiDigit h
  have hsmall : c.toNat - 48 < 10 := by omega
  rw [decimal, Nat.toDigits_of_lt_base hsmall]
  congr 1
  apply Char.toNat_inj.mp
  rw [Nat.toNat_digitChar_of_lt_ten hsmall]
  omega

/-- Digits written after a positive number extend its written form. -/
theorem decimal_append {n : Nat} (hpositive : 0 < n) {digits : List Char}
    (h : ∀ c ∈ digits, isAsciiDigit c = true) :
    decimal n ++ digits = decimal (Nat.ofDigitChars 10 digits n) := by
  induction digits generalizing n with
  | nil => simp [Nat.ofDigitChars]
  | cons c rest ih =>
      have hbounds := toNat_of_isAsciiDigit (h c (by simp))
      have hstep : decimal n ++ [c] = decimal (10 * n + (c.toNat - 48)) := by
        rw [← decimal_of_isAsciiDigit (h c (by simp))]
        exact Nat.toDigits_append_toDigits (by decide) hpositive (by omega)
      rw [Nat.ofDigitChars_cons, List.append_cons, hstep]
      exact ih (by omega) fun d hd => h d (by simp [hd])

/-- A canonical decimal is the written form of its value. -/
theorem decimal_decimalValue {cs : List Char} (h : isCanonicalDecimal cs = true) :
    decimal (decimalValue cs) = cs := by
  cases cs with
  | nil => simp [isCanonicalDecimal] at h
  | cons c rest =>
      simp only [isCanonicalDecimal, Bool.and_eq_true, List.all_eq_true] at h
      obtain ⟨⟨-, hdigits⟩, hlead⟩ := h
      have hbounds := toNat_of_isAsciiDigit (hdigits c (by simp))
      have hfirst : decimalValue (c :: rest) = Nat.ofDigitChars 10 rest (c.toNat - 48) := by
        simp [decimalValue, Nat.ofDigitChars_cons]
      by_cases hzero : c = '0'
      · have halone : rest = [] := by simpa [hzero] using hlead
        subst hzero halone
        decide
      · have hpositive : 0 < c.toNat - 48 := by
          have : c.toNat ≠ 48 := fun hsame => hzero (Char.toNat_inj.mp hsame)
          omega
        rw [hfirst, ← decimal_append hpositive fun d hd => hdigits d (by simp [hd]),
          decimal_of_isAsciiDigit (hdigits c (by simp))]
        rfl

/-- The written form of a number is canonical. -/
theorem isCanonicalDecimal_decimal (n : Nat) : isCanonicalDecimal (decimal n) = true := by
  induction n using Nat.strongRecOn with
  | ind n ih =>
      by_cases hsmall : n < 10
      · have hcases : ∀ m : Fin 10, isCanonicalDecimal (decimal m) = true := by decide
        exact hcases ⟨n, hsmall⟩
      · have hdigit : n % 10 < 10 := Nat.mod_lt _ (by decide)
        have hsplit : decimal n = decimal (n / 10) ++ decimal (n % 10) := by
          have := Nat.toDigits_append_toDigits (show 1 < 10 by decide)
            (show 0 < n / 10 by omega) hdigit
          rw [Nat.div_add_mod] at this
          exact this.symm
        have hfront := ih (n / 10) (by omega)
        have hlast : decimal (n % 10) = [Nat.digitChar (n % 10)] := Nat.toDigits_of_lt_base hdigit
        cases hhead : decimal (n / 10) with
        | nil => simp [hhead, isCanonicalDecimal] at hfront
        | cons c rest =>
            have hnonzero : c ≠ '0' := by
              rintro rfl
              have halone : rest = [] := by
                have hcanonical := hfront
                simp only [hhead, isCanonicalDecimal, Bool.and_eq_true] at hcanonical
                simpa using hcanonical.2
              have hvalue := decimalValue_decimal (n / 10)
              rw [hhead, halone] at hvalue
              have : decimalValue ['0'] = 0 := by decide
              omega
            have hdigits : ∀ d ∈ decimal n, isAsciiDigit d = true :=
              fun d hd => isAsciiDigit_of_mem_decimal hd
            rw [hsplit, hhead, hlast] at hdigits ⊢
            simp only [isCanonicalDecimal, Bool.and_eq_true, List.all_eq_true]
            exact ⟨⟨by simp, hdigits⟩, by simp [hnonzero]⟩

/-- No two numbers have one written form. -/
theorem decimal_injective : Function.Injective decimal := by
  intro first second hsame
  rw [← decimalValue_decimal first, hsame, decimalValue_decimal]

/-- A text stands for a position exactly if it is the written form of it. -/
theorem position?_eq_some_iff {name : String} {n : Nat} :
    position? name = some n ↔ n ≤ largestPosition ∧ name = String.ofList (decimal n) := by
  constructor
  · intro h
    simp only [position?, Bool.and_eq_true, decide_eq_true_eq] at h
    split at h
    · rename_i haccepted
      cases h
      rw [decimal_decimalValue haccepted.1, String.ofList_toList]
      exact ⟨haccepted.2, rfl⟩
    · cases h
  · rintro ⟨hsmall, rfl⟩
    simp only [position?, String.toList_ofList, isCanonicalDecimal_decimal, decimalValue_decimal,
      decide_eq_true hsmall, Bool.and_self, if_true]

/-- The written form of a number is that of a position as far as positions go. -/
theorem position?_decimal (n : Nat) :
    position? (String.ofList (decimal n)) = if n ≤ largestPosition then some n else none := by
  split
  · rename_i hsmall
    exact position?_eq_some_iff.mpr ⟨hsmall, rfl⟩
  · rename_i hlarge
    rw [Option.eq_none_iff_forall_ne_some]
    intro m hfound
    obtain ⟨hsmall, hsame⟩ := position?_eq_some_iff.mp hfound
    obtain rfl := decimal_injective (String.ofList_inj.mp hsame)
    exact hlarge hsmall

end SqlTemplate.Text
