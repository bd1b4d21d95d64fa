import SqlTemplate.Proofs.Document
import SqlTemplate.Proofs.Number.Narrowing
import SqlTemplate.Proofs.Number.Nearest

/-!
# Whole numbers of documents

What becomes of a number of a document that is a whole number.

* `DocumentNumber.denotes_toScalar_iff`: the scalar stands for the same number below `2 ^ 63`, and
  from there up for the multiples of `2 ^ 11` only, which are the doubles in that range.
* `DocumentNumber.exists_denotes_toScalar`: otherwise it stands for a whole number as near as a
  double can be.
* `Document.number_denotes` says this of a number at any place of a document, and
  `Document.number_not_denotes` is a number that changes.
-/

namespace SqlTemplate

open Text

/-- The whole number that a number of a document is. -/
def DocumentNumber.toInt? : DocumentNumber → Option Int
  | .signed n => some n.toInt
  | .unsigned n => some n.toNat
  | .double x => x.toInt?

/-- The scalar stands for a whole number: as an integer, as its written form, or as a double that
has exactly this value. -/
def Scalar.Denotes : Scalar → Int → Prop
  | .integer m, n => m.toInt = n
  | .double x, n => x.toInt? = some n
  | .text written, n => written = String.ofList (intText n)
  | .null, _ => False
  | .boolean _, _ => False

instance (scalar : Scalar) (n : Int) : Decidable (scalar.Denotes n) :=
  match scalar with
  | .integer m => inferInstanceAs (Decidable (m.toInt = n))
  | .double x => inferInstanceAs (Decidable (x.toInt? = some n))
  | .text written => inferInstanceAs (Decidable (written = String.ofList (intText n)))
  | .null => inferInstanceAs (Decidable False)
  | .boolean _ => inferInstanceAs (Decidable False)

/-- No double with a whole value is nearer to `n` than `m` is. -/
def Double.AsNear (m n : Int) : Prop :=
  ∀ (x : Double) (k : Int), x.toInt? = some k → (m - n).natAbs ≤ (k - n).natAbs

theorem Double.asNear_self (n : Int) : Double.AsNear n n := by
  intro x k _
  rw [Int.sub_self]
  exact Nat.zero_le _

namespace DocumentNumber

theorem toScalar_unsigned_of_lt {value : UInt64} (h : value.toNat < 2 ^ 63) :
    (unsigned value).toScalar = .integer (Int64.ofNat value.toNat) := by
  have hsmall : int64? value.toNat = some (Int64.ofNat value.toNat) :=
    int64?_eq_some_iff.mpr (Int64.toInt_ofNat_of_lt h)
  rw [toScalar, hsmall]

theorem toScalar_unsigned_of_le {value : UInt64} (h : 2 ^ 63 ≤ value.toNat) :
    (unsigned value).toScalar = .double (Double.nearest false value.toNat 1) := by
  have hlarge : int64? value.toNat = none := by
    rw [int64?, if_neg]
    rw [Int64.toInt_maxValue]
    omega
  rw [toScalar, hlarge]

/-- The double of a large number of 64 bits. -/
theorem exists_toInt?_nearest {value : UInt64} (h : 2 ^ 63 ≤ value.toNat) :
    ∃ m : Nat, (Double.nearest false value.toNat 1).toInt? = some (m : Int) ∧
      Double.AsNear m value.toNat := by
  refine Double.exists_toInt?_nearest (Nat.le_trans (by decide) h) ?_
  exact value.toNat_lt.trans_le (Double.pow2_le_pow2 (by decide))

/-- It has the value of the number exactly if that is a multiple of `2 ^ 11`. -/
theorem toInt?_nearest_iff {value : UInt64} (h : 2 ^ 63 ≤ value.toNat) :
    (Double.nearest false value.toNat 1).toInt? = some (value.toNat : Int) ↔
      2 ^ 11 ∣ value.toNat := by
  constructor
  · intro hexact
    have hdvd := Double.dvd_of_toInt? hexact 11
    rw [Int.natAbs_natCast] at hdvd
    exact hdvd h
  · rintro ⟨significand, hsignificand⟩
    have hbound := value.toNat_lt
    obtain ⟨x, hx⟩ :=
      Double.exists_toInt?_of_lt significand 11 (by omega) (by omega) (by decide)
    obtain ⟨m, hm, hnearest⟩ := exists_toInt?_nearest h
    have hdistance := hnearest x _ hx
    rw [hm, Option.some.injEq]
    omega

variable {number : DocumentNumber} {n : Int}

/-- The scalar of a number stands for the same number exactly below `2 ^ 63` and at the multiples
of `2 ^ 11`. -/
theorem denotes_toScalar_iff (h : number.toInt? = some n) :
    number.toScalar.Denotes n ↔ n < 2 ^ 63 ∨ 2 ^ 11 ∣ n := by
  cases number with
  | signed value =>
    cases h
    exact iff_of_true rfl (Or.inl value.toInt_lt)
  | unsigned value =>
    cases h
    rcases Nat.lt_or_ge value.toNat (2 ^ 63) with hsmall | hlarge
    · rw [toScalar_unsigned_of_lt hsmall]
      exact iff_of_true (Int64.toInt_ofNat_of_lt hsmall) (Or.inl (by omega))
    · rw [toScalar_unsigned_of_le hlarge, Scalar.Denotes, toInt?_nearest_iff hlarge]
      omega
  | double x =>
    refine iff_of_true h ?_
    rcases lt_or_ge n (2 ^ 63) with hsmall | hlarge
    · exact Or.inl hsmall
    · have hdvd := Double.dvd_of_toInt? h 11 (by omega)
      omega

/-- It always stands for a whole number, and no double is nearer to the one it came from. -/
theorem exists_denotes_toScalar (h : number.toInt? = some n) :
    ∃ m, number.toScalar.Denotes m ∧ Double.AsNear m n := by
  by_cases hexact : number.toScalar.Denotes n
  · exact ⟨n, hexact, Double.asNear_self n⟩
  · cases number with
    | signed value => exact absurd (Option.some.inj h) hexact
    | unsigned value =>
      cases h
      rcases Nat.lt_or_ge value.toNat (2 ^ 63) with hsmall | hlarge
      · exact absurd ((denotes_toScalar_iff rfl).mpr (Or.inl (by omega))) hexact
      · obtain ⟨m, hm, hnearest⟩ := exists_toInt?_nearest hlarge
        rw [toScalar_unsigned_of_le hlarge]
        exact ⟨m, hm, hnearest⟩
    | double x => exact absurd h hexact

end DocumentNumber

namespace Document

/-- A number of a document that is a whole number `n`, at any place: the scalar at the same place of
the value stands for `n` exactly if `n` is below `2 ^ 63` or a multiple of `2 ^ 11`, and otherwise
for a whole number that is as near to `n` as a double can be. -/
theorem number_denotes {document : Document} {path : List Step} {number : DocumentNumber} {n : Int}
    (h : document.at? path = some (.number number)) (hn : number.toInt? = some n) :
    ∃ scalar, document.toValue.at? (path.map Step.key) = some (.scalar scalar) ∧
      (scalar.Denotes n ↔ n < 2 ^ 63 ∨ 2 ^ 11 ∣ n) ∧
      ∃ m, scalar.Denotes m ∧ Double.AsNear m n :=
  ⟨number.toScalar, toValue_at? h, DocumentNumber.denotes_toScalar_iff hn,
    DocumentNumber.exists_denotes_toScalar hn⟩

/-- The largest number of 64 bits moves by one, while a large multiple of `2 ^ 11` and a small
number stay what they are. -/
theorem number_denotes_large :
    let document := Document.object [("ids", .array [.number (.unsigned 18446744073709551615),
      .number (.unsigned 9223372036854777856), .number (.signed (-7))])]
    (∃ scalar, document.toValue.at? [.name "ids", .position 0] = some (.scalar scalar) ∧
        ¬ scalar.Denotes 18446744073709551615 ∧
        ∃ m, scalar.Denotes m ∧ (m - 18446744073709551615).natAbs = 1) ∧
      (∃ scalar, document.toValue.at? [.name "ids", .position 1] = some (.scalar scalar) ∧
        scalar.Denotes 9223372036854777856) ∧
      ∃ scalar, document.toValue.at? [.name "ids", .position 2] = some (.scalar scalar) ∧
        scalar.Denotes (-7) := by
  intro document
  have hpath : ∀ n ≤ 2, [Step.field "ids", Step.item n].map Step.key =
      [.name "ids", .position (Int64.ofNat n)] := by
    decide +kernel
  refine ⟨?_, ?_, ?_⟩
  · have hplace : document.at? [.field "ids", .item 0] =
        some (.number (.unsigned 18446744073709551615)) := rfl
    obtain ⟨scalar, hat, hdenotes, m, hm, hnear⟩ := number_denotes hplace rfl
    rw [hpath 0 (by decide)] at hat
    have hmoved : ¬ scalar.Denotes 18446744073709551615 := mt hdenotes.mp (by decide)
    have hdistance := hnear ⟨0x43f0000000000000⟩ 18446744073709551616 (by decide +kernel)
    refine ⟨scalar, hat, hmoved, m, hm, ?_⟩
    have hother : m ≠ 18446744073709551615 := by
      rintro rfl
      exact hmoved hm
    change (m - 18446744073709551615).natAbs ≤ 1 at hdistance
    omega
  · have hplace : document.at? [.field "ids", .item 1] =
        some (.number (.unsigned 9223372036854777856)) := rfl
    obtain ⟨scalar, hat, hdenotes, -⟩ := number_denotes hplace rfl
    rw [hpath 1 (by decide)] at hat
    exact ⟨scalar, hat, hdenotes.mpr (by decide)⟩
  · have hplace : document.at? [.field "ids", .item 2] = some (.number (.signed (-7))) := rfl
    obtain ⟨scalar, hat, hdenotes, -⟩ := number_denotes hplace rfl
    rw [hpath 2 (by decide)] at hat
    exact ⟨scalar, hat, hdenotes.mpr (by decide)⟩

/-- The first number of 64 bits above `2 ^ 63` becomes `2 ^ 63`. -/
theorem number_not_denotes :
    let number := DocumentNumber.unsigned 9223372036854775809
    let document := Document.object [("id", .number number)]
    number.toInt? = some 9223372036854775809 ∧
      document.at? [.field "id"] = some (.number number) ∧
      ∃ scalar, document.toValue.at? [.name "id"] = some (.scalar scalar) ∧
        ¬ scalar.Denotes 9223372036854775809 ∧ scalar.Denotes 9223372036854775808 := by
  intro number document
  have hplace : document.at? [.field "id"] = some (.number number) := rfl
  have hpath : [Step.field "id"].map Step.key = [.name "id"] := by decide +kernel
  have hvalue := toValue_at? hplace
  rw [hpath] at hvalue
  exact ⟨by decide, hplace, number.toScalar, hvalue, by decide +kernel, by decide +kernel⟩

end Document

end SqlTemplate
