import Mathlib.Algebra.Ring.Int.Defs
import SqlTemplate.Proofs.Ensures

/-!
# What slots for whole numbers hold

Scalars of five kinds can fill a slot for whole numbers, and each kind gets there by a conversion
of its own.  All of them end in an integer of 64 bits, which is judged by its sign and written in
the one way in which integers are written.

* `IsCanonical` says which text that is, and `isCanonical_intText` that it is written.
* `literal_eq_ok` and `coerceScalar_eq_ok` take a successful judgement apart, by the families of
  whole numbers and by what the slot may hold besides.
* `coerce_array_of_scalar`: an array fills no such slot.
* `Placeholder.wholeNumber_of_assign` states this for an assignment.
-/

namespace SqlTemplate

open Text

/-! ## The form of an integer -/

namespace Text

/-- The text is the canonical form of the integer: digits without leading zeros, and a minus sign
in front exactly if the integer is negative. -/
inductive IsCanonical : List Char → Int → Prop where
  | nonneg {digits : List Char} (h : isCanonicalDecimal digits = true) :
      IsCanonical digits (decimalValue digits)
  | negative {digits : List Char} (h : isCanonicalDecimal digits = true)
      (hne : decimalValue digits ≠ 0) : IsCanonical ('-' :: digits) (-(decimalValue digits : Int))

theorem isCanonical_intText (n : Int) : IsCanonical (intText n) n := by
  cases n with
  | ofNat n =>
    have hcanonical := IsCanonical.nonneg (isCanonicalDecimal_decimal n)
    rwa [decimalValue_decimal] at hcanonical
  | negSucc n =>
    have hvalue := decimalValue_decimal (n + 1)
    have hcanonical := IsCanonical.negative (isCanonicalDecimal_decimal (n + 1))
      (hvalue.symm ▸ Nat.succ_ne_zero n)
    rw [hvalue] at hcanonical
    exact hcanonical

end Text

theorem isCanonical_int64Text (n : Int64) : IsCanonical (int64Text n).toList n.toInt := by
  rw [int64Text, String.toList_ofList]
  exact isCanonical_intText n.toInt

/-! ## Judgements -/

section Judgements

variable {config : Config} {scalar : Scalar} {n m : Int64}

theorem fromZero_eq_ok (h : fromZero n = .ok m) : m = n ∧ 0 ≤ n.toInt := by
  unfold fromZero at h
  split at h <;> cases h
  exact ⟨rfl, by omega⟩

theorem fromOne_eq_ok (h : fromOne n = .ok m) : m = n ∧ 1 ≤ n.toInt := by
  unfold fromOne at h
  split at h <;> cases h
  exact ⟨rfl, by omega⟩

/-- Whatever the scalar is, it is written as the integer that it denotes, if that has the sign that
the family asks for. -/
theorem literal_eq_ok {family : ScalarFamily}
    (hfamily : family ∈ [ScalarFamily.integer, .unsigned, .natural]) {text : String}
    (h : family.literal config scalar = .ok text) :
    ∃ n, wholeNumber scalar = .ok n ∧ text = int64Text n ∧
      (family = .unsigned → 0 ≤ n.toInt) ∧ (family = .natural → 1 ≤ n.toInt) := by
  cases family with
  | integer =>
    obtain ⟨n, hwhole, h⟩ := bind_eq_ok.mp h
    cases h
    exact ⟨n, hwhole, rfl, nofun, nofun⟩
  | unsigned =>
    obtain ⟨n, hwhole, h⟩ := bind_eq_ok.mp h
    obtain ⟨m, hsign, h⟩ := bind_eq_ok.mp h
    cases h
    obtain ⟨rfl, hlow⟩ := fromZero_eq_ok hsign
    exact ⟨m, hwhole, rfl, fun _ => hlow, nofun⟩
  | natural =>
    simp only [ScalarFamily.literal] at h
    split at h
    · cases h
    · obtain ⟨n, hwhole, h⟩ := bind_eq_ok.mp h
      obtain ⟨m, hsign, h⟩ := bind_eq_ok.mp h
      cases h
      obtain ⟨rfl, hlow⟩ := fromOne_eq_ok hsign
      exact ⟨m, hwhole, rfl, nofun, fun _ => hlow⟩
  | text | double | boolean => exact absurd hfamily (by decide)

/-- A slot for a scalar of a family holds a literal of the family, or null if the slot admits it. -/
theorem coerceScalar_eq_ok {family : ScalarFamily} {strict nullable : Bool} {result : Option String}
    (h : coerceScalar config (.scalar family strict nullable) scalar = .ok result) :
    (nullable = true ∧ scalar = .null ∧ result = some "NULL") ∨
      ∃ text, family.literal config scalar = .ok text ∧ result = some text := by
  unfold coerceScalar at h
  split at h
  · rename_i hnull
    rw [Bool.and_eq_true, beq_iff_eq] at hnull
    cases h
    exact Or.inl ⟨hnull.1, hnull.2, rfl⟩
  · change (if _ then _ else _) = _ at h
    split at h
    · cases h
    · obtain ⟨text, htext, rfl⟩ := map_eq_ok.mp h
      exact Or.inr ⟨text, htext, rfl⟩

end Judgements

/-! ## Assignments -/

section Assignments

variable {config : Config} {value : Value} {log : CallLog}

/-- An array fills no slot for a scalar, whatever its entries are. -/
theorem coerce_array_of_scalar (family : ScalarFamily) (strict nullable : Bool)
    {entries : ArrayEntries} {after : CallLog} (h : value.resolve log = (.array entries, after)) :
    coerce config (.scalar family strict nullable) value log =
      (.error ⟨.array, .arrayNotAccepted⟩, after) := by
  rw [coerce_resolve config _ h]
  rfl

/-- Whatever fills a slot for whole numbers is null, if the slot admits it, or the canonical form
of the integer that the value denotes, which has 64 bits and the sign that the slot asks for.  An
array is refused. -/
theorem Placeholder.wholeNumber_of_assign {placeholder : Placeholder} {family : ScalarFamily}
    {strict nullable : Bool} (hfamily : family ∈ [ScalarFamily.integer, .unsigned, .natural])
    (htype : placeholder.type = .scalar family strict nullable)
    (config : Config) (value : Value) (log : CallLog) :
    (∀ changed after, placeholder.assign config value log = ((.ok (), changed), after) →
      (nullable = true ∧ value.resolve log = (.scalar .null, after) ∧
        changed.value = some "NULL") ∨
      ∃ scalar n text, value.resolve log = (.scalar scalar, after) ∧ wholeNumber scalar = .ok n ∧
        changed.value = some text ∧ IsCanonical text.toList n.toInt ∧
        -2 ^ 63 ≤ n.toInt ∧ n.toInt < 2 ^ 63 ∧
        (family = .unsigned → 0 ≤ n.toInt) ∧ (family = .natural → 1 ≤ n.toInt)) ∧
    ∀ entries after, value.resolve log = (.array entries, after) →
      placeholder.assign config value log =
        ((.error ⟨placeholder.index, placeholder.type, .array, .arrayNotAccepted⟩,
          { placeholder with value := none }), after) := by
  refine ⟨fun changed after hassign => ?_, fun entries after harray => ?_⟩
  · have hcoerce := coerce_of_assign hassign
    rw [htype] at hcoerce
    rcases hvalue : value.resolve log with ⟨scalar | entries, between⟩
    · rw [coerce_of_scalar config rfl hvalue] at hcoerce
      obtain ⟨hscalar, rfl⟩ := ok_of_judge hcoerce
      rcases coerceScalar_eq_ok hscalar with ⟨hnullable, rfl, hnull⟩ | ⟨text, hliteral, htext⟩
      · exact Or.inl ⟨hnullable, rfl, hnull⟩
      · obtain ⟨n, hwhole, rfl, hsign⟩ := literal_eq_ok hfamily hliteral
        exact Or.inr ⟨scalar, n, _, rfl, hwhole, htext, isCanonical_int64Text n, n.le_toInt,
          n.toInt_lt, hsign⟩
    · rw [coerce_array_of_scalar family strict nullable hvalue] at hcoerce
      cases hcoerce
  · apply assign_of_error
    rw [htype]
    exact coerce_array_of_scalar family strict nullable harray

/-- A negative zero with blanks and a plus sign in its exponent, for a slot from zero up. -/
theorem Placeholder.wholeNumber_of_assign_zero :
    let config := Config.ofDialect .mysql
    let placeholder := Placeholder.new (.name "n") (.scalar .unsigned false true) false
    let value := Value.deferred ⟨"n", 0⟩ fun _ => .scalar (.text " -00.0e+3\n")
    placeholder.assign config value [] =
        ((.ok (), { placeholder with value := some "0" }), [⟨"n", 0⟩]) ∧
      IsCanonical "0".toList 0 ∧
      placeholder.assign config (.array []) [] =
        ((.error ⟨.name "n", .scalar .unsigned false true, .array, .arrayNotAccepted⟩,
          { placeholder with value := none }), []) := by
  intro config placeholder value
  have hfamily : ScalarFamily.unsigned ∈ [ScalarFamily.integer, .unsigned, .natural] := by decide
  have htype : placeholder.type = .scalar .unsigned false true := rfl
  have hassign : placeholder.assign config value [] =
      ((.ok (), { placeholder with value := some "0" }), [⟨"n", 0⟩]) :=
    assign_of_ok rfl
  refine ⟨hassign, ?_, (wholeNumber_of_assign hfamily htype config (.array []) []).2 _ _ rfl⟩
  obtain ⟨-, hnull, -⟩ | ⟨scalar, n, text, hvalue, hwhole, htext, hcanonical, -⟩ :=
    (wholeNumber_of_assign hfamily htype config value []).1 _ _ hassign
  · cases hnull
  · cases hvalue
    cases htext
    obtain rfl : 0 = n := Except.ok.inj ((rfl : Except.ok 0 = wholeNumber _).trans hwhole)
    exact hcanonical

end Assignments

end SqlTemplate
