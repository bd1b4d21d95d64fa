import SqlTemplate.Proofs.Ensures

/-!
# Types that differ in a modifier

A question mark in front of a letter admits null, and an upper case letter makes a type strict.
Neither of them changes anything else about the type.

* `SlotType.withNull` switches the first modifier, and `withNull_of_isTwin` says that this is how
  types are related whose codes differ in the sigil only.
* `coerceScalar_withNull`, `entryLiteral_withNull`, `coerceEntries_withNull` and `coerce_withNull`
  go from scalars to values: without nulls it does not matter whether null is admitted.
* `coerceScalar_strict` and `coerceScalar_strict_of_ne`: a strict type takes over the values of its
  own kind from the lax one and refuses the others.
* `Placeholder.assign_modifiers` states both for an assignment.
-/

namespace SqlTemplate

/-! ## Null admitted or not -/

namespace SlotType

/-- The two types have one letter, and only the second one admits null. -/
def IsTwin (type twin : SlotType) : Prop :=
  type.code.sigil = .colon ∧ twin.code = ⟨.question, type.code.letter⟩

instance (type twin : SlotType) : Decidable (type.IsTwin twin) :=
  inferInstanceAs (Decidable (_ ∧ _))

/-- The type that admits null or does not, if there is one. -/
def withNull (nullable : Bool) : SlotType → SlotType
  | .any _ => .any nullable
  | .constant _ => .constant nullable
  | .scalar family strict _ => .scalar family strict nullable
  | .list _ => .list nullable
  | .pairs style _ => .pairs style nullable
  | other => other

theorem withNull_of_isTwin {type twin : SlotType} (h : type.IsTwin twin) :
    twin = type.withNull true ∧ twin.nullable = true := by
  have heach : ∀ type ∈ all, type.code.sigil = .colon →
      ∀ twin ∈ ofCode? ⟨.question, type.code.letter⟩,
        twin = type.withNull true ∧ twin.nullable = true := by
    decide +kernel
  exact heach type (mem_all type) h.1 twin (h.2 ▸ ofCode?_code twin)

example : (all.filter fun type => all.any fun twin => type.IsTwin twin).length = 17 := by
  decide +kernel

end SlotType

section WithNull

variable {config : Config} (nullable : Bool) {type : SlotType} {log : CallLog}

theorem needsArray_withNull (type : SlotType) :
    (type.withNull nullable).needsArray = type.needsArray := by
  cases type <;> rfl

theorem coerceScalar_withNull {scalar : Scalar} (h : scalar ≠ .null) :
    coerceScalar config (type.withNull nullable) scalar = coerceScalar config type scalar := by
  have hnull : (scalar == .null) = false := beq_false_of_ne h
  unfold coerceScalar
  simp only [hnull, Bool.and_false]
  cases type <;> rfl

theorem coerceScalar_null (config : Config) (h : type.nullable = true) :
    coerceScalar config type .null = .ok (some "NULL") := by
  simp [coerceScalar, h]

/-- A type that admits null writes it as itself. -/
theorem coerce_null (config : Config) (h : type.nullable = true) {value : Value} {after : CallLog}
    (hvalue : value.resolve log = (.scalar .null, after)) :
    coerce config type value log = (.ok (some "NULL"), after) := by
  have hplace : (type.needsArray && Scalar.null != .null) = false := Bool.and_false _
  rw [coerce_resolve config type hvalue, Resolved.toValue, coerce_scalar, hplace,
    if_neg Bool.false_ne_true, coerceScalar_null config h]
  rfl

theorem entryLiteral_withNull {value : Value} (h : (value.resolve log).1 ≠ .scalar .null) :
    entryLiteral config (type.withNull nullable) value log =
      entryLiteral config type value log := by
  rcases hvalue : value.resolve log with ⟨scalar | entries, after⟩
  · have hscalar : scalar ≠ .null := by
      rintro rfl
      rw [hvalue] at h
      exact h rfl
    rw [entryLiteral_of_scalar hvalue, entryLiteral_of_scalar hvalue,
      coerceScalar_withNull nullable hscalar]
  · rw [entryLiteral_of_array hvalue, entryLiteral_of_array hvalue]

/-- Writing a literal asks for nothing but its value. -/
theorem snd_entryLiteral (value : Value) :
    (entryLiteral config type value log).2 = (value.resolve log).2 := by
  rcases hvalue : value.resolve log with ⟨scalar | entries, after⟩
  · rw [entryLiteral_of_scalar hvalue]
    cases coerceScalar config type scalar <;> rfl
  · rw [entryLiteral_of_array hvalue]

end WithNull

/-- None of the entries resolves to null when they are asked for one after the other. -/
def EntriesLackNull : ArrayEntries → CallLog → Prop
  | [], _ => True
  | entry :: rest, log =>
      (entry.2.resolve log).1 ≠ .scalar .null ∧ EntriesLackNull rest (entry.2.resolve log).2

section Entries

variable {config : Config} (nullable : Bool) {entries : ArrayEntries} {log : CallLog}

/-- Two ways to write an entry write the same for an array without nulls if they write the same for
everything but null and ask for nothing but the value of the entry. -/
theorem mapM_congr_of_lackNull {first second : Key × Value → Coercing String}
    (hstep : ∀ entry log, (entry.2.resolve log).1 ≠ .scalar .null →
      first entry log = second entry log)
    (hlog : ∀ entry log text after, first entry log = (.ok text, after) →
      after = (entry.2.resolve log).2)
    (h : EntriesLackNull entries log) : entries.mapM first log = entries.mapM second log := by
  induction entries generalizing log with
  | nil => rfl
  | cons entry rest ih =>
    obtain ⟨hentry, hrest⟩ := h
    rw [List.mapM_cons, List.mapM_cons]
    refine coercing_bind_congr (hstep entry log hentry) fun text after hfirst => ?_
    rw [← hlog entry log text after hfirst] at hrest
    exact coercing_bind_congr (ih hrest) fun _ _ _ => rfl

theorem snd_of_entryPair {type : SlotType} {style : QuoteStyle} {entry : Key × Value}
    {text : String} {after : CallLog}
    (h : entryPair config type style entry log = (.ok text, after)) :
    after = (entry.2.resolve log).2 := by
  obtain ⟨name, between, hkey, h⟩ := coercing_bind_eq_ok.mp h
  obtain ⟨literal, last, hliteral, h⟩ := coercing_bind_eq_ok.mp h
  cases h
  obtain ⟨_, rfl⟩ := ok_of_judge hkey
  rw [← snd_entryLiteral entry.2, hliteral]

theorem coerceEntries_withNull {type : SlotType}
    (h : (type.needsList || type.needsPairs) = true → EntriesLackNull entries log) :
    coerceEntries config (type.withNull nullable) entries log =
      coerceEntries config type entries log := by
  cases type with
  | list own =>
    refine mapM_congr_of_lackNull (fun entry log => entryLiteral_withNull nullable)
      (fun entry log text after hrun => ?_) (h rfl)
    rw [← snd_entryLiteral entry.2, hrun]
  | pairs style own =>
    refine mapM_congr_of_lackNull (fun entry log hentry => ?_)
      (fun entry log text after => snd_of_entryPair) (h rfl)
    refine coercing_bind_congr rfl fun name after hkey => ?_
    obtain ⟨_, rfl⟩ := ok_of_judge hkey
    exact coercing_bind_congr (entryLiteral_withNull nullable hentry) fun _ _ _ => rfl
  | any | constant | scalar | raw | identifier | keys | values | flag => rfl

end Entries

/-- The value does not resolve to null, and in a slot for the literals of an array none of its
entries does. -/
def Value.LacksNull (type : SlotType) (value : Value) (log : CallLog) : Prop :=
  match value.resolve log with
  | (.scalar single, _) => single ≠ .null
  | (.array entries, after) =>
      (type.needsList || type.needsPairs) = true → EntriesLackNull entries after

/-- Without nulls it does not matter whether a type admits them. -/
theorem coerce_withNull (config : Config) (nullable : Bool) {type : SlotType} {value : Value}
    {log : CallLog} (h : value.LacksNull type log) :
    coerce config (type.withNull nullable) value log = coerce config type value log := by
  unfold Value.LacksNull at h
  rcases hvalue : value.resolve log with ⟨scalar | entries, after⟩
  · rw [hvalue] at h
    rw [coerce_resolve config _ hvalue, coerce_resolve config _ hvalue, Resolved.toValue,
      coerce_scalar, coerce_scalar, needsArray_withNull, coerceScalar_withNull nullable h]
  · rw [hvalue] at h
    rw [coerce_resolve config _ hvalue, coerce_resolve config _ hvalue, Resolved.toValue,
      coerce_array, coerce_array]
    exact coercing_bind_congr (coerceEntries_withNull nullable h) fun _ _ _ => rfl

/-! ## Strict and lax -/

theorem SlotType.needsArray_scalar (family : ScalarFamily) (strict nullable : Bool) :
    (SlotType.scalar family strict nullable).needsArray = false :=
  rfl

section Strict

variable (config : Config) {family : ScalarFamily} (nullable : Bool) {scalar : Scalar}

theorem coerceScalar_strict (h : scalar.kind = family.kind) :
    coerceScalar config (.scalar family true nullable) scalar =
      coerceScalar config (.scalar family false nullable) scalar := by
  simp [coerceScalar, SlotType.nullable, h]

theorem coerceScalar_strict_of_ne (h : scalar.kind ≠ family.kind) (hnull : scalar ≠ .null) :
    coerceScalar config (.scalar family true nullable) scalar = .error .notAccepted := by
  simp [coerceScalar, h, hnull]

variable {value : Value} {log after : CallLog}

/-- A strict type writes the scalars of its own kind as the lax one does. -/
theorem coerce_strict (hvalue : value.resolve log = (.scalar scalar, after))
    (h : scalar.kind = family.kind) :
    coerce config (.scalar family true nullable) value log =
      coerce config (.scalar family false nullable) value log := by
  have hstrict := coerce_of_scalar config (SlotType.needsArray_scalar family true nullable) hvalue
  have hlax := coerce_of_scalar config (SlotType.needsArray_scalar family false nullable) hvalue
  rw [hstrict, hlax, coerceScalar_strict config nullable h]

theorem coerce_strict_of_ne (hvalue : value.resolve log = (.scalar scalar, after))
    (h : scalar.kind ≠ family.kind) (hnull : scalar ≠ .null) :
    coerce config (.scalar family true nullable) value log =
      (.error ⟨scalar.kind, .notAccepted⟩, after) := by
  have hstrict := coerce_of_scalar config (SlotType.needsArray_scalar family true nullable) hvalue
  rw [hstrict, coerceScalar_strict_of_ne config nullable h hnull]
  rfl

end Strict

/-! ## Assignments -/

namespace Placeholder

/-- The placeholder with another type. -/
def ofType (type : SlotType) (placeholder : Placeholder) : Placeholder :=
  { placeholder with type := type }

/-- The outcome of an assignment with another type in it. -/
def retyped (type : SlotType) (outcome : Except BindingError Unit × Placeholder) :
    Except BindingError Unit × Placeholder :=
  (outcome.1.mapError fun error => { error with type := type }, outcome.2.ofType type)

variable {config : Config} {value : Value} {log : CallLog}

/-- Types that write the same for a value have the same outcome, down to the reason for a
refusal. -/
theorem assign_ofType_congr {type other : SlotType}
    (h : coerce config other value log = coerce config type value log)
    (placeholder : Placeholder) :
    (placeholder.ofType other).assign config value log =
      Prod.map (retyped other) id ((placeholder.ofType type).assign config value log) := by
  have hother : coerce config (placeholder.ofType other).type value log =
      coerce config (placeholder.ofType type).type value log := h
  rcases hcoerce : coerce config (placeholder.ofType type).type value log with
    ⟨rejected | text, after⟩
  · rw [assign_of_error (hother.trans hcoerce), assign_of_error hcoerce]
    rfl
  · rw [assign_of_ok (hother.trans hcoerce), assign_of_ok hcoerce]
    rfl

/-- A type that admits null has the outcome of its twin for every value without nulls, and binds
null as itself.  A strict type has the outcome of the lax one for a scalar of its own kind, and
refuses every other one but null. -/
theorem assign_modifiers (config : Config) (placeholder : Placeholder) (value : Value)
    (log : CallLog) :
    (∀ type twin : SlotType, type.IsTwin twin →
      (value.LacksNull type log →
        (placeholder.ofType twin).assign config value log =
          Prod.map (retyped twin) id ((placeholder.ofType type).assign config value log)) ∧
      ∀ after, value.resolve log = (.scalar .null, after) →
        (placeholder.ofType twin).assign config value log =
          ((.ok (), { placeholder.ofType twin with value := some "NULL" }), after)) ∧
    ∀ (family : ScalarFamily) (nullable : Bool) (scalar : Scalar) (after : CallLog),
      value.resolve log = (.scalar scalar, after) → scalar ≠ .null →
      let strict := SlotType.scalar family true nullable
      let lax := SlotType.scalar family false nullable
      (scalar.kind = family.kind →
        (placeholder.ofType strict).assign config value log =
          Prod.map (retyped strict) id ((placeholder.ofType lax).assign config value log)) ∧
      (scalar.kind ≠ family.kind →
        (placeholder.ofType strict).assign config value log =
          ((.error ⟨placeholder.index, strict, scalar.kind, .notAccepted⟩,
            { placeholder.ofType strict with value := none }), after)) := by
  refine ⟨fun type twin htwin => ⟨fun hlacks => ?_, fun after hnull => ?_⟩,
    fun family nullable scalar after hvalue hnull => ⟨fun hkind => ?_, fun hkind => ?_⟩⟩
  · obtain ⟨rfl, -⟩ := SlotType.withNull_of_isTwin htwin
    exact assign_ofType_congr (coerce_withNull config true hlacks) placeholder
  · obtain ⟨-, hnullable⟩ := SlotType.withNull_of_isTwin htwin
    exact assign_of_ok (coerce_null config hnullable hnull)
  · exact assign_ofType_congr (coerce_strict config nullable hvalue hkind) placeholder
  · exact assign_of_error (coerce_strict_of_ne config nullable hvalue hkind hnull)

/-- A list with a deferred entry, a null, and natural numbers as an integer and as a text. -/
theorem assign_modifiers_natural :
    let config := Config.new Text.escapeStandard
    let placeholder := Placeholder.new (.ordinal 0) .raw true
    let spelled := Value.deferred ⟨"n", 0⟩ fun _ => .scalar (.text "12")
    let entries := Value.array [(.name "a", spelled), (.name "b", .scalar (.boolean true))]
    let bound (type : SlotType) (text : String) : Except BindingError Unit × Placeholder :=
      (.ok (), { placeholder.ofType type with value := some text })
    let strict := SlotType.scalar .natural true false
    (placeholder.ofType (.list true)).assign config entries [] =
        (bound (.list true) "'12', 1", [⟨"n", 0⟩]) ∧
      (placeholder.ofType (.list true)).assign config (.scalar .null) [] =
        (bound (.list true) "NULL", []) ∧
      (placeholder.ofType strict).assign config (.scalar (.integer 12)) [] =
        (bound strict "12", []) ∧
      (placeholder.ofType strict).assign config spelled [] =
        ((.error ⟨.ordinal 0, strict, .string, .notAccepted⟩,
          { placeholder.ofType strict with value := none }), [⟨"n", 0⟩]) := by
  intro config placeholder spelled entries bound strict
  have htwin : (SlotType.list false).IsTwin (.list true) := by decide
  have hlacks : entries.LacksNull (.list false) [] := fun _ => ⟨nofun, nofun, trivial⟩
  have hentries := ((assign_modifiers config placeholder entries []).1 _ _ htwin).1 hlacks
  have hnull := ((assign_modifiers config placeholder (.scalar .null) []).1 _ _ htwin).2 [] rfl
  have hinteger := ((assign_modifiers config placeholder (.scalar (.integer 12)) []).2 .natural
    false _ _ rfl nofun).1 rfl
  have hspelled := ((assign_modifiers config placeholder spelled []).2 .natural
    false _ _ rfl nofun).2 nofun
  exact ⟨hentries.trans rfl, hnull, hinteger.trans rfl, hspelled⟩

end Placeholder

end SqlTemplate
