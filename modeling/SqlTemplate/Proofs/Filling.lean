import SqlTemplate.Proofs.Binding
import SqlTemplate.Proofs.Ensures
import SqlTemplate.Proofs.Missing

/-!
# Filled slots

What a call that succeeds writes for the markers outside of blocks.

* `coerce_eq_none_iff`: nothing is bound only for a flag, and then exactly for the scalars
  that count as false.  `coerce_boolean_iff` says that a boolean type writes just these as
  false.
* `PlaceholderMap.bound?_assign_of_ne` and `Statement.bound?_bindAll_of_notMem`: a value
  that is bound stays as it is while values are bound to other indices.
* `Statement.bound?_bindAll`: after all values were bound, an index has what the assignment
  of its own value gave.  `Statement.exists_assigned` says which value that is.
* `Placeholder.value_eq_none_iff`: an assignment that succeeds binds no text exactly if it
  turns a flag off.
* `contribution_of_slotAt?`: a marker outside of blocks contributes what is bound to it.
* `RenderCall.contribution_eq_assigned` puts this together for a call.
-/

namespace SqlTemplate

/-! ## Values that bind nothing -/

section Coercing

variable {config : Config} {type : SlotType} {value : Value} {log : CallLog}

theorem some_map_ne_none {judgement : Except Rejection String} :
    some <$> judgement ≠ .ok none := by
  intro h
  obtain ⟨_, _, hnone⟩ := map_eq_ok.mp h
  cases hnone

/-- Every type but that of flags binds some text for every scalar that it takes. -/
theorem coerceScalar_ne_none (htype : type ≠ .flag) (scalar : Scalar) :
    coerceScalar config type scalar ≠ .ok none := by
  unfold coerceScalar
  split
  · nofun
  · cases type with
    | any | list | pairs | raw => exact some_map_ne_none
    | constant =>
      cases scalar with
      | text raw => exact some_map_ne_none
      | null | boolean | integer | double => nofun
    | scalar family strict nullable =>
      show (if strict && scalar.kind != family.kind then _ else _) ≠ _
      split
      · nofun
      · exact some_map_ne_none
    | identifier =>
      cases scalar with
      | text raw => exact some_map_ne_none
      | null | boolean | integer | double => nofun
    | keys | values => nofun
    | flag => exact absurd rfl htype

theorem coerceScalar_flag (scalar : Scalar) :
    coerceScalar config .flag scalar = .ok (if scalar.truth then some "" else none) :=
  rfl

theorem coerceScalar_boolean (scalar : Scalar) :
    coerceScalar config (.scalar .boolean false false) scalar =
      .ok (some (config.boolean scalar.truth)) :=
  rfl

/-- An array that is taken binds some text. -/
theorem coerce_array_ne_none (entries : ArrayEntries) :
    (coerce config type (.array entries) log).1 ≠ .ok none := by
  have hentries : Ensures (coerceEntries config type entries) fun _ => True :=
    fun _ _ _ _ => trivial
  have hsome : Ensures (coerce config type (.array entries)) fun result => result ≠ none := by
    rw [coerce_array]
    exact ensures_bind hentries fun texts _ => ensures_pure nofun
  intro hnone
  exact hsome log none _ (Prod.ext hnone rfl) rfl

/-- The text of false is not that of true. -/
theorem boolean_eq_false_iff {truth : Bool} :
    config.boolean truth = config.boolean false ↔ truth = false := by
  unfold Config.boolean
  cases config.booleans <;> cases truth <;> decide

theorem judge_eq_ok_iff {α : Type} {found : ValueKind} {judgement : Except Rejection α}
    {result : α} : (judge found judgement log).1 = .ok result ↔ judgement = .ok result := by
  cases judgement with
  | ok other =>
    show Except.ok other = _ ↔ _
    simp
  | error reason =>
    show Except.error _ = _ ↔ _
    simp

/-- A value binds nothing only for a flag, and then exactly if it is a scalar that counts as
false. -/
theorem coerce_eq_none_iff :
    (coerce config type value log).1 = .ok none ↔
      type = .flag ∧ ∃ scalar, (value.resolve log).1 = .scalar scalar ∧ scalar.truth = false := by
  rcases hresolve : value.resolve log with ⟨resolved, after⟩
  rw [coerce_resolve config type hresolve]
  cases resolved with
  | array entries => simp [Resolved.toValue, coerce_array_ne_none]
  | scalar scalar =>
    rw [Resolved.toValue]
    by_cases htype : type = .flag
    · subst htype
      rw [coerce_scalar_of_needsArray_eq_false rfl, judge_eq_ok_iff, coerceScalar_flag]
      cases htruth : scalar.truth <;> simp [htruth]
    · refine iff_of_false ?_ fun hboth => htype hboth.1
      rw [coerce_scalar]
      split
      · intro hthrown
        cases hthrown
      · rw [judge_eq_ok_iff]
        exact coerceScalar_ne_none htype scalar

/-- A boolean type writes exactly the scalars that count as false as false. -/
theorem coerce_boolean_iff :
    (coerce config (.scalar .boolean false false) value log).1 =
        .ok (some (config.boolean false)) ↔
      ∃ scalar, (value.resolve log).1 = .scalar scalar ∧ scalar.truth = false := by
  rcases hresolve : value.resolve log with ⟨resolved, after⟩
  rw [coerce_resolve config _ hresolve]
  cases resolved with
  | array entries => exact iff_of_false nofun nofun
  | scalar scalar =>
    rw [Resolved.toValue, coerce_scalar_of_needsArray_eq_false rfl, judge_eq_ok_iff,
      coerceScalar_boolean]
    simp [boolean_eq_false_iff]

end Coercing

/-! ## Binding one value after another -/

namespace PlaceholderMap

variable {config : Config} {map : PlaceholderMap} {index other : Index} {value : Value}
  {log : CallLog}

theorem get?_mapValues (change : Placeholder → Option String) (map : PlaceholderMap)
    (index : Index) :
    (map.mapValues change).get? index =
      (map.get? index).map fun placeholder => { placeholder with value := change placeholder } := by
  rw [get?, mapValues, List.find?_map]
  rfl

theorem index_of_get?_eq_some {placeholder : Placeholder}
    (h : map.get? index = some placeholder) : placeholder.index = index := by
  simpa using List.find?_some h

theorem exists_get?_of_mem (h : index ∈ map.toList.map Placeholder.index) :
    ∃ placeholder, map.get? index = some placeholder := by
  obtain ⟨placeholder, hmem, rfl⟩ := List.mem_map.mp h
  rw [← Option.isSome_iff_exists, get?, List.find?_isSome]
  exact ⟨placeholder, hmem, by simp⟩

/-- Changing the text of an index changes what is found there. -/
theorem get?_setValue_self (index : Index) (text : Option String) (map : PlaceholderMap) :
    (map.setValue index text).get? index =
      (map.get? index).map fun placeholder => { placeholder with value := text } := by
  rw [setValue, get?_mapValues]
  cases hget : map.get? index with
  | none => rfl
  | some placeholder => simp [index_of_get?_eq_some hget]

theorem get?_setValue_of_ne (h : other ≠ index) (text : Option String) (map : PlaceholderMap) :
    (map.setValue index text).get? other = map.get? other := by
  rw [setValue, get?_mapValues]
  cases hget : map.get? other with
  | none => rfl
  | some placeholder =>
    have hindex : placeholder.index ≠ index := by
      rw [index_of_get?_eq_some hget]
      exact h
    simp [hindex]

theorem bound?_setValue_self {placeholder : Placeholder} (h : map.get? index = some placeholder)
    (text : Option String) : (map.setValue index text).bound? index = text := by
  rw [bound?, get?_setValue_self, h]
  rfl

theorem bound?_setValue_of_ne (h : other ≠ index) (text : Option String) :
    (map.setValue index text).bound? other = map.bound? other := by
  rw [bound?, bound?, get?_setValue_of_ne h]

/-- Binding a value to an index leaves what is bound to others. -/
theorem bound?_assign_of_ne (h : other ≠ index) (config : Config) (map : PlaceholderMap)
    (value : Value) (log : CallLog) :
    (map.assign config index value log).1.2.bound? other = map.bound? other := by
  cases hget : map.get? index with
  | none => rw [assign_of_absent hget]
  | some placeholder =>
    rw [assign_of_present hget]
    exact bound?_setValue_of_ne h _

/-- Maps that differ in bound texts only have placeholders of the same types. -/
theorem exists_get?_of_flush_eq {first second : PlaceholderMap} {placeholder : Placeholder}
    (h : first.flush = second.flush) (hget : second.get? index = some placeholder) :
    ∃ same, first.get? index = some same ∧ same.type = placeholder.type := by
  have hflushed := congrArg (·.get? index) h
  simp only [flush, get?_mapValues, hget, Option.map_some] at hflushed
  obtain ⟨same, hsame, hplaceholder⟩ := Option.map_eq_some_iff.mp hflushed
  exact ⟨same, hsame, (Placeholder.mk.inj hplaceholder).2.1⟩

end PlaceholderMap

namespace Statement

open PlaceholderMap

variable {config : Config} {front back supply : List (Index × Value)}
  {map bound : PlaceholderMap} {index : Index} {value : Value} {log after : CallLog}

theorem bound?_bindAll_of_notMem (h : index ∉ supply.map Prod.fst) (config : Config)
    (map : PlaceholderMap) (log : CallLog) :
    (bindAll config supply map log).1.2.bound? index = map.bound? index := by
  induction supply generalizing map log with
  | nil => rfl
  | cons pair rest ih =>
    obtain ⟨own, value⟩ := pair
    rw [List.map_cons, List.mem_cons, not_or] at h
    have hstep := bound?_assign_of_ne h.1 config map value log
    rw [bindAll_cons]
    rcases hassign : map.assign config own value log with ⟨⟨result, changed⟩, between⟩
    rw [hassign] at hstep
    rcases result with _ | _ | _
    · exact (ih h.2 changed between).trans hstep
    · exact hstep
    · exact (ih h.2 changed between).trans hstep

/-- Binding some values is binding those in front and then the others. -/
theorem bindAll_append_eq_ok
    (h : bindAll config (front ++ back) map log = ((.ok (), bound), after)) :
    ∃ middle between, bindAll config front map log = ((.ok (), middle), between) ∧
      bindAll config back middle between = ((.ok (), bound), after) := by
  induction front generalizing map log with
  | nil => exact ⟨map, log, rfl, h⟩
  | cons pair rest ih =>
    obtain ⟨own, value⟩ := pair
    rw [List.cons_append, bindAll_cons] at h
    rw [bindAll_cons]
    rcases hassign : map.assign config own value log with ⟨⟨result, changed⟩, between⟩
    rw [hassign] at h
    rcases result with _ | _ | _
    · exact ih h
    · cases h
    · exact ih h

/-- After all values were bound, an index has what the assignment of its own value gave. -/
theorem bound?_bindAll {placeholder : Placeholder} (hget : map.get? index = some placeholder)
    (hdistinct : ((front ++ (index, value) :: back).map Prod.fst).Nodup)
    (h : bindAll config (front ++ (index, value) :: back) map log = ((.ok (), bound), after)) :
    ∃ changed later, placeholder.assign config value (bindAll config front map log).2 =
        ((.ok (), changed), later) ∧
      bound.bound? index = changed.value := by
  obtain ⟨middle, between, hfront, hback⟩ := bindAll_append_eq_ok h
  have hflush : middle.flush = map.flush := by
    have hkept := flush_bindAll config front map log
    rwa [hfront] at hkept
  obtain ⟨same, hsame, htype⟩ := exists_get?_of_flush_eq hflush hget
  have habsent : index ∉ back.map Prod.fst := by
    rw [List.map_append, List.map_cons, List.nodup_append, List.nodup_cons] at hdistinct
    exact hdistinct.2.1.1
  rw [bindAll_cons, assign_of_present hsame] at hback
  rcases hcoerce : coerce config placeholder.type value between with ⟨rejected | text, later⟩
  · rw [Placeholder.assign_of_error (htype ▸ hcoerce)] at hback
    cases hback
  · rw [Placeholder.assign_of_ok (htype ▸ hcoerce)] at hback
    replace hback : bindAll config back (middle.setValue index text) later =
      ((.ok (), bound), after) := hback
    refine ⟨{ placeholder with value := text }, later, ?_, ?_⟩
    · rw [hfront]
      exact Placeholder.assign_of_ok hcoerce
    · have hrest := bound?_bindAll_of_notMem habsent config (middle.setValue index text) later
      rw [hback] at hrest
      exact hrest.trans (bound?_setValue_self hsame text)

end Statement

/-! ## Assignments -/

namespace Placeholder

variable {config : Config} {value : Value} {log after : CallLog}
  {placeholder changed : Placeholder}

/-- The placeholder is a flag, and the value is one that a boolean placeholder writes as
false. -/
def TurnsOff (config : Config) (value : Value) (log : CallLog) (placeholder : Placeholder) :
    Prop :=
  placeholder.type = .flag ∧
    ({ placeholder with type := .scalar .boolean false false }.assign config value log).1.2.value =
      some (config.boolean false)

theorem value_assign_eq_some_iff {text : String} :
    (placeholder.assign config value log).1.2.value = some text ↔
      (coerce config placeholder.type value log).1 = .ok (some text) := by
  rcases hcoerce : coerce config placeholder.type value log with ⟨rejected | result, after⟩
  · rw [assign_of_error hcoerce]
    simp
  · rw [assign_of_ok hcoerce]
    simp

/-- An assignment that succeeds binds no text exactly if it turns a flag off. -/
theorem value_eq_none_iff
    (h : placeholder.assign config value log = ((.ok (), changed), after)) :
    changed.value = none ↔ placeholder.TurnsOff config value log := by
  have hcoerce : (coerce config placeholder.type value log).1 = .ok changed.value :=
    congrArg Prod.fst (coerce_of_assign h)
  have hnone : changed.value = none ↔
      (coerce config placeholder.type value log).1 = .ok none := by
    rw [hcoerce]
    simp
  rw [hnone, coerce_eq_none_iff, TurnsOff, value_assign_eq_some_iff, coerce_boolean_iff]

end Placeholder

/-! ## Contributions of markers -/

namespace Template

variable {brackets : Brackets} {bound : Index → Option String} {pieces : List IndexedPiece}
  {k : Nat} {index : Index}

/-- A marker outside of blocks contributes what is bound to it. -/
theorem contribution_of_slotAt? (hslot : slotAt? pieces k = some index)
    (hopen : ¬ Enclosed pieces k) :
    contribution brackets bound pieces k = (bound index).getD "" := by
  have hpiece := getElem?_of_slotAt? hslot
  have hdelimits : ¬ Delimits pieces k := by
    rw [delimits_iff]
    rintro ⟨first, last, hholds, rfl | rfl⟩
    · have hopens := hholds.1.opens
      rw [hpiece] at hopens
      cases hopens
    · have hcloses := hholds.1.closes
      rw [hpiece] at hcloses
      cases hcloses
  have hdropped : ¬ IsDropped bound pieces k := by
    rw [isDropped_iff]
    rintro ⟨first, last, hholds, hfirst, hlast⟩
    exact hopen ((exists_isBlock_iff_of_slotAt? hslot).mp ⟨first, last, hholds.1, hfirst, hlast⟩)
  rw [contribution, if_neg (not_or.mpr ⟨hdelimits, hdropped⟩), hpiece]
  rfl

end Template

/-! ## Calls -/

namespace Statement

/-- The last value supplied for the index of a placeholder is assigned in its turn, behind the
values in front of it, and that changes the placeholder. -/
structure Assigned (config : Config) (statement : Statement) (supply : List (Index × Value))
    (log : CallLog) (placeholder : Placeholder) (value : Value) (before : CallLog)
    (changed : Placeholder) : Prop where
  declared : statement.placeholders.get? placeholder.index = some placeholder
  last : Entries.get? placeholder.index supply.reverse = some value
  turn : ∃ front back, Entries.collect supply = front ++ (placeholder.index, value) :: back ∧
    (bindAll config front statement.placeholders log).2 = before
  accepted : ∃ later, placeholder.assign config value before = ((.ok (), changed), later)

/-- When all values of a supply are bound, each declared index among them has what the
assignment of its value gave. -/
theorem exists_assigned {config : Config} {statement : Statement}
    {supply : List (Index × Value)} {bound : PlaceholderMap} {log after : CallLog}
    {placeholder : Placeholder}
    (hget : statement.placeholders.get? placeholder.index = some placeholder)
    (hsupplied : placeholder.index ∈ supply.map Prod.fst)
    (h : bindAll config (Entries.collect supply) statement.placeholders log =
      ((.ok (), bound), after)) :
    ∃ value before changed, statement.Assigned config supply log placeholder value before changed ∧
      bound.bound? placeholder.index = changed.value := by
  obtain ⟨value, hvalue⟩ : ∃ value,
      Entries.get? placeholder.index (Entries.collect supply) = some value := by
    rw [← Option.ne_none_iff_exists', ne_eq, Entries.get?_eq_none_iff, not_not,
      Entries.mem_keys_collect]
    exact hsupplied
  obtain ⟨front, back, hsplit⟩ := List.append_of_mem (Entries.mem_of_get?_eq_some hvalue)
  have hdistinct := Entries.nodup_keys_collect supply
  rw [hsplit] at h hdistinct
  obtain ⟨changed, later, hassign, hbound⟩ := bound?_bindAll hget hdistinct h
  rw [Entries.get?_collect] at hvalue
  exact ⟨value, _, changed, ⟨hget, hvalue, ⟨front, back, hsplit, rfl⟩, later, hassign⟩, hbound⟩

end Statement

namespace RenderCall

open Template

/-- In the text of a call that succeeds, every marker outside of closed blocks contributes
what is bound by assigning the last value supplied for it.  It lacks a text only if its
placeholder is a flag, and then exactly for the values that a boolean placeholder writes as
false.  Any other placeholder binds some text for every value that it takes. -/
theorem contribution_eq_assigned (config : Config) :
    (∀ (source text : String) (query : Query) (call : RenderCall) (log : CallLog) (k : Nat)
      (index : Index), Query.new config source = .ok query →
      (call.run query log).1.1 = .ok text →
      let pieces := indexed config.brackets source
      slotAt? pieces k = some index → ¬ Enclosed pieces k →
      ∃ statement supply middle bound after, query.statement = some statement ∧
        call.supply query.canonical log = (.ok supply, middle) ∧
        Statement.bindAll config (Entries.collect supply) statement.placeholders middle =
          ((.ok (), bound), after) ∧
        text = reading config.brackets bound.bound? pieces ∧
        ∃ placeholder value before changed, placeholder.index = index ∧
          statement.Assigned config supply middle placeholder value before changed ∧
          contribution config.brackets bound.bound? pieces k = changed.value.getD "" ∧
          (changed.value = none ↔ placeholder.TurnsOff config value before)) ∧
    ∀ (placeholder changed : Placeholder) (value : Value) (before later : CallLog),
      placeholder.type ≠ .flag →
      placeholder.assign config value before = ((.ok (), changed), later) →
      ∃ bound, changed.value = some bound := by
  refine ⟨?_, fun placeholder changed value before later htype hassign => ?_⟩
  · intro source text query call log k index h hrun pieces hslot hopen
    have hexposed : Exposed pieces index := ⟨k, hslot, hopen⟩
    obtain ⟨hconfig, statement, hstatement, _, hsegments⟩ :=
      Query.new_eq_some h (markers_ne_nil_of_slotAt? hslot)
    obtain ⟨supply, middle, bound, after, hsupply, hmissing, hbind, htext⟩ :=
      run_eq_ok hstatement hrun
    rw [hconfig] at hbind
    have hsupplied : index ∈ supply.map Prod.fst := by
      by_contra habsent
      rw [← Entries.mem_keys_collect] at habsent
      have hmem := (Query.mem_missing_iff h hstatement).mpr ⟨hexposed, habsent⟩
      rw [hmissing] at hmem
      cases hmem
    obtain ⟨placeholder, hget⟩ : ∃ placeholder,
        statement.placeholders.get? index = some placeholder := by
      refine PlaceholderMap.exists_get?_of_mem ?_
      rw [← Query.placeholders_of_some hstatement]
      exact (Query.mem_map_index_placeholders_iff h).mpr ⟨k, hslot⟩
    obtain rfl := PlaceholderMap.index_of_get?_eq_some hget
    obtain ⟨value, before, changed, hassigned, hbound⟩ :=
      Statement.exists_assigned hget hsupplied hbind
    obtain ⟨later, haccepted⟩ := hassigned.accepted
    refine ⟨statement, supply, middle, bound, after, hstatement, hsupply, hbind, ?_,
      placeholder, value, before, changed, rfl, hassigned, ?_,
      Placeholder.value_eq_none_iff haccepted⟩
    · rw [htext, hsegments, render_segments]
    · rw [contribution_of_slotAt? hslot hopen, hbound]
  · rw [← Option.ne_none_iff_exists', ne_eq, Placeholder.value_eq_none_iff hassign]
    exact fun hoff => htype hoff.1

/-- A flag behind a pair of brackets that is no block.  The null that comes last for it turns
it off, and its marker leaves nothing. -/
theorem contribution_eq_assigned_flag :
    let config := Config.new Text.escapeStandard
    let source := ":s [a] <:f> [b = :i]"
    let pieces := indexed config.brackets source
    let call := RenderCall.map [(.position 1, .scalar (.boolean true)),
      (.name "0", .deferred ⟨"now", 0⟩ fun _ => .scalar (.text "it's")),
      (.position 1, .scalar .null)]
    let text := "'it''s' [a] <> "
    ∃ query, Query.new config source = .ok query ∧ (call.run query []).1.1 = .ok text ∧
      slotAt? pieces 6 = some (.ordinal 1) ∧ ¬ Enclosed pieces 6 ∧
      ∃ statement supply middle bound after, query.statement = some statement ∧
        call.supply query.canonical [] = (.ok supply, middle) ∧
        Statement.bindAll config (Entries.collect supply) statement.placeholders middle =
          ((.ok (), bound), after) ∧
        text = reading config.brackets bound.bound? pieces ∧
        ∃ placeholder value before changed, placeholder.index = .ordinal 1 ∧
          statement.Assigned config supply middle placeholder value before changed ∧
          contribution config.brackets bound.bound? pieces 6 = changed.value.getD "" ∧
          (changed.value = none ↔ placeholder.TurnsOff config value before) := by
  intro config source pieces call text
  have htext : ((Query.new config source).toOption.map fun query =>
      decide ((call.run query []).1.1 = .ok text)) = some true := by
    decide +kernel
  have hslot : slotAt? pieces 6 = some (.ordinal 1) := by decide +kernel
  have hopen : ¬ Enclosed pieces 6 := by
    have hclosed : ∀ i < 6, pieces[i]? = some .opening →
        ∃ j < 6, i < j ∧ pieces[j]? = some .closing := by
      decide +kernel
    rintro ⟨⟨i, hi, hopens, hclear⟩, _⟩
    obtain ⟨j, hj, hlt, hcloses⟩ := hclosed i hi hopens
    exact hclear j hj hlt hcloses
  cases hnew : Query.new config source with
  | error error =>
    rw [hnew] at htext
    cases htext
  | ok query =>
    rw [hnew] at htext
    have hrun := of_decide_eq_true (Option.some.inj htext)
    exact ⟨query, rfl, hrun, hslot, hopen, (contribution_eq_assigned config).1 source text query
      call [] 6 (.ordinal 1) hnew hrun hslot hopen⟩

end RenderCall

end SqlTemplate
