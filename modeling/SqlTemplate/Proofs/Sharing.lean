import Mathlib.Data.List.Nodup
import SqlTemplate.Proofs.Filling
import SqlTemplate.Proofs.Positional

/-!
# One value for two ordinals

A `share` call binds one value to the ordinals zero and one.  The value is resolved before, so a
supplier that stands for the whole value is asked once.  The entries of a shared array are left
as they are, and each of the two bindings resolves them for itself.

* `Constant` says of a computation that the calls made before have no say in its result.
  `constant_coerce`: the coercion of an array is constant if its entries always resolve to the same.
* `Statement.bound?_bindAll_twice`: what a supply that begins with one value for two indices binds
  to them.
* `Query.share_texts` says what a call that succeeds binds to the two ordinals, and when the two
  texts are the same.  `Query.share_texts_ne` shows a supplier in the array that makes them differ.
-/

namespace SqlTemplate

/-! ## Computations with one result -/

/-- A computation whose result does not depend on the calls that were made before. -/
def Constant {α : Type} (computation : StateM CallLog α) : Prop :=
  ∀ log other, (computation log).1 = (computation other).1

theorem stepwise_constant : Stepwise Constant where
  pure result := fun _ _ => rfl
  bind {α β first next} hfirst hnext := by
    intro log other
    show (next (first log).1 (first log).2).1 = (next (first other).1 (first other).2).1
    rw [hfirst log other]
    exact hnext _ _ _

/-! ## Coercing arrays twice -/

/-- No supplier that is asked for an entry of an array changes its answer.  Types that write the
keys only ask none. -/
def Unchanging (type : SlotType) (entries : ArrayEntries) : Prop :=
  (∃ style, type = .keys style) ∨ ∀ entry ∈ entries, Constant entry.2.resolve

theorem constant_coerce (config : Config) {type : SlotType} {resolved : Resolved}
    (h : ∀ entries, resolved = .array entries → Unchanging type entries) :
    Constant (coerce config type resolved.toValue).run :=
  stepwise_constant.coerce config h

/-! ## Binding one value twice -/

/-- When a supply begins with one value for two indices, the second one is bound to what the value
is coerced to right after it was coerced for the first one. -/
theorem Statement.bound?_bindAll_twice {config : Config} {map bound : PlaceholderMap}
    {one two : Index} {first second : Placeholder} {value : Value} {rest : List (Index × Value)}
    {log after : CallLog} (hfirst : map.get? one = some first)
    (hsecond : map.get? two = some second)
    (hdistinct : (((one, value) :: (two, value) :: rest).map Prod.fst).Nodup)
    (h : bindAll config ((one, value) :: (two, value) :: rest) map log =
      ((.ok (), bound), after)) :
    ∃ between later, coerce config first.type value log = (.ok (bound.bound? one), between) ∧
      coerce config second.type value between = (.ok (bound.bound? two), later) := by
  obtain ⟨changed, between, hassign, hbound⟩ := bound?_bindAll hfirst
    (show (([] ++ (one, value) :: (two, value) :: rest).map Prod.fst).Nodup from hdistinct) h
  obtain ⟨other, later, hother, hlast⟩ := bound?_bindAll hsecond
    (show (([(one, value)] ++ (two, value) :: rest).map Prod.fst).Nodup from hdistinct) h
  replace hassign : first.assign config value log = ((.ok (), changed), between) := hassign
  have hbefore : (bindAll config [(one, value)] map log).2 = between := by
    rw [bindAll_cons, PlaceholderMap.assign_of_present hfirst, hassign]
    rfl
  rw [hbefore] at hother
  rw [hbound, hlast]
  exact ⟨between, later, Placeholder.coerce_of_assign hassign,
    Placeholder.coerce_of_assign hother⟩

/-! ## Shared values -/

namespace Query

variable {query : Query} {first second : Placeholder} {shared : Value} {values : List Value}
  {log : CallLog}

theorem get?_of_placeholder? {statement : Statement} {index : Index} {placeholder : Placeholder}
    (hstatement : query.statement = some statement)
    (h : query.placeholder? index = some placeholder) :
    statement.placeholders.get? index = some placeholder := by
  rwa [placeholder?, hstatement] at h

theorem nodup_keys_ordinalSupply (first : Nat) (values : List Value) :
    ((ordinalSupply first values).map Prod.fst).Nodup := by
  rw [RenderCall.keys_ordinalSupply]
  exact List.Nodup.map (fun _ _ => Index.ordinal.inj) (List.nodup_range' 1)

/-- A shared value is resolved once, and what it is goes to the ordinals zero and one.  The text
that is bound to ordinal one is what is written for it right after the text of ordinal zero, so
the two are the same if no supplier within a shared array changes its answer in between. -/
theorem share_texts (hfirst : query.placeholder? (.ordinal 0) = some first)
    (hsecond : query.placeholder? (.ordinal 1) = some second) (htype : second.type = first.type)
    {text : String} (hrun : (query.share shared values log).1.1 = .ok text) :
    ∃ statement resolved middle bound after between later,
      query.statement = some statement ∧ shared.resolve log = (resolved, middle) ∧
      Statement.bindAll query.config
        (ordinalSupply 0 (resolved.toValue :: resolved.toValue :: values))
        statement.placeholders middle = ((.ok (), bound), after) ∧
      text = Template.render bound.bound? statement.segments ∧
      coerce query.config first.type resolved.toValue middle =
        (.ok (bound.bound? (.ordinal 0)), between) ∧
      coerce query.config first.type resolved.toValue between =
        (.ok (bound.bound? (.ordinal 1)), later) ∧
      ((∀ entries, resolved = .array entries → Unchanging first.type entries) →
        bound.bound? (.ordinal 0) = bound.bound? (.ordinal 1)) := by
  obtain ⟨statement, hstatement, -⟩ := Option.bind_eq_some_iff.mp hfirst
  rcases hresolve : shared.resolve log with ⟨resolved, middle⟩
  rw [query.share_eq_list hresolve] at hrun
  obtain ⟨supply, _, bound, after, hsupply, _, hbind, htext⟩ := RenderCall.run_eq_ok hstatement
    (show ((RenderCall.list (resolved.toValue :: resolved.toValue :: values)).run query
      middle).1.1 = .ok text from hrun)
  cases hsupply
  have hdistinct := nodup_keys_ordinalSupply 0 (resolved.toValue :: resolved.toValue :: values)
  rw [Entries.collect_eq_self hdistinct] at hbind
  obtain ⟨between, later, hone, htwo⟩ := Statement.bound?_bindAll_twice
    (get?_of_placeholder? hstatement hfirst) (get?_of_placeholder? hstatement hsecond) hdistinct
    hbind
  rw [htype] at htwo
  refine ⟨statement, resolved, middle, bound, after, between, later, hstatement, rfl, hbind, htext,
    hone, htwo, fun hunchanging => ?_⟩
  have hsame := constant_coerce query.config hunchanging middle between
  rw [ExceptT.run, hone, htwo] at hsame
  exact Except.ok.inj hsame

/-- A supplier that answers with the number of earlier calls stands for the shared array, and
another one in it always gives the same answer. -/
theorem share_texts_once :
    let shared := Value.deferred ⟨"columns", 0⟩ fun log =>
      .array [(.name "a", .scalar (.integer (Int64.ofNat log.length))),
        (.name "b", .deferred ⟨"one", 0⟩ fun _ => .scalar (.integer 1))]
    ∃ query, new (Config.new Text.escapeStandard) ":L|:L" = .ok query ∧
      (query.share shared [] []).1.1 = .ok "0, 1|0, 1" ∧
      ∃ (statement : Statement) (bound : PlaceholderMap), query.statement = some statement ∧
        "0, 1|0, 1" = Template.render bound.bound? statement.segments ∧
        bound.bound? (.ordinal 0) = bound.bound? (.ordinal 1) := by
  intro shared
  obtain ⟨query, hnew, hrun, hfirst, hsecond⟩ : ∃ query,
      new (Config.new Text.escapeStandard) ":L|:L" = .ok query ∧
      (query.share shared [] []).1.1 = .ok "0, 1|0, 1" ∧
      query.placeholder? (.ordinal 0) = some (.new (.ordinal 0) (.list false) false) ∧
      query.placeholder? (.ordinal 1) = some (.new (.ordinal 1) (.list false) false) :=
    exists_new_of_any (by decide +kernel)
  obtain ⟨statement, resolved, middle, bound, _, _, _, hstatement, hresolve, _, htext, _, _,
    hsame⟩ := share_texts hfirst hsecond rfl hrun
  refine ⟨query, hnew, hrun, statement, bound, hstatement, htext, hsame ?_⟩
  rintro entries rfl
  cases hresolve
  refine Or.inr fun entry hentry => ?_
  rcases List.mem_cons.mp hentry with rfl | hentry
  · exact stepwise_constant.pure _
  · rw [List.mem_singleton.mp hentry]
    exact fun _ _ => rfl

/-- A supplier within the shared array that answers with the number of earlier calls is asked for
both ordinals, and their texts differ. -/
theorem share_texts_ne :
    let shared := Value.array [(.position 0, .deferred ⟨"count", 0⟩ fun log =>
      .scalar (.integer (Int64.ofNat log.length)))]
    ∃ query, new (Config.new Text.escapeStandard) ":L|:L" = .ok query ∧
      query.placeholders = [Placeholder.new (.ordinal 0) (.list false) false,
        Placeholder.new (.ordinal 1) (.list false) false] ∧
      query.canonical = "\x7b0\x7d|\x7b1\x7d" ∧
      (query.share shared [] []).1.1 = .ok "0|1" ∧
      (query.share shared [] []).2 = [⟨"count", 0⟩, ⟨"count", 0⟩] := by
  intro shared
  exact exists_new_of_any (by decide +kernel)

end Query

end SqlTemplate
