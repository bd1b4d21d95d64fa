import SqlTemplate.Proofs.Missing
import SqlTemplate.Proofs.Outcome

/-!
# When suppliers are asked

Which suppliers a call asks, how often and in what order.  A supplier that was asked stands in
the log, so the calls that a computation makes are what it appends to the log.

* `Trace` says of a computation which calls it makes after some earlier ones, and whether it
  ends in acceptance.  `Chain` is the trace of resolving a value, `entryTrace` that of an entry
  of an array and `valueTrace` that of a value in a slot; `Trace.inTurn` puts traces in a row,
  up to the first one that ends in refusal.
* `Traces` says that a computation does what a trace says.  `traces_resolve` and `traces_mapM`
  follow the way coercions are put together, and `traces_coerce` is the result for one value.
* `Query.targets` are the values that a supply has for the placeholders of a template, and
  `Statement.traces_bindAll` says that binding a supply deals with them in turn.
* `RenderCall.asked_in_turn` is the result for calls, and `RenderCall.asked_in_turn_stopped` a
  call that a rejection stops.
-/

namespace SqlTemplate

/-! ## Traces -/

/-- Which calls are made after some earlier ones, and whether all is accepted. -/
abbrev Trace :=
  CallLog → CallLog → Bool → Prop

/-- The supplier of a deferred value is asked, then the supplier that it answers with, and so on
to a value that is not deferred.  The answers depend on the calls that were made before. -/
inductive Chain : CallLog → Value → CallLog → Resolved → Prop where
  | scalar (earlier : CallLog) (content : Scalar) :
      Chain earlier (.scalar content) [] (.scalar content)
  | array (earlier : CallLog) (entries : ArrayEntries) :
      Chain earlier (.array entries) [] (.array entries)
  | deferred {earlier : CallLog} {supplier : Supplier} {answer : CallLog → Value}
      {calls : CallLog} {resolved : Resolved}
      (h : Chain (earlier ++ [supplier]) (answer earlier) calls resolved) :
      Chain earlier (.deferred supplier answer) (supplier :: calls) resolved

namespace Trace

/-- No call is made. -/
def silent (outcome : Bool) : Trace :=
  fun _ calls accepted => calls = [] ∧ accepted = outcome

/-- A value is resolved first, and what follows depends on what it comes to. -/
def resolving (value : Value) (next : Resolved → Trace) : Trace :=
  fun earlier calls accepted => ∃ chain resolved rest,
    Chain earlier value chain resolved ∧ calls = chain ++ rest ∧
      next resolved (earlier ++ chain) rest accepted

/-- Items are dealt with in order, up to the first one that is refused. -/
inductive inTurn {α : Type} (step : α → Trace) : List α → Trace where
  | nil (earlier : CallLog) : inTurn step [] earlier [] true
  | refused {item : α} {rest : List α} {earlier calls : CallLog}
      (h : step item earlier calls false) : inTurn step (item :: rest) earlier calls false
  | accepted {item : α} {rest : List α} {earlier calls later : CallLog} {outcome : Bool}
      (h : step item earlier calls true)
      (hrest : inTurn step rest (earlier ++ calls) later outcome) :
      inTurn step (item :: rest) earlier (calls ++ later) outcome

end Trace

/-! ## Traces of values -/

section Values

open Trace

variable (config : Config)

/-- What an entry comes to can be written as a literal. -/
def isLiteral (type : SlotType) : Resolved → Bool
  | .scalar scalar => (coerceScalar config type scalar).isOk
  | .array _ => false

/-- What an entry comes to can be written as an identifier. -/
def isIdentifier : Resolved → Bool
  | .scalar (.text raw) => config.isQuantifier raw
  | _ => false

/-- An entry of an array in a slot of a type for arrays.  Where the key is written it comes first,
and types that write the keys only ask nothing. -/
def entryTrace (type : SlotType) (entry : Key × Value) : Trace :=
  match type with
  | .pairs _ _ =>
      if config.isQuantifier entry.1.text then
        resolving entry.2 fun resolved => silent (isLiteral config type resolved)
      else silent false
  | .list _ => resolving entry.2 fun resolved => silent (isLiteral config type resolved)
  | .keys _ => silent (config.isQuantifier entry.1.text)
  | .values _ => resolving entry.2 fun resolved => silent (isIdentifier config resolved)
  | _ => silent false

/-- A value in a slot of a type.  It is resolved once; the entries of an array follow in order if
the type takes arrays. -/
def valueTrace (type : SlotType) (value : Value) : Trace :=
  resolving value fun
    | .scalar scalar =>
        silent (!(type.needsArray && scalar != .null) && (coerceScalar config type scalar).isOk)
    | .array entries =>
        if type.needsArray then inTurn (entryTrace config type) entries else silent false

end Values

/-! ## Computations and their traces -/

/-- The computation makes the calls that the trace says, and succeeds if they end in
acceptance. -/
structure Traces {α ε : Type} (computation : StateM CallLog (Except ε α)) (trace : Trace) :
    Prop where
  exists_calls (earlier : CallLog) : ∃ calls accepted, trace earlier calls accepted
  of_trace {earlier calls : CallLog} {accepted : Bool} (h : trace earlier calls accepted) :
    (computation earlier).2 = earlier ++ calls ∧ (computation earlier).1.isOk = accepted

section Combinators

variable {α β ε : Type}

theorem Traces.iff {computation : StateM CallLog (Except ε α)} {trace : Trace}
    (h : Traces computation trace) {earlier calls : CallLog} {accepted : Bool} :
    trace earlier calls accepted ↔
      (computation earlier).2 = earlier ++ calls ∧ (computation earlier).1.isOk = accepted := by
  refine ⟨h.of_trace, fun ⟨hcalls, haccepted⟩ => ?_⟩
  obtain ⟨made, outcome, htrace⟩ := h.exists_calls earlier
  obtain ⟨hmade, houtcome⟩ := h.of_trace htrace
  rwa [← haccepted, houtcome, List.append_cancel_left (hcalls.symm.trans hmade)]

theorem traces_of_eq {computation : StateM CallLog (Except ε α)} (result : Except ε α)
    (h : ∀ log, computation log = (result, log)) :
    Traces computation (.silent result.isOk) where
  exists_calls _ := ⟨[], _, rfl, rfl⟩
  of_trace := by
    rintro earlier _ _ ⟨rfl, rfl⟩
    rw [h, List.append_nil]
    exact ⟨rfl, rfl⟩

theorem traces_judge (found : ValueKind) (judgement : Except Rejection α) :
    Traces (judge found judgement).run (.silent judgement.isOk) := by
  cases judgement with
  | ok result => exact traces_of_eq (.ok result) fun _ => rfl
  | error reason => exact traces_of_eq (.error ⟨found, reason⟩) fun _ => rfl

theorem traces_throw (rejected : Rejected) :
    Traces (throw rejected : Coercing α).run (.silent false) :=
  traces_of_eq (.error rejected) fun _ => rfl

/-- Only the calls and the acceptance of a computation count for its trace. -/
theorem Traces.congr {δ : Type} {first : StateM CallLog (Except ε α)}
    {second : StateM CallLog (Except δ β)} {trace : Trace} (h : Traces first trace)
    (hsame : ∀ log, (second log).2 = (first log).2 ∧ (second log).1.isOk = (first log).1.isOk) :
    Traces second trace where
  exists_calls := h.exists_calls
  of_trace htrace := by
    rw [(hsame _).1, (hsame _).2]
    exact h.of_trace htrace

theorem Traces.bindPure {computation : Coercing α} {trace : Trace}
    (h : Traces computation.run trace) (f : α → β) :
    Traces (do return f (← computation) : Coercing β).run trace := by
  refine h.congr fun log => ?_
  rw [bind_apply]
  rcases computation.run log with ⟨_ | _, after⟩ <;> exact ⟨rfl, rfl⟩

/-! ## Resolving -/

theorem Chain.resolve_eq {earlier calls : CallLog} {value : Value} {resolved : Resolved}
    (h : Chain earlier value calls resolved) :
    value.resolve earlier = (resolved, earlier ++ calls) := by
  induction h with
  | scalar earlier content =>
    rw [List.append_nil]
    rfl
  | array earlier entries =>
    rw [List.append_nil]
    rfl
  | @deferred earlier supplier answer calls resolved _ ih =>
    rw [List.append_assoc, List.singleton_append] at ih
    exact ih

theorem exists_chain : ∀ (value : Value) (earlier : CallLog),
    ∃ calls resolved, Chain earlier value calls resolved
  | .scalar content, earlier => ⟨[], _, .scalar earlier content⟩
  | .array entries, earlier => ⟨[], _, .array earlier entries⟩
  | .deferred supplier answer, earlier => by
    obtain ⟨calls, resolved, h⟩ := exists_chain (answer earlier) (earlier ++ [supplier])
    exact ⟨supplier :: calls, resolved, .deferred h⟩

theorem traces_resolve {value : Value} {next : Resolved → Coercing α} {trace : Resolved → Trace}
    (h : ∀ resolved, Traces (next resolved).run (trace resolved)) :
    Traces (do next (← value.resolve) : Coercing α).run (.resolving value trace) where
  exists_calls earlier := by
    obtain ⟨chain, resolved, hchain⟩ := exists_chain value earlier
    obtain ⟨rest, accepted, hrest⟩ := (h resolved).exists_calls (earlier ++ chain)
    exact ⟨chain ++ rest, accepted, chain, resolved, rest, hchain, rfl, hrest⟩
  of_trace := by
    rintro earlier _ accepted ⟨chain, resolved, rest, hchain, rfl, hrest⟩
    have hrun : (do next (← value.resolve) : Coercing α).run earlier =
        (next resolved).run (earlier ++ chain) := by
      rw [ExceptT.run, resolve_bind, hchain.resolve_eq]
      rfl
    rw [hrun, ← List.append_assoc]
    exact (h resolved).of_trace hrest

/-! ## Items in a row -/

theorem traces_inTurn_nil {computation : StateM CallLog (Except ε β)} {trace : α → Trace}
    {result : β} (h : ∀ log, computation log = (.ok result, log)) :
    Traces computation (.inTurn trace []) where
  exists_calls earlier := ⟨[], true, .nil earlier⟩
  of_trace := by
    rintro earlier _ _ ⟨⟩
    rw [h, List.append_nil]
    exact ⟨rfl, rfl⟩

/-- A computation that ends with its first part if that is refused, and goes on with the other
items if it is accepted. -/
theorem traces_inTurn_cons {γ δ : Type} {first : StateM CallLog (Except ε β)}
    {computation : StateM CallLog (Except δ γ)} {trace : α → Trace} {item : α} {rest : List α}
    (hfirst : Traces first (trace item))
    (hrefused : ∀ log after error, first log = (.error error, after) →
      ∃ reason, computation log = (.error reason, after))
    (haccepted : ∀ log after result, first log = (.ok result, after) →
      ∃ next, Traces next (.inTurn trace rest) ∧ computation log = next after) :
    Traces computation (.inTurn trace (item :: rest)) := by
  have hok : ∀ {earlier calls : CallLog}, trace item earlier calls true →
      ∃ next, Traces next (.inTurn trace rest) ∧ computation earlier = next (earlier ++ calls) := by
    intro earlier calls htrace
    obtain ⟨hcalls, hresult⟩ := hfirst.of_trace htrace
    rcases hrun : first earlier with ⟨_ | result, after⟩
    · rw [hrun] at hresult
      cases hresult
    · obtain ⟨next, hnext, hcomputation⟩ := haccepted earlier after result hrun
      rw [hrun] at hcalls
      rw [← show after = earlier ++ calls from hcalls]
      exact ⟨next, hnext, hcomputation⟩
  refine ⟨fun earlier => ?_, fun {earlier} calls accepted htrace => ?_⟩
  · obtain ⟨calls, accepted, htrace⟩ := hfirst.exists_calls earlier
    cases accepted with
    | false => exact ⟨calls, false, .refused htrace⟩
    | true =>
      obtain ⟨next, hnext, _⟩ := hok htrace
      obtain ⟨later, outcome, hlater⟩ := hnext.exists_calls (earlier ++ calls)
      exact ⟨calls ++ later, outcome, .accepted htrace hlater⟩
  · cases htrace with
    | refused htrace =>
      obtain ⟨hcalls, hresult⟩ := hfirst.of_trace htrace
      rcases hrun : first earlier with ⟨error | _, after⟩
      · obtain ⟨reason, hcomputation⟩ := hrefused earlier after error hrun
        rw [hrun] at hcalls
        rw [hcomputation]
        exact ⟨hcalls, rfl⟩
      · rw [hrun] at hresult
        cases hresult
    | accepted htrace hlater =>
      obtain ⟨next, hnext, hcomputation⟩ := hok htrace
      rw [hcomputation, ← List.append_assoc]
      exact hnext.of_trace hlater

theorem traces_mapM {step : α → Coercing β} {trace : α → Trace}
    {items : List α} (h : ∀ item, Traces (step item).run (trace item)) :
    Traces (items.mapM step).run (.inTurn trace items) := by
  induction items with
  | nil => exact traces_inTurn_nil fun _ => rfl
  | cons item rest ih =>
    rw [List.mapM_cons]
    refine traces_inTurn_cons (h item) (fun log after rejected hrun => ?_)
      fun log after result hrun => ?_
    · exact ⟨rejected, by rw [bind_apply, hrun]⟩
    · exact ⟨_, ih.bindPure (result :: ·), by rw [bind_apply, hrun]⟩

end Combinators

/-! ## Coercions -/

section Coercions

variable (config : Config)

theorem isOk_map {α β : Type} (judgement : Except Rejection α) (f : α → β) :
    (f <$> judgement).isOk = judgement.isOk := by
  cases judgement <;> rfl

theorem isOk_identifierText (style : QuoteStyle) (raw : String) :
    (identifierText config style raw).isOk = config.isQuantifier raw := by
  unfold identifierText
  cases config.isQuantifier raw <;> rfl

theorem traces_entryLiteral (type : SlotType) (value : Value) :
    Traces (entryLiteral config type value).run
      (.resolving value fun resolved => .silent (isLiteral config type resolved)) := by
  refine traces_resolve fun resolved => ?_
  cases resolved with
  | scalar scalar =>
    rw [isLiteral, ← isOk_map _ fun text => text.getD ""]
    exact traces_judge _ _
  | array entries => exact traces_throw _

theorem traces_entryIdentifier (style : QuoteStyle) (value : Value) :
    Traces (entryIdentifier config style value).run
      (.resolving value fun resolved => .silent (isIdentifier config resolved)) := by
  refine traces_resolve fun resolved => ?_
  cases resolved with
  | scalar scalar =>
    cases scalar with
    | text raw =>
      rw [isIdentifier, ← isOk_identifierText config style raw]
      exact traces_judge _ _
    | null | boolean | integer | double => exact traces_throw _
  | array entries => exact traces_throw _

theorem traces_entryKey (style : QuoteStyle) (key : Key) :
    Traces (entryKey config style key).run (.silent (config.isQuantifier key.text)) := by
  rw [← isOk_identifierText config style key.text]
  exact traces_judge _ _

/-- The literal of a pair is asked for only if its key is an identifier. -/
theorem traces_entryPair (style : QuoteStyle) (nullable : Bool) (entry : Key × Value) :
    Traces (entryPair config (.pairs style nullable) style entry).run
      (entryTrace config (.pairs style nullable) entry) := by
  show Traces _ (if config.isQuantifier entry.1.text then _ else _)
  rw [← isOk_identifierText config style]
  unfold entryPair entryKey
  cases identifierText config style entry.1.text with
  | ok name => exact (traces_entryLiteral config _ entry.2).bindPure _
  | error reason => exact traces_throw _

theorem traces_coerceEntries {type : SlotType} (htype : type.needsArray = true)
    (entries : ArrayEntries) :
    Traces (coerceEntries config type entries).run (.inTurn (entryTrace config type) entries) := by
  cases type with
  | pairs style nullable => exact traces_mapM fun entry => traces_entryPair config _ _ entry
  | list nullable => exact traces_mapM fun entry => traces_entryLiteral config _ entry.2
  | keys style => exact traces_mapM fun entry => traces_entryKey config _ entry.1
  | values style => exact traces_mapM fun entry => traces_entryIdentifier config _ entry.2
  | _ => cases htype

theorem traces_coerce (type : SlotType) (value : Value) :
    Traces (coerce config type value).run (valueTrace config type value) := by
  refine traces_resolve fun resolved => ?_
  cases resolved with
  | scalar scalar =>
    show Traces (if type.needsArray && scalar != .null then _ else _ : Coercing _).run
      (.silent (!(type.needsArray && scalar != .null) && _))
    cases type.needsArray && scalar != .null with
    | true => exact traces_throw _
    | false => exact traces_judge _ _
  | array entries =>
    cases htype : type.needsArray with
    | true => exact (traces_coerceEntries config htype entries).bindPure _
    | false =>
      cases type with
      | list | pairs | keys | values => cases htype
      | _ => exact traces_throw _

end Coercions

/-! ## Supplies -/

/-- The type of the placeholder that a pair of a supply is for, with the value. -/
def PlaceholderMap.target? (map : PlaceholderMap) (pair : Index × Value) :
    Option (SlotType × Value) :=
  (map.get? pair.1).map fun placeholder => (placeholder.type, pair.2)

theorem PlaceholderMap.target?_setValue (map : PlaceholderMap) (index : Index)
    (text : Option String) : (map.setValue index text).target? = map.target? := by
  funext pair
  rw [target?, setValue, get?_mapValues, Option.map_map]
  rfl

/-- How a computation ends, without what it leaves behind. -/
def ending {α β ε : Type} (computation : StateM CallLog (Except ε α × β)) :
    StateM CallLog (Except ε α) :=
  fun log => ((computation log).1.1, (computation log).2)

theorem Placeholder.traces_assign (config : Config) (value : Value) (placeholder : Placeholder) :
    Traces (ending (placeholder.assign config value))
      (valueTrace config placeholder.type value) := by
  refine (traces_coerce config placeholder.type value).congr fun log => ?_
  unfold ending
  rcases hcoerce : (coerce config placeholder.type value).run log with ⟨_ | _, after⟩
  · rw [assign_of_error hcoerce]
    exact ⟨rfl, rfl⟩
  · rw [assign_of_ok hcoerce]
    exact ⟨rfl, rfl⟩

/-- Binding deals with the values that have a placeholder, in the order of the supply. -/
theorem Statement.traces_bindAll (config : Config) (supply : List (Index × Value))
    (map : PlaceholderMap) :
    Traces (ending (bindAll config supply map))
      (.inTurn (fun target => valueTrace config target.1 target.2)
        (supply.filterMap map.target?)) := by
  induction supply generalizing map with
  | nil => exact traces_inTurn_nil fun _ => rfl
  | cons pair rest ih =>
    obtain ⟨index, value⟩ := pair
    cases hget : map.get? index with
    | none =>
      rw [List.filterMap_cons_none (by rw [PlaceholderMap.target?, hget]; rfl)]
      refine (ih map).congr fun log => ?_
      unfold ending
      rw [bindAll_cons, PlaceholderMap.assign_of_absent hget]
      exact ⟨rfl, rfl⟩
    | some placeholder =>
      have htarget : map.target? (index, value) = some (placeholder.type, value) := by
        rw [PlaceholderMap.target?, hget]
        rfl
      rw [List.filterMap_cons_some htarget]
      refine traces_inTurn_cons (placeholder.traces_assign config value)
        (fun log after error hrun => ⟨error, ?_⟩) fun log after result hrun => ?_
      · obtain ⟨hresult, hafter⟩ := Prod.mk.inj hrun
        unfold ending
        rw [bindAll_cons, PlaceholderMap.assign_of_present hget, hresult, hafter]
      · obtain ⟨hresult, hafter⟩ := Prod.mk.inj hrun
        have hrest := ih (map.setValue index (placeholder.assign config value log).1.2.value)
        rw [PlaceholderMap.target?_setValue] at hrest
        refine ⟨_, hrest, ?_⟩
        unfold ending
        rw [bindAll_cons, PlaceholderMap.assign_of_present hget, hresult, hafter]

/-! ## Suppliers that a value holds -/

/-- The supplier is that of the value, or one of an answer to it, or one of an entry. -/
inductive Value.Holds (supplier : Supplier) : Value → Prop where
  | asked (answer : CallLog → Value) : Holds supplier (.deferred supplier answer)
  | answered {other : Supplier} {answer : CallLog → Value} (log : CallLog)
      (h : Holds supplier (answer log)) : Holds supplier (.deferred other answer)
  | entry {entries : ArrayEntries} {entry : Key × Value} (hmem : entry ∈ entries)
      (h : Holds supplier entry.2) : Holds supplier (.array entries)

theorem Chain.holds {earlier calls : CallLog} {value : Value} {resolved : Resolved}
    (h : Chain earlier value calls resolved) {supplier : Supplier} :
    (supplier ∈ calls → value.Holds supplier) ∧
      (resolved.toValue.Holds supplier → value.Holds supplier) := by
  induction h with
  | scalar | array => exact ⟨nofun, id⟩
  | @deferred earlier first answer calls resolved _ ih =>
    refine ⟨fun hmem => ?_, fun hresolved => .answered earlier (ih.2 hresolved)⟩
    rcases List.mem_cons.mp hmem with rfl | hmem
    · exact .asked answer
    · exact .answered earlier (ih.1 hmem)

theorem exists_mem_of_inTurn {α : Type} {step : α → Trace} {items : List α}
    {earlier calls : CallLog} {accepted : Bool} (h : Trace.inTurn step items earlier calls accepted)
    {supplier : Supplier} (hmem : supplier ∈ calls) :
    ∃ item ∈ items, ∃ before made outcome, step item before made outcome ∧ supplier ∈ made := by
  induction h with
  | nil => cases hmem
  | refused hstep => exact ⟨_, List.mem_cons_self, _, _, _, hstep, hmem⟩
  | accepted hstep _ ih =>
    rcases List.mem_append.mp hmem with hmem | hmem
    · exact ⟨_, List.mem_cons_self, _, _, _, hstep, hmem⟩
    · obtain ⟨item, hitem, hrest⟩ := ih hmem
      exact ⟨item, List.mem_cons_of_mem _ hitem, hrest⟩

section Holding

variable {config : Config} {type : SlotType} {earlier calls : CallLog} {accepted : Bool}
  {supplier : Supplier}

theorem holds_of_resolving_silent {value : Value} {outcome : Resolved → Bool}
    (h : Trace.resolving value (fun resolved => .silent (outcome resolved)) earlier calls accepted)
    (hmem : supplier ∈ calls) : value.Holds supplier := by
  obtain ⟨chain, resolved, rest, hchain, rfl, rfl, _⟩ := h
  rw [List.append_nil] at hmem
  exact hchain.holds.1 hmem

theorem holds_of_entryTrace {entry : Key × Value}
    (h : entryTrace config type entry earlier calls accepted) (hmem : supplier ∈ calls) :
    entry.2.Holds supplier := by
  unfold entryTrace at h
  split at h
  · split at h
    · exact holds_of_resolving_silent h hmem
    · rw [h.1] at hmem
      cases hmem
  · exact holds_of_resolving_silent h hmem
  · rw [h.1] at hmem
    cases hmem
  · exact holds_of_resolving_silent h hmem
  · rw [h.1] at hmem
    cases hmem

theorem holds_of_valueTrace {value : Value}
    (h : valueTrace config type value earlier calls accepted) (hmem : supplier ∈ calls) :
    value.Holds supplier := by
  obtain ⟨chain, resolved, rest, hchain, rfl, hrest⟩ := h
  rcases List.mem_append.mp hmem with hmem | hmem
  · exact hchain.holds.1 hmem
  refine hchain.holds.2 ?_
  cases resolved with
  | scalar scalar =>
    rw [hrest.1] at hmem
    cases hmem
  | array entries =>
    simp only at hrest
    split at hrest
    · obtain ⟨entry, hentry, _, _, _, htrace, hmade⟩ := exists_mem_of_inTurn hrest hmem
      exact .entry hentry (holds_of_entryTrace htrace hmade)
    · rw [hrest.1] at hmem
      cases hmem

end Holding

/-! ## Calls -/

namespace Query

variable {query : Query} {supply : List (Index × Value)}

/-- The last value that is supplied for each index that the template declares, in the order in
which the indices come first, with the type of its placeholder. -/
def targets (query : Query) (supply : List (Index × Value)) : List (SlotType × Value) :=
  (supply.map Prod.fst).eraseDups.filterMap fun index => do
    let placeholder ← query.placeholder? index
    let value ← Entries.get? index supply.reverse
    return (placeholder.type, value)

theorem targets_of_none (h : query.statement = none) : query.targets supply = [] := by
  refine List.filterMap_eq_nil_iff.mpr fun index _ => ?_
  rw [placeholder?, h]
  rfl

theorem targets_of_some {statement : Statement} (h : query.statement = some statement) :
    query.targets supply = (Entries.collect supply).filterMap statement.placeholders.target? := by
  rw [targets, ← Entries.keys_collect, List.filterMap_map]
  refine List.filterMap_congr fun pair hpair => ?_
  rw [Function.comp_apply, placeholder?, h, Entries.mem_collect_iff.mp hpair]
  cases hget : statement.placeholders.get? pair.1 <;>
    simp [PlaceholderMap.target?, hget]

/-- The values of a supply that have a placeholder are dealt with in turn. -/
def supplyTrace (query : Query) (supply : List (Index × Value)) : Trace :=
  .inTurn (fun target => valueTrace query.config target.1 target.2) (query.targets supply)

theorem traces_fill {statement : Statement} (hstatement : query.statement = some statement)
    (hmissing : statement.missing (Entries.collect supply) = []) :
    Traces (ending (statement.fill query.config supply)) (query.supplyTrace supply) := by
  rw [supplyTrace, targets_of_some hstatement]
  refine (Statement.traces_bindAll query.config _ statement.placeholders).congr fun log => ?_
  unfold ending
  rcases hbind : Statement.bindAll query.config (Entries.collect supply) statement.placeholders log
    with ⟨⟨error | ⟨⟩, bound⟩, after⟩
  · rw [Statement.fill_of_refused hmissing hbind]
    exact ⟨rfl, rfl⟩
  · rw [Statement.fill_of_bound hmissing hbind]
    exact ⟨rfl, rfl⟩

end Query

namespace RenderCall

/-- The pairs of indices and values that a list call or a map call is given. -/
def pairs? : RenderCall → Option (List (Index × Value))
  | .list values => some (Query.ordinalSupply 0 values)
  | .map pairs => some (pairs.map fun (key, value) => (Index.ofKey key, value))
  | .share _ _ | .join _ => none

variable {call : RenderCall} {query : Query} {supply : List (Index × Value)}

theorem supply_of_pairs? (h : call.pairs? = some supply) (canonical : String) (log : CallLog) :
    call.supply canonical log = (.ok supply, log) := by
  cases call with
  | list | map =>
    cases h
    rfl
  | share | join => cases h

theorem log_of_unbound (hpairs : call.pairs? = some supply) {log : CallLog} {text : String}
    {missing : List (Index × SlotType)}
    (h : (call.run query log).1.1 = .error (.unboundPlaceholders text missing)) :
    (call.run query log).2 = log := by
  have hsupply := supply_of_pairs? hpairs query.canonical log
  cases hstatement : query.statement with
  | none => rw [run_of_supply hsupply, Query.render_of_none hstatement]
  | some statement =>
    obtain ⟨_, rfl, hne⟩ := (run_eq_unbound_iff hstatement hsupply).mp h
    rw [run_of_supply hsupply, Query.render_of_some hstatement, Statement.render_apply,
      Statement.fill_of_missing hne]

theorem traces_run (hpairs : call.pairs? = some supply) {log : CallLog}
    (h : ¬ ∃ text missing, (call.run query log).1.1 = .error (.unboundPlaceholders text missing)) :
    Traces (ending (call.run query)) (query.supplyTrace supply) := by
  have hrun : call.run query = query.render supply :=
    funext fun log => run_of_supply (supply_of_pairs? hpairs query.canonical log)
  cases hstatement : query.statement with
  | none =>
    have hsource : ∀ log, ending (call.run query) log = (.ok query.source, log) := by
      intro log
      rw [ending, hrun, Query.render_of_none hstatement]
    rw [Query.supplyTrace, Query.targets_of_none hstatement]
    exact traces_inTurn_nil hsource
  | some statement =>
    have hmissing : statement.missing (Entries.collect supply) = [] := by
      by_contra hne
      exact h ⟨_, _, (run_eq_unbound_iff hstatement
        (supply_of_pairs? hpairs query.canonical log)).mpr ⟨rfl, rfl, hne⟩⟩
    refine (Query.traces_fill hstatement hmissing).congr fun log => ?_
    rw [ending, hrun, Query.render_of_some hstatement, Statement.render_apply]
    exact ⟨rfl, rfl⟩

/-- A list call or a map call that fails for want of values asks no supplier.  Any other one deals
with the last values for the declared indices in turn, in the order in which the indices come
first: the calls it makes are those of their traces, and it succeeds exactly if all are accepted.
Every supplier that is asked is one that such a value holds. -/
theorem asked_in_turn (hpairs : call.pairs? = some supply) (query : Query) (log : CallLog) :
    ((∃ text missing, (call.run query log).1.1 = .error (.unboundPlaceholders text missing)) →
      (call.run query log).2 = log) ∧
    ((¬ ∃ text missing, (call.run query log).1.1 = .error (.unboundPlaceholders text missing)) →
      (∀ calls accepted, query.supplyTrace supply log calls accepted ↔
        (call.run query log).2 = log ++ calls ∧ (call.run query log).1.1.isOk = accepted) ∧
      ∃ calls, (call.run query log).2 = log ++ calls ∧
        ∀ supplier ∈ calls, ∃ target ∈ query.targets supply, target.2.Holds supplier) := by
  refine ⟨fun ⟨_, _, hunbound⟩ => log_of_unbound hpairs hunbound, fun hbound => ?_⟩
  have htraces := traces_run hpairs hbound
  refine ⟨fun calls accepted => htraces.iff, ?_⟩
  obtain ⟨calls, accepted, htrace⟩ := htraces.exists_calls log
  refine ⟨calls, (htraces.of_trace htrace).1, fun supplier hmem => ?_⟩
  obtain ⟨target, htarget, _, _, _, hstep, hmade⟩ := exists_mem_of_inTurn htrace hmem
  exact ⟨target, htarget, holds_of_valueTrace hstep hmade⟩

/-- Of two values for one index only the last one is asked for, and one without a placeholder
is not.  A supplier that answers with another one is followed, and a text that is no number ends
the call before the value behind it. -/
theorem asked_in_turn_stopped :
    let ask (name : String) (value : Value) : Value := .deferred ⟨name, 0⟩ fun _ => value
    let one := Value.scalar (.integer 1)
    let word := Value.scalar (.text "x")
    let call := RenderCall.map [
      (.name "a", ask "array" (.array [(.position 0, ask "first" one), (.position 1, one),
        (.position 2, ask "third" word)])),
      (.name "n", ask "superseded" one),
      (.name "undeclared", ask "undeclared" one),
      (.name "n", ask "number" (ask "answer" word)),
      (.name "s", ask "behind" one)]
    let calls : CallLog := [⟨"array", 0⟩, ⟨"first", 0⟩, ⟨"third", 0⟩, ⟨"number", 0⟩, ⟨"answer", 0⟩]
    ∃ query supply, Query.new (Config.new Text.escapeStandard) "a:L n:i s:s" = .ok query ∧
      call.pairs? = some supply ∧
      (call.run query []).1.1 = .error (.refused
        ⟨.name "n", .scalar .integer false false, ⟨.string, .notNumeric "x"⟩⟩) ∧
      (call.run query []).2 = calls ∧ query.supplyTrace supply [] calls false := by
  intro ask one word call calls
  obtain ⟨query, hnew, hresult, hcalls⟩ : ∃ query,
      Query.new (Config.new Text.escapeStandard) "a:L n:i s:s" = .ok query ∧
      (call.run query []).1.1 = .error (.refused
        ⟨.name "n", .scalar .integer false false, ⟨.string, .notNumeric "x"⟩⟩) ∧
      (call.run query []).2 = calls :=
    Query.exists_new_of_any (by decide +kernel)
  have hbound : ¬ ∃ text missing,
      (call.run query []).1.1 = .error (.unboundPlaceholders text missing) := by
    rintro ⟨text, missing, hunbound⟩
    rw [hresult] at hunbound
    cases hunbound
  refine ⟨query, _, hnew, rfl, hresult, hcalls, ?_⟩
  exact (((asked_in_turn rfl query []).2 hbound).1 calls false).mpr ⟨hcalls, by rw [hresult]; rfl⟩

end RenderCall

end SqlTemplate
