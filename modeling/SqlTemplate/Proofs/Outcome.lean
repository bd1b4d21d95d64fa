import Mathlib.Data.List.Induction
import Mathlib.Data.List.Nodup
import SqlTemplate.Proofs.Filling

/-!
# What plain values come to

A template that is filled with plain values, said without going through the supply value by
value.

* `outcome` is what a plain value is coerced to.  `PlaceholderMap.refusal?` is the error, if
  any, of binding one pair of a supply, and `PlaceholderMap.text?` is the text that a supply
  leaves bound to an index.  All three look at one value and at the type of one placeholder.
* `Statement.bindAll_plain` and `Statement.bound?_bindAll_plain`: binding plain values ends
  with the first refusal among them, and without one every index has its own text.
* `Statement.fill_plain` is the outcome of filling a template, in one equation, and
  `RenderCall.run_eq_fill` brings it to calls.
-/

namespace SqlTemplate

/-! ## Single values -/

/-- What a value in which nothing is deferred is coerced to. -/
def outcome (config : Config) (type : SlotType) (value : Value) : Except Rejected (Option String) :=
  (coerce config type value []).1

section Single

variable {value : Value}

theorem Value.Plain.coerce_eq (h : value.Plain) (config : Config) (type : SlotType)
    (log : CallLog) :
    coerce config type value log = (outcome config type value, log) := by
  obtain ⟨result, hresult⟩ := steady_coerce config h type
  have houtcome : outcome config type value = result := congrArg Prod.fst (hresult [])
  rw [houtcome]
  exact hresult log

namespace Placeholder

/-- The error of binding a value to a placeholder. -/
def refusal? (config : Config) (value : Value) (placeholder : Placeholder) :
    Option BindingError :=
  match outcome config placeholder.type value with
  | .ok _ => none
  | .error rejected => some ⟨placeholder.index, placeholder.type, rejected⟩

/-- The text that a value leaves bound to a placeholder. -/
def text? (config : Config) (value : Value) (placeholder : Placeholder) : Option String :=
  match outcome config placeholder.type value with
  | .ok text => text
  | .error _ => none

theorem assign_plain (h : value.Plain) (config : Config) (placeholder : Placeholder)
    (log : CallLog) :
    placeholder.assign config value log =
      ((match placeholder.refusal? config value with
        | none => .ok ()
        | some error => .error error,
        { placeholder with value := placeholder.text? config value }), log) := by
  have hcoerce := h.coerce_eq config placeholder.type log
  unfold refusal? text?
  cases houtcome : outcome config placeholder.type value with
  | ok text =>
    rw [houtcome] at hcoerce
    exact assign_of_ok hcoerce
  | error rejected =>
    rw [houtcome] at hcoerce
    exact assign_of_error hcoerce

end Placeholder

end Single

/-! ## Supplies -/

namespace Entries

variable {α β : Type} [DecidableEq α]

/-- Of a key that is added to some, only a new one stays when repetitions are left out. -/
theorem eraseDups_concat (keys : List α) (key : α) :
    (keys ++ [key]).eraseDups = if key ∈ keys then keys.eraseDups else keys.eraseDups ++ [key] := by
  rw [List.eraseDups_append]
  split
  · rename_i hmem
    simp [List.removeAll, hmem]
  · rename_i hnew
    simp [List.removeAll, hnew, List.eraseDups_cons]

/-- A collection of pairs has the keys in the order in which they came first. -/
theorem keys_collect (pairs : List (α × β)) :
    (collect pairs).map Prod.fst = (pairs.map Prod.fst).eraseDups := by
  induction pairs using List.reverseRecOn with
  | nil => rfl
  | append_singleton front pair ih =>
    have hlast : collect (front ++ [pair]) = put pair.1 pair.2 (collect front) := by
      rw [collect, List.foldl_append]
      rfl
    rw [hlast, keys_put, ih, List.map_append, List.map_singleton, eraseDups_concat]
    simp only [List.mem_eraseDups]

/-- A collection of pairs has the last value of a key and no other one. -/
theorem mem_collect_iff {pairs : List (α × β)} {key : α} {value : β} :
    (key, value) ∈ collect pairs ↔ get? key pairs.reverse = some value := by
  rw [← get?_collect]
  exact ⟨get?_of_mem (nodup_keys_collect pairs), mem_of_get?_eq_some⟩

end Entries

namespace PlaceholderMap

variable {config : Config} {map : PlaceholderMap} {placeholder : Placeholder} {index : Index}

theorem get?_of_mem (h : placeholder ∈ map.toList) :
    map.get? placeholder.index = some placeholder := by
  obtain ⟨same, hsame⟩ := exists_get?_of_mem (List.mem_map_of_mem h)
  have hmem : same ∈ map.toList := List.mem_of_find?_eq_some hsame
  rw [hsame, List.inj_on_of_nodup_map map.distinct hmem h (index_of_get?_eq_some hsame)]

theorem get?_flush (map : PlaceholderMap) (index : Index) :
    map.flush.get? index = (map.get? index).map Placeholder.flush :=
  get?_mapValues _ _ _

/-- The error of binding a value to its index. -/
def refusal? (config : Config) (map : PlaceholderMap) (pair : Index × Value) :
    Option BindingError :=
  (map.get? pair.1).bind (Placeholder.refusal? config pair.2)

/-- The text that a supply leaves bound to an index. -/
def text? (config : Config) (map : PlaceholderMap) (supply : List (Index × Value))
    (index : Index) : Option String :=
  (map.get? index).bind fun placeholder =>
    (Entries.get? index supply.reverse).bind fun value => placeholder.text? config value

/-- Texts that are bound have no say in what is refused. -/
theorem refusal?_flush (map : PlaceholderMap) (pair : Index × Value) :
    map.flush.refusal? config pair = map.refusal? config pair := by
  rw [refusal?, refusal?, get?_flush, Option.bind_map]
  rfl

theorem refusal?_setValue (text : Option String) :
    (map.setValue index text).refusal? config = map.refusal? config := by
  funext pair
  rw [← refusal?_flush, setValue, flush_mapValues, refusal?_flush]

/-- Nothing in a supply is refused exactly if the last value for every index is accepted. -/
theorem findSome?_refusal?_eq_none_iff {supply : List (Index × Value)} :
    (Entries.collect supply).findSome? (map.refusal? config) = none ↔
      ∀ placeholder ∈ map.toList, ∀ value,
        Entries.get? placeholder.index supply.reverse = some value →
          placeholder.refusal? config value = none := by
  rw [List.findSome?_eq_none_iff]
  constructor
  · intro h placeholder hmem value hvalue
    have hpair := h _ (Entries.mem_collect_iff.mpr hvalue)
    rwa [refusal?, get?_of_mem hmem] at hpair
  · intro h pair hpair
    unfold refusal?
    cases hget : map.get? pair.1 with
    | none => rfl
    | some placeholder =>
      have hindex := index_of_get?_eq_some hget
      apply h placeholder (List.mem_of_find?_eq_some hget)
      rw [hindex]
      exact Entries.mem_collect_iff.mp hpair

end PlaceholderMap

/-! ## Binding -/

namespace Statement

open PlaceholderMap

variable {supply : List (Index × Value)}

/-- Binding plain values ends with the first one that is refused. -/
theorem bindAll_plain (hplain : ∀ pair ∈ supply, pair.2.Plain) (config : Config)
    (map : PlaceholderMap) (log : CallLog) :
    (bindAll config supply map log).1.1 =
      match supply.findSome? (map.refusal? config) with
      | none => .ok ()
      | some error => .error error := by
  induction supply generalizing map log with
  | nil => rfl
  | cons pair rest ih =>
    obtain ⟨index, value⟩ := pair
    have hvalue : value.Plain := hplain _ List.mem_cons_self
    have hrest : ∀ pair ∈ rest, pair.2.Plain :=
      fun pair hpair => hplain pair (List.mem_cons_of_mem _ hpair)
    rw [bindAll_cons, List.findSome?_cons]
    cases hget : map.get? index with
    | none =>
      have hnone : map.refusal? config (index, value) = none := by rw [refusal?, hget]; rfl
      rw [assign_of_absent hget, hnone]
      exact ih hrest map log
    | some placeholder =>
      have hsame : map.refusal? config (index, value) = placeholder.refusal? config value := by
        rw [refusal?, hget]
        rfl
      rw [assign_of_present hget, Placeholder.assign_plain hvalue, hsame]
      cases placeholder.refusal? config value with
      | none =>
        have hnext := ih hrest (map.setValue index (placeholder.text? config value)) log
        rwa [refusal?_setValue] at hnext
      | some error => rfl

variable {config : Config} {statement : Statement} {log after : CallLog} {bound : PlaceholderMap}

/-- Plain values that are all accepted leave every index with the text of its last value. -/
theorem bound?_bindAll_plain (hplain : ∀ pair ∈ supply, pair.2.Plain)
    (hunbound : statement.placeholders.Unbound)
    (h : bindAll config (Entries.collect supply) statement.placeholders log =
      ((.ok (), bound), after)) :
    bound.bound? = statement.placeholders.text? config supply := by
  funext index
  unfold text?
  cases hget : statement.placeholders.get? index with
  | none =>
    have hflush := flush_bindAll config (Entries.collect supply) statement.placeholders log
    rw [h] at hflush
    have hnone := congrArg (·.get? index) hflush
    simp only [get?_flush, hget, Option.map_none, Option.map_eq_none_iff] at hnone
    rw [bound?, hnone]
    rfl
  | some placeholder =>
    obtain rfl := index_of_get?_eq_some hget
    by_cases hsupplied : placeholder.index ∈ supply.map Prod.fst
    · obtain ⟨value, before, changed, hassigned, hbound⟩ := exists_assigned hget hsupplied h
      have hvalue : value.Plain :=
        hplain _ (List.mem_reverse.mp (Entries.mem_of_get?_eq_some hassigned.last))
      obtain ⟨later, haccepted⟩ := hassigned.accepted
      rw [Placeholder.assign_plain hvalue] at haccepted
      rw [hbound, hassigned.last, ← (Prod.mk.inj (Prod.mk.inj haccepted).1).2]
      rfl
    · have hlast : Entries.get? placeholder.index supply.reverse = none := by
        rwa [Entries.get?_eq_none_iff, List.map_reverse, List.mem_reverse]
      have hkept := bound?_bindAll_of_notMem (mt Entries.mem_keys_collect.mp hsupplied) config
        statement.placeholders log
      rw [h] at hkept
      rw [hkept, bound?, hget, hlast]
      exact hunbound placeholder (List.mem_of_find?_eq_some hget)

/-- How filling a template with plain values ends. -/
theorem fill_plain (hplain : ∀ pair ∈ supply, pair.2.Plain) (config : Config)
    (hunbound : statement.placeholders.Unbound) (log : CallLog) :
    (statement.fill config supply log).1.1 =
      if statement.missing (Entries.collect supply) = [] then
        match (Entries.collect supply).findSome? (statement.placeholders.refusal? config) with
        | none => .ok (Template.render (statement.placeholders.text? config supply)
            statement.segments)
        | some error => .error (.refused error)
      else
        .error (.unboundPlaceholders statement.canonical
          (statement.missing (Entries.collect supply))) := by
  split
  · rename_i hmissing
    have hcollected : ∀ pair ∈ Entries.collect supply, pair.2.Plain :=
      fun pair hpair => hplain pair (Entries.mem_of_mem_collect hpair)
    have hresult := bindAll_plain hcollected config statement.placeholders log
    rcases hbind : bindAll config (Entries.collect supply) statement.placeholders log with
      ⟨⟨result, bound⟩, after⟩
    rw [hbind] at hresult
    cases hrefusal : (Entries.collect supply).findSome?
        (statement.placeholders.refusal? config) with
    | none =>
      rw [hrefusal] at hresult
      obtain rfl : result = .ok () := hresult
      rw [fill_of_bound hmissing hbind, bound?_bindAll_plain hplain hunbound hbind]
    | some error =>
      rw [hrefusal] at hresult
      obtain rfl : result = .error error := hresult
      rw [fill_of_refused hmissing hbind]
  · rename_i hmissing
    rw [fill_of_missing hmissing]

/-- Nothing is missing exactly if all indices that need a value are supplied. -/
theorem missing_eq_nil_iff : statement.missing (Entries.collect supply) = [] ↔
    ∀ placeholder ∈ statement.placeholders.toList, placeholder.conditional = false →
      placeholder.index ∈ supply.map Prod.fst := by
  rw [missing, List.map_eq_nil_iff, List.filter_eq_nil_iff]
  refine forall₂_congr fun placeholder _ => ?_
  rw [← Entries.mem_keys_collect, List.contains_eq_mem]
  simp

end Statement

/-! ## Templates -/

namespace Query

open Template

variable {config : Config} {source : String} {query : Query} {supply : List (Index × Value)}
  {log : CallLog}

/-- The text that a supply leaves bound to an index of a template. -/
def text? (config : Config) (query : Query) (supply : List (Index × Value)) (index : Index) :
    Option String :=
  (query.placeholder? index).bind fun placeholder =>
    (Entries.get? index supply.reverse).bind fun value => placeholder.text? config value

theorem placeholder?_of_mem {placeholder : Placeholder} (hmem : placeholder ∈ query.placeholders) :
    query.placeholder? placeholder.index = some placeholder := by
  cases hstatement : query.statement with
  | none =>
    rw [placeholders, hstatement] at hmem
    cases hmem
  | some statement =>
    rw [placeholders_of_some hstatement] at hmem
    rw [placeholder?, hstatement]
    exact PlaceholderMap.get?_of_mem hmem

/-- A template with markers renders with plain values exactly if every exposed index is supplied
and no value that counts is refused.  The text is that of its pieces with the texts of the
values. -/
theorem render_eq_ok_iff (h : new config source = .ok query)
    (hmarkers : markers (scan config.brackets source) ≠ [])
    (hplain : ∀ pair ∈ supply, pair.2.Plain) {text : String} :
    (query.render supply log).1.1 = .ok text ↔
      (∀ index, Exposed (indexed config.brackets source) index → index ∈ supply.map Prod.fst) ∧
      (∀ placeholder ∈ query.placeholders, ∀ value,
        Entries.get? placeholder.index supply.reverse = some value →
          placeholder.refusal? config value = none) ∧
      text = Template.render (query.text? config supply)
        (segments config.brackets (indexed config.brackets source)) := by
  obtain ⟨hconfig, statement, hstatement, _, hsegments⟩ := new_eq_some h hmarkers
  have hunbound : statement.placeholders.Unbound := by
    obtain ⟨hparse, _⟩ := new_eq_ok h
    rw [hstatement] at hparse
    exact Statement.unbound_of_parse hparse
  have htext : query.text? config supply = statement.placeholders.text? config supply := by
    funext index
    rw [text?, placeholder?, hstatement]
    rfl
  have hmissing : statement.missing (Entries.collect supply) = [] ↔
      ∀ index, Exposed (indexed config.brackets source) index → index ∈ supply.map Prod.fst := by
    constructor
    · intro hnil index hexposed
      by_contra habsent
      have hmem := (mem_missing_iff h hstatement).mpr
        ⟨hexposed, mt Entries.mem_keys_collect.mp habsent⟩
      rw [hnil] at hmem
      cases hmem
    · intro hsupplied
      rw [List.eq_nil_iff_forall_not_mem]
      intro entry hentry
      obtain ⟨hexposed, habsent⟩ := (mem_missing_iff h hstatement).mp (List.mem_map_of_mem hentry)
      exact habsent (Entries.mem_keys_collect.mpr (hsupplied _ hexposed))
  rw [render_of_some hstatement, Statement.render_apply, hconfig,
    Statement.fill_plain hplain config hunbound, ← hmissing, placeholders_of_some hstatement,
    ← PlaceholderMap.findSome?_refusal?_eq_none_iff, htext, hsegments]
  by_cases hnil : statement.missing (Entries.collect supply) = []
  · rw [if_pos hnil]
    cases (Entries.collect supply).findSome? (statement.placeholders.refusal? config) with
    | none => simp [hnil, eq_comm]
    | some error => simp
  · rw [if_neg hnil]
    simp [hnil]

end Query

/-! ## Calls -/

namespace RenderCall

variable {query : Query} {call : RenderCall} {supply : List (Index × Value)} {log after : CallLog}

theorem run_eq_fill {statement : Statement} (hstatement : query.statement = some statement)
    (hsupply : call.supply query.canonical log = (.ok supply, after)) :
    (call.run query log).1.1 = (statement.fill query.config supply after).1.1 := by
  rw [run_of_supply hsupply, Query.render_of_some hstatement, Statement.render_apply]

theorem Plain.values (h : call.Plain) {canonical : String}
    (hsupply : call.supply canonical log = (.ok supply, after)) :
    ∀ pair ∈ supply, pair.2.Plain := by
  obtain ⟨result, hresult, hvalues⟩ := h.supply canonical
  apply hvalues supply
  have hsame := hresult log
  rw [hsupply] at hsame
  exact (Prod.mk.inj hsame).1.symm

end RenderCall

end SqlTemplate
