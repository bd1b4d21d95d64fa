import Mathlib.Data.List.Induction
import SqlTemplate.Proofs.Parsing
import SqlTemplate.Proofs.Rendering

/-!
# What binding leaves as it was

Binding writes texts into a map of placeholders, and `flush` takes them out again.  This
file shows that nothing else about the map ever changes.

* `PlaceholderMap.Unbound` says that no placeholder holds a text, which is the state
  between two renderings.
* `flush_assign` and `flush_bindAll`: a map on which values were bound, as many as the
  first refusal let through, has the same flushed map as before.
* `flush_eq_self` and `render_eq_self`: a map without texts is its own flushed map, so a
  rendering gives back the statement it was given, whether it succeeds or fails.
-/

namespace SqlTemplate

namespace PlaceholderMap

/-- Two maps with the same placeholders in the same order are equal. -/
theorem eq_of_toList_eq {first second : PlaceholderMap} (h : first.toList = second.toList) :
    first = second := by
  cases first
  cases second
  simpa using h

/-- No placeholder holds a text. -/
def Unbound (map : PlaceholderMap) : Prop :=
  ∀ placeholder ∈ map.toList, placeholder.value = none

/-! ## Flushing -/

theorem unbound_flush (map : PlaceholderMap) : map.flush.Unbound := by
  intro placeholder hmem
  simp only [flush, mapValues, List.mem_map] at hmem
  obtain ⟨_, _, rfl⟩ := hmem
  rfl

/-- A map without texts is its own flushed map. -/
theorem flush_eq_self {map : PlaceholderMap} (hmap : map.Unbound) : map.flush = map := by
  apply eq_of_toList_eq
  refine (List.map_congr_left fun placeholder hmem => ?_).trans (List.map_id _)
  have hvalue := hmap placeholder hmem
  cases placeholder
  simp_all

/-- Flushing forgets whatever texts were there. -/
theorem flush_mapValues (change : Placeholder → Option String) (map : PlaceholderMap) :
    (map.mapValues change).flush = map.flush := by
  apply eq_of_toList_eq
  simp [flush, mapValues]

theorem flush_assign (config : Config) (index : Index) (value : Value) (map : PlaceholderMap)
    (log : CallLog) : (map.assign config index value log).1.2.flush = map.flush := by
  cases hget : map.get? index with
  | none => rw [assign_of_absent hget]
  | some placeholder =>
    rw [assign_of_present hget]
    exact flush_mapValues _ _

/-! ## Reading a template -/

theorem mem_add {placeholder other : Placeholder} {map : PlaceholderMap}
    (hmem : other ∈ (map.add placeholder).2.toList) :
    other ∈ map.toList ∨ other = placeholder := by
  unfold add at hmem
  split at hmem
  · exact Or.inl hmem
  · simpa using hmem

theorem ofList_concat (front : List Placeholder) (placeholder : Placeholder) :
    ofList (front ++ [placeholder]) = ((ofList front).add placeholder).2 := by
  rw [ofList, List.foldl_append]
  rfl

/-- A map holds only placeholders that were put into it. -/
theorem mem_of_mem_ofList {placeholders : List Placeholder} {placeholder : Placeholder}
    (hmem : placeholder ∈ (ofList placeholders).toList) : placeholder ∈ placeholders := by
  induction placeholders using List.reverseRecOn with
  | nil => cases hmem
  | append_singleton front next ih =>
    rw [ofList_concat] at hmem
    rcases mem_add hmem with hold | rfl
    · exact List.mem_append_left _ (ih hold)
    · exact List.mem_append_right _ List.mem_cons_self

end PlaceholderMap

namespace Statement

open PlaceholderMap

/-- The placeholders of a template that was just read hold no texts. -/
theorem unbound_of_parse {brackets : Brackets} {source : String} {statement : Statement}
    (h : parse brackets source = .ok (some statement)) : statement.placeholders.Unbound := by
  rcases parse_eq_ok h with ⟨_, hnone⟩ | ⟨_, declarations, _, hsome⟩
  · cases hnone
  · cases hsome
    intro placeholder hmem
    obtain ⟨_, _, rfl⟩ := List.mem_map.mp (mem_of_mem_ofList hmem)
    rfl

/-! ## Binding and rendering -/

theorem flush_bindAll (config : Config) (supply : List (Index × Value))
    (map : PlaceholderMap) (log : CallLog) :
    (bindAll config supply map log).1.2.flush = map.flush := by
  induction supply generalizing map log with
  | nil => rfl
  | cons pair rest ih =>
    obtain ⟨index, value⟩ := pair
    have hstep := flush_assign config index value map log
    rw [bindAll_cons]
    rcases hassign : map.assign config index value log with ⟨⟨result, bound⟩, after⟩
    rw [hassign] at hstep
    rcases result with _ | _ | _
    · exact (ih bound after).trans hstep
    · exact hstep
    · exact (ih bound after).trans hstep

theorem flush_fill (config : Config) (supply : List (Index × Value)) (statement : Statement)
    (log : CallLog) :
    (statement.fill config supply log).1.2.flush = statement.placeholders.flush := by
  by_cases hmissing : statement.missing (Entries.collect supply) = []
  · have hbind := flush_bindAll config (Entries.collect supply) statement.placeholders log
    rcases hrun : bindAll config (Entries.collect supply) statement.placeholders log with
      ⟨⟨_ | _, bound⟩, after⟩
    · rw [fill_of_refused hmissing hrun]
      rwa [hrun] at hbind
    · rw [fill_of_bound hmissing hrun]
      rwa [hrun] at hbind
  · rw [fill_of_missing hmissing]

/-- A rendering gives back the statement it was given. -/
theorem render_eq_self {statement : Statement} (hunbound : statement.placeholders.Unbound)
    (config : Config) (supply : List (Index × Value)) (log : CallLog) :
    (statement.render config supply log).1.2 = statement := by
  rw [render_apply, flush_fill, flush_eq_self hunbound]

end Statement

end SqlTemplate
