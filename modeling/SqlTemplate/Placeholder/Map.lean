import SqlTemplate.Placeholder

/-!
# Maps of placeholders

The placeholders of a template in the order in which they were first seen, no two of them
with the same index.  Adding keeps what is there, and assigning and flushing change bound
texts only, so the indices and their order stay as they are until the map is cleared.
-/

namespace SqlTemplate

/-- Placeholders with distinct indices, in order. -/
structure PlaceholderMap where
  toList : List Placeholder
  distinct : (toList.map Placeholder.index).Nodup

namespace PlaceholderMap

/-! ## Looking up -/

/-- The map without placeholders. -/
def empty : PlaceholderMap :=
  ⟨[], List.nodup_nil⟩

/-- How many placeholders there are. -/
def size (map : PlaceholderMap) : Nat :=
  map.toList.length

/-- Whether there is none. -/
def isEmpty (map : PlaceholderMap) : Bool :=
  map.toList.isEmpty

/-- The indices in order. -/
def indices (map : PlaceholderMap) : List Index :=
  map.toList.map Placeholder.index

/-- Whether there is a placeholder with an index. -/
def contains (map : PlaceholderMap) (index : Index) : Bool :=
  map.indices.contains index

/-- The placeholder with an index. -/
def get? (map : PlaceholderMap) (index : Index) : Option Placeholder :=
  map.toList.find? fun placeholder => placeholder.index = index

/-- The text that is bound to an index. -/
def bound? (map : PlaceholderMap) (index : Index) : Option String :=
  (map.get? index).bind Placeholder.value

/-- The placeholders whose indices are among some, in the order of the map. -/
def select (map : PlaceholderMap) (indices : List Index) : List Placeholder :=
  map.toList.filter fun placeholder => indices.contains placeholder.index

/-! ## Adding -/

/-- Adds a placeholder at the end unless its index is there, and says whether it did. -/
def add (placeholder : Placeholder) (map : PlaceholderMap) : Bool × PlaceholderMap :=
  if h : placeholder.index ∈ map.toList.map Placeholder.index then
    (false, map)
  else
    (true, ⟨map.toList ++ [placeholder], by
      rw [List.map_append, List.nodup_append]
      refine ⟨map.distinct, by simp, ?_⟩
      intro index hindex other hother
      simp only [List.map_cons, List.map_nil, List.mem_singleton] at hother
      subst hother
      intro hsame
      exact h (hsame ▸ hindex)⟩)

/-- The map of some placeholders; of those with one index the first one counts. -/
def ofList (placeholders : List Placeholder) : PlaceholderMap :=
  placeholders.foldl (fun map placeholder => (map.add placeholder).2) empty

theorem toList_add_of_notMem {placeholder : Placeholder} {map : PlaceholderMap}
    (h : placeholder.index ∉ map.toList.map Placeholder.index) :
    (map.add placeholder).2.toList = map.toList ++ [placeholder] := by
  rw [add, dif_neg h]

/-- Placeholders with distinct indices are all kept, in their order. -/
theorem toList_ofList {placeholders : List Placeholder}
    (hdistinct : (placeholders.map Placeholder.index).Nodup) :
    (ofList placeholders).toList = placeholders := by
  have hstep : ∀ (rest : List Placeholder) (map : PlaceholderMap),
      ((map.toList ++ rest).map Placeholder.index).Nodup →
        (rest.foldl (fun map placeholder => (map.add placeholder).2) map).toList =
          map.toList ++ rest := by
    intro rest
    induction rest with
    | nil =>
      intro map _
      simp
    | cons placeholder rest ih =>
      intro map hdistinct
      have hnew : placeholder.index ∉ map.toList.map Placeholder.index := by
        rw [List.map_append, List.map_cons, List.nodup_append] at hdistinct
        exact fun hmem => hdistinct.2.2 _ hmem _ List.mem_cons_self rfl
      have hadd := toList_add_of_notMem hnew
      rw [List.foldl_cons, ih, hadd, List.append_assoc, List.singleton_append]
      rwa [hadd, List.append_assoc, List.singleton_append]
  exact hstep placeholders empty hdistinct

/-! ## Binding -/

/-- Changing a bound text keeps the indices. -/
theorem map_index_modify (value : Option String) (placeholders : List Placeholder)
    (position : Nat) :
    (placeholders.modify position fun placeholder => { placeholder with value := value }).map
      Placeholder.index = placeholders.map Placeholder.index := by
  apply List.ext_getElem?
  intro other
  rw [List.getElem?_map, List.getElem?_map, List.getElem?_modify]
  split <;> cases placeholders[other]? <;> rfl

/-- Replaces every bound text by the one that a function gives. -/
def mapValues (change : Placeholder → Option String) (map : PlaceholderMap) :
    PlaceholderMap :=
  ⟨map.toList.map fun placeholder => { placeholder with value := change placeholder },
    by simpa [List.map_map, Function.comp_def] using map.distinct⟩

/-- Sets the bound text of an index. -/
def setValue (index : Index) (value : Option String) (map : PlaceholderMap) :
    PlaceholderMap :=
  map.mapValues fun placeholder => if placeholder.index = index then value else placeholder.value

/-- Assigns a value to the placeholder with an index, if there is one. -/
def assign (config : Config) (index : Index) (value : Value) (map : PlaceholderMap) :
    StateM CallLog (Option (Except BindingError Unit) × PlaceholderMap) := do
  match map.get? index with
  | none => return (none, map)
  | some placeholder =>
      let (result, changed) ← placeholder.assign config value
      return (some result, map.setValue index changed.value)

/-- Sets the bound text at a place of the order. -/
def setValueAt (position : Nat) (value : Option String) (map : PlaceholderMap) :
    PlaceholderMap :=
  ⟨map.toList.modify position fun placeholder => { placeholder with value := value }, by
    rw [map_index_modify]
    exact map.distinct⟩

/-- Assigns a value to the placeholder at a place of the order, if there is one. -/
def assignAt (config : Config) (position : Nat) (value : Value) (map : PlaceholderMap) :
    StateM CallLog (Option (Except BindingError Unit) × PlaceholderMap) := do
  match map.toList[position]? with
  | none => return (none, map)
  | some placeholder =>
      let (result, changed) ← placeholder.assign config value
      return (some result, map.setValueAt position changed.value)

/-- Drops every bound text. -/
def flush (map : PlaceholderMap) : PlaceholderMap :=
  map.mapValues fun _ => none

end PlaceholderMap

end SqlTemplate
