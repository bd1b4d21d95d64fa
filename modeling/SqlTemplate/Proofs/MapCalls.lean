import SqlTemplate.Proofs.Outcome

/-!
# Maps as lists of entries

A map of placeholders is a list of entries to which an entry is added only if its index is new.

* `MapOperations` are the ways to change a map, and `MapOperations.run` makes calls of them one
  after another.  `PlaceholderMap.operations` are those of a map, `EntryList.operations` those of
  a list in which every placeholder stands under a key of its own.
* `MapOperations.run_map`: what holds of single calls holds of any number of them.
  `PlaceholderMap.call_entries` says that a call on a map and on its entries goes alike.
* `PlaceholderMap.Reads`: what can be asked of a map is asked of its entries.
* `MapEffect` says what a call answers and how it leaves the map, and `mapEffect_call` that every
  call does so.
* `offered` are the indices that were added since the last clearing, whether they were new or not,
  and `indices_run` says that the indices of a map are those, each where it came first.
* `PlaceholderMap.run_like_entries` puts this together for every map and any calls on it.
-/

namespace SqlTemplate

open PlaceholderMap

/-! ## Calls on maps -/

/-- A call that changes a map. -/
inductive MapCall where
  | add (placeholder : Placeholder)
  | clear
  | flush
  /-- Assigns a value to the placeholder with an index. -/
  | assign (config : Config) (index : Index) (value : Value)
  /-- Assigns a value to the placeholder at a place of the order. -/
  | assignAt (config : Config) (position : Nat) (value : Value)

/-- What a call answers. -/
inductive MapAnswer where
  | done
  /-- Whether the placeholder was added. -/
  | added (new : Bool)
  /-- How the assignment ended, if there was a placeholder to assign to. -/
  | assigned (outcome : Option (Except BindingError Unit))

/-- The ways to change something that holds placeholders. -/
structure MapOperations (σ : Type) where
  empty : σ
  add : Placeholder → σ → Bool × σ
  flush : σ → σ
  assign : Config → Index → Value → σ → StateM CallLog (Option (Except BindingError Unit) × σ)
  assignAt : Config → Nat → Value → σ → StateM CallLog (Option (Except BindingError Unit) × σ)

namespace MapOperations

variable {σ τ : Type}

/-- Adds placeholders one after another. -/
def collect (operations : MapOperations σ) (placeholders : List Placeholder) : σ :=
  placeholders.foldl (fun state placeholder => (operations.add placeholder state).2)
    operations.empty

/-- Makes a call. -/
def call (operations : MapOperations σ) (state : σ) : MapCall → StateM CallLog (MapAnswer × σ)
  | .add placeholder => return Prod.map .added id (operations.add placeholder state)
  | .clear => return (.done, operations.empty)
  | .flush => return (.done, operations.flush state)
  | .assign config index value =>
      Prod.map .assigned id <$> operations.assign config index value state
  | .assignAt config position value =>
      Prod.map .assigned id <$> operations.assignAt config position value state

/-- Makes calls one after another. -/
def run (operations : MapOperations σ) (state : σ) :
    List MapCall → StateM CallLog (List MapAnswer × σ)
  | [] => return ([], state)
  | call :: rest => do
      let (answer, next) ← operations.call state call
      let (answers, last) ← operations.run next rest
      return (answer :: answers, last)

theorem collect_concat (operations : MapOperations σ) (front : List Placeholder)
    (placeholder : Placeholder) :
    operations.collect (front ++ [placeholder]) =
      (operations.add placeholder (operations.collect front)).2 := by
  rw [collect, List.foldl_append]
  rfl

/-- If every call goes alike on what a function relates, any number of calls do. -/
theorem run_map {first : MapOperations σ} {second : MapOperations τ} {related : σ → τ}
    (h : ∀ state call,
      second.call (related state) call = Prod.map id related <$> first.call state call)
    (state : σ) (calls : List MapCall) :
    second.run (related state) calls = Prod.map id related <$> first.run state calls := by
  induction calls generalizing state with
  | nil => rfl
  | cons call rest ih => simp [run, h, ih, map_bind]

end MapOperations

/-! ## Lists of entries -/

/-- Placeholders under their keys. -/
abbrev EntryList :=
  List (Index × Placeholder)

namespace EntryList

/-- Adds an entry at the end unless its key is there. -/
def add (placeholder : Placeholder) (entries : EntryList) : Bool × EntryList :=
  match Entries.get? placeholder.index entries with
  | some _ => (false, entries)
  | none => (true, entries ++ [(placeholder.index, placeholder)])

/-- Drops every bound text. -/
def flush (entries : EntryList) : EntryList :=
  entries.map fun entry => (entry.1, entry.2.flush)

/-- Assigns a value to the placeholder under a key and puts it back. -/
def assign (config : Config) (index : Index) (value : Value) (entries : EntryList) :
    StateM CallLog (Option (Except BindingError Unit) × EntryList) := do
  match Entries.get? index entries with
  | none => return (none, entries)
  | some placeholder =>
      let (outcome, changed) ← placeholder.assign config value
      return (some outcome, Entries.put index changed entries)

/-- Assigns a value to the placeholder at a place and puts it back. -/
def assignAt (config : Config) (position : Nat) (value : Value) (entries : EntryList) :
    StateM CallLog (Option (Except BindingError Unit) × EntryList) := do
  match entries[position]? with
  | none => return (none, entries)
  | some (key, placeholder) =>
      let (outcome, changed) ← placeholder.assign config value
      return (some outcome, entries.set position (key, changed))

/-- The operations on entries. -/
def operations : MapOperations EntryList :=
  ⟨[], add, flush, assign, assignAt⟩

end EntryList

/-! ## The entries of a map -/

/-- An assignment changes the bound text only, and binds none if it fails. -/
theorem Placeholder.assign_eq (config : Config) (value : Value) (placeholder : Placeholder)
    (log : CallLog) :
    ∃ outcome bound after, placeholder.assign config value log =
        ((outcome, { placeholder with value := bound }), after) ∧
      ∀ error, outcome = .error error → bound = none := by
  rcases hcoerce : coerce config placeholder.type value log with ⟨rejected | text, after⟩
  · exact ⟨_, none, after, assign_of_error hcoerce, fun _ _ => rfl⟩
  · exact ⟨.ok (), text, after, assign_of_ok hcoerce, fun _ => nofun⟩

namespace PlaceholderMap

variable {map : PlaceholderMap} {placeholder : Placeholder} {index : Index} {position : Nat}

/-- The operations on maps. -/
def operations : MapOperations PlaceholderMap :=
  ⟨empty, add, flush, assign, assignAt⟩

/-- The placeholders of a map under their own indices. -/
def entries (map : PlaceholderMap) : EntryList :=
  map.toList.map fun placeholder => (placeholder.index, placeholder)

@[simp] theorem keys_entries (map : PlaceholderMap) : map.entries.map Prod.fst = map.indices := by
  simp [entries, indices]

theorem nodup_keys_entries (map : PlaceholderMap) : (map.entries.map Prod.fst).Nodup := by
  rw [keys_entries]
  exact map.distinct

@[simp] theorem values_entries (map : PlaceholderMap) : map.entries.map Prod.snd = map.toList := by
  simp [entries, Function.comp_def]

/-- A placeholder is found in a map as it is found among the entries. -/
@[simp] theorem get?_entries (map : PlaceholderMap) (index : Index) :
    Entries.get? index map.entries = map.get? index := by
  unfold entries get?
  induction map.toList with
  | nil => rfl
  | cons placeholder rest ih =>
    rw [List.map_cons, Entries.get?, ih, List.find?_cons]
    by_cases hindex : placeholder.index = index <;> simp [hindex]

theorem getElem?_entries (h : map.toList[position]? = some placeholder) :
    map.entries[position]? = some (placeholder.index, placeholder) := by
  rw [entries, List.getElem?_map, h]
  rfl

theorem get?_eq_none_iff : map.get? index = none ↔ index ∉ map.indices := by
  rw [← get?_entries, Entries.get?_eq_none_iff, keys_entries]

theorem mem_indices_of_get? (h : map.get? index = some placeholder) : index ∈ map.indices := by
  by_contra hnew
  cases h.symm.trans (get?_eq_none_iff.mpr hnew)

/-! ## Adding -/

theorem add_of_mem (h : placeholder.index ∈ map.indices) : map.add placeholder = (false, map) :=
  dif_pos h

theorem add_of_notMem (h : placeholder.index ∉ map.indices) :
    ∃ next, map.add placeholder = (true, next) ∧ next.toList = map.toList ++ [placeholder] :=
  ⟨_, dif_neg h, rfl⟩

theorem add_entries (placeholder : Placeholder) (map : PlaceholderMap) :
    EntryList.add placeholder map.entries = Prod.map id entries (map.add placeholder) := by
  rw [EntryList.add, get?_entries]
  cases hget : map.get? placeholder.index with
  | none =>
    obtain ⟨next, hadd, hnext⟩ := add_of_notMem (get?_eq_none_iff.mp hget)
    rw [hadd]
    simp [entries, hnext]
  | some same =>
    rw [add_of_mem (mem_indices_of_get? hget)]
    rfl

theorem add_eq_self_iff :
    map.add placeholder = (false, map) ↔ map.contains placeholder.index = true := by
  rw [contains, List.contains_iff_mem]
  refine ⟨fun hadd => ?_, add_of_mem⟩
  by_contra hnew
  obtain ⟨next, hadded, -⟩ := add_of_notMem hnew
  cases hadded.symm.trans hadd

theorem collect_entries (placeholders : List Placeholder) :
    EntryList.operations.collect placeholders = (ofList placeholders).entries := by
  induction placeholders using List.reverseRecOn with
  | nil => rfl
  | append_singleton front placeholder ih =>
    rw [MapOperations.collect_concat, ih, ofList_concat]
    exact congrArg Prod.snd (add_entries placeholder (ofList front))

/-! ## Assigning -/

@[simp] theorem indices_setValue (index : Index) (text : Option String) (map : PlaceholderMap) :
    (map.setValue index text).indices = map.indices := by
  simp [indices, setValue, mapValues, Function.comp_def]

/-- A bound text that is changed is that of one entry. -/
theorem entries_setValue (h : map.get? index = some placeholder) (text : Option String) :
    (map.setValue index text).entries =
      Entries.put index { placeholder with value := text } map.entries := by
  refine Entries.eq_of_get?_eq (nodup_keys_entries _) ?_ fun other => ?_
  · rw [Entries.keys_put, keys_entries, keys_entries, if_pos (mem_indices_of_get? h),
      indices_setValue]
  · rw [Entries.get?_put, get?_entries, get?_entries]
    split
    · rename_i hsame
      rw [← hsame, get?_setValue_self, h]
      rfl
    · rename_i hother
      exact get?_setValue_of_ne (Ne.symm hother) text map

/-- With distinct indices a place is as good as the index that is there. -/
theorem setValueAt_eq (h : map.toList[position]? = some placeholder) (text : Option String) :
    map.setValueAt position text = map.setValue placeholder.index text := by
  have hset : (map.setValueAt position text).toList =
      map.toList.set position { placeholder with value := text } := by
    show map.toList.modify position _ = _
    rw [List.modify_eq_set_getElem?, h]
    rfl
  have hentries : (map.setValueAt position text).entries =
      (map.setValue placeholder.index text).entries := by
    rw [entries_setValue (get?_of_mem (List.mem_of_getElem? h)),
      ← Entries.set_eq_put (nodup_keys_entries map) (getElem?_entries h), entries, hset]
    exact List.map_set
  apply eq_of_toList_eq
  rw [← values_entries, hentries, values_entries]

/-- Assigning at a place is assigning to the index that is there. -/
theorem assignAt_eq_assign (h : map.toList[position]? = some placeholder) (config : Config)
    (value : Value) :
    map.assignAt config position value = map.assign config placeholder.index value := by
  funext log
  rw [assign_of_present (get?_of_mem (List.mem_of_getElem? h)), ← setValueAt_eq h, assignAt, h]
  rfl

theorem assign_entries (config : Config) (index : Index) (value : Value) (map : PlaceholderMap) :
    EntryList.assign config index value map.entries =
      Prod.map id entries <$> map.assign config index value := by
  funext log
  show _ = (Prod.map id entries (map.assign config index value log).1,
    (map.assign config index value log).2)
  rw [EntryList.assign, get?_entries]
  cases hget : map.get? index with
  | none =>
    rw [assign_of_absent hget]
    rfl
  | some placeholder =>
    obtain ⟨outcome, bound, after, hassign, -⟩ := placeholder.assign_eq config value log
    rw [assign_of_present hget, hassign, Prod.map, entries_setValue hget]
    simp [bind, StateT.bind, hassign]
    rfl

theorem assignAt_entries (config : Config) (position : Nat) (value : Value)
    (map : PlaceholderMap) :
    EntryList.assignAt config position value map.entries =
      Prod.map id entries <$> map.assignAt config position value := by
  rw [EntryList.assignAt]
  cases hplace : map.toList[position]? with
  | none =>
    rw [entries, List.getElem?_map, assignAt, hplace]
    rfl
  | some placeholder =>
    have hentry := getElem?_entries hplace
    have hget := get?_of_mem (List.mem_of_getElem? hplace)
    rw [assignAt_eq_assign hplace, ← assign_entries, EntryList.assign, get?_entries, hget, hentry]
    simp only [Entries.set_eq_put (nodup_keys_entries map) hentry]

/-! ## Calls on a map and on its entries -/

theorem flush_entries (map : PlaceholderMap) : EntryList.flush map.entries = map.flush.entries := by
  simp [EntryList.flush, entries, PlaceholderMap.flush, mapValues, Placeholder.flush]

/-- A call on a map and on its entries goes alike. -/
theorem call_entries (map : PlaceholderMap) (call : MapCall) :
    EntryList.operations.call map.entries call =
      Prod.map id entries <$> operations.call map call := by
  cases call with
  | add placeholder =>
    show pure (Prod.map _ id (EntryList.add placeholder map.entries)) = _
    rw [add_entries]
    rfl
  | clear => rfl
  | flush =>
    show pure (MapAnswer.done, EntryList.flush map.entries) = _
    rw [flush_entries]
    rfl
  | assign config index value =>
    show _ <$> EntryList.assign config index value map.entries = _
    rw [assign_entries]
    rfl
  | assignAt config position value =>
    show _ <$> EntryList.assignAt config position value map.entries = _
    rw [assignAt_entries]
    rfl

/-! ## Asking -/

/-- The placeholders of a map whose indices are among some. -/
structure Selects (map : PlaceholderMap) (keys : List Index) (selected : List Placeholder) :
    Prop where
  /-- They are in the order of the map. -/
  sublist : selected.Sublist map.toList
  /-- None of them comes twice. -/
  distinct : (selected.map Placeholder.index).Nodup
  mem : ∀ placeholder, placeholder ∈ selected ↔
    placeholder ∈ map.toList ∧ placeholder.index ∈ keys

/-- What can be asked of a map is asked of its entries. -/
structure Reads (map : PlaceholderMap) (entries : EntryList) : Prop where
  /-- Every placeholder is under its own index. -/
  own : ∀ entry ∈ entries, entry.1 = entry.2.index
  distinct : (entries.map Prod.fst).Nodup
  size : map.size = entries.length
  isEmpty : map.isEmpty = entries.isEmpty
  contains : ∀ index, map.contains index = true ↔ index ∈ entries.map Prod.fst
  get : ∀ index, map.get? index = Entries.get? index entries
  indices : map.indices = entries.map Prod.fst
  toList : map.toList = entries.map Prod.snd
  select : ∀ keys, map.Selects keys (map.select keys)
  /-- The order of the indices to select, and how often they are named, does not matter. -/
  select_congr : ∀ keys others, (∀ index, index ∈ keys ↔ index ∈ others) →
    map.select keys = map.select others

theorem selects_select (map : PlaceholderMap) (keys : List Index) :
    map.Selects keys (map.select keys) where
  sublist := List.filter_sublist
  distinct := map.distinct.sublist (List.filter_sublist.map _)
  mem placeholder := by simp [PlaceholderMap.select]

theorem reads_entries (map : PlaceholderMap) : map.Reads map.entries where
  own entry hmem := by
    obtain ⟨placeholder, -, rfl⟩ := List.mem_map.mp hmem
    rfl
  distinct := map.nodup_keys_entries
  size := by simp [PlaceholderMap.size, entries]
  isEmpty := by simp [PlaceholderMap.isEmpty, entries]
  contains index := by simp [PlaceholderMap.contains]
  get index := (get?_entries map index).symm
  indices := (keys_entries map).symm
  toList := (values_entries map).symm
  select := map.selects_select
  select_congr keys others hsame := by
    simp [PlaceholderMap.select, List.contains_eq_mem, hsame]

end PlaceholderMap

/-! ## What calls change -/

/-- A map differs from another one in the text that is bound to an index, if in anything. -/
structure PlaceholderMap.BindsOnly (index : Index) (bound : Option String)
    (before after : PlaceholderMap) : Prop where
  indices : after.indices = before.indices
  own : after.get? index =
    (before.get? index).map fun placeholder => { placeholder with value := bound }
  others : ∀ other, other ≠ index → after.get? other = before.get? other

/-- What a call on a map answers, and the map that it leaves. -/
inductive MapEffect (map : PlaceholderMap) : MapCall → MapAnswer × PlaceholderMap → Prop where
  | kept {placeholder : Placeholder} (h : placeholder.index ∈ map.indices) :
      MapEffect map (.add placeholder) (.added false, map)
  | added {placeholder : Placeholder} {next : PlaceholderMap}
      (h : placeholder.index ∉ map.indices) (hnext : next.toList = map.toList ++ [placeholder]) :
      MapEffect map (.add placeholder) (.added true, next)
  | cleared {next : PlaceholderMap} (hnext : next.toList = []) :
      MapEffect map .clear (.done, next)
  | flushed {next : PlaceholderMap} (hnext : next.toList = map.toList.map Placeholder.flush)
      (hunbound : next.Unbound) : MapEffect map .flush (.done, next)
  | absent {config : Config} {index : Index} {value : Value} (h : map.get? index = none) :
      MapEffect map (.assign config index value) (.assigned none, map)
  | assigned {config : Config} {index : Index} {value : Value} {placeholder : Placeholder}
      {outcome : Except BindingError Unit} {bound : Option String} {next : PlaceholderMap}
      (h : map.get? index = some placeholder) (hnext : BindsOnly index bound map next)
      (hfailed : ∀ error, outcome = .error error → bound = none) :
      MapEffect map (.assign config index value) (.assigned (some outcome), next)
  | outside {config : Config} {position : Nat} {value : Value}
      (h : map.toList[position]? = none) :
      MapEffect map (.assignAt config position value) (.assigned none, map)
  | assignedAt {config : Config} {position : Nat} {value : Value} {placeholder : Placeholder}
      {outcome : Except BindingError Unit} {bound : Option String} {next : PlaceholderMap}
      (h : map.toList[position]? = some placeholder)
      (hnext : BindsOnly placeholder.index bound map next)
      (hfailed : ∀ error, outcome = .error error → bound = none) :
      MapEffect map (.assignAt config position value) (.assigned (some outcome), next)

theorem PlaceholderMap.bindsOnly_setValue (index : Index) (bound : Option String)
    (map : PlaceholderMap) : BindsOnly index bound map (map.setValue index bound) where
  indices := indices_setValue index bound map
  own := get?_setValue_self index bound map
  others _ hother := get?_setValue_of_ne hother bound map

/-- An assignment that finds a placeholder changes what is bound to it. -/
theorem PlaceholderMap.exists_assigned {map : PlaceholderMap} {index : Index}
    {placeholder : Placeholder} (h : map.get? index = some placeholder) (config : Config)
    (value : Value) (log : CallLog) :
    ∃ outcome bound next after, map.assign config index value log = ((some outcome, next), after) ∧
      BindsOnly index bound map next ∧ ∀ error, outcome = .error error → bound = none := by
  obtain ⟨outcome, bound, after, hassign, hfailed⟩ := placeholder.assign_eq config value log
  refine ⟨outcome, bound, map.setValue index bound, after, ?_, map.bindsOnly_setValue index bound,
    hfailed⟩
  rw [assign_of_present h, hassign]

theorem mapEffect_call (map : PlaceholderMap) (call : MapCall) (log : CallLog) :
    MapEffect map call (PlaceholderMap.operations.call map call log).1 := by
  cases call with
  | add placeholder =>
    show MapEffect map _ (Prod.map .added id (map.add placeholder))
    by_cases hmem : placeholder.index ∈ map.indices
    · rw [add_of_mem hmem]
      exact .kept hmem
    · obtain ⟨next, hadd, hnext⟩ := add_of_notMem hmem
      rw [hadd]
      exact .added hmem hnext
  | clear => exact .cleared rfl
  | flush => exact .flushed rfl map.unbound_flush
  | assign config index value =>
    show MapEffect map _ (Prod.map .assigned id (map.assign config index value log).1)
    cases hget : map.get? index with
    | none =>
      rw [assign_of_absent hget]
      exact .absent hget
    | some placeholder =>
      obtain ⟨outcome, bound, next, after, hassign, hnext, hfailed⟩ :=
        exists_assigned hget config value log
      rw [hassign]
      exact .assigned hget hnext hfailed
  | assignAt config position value =>
    show MapEffect map _ (Prod.map .assigned id (map.assignAt config position value log).1)
    cases hplace : map.toList[position]? with
    | none =>
      rw [PlaceholderMap.assignAt, hplace]
      exact .outside hplace
    | some placeholder =>
      obtain ⟨outcome, bound, next, after, hassign, hnext, hfailed⟩ :=
        exists_assigned (get?_of_mem (List.mem_of_getElem? hplace)) config value log
      rw [assignAt_eq_assign hplace, hassign]
      exact .assignedAt hplace hnext hfailed

/-! ## The order of the entries -/

/-- The indices that were added since the last clearing, before and after a call. -/
def MapCall.offered (before : List Index) : MapCall → List Index
  | .add placeholder => before ++ [placeholder.index]
  | .clear => []
  | .flush | .assign _ _ _ | .assignAt _ _ _ => before

/-- The indices that were added since the last clearing, whether they were new or not. -/
def offered (initial : List Placeholder) (calls : List MapCall) : List Index :=
  calls.foldl MapCall.offered (initial.map Placeholder.index)

/-- The indices of a map are those that were added, each where it came first. -/
theorem MapEffect.indices {map next : PlaceholderMap} {call : MapCall} {answer : MapAnswer}
    {before : List Index} (h : MapEffect map call (answer, next))
    (hmap : map.indices = before.eraseDups) :
    next.indices = (call.offered before).eraseDups := by
  have hmem : ∀ index, index ∈ map.indices ↔ index ∈ before := by
    intro index
    rw [hmap, List.mem_eraseDups]
  cases h with
  | kept hold => rw [MapCall.offered, Entries.eraseDups_concat, if_pos ((hmem _).mp hold), hmap]
  | added hnew hnext =>
    rw [MapCall.offered, Entries.eraseDups_concat, if_neg (mt (hmem _).mpr hnew), ← hmap]
    simp [PlaceholderMap.indices, hnext]
  | cleared hnext => simp [PlaceholderMap.indices, MapCall.offered, hnext]
  | flushed hnext =>
    rw [MapCall.offered, ← hmap]
    simp [PlaceholderMap.indices, hnext, Placeholder.flush, Function.comp_def]
  | absent => exact hmap
  | assigned _ hnext => exact hnext.indices.trans hmap
  | outside => exact hmap
  | assignedAt _ hnext => exact hnext.indices.trans hmap

namespace PlaceholderMap

theorem indices_ofList (placeholders : List Placeholder) :
    (ofList placeholders).indices = (placeholders.map Placeholder.index).eraseDups := by
  induction placeholders using List.reverseRecOn with
  | nil => rfl
  | append_singleton front placeholder ih =>
    rw [ofList_concat, List.map_append]
    exact (mapEffect_call (ofList front) (.add placeholder) []).indices ih

theorem indices_run {map : PlaceholderMap} {before : List Index}
    (h : map.indices = before.eraseDups) (calls : List MapCall) (log : CallLog) :
    (operations.run map calls log).1.2.indices =
      (calls.foldl MapCall.offered before).eraseDups := by
  induction calls generalizing map before log with
  | nil => exact h
  | cons call rest ih => exact ih ((mapEffect_call map call log).indices h) _

/-- After any calls on a map that was made of any placeholders, refused values among them, the
calls have answered and logged what they do on a list of entries, and the map has the entries of
that list.  Its indices are in the order in which they were first added since the last clearing,
and the next call changes no more than it is for. -/
theorem run_like_entries (initial : List Placeholder) (calls : List MapCall) (log : CallLog) :
    let reached := operations.run (ofList initial) calls log
    let listed := EntryList.operations.run (EntryList.operations.collect initial) calls log
    let map := reached.1.2
    listed = ((reached.1.1, map.entries), reached.2) ∧
      map.Reads listed.1.2 ∧
      map.indices = (offered initial calls).eraseDups ∧
      (∀ placeholder, map.add placeholder = (false, map) ↔
        map.contains placeholder.index = true) ∧
      ∀ call after, MapEffect map call (operations.call map call after).1 := by
  intro reached listed map
  have hlisted : listed = ((reached.1.1, map.entries), reached.2) := by
    have hrun := MapOperations.run_map call_entries (ofList initial) calls
    rw [← collect_entries] at hrun
    exact congrFun hrun log
  refine ⟨hlisted, ?_, indices_run (indices_ofList initial) calls log,
    fun _ => add_eq_self_iff, mapEffect_call map⟩
  rw [hlisted]
  exact map.reads_entries

end PlaceholderMap

end SqlTemplate
