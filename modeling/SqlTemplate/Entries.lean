/-!
# Ordered entries

A list of entries in which every key occurs once.  The order is part of the data:

* `put` keeps the place of a key that is already there and changes only its value, so a
  collection of pairs lists each key where it came first, with the value that came last;
* `putSorted` keeps a list in ascending order of its keys.
-/

namespace SqlTemplate.Entries

variable {α β : Type}

/-- Sets the value of a key: in its place if the key is there, at the end if it is new. -/
def put [DecidableEq α] (key : α) (value : β) : List (α × β) → List (α × β)
  | [] => [(key, value)]
  | entry :: rest =>
      if entry.1 = key then (key, value) :: rest else entry :: put key value rest

/-- The entries of a list of pairs, each key at its first place with its last value. -/
def collect [DecidableEq α] (pairs : List (α × β)) : List (α × β) :=
  pairs.foldl (fun entries pair => put pair.1 pair.2 entries) []

/-- The value of a key. -/
def get? [DecidableEq α] (key : α) : List (α × β) → Option β
  | [] => none
  | entry :: rest => if entry.1 = key then some entry.2 else get? key rest

/-- What is found under a key is an entry of the list. -/
theorem mem_of_get?_eq_some [DecidableEq α] {key : α} {value : β} {entries : List (α × β)}
    (h : get? key entries = some value) : (key, value) ∈ entries := by
  induction entries with
  | nil => cases h
  | cons entry rest ih =>
      rw [get?] at h
      split at h
      · rename_i hsame
        cases h
        rw [← hsame]
        exact List.mem_cons_self
      · exact List.mem_cons_of_mem _ (ih h)

theorem get?_append [DecidableEq α] (key : α) (entries others : List (α × β)) :
    get? key (entries ++ others) = (get? key entries).or (get? key others) := by
  induction entries with
  | nil => rfl
  | cons entry rest ih =>
      by_cases hsame : entry.1 = key
      · simp [get?, hsame]
      · simp [get?, hsame, ih]

theorem get?_eq_none_iff [DecidableEq α] {key : α} {entries : List (α × β)} :
    get? key entries = none ↔ key ∉ entries.map Prod.fst := by
  induction entries with
  | nil => simp [get?]
  | cons entry rest ih =>
      by_cases hsame : entry.1 = key
      · simp [get?, hsame]
      · have hdifferent : ¬ key = entry.1 := fun hequal => hsame hequal.symm
        simp [get?, hsame, hdifferent, ih]

/-- With distinct keys every entry is found under its key. -/
theorem get?_of_mem [DecidableEq α] {entries : List (α × β)}
    (hdistinct : (entries.map Prod.fst).Nodup) {key : α} {value : β}
    (hmem : (key, value) ∈ entries) : get? key entries = some value := by
  induction entries with
  | nil => cases hmem
  | cons entry rest ih =>
    rw [List.map_cons, List.nodup_cons] at hdistinct
    rcases List.mem_cons.mp hmem with rfl | hrest
    · rw [get?, if_pos rfl]
    · have hkey : entry.1 ≠ key := by
        rintro rfl
        exact hdistinct.1 (List.mem_map.mpr ⟨_, hrest, rfl⟩)
      rw [get?, if_neg hkey]
      exact ih hdistinct.2 hrest

/-- Entries with distinct keys are given by their keys in order and by what is found under them. -/
theorem eq_of_get?_eq [DecidableEq α] {first second : List (α × β)}
    (hdistinct : (first.map Prod.fst).Nodup) (hkeys : first.map Prod.fst = second.map Prod.fst)
    (h : ∀ key, get? key first = get? key second) : first = second := by
  have hfound : ∀ {entries : List (α × β)}, (entries.map Prod.fst).Nodup →
      (entries.map Prod.fst).map (fun key => (key, get? key entries)) =
        entries.map fun entry => (entry.1, some entry.2) := by
    intro entries hdistinct
    rw [List.map_map]
    exact List.map_congr_left fun entry hmem =>
      congrArg (entry.1, ·) (get?_of_mem hdistinct hmem)
  have hsame := hfound hdistinct
  rw [funext fun key => congrArg (key, ·) (h key), hkeys, hfound (hkeys ▸ hdistinct)] at hsame
  refine (List.map_inj_right ?_).mp hsame.symm
  rintro ⟨key, value⟩ ⟨other, same⟩ heq
  cases heq
  rfl

theorem get?_reverse_cons [DecidableEq α] (key : α) (entry : α × β) (rest : List (α × β)) :
    get? key (entry :: rest).reverse =
      (get? key rest.reverse).or (if entry.1 = key then some entry.2 else none) := by
  rw [List.reverse_cons, get?_append]
  rfl

/-- From the end, the first value found is that of the last entry with the key. -/
theorem get?_reverse_append_cons [DecidableEq α] {key : α} (value : β) (front : List (α × β))
    {back : List (α × β)} (hlast : ∀ entry ∈ back, entry.1 ≠ key) :
    get? key (front ++ (key, value) :: back).reverse = some value := by
  have habsent : get? key back.reverse = none := by
    rw [get?_eq_none_iff, List.map_reverse, List.mem_reverse, List.mem_map]
    rintro ⟨entry, hmem, hsame⟩
    exact hlast entry hmem hsame
  rw [List.reverse_append, List.reverse_cons, List.append_assoc, get?_append, habsent,
    Option.none_or, List.singleton_append, get?, if_pos rfl]

/-- With distinct keys it does not matter from which end a list is searched. -/
theorem get?_reverse [DecidableEq α] {entries : List (α × β)}
    (hdistinct : (entries.map Prod.fst).Nodup) (key : α) :
    get? key entries.reverse = get? key entries := by
  cases hget : get? key entries with
  | none => rwa [get?_eq_none_iff, List.map_reverse, List.mem_reverse, ← get?_eq_none_iff]
  | some value =>
    apply get?_of_mem
    · rwa [List.map_reverse, (List.reverse_perm _).nodup_iff]
    · exact List.mem_reverse.mpr (mem_of_get?_eq_some hget)

/-- Keys that are renamed apart are found under their new names. -/
theorem get?_map_key {γ : Type} [DecidableEq α] [DecidableEq γ] {rename : α → γ}
    (hrename : Function.Injective rename) (key : α) (entries : List (α × β)) :
    get? (rename key) (entries.map fun entry => (rename entry.1, entry.2)) = get? key entries := by
  induction entries with
  | nil => rfl
  | cons entry rest ih =>
    rw [List.map_cons, get?, get?, ih]
    by_cases hsame : entry.1 = key
    · rw [if_pos hsame, if_pos (congrArg rename hsame)]
    · rw [if_neg hsame, if_neg fun hequal => hsame (hrename hequal)]

theorem get?_map_value {γ : Type} [DecidableEq α] (change : β → γ) (key : α)
    (entries : List (α × β)) :
    get? key (entries.map fun entry => (entry.1, change entry.2)) =
      (get? key entries).map change := by
  induction entries with
  | nil => rfl
  | cons entry rest ih =>
    rw [List.map_cons, get?, get?, ih]
    split <;> rfl

/-- Setting a value changes what is found under its key and nothing else. -/
theorem get?_put [DecidableEq α] (key other : α) (value : β) (entries : List (α × β)) :
    get? other (put key value entries) =
      if key = other then some value else get? other entries := by
  induction entries with
  | nil => simp [put, get?]
  | cons entry rest ih =>
      by_cases hsame : entry.1 = key
      · by_cases hfound : key = other <;> simp [put, get?, hsame, hfound]
      · simp only [put, hsame, if_false, get?, ih]
        by_cases hfound : entry.1 = other
        · have hdifferent : ¬ key = other := fun hequal => hsame (hfound.trans hequal.symm)
          simp [hfound, hdifferent]
        · simp [hfound]

/-- Setting a value adds its key at the end unless the key is there. -/
theorem keys_put [DecidableEq α] (key : α) (value : β) (entries : List (α × β)) :
    (put key value entries).map Prod.fst =
      if key ∈ entries.map Prod.fst then entries.map Prod.fst
      else entries.map Prod.fst ++ [key] := by
  induction entries with
  | nil => simp [put]
  | cons entry rest ih =>
      by_cases hsame : entry.1 = key
      · simp [put, hsame]
      · have hdifferent : ¬ key = entry.1 := fun hequal => hsame hequal.symm
        simp only [put, hsame, if_false, List.map_cons, ih, List.mem_cons, hdifferent, false_or]
        split <;> rfl

theorem put_of_notMem [DecidableEq α] {key : α} {entries : List (α × β)}
    (habsent : key ∉ entries.map Prod.fst) (value : β) :
    put key value entries = entries ++ [(key, value)] := by
  induction entries with
  | nil => rfl
  | cons entry rest ih =>
    rw [List.map_cons, List.mem_cons, not_or] at habsent
    rw [put, if_neg (Ne.symm habsent.1), ih habsent.2, List.cons_append]

/-- Setting the value at a place is setting the value of the key that is there. -/
theorem set_eq_put [DecidableEq α] {entries : List (α × β)}
    (hdistinct : (entries.map Prod.fst).Nodup) {position : Nat} {key : α} {old : β}
    (h : entries[position]? = some (key, old)) (value : β) :
    entries.set position (key, value) = put key value entries := by
  induction entries generalizing position with
  | nil => cases h
  | cons entry rest ih =>
    rw [List.map_cons, List.nodup_cons] at hdistinct
    cases position with
    | zero =>
      cases h
      rw [put, if_pos rfl, List.set_cons_zero]
    | succ position =>
      have hmem : (key, old) ∈ rest := List.mem_of_getElem? h
      have hne : entry.1 ≠ key := by
        rintro rfl
        exact hdistinct.1 (List.mem_map.mpr ⟨_, hmem, rfl⟩)
      rw [put, if_neg hne, List.set_cons_succ, ih hdistinct.2 h]

theorem nodup_keys_put [DecidableEq α] (key : α) (value : β) {entries : List (α × β)}
    (hdistinct : (entries.map Prod.fst).Nodup) :
    ((put key value entries).map Prod.fst).Nodup := by
  rw [keys_put]
  split
  · exact hdistinct
  · rename_i habsent
    rw [List.nodup_append]
    refine ⟨hdistinct, by simp, fun a ha b hb hsame => habsent ?_⟩
    rwa [← List.mem_singleton.mp hb, ← hsame]

/-- What is in the list afterwards was set or was there. -/
theorem eq_or_mem_of_mem_put [DecidableEq α] {key : α} {value : β} {entries : List (α × β)}
    {entry : α × β} (hmem : entry ∈ put key value entries) :
    entry = (key, value) ∨ entry ∈ entries := by
  induction entries with
  | nil => simpa [put] using hmem
  | cons first rest ih =>
      by_cases hsame : first.1 = key
      · simp only [put, hsame, if_true, List.mem_cons] at hmem
        exact hmem.imp_right (List.mem_cons_of_mem _)
      · simp only [put, hsame, if_false, List.mem_cons] at hmem
        rcases hmem with rfl | hrest
        · exact Or.inr List.mem_cons_self
        · exact (ih hrest).imp_right (List.mem_cons_of_mem _)

/-- A collection of pairs has only pairs that were collected. -/
theorem mem_of_mem_collect [DecidableEq α] {pairs : List (α × β)} {pair : α × β}
    (hmem : pair ∈ collect pairs) : pair ∈ pairs := by
  have hfold : ∀ (rest : List (α × β)) (entries : List (α × β)),
      pair ∈ rest.foldl (fun entries pair => put pair.1 pair.2 entries) entries →
        pair ∈ entries ∨ pair ∈ rest := by
    intro rest
    induction rest with
    | nil => exact fun _ hentries => Or.inl hentries
    | cons first rest ih =>
        intro entries hentries
        rcases ih _ hentries with hput | hrest
        · rcases eq_or_mem_of_mem_put hput with rfl | hold
          · exact Or.inr List.mem_cons_self
          · exact Or.inl hold
        · exact Or.inr (List.mem_cons_of_mem _ hrest)
  simpa using hfold pairs [] hmem

/-- What is found after pairs are set one after the other, each of them changing what is found
under its own key only. -/
theorem get?_foldl [DecidableEq α] {set : α → β → List (α × β) → List (α × β)}
    (hset : ∀ key other value entries,
      get? other (set key value entries) = if key = other then some value else get? other entries)
    (key : α) (pairs entries : List (α × β)) :
    get? key (pairs.foldl (fun entries pair => set pair.1 pair.2 entries) entries) =
      (get? key pairs.reverse).or (get? key entries) := by
  induction pairs generalizing entries with
  | nil => rfl
  | cons pair rest ih =>
    rw [List.foldl_cons, ih, hset, List.reverse_cons, get?_append, Option.or_assoc]
    by_cases hsame : pair.1 = key
    · simp [get?, hsame]
    · simp [get?, hsame]

/-- A collection of pairs has the last value of every key. -/
theorem get?_collect [DecidableEq α] (key : α) (pairs : List (α × β)) :
    get? key (collect pairs) = get? key pairs.reverse := by
  rw [collect, get?_foldl get?_put]
  exact Option.or_none

theorem mem_keys_collect [DecidableEq α] {key : α} {pairs : List (α × β)} :
    key ∈ (collect pairs).map Prod.fst ↔ key ∈ pairs.map Prod.fst := by
  rw [← Decidable.not_iff_not, ← get?_eq_none_iff, get?_collect, get?_eq_none_iff, List.map_reverse,
    List.mem_reverse]

/-- A collection of pairs has every key once. -/
theorem nodup_keys_collect [DecidableEq α] (pairs : List (α × β)) :
    ((collect pairs).map Prod.fst).Nodup := by
  have hstep : ∀ entries : List (α × β), (entries.map Prod.fst).Nodup →
      ((pairs.foldl (fun entries pair => put pair.1 pair.2 entries) entries).map
        Prod.fst).Nodup := by
    induction pairs with
    | nil => exact fun _ hdistinct => hdistinct
    | cons pair rest ih => exact fun _ hdistinct => ih _ (nodup_keys_put _ _ hdistinct)
  exact hstep [] List.nodup_nil

/-- Pairs with distinct keys are a collection already. -/
theorem collect_eq_self [DecidableEq α] {pairs : List (α × β)}
    (hdistinct : (pairs.map Prod.fst).Nodup) : collect pairs = pairs := by
  have hstep : ∀ rest entries : List (α × β), ((entries ++ rest).map Prod.fst).Nodup →
      rest.foldl (fun entries pair => put pair.1 pair.2 entries) entries = entries ++ rest := by
    intro rest
    induction rest with
    | nil => exact fun entries _ => (List.append_nil entries).symm
    | cons pair rest ih =>
      intro entries hdistinct
      have hnew : pair.1 ∉ entries.map Prod.fst := by
        rw [List.map_append, List.map_cons, List.nodup_append] at hdistinct
        exact fun hmem => hdistinct.2.2 _ hmem _ List.mem_cons_self rfl
      rw [List.foldl_cons, put_of_notMem hnew, ih, List.append_assoc, List.singleton_append]
      rwa [List.append_assoc, List.singleton_append]
  exact hstep pairs [] hdistinct

/-! ## Ascending entries -/

/-- Sets the value of a key in a list that ascends by its keys. -/
def putSorted (key : String) (value : β) : List (String × β) → List (String × β)
  | [] => [(key, value)]
  | entry :: rest =>
      if key < entry.1 then (key, value) :: entry :: rest
      else if key = entry.1 then (key, value) :: rest
      else entry :: putSorted key value rest

/-- The entries of a list of pairs in ascending order of the keys, each with its last
value. -/
def collectSorted (pairs : List (String × β)) : List (String × β) :=
  pairs.foldl (fun entries pair => putSorted pair.1 pair.2 entries) []

/-- Setting a value in ascending entries changes what is found under its key and nothing else. -/
theorem get?_putSorted (key other : String) (value : β) (entries : List (String × β)) :
    get? other (putSorted key value entries) =
      if key = other then some value else get? other entries := by
  induction entries with
  | nil => rfl
  | cons entry rest ih =>
    rw [putSorted]
    split
    · rfl
    · split
      · rename_i hsame
        by_cases hfound : key = other
        · rw [get?, if_pos hfound, if_pos hfound]
        · rw [get?, if_neg hfound, if_neg hfound, get?, if_neg (hsame ▸ hfound)]
      · rename_i hother
        rw [get?, ih, get?]
        by_cases hfound : entry.1 = other
        · rw [if_pos hfound, if_pos hfound, if_neg fun hsame => hother (hsame.trans hfound.symm)]
        · rw [if_neg hfound, if_neg hfound]

theorem mem_keys_putSorted (key : String) (value : β) {entries : List (String × β)}
    {other : String} :
    other ∈ (putSorted key value entries).map Prod.fst ↔
      other = key ∨ other ∈ entries.map Prod.fst := by
  rw [← Decidable.not_iff_not, ← get?_eq_none_iff, get?_putSorted, not_or, ← get?_eq_none_iff]
  by_cases hsame : key = other
  · simp [hsame]
  · simp [hsame, Ne.symm hsame]

/-- Setting a value keeps the keys ascending. -/
theorem pairwise_putSorted (key : String) (value : β) {entries : List (String × β)}
    (h : (entries.map Prod.fst).Pairwise (· < ·)) :
    ((putSorted key value entries).map Prod.fst).Pairwise (· < ·) := by
  induction entries with
  | nil => exact List.pairwise_singleton _ _
  | cons entry rest ih =>
    have hcons := h
    rw [List.map_cons, List.pairwise_cons] at hcons
    obtain ⟨hfirst, hrest⟩ := hcons
    rw [putSorted]
    split
    · rename_i hbelow
      rw [List.map_cons, List.pairwise_cons]
      refine ⟨List.forall_mem_cons.mpr ⟨hbelow, fun other hother => ?_⟩, h⟩
      exact String.lt_trans hbelow (hfirst other hother)
    · split
      · rename_i hsame
        rw [List.map_cons, List.pairwise_cons]
        exact ⟨hsame ▸ hfirst, hrest⟩
      · rename_i hbelow hother
        rw [List.map_cons, List.pairwise_cons]
        refine ⟨fun other hmem => ?_, ih hrest⟩
        rcases (mem_keys_putSorted key value).mp hmem with rfl | hmem
        · exact Std.lt_of_le_of_ne (String.not_lt.mp hbelow) (Ne.symm hother)
        · exact hfirst other hmem

/-- The collected keys ascend. -/
theorem pairwise_collectSorted (pairs : List (String × β)) :
    ((collectSorted pairs).map Prod.fst).Pairwise (· < ·) := by
  have hstep : ∀ entries : List (String × β), (entries.map Prod.fst).Pairwise (· < ·) →
      ((pairs.foldl (fun entries pair => putSorted pair.1 pair.2 entries) entries).map
        Prod.fst).Pairwise (· < ·) := by
    induction pairs with
    | nil => exact fun _ hascending => hascending
    | cons pair rest ih => exact fun _ hascending => ih _ (pairwise_putSorted _ _ hascending)
  exact hstep [] List.Pairwise.nil

theorem putSorted_of_forall_lt {key : String} (value : β) {entries : List (String × β)}
    (h : ∀ other ∈ entries.map Prod.fst, other < key) :
    putSorted key value entries = entries ++ [(key, value)] := by
  induction entries with
  | nil => rfl
  | cons entry rest ih =>
    rw [List.map_cons, List.forall_mem_cons] at h
    obtain ⟨hfirst, hrest⟩ := h
    have hother : key ≠ entry.1 := fun hsame => String.lt_irrefl _ (hsame ▸ hfirst)
    rw [putSorted, if_neg (String.lt_asymm hfirst), if_neg hother, ih hrest, List.cons_append]

/-- Ascending pairs are collected already. -/
theorem collectSorted_eq_self {pairs : List (String × β)}
    (hascending : (pairs.map Prod.fst).Pairwise (· < ·)) : collectSorted pairs = pairs := by
  have hstep : ∀ rest entries : List (String × β),
      ((entries ++ rest).map Prod.fst).Pairwise (· < ·) →
      rest.foldl (fun entries pair => putSorted pair.1 pair.2 entries) entries =
        entries ++ rest := by
    intro rest
    induction rest with
    | nil => exact fun entries _ => (List.append_nil entries).symm
    | cons pair rest ih =>
      intro entries hascending
      have hbelow : ∀ other ∈ entries.map Prod.fst, other < pair.1 := by
        rw [List.map_append, List.map_cons, List.pairwise_append] at hascending
        exact fun other hmem => hascending.2.2 other hmem _ List.mem_cons_self
      rw [List.foldl_cons, putSorted_of_forall_lt _ hbelow, ih, List.append_assoc,
        List.singleton_append]
      rwa [List.append_assoc, List.singleton_append]
  exact hstep pairs [] hascending

/-- They have the last value of every key. -/
theorem get?_collectSorted (key : String) (pairs : List (String × β)) :
    get? key (collectSorted pairs) = get? key pairs.reverse := by
  rw [collectSorted, get?_foldl get?_putSorted]
  exact Option.or_none

theorem mem_keys_collectSorted {key : String} {pairs : List (String × β)} :
    key ∈ (collectSorted pairs).map Prod.fst ↔ key ∈ pairs.map Prod.fst := by
  rw [← Decidable.not_iff_not, ← get?_eq_none_iff, get?_collectSorted, get?_eq_none_iff,
    List.map_reverse, List.mem_reverse]

end SqlTemplate.Entries
