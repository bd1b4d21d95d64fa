import Mathlib.Data.List.Forall2
import SqlTemplate.Proofs.Fault

/-!
# What markers declare

Which templates can be read, which placeholders they have, and what is wrong with the
others.

* `InFirstSeenOrder` is the order in which indices first occur, and
  `inFirstSeenOrder_eraseDups` says that leaving out repetitions keeps it.
* `forall₂_of_mapM_eq_ok` and `exists_of_mapM_eq_error` are the two outcomes of steps that
  may fail.
* `of_declarations_eq_ok` and `of_declarations_eq_error` add the pass over the references
  to the one over the typed markers.
* `Consistent` says that nothing is wrong with any marker.
* `Query.placeholders_of_new` and `Query.new_judgement` bring this to whole templates.
-/

namespace SqlTemplate

namespace Template

/-! ## First occurrences -/

/-- The indices stand in the order in which they first occur among others, each once. -/
def InFirstSeenOrder (occurring order : List Index) : Prop :=
  order.Pairwise fun s t => occurring.idxOf s < occurring.idxOf t

theorem idxOf_lt_of_filter {occurring : List Index} {keep : Index → Bool} {s t : Index}
    (hs : keep s = true) (ht : keep t = true)
    (h : (occurring.filter keep).idxOf s < (occurring.filter keep).idxOf t) :
    occurring.idxOf s < occurring.idxOf t := by
  induction occurring with
  | nil => simp at h
  | cons index rest ih =>
    by_cases hkeep : keep index = true
    · rw [List.filter_cons_of_pos hkeep] at h
      by_cases hsame : index = s
      · subst hsame
        rw [List.idxOf_cons_self] at h ⊢
        by_cases hother : index = t
        · subst hother
          simp at h
        · rw [List.idxOf_cons_ne _ hother]
          omega
      · by_cases hother : index = t
        · subst hother
          simp at h
        · rw [List.idxOf_cons_ne _ hsame, List.idxOf_cons_ne _ hother] at h ⊢
          have := ih (by omega)
          omega
    · rw [List.filter_cons_of_neg hkeep] at h
      have hsame : index ≠ s := by
        rintro rfl
        exact hkeep hs
      have hother : index ≠ t := by
        rintro rfl
        exact hkeep ht
      rw [List.idxOf_cons_ne _ hsame, List.idxOf_cons_ne _ hother]
      have := ih h
      omega

/-- Leaving out repetitions keeps the order of first occurrences. -/
theorem inFirstSeenOrder_eraseDups (occurring : List Index) :
    InFirstSeenOrder occurring occurring.eraseDups := by
  induction hlength : occurring.length using Nat.strongRecOn generalizing occurring with
  | ind n ih =>
    cases occurring with
    | nil => exact List.Pairwise.nil
    | cons index rest =>
      have hshorter : (rest.filter fun other => !other == index).length < n := by
        have := List.length_filter_le (fun other => !other == index) rest
        rw [List.length_cons] at hlength
        omega
      rw [List.eraseDups_cons]
      refine List.Pairwise.cons (fun t ht => ?_) ?_
      · have hne : index ≠ t := by
          rintro rfl
          simpa using (List.mem_filter.mp (List.mem_eraseDups.mp ht)).2
        rw [List.idxOf_cons_self, List.idxOf_cons_ne _ hne]
        omega
      · refine (ih _ hshorter _ rfl).imp_of_mem fun {s t} hs ht hlt => ?_
        have hskeep := (List.mem_filter.mp (List.mem_eraseDups.mp hs)).2
        have htkeep := (List.mem_filter.mp (List.mem_eraseDups.mp ht)).2
        have hrest := idxOf_lt_of_filter hskeep htkeep hlt
        have hsne : index ≠ s := by
          rintro rfl
          simp at hskeep
        have htne : index ≠ t := by
          rintro rfl
          simp at htkeep
        rw [List.idxOf_cons_ne _ hsne, List.idxOf_cons_ne _ htne]
        omega

theorem InFirstSeenOrder.nodup {occurring order : List Index}
    (h : InFirstSeenOrder occurring order) : order.Nodup := by
  refine h.imp fun {s t} hlt hsame => ?_
  rw [hsame] at hlt
  omega

/-! ## Steps that may fail -/

section Steps

variable {α β ε : Type} {step : α → Except ε β} {items : List α}

theorem forall₂_of_mapM_eq_ok {results : List β} (h : items.mapM step = .ok results) :
    List.Forall₂ (fun item result => step item = .ok result) items results := by
  induction items generalizing results with
  | nil =>
    cases h
    exact .nil
  | cons item rest ih =>
    rw [List.mapM_cons] at h
    cases hitem : step item with
    | error error =>
      rw [hitem] at h
      cases h
    | ok result =>
      cases hrest : rest.mapM step with
      | error error =>
        rw [hitem, hrest] at h
        cases h
      | ok others =>
        rw [hitem, hrest] at h
        cases h
        exact .cons hitem (ih hrest)

/-- The first step that fails decides the error. -/
theorem exists_of_mapM_eq_error {error : ε} (h : items.mapM step = .error error) :
    ∃ front item back, items = front ++ item :: back ∧
      (∀ other ∈ front, ∃ result, step other = .ok result) ∧ step item = .error error := by
  induction items with
  | nil => cases h
  | cons item rest ih =>
    rw [List.mapM_cons] at h
    cases hitem : step item with
    | error other =>
      rw [hitem] at h
      cases h
      exact ⟨[], item, rest, rfl, nofun, hitem⟩
    | ok result =>
      cases hrest : rest.mapM step with
      | ok others =>
        rw [hitem, hrest] at h
        cases h
      | error other =>
        rw [hitem, hrest] at h
        cases h
        obtain ⟨front, failing, back, rfl, hfront, hfailing⟩ := ih hrest
        refine ⟨item :: front, failing, back, rfl, ?_, hfailing⟩
        exact List.forall_mem_cons.mpr ⟨⟨result, hitem⟩, hfront⟩

end Steps

/-! ## The pass over the references -/

/-- The declaration of an index when some types are known. -/
def declarationOf (types : List (Index × SlotType)) (index : Index) :
    Except DeclarationError (Index × SlotType) :=
  match Entries.get? index types with
  | some type => .ok (index, type)
  | none => .error (.unresolvedReference index)

theorem declarations_eq (source : String) (markers : List Marker) :
    declarations source markers =
      (declaredTypes source [] (occurrences markers)).bind fun types =>
        (indices markers).eraseDups.mapM (declarationOf types) :=
  rfl

section Declarations

variable {source : String} {markers : List Marker} {types : List (Index × SlotType)}
  {index : Index}

theorem declarationOf_eq_ok_iff {entry : Index × SlotType} :
    declarationOf types index = .ok entry ↔
      entry.1 = index ∧ Entries.get? index types = some entry.2 := by
  obtain ⟨own, type⟩ := entry
  unfold declarationOf
  cases Entries.get? index types with
  | none => simp
  | some other => simp [eq_comm]

theorem declarationOf_eq_error_iff {error : DeclarationError} :
    declarationOf types index = .error error ↔
      Entries.get? index types = none ∧ error = .unresolvedReference index := by
  unfold declarationOf
  cases Entries.get? index types with
  | none => simp [eq_comm]
  | some other => simp

/-- Every marker occurs. -/
theorem map_fst_occurrences (markers : List Marker) :
    (occurrences markers).map Prod.fst = markers :=
  List.map_fst_zip (Nat.le_of_eq (length_indicesFrom _ _ _).symm)

theorem map_snd_occurrences (markers : List Marker) :
    (occurrences markers).map Prod.snd = indices markers :=
  List.map_snd_zip (Nat.le_of_eq (length_indicesFrom _ _ _))

/-- Every index in the list is that of the marker at its position. -/
theorem getElem?_indices {i : Nat} : (indices markers)[i]? = some index ↔
    ∃ marker, (occurrences markers)[i]? = some (marker, index) := by
  rw [← map_snd_occurrences, List.getElem?_map, Option.map_eq_some_iff]
  constructor
  · rintro ⟨⟨marker, own⟩, hat, rfl⟩
    exact ⟨marker, hat⟩
  · rintro ⟨marker, hat⟩
    exact ⟨(marker, index), hat, rfl⟩

/-- What is declared when nothing is wrong. -/
theorem of_declarations_eq_ok {declared : List (Index × SlotType)}
    (h : declarations source markers = .ok declared) :
    ∃ types, Sound source (occurrences markers) types ∧
      declared.map Prod.fst = (indices markers).eraseDups ∧
      ∀ entry ∈ declared, Entries.get? entry.1 types = some entry.2 := by
  rw [declarations_eq] at h
  rcases declaredTypes_spec source (occurrences markers) with
    ⟨types, htypes, hsound⟩ | ⟨error, herror, _⟩
  · rw [htypes] at h
    have hall := forall₂_of_mapM_eq_ok h
    have hindices : List.Forall₂ (fun index (entry : Index × SlotType) => index = entry.1)
        (indices markers).eraseDups declared :=
      hall.imp fun _ _ hentry => (declarationOf_eq_ok_iff.mp hentry).1.symm
    refine ⟨types, hsound, ?_, fun entry hentry => ?_⟩
    · rw [← List.forall₂_map_right_iff, List.forall₂_eq_eq_eq] at hindices
      exact hindices.symm
    · obtain ⟨k, hk, rfl⟩ := List.mem_iff_getElem.mp hentry
      have hget := (List.forall₂_iff_get.mp hall).2 k (hall.length_eq ▸ hk) hk
      obtain ⟨hsame, htype⟩ := declarationOf_eq_ok_iff.mp hget
      rw [List.get_eq_getElem] at hsame htype
      rw [hsame]
      exact htype
  · rw [herror] at h
    cases h

/-- A declared type is that of every typed marker of its index, and there is one. -/
theorem type_of_declarations {declared : List (Index × SlotType)}
    (h : declarations source markers = .ok declared) {entry : Index × SlotType}
    (hentry : entry ∈ declared) :
    (∃ i code, TypedAt (occurrences markers) i entry.1 code) ∧
      ∀ i code, TypedAt (occurrences markers) i entry.1 code →
        SlotType.ofCode? code = some entry.2 := by
  obtain ⟨types, hsound, _, htypes⟩ := of_declarations_eq_ok h
  have hknown := htypes entry hentry
  constructor
  · obtain ⟨i, code, hfirst, _⟩ := (hsound.represents _ _).mp hknown
    exact ⟨i, code, hfirst.here⟩
  · intro i code hat
    obtain ⟨type, hagain, htype⟩ := hsound.type_of_typedAt hat
    rw [htype, ← hknown, ← hagain]

/-- The index of a marker without a typed marker is that of a reference. -/
theorem exists_referenceAt {i : Nat} {marker : Marker}
    (hat : (occurrences markers)[i]? = some (marker, index))
    (huntyped : ∀ j code, ¬ TypedAt (occurrences markers) j index code) :
    ReferenceAt (occurrences markers) i index := by
  cases marker with
  | typed name code => exact absurd ⟨name, hat⟩ (huntyped i code)
  | reference name => exact ⟨name, hat⟩

theorem idxOf_le_of_getElem? {occurring : List Index} {j : Nat}
    (h : occurring[j]? = some index) : occurring.idxOf index ≤ j := by
  by_contra hlt
  obtain ⟨hj, hat⟩ := List.getElem?_eq_some_iff.mp h
  have hnot := List.not_of_lt_findIdx (Nat.lt_of_not_le hlt)
  simp [hat] at hnot

/-- The first index without a type is that of the leftmost unresolved reference. -/
theorem leftmost_unresolvedAt (h : Sound source (occurrences markers) types)
    {front back : List Index} (horder : (indices markers).eraseDups = front ++ index :: back)
    (hfront : ∀ other ∈ front, ∃ type, Entries.get? other types = some type)
    (hnone : Entries.get? index types = none) :
    Leftmost (UnresolvedAt (occurrences markers)) (.unresolvedReference index) := by
  have huntyped := h.get?_eq_none_iff.mp hnone
  have hmem : index ∈ indices markers := by
    rw [← List.mem_eraseDups, horder]
    exact List.mem_append_right _ List.mem_cons_self
  have hbehind : ∀ other ∈ back, (indices markers).idxOf index < (indices markers).idxOf other := by
    have hpairwise := inFirstSeenOrder_eraseDups (indices markers)
    rw [horder, InFirstSeenOrder, List.pairwise_append, List.pairwise_cons] at hpairwise
    exact hpairwise.2.1.1
  obtain ⟨marker, hat⟩ := getElem?_indices.mp (List.getElem?_idxOf hmem)
  refine ⟨_, .unresolvedReference (exists_referenceAt hat huntyped) huntyped, ?_⟩
  intro j hj error hwrong
  cases hwrong with
  | @unresolvedReference other here hothers =>
    obtain ⟨name, hthere⟩ := here
    have hown := getElem?_indices.mpr ⟨_, hthere⟩
    have hle := idxOf_le_of_getElem? hown
    have hlisted : other ∈ front ++ index :: back := by
      rw [← horder, List.mem_eraseDups]
      exact List.mem_of_getElem? hown
    rcases List.mem_append.mp hlisted with hin | hin
    · obtain ⟨type, hsome⟩ := hfront other hin
      rw [h.get?_eq_none_iff.mpr hothers] at hsome
      cases hsome
    · rcases List.mem_cons.mp hin with rfl | hin
      · omega
      · have := hbehind other hin
        omega

/-- What is wrong when nothing is declared. -/
theorem of_declarations_eq_error {error : DeclarationError}
    (h : declarations source markers = .error error) :
    Leftmost (FaultAt source (occurrences markers)) error ∨
      (∀ i other, ¬ FaultAt source (occurrences markers) i other) ∧
        Leftmost (UnresolvedAt (occurrences markers)) error := by
  rw [declarations_eq] at h
  rcases declaredTypes_spec source (occurrences markers) with
    ⟨types, htypes, hsound⟩ | ⟨other, herror, hleftmost⟩
  · refine Or.inr ⟨hsound.faultless, ?_⟩
    rw [htypes] at h
    obtain ⟨front, index, back, horder, hfront, hindex⟩ := exists_of_mapM_eq_error h
    obtain ⟨hnone, rfl⟩ := declarationOf_eq_error_iff.mp hindex
    refine leftmost_unresolvedAt hsound horder (fun other hother => ?_) hnone
    obtain ⟨entry, hentry⟩ := hfront other hother
    exact ⟨entry.2, (declarationOf_eq_ok_iff.mp hentry).2⟩
  · rw [herror] at h
    cases h
    exact Or.inl hleftmost

/-- A change of type is reported although a reference in front of it is not resolved. -/
example : declarations "" [.reference (.name "x"), .typed (some (.name "a")) ⟨.colon, some 's'⟩,
    .typed (some (.name "a")) ⟨.colon, some 'i'⟩] =
    .error (.typeChanged "" (.name "a") (.scalar .text false false)
      (.scalar .integer false false)) := by
  decide

/-! ## Consistent markers -/

/-- Nothing is wrong with any marker. -/
structure Consistent (occurring : List (Marker × Index)) : Prop where
  /-- Every code names a type. -/
  known : ∀ i index code, TypedAt occurring i index code →
    ∃ type, SlotType.ofCode? code = some type
  /-- The typed markers of one index have one type. -/
  agreeing : ∀ i j index code other, TypedAt occurring i index code →
    TypedAt occurring j index other → SlotType.ofCode? code = SlotType.ofCode? other
  /-- The index of every reference is that of a typed marker, in front of it or behind. -/
  resolved : ∀ i index, ReferenceAt occurring i index → ∃ j code, TypedAt occurring j index code

theorem Consistent.not_faultAt {occurring : List (Marker × Index)} (h : Consistent occurring)
    {i : Nat} {error : DeclarationError} : ¬ FaultAt source occurring i error := by
  intro hfault
  cases hfault with
  | unknownCode here unknown =>
    obtain ⟨type, htype⟩ := h.known _ _ _ here
    rw [unknown] at htype
    cases htype
  | typeChanged here known before declares differs =>
    have hsame := h.agreeing _ _ _ _ _ here before.here
    rw [known, declares] at hsame
    exact differs (Option.some.inj hsame).symm

theorem Consistent.not_unresolvedAt {occurring : List (Marker × Index)} (h : Consistent occurring)
    {i : Nat} {error : DeclarationError} : ¬ UnresolvedAt occurring i error := by
  intro hwrong
  cases hwrong with
  | unresolvedReference here untyped =>
    obtain ⟨j, code, htyped⟩ := h.resolved _ _ here
    exact untyped j code htyped

/-- Markers that declare something are consistent. -/
theorem consistent_of_declarations {declared : List (Index × SlotType)}
    (h : declarations source markers = .ok declared) : Consistent (occurrences markers) := by
  obtain ⟨types, hsound, hindices, _⟩ := of_declarations_eq_ok h
  refine ⟨?_, ?_, ?_⟩
  · intro i index code hat
    obtain ⟨type, _, htype⟩ := hsound.type_of_typedAt hat
    exact ⟨type, htype⟩
  · intro i j index code other hcode hother
    obtain ⟨type, hknown, htype⟩ := hsound.type_of_typedAt hcode
    obtain ⟨same, hagain, hsame⟩ := hsound.type_of_typedAt hother
    rw [htype, hsame, ← hknown, ← hagain]
  · intro i index hat
    obtain ⟨name, hoccurs⟩ := hat
    have hlisted : index ∈ declared.map Prod.fst := by
      rw [hindices, List.mem_eraseDups]
      exact List.mem_of_getElem? (getElem?_indices.mpr ⟨_, hoccurs⟩)
    obtain ⟨entry, hentry, rfl⟩ := List.mem_map.mp hlisted
    exact (type_of_declarations h hentry).1

theorem exists_declarations_iff :
    (∃ declared, declarations source markers = .ok declared) ↔
      Consistent (occurrences markers) := by
  constructor
  · rintro ⟨declared, h⟩
    exact consistent_of_declarations h
  · intro hconsistent
    cases h : declarations source markers with
    | ok declared => exact ⟨declared, rfl⟩
    | error error =>
      rcases of_declarations_eq_error h with ⟨i, hfault, _⟩ | ⟨_, i, hwrong, _⟩
      · exact absurd hfault hconsistent.not_faultAt
      · exact absurd hwrong hconsistent.not_unresolvedAt

end Declarations

end Template

/-! ## Templates -/

namespace Query

open Template

variable {config : Config} {source : String} {query : Query}

/-- The placeholders of a template are its declarations. -/
theorem placeholders_of_new (h : new config source = .ok query) :
    ∃ declared, declarations source (markers (scan config.brackets source)) = .ok declared ∧
      query.placeholders = declared.map fun (index, type) =>
        Placeholder.new index type
          (isConditional (segments config.brackets (indexed config.brackets source)) index) := by
  obtain ⟨hparse, _⟩ := new_eq_ok h
  rcases Statement.parse_eq_ok hparse with ⟨hmarkers, hnone⟩ | ⟨_, declared, hdeclared, hsome⟩
  · refine ⟨[], ?_, ?_⟩
    · rw [hmarkers]
      rfl
    · rw [placeholders, hnone]
      rfl
  · refine ⟨declared, hdeclared, ?_⟩
    obtain ⟨_, _, hindices, _⟩ := of_declarations_eq_ok hdeclared
    have hdistinct : (declared.map Prod.fst).Nodup := by
      rw [hindices]
      exact (inFirstSeenOrder_eraseDups _).nodup
    rw [placeholders, hsome]
    refine PlaceholderMap.toList_ofList ?_
    rw [List.map_map]
    exact hdistinct

theorem map_index_placeholders (h : new config source = .ok query) :
    query.placeholders.map Placeholder.index =
      (indices (markers (scan config.brackets source))).eraseDups := by
  obtain ⟨declared, hdeclared, hplaceholders⟩ := placeholders_of_new h
  obtain ⟨_, _, hindices, _⟩ := of_declarations_eq_ok hdeclared
  rw [← hindices, hplaceholders, List.map_map]
  rfl

theorem exists_new_iff (config : Config) (source : String) :
    (∃ query, new config source = .ok query) ↔
      Consistent (occurrences (markers (scan config.brackets source))) := by
  have hdeclarations : (∃ declared, declarations source (markers (scan config.brackets source)) =
      .ok declared) ↔ Consistent (occurrences (markers (scan config.brackets source))) :=
    exists_declarations_iff
  rw [← hdeclarations]
  constructor
  · rintro ⟨query, hnew⟩
    obtain ⟨declared, hdeclared, _⟩ := placeholders_of_new hnew
    exact ⟨declared, hdeclared⟩
  · rintro ⟨declared, hdeclared⟩
    cases hnew : new config source with
    | ok query => exact ⟨query, rfl⟩
    | error error =>
      rw [new_eq_error_iff, hdeclared] at hnew
      cases hnew

/-- The type of a placeholder is that of every typed marker of its index, and there is one. -/
theorem type_of_placeholder (h : new config source = .ok query) {placeholder : Placeholder}
    (hmem : placeholder ∈ query.placeholders) :
    let occurring := occurrences (markers (scan config.brackets source))
    (∃ i code, TypedAt occurring i placeholder.index code) ∧
      ∀ i code, TypedAt occurring i placeholder.index code →
        SlotType.ofCode? code = some placeholder.type := by
  obtain ⟨entries, hentries, hplaceholders⟩ := placeholders_of_new h
  rw [hplaceholders] at hmem
  obtain ⟨entry, hentry, rfl⟩ := List.mem_map.mp hmem
  exact type_of_declarations hentries hentry

/-- Every marker of a template occurs with an index, and the template is read exactly if these
occurrences are consistent.  Its placeholders are then the distinct indices of the markers in
the order in which they are first seen, each with the type of its typed markers.  A template
that is not read ends with what is wrong with the leftmost typed marker, and only if nothing is
wrong with any of these with what is wrong with the leftmost reference. -/
theorem new_judgement (config : Config) (source : String) :
    let occurring := occurrences (markers (scan config.brackets source))
    occurring.map Prod.fst = markers (scan config.brackets source) ∧
      ((∃ query, new config source = .ok query) ↔ Consistent occurring) ∧
      (∀ query, new config source = .ok query →
        let declared := query.placeholders.map Placeholder.index
        (∀ index, index ∈ declared ↔ index ∈ occurring.map Prod.snd) ∧
          InFirstSeenOrder (occurring.map Prod.snd) declared ∧
          ∀ placeholder ∈ query.placeholders,
            (∃ i code, TypedAt occurring i placeholder.index code) ∧
              ∀ i code, TypedAt occurring i placeholder.index code →
                SlotType.ofCode? code = some placeholder.type) ∧
      ∀ error, new config source = .error error →
        Leftmost (FaultAt source occurring) error ∨
          (∀ i other, ¬ FaultAt source occurring i other) ∧
            Leftmost (UnresolvedAt occurring) error := by
  intro occurring
  refine ⟨map_fst_occurrences _, exists_new_iff config source, ?_, ?_⟩
  · intro query hnew declared
    have hdeclared : declared = (indices (markers (scan config.brackets source))).eraseDups :=
      map_index_placeholders hnew
    refine ⟨fun index => ?_, ?_, fun placeholder hmem => type_of_placeholder hnew hmem⟩
    · rw [hdeclared, List.mem_eraseDups, map_snd_occurrences]
    · rw [hdeclared, map_snd_occurrences]
      exact inFirstSeenOrder_eraseDups _
  · intro error herror
    exact of_declarations_eq_error (new_eq_error_iff.mp herror)

end Query

end SqlTemplate
