import SqlTemplate.Proofs.Joining

/-!
# Markers with names

Where every marker of a template has a name, indices are names, and no marker has a say in the
index of another one.

* `indices_of_explicit`: the indices are the names.  `withIndices_append`: so pieces in a row get
  their indices apart from each other.
* `mem_occurrences_iff`, `exists_typedAt_iff` and `exists_referenceAt_iff`: which markers occur
  under an index is a matter of which markers there are.
* `consistent_of_subset`: some of the markers of a template declare something if among them
  every reference has a typed marker.
-/

namespace SqlTemplate.Template

/-- Every marker has a name. -/
def Explicit (found : List Marker) : Prop :=
  ∀ marker ∈ found, name? marker ≠ none

instance (found : List Marker) : Decidable (Explicit found) :=
  inferInstanceAs (Decidable (∀ marker ∈ found, name? marker ≠ none))

section Explicit

variable {found first second part : List Marker} {marker : Marker} {index : Index} {code : Code}

theorem explicit_append : Explicit (first ++ second) ↔ Explicit first ∧ Explicit second :=
  List.forall_mem_append

/-! ## Indices -/

theorem indices_of_explicit (h : Explicit found) : indices found = found.filterMap name? := by
  rw [indices]
  generalize found.filterMap claimed? = claims
  generalize 0 = next
  induction found with
  | nil => rfl
  | cons marker rest ih =>
    have hrest : Explicit rest := fun other hmem => h other (List.mem_cons_of_mem _ hmem)
    rcases marker with (_ | name) | name
    · exact absurd rfl (h _ List.mem_cons_self)
    · exact congrArg (name :: ·) (ih hrest)
    · exact congrArg (name :: ·) (ih hrest)

theorem indices_append (hfirst : Explicit first) (hsecond : Explicit second) :
    indices (first ++ second) = indices first ++ indices second := by
  rw [indices_of_explicit (explicit_append.mpr ⟨hfirst, hsecond⟩), indices_of_explicit hfirst,
    indices_of_explicit hsecond, List.filterMap_append]

theorem markers_append (pieces others : List Piece) :
    markers (pieces ++ others) = markers pieces ++ markers others :=
  List.filterMap_append

theorem indexedPieces_append {pieces others : List Piece} {names more : List Index}
    (h : (markers pieces).length = names.length) :
    indexedPieces (pieces ++ others) (names ++ more) =
      indexedPieces pieces names ++ indexedPieces others more := by
  fun_induction indexedPieces pieces names with
  | case1 names =>
    rw [List.eq_nil_of_length_eq_zero h.symm]
    rfl
  | case2 content rest names ih => exact congrArg (.part (.text content) :: ·) (ih h)
  | case3 rest names ih => exact congrArg (.opening :: ·) (ih h)
  | case4 rest names ih => exact congrArg (.closing :: ·) (ih h)
  | case5 marker rest index names ih =>
    exact congrArg (.part (.slot index) :: ·) (ih (Nat.succ.inj h))
  | case6 marker rest => exact absurd h (Nat.succ_ne_zero _)

/-- Pieces in a row get their indices apart from each other. -/
theorem withIndices_append {pieces others : List Piece} (hpieces : Explicit (markers pieces))
    (hothers : Explicit (markers others)) :
    withIndices (pieces ++ others) = withIndices pieces ++ withIndices others := by
  rw [withIndices, markers_append, indices_append hpieces hothers]
  exact indexedPieces_append (length_indicesFrom _ _ _).symm

/-! ## Occurrences -/

theorem mem_occurrences_iff (h : Explicit found) :
    (marker, index) ∈ occurrences found ↔ marker ∈ found ∧ name? marker = some index := by
  constructor
  · intro hmem
    have hmarker : marker ∈ found := (List.of_mem_zip hmem).1
    refine ⟨hmarker, ?_⟩
    rcases index_of_mem_occurrences hmem with hname | ⟨hnone, _⟩
    · exact hname
    · exact absurd hnone (h marker hmarker)
  · intro hboth
    obtain ⟨hmarker, hname⟩ := hboth
    rw [occurrences, indices_of_explicit h]
    induction found with
    | nil => cases hmarker
    | cons other rest ih =>
      have hrest : Explicit rest := fun other hmem => h other (List.mem_cons_of_mem _ hmem)
      obtain ⟨own, hown⟩ := Option.ne_none_iff_exists'.mp (h other List.mem_cons_self)
      rw [List.filterMap_cons_some hown, List.zip_cons_cons, List.mem_cons]
      rcases List.mem_cons.mp hmarker with rfl | hmem
      · rw [hname] at hown
        cases hown
        exact Or.inl rfl
      · exact Or.inr (ih hrest hmem)

theorem exists_typedAt_iff (h : Explicit found) :
    (∃ i, TypedAt (occurrences found) i index code) ↔ .typed (some index) code ∈ found := by
  constructor
  · intro hexists
    obtain ⟨i, name, hat⟩ := hexists
    obtain ⟨hmem, hname⟩ := (mem_occurrences_iff h).mp (List.mem_of_getElem? hat)
    rw [name?] at hname
    rwa [← hname]
  · intro hmem
    obtain ⟨i, hat⟩ := List.mem_iff_getElem?.mp ((mem_occurrences_iff h).mpr ⟨hmem, rfl⟩)
    exact ⟨i, some index, hat⟩

theorem exists_referenceAt_iff (h : Explicit found) :
    (∃ i, ReferenceAt (occurrences found) i index) ↔ .reference index ∈ found := by
  constructor
  · intro hexists
    obtain ⟨i, name, hat⟩ := hexists
    obtain ⟨hmem, hname⟩ := (mem_occurrences_iff h).mp (List.mem_of_getElem? hat)
    rw [name?] at hname
    rwa [← Option.some.inj hname]
  · intro hmem
    obtain ⟨i, hat⟩ := List.mem_iff_getElem?.mp ((mem_occurrences_iff h).mpr ⟨hmem, rfl⟩)
    exact ⟨i, index, hat⟩

/-- A reference to an index stands beside a typed marker of that index. -/
theorem Consistent.exists_typed (h : Consistent (occurrences found)) (hexplicit : Explicit found)
    (hmem : .reference index ∈ found) : ∃ code, .typed (some index) code ∈ found := by
  obtain ⟨i, hat⟩ := (exists_referenceAt_iff hexplicit).mpr hmem
  obtain ⟨j, code, htyped⟩ := h.resolved i index hat
  exact ⟨code, (exists_typedAt_iff hexplicit).mp ⟨j, htyped⟩⟩

/-- Some of the markers that declare something do so by themselves if every reference among
them has a typed marker among them. -/
theorem consistent_of_subset (h : Consistent (occurrences found)) (hexplicit : Explicit found)
    (hsubset : ∀ marker ∈ part, marker ∈ found)
    (hresolved : ∀ index, .reference index ∈ part → ∃ code, .typed (some index) code ∈ part) :
    Consistent (occurrences part) := by
  have hpart : Explicit part := fun marker hmem => hexplicit marker (hsubset marker hmem)
  have htyped : ∀ i index code, TypedAt (occurrences part) i index code →
      ∃ j, TypedAt (occurrences found) j index code := by
    intro i index code hat
    rw [exists_typedAt_iff hexplicit]
    exact hsubset _ ((exists_typedAt_iff hpart).mp ⟨i, hat⟩)
  refine ⟨?_, ?_, ?_⟩
  · intro i index code hat
    obtain ⟨j, hfound⟩ := htyped i index code hat
    exact h.known j index code hfound
  · intro i j index code other hcode hother
    obtain ⟨k, hfirst⟩ := htyped i index code hcode
    obtain ⟨l, hsecond⟩ := htyped j index other hother
    exact h.agreeing k l index code other hfirst hsecond
  · intro i index hat
    obtain ⟨code, hmem⟩ := hresolved index ((exists_referenceAt_iff hpart).mp ⟨i, hat⟩)
    obtain ⟨j, hfound⟩ := (exists_typedAt_iff hpart).mpr hmem
    exact ⟨j, code, hfound⟩

end Explicit

end SqlTemplate.Template
