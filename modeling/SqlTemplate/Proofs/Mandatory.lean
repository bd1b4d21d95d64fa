import SqlTemplate.Proofs.Declaring
import SqlTemplate.Proofs.Reading

/-!
# Mandatory placeholders

Which placeholders of a template can be left without a value.

* `Exposed` says that an index has a marker outside of every closed block.
  `exposed_append` says that settled pieces and the pieces behind them can be looked at
  apart, and `not_exposed_block` that a block exposes nothing.
* `mem_segments_iff`: the slots that segments write whatever happens are those of the
  exposed indices.
* `Query.conditional_iff_forall_enclosed` states it for the placeholders of a template.
-/

namespace SqlTemplate

namespace Template

/-! ## Exposed indices -/

/-- The index has a marker outside of every closed block. -/
def Exposed (pieces : List IndexedPiece) (index : Index) : Prop :=
  ∃ k, slotAt? pieces k = some index ∧ ¬ Enclosed pieces k

section Slots

variable {pieces chunk rest body : List IndexedPiece} {index : Index} {k : Nat}

theorem getElem?_of_slotAt? (h : slotAt? pieces k = some index) :
    pieces[k]? = some (.part (.slot index)) := by
  obtain ⟨piece, hpiece, hindex⟩ := Option.bind_eq_some_iff.mp h
  rcases piece with (content | own) | _ | _
  · cases hindex
  · cases hindex
    exact hpiece
  · cases hindex
  · cases hindex

theorem exists_slotAt?_iff :
    (∃ k, slotAt? pieces k = some index) ↔ index ∈ pieces.filterMap IndexedPiece.index? := by
  rw [List.mem_filterMap]
  constructor
  · rintro ⟨k, hslot⟩
    exact ⟨_, List.mem_of_getElem? (getElem?_of_slotAt? hslot), rfl⟩
  · rintro ⟨piece, hmem, hindex⟩
    obtain ⟨k, hk⟩ := List.mem_iff_getElem?.mp hmem
    exact ⟨k, by rw [slotAt?, hk]; exact hindex⟩

theorem markers_ne_nil_of_slotAt? {brackets : Brackets} {source : String}
    (h : slotAt? (indexed brackets source) k = some index) :
    markers (scan brackets source) ≠ [] := by
  intro hnil
  have hmem := exists_slotAt?_iff.mp ⟨k, h⟩
  rw [slots_indexed, hnil] at hmem
  cases hmem

/-- A marker lies in a block exactly if it is enclosed. -/
theorem exists_isBlock_iff_of_slotAt? (h : slotAt? pieces k = some index) :
    (∃ first last, IsBlock pieces first last ∧ first < k ∧ k < last) ↔ Enclosed pieces k := by
  refine exists_isBlock_iff ?_
  rw [getElem?_of_slotAt? h]
  simp

theorem slotAt?_append_of_lt (hk : k < chunk.length) :
    slotAt? (chunk ++ rest) k = slotAt? chunk k := by
  rw [slotAt?, slotAt?, getElem?_append_of_lt hk]

theorem slotAt?_append_add (k : Nat) :
    slotAt? (chunk ++ rest) (chunk.length + k) = slotAt? rest k := by
  rw [slotAt?, slotAt?, getElem?_append_add]

/-! ## Pieces in a row -/

theorem enclosed_append_of_lt (hsettled : Settled chunk) (h : slotAt? chunk k = some index) :
    Enclosed (chunk ++ rest) k ↔ Enclosed chunk k := by
  have hk := lt_length_of_getElem? (getElem?_of_slotAt? h)
  rw [← exists_isBlock_iff_of_slotAt? h,
    ← exists_isBlock_iff_of_slotAt? ((slotAt?_append_of_lt hk).trans h)]
  constructor
  · rintro ⟨first, last, hblock, hfirst, hlast⟩
    rcases (isBlock_append hsettled).mp hblock with hinner | ⟨m, n, rfl, rfl, _⟩
    · exact ⟨first, last, hinner, hfirst, hlast⟩
    · omega
  · rintro ⟨first, last, hblock, hfirst, hlast⟩
    exact ⟨first, last, hblock.append_right rest, hfirst, hlast⟩

theorem enclosed_append_add (hsettled : Settled chunk) (h : slotAt? rest k = some index) :
    Enclosed (chunk ++ rest) (chunk.length + k) ↔ Enclosed rest k := by
  rw [← exists_isBlock_iff_of_slotAt? h,
    ← exists_isBlock_iff_of_slotAt? ((slotAt?_append_add k).trans h)]
  constructor
  · rintro ⟨first, last, hblock, hfirst, hlast⟩
    rcases (isBlock_append hsettled).mp hblock with hinner | ⟨m, n, rfl, rfl, hinner⟩
    · have := lt_length_of_getElem? hinner.closes
      omega
    · exact ⟨m, n, hinner, by omega, by omega⟩
  · rintro ⟨first, last, hblock, hfirst, hlast⟩
    exact ⟨_, _, hblock.append_left hsettled, by omega, by omega⟩

theorem exposed_append (hsettled : Settled chunk) :
    Exposed (chunk ++ rest) index ↔ Exposed chunk index ∨ Exposed rest index := by
  constructor
  · rintro ⟨k, hslot, hopen⟩
    by_cases hk : k < chunk.length
    · rw [slotAt?_append_of_lt hk] at hslot
      rw [enclosed_append_of_lt hsettled hslot] at hopen
      exact Or.inl ⟨k, hslot, hopen⟩
    · obtain ⟨m, rfl⟩ : ∃ m, k = chunk.length + m := ⟨k - chunk.length, by omega⟩
      rw [slotAt?_append_add] at hslot
      rw [enclosed_append_add hsettled hslot] at hopen
      exact Or.inr ⟨m, hslot, hopen⟩
  · rintro (⟨k, hslot, hopen⟩ | ⟨k, hslot, hopen⟩)
    · have hk := lt_length_of_getElem? (getElem?_of_slotAt? hslot)
      refine ⟨k, (slotAt?_append_of_lt hk).trans hslot, ?_⟩
      rwa [enclosed_append_of_lt hsettled hslot]
    · refine ⟨chunk.length + k, (slotAt?_append_add k).trans hslot, ?_⟩
      rwa [enclosed_append_add hsettled hslot]

/-- Without closing brackets every marker is outside of the closed blocks. -/
theorem exposed_of_not_mem_closing (h : .closing ∉ pieces) :
    Exposed pieces index ↔ index ∈ pieces.filterMap IndexedPiece.index? := by
  rw [← exists_slotAt?_iff]
  refine exists_congr fun k => and_iff_left ?_
  rintro ⟨_, j, _, hcloses⟩
  exact h (List.mem_of_getElem? hcloses)

/-- Every marker of a block is enclosed by the brackets of the block. -/
theorem not_exposed_block (hbody : .closing ∉ body) : ¬ Exposed (block body) index := by
  rintro ⟨k, hslot, hopen⟩
  have hpiece := getElem?_of_slotAt? hslot
  have hlength := lt_length_of_getElem? hpiece
  rw [length_block] at hlength
  have hfirst : 0 < k := by
    by_contra hzero
    obtain rfl : k = 0 := by omega
    cases hpiece
  have hcloses : (block body)[body.length + 1]? = some .closing := by
    simp [block]
  have hlast : k ≠ body.length + 1 := by
    rintro rfl
    rw [hcloses] at hpiece
    cases hpiece
  refine hopen ⟨⟨0, hfirst, rfl, fun j hj _ hclosing => ?_⟩, body.length + 1, by omega, hcloses⟩
  have := eq_of_getElem?_block hbody hclosing
  omega

end Slots

/-! ## Slots that are always written -/

section Segments

variable {brackets : Brackets} {index : Index}

theorem mem_consSegment_iff {part : Part} {segments : List Segment} :
    .always (.slot index) ∈ consSegment part segments ↔
      part = .slot index ∨ .always (.slot index) ∈ segments := by
  rw [mem_consSegment_iff_of_ne (by simp), Segment.always.injEq, eq_comm]

theorem literal_eq_slot_iff {piece : IndexedPiece} :
    literal brackets piece = .slot index ↔ piece.index? = some index := by
  rcases piece with (content | own) | _ | _ <;>
    simp [literal, IndexedPiece.index?, Part.index?]

theorem mem_literally_iff {body : List IndexedPiece} {segments : List Segment} :
    .always (.slot index) ∈ literally brackets body segments ↔
      index ∈ body.filterMap IndexedPiece.index? ∨ .always (.slot index) ∈ segments := by
  induction body with
  | nil => simp [literally]
  | cons piece rest ih =>
    rw [literally_cons, mem_consSegment_iff, ih, literal_eq_slot_iff, List.mem_filterMap,
      List.mem_filterMap, List.exists_mem_cons_iff, or_assoc]

/-- The segments of some pieces always write the slots of the exposed indices, and no
others. -/
theorem mem_segments_iff (brackets : Brackets) (pieces : List IndexedPiece) :
    .always (.slot index) ∈ segments brackets pieces ↔ Exposed pieces index := by
  induction pieces using induction_on_blocks with
  | nil =>
    rw [segments]
    simp [Exposed, slotAt?]
  | part content rest ih =>
    have hpart : .closing ∉ [IndexedPiece.part content] := by simp
    have hsettled : Settled [IndexedPiece.part content] :=
      settled_of_not_mem_opening (by simp)
    rw [segments, mem_consSegment_iff, ih, ← List.singleton_append, exposed_append hsettled,
      exposed_of_not_mem_closing hpart]
    rcases content with text | own <;> simp [IndexedPiece.index?, Part.index?, eq_comm]
  | closing rest ih =>
    have hsettled : Settled [IndexedPiece.closing] := settled_of_not_mem_opening (by simp)
    have hnone : ¬ Exposed [IndexedPiece.closing] index := by
      rintro ⟨k, hslot, _⟩
      have hmem := List.mem_of_getElem? (getElem?_of_slotAt? hslot)
      simp at hmem
    rw [segments, mem_consSegment_iff, ih, ← List.singleton_append, exposed_append hsettled]
    simp [hnone]
  | unclosed body hbody =>
    have hclosing : .closing ∉ IndexedPiece.opening :: body := by
      rw [List.mem_cons, not_or]
      exact ⟨by simp, hbody⟩
    rw [segments_unclosed hbody, mem_literally_iff, exposed_of_not_mem_closing hclosing]
    simp
  | block body rest hbody ih =>
    rw [segments_block hbody, exposed_append (settled_block body), ← ih]
    have hnone : ¬ Exposed (block body) index := not_exposed_block hbody
    cases hslot : hasSlot body with
    | true => simp [hnone]
    | false =>
      have hempty : index ∉ (block body).filterMap IndexedPiece.index? := by
        have hno : hasSlot (block body) = false := by
          simpa [block, hasSlot] using hslot
        rw [hasSlot_eq_any] at hno
        intro hmem
        simpa using List.any_eq_false.mp hno index hmem
      simp [mem_literally_iff, hempty, hnone]

theorem isConditional_segments (brackets : Brackets) (pieces : List IndexedPiece) :
    isConditional (segments brackets pieces) index = true ↔ ¬ Exposed pieces index := by
  rw [← mem_segments_iff brackets]
  simp [isConditional]

end Segments

end Template

/-! ## Placeholders -/

namespace Query

open Template

variable {config : Config} {source : String} {query : Query} {placeholder : Placeholder}

theorem conditional_iff_not_exposed (h : new config source = .ok query)
    (hmem : placeholder ∈ query.placeholders) :
    placeholder.conditional = true ↔
      ¬ Exposed (indexed config.brackets source) placeholder.index := by
  obtain ⟨declared, _, hplaceholders⟩ := placeholders_of_new h
  rw [hplaceholders] at hmem
  obtain ⟨entry, _, rfl⟩ := List.mem_map.mp hmem
  exact isConditional_segments config.brackets _

/-- The indices of the placeholders are those of the markers. -/
theorem mem_map_index_placeholders_iff (h : new config source = .ok query) {index : Index} :
    index ∈ query.placeholders.map Placeholder.index ↔
      ∃ k, slotAt? (indexed config.brackets source) k = some index := by
  rw [map_index_placeholders h, List.mem_eraseDups, exists_slotAt?_iff, slots_indexed]

/-- A placeholder has a marker, and it is conditional exactly if each of its markers,
typed or not, has an opening bracket in front of it with no closing bracket between, and
a closing bracket behind it. -/
theorem conditional_iff_forall_enclosed (h : new config source = .ok query)
    (hmem : placeholder ∈ query.placeholders) :
    let pieces := indexed config.brackets source
    (∃ k, slotAt? pieces k = some placeholder.index) ∧
      (placeholder.conditional = true ↔
        ∀ k, slotAt? pieces k = some placeholder.index → Enclosed pieces k) := by
  intro pieces
  refine ⟨(mem_map_index_placeholders_iff h).mp (List.mem_map_of_mem hmem), ?_⟩
  rw [conditional_iff_not_exposed h hmem]
  simp [Exposed, pieces]

/-- An index that is first seen in a block, and then behind an opening bracket that is never
closed. -/
theorem conditional_iff_forall_enclosed_unclosed :
    let config := Config.new Text.escapeStandard
    let source := "[WHERE a = {id}] AND b = :s [AND c = id:i"
    let placeholder := Placeholder.new (.name "id") (.scalar .integer false false) false
    ∃ query, new config source = .ok query ∧ placeholder ∈ query.placeholders ∧
      let pieces := indexed config.brackets source
      (∃ k, slotAt? pieces k = some placeholder.index) ∧
        (placeholder.conditional = true ↔
          ∀ k, slotAt? pieces k = some placeholder.index → Enclosed pieces k) := by
  intro config source placeholder
  have hdeclared : ((new config source).toOption.map placeholders) =
      some [placeholder, Placeholder.new (.ordinal 0) (.scalar .text false false) false] := by
    decide +kernel
  cases hnew : new config source with
  | error error =>
    rw [hnew] at hdeclared
    cases hdeclared
  | ok query =>
    rw [hnew] at hdeclared
    have hmem : placeholder ∈ query.placeholders := by
      rw [Option.some.inj hdeclared]
      exact List.mem_cons_self
    exact ⟨query, rfl, hmem, conditional_iff_forall_enclosed hnew hmem⟩

end Query

end SqlTemplate
