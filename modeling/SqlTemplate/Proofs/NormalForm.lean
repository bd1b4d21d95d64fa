import Mathlib.Data.List.Chain
import SqlTemplate.Proofs.Reading

/-!
# The normal form of segments

What the segments of a template look like, whatever its pieces are.

* `Coalesced` says that texts are joined where they meet.  `NormalForm` says so of the segments and
  of the parts of every block, and that every block has a slot.  That blocks do not nest is in the
  type of their parts.
* `coalesced_consSegment` and `normalForm_consSegment`: a part that is put in front keeps the form.
  `map_blockParts` brings this to the parts of a block, and `normalForm_segments` to all pieces.
* `flatMap_slots_segments`: the slots come in the order of the pieces.
* `segments_pieces`: segments in normal form are put together again as they are.
* `segments_normalForm` is the outcome for pieces and the indices of their markers.
-/

namespace SqlTemplate

/-- A segment is literal text. -/
def Segment.IsText (segment : Segment) : Prop :=
  ∃ content, segment = .always (.text content)

/-- Pieces of which a segment can be made. -/
def Segment.pieces : Segment → List Template.IndexedPiece
  | .always part => [.part part]
  | .optional body => Template.block (body.map .part)

namespace Template

variable {brackets : Brackets} {part : Part} {body : List Part} {segments : List Segment}

/-! ## Coalesced texts -/

/-- Texts are joined where they meet: none is empty, and no two are next to each other. -/
structure Coalesced (segments : List Segment) : Prop where
  solid : .always (.text "") ∉ segments
  apart : segments.IsChain fun first second => ¬ (first.IsText ∧ second.IsText)

theorem coalesced_cons_iff {segment : Segment} : Coalesced (segment :: segments) ↔
    segment ≠ .always (.text "") ∧
      (segment.IsText → ∀ next ∈ segments.head?, ¬ next.IsText) ∧ Coalesced segments := by
  constructor
  · rintro ⟨hsolid, hapart⟩
    rw [List.mem_cons, not_or] at hsolid
    rw [List.isChain_cons] at hapart
    exact ⟨Ne.symm hsolid.1, fun htext next hnext hother => hapart.1 next hnext ⟨htext, hother⟩,
      hsolid.2, hapart.2⟩
  · rintro ⟨hsegment, hhead, hsolid, hapart⟩
    refine ⟨?_, List.isChain_cons.mpr ⟨fun next hnext hboth => ?_, hapart⟩⟩
    · rw [List.mem_cons, not_or]
      exact ⟨Ne.symm hsegment, hsolid⟩
    · exact hhead hboth.1 next hnext hboth.2

theorem not_isText_slot (index : Index) : ¬ (Segment.always (.slot index)).IsText := by
  rintro ⟨content, hsame⟩
  cases hsame

theorem not_isText_optional (body : List Part) : ¬ (Segment.optional body).IsText := by
  rintro ⟨content, hsame⟩
  cases hsame

/-- A part in front of joined segments is joined to them. -/
theorem coalesced_consSegment (h : Coalesced segments) (part : Part) :
    Coalesced (consSegment part segments) := by
  unfold consSegment
  split
  · rename_i index
    exact coalesced_cons_iff.mpr ⟨nofun, fun htext => absurd htext (not_isText_slot index), h⟩
  · rename_i content
    split
    · exact h
    · rename_i hcontent
      split
      · -- The joined text is next to what the second text was next to.
        rename_i next others
        obtain ⟨-, hhead, hothers⟩ := coalesced_cons_iff.mp h
        exact coalesced_cons_iff.mpr ⟨by simp [hcontent], fun _ => hhead ⟨next, rfl⟩, hothers⟩
      · rename_i hother
        refine coalesced_cons_iff.mpr ⟨by simp [hcontent], fun _ segment hsegment htext => ?_, h⟩
        obtain ⟨others, rfl⟩ := List.head?_eq_some_iff.mp hsegment
        obtain ⟨next, rfl⟩ := htext
        exact hother next others rfl

/-- A part stays by itself in front of segments to which it is joined already. -/
theorem consSegment_of_coalesced (h : Coalesced (.always part :: segments)) :
    consSegment part segments = .always part :: segments := by
  obtain ⟨hpart, hhead, -⟩ := coalesced_cons_iff.mp h
  unfold consSegment
  split
  · rfl
  · rename_i content
    rw [if_neg fun hempty => hpart (by rw [hempty])]
    split
    · rename_i next others
      exact absurd ⟨next, rfl⟩ (hhead ⟨content, rfl⟩ _ rfl)
    · rfl

/-! ## Blocks -/

/-- The parts of a block are the segments that its pieces would be outside of one. -/
theorem map_blockParts (pieces : List IndexedPiece) :
    (blockParts brackets pieces).map .always = literally brackets pieces [] := by
  induction pieces with
  | nil => rfl
  | cons piece pieces ih =>
    rw [blockParts_cons, map_consPart, ih, literally_cons]

theorem blockParts_of_coalesced (h : Coalesced (body.map .always)) :
    blockParts brackets (body.map .part) = body := by
  have hliterally : literally brackets (body.map .part) [] = body.map .always := by
    induction body with
    | nil => rfl
    | cons part body ih =>
      rw [List.map_cons, literally_cons, ih (coalesced_cons_iff.mp h).2.2]
      exact consSegment_of_coalesced h
  rw [← map_blockParts] at hliterally
  exact List.map_injective_iff.mpr (fun _ _ => Segment.always.inj) hliterally

theorem hasSlot_map_part (body : List Part) :
    hasSlot (body.map .part) = (body.filterMap Part.index?).any fun _ => true := by
  rw [hasSlot_eq_any, List.filterMap_map]
  rfl

theorem exists_slot_mem_iff :
    (∃ index, .slot index ∈ body) ↔ hasSlot (body.map .part) = true := by
  rw [hasSlot, List.any_map, List.any_eq_true]
  constructor
  · rintro ⟨index, hmem⟩
    exact ⟨_, hmem, rfl⟩
  · rintro ⟨part, hmem, hslot⟩
    cases part with
    | text content => cases hslot
    | slot index => exact ⟨index, hmem⟩

/-! ## Normal form -/

/-- Texts are joined, those in a block as well, and every block has a slot. -/
structure NormalForm (segments : List Segment) : Prop where
  coalesced : Coalesced segments
  bodies : ∀ body, .optional body ∈ segments →
    Coalesced (body.map .always) ∧ ∃ index, .slot index ∈ body

theorem normalForm_nil : NormalForm [] :=
  ⟨⟨nofun, .nil⟩, nofun⟩

theorem NormalForm.of_cons {segment : Segment} (h : NormalForm (segment :: segments)) :
    NormalForm segments where
  coalesced := (coalesced_cons_iff.mp h.coalesced).2.2
  bodies body hbody := h.bodies body (List.mem_cons_of_mem _ hbody)

theorem normalForm_consSegment (h : NormalForm segments) (part : Part) :
    NormalForm (consSegment part segments) where
  coalesced := coalesced_consSegment h.coalesced part
  bodies body hbody := by
    rcases (mem_consSegment_iff_of_ne (by simp)).mp hbody with hsame | hmem
    · cases hsame
    · exact h.bodies body hmem

theorem normalForm_literally (h : NormalForm segments) (pieces : List IndexedPiece) :
    NormalForm (literally brackets pieces segments) := by
  induction pieces with
  | nil => exact h
  | cons piece pieces ih => exact normalForm_consSegment ih _

theorem normalForm_optional (h : NormalForm segments) {pieces : List IndexedPiece}
    (hslot : hasSlot pieces = true) :
    NormalForm (.optional (blockParts brackets pieces) :: segments) where
  coalesced := coalesced_cons_iff.mpr
    ⟨nofun, fun htext => absurd htext (not_isText_optional _), h.coalesced⟩
  bodies body hbody := by
    rcases List.mem_cons.mp hbody with hsame | hmem
    · cases hsame
      refine ⟨?_, exists_slot_mem_iff.mpr ?_⟩
      · rw [map_blockParts]
        exact (normalForm_literally normalForm_nil pieces).coalesced
      · rw [hasSlot_map_part, filterMap_blockParts, ← hasSlot_eq_any]
        exact hslot
    · exact h.bodies body hmem

theorem normalForm_segments (brackets : Brackets) (pieces : List IndexedPiece) :
    NormalForm (Template.segments brackets pieces) := by
  induction pieces using induction_on_blocks with
  | nil =>
    rw [Template.segments]
    exact normalForm_nil
  | part content rest ih =>
    rw [Template.segments]
    exact normalForm_consSegment ih _
  | closing rest ih =>
    rw [Template.segments]
    exact normalForm_consSegment ih _
  | unclosed body hbody =>
    rw [segments_unclosed hbody]
    exact normalForm_literally normalForm_nil _
  | block body rest hbody ih =>
    rw [segments_block hbody]
    split
    · rename_i hslot
      exact normalForm_optional ih hslot
    · exact normalForm_literally ih _

/-- Segments in normal form are what their own pieces are put together to. -/
theorem segments_pieces (h : NormalForm segments) :
    Template.segments brackets (segments.flatMap Segment.pieces) = segments := by
  induction segments with
  | nil =>
    rw [List.flatMap_nil, Template.segments]
  | cons segment segments ih =>
    rw [List.flatMap_cons]
    cases segment with
    | always part =>
      rw [Segment.pieces, List.singleton_append, Template.segments, ih h.of_cons]
      exact consSegment_of_coalesced h.coalesced
    | optional body =>
      obtain ⟨hcoalesced, hslot⟩ := h.bodies body List.mem_cons_self
      rw [Segment.pieces, segments_block (by simp), if_pos (exists_slot_mem_iff.mp hslot),
        blockParts_of_coalesced hcoalesced, ih h.of_cons]

/-! ## Slots -/

theorem flatMap_slots_consSegment (part : Part) (segments : List Segment) :
    (consSegment part segments).flatMap slots = part.index?.toList ++ segments.flatMap slots := by
  unfold consSegment
  split
  · rfl
  · split
    · rfl
    · split <;> rfl

theorem flatMap_slots_literally (pieces : List IndexedPiece) (segments : List Segment) :
    (literally brackets pieces segments).flatMap slots =
      pieces.filterMap IndexedPiece.index? ++ segments.flatMap slots := by
  rw [List.filterMap_eq_flatMap_toList]
  induction pieces with
  | nil => rfl
  | cons piece pieces ih =>
    rw [literally_cons, flatMap_slots_consSegment, ih, index?_literal, List.flatMap_cons,
      List.append_assoc]

theorem filterMap_block (body : List IndexedPiece) :
    (block body).filterMap IndexedPiece.index? = body.filterMap IndexedPiece.index? := by
  rw [block, List.filterMap_cons_none rfl, List.filterMap_append]
  exact List.append_nil _

/-- The slots come in the order of the pieces, those of a block in the place of the block. -/
theorem flatMap_slots_segments (brackets : Brackets) (pieces : List IndexedPiece) :
    (Template.segments brackets pieces).flatMap slots =
      pieces.filterMap IndexedPiece.index? := by
  induction pieces using induction_on_blocks with
  | nil =>
    rw [Template.segments]
    rfl
  | part content rest ih =>
    rw [Template.segments, flatMap_slots_consSegment, ih]
    cases content <;> rfl
  | closing rest ih =>
    rw [Template.segments, flatMap_slots_consSegment, ih]
    rfl
  | unclosed body hbody =>
    rw [segments_unclosed hbody, flatMap_slots_literally]
    exact List.append_nil _
  | block body rest hbody ih =>
    rw [segments_block hbody, List.filterMap_append, filterMap_block, ← ih]
    split
    · rw [List.flatMap_cons, slots, filterMap_blockParts]
    · rw [flatMap_slots_literally, filterMap_block]

/-- The segments of any pieces are in normal form.  Their slots, in blocks or not, have the indices
that are given for the markers, in order and one for each; indices that are left over are not used.
The form says all there is to say: every list of segments that has it comes from some pieces. -/
theorem segments_normalForm (brackets : Brackets) :
    (∀ (pieces : List Piece) (names : List Index),
      let segments := Template.segments brackets (indexedPieces pieces names)
      NormalForm segments ∧ segments.flatMap slots = names.take (markers pieces).length) ∧
    ∀ segments, NormalForm segments ↔
      ∃ pieces, Template.segments brackets pieces = segments := by
  refine ⟨fun pieces names => ⟨normalForm_segments brackets _, ?_⟩, fun segments => ⟨?_, ?_⟩⟩
  · rw [flatMap_slots_segments, slots_indexedPieces_eq_take]
  · exact fun h => ⟨segments.flatMap Segment.pieces, segments_pieces h⟩
  · rintro ⟨pieces, rfl⟩
    exact normalForm_segments brackets pieces

end Template

end SqlTemplate
