import Mathlib.Data.List.TakeWhile
import SqlTemplate.Proofs.Block

/-!
# Segments and what they write

How the segments of some pieces are put together, and what is written for them.

* `induction_on_blocks`: pieces are taken apart from the front the way `segments` does it,
  a piece or a whole block at a time.
* `segments_unclosed` and `segments_block`: what becomes of an opening bracket.
* `join_consSegment`, `join_literally` and `writeParts_blockParts`: joining texts and
  leaving out empty ones changes nothing of what is written, whatever stands for the slots.
  `render_consSegment` and `render_literally` say so of bound texts.
* `mem_consSegment_iff_of_ne`: it changes none of the segments that are no text.
  `filterMap_blockParts`: nor does it change which slots a block has.
* `map_consPart`: the parts of a block are put together like segments.
-/

namespace SqlTemplate.Template

/-! ## Taking pieces apart -/

/-- A property of all lists of pieces, shown for one piece or one block at the front. -/
@[elab_as_elim]
theorem induction_on_blocks {motive : List IndexedPiece → Prop} (pieces : List IndexedPiece)
    (nil : motive [])
    (part : ∀ content rest, motive rest → motive (.part content :: rest))
    (closing : ∀ rest, motive rest → motive (.closing :: rest))
    (unclosed : ∀ body, .closing ∉ body → motive (.opening :: body))
    (block : ∀ body rest, .closing ∉ body → motive rest → motive (block body ++ rest)) :
    motive pieces := by
  induction hlength : pieces.length using Nat.strongRecOn generalizing pieces with
  | ind n ih =>
    cases pieces with
    | nil => exact nil
    | cons piece rest =>
      simp only [List.length_cons] at hlength
      cases piece with
      | part content => exact part content rest (ih rest.length (by omega) rest rfl)
      | closing => exact closing rest (ih rest.length (by omega) rest rfl)
      | opening =>
        by_cases hmem : .closing ∈ rest
        · obtain ⟨body, others, rfl, hbody⟩ := List.eq_append_cons_of_mem hmem
          have hothers : others.length < n := by
            simp only [List.length_append, List.length_cons] at hlength
            omega
          have hblock := block body others hbody (ih others.length hothers others rfl)
          simpa [Template.block] using hblock
        · exact unclosed rest hmem

variable {brackets : Brackets}

section Blocks

variable {body : List IndexedPiece}

theorem pass_of_not_mem (hbody : .closing ∉ body) :
    ∀ piece ∈ body, decide (piece ≠ .closing) = true := by
  intro piece hpiece
  refine decide_eq_true fun hsame => hbody ?_
  rw [← hsame]
  exact hpiece

theorem segments_unclosed (hbody : .closing ∉ body) :
    segments brackets (.opening :: body) = literally brackets (.opening :: body) [] := by
  have hpass := pass_of_not_mem hbody
  rw [segments]
  simp only [List.takeWhile_eq_self_iff.mpr hpass, List.dropWhile_eq_nil_iff.mpr hpass,
    List.isEmpty_nil, if_true]

theorem segments_block (hbody : .closing ∉ body) (rest : List IndexedPiece) :
    segments brackets (block body ++ rest) =
      if hasSlot body then .optional (blockParts brackets body) :: segments brackets rest
      else literally brackets (block body) (segments brackets rest) := by
  have hpass := pass_of_not_mem hbody
  have hpieces : block body ++ rest = .opening :: (body ++ .closing :: rest) := by
    simp [block]
  have hbodyPart : (body ++ .closing :: rest).takeWhile (· ≠ .closing) = body := by
    rw [List.takeWhile_append_of_pos hpass]
    simp
  have htail : (body ++ .closing :: rest).dropWhile (· ≠ .closing) = .closing :: rest := by
    rw [List.dropWhile_append_of_pos hpass]
    simp
  rw [hpieces, segments]
  simp only [hbodyPart, htail, List.isEmpty_cons, List.drop_succ_cons, List.drop_zero]
  rfl

end Blocks

/-! ## Parts in front -/

theorem literally_cons (piece : IndexedPiece) (body : List IndexedPiece)
    (segments : List Segment) :
    literally brackets (piece :: body) segments =
      consSegment (literal brackets piece) (literally brackets body segments) :=
  rfl

theorem blockParts_cons (piece : IndexedPiece) (body : List IndexedPiece) :
    blockParts brackets (piece :: body) =
      consPart (literal brackets piece) (blockParts brackets body) :=
  rfl

/-- A part in front of others is put there as in front of segments. -/
theorem map_consPart (part : Part) (parts : List Part) :
    (consPart part parts).map .always = consSegment part (parts.map .always) := by
  cases part with
  | slot index => rfl
  | text content =>
    show (if content = "" then parts else _).map Segment.always = if content = "" then _ else _
    split
    · rfl
    · rcases parts with _ | ⟨_ | _, others⟩ <;> rfl

/-- Segments that are no text stay when a part is put in front. -/
theorem mem_consSegment_iff_of_ne {segment : Segment}
    (hsegment : ∀ content, segment ≠ .always (.text content)) {part : Part}
    {segments : List Segment} :
    segment ∈ consSegment part segments ↔ segment = .always part ∨ segment ∈ segments := by
  unfold consSegment
  split
  · exact List.mem_cons
  · split
    · simp [hsegment]
    · split <;> simp [hsegment]

/-! ## What is written -/

section Writing

variable {fill : Index → String} {write : Segment → String}

theorem writeParts_cons (fill : Index → String) (part : Part) (parts : List Part) :
    writeParts fill (part :: parts) = writePart fill part ++ writeParts fill parts := by
  rw [writeParts, List.map_cons, String.join_cons]
  rfl

theorem writeParts_consPart (fill : Index → String) (part : Part) (parts : List Part) :
    writeParts fill (consPart part parts) = writePart fill part ++ writeParts fill parts := by
  unfold consPart
  split
  · exact writeParts_cons fill _ parts
  · split
    · rename_i hempty
      rw [hempty]
      simp [writePart]
    · split
      · rw [writeParts_cons, writeParts_cons, ← String.append_assoc]
        rfl
      · exact writeParts_cons fill _ parts

theorem writeParts_blockParts (fill : Index → String) (body : List IndexedPiece) :
    writeParts fill (blockParts brackets body) = writeParts fill (body.map (literal brackets)) := by
  induction body with
  | nil => rfl
  | cons piece rest ih =>
    rw [List.map_cons, writeParts_cons, ← ih]
    exact writeParts_consPart fill _ _

/-- A part in front of segments is written in front of them, joined or not. -/
theorem join_consSegment (halways : ∀ part, write (.always part) = writePart fill part)
    (part : Part) (segments : List Segment) :
    String.join ((consSegment part segments).map write) =
      writePart fill part ++ String.join (segments.map write) := by
  unfold consSegment
  split
  · rw [List.map_cons, String.join_cons, halways]
  · split
    · rename_i hempty
      rw [hempty]
      simp [writePart]
    · split
      · rw [List.map_cons, List.map_cons, String.join_cons, String.join_cons, halways, halways,
          ← String.append_assoc]
        rfl
      · rw [List.map_cons, String.join_cons, halways]

theorem join_literally (halways : ∀ part, write (.always part) = writePart fill part)
    (body : List IndexedPiece) (segments : List Segment) :
    String.join ((literally brackets body segments).map write) =
      writeParts fill (body.map (literal brackets)) ++ String.join (segments.map write) := by
  induction body with
  | nil => exact String.empty_append.symm
  | cons piece rest ih =>
    rw [List.map_cons, writeParts_cons, String.append_assoc, ← ih]
    exact join_consSegment halways _ _

end Writing

/-! ## Rendering -/

variable {bound : Index → Option String}

theorem render_cons (segment : Segment) (segments : List Segment) :
    render bound (segment :: segments) = renderSegment bound segment ++ render bound segments := by
  rw [render, List.map_cons, String.join_cons]
  rfl

theorem render_consSegment (part : Part) (segments : List Segment) :
    render bound (consSegment part segments) =
      writePart (fun index => (bound index).getD "") part ++ render bound segments :=
  join_consSegment (fun _ => rfl) part segments

/-- The text of a piece by itself: that of a marker is the bound text, or nothing. -/
def ownText (brackets : Brackets) (bound : Index → Option String) : IndexedPiece → String
  | .part (.text content) => content
  | .part (.slot index) => (bound index).getD ""
  | .opening => brackets.opening
  | .closing => brackets.closing

theorem writePart_literal (piece : IndexedPiece) :
    writePart (fun index => (bound index).getD "") (literal brackets piece) =
      ownText brackets bound piece := by
  rcases piece with (content | index) | _ | _ <;> rfl

theorem writeParts_literal (body : List IndexedPiece) :
    writeParts (fun index => (bound index).getD "") (body.map (literal brackets)) =
      String.join (body.map (ownText brackets bound)) := by
  rw [writeParts, List.map_map]
  exact congrArg String.join (List.map_congr_left fun piece _ => writePart_literal piece)

theorem render_literally (body : List IndexedPiece) (segments : List Segment) :
    render bound (literally brackets body segments) =
      String.join (body.map (ownText brackets bound)) ++ render bound segments := by
  rw [← writeParts_literal]
  exact join_literally (fun _ => rfl) body segments

/-! ## Slots -/

theorem filterMap_consPart (part : Part) (parts : List Part) :
    (consPart part parts).filterMap Part.index? =
      part.index?.toList ++ parts.filterMap Part.index? := by
  unfold consPart
  split
  · rfl
  · split
    · rfl
    · split <;> rfl

/-- A piece has the same index as the part that it is read as. -/
theorem index?_literal (piece : IndexedPiece) :
    (literal brackets piece).index? = piece.index? := by
  cases piece <;> rfl

theorem filterMap_blockParts (body : List IndexedPiece) :
    (blockParts brackets body).filterMap Part.index? = body.filterMap IndexedPiece.index? := by
  induction body with
  | nil => rfl
  | cons piece rest ih =>
    rw [blockParts_cons, filterMap_consPart, ih, index?_literal]
    cases hindex : piece.index? with
    | none => rw [List.filterMap_cons_none hindex]; rfl
    | some index => rw [List.filterMap_cons_some hindex]; rfl

end SqlTemplate.Template
