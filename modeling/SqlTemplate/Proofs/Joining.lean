import SqlTemplate.Proofs.Parsing
import SqlTemplate.Proofs.Spans

/-!
# Where texts are cut

Segments join neighbouring texts, so it makes no difference to them where the scanner ended a
text and began another one.

* `joined` joins the neighbouring texts among pieces with indices; `indexedPieces_merged` says
  that it is `merged` with indices.
* `segments_joined`: joining texts changes no segment.
* `segments_withIndices_congr`: so pieces that are the same but for the cuts have the same
  segments.
-/

namespace SqlTemplate.Template

/-! ## Joined pieces -/

/-- Pieces with a piece in front of them.  A text joins the text that follows it. -/
def consPiece : IndexedPiece → List IndexedPiece → List IndexedPiece
  | .part (.text content), .part (.text next) :: rest => .part (.text (content ++ next)) :: rest
  | piece, pieces => piece :: pieces

/-- Pieces with neighbouring texts joined. -/
def joined (pieces : List IndexedPiece) : List IndexedPiece :=
  pieces.foldr consPiece []

theorem joined_cons (piece : IndexedPiece) (rest : List IndexedPiece) :
    joined (piece :: rest) = consPiece piece (joined rest) :=
  rfl

/-- A piece joins the text that follows it, or it is put in front. -/
theorem consPiece_cases (piece : IndexedPiece) (pieces : List IndexedPiece) :
    (∃ content next rest, piece = .part (.text content) ∧ pieces = .part (.text next) :: rest ∧
      consPiece piece pieces = .part (.text (content ++ next)) :: rest) ∨
    consPiece piece pieces = piece :: pieces := by
  unfold consPiece
  split
  · exact Or.inl ⟨_, _, _, rfl, rfl, rfl⟩
  · exact Or.inr rfl

theorem indexedPieces_consText (content : String) (pieces : List Piece) {names : List Index}
    (h : (markers pieces).length ≤ names.length) :
    indexedPieces (consText content pieces) names =
      consPiece (.part (.text content)) (indexedPieces pieces names) := by
  cases pieces with
  | nil => rfl
  | cons piece rest =>
    cases piece with
    | text | opening | closing => rfl
    | marker found =>
      cases names with
      | nil => exact absurd h (Nat.not_succ_le_zero _)
      | cons index names => rfl

theorem indexedPieces_merged {pieces : List Piece} {names : List Index}
    (h : (markers pieces).length ≤ names.length) :
    indexedPieces (merged pieces) names = joined (indexedPieces pieces names) := by
  induction pieces generalizing names with
  | nil => rfl
  | cons piece rest ih =>
    cases piece with
    | text content =>
      have hrest : (markers (merged rest)).length ≤ names.length := by
        rw [markers_merged]
        exact h
      rw [merged, indexedPieces_consText content _ hrest, ih h]
      rfl
    | opening | closing =>
      rw [merged, indexedPieces, ih h]
      rfl
    | marker found =>
      cases names with
      | nil => exact absurd h (Nat.not_succ_le_zero _)
      | cons index names =>
        rw [merged, indexedPieces, ih (Nat.le_of_succ_le_succ h)]
        rfl

/-! ## Joined texts in segments -/

theorem consSegment_append (first second : String) (segments : List Segment) :
    consSegment (.text (first ++ second)) segments =
      consSegment (.text first) (consSegment (.text second) segments) := by
  by_cases hfirst : first = ""
  · simp [consSegment, hfirst]
  by_cases hsecond : second = ""
  · simp [consSegment, hsecond]
  have happend : first ++ second ≠ "" := by simp [hfirst]
  rcases segments with _ | ⟨(_ | _) | _, _⟩ <;>
    simp [consSegment, hfirst, hsecond, String.append_assoc]

theorem consPart_append (first second : String) (parts : List Part) :
    consPart (.text (first ++ second)) parts =
      consPart (.text first) (consPart (.text second) parts) := by
  refine List.map_injective_iff.mpr (fun _ _ => Segment.always.inj) ?_
  rw [map_consPart, map_consPart, map_consPart, consSegment_append]

section Segments

variable {brackets : Brackets} {body : List IndexedPiece}

theorem segments_consPiece (piece : IndexedPiece) (pieces : List IndexedPiece) :
    segments brackets (consPiece piece pieces) = segments brackets (piece :: pieces) := by
  rcases consPiece_cases piece pieces with ⟨content, next, rest, rfl, rfl, hcons⟩ | hcons
  · rw [hcons, segments, segments, segments, consSegment_append]
  · rw [hcons]

/-- What is gathered from pieces is gathered from the joined ones, if it takes a text in one
piece as it takes it in two. -/
theorem foldr_joined {β : Type} {step : IndexedPiece → β → β}
    (hstep : ∀ first second later, step (.part (.text (first ++ second))) later =
      step (.part (.text first)) (step (.part (.text second)) later))
    (body : List IndexedPiece) (later : β) :
    (joined body).foldr step later = body.foldr step later := by
  induction body with
  | nil => rfl
  | cons piece rest ih =>
    rw [joined_cons, List.foldr_cons, ← ih]
    rcases consPiece_cases piece (joined rest) with ⟨content, next, others, rfl, hrest, h⟩ | h
    · rw [h, hrest]
      exact hstep _ _ _
    · rw [h, List.foldr_cons]

theorem literally_joined (body : List IndexedPiece) (segments : List Segment) :
    literally brackets (joined body) segments = literally brackets body segments := by
  rw [literally, literally, List.foldr_map, List.foldr_map]
  exact foldr_joined (fun _ _ _ => consSegment_append _ _ _) body segments

theorem blockParts_joined (body : List IndexedPiece) :
    blockParts brackets (joined body) = blockParts brackets body := by
  rw [blockParts, blockParts, List.foldr_map, List.foldr_map]
  exact foldr_joined (fun _ _ _ => consPart_append _ _ _) body []

theorem mem_joined_iff {piece : IndexedPiece} (hpiece : ∀ content, piece ≠ .part (.text content)) :
    piece ∈ joined body ↔ piece ∈ body := by
  induction body with
  | nil => rfl
  | cons first rest ih =>
    rw [joined_cons, List.mem_cons, ← ih]
    rcases consPiece_cases first (joined rest) with ⟨content, next, others, rfl, hrest, h⟩ | h
    · rw [h, hrest, List.mem_cons, List.mem_cons]
      simp [hpiece]
    · rw [h, List.mem_cons]

theorem hasSlot_joined (body : List IndexedPiece) : hasSlot (joined body) = hasSlot body := by
  rw [Bool.eq_iff_iff, hasSlot, hasSlot, List.any_eq_true, List.any_eq_true]
  refine exists_congr fun piece => and_congr_left fun hslot => mem_joined_iff ?_
  intro content htext
  rw [htext] at hslot
  cases hslot

/-- No text reaches across a bracket. -/
theorem consPiece_append_closing (piece : IndexedPiece) (pieces rest : List IndexedPiece) :
    consPiece piece (pieces ++ .closing :: rest) = consPiece piece pieces ++ .closing :: rest := by
  rcases pieces with _ | ⟨(_ | _) | _ | _, _⟩ <;> rcases piece with (_ | _) | _ | _ <;> rfl

theorem joined_append_closing (body rest : List IndexedPiece) :
    joined (body ++ .closing :: rest) = joined body ++ .closing :: joined rest := by
  induction body with
  | nil => rfl
  | cons piece body ih =>
    rw [List.cons_append, joined_cons, joined_cons, ih, consPiece_append_closing]

theorem joined_block (body rest : List IndexedPiece) :
    joined (block body ++ rest) = block (joined body) ++ joined rest := by
  have hpieces : ∀ body rest : List IndexedPiece,
      block body ++ rest = .opening :: (body ++ .closing :: rest) := by
    intro body rest
    simp [block]
  rw [hpieces, hpieces, joined_cons, joined_append_closing]
  rfl

/-- Joining texts changes no segment. -/
theorem segments_joined (brackets : Brackets) (pieces : List IndexedPiece) :
    segments brackets (joined pieces) = segments brackets pieces := by
  induction pieces using induction_on_blocks with
  | nil => rfl
  | part content rest ih =>
    rw [joined_cons, segments_consPiece, segments, segments, ih]
  | closing rest ih =>
    rw [joined_cons, segments_consPiece, segments, segments, ih]
  | unclosed body hbody =>
    have hjoined : .closing ∉ joined body := by
      rwa [mem_joined_iff (by simp)]
    rw [joined_cons, segments_consPiece, segments_unclosed hjoined, segments_unclosed hbody,
      ← literally_joined (.opening :: body)]
    rfl
  | block body rest hbody ih =>
    have hjoined : .closing ∉ joined body := by
      rwa [mem_joined_iff (by simp)]
    have hblock : block (joined body) = joined (block body) := by
      have hempty := joined_block body []
      rw [List.append_nil] at hempty
      rw [hempty]
      exact (List.append_nil _).symm
    rw [joined_block, segments_block hjoined, segments_block hbody, ih, hasSlot_joined,
      blockParts_joined, hblock, literally_joined]

end Segments

/-! ## Templates -/

/-- Pieces with the indices that their markers get. -/
def withIndices (pieces : List Piece) : List IndexedPiece :=
  indexedPieces pieces (indices (markers pieces))

/-- Pieces that differ only in where texts are cut have the same segments. -/
theorem segments_withIndices_congr {brackets : Brackets} {first second : List Piece}
    (h : merged first = merged second) :
    segments brackets (withIndices first) = segments brackets (withIndices second) := by
  have hmarkers : markers first = markers second := by
    rw [← markers_merged, h, markers_merged]
  have hlength : ∀ pieces, (markers pieces).length ≤ (indices (markers pieces)).length :=
    fun pieces => Nat.le_of_eq (length_indicesFrom _ _ _).symm
  have hjoined : joined (withIndices first) = joined (withIndices second) := by
    rw [withIndices, withIndices, ← indexedPieces_merged (hlength first),
      ← indexedPieces_merged (hlength second), h, hmarkers]
  rw [← segments_joined, hjoined, segments_joined]

end SqlTemplate.Template
