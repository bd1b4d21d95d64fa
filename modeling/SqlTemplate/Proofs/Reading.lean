import SqlTemplate.Proofs.Call
import SqlTemplate.Proofs.Parsing
import SqlTemplate.Proofs.Segments

/-!
# What a template says

The text of a template under bound texts, read off its pieces position by position.

* `contribution` is what the piece at a position adds: nothing if it is a bracket of a
  block with a marker, or in a block with a marker that is not bound, and its own text
  otherwise.
* `reading` is what all pieces add, in order.
* `reading_append`: settled pieces are read apart from what follows them.
* `render_segments`: rendering the segments of some pieces gives their reading.
* `RenderCall.run_eq_reading`: so does every call that succeeds, under what it bound.
-/

namespace SqlTemplate

namespace Template

variable (brackets : Brackets) (bound : Index → Option String)

/-! ## Contributions -/

/-- The position is that of a bracket of a block with a marker. -/
def Delimits (pieces : List IndexedPiece) (k : Nat) : Prop :=
  (∃ last < pieces.length, BlockHolds (fun _ => true) pieces k last) ∨
    ∃ first < k, BlockHolds (fun _ => true) pieces first k

/-- The position is in a block with a marker that is not bound. -/
def IsDropped (pieces : List IndexedPiece) (k : Nat) : Prop :=
  ∃ first < k, ∃ last < pieces.length, k < last ∧
    BlockHolds (fun index => (bound index).isNone) pieces first last

instance (pieces : List IndexedPiece) (k : Nat) : Decidable (Delimits pieces k) :=
  inferInstanceAs (Decidable (_ ∨ _))

instance (pieces : List IndexedPiece) (k : Nat) : Decidable (IsDropped bound pieces k) :=
  inferInstanceAs (Decidable (∃ first < k, _))

/-- What the piece at a position adds to the text. -/
def contribution (pieces : List IndexedPiece) (k : Nat) : String :=
  if Delimits pieces k ∨ IsDropped bound pieces k then ""
  else (pieces[k]?.map (ownText brackets bound)).getD ""

/-- The text of some pieces. -/
def reading (pieces : List IndexedPiece) : String :=
  String.join ((List.range pieces.length).map (contribution brackets bound pieces))

variable {brackets bound} {pieces chunk rest : List IndexedPiece} {k : Nat}

theorem delimits_iff : Delimits pieces k ↔
    ∃ first last, BlockHolds (fun _ => true) pieces first last ∧ (k = first ∨ k = last) := by
  constructor
  · intro hor
    rcases hor with ⟨last, _, hholds⟩ | ⟨first, _, hholds⟩
    · exact ⟨k, last, hholds, Or.inl rfl⟩
    · exact ⟨first, k, hholds, Or.inr rfl⟩
  · intro hex
    obtain ⟨first, last, hholds, rfl | rfl⟩ := hex
    · exact Or.inl ⟨last, lt_length_of_getElem? hholds.1.closes, hholds⟩
    · exact Or.inr ⟨first, hholds.1.ordered, hholds⟩

theorem isDropped_iff : IsDropped bound pieces k ↔
    ∃ first last, BlockHolds (fun index => (bound index).isNone) pieces first last ∧
      (first < k ∧ k < last) := by
  constructor
  · intro hex
    obtain ⟨first, hfirst, last, _, hlast, hholds⟩ := hex
    exact ⟨first, last, hholds, hfirst, hlast⟩
  · intro hex
    obtain ⟨first, last, hholds, hfirst, hlast⟩ := hex
    exact ⟨first, hfirst, last, lt_length_of_getElem? hholds.1.closes, hlast, hholds⟩

/-! ## Pieces in a row -/

theorem contribution_append_of_lt (hsettled : Settled chunk) (hk : k < chunk.length) :
    contribution brackets bound (chunk ++ rest) k = contribution brackets bound chunk k := by
  have hdelimits : Delimits (chunk ++ rest) k ↔ Delimits chunk k := by
    rw [delimits_iff, delimits_iff]
    refine exists_blockHolds_append_of_lt hsettled (fun first last hlt hat => ?_) hk
    omega
  have hdropped : IsDropped bound (chunk ++ rest) k ↔ IsDropped bound chunk k := by
    rw [isDropped_iff, isDropped_iff]
    exact exists_blockHolds_append_of_lt hsettled (fun first last _ hat => by omega) hk
  simp only [contribution, hdelimits, hdropped, getElem?_append_of_lt hk]

theorem contribution_append_add (hsettled : Settled chunk) (k : Nat) :
    contribution brackets bound (chunk ++ rest) (chunk.length + k) =
      contribution brackets bound rest k := by
  have hdelimits : Delimits (chunk ++ rest) (chunk.length + k) ↔ Delimits rest k := by
    rw [delimits_iff, delimits_iff, exists_blockHolds_append_add hsettled]
    · simp
    · intro first last hlt hat
      omega
  have hdropped : IsDropped bound (chunk ++ rest) (chunk.length + k) ↔
      IsDropped bound rest k := by
    rw [isDropped_iff, isDropped_iff, exists_blockHolds_append_add hsettled]
    · simp
    · intro first last _ hat
      omega
  simp only [contribution, hdelimits, hdropped, getElem?_append_add]

/-- Settled pieces are read apart from what follows them. -/
theorem reading_append (hsettled : Settled chunk) :
    reading brackets bound (chunk ++ rest) =
      reading brackets bound chunk ++ reading brackets bound rest := by
  have hfront : (List.range chunk.length).map (contribution brackets bound (chunk ++ rest)) =
      (List.range chunk.length).map (contribution brackets bound chunk) :=
    List.map_congr_left fun k hk =>
      contribution_append_of_lt hsettled (List.mem_range.mp hk)
  have hback : ((List.range rest.length).map (chunk.length + ·)).map
        (contribution brackets bound (chunk ++ rest)) =
      (List.range rest.length).map (contribution brackets bound rest) := by
    rw [List.map_map]
    exact List.map_congr_left fun k _ => contribution_append_add hsettled k
  rw [reading, List.length_append, List.range_add, List.map_append, String.join_append, hfront,
    hback]
  rfl

/-! ## Pieces without a block -/

theorem map_getElem?_range (f : IndexedPiece → String) (pieces : List IndexedPiece) :
    (List.range pieces.length).map (fun k => (pieces[k]?.map f).getD "") = pieces.map f := by
  refine List.ext_getElem (by simp) fun k hk hother => ?_
  have hlength : k < pieces.length := by simpa using hk
  simp [hlength]

/-- Pieces among which no block has a marker add their own texts. -/
theorem reading_of_forall_not
    (h : ∀ first last, ¬ BlockHolds (fun _ => true) pieces first last) :
    reading brackets bound pieces = String.join (pieces.map (ownText brackets bound)) := by
  have hcontribution : ∀ k, contribution brackets bound pieces k =
      (pieces[k]?.map (ownText brackets bound)).getD "" := by
    intro k
    have hdelimits : ¬ Delimits pieces k := by
      rw [delimits_iff]
      intro hex
      obtain ⟨first, last, hholds, _⟩ := hex
      exact h first last hholds
    have hdropped : ¬ IsDropped bound pieces k := by
      rw [isDropped_iff]
      intro hex
      obtain ⟨first, last, ⟨hblock, m, hm, hlt, hslot⟩, _⟩ := hex
      refine h first last ⟨hblock, m, hm, hlt, ?_⟩
      cases hat : slotAt? pieces m with
      | none =>
        rw [hat] at hslot
        cases hslot
      | some index => rfl
    rw [contribution, if_neg (not_or.mpr ⟨hdelimits, hdropped⟩)]
  rw [reading, ← map_getElem?_range]
  exact congrArg String.join (List.map_congr_left fun k _ => hcontribution k)

theorem not_isBlock_of_not_mem_closing (h : .closing ∉ pieces) (first last : Nat) :
    ¬ IsBlock pieces first last :=
  fun hblock => h (List.mem_of_getElem? hblock.closes)

theorem not_isBlock_of_not_mem_opening (h : .opening ∉ pieces) (first last : Nat) :
    ¬ IsBlock pieces first last :=
  fun hblock => h (List.mem_of_getElem? hblock.opens)

theorem not_blockHolds_of_hasSlot_eq_false (h : hasSlot pieces = false) (test : Index → Bool)
    (first last : Nat) : ¬ BlockHolds test pieces first last := by
  intro hex
  obtain ⟨_, k, _, _, hslot⟩ := hex
  cases hpiece : pieces[k]? with
  | none => simp [slotAt?, hpiece] at hslot
  | some piece =>
    have hno := List.any_eq_false.mp h piece (List.mem_of_getElem? hpiece)
    rcases piece with (content | index) | _ | _ <;>
      simp [slotAt?, hpiece, IndexedPiece.index?, Part.index?] at hslot hno

/-! ## One block -/

theorem join_map_empty (positions : List Nat) : String.join (positions.map fun _ => "") = "" := by
  induction positions with
  | nil => rfl
  | cons k rest ih => rw [List.map_cons, String.join_cons, ih, String.empty_append]

section OneBlock

variable {body : List IndexedPiece}

theorem any_isNone_eq_false {indices : List Index} :
    (indices.any fun index => (bound index).isNone) = false ↔
      (indices.all fun index => (bound index).isSome) = true := by
  simp [List.any_eq_false, List.all_eq_true, Option.isSome_iff_ne_none]

theorem hasSlot_eq_any (body : List IndexedPiece) :
    hasSlot body = (body.filterMap IndexedPiece.index?).any fun _ => true := by
  induction body with
  | nil => rfl
  | cons piece rest ih =>
    rcases piece with (content | index) | _ | _ <;>
      simp [hasSlot, IndexedPiece.index?, Part.index?] at ih ⊢ <;> exact ih

theorem delimits_block (hbody : .closing ∉ body) (hslot : hasSlot body = true) :
    Delimits (block body) k ↔ k = 0 ∨ k = body.length + 1 := by
  rw [delimits_iff]
  constructor
  · intro hex
    obtain ⟨first, last, hblock, hat⟩ := hex
    obtain ⟨⟨rfl, rfl⟩, _⟩ := (blockHolds_block hbody).mp hblock
    exact hat
  · intro hat
    rw [hasSlot_eq_any] at hslot
    exact ⟨0, body.length + 1, (blockHolds_block hbody).mpr ⟨⟨rfl, rfl⟩, hslot⟩, hat⟩

theorem isDropped_block (hbody : .closing ∉ body) (hk : k < body.length) :
    IsDropped bound (block body) (k + 1) ↔
      ((body.filterMap IndexedPiece.index?).any fun index => (bound index).isNone) = true := by
  rw [isDropped_iff]
  constructor
  · intro hex
    obtain ⟨first, last, hblock, _⟩ := hex
    exact ((blockHolds_block hbody).mp hblock).2
  · intro hany
    exact ⟨0, body.length + 1, (blockHolds_block hbody).mpr ⟨⟨rfl, rfl⟩, hany⟩, by omega⟩

/-- Inside of a block everything adds its own text or nothing does. -/
theorem contribution_block (hbody : .closing ∉ body) (hslot : hasSlot body = true)
    (hk : k < body.length) :
    contribution brackets bound (block body) (k + 1) =
      if (body.filterMap IndexedPiece.index?).all fun index => (bound index).isSome then
        (body[k]?.map (ownText brackets bound)).getD ""
      else "" := by
  have hdelimits : ¬ Delimits (block body) (k + 1) := by
    rw [delimits_block hbody hslot]
    omega
  cases hall : (body.filterMap IndexedPiece.index?).all fun index => (bound index).isSome with
  | true =>
    have hkept : ¬ IsDropped bound (block body) (k + 1) := by
      rw [isDropped_block hbody hk, any_isNone_eq_false.mpr hall]
      decide
    rw [contribution, if_neg (not_or.mpr ⟨hdelimits, hkept⟩), getElem?_block_succ hk, if_pos rfl]
  | false =>
    have hdropped : IsDropped bound (block body) (k + 1) := by
      rw [isDropped_block hbody hk, ← Bool.not_eq_false, any_isNone_eq_false, hall]
      decide
    rw [contribution, if_pos (Or.inr hdropped), if_neg (by decide)]

/-- A block with markers adds what is inside, without its brackets, if all of them are
bound, and nothing otherwise. -/
theorem reading_block (hbody : .closing ∉ body) (hslot : hasSlot body = true) :
    reading brackets bound (block body) =
      if (body.filterMap IndexedPiece.index?).all fun index => (bound index).isSome then
        String.join (body.map (ownText brackets bound))
      else "" := by
  have hends : ∀ k, k = 0 ∨ k = body.length + 1 →
      contribution brackets bound (block body) k = "" := by
    intro k hk
    rw [contribution, if_pos (Or.inl ((delimits_block hbody hslot).mpr hk))]
  have hinside : reading brackets bound (block body) = String.join
      ((List.range body.length).map fun k => contribution brackets bound (block body) (k + 1)) := by
    rw [reading, length_block, List.range_succ_eq_map, List.range_succ]
    simp [String.join_append, hends 0 (Or.inl rfl), hends _ (Or.inr rfl), Function.comp_def]
  rw [hinside, List.map_congr_left fun k hk =>
    contribution_block hbody hslot (List.mem_range.mp hk)]
  split
  · rw [map_getElem?_range]
  · exact join_map_empty _

end OneBlock

/-! ## Rendering -/

theorem settled_of_not_mem_opening (h : .opening ∉ chunk) : Settled chunk :=
  fun _ hi => absurd (List.mem_of_getElem? hi) h

/-- A piece that is no opening bracket is read by itself. -/
theorem reading_cons {piece : IndexedPiece} (h : piece ≠ .opening) :
    reading brackets bound (piece :: rest) =
      ownText brackets bound piece ++ reading brackets bound rest := by
  have hmem : .opening ∉ [piece] := by
    rw [List.mem_singleton]
    exact h.symm
  rw [← List.singleton_append, reading_append (settled_of_not_mem_opening hmem),
    reading_of_forall_not fun first last hholds =>
      not_isBlock_of_not_mem_opening hmem first last hholds.1]
  simp

/-- Rendering the segments of some pieces gives the reading of the pieces. -/
theorem render_segments (brackets : Brackets) (bound : Index → Option String)
    (pieces : List IndexedPiece) :
    render bound (segments brackets pieces) = reading brackets bound pieces := by
  induction pieces using induction_on_blocks with
  | nil =>
    rw [segments]
    rfl
  | part content rest ih =>
    have hpart : IndexedPiece.part content ≠ .opening := by simp
    rw [segments, render_consSegment, ih, reading_cons hpart, ← writePart_literal]
    rfl
  | closing rest ih =>
    have hclosing : IndexedPiece.closing ≠ .opening := by simp
    rw [segments, render_consSegment, ih, reading_cons hclosing]
    rfl
  | unclosed body hbody =>
    have hclosing : .closing ∉ IndexedPiece.opening :: body := by
      rw [List.mem_cons, not_or]
      exact ⟨by simp, hbody⟩
    rw [segments_unclosed hbody, render_literally, reading_of_forall_not fun first last hholds =>
      not_isBlock_of_not_mem_closing hclosing first last hholds.1]
    exact String.append_empty
  | block body rest hbody ih =>
    rw [segments_block hbody, reading_append (settled_block body), ← ih]
    cases hslot : hasSlot body with
    | true =>
      rw [if_pos rfl, render_cons, reading_block hbody hslot, renderSegment, isBound,
        filterMap_blockParts, writeParts_blockParts, writeParts_literal]
    | false =>
      have hnone : hasSlot (block body) = false := by
        simpa [block, hasSlot] using hslot
      rw [if_neg (by decide), render_literally,
        reading_of_forall_not (not_blockHolds_of_hasSlot_eq_false hnone _)]

end Template

/-! ## Calls -/

namespace RenderCall

open Template

/-- The text of a call that succeeds is the reading of the scanned pieces under the texts
that the call bound.  A marker lies in a block exactly if some opening bracket is in front
of it with no closing bracket between, and some closing bracket follows. -/
theorem run_eq_reading {config : Config} {source : String} {query : Query}
    (h : Query.new config source = .ok query)
    (hmarkers : markers (scan config.brackets source) ≠ []) {call : RenderCall} {log : CallLog}
    {text : String} (hrun : (call.run query log).1.1 = .ok text) :
    let pieces := indexed config.brackets source
    List.Forall₂ Agree (scan config.brackets source) pieces ∧
      pieces.filterMap IndexedPiece.index? = indices (markers (scan config.brackets source)) ∧
      (∀ k index, slotAt? pieces k = some index →
        ((∃ first last, IsBlock pieces first last ∧ first < k ∧ k < last) ↔
          Enclosed pieces k)) ∧
      ∃ statement supply middle bound after, query.statement = some statement ∧
        call.supply query.canonical log = (.ok supply, middle) ∧
        Statement.bindAll config (Entries.collect supply) statement.placeholders middle =
          ((.ok (), bound), after) ∧
        text = reading config.brackets bound.bound? pieces := by
  intro pieces
  refine ⟨forall₂_indexed _ _, slots_indexed _ _, fun k index hslot => ?_, ?_⟩
  · refine exists_isBlock_iff fun hclosing => ?_
    rw [slotAt?, hclosing] at hslot
    cases hslot
  · obtain ⟨hconfig, statement, hstatement, _, hsegments⟩ := Query.new_eq_some h hmarkers
    obtain ⟨supply, middle, bound, after, hsupply, _, hbind, htext⟩ := run_eq_ok hstatement hrun
    rw [hconfig] at hbind
    refine ⟨statement, supply, middle, bound, after, hstatement, hsupply, hbind, ?_⟩
    rw [htext, hsegments, render_segments]

/-- Brackets around no marker stay, a block whose marker is bound loses its brackets, and
a block whose marker is not bound is left out. -/
theorem run_eq_reading_limit :
    let config := Config.new Text.escapeStandard
    let source := "SELECT a[1] [WHERE id = :i] [LIMIT :n]"
    let call := RenderCall.list [.scalar (.integer 7)]
    ∃ query, Query.new config source = .ok query ∧
      (call.run query []).1.1 = .ok "SELECT a[1] WHERE id = 7 " ∧
      ∃ statement supply middle bound after, query.statement = some statement ∧
        call.supply query.canonical [] = (.ok supply, middle) ∧
        Statement.bindAll config (Entries.collect supply) statement.placeholders middle =
          ((.ok (), bound), after) ∧
        "SELECT a[1] WHERE id = 7 " =
          reading config.brackets bound.bound? (indexed config.brackets source) := by
  intro config source call
  have hmarkers : markers (scan config.brackets source) ≠ [] := by decide +kernel
  have htext : ((Query.new config source).toOption.bind fun query =>
      (call.run query []).1.1.toOption) = some "SELECT a[1] WHERE id = 7 " := by
    decide +kernel
  cases hnew : Query.new config source with
  | error error =>
    rw [hnew] at htext
    cases htext
  | ok query =>
    rw [hnew] at htext
    have hrun : (call.run query []).1.1 = .ok "SELECT a[1] WHERE id = 7 " := by
      cases hresult : (call.run query []).1.1 with
      | error error =>
        simp only [Except.toOption, Option.bind_some, hresult] at htext
        cases htext
      | ok text =>
        simp only [Except.toOption, Option.bind_some, hresult] at htext
        exact congrArg Except.ok (Option.some.inj htext)
    exact ⟨query, rfl, hrun, (run_eq_reading hnew hmarkers hrun).2.2.2⟩

end RenderCall

end SqlTemplate
