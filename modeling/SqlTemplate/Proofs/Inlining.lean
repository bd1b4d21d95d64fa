import SqlTemplate.Proofs.Separator
import SqlTemplate.Proofs.Within

/-!
# Blocks as inlining or deletion

A call on a template with a block in it is a call on another template, one with the body of
the block in its place or one without it.

* `merged_scan_enclosed`, `merged_scan_inlined` and `merged_scan_deleted` say how the three
  templates are scanned, and `segments_enclosed` and so on what their segments are.
* `Splits` says how a text is parted.  From it come the indices that the three templates
  expose, and how they are read: `Splits.reading_inlined`, `Splits.reading_deleted`.
* `Query.render_inlined` and `Query.render_deleted` go from one rendering to another, and
  `Query.map_inlined_or_deleted` puts them together for a call.
-/

namespace SqlTemplate

namespace Template

/-! ## Scanning around a block -/

section Scanning

variable (front body back : String)

/-- A text and what follows behind a blank are scanned apart from each other. -/
theorem merged_scan_space {rest : List Piece} (h : merged (scan .square back) = merged rest) :
    merged (scan .square (front ++ " " ++ back)) =
      merged (scan .square front ++ .text " " :: rest) :=
  merged_scan_separated separates_space front h

theorem merged_scan_enclosed :
    merged (scan .square (front ++ " [ " ++ body ++ " ] " ++ back)) =
      merged (scan .square front ++ .text " " :: .opening :: .text " " ::
        (scan .square body ++ .text " " :: .closing :: .text " " :: scan .square back)) := by
  have hsource : front ++ " [ " ++ body ++ " ] " ++ back =
      front ++ " " ++ Brackets.square.opening ++ " " ++ body ++ " " ++ Brackets.square.closing ++
        " " ++ back := by
    simp [String.append_assoc, Brackets.square]
  rw [hsource]
  exact merged_scan_block separates_space (by decide) front body back

theorem merged_scan_inlined :
    merged (scan .square (front ++ "  " ++ body ++ "  " ++ back)) =
      merged (scan .square front ++ .text " " :: .text " " ::
        (scan .square body ++ .text " " :: .text " " :: scan .square back)) := by
  have hsource : front ++ "  " ++ body ++ "  " ++ back =
      front ++ " " ++ ("" ++ " " ++ (body ++ " " ++ ("" ++ " " ++ back))) := by
    simp [String.append_assoc, ← String.toList_inj]
  rw [hsource]
  apply merged_scan_space
  rw [merged_scan_space "" _ (merged_scan_space body _ (merged_scan_space "" back rfl)),
    scan_empty]
  rfl

theorem merged_scan_deleted :
    merged (scan .square (front ++ "  " ++ back)) =
      merged (scan .square front ++ .text " " :: .text " " :: scan .square back) := by
  have hsource : front ++ "  " ++ back = front ++ " " ++ ("" ++ " " ++ back) := by
    simp [String.append_assoc, ← String.toList_inj]
  rw [hsource]
  apply merged_scan_space
  rw [merged_scan_space "" back rfl, scan_empty]
  rfl

theorem markers_enclosed :
    markers (scan .square (front ++ " [ " ++ body ++ " ] " ++ back)) =
      markers (scan .square front) ++
        (markers (scan .square body) ++ markers (scan .square back)) := by
  rw [← markers_merged, merged_scan_enclosed, markers_merged, markers_append]
  exact congrArg (markers (scan .square front) ++ ·) (markers_append _ _)

theorem markers_inlined :
    markers (scan .square (front ++ "  " ++ body ++ "  " ++ back)) =
      markers (scan .square front) ++
        (markers (scan .square body) ++ markers (scan .square back)) := by
  rw [← markers_merged, merged_scan_inlined, markers_merged, markers_append]
  exact congrArg (markers (scan .square front) ++ ·) (markers_append _ _)

theorem markers_deleted :
    markers (scan .square (front ++ "  " ++ back)) =
      markers (scan .square front) ++ markers (scan .square back) := by
  rw [← markers_merged, merged_scan_deleted, markers_merged, markers_append]
  rfl

end Scanning

/-! ## Segments around a block -/

/-- A text in three parts with the middle one to be put in a block of its own. -/
structure Splits (front body back : String) : Prop where
  /-- Every marker has a name. -/
  front_explicit : Explicit (markers (scan .square front))
  body_explicit : Explicit (markers (scan .square body))
  back_explicit : Explicit (markers (scan .square back))
  /-- The body has a marker and no brackets. -/
  marked : markers (scan .square body) ≠ []
  opening : '[' ∉ body.toList
  closing : ']' ∉ body.toList
  /-- Every opening bracket in front has a closing bracket behind it. -/
  settled : ∀ i : Nat, (scan .square front)[i]? = some .opening →
    ∃ j, i < j ∧ (scan .square front)[j]? = some .closing

section Segments

/-- The pieces of a text with a blank behind it. -/
def before (front : String) : List IndexedPiece :=
  indexed .square front ++ [.part (.text " ")]

/-- The pieces of a text between blanks. -/
def between (body : String) : List IndexedPiece :=
  .part (.text " ") :: (indexed .square body ++ [.part (.text " ")])

/-- The pieces of a text with a blank in front of it. -/
def behind (back : String) : List IndexedPiece :=
  .part (.text " ") :: indexed .square back

variable {front body back : String}

/-- The pieces of three texts, with pieces between that are no markers. -/
theorem Splits.withIndices_three (h : Splits front body back) {first second : List Piece}
    (hfirst : markers first = []) (hsecond : markers second = []) :
    withIndices (scan .square front ++ (first ++
        (scan .square body ++ (second ++ scan .square back)))) =
      indexed .square front ++ (withIndices first ++
        (indexed .square body ++ (withIndices second ++ indexed .square back))) := by
  have hnone : ∀ {pieces}, markers pieces = [] → Explicit (markers pieces) := by
    intro pieces hpieces
    rw [hpieces]
    exact List.forall_mem_nil _
  have htail : Explicit (markers (second ++ scan .square back)) := by
    rw [markers_append, explicit_append]
    exact ⟨hnone hsecond, h.back_explicit⟩
  have hmiddle : Explicit (markers (scan .square body ++ (second ++ scan .square back))) := by
    rw [markers_append, explicit_append]
    exact ⟨h.body_explicit, htail⟩
  have hrest : Explicit (markers (first ++
      (scan .square body ++ (second ++ scan .square back)))) := by
    rw [markers_append, explicit_append]
    exact ⟨hnone hfirst, hmiddle⟩
  rw [withIndices_append h.front_explicit hrest, withIndices_append (hnone hfirst) hmiddle,
    withIndices_append h.body_explicit htail, withIndices_append (hnone hsecond) h.back_explicit]
  rfl

/-- A text that is scanned as some pieces but for the cuts has their segments. -/
theorem segments_indexed {source : String} {pieces : List Piece} {others : List IndexedPiece}
    (hmerged : merged (scan .square source) = merged pieces)
    (hothers : withIndices pieces = others) :
    segments .square (indexed .square source) = segments .square others := by
  rw [← hothers]
  exact segments_withIndices_congr hmerged

theorem segments_enclosed (h : Splits front body back) :
    segments .square (indexed .square (front ++ " [ " ++ body ++ " ] " ++ back)) =
      segments .square (before front ++ (block (between body) ++ behind back)) := by
  apply segments_indexed (merged_scan_enclosed front body back)
  refine (h.withIndices_three (show markers [.text " ", .opening, .text " "] = [] from rfl)
    (show markers [.text " ", .closing, .text " "] = [] from rfl)).trans ?_
  simp [before, between, behind, block, withIndices, indexedPieces]

theorem segments_inlined (h : Splits front body back) :
    segments .square (indexed .square (front ++ "  " ++ body ++ "  " ++ back)) =
      segments .square (before front ++ (between body ++ behind back)) := by
  apply segments_indexed (merged_scan_inlined front body back)
  refine (h.withIndices_three (show markers [.text " ", .text " "] = [] from rfl)
    (show markers [.text " ", .text " "] = [] from rfl)).trans ?_
  simp [before, between, behind, withIndices, indexedPieces]

theorem segments_deleted (h : Splits front body back) :
    segments .square (indexed .square (front ++ "  " ++ back)) =
      segments .square (before front ++ behind back) := by
  apply segments_indexed (merged_scan_deleted front back)
  refine (withIndices_append h.front_explicit
    (show Explicit (markers (.text " " :: .text " " :: scan .square back)) from
      h.back_explicit)).trans ?_
  rw [before, behind, List.append_assoc]
  rfl

/-! ## Exposed indices and readings -/

theorem Agree.bracket_iff {piece : Piece} {other : IndexedPiece} (h : Agree piece other) :
    (piece = .opening ↔ other = .opening) ∧ (piece = .closing ↔ other = .closing) := by
  rcases piece with _ | _ | _ | _ <;> rcases other with (_ | _) | _ | _ <;> simp [Agree] at h ⊢

theorem getElem?_of_agree {pieces : List Piece} {others : List IndexedPiece}
    (h : List.Forall₂ Agree pieces others) (i : Nat) :
    (pieces[i]? = some .opening ↔ others[i]? = some .opening) ∧
      (pieces[i]? = some .closing ↔ others[i]? = some .closing) := by
  induction h generalizing i with
  | nil => simp
  | cons hagree _ ih =>
    cases i with
    | zero => simpa using hagree.bracket_iff
    | succ i => exact ih i

theorem mem_indexed_iff (brackets : Brackets) (source : String) :
    (.opening ∈ scan brackets source ↔ .opening ∈ indexed brackets source) ∧
      (.closing ∈ scan brackets source ↔ .closing ∈ indexed brackets source) := by
  have hagree := getElem?_of_agree (forall₂_indexed brackets source)
  simp only [List.mem_iff_getElem?]
  exact ⟨exists_congr fun i => (hagree i).1, exists_congr fun i => (hagree i).2⟩

/-- Pieces with the same segments expose the same indices. -/
theorem exposed_iff_of_segments_eq {brackets : Brackets} {first second : List IndexedPiece}
    (h : segments brackets first = segments brackets second) {index : Index} :
    Exposed first index ↔ Exposed second index := by
  rw [← mem_segments_iff brackets, h, mem_segments_iff]

section Splits

variable (h : Splits front body back)

include h

theorem Splits.settled_before : Settled (before front) := by
  have hagree := getElem?_of_agree (forall₂_indexed .square front)
  have hfront : Settled (indexed .square front) := by
    intro i hi
    obtain ⟨j, hlt, hj⟩ := h.settled i ((hagree i).1.mpr hi)
    exact ⟨j, hlt, (hagree j).2.mp hj⟩
  exact hfront.append (settled_of_not_mem_opening (by simp))

theorem Splits.not_mem_between : .opening ∉ between body ∧ .closing ∉ between body := by
  have hmem := mem_indexed_iff .square body
  constructor
  · intro hopening
    have hscan : .opening ∈ scan .square body := by
      rw [hmem.1]
      simpa [between] using hopening
    exact h.opening (source_subset_of_mem_scan (Or.inl rfl) hscan (List.mem_singleton_self '['))
  · intro hclosing
    have hscan : .closing ∈ scan .square body := by
      rw [hmem.2]
      simpa [between] using hclosing
    exact h.closing (source_subset_of_mem_scan (Or.inr rfl) hscan (List.mem_singleton_self ']'))

theorem Splits.slots_between : (between body).filterMap IndexedPiece.index? =
    (markers (scan .square body)).filterMap name? := by
  rw [← indices_of_explicit h.body_explicit, ← slots_indexed, between,
    List.filterMap_cons_none rfl, List.filterMap_append]
  exact List.append_nil _

variable {bound : Index → Option String} {index : Index}

theorem Splits.hasSlot_between : hasSlot (between body) = true := by
  rw [hasSlot_eq_any, h.slots_between]
  obtain ⟨marker, hmem⟩ := List.exists_mem_of_ne_nil _ h.marked
  obtain ⟨name, hname⟩ := Option.ne_none_iff_exists'.mp (h.body_explicit marker hmem)
  exact List.any_eq_true.mpr ⟨name, List.mem_filterMap.mpr ⟨marker, hmem, hname⟩, rfl⟩

theorem Splits.exposed_enclosed :
    Exposed (before front ++ (block (between body) ++ behind back)) index ↔
      Exposed (before front) index ∨ Exposed (behind back) index := by
  rw [exposed_append h.settled_before, exposed_append (settled_block _)]
  simp [not_exposed_block h.not_mem_between.2]

theorem Splits.exposed_inlined :
    Exposed (before front ++ (between body ++ behind back)) index ↔
      Exposed (before front) index ∨
        (index ∈ (markers (scan .square body)).filterMap name? ∨ Exposed (behind back) index) := by
  rw [exposed_append h.settled_before,
    exposed_append (settled_of_not_mem_opening h.not_mem_between.1),
    exposed_of_not_mem_closing h.not_mem_between.2, h.slots_between]

/-- With all of its markers bound a block is read as its body. -/
theorem Splits.reading_inlined
    (hbound : ∀ index ∈ (markers (scan .square body)).filterMap name?, bound index ≠ none) :
    reading .square bound (before front ++ (block (between body) ++ behind back)) =
      reading .square bound (before front ++ (between body ++ behind back)) := by
  have hall : ((between body).filterMap IndexedPiece.index?).all
      (fun index => (bound index).isSome) = true := by
    rw [h.slots_between, List.all_eq_true]
    intro index hmem
    exact Option.isSome_iff_ne_none.mpr (hbound index hmem)
  have hbody : reading .square bound (between body) =
      String.join ((between body).map (ownText .square bound)) :=
    reading_of_forall_not fun first last hholds =>
      not_isBlock_of_not_mem_closing h.not_mem_between.2 first last hholds.1
  rw [reading_append h.settled_before, reading_append h.settled_before,
    reading_append (settled_block _),
    reading_append (settled_of_not_mem_opening h.not_mem_between.1),
    reading_block h.not_mem_between.2 h.hasSlot_between, if_pos hall, hbody]

/-- With a marker that is not bound a block is read as nothing. -/
theorem Splits.reading_deleted
    (hunbound : ∃ index ∈ (markers (scan .square body)).filterMap name?, bound index = none) :
    reading .square bound (before front ++ (block (between body) ++ behind back)) =
      reading .square bound (before front ++ behind back) := by
  have hnot : ¬ ((between body).filterMap IndexedPiece.index?).all
      (fun index => (bound index).isSome) = true := by
    rw [h.slots_between, List.all_eq_true]
    intro hall
    obtain ⟨index, hmem, hnone⟩ := hunbound
    have hsome := hall index hmem
    rw [hnone] at hsome
    cases hsome
  rw [reading_append h.settled_before, reading_append h.settled_before,
    reading_append (settled_block _),
    reading_block h.not_mem_between.2 h.hasSlot_between, if_neg hnot, String.empty_append]

end Splits

end Segments

end Template

namespace Query

open Template

variable {config : Config} {front body back : String} {query : Query}
  {supply : List (Index × Value)} {log : CallLog} {text : String}

section Rendered

variable (hsquare : config.brackets = .square) (hsplits : Splits front body back)
  (h : new config (front ++ " [ " ++ body ++ " ] " ++ back) = .ok query)

include hsquare hsplits

theorem explicit_enclosed :
    Explicit (markers (scan config.brackets (front ++ " [ " ++ body ++ " ] " ++ back))) := by
  rw [hsquare, markers_enclosed, explicit_append, explicit_append]
  exact ⟨hsplits.front_explicit, hsplits.body_explicit, hsplits.back_explicit⟩

theorem markers_enclosed_ne_nil :
    markers (scan config.brackets (front ++ " [ " ++ body ++ " ] " ++ back)) ≠ [] := by
  rw [hsquare, markers_enclosed]
  simp [hsplits.marked]

include h

/-- The indices of the block are declared. -/
theorem mem_placeholders_of_body {index : Index}
    (hmem : index ∈ (markers (scan .square body)).filterMap name?) :
    index ∈ query.placeholders.map Placeholder.index := by
  rw [map_index_placeholders h, List.mem_eraseDups,
    indices_of_explicit (explicit_enclosed hsquare hsplits), hsquare, markers_enclosed,
    List.filterMap_append, List.filterMap_append]
  exact List.mem_append_right _ (List.mem_append_left _ hmem)

variable (hplain : ∀ pair ∈ supply, pair.2.Plain) (hrun : (query.render supply log).1.1 = .ok text)

include hplain hrun

theorem text_eq_reading : text = reading .square (query.text? config supply)
    (before front ++ (block (between body) ++ behind back)) := by
  obtain ⟨_, _, htext⟩ :=
    (render_eq_ok_iff h (markers_enclosed_ne_nil hsquare hsplits) hplain).mp hrun
  rwa [hsquare, segments_enclosed hsplits, render_segments] at htext

theorem supplied_of_exposed {index : Index}
    (hexposed : Exposed (before front) index ∨ Exposed (behind back) index) :
    index ∈ supply.map Prod.fst := by
  obtain ⟨hsupplied, _⟩ :=
    (render_eq_ok_iff h (markers_enclosed_ne_nil hsquare hsplits) hplain).mp hrun
  apply hsupplied
  rw [hsquare, exposed_iff_of_segments_eq (segments_enclosed hsplits), hsplits.exposed_enclosed]
  exact hexposed

theorem text?_of_body {index : Index}
    (hmem : index ∈ (markers (scan .square body)).filterMap name?) :
    query.text? config supply index = none ↔ query.LeavesUnbound supply index := by
  obtain ⟨_, haccepted, _⟩ :=
    (render_eq_ok_iff h (markers_enclosed_ne_nil hsquare hsplits) hplain).mp hrun
  exact text?_eq_none_iff hplain haccepted (mem_placeholders_of_body hsquare hsplits h hmem)

/-- A block with all of its indices bound can be replaced by its body. -/
theorem render_inlined (hbound : ∀ index ∈ (markers (scan .square body)).filterMap name?,
      ¬ query.LeavesUnbound supply index) :
    ∃ other, new config (front ++ "  " ++ body ++ "  " ++ back) = .ok other ∧
      ∀ before, (other.render supply before).1.1 = .ok text := by
  have hmarkers := markers_enclosed_ne_nil hsquare hsplits
  have hexplicit := explicit_enclosed hsquare hsplits
  have hsame : markers (scan config.brackets (front ++ "  " ++ body ++ "  " ++ back)) =
      markers (scan config.brackets (front ++ " [ " ++ body ++ " ] " ++ back)) := by
    rw [hsquare, markers_inlined, markers_enclosed]
  have hconsistent := (exists_new_iff config _).mp ⟨query, h⟩
  obtain ⟨other, hother, hrender⟩ := exists_render_of_subset h hexplicit hplain hrun hsame hmarkers
    (fun _ hmem => hmem) (fun _ hmem => hconsistent.exists_typed hexplicit hmem) (by
      intro index hexposed
      rw [hsquare, exposed_iff_of_segments_eq (segments_inlined hsplits), hsplits.exposed_inlined]
        at hexposed
      rcases hexposed with hfront | hbody | hback
      · exact supplied_of_exposed hsquare hsplits h hplain hrun (Or.inl hfront)
      · by_contra habsent
        exact hbound index hbody (Or.inl habsent)
      · exact supplied_of_exposed hsquare hsplits h hplain hrun (Or.inr hback))
  refine ⟨other, hother, fun before => ?_⟩
  rw [hrender, hsquare, segments_inlined hsplits, render_segments, ← hsplits.reading_inlined,
    ← text_eq_reading hsquare hsplits h hplain hrun]
  intro index hmem hnone
  exact hbound index hmem ((text?_of_body hsquare hsplits h hplain hrun hmem).mp hnone)

/-- A block with an index that is not bound can be left out, if what is left declares what it
refers to. -/
theorem render_deleted (hleft : ∃ index ∈ (markers (scan .square body)).filterMap name?,
      query.LeavesUnbound supply index)
    {others : List Marker}
    (hothers : others = markers (scan .square front) ++ markers (scan .square back))
    (hne : others ≠ [])
    (htyped : ∀ index ∈ others.filterMap name?, ∃ code, .typed (some index) code ∈ others) :
    ∃ other, new config (front ++ "  " ++ back) = .ok other ∧
      ∀ before, (other.render supply before).1.1 = .ok text := by
  have hmarkers : markers (scan config.brackets (front ++ "  " ++ back)) = others := by
    rw [hsquare, markers_deleted, hothers]
  have hsubset : ∀ marker ∈ others,
      marker ∈ markers (scan config.brackets (front ++ " [ " ++ body ++ " ] " ++ back)) := by
    intro marker hmem
    rw [hothers, List.mem_append] at hmem
    rw [hsquare, markers_enclosed, List.mem_append, List.mem_append]
    exact hmem.imp_right Or.inr
  obtain ⟨other, hother, hrender⟩ := exists_render_of_subset h (explicit_enclosed hsquare hsplits)
    hplain hrun hmarkers hne hsubset
    (fun index hmem => htyped index (List.mem_filterMap.mpr ⟨_, hmem, rfl⟩)) (by
      intro index hexposed
      rw [hsquare, exposed_iff_of_segments_eq (segments_deleted hsplits),
        exposed_append hsplits.settled_before] at hexposed
      exact supplied_of_exposed hsquare hsplits h hplain hrun hexposed)
  refine ⟨other, hother, fun before => ?_⟩
  rw [hrender, hsquare, segments_deleted hsplits, render_segments, ← hsplits.reading_deleted,
    ← text_eq_reading hsquare hsplits h hplain hrun]
  obtain ⟨index, hmem, hindex⟩ := hleft
  exact ⟨index, hmem, (text?_of_body hsquare hsplits h hplain hrun hmem).mpr hindex⟩

end Rendered

/-- When a text in three parts renders with the middle one in a block, it renders the same
with that part in place of the block if the values bind all of its indices, and without it if
they leave one unbound.  For the latter the other two parts must have a marker, and a typed
one for each index that they have. -/
theorem map_inlined_or_deleted (hsquare : config.brackets = .square)
    (hsplits : Splits front body back)
    (h : new config (front ++ " [ " ++ body ++ " ] " ++ back) = .ok query)
    {pairs : List (Key × Value)} (hplain : ∀ pair ∈ pairs, pair.2.Plain)
    (hrun : (query.map pairs log).1.1 = .ok text) :
    let supply := pairs.map fun (key, value) => (Index.ofKey key, value)
    let names := (markers (scan .square body)).filterMap name?
    let others := markers (scan .square front) ++ markers (scan .square back)
    ((∀ index ∈ names, ¬ query.LeavesUnbound supply index) →
      ∃ other, new config (front ++ "  " ++ body ++ "  " ++ back) = .ok other ∧
        ∀ before, (other.map pairs before).1.1 = .ok text) ∧
    ((∃ index ∈ names, query.LeavesUnbound supply index) → others ≠ [] →
      (∀ index ∈ others.filterMap name?, ∃ code, .typed (some index) code ∈ others) →
      ∃ other, new config (front ++ "  " ++ back) = .ok other ∧
        ∀ before, (other.map pairs before).1.1 = .ok text) := by
  intro supply names others
  have hsupply : ∀ pair ∈ supply, pair.2.Plain := by
    intro pair hpair
    obtain ⟨entry, hentry, rfl⟩ := List.mem_map.mp hpair
    exact hplain entry hentry
  constructor
  · intro hbound
    exact render_inlined hsquare hsplits h hsupply hrun hbound
  · intro hleft hne htyped
    exact render_deleted hsquare hsplits h hsupply hrun hleft rfl hne htyped

/-- A block in which a flag stands beside an index that is declared in front.  The flag is
turned on, and then off. -/
theorem map_inlined_or_deleted_flag :
    let config := Config.new Text.escapeStandard
    let front := "[k] a = x:i"
    let body := "AND {x} > 1 f:f"
    let back := "] \x7by?s\x7d"
    let pairs := fun value => [(.name "x", .scalar (.integer 2)), (.name "y", .scalar .null),
      (.name "f", .scalar value)]
    Splits front body back ∧
    ∃ query, new config (front ++ " [ " ++ body ++ " ] " ++ back) = .ok query ∧
      (query.map (pairs (.text "on")) []).1.1 = .ok "[k] a = 2  AND 2 > 1   ] NULL" ∧
      (∃ other, new config (front ++ "  " ++ body ++ "  " ++ back) = .ok other ∧
        (other.map (pairs (.text "on")) []).1.1 = .ok "[k] a = 2  AND 2 > 1   ] NULL") ∧
      (query.map (pairs (.integer 0)) []).1.1 = .ok "[k] a = 2  ] NULL" ∧
      ∃ other, new config (front ++ "  " ++ back) = .ok other ∧
        (other.map (pairs (.integer 0)) []).1.1 = .ok "[k] a = 2  ] NULL" := by
  intro config front body back pairs
  have hsplits : Splits front body back := by
    have hscan : scan .square front = [.opening, .text "k", .closing, .text " a = ",
        .marker (.typed (some (.name "x")) ⟨.colon, some 'i'⟩)] := by
      decide +kernel
    refine ⟨by decide +kernel, by decide +kernel, by decide +kernel, by decide +kernel,
      by decide, by decide, fun i hi => ⟨2, ?_, by rw [hscan]; rfl⟩⟩
    rw [hscan] at hi
    match i with
    | 0 => omega
    | 1 | 2 | 3 | 4 => simp at hi
    | _ + 5 => simp at hi
  have hplain : ∀ value, ∀ pair ∈ pairs value, pair.2.Plain := by
    simp [pairs, Value.Plain.scalar]
  have hread : ((new config (front ++ " [ " ++ body ++ " ] " ++ back)).toOption.map fun query =>
      decide ((query.map (pairs (.text "on")) []).1.1 = .ok "[k] a = 2  AND 2 > 1   ] NULL") &&
      decide ((query.map (pairs (.integer 0)) []).1.1 = .ok "[k] a = 2  ] NULL") &&
      query.placeholders.any fun placeholder =>
        decide (placeholder.index = .name "f" ∧ placeholder.type = .flag)) = some true := by
    decide +kernel
  refine ⟨hsplits, ?_⟩
  cases hnew : new config (front ++ " [ " ++ body ++ " ] " ++ back) with
  | error error =>
    rw [hnew] at hread
    cases hread
  | ok query =>
    rw [hnew] at hread
    obtain ⟨hruns, hany⟩ := (Bool.and_eq_true _ _).mp (Option.some.inj hread)
    obtain ⟨hon, hoff⟩ := (Bool.and_eq_true _ _).mp hruns
    replace hon := of_decide_eq_true hon
    replace hoff := of_decide_eq_true hoff
    obtain ⟨placeholder, hplaceholder, hflag⟩ := List.any_eq_true.mp hany
    obtain ⟨hindex, htype⟩ := of_decide_eq_true hflag
    have hnames : (markers (scan .square body)).filterMap name? = [.name "x", .name "f"] := by
      decide +kernel
    have hinlined := (map_inlined_or_deleted rfl hsplits hnew (hplain _) hon).1
    have hdeleted := (map_inlined_or_deleted rfl hsplits hnew (hplain _) hoff).2
    refine ⟨query, rfl, hon, ?_, hoff, ?_⟩
    · obtain ⟨other, hother, hrun⟩ := hinlined (by
        intro index hmem hleft
        have hindex : index = .name "x" ∨ index = .name "f" := by simpa [hnames] using hmem
        cases hleft with
        | inl habsent => rcases hindex with rfl | rfl <;> exact habsent (by decide)
        | inr hflagged =>
          obtain ⟨_, _, _, _, scalar, hlast, htruth⟩ := hflagged
          rcases hindex with rfl | rfl <;> cases hlast <;> cases htruth)
      exact ⟨other, hother, hrun []⟩
    · have htyped : markers (scan .square front) ++ markers (scan .square back) =
          [.typed (some (.name "x")) ⟨.colon, some 'i'⟩,
            .typed (some (.name "y")) ⟨.question, some 's'⟩] := by
        decide +kernel
      obtain ⟨other, hother, hrun⟩ := hdeleted
        ⟨.name "f", by rw [hnames]; decide,
          Or.inr ⟨placeholder, hplaceholder, hindex, htype, .integer 0, rfl, rfl⟩⟩
        (by decide +kernel) (by rw [htyped]; simp [name?])
      exact ⟨other, hother, hrun []⟩

/-- The markers of the two parts together do not count.  Without the block, blanks part them,
and a text without markers keeps its doubled sigils. -/
theorem map_deleted_ne :
    let config := Config.new Text.escapeStandard
    let front := "::\x7ba"
    let body := "b:i"
    let back := "\x7d"
    let others := markers (scan .square front) ++ markers (scan .square back)
    Splits front body back ∧ markers (scan .square (front ++ back)) ≠ [] ∧
      (∀ index ∈ others.filterMap name?, ∃ code, .typed (some index) code ∈ others) ∧
      ∃ query, new config (front ++ " [ " ++ body ++ " ] " ++ back) = .ok query ∧
        (∃ index ∈ (markers (scan .square body)).filterMap name?, query.LeavesUnbound [] index) ∧
        (query.map [] []).1.1 = .ok ":\x7ba  \x7d" ∧
        ∀ other, new config (front ++ "  " ++ back) = .ok other →
          (other.map [] []).1.1 ≠ .ok ":\x7ba  \x7d" := by
  intro config front body back others
  have hsplits : Splits front body back := by
    refine ⟨by decide +kernel, by decide +kernel, by decide +kernel, by decide +kernel,
      by decide, by decide, fun i hi => ?_⟩
    exact absurd (List.mem_of_getElem? hi) (by decide +kernel)
  have hothers : others = [] := by decide +kernel
  have hread : ((new config (front ++ " [ " ++ body ++ " ] " ++ back)).toOption.map fun query =>
      decide ((query.map [] []).1.1 = .ok ":\x7ba  \x7d")) = some true := by
    decide +kernel
  have hdeleted : ((new config (front ++ "  " ++ back)).toOption.map fun other =>
      decide ((other.map [] []).1.1 ≠ .ok ":\x7ba  \x7d")) = some true := by
    decide +kernel
  refine ⟨hsplits, by decide +kernel, by rw [hothers]; simp, ?_⟩
  cases hnew : new config (front ++ " [ " ++ body ++ " ] " ++ back) with
  | error error =>
    rw [hnew] at hread
    cases hread
  | ok query =>
    rw [hnew] at hread
    refine ⟨query, rfl, ⟨.name "b", by decide +kernel, Or.inl (by simp)⟩,
      of_decide_eq_true (Option.some.inj hread), fun other hother => ?_⟩
    rw [hother] at hdeleted
    exact of_decide_eq_true (Option.some.inj hdeleted)

end Query

end SqlTemplate
