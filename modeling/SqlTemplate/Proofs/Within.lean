import SqlTemplate.Proofs.Explicit
import SqlTemplate.Proofs.Outcome

/-!
# Templates within templates

What a supply does for a template that declares no more than another one.

* `Template.reading_congr`: a text depends on what is bound to the markers that there are.
* `Query.Within` says that every placeholder of a template is one of another template, and of
  the same type.  `Query.within_of_subset` finds it by the markers.
* `Query.exists_render_of_subset`: a supply with which the other template renders is good for
  the template too, as long as nothing is missing, and it binds the same texts.
* `Query.LeavesUnbound` says for which indices a supply binds no text, and
  `Query.text?_eq_none_iff` that it does.
-/

namespace SqlTemplate

namespace Template

/-! ## Bound texts -/

section Congr

variable {pieces : List IndexedPiece} {first second : Index → Option String}

theorem blockHolds_congr {test other : Index → Bool}
    (h : ∀ index ∈ pieces.filterMap IndexedPiece.index?, test index = other index)
    (start finish : Nat) :
    BlockHolds test pieces start finish ↔ BlockHolds other pieces start finish := by
  refine and_congr_right fun _ => exists_congr fun k => and_congr_right fun _ =>
    and_congr_right fun _ => ?_
  cases hslot : slotAt? pieces k with
  | none => rfl
  | some index =>
    show test index = true ↔ other index = true
    rw [h index (exists_slotAt?_iff.mp ⟨k, hslot⟩)]

/-- What pieces are read as depends on what is bound to their markers. -/
theorem reading_congr (brackets : Brackets)
    (h : ∀ index ∈ pieces.filterMap IndexedPiece.index?, first index = second index) :
    reading brackets first pieces = reading brackets second pieces := by
  have hdropped : ∀ k, IsDropped first pieces k ↔ IsDropped second pieces k := by
    intro k
    rw [isDropped_iff, isDropped_iff]
    refine exists_congr fun start => exists_congr fun finish => and_congr_left fun _ => ?_
    exact blockHolds_congr (fun index hmem => by rw [h index hmem]) start finish
  have hown : ∀ k : Nat, pieces[k]?.map (ownText brackets first) =
      pieces[k]?.map (ownText brackets second) := by
    intro k
    cases hpiece : pieces[k]? with
    | none => rfl
    | some piece =>
      have hmem := List.mem_of_getElem? hpiece
      rcases piece with (content | index) | _ | _
      · rfl
      · rw [Option.map_some, Option.map_some, ownText, ownText,
          h index (List.mem_filterMap.mpr ⟨_, hmem, rfl⟩)]
      · rfl
      · rfl
  rw [reading, reading]
  refine congrArg String.join (List.map_congr_left fun k _ => ?_)
  simp only [contribution, hdropped, hown]

end Congr

end Template

/-! ## Values without a text -/

theorem Value.Plain.resolve_eq_scalar_iff {value : Value} (h : value.Plain) {scalar : Scalar}
    {log : CallLog} :
    (value.resolve log).1 = .scalar scalar ↔ value = .scalar scalar := by
  obtain ⟨resolved, hvalue, hrun⟩ := h.resolve
  rw [hrun, ← hvalue]
  cases resolved <;> simp [Resolved.toValue]

theorem Placeholder.text?_eq_none_iff {config : Config} {value : Value} (h : value.Plain)
    {placeholder : Placeholder} (haccepted : placeholder.refusal? config value = none) :
    placeholder.text? config value = none ↔
      placeholder.type = .flag ∧ ∃ scalar, value = .scalar scalar ∧ scalar.truth = false := by
  have hnone : placeholder.text? config value = none ↔
      (coerce config placeholder.type value []).1 = .ok none := by
    show _ ↔ outcome config placeholder.type value = .ok none
    unfold text?
    unfold refusal? at haccepted
    cases houtcome : outcome config placeholder.type value with
    | ok text => simp
    | error rejected =>
      rw [houtcome] at haccepted
      cases haccepted
  simp only [hnone, coerce_eq_none_iff, h.resolve_eq_scalar_iff]

namespace Query

open Template

variable {config : Config} {source others : String} {query other : Query}
  {supply : List (Index × Value)} {index : Index} {log : CallLog} {text : String}

/-! ## One template within another one -/

/-- Every placeholder of a template is one of the other template. -/
def Within (other query : Query) : Prop :=
  ∀ placeholder ∈ other.placeholders, ∃ same ∈ query.placeholders,
    same.index = placeholder.index ∧ same.type = placeholder.type

/-- A template with some of the markers of another one is within that. -/
theorem within_of_subset (h : new config source = .ok query)
    (hother : new config others = .ok other)
    (hexplicit : Explicit (markers (scan config.brackets source)))
    (hsubset : ∀ marker ∈ markers (scan config.brackets others),
      marker ∈ markers (scan config.brackets source)) : other.Within query := by
  have hpart : Explicit (markers (scan config.brackets others)) :=
    fun marker hmem => hexplicit marker (hsubset marker hmem)
  intro placeholder hmem
  obtain ⟨⟨i, code, hat⟩, htype⟩ := type_of_placeholder hother hmem
  obtain ⟨j, hfound⟩ := (exists_typedAt_iff hexplicit).mpr
    (hsubset _ ((exists_typedAt_iff hpart).mp ⟨i, hat⟩))
  have hdeclared : placeholder.index ∈ query.placeholders.map Placeholder.index := by
    obtain ⟨name, hoccurs⟩ := hfound
    rw [map_index_placeholders h, List.mem_eraseDups]
    exact List.mem_of_getElem? (getElem?_indices.mpr ⟨_, hoccurs⟩)
  obtain ⟨same, hsame, hindex⟩ := List.mem_map.mp hdeclared
  have hknown := (type_of_placeholder h hsame).2 j code (hindex ▸ hfound)
  rw [htype i code hat] at hknown
  exact ⟨same, hsame, hindex, (Option.some.inj hknown).symm⟩

theorem text?_of_within (hwithin : other.Within query)
    (hdeclared : index ∈ other.placeholders.map Placeholder.index) :
    other.text? config supply index = query.text? config supply index := by
  obtain ⟨placeholder, hmem, rfl⟩ := List.mem_map.mp hdeclared
  obtain ⟨same, hsame, hindex, htype⟩ := hwithin placeholder hmem
  rw [text?, text?, placeholder?_of_mem hmem, ← hindex, placeholder?_of_mem hsame]
  simp only [Option.bind_some, Placeholder.text?, htype]

/-- What renders a template renders any other one that has some of its markers, with the same
texts, if every reference in that has a typed marker there, and nothing is missing. -/
theorem exists_render_of_subset (h : new config source = .ok query)
    (hexplicit : Explicit (markers (scan config.brackets source)))
    (hplain : ∀ pair ∈ supply, pair.2.Plain) (hrun : (query.render supply log).1.1 = .ok text)
    {part : List Marker} (hpart : markers (scan config.brackets others) = part) (hne : part ≠ [])
    (hsubset : ∀ marker ∈ part, marker ∈ markers (scan config.brackets source))
    (hresolved : ∀ index, .reference index ∈ part → ∃ code, .typed (some index) code ∈ part)
    (hsupplied : ∀ index, Exposed (indexed config.brackets others) index →
      index ∈ supply.map Prod.fst) :
    ∃ other, new config others = .ok other ∧ ∀ before, (other.render supply before).1.1 =
      .ok (Template.render (query.text? config supply)
        (segments config.brackets (indexed config.brackets others))) := by
  subst hpart
  have hmarkers : markers (scan config.brackets source) ≠ [] := by
    obtain ⟨marker, hmem⟩ := List.exists_mem_of_ne_nil _ hne
    exact List.ne_nil_of_mem (hsubset marker hmem)
  have hconsistent := (exists_new_iff config source).mp ⟨query, h⟩
  obtain ⟨other, hother⟩ := (exists_new_iff config others).mpr
    (consistent_of_subset hconsistent hexplicit hsubset hresolved)
  have hwithin : other.Within query := within_of_subset h hother hexplicit hsubset
  obtain ⟨_, haccepted, _⟩ := (render_eq_ok_iff h hmarkers hplain).mp hrun
  refine ⟨other, hother, fun before => ?_⟩
  rw [render_eq_ok_iff hother hne hplain]
  refine ⟨hsupplied, ?_, ?_⟩
  · intro placeholder hmem value hvalue
    obtain ⟨same, hsame, hindex, htype⟩ := hwithin placeholder hmem
    have hnone := haccepted same hsame value (by rw [hindex]; exact hvalue)
    simpa only [Placeholder.refusal?, htype, hindex] using hnone
  · rw [render_segments, render_segments]
    apply reading_congr
    intro index hmem
    apply (text?_of_within hwithin _).symm
    rw [map_index_placeholders hother, List.mem_eraseDups, ← slots_indexed]
    exact hmem

/-! ## Indices without a text -/

/-- A supply has no value for an index of a template, or the last one for it counts as false
and its placeholder is a flag. -/
def LeavesUnbound (supply : List (Index × Value)) (query : Query) (index : Index) : Prop :=
  index ∉ supply.map Prod.fst ∨
    ∃ placeholder ∈ query.placeholders, placeholder.index = index ∧ placeholder.type = .flag ∧
      ∃ scalar, Entries.get? index supply.reverse = some (.scalar scalar) ∧ scalar.truth = false

/-- A supply that is accepted leaves a declared index without a text exactly if it has no value
for it or turns its flag off. -/
theorem text?_eq_none_iff (hplain : ∀ pair ∈ supply, pair.2.Plain)
    (haccepted : ∀ placeholder ∈ query.placeholders, ∀ value,
      Entries.get? placeholder.index supply.reverse = some value →
        placeholder.refusal? config value = none)
    (hdeclared : index ∈ query.placeholders.map Placeholder.index) :
    query.text? config supply index = none ↔ query.LeavesUnbound supply index := by
  obtain ⟨placeholder, hmem, rfl⟩ := List.mem_map.mp hdeclared
  have hown : ∀ same ∈ query.placeholders, same.index = placeholder.index → same = placeholder := by
    intro same hsame hindex
    have hget := placeholder?_of_mem hsame
    rw [hindex, placeholder?_of_mem hmem] at hget
    exact (Option.some.inj hget).symm
  have habsent : placeholder.index ∉ supply.map Prod.fst ↔
      Entries.get? placeholder.index supply.reverse = none := by
    rw [Entries.get?_eq_none_iff, List.map_reverse, List.mem_reverse]
  rw [text?, placeholder?_of_mem hmem, Option.bind_some, LeavesUnbound, habsent]
  cases hlast : Entries.get? placeholder.index supply.reverse with
  | none => simp
  | some value =>
    have hvalue : value.Plain :=
      hplain _ (List.mem_reverse.mp (Entries.mem_of_get?_eq_some hlast))
    rw [Option.bind_some,
      Placeholder.text?_eq_none_iff hvalue (haccepted placeholder hmem value hlast)]
    constructor
    · intro hoff
      obtain ⟨htype, scalar, rfl, htruth⟩ := hoff
      exact Or.inr ⟨placeholder, hmem, rfl, htype, scalar, rfl, htruth⟩
    · intro hleft
      cases hleft with
      | inl hnone => cases hnone
      | inr hoff =>
        obtain ⟨same, hsame, hindex, htype, scalar, hscalar, htruth⟩ := hoff
        rw [hown same hsame hindex] at htype
        exact ⟨htype, scalar, Option.some.inj hscalar, htruth⟩

end Query

end SqlTemplate
