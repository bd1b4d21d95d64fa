import Mathlib.Data.List.Forall2
import SqlTemplate.Proofs.Block
import SqlTemplate.Query

/-!
# What reading a template gives

Reading cuts a template into pieces, gives every marker an index, and declares the
indices.  The lemmas below say what comes out of each step.

* `Template.indexed` is the pieces with the indices: `forall₂_indexed` says that they are
  the scanned pieces, and `slots_indexed` that the indices of the markers come in order.
* `Statement.parse_eq_ok`: a template is no statement exactly if it has no markers, and
  otherwise its statement is made of the pieces and the declarations.
  `Statement.parse_eq_error_iff`: it is refused exactly if the declarations fail.
* `Query.new_eq_ok`, `Query.new_eq_some` and `Query.new_eq_error_iff` say the same of a
  query, and `Query.exists_new_of_any` evaluates one.
-/

namespace SqlTemplate

namespace Template

/-! ## Pieces with indices -/

/-- The pieces of a template, its markers with their indices. -/
def indexed (brackets : Brackets) (source : String) : List IndexedPiece :=
  indexedPieces (scan brackets source) (indices (markers (scan brackets source)))

/-- A piece and the same piece with an index, if it is a marker. -/
def Agree : Piece → IndexedPiece → Prop
  | .text content, .part (.text other) => content = other
  | .marker _, .part (.slot _) => True
  | .opening, .opening => True
  | .closing, .closing => True
  | _, _ => False

theorem length_indicesFrom (claims : List Nat) (next : Nat) (markers : List Marker) :
    (indicesFrom claims next markers).length = markers.length := by
  fun_induction indicesFrom claims next markers <;> simp_all

theorem forall₂_indexedPieces {pieces : List Piece} {names : List Index}
    (h : (markers pieces).length ≤ names.length) :
    List.Forall₂ Agree pieces (indexedPieces pieces names) := by
  fun_induction indexedPieces pieces names with
  | case1 => exact .nil
  | case2 content rest names ih => exact .cons rfl (ih h)
  | case3 rest names ih => exact .cons trivial (ih h)
  | case4 rest names ih => exact .cons trivial (ih h)
  | case5 marker rest index names ih => exact .cons trivial (ih (Nat.le_of_succ_le_succ h))
  | case6 marker rest => exact absurd h (Nat.not_succ_le_zero _)

/-- The markers take their indices from the front of the list, one each. -/
theorem slots_indexedPieces_eq_take (pieces : List Piece) (names : List Index) :
    (indexedPieces pieces names).filterMap IndexedPiece.index? =
      names.take (markers pieces).length := by
  fun_induction indexedPieces pieces names with
  | case1 names => rfl
  | case2 content rest names ih => exact ih
  | case3 rest names ih => exact ih
  | case4 rest names ih => exact ih
  | case5 marker rest index names ih => exact congrArg (index :: ·) ih
  | case6 marker rest ih => exact ih.trans (List.take_nil.trans List.take_nil.symm)

theorem slots_indexedPieces {pieces : List Piece} {names : List Index}
    (h : (markers pieces).length = names.length) :
    (indexedPieces pieces names).filterMap IndexedPiece.index? = names := by
  rw [slots_indexedPieces_eq_take, h, List.take_length]

/-- The pieces with indices are the scanned pieces in their order. -/
theorem forall₂_indexed (brackets : Brackets) (source : String) :
    List.Forall₂ Agree (scan brackets source) (indexed brackets source) :=
  forall₂_indexedPieces (Nat.le_of_eq (length_indicesFrom _ _ _).symm)

theorem slots_indexed (brackets : Brackets) (source : String) :
    (indexed brackets source).filterMap IndexedPiece.index? =
      indices (markers (scan brackets source)) :=
  slots_indexedPieces (length_indicesFrom _ _ _).symm

end Template

/-! ## Statements and queries -/

theorem Statement.parse_eq_ok {brackets : Brackets} {source : String}
    {result : Option Statement} (h : parse brackets source = .ok result) :
    (Template.markers (Template.scan brackets source) = [] ∧ result = none) ∨
      (Template.markers (Template.scan brackets source) ≠ [] ∧ ∃ declarations,
        Template.declarations source (Template.markers (Template.scan brackets source)) =
          .ok declarations ∧
        result = some
          { brackets := brackets
            segments := Template.segments brackets (Template.indexed brackets source)
            placeholders := PlaceholderMap.ofList (declarations.map fun (index, type) =>
              Placeholder.new index type (Template.isConditional
                (Template.segments brackets (Template.indexed brackets source)) index)) }) := by
  unfold parse at h
  simp only at h
  split at h
  · rename_i hempty
    cases h
    exact Or.inl ⟨List.isEmpty_iff.mp hempty, rfl⟩
  · rename_i hempty
    refine Or.inr ⟨fun hnil => hempty (by rw [hnil]; rfl), ?_⟩
    cases hdeclared : Template.declarations source
        (Template.markers (Template.scan brackets source)) with
    | error error =>
      rw [hdeclared] at h
      cases h
    | ok declarations =>
      rw [hdeclared] at h
      cases h
      exact ⟨declarations, rfl, rfl⟩

/-- A template is refused exactly if its markers are. -/
theorem Statement.parse_eq_error_iff {brackets : Brackets} {source : String}
    {error : DeclarationError} :
    parse brackets source = .error error ↔
      Template.declarations source (Template.markers (Template.scan brackets source)) =
        .error error := by
  unfold parse
  simp only
  split
  · rename_i hempty
    rw [List.isEmpty_iff.mp hempty]
    constructor <;> intro h <;> cases h
  · cases Template.declarations source (Template.markers (Template.scan brackets source)) with
    | error other =>
      constructor <;> intro h <;> cases h <;> rfl
    | ok declarations => constructor <;> intro h <;> cases h

namespace Query

variable {config : Config} {source : String} {query : Query}

theorem new_eq_error_iff {error : DeclarationError} :
    new config source = .error error ↔
      Template.declarations source (Template.markers (Template.scan config.brackets source)) =
        .error error := by
  rw [← Statement.parse_eq_error_iff]
  unfold new
  cases Statement.parse config.brackets source with
  | error other => constructor <;> intro h <;> cases h <;> rfl
  | ok statement => constructor <;> intro h <;> cases h

theorem new_eq_ok (h : new config source = .ok query) :
    Statement.parse config.brackets source = .ok query.statement ∧
      query = ⟨config, source, query.statement⟩ := by
  unfold new at h
  cases hparse : Statement.parse config.brackets source with
  | error error =>
    rw [hparse] at h
    cases h
  | ok statement =>
    rw [hparse] at h
    cases h
    exact ⟨rfl, rfl⟩

/-- A property that can be decided of the query of a template. -/
theorem exists_new_of_any {property : Query → Prop} [DecidablePred property]
    (h : (new config source).toOption.any (fun query => decide (property query)) = true) :
    ∃ query, new config source = .ok query ∧ property query := by
  cases hnew : new config source with
  | error error =>
    rw [hnew] at h
    cases h
  | ok query =>
    rw [hnew] at h
    exact ⟨query, rfl, of_decide_eq_true h⟩

/-- A template with markers makes a query with a statement. -/
theorem new_eq_some (h : new config source = .ok query)
    (hmarkers : Template.markers (Template.scan config.brackets source) ≠ []) :
    query.config = config ∧ ∃ statement, query.statement = some statement ∧
      statement.brackets = config.brackets ∧
      statement.segments =
        Template.segments config.brackets (Template.indexed config.brackets source) := by
  obtain ⟨hparse, hquery⟩ := new_eq_ok h
  refine ⟨by rw [hquery], ?_⟩
  rcases Statement.parse_eq_ok hparse with ⟨hnone, _⟩ | ⟨_, declarations, _, hstatement⟩
  · exact absurd hnone hmarkers
  · exact ⟨_, hstatement, rfl, rfl⟩

end Query

end SqlTemplate
