import Mathlib.Data.List.Induction
import Mathlib.Data.Nat.Find
import SqlTemplate.Proofs.Parsing

/-!
# Faulty markers

What is wrong with the markers of a template, said by their positions, and what the pass
over the typed markers makes of it.

* `TypedAt` and `ReferenceAt` name the marker at a position.  `FaultAt` and `UnresolvedAt`
  say what can be wrong with it, and `Leftmost` picks the first place where something is.
* `faultAt_append_of_lt`: what is wrong with a marker does not depend on those behind it.
* `declaredTypes_append` cuts the pass in two, and `Sound` is its invariant: nothing was
  wrong so far, and the known types are those of the first typed markers.  `Sound.step` is
  one marker.
* `declaredTypes_spec`: the pass ends with the types of the first typed markers, or with
  the leftmost fault.
-/

namespace SqlTemplate

namespace Template

/-! ## Markers by position -/

/-- The markers of a template with their indices, in order. -/
def occurrences (markers : List Marker) : List (Marker × Index) :=
  markers.zip (indices markers)

section Positions

variable (source : String) (occurring : List (Marker × Index)) (i : Nat)

/-- The marker at the position is typed, and gives the index a code. -/
def TypedAt (index : Index) (code : Code) : Prop :=
  ∃ name, occurring[i]? = some (.typed name code, index)

/-- The marker at the position is a reference to the index. -/
def ReferenceAt (index : Index) : Prop :=
  ∃ name, occurring[i]? = some (.reference name, index)

/-- The marker at the position is the first typed one of its index. -/
structure FirstTypedAt (index : Index) (code : Code) : Prop where
  here : TypedAt occurring i index code
  first : ∀ j < i, ∀ other, ¬ TypedAt occurring j index other

/-- What is wrong with the typed marker at the position. -/
inductive FaultAt : DeclarationError → Prop where
  /-- Its code names no type. -/
  | unknownCode {index : Index} {code : Code} (here : TypedAt occurring i index code)
      (unknown : SlotType.ofCode? code = none) : FaultAt (.unknownCode code index)
  /-- Its type is not that of the first typed marker of its index. -/
  | typeChanged {index : Index} {code first : Code} {declared found : SlotType} {j : Nat}
      (here : TypedAt occurring i index code) (known : SlotType.ofCode? code = some found)
      (before : FirstTypedAt occurring j index first)
      (declares : SlotType.ofCode? first = some declared) (differs : declared ≠ found) :
      FaultAt (.typeChanged source index declared found)

/-- What is wrong with the reference at the position. -/
inductive UnresolvedAt : DeclarationError → Prop where
  /-- No typed marker has its index. -/
  | unresolvedReference {index : Index} (here : ReferenceAt occurring i index)
      (untyped : ∀ j code, ¬ TypedAt occurring j index code) :
      UnresolvedAt (.unresolvedReference index)

end Positions

/-- The error is what is wrong at the first position where something is wrong. -/
def Leftmost (wrong : Nat → DeclarationError → Prop) (error : DeclarationError) : Prop :=
  ∃ i, wrong i error ∧ ∀ j < i, ∀ other, ¬ wrong j other

section Positions

variable {source : String} {occurring front rest : List (Marker × Index)} {i : Nat}
  {index : Index} {code : Code}

theorem TypedAt.lt_length (h : TypedAt occurring i index code) : i < occurring.length := by
  obtain ⟨name, hat⟩ := h
  exact (List.getElem?_eq_some_iff.mp hat).1

theorem FaultAt.lt_length {error : DeclarationError} (h : FaultAt source occurring i error) :
    i < occurring.length := by
  cases h with
  | unknownCode here => exact here.lt_length
  | typeChanged here => exact here.lt_length

/-- A typed marker is at or behind the first one of its index. -/
theorem FirstTypedAt.le {j : Nat} {first : Code} (h : FirstTypedAt occurring j index first)
    (hi : TypedAt occurring i index code) : j ≤ i := by
  by_contra hlt
  exact h.first i (by omega) code hi

theorem FirstTypedAt.unique {j : Nat} {first : Code}
    (hi : FirstTypedAt occurring i index code) (hj : FirstTypedAt occurring j index first) :
    code = first := by
  obtain rfl : i = j := Nat.le_antisymm (hi.le hj.here) (hj.le hi.here)
  obtain ⟨_, hcode⟩ := hi.here
  obtain ⟨_, hfirst⟩ := hj.here
  rw [hcode] at hfirst
  cases hfirst
  rfl

theorem TypedAt.exists_first (h : TypedAt occurring i index code) :
    ∃ j first, FirstTypedAt occurring j index first := by
  classical
  have hex : ∃ j first, TypedAt occurring j index first := ⟨i, code, h⟩
  obtain ⟨first, hfirst⟩ := Nat.find_spec hex
  exact ⟨Nat.find hex, first, hfirst, fun j hj other hother =>
    Nat.find_min hex hj ⟨other, hother⟩⟩

/-! ## Markers in front of others -/

theorem typedAt_append_of_lt (hi : i < front.length) :
    TypedAt (front ++ rest) i index code ↔ TypedAt front i index code := by
  rw [TypedAt, TypedAt, List.getElem?_append_left hi]

theorem firstTypedAt_append_of_lt (hi : i < front.length) :
    FirstTypedAt (front ++ rest) i index code ↔ FirstTypedAt front i index code := by
  constructor
  · intro h
    refine ⟨(typedAt_append_of_lt hi).mp h.here, fun j hj other hother => ?_⟩
    exact h.first j hj other ((typedAt_append_of_lt (by omega)).mpr hother)
  · intro h
    refine ⟨(typedAt_append_of_lt hi).mpr h.here, fun j hj other hother => ?_⟩
    exact h.first j hj other ((typedAt_append_of_lt (by omega)).mp hother)

/-- What is wrong with a marker does not depend on the markers behind it. -/
theorem faultAt_append_of_lt (hi : i < front.length) {error : DeclarationError} :
    FaultAt source (front ++ rest) i error ↔ FaultAt source front i error := by
  constructor
  · intro h
    cases h with
    | unknownCode here unknown =>
      exact .unknownCode ((typedAt_append_of_lt hi).mp here) unknown
    | typeChanged here known before declares differs =>
      have hj := before.le here
      exact .typeChanged ((typedAt_append_of_lt hi).mp here) known
        ((firstTypedAt_append_of_lt (by omega)).mp before) declares differs
  · intro h
    cases h with
    | unknownCode here unknown =>
      exact .unknownCode ((typedAt_append_of_lt hi).mpr here) unknown
    | typeChanged here known before declares differs =>
      have hj := before.here.lt_length
      exact .typeChanged ((typedAt_append_of_lt hi).mpr here) known
        ((firstTypedAt_append_of_lt hj).mpr before) declares differs

theorem leftmost_append {error : DeclarationError} (h : Leftmost (FaultAt source front) error) :
    Leftmost (FaultAt source (front ++ rest)) error := by
  obtain ⟨i, hfault, hbefore⟩ := h
  have hi := hfault.lt_length
  refine ⟨i, (faultAt_append_of_lt hi).mpr hfault, fun j hj other hother => ?_⟩
  exact hbefore j hj other ((faultAt_append_of_lt (by omega)).mp hother)

/-- The marker behind others is at the position that is their number. -/
theorem typedAt_append_length {marker : Marker} {own : Index} :
    TypedAt (front ++ (marker, own) :: rest) front.length index code ↔
      ∃ name, marker = .typed name code ∧ own = index := by
  simp [TypedAt]

end Positions

/-! ## The pass over the typed markers -/

/-- The types that are known for some indices are those of their first typed markers. -/
def Represents (occurring : List (Marker × Index)) (types : List (Index × SlotType)) : Prop :=
  ∀ index type, Entries.get? index types = some type ↔
    ∃ i code, FirstTypedAt occurring i index code ∧ SlotType.ofCode? code = some type

/-- No typed marker is wrong, and the types are those of the first typed markers. -/
structure Sound (source : String) (occurring : List (Marker × Index))
    (types : List (Index × SlotType)) : Prop where
  faultless : ∀ i error, ¬ FaultAt source occurring i error
  represents : Represents occurring types

section Pass

variable {source : String} {front : List (Marker × Index)} {types : List (Index × SlotType)}
  {index : Index}

theorem declaredTypes_append (source : String) (types : List (Index × SlotType))
    (front rest : List (Marker × Index)) :
    declaredTypes source types (front ++ rest) =
      (declaredTypes source types front).bind fun middle => declaredTypes source middle rest := by
  fun_induction declaredTypes source types front with
  | case1 types => rfl
  | case2 types name own others ih => rw [List.cons_append, declaredTypes, ih]
  | case3 types name code own others hcode =>
    rw [List.cons_append, declaredTypes, hcode]
    rfl
  | case4 types name code own others found hcode hget ih =>
    rw [List.cons_append, declaredTypes, hcode, hget]
    exact ih
  | case5 types name code own others found hcode hget ih =>
    rw [List.cons_append, declaredTypes, hcode, hget]
    simpa using ih
  | case6 types name code own others found hcode declared hget hne =>
    rw [List.cons_append, declaredTypes, hcode, hget]
    simp [hne, Except.bind]

/-- When no typed marker is wrong, each of them has the type that is known for its index. -/
theorem Sound.type_of_typedAt (h : Sound source front types) {i : Nat} {code : Code}
    (hat : TypedAt front i index code) :
    ∃ type, Entries.get? index types = some type ∧ SlotType.ofCode? code = some type := by
  obtain ⟨j, first, hfirst⟩ := hat.exists_first
  cases hcode : SlotType.ofCode? code with
  | none => exact absurd (.unknownCode hat hcode) (h.faultless i _)
  | some found =>
    cases hdeclared : SlotType.ofCode? first with
    | none => exact absurd (.unknownCode hfirst.here hdeclared) (h.faultless j _)
    | some declared =>
      have hsame : declared = found := by
        by_contra hne
        exact h.faultless i _ (.typeChanged hat hcode hfirst hdeclared hne)
      exact ⟨found,
        (h.represents index found).mpr ⟨j, first, hfirst, by rw [hdeclared, hsame]⟩, rfl⟩

theorem Sound.get?_eq_none_iff (h : Sound source front types) :
    Entries.get? index types = none ↔ ∀ i code, ¬ TypedAt front i index code := by
  constructor
  · intro hnone i code hat
    obtain ⟨type, hsome, _⟩ := h.type_of_typedAt hat
    rw [hnone] at hsome
    cases hsome
  · intro huntyped
    cases hget : Entries.get? index types with
    | none => rfl
    | some type =>
      obtain ⟨i, code, hfirst, _⟩ := (h.represents index type).mp hget
      exact absurd hfirst.here (huntyped i code)

section Step

variable {marker : Marker} {own : Index}

theorem firstTypedAt_concat {i : Nat} {code : Code}
    (hlast : ¬ FirstTypedAt (front ++ [(marker, own)]) front.length index code) :
    FirstTypedAt (front ++ [(marker, own)]) i index code ↔ FirstTypedAt front i index code := by
  constructor
  · intro hfirst
    have hi := hfirst.here.lt_length
    rw [List.length_append, List.length_singleton] at hi
    have hne : i ≠ front.length := by
      rintro rfl
      exact hlast hfirst
    exact (firstTypedAt_append_of_lt (by omega)).mp hfirst
  · intro hfirst
    exact (firstTypedAt_append_of_lt hfirst.here.lt_length).mpr hfirst

theorem exists_firstTypedAt_concat {type : SlotType}
    (hlast : ∀ code, ¬ FirstTypedAt (front ++ [(marker, own)]) front.length index code) :
    (∃ i code, FirstTypedAt (front ++ [(marker, own)]) i index code ∧
        SlotType.ofCode? code = some type) ↔
      ∃ i code, FirstTypedAt front i index code ∧ SlotType.ofCode? code = some type :=
  exists_congr fun _ => exists_congr fun code =>
    and_congr_left fun _ => firstTypedAt_concat (hlast code)

/-- A marker that is not the first typed one of its index adds no type. -/
theorem Represents.concat (h : Represents front types)
    (hlast : ∀ index code, ¬ FirstTypedAt (front ++ [(marker, own)]) front.length index code) :
    Represents (front ++ [(marker, own)]) types := by
  intro index type
  rw [h index type, exists_firstTypedAt_concat (hlast index)]

/-- The first typed marker of an index adds its type. -/
theorem Represents.concat_first (h : Represents front types) {found : SlotType} {code : Code}
    (hfirst : FirstTypedAt (front ++ [(marker, own)]) front.length own code)
    (hcode : SlotType.ofCode? code = some found) (hnone : Entries.get? own types = none) :
    Represents (front ++ [(marker, own)]) (types ++ [(own, found)]) := by
  intro index type
  rw [Entries.get?_append]
  by_cases hindex : own = index
  · subst hindex
    simp only [hnone, Entries.get?, if_true, Option.none_or, Option.some.injEq]
    constructor
    · rintro rfl
      exact ⟨_, code, hfirst, hcode⟩
    · rintro ⟨j, other, hother, htype⟩
      rw [← hfirst.unique hother, hcode] at htype
      exact Option.some.inj htype
  · have hlast : ∀ other, ¬ FirstTypedAt (front ++ [(marker, own)]) front.length index other := by
      intro other hother
      obtain ⟨_, _, hsame⟩ := typedAt_append_length.mp hother.here
      exact hindex hsame
    simp only [Entries.get?, if_neg hindex, Option.or_none]
    rw [h index type, exists_firstTypedAt_concat hlast]

/-- When nothing was wrong so far, what is wrong first can only be wrong with the last
marker. -/
theorem Sound.faultless_concat (h : Sound source front types)
    (hlast : ∀ error, ¬ FaultAt source (front ++ [(marker, own)]) front.length error) :
    ∀ i error, ¬ FaultAt source (front ++ [(marker, own)]) i error := by
  intro i error hfault
  have hi := hfault.lt_length
  rw [List.length_append, List.length_singleton] at hi
  by_cases hend : i = front.length
  · subst hend
    exact hlast error hfault
  · exact h.faultless i error ((faultAt_append_of_lt (by omega)).mp hfault)

/-- A reference is never wrong in this pass and adds no type. -/
theorem Sound.concat_reference {name : Index} (h : Sound source front types) :
    Sound source (front ++ [(.reference name, own)]) types := by
  have huntyped : ∀ index code,
      ¬ TypedAt (front ++ [(.reference name, own)]) front.length index code := by
    intro index code hat
    obtain ⟨_, hmarker, _⟩ := typedAt_append_length.mp hat
    cases hmarker
  refine ⟨h.faultless_concat fun error hfault => ?_,
    h.represents.concat fun index code hfirst => huntyped index code hfirst.here⟩
  cases hfault with
  | unknownCode here => exact huntyped _ _ here
  | typeChanged here => exact huntyped _ _ here

variable {name : Option Index} {code : Code}

/-- A typed marker whose type is the known one of its index is not wrong. -/
theorem FaultAt.false_of_type {found : SlotType}
    (hcode : SlotType.ofCode? code = some found)
    (hknown : ∀ j first declared,
      FirstTypedAt (front ++ [(.typed name code, own)]) j own first →
        SlotType.ofCode? first = some declared → declared = found) (error : DeclarationError) :
    ¬ FaultAt source (front ++ [(.typed name code, own)]) front.length error := by
  intro hfault
  cases hfault with
  | unknownCode here unknown =>
    obtain ⟨_, hmarker, _⟩ := typedAt_append_length.mp here
    cases hmarker
    rw [hcode] at unknown
    cases unknown
  | typeChanged here known before declares differs =>
    obtain ⟨_, hmarker, hown⟩ := typedAt_append_length.mp here
    cases hmarker
    cases hown
    rw [hcode] at known
    cases known
    exact differs (hknown _ _ _ before declares)

/-- One marker of the pass: it is wrong, or what is known stays right with it. -/
theorem Sound.step (h : Sound source front types) (marker : Marker) (own : Index) :
    (∃ after, declaredTypes source types [(marker, own)] = .ok after ∧
        Sound source (front ++ [(marker, own)]) after) ∨
      ∃ error, declaredTypes source types [(marker, own)] = .error error ∧
        FaultAt source (front ++ [(marker, own)]) front.length error := by
  cases marker with
  | reference name => exact Or.inl ⟨types, rfl, h.concat_reference⟩
  | typed name code =>
    have hlast : TypedAt (front ++ [(.typed name code, own)]) front.length own code :=
      typedAt_append_length.mpr ⟨name, rfl, rfl⟩
    cases hcode : SlotType.ofCode? code with
    | none =>
      refine Or.inr ⟨.unknownCode code own, ?_, .unknownCode hlast hcode⟩
      rw [declaredTypes, hcode]
    | some found =>
      cases hget : Entries.get? own types with
      | none =>
        have hfirst : FirstTypedAt (front ++ [(.typed name code, own)]) front.length own code :=
          ⟨hlast, fun j hj other hother => h.get?_eq_none_iff.mp hget j other
            ((typedAt_append_of_lt hj).mp hother)⟩
        refine Or.inl ⟨types ++ [(own, found)], ?_, h.faultless_concat ?_,
          h.represents.concat_first hfirst hcode hget⟩
        · rw [declaredTypes, hcode, hget]
          rfl
        · refine FaultAt.false_of_type hcode fun j first declared hother hdeclares => ?_
          rw [← hfirst.unique hother, hcode] at hdeclares
          exact (Option.some.inj hdeclares).symm
      | some declared =>
        obtain ⟨j, first, hfirst, hdeclares⟩ := (h.represents own declared).mp hget
        have hbefore : FirstTypedAt (front ++ [(.typed name code, own)]) j own first :=
          (firstTypedAt_append_of_lt hfirst.here.lt_length).mpr hfirst
        by_cases hsame : declared = found
        · subst hsame
          refine Or.inl ⟨types, ?_, h.faultless_concat ?_, h.represents.concat ?_⟩
          · rw [declaredTypes, hcode, hget]
            simp [declaredTypes]
          · refine FaultAt.false_of_type hcode fun m other type hother htype => ?_
            rw [← hbefore.unique hother, hdeclares] at htype
            exact (Option.some.inj htype).symm
          · intro index other hother
            obtain ⟨_, _, rfl⟩ := typedAt_append_length.mp hother.here
            have hle := hother.le hbefore.here
            have hlt := hfirst.here.lt_length
            omega
        · refine Or.inr ⟨.typeChanged source own declared found, ?_,
            .typeChanged hlast hcode hbefore hdeclares hsame⟩
          rw [declaredTypes, hcode, hget]
          simp [hsame]

end Step

/-- The pass finds the types of the first typed markers, or the leftmost fault. -/
theorem declaredTypes_spec (source : String) (occurring : List (Marker × Index)) :
    (∃ types, declaredTypes source [] occurring = .ok types ∧ Sound source occurring types) ∨
      ∃ error, declaredTypes source [] occurring = .error error ∧
        Leftmost (FaultAt source occurring) error := by
  -- From the end: a marker is judged by the markers in front of it.
  induction occurring using List.reverseRecOn with
  | nil =>
    refine Or.inl ⟨[], rfl, fun i error hfault => ?_, fun index type => ?_⟩
    · exact absurd hfault.lt_length (Nat.not_lt_zero i)
    · constructor
      · nofun
      · rintro ⟨i, code, hfirst, _⟩
        exact absurd hfirst.here.lt_length (Nat.not_lt_zero i)
  | append_singleton front last ih =>
    obtain ⟨marker, own⟩ := last
    rw [declaredTypes_append]
    rcases ih with ⟨types, hfront, hsound⟩ | ⟨error, hfront, hleftmost⟩
    · rw [hfront]
      rcases hsound.step marker own with ⟨after, hstep, hafter⟩ | ⟨error, hstep, hfault⟩
      · exact Or.inl ⟨after, hstep, hafter⟩
      · refine Or.inr ⟨error, hstep, front.length, hfault, fun j hj other hother => ?_⟩
        exact hsound.faultless j other ((faultAt_append_of_lt hj).mp hother)
    · rw [hfront]
      exact Or.inr ⟨error, rfl, leftmost_append hleftmost⟩

end Pass

end Template

end SqlTemplate
