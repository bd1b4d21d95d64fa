import SqlTemplate.Entries
import SqlTemplate.Template.Marker

/-!
# Declarations

Every marker of a template has an index, and every index has one type.

* A typed marker whose name is a number claims that ordinal.  A marker without a name
  takes the smallest ordinal that is neither claimed nor taken by a marker in front of it.
* The type of an index is the type of its typed markers, which must all agree.  A
  reference takes the type of its index, which may be declared before or after it.

All typed markers are judged before any reference, from left to right.
-/

namespace SqlTemplate

/-- Why the markers of a template declare no types. -/
inductive DeclarationError where
  /-- The code of a marker names no type. -/
  | unknownCode (code : Code) (index : Index)
  /-- A typed marker disagrees with the first one of its index. -/
  | typeChanged (source : String) (index : Index) (declared : SlotType) (found : SlotType)
  /-- No typed marker has the index of a reference. -/
  | unresolvedReference (index : Index)
deriving DecidableEq

/-- The words for an error of declaration. -/
def DeclarationError.message : DeclarationError → String
  | .unknownCode code index =>
      "Unexpected placeholder type '" ++ code.text ++ "' with index '" ++ index.text ++ "'"
  | .typeChanged source index declared found =>
      "While parsing SQL statement \"" ++ source ++ "\", an invalid change of placeholder '" ++
        index.text ++ "' type from '" ++ declared.text ++ "' to '" ++ found.text ++
        "' was detected"
  | .unresolvedReference index =>
      "Placeholder reference '" ++ index.token ++ "' does not match any typed placeholder"

namespace Template

/-! ## Indices -/

/-- The ordinal that a marker claims. -/
def claimed? : Marker → Option Nat
  | .typed (some (.ordinal n)) _ => some n
  | _ => none

/-- The smallest number from `least` up that is not claimed.  One of the numbers tried is
free, because they are one more than the claims. -/
def firstFree (claims : List Nat) (least : Nat) : Nat :=
  ((List.range' least (claims.length + 1)).find? fun n => !claims.contains n).getD least

/-- The indices of some markers, when the ordinals below `next` are used up. -/
def indicesFrom (claims : List Nat) (next : Nat) : List Marker → List Index
  | [] => []
  | .typed (some name) _ :: rest => name :: indicesFrom claims next rest
  | .reference name :: rest => name :: indicesFrom claims next rest
  | .typed none _ :: rest =>
      let free := firstFree claims next
      .ordinal free :: indicesFrom claims (free + 1) rest

/-- The indices of the markers of a template, in order. -/
def indices (markers : List Marker) : List Index :=
  indicesFrom (markers.filterMap claimed?) 0 markers

/-! ## Types -/

/-- The types that typed markers declare, added to those that are declared already. -/
def declaredTypes (source : String) (types : List (Index × SlotType)) :
    List (Marker × Index) → Except DeclarationError (List (Index × SlotType))
  | [] => .ok types
  | (.reference _, _) :: rest => declaredTypes source types rest
  | (.typed _ code, index) :: rest =>
      match SlotType.ofCode? code with
      | none => .error (.unknownCode code index)
      | some found =>
          match Entries.get? index types with
          | none => declaredTypes source (types ++ [(index, found)]) rest
          | some declared =>
              if declared = found then declaredTypes source types rest
              else .error (.typeChanged source index declared found)

/-- The distinct indices of some markers with their types, in the order in which they
first occur. -/
def declarations (source : String) (markers : List Marker) :
    Except DeclarationError (List (Index × SlotType)) := do
  let indices := indices markers
  let types ← declaredTypes source [] (markers.zip indices)
  indices.eraseDups.mapM fun index =>
    match Entries.get? index types with
    | some type => .ok (index, type)
    | none => .error (.unresolvedReference index)

end Template

end SqlTemplate
