import Mathlib.Data.List.Forall2
import SqlTemplate.Proofs.Call
import SqlTemplate.Proofs.Parsing

/-!
# Values by their place

The four ways to supply values agree on values that are told apart by their place alone.

* `Key.Spells` lists the ways to write an ordinal as a key.  `Index.ofKey_of_spells`: a key
  that is written in one of them reaches the placeholder with that ordinal.
* `Query.map_zip_eq_list`: keys that spell the places of some values supply what the bare
  values do.  `Query.joinSupply_positions`: so do the entries of an array behind the first one.
* `Query.share_eq_list` and `Query.join_eq_share` take a shared value to a list of values.
* `Query.positional_calls_agree` puts these together.

Two calls that agree give the same result and leave the same query, and they ask the same
suppliers in the same order.
-/

namespace SqlTemplate

open Text

/-! ## Keys that spell an ordinal -/

/-- The ways to write an ordinal as a key. -/
inductive Key.Spells : Key → Nat → Prop where
  /-- The position itself. -/
  | position (n : Nat) : Key.Spells (.position (Int64.ofNat n)) n
  /-- The key of the number. -/
  | number (n : Nat) : Key.Spells (.ofNat n) n
  /-- The key of the text of the number. -/
  | text (n : Nat) : Key.Spells (.ofString (String.ofList (decimal n))) n
  /-- The text of the number as a name. -/
  | name (n : Nat) : Key.Spells (.name (String.ofList (decimal n))) n

/-- However an ordinal is written as a key, it is the ordinal that is meant. -/
theorem Index.ofKey_of_spells {key : Key} {n : Nat} (hspells : key.Spells n)
    (hsmall : n ≤ largestPosition) : ofKey key = .ordinal n := by
  have hread : ofString (String.ofList (decimal n)) = .ordinal n :=
    ofString_eq_ordinal_iff.mpr ⟨hsmall, rfl⟩
  cases hspells with
  | position => exact ofKey_position hsmall
  | number => rw [ofKey_ofNat, hread]
  | text => rw [ofKey_ofString, hread]
  | name => rw [ofKey, hread]

/-! ## Supplies -/

namespace Query

theorem ordinalSupply_cons (first : Nat) (value : Value) (values : List Value) :
    ordinalSupply first (value :: values) =
      (.ordinal first, value) :: ordinalSupply (first + 1) values :=
  rfl

/-- Values under keys that spell consecutive ordinals are supplied to these ordinals. -/
theorem ordinalSupply_of_spells {values : List Value} {keys : List Key} {first : Nat}
    (hsmall : first + values.length ≤ largestPosition + 1)
    (hspells : List.Forall₂ Key.Spells keys (List.range' first values.length)) :
    (keys.zip values).map (fun (key, value) => (Index.ofKey key, value)) =
      ordinalSupply first values := by
  induction values generalizing keys first with
  | nil =>
    rw [List.zip_nil_right]
    rfl
  | cons value values ih =>
    rw [List.length_cons] at hsmall hspells
    rw [List.range'_succ] at hspells
    obtain ⟨key, keys, hkey, hkeys, rfl⟩ := List.forall₂_cons_right_iff.mp hspells
    have hindex : Index.ofKey key = .ordinal first := Index.ofKey_of_spells hkey (by omega)
    have hrest := ih (by omega) hkeys
    simp only [List.zip_cons_cons, List.map_cons, hindex]
    rw [hrest, ordinalSupply_cons]

/-- The entries of an array of values, the first one left out, go to consecutive ordinals. -/
theorem joinSupply_positions {values : List Value} {first : Nat} (hpositive : 0 < first)
    (hsmall : first + values.length ≤ largestPosition + 1) (shared : Value) (next : Nat) :
    joinSupply shared next ((values.zipIdx first).map fun (value, n) => (Key.ofNat n, value)) =
      ordinalSupply next values := by
  induction values generalizing first next with
  | nil => rfl
  | cons value values ih =>
    rw [List.length_cons] at hsmall
    have hfirst : first ≤ largestPosition := by omega
    have hkey : Key.ofNat first = .position (Int64.ofNat first) := if_pos hfirst
    have hnonzero : Int64.ofNat first ≠ 0 := by
      intro hzero
      have hint := Int64.toInt_ofNat_of_lt (le_largestPosition_iff.mp hfirst)
      rw [hzero, Int64.toInt_zero] at hint
      omega
    have hrest := ih (Nat.succ_pos first) (by omega) (next + 1)
    simp only [List.zipIdx_cons, List.map_cons, hkey, joinSupply, if_neg hnonzero]
    rw [hrest, ordinalSupply_cons]

/-! ## Calls -/

variable (query : Query) {values : List Value}

theorem map_zip_eq_list {keys : List Key} (hsmall : values.length ≤ largestPosition)
    (hspells : List.Forall₂ Key.Spells keys (List.range values.length)) :
    query.map (keys.zip values) = query.list values := by
  rw [List.range_eq_range'] at hspells
  rw [map, ordinalSupply_of_spells (by omega) hspells, list]

/-- A value is shared by resolving it and supplying what it is twice. -/
theorem share_eq_list {shared : Value} {resolved : Resolved} {log after : CallLog}
    (hresolve : shared.resolve log = (resolved, after)) :
    query.share shared values log =
      query.list (resolved.toValue :: resolved.toValue :: values) after := by
  simp only [share, bind, StateT.bind, hresolve]
  rfl

theorem join_eq_share {shared : Value} {entries options : ArrayEntries} {log after : CallLog}
    (hsmall : values.length ≤ largestPosition)
    (hresolve : shared.resolve log = (.array entries, after))
    (hoptions : Value.ofList (shared :: values) = .array options) :
    query.join options log = query.share shared values log := by
  obtain rfl : (Key.position 0, shared) ::
      ((values.zipIdx 1).map fun (value, n) => (Key.ofNat n, value)) = options :=
    Value.array.inj hoptions
  have hsupply : joinSupply (.array entries) 2
      ((values.zipIdx 1).map fun (value, n) => (Key.ofNat n, value)) = ordinalSupply 2 values :=
    joinSupply_positions Nat.one_pos (by omega) _ _
  simp only [join, share, Entries.get?, if_true, bind, StateT.bind, hresolve, joinSupply, hsupply,
    Resolved.toValue]

/-- Values under keys that spell their places are supplied as without the keys.  A shared value
is resolved once and goes to the first two places.  An array whose first entry resolves to an
array is joined as that entry is shared with the others.  No list that fits in memory has more
values than `largestPosition`. -/
theorem positional_calls_agree (query : Query) (values : List Value) :
    (∀ keys : List Key, values.length ≤ largestPosition →
      List.Forall₂ Key.Spells keys (List.range values.length) →
      query.map (keys.zip values) = query.list values) ∧
    ∀ (shared : Value) (resolved : Resolved) (log after : CallLog),
      shared.resolve log = (resolved, after) →
      query.share shared values log =
        query.list (resolved.toValue :: resolved.toValue :: values) after ∧
      ∀ entries options : ArrayEntries, values.length ≤ largestPosition →
        resolved = .array entries → Value.ofList (shared :: values) = .array options →
        query.join options log = query.share shared values log := by
  refine ⟨fun keys => query.map_zip_eq_list, fun shared resolved log after hresolve => ?_⟩
  refine ⟨query.share_eq_list hresolve, fun entries options hsmall harray hoptions => ?_⟩
  exact query.join_eq_share hsmall (harray ▸ hresolve) hoptions

/-- Two shared columns that are asked for once, and two more values, supplied in each way. -/
theorem positional_calls_agree_columns :
    let config := Config.new Text.escapeStandard
    let source := "(:k) VALUES (:L) ON :i, :s"
    let columns : ArrayEntries := [(.name "a", .scalar (.integer 1)),
      (.name "b", .deferred ⟨"b", 0⟩ fun log => .scalar (.integer (Int64.ofNat log.length)))]
    let shared := Value.deferred ⟨"columns", 0⟩ fun _ => .array columns
    let values : List Value := [.scalar (.integer 7), .scalar (.text "it's")]
    let supplied := Value.array columns :: .array columns :: values
    let keys : List Key := [.position 0, .ofNat 1, .ofString "2", .name "3"]
    ∃ query, new config source = .ok query ∧
      query.map (keys.zip supplied) = query.list supplied ∧
      query.share shared values [] = query.list supplied [⟨"columns", 0⟩] ∧
      query.join [(.position 0, shared), (.position 1, .scalar (.integer 7)),
        (.position 2, .scalar (.text "it's"))] [] = query.share shared values [] ∧
      (query.share shared values []).1.1 = .ok "(`a`, `b`) VALUES (1, 1) ON 7, 'it''s'" ∧
      (query.share shared values []).2 = [⟨"columns", 0⟩, ⟨"b", 0⟩] := by
  intro config source columns shared values supplied keys
  obtain ⟨query, hnew, htext, hcalls⟩ : ∃ query, new config source = .ok query ∧
      (query.share shared values []).1.1 = .ok "(`a`, `b`) VALUES (1, 1) ON 7, 'it''s'" ∧
      (query.share shared values []).2 = [⟨"columns", 0⟩, ⟨"b", 0⟩] :=
    exists_new_of_any (by decide +kernel)
  have hspells : List.Forall₂ Key.Spells keys (List.range supplied.length) :=
    .cons (.position 0) (.cons (.number 1) (.cons (.text 2) (.cons (.name 3) .nil)))
  have hmap := (positional_calls_agree query supplied).1 keys (by decide) hspells
  obtain ⟨hshare, hjoin⟩ :=
    (positional_calls_agree query values).2 shared (.array columns) [] _ rfl
  exact ⟨query, hnew, hmap, hshare, hjoin columns _ (by decide) rfl rfl, htext, hcalls⟩

end Query

end SqlTemplate
