import Mathlib.Data.List.Perm.Subperm
import Mathlib.Data.Nat.Nth
import SqlTemplate.Proofs.Fault

/-!
# Ordinals of markers without names

Which numbers the markers without names get.

* `Claimed` says that a typed marker has the ordinal for its name, wherever it stands, and
  `Unclaimed` that none has.
* `firstFree_spec`: the search for a free ordinal finds the next unclaimed one.
* `anonymousIndices` is what the markers without names get, in order.
  `anonymousIndices_indicesFrom` follows the search from marker to marker: how many
  unclaimed numbers are below the place where it stands is its invariant.
* `anonymousIndices_eq`: the k-th of these markers gets the k-th smallest unclaimed number.
* `anonymousIndices_filter`: markers that neither claim an ordinal nor wait for one do not
  matter.
-/

namespace SqlTemplate

namespace Template

/-! ## Claims -/

/-- A typed marker has the ordinal for its name. -/
def Claimed (markers : List Marker) (n : Nat) : Prop :=
  ∃ code, .typed (some (.ordinal n)) code ∈ markers

/-- No typed marker has the ordinal for its name. -/
def Unclaimed (markers : List Marker) (n : Nat) : Prop :=
  ¬ Claimed markers n

/-- The marker is typed and has no name. -/
def isAnonymous : Marker → Bool
  | .typed none _ => true
  | _ => false

/-- The marker is a reference, or its name is no position. -/
def isSilent : Marker → Bool
  | .reference _ => true
  | .typed (some (.name text)) _ => (Text.position? text).isNone
  | .typed (some (.ordinal _)) _ | .typed none _ => false

/-- The indices of the markers without names, in order. -/
def anonymousIndices (occurring : List (Marker × Index)) : List Index :=
  (occurring.filter fun occurrence => isAnonymous occurrence.1).map Prod.snd

section Claims

variable {markers : List Marker} {n : Nat}

theorem claimed_iff : Claimed markers n ↔ n ∈ markers.filterMap claimed? := by
  rw [List.mem_filterMap]
  constructor
  · intro h
    obtain ⟨code, hmem⟩ := h
    exact ⟨_, hmem, rfl⟩
  · intro h
    obtain ⟨marker, hmem, hclaim⟩ := h
    unfold claimed? at hclaim
    split at hclaim
    · cases hclaim
      exact ⟨_, hmem⟩
    · cases hclaim

theorem infinite_unclaimed (markers : List Marker) :
    (Set.ofPred (Unclaimed markers)).Infinite := by
  have hfinite : {n | n ∈ markers.filterMap claimed?}.Finite := List.finite_toSet _
  apply hfinite.infinite_compl.mono
  intro n hn hclaimed
  exact hn (claimed_iff.mp hclaimed)

end Claims

/-! ## The search for a free ordinal -/

section Search

variable {claims : List Nat} {least : Nat}

/-- Among one number more than there are claims, one is free. -/
theorem exists_free (claims : List Nat) (least : Nat) :
    ∃ n ∈ List.range' least (claims.length + 1), n ∉ claims := by
  by_contra hnone
  have hsubset : List.range' least (claims.length + 1) ⊆ claims := by
    intro n hn
    by_contra hfree
    exact hnone ⟨n, hn, hfree⟩
  have hlength := (List.subperm_of_subset List.nodup_range' hsubset).length_le
  rw [List.length_range'] at hlength
  omega

/-- The search finds a free number, and all numbers it passes are claimed. -/
theorem firstFree_spec (claims : List Nat) (least : Nat) :
    firstFree claims least ∉ claims ∧ least ≤ firstFree claims least ∧
      ∀ n, least ≤ n → n < firstFree claims least → n ∈ claims := by
  obtain ⟨witness, hwitness, hunclaimed⟩ := exists_free claims least
  cases hfind : (List.range' least (claims.length + 1)).find? fun n => !claims.contains n with
  | none =>
    have hno := List.find?_eq_none.mp hfind witness hwitness
    simp [hunclaimed] at hno
  | some found =>
    have hfree : firstFree claims least = found := by
      rw [firstFree, hfind]
      rfl
    obtain ⟨htest, k, hk, hat, hbefore⟩ := List.find?_eq_some_iff_getElem.mp hfind
    rw [List.getElem_range'] at hat
    rw [hfree]
    refine ⟨by simpa using htest, by omega, ?_⟩
    intro n hleast hlt
    have hpassed := hbefore (n - least) (by omega)
    rw [List.getElem_range', show least + 1 * (n - least) = n by omega] at hpassed
    simpa using hpassed

/-- No unclaimed number is between the place of the search and what it finds. -/
theorem count_firstFree (claims : List Nat) (least : Nat) :
    Nat.count (· ∉ claims) (firstFree claims least) = Nat.count (· ∉ claims) least := by
  obtain ⟨_, hle, hpassed⟩ := firstFree_spec claims least
  obtain ⟨gap, hgap⟩ := Nat.exists_eq_add_of_le hle
  rw [hgap, Nat.count_add, Nat.add_eq_left, Nat.count_iff_forall_not]
  intro k hk hfree
  exact hfree (hpassed (least + k) (by omega) (by omega))

/-- What the search finds is numbered among the unclaimed numbers by how many of them are
below its place. -/
theorem firstFree_eq_nth (claims : List Nat) (least : Nat) :
    firstFree claims least = Nat.nth (· ∉ claims) (Nat.count (· ∉ claims) least) := by
  rw [← count_firstFree, Nat.nth_count (firstFree_spec claims least).1]

theorem count_succ_firstFree (claims : List Nat) (least : Nat) :
    Nat.count (· ∉ claims) (firstFree claims least + 1) =
      Nat.count (· ∉ claims) least + 1 := by
  rw [Nat.count_succ, if_pos (firstFree_spec claims least).1, count_firstFree]

end Search

/-! ## From marker to marker -/

section Anonymous

variable {markers : List Marker}

/-- With `next` as the place of the search, the markers without names get the unclaimed
numbers from there up, one after the other. -/
theorem anonymousIndices_indicesFrom (claims : List Nat) (next : Nat) (markers : List Marker) :
    anonymousIndices (markers.zip (indicesFrom claims next markers)) =
      (List.range (markers.countP isAnonymous)).map fun k =>
        .ordinal (Nat.nth (· ∉ claims) (Nat.count (· ∉ claims) next + k)) := by
  fun_induction indicesFrom claims next markers with
  | case1 next => rfl
  | case2 next name code rest ih => exact ih
  | case3 next name rest ih => exact ih
  | case4 next code rest free ih =>
    have hfree : free = Nat.nth (· ∉ claims) (Nat.count (· ∉ claims) next) :=
      firstFree_eq_nth claims next
    have hnext : Nat.count (· ∉ claims) (free + 1) = Nat.count (· ∉ claims) next + 1 :=
      count_succ_firstFree claims next
    have hfirst : anonymousIndices ((.typed none code :: rest).zip
        (.ordinal free :: indicesFrom claims (free + 1) rest)) =
          .ordinal free :: anonymousIndices (rest.zip (indicesFrom claims (free + 1) rest)) :=
      rfl
    rw [hfirst, ih, List.countP_cons_of_pos (by rfl), List.range_succ_eq_map, List.map_cons,
      List.map_map, hnext]
    refine List.cons_eq_cons.mpr ⟨congrArg Index.ordinal hfree, ?_⟩
    apply List.map_congr_left
    intro k _
    rw [Function.comp_apply, Nat.succ_eq_add_one, Nat.add_right_comm, Nat.add_assoc]

/-- The k-th marker without a name gets the k-th smallest unclaimed number. -/
theorem anonymousIndices_eq (markers : List Marker) :
    anonymousIndices (occurrences markers) =
      (List.range (markers.countP isAnonymous)).map fun k =>
        .ordinal (Nat.nth (Unclaimed markers) k) := by
  have hclaims : (· ∉ markers.filterMap claimed?) = Unclaimed markers := by
    funext n
    rw [Unclaimed, claimed_iff]
  rw [occurrences, indices, anonymousIndices_indicesFrom, ← hclaims]
  simp only [Nat.count_zero, Nat.zero_add]

/-! ## Markers that do not matter -/

theorem claimed_filter {n : Nat} :
    Claimed (markers.filter fun marker => !isSilent marker) n ↔ Claimed markers n := by
  simp [Claimed, isSilent]

theorem countP_filter_not_isSilent (markers : List Marker) :
    (markers.filter fun marker => !isSilent marker).countP isAnonymous =
      markers.countP isAnonymous := by
  rw [List.countP_filter]
  apply List.countP_congr
  intro marker _
  cases marker with
  | reference name => simp [isAnonymous]
  | typed name code => cases name <;> simp [isAnonymous, isSilent]

/-- What markers without names get depends only on these markers and on those whose names
are positions. -/
theorem anonymousIndices_filter (markers : List Marker) :
    anonymousIndices (occurrences (markers.filter fun marker => !isSilent marker)) =
      anonymousIndices (occurrences markers) := by
  have hunclaimed : Unclaimed (markers.filter fun marker => !isSilent marker) =
      Unclaimed markers := by
    funext n
    rw [Unclaimed, Unclaimed, claimed_filter]
  rw [anonymousIndices_eq, anonymousIndices_eq, countP_filter_not_isSilent, hunclaimed]

end Anonymous

/-- The markers of a template without names get the numbers that no typed marker has for its
name, in ascending order: the k-th one gets the k-th smallest of these numbers.  So these
ordinals ascend, no two of them are equal, and none is the name of a typed marker.  A
template that differs in references only, and in typed markers whose names are no positions,
gives its markers without names the same ordinals. -/
theorem anonymousIndices_scan (brackets : Brackets) (source : String) :
    let found := markers (scan brackets source)
    let ordinals := (List.range (found.countP isAnonymous)).map (Nat.nth (Unclaimed found))
    anonymousIndices (occurrences found) = ordinals.map .ordinal ∧
      ordinals.Pairwise (· < ·) ∧ ordinals.Nodup ∧
      (∀ n ∈ ordinals, ∀ code, .typed (some (.ordinal n)) code ∉ found) ∧
      ∀ other : String,
        (markers (scan brackets other)).filter (fun marker => !isSilent marker) =
          found.filter (fun marker => !isSilent marker) →
        anonymousIndices (occurrences (markers (scan brackets other))) =
          anonymousIndices (occurrences found) := by
  intro found ordinals
  have hinfinite := infinite_unclaimed found
  have hascending : ordinals.Pairwise (· < ·) := by
    apply List.Pairwise.map _ _ List.pairwise_lt_range
    intro k l hlt
    exact Nat.nth_strictMono hinfinite hlt
  refine ⟨?_, hascending, hascending.imp Nat.ne_of_lt, ?_, ?_⟩
  · rw [anonymousIndices_eq, List.map_map]
    rfl
  · intro n hn code hmem
    obtain ⟨k, _, hk⟩ := List.mem_map.mp hn
    have hunclaimed : Unclaimed found n := by
      rw [← hk]
      exact Nat.nth_mem_of_infinite hinfinite k
    exact hunclaimed ⟨code, hmem⟩
  · intro other hsame
    rw [← anonymousIndices_filter, hsame, anonymousIndices_filter]

/-- References, a name, and digits that are no position leave the ordinals as they are. -/
theorem anonymousIndices_scan_silent :
    let source := ":i 1:s ?"
    let other := "\x7bn\x7d :i \x7b2\x7d 1:s n:d 07:b ?"
    (markers (scan .square other)).filter (fun marker => !isSilent marker) =
        (markers (scan .square source)).filter (fun marker => !isSilent marker) ∧
      anonymousIndices (occurrences (markers (scan .square other))) =
        anonymousIndices (occurrences (markers (scan .square source))) := by
  intro source other
  have hsame : (markers (scan .square other)).filter (fun marker => !isSilent marker) =
      (markers (scan .square source)).filter (fun marker => !isSilent marker) := by
    decide +kernel
  exact ⟨hsame, (anonymousIndices_scan .square source).2.2.2.2 other hsame⟩

end Template

end SqlTemplate
