import Mathlib.Data.Nat.Find
import SqlTemplate.Template.Segment

/-!
# Blocks by position

Which pieces of a template form a block, said by their positions and without regard to how
the template is read.

* `IsBlock`: a block runs from an opening bracket to the first closing bracket after it,
  and its opening bracket is the first one since the last closing bracket.
* `exists_isBlock_iff`: a piece lies in a block exactly if some opening bracket is in front
  of it with no closing bracket between, and some closing bracket follows.
* `isBlock_append`: behind pieces whose opening brackets are all closed, blocks are as if
  the pieces were not there.
* `BlockHolds`: a block with a marker of some kind in it.
-/

namespace SqlTemplate.Template

/-! ## Positions -/

/-- The index of a piece that is a marker. -/
def IndexedPiece.index? : IndexedPiece → Option Index
  | .part content => content.index?
  | .opening | .closing => none

/-- The index of the marker at a position, if there is one. -/
def slotAt? (pieces : List IndexedPiece) (k : Nat) : Option Index :=
  pieces[k]?.bind IndexedPiece.index?

/-- A block runs from the position `first` to the position `last`. -/
structure IsBlock (pieces : List IndexedPiece) (first last : Nat) : Prop where
  opens : pieces[first]? = some .opening
  closes : pieces[last]? = some .closing
  ordered : first < last
  /-- The closing bracket is the first one after the opening bracket. -/
  inside : ∀ k < last, first < k → pieces[k]? ≠ some .closing
  /-- The opening bracket is the first one since the last closing bracket. -/
  fresh : ∀ i < first, pieces[i]? = some .opening →
    ∃ j < first, i < j ∧ pieces[j]? = some .closing

instance (pieces : List IndexedPiece) (first last : Nat) :
    Decidable (IsBlock pieces first last) :=
  decidable_of_iff
    (pieces[first]? = some .opening ∧ pieces[last]? = some .closing ∧ first < last ∧
      (∀ k < last, first < k → pieces[k]? ≠ some .closing) ∧
      ∀ i < first, pieces[i]? = some .opening →
        ∃ j < first, i < j ∧ pieces[j]? = some .closing)
    ⟨fun ⟨opens, closes, ordered, inside, fresh⟩ => ⟨opens, closes, ordered, inside, fresh⟩,
      fun h => ⟨h.opens, h.closes, h.ordered, h.inside, h.fresh⟩⟩

/-- Some opening bracket is in front of the position with no closing bracket between, and
some closing bracket follows. -/
def Enclosed (pieces : List IndexedPiece) (k : Nat) : Prop :=
  (∃ i < k, pieces[i]? = some .opening ∧ ∀ j < k, i < j → pieces[j]? ≠ some .closing) ∧
    ∃ j, k < j ∧ pieces[j]? = some .closing

/-- The block `first`, `last` has a marker in it whose index passes a test. -/
def BlockHolds (test : Index → Bool) (pieces : List IndexedPiece) (first last : Nat) : Prop :=
  IsBlock pieces first last ∧
    ∃ k < last, first < k ∧ (slotAt? pieces k).any test = true

instance (test : Index → Bool) (pieces : List IndexedPiece) (first last : Nat) :
    Decidable (BlockHolds test pieces first last) :=
  inferInstanceAs (Decidable (_ ∧ _))

theorem lt_length_of_getElem? {pieces : List IndexedPiece} {k : Nat} {piece : IndexedPiece}
    (h : pieces[k]? = some piece) : k < pieces.length :=
  (List.getElem?_eq_some_iff.mp h).1

/-! ## The block around a position -/

/-- A piece that is no closing bracket lies in a block exactly if it is enclosed. -/
theorem exists_isBlock_iff {pieces : List IndexedPiece} {k : Nat}
    (hk : pieces[k]? ≠ some .closing) :
    (∃ first last, IsBlock pieces first last ∧ first < k ∧ k < last) ↔ Enclosed pieces k := by
  classical
  constructor
  · intro hex
    obtain ⟨first, last, hblock, hfirst, hlast⟩ := hex
    refine ⟨⟨first, hfirst, hblock.opens, fun j hj hlt => ?_⟩, last, hlast, hblock.closes⟩
    exact hblock.inside j (by omega) hlt
  · intro hboth
    obtain ⟨hbefore, hafter⟩ := hboth
    obtain ⟨hlast, hcloses⟩ := Nat.find_spec hafter
    obtain ⟨hfirst, hopens, hclear⟩ := Nat.find_spec hbefore
    refine ⟨Nat.find hbefore, Nat.find hafter, ⟨hopens, hcloses, by omega, ?_, ?_⟩, hfirst, hlast⟩
    · intro j hj hlt hclosing
      rcases Nat.lt_trichotomy j k with hbelow | rfl | habove
      · exact hclear j hbelow hlt hclosing
      · exact hk hclosing
      · exact Nat.find_min hafter hj ⟨habove, hclosing⟩
    · intro i hi hopening
      -- An opening bracket further in front is not the first one only if it is closed.
      have hnot := Nat.find_min hbefore hi
      simp only [not_and, not_forall] at hnot
      obtain ⟨j, hj, hlt, hclosing⟩ := hnot (by omega) hopening
      refine ⟨j, ?_, hlt, by simpa using hclosing⟩
      rcases Nat.lt_trichotomy j (Nat.find hbefore) with hbelow | heq | habove
      · exact hbelow
      · rw [heq, hopens] at hclosing
        simp at hclosing
      · exact absurd (by simpa using hclosing) (hclear j hj habove)

/-! ## Blocks behind other pieces -/

/-- Every opening bracket is followed by a closing bracket. -/
def Settled (pieces : List IndexedPiece) : Prop :=
  ∀ i : Nat, pieces[i]? = some .opening → ∃ j, i < j ∧ pieces[j]? = some .closing

section Append

variable {chunk rest : List IndexedPiece}

theorem getElem?_append_of_lt {k : Nat} (h : k < chunk.length) :
    (chunk ++ rest)[k]? = chunk[k]? :=
  List.getElem?_append_left h

theorem getElem?_append_add (k : Nat) : (chunk ++ rest)[chunk.length + k]? = rest[k]? := by
  rw [List.getElem?_append_right (by omega), Nat.add_sub_cancel_left]

theorem Settled.append (hchunk : Settled chunk) (hrest : Settled rest) :
    Settled (chunk ++ rest) := by
  intro i hi
  by_cases hin : i < chunk.length
  · rw [getElem?_append_of_lt hin] at hi
    obtain ⟨j, hlt, hj⟩ := hchunk i hi
    have hlength := lt_length_of_getElem? hj
    exact ⟨j, hlt, by rwa [getElem?_append_of_lt hlength]⟩
  · obtain ⟨m, rfl⟩ : ∃ m, i = chunk.length + m := ⟨i - chunk.length, by omega⟩
    rw [getElem?_append_add] at hi
    obtain ⟨j, hlt, hj⟩ := hrest m hi
    exact ⟨chunk.length + j, by omega, by rwa [getElem?_append_add]⟩

theorem IsBlock.append_right {first last : Nat} (h : IsBlock chunk first last)
    (rest : List IndexedPiece) : IsBlock (chunk ++ rest) first last := by
  have hlast : last < chunk.length := lt_length_of_getElem? h.closes
  have hordered := h.ordered
  refine ⟨?_, ?_, hordered, ?_, ?_⟩
  · rw [getElem?_append_of_lt (by omega)]
    exact h.opens
  · rw [getElem?_append_of_lt hlast]
    exact h.closes
  · intro k hk hlt
    rw [getElem?_append_of_lt (by omega)]
    exact h.inside k hk hlt
  · intro i hi hopening
    rw [getElem?_append_of_lt (by omega)] at hopening
    obtain ⟨j, hj, hlt, hclosing⟩ := h.fresh i hi hopening
    refine ⟨j, hj, hlt, ?_⟩
    rw [getElem?_append_of_lt (by omega)]
    exact hclosing

theorem IsBlock.append_left {first last : Nat} (hsettled : Settled chunk)
    (h : IsBlock rest first last) :
    IsBlock (chunk ++ rest) (chunk.length + first) (chunk.length + last) := by
  have hordered := h.ordered
  refine ⟨?_, ?_, by omega, ?_, ?_⟩
  · rw [getElem?_append_add]
    exact h.opens
  · rw [getElem?_append_add]
    exact h.closes
  · intro k hk hlt
    obtain ⟨m, rfl⟩ : ∃ m, k = chunk.length + m := ⟨k - chunk.length, by omega⟩
    rw [getElem?_append_add]
    exact h.inside m (by omega) (by omega)
  · intro i hi hopening
    by_cases hin : i < chunk.length
    · rw [getElem?_append_of_lt hin] at hopening
      obtain ⟨j, hlt, hclosing⟩ := hsettled i hopening
      have hj : j < chunk.length := lt_length_of_getElem? hclosing
      refine ⟨j, by omega, hlt, ?_⟩
      rw [getElem?_append_of_lt hj]
      exact hclosing
    · obtain ⟨m, rfl⟩ : ∃ m, i = chunk.length + m := ⟨i - chunk.length, by omega⟩
      rw [getElem?_append_add] at hopening
      obtain ⟨j, hj, hlt, hclosing⟩ := h.fresh m (by omega) hopening
      refine ⟨chunk.length + j, by omega, by omega, ?_⟩
      rw [getElem?_append_add]
      exact hclosing

/-- A block that begins in the first run, which is settled, ends in it. -/
theorem IsBlock.of_append_of_lt (hsettled : Settled chunk) {first last : Nat}
    (h : IsBlock (chunk ++ rest) first last) (hin : first < chunk.length) :
    IsBlock chunk first last := by
  have hordered := h.ordered
  have hopens := h.opens
  rw [getElem?_append_of_lt hin] at hopens
  -- The first run closes the bracket somewhere, and the block ends no later.
  obtain ⟨j, hlt, hclosing⟩ := hsettled first hopens
  have hj : j < chunk.length := lt_length_of_getElem? hclosing
  have hlast : last ≤ j := by
    by_contra hafter
    refine h.inside j (by omega) hlt ?_
    rw [getElem?_append_of_lt hj]
    exact hclosing
  refine ⟨hopens, ?_, hordered, ?_, ?_⟩
  · rw [← getElem?_append_of_lt (by omega)]
    exact h.closes
  · intro k hk hbetween
    rw [← getElem?_append_of_lt (by omega)]
    exact h.inside k hk hbetween
  · intro i hi hopening
    rw [← getElem?_append_of_lt (by omega)] at hopening
    obtain ⟨k, hk, hbetween, hcloses⟩ := h.fresh i hi hopening
    rw [getElem?_append_of_lt (by omega)] at hcloses
    exact ⟨k, hk, hbetween, hcloses⟩

theorem IsBlock.of_append_add {m n : Nat}
    (h : IsBlock (chunk ++ rest) (chunk.length + m) (chunk.length + n)) : IsBlock rest m n := by
  have hordered := h.ordered
  refine ⟨?_, ?_, by omega, ?_, ?_⟩
  · rw [← getElem?_append_add]
    exact h.opens
  · rw [← getElem?_append_add]
    exact h.closes
  · intro k hk hlt
    rw [← getElem?_append_add]
    exact h.inside _ (by omega) (by omega)
  · intro i hi hopening
    rw [← getElem?_append_add] at hopening
    obtain ⟨j, hj, hlt, hclosing⟩ := h.fresh _ (by omega) hopening
    obtain ⟨k, rfl⟩ : ∃ k, j = chunk.length + k := ⟨j - chunk.length, by omega⟩
    rw [getElem?_append_add] at hclosing
    exact ⟨k, by omega, by omega, hclosing⟩

/-- A block of two runs of pieces, the first one settled, is a block of one of them. -/
theorem isBlock_append (hsettled : Settled chunk) {first last : Nat} :
    IsBlock (chunk ++ rest) first last ↔ IsBlock chunk first last ∨
      ∃ m n, first = chunk.length + m ∧ last = chunk.length + n ∧ IsBlock rest m n := by
  constructor
  · intro h
    have hordered := h.ordered
    by_cases hin : first < chunk.length
    · exact Or.inl (h.of_append_of_lt hsettled hin)
    · obtain ⟨m, rfl⟩ : ∃ m, first = chunk.length + m := ⟨first - chunk.length, by omega⟩
      obtain ⟨n, rfl⟩ : ∃ n, last = chunk.length + n := ⟨last - chunk.length, by omega⟩
      exact Or.inr ⟨m, n, rfl, rfl, h.of_append_add⟩
  · intro hor
    rcases hor with h | ⟨m, n, rfl, rfl, h⟩
    · exact h.append_right rest
    · exact h.append_left hsettled

/-- The same with a marker of some kind in the block. -/
theorem blockHolds_append (hsettled : Settled chunk) {test : Index → Bool} {first last : Nat} :
    BlockHolds test (chunk ++ rest) first last ↔ BlockHolds test chunk first last ∨
      ∃ m n, first = chunk.length + m ∧ last = chunk.length + n ∧
        BlockHolds test rest m n := by
  constructor
  · intro hex
    obtain ⟨hblock, k, hk, hlt, hslot⟩ := hex
    rcases (isBlock_append hsettled).mp hblock with hinner | ⟨m, n, rfl, rfl, hinner⟩
    · have hlast : last < chunk.length := lt_length_of_getElem? hinner.closes
      rw [slotAt?, getElem?_append_of_lt (by omega)] at hslot
      exact Or.inl ⟨hinner, k, hk, hlt, hslot⟩
    · obtain ⟨j, rfl⟩ : ∃ j, k = chunk.length + j := ⟨k - chunk.length, by omega⟩
      rw [slotAt?, getElem?_append_add] at hslot
      exact Or.inr ⟨m, n, rfl, rfl, hinner, j, by omega, by omega, hslot⟩
  · intro hor
    rcases hor with ⟨hinner, k, hk, hlt, hslot⟩ | ⟨m, n, rfl, rfl, hinner, k, hk, hlt, hslot⟩
    · have hlast : last < chunk.length := lt_length_of_getElem? hinner.closes
      refine ⟨hinner.append_right rest, k, hk, hlt, ?_⟩
      rw [slotAt?, getElem?_append_of_lt (by omega)]
      exact hslot
    · refine ⟨hinner.append_left hsettled, chunk.length + k, by omega, by omega, ?_⟩
      rw [slotAt?, getElem?_append_add]
      exact hslot

variable {test : Index → Bool} {near : Nat → Nat → Prop} {k : Nat}

/-- A block near a position of the first run is a block of that run. -/
theorem exists_blockHolds_append_of_lt (hsettled : Settled chunk)
    (hnear : ∀ first last, first < last → near first last → first ≤ k) (hk : k < chunk.length) :
    (∃ first last, BlockHolds test (chunk ++ rest) first last ∧ near first last) ↔
      ∃ first last, BlockHolds test chunk first last ∧ near first last := by
  constructor
  · intro hex
    obtain ⟨first, last, hholds, hat⟩ := hex
    rcases (blockHolds_append hsettled).mp hholds with hinner | ⟨m, n, rfl, rfl, hinner⟩
    · exact ⟨first, last, hinner, hat⟩
    · have := hnear _ _ hholds.1.ordered hat
      omega
  · intro hex
    obtain ⟨first, last, hinner, hat⟩ := hex
    exact ⟨first, last, (blockHolds_append hsettled).mpr (Or.inl hinner), hat⟩

/-- A block near a position behind the first run is a block of the second one. -/
theorem exists_blockHolds_append_add (hsettled : Settled chunk)
    (hnear : ∀ first last, first < last → near first last → chunk.length ≤ last) :
    (∃ first last, BlockHolds test (chunk ++ rest) first last ∧ near first last) ↔
      ∃ first last, BlockHolds test rest first last ∧
        near (chunk.length + first) (chunk.length + last) := by
  constructor
  · intro hex
    obtain ⟨first, last, hholds, hat⟩ := hex
    rcases (blockHolds_append hsettled).mp hholds with hinner | ⟨m, n, rfl, rfl, hinner⟩
    · have hlast := lt_length_of_getElem? hinner.1.closes
      have := hnear _ _ hholds.1.ordered hat
      omega
    · exact ⟨m, n, hinner, hat⟩
  · intro hex
    obtain ⟨first, last, hinner, hat⟩ := hex
    exact ⟨_, _, (blockHolds_append hsettled).mpr (Or.inr ⟨first, last, rfl, rfl, hinner⟩), hat⟩

end Append

/-! ## One block -/

/-- Pieces between brackets. -/
def block (body : List IndexedPiece) : List IndexedPiece :=
  .opening :: (body ++ [.closing])

section OneBlock

variable {body : List IndexedPiece}

theorem length_block : (block body).length = body.length + 2 := by
  simp [block]

theorem getElem?_block_succ {k : Nat} (h : k < body.length) :
    (block body)[k + 1]? = body[k]? := by
  rw [block, List.getElem?_cons_succ, getElem?_append_of_lt h]

/-- The closing bracket of a block is at its end. -/
theorem eq_of_getElem?_block (hbody : .closing ∉ body) {k : Nat}
    (h : (block body)[k]? = some .closing) : k = body.length + 1 := by
  cases k with
  | zero => simp [block] at h
  | succ k =>
    have hlength := lt_length_of_getElem? h
    rw [length_block] at hlength
    by_cases hin : k < body.length
    · rw [getElem?_block_succ hin] at h
      exact absurd (List.mem_of_getElem? h) hbody
    · omega

theorem settled_block (body : List IndexedPiece) : Settled (block body) := by
  have hlast : (block body)[body.length + 1]? = some .closing := by simp [block]
  intro i hi
  refine ⟨body.length + 1, ?_, hlast⟩
  have hlength := lt_length_of_getElem? hi
  rw [length_block] at hlength
  by_contra hend
  obtain rfl : i = body.length + 1 := by omega
  rw [hlast] at hi
  cases hi

/-- The only block of a block is the whole of it. -/
theorem isBlock_block (hbody : .closing ∉ body) {first last : Nat} :
    IsBlock (block body) first last ↔
      first = 0 ∧ last = body.length + 1 := by
  constructor
  · intro h
    have hlast := eq_of_getElem?_block hbody h.closes
    refine ⟨?_, hlast⟩
    by_contra hfirst
    obtain ⟨j, hj, _, hcloses⟩ := h.fresh 0 (by omega) rfl
    have hordered := h.ordered
    have := eq_of_getElem?_block hbody hcloses
    omega
  · intro hboth
    obtain ⟨rfl, rfl⟩ := hboth
    refine ⟨rfl, by simp [block], by omega, fun k hk _ hcloses => ?_, fun i hi => ?_⟩
    · have := eq_of_getElem?_block hbody hcloses
      omega
    · omega

theorem blockHolds_block (hbody : .closing ∉ body) {test : Index → Bool} {first last : Nat} :
    BlockHolds test (block body) first last ↔
      (first = 0 ∧ last = body.length + 1) ∧
        (body.filterMap IndexedPiece.index?).any test = true := by
  rw [BlockHolds, isBlock_block hbody]
  refine and_congr_right ?_
  intro hboth
  obtain ⟨rfl, rfl⟩ := hboth
  rw [List.any_eq_true]
  constructor
  · intro hex
    obtain ⟨k, hk, hlt, hslot⟩ := hex
    obtain ⟨m, rfl⟩ : ∃ m, k = m + 1 := ⟨k - 1, by omega⟩
    rw [slotAt?, getElem?_block_succ (by omega)] at hslot
    obtain ⟨index, hindex, htest⟩ := (Option.any_eq_true _ _).mp hslot
    obtain ⟨piece, hpiece, hsome⟩ := Option.bind_eq_some_iff.mp hindex
    exact ⟨index, List.mem_filterMap.mpr ⟨piece, List.mem_of_getElem? hpiece, hsome⟩, htest⟩
  · intro hex
    obtain ⟨index, hmem, htest⟩ := hex
    obtain ⟨piece, hpiece, hindex⟩ := List.mem_filterMap.mp hmem
    obtain ⟨m, hm, hat⟩ := List.mem_iff_getElem.mp hpiece
    refine ⟨m + 1, by omega, by omega, ?_⟩
    rw [slotAt?, getElem?_block_succ hm, List.getElem?_eq_getElem hm, hat]
    simpa [hindex] using htest

end OneBlock

end SqlTemplate.Template
