import SqlTemplate.Text.Decimal

/-!
# Keys of array entries

An entry of an array has a position or a name.  A text becomes a position when it is the
written form of one, so that the texts `"7"` and the number seven name the same entry,
and stays a name in every other case (`"07"`, `"-7"`, `"id"`).
-/

namespace SqlTemplate

open Text

/-- The key of an array entry. -/
inductive Key where
  /-- A place in the array; it may be negative. -/
  | position (n : Int64)
  /-- A name, never looked at as a number. -/
  | name (text : String)
deriving DecidableEq

namespace Key

/-- The key that a text stands for. -/
def ofString (text : String) : Key :=
  match position? text with
  | some n => .position (Int64.ofNat n)
  | none => .name text

/-- The key of a natural number; one that is too large for a position is a name. -/
def ofNat (n : Nat) : Key :=
  if n ≤ largestPosition then .position (Int64.ofNat n)
  else .name (String.ofList (decimal n))

/-- The key as text. -/
def text : Key → String
  | .position n => String.ofList (intText n.toInt)
  | .name text => text

/-- The text of the key that a text stands for is the text again. -/
theorem text_ofString (name : String) : (ofString name).text = name := by
  unfold ofString
  split
  · rename_i n hfound
    obtain ⟨hsmall, rfl⟩ := position?_eq_some_iff.mp hfound
    rw [text, Int64.toInt_ofNat_of_lt (le_largestPosition_iff.mp hsmall)]
    rfl
  · rfl

/-- So no two texts stand for one key. -/
theorem ofString_injective : Function.Injective ofString := by
  intro first second hsame
  rw [← text_ofString first, hsame, text_ofString]

/-- A number and its written form stand for one key. -/
theorem ofString_decimal (n : Nat) : ofString (String.ofList (decimal n)) = ofNat n := by
  rw [ofString, position?_decimal, ofNat]
  by_cases hsmall : n ≤ largestPosition
  · rw [if_pos hsmall, if_pos hsmall]
  · rw [if_neg hsmall, if_neg hsmall]

/-- So no two numbers stand for one key either. -/
theorem ofNat_injective : Function.Injective ofNat := by
  intro first second hsame
  rw [← ofString_decimal, ← ofString_decimal] at hsame
  exact decimal_injective (String.ofList_injective (ofString_injective hsame))

end Key

end SqlTemplate
