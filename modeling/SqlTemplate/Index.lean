import SqlTemplate.Key

/-!
# Indices of placeholders

A placeholder is told from the others of its template by an ordinal or by a name.  Texts
and keys become indices by one rule: the written form of a position is an ordinal, and
everything else is a name.  A value that is supplied under a key therefore reaches the
placeholder that is declared under the same text.
-/

namespace SqlTemplate

open Text

/-- What tells the placeholders of one template apart. -/
inductive Index where
  /-- A number, counted from zero. -/
  | ordinal (n : Nat)
  /-- A name. -/
  | name (text : String)
deriving DecidableEq

namespace Index

/-- The index that a text stands for. -/
def ofString (text : String) : Index :=
  match position? text with
  | some n => .ordinal n
  | none => .name text

/-- The index of an integer: a negative one is the name that spells it. -/
def ofInt : Int → Index
  | .ofNat n => .ordinal n
  | .negSucc n => .name (String.ofList (intText (.negSucc n)))

/-- The index under which the value of an array entry is supplied. -/
def ofKey : Key → Index
  | .position n => ofInt n.toInt
  | .name text => ofString text

/-- The index as text. -/
def text : Index → String
  | .ordinal n => String.ofList (decimal n)
  | .name text => text

/-- The token that stands for a placeholder in a canonical template. -/
def token (index : Index) : String :=
  "\x7b" ++ index.text ++ "\x7d"

/-- The text of the index that a text stands for is the text again. -/
theorem text_ofString (name : String) : (ofString name).text = name := by
  unfold ofString
  split
  · rename_i n hfound
    exact (position?_eq_some_iff.mp hfound).2.symm
  · rfl

/-- So no two texts stand for one index. -/
theorem ofString_injective : Function.Injective ofString := by
  intro first second hsame
  rw [← text_ofString first, hsame, text_ofString]

/-- A text is an ordinal exactly if it is the written form of one that is not too large. -/
theorem ofString_eq_ordinal_iff {text : String} {n : Nat} :
    ofString text = .ordinal n ↔ n ≤ largestPosition ∧ text = String.ofList (decimal n) := by
  rw [← position?_eq_some_iff, ofString]
  cases position? text <;> simp

/-- Every other text is a name. -/
theorem ofString_of_not_written {text : String}
    (hother : ¬ ∃ n ≤ largestPosition, text = String.ofList (decimal n)) :
    ofString text = .name text := by
  cases hfound : ofString text with
  | ordinal n => exact absurd ⟨n, ofString_eq_ordinal_iff.mp hfound⟩ hother
  | name read =>
    have hread := text_ofString text
    rw [hfound] at hread
    exact congrArg Index.name hread

theorem ofString_decimal (n : Nat) :
    ofString (String.ofList (decimal n)) =
      if n ≤ largestPosition then .ordinal n else .name (String.ofList (decimal n)) := by
  rw [ofString, position?_decimal]
  by_cases hsmall : n ≤ largestPosition
  · rw [if_pos hsmall, if_pos hsmall]
  · rw [if_neg hsmall, if_neg hsmall]

theorem ofKey_position {n : Nat} (hsmall : n ≤ largestPosition) :
    ofKey (.position (Int64.ofNat n)) = .ordinal n := by
  rw [ofKey, Int64.toInt_ofNat_of_lt (le_largestPosition_iff.mp hsmall)]
  rfl

/-- A key stands for the same index as its text. -/
theorem ofKey_eq (key : Key) : ofKey key = ofString key.text := by
  cases key with
  | name text => rfl
  | position n =>
      rw [ofKey, Key.text]
      cases hvalue : n.toInt with
      | ofNat m =>
          have hbelow : Int.ofNat m < 2 ^ 63 := hvalue ▸ n.toInt_lt
          rw [Int.ofNat_eq_natCast] at hbelow
          have hlimit : m < 2 ^ 63 := by omega
          have hsmall := le_largestPosition_iff.mpr hlimit
          exact ((ofString_decimal m).trans (if_pos hsmall)).symm
      | negSucc m =>
          refine (ofString_of_not_written ?_).symm
          rintro ⟨k, -, hsame⟩
          have hsign : '-' ∈ decimal k := by
            rw [← String.ofList_inj.mp hsame]
            exact List.mem_cons_self
          exact absurd (isAsciiDigit_of_mem_decimal hsign) (by decide)

/-- A text that goes through a key stands for the same index. -/
theorem ofKey_ofString (text : String) : ofKey (Key.ofString text) = ofString text := by
  rw [ofKey_eq, Key.text_ofString]

/-- So does the key of a number, which is that of its written form. -/
theorem ofKey_ofNat (n : Nat) : ofKey (Key.ofNat n) = ofString (String.ofList (decimal n)) := by
  rw [← Key.ofString_decimal, ofKey_ofString]

/-- Ordinals come first, by number; names follow, by their code points. -/
def lt : Index → Index → Bool
  | .ordinal m, .ordinal n => m < n
  | .ordinal _, .name _ => true
  | .name _, .ordinal _ => false
  | .name s, .name t => s < t

/-- The indices in ascending order. -/
def sort (indices : List Index) : List Index :=
  indices.mergeSort fun s t => !lt t s

end Index

end SqlTemplate
