import SqlTemplate.Text.Decimal

/-!
# Integers of 64 bits

An integer value has 64 bits.  `int64?` is the only way from an unbounded integer to one
of them, and it answers only when nothing is lost.
-/

namespace SqlTemplate

/-- The integer as one of 64 bits, when it is in their range. -/
def int64? (n : Int) : Option Int64 :=
  if Int64.minValue.toInt ≤ n ∧ n ≤ Int64.maxValue.toInt then some (Int64.ofInt n) else none

/-- The integer within the range of 64 bits that is nearest to an integer. -/
def saturated (n : Int) : Int :=
  if n < Int64.minValue.toInt then Int64.minValue.toInt
  else if Int64.maxValue.toInt < n then Int64.maxValue.toInt
  else n

/-- The written form of an integer of 64 bits. -/
def int64Text (n : Int64) : String :=
  String.ofList (Text.intText n.toInt)

theorem toInt_of_int64? {n : Int} {m : Int64} (h : int64? n = some m) : m.toInt = n := by
  unfold int64? at h
  split at h
  · rename_i hrange
    cases h
    exact Int64.toInt_ofInt_of_le hrange.1 (Int.lt_of_le_sub_one hrange.2)
  · cases h

end SqlTemplate
