/-!
# Powers of two and of ten

The scales of binary and of decimal numbers, as natural numbers.
-/

namespace SqlTemplate

/-- Two to the power of a number. -/
def pow2 (n : Nat) : Nat :=
  Nat.pow 2 n

/-- Ten to the power of a number. -/
def pow10 (n : Nat) : Nat :=
  Nat.pow 10 n

end SqlTemplate
