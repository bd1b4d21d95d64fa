import SqlTemplate.Double.Shortest

/-!
# Doubles as text

Two written forms of a double, both with the digits of its shortest decimal:

* `text` is always positional and has no fraction for a whole number, `1` or `0.25`;
* `inspection` keeps a fraction, `1.0`, and takes an exponent from `10 ^ 16` up and
  below `10 ^ -4`.

Zero keeps its sign in both.
-/

namespace SqlTemplate.Double

/-- Digits in positional notation, the last one counting a power of ten. -/
def positional (digits : List Char) (exponent : Int) : List Char :=
  if 0 ≤ exponent then
    digits ++ List.replicate exponent.toNat '0'
  else
    let places := (-exponent).toNat
    let padded := List.replicate (places + 1 - digits.length) '0' ++ digits
    padded.take (padded.length - places) ++ '.' :: padded.drop (padded.length - places)

/-- Digits with the point after the first one and an exponent. -/
def scientific (digits : List Char) (exponent : Int) : List Char :=
  let fraction := digits.drop 1
  digits.take 1 ++ (if fraction.isEmpty then [] else '.' :: fraction) ++
    'e' :: Text.intText (exponent + fraction.length)

/-- The written form of a double, with one layout for the magnitudes above zero and one
for zero. -/
def write (layout : List Char → Int → List Char) (zero : List Char) (x : Double) : String :=
  if x.isNaN then
    "NaN"
  else
    let sign := if x.negative then ['-'] else []
    let magnitude :=
      if !x.isFinite then ['i', 'n', 'f']
      else if x.isZero then zero
      else
        let (digits, exponent) := x.shortest.trimmed
        layout digits exponent
    String.ofList (sign ++ magnitude)

/-- The positional form without a fraction for whole numbers. -/
def text (x : Double) : String :=
  x.write positional ['0']

/-- The layout of inspection texts. -/
def inspectionLayout (digits : List Char) (exponent : Int) : List Char :=
  let leading := exponent + digits.length - 1
  if leading < -4 ∨ 16 ≤ leading then scientific digits exponent
  else if 0 ≤ exponent then positional digits exponent ++ ['.', '0']
  else positional digits exponent

/-- The form that shows a number to be a double. -/
def inspection (x : Double) : String :=
  x.write inspectionLayout ['0', '.', '0']

end SqlTemplate.Double
