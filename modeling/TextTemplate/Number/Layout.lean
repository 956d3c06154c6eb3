import TextTemplate.Text.Occurrence
import TextTemplate.Number.Shortest

/-!
# How a number is written

The digits of a floating-point number are its shortest decimal; a layout decides where the point
stands and when an exponent is used instead. Two layouts are used: `Layout.plain` for numbers put
into a context directly, and `Layout.document` for numbers that a document holds.
-/

set_option autoImplicit false

namespace TextTemplate.Number

structure Layout where
  /-- Whether a number with its first digit at this power of ten is written without an exponent. -/
  positional : Int → Bool
  pointZero : Bool
  tie : Tie

namespace Layout

/-- Numbers put into a context directly: never an exponent, no `.0`. -/
def plain : Layout :=
  { positional := fun _ => true, pointZero := false, tie := .up }

/-- Numbers of a document: an exponent from 10 to the 16th up and below 10 to the -5th, and `.0`
after a whole number. -/
def document : Layout :=
  { positional := fun power => -5 ≤ power ∧ power < 16, pointZero := true, tie := .toEven }

def digits (n : Nat) : Text :=
  Nat.toDigits 10 n

def integer (n : Int) : Text :=
  if n < 0 then '-' :: digits n.natAbs else digits n.natAbs

def writePositional (layout : Layout) (d : Decimal) : Text :=
  let figures := digits d.significand
  if 0 ≤ d.exponent then
    figures ++ List.replicate d.exponent.toNat '0' ++ (if layout.pointZero then ['.', '0'] else [])
  else
    let after := (-d.exponent).toNat
    if figures.length ≤ after then
      ['0', '.'] ++ List.replicate (after - figures.length) '0' ++ figures
    else
      figures.take (figures.length - after) ++ '.' :: figures.drop (figures.length - after)

def writeExponent (d : Decimal) (power : Int) : Text :=
  let figures := digits d.significand
  let fraction := figures.drop 1
  figures.take 1 ++ (if fraction.isEmpty then [] else '.' :: fraction) ++
    'e' :: (if power < 0 then '-' else '+') :: digits power.natAbs

def write (layout : Layout) (format : BinaryFormat) : Binary → Text
  | .notANumber => "NaN".toList
  | .infinite negative => (if negative then ['-'] else []) ++ "inf".toList
  | .finite negative mantissa exponent =>
      let d := shortest format layout.tie mantissa exponent
      let power := d.exponent + digitCount d.significand - 1
      (if negative then ['-'] else []) ++
        if layout.positional power then layout.writePositional d else writeExponent d power

end Layout
end TextTemplate.Number
