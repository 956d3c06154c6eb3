/-!
# Binary floating-point numbers

A floating-point number is a sign and a magnitude `mantissa * 2 ^ exponent`, or an infinity, or no
number at all. This file holds the two interchange formats, how their bits are read, and rounding a
decimal to the nearest number of a format. All arithmetic is exact, on natural numbers.
-/

set_option autoImplicit false

-- Powers are those of the core library, whatever else is in scope.
attribute [local instance (high)] instPowNat instNatPowNat Int.instNatPow

namespace TextTemplate.Number

structure BinaryFormat where
  mantissaBits : Nat
  exponentBits : Nat
  deriving DecidableEq, Repr

namespace BinaryFormat

def single : BinaryFormat := ⟨23, 8⟩

def double : BinaryFormat := ⟨52, 11⟩

/-- The exponent of the smallest numbers: every number is a multiple of two to this power. -/
def leastExponent (format : BinaryFormat) : Int :=
  2 - 2 ^ (format.exponentBits - 1) - format.mantissaBits

def greatestExponent (format : BinaryFormat) : Int :=
  2 ^ (format.exponentBits - 1) - 1 - format.mantissaBits

end BinaryFormat

inductive Binary where
  | notANumber
  | infinite (negative : Bool)
  | finite (negative : Bool) (mantissa : Nat) (exponent : Int)
  deriving DecidableEq, Repr

def Binary.ofBits (format : BinaryFormat) (bits : Nat) : Binary :=
  let stored := bits % 2 ^ format.mantissaBits
  let raised := bits / 2 ^ format.mantissaBits % 2 ^ format.exponentBits
  let negative := bits / 2 ^ (format.mantissaBits + format.exponentBits) % 2 == 1
  if raised = 2 ^ format.exponentBits - 1 then
    if stored = 0 then .infinite negative else .notANumber
  else if raised = 0 then
    .finite negative stored format.leastExponent
  else
    .finite negative (stored + 2 ^ format.mantissaBits) (format.leastExponent + raised - 1)

/-! ### Ratios -/

def scaled (significand base : Nat) (exponent : Int) : Nat × Nat :=
  (significand * base ^ exponent.toNat, base ^ (-exponent).toNat)

def digitCount (n : Nat) : Nat :=
  (Nat.toDigits 10 n).length

/-- The quotient rounded to the nearest natural number; halfway goes to the even neighbour. -/
def divideToEven (numerator denominator : Nat) : Nat :=
  let quotient := numerator / denominator
  let twice := 2 * (numerator % denominator)
  if twice < denominator ∨ twice = denominator ∧ quotient % 2 = 0 then quotient else quotient + 1

/-! ### The nearest number of a format -/

/-- The number of the format nearest to the ratio, with an even mantissa where two are equally
near. Past the largest number it is infinite. -/
def Binary.nearestRatio (format : BinaryFormat) (negative : Bool) (numerator denominator : Nat) :
    Binary :=
  let size : Int := Nat.log2 numerator - Nat.log2 denominator
  let high := max (size - format.mantissaBits) format.leastExponent
  let atExponent (exponent : Int) : Nat :=
    divideToEven (numerator * 2 ^ (-exponent).toNat) (denominator * 2 ^ exponent.toNat)
  let finish (exponent : Int) : Binary :=
    let mantissa := atExponent exponent
    let (mantissa, exponent) :=
      if mantissa = 2 ^ (format.mantissaBits + 1) then (mantissa / 2, exponent + 1)
      else (mantissa, exponent)
    if exponent > format.greatestExponent then .infinite negative
    else .finite negative mantissa exponent
  let short := numerator * 2 ^ (-size).toNat < denominator * 2 ^ size.toNat
  if short ∧ format.leastExponent < high then finish (high - 1) else finish high

def Binary.nearest (format : BinaryFormat) (negative : Bool) (significand : Nat) (exponent : Int) :
    Binary :=
  if significand = 0 then .finite negative 0 format.leastExponent
  else
    let magnitude := digitCount significand + exponent
    if magnitude > 2 ^ format.exponentBits then .infinite negative
    else if magnitude < -(2 ^ format.exponentBits) then .finite negative 0 format.leastExponent
    else
      let (numerator, denominator) := scaled significand 10 exponent
      .nearestRatio format negative numerator denominator

end TextTemplate.Number
