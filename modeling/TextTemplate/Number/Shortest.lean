import TextTemplate.Number.Binary

/-!
# The shortest decimal that reads back

The reals that round to one floating-point number form an interval around it. Its shortest decimal
has the fewest digits that any decimal in the interval has, and among those is nearest to the
number. It is found by looking, for 1, 2, ... digits, at the number's two neighbours on the grid of
decimals with that many digits: if any point of a grid lies in the interval, one of these does.
-/

set_option autoImplicit false

-- Powers are those of the core library, whatever else is in scope.
attribute [local instance (high)] instPowNat instNatPowNat

namespace TextTemplate.Number

structure Decimal where
  significand : Nat
  exponent : Int
  deriving DecidableEq, Repr

namespace Decimal

def dropZeros : Nat → Decimal → Decimal
  | 0, d => d
  | count + 1, d =>
      if d.significand % 10 = 0 ∧ d.significand ≠ 0 then
        dropZeros count ⟨d.significand / 10, d.exponent + 1⟩
      else d

end Decimal

inductive Tie where
  | toEven
  | up
  deriving DecidableEq, Repr

/-- The reals that round to a number, in quarters of its last place: the number itself, the lower
and the upper end, and whether the ends belong to it. -/
structure RoundingInterval where
  number : Nat
  low : Nat
  high : Nat
  closed : Bool
  deriving Repr

/-- The interval of a number that is not zero. Below a power of two the numbers lie twice as close,
so there the lower end is nearer. -/
def roundingInterval (format : BinaryFormat) (mantissa : Nat) (exponent : Int) :
    RoundingInterval :=
  let narrow := mantissa = 2 ^ format.mantissaBits ∧ format.leastExponent < exponent
  { number := 4 * mantissa
    low := 4 * mantissa - if narrow then 1 else 2
    high := 4 * mantissa + 2
    closed := mantissa % 2 = 0 }

def tenPower (numerator denominator : Nat) : Int :=
  let guess : Int := digitCount numerator - digitCount denominator
  let (above, below) := scaled 1 10 guess
  if above * denominator ≤ numerator * below then guess else guess - 1

/-- The decimal of the grid `10 ^ place` nearest to the number, if it lies in the interval. Here
`unit` is the exponent of two of a quarter of the number's last place. -/
def onGrid? (interval : RoundingInterval) (unit place : Int) (tie : Tie) : Option Decimal :=
  let number := 2 ^ unit.toNat * 10 ^ (-place).toNat
  let grid := 10 ^ place.toNat * 2 ^ (-unit).toNat
  let inside (point : Nat) : Bool :=
    if interval.closed then
      interval.low * number ≤ point * grid ∧ point * grid ≤ interval.high * number
    else
      interval.low * number < point * grid ∧ point * grid < interval.high * number
  let exact := interval.number * number
  let below := exact / grid
  let above := below + 1
  match inside below, inside above with
  | false, false => none
  | true, false => some ⟨below, place⟩
  | false, true => some ⟨above, place⟩
  | true, true =>
      let toBelow := exact - below * grid
      let toAbove := above * grid - exact
      let takeBelow :=
        toBelow < toAbove ∨ toBelow = toAbove ∧ tie = .toEven ∧ below % 2 = 0
      some ⟨if takeBelow then below else above, place⟩

def shortestFrom (interval : RoundingInterval) (unit top : Int) (tie : Tie) :
    (tries digits : Nat) → Decimal
  | 0, digits => ⟨interval.number * 2 ^ unit.toNat, digits⟩
  | tries + 1, digits =>
      match onGrid? interval unit (top - digits + 1) tie with
      | some found => found
      | none => shortestFrom interval unit top tie tries (digits + 1)

/-- The shortest decimal of `mantissa * 2 ^ exponent`, without trailing zeros. Seventeen digits
always suffice for the formats of this project. -/
def shortest (format : BinaryFormat) (tie : Tie) (mantissa : Nat) (exponent : Int) : Decimal :=
  if mantissa = 0 then ⟨0, 0⟩
  else
    let (numerator, denominator) := scaled mantissa 2 exponent
    let found :=
      shortestFrom (roundingInterval format mantissa exponent) (exponent - 2)
        (tenPower numerator denominator) tie 17 1
    found.dropZeros (digitCount found.significand)

end TextTemplate.Number
