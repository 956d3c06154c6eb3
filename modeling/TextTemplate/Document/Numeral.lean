import TextTemplate.Text.Occurrence
import TextTemplate.Number.Binary

/-!
# Decimal numerals

The decimal texts that documents write numbers with: digits, a point with digits, and an exponent.
-/

set_option autoImplicit false

namespace TextTemplate.Numeral

def value (digits : Text) : Nat :=
  digits.foldl (fun n c => 10 * n + (c.toNat - '0'.toNat)) 0

def digitValue (c : Char) : Nat :=
  if c.isDigit then c.toNat - '0'.toNat
  else if c.isLower then c.toNat - 'a'.toNat + 10
  else if c.isUpper then c.toNat - 'A'.toNat + 10
  else 36

def inBase? (base : Nat) (digits : Text) : Option Nat :=
  if digits.isEmpty ∨ digits.any (fun c => base ≤ digitValue c) then none
  else some (digits.foldl (fun n c => base * n + digitValue c) 0)

structure Parts where
  whole : Text
  fraction : Text
  exponent : Int
  deriving DecidableEq, Repr

def Parts.toBinary (parts : Parts) (negative : Bool) : Number.Binary :=
  .nearest .double negative (value (parts.whole ++ parts.fraction))
    (parts.exponent - parts.fraction.length)

def takeDigits (text : Text) : Text × Text :=
  (text.takeWhile Char.isDigit, text.dropWhile Char.isDigit)

def takeExponent? (text : Text) : Option (Int × Text) :=
  let (negative, text) :=
    match text with
    | '-' :: rest => (true, rest)
    | '+' :: rest => (false, rest)
    | _ => (false, text)
  match takeDigits text with
  | ([], _) => none
  | (digits, rest) =>
      let size : Int := value digits
      some (if negative then -size else size, rest)

end TextTemplate.Numeral
