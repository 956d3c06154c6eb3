import TextTemplate.Document
import TextTemplate.Document.Numeral

/-!
# What YAML scalars stand for

A plain scalar without a tag stands for nothing, a truth value, a number or a text, by its form. A
tag of the core types asks for one of these; another tag makes a scalar a text.
-/

set_option autoImplicit false

-- Powers are those of the core library, whatever else is in scope.
attribute [local instance (high)] instPowNat instNatPowNat

namespace TextTemplate.Yaml.Resolution

def isNull (text : Text) : Bool :=
  ["null", "Null", "NULL", "~"].any (fun word => text = word.toList)

def boolean? (text : Text) : Option Bool :=
  if ["true", "True", "TRUE"].any (fun word => text = word.toList) then some true
  else if ["false", "False", "FALSE"].any (fun word => text = word.toList) then some false
  else none

/-- Whether a text is several digits that begin with a zero, perhaps signed. Such a text is no
number. -/
def isPaddedDigits (text : Text) : Bool :=
  let digits :=
    match text with
    | '-' :: rest => rest
    | '+' :: rest => rest
    | _ => text
  1 < digits.length && digits.head? = some '0' && digits.all Char.isDigit

def base? : Char → Option Nat
  | 'x' => some 16
  | 'o' => some 8
  | 'b' => some 2
  | _ => none

def natural? (bound : Nat) (text : Text) : Option Nat :=
  let based : Option Nat :=
    match text with
    | '0' :: letter :: digits => (base? letter).bind (fun base => Numeral.inBase? base digits)
    | _ => none
  match based.filter (· < bound) with
  | some size => some size
  | none => (Numeral.inBase? 10 text).filter (· < bound)

def integer? (bound : Nat) (text : Text) : Option Int :=
  let unsigned : Option Int :=
    match text with
    | '+' :: rest => if isPaddedDigits rest then none else (natural? bound rest).map Int.ofNat
    | _ => if isPaddedDigits text then none else (natural? bound text).map Int.ofNat
  match unsigned with
  | some n => some n
  | none =>
      match text with
      | '-' :: rest =>
          if isPaddedDigits rest then none
          else (natural? (bound / 2 + 1) rest).map (fun size => -(size : Int))
      | _ => none

inductive IntegerForm where
  | noInteger
  | tooLarge
  | integer (n : Int)
  deriving DecidableEq, Repr

/-- What a text is as an integer: up to 64 bits are read, and up to 128 bits are too large. -/
def integerForm (text : Text) : IntegerForm :=
  match integer? (2 ^ (64 : Nat)) text with
  | some n => .integer n
  | none => if (integer? (2 ^ (128 : Nat)) text).isSome then .tooLarge else .noInteger

def decimal? (text : Text) : Option Numeral.Parts := do
  let (whole, rest) := Numeral.takeDigits text
  let (fraction, rest) :=
    match rest with
    | '.' :: rest => Numeral.takeDigits rest
    | _ => ([], rest)
  if whole.isEmpty ∧ fraction.isEmpty then none
  else
    let (exponent, rest) ←
      match rest with
      | 'e' :: rest => Numeral.takeExponent? rest
      | 'E' :: rest => Numeral.takeExponent? rest
      | _ => some (0, rest)
    if rest.isEmpty then some ⟨whole, fraction, exponent⟩ else none

def float? (text : Text) : Option Number.Binary :=
  let infinite (text : Text) : Bool :=
    [".inf", ".Inf", ".INF"].any (fun word => text = word.toList)
  let (signed, size) : Bool × Text :=
    match text with
    | '+' :: rest => (true, rest)
    | _ => (false, text)
  if infinite size then some (.infinite false)
  else if [".nan", ".NaN", ".NAN"].any (fun word => text = word.toList) then some .notANumber
  else
    match size with
    | '-' :: rest =>
        if signed then none
        else if infinite rest then some (.infinite true)
        else finite true rest
    | _ => finite false size
where
  finite (negative : Bool) (text : Text) : Option Number.Binary :=
    match decimal? text with
    | none => none
    | some parts =>
        match parts.toBinary negative with
        | .finite negative mantissa exponent => some (.finite negative mantissa exponent)
        | _ => none

def ofFloat : Number.Binary → Document
  | .finite negative mantissa exponent => .number (.fractional (.finite negative mantissa exponent))
  | _ => .null

def plain? (text : Text) : Option Document :=
  if text.isEmpty || isNull text then some .null
  else
    match boolean? text with
    | some truth => some (.boolean truth)
    | none =>
        match integerForm text with
        | .integer n => some (.number (.whole n))
        | .tooLarge => none
        | .noInteger =>
            match (if isPaddedDigits text then none else float? text) with
            | some number => some (ofFloat number)
            | none => some (.text text)

def tagged? (tag text : Text) : Option Document :=
  if tag = "tag:yaml.org,2002:bool".toList then (boolean? text).map .boolean
  else if tag = "tag:yaml.org,2002:int".toList then
    match integerForm text with
    | .integer n => some (.number (.whole n))
    | _ => none
  else if tag = "tag:yaml.org,2002:float".toList then (float? text).map ofFloat
  else if tag = "tag:yaml.org,2002:null".toList then if isNull text then some .null else none
  else some (.text text)

def isLocal (tag : Option Text) : Bool :=
  tag.any (fun text => text.head? = some '!')

def scalar? (tag : Option Text) (plain : Bool) (text : Text) : Option Document :=
  match tag with
  | some tag => tagged? tag text
  | none => if plain then plain? text else some (.text text)

end TextTemplate.Yaml.Resolution
