import TextTemplate.Document
import TextTemplate.Document.Numeral

/-!
# JSON texts

A JSON text is read strictly: one value with blanks around it, no trailing commas, no controls
inside strings, no unpaired surrogates, and no number outside the range of floating-point numbers.
Of two members with one name the later one counts, at the place of the earlier one.
-/

set_option autoImplicit false

-- Powers are those of the core library, whatever else is in scope.
attribute [local instance (high)] instPowNat instNatPowNat

namespace TextTemplate.Json

def depthLimit : Nat := 127

def isBlank (c : Char) : Bool :=
  c = ' ' ∨ c = '\n' ∨ c = '\t' ∨ c = '\r'

def skipBlanks (text : Text) : Text :=
  text.dropWhile isBlank

/-! ### Strings -/

def fourDigits? (a b c d : Char) : Option Nat :=
  Numeral.inBase? 16 [a, b, c, d]

def simpleEscape? : Char → Option Char
  | '"' => some '"'
  | '\\' => some '\\'
  | '/' => some '/'
  | 'b' => some '\x08'
  | 'f' => some '\x0c'
  | 'n' => some '\n'
  | 'r' => some '\r'
  | 't' => some '\t'
  | _ => none

def isLeading (unit : Nat) : Bool :=
  0xD800 ≤ unit && unit ≤ 0xDBFF

def isTrailing (unit : Nat) : Bool :=
  0xDC00 ≤ unit && unit ≤ 0xDFFF

/-- The rest of a string, from after its opening quote: its characters and the text behind it.
`taken` holds the characters before, last first. -/
def readString (taken : Text) : Text → Option (Text × Text)
  | [] => none
  | '"' :: rest => some (taken.reverse, rest)
  | '\\' :: 'u' :: a :: b :: c :: d :: rest =>
      match fourDigits? a b c d with
      | none => none
      | some unit =>
          if isTrailing unit then none
          else if isLeading unit then
            match rest with
            | '\\' :: 'u' :: e :: f :: g :: h :: rest =>
                match fourDigits? e f g h with
                | none => none
                | some second =>
                    if isTrailing second then
                      let code := 0x10000 + (unit - 0xD800) * 0x400 + (second - 0xDC00)
                      readString (Char.ofNat code :: taken) rest
                    else none
            | _ => none
          else readString (Char.ofNat unit :: taken) rest
  | '\\' :: c :: rest =>
      match simpleEscape? c with
      | none => none
      | some meant => readString (meant :: taken) rest
  | c :: rest => if c < ' ' then none else readString (c :: taken) rest

/-! ### Numbers -/

/-- A number without a fraction or an exponent: an integer if it fits in 64 bits. Minus zero is no
integer. -/
def ofDigits (negative : Bool) (digits : Text) : DocumentNumber :=
  let size := Numeral.value digits
  if negative then
    if 0 < size ∧ size ≤ 2 ^ (63 : Nat) then .whole (-size)
    else .fractional ((Numeral.Parts.mk digits [] 0).toBinary true)
  else if size < 2 ^ (64 : Nat) then .whole size
  else .fractional ((Numeral.Parts.mk digits [] 0).toBinary false)

def inRange? : DocumentNumber → Option DocumentNumber
  | .fractional (.infinite _) => none
  | number => some number

def readNumber (negative : Bool) (text : Text) : Option (DocumentNumber × Text) := do
  let (whole, rest) := Numeral.takeDigits text
  if whole.isEmpty ∨ (whole.head? = some '0' ∧ whole.length ≠ 1) then none
  else
    let (fraction, rest) ←
      match rest with
      | '.' :: rest =>
          match Numeral.takeDigits rest with
          | ([], _) => none
          | (digits, rest) => some (some digits, rest)
      | _ => some (none, rest)
    let (exponent, rest) ←
      match rest with
      | 'e' :: rest => (Numeral.takeExponent? rest).map (fun (e, rest) => (some e, rest))
      | 'E' :: rest => (Numeral.takeExponent? rest).map (fun (e, rest) => (some e, rest))
      | _ => some (none, rest)
    let number :=
      if fraction.isNone ∧ exponent.isNone then ofDigits negative whole
      else
        .fractional
          ((Numeral.Parts.mk whole (fraction.getD []) (exponent.getD 0)).toBinary negative)
    let number ← inRange? number
    some (number, rest)

/-! ### Values -/

def readWord (word : Text) (meaning : Document) (text : Text) : Option (Document × Text) :=
  (Text.after? word text).map (meaning, ·)

mutual

/-- The value at the front of a text, and the text behind it. Each call takes a character off the
text or is the only one between two that do, so twice the length of the text is enough fuel. -/
def readValue : (fuel depth : Nat) → Text → Option (Document × Text)
  | 0, _, _ => none
  | fuel + 1, depth, text =>
      match skipBlanks text with
      | 'n' :: rest => readWord "ull".toList .null rest
      | 't' :: rest => readWord "rue".toList (.boolean true) rest
      | 'f' :: rest => readWord "alse".toList (.boolean false) rest
      | '"' :: rest => (readString [] rest).map (fun (text, rest) => (.text text, rest))
      | '-' :: rest => (readNumber true rest).map (fun (n, rest) => (.number n, rest))
      | '[' :: rest =>
          match depth with
          | 0 => none
          | depth + 1 =>
              match skipBlanks rest with
              | ']' :: rest => some (.sequence [], rest)
              | rest => readItems fuel depth [] rest
      | '\x7b' :: rest =>
          match depth with
          | 0 => none
          | depth + 1 =>
              match skipBlanks rest with
              | '\x7d' :: rest => some (.mapping [], rest)
              | rest => readMembers fuel depth [] rest
      | rest => (readNumber false rest).map (fun (n, rest) => (.number n, rest))

def readItems : (fuel depth : Nat) → List Document → Text → Option (Document × Text)
  | 0, _, _, _ => none
  | fuel + 1, depth, items, text =>
      match readValue fuel depth text with
      | none => none
      | some (item, rest) =>
          match skipBlanks rest with
          | ',' :: rest => readItems fuel depth (item :: items) rest
          | ']' :: rest => some (.sequence (item :: items).reverse, rest)
          | _ => none

def readMembers : (fuel depth : Nat) → Entries Document → Text → Option (Document × Text)
  | 0, _, _, _ => none
  | fuel + 1, depth, entries, text =>
      match skipBlanks text with
      | '"' :: rest =>
          match readString [] rest with
          | none => none
          | some (name, rest) =>
              match skipBlanks rest with
              | ':' :: rest =>
                  match readValue fuel depth rest with
                  | none => none
                  | some (member, rest) =>
                      let entries := entries.insert name member
                      match skipBlanks rest with
                      | ',' :: rest => readMembers fuel depth entries rest
                      | '\x7d' :: rest => some (.mapping entries, rest)
                      | _ => none
              | _ => none
      | _ => none

end

def read? (text : Text) : Option Document :=
  match readValue (2 * text.length + 2) depthLimit text with
  | some (document, rest) => if (skipBlanks rest).isEmpty then some document else none
  | none => none

end TextTemplate.Json
