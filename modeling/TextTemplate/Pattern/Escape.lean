import TextTemplate.Pattern.Flags
import TextTemplate.Pattern.Node
import TextTemplate.CharSet.Digit

/-!
# Escapes in a pattern

A backslash with what follows it stands for a character, for a set of characters, or for a condition
on a position.
-/

set_option autoImplicit false

namespace TextTemplate.Pattern

inductive Escape where
  | literal (c : Char)
  | set (set : CharSet)
  | condition (condition : Condition)
  deriving Repr

namespace Escape

def hexValue? (c : Char) : Option Nat :=
  if '0' ≤ c ∧ c ≤ '9' then some (c.toNat - '0'.toNat)
  else if 'a' ≤ c ∧ c ≤ 'f' then some (c.toNat - 'a'.toNat + 10)
  else if 'A' ≤ c ∧ c ≤ 'F' then some (c.toNat - 'A'.toNat + 10)
  else none

def isHexDigit (c : Char) : Bool :=
  (hexValue? c).isSome

def character? (digits : Text) : Option Char :=
  let code := digits.foldl (fun n c => 16 * n + (hexValue? c).getD 0) 0
  if code.isValidChar then some (Char.ofNat code) else none

/-- A character written by its code point, from after the letter: digits in braces, or else exactly
`count` digits. -/
def byCode (flags : Flags) (count : Nat) (rest : Text) : Option (Char × Text) :=
  match flags.skip rest with
  | '{' :: inside =>
      match flags.takeSpaced isHexDigit rest.length (flags.skip inside) with
      | ([], _) => none
      | (digits, '}' :: rest) => (character? digits).map (·, flags.skip rest)
      | _ => none
  | rest =>
      let (digits, rest) := flags.takeSpaced isHexDigit count rest
      if digits.length = count then (character? digits).map (·, rest) else none

def isEscapable (c : Char) : Bool :=
  c.toNat < 128 && !c.isAlphanum && c != '<' && c != '>'

def namedEdge? (name : Text) : Option Condition :=
  if name = "start".toList then some .wordStart
  else if name = "end".toList then some .wordEnd
  else if name = "start-half".toList then some .noWordBefore
  else if name = "end-half".toList then some .noWordAfter
  else none

def isEdgeChar (c : Char) : Bool :=
  c.isAlpha || c = '-'

/-- A word edge, with the name in braces that may follow it. Braces that hold no name are left to be
read as a repetition. -/
def wordEdge (flags : Flags) (rest : Text) : Option (Escape × Text) :=
  match rest with
  | '{' :: inside =>
      let inside := flags.skip inside
      if inside.isEmpty then none
      else
        match flags.takeSpaced isEdgeChar rest.length inside with
        | ([], _) => some (.condition .wordEdge, rest)
        | (name, '}' :: rest) => (namedEdge? name).map (fun edge => (.condition edge, rest))
        | _ => none
  | _ => some (.condition .wordEdge, rest)

def read? (flags : Flags) : Text → Option (Escape × Text)
  | [] => none
  | c :: rest =>
      let aCode (count : Nat) : Option (Escape × Text) :=
        (byCode flags count rest).map (fun (c, rest) => (.literal c, rest))
      let aSet (set : CharSet) : Option (Escape × Text) := some (.set set, rest)
      let aCharacter (c : Char) : Option (Escape × Text) := some (.literal c, rest)
      let aCondition (condition : Condition) : Option (Escape × Text) :=
        some (.condition condition, rest)
      match c with
      | 'x' => aCode 2
      | 'u' => aCode 4
      | 'U' => aCode 8
      | 'd' => aSet CharSet.digit
      | 'D' => aSet CharSet.digit.complement
      | 's' => aSet CharSet.blank
      | 'S' => aSet CharSet.blank.complement
      | 'w' => aSet CharSet.word
      | 'W' => aSet CharSet.word.complement
      | 'a' => aCharacter '\x07'
      | 'f' => aCharacter '\x0c'
      | 't' => aCharacter '\t'
      | 'n' => aCharacter '\n'
      | 'r' => aCharacter '\r'
      | 'v' => aCharacter '\x0b'
      | 'A' => aCondition .textStart
      | 'z' => aCondition .textEnd
      | 'b' => wordEdge flags rest
      | 'B' => aCondition .noWordEdge
      | '<' => aCondition .wordStart
      | '>' => aCondition .wordEnd
      | _ => if isEscapable c then aCharacter c else none

end Escape
end TextTemplate.Pattern
