import TextTemplate.Document.Yaml.Cursor
import TextTemplate.Document.Numeral

/-!
# YAML tags and directives

A tag is a handle and a suffix; directives say what the handles stand for. Percent escapes in a tag
are bytes of UTF-8.
-/

set_option autoImplicit false

namespace TextTemplate.Yaml

namespace TagText

/-- The characters that may stand in a tag; brackets and commas only between angle brackets. -/
def isAddressChar (verbatim : Bool) (c : Char) : Bool :=
  isNameChar c || ";/?:@&=+$.%!~*'()".toList.contains c ||
    (verbatim && (c = ',' || c = '[' || c = ']'))

def byte? : Text → Option (Nat × Text)
  | '%' :: a :: b :: rest => (Numeral.inBase? 16 [a, b]).map (·, rest)
  | _ => none

/-- How many bytes follow the first byte of a character, and the bits that it holds. -/
def firstByte? (byte : Nat) : Option (Nat × Nat) :=
  if byte < 0x80 then some (0, byte)
  else if 0xC0 ≤ byte ∧ byte < 0xE0 then some (1, byte - 0xC0)
  else if 0xE0 ≤ byte ∧ byte < 0xF0 then some (2, byte - 0xE0)
  else if 0xF0 ≤ byte ∧ byte < 0xF8 then some (3, byte - 0xF0)
  else none

def laterBytes? : Nat → Nat → Text → Option Nat
  | 0, code, _ => some code
  | count + 1, code, rest =>
      match byte? rest with
      | some (byte, rest) =>
          if 0x80 ≤ byte ∧ byte < 0xC0 then laterBytes? count (64 * code + (byte - 0x80)) rest
          else none
      | none => none

def escaped? (text : Text) : Option (Char × Nat) := do
  let (byte, rest) ← byte? text
  let (count, bits) ← firstByte? byte
  let code ← laterBytes? count bits rest
  some (Char.ofNat code, 3 * (count + 1))

def takeAddress (verbatim : Bool) : (fuel : Nat) → Text → Cursor → Option (Text × Cursor)
  | 0, taken, cursor => some (taken.reverse, cursor)
  | fuel + 1, taken, cursor =>
      match cursor.rest with
      | [] => some (taken.reverse, cursor)
      | c :: _ =>
          if c = '%' then
            match escaped? cursor.rest with
            | none => none
            | some (meant, width) =>
                takeAddress verbatim fuel (meant :: taken) (cursor.advanceBy width)
          else if isAddressChar verbatim c then
            takeAddress verbatim fuel (c :: taken) cursor.advance
          else some (taken.reverse, cursor)

def address? (verbatim : Bool) (cursor : Cursor) : Option (Text × Cursor) :=
  match takeAddress verbatim cursor.fuel [] cursor with
  | some ([], _) => none
  | found => found

def handle? (cursor : Cursor) : Option (Text × Cursor) :=
  match cursor.rest with
  | '!' :: _ =>
      let (name, cursor) := cursor.advance.takeWhile isNameChar
      match cursor.rest with
      | '!' :: _ => some ('!' :: name ++ ['!'], cursor.advance)
      | _ => some ('!' :: name, cursor)
  | _ => none

def take (inFlow : Bool) (cursor : Cursor) : Option (Text × Text × Cursor) := do
  let (handle, suffix, cursor) ←
    match cursor.rest with
    | '!' :: '<' :: _ => do
        let (suffix, cursor) ← address? true (cursor.advanceBy 2)
        match cursor.rest with
        | '>' :: _ => some ([], suffix, cursor.advance)
        | _ => none
    | _ => do
        let (handle, cursor) ← handle? cursor
        if 1 < handle.length ∧ handle.getLast? = some '!' then do
          let (suffix, cursor) ← address? false cursor
          some (handle, suffix, cursor)
        else do
          let (more, cursor) ← takeAddress false cursor.fuel [] cursor
          match handle.tail ++ more with
          | [] => some ([], ['!'], cursor)
          | suffix => some (['!'], suffix, cursor)
  if atGap cursor.rest || (inFlow && cursor.rest.head? = some ',') then
    some (handle, suffix, cursor)
  else none

end TagText

/-! ### Directives -/

namespace Directive

def versionPart? (cursor : Cursor) : Option (Nat × Cursor) :=
  match cursor.takeWhile Char.isDigit with
  | ([], _) => none
  | (digits, cursor) => if digits.length ≤ 9 then some (Numeral.value digits, cursor) else none

def version? (cursor : Cursor) : Option (Nat × Nat × Cursor) := do
  let (major, cursor) ← versionPart? cursor.skipBlanks
  match cursor.rest with
  | '.' :: _ => do
      let (minor, cursor) ← versionPart? cursor.advance
      some (major, minor, cursor)
  | _ => none

def tag? (cursor : Cursor) : Option (Text × Text × Cursor) := do
  let (handle, cursor) ← TagText.handle? cursor.skipBlanks
  if handle.length = 1 ∨ handle.getLast? = some '!' then
    if cursor.rest.head?.any isBlank then do
      let (lead, cursor) ← TagText.address? true cursor.skipBlanks
      if atGap cursor.rest then some (handle, lead, cursor) else none
    else none
  else none

end Directive
end TextTemplate.Yaml
