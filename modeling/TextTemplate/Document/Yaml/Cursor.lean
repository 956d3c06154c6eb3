import TextTemplate.Text.Occurrence

/-!
# A position in a YAML text

A cursor is what is left of a text, with the number of characters before it, its line and its
column. It also holds fuel for the loops over what is left. This file begins with the classes of
characters that YAML distinguishes.
-/

set_option autoImplicit false

namespace TextTemplate.Yaml

/-! ### Characters -/

def isAllowed (c : Char) : Bool :=
  let code := c.toNat
  c = '\t' || c = '\n' || c = '\r' || (0x20 ≤ code && code ≤ 0x7E) || code = 0x85 ||
    (0xA0 ≤ code && code ≤ 0xFFFD) || 0x10000 ≤ code

def isBlank (c : Char) : Bool :=
  c = ' ' || c = '\t'

def isBreak (c : Char) : Bool :=
  c = '\n' || c = '\r' || c = '\u0085' || c = '\u2028' || c = '\u2029'

/-- Whether a character may stand in the name of an anchor or a directive. -/
def isNameChar (c : Char) : Bool :=
  c.isAlphanum || c = '_' || c = '-'

def atBreakOrEnd : Text → Bool
  | [] => true
  | c :: _ => isBreak c

def atGap : Text → Bool
  | [] => true
  | c :: _ => isBlank c || isBreak c

def atMarker (c : Char) : Text → Bool
  | x :: y :: z :: rest => x = c && y = c && z = c && atGap rest
  | _ => false

/-! ### Cursors -/

structure Cursor where
  rest : Text
  /-- One more than the length of the whole text, and so fuel enough for a loop that takes a
  character of it in each round. -/
  fuel : Nat
  index : Nat
  line : Nat
  column : Nat
  deriving Repr

namespace Cursor

def start (text : Text) : Cursor := ⟨text, text.length + 1, 0, 0, 0⟩

def advance (cursor : Cursor) : Cursor :=
  { cursor with
    rest := cursor.rest.tail, index := cursor.index + 1, column := cursor.column + 1 }

def advanceBy (cursor : Cursor) (count : Nat) : Cursor :=
  { cursor with
    rest := cursor.rest.drop count
    index := cursor.index + count
    column := cursor.column + count }

def takeBreak (cursor : Cursor) : Text × Cursor :=
  let past (count : Nat) : Cursor :=
    { cursor with
      rest := cursor.rest.drop count
      index := cursor.index + count
      line := cursor.line + 1
      column := 0 }
  match cursor.rest with
  | '\r' :: '\n' :: _ => (['\n'], past 2)
  | c :: _ =>
      if c = '\u2028' ∨ c = '\u2029' then ([c], past 1)
      else if isBreak c then (['\n'], past 1)
      else ([], cursor)
  | [] => ([], cursor)

def takeWhile (cursor : Cursor) (p : Char → Bool) : Text × Cursor :=
  let taken := cursor.rest.takeWhile p
  (taken, cursor.advanceBy taken.length)

def skipBlanks (cursor : Cursor) : Cursor :=
  (cursor.takeWhile isBlank).2

def skipComment (cursor : Cursor) : Cursor :=
  match cursor.rest with
  | '#' :: _ => (cursor.takeWhile (fun c => !isBreak c)).2
  | _ => cursor

def finishLine? (cursor : Cursor) : Option Cursor :=
  let cursor := cursor.skipBlanks.skipComment
  if atBreakOrEnd cursor.rest then some cursor.takeBreak.2 else none

def atDocumentMarker (cursor : Cursor) : Bool :=
  cursor.column = 0 && (atMarker '-' cursor.rest || atMarker '.' cursor.rest)

end Cursor
end TextTemplate.Yaml
