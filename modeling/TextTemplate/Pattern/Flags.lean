import TextTemplate.Text.Occurrence
import TextTemplate.CharSet.Blank

/-!
# The settings of a pattern

Settings change what the signs of a pattern mean. They are written as letters, and those after a
hyphen are taken back. Under one of them blanks and comments may stand between the signs of a
pattern; `skip` and `takeSpaced` pass over them.
-/

set_option autoImplicit false

namespace TextTemplate.Pattern

structure Flags where
  ignoreCase : Bool
  multiLine : Bool
  dotAll : Bool
  /-- Whether `?` after a repetition means more instead of fewer. -/
  swapGreed : Bool
  verbose : Bool
  deriving DecidableEq, Repr

namespace Flags

def start : Flags := ⟨false, false, false, false, false⟩

/-! ### Blanks and comments -/

def skipFrom (comment : Bool) : Text → Text
  | [] => []
  | c :: rest =>
      if comment then skipFrom (c != '\n') rest
      else if CharSet.blank.contains c then skipFrom false rest
      else if c = '#' then skipFrom true rest
      else c :: rest

def skip (flags : Flags) (rest : Text) : Text :=
  if flags.verbose then skipFrom false rest else rest

/-- The characters of a class at the front of a text, at most `most` of them, and the rest. After
each character, what may be skipped is skipped. -/
def takeSpaced (flags : Flags) (p : Char → Bool) : (most : Nat) → Text → Text × Text
  | most + 1, c :: rest =>
      if p c then
        let (others, rest) := takeSpaced flags p most (skip flags rest)
        (c :: others, rest)
      else ([], c :: rest)
  | _, rest => ([], rest)

/-! ### Letters -/

def set (flags : Flags) (on : Bool) : Char → Option Flags
  | 'i' => some { flags with ignoreCase := on }
  | 'm' => some { flags with multiLine := on }
  | 's' => some { flags with dotAll := on }
  | 'U' => some { flags with swapGreed := on }
  | 'x' => some { flags with verbose := on }
  | 'u' => if on then some flags else none
  | _ => none

/-- Settings up to a colon or a closing parenthesis. Gives the new settings, the letters seen, the
character that ended them and the rest. -/
def readFrom (flags : Flags) (seen : List Char) (negated afterMinus : Bool) :
    Text → Option (Flags × List Char × Char × Text)
  | [] => none
  | c :: rest =>
      if c = ':' ∨ c = ')' then
        if afterMinus then none else some (flags, seen, c, rest)
      else if seen.contains c then none
      else if c = '-' then
        readFrom flags (c :: seen) true true rest
      else do
        let flags ← set flags (!negated) c
        readFrom flags (c :: seen) negated false rest

end Flags
end TextTemplate.Pattern
