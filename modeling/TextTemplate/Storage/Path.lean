import TextTemplate.Text.Occurrence

/-!
# Paths

A path is a text; its parts are what it names. Two paths with the same parts are equal: repeated
separators, a separator at the end and a single dot inside a path make no difference, while a dot at
the very beginning of a relative path and every pair of dots are parts of their own.
-/

set_option autoImplicit false

namespace TextTemplate

inductive PathPart where
  | root
  | here
  | up
  | name (name : Text)
  deriving DecidableEq, Repr

namespace Path

/-- The texts between separators. `current` is the text since the last separator, reversed. -/
def segmentsFrom (current : Text) : Text → List Text
  | [] => [current.reverse]
  | c :: rest =>
      if c = '/' then current.reverse :: segmentsFrom [] rest else segmentsFrom (c :: current) rest

def segments (path : Text) : List Text :=
  segmentsFrom [] path

def isAbsolute (path : Text) : Bool :=
  path.head? = some '/'

def endsWithSeparator (path : Text) : Bool :=
  path.getLast? = some '/'

/-- The part that a text between separators stands for, unless it makes no difference. -/
def partOf? (segment : Text) : Option PathPart :=
  if segment = [] ∨ segment = ['.'] then none
  else if segment = ['.', '.'] then some .up
  else some (.name segment)

def parts (path : Text) : List PathPart :=
  if isAbsolute path then .root :: (segments path).filterMap partOf?
  else
    match segments path with
    | ['.'] :: others => .here :: others.filterMap partOf?
    | others => others.filterMap partOf?

def partText : PathPart → Text
  | .root => []
  | .here => ['.']
  | .up => ['.', '.']
  | .name name => name

def write : List PathPart → Text
  | [] => []
  | [.root] => ['/']
  | [part] => partText part
  | part :: parts => partText part ++ '/' :: write parts

/-- The parts of the directory that a path lies in, if it is neither empty nor the root. -/
def parent? (parts : List PathPart) : Option (List PathPart) :=
  match parts.getLast? with
  | none => none
  | some .root => none
  | some _ => some parts.dropLast

/-- The path with a dot and an extension behind it. An extension that it has already stays. -/
def withExtension (path extension : Text) : Text :=
  path ++ '.' :: extension

end Path
end TextTemplate
