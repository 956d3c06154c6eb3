import TextTemplate.Text.Occurrence

/-!
# Sections of a template

A section is an opening tag `{{#name}}` or `{{^name}}`, the shortest text up to a closing tag
`{{/name}}` of the same name, and the line feeds right after that closing tag. Names are taken
literally. Sections are found from left to right and do not overlap; `decompose` gives them together
with the text between them, and finding and removing read off its two halves.

A very long name has no sections at all: a search for it is refused (`searchable`).
-/

set_option autoImplicit false

-- Sums start from the zero of the core library, whatever else is in scope.
attribute [local instance (high)] Zero.ofOfNat0

namespace TextTemplate

inductive SectionKind where
  | positive
  | negative
  deriving DecidableEq, Repr

namespace SectionKind

def sigil : SectionKind → Char
  | .positive => '#'
  | .negative => '^'

def ofTruth : Bool → SectionKind
  | true => .positive
  | false => .negative

def opposite : SectionKind → SectionKind
  | .positive => .negative
  | .negative => .positive

end SectionKind

namespace Tag

def opening : Text := ['{', '{']

def closing : Text := ['}', '}']

def escaped (name : Text) : Text :=
  opening ++ name ++ closing

def raw (name : Text) : Text :=
  '{' :: opening ++ name ++ '}' :: closing

def openSection (kind : SectionKind) (name : Text) : Text :=
  opening ++ kind.sigil :: name ++ closing

def closeSection (name : Text) : Text :=
  opening ++ '/' :: name ++ closing

end Tag

structure Section where
  /-- All of it: both tags, the body and the line feeds after the closing tag. -/
  full : Text
  body : Text
  deriving DecidableEq, Repr

/-- A template cut into sections: each with the gap before it, and the text after the last. -/
structure Decomposition where
  pieces : List (Text × Section)
  last : Text

namespace Section

/-! ### Names that can be searched for -/

/-- The longest name, in bytes of UTF-8, whose sections are searched for. -/
def nameLimit : Nat := 163814

def searchable (name : Text) : Bool :=
  (name.map Char.utf8Size).sum ≤ nameLimit

/-! ### The next section -/

def next? (kind : SectionKind) (name template : Text) : Option (Text × Section × Text) := do
  let (gap, inside) ← Text.cut? (Tag.openSection kind name) template
  let (body, after) ← Text.cut? (Tag.closeSection name) inside
  let full := Tag.openSection kind name ++ body ++ Tag.closeSection name ++ Text.leadingBreaks after
  some (gap, ⟨full, body⟩, Text.dropBreaks after)

theorem length_lt_of_next? {kind : SectionKind} {name template gap rest : Text} {found : Section}
    (taken : next? kind name template = some (gap, found, rest)) :
    rest.length < template.length := by
  unfold next? at taken
  simp only [bind, Option.bind_eq_some_iff, Prod.exists] at taken
  obtain ⟨before, inside, opened, body, after, closed, equal⟩ := taken
  simp only [Option.some.injEq, Prod.mk.injEq] at equal
  obtain ⟨_, _, rfl⟩ := equal
  have outer := Text.length_of_cut? opened
  have inner := Text.length_of_cut? closed
  have trimmed := Text.length_dropBreaks_le after
  have tag : 0 < (Tag.openSection kind name).length := by simp [Tag.openSection, Tag.opening]
  omega

/-! ### All sections -/

/-- The template as gaps and sections, from left to right. -/
def decompose (kind : SectionKind) (name template : Text) : Decomposition :=
  match _taken : next? kind name template with
  | none => ⟨[], template⟩
  | some (gap, found, rest) =>
      let others := decompose kind name rest
      ⟨(gap, found) :: others.pieces, others.last⟩
  termination_by template.length
  decreasing_by exact length_lt_of_next? _taken

/-- The sections of `name`, from left to right. -/
def findAll (kind : SectionKind) (name template : Text) : List Section :=
  if searchable name then (decompose kind name template).pieces.map Prod.snd else []

def removeAll (kind : SectionKind) (name template : Text) : Text :=
  if searchable name then
    let parts := decompose kind name template
    parts.pieces.flatMap Prod.fst ++ parts.last
  else template

end Section
end TextTemplate
