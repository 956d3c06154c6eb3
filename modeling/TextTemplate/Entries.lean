import TextTemplate.Text.Occurrence

/-!
# Named entries in order

Names with what they stand for, in the order in which the names were first given.
-/

set_option autoImplicit false

namespace TextTemplate

abbrev Entries (α : Type) := List (Text × α)

namespace Entries

variable {α : Type}

/-- Give a name a meaning. A name that has one already keeps its place and takes the new one. -/
def insert : Entries α → Text → α → Entries α
  | [], name, meaning => [(name, meaning)]
  | (known, old) :: others, name, meaning =>
      if known = name then (known, meaning) :: others
      else (known, old) :: insert others name meaning

def ofList (given : List (Text × α)) : Entries α :=
  given.foldl (fun entries entry => insert entries entry.1 entry.2) []

end Entries
end TextTemplate
