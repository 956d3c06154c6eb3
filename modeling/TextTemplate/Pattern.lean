import TextTemplate.Pattern.Reader
import TextTemplate.Pattern.Search

/-!
# Patterns

A pattern is a text read once (`Pattern.read?`), and then searched for in other texts. A search
gives every match from left to right, and for each match the text of every group.
-/

set_option autoImplicit false

namespace TextTemplate

structure Pattern where
  source : Text
  /-- How many groups it has, the whole match included. -/
  groups : Nat
  program : Array Pattern.Instruction

namespace Pattern

def read? (source : Text) : Option Pattern :=
  (Node.read? source).map (fun node => ⟨source, node.lastGroup + 1, Program.ofNode node⟩)

/-- The matches of a pattern in a text. For each match there is, for each group, its text if it
took part in the match. -/
def captures (pattern : Pattern) (text : Text) : List (List (Option Text)) :=
  let chars := text.toArray
  let slots := 2 * pattern.groups
  let found := Search.all pattern.program slots (2 * chars.size + 2) 0 none none text
  found.map (fun marks =>
    (List.range pattern.groups).map (fun index =>
      (Search.span? marks index).map (fun span => (chars.extract span.1 span.2).toList)))

end Pattern
end TextTemplate
