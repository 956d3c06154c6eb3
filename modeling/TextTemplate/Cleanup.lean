import TextTemplate.Section

/-!
# Removing the tags that nothing was bound to

First every leftover block goes: any tag, the text after it, and the next closing tag, whatever the
names. Then every leftover tag goes. Both take the line feeds right after them along.
-/

set_option autoImplicit false

namespace TextTemplate.Cleanup

/-! ### The next tag and the next block -/

def nextTag? (text : Text) : Option (Text × Text) := do
  let (gap, inside) ← Text.cut? Tag.opening text
  let (_, after) ← Text.cut? Tag.closing inside
  some (gap, Text.dropBreaks after)

/-- The text before the first block and the text after it. A block runs from a tag to the end of
the next closing tag. -/
def nextBlock? (text : Text) : Option (Text × Text) := do
  let (gap, inside) ← Text.cut? Tag.opening text
  let (_, body) ← Text.cut? Tag.closing inside
  let (_, closer) ← Text.cut? (Tag.opening ++ ['/']) body
  let (_, after) ← Text.cut? Tag.closing closer
  some (gap, Text.dropBreaks after)

theorem length_lt_of_nextTag? {text gap rest : Text} (taken : nextTag? text = some (gap, rest)) :
    rest.length < text.length := by
  unfold nextTag? at taken
  simp only [bind, Option.bind_eq_some_iff, Prod.exists] at taken
  obtain ⟨_, inside, opened, _, after, closed, equal⟩ := taken
  simp only [Option.some.injEq, Prod.mk.injEq] at equal
  obtain ⟨_, rfl⟩ := equal
  have outer := Text.length_of_cut? opened
  have inner := Text.length_of_cut? closed
  have trimmed := Text.length_dropBreaks_le after
  have tag : Tag.opening.length = 2 := rfl
  omega

theorem length_lt_of_nextBlock? {text gap rest : Text}
    (taken : nextBlock? text = some (gap, rest)) : rest.length < text.length := by
  unfold nextBlock? at taken
  simp only [bind, Option.bind_eq_some_iff, Prod.exists] at taken
  obtain ⟨_, inside, opened, _, body, closed, _, closer, reopened, _, after, reclosed, equal⟩ := taken
  simp only [Option.some.injEq, Prod.mk.injEq] at equal
  obtain ⟨_, rfl⟩ := equal
  have first := Text.length_of_cut? opened
  have second := Text.length_of_cut? closed
  have third := Text.length_of_cut? reopened
  have fourth := Text.length_of_cut? reclosed
  have trimmed := Text.length_dropBreaks_le after
  have tag : Tag.opening.length = 2 := rfl
  omega

/-! ### Removing all of them -/

def removeTags (text : Text) : Text :=
  match _taken : nextTag? text with
  | none => text
  | some (gap, rest) => gap ++ removeTags rest
  termination_by text.length
  decreasing_by exact length_lt_of_nextTag? _taken

def removeBlocks (text : Text) : Text :=
  match _taken : nextBlock? text with
  | none => text
  | some (gap, rest) => gap ++ removeBlocks rest
  termination_by text.length
  decreasing_by exact length_lt_of_nextBlock? _taken

/-- The text without leftover blocks, and then without leftover tags. -/
def stripUnresolved (text : Text) : Text :=
  removeTags (removeBlocks text)

end TextTemplate.Cleanup
