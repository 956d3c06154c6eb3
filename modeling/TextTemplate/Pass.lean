import TextTemplate.Pattern
import TextTemplate.Substitution
import TextTemplate.Text.Quoted

/-!
# Passes over a finished text

A pass pairs a pattern with a transform. The transform sees the whole text and all matches of the
pattern in it, grouped by capture group, and yields the text that the next pass sees. A transform
may keep a state of its own, of any type `σ`. A pass whose pattern captures nothing is skipped.
-/

set_option autoImplicit false

namespace TextTemplate

/-- The matches of a pattern in a text: for each group, its texts in the order of the matches. A
group that took no part in a match has the empty text there. -/
structure Matches where
  columns : List (List Text)
  deriving DecidableEq, Repr

namespace Matches

def entry (index : Nat) (groupTexts : List (Option Text)) : Text :=
  (groupTexts.getD index none).getD []

/-- Add a match to the columns, whose last entries are in front. -/
def addRow (columns : List (List Text)) (groupTexts : List (Option Text)) : List (List Text) :=
  columns.mapIdx (fun index column => entry index groupTexts :: column)

def collect (groups : Nat) (captures : List (List (Option Text))) : Matches :=
  ⟨(captures.foldl addRow (List.replicate groups [])).map List.reverse⟩

def group (found : Matches) (index : Nat) : List Text :=
  found.columns.getD index []

def full (found : Matches) : List Text :=
  found.group 0

def size (found : Matches) : Nat :=
  found.full.length

def isEmpty (found : Matches) : Bool :=
  found.size == 0

def hasCapture (found : Matches) : Bool :=
  !(found.group 1).isEmpty

def ofText (pattern : Pattern) (text : Text) : Matches :=
  collect pattern.groups (pattern.captures text)

end Matches

structure Pass (σ : Type) where
  pattern : Pattern
  transform : Text → Matches → σ → Text × σ

namespace Pass

variable {σ : Type}

/-- Run one pass: the transform if the pattern captures anything, otherwise only a notice. -/
def apply (text : Text) (pass : Pass σ) : StateT σ Rendering Text := do
  let found := Matches.ofText pass.pattern text
  if found.hasCapture then
    fun state => pure (pass.transform text found state)
  else do
    Rendering.note (.passSkipped pass.pattern.source)
    pure text

def applyAll (passes : List (Pass σ)) (text : Text) : StateT σ Rendering Text :=
  passes.foldlM apply text

def inspect (pass : Pass σ) : Text :=
  "CustomParser \x7b pattern: ".toList ++ Quoted.quote pass.pattern.source ++ ", .. \x7d".toList

end Pass

def render {σ : Type} (depth : Nat) (template : Text) (context : Context)
    (passes : List (Pass σ)) : StateT σ Rendering Text := do
  let text ← substituteWithin depth template context context
  Pass.applyAll passes text

end TextTemplate
