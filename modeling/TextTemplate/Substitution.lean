import TextTemplate.Section
import TextTemplate.Text.Markup
import TextTemplate.Trail

/-!
# Substituting a context into a template

The bindings of a scope are taken one after the other, and each changes the whole template. The
body of a section is rendered in turn: in the scope of the item or map that drives it, or, where a
truth value keeps it, in the root context, whatever the current scope is.

A rendering need not end, because a truth value may restore the very section it renders. It is
therefore bounded: `substituteWithin` renders with at most a given number of renderings inside one
another and gives no answer when that is not enough.
-/

set_option autoImplicit false

namespace TextTemplate

/-- An activity that leaves a trail, and that gives no answer if it is nested too deeply. -/
abbrev Rendering := StateT Trail Option

namespace Rendering

def note (notice : Notice) : Rendering Unit :=
  fun trail => some ((), trail.note notice)

def invoke (deferred : Deferred) : Rendering Text :=
  fun trail => some (trail.invoke deferred)

def tooDeep {α : Type} : Rendering α :=
  fun _ => none

end Rendering

namespace Substitution

/-! ### Texts -/

def fillScalar (name text template : Text) : Text :=
  Text.replaceAll (Tag.escaped name) (Markup.escape text)
    (Text.replaceAll (Tag.raw name) text template)

/-- Fill the tags of a name with a deferred text. Each form of tag that is there has an invocation
of its own, the raw one first. -/
def fillDeferred (name : Text) (deferred : Deferred) (template : Text) : Rendering Text := do
  let template ←
    if Text.occursIn (Tag.raw name) template then do
      let text ← Rendering.invoke deferred
      pure (Text.replaceAll (Tag.raw name) text template)
    else pure template
  if Text.occursIn (Tag.escaped name) template then do
    let text ← Rendering.invoke deferred
    pure (Text.replaceAll (Tag.escaped name) (Markup.escape text) template)
  else pure template

/-! ### Sections -/

def itemName : Text := ['_']

def itemScope : Value → Context
  | .map entries => entries
  | .list [] => []
  | item => [(itemName, item)]

def isLeadingBlank (c : Char) : Bool :=
  c = ' ' ∨ c = '\t' ∨ c = '\n' ∨ c = '\x0b' ∨ c = '\x0c' ∨ c = '\r'

def dropFinalBreaks (text : Text) : Text :=
  match text.reverse with
  | '\n' :: '\n' :: earlier => earlier.reverse
  | '\n' :: earlier => earlier.reverse
  | _ => text

/-- The body of a repeated section as each item renders it: no blanks at the front, and one line
feed at the end, so that each item ends its own line. -/
def loopBody (body : Text) : Text :=
  dropFinalBreaks (body.dropWhile isLeadingBlank) ++ ['\n']

def noteRefusal (name : Text) : Rendering Unit :=
  if Section.searchable name then pure () else Rendering.note (.sectionsRefused name)

def removeSections (kind : SectionKind) (name template : Text) : Rendering Text := do
  noteRefusal name
  pure (Section.removeAll kind name template)

/-- Put the content of one section, and a line feed, in place of the first text equal to it. -/
def spliceSection (content : Text → Rendering Text) (template : Text) (found : Section) :
    Rendering Text := do
  let text ← content found.body
  pure (Text.replaceFirst found.full (text ++ ['\n']) template)

/-- Put content made from the bodies in place of the sections of a name. The sections are those of
the template as it was before the first of them was replaced. -/
def spliceSections (content : Text → Rendering Text) (kind : SectionKind) (name template : Text) :
    Rendering Text := do
  noteRefusal name
  (Section.findAll kind name template).foldlM (spliceSection content) template

/-! ### Bindings

`nested` renders a body in a scope, one level deeper. -/

def expandList (nested : Text → Context → Rendering Text) (name : Text) (items : List Value)
    (template : Text) : Rendering Text :=
  spliceSections
    (fun body => do
      let lines := loopBody body
      let texts ← items.mapM (fun item => nested lines (itemScope item))
      pure texts.flatten)
    .positive name template

def expandMap (nested : Text → Context → Rendering Text) (name : Text) (entries : Context)
    (template : Text) : Rendering Text :=
  spliceSections (fun body => nested body entries) .positive name template

/-- Drop the sections of a name that contradict a truth value, and render the others in the root
context. -/
def applyCondition (nested : Text → Context → Rendering Text) (root : Context) (name : Text)
    (truth : Bool) (template : Text) : Rendering Text := do
  let kept := SectionKind.ofTruth truth
  let template ← removeSections kept.opposite name template
  spliceSections (fun body => nested body root) kept name template

def applyValue (nested : Text → Context → Rendering Text) (root : Context) (name template : Text) :
    Value → Rendering Text
  | .list [] => removeSections .positive name template
  | .list items => expandList nested name items template
  | .map [] => removeSections .positive name template
  | .map entries => expandMap nested name entries template
  | .boolean truth => applyCondition nested root name truth template
  | .deferred deferred => fillDeferred name deferred template
  | .scalar text => pure (fillScalar name text template)
  | .unsupported => do
      Rendering.note (.skippingUnsupported name)
      pure template

def applyBinding (nested : Text → Context → Rendering Text) (root : Context) (template : Text)
    (binding : Text × Value) : Rendering Text := do
  Rendering.note (.substituting binding.1 binding.2.kind)
  applyValue nested root binding.1 template binding.2

end Substitution

/-- Substitute the bindings of a scope into a template, in order. At most `depth` renderings of
section bodies are inside one another below this one. -/
def substituteWithin (depth : Nat) (template : Text) (scope root : Context) : Rendering Text :=
  let nested : Text → Context → Rendering Text :=
    match depth with
    | 0 => fun _ _ => Rendering.tooDeep
    | depth + 1 => fun body inner => substituteWithin depth body inner root
  scope.foldlM (Substitution.applyBinding nested root) template

def Substitution.depthLimit : Nat := 5000

end TextTemplate
