import TextTemplate.Entries
import TextTemplate.Number.Layout

/-!
# Values and binding contexts

A context binds tag names to values, in an order that substitution follows and that can therefore
be seen in the output. A value is text, a truth value, a list, a nested context, a text computed
when it is needed, or something that templating does not support and leaves alone.
-/

set_option autoImplicit false

namespace TextTemplate

/-- A text that is computed each time it is needed. Copies of one source share its identity, and
with it the count of its invocations. -/
structure Deferred where
  source : Nat
  /-- The text that each invocation yields, numbered from zero. -/
  produce : Nat → Text

/-- What a name is bound to. -/
inductive Value where
  | scalar (text : Text)
  | boolean (truth : Bool)
  | list (items : List Value)
  | map (entries : List (Text × Value))
  | deferred (source : Deferred)
  | unsupported

abbrev Context := Entries Value

namespace Value

/-! ### Kinds -/

inductive Kind where
  | scalar
  | boolean
  | list
  | map
  | deferred
  | unsupported
  deriving DecidableEq, Repr

def Kind.name : Kind → Text
  | .scalar => "scalar".toList
  | .boolean => "boolean".toList
  | .list => "list".toList
  | .map => "map".toList
  | .deferred => "deferred".toList
  | .unsupported => "opaque".toList

def kind : Value → Kind
  | .scalar _ => .scalar
  | .boolean _ => .boolean
  | .list _ => .list
  | .map _ => .map
  | .deferred _ => .deferred
  | .unsupported => .unsupported

/-! ### Values of other types -/

def ofInt (n : Int) : Value :=
  .scalar (Number.Layout.integer n)

def ofBinary (format : Number.BinaryFormat) (number : Number.Binary) : Value :=
  .scalar (Number.Layout.plain.write format number)

def ofTexts (texts : List Text) : Value :=
  .list (texts.map .scalar)

end Value
end TextTemplate
