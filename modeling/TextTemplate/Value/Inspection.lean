import TextTemplate.Value
import TextTemplate.Text.Quoted

/-!
# Values as seen by a reader

A value is shown by the name of its kind and what it holds. What a deferred text would yield, and
what an unsupported value is, is not shown.
-/

set_option autoImplicit false

namespace TextTemplate.Value

def separator : Text := [',', ' ']

mutual

def inspect : Value → Text
  | .scalar text => "Scalar(".toList ++ Quoted.quote text ++ [')']
  | .boolean truth => "Boolean(".toList ++ (if truth then "true" else "false").toList ++ [')']
  | .list items => "List([".toList ++ separator.intercalate (inspectItems items) ++ "])".toList
  | .map entries =>
      "Map(\x7b".toList ++ separator.intercalate (inspectEntries entries) ++ "\x7d)".toList
  | .deferred _ => "DeferredText(..)".toList
  | .unsupported => "Opaque(..)".toList

def inspectItems : List Value → List Text
  | [] => []
  | item :: others => inspect item :: inspectItems others

def inspectEntries : List (Text × Value) → List Text
  | [] => []
  | (name, value) :: others =>
      (Quoted.quote name ++ [':', ' '] ++ inspect value) :: inspectEntries others

end

end TextTemplate.Value
