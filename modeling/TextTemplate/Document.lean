import TextTemplate.Value

/-!
# Documents

A document is a tree of texts, numbers, truth values, sequences and mappings, as the data formats
hold it. Every document is a value: what is missing becomes the empty text, and a number becomes the
text it is written with.
-/

set_option autoImplicit false

namespace TextTemplate

inductive DocumentNumber where
  | whole (n : Int)
  | fractional (number : Number.Binary)
  deriving DecidableEq, Repr

def DocumentNumber.text : DocumentNumber → Text
  | .whole n => Number.Layout.integer n
  | .fractional number => Number.Layout.document.write .double number

inductive Document where
  | null
  | boolean (truth : Bool)
  | number (number : DocumentNumber)
  | text (text : Text)
  | sequence (items : List Document)
  | mapping (entries : List (Text × Document))
  deriving Repr, Inhabited

namespace Value

mutual

def ofDocument : Document → Value
  | .null => .scalar []
  | .boolean truth => .boolean truth
  | .number number => .scalar number.text
  | .text text => .scalar text
  | .sequence items => .list (ofItems items)
  | .mapping entries => .map (ofEntries entries)

def ofItems : List Document → List Value
  | [] => []
  | item :: items => ofDocument item :: ofItems items

def ofEntries : List (Text × Document) → List (Text × Value)
  | [] => []
  | (name, entry) :: entries => (name, ofDocument entry) :: ofEntries entries

end

end Value
end TextTemplate
