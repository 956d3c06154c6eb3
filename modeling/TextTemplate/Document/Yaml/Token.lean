import TextTemplate.Text.Occurrence

/-!
# YAML tokens

The tokens of a YAML text. Indentation is already turned into tokens that open and close block
collections, and a key that was not announced has a `key` token before it.
-/

set_option autoImplicit false

namespace TextTemplate.Yaml

inductive Token where
  | versionDirective (major minor : Nat)
  | tagDirective (handle lead : Text)
  | documentStart
  | documentEnd
  | blockSequenceStart
  | blockMappingStart
  | blockEnd
  | flowSequenceStart
  | flowSequenceEnd
  | flowMappingStart
  | flowMappingEnd
  | blockEntry
  | flowEntry
  | key
  | value
  | alias (name : Text)
  | anchor (name : Text)
  | tag (handle suffix : Text)
  /-- A scalar, and whether it is written plainly, without quotes or a block header. -/
  | scalar (plain : Bool) (text : Text)
  | streamEnd
  deriving DecidableEq, Repr, Inhabited

end TextTemplate.Yaml
