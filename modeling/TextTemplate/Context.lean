import TextTemplate.CharSet.Blank
import TextTemplate.Document.Json
import TextTemplate.Document.Yaml
import TextTemplate.Failure

/-!
# Contexts out of documents

A context is written as a JSON or a YAML document that is a mapping. A blank text and a document of
nothing are the empty context.
-/

set_option autoImplicit false

namespace TextTemplate

/-- The document of a text: as JSON if it is that, or else as YAML. -/
def Document.read? (text : Text) : Option Document :=
  (Json.read? text).orElse (fun () => Yaml.read? text)

namespace Context

def isBlank (text : Text) : Bool :=
  text.all CharSet.blank.contains

/-- The context that a value is. The empty text counts as an empty context. -/
def ofValue : Value → Except Failure Context
  | .map entries => .ok entries
  | .scalar [] => .ok []
  | other => .error (.context (.noMapping other.kind))

def parse (text : Text) : Except Failure Context :=
  if isBlank text then .ok []
  else
    match Document.read? text with
    | none => .error (.context .malformed)
    | some document => ofValue (Value.ofDocument document)

end Context
end TextTemplate
