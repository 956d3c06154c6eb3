import TextTemplate.Text.Occurrence

/-!
# Text made safe for markup

Five characters have a meaning in markup and are written as entities. Each character is looked at
once, so an entity put in here is never escaped a second time.
-/

set_option autoImplicit false

namespace TextTemplate.Markup

def entity : Char → Text
  | '&' => "&amp;".toList
  | '<' => "&lt;".toList
  | '>' => "&gt;".toList
  | '"' => "&quot;".toList
  | '\'' => "&#039;".toList
  | c => [c]

def escape (text : Text) : Text :=
  text.flatMap entity

end TextTemplate.Markup
