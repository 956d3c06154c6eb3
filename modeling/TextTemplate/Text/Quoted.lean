import TextTemplate.Text.Occurrence
import TextTemplate.CharSet.Unprintable
import TextTemplate.CharSet.Extender

/-!
# Quoted text

A quoted text stands between double quotes. Quotes, backslashes and the usual controls are written
with a backslash; a character that cannot be seen by itself is written by its code point.
-/

set_option autoImplicit false

namespace TextTemplate.Quoted

def byCode (c : Char) : Text :=
  "\\u\x7b".toList ++ Nat.toDigits 16 c.toNat ++ "\x7d".toList

def character (c : Char) : Text :=
  match c with
  | '\x00' => ['\\', '0']
  | '\t' => ['\\', 't']
  | '\r' => ['\\', 'r']
  | '\n' => ['\\', 'n']
  | '\\' => ['\\', '\\']
  | '"' => ['\\', '"']
  | _ =>
      if ' ' ≤ c ∧ c ≤ '~' then [c]
      else if CharSet.extender.contains c || CharSet.unprintable.contains c then byCode c
      else [c]

def quote (text : Text) : Text :=
  '"' :: text.flatMap character ++ ['"']

end TextTemplate.Quoted
