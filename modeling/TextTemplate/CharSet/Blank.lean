import TextTemplate.CharSet

/-!
# White space

The characters that are white space.
-/

set_option autoImplicit false

namespace TextTemplate.CharSet

def blank : CharSet :=
  [(9, 13), (32, 32), (133, 133), (160, 160), (5760, 5760), (8192, 8202), (8232, 8233),
   (8239, 8239), (8287, 8287), (12288, 12288)]

end TextTemplate.CharSet
