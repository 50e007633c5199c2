/-!
# White space

The characters outside ASCII that are white space, as the increasing list of code points at which
membership changes: the first entry starts a run of members, the second ends it, and so on.
White space is the Unicode property of that name.

## Main definitions

* `whiteSpaceBounds`: the change points
-/

namespace EnumCodegen.CharClass

/-- **White space**: the code points from 128 on at which membership changes. -/
def whiteSpaceBounds : List Nat :=
  [0x85, 0x86, 0xa0, 0xa1, 0x1680, 0x1681, 0x2000, 0x200b, 0x2028, 0x202a,
   0x202f, 0x2030, 0x205f, 0x2060, 0x3000, 0x3001]

end EnumCodegen.CharClass
