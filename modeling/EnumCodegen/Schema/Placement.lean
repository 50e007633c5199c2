import EnumCodegen.Path

/-!
# Where a file asks its output to be placed

A schema file may carry an option that places its output: `path;ident`, a path whose last segment
is the identifier, or an identifier alone.

## Main definitions

* `Placement`: a place and an identifier
* `Placement.parse?`: reading the option
-/

namespace EnumCodegen

/-- **An output hint**: the directory for the output, which may be empty, and an identifier. -/
structure Placement where
  path : Text
  ident : Text
  deriving Repr, DecidableEq

/-- **Reading the option.** The first semicolon separates path and identifier. An empty option says
nothing. -/
def Placement.parse? (option : Text) : Option Placement :=
  if option.isEmpty then none
  else
    match option.span (· ≠ ';') with
    | (path, _ :: ident) => some ⟨path, ident⟩
    | (_, []) => some ⟨if '/' ∈ option then option else [], Path.baseName option⟩

end EnumCodegen
