import EnumCodegen.Text.Casing

/-!
# Wire names

The values of an enum travel under wire names. A wire name is the declared name, less a prefix that
only repeats the name of the enum: the value `COLOR_RED` of the enum `Color` travels as `RED`. The
prefix stays where dropping it would leave no name or make two values alike.

Incoming text is looked up first as a wire name, then behind the prefix, then as a declared name.

## Main definitions

* `WireNames`: the names of one enum's values, in order of declaration
* `WireNames.ofDeclared`: the wire names of an enum
* `WireNames.wireName?`: the wire name of a declared name
* `WireNames.meaning?`: the declared name that incoming text means
* `WireNames.accepted`: every text that means something, with what it means
-/

namespace EnumCodegen

/-- **The names of a value**: the declared name, its `UPPER_SNAKE` form, and the wire name. -/
structure ValueNames where
  declared : Text
  normalized : Text
  wire : Text
  deriving Repr, DecidableEq

/-- **The wire names of one enum**: the prefix its name stands for, with the underscore that ends
it, and the names of every value. -/
structure WireNames where
  enumPrefix : Text
  values : List ValueNames
  deriving Repr, DecidableEq

namespace WireNames

/-- **A value before it is known what the other values are called.** The short name is what a
dropped prefix leaves. -/
structure Candidate where
  declared : Text
  normalized : Text
  short? : Option Text
  deriving Repr, DecidableEq

/-- What dropping the prefix leaves of a name, provided it starts with an ASCII letter. -/
def shortName? (enumPrefix normalized : Text) : Option Text :=
  (enumPrefix.isPrefixOf? normalized).filter fun rest => rest.head?.any (·.isAlpha)

/-- The candidate for a declared name. -/
def Candidate.ofName (enumPrefix declared : Text) : Candidate :=
  let normalized := Text.upperSnake declared
  ⟨declared, normalized, shortName? enumPrefix normalized⟩

/-- Whether a value goes by the name in any of its forms. -/
def Candidate.goesBy (candidate : Candidate) (name : Text) : Bool :=
  candidate.declared = name ∨ candidate.normalized = name ∨ candidate.short? = some name

/-- **The wire name of a candidate** among the others: its short name, unless there is none or
another value goes by it. -/
def Candidate.wire (candidate : Candidate) (others : List Candidate) : Text :=
  match candidate.short? with
  | some name => if others.any (·.goesBy name) then candidate.declared else name
  | none => candidate.declared

/-- The names of a candidate among the others. -/
def Candidate.names (candidate : Candidate) (others : List Candidate) : ValueNames :=
  ⟨candidate.declared, candidate.normalized, candidate.wire others⟩

/-- **The prefix** that repeats the name of an enum. -/
def prefixOf (enumName : Text) : Text :=
  Text.upperSnake enumName ++ ['_']

/-- **The wire names of an enum**, from its name and the declared names of its values. -/
def ofDeclared (enumName : Text) (declared : List Text) : WireNames :=
  let enumPrefix := prefixOf enumName
  let candidates := declared.map (Candidate.ofName enumPrefix)
  ⟨enumPrefix, candidates.mapIdx fun i candidate => candidate.names (candidates.eraseIdx i)⟩

/-- **The wire name** of a declared name, that of the first value so declared. -/
def wireName? (names : WireNames) (declared : Text) : Option Text :=
  (names.values.find? (·.declared = declared)).map (·.wire)

/-- **The declared name that incoming text means**: of the first value with that wire name, else of
the first whose `UPPER_SNAKE` form is the text behind the prefix, else the text itself. -/
def meaning? (names : WireNames) (input : Text) : Option Text :=
  if input.isEmpty then none
  else
    ((names.values.find? (·.wire = input)) <|>
      (names.values.find? (·.normalized = names.enumPrefix ++ input)) <|>
      (names.values.find? (·.declared = input))).map (·.declared)

/-- The declared names with their wire names, in order of declaration. -/
def pairs (names : WireNames) : List (Text × Text) :=
  names.values.map fun value => (value.declared, value.wire)

/-- The pairs without those whose first part an earlier pair has. -/
def firstPerInput : List (Text × Text) → List (Text × Text)
  | [] => []
  | entry :: rest => entry :: (firstPerInput rest).filter (·.1 ≠ entry.1)

/-- What stands behind the prefix in the `UPPER_SNAKE` form of a value, if anything. -/
def behindPrefix? (names : WireNames) (value : ValueNames) : Option Text :=
  (names.enumPrefix.isPrefixOf? value.normalized).filter (!·.isEmpty)

/-- **The accepted inputs** with the declared names they mean, in the order in which they are looked
up. -/
def accepted (names : WireNames) : List (Text × Text) :=
  -- the parts stand in the order of the look-ups, so the first entry for an input is its meaning
  firstPerInput <|
    names.values.map (fun value => (value.wire, value.declared)) ++
    names.values.filterMap (fun value => (names.behindPrefix? value).map (·, value.declared)) ++
    names.values.map (fun value => (value.declared, value.declared))

end WireNames

end EnumCodegen
