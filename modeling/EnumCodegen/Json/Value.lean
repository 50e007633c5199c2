import EnumCodegen.Number.Binary64

/-!
# JSON values

A number is an integer if it is written as one and fits 64 bits, signed or unsigned; every other
number is a double-precision number. An object keeps its members as they were written.

## Main definitions

* `Json`: a value
* `Json.member?`: the value of a member
* `sortedMembers`: the members of an object, by name
-/

namespace EnumCodegen

/-- **A JSON value.** -/
inductive Json where
  | null
  | boolean (value : Bool)
  | integer (value : Int)
  | float (value : Binary64)
  | string (text : Text)
  | list (items : List Json)
  | object (members : List (Text × Json))
  deriving Repr, Inhabited

namespace Json

/-- A member put in its place by name. It replaces one of the same name. -/
def insertMember (name : Text) (value : Json) : List (Text × Json) → List (Text × Json)
  | [] => [(name, value)]
  | (other, old) :: rest =>
    if name = other then (name, value) :: rest
    else if name < other then (name, value) :: (other, old) :: rest
    else (other, old) :: insertMember name value rest

/-- **The members of an object by name**, in ascending order; of several with one name the last
counts. -/
def sortedMembers (members : List (Text × Json)) : List (Text × Json) :=
  members.foldl (fun sorted (name, value) => insertMember name value sorted) []

/-- **The value of a member** of an object. -/
def member? (name : Text) : Json → Option Json
  | object members => (members.findRev? (·.1 = name)).map (·.2)
  | _ => none

end Json

end EnumCodegen
