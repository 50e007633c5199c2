import EnumCodegen.Descriptor
import EnumCodegen.Text.CharClass

/-!
# Source comments

A comment belongs to the part of the file that the path of its location addresses. Of several
locations with one path the last counts. Comments are kept in a normal form: lines without white
space around them, and no blank line at either end.

## Main definitions

* `cleanComment?`: the normal form of a comment
* `leadingComment?`: the comment above a part of a file
* `mentions`: whether the comments of a part hold a marker
-/

namespace EnumCodegen

/-- **The normal form of a comment**: its lines trimmed, and without blank lines at either end. A
comment of white space has none. -/
def cleanComment? (raw : Text) : Option Text :=
  let trimmedLines := (Text.lines raw).map (Text.trimmed CharClass.isWhiteSpace)
  let fromFirst := trimmedLines.dropWhile (·.isEmpty)
  let kept := (fromFirst.reverse.dropWhile (·.isEmpty)).reverse
  if kept.isEmpty then none else some (['\n'].intercalate kept)

/-- Whether the location addresses the part with the given path. The indices in the path of a location
have 32 bits and a sign, so none addresses a part with an index of `2 ^ 31` or more. An encoded
description has less than `2 ^ 31` bytes and thus no part with such an index. -/
def SourceLocation.addresses (location : SourceLocation) (address : List Nat) : Bool :=
  location.path.map Int32.toInt = address.map Int.ofNat

/-- **The location that counts** for a part of a file: the last that addresses it. -/
def locationOf? (locations : List SourceLocation) (address : List Nat) : Option SourceLocation :=
  locations.findRev? (·.addresses address)

/-- **The leading comment** of a part of a file, in normal form. -/
def leadingComment? (locations : List SourceLocation) (address : List Nat) : Option Text :=
  (locationOf? locations address).bind fun location => location.leading?.bind cleanComment?

/-- **Whether the comments of a part mention a marker**, above or behind it. -/
def mentions (locations : List SourceLocation) (address : List Nat) (marker : Text) : Bool :=
  (locationOf? locations address).any fun location =>
    location.leading?.any (Text.holds marker) || location.trailing?.any (Text.holds marker)

end EnumCodegen
