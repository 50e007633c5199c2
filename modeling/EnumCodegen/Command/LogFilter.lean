import EnumCodegen.Notice
import EnumCodegen.Text.CharClass

/-!
# Log filters

A log filter says which notices are reported. It is a list of directives between commas; each sets
the lowest level, for all notices or for those whose source starts with a name, and with brackets for
those that have a particular. The directive with the longest name that fits a notice decides about it.

## Main definitions

* `Threshold`: the lowest level that passes
* `Directive`, `LogFilter`: directives, and lists of them
* `LogFilter.Fault`: what is wrong with a filter
* `LogFilter.parse`: reading a filter
* `LogFilter.passes`: whether a notice is reported
-/

namespace EnumCodegen

/-- **The lowest level that passes**; none, if nothing does. -/
abbrev Threshold := Option Level

/-- Whether a level passes. -/
def Threshold.passes (threshold : Threshold) (level : Level) : Bool :=
  threshold.any fun lowest => level.rank ≤ lowest.rank

/-- **A directive**: the lowest level for the notices whose source starts with a name and that have a
particular. -/
structure Directive where
  source? : Option Text
  particular? : Option Text
  threshold : Threshold
  deriving Repr, DecidableEq

namespace Directive

/-- Whether a directive is about a notice. Its sentence counts as a particular. -/
def covers (directive : Directive) (notice : Notice) : Bool :=
  directive.source?.all (·.isPrefixOf notice.source) &&
    directive.particular?.all fun name =>
      name == "message".toList || notice.particulars.any (·.1 == name)

/-- Whether a particular makes a directive more specific than another does: any does more than none,
and of two the one whose name comes later. -/
def sharper : Option Text → Option Text → Bool
  | some name, some other => List.lex other name fun c d => Nat.blt c.toNat d.toNat
  | some _, none => true
  | none, _ => false

/-- Whether a directive is more specific than another: by the length of its name, then by its
particular. -/
def moreSpecific (directive other : Directive) : Bool :=
  let length := (directive.source?.getD []).length
  let otherLength := (other.source?.getD []).length
  otherLength < length ||
    otherLength == length && sharper directive.particular? other.particular?

/-- The one of two directives that decides: the more specific, or else the later. -/
def decisive (earlier later : Directive) : Directive :=
  if earlier.moreSpecific later then earlier else later

end Directive

/-- **A log filter.** -/
abbrev LogFilter := List Directive

namespace LogFilter

/-- **What is wrong with a log filter.** -/
inductive Fault where
  /-- A directive cannot be read. -/
  | directive
  /-- What should be a level is none. -/
  | level
  deriving Repr, DecidableEq

/-- The report of a fault, each sentence being the cause of the one before it. -/
def Fault.report : Fault → List Text
  | directive => ["invalid filter directive"]
  | level =>
    let sentence : Text :=
      "error parsing level filter: expected one of \"off\", \"error\", \"warn\", \"info\", " ++
        "\"debug\", \"trace\", or a number 0-5"
    [sentence, sentence]

/-! ## Reading -/

/-- The words for thresholds. -/
def words : List (Text × Threshold) :=
  [("off", none), ("error", some .error), ("warn", some .warn), ("info", some .info),
    ("debug", some .debug), ("trace", some .trace)]

/-- The number that digits spell, behind an optional plus sign. -/
def ordinal? (text : Text) : Option Nat :=
  let digits := if text.head? = some '+' then text.drop 1 else text
  if digits.isEmpty || digits.any (!·.isDigit) then none
  else some (Nat.ofDigitChars 10 digits 0)

/-- **The threshold that text spells**, by a word in any case or by the place of the word. -/
def threshold? (text : Text) : Option Threshold :=
  match ordinal? text with
  | some n => words[n]?.map (·.2)
  | none => (words.find? fun (word, _) => word = text.map Char.toLower).map (·.2)

/-- Whether the name of a source may start with a character. -/
def startsName (c : Char) : Bool :=
  c = '-' || c = ':' || c = '_' || CharClass.isAlphanumeric c

/-- The level behind an equals sign. White space around the directive is no part of a level. -/
def parseLevel (padded : Bool) (level : Text) : Except Fault Threshold :=
  if padded then .error .level
  else if level.isEmpty then .ok (some .trace)
  else
    match threshold? level with
    | some threshold => .ok threshold
    | none => .error .level

/-- **What stands in brackets**, given the text behind the first: the particular that a notice has to
have, or none if no notice is meant, and what follows. A stretch of work before the braces, and a
value in them, are nothing that a notice has. -/
def bracketed? (text : Text) : Option (Option Text × Text) :=
  let work := text.takeWhile fun c => c ≠ ']' && c ≠ '{'
  match text.drop work.length with
  | ']' :: after => some (none, after)
  | '{' :: held =>
    let particular := held.takeWhile (· ≠ '}')
    match held.drop particular.length with
    | '}' :: ']' :: after =>
      if particular.isEmpty then none
      else some (if work.isEmpty && !particular.contains '=' then some particular else none, after)
    | _ => none
  | _ => none

/-- **Reading a directive**: a level, or what it is about and maybe a level; none, if it is about no
notice. Without a level everything passes. White space belongs to the name that it stands at. -/
def parseDirective (text : Text) : Except Fault (Option Directive) :=
  let padded := text.head?.any CharClass.isWhiteSpace
  let inner := Text.trimmedStart CharClass.isWhiteSpace text
  let name := inner.takeWhile fun c => c ≠ '=' && c ≠ '['
  if !inner.head?.any fun c => c = '[' || startsName c then .error .directive
  else
    match inner.drop name.length with
    | [] =>
      match threshold? text with
      | some threshold => .ok (some ⟨none, none, threshold⟩)
      | none => .ok (some ⟨some text, none, some .trace⟩)
    | '[' :: content =>
      match bracketed? content with
      | none => .error .directive
      | some (particular?, after) => do
        let threshold ←
          match after with
          | '=' :: level => parseLevel padded level
          | _ => if after.all CharClass.isWhiteSpace then .ok (some .trace) else .error .directive
        return if padded then none else
          particular?.map fun particular =>
            ⟨if name.isEmpty then none else some name, some particular, threshold⟩
    | _ :: level =>
      (parseLevel padded level).map fun threshold => some ⟨some name, none, threshold⟩

/-- **Reading a log filter.** Without directives only errors pass. -/
def parse (text : Text) : Except Fault LogFilter := do
  let pieces := (text.splitOn ',').filter (!·.isEmpty)
  let directives ← pieces.mapM parseDirective
  return if pieces.isEmpty then [⟨none, none, some .error⟩] else directives.filterMap id

/-! ## Filtering -/

/-- **The directive that decides** about a notice. -/
def decisive? (filter : LogFilter) (notice : Notice) : Option Directive :=
  (filter.filter (·.covers notice)).foldl
    (fun best? later => some ((best?.map (·.decisive later)).getD later)) none

/-- **Whether a notice is reported.** -/
def passes (filter : LogFilter) (notice : Notice) : Bool :=
  (filter.decisive? notice).any fun directive => directive.threshold.passes notice.level

end LogFilter

end EnumCodegen
