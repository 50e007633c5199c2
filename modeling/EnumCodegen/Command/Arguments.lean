import EnumCodegen.Text.Basic

/-!
# Command line arguments

The arguments are read from left to right. Two options take a value, in the same argument behind an
equals sign or as the next argument, and two flags ask about the program itself; the first such flag
ends the reading. No argument stands on its own.

## Main definitions

* `OptionName`, `Options`: the options, and the values given for them
* `Invocation`: what the arguments ask for
* `UsageError`: what is wrong with arguments
* `Invocation.ofArguments`: reading arguments
-/

namespace EnumCodegen.Command

/-- **The options** that take a value. -/
inductive OptionName where
  /-- The file that holds the request. -/
  | request
  /-- Which notices to report. -/
  | logLevel
  deriving Repr, DecidableEq

namespace OptionName

/-- Every option. -/
def all : List OptionName :=
  [.request, .logLevel]

/-- The name of an option in arguments. -/
def text : OptionName → Text
  | request => "--request"
  | logLevel => "--log-level"

/-- The option with a name. -/
def ofText? (name : Text) : Option OptionName :=
  all.find? (·.text = name)

@[simp] theorem ofText?_text (option : OptionName) : ofText? option.text = some option := by
  cases option <;> decide

end OptionName

/-- **The values given** for the options. -/
structure Options where
  request? : Option Text := none
  logLevel? : Option Text := none
  deriving Repr, DecidableEq

/-- **What arguments ask for.** -/
inductive Invocation where
  | exchange (options : Options)
  | version
  | help
  deriving Repr, DecidableEq

/-- **What is wrong with arguments.** -/
inductive UsageError where
  /-- An argument is neither an option nor a flag. -/
  | unexpected (argument : Text)
  /-- An option has no value, or an empty one where that cannot be. -/
  | valueMissing (option : OptionName)
  /-- An option occurs twice. -/
  | repeated (option : OptionName)
  deriving Repr, DecidableEq

/-- The report of a usage error. -/
def UsageError.message : UsageError → Text
  | unexpected argument => "error: unexpected argument '" ++ argument ++ "' found"
  | valueMissing option => "error: a value is required for '" ++ option.text ++ "'"
  | repeated option => "error: the argument '" ++ option.text ++ "' cannot be used multiple times"

/-- The options with one more value. A path must not be empty. -/
def Options.insert (given : Options) (option : OptionName) (value : Text) :
    Except UsageError Options :=
  match option with
  | .request =>
    if given.request?.isSome then .error (.repeated .request)
    else if value.isEmpty then .error (.valueMissing .request)
    else .ok { given with request? := some value }
  | .logLevel =>
    if given.logLevel?.isSome then .error (.repeated .logLevel)
    else .ok { given with logLevel? := some value }

/-- **What an argument is by itself.** -/
inductive Argument where
  | version
  | help
  | option (name : OptionName) (attached? : Option Text)
  /-- The mark behind which no argument is an option. -/
  | endOfOptions
  | other
  deriving Repr, DecidableEq

/-- The text behind the first equals sign, if there is one. -/
def attachedValue? (argument : Text) : Option Text :=
  (argument.dropWhile (· ≠ '=')).tail?

/-- **What an argument is.** The letters behind the letter of a flag do not matter, since the flag
ends the reading. -/
def Argument.ofText (text : Text) : Argument :=
  if text = "--version" then version
  else if text = "--help" then help
  else if text = "--" then endOfOptions
  else if List.isPrefixOf "-V" text then version
  else if List.isPrefixOf "-h" text then help
  else
    match OptionName.ofText? (text.takeWhile (· ≠ '=')) with
    | some name => option name (attachedValue? text)
    | none => other

/-- Whether an argument can be the value of the option before it: it is a single dash, or does not
start with one. -/
def isValue (argument : Text) : Bool :=
  argument = "-" || argument.head? ≠ some '-'

/-- Reads arguments, given the values before them. -/
def readArguments (given : Options) : List Text → Except UsageError Invocation
  | [] => .ok (.exchange given)
  | argument :: rest =>
    match Argument.ofText argument, rest with
    | .version, _ => .ok .version
    | .help, _ => .ok .help
    | .endOfOptions, [] => .ok (.exchange given)
    | .endOfOptions, extra :: _ => .error (.unexpected extra)
    | .other, _ => .error (.unexpected argument)
    | .option name (some value), rest => do readArguments (← given.insert name value) rest
    | .option name none, value :: rest =>
      if isValue value then do readArguments (← given.insert name value) rest
      else .error (.valueMissing name)
    | .option name none, [] => .error (.valueMissing name)

/-- **What arguments ask for.** -/
def Invocation.ofArguments (arguments : List Text) : Except UsageError Invocation :=
  readArguments {} arguments

end EnumCodegen.Command
