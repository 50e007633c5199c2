import EnumCodegen.Error
import EnumCodegen.Mode

/-!
# What a run reports beside its result

A run leaves a trail of notices for whoever watches it. Each kind has a level, a source by which it
can be filtered, a sentence, and named particulars.

## Main definitions

* `Level`: how much a notice matters
* `Notice`: what there is to report
* `Notice.level`, `Notice.source`, `Notice.sentence`, `Notice.particulars`: how it is reported
-/

namespace EnumCodegen

/-- **The levels of notices**, the gravest first. -/
inductive Level where
  | error
  | warn
  | info
  | debug
  | trace
  deriving Repr, DecidableEq

/-- The rank of a level; graver levels come first. -/
def Level.rank : Level → Nat
  | error => 0
  | warn => 1
  | info => 2
  | debug => 3
  | trace => 4

/-- The name of a level. -/
def Level.name : Level → Text
  | error => "ERROR"
  | warn => "WARN"
  | info => "INFO"
  | debug => "DEBUG"
  | trace => "TRACE"

/-- **A particular** of a notice: a text given in quotes, a text given as it is, or a count. -/
inductive Particular where
  | quoted (text : Text)
  | plain (text : Text)
  | count (n : Nat)
  deriving Repr, DecidableEq

/-- **What there is to report.** -/
inductive Notice where
  /-- The enum of a field is declared in another file. -/
  | foreignEnum (field typeName : Text)
  /-- A wire name is one that the type system reserves. -/
  | reservedValue (enumName value : Text)
  /-- A file declares no enum. -/
  | nothingToGenerate (file : Text) (mode : Mode)
  /-- A file's output name is taken by an earlier file. -/
  | outputTaken (file output : Text) (mode : Mode)
  /-- A file's output was generated. -/
  | generated (file output : Text) (mode : Mode)
  /-- A request arrived. -/
  | requestReceived (files descriptors : Nat) (parameter : Text)
  /-- Generation failed. -/
  | generationFailed (cause : GenerateError)
  deriving Repr, DecidableEq

namespace Notice

/-- **The level** of a notice. -/
def level : Notice → Level
  | foreignEnum .. | nothingToGenerate .. | requestReceived .. => .debug
  | reservedValue .. | outputTaken .. => .warn
  | generated .. => .info
  | generationFailed .. => .error

/-- **The source** of a notice, by which it can be filtered. -/
def source : Notice → Text
  | foreignEnum .. => "enumwire_core::schema"
  | reservedValue .. => "enumwire_core::render::gql"
  | nothingToGenerate .. | outputTaken .. | generated .. => "enumwire_core::generator"
  | requestReceived .. | generationFailed .. => "enumwire_transport::plugin"

/-- **The sentence** of a notice. -/
def sentence : Notice → Text
  | foreignEnum .. => "enum declared in another file, no field binding emitted"
  | reservedValue .. =>
    "GraphQL does not allow true, false or null as enum values; the declaration will be rejected"
  | nothingToGenerate .. => "no enums, nothing to generate"
  | outputTaken .. => "output already generated in this run, skipping"
  | generated .. => "generated"
  | requestReceived .. => "received CodeGeneratorRequest"
  | generationFailed .. => "generation failed"

/-- **The particulars** of a notice, by name. -/
def particulars : Notice → List (Text × Particular)
  | foreignEnum field typeName => [("field", .quoted field), ("type_name", .quoted typeName)]
  | reservedValue enumName value => [("enum_name", .plain enumName), ("value", .quoted value)]
  | nothingToGenerate file mode => [("file", .quoted file), ("mode", .plain mode.token)]
  | outputTaken file output mode | generated file output mode =>
    [("file", .quoted file), ("output", .plain output), ("mode", .plain mode.token)]
  | requestReceived files descriptors parameter =>
    [("files", .count files), ("descriptors", .count descriptors),
      ("parameter", .quoted parameter)]
  | generationFailed cause => [("error", .plain cause.message)]

end Notice

end EnumCodegen
