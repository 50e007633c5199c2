import EnumCodegen.Code.Render
import EnumCodegen.Generation.OutputName
import EnumCodegen.Schema.Walk
import EnumCodegen.Settings

/-!
# A generation run

A run looks up the description of every file to generate, and then takes the modes in turn, and in
each mode the files in turn. A file without enums yields nothing; of several outputs with one name
the first is kept. Either all outputs are returned or, when a description is missing, none.

## Main definitions

* `OutputFile`: an output
* `describedBy?`, `lookUp`: the description of a file, and of all files to generate
* `Verdict`, `Step`: what becomes of a file in a mode
* `steps`: the steps of a run
* `Outcome`: the result of a run and what it reports
* `generateWith`, `generate`: a run with given settings, and with those of a parameter
-/

namespace EnumCodegen

/-- **An output**: its name, relative to the output directory, and its content. -/
structure OutputFile where
  name : Text
  content : Text
  deriving Repr, DecidableEq

/-- **The description of a file**: the last with its name. -/
def describedBy? (descriptors : List FileDescriptor) (name : Text) : Option FileDescriptor :=
  descriptors.findRev? (·.name = name)

/-- The description of a file, or the error that it is missing. -/
def lookUpOne (descriptors : List FileDescriptor) (name : Text) :
    Except GenerateError FileDescriptor :=
  match describedBy? descriptors name with
  | some descriptor => .ok descriptor
  | none => .error (.unknownFile name)

/-- **The descriptions of all files to generate**, or the error that names the first without one. -/
def lookUp (descriptors : List FileDescriptor) (names : List Text) :
    Except GenerateError (List FileDescriptor) :=
  names.mapM (lookUpOne descriptors)

/-- The descriptions of the files to generate that come before the first without one. -/
def lookedUp (descriptors : List FileDescriptor) : List Text → List FileDescriptor
  | [] => []
  | name :: rest =>
    match describedBy? descriptors name with
    | some descriptor => descriptor :: lookedUp descriptors rest
    | none => []

/-- **What becomes of a file in a mode**: nothing, if it declares no enum; no output, if its name is
taken; or an output. -/
inductive Verdict where
  | nothing
  | taken (output : Text)
  | written (output : OutputFile)
  deriving Repr, DecidableEq

/-- The output of a verdict, if any. -/
def Verdict.output? : Verdict → Option OutputFile
  | written output => some output
  | nothing | taken _ => none

/-- **A step of a run**: a mode, a file, and what becomes of it. -/
structure Step where
  mode : Mode
  file : EnumSchema
  verdict : Verdict
  deriving Repr, DecidableEq

/-- **The verdict on a file** in a mode, given the names already taken. -/
def verdict (sourceRelative : Bool) (taken : List Text) (mode : Mode) (file : EnumSchema) :
    Verdict :=
  match file.render? mode with
  | none => .nothing
  | some content =>
    let name := file.outputName mode sourceRelative
    if taken.contains name then .taken name else .written ⟨name, content⟩

/-- **The steps of a run** over pairs of a mode and a file, given the names already taken. -/
def steps (sourceRelative : Bool) (taken : List Text) : List (Mode × EnumSchema) → List Step
  | [] => []
  | (mode, file) :: rest =>
    let found := verdict sourceRelative taken mode file
    ⟨mode, file, found⟩ ::
      steps sourceRelative ((found.output?.map (·.name)).toList ++ taken) rest

/-- The pairs of a mode and a file that a run takes in turn. -/
def jobs (modes : List Mode) (files : List EnumSchema) : List (Mode × EnumSchema) :=
  modes.flatMap fun mode => files.map (mode, ·)

/-- The notice of a step. -/
def Step.notice (step : Step) : Notice :=
  match step.verdict with
  | .nothing => .nothingToGenerate step.file.name step.mode
  | .taken output => .outputTaken step.file.name output step.mode
  | .written output => .generated step.file.name output.name step.mode

/-- **What a step reports**: first about the code itself, then what becomes of it. -/
def Step.notices (step : Step) : List Notice :=
  step.file.renderNotices step.mode ++ [step.notice]

/-- **The outcome of a run**: its outputs or its error, and what it reports, in order. -/
structure Outcome where
  result : Except GenerateError (List OutputFile)
  notices : List Notice

/-- **A run with given settings.** The files to generate are walked before any code is rendered. -/
def generateWith (descriptors : List FileDescriptor) (names : List Text) (settings : Settings) :
    Outcome :=
  let walked := (lookedUp descriptors names).flatMap schemaNotices
  match lookUp descriptors names with
  | .error cause => ⟨.error cause, walked⟩
  | .ok files =>
    let taken := steps settings.sourceRelative []
      (jobs settings.modes (files.map EnumSchema.ofDescriptor))
    ⟨.ok (taken.filterMap (·.verdict.output?)), walked ++ taken.flatMap (·.notices)⟩

/-- **A run with the settings of a parameter.** -/
def generate (descriptors : List FileDescriptor) (names : List Text) (parameter : Text) : Outcome :=
  match Settings.parse parameter with
  | .error cause => ⟨.error (.parameter cause), []⟩
  | .ok settings => generateWith descriptors names settings

end EnumCodegen
