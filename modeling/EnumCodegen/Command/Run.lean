import EnumCodegen.Command.Arguments
import EnumCodegen.Command.LogFilter
import EnumCodegen.Plugin.Exchange

/-!
# The program

The program reads one request, from standard input or from a file, and writes the response to
standard output. Notices and errors go to standard error. What it does up to the reading of the
request follows from the arguments and the environment alone, and what it does then from the request;
between the two stands the only effect that it waits for.

## Main definitions

* `Ending`: how a run of the program ends
* `ReadError`: why the request cannot be read
* `Plan`, `Plan.of`: what the program does up to the reading of the request
* `Pending.finish`: how the run ends, once the request is read
-/

namespace EnumCodegen.Command

/-- **How a run of the program ends**: its exit code and what it wrote. -/
structure Ending where
  exitCode : Nat
  output : Bytes := []
  diagnostics : Text := []
  deriving Repr, DecidableEq

/-- **Why the request cannot be read.** -/
inductive ReadError where
  | notFound
  | notADirectory
  | isADirectory
  | other (reason : Text)
  deriving Repr, DecidableEq

/-- The report of a read error. -/
def ReadError.message : ReadError → Text
  | notFound => "No such file or directory (os error 2)"
  | notADirectory => "Not a directory (os error 20)"
  | isADirectory => "Is a directory (os error 21)"
  | other reason => reason

/-! ## Texts -/

/-- The name and version of the program. -/
def versionText : Text :=
  "protoc-gen-enumwire 0.3.0\n"

/-- What the program is for, and its options. -/
def helpText : Text :=
  "protoc plugin generating enum wire-name codecs\n\n" ++
    "Usage: protoc-gen-enumwire [OPTIONS]\n\n" ++
    "Options:\n" ++
    "      --request <PATH>         " ++
    "Read the CodeGeneratorRequest from a file instead of stdin\n" ++
    "      --log-level <LOG_LEVEL>  " ++
    "Log filter for diagnostics on stderr (e.g. debug, enumwire_core=info) " ++
    "[env: ENUMWIRE_LOG=] [default: warn]\n" ++
    "  -h, --help                   Print help\n" ++
    "  -V, --version                Print version\n"

/-- The environment variable that holds a log filter. -/
def filterVariable : Text :=
  "ENUMWIRE_LOG"

/-- The log filter without any other. -/
def defaultFilter : Text :=
  "warn"

/-- A text and the end of its line. -/
def terminated (line : Text) : Text :=
  line ++ ['\n']

/-- The lines for the causes of an error, indented, and numbered if there are several. -/
def causeLines : List Text → List Text
  | [cause] => ["    " ++ cause]
  | causes => causes.zipIdx.map fun (cause, i) => "    " ++ Text.numeral i ++ ": " ++ cause

/-- **The report of a fatal error**: what failed, and the causes. -/
def errorReport (failure : Text) (causes : List Text) : Text :=
  (["Error: " ++ failure, [], "Caused by:"] ++ causeLines causes).flatMap terminated

/-- A particular of a notice as text. -/
def particularText : Particular → Text
  | .quoted text => text.quoted
  | .plain text => text
  | .count n => Text.numeral n

/-- **The line for a notice**: level, sentence and particulars. -/
def noticeLine (notice : Notice) : Text :=
  notice.level.name ++ ' ' :: notice.sentence ++
    notice.particulars.flatMap fun (name, value) => ' ' :: name ++ '=' :: particularText value

/-- The lines for the notices that pass a filter. -/
def noticeText (filter : LogFilter) (notices : List Notice) : Text :=
  (notices.filter filter.passes).flatMap fun notice => terminated (noticeLine notice)

/-! ## Before the request is read -/

/-- **What is left to do** when the request is to be read: from where, and which notices pass. -/
structure Pending where
  request? : Option Text
  filter : LogFilter
  deriving Repr, DecidableEq

/-- **What the program does** up to the reading of the request. -/
inductive Plan where
  | stop (ending : Ending)
  | read (pending : Pending)
  deriving Repr, DecidableEq

/-- **The plan** for given arguments and a given log filter of the environment. An argument beats the
environment. -/
def Plan.of (arguments : List Text) (environment? : Option Text) : Plan :=
  match Invocation.ofArguments arguments with
  | .error cause => .stop { exitCode := 2, diagnostics := terminated cause.message }
  | .ok .version => .stop { exitCode := 0, output := Protobuf.utf8 versionText }
  | .ok .help => .stop { exitCode := 0, output := Protobuf.utf8 helpText }
  | .ok (.exchange options) =>
    let filter := (options.logLevel?.or environment?).getD defaultFilter
    match LogFilter.parse filter with
    | .error fault =>
      .stop
        { exitCode := 1
          diagnostics := errorReport ("invalid log filter " ++ filter.quoted) fault.report }
    | .ok filter => .read ⟨options.request?, filter⟩

/-! ## After the request is read -/

/-- What failed when the request cannot be read. -/
def Pending.readFailure (pending : Pending) : Text :=
  match pending.request? with
  | some path => "failed to read request from " ++ path
  | none => "failed to read CodeGeneratorRequest from stdin"

/-- **How the run ends** once the request is read. -/
def Pending.finish (pending : Pending) : Except ReadError Bytes → Ending
  | .error cause =>
    { exitCode := 1, diagnostics := errorReport pending.readFailure [cause.message] }
  | .ok request =>
    match Plugin.exchange request with
    | .error failure =>
      { exitCode := 1
        diagnostics :=
          errorReport "failed to process protoc request" [failure.message, failure.cause.message] }
    | .ok (response, notices) =>
      { exitCode := 0, output := response, diagnostics := noticeText pending.filter notices }

/-- **A whole run of the program**, given what it would read from each place. -/
def run (arguments : List Text) (environment? : Option Text)
    (contents : Option Text → Except ReadError Bytes) : Ending :=
  match Plan.of arguments environment? with
  | .stop ending => ending
  | .read pending => pending.finish (contents pending.request?)

end EnumCodegen.Command
