import EnumCodegen.Command.Run

/-!
# The executable

Reads the request and writes what the run ends with; all else is decided by `Plan` and `Pending`.
-/

namespace EnumCodegen.Command

/-- Everything that a stream still holds. -/
partial def readToEnd (input : IO.FS.Stream) (held : ByteArray) : IO ByteArray := do
  let chunk ← input.read 65536
  if chunk.isEmpty then return held else readToEnd input (held ++ chunk)

/-- Why a file cannot be read. -/
def readErrorOf : IO.Error → ReadError
  | .noFileOrDirectory .. => .notFound
  | .inappropriateType _ code _ => if code = 21 then .isADirectory else .notADirectory
  | other => .other (toString other).toList

/-- The content of a file, or of standard input. -/
def readFrom : Option Text → IO (Except ReadError Bytes)
  | none => do return .ok (← readToEnd (← IO.getStdin) .empty).toList
  | some path => do
    try return .ok (← IO.FS.readBinFile (String.ofList path)).toList
    catch cause => return .error (readErrorOf cause)

/-- Writes what a run ends with. -/
def conclude (ending : Ending) : IO UInt32 := do
  (← IO.getStderr).putStr (String.ofList ending.diagnostics)
  let output ← IO.getStdout
  output.write ⟨ending.output.toArray⟩
  output.flush
  return UInt32.ofNat ending.exitCode

end EnumCodegen.Command

open EnumCodegen EnumCodegen.Command

/-- Plans the run, reads the request if the plan needs it, and writes how the run ends. -/
def main (arguments : List String) : IO UInt32 := do
  let environment? ← IO.getEnv (String.ofList filterVariable)
  match Plan.of (arguments.map String.toList) (environment?.map String.toList) with
  | .stop ending => conclude ending
  | .read pending => conclude (pending.finish (← readFrom pending.request?))
