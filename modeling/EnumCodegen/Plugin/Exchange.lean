import EnumCodegen.Generation.Run
import EnumCodegen.Plugin.Encoding

/-!
# One exchange with the schema compiler

A request is decoded, answered and the response encoded. Errors of generation are part of the
response; only a request that cannot be decoded leaves the exchange without one.

## Main definitions

* `Plugin.Answer`, `Plugin.respond`: the response to a request, and what is reported on the way
* `Plugin.ExchangeError`, `Plugin.exchange`: the exchange of bytes
-/

namespace EnumCodegen.Plugin

open Protobuf

/-- **The features that every response announces**: fields of the third dialect may be optional. -/
def supportedFeatures : UInt64 :=
  1

/-- **A response**, and what was reported on the way. -/
structure Answer where
  response : Response
  notices : List Notice

/-- **The response to a request.** It holds the outputs, or the error of the run and none of them. -/
def respond (request : Request) : Answer :=
  let received : Notice :=
    .requestReceived request.filesToGenerate.length request.files.length request.parameter
  let outcome := generate request.files request.filesToGenerate request.parameter
  match outcome.result with
  | .ok files =>
    ⟨{ supportedFeatures? := some supportedFeatures
       files := files.map fun file => { name? := some file.name, content? := some file.content } },
      received :: outcome.notices⟩
  | .error cause =>
    ⟨{ error? := some cause.message, supportedFeatures? := some supportedFeatures },
      received :: (outcome.notices ++ [.generationFailed cause])⟩

/-- **A failed exchange**: the request cannot be decoded. -/
structure ExchangeError where
  cause : DecodeError
  deriving Repr, DecidableEq

/-- A failed exchange in words. -/
def ExchangeError.message (error : ExchangeError) : Text :=
  "failed to decode CodeGeneratorRequest: " ++ error.cause.message

/-- **The exchange of bytes**: the encoded response, and what was reported on the way. -/
def exchange (input : Bytes) : Except ExchangeError (Bytes × List Notice) :=
  match Request.decode input with
  | .error cause => .error ⟨cause⟩
  | .ok request =>
    let answer := respond request
    .ok (answer.response.encode, answer.notices)

end EnumCodegen.Plugin
