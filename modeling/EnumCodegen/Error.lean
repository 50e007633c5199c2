import EnumCodegen.Text.Quoted

/-!
# Why a run fails

Every error is fatal to its run: it is reported as one message and no file is written.

## Main definitions

* `ParameterError`: what is wrong with a parameter
* `GenerateError`: why a run fails
* `GenerateError.message`: the report
-/

namespace EnumCodegen

/-- **What is wrong with a parameter.** -/
inductive ParameterError where
  /-- The parameter is blank. -/
  | missing
  /-- A token is neither a mode nor a placement. -/
  | unrecognized (token : Text)
  /-- No token of the parameter is a mode. -/
  | noMode (parameter : Text)
  deriving Repr, DecidableEq

/-- **Why a run fails.** -/
inductive GenerateError where
  /-- The parameter cannot be used. -/
  | parameter (cause : ParameterError)
  /-- A token outside the modes was given as a mode. -/
  | unsupportedMode (token : Text)
  /-- A file to generate is not among the described files. -/
  | unknownFile (name : Text)
  deriving Repr, DecidableEq

/-- The cause in words. -/
def ParameterError.message : ParameterError → Text
  | missing => "no parameter provided: expected one or more of 'xml', 'json', 'gql'"
  | unrecognized token => "unrecognized parameter " ++ token.quoted
  | noMode parameter =>
    "missing mode in parameter " ++ parameter.quoted ++
      ": expected one or more of 'xml', 'json', 'gql'"

/-- **The report** of an error. -/
def GenerateError.message : GenerateError → Text
  | parameter cause => "configuration error: " ++ cause.message
  | unsupportedMode token => "unsupported mode: " ++ token.quoted
  | unknownFile name => "file to generate not found in request: " ++ name

end EnumCodegen
