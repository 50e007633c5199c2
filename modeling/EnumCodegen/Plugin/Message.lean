import EnumCodegen.Descriptor

/-!
# Requests and responses

A schema compiler sends its plugin a request: the names of the files to generate, a parameter, and the
descriptions of those files and all files they depend on. The plugin answers with output files, or
with an error.

## Main definitions

* `Plugin.Request`, `Plugin.CompilerVersion`: the request
* `Plugin.Response`, `Plugin.ResponseFile`: the response
-/

namespace EnumCodegen.Plugin

/-- **The version of the compiler** that sends a request. -/
structure CompilerVersion where
  major? : Option Int32 := none
  minor? : Option Int32 := none
  patch? : Option Int32 := none
  suffix? : Option Text := none
  deriving Repr, DecidableEq

/-- **A request.** -/
structure Request where
  filesToGenerate : List Text := []
  parameter? : Option Text := none
  version? : Option CompilerVersion := none
  files : List FileDescriptor := []
  deriving Repr, BEq

/-- The parameter of a request, empty if it has none. -/
def Request.parameter (request : Request) : Text :=
  request.parameter?.getD []

/-- **An output file** in a response. -/
structure ResponseFile where
  name? : Option Text := none
  insertionPoint? : Option Text := none
  content? : Option Text := none
  deriving Repr, DecidableEq

/-- **A response.** -/
structure Response where
  error? : Option Text := none
  supportedFeatures? : Option UInt64 := none
  files : List ResponseFile := []
  deriving Repr, DecidableEq

end EnumCodegen.Plugin
