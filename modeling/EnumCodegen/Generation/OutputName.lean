import EnumCodegen.Mode
import EnumCodegen.Path
import EnumCodegen.Schema.Basic

/-!
# Names of output files

The output of a schema file has its name with the suffix of the mode in place of the extension. It
is placed in the directory that the file's option asks for, if any, unless the run keeps outputs
beside their files.

## Main definitions

* `Path.joined`: a name placed in a directory
* `EnumSchema.outputName`: the name of the output for a file in a mode
-/

namespace EnumCodegen

/-- **A name placed in a cleaned directory**: without a directory the name stands alone. -/
def Path.joined (directory name : Text) : Text :=
  if directory = [] then name
  else if directory = ['/'] then '/' :: name
  else directory ++ '/' :: name

/-- The directory that a file asks its output to be placed in, unless it is empty. -/
def EnumSchema.directory? (file : EnumSchema) : Option Text :=
  (file.placement?.map (·.path)).filter (!·.isEmpty)

/-- **The name of the output** for a file in a mode. -/
def EnumSchema.outputName (file : EnumSchema) (mode : Mode) (sourceRelative : Bool) : Text :=
  let relative := Path.withoutExtension file.name ++ mode.fileSuffix
  if sourceRelative then relative
  else
    match file.directory? with
    | some directory => Path.joined (Path.clean directory) (Path.baseName relative)
    | none => relative

end EnumCodegen
