import EnumCodegen.Generation.OutputName
import EnumCodegen.Proofs.Path.BaseName

/-!
# Outputs of different modes have different names

Whatever a schema file is called, and wherever it asks its output to be placed, the name of the
output ends in the suffix of the mode: cutting a path to its last segment keeps an end without
slashes, and placing a name in a directory only writes in front of it. No suffix of a mode ends
another, so a name tells the mode it was made for.

## Main results

* `Mode.eq_of_fileSuffix_suffix`: a text ends in the suffix of at most one mode
* `EnumSchema.fileSuffix_suffix_outputName`: the name of an output ends in the suffix of its mode
* `EnumSchema.mode_eq_of_outputName_eq`: outputs of different modes have different names
-/

namespace EnumCodegen

namespace Path

/-- Placing a name in a directory leaves it at the end. -/
theorem suffix_joined (directory name : Text) : name <:+ joined directory name := by
  unfold joined
  split
  · exact List.suffix_refl _
  · split
    · exact List.suffix_cons _ _
    · exact (List.suffix_cons _ _).trans (List.suffix_append _ _)

end Path

namespace Mode

theorem slash_notMem_fileSuffix (mode : Mode) : '/' ∉ mode.fileSuffix := by
  cases mode <;> decide

/-- **A text ends in the suffix of at most one mode.** -/
theorem eq_of_fileSuffix_suffix {mode mode' : Mode} {text : Text} (h : mode.fileSuffix <:+ text)
    (h' : mode'.fileSuffix <:+ text) : mode = mode' := by
  -- of two ends of one text the shorter ends the longer, which no two suffixes do
  have hmodes : mode.fileSuffix <:+ mode'.fileSuffix ∨ mode'.fileSuffix <:+ mode.fileSuffix :=
    List.suffix_or_suffix_of_suffix h h'
  revert hmodes
  cases mode <;> cases mode' <;> decide

end Mode

namespace EnumSchema

/-- **The name of an output ends in the suffix of its mode.** -/
theorem fileSuffix_suffix_outputName (file : EnumSchema) (mode : Mode) (sourceRelative : Bool) :
    mode.fileSuffix <:+ file.outputName mode sourceRelative := by
  unfold outputName
  split
  · exact List.suffix_append _ _
  · split
    · refine List.IsSuffix.trans ?_ (Path.suffix_joined _ _)
      rw [Path.baseName_append_ending mode.slash_notMem_fileSuffix]
      exact List.suffix_append _ _
    · exact List.suffix_append _ _

/-- **Outputs of different modes have different names.** -/
theorem mode_eq_of_outputName_eq {file file' : EnumSchema} {mode mode' : Mode}
    {sourceRelative : Bool}
    (h : file.outputName mode sourceRelative = file'.outputName mode' sourceRelative) :
    mode = mode' :=
  Mode.eq_of_fileSuffix_suffix (file.fileSuffix_suffix_outputName mode sourceRelative)
    (h ▸ file'.fileSuffix_suffix_outputName mode' sourceRelative)

end EnumSchema

end EnumCodegen
