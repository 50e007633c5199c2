import EnumCodegen.Proofs.Generation.OutputName
import EnumCodegen.Proofs.Path.Cleaning

/-!
# Relocation changes the directory of an output only

Whatever a schema file is called, the base name of its output is the stem of the file with the suffix
of the mode. An output that is not relocated keeps the front of the file's name. One that is relocated
goes down by one name from the directory that the file asks for, so its name is canonical again.

## Main definitions

* `Path.Canonical.child`: a canonical path with one more name

## Main results

* `EnumSchema.relative_eq`: the name of an output that is not relocated
* `Path.Canonical.joined_text`: a name placed in a canonical directory
* `EnumSchema.outputName_relocation`: the name of an output
-/

namespace EnumCodegen

namespace Path

/-! ## Going down by a name -/

namespace Canonical

/-- **Going down by one more name.** -/
def child (path : Canonical) {name : Text} (hname : IsName name) : Canonical where
  rooted := path.rooted
  ups := path.ups
  downs := path.downs ++ [name]
  ups_eq_zero := path.ups_eq_zero
  isName := by
    intro down hdown
    rcases List.mem_append.mp hdown with hdown | hdown
    · exact path.isName down hdown
    · rwa [List.mem_singleton.mp hdown]

variable {name : Text}

@[simp] theorem rooted_child (path : Canonical) (hname : IsName name) :
    (path.child hname).rooted = path.rooted := rfl

@[simp] theorem segments_child (path : Canonical) (hname : IsName name) :
    (path.child hname).segments = path.segments ++ [name] :=
  (List.append_assoc _ _ _).symm

@[simp] theorem lead_child (path : Canonical) (hname : IsName name) (base : List Text) :
    (path.child hname).lead base = name :: path.lead base := by
  rw [lead, rooted_child, child, List.reverse_append]
  rfl

/-- A canonical path without segments is the root, or empty. -/
theorem text_of_segments_eq_nil {path : Canonical} (h : path.segments = []) :
    path.text = if path.rooted then ['/'] else [] := by
  rw [text, h]
  exact List.append_nil _

/-- A canonical path with segments is neither the root nor empty. -/
theorem segments_eq_nil_of_text {path : Canonical} (h : path.text = [] ∨ path.text = ['/']) :
    path.segments = [] := by
  rw [← path.filter_segments_text]
  rcases h with h | h
  · rw [h]
    rfl
  · rw [h]
    rfl

/-- **A name placed in a canonical directory** is the canonical path that goes down by it. -/
theorem joined_text (path : Canonical) (hname : IsName name) :
    joined path.text name = (path.child hname).text := by
  unfold joined
  rcases List.eq_nil_or_concat' path.segments with hsegments | ⟨front, last, hsegments⟩
  · have hchild : (path.child hname).text = (if path.rooted then ['/'] else []) ++ name := by
      rw [text, rooted_child, segments_child, hsegments, List.nil_append,
        List.intercalate_singleton]
    rw [hchild, text_of_segments_eq_nil hsegments]
    cases path.rooted <;> rfl
  · have hne : ¬(path.text = [] ∨ path.text = ['/']) := by
      intro h
      simpa [hsegments] using segments_eq_nil_of_text h
    obtain ⟨hempty, hroot⟩ := not_or.mp hne
    rw [if_neg hempty, if_neg hroot, text, text, rooted_child, segments_child,
      Text.intercalate_concat, hsegments, Text.intercalate_concat, List.flatMap_append,
      List.flatMap_singleton]
    simp only [List.append_assoc, List.singleton_append]

end Canonical

/-- A name placed in a directory is the base name. -/
theorem baseName_joined {name : Text} (hname : '/' ∉ name) (directory : Text) :
    baseName (joined directory name) = name := by
  unfold joined
  split
  · exact baseName_append (.inl rfl) hname
  · split
    · exact baseName_append (.inr ⟨[], rfl⟩) hname
    · rw [List.append_cons]
      exact baseName_append (.inr ⟨directory, rfl⟩) hname

end Path

/-! ## The name of an output -/

namespace EnumSchema

/-- The base name of the output for a file is a name. -/
theorem isName_outputBase (file : EnumSchema) (mode : Mode) :
    Path.IsName (Path.stem file.name ++ mode.fileSuffix) := by
  have hlength : 2 < (Path.stem file.name ++ mode.fileSuffix).length := by
    have hsuffix : 2 < mode.fileSuffix.length := by cases mode <;> decide
    rw [List.length_append]
    omega
  refine ⟨?_, ?_, ?_, ?_⟩
  · intro h
    simp [h] at hlength
  · intro h
    simp [h] at hlength
  · intro h
    simp [h] at hlength
  · intro hslash
    rcases List.mem_append.mp hslash with hstem | hsuffix
    · exact Path.slash_notMem_stem file.name hstem
    · exact mode.slash_notMem_fileSuffix hsuffix

/-- **The name of an output that is not relocated** has the front of the file's name: the extension
goes before or after the front alike. -/
theorem relative_eq (file : EnumSchema) (mode : Mode) :
    ∃ front, Path.IsFront front ∧ file.name = front ++ Path.baseName file.name ∧
      Path.withoutExtension file.name ++ mode.fileSuffix =
        front ++ (Path.stem file.name ++ mode.fileSuffix) := by
  obtain ⟨front, hfront, hname⟩ := Path.exists_front file.name
  refine ⟨front, hfront, hname, ?_⟩
  conv_lhs => rw [hname, Path.withoutExtension_append hfront]
  exact List.append_assoc _ _ _

/-- The base name of an output that is not relocated. -/
theorem baseName_relative (file : EnumSchema) (mode : Mode) :
    Path.baseName (Path.withoutExtension file.name ++ mode.fileSuffix) =
      Path.stem file.name ++ mode.fileSuffix := by
  obtain ⟨front, hfront, -, hrelative⟩ := file.relative_eq mode
  rw [hrelative, Path.baseName_append hfront (file.isName_outputBase mode).slash_notMem]

/-- An output stays beside its file if the run says so, or the file asks for no directory. -/
theorem outputName_eq_relative {file : EnumSchema} {sourceRelative : Bool} (mode : Mode)
    (h : sourceRelative = true ∨ ∀ placement ∈ file.placement?, placement.path = []) :
    file.outputName mode sourceRelative =
      Path.withoutExtension file.name ++ mode.fileSuffix := by
  unfold outputName
  rcases h with rfl | hplacement
  · rfl
  · have hnone : file.directory? = none := by
      rw [directory?, Option.filter_eq_none_iff]
      intro path hpath
      obtain ⟨placement, hmem, rfl⟩ := Option.map_eq_some_iff.mp hpath
      simp [hplacement placement hmem]
    rw [hnone, ite_self]

/-- An output is placed in the directory that the file asks for, unless the run says otherwise. -/
theorem outputName_eq_joined {file : EnumSchema} {placement : Placement} (mode : Mode)
    (hplacement : placement ∈ file.placement?) (hpath : placement.path ≠ []) :
    file.outputName mode false =
      Path.joined (Path.clean placement.path) (Path.stem file.name ++ mode.fileSuffix) := by
  have hsome : file.directory? = some placement.path := by
    rw [directory?, Option.mem_def.mp hplacement, Option.map_some, Option.filter_some]
    simp [hpath]
  rw [← file.baseName_relative mode, outputName, hsome]
  rfl

/-- **The name of an output.** Its base name is the stem of the file with the suffix of the mode. If
the run keeps outputs beside their files, or the file asks for no directory, what stands before it is
what stands before the base name of the file. Else it is placed in the cleaned directory: from every
base it leads to that name in the directory, it is clean, and it stands alone if the directory is
cleaned to nothing. -/
theorem outputName_relocation (file : EnumSchema) (mode : Mode) (sourceRelative : Bool) :
    Path.baseName (file.outputName mode sourceRelative) =
        Path.stem file.name ++ mode.fileSuffix ∧
      ((sourceRelative = true ∨ ∀ placement ∈ file.placement?, placement.path = []) →
        ∃ front, file.name = front ++ Path.baseName file.name ∧
          file.outputName mode sourceRelative =
            front ++ (Path.stem file.name ++ mode.fileSuffix)) ∧
      (sourceRelative = false → ∀ placement ∈ file.placement?, placement.path ≠ [] →
        file.outputName mode sourceRelative =
            Path.joined (Path.clean placement.path) (Path.stem file.name ++ mode.fileSuffix) ∧
          (∀ base, Path.resolve base (file.outputName mode sourceRelative) =
            (Path.stem file.name ++ mode.fileSuffix) :: Path.resolve base placement.path) ∧
          Path.clean (file.outputName mode sourceRelative) =
            file.outputName mode sourceRelative ∧
          (Path.clean placement.path = [] →
            file.outputName mode sourceRelative =
              Path.stem file.name ++ mode.fileSuffix)) := by
  have hname : Path.IsName (Path.stem file.name ++ mode.fileSuffix) := file.isName_outputBase mode
  refine ⟨?_, ?_, ?_⟩
  · by_cases hstays : sourceRelative = true ∨ ∀ placement ∈ file.placement?, placement.path = []
    · rw [outputName_eq_relative mode hstays, baseName_relative]
    · push Not at hstays
      obtain ⟨hrelative, placement, hplacement, hpath⟩ := hstays
      rw [Bool.eq_false_iff.mpr hrelative, outputName_eq_joined mode hplacement hpath,
        Path.baseName_joined hname.slash_notMem]
  · intro hstays
    obtain ⟨front, -, hfront, hrelative⟩ := file.relative_eq mode
    exact ⟨front, hfront, by rw [outputName_eq_relative mode hstays, hrelative]⟩
  · rintro rfl placement hplacement hpath
    obtain ⟨directory, -, hclean, hlead⟩ := Path.exists_canonical placement.path
    have hjoined := outputName_eq_joined mode hplacement hpath
    have htext : file.outputName mode false = (directory.child hname).text := by
      rw [hjoined, hclean, directory.joined_text hname]
    refine ⟨hjoined, ?_, ?_, ?_⟩
    · intro base
      rw [htext, Path.Canonical.resolve_text, directory.lead_child, hlead]
    · rw [htext, Path.Canonical.clean_text]
    · intro hempty
      rw [hjoined, hempty]
      rfl

end EnumSchema

end EnumCodegen
