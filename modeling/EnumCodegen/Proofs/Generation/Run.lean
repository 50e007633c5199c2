import EnumCodegen.Generation.Run
import EnumCodegen.Proofs.Generation.OutputName
import EnumCodegen.Proofs.Schema.Tree
import EnumCodegen.Schema.Part
import Mathlib.Data.List.Induction
import Mathlib.Data.List.Nodup

/-!
# What a run generates

A run threads the names already taken through all its modes and files. The outputs it keeps are
those that come first under their name among all that its modes and files ask for. As outputs of
different modes have different names, no mode takes a name from another, and a run is the sequence
of the runs of its modes.

## Main definitions

* `Describes`: the description that counts for a file, by its place in the list
* `EnumSchema.output?`: the output a file asks for in a mode
* `firstOutputs`: the outputs that come first under their name

## Main results

* `lookUp_eq_ok`, `lookUp_eq_error`: described files are found, and the first that is not is reported
* `outputsOf_steps`: the steps of a run write the first outputs under every name
* `firstOutputs_flatMap`: outputs of different modes do not compete
* `generateWith_outputs`: what a run generates
-/

namespace EnumCodegen

/-- **The description that counts for a file**: the last of the list with its name. -/
def Describes (descriptors : List FileDescriptor) (name : Text) (file : FileDescriptor) : Prop :=
  ∃ before after, descriptors = before ++ file :: after ∧ file.name = name ∧
    ∀ other ∈ after, other.name ≠ name

/-- **The output a file asks for** in a mode, if it declares an enum. -/
def EnumSchema.output? (file : EnumSchema) (mode : Mode) (sourceRelative : Bool) :
    Option OutputFile :=
  (file.render? mode).map fun content => ⟨file.outputName mode sourceRelative, content⟩

/-- **The outputs that come first under their name**: those whose name no earlier one has. -/
def firstOutputs (outputs : List OutputFile) : List OutputFile :=
  (outputs.zipIdx.filter fun (output, i) =>
    (outputs.take i).all fun earlier => earlier.name ≠ output.name).map (·.1)

/-- The outputs that steps write. -/
def outputsOf (taken : List Step) : List OutputFile :=
  taken.filterMap (·.verdict.output?)

variable {descriptors : List FileDescriptor} {name : Text} {names taken : List Text}
  {sourceRelative : Bool} {outputs : List OutputFile} {output : OutputFile}

/-! ## Looking up descriptions -/

theorem describedBy?_eq_some_iff {file : FileDescriptor} :
    describedBy? descriptors name = some file ↔ Describes descriptors name file := by
  rw [describedBy?, List.findRev?_eq_find?_reverse, List.find?_eq_some_iff_append]
  constructor
  · rintro ⟨hname, after, before, hsplit, hafter⟩
    refine ⟨before.reverse, after.reverse, ?_, of_decide_eq_true hname, ?_⟩
    · simpa using congrArg List.reverse hsplit
    · intro other hother
      simpa using hafter other (List.mem_reverse.mp hother)
  · rintro ⟨before, after, rfl, hname, hafter⟩
    refine ⟨decide_eq_true hname, after.reverse, before.reverse, by simp, ?_⟩
    intro other hother
    simpa using hafter other (List.mem_reverse.mp hother)

theorem describedBy?_eq_none_iff :
    describedBy? descriptors name = none ↔ ¬∃ file ∈ descriptors, file.name = name := by
  rw [describedBy?, List.findRev?_eq_find?_reverse, List.find?_eq_none]
  simp

/-- A file with a description has one that counts. -/
theorem exists_describes (h : ∃ file ∈ descriptors, file.name = name) :
    ∃ file, Describes descriptors name file := by
  cases hfound : describedBy? descriptors name with
  | some last => exact ⟨last, describedBy?_eq_some_iff.mp hfound⟩
  | none => exact absurd h (describedBy?_eq_none_iff.mp hfound)

/-- Files to generate are all described, or there is a first that is not. -/
theorem described_or_exists_first (descriptors : List FileDescriptor) (names : List Text) :
    (∀ name ∈ names, ∃ file ∈ descriptors, file.name = name) ∨
      ∃ before name after, names = before ++ name :: after ∧
        (∀ earlier ∈ before, ∃ file ∈ descriptors, file.name = earlier) ∧
        ¬∃ file ∈ descriptors, file.name = name := by
  cases hfirst : names.find? fun name => ¬∃ file ∈ descriptors, file.name = name with
  | none => exact .inl (by simpa using hfirst)
  | some name =>
    obtain ⟨hname, before, after, hnames, hbefore⟩ := List.find?_eq_some_iff_append.mp hfirst
    exact .inr ⟨before, name, after, hnames, by simpa using hbefore, by simpa using hname⟩

theorem lookUp_cons (descriptors : List FileDescriptor) (name : Text) (names : List Text) :
    lookUp descriptors (name :: names) =
      (do return (← lookUpOne descriptors name) :: (← lookUp descriptors names)) :=
  List.mapM_cons

theorem lookUp_append (descriptors : List FileDescriptor) (names names' : List Text) :
    lookUp descriptors (names ++ names') =
      (do return (← lookUp descriptors names) ++ (← lookUp descriptors names')) :=
  List.mapM_append

/-- **Described files are found**, each by the description that counts. -/
theorem lookUp_eq_ok (h : ∀ name ∈ names, ∃ file ∈ descriptors, file.name = name) :
    ∃ targets, lookUp descriptors names = .ok targets ∧
      List.Forall₂ (Describes descriptors) names targets := by
  induction names with
  | nil => exact ⟨[], rfl, .nil⟩
  | cons name names ih =>
    obtain ⟨hname, hnames⟩ := List.forall_mem_cons.mp h
    obtain ⟨target, htarget⟩ := exists_describes hname
    obtain ⟨targets, hlookUp, htargets⟩ := ih hnames
    have hone : lookUpOne descriptors name = .ok target := by
      rw [lookUpOne, describedBy?_eq_some_iff.mpr htarget]
    refine ⟨target :: targets, ?_, .cons htarget htargets⟩
    rw [lookUp_cons, hone, hlookUp]
    rfl

/-- **A file without a description is reported**, if those before it are described. -/
theorem lookUp_eq_error {before after : List Text}
    (hbefore : ∀ earlier ∈ before, ∃ file ∈ descriptors, file.name = earlier)
    (hname : ¬∃ file ∈ descriptors, file.name = name) :
    lookUp descriptors (before ++ name :: after) = .error (.unknownFile name) := by
  obtain ⟨targets, htargets, -⟩ := lookUp_eq_ok hbefore
  have hone : lookUpOne descriptors name = .error (.unknownFile name) := by
    rw [lookUpOne, describedBy?_eq_none_iff.mpr hname]
  rw [lookUp_append, htargets, lookUp_cons, hone]
  rfl

/-! ## The first outputs under their names

The definition speaks of the place of each output in the whole list. A run takes the outputs from the
front, and a run of several modes has the outputs of one mode behind those of another; so there is an
equation for one more output at either end, and one for lists without a name in common. -/

@[simp] theorem firstOutputs_nil : firstOutputs [] = [] := rfl

/-- One more output is kept unless its name stands before it. -/
theorem firstOutputs_concat (outputs : List OutputFile) (last : OutputFile) :
    firstOutputs (outputs ++ [last]) =
      firstOutputs outputs ++ if last.name ∈ outputs.map (·.name) then [] else [last] := by
  have hfront : ∀ indexed ∈ outputs.zipIdx,
      ((outputs ++ [last]).take indexed.2).all (·.name ≠ indexed.1.name) =
        (outputs.take indexed.2).all (·.name ≠ indexed.1.name) := by
    intro indexed hmem
    rw [List.take_append_of_le_length (Nat.le_of_lt (List.snd_lt_of_mem_zipIdx hmem))]
  have hlast : ((outputs ++ [last]).take outputs.length).all (·.name ≠ last.name) =
      decide (last.name ∉ outputs.map (·.name)) := by
    rw [List.take_left' rfl, Bool.eq_iff_iff]
    simp
  rw [firstOutputs, List.zipIdx_append, List.filter_append, List.map_append,
    List.filter_congr hfront]
  congr 1
  simp only [List.zipIdx_singleton, Nat.zero_add, List.filter_singleton, hlast]
  by_cases hname : last.name ∈ outputs.map (·.name)
  · rw [if_pos hname, decide_eq_false (not_not_intro hname)]
    rfl
  · rw [if_neg hname, decide_eq_true hname]
    rfl

/-- **The first output** is kept, and takes its name from those behind it. -/
theorem firstOutputs_cons (first : OutputFile) (outputs : List OutputFile) :
    firstOutputs (first :: outputs) =
      first :: firstOutputs (outputs.filter (·.name ≠ first.name)) := by
  induction outputs using List.reverseRecOn with
  | nil => rfl
  | append_singleton outputs last ih =>
    rw [← List.cons_append, firstOutputs_concat, ih, List.filter_append, List.filter_singleton,
      List.cons_append]
    by_cases hname : last.name = first.name
    · simp [hname]
    · have hlast : last.name ∈ (first :: outputs).map (·.name) ↔
          last.name ∈ (outputs.filter (·.name ≠ first.name)).map (·.name) := by
        simp only [List.map_cons, List.mem_cons, List.mem_map, List.mem_filter, hname, false_or]
        constructor
        · rintro ⟨output, houtput, heq⟩
          exact ⟨output, ⟨houtput, by simp [heq, hname]⟩, heq⟩
        · rintro ⟨output, ⟨houtput, -⟩, heq⟩
          exact ⟨output, houtput, heq⟩
      rw [decide_eq_true hname, cond_true, firstOutputs_concat]
      simp only [hlast]

theorem firstOutputs_sublist (outputs : List OutputFile) :
    (firstOutputs outputs).Sublist outputs := by
  have hmap : outputs.zipIdx.map Prod.fst = outputs := List.zipIdx_map_fst 0 outputs
  conv_rhs => rw [← hmap]
  exact List.filter_sublist.map _

/-- **No two of the first outputs share a name.** -/
theorem nodup_map_name_firstOutputs (outputs : List OutputFile) :
    ((firstOutputs outputs).map (·.name)).Nodup := by
  induction outputs using List.reverseRecOn with
  | nil => exact List.nodup_nil
  | append_singleton outputs last ih =>
    rw [firstOutputs_concat]
    by_cases hname : last.name ∈ outputs.map (·.name)
    · rwa [if_pos hname, List.append_nil]
    · rw [if_neg hname, List.map_append]
      refine ih.append (List.nodup_singleton _) ?_
      intro name hfirst hlast
      obtain rfl := List.mem_singleton.mp hlast
      exact hname (((firstOutputs_sublist outputs).map _).subset hfirst)

/-- Outputs without a name in common do not compete. -/
theorem firstOutputs_append {outputs' : List OutputFile}
    (h : (outputs.map (·.name)).Disjoint (outputs'.map (·.name))) :
    firstOutputs (outputs ++ outputs') = firstOutputs outputs ++ firstOutputs outputs' := by
  induction outputs' using List.reverseRecOn with
  | nil => rw [firstOutputs_nil, List.append_nil, List.append_nil]
  | append_singleton outputs' last ih =>
    rw [List.map_append, List.disjoint_append_right] at h
    obtain ⟨hrest, hlast⟩ := h
    have hname : last.name ∉ outputs.map (·.name) :=
      fun hmem => hlast hmem (List.mem_singleton.mpr rfl)
    rw [← List.append_assoc, firstOutputs_concat, firstOutputs_concat, ih hrest,
      List.append_assoc]
    simp only [List.map_append, List.mem_append, hname, false_or]

/-- **Outputs in groups without a common name** do not compete across groups. -/
theorem firstOutputs_flatMap {κ : Type} {keys : List κ} {group : κ → List OutputFile}
    (hkeys : keys.Nodup)
    (hgroup : ∀ key key', key ≠ key' →
      ((group key).map (·.name)).Disjoint ((group key').map (·.name))) :
    firstOutputs (keys.flatMap group) = keys.flatMap fun key => firstOutputs (group key) := by
  induction keys with
  | nil => rfl
  | cons key keys ih =>
    obtain ⟨hkey, hkeys⟩ := List.nodup_cons.mp hkeys
    rw [List.flatMap_cons, List.flatMap_cons, ← ih hkeys]
    apply firstOutputs_append
    rw [List.map_flatMap]
    intro name hname hrest
    obtain ⟨key', hkey', hname'⟩ := List.mem_flatMap.mp hrest
    have hne : key ≠ key' := by
      rintro rfl
      exact hkey hkey'
    exact hgroup key key' hne hname hname'

/-! ## The steps of a run -/

/-- The output of a verdict is the one the file asks for, unless its name is taken. -/
theorem output?_verdict (sourceRelative : Bool) (taken : List Text) (mode : Mode)
    (file : EnumSchema) :
    (verdict sourceRelative taken mode file).output? =
      (file.output? mode sourceRelative).filter (·.name ∉ taken) := by
  unfold verdict EnumSchema.output?
  cases file.render? mode with
  | none => rfl
  | some content =>
    rw [Option.map_some, Option.filter_some]
    by_cases hname : file.outputName mode sourceRelative ∈ taken
    · simp [hname, Verdict.output?]
    · simp [hname, Verdict.output?]

/-- **The steps of a run write the first outputs** under the names that are not taken. -/
theorem outputsOf_steps (taken : List Text) (jobs : List (Mode × EnumSchema)) :
    outputsOf (steps sourceRelative taken jobs) =
      firstOutputs ((jobs.filterMap fun (mode, file) => file.output? mode sourceRelative).filter
        (·.name ∉ taken)) := by
  -- the names that are taken change from step to step, so the induction is for any of them
  induction jobs generalizing taken with
  | nil => rfl
  | cons job jobs ih =>
    obtain ⟨mode, file⟩ := job
    have hverdict := output?_verdict sourceRelative taken mode file
    rw [steps, outputsOf, List.filterMap_cons, List.filterMap_cons]
    simp only [hverdict]
    cases file.output? mode sourceRelative with
    | none => exact ih taken
    | some output =>
      rw [Option.filter_some, List.filter_cons]
      by_cases hname : output.name ∈ taken
      · simpa [hname, outputsOf] using ih taken
      · -- from here on the name of the output is taken as well
        have hrest := ih (output.name :: taken)
        have htaken : ∀ later : OutputFile, decide (later.name ∉ output.name :: taken) =
            (decide (later.name ≠ output.name) && decide (later.name ∉ taken)) := by
          intro later
          simp only [List.mem_cons, not_or, Bool.decide_and]
        rw [if_pos (decide_eq_true hname), if_pos (decide_eq_true hname), firstOutputs_cons,
          List.filter_filter, ← List.filter_congr fun later _ => htaken later]
        exact congrArg (output :: ·) hrest

/-! ## Whole runs -/

/-- The outputs of different modes have no name in common. -/
theorem disjoint_names_output? (files : List EnumSchema) (sourceRelative : Bool)
    {mode mode' : Mode} (hne : mode ≠ mode') :
    ((files.filterMap (·.output? mode sourceRelative)).map (·.name)).Disjoint
      ((files.filterMap (·.output? mode' sourceRelative)).map (·.name)) := by
  have hmode : ∀ mode, ∀ name ∈ (files.filterMap (·.output? mode sourceRelative)).map (·.name),
      ∃ file : EnumSchema, file.outputName mode sourceRelative = name := by
    intro mode name hname
    obtain ⟨output, houtput, rfl⟩ := List.mem_map.mp hname
    obtain ⟨file, -, hfile⟩ := List.mem_filterMap.mp houtput
    obtain ⟨content, -, rfl⟩ := Option.map_eq_some_iff.mp hfile
    exact ⟨file, rfl⟩
  intro name hname hname'
  obtain ⟨file, hfile⟩ := hmode mode name hname
  obtain ⟨file', hfile'⟩ := hmode mode' name hname'
  exact hne (EnumSchema.mode_eq_of_outputName_eq (hfile.trans hfile'.symm))

/-- **A run, mode by mode.** -/
theorem generateWith_result {targets : List FileDescriptor}
    (h : lookUp descriptors names = .ok targets) (settings : Settings) :
    (generateWith descriptors names settings).result =
      .ok (settings.modes.flatMap fun mode =>
        firstOutputs ((targets.map EnumSchema.ofDescriptor).filterMap
          (·.output? mode settings.sourceRelative))) := by
  have hjobs : (jobs settings.modes (targets.map EnumSchema.ofDescriptor)).filterMap
        (fun (mode, file) => file.output? mode settings.sourceRelative) =
      settings.modes.flatMap fun mode => (targets.map EnumSchema.ofDescriptor).filterMap
        (·.output? mode settings.sourceRelative) := by
    rw [jobs, List.filterMap_flatMap]
    simp only [List.filterMap_map]
    rfl
  have hsteps : outputsOf (steps settings.sourceRelative []
        (jobs settings.modes (targets.map EnumSchema.ofDescriptor))) =
      settings.modes.flatMap fun mode =>
        firstOutputs ((targets.map EnumSchema.ofDescriptor).filterMap
          (·.output? mode settings.sourceRelative)) := by
    rw [outputsOf_steps, hjobs, List.filter_eq_self.mpr (by simp)]
    exact firstOutputs_flatMap settings.nodup fun _ _ hne => disjoint_names_output? _ _ hne
  rw [generateWith, h]
  exact congrArg Except.ok hsteps

/-- The runs of single modes, one after the other. -/
theorem generateWith_single {targets : List FileDescriptor}
    (h : lookUp descriptors names = .ok targets) (modes : List Mode) (sourceRelative : Bool) :
    modes.mapM (fun mode =>
        (generateWith descriptors names (Settings.ofModes [mode] sourceRelative)).result) =
      .ok (modes.map fun mode =>
        firstOutputs ((targets.map EnumSchema.ofDescriptor).filterMap
          (·.output? mode sourceRelative))) := by
  induction modes with
  | nil => rfl
  | cons mode modes ih =>
    have hsingle : (Settings.ofModes [mode] sourceRelative).modes = [mode] := by
      simp [Settings.ofModes, List.eraseDups_cons]
    rw [List.mapM_cons, ih, generateWith_result h, hsingle, List.flatMap_singleton]
    rfl

/-- A file has an output in a mode if it declares an enum. -/
theorem isSome_output?_iff {target : FileDescriptor} {mode : Mode} :
    ((EnumSchema.ofDescriptor target).output? mode sourceRelative).isSome = true ↔
      ∃ place, target.IsRecorded (.enum place) := by
  have henums : (EnumSchema.ofDescriptor target).enums =
      target.enumNodes.map (·.declaration target) := rfl
  rw [EnumSchema.output?, EnumSchema.render?, Option.isSome_map, EnumSchema.hasEnums, henums]
  constructor
  · intro hsome
    cases hnodes : target.enumNodes with
    | nil => simp [hnodes] at hsome
    | cons node nodes =>
      have hnode : node ∈ target.enumNodes := by simp [hnodes]
      obtain ⟨place, hat, -⟩ := FileDescriptor.mem_enumNodes_iff.mp hnode
      exact ⟨place, _, _, hat⟩
  · rintro ⟨place, nesting, enum, hat⟩
    have hnode : (⟨nesting, place.enumAddress, enum⟩ : EnumNode) ∈ target.enumNodes :=
      FileDescriptor.mem_enumNodes_iff.mpr ⟨place, hat, rfl⟩
    cases hnodes : target.enumNodes with
    | nil => simp [hnodes] at hnode
    | cons node nodes => simp

/-- **What a run generates.** If every file to generate has a description, the last one counts. For
each mode in order and each file in order, a run then returns the output of the file if it declares
an enum and no file before it asks for an output of that name in the same mode. No two outputs share
a name, and the outputs are those of the runs of the single modes, one after the other. -/
theorem generateWith_outputs (descriptors : List FileDescriptor) (names : List Text)
    (settings : Settings) (hnames : ∀ name ∈ names, ∃ file ∈ descriptors, file.name = name) :
    ∃ targets outputs, List.Forall₂ (Describes descriptors) names targets ∧
      (generateWith descriptors names settings).result = .ok outputs ∧
      outputs = settings.modes.flatMap (fun mode =>
        firstOutputs (targets.filterMap fun target =>
          (EnumSchema.ofDescriptor target).output? mode settings.sourceRelative)) ∧
      (∀ target ∈ targets, ∀ mode,
        ((EnumSchema.ofDescriptor target).output? mode settings.sourceRelative).isSome = true ↔
          ∃ place, target.IsRecorded (.enum place)) ∧
      (outputs.map (·.name)).Nodup ∧
      ∃ runs, outputs = runs.flatten ∧
        settings.modes.mapM (fun mode => (generateWith descriptors names
          (Settings.ofModes [mode] settings.sourceRelative)).result) = .ok runs := by
  obtain ⟨targets, hlookUp, htargets⟩ := lookUp_eq_ok hnames
  have hresult := generateWith_result hlookUp settings
  have hruns := generateWith_single hlookUp settings.modes settings.sourceRelative
  simp only [List.filterMap_map] at hresult hruns
  refine ⟨targets, _, htargets, hresult, rfl, fun _ _ _ => isSome_output?_iff, ?_, _, ?_, hruns⟩
  · -- the outputs are the first under their names among those of all modes
    rw [← firstOutputs_flatMap settings.nodup]
    · exact nodup_map_name_firstOutputs _
    · intro mode mode' hne
      have hdisjoint := disjoint_names_output? (targets.map EnumSchema.ofDescriptor)
        settings.sourceRelative hne
      rwa [List.filterMap_map, List.filterMap_map] at hdisjoint
  · rw [List.flatMap_def]

/-- Two files that ask for outputs of one name. The first is described twice, and only the second
description counts. -/
def kindFiles : List FileDescriptor :=
  let kinds : List EnumDescriptor := [{ name? := "Kind".toList }]
  let options : FileOptions := { goPackage? := "gen/kinds;kinds".toList }
  [ { name? := "a/kind.proto".toList },
    { name? := "a/kind.proto".toList, enums := kinds, options? := options },
    { name? := "b/kind.proto".toList, enums := kinds, options? := options } ]

/-- In each mode the output of the first file stands for both. -/
theorem generateWith_outputs_kindFiles :
    ∃ outputs,
      (generateWith kindFiles ["a/kind.proto", "b/kind.proto"]
        (Settings.ofModes [.json, .xml] false)).result = .ok outputs ∧
      outputs.map (·.name) =
        ["gen/kinds/kind.enums.json.rs".toList, "gen/kinds/kind.enums.xml.rs".toList] := by
  obtain ⟨targets, outputs, -, hresult, -⟩ :=
    generateWith_outputs kindFiles ["a/kind.proto", "b/kind.proto"]
      (Settings.ofModes [.json, .xml] false) (by decide)
  have hnames : (generateWith kindFiles ["a/kind.proto", "b/kind.proto"]
        (Settings.ofModes [.json, .xml] false)).result.map (List.map (·.name)) =
      .ok ["gen/kinds/kind.enums.json.rs".toList, "gen/kinds/kind.enums.xml.rs".toList] := rfl
  rw [hresult] at hnames
  exact ⟨outputs, hresult, Except.ok.inj hnames⟩

end EnumCodegen
