import EnumCodegen.Proofs.Generation.Run
import Mathlib.Data.List.ProdSigma

/-!
# What a run reports

The notices of a run account for all it does. Files are walked before anything is generated, and what
the walk reports comes first. Then there is one notice of generation for every pair of a mode and a
file, in order: that the file declares no enum, that its output was added, or that the name of its
output is taken, which an earlier notice of the same mode says. A run that fails has walked the files
before the first that is not described, and generated nothing.

Notices are read as whoever watches a run sees them: by level, source and particulars.

## Main definitions

* `Notice.particular?`: a particular of a notice
* `generationNotices`, `walkNotices`: the notices of generation and of the walk
* `Notice.Reports`: the notice that is due to a mode and a file
* `Records`: the notices that are due to a list of pairs
* `RunLog`: the notices of a run that succeeds

## Main results

* `records_steps`: the steps of a run are recorded
* `generateWith_log`: the notices of a run
-/

namespace EnumCodegen

/-- **A particular of a notice**, by its name. -/
def Notice.particular? (notice : Notice) (name : Text) : Option Particular :=
  notice.particulars.lookup name

/-- **The notices of generation** itself. -/
def generationNotices (notices : List Notice) : List Notice :=
  notices.filter (·.source = "enumwire_core::generator".toList)

/-- **The notices of the walk** over the files to generate. -/
def walkNotices (notices : List Notice) : List Notice :=
  notices.filter (·.source = "enumwire_core::schema".toList)

/-- **What becomes of a file in a mode**, as a notice says it after the given ones. -/
inductive Notice.Tells (sourceRelative : Bool) (earlier : List Notice) (mode : Mode)
    (file : EnumSchema) (notice : Notice) : Prop where
  /-- The file declares no enum. -/
  | nothing (henums : file.enums = []) (hlevel : notice.level = .debug)
      (houtput : notice.particular? "output" = none)
  /-- The output of the file is added: no output of its name was added before. -/
  | added (henums : file.enums ≠ []) (hlevel : notice.level = .info)
      (houtput : notice.particular? "output" = some (.plain (file.outputName mode sourceRelative)))
      (hnew : ∀ info ∈ earlier, info.level = .info →
        info.particular? "output" ≠ some (.plain (file.outputName mode sourceRelative)))
  /-- The name of the output is taken: an output of that name was added before, in the same mode. -/
  | taken (henums : file.enums ≠ []) (hlevel : notice.level = .warn)
      (houtput : notice.particular? "output" = some (.plain (file.outputName mode sourceRelative)))
      (htaken : ∃ info ∈ earlier, info.level = .info ∧
        info.particular? "mode" = some (.plain mode.token) ∧
        info.particular? "output" = some (.plain (file.outputName mode sourceRelative)))

/-- **The notice that is due to a file in a mode**, after the given ones: it names both, and tells
what becomes of the file. -/
structure Notice.Reports (sourceRelative : Bool) (earlier : List Notice) (mode : Mode)
    (file : EnumSchema) (notice : Notice) : Prop where
  file_eq : notice.particular? "file" = some (.quoted file.name)
  mode_eq : notice.particular? "mode" = some (.plain mode.token)
  tells : notice.Tells sourceRelative earlier mode file

/-- **The notices that are due to pairs** of a mode and a file, one to each, after the given ones. -/
inductive Records (sourceRelative : Bool) :
    List Notice → List (Mode × EnumSchema) → List Notice → Prop where
  | nil {earlier : List Notice} : Records sourceRelative earlier [] []
  | cons {earlier notices : List Notice} {mode : Mode} {file : EnumSchema} {notice : Notice}
      {jobs : List (Mode × EnumSchema)}
      (hnotice : notice.Reports sourceRelative earlier mode file)
      (hnotices : Records sourceRelative (earlier ++ [notice]) jobs notices) :
      Records sourceRelative earlier ((mode, file) :: jobs) (notice :: notices)

/-- **The notices of a run that succeeds** with the given outputs. -/
structure RunLog (settings : Settings) (targets : List FileDescriptor)
    (outputs : List OutputFile) (notices : List Notice) : Prop where
  /-- Every mode and file has one notice of generation, in order. -/
  records : Records settings.sourceRelative []
    (settings.modes ×ˢ targets.map EnumSchema.ofDescriptor) (generationNotices notices)
  /-- The outputs that are added are the outputs of the run, in order. -/
  added_eq : ((generationNotices notices).filter (·.level = .info)).map (·.particular? "output") =
    outputs.map fun output => some (.plain output.name)
  /-- All files are walked, in order. -/
  walk_eq : walkNotices notices = targets.flatMap schemaNotices
  /-- No notice of the walk comes behind one of generation. -/
  walk_first : notices.Pairwise fun earlier later =>
    earlier.source = "enumwire_core::generator".toList →
      later.source ≠ "enumwire_core::schema".toList

variable {descriptors : List FileDescriptor} {names taken : List Text} {sourceRelative : Bool}
  {mode : Mode} {file : EnumSchema} {notice : Notice} {earlier : List Notice}

/-! ## Where notices come from -/

theorem source_of_mem_schemaNotices {file : FileDescriptor} (h : notice ∈ schemaNotices file) :
    notice.source = "enumwire_core::schema".toList := by
  obtain ⟨node, -, rfl⟩ := List.mem_map.mp h
  rfl

theorem source_of_mem_renderNotices (h : notice ∈ file.renderNotices mode) :
    notice.source = "enumwire_core::render::gql".toList := by
  cases mode with
  | xml => simp [EnumSchema.renderNotices] at h
  | json => simp [EnumSchema.renderNotices] at h
  | graphQL =>
    obtain ⟨enum, -, henum⟩ := List.mem_flatMap.mp h
    obtain ⟨value, -, rfl⟩ := List.mem_map.mp henum
    rfl

theorem source_notice (step : Step) :
    step.notice.source = "enumwire_core::generator".toList := by
  unfold Step.notice
  split <;> rfl

/-- The notices of the walk are its own. -/
theorem source_of_mem_walk {targets : List FileDescriptor}
    (h : notice ∈ targets.flatMap schemaNotices) :
    notice.source = "enumwire_core::schema".toList := by
  obtain ⟨target, -, htarget⟩ := List.mem_flatMap.mp h
  exact source_of_mem_schemaNotices htarget

/-- The notices of steps are not those of the walk. -/
theorem source_ne_of_mem_notices {taken : List Step} (h : notice ∈ taken.flatMap (·.notices)) :
    notice.source ≠ "enumwire_core::schema".toList := by
  obtain ⟨step, -, hstep⟩ := List.mem_flatMap.mp h
  rcases List.mem_append.mp hstep with hrender | hnotice
  · rw [source_of_mem_renderNotices hrender]
    decide
  · rw [List.mem_singleton.mp hnotice, source_notice]
    decide

/-- The walk reports nothing about generation. -/
theorem generationNotices_walk (targets : List FileDescriptor) :
    generationNotices (targets.flatMap schemaNotices) = [] := by
  rw [generationNotices, List.filter_eq_nil_iff]
  intro notice hnotice
  rw [source_of_mem_walk hnotice]
  decide

/-- **A step reports one thing about generation**: what becomes of its file. -/
theorem generationNotices_notices (taken : List Step) :
    generationNotices (taken.flatMap (·.notices)) = taken.map (·.notice) := by
  have hrender (step : Step) : (step.file.renderNotices step.mode).filter
      (·.source = "enumwire_core::generator".toList) = [] := by
    rw [List.filter_eq_nil_iff]
    intro notice hnotice
    rw [source_of_mem_renderNotices hnotice]
    decide
  have hnotice (step : Step) : [step.notice].filter
      (·.source = "enumwire_core::generator".toList) = [step.notice] := by
    rw [List.filter_eq_self]
    intro notice hnotice
    rw [List.mem_singleton.mp hnotice]
    exact decide_eq_true (source_notice step)
  have hstep (step : Step) : step.notices.filter
      (·.source = "enumwire_core::generator".toList) = [step.notice] := by
    rw [Step.notices, List.filter_append, hrender, List.nil_append, hnotice]
  rw [generationNotices, List.filter_flatMap]
  simp only [hstep]
  rw [← List.map_eq_flatMap]

/-! ## The steps of a run are recorded

A run remembers the names that are taken, where the record has the notices that say so. The two agree
at every step. That a name was taken in the same mode is not remembered; it follows from the name,
since outputs of different modes have different names. -/

/-- **The names that are taken are those of the notices** that outputs were added. -/
structure Remembers (sourceRelative : Bool) (taken : List Text) (earlier : List Notice) :
    Prop where
  /-- Each such notice names an output whose name is taken. -/
  exists_taken : ∀ info ∈ earlier, info.level = .info →
    ∃ name ∈ taken, info.particular? "output" = some (.plain name)
  /-- Each name that is taken is the output of some file in the mode of such a notice. -/
  exists_info : ∀ name ∈ taken, ∃ info ∈ earlier, ∃ (mode : Mode) (file : EnumSchema),
    info.level = .info ∧ info.particular? "mode" = some (.plain mode.token) ∧
      info.particular? "output" = some (.plain name) ∧ name = file.outputName mode sourceRelative

namespace Remembers

theorem nil : Remembers sourceRelative [] [] :=
  ⟨by simp, by simp⟩

/-- A notice that adds no output takes no name. -/
theorem concat (h : Remembers sourceRelative taken earlier) (hlevel : notice.level ≠ .info) :
    Remembers sourceRelative taken (earlier ++ [notice]) := by
  constructor
  · intro info hinfo hadded
    rcases List.mem_append.mp hinfo with hinfo | hinfo
    · exact h.exists_taken info hinfo hadded
    · rw [List.mem_singleton.mp hinfo] at hadded
      exact absurd hadded hlevel
  · intro name hname
    obtain ⟨info, hinfo, hparticular⟩ := h.exists_info name hname
    exact ⟨info, List.mem_append_left _ hinfo, hparticular⟩

/-- A notice that adds an output takes its name. -/
theorem concat_added (h : Remembers sourceRelative taken earlier) (hlevel : notice.level = .info)
    (hmode : notice.particular? "mode" = some (.plain mode.token))
    (houtput : notice.particular? "output" = some (.plain (file.outputName mode sourceRelative))) :
    Remembers sourceRelative (file.outputName mode sourceRelative :: taken)
      (earlier ++ [notice]) := by
  constructor
  · intro info hinfo hadded
    rcases List.mem_append.mp hinfo with hinfo | hinfo
    · obtain ⟨name, hname, hparticular⟩ := h.exists_taken info hinfo hadded
      exact ⟨name, List.mem_cons_of_mem _ hname, hparticular⟩
    · rw [List.mem_singleton.mp hinfo]
      exact ⟨_, List.mem_cons_self, houtput⟩
  · intro name hname
    rcases List.mem_cons.mp hname with rfl | hname
    · exact ⟨notice, by simp, mode, file, hlevel, hmode, houtput, rfl⟩
    · obtain ⟨info, hinfo, hparticular⟩ := h.exists_info name hname
      exact ⟨info, List.mem_append_left _ hinfo, hparticular⟩

/-- A name that is not taken has not been reported. -/
theorem particular?_ne (h : Remembers sourceRelative taken earlier) {name : Text}
    (hname : name ∉ taken) :
    ∀ info ∈ earlier, info.level = .info → info.particular? "output" ≠ some (.plain name) := by
  intro info hinfo hadded hparticular
  obtain ⟨name', htaken, hparticular'⟩ := h.exists_taken info hinfo hadded
  rw [hparticular] at hparticular'
  obtain rfl : name = name' := Particular.plain.inj (Option.some.inj hparticular')
  exact hname htaken

/-- **A name that is taken was reported in the same mode.** -/
theorem exists_info_of_mem (h : Remembers sourceRelative taken earlier)
    (hname : file.outputName mode sourceRelative ∈ taken) :
    ∃ info ∈ earlier, info.level = .info ∧ info.particular? "mode" = some (.plain mode.token) ∧
      info.particular? "output" = some (.plain (file.outputName mode sourceRelative)) := by
  obtain ⟨info, hinfo, mode', file', hlevel, hmode, houtput, heq⟩ := h.exists_info _ hname
  obtain rfl : mode = mode' := EnumSchema.mode_eq_of_outputName_eq heq
  exact ⟨info, hinfo, hlevel, hmode, houtput⟩

end Remembers

/-- A file needs no code if it declares no enum. -/
theorem EnumSchema.render?_eq_none_iff (file : EnumSchema) :
    file.render? mode = none ↔ file.enums = [] := by
  rw [render?, hasEnums]
  cases file.enums <;> simp

/-- **What becomes of a file in a mode**, in three cases. -/
theorem verdict_cases (sourceRelative : Bool) (taken : List Text) (mode : Mode)
    (file : EnumSchema) :
    (file.enums = [] ∧ verdict sourceRelative taken mode file = .nothing) ∨
      (file.enums ≠ [] ∧ file.outputName mode sourceRelative ∉ taken ∧ ∃ content,
        verdict sourceRelative taken mode file =
          .written ⟨file.outputName mode sourceRelative, content⟩) ∨
      (file.enums ≠ [] ∧ file.outputName mode sourceRelative ∈ taken ∧
        verdict sourceRelative taken mode file =
          .taken (file.outputName mode sourceRelative)) := by
  unfold verdict
  cases hrender : file.render? mode with
  | none => exact .inl ⟨file.render?_eq_none_iff.mp hrender, rfl⟩
  | some content =>
    have henums : file.enums ≠ [] := by
      intro henums
      rw [file.render?_eq_none_iff.mpr henums] at hrender
      cases hrender
    by_cases hname : file.outputName mode sourceRelative ∈ taken
    · exact .inr (.inr ⟨henums, hname, if_pos (by simpa using hname)⟩)
    · exact .inr (.inl ⟨henums, hname, content, if_neg (by simpa using hname)⟩)

/-- **The steps of a run are recorded**, each by its notice. -/
theorem records_steps (jobs : List (Mode × EnumSchema))
    (h : Remembers sourceRelative taken earlier) :
    Records sourceRelative earlier jobs
      ((steps sourceRelative taken jobs).map (·.notice)) := by
  -- a step changes both what is remembered and what was recorded before the next one
  induction jobs generalizing taken earlier with
  | nil => exact .nil
  | cons job jobs ih =>
    obtain ⟨mode, file⟩ := job
    rw [steps, List.map_cons]
    rcases verdict_cases sourceRelative taken mode file with
      ⟨henums, hverdict⟩ | ⟨henums, hname, content, hverdict⟩ | ⟨henums, hname, hverdict⟩
    · rw [hverdict]
      refine .cons ⟨rfl, rfl, .nothing henums rfl rfl⟩ (ih (h.concat ?_))
      simp [Step.notice, Notice.level]
    · rw [hverdict]
      exact .cons ⟨rfl, rfl, .added henums rfl rfl (h.particular?_ne hname)⟩
        (ih (h.concat_added rfl rfl rfl))
    · rw [hverdict]
      refine .cons ⟨rfl, rfl, .taken henums rfl rfl (h.exists_info_of_mem hname)⟩
        (ih (h.concat ?_))
      simp [Step.notice, Notice.level]

/-- **The outputs that are reported as added** are those that the steps write. -/
theorem added_notices (taken : List Step) :
    ((taken.map (·.notice)).filter (·.level = .info)).map (·.particular? "output") =
      (outputsOf taken).map fun output => some (.plain output.name) := by
  induction taken with
  | nil => rfl
  | cons step taken ih =>
    obtain ⟨mode, file, verdict⟩ := step
    cases verdict with
    | nothing => exact ih
    | taken output => exact ih
    | written output => exact congrArg (some (.plain output.name) :: ·) ih

/-! ## Whole runs -/

/-- Files that are described are walked in order, up to the first that is not. -/
theorem lookedUp_append {targets : List FileDescriptor} {before : List Text}
    (h : List.Forall₂ (Describes descriptors) before targets) (names : List Text) :
    lookedUp descriptors (before ++ names) = targets ++ lookedUp descriptors names := by
  induction h with
  | nil => rfl
  | cons hname _ ih =>
    rw [List.cons_append, lookedUp, describedBy?_eq_some_iff.mpr hname, List.cons_append, ← ih]

/-- **The notices of a run whose files are described** account for its outputs. -/
theorem runLog_steps (settings : Settings) (targets : List FileDescriptor) :
    let run := steps settings.sourceRelative []
      (jobs settings.modes (targets.map EnumSchema.ofDescriptor))
    RunLog settings targets (outputsOf run)
      (targets.flatMap schemaNotices ++ run.flatMap (·.notices)) := by
  intro run
  have hgeneration : generationNotices
      (targets.flatMap schemaNotices ++ run.flatMap (·.notices)) = run.map (·.notice) := by
    rw [generationNotices, List.filter_append, ← generationNotices, generationNotices_walk,
      ← generationNotices, generationNotices_notices, List.nil_append]
  refine ⟨?_, ?_, ?_, ?_⟩
  · rw [hgeneration]
    exact records_steps _ .nil
  · rw [hgeneration]
    exact added_notices run
  · have hwalk : (targets.flatMap schemaNotices).filter
        (·.source = "enumwire_core::schema".toList) = targets.flatMap schemaNotices :=
      List.filter_eq_self.mpr fun _ hnotice => decide_eq_true (source_of_mem_walk hnotice)
    have hsteps : (run.flatMap (·.notices)).filter
        (·.source = "enumwire_core::schema".toList) = [] :=
      List.filter_eq_nil_iff.mpr fun _ hnotice hsource =>
        source_ne_of_mem_notices hnotice (of_decide_eq_true hsource)
    rw [walkNotices, List.filter_append, hwalk, hsteps, List.append_nil]
  · rw [List.pairwise_append]
    refine ⟨?_, ?_, ?_⟩
    · refine List.pairwise_of_forall_mem_list fun earlier hearlier _ _ hsource => ?_
      rw [source_of_mem_walk hearlier] at hsource
      exact absurd hsource (by decide)
    · exact List.pairwise_of_forall_mem_list fun _ _ _ hlater _ => source_ne_of_mem_notices hlater
    · exact fun _ _ _ hlater _ => source_ne_of_mem_notices hlater

/-- **The notices of a run.** If every file to generate has a description, the run succeeds, and its
notices account for its outputs. Else it fails with the first file that has none; its notices are
those of the walk over the files before that one, and none of them is about generation. -/
theorem generateWith_log (descriptors : List FileDescriptor) (names : List Text)
    (settings : Settings) :
    (∃ targets outputs, List.Forall₂ (Describes descriptors) names targets ∧
      (generateWith descriptors names settings).result = .ok outputs ∧
      RunLog settings targets outputs (generateWith descriptors names settings).notices) ∨
    ∃ before name after targets, names = before ++ name :: after ∧
      List.Forall₂ (Describes descriptors) before targets ∧
      (¬∃ file ∈ descriptors, file.name = name) ∧
      (generateWith descriptors names settings).result = .error (.unknownFile name) ∧
      (generateWith descriptors names settings).notices = targets.flatMap schemaNotices ∧
      generationNotices (generateWith descriptors names settings).notices = [] := by
  rcases described_or_exists_first descriptors names with
    hnames | ⟨before, name, after, rfl, hbefore, hname⟩
  · obtain ⟨targets, hlookUp, htargets⟩ := lookUp_eq_ok hnames
    have hwalked : lookedUp descriptors names = targets := by
      simpa [lookedUp] using lookedUp_append htargets []
    refine .inl ⟨targets, outputsOf (steps settings.sourceRelative []
      (jobs settings.modes (targets.map EnumSchema.ofDescriptor))), htargets, ?_, ?_⟩
    · rw [generateWith, hlookUp]
      rfl
    · rw [generateWith, hlookUp, hwalked]
      exact runLog_steps settings targets
  · obtain ⟨targets, -, htargets⟩ := lookUp_eq_ok hbefore
    have hwalked : lookedUp descriptors (before ++ name :: after) = targets := by
      rw [lookedUp_append htargets, lookedUp, describedBy?_eq_none_iff.mpr hname, List.append_nil]
    have hrun : generateWith descriptors (before ++ name :: after) settings =
        ⟨.error (.unknownFile name), targets.flatMap schemaNotices⟩ := by
      rw [generateWith, lookUp_eq_error hbefore hname, hwalked]
    rw [hrun]
    exact .inr ⟨before, name, after, targets, rfl, htargets, hname, rfl, rfl,
      generationNotices_walk targets⟩

end EnumCodegen
