import EnumCodegen.Proofs.Generation.Run
import Mathlib.Logic.Relation

/-!
# What the result of a run depends on

A run sees of its descriptions only which one counts for each file to generate. So it makes no
difference to add a description that counts for none of them, be it of another file or overridden by
a later one, or to reorder descriptions of different files. A file that is listed again asks in every
mode for an output that it asked for before, which takes nothing from the files behind it.

## Main definitions

* `Immaterial`: the changes that make no difference

## Main results

* `describedBy?_eq_getLast?`: the description that counts for a file, among all with its name
* `generateWith_congr`: a run depends on the descriptions that count for its files
* `firstOutputs_append_cons`: an output whose name stands before it is not missed
* `generateWith_result_eq_of_immaterial`: immaterial changes leave the result of a run
-/

namespace EnumCodegen

variable {descriptors descriptors' before after : List FileDescriptor} {file : FileDescriptor}
  {name : Text} {names : List Text}

/-- **An immaterial change** of the descriptions and the files to generate. -/
inductive Immaterial :
    List FileDescriptor × List Text → List FileDescriptor × List Text → Prop where
  /-- A description is added whose file is not to be generated. -/
  | untargeted {before after : List FileDescriptor} {file : FileDescriptor} {names : List Text}
      (hfile : file.name ∉ names) :
      Immaterial (before ++ after, names) (before ++ file :: after, names)
  /-- A description is added before another one of the same file. -/
  | overridden {before after : List FileDescriptor} {file : FileDescriptor} {names : List Text}
      (hlater : ∃ later ∈ after, later.name = file.name) :
      Immaterial (before ++ after, names) (before ++ file :: after, names)
  /-- Descriptions are reordered, those of one file staying in order. -/
  | reordered {descriptors descriptors' : List FileDescriptor} {names : List Text}
      (horder : ∀ name : Text,
        descriptors.filter (·.name = name) = descriptors'.filter (·.name = name)) :
      Immaterial (descriptors, names) (descriptors', names)
  /-- A file to generate is listed once more. -/
  | repeated {descriptors : List FileDescriptor} {before after : List Text} {name : Text}
      (hname : name ∈ before) :
      Immaterial (descriptors, before ++ after) (descriptors, before ++ name :: after)

/-- Two neighbours that describe different files can be swapped. -/
theorem Immaterial.swapped {other : FileDescriptor} (hne : file.name ≠ other.name)
    (before after : List FileDescriptor) (names : List Text) :
    Immaterial (before ++ file :: other :: after, names)
      (before ++ other :: file :: after, names) := by
  apply Immaterial.reordered
  intro name
  have hpair : [file, other].filter (·.name = name) = [other, file].filter (·.name = name) := by
    by_cases hfile : file.name = name
    · have hother : other.name ≠ name := fun h => hne (hfile.trans h.symm)
      simp [hfile, hother]
    · by_cases hother : other.name = name <;> simp [hfile, hother]
  rw [List.filter_append, List.filter_append]
  congr 1
  exact (List.filter_append [file, other] after).trans
    (hpair ▸ (List.filter_append [other, file] after).symm)

/-! ## The description that counts -/

/-- **The description that counts for a file** is the last of those with its name. -/
theorem describedBy?_eq_getLast? (descriptors : List FileDescriptor) (name : Text) :
    describedBy? descriptors name = (descriptors.filter (·.name = name)).getLast? := by
  rw [describedBy?, List.findRev?_eq_find?_reverse, ← List.head?_filter, List.filter_reverse,
    List.head?_reverse]

theorem describedBy?_append_cons_of_ne (hfile : file.name ≠ name) :
    describedBy? (before ++ file :: after) name = describedBy? (before ++ after) name := by
  rw [describedBy?_eq_getLast?, describedBy?_eq_getLast?, List.filter_append, List.filter_append,
    List.filter_cons_of_neg (by simpa using hfile)]

theorem describedBy?_append_cons_of_later (hlater : ∃ later ∈ after, later.name = file.name)
    (name : Text) :
    describedBy? (before ++ file :: after) name = describedBy? (before ++ after) name := by
  by_cases hfile : file.name = name
  · -- what comes behind the description has its name, so the last of that name is there
    obtain ⟨later, hmem, hname⟩ := hlater
    have hback : after.filter (·.name = name) ≠ [] :=
      List.ne_nil_of_mem (List.mem_filter.mpr ⟨hmem, decide_eq_true (hname.trans hfile)⟩)
    rw [describedBy?_eq_getLast?, describedBy?_eq_getLast?, List.filter_append, List.filter_append,
      List.filter_cons_of_pos (by simpa using hfile), List.append_cons,
      List.getLast?_append_of_ne_nil _ hback, List.getLast?_append_of_ne_nil _ hback]
  · exact describedBy?_append_cons_of_ne hfile

/-- **A run depends on the descriptions that count for its files**, and on no others. -/
theorem generateWith_congr
    (h : ∀ name ∈ names, describedBy? descriptors name = describedBy? descriptors' name)
    (settings : Settings) :
    generateWith descriptors names settings = generateWith descriptors' names settings := by
  have hlookUp : lookUp descriptors names = lookUp descriptors' names ∧
      lookedUp descriptors names = lookedUp descriptors' names := by
    induction names with
    | nil => exact ⟨rfl, rfl⟩
    | cons name names ih =>
      obtain ⟨hname, hnames⟩ := List.forall_mem_cons.mp h
      obtain ⟨hlookUp, hlookedUp⟩ := ih hnames
      constructor
      · rw [lookUp_cons, lookUp_cons, hlookUp, lookUpOne, lookUpOne, hname]
      · rw [lookedUp, lookedUp, hname, hlookedUp]
  rw [generateWith, generateWith, hlookUp.1, hlookUp.2]

/-! ## Files listed again -/

/-- **An output whose name stands before it is not missed.** -/
theorem firstOutputs_append_cons {front back : List OutputFile} {output : OutputFile}
    (h : output.name ∈ front.map (·.name)) :
    firstOutputs (front ++ output :: back) = firstOutputs (front ++ back) := by
  induction back using List.reverseRecOn with
  | nil => rw [firstOutputs_concat, if_pos h, List.append_nil, List.append_nil]
  | append_singleton back last ih =>
    have hlast : last.name ∈ (front ++ output :: back).map (·.name) ↔
        last.name ∈ (front ++ back).map (·.name) := by
      rw [List.map_append, List.map_append, List.map_cons, List.mem_append, List.mem_append,
        List.mem_cons]
      constructor
      · rintro (hfront | heq | hback)
        · exact .inl hfront
        · exact .inl (heq ▸ h)
        · exact .inr hback
      · rintro (hfront | hback)
        · exact .inl hfront
        · exact .inr (.inr hback)
    rw [← List.cons_append, ← List.append_assoc, ← List.append_assoc, firstOutputs_concat,
      firstOutputs_concat, ih]
    simp only [hlast]

/-- A file that is found is among those found. -/
theorem mem_of_lookUp {targets : List FileDescriptor} (h : lookUp descriptors names = .ok targets)
    (hname : name ∈ names) : ∃ target ∈ targets, lookUpOne descriptors name = .ok target := by
  induction names generalizing targets with
  | nil => simp at hname
  | cons first names ih =>
    rw [lookUp_cons] at h
    cases hfirst : lookUpOne descriptors first with
    | error cause =>
      rw [hfirst] at h
      cases h
    | ok target =>
      cases hrest : lookUp descriptors names with
      | error cause =>
        rw [hfirst, hrest] at h
        cases h
      | ok rest =>
        rw [hfirst, hrest] at h
        obtain rfl : target :: rest = targets := Except.ok.inj h
        rcases List.mem_cons.mp hname with rfl | hname
        · exact ⟨target, List.mem_cons_self, hfirst⟩
        · obtain ⟨found, hfound, hone⟩ := ih hrest hname
          exact ⟨found, List.mem_cons_of_mem target hfound, hone⟩

theorem generateWith_result_of_error {cause : GenerateError}
    (h : lookUp descriptors names = .error cause) (settings : Settings) :
    (generateWith descriptors names settings).result = .error cause := by
  rw [generateWith, h]

/-- **A file that is listed again** adds nothing to the result of a run. -/
theorem generateWith_result_repeated {before after : List Text} (hname : name ∈ before)
    (descriptors : List FileDescriptor) (settings : Settings) :
    (generateWith descriptors (before ++ after) settings).result =
      (generateWith descriptors (before ++ name :: after) settings).result := by
  cases hbefore : lookUp descriptors before with
  | error cause =>
    have herror (names : List Text) : lookUp descriptors (before ++ names) = .error cause := by
      rw [lookUp_append, hbefore]
      rfl
    rw [generateWith_result_of_error (herror _), generateWith_result_of_error (herror _)]
  | ok front =>
    obtain ⟨target, htarget, hone⟩ := mem_of_lookUp hbefore hname
    cases hafter : lookUp descriptors after with
    | error cause =>
      have hshort : lookUp descriptors (before ++ after) = .error cause := by
        rw [lookUp_append, hbefore, hafter]
        rfl
      have hlong : lookUp descriptors (before ++ name :: after) = .error cause := by
        rw [lookUp_append, lookUp_cons, hbefore, hone, hafter]
        rfl
      rw [generateWith_result_of_error hshort, generateWith_result_of_error hlong]
    | ok back =>
      have hshort : lookUp descriptors (before ++ after) = .ok (front ++ back) := by
        rw [lookUp_append, hbefore, hafter]
        rfl
      have hlong : lookUp descriptors (before ++ name :: after) =
          .ok (front ++ target :: back) := by
        rw [lookUp_append, lookUp_cons, hbefore, hone, hafter]
        rfl
      rw [generateWith_result hshort, generateWith_result hlong]
      congr 2
      funext mode
      simp only [List.map_append, List.map_cons, List.filterMap_append, List.filterMap_cons]
      -- in every mode the file asks for nothing, or for an output it asked for before
      cases houtput : (EnumSchema.ofDescriptor target).output? mode settings.sourceRelative with
      | none => rfl
      | some output =>
        refine (firstOutputs_append_cons (List.mem_map_of_mem ?_)).symm
        exact List.mem_filterMap.mpr ⟨_, List.mem_map_of_mem htarget, houtput⟩

/-! ## Immaterial changes -/

/-- One immaterial change leaves the result of a run. -/
theorem Immaterial.result_eq {task task' : List FileDescriptor × List Text}
    (h : Immaterial task task') (settings : Settings) :
    (generateWith task.1 task.2 settings).result =
      (generateWith task'.1 task'.2 settings).result := by
  cases h with
  | untargeted hfile =>
    refine congrArg Outcome.result (generateWith_congr ?_ settings)
    rintro name hname
    exact (describedBy?_append_cons_of_ne (by rintro rfl; exact hfile hname)).symm
  | overridden hlater =>
    refine congrArg Outcome.result (generateWith_congr ?_ settings)
    intro name _
    exact (describedBy?_append_cons_of_later hlater name).symm
  | reordered horder =>
    refine congrArg Outcome.result (generateWith_congr ?_ settings)
    intro name _
    rw [describedBy?_eq_getLast?, describedBy?_eq_getLast?, horder name]
  | repeated hname => exact generateWith_result_repeated hname _ settings

/-- **The result of a run is left by immaterial changes**, in either direction and any number of
them: adding or removing a description of a file that is not to be generated, or one that is
overridden by a later description of the same file; reordering descriptions of different files; and
listing again, or no longer, a file to generate that is listed before. -/
theorem generateWith_result_eq_of_immaterial {names' : List Text}
    (h : Relation.EqvGen Immaterial (descriptors, names) (descriptors', names'))
    (settings : Settings) :
    (generateWith descriptors names settings).result =
      (generateWith descriptors' names' settings).result := by
  have hequiv : Equivalence fun task task' : List FileDescriptor × List Text =>
      (generateWith task.1 task.2 settings).result =
        (generateWith task'.1 task'.2 settings).result :=
    eq_equivalence.comap fun task : List FileDescriptor × List Text =>
      (generateWith task.1 task.2 settings).result
  exact hequiv.eqvGen_iff.mp
    (Relation.EqvGen.mono (fun _ _ hchange => hchange.result_eq settings) _ _ h)

/-- A file that declares one enum. -/
def kindFile (name : Text) : FileDescriptor where
  name? := name
  enums := [{ name? := "Kind".toList }]

/-- One change of each kind: an empty description of the first file is overridden, a third file is not
to be generated, the two files to generate are swapped, and the first is listed again. -/
theorem generateWith_result_eq_of_immaterial_kindFile :
    (generateWith [kindFile "a.proto", kindFile "b.proto"] ["a.proto", "b.proto"]
        (Settings.ofModes [.json, .graphQL] true)).result =
      (generateWith
        [{ name? := "a.proto".toList }, kindFile "b.proto", kindFile "a.proto", kindFile "c.proto"]
        ["a.proto", "b.proto", "a.proto"] (Settings.ofModes [.json, .graphQL] true)).result ∧
    (generateWith [kindFile "a.proto", kindFile "b.proto"] ["a.proto", "b.proto"]
        (Settings.ofModes [.json, .graphQL] true)).result.map (List.map (·.name)) =
      .ok ["a.enums.json.rs".toList, "b.enums.json.rs".toList, "a.enums.gql.rs".toList,
        "b.enums.gql.rs".toList] := by
  refine ⟨generateWith_result_eq_of_immaterial ?_ _, rfl⟩
  have hoverridden := @Immaterial.overridden [] [kindFile "a.proto", kindFile "b.proto"]
    { name? := "a.proto".toList } ["a.proto", "b.proto"] (by decide)
  have huntargeted := @Immaterial.untargeted
    [{ name? := "a.proto".toList }, kindFile "a.proto", kindFile "b.proto"] []
    (kindFile "c.proto") ["a.proto", "b.proto"] (by decide)
  have hswapped := @Immaterial.swapped (kindFile "a.proto") (kindFile "b.proto") (by decide)
    [{ name? := "a.proto".toList }] [kindFile "c.proto"] ["a.proto", "b.proto"]
  have hrepeated := @Immaterial.repeated
    [{ name? := "a.proto".toList }, kindFile "b.proto", kindFile "a.proto", kindFile "c.proto"]
    ["a.proto", "b.proto"] [] "a.proto" (by decide)
  exact .trans _ _ _ (.rel _ _ hoverridden) (.trans _ _ _ (.rel _ _ huntargeted)
    (.trans _ _ _ (.rel _ _ hswapped) (.rel _ _ hrepeated)))

end EnumCodegen
