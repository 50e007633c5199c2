import EnumCodegen.Path
import EnumCodegen.Proofs.Text.Joined

/-!
# Base names and extensions

A path is its base name behind a front, which is empty or ends in a slash. What is put behind a path,
or taken off its end, without touching a slash is put behind its base name or taken off that. So it
does not matter whether the extension goes before or after the front.

## Main definitions

* `Path.IsFront`: what can stand in front of a base name

## Main results

* `Path.exists_front`: the front and the base name of a path
* `Path.baseName_append`, `Path.baseName_append_ending`: the base name of a path put together
* `Path.withoutExtension_append`: extensions are taken off the base name
-/

namespace EnumCodegen.Path

/-- **What can stand in front of a base name**: nothing, or what ends in a slash. -/
def IsFront (front : Text) : Prop :=
  front = [] ∨ ∃ directory, front = directory ++ ['/']

variable {front base ending : Text}

/-! ## Base names -/

theorem slash_notMem_baseName (path : Text) : '/' ∉ baseName path := by
  obtain ⟨pieces, final, hsplit⟩ := Text.exists_splitOn_concat '/' path
  have hfinal : final ∈ path.splitOn '/' := by simp [hsplit]
  rw [baseName, segments, hsplit, List.getLastD_concat]
  exact Text.notMem_of_mem_splitOn hfinal

/-- **A path is its base name behind a front.** -/
theorem exists_front (path : Text) : ∃ front, IsFront front ∧ path = front ++ baseName path := by
  obtain ⟨pieces, final, hsplit⟩ := Text.exists_splitOn_concat '/' path
  refine ⟨pieces.flatMap (· ++ ['/']), ?_, ?_⟩
  · rcases List.eq_nil_or_concat' pieces with rfl | ⟨pieces, piece, rfl⟩
    · exact .inl rfl
    · refine .inr ⟨pieces.flatMap (· ++ ['/']) ++ piece, ?_⟩
      rw [List.flatMap_append, List.flatMap_singleton, List.append_assoc]
  · have hjoined : ['/'].intercalate (path.splitOn '/') = path := List.intercalate_splitOn '/'
    rw [baseName, segments, hsplit, List.getLastD_concat, ← Text.intercalate_concat, ← hsplit,
      hjoined]

/-- **What has no slash is the base name** of what it ends behind a front. -/
theorem baseName_append (hfront : IsFront front) (hbase : '/' ∉ base) :
    baseName (front ++ base) = base := by
  rcases hfront with rfl | ⟨directory, rfl⟩
  · rw [List.nil_append, baseName, segments, List.splitOn_eq_singleton hbase]
    rfl
  · rw [List.append_assoc, List.singleton_append, baseName, segments,
      List.splitOn_append_cons_self, List.splitOn_eq_singleton hbase, List.getLastD_concat]

/-- An end without slashes goes to the base name. -/
theorem baseName_append_ending (hending : '/' ∉ ending) (path : Text) :
    baseName (path ++ ending) = baseName path ++ ending := by
  obtain ⟨front, hfront, hpath⟩ := exists_front path
  have hbase : '/' ∉ baseName path ++ ending := by
    simp [slash_notMem_baseName path, hending]
  conv_lhs => rw [hpath, List.append_assoc]
  exact baseName_append hfront hbase

/-! ## Extensions -/

theorem slash_notMem_of_mem_schemaExtensions :
    ∀ ext ∈ schemaExtensions, '/' ∉ ext := by
  decide

/-- What ends a path and has no slash ends its base name. -/
theorem isSuffixOf?_append (hfront : IsFront front) (hending : '/' ∉ ending) (base : Text) :
    ending.isSuffixOf? (front ++ base) = (ending.isSuffixOf? base).map (front ++ ·) := by
  apply Option.ext
  intro rest
  simp only [Option.map_eq_some_iff, List.isSuffixOf?_eq_some_iff_append_eq]
  constructor
  · intro h
    rcases hfront with rfl | ⟨directory, rfl⟩
    · exact ⟨rest, h, rfl⟩
    · rw [List.append_assoc, List.singleton_append] at h
      -- an end that reached over the slash would hold it
      rcases List.append_eq_append_iff.mp h with ⟨reach, -, rfl⟩ | ⟨reach, rfl, hreach⟩
      · exact absurd (by simp) hending
      · cases reach with
        | nil =>
          rw [List.nil_append] at hreach
          exact absurd (hreach ▸ List.mem_cons_self) hending
        | cons c back =>
          obtain ⟨rfl, hback⟩ := List.cons_eq_cons.mp hreach
          exact ⟨back, hback.symm, by simp⟩
  · rintro ⟨back, rfl, rfl⟩
    exact List.append_assoc _ _ _

/-- **An extension is taken off the base name.** -/
theorem withoutExtension_append (hfront : IsFront front) (base : Text) :
    withoutExtension (front ++ base) = front ++ withoutExtension base := by
  have hfound : ∀ extensions : List Text, (∀ ext ∈ extensions, '/' ∉ ext) →
      extensions.findSome? (·.isSuffixOf? (front ++ base)) =
        (extensions.findSome? (·.isSuffixOf? base)).map (front ++ ·) := by
    intro extensions
    induction extensions with
    | nil => exact fun _ => rfl
    | cons ext extensions ih =>
      intro h
      obtain ⟨hext, hextensions⟩ := List.forall_mem_cons.mp h
      rw [List.findSome?_cons, List.findSome?_cons, isSuffixOf?_append hfront hext]
      cases ext.isSuffixOf? base with
      | none => exact ih hextensions
      | some rest => rfl
  rw [withoutExtension, hfound _ slash_notMem_of_mem_schemaExtensions, withoutExtension,
    Option.getD_map]

/-- Taking off an extension leaves the front of a path. -/
theorem withoutExtension_isPrefix (path : Text) : withoutExtension path <+: path := by
  unfold withoutExtension
  cases hfound : schemaExtensions.findSome? (·.isSuffixOf? path) with
  | none => exact List.prefix_refl path
  | some rest =>
    obtain ⟨ext, -, hrest⟩ := List.exists_of_findSome?_eq_some hfound
    exact ⟨ext, List.isSuffixOf?_eq_some_iff_append_eq.mp hrest⟩

theorem slash_notMem_stem (path : Text) : '/' ∉ stem path := by
  intro hslash
  exact slash_notMem_baseName path ((withoutExtension_isPrefix _).subset hslash)

end EnumCodegen.Path
