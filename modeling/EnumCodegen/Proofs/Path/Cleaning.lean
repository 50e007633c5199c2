import EnumCodegen.Path
import EnumCodegen.Proofs.Text.Joined
import Mathlib.Data.List.TakeDrop

/-!
# Cleaned paths are canonical

A canonical path goes up a number of directories, or starts at the root, and then down by names.
Where it leads can be read off its parts, and what leads to the same directory from every base has
the same parts. Cleaning takes every path to the canonical path that leads where it leads, so two
paths are cleaned to one text exactly when they are alike in this sense.

## Main definitions

* `Path.IsName`: the segments by which a path goes down
* `Path.Canonical`: a canonical path, by its parts
* `Path.Canonical.text`: how it is written
* `Path.Canonical.lead`: where it leads from a base directory

## Main results

* `Path.Canonical.exists_step`, `Path.exists_canonical`: cleaning keeps to canonical paths, segment
  by segment, and leads where the path does
* `Path.Canonical.resolve_text`: a written canonical path leads where its parts say
* `Path.Canonical.eq_of_lead_eq`: where it leads determines a canonical path
* `Path.clean_canonical`: what cleaning does
-/

namespace EnumCodegen.Path

/-- **The name of a directory or a file**: a segment that is not empty and stands neither for the
directory itself nor for the one above it. -/
structure IsName (segment : Text) : Prop where
  ne_nil : segment ≠ []
  ne_here : segment ≠ ['.']
  ne_up : segment ≠ ['.', '.']
  slash_notMem : '/' ∉ segment

/-- **A canonical path**: it starts at the root or goes up a number of directories, and then goes
down by names. -/
@[ext] structure Canonical where
  rooted : Bool
  ups : Nat
  downs : List Text
  ups_eq_zero : rooted = true → ups = 0
  isName : ∀ name ∈ downs, IsName name

namespace Canonical

/-- The segments of a canonical path, outermost first. -/
def segments (path : Canonical) : List Text :=
  List.replicate path.ups ['.', '.'] ++ path.downs

/-- **The text of a canonical path**: its segments between single slashes, behind another one if it
is rooted. -/
def text (path : Canonical) : Text :=
  (if path.rooted then ['/'] else []) ++ ['/'].intercalate path.segments

/-- **Where a canonical path leads** from a base directory, innermost segment first. -/
def lead (path : Canonical) (base : List Text) : List Text :=
  path.downs.reverse ++ (if path.rooted then [] else base).drop path.ups

end Canonical

variable {path : Canonical} {segment : Text} {base : List Text}

/-! ## Cleaning keeps to canonical paths

What a path is cleaned to is built up segment by segment, and so is the directory it leads to. The
segments kept so far are those of a canonical path at every step, and the step of cleaning is the
step of resolution on the directory to which that path leads, whatever the base. -/

theorem cleanStep_idle (h : segment = [] ∨ segment = ['.']) (rooted : Bool) (kept : List Text) :
    cleanStep rooted kept segment = kept := by
  unfold cleanStep
  rw [if_pos h]

theorem resolveStep_idle (h : segment = [] ∨ segment = ['.']) (directory : List Text) :
    resolveStep directory segment = directory := by
  rw [resolveStep, if_pos h]

theorem resolveStep_up (directory : List Text) :
    resolveStep directory ['.', '.'] = directory.tail := rfl

theorem cleanStep_name (h : IsName segment) (rooted : Bool) (kept : List Text) :
    cleanStep rooted kept segment = segment :: kept := by
  unfold cleanStep
  rw [if_neg (not_or.mpr ⟨h.ne_nil, h.ne_here⟩), if_neg h.ne_up]

theorem resolveStep_name (h : IsName segment) (directory : List Text) :
    resolveStep directory segment = segment :: directory := by
  rw [resolveStep, if_neg (not_or.mpr ⟨h.ne_nil, h.ne_here⟩), if_neg h.ne_up]

/-- A segment that goes up takes a name along. -/
theorem cleanStep_up_name {name : Text} (h : IsName name) (rooted : Bool) (kept : List Text) :
    cleanStep rooted (name :: kept) ['.', '.'] = kept := by
  unfold cleanStep
  rw [if_neg (by decide), if_pos rfl]
  exact if_neg h.ne_up

/-- A segment that goes up stays behind others of its kind. -/
theorem cleanStep_up_replicate (ups : Nat) :
    cleanStep false (List.replicate ups ['.', '.']) ['.', '.'] =
      List.replicate (ups + 1) ['.', '.'] := by
  cases ups <;> rfl

/-- **Every step of cleaning leads from a canonical path to a canonical path**, and goes where the
segment leads. -/
theorem Canonical.exists_step (path : Canonical) (hsegment : '/' ∉ segment) :
    ∃ next : Canonical, next.rooted = path.rooted ∧
      next.segments.reverse = cleanStep path.rooted path.segments.reverse segment ∧
      ∀ base, next.lead base = resolveStep (path.lead base) segment := by
  obtain ⟨rooted, ups, downs, hups, hdowns⟩ := path
  by_cases hidle : segment = [] ∨ segment = ['.']
  · refine ⟨⟨rooted, ups, downs, hups, hdowns⟩, rfl, (cleanStep_idle hidle _ _).symm, ?_⟩
    intro base
    exact (resolveStep_idle hidle _).symm
  · by_cases hup : segment = ['.', '.']
    · subst hup
      -- one goes up from the last name, if there is one, else further than before
      rcases List.eq_nil_or_concat' downs with rfl | ⟨front, last, rfl⟩
      · cases rooted with
        | true =>
          obtain rfl : ups = 0 := hups rfl
          exact ⟨⟨true, 0, [], hups, hdowns⟩, rfl, rfl, fun base => rfl⟩
        | false =>
          refine ⟨⟨false, ups + 1, [], by simp, by simp⟩, rfl, ?_, ?_⟩
          · simp only [segments, List.append_nil, List.reverse_replicate, cleanStep_up_replicate]
          · intro base
            simp only [lead, List.reverse_nil, List.nil_append, Bool.false_eq_true, if_false,
              resolveStep_up, List.tail_drop]
      · have hlast : IsName last := hdowns last (by simp)
        refine ⟨⟨rooted, ups, front, hups, fun name hname => hdowns name (by simp [hname])⟩, rfl,
          ?_, ?_⟩
        · simp only [segments, List.reverse_append, List.reverse_singleton, List.cons_append,
            List.nil_append, cleanStep_up_name hlast]
        · intro base
          simp only [lead, List.reverse_append, List.reverse_singleton, List.cons_append,
            List.nil_append, resolveStep_up, List.tail_cons]
    · have hname : IsName segment :=
        ⟨fun h => hidle (.inl h), fun h => hidle (.inr h), hup, hsegment⟩
      refine ⟨⟨rooted, ups, downs ++ [segment], hups, ?_⟩, rfl, ?_, ?_⟩
      · intro name hmem
        rcases List.mem_append.mp hmem with hmem | hmem
        · exact hdowns name hmem
        · rwa [List.mem_singleton.mp hmem]
      · simp only [segments, cleanStep_name hname, List.reverse_append, List.reverse_singleton,
          List.cons_append, List.nil_append]
      · intro base
        simp only [lead, resolveStep_name hname, List.reverse_append, List.reverse_singleton,
          List.cons_append, List.nil_append]

/-- **Cleaning a list of segments leads from a canonical path to a canonical path**, and goes where
the segments lead. -/
theorem Canonical.exists_run (path : Canonical) {pieces : List Text}
    (hpieces : ∀ piece ∈ pieces, '/' ∉ piece) :
    ∃ last : Canonical, last.rooted = path.rooted ∧
      last.segments.reverse = pieces.foldl (cleanStep path.rooted) path.segments.reverse ∧
      ∀ base, last.lead base = pieces.foldl resolveStep (path.lead base) := by
  -- the canonical path changes from segment to segment, so the induction is for any of them
  induction pieces generalizing path with
  | nil => exact ⟨path, rfl, rfl, fun _ => rfl⟩
  | cons piece pieces ih =>
    obtain ⟨hpiece, hpieces⟩ := List.forall_mem_cons.mp hpieces
    obtain ⟨next, hrooted, hclean, hlead⟩ := path.exists_step hpiece
    obtain ⟨last, hlast, hrun, hrunLead⟩ := ih next hpieces
    refine ⟨last, hlast.trans hrooted, ?_, ?_⟩
    · rw [hrun, hrooted, hclean, List.foldl_cons]
    · intro base
      rw [hrunLead, hlead, List.foldl_cons]

/-- **A cleaned path is canonical** and leads where the path does. -/
theorem exists_canonical (path : Text) :
    ∃ canonical : Canonical, canonical.rooted = isRooted path ∧ clean path = canonical.text ∧
      ∀ base, canonical.lead base = resolve base path := by
  have hpieces : ∀ piece ∈ segments path, '/' ∉ piece :=
    fun _ hpiece => Text.notMem_of_mem_splitOn hpiece
  let start : Canonical := ⟨isRooted path, 0, [], fun _ => rfl, by simp⟩
  obtain ⟨last, hrooted, hclean, hlead⟩ := start.exists_run hpieces
  have hsegments : last.segments = cleanSegments path := by
    rw [cleanSegments, ← List.reverse_reverse last.segments, hclean]
    rfl
  refine ⟨last, hrooted, ?_, hlead⟩
  rw [clean, Canonical.text, hsegments, hrooted]

/-! ## Written canonical paths -/

namespace Canonical

theorem slash_notMem_of_mem_segments (hsegment : segment ∈ path.segments) : '/' ∉ segment := by
  rcases List.mem_append.mp hsegment with hup | hdown
  · rw [List.eq_of_mem_replicate hup]
    decide
  · exact (path.isName segment hdown).slash_notMem

theorem ne_nil_of_mem_segments (hsegment : segment ∈ path.segments) : segment ≠ [] := by
  rcases List.mem_append.mp hsegment with hup | hdown
  · rw [List.eq_of_mem_replicate hup]
    decide
  · exact (path.isName segment hdown).ne_nil

/-- A written canonical path is rooted if it is. -/
@[simp] theorem isRooted_text (path : Canonical) : isRooted path.text = path.rooted := by
  cases hrooted : path.rooted with
  | true => simp [isRooted, text, hrooted]
  | false =>
    rw [isRooted, text, hrooted, if_neg Bool.false_ne_true, List.nil_append,
      Text.head?_intercalate _ fun _ => ne_nil_of_mem_segments, beq_eq_false_iff_ne]
    intro hhead
    obtain ⟨segment, hsegment, hslash⟩ := List.mem_flatten.mp (List.mem_of_head? hhead)
    exact slash_notMem_of_mem_segments hsegment hslash

/-- A written canonical path is cut into its segments, empty ones apart. -/
theorem filter_segments_text (path : Canonical) :
    (Path.segments path.text).filter (· ≠ []) = path.segments := by
  have hjoined : ((['/'].intercalate path.segments).splitOn '/').filter (· ≠ []) =
      path.segments := by
    cases hsegments : path.segments with
    | nil => rfl
    | cons first rest =>
      rw [← hsegments, List.splitOn_intercalate '/' (fun _ => slash_notMem_of_mem_segments)
        (by simp [hsegments]), List.filter_eq_self]
      intro segment hsegment
      exact decide_eq_true (ne_nil_of_mem_segments hsegment)
  cases hrooted : path.rooted with
  | true =>
    rw [text, hrooted, if_pos rfl, List.singleton_append, Path.segments,
      List.splitOn_cons_eq_if_modifyHead, if_pos (by decide), List.filter_cons_of_neg (by simp),
      hjoined]
  | false => rw [text, hrooted, if_neg Bool.false_ne_true, List.nil_append, Path.segments, hjoined]

/-- The segments of a canonical path lead up and then down. -/
theorem foldl_resolveStep_segments (path : Canonical) (directory : List Text) :
    path.segments.foldl resolveStep directory =
      path.downs.reverse ++ directory.drop path.ups := by
  have hups : ∀ ups directory, (List.replicate ups ['.', '.']).foldl resolveStep directory =
      directory.drop ups := by
    intro ups
    induction ups with
    | zero => exact fun _ => rfl
    | succ ups ih =>
      intro directory
      rw [List.replicate_succ, List.foldl_cons, ih, resolveStep_up, List.drop_tail]
  have hdowns : ∀ directory, path.downs.foldl resolveStep directory =
      path.downs.reverse ++ directory := by
    intro directory
    rw [List.foldl_ext resolveStep (fun directory name => name :: directory) directory
      fun _ name hname => resolveStep_name (path.isName name hname) _]
    exact (List.foldl_flip_cons_eq_append (f := id)).trans (by rw [List.map_id])
  rw [segments, List.foldl_append, hups, hdowns]

/-- **A written canonical path leads where its parts say.** -/
theorem resolve_text (path : Canonical) (base : List Text) :
    resolve base path.text = path.lead base := by
  have hempty : (Path.segments path.text).foldl resolveStep (if path.rooted then [] else base) =
      path.segments.foldl resolveStep (if path.rooted then [] else base) := by
    rw [← path.filter_segments_text, List.foldl_filter]
    apply List.foldl_ext
    intro directory segment _
    by_cases hsegment : segment = []
    · rw [if_neg (by simpa using hsegment), resolveStep_idle (.inl hsegment)]
    · rw [if_pos (decide_eq_true hsegment)]
  rw [resolve, isRooted_text, hempty, foldl_resolveStep_segments, lead]

/-- **Where it leads determines a canonical path**: two that are both rooted or both relative, and
lead to the same directory from every base, are the same. -/
theorem eq_of_lead_eq {other : Canonical} (hrooted : path.rooted = other.rooted)
    (hlead : ∀ base, (∀ name ∈ base, IsName name) → path.lead base = other.lead base) :
    path = other := by
  -- from the root the ways up do not show, so the names are the same
  have hdowns : path.downs = other.downs := by
    have hroot := hlead [] (by simp)
    simpa [lead] using hroot
  have hups : path.ups = other.ups := by
    cases hpath : path.rooted with
    | true => rw [path.ups_eq_zero hpath, other.ups_eq_zero (hrooted ▸ hpath)]
    | false =>
      -- a base deep enough for both shows how far each goes up
      have hname : IsName ['a'] := ⟨by decide, by decide, by decide, by decide⟩
      have hdeep := hlead (List.replicate (path.ups + other.ups) ['a'])
        fun name hmem => (List.eq_of_mem_replicate hmem) ▸ hname
      rw [lead, lead, hdowns, ← hrooted, hpath, List.append_cancel_left_eq] at hdeep
      have hlength := congrArg List.length hdeep
      simp only [Bool.false_eq_true, if_false, List.length_drop, List.length_replicate] at hlength
      omega
  exact Canonical.ext hrooted hups hdowns

/-- **A written canonical path is clean.** -/
theorem clean_text (path : Canonical) : clean path.text = path.text := by
  obtain ⟨cleaned, hrooted, hclean, hlead⟩ := exists_canonical path.text
  have hsame : cleaned = path := by
    apply eq_of_lead_eq
    · rw [hrooted, isRooted_text]
    · intro base _
      rw [hlead, resolve_text]
  rw [hclean, hsame]

end Canonical

/-! ## Cleaning -/

/-- **What cleaning does.** It keeps a path rooted or relative, and the directory to which the path
leads from any base. A cleaned path is canonical: single slashes stand between segments that are
neither empty nor a single dot, and it goes up at its front only, and not at all if it is rooted. Two
paths are cleaned to the same text exactly when both are rooted or both are relative, and they lead to
the same directory from every base. So cleaning twice is cleaning once. -/
theorem clean_canonical (path : Text) :
    isRooted (clean path) = isRooted path ∧
      (∀ base, resolve base (clean path) = resolve base path) ∧
      (∃ canonical : Canonical, clean path = canonical.text) ∧
      (∀ other, clean path = clean other ↔ isRooted path = isRooted other ∧
        ∀ base, (∀ name ∈ base, IsName name) → resolve base path = resolve base other) ∧
      clean (clean path) = clean path := by
  obtain ⟨canonical, hrooted, hclean, hlead⟩ := exists_canonical path
  refine ⟨?_, ?_, ⟨canonical, hclean⟩, ?_, ?_⟩
  · rw [hclean, Canonical.isRooted_text, hrooted]
  · intro base
    rw [hclean, Canonical.resolve_text, hlead]
  · intro other
    obtain ⟨canonical', hrooted', hclean', hlead'⟩ := exists_canonical other
    constructor
    · intro hsame
      have htext : canonical.text = canonical'.text := by rw [← hclean, hsame, hclean']
      constructor
      · rw [← hrooted, ← canonical.isRooted_text, htext, canonical'.isRooted_text, hrooted']
      · intro base _
        rw [← hlead, ← canonical.resolve_text, htext, canonical'.resolve_text, hlead']
    · rintro ⟨hroot, hresolve⟩
      have hsame : canonical = canonical' := by
        apply Canonical.eq_of_lead_eq
        · rw [hrooted, hroot, hrooted']
        · intro base hbase
          rw [hlead, hresolve base hbase, hlead']
      rw [hclean, hsame, hclean']
  · rw [hclean, canonical.clean_text]

example : clean "./gen/old//../colors/".toList = "gen/colors".toList := by decide

end EnumCodegen.Path
