import EnumCodegen.Text.RawLiteral
import Mathlib.Data.List.Infix
import Mathlib.Order.Bounds.Basic
import Mathlib.Order.MinMax

/-!
# Raw literals enclose any text

A fence is long enough if no quote of the text is followed by that many number signs. The longest run
of signs behind a quote bounds the search for such a fence, and one more sign than that ends it. The
closing fence is then told from all that stands before it: what follows a quote of the text is fewer
signs than the fence has, and then either a character of the text or the closing quote, which are no
signs.

## Main definitions

* `Text.fenceSearch`: the search for a fence, one sign at a time

## Main results

* `Text.fence_infix_iff`: which fences follow a quote of a text
* `Text.fenceSearch_eq`: where the search ends
* `Text.isLeast_fenceSize`: the fence around a text is the least that will do
* `Text.readRawLiteral?_append`: a literal reads back, whatever follows it
-/

namespace EnumCodegen.Text

variable {text : Text} {size : Nat}

/-! ## Fences in a text -/

/-- A text begins with a fence if it begins with that many signs. -/
theorem fence_isPrefix_iff : fence size <+: text ↔ size ≤ signs text := by
  induction size generalizing text with
  | zero => simp [fence]
  | succ size ih =>
    rw [fence, List.replicate_succ, ← fence]
    cases text with
    | nil => simp [signs]
    | cons c text =>
      rw [List.cons_prefix_cons, ih]
      by_cases hc : c = '#'
      · simp [signs, hc]
      · simp [signs, hc, Ne.symm hc]

/-- Without quotes nothing follows one. -/
theorem mostSigns_of_notMem (h : '"' ∉ text) : mostSigns text = 0 := by
  induction text with
  | nil => rfl
  | cons c text ih =>
    rw [List.mem_cons, not_or] at h
    rw [mostSigns, if_neg (Ne.symm h.1), ih h.2]

/-- **The fences that follow a quote of a text** are those of at most as many signs as follow one. -/
theorem fence_infix_iff :
    ('"' :: fence size) <:+: text ↔ '"' ∈ text ∧ size ≤ mostSigns text := by
  induction text with
  | nil => simp
  | cons c text ih =>
    rw [List.infix_cons_iff, List.cons_prefix_cons, fence_isPrefix_iff, ih, mostSigns]
    by_cases hc : c = '"'
    · rw [if_pos hc, le_max_iff]
      constructor
      · rintro (⟨-, hle⟩ | ⟨-, hle⟩)
        · exact ⟨hc ▸ List.mem_cons_self, .inl hle⟩
        · exact ⟨hc ▸ List.mem_cons_self, .inr hle⟩
      · rintro ⟨-, hle | hle⟩
        · exact .inl ⟨hc.symm, hle⟩
        · by_cases hmem : '"' ∈ text
          · exact .inr ⟨hmem, hle⟩
          · -- this quote is the last one, and the bound says nothing about it
            rw [mostSigns_of_notMem hmem] at hle
            exact .inl ⟨hc.symm, hle.trans (Nat.zero_le _)⟩
    · rw [if_neg hc]
      constructor
      · rintro (⟨heq, -⟩ | ⟨hmem, hle⟩)
        · exact absurd heq.symm hc
        · exact ⟨List.mem_cons_of_mem c hmem, hle⟩
      · rintro ⟨hmem, hle⟩
        exact .inr ⟨(List.mem_cons.mp hmem).resolve_left (Ne.symm hc), hle⟩

/-! ## The search for a fence -/

theorem le_mostSigns_of_holds (h : holds ('"' :: fence size) text = true) :
    size ≤ mostSigns text :=
  (fence_infix_iff.mp (holds_iff_isInfix.mp h)).2

/-- **The search for a fence** from a size on: one more sign as long as a quote of the text is
followed by that many. No quote is followed by more than `mostSigns text`, so the search ends. -/
def fenceSearch (text : Text) (size : Nat) : Nat :=
  if _h : holds ('"' :: fence size) text = true then fenceSearch text (size + 1) else size
termination_by mostSigns text + 1 - size
decreasing_by
  have hle := le_mostSigns_of_holds _h
  omega

/-- **The fence around a text is the least** of at least one sign that follows no quote of it. -/
theorem isLeast_fenceSize (text : Text) :
    IsLeast {size | 1 ≤ size ∧ ¬ ('"' :: fence size) <:+: text} (fenceSize text) := by
  constructor
  · refine ⟨Nat.le_add_left 1 _, ?_⟩
    rw [fence_infix_iff]
    rintro ⟨-, hle⟩
    exact absurd hle (Nat.not_succ_le_self _)
  · rintro size ⟨hpos, hnot⟩
    by_contra hlt
    rw [fenceSize, Nat.not_le, Nat.lt_succ_iff] at hlt
    -- a fence of at least one sign that is not too long follows some quote
    refine hnot (fence_infix_iff.mpr ⟨?_, hlt⟩)
    by_contra hmem
    rw [mostSigns_of_notMem hmem] at hlt
    omega

/-- The search ends at the fence of the text, from wherever it starts before. -/
theorem fenceSearch_eq (hpos : 1 ≤ size) (hle : size ≤ fenceSize text) :
    fenceSearch text size = fenceSize text := by
  obtain ⟨⟨-, hends⟩, hleast⟩ := isLeast_fenceSize text
  fun_induction fenceSearch text size with
  | case1 size hholds ih =>
    refine ih (Nat.le_add_left 1 size) ?_
    rcases hle.lt_or_eq with hlt | rfl
    · exact hlt
    · exact absurd (holds_iff_isInfix.mp hholds) hends
  | case2 size hholds =>
    refine le_antisymm hle (hleast ⟨hpos, ?_⟩)
    rwa [← holds_iff_isInfix]

/-! ## Reading back -/

/-- A quote ends the signs before it. -/
theorem signs_append_quote (text rest : Text) : signs (text ++ '"' :: rest) = signs text := by
  induction text with
  | nil => rfl
  | cons c text ih =>
    unfold signs at ih ⊢
    by_cases hc : c = '#'
    · rw [List.cons_append, List.takeWhile_cons_of_pos (by simpa using hc),
        List.takeWhile_cons_of_pos (by simpa using hc), List.length_cons, ih, List.length_cons]
    · rw [List.cons_append, List.takeWhile_cons_of_neg (by simpa using hc),
        List.takeWhile_cons_of_neg (by simpa using hc)]

/-- What is no closing quote belongs to the text. -/
theorem untilFence?_cons {c : Char} {rest : Text} (h : c = '"' → signs rest < size) :
    untilFence? size (c :: rest) =
      (untilFence? size rest).map fun (text, after) => (c :: text, after) := by
  rw [untilFence?]
  split
  · next after hprefix =>
    -- a fence follows, so it is not a quote that stands before it
    have hfence : size ≤ signs rest := by
      rw [← fence_isPrefix_iff]
      exact ⟨after, List.isPrefixOf?_eq_some_iff_append_eq.mp hprefix⟩
    rw [if_neg fun hc => absurd (h hc) (Nat.not_lt.mpr hfence)]
  · rfl

/-- **The text is read up to its closing fence**, if that is longer than those that follow a quote of
the text. -/
theorem untilFence?_append (h : mostSigns text < size) (rest : Text) :
    untilFence? size (text ++ '"' :: (fence size ++ rest)) = some (text, rest) := by
  induction text with
  | nil =>
    have hfence : (fence size).isPrefixOf? (fence size ++ rest) = some rest :=
      List.isPrefixOf?_eq_some_iff_append_eq.mpr rfl
    rw [List.nil_append, untilFence?, hfence]
    rfl
  | cons c text ih =>
    rw [mostSigns] at h
    rw [List.cons_append, untilFence?_cons]
    · rw [ih]
      · rfl
      · split at h
        · exact (le_max_right _ _).trans_lt h
        · exact h
    · -- the signs behind a quote end before the closing quote
      intro hc
      rw [if_pos hc] at h
      rw [signs_append_quote]
      exact (le_max_left _ _).trans_lt h

theorem signs_fence (size : Nat) : signs (fence size) = size := by
  rw [signs, fence, List.takeWhile_replicate, if_pos (by decide), List.length_replicate]

theorem dropWhile_fence_append_quote (size : Nat) (rest : Text) :
    (fence size ++ '"' :: rest).dropWhile (· = '#') = '"' :: rest := by
  rw [List.dropWhile_append_of_pos]
  · rfl
  · intro c hc
    exact decide_eq_true (List.eq_of_mem_replicate hc)

/-- **A literal reads back**, whatever follows it. -/
theorem readRawLiteral?_append (text rest : Text) :
    readRawLiteral? (text.rawLiteral ++ rest) = some (text, rest) := by
  have hliteral : text.rawLiteral ++ rest = 'r' :: (fence (fenceSize text) ++
      '"' :: (text ++ '"' :: (fence (fenceSize text) ++ rest))) := by
    simp [rawLiteral]
  rw [hliteral, readRawLiteral?, dropWhile_fence_append_quote]
  change untilFence? (signs _) _ = _
  rw [signs_append_quote, signs_fence]
  exact untilFence?_append (Nat.lt_succ_self _) rest

end EnumCodegen.Text
