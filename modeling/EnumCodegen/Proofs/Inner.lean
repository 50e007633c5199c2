import Mathlib.Data.List.DropRight

/-!
# Inner items

Dropping the items of a class from both ends of a list leaves its inner items: those from the first
to the last outside the class. Trimming a text is of this kind, and so is taking blank lines off the
ends of a comment.

## Main definitions

* `innerItems`: the items from the first to the last outside a class

## Main results

* `exists_append_innerItems`, `head?_innerItems`, `getLast?_innerItems`: where the inner items
  stand, and how they begin and end
* `innerItems_eq_nil_iff`, `innerItems_eq_self_iff`: what dropping leaves nothing of, and what
  it leaves alone
* `innerItems_cons`, `innerItems_concat`, `innerItems_map`: one more item at either end, and other
  items
* `length_innerItems`: their number from the positions of the first and the last
-/

namespace EnumCodegen

variable {α β : Type} {drop : α → Bool} {items : List α} {item : α}

/-- **The inner items**: those from the first to the last outside the class. -/
def innerItems (drop : α → Bool) (items : List α) : List α :=
  (items.dropWhile drop).rdropWhile drop

/-- **The inner items stand between** items of the class. -/
theorem exists_append_innerItems (drop : α → Bool) (items : List α) :
    ∃ before after, items = before ++ innerItems drop items ++ after ∧
      (∀ item ∈ before, drop item = true) ∧ ∀ item ∈ after, drop item = true := by
  refine ⟨items.takeWhile drop, (items.dropWhile drop).rtakeWhile drop, ?_, ?_, ?_⟩
  · rw [innerItems, List.append_assoc, List.rdropWhile_append_rtakeWhile,
      List.takeWhile_append_dropWhile]
  · intro item hitem
    exact List.mem_takeWhile_imp hitem
  · intro item hitem
    exact List.mem_rtakeWhile_imp hitem

theorem mem_of_mem_innerItems (hitem : item ∈ innerItems drop items) : item ∈ items := by
  obtain ⟨before, after, hitems, -⟩ := exists_append_innerItems drop items
  rw [hitems]
  exact List.mem_append_left after (List.mem_append_right before hitem)

/-! ## Their ends -/

/-- **The inner items begin** outside the class. -/
theorem head?_innerItems (hitem : item ∈ (innerItems drop items).head?) : drop item = false := by
  obtain ⟨after, hafter⟩ : innerItems drop items <+: items.dropWhile drop :=
    List.rdropWhile_prefix _ _
  have hbegin := List.head?_dropWhile_not drop items
  -- dropping at the end keeps the first item, which dropping at the start has left
  rw [← hafter, List.head?_append_of_ne_nil _ (List.ne_nil_of_mem (List.mem_of_mem_head? hitem)),
    hitem] at hbegin
  exact hbegin

/-- **The inner items end** outside the class. -/
theorem getLast?_innerItems (hitem : item ∈ (innerItems drop items).getLast?) :
    drop item = false := by
  obtain ⟨hne, rfl⟩ := List.mem_getLast?_eq_getLast hitem
  exact eq_false_of_ne_true (List.rdropWhile_last_not drop (items.dropWhile drop) hne)

/-- **No inner items** are in a list of the class alone, and in no other. -/
theorem innerItems_eq_nil_iff : innerItems drop items = [] ↔ ∀ item ∈ items, drop item = true := by
  obtain ⟨before, after, hitems, hbefore, hafter⟩ := exists_append_innerItems drop items
  constructor
  · intro hnil item hitem
    rw [hitems, hnil, List.append_nil] at hitem
    rcases List.mem_append.mp hitem with hitem | hitem
    · exact hbefore item hitem
    · exact hafter item hitem
  · intro hall
    by_contra hne
    obtain ⟨first, rest, hinner⟩ := List.exists_cons_of_ne_nil hne
    have hbegin : first ∈ (innerItems drop items).head? := by
      rw [hinner, List.head?_cons]
      rfl
    have hdropped := hall first (mem_of_mem_innerItems (List.mem_of_mem_head? hbegin))
    rw [head?_innerItems hbegin] at hdropped
    cases hdropped

/-- **All items are inner** if the first and the last are outside the class. -/
theorem innerItems_eq_self_iff :
    innerItems drop items = items ↔
      (∀ item ∈ items.head?, drop item = false) ∧ ∀ item ∈ items.getLast?, drop item = false := by
  constructor
  · intro h
    constructor
    · intro item hitem
      exact head?_innerItems (h.symm ▸ hitem)
    · intro item hitem
      exact getLast?_innerItems (h.symm ▸ hitem)
  · rintro ⟨hfirst, hlast⟩
    have hstart : items.dropWhile drop = items := by
      cases items with
      | nil => rfl
      | cons first rest => exact List.dropWhile_cons_of_neg (by simp [hfirst first rfl])
    rw [innerItems, hstart]
    rcases List.eq_nil_or_concat' items with rfl | ⟨front, last, rfl⟩
    · rfl
    · exact List.rdropWhile_concat_neg _ _ _ (by simp [hlast last (by simp)])

theorem innerItems_innerItems (drop : α → Bool) (items : List α) :
    innerItems drop (innerItems drop items) = innerItems drop items := by
  rw [innerItems_eq_self_iff]
  constructor
  · intro item hitem
    exact head?_innerItems hitem
  · intro item hitem
    exact getLast?_innerItems hitem

/-! ## Other lists -/

/-- An item of the class at the start is dropped. -/
theorem innerItems_cons (h : drop item = true) (items : List α) :
    innerItems drop (item :: items) = innerItems drop items := by
  rw [innerItems, List.dropWhile_cons_of_pos h, innerItems]

/-- An item of the class at the end is dropped. -/
theorem innerItems_concat (h : drop item = true) (items : List α) :
    innerItems drop (items ++ [item]) = innerItems drop items := by
  rw [innerItems, List.dropWhile_append]
  split
  · next hempty =>
    -- all items are dropped, and the last with them
    rw [List.dropWhile_cons_of_pos h, List.dropWhile_nil, innerItems, List.isEmpty_iff.mp hempty]
  · exact List.rdropWhile_concat_pos drop _ item h

/-- Whether an item is dropped may be asked before or after it is changed. -/
theorem innerItems_map (f : α → β) (drop : β → Bool) (items : List α) :
    innerItems drop (items.map f) = (innerItems (drop ∘ f) items).map f := by
  rw [innerItems, innerItems, List.dropWhile_map, List.rdropWhile, ← List.map_reverse,
    List.dropWhile_map, ← List.map_reverse, List.rdropWhile]

/-! ## Positions -/

/-- The first and the last position of a list that begins and ends in a class. -/
theorem findIdxs_ends {keep : α → Bool} (hne : items ≠ [])
    (hfirst : ∀ item ∈ items.head?, keep item = true)
    (hlast : ∀ item ∈ items.getLast?, keep item = true) (start : Nat) :
    (items.findIdxs keep start).headD 0 = start ∧
      (items.findIdxs keep start).getLastD 0 + 1 = start + items.length := by
  constructor
  · obtain ⟨first, rest, rfl⟩ := List.exists_cons_of_ne_nil hne
    rw [List.findIdxs_cons, if_pos (hfirst first rfl), List.headD_cons]
  · obtain ⟨front, last, rfl⟩ := (List.eq_nil_or_concat' items).resolve_left hne
    rw [List.findIdxs_append, List.findIdxs_cons, if_pos (hlast last (by simp)), List.findIdxs_nil,
      List.getLastD_concat, List.length_append, List.length_singleton, Nat.add_assoc]

/-- **The number of inner items**: the last position outside the class less the first, and one. -/
theorem length_innerItems (hne : innerItems drop items ≠ []) :
    (innerItems drop items).length =
      (items.findIdxs (!drop ·)).getLastD 0 - (items.findIdxs (!drop ·)).headD 0 + 1 := by
  obtain ⟨before, after, hitems, hbefore, hafter⟩ := exists_append_innerItems drop items
  -- the items around the inner ones have no position, but those before them move the others
  have hnowhere : ∀ (part : List α) start, (∀ item ∈ part, drop item = true) →
      part.findIdxs (!drop ·) start = [] := by
    intro part start hpart
    rw [List.findIdxs_eq_nil_iff]
    intro item hitem
    rw [hpart item hitem]
    rfl
  have hpositions : items.findIdxs (!drop ·) =
      (innerItems drop items).findIdxs (!drop ·) before.length := by
    conv_lhs => rw [hitems]
    rw [List.findIdxs_append, List.findIdxs_append, hnowhere before _ hbefore,
      hnowhere after _ hafter, List.nil_append, List.append_nil, Nat.zero_add]
  obtain ⟨hfirst, hlast⟩ := @findIdxs_ends _ _ (!drop ·) hne
    (fun item hitem => by rw [head?_innerItems hitem]; rfl)
    (fun item hitem => by rw [getLast?_innerItems hitem]; rfl) before.length
  have hlength := List.length_pos_of_ne_nil hne
  rw [hpositions, hfirst]
  omega

end EnumCodegen
