import Mathlib.Data.List.Forall2

/-!
# Going through a list until something fails

A function that may fail, applied to the items of a list in order, yields a result for every item, or
the error of the first item it fails on.

## Main results

* `mapM_eq_ok_iff`: the results are those of the items
* `exists_mapM_eq_ok_iff`: there are results if no item fails
* `mapM_eq_error_iff`: the error is that of the first item that fails
* `find?_key_eq_some`, `lookup_eq_some_iff_mem`: an item is found by its key
-/

namespace EnumCodegen

variable {Item Result Fault : Type} {f : Item → Except Fault Result} {items : List Item}

/-- Nothing comes of the items behind one that fails. -/
theorem mapM_cons_of_error {item : Item} {fault : Fault} (h : f item = .error fault) :
    (item :: items).mapM f = .error fault := by
  rw [List.mapM_cons, h]
  rfl

theorem mapM_cons_of_ok {item : Item} {result : Result} (h : f item = .ok result) :
    (item :: items).mapM f = (items.mapM f).map (result :: ·) := by
  rw [List.mapM_cons, h]
  cases items.mapM f <;> rfl

/-- **The results are those of the items**, in order. -/
theorem mapM_eq_ok_iff {results : List Result} :
    items.mapM f = .ok results ↔
      List.Forall₂ (fun item result => f item = .ok result) items results := by
  induction items generalizing results with
  | nil =>
    rw [List.forall₂_nil_left_iff]
    exact ⟨fun h => (Except.ok.inj h).symm, fun h => congrArg Except.ok h.symm⟩
  | cons item items ih =>
    cases h : f item with
    | error fault =>
      rw [mapM_cons_of_error h, List.forall₂_cons_left_iff]
      simp [h]
    | ok result =>
      rw [mapM_cons_of_ok h, List.forall₂_cons_left_iff]
      cases hrest : items.mapM f with
      | error fault => simp [Except.map, ← ih, hrest]
      | ok rest => simp [Except.map, ← ih, hrest, h, eq_comm]

/-- What holds of every result that the function yields holds of those of a list. -/
theorem forall_mem_of_mapM_eq_ok {p : Result → Prop} {results : List Result}
    (h : items.mapM f = .ok results) (hp : ∀ item result, f item = .ok result → p result) :
    ∀ result ∈ results, p result := by
  have hresults := mapM_eq_ok_iff.mp h
  clear h
  induction hresults with
  | nil => exact fun _ hresult => absurd hresult List.not_mem_nil
  | cons hitem hrest ih => exact List.forall_mem_cons.mpr ⟨hp _ _ hitem, ih⟩

/-- There is a result if there is one before something is done with it. -/
theorem exists_map_eq_ok_iff {Value : Type} (g : Result → Value) {outcome : Except Fault Result} :
    (∃ value, outcome.map g = .ok value) ↔ ∃ result, outcome = .ok result := by
  cases outcome <;> simp [Except.map]

/-- What is done with every result may be done with all of them afterwards. -/
theorem mapM_map_result {Value : Type} (g : Result → Value) :
    items.mapM (fun item => (f item).map g) = (items.mapM f).map (List.map g) := by
  induction items with
  | nil => rfl
  | cons item items ih =>
    cases h : f item with
    | error fault =>
      have hg : (f item).map g = .error fault := by rw [h, Except.map]
      rw [mapM_cons_of_error h, mapM_cons_of_error (f := fun item => (f item).map g) hg, Except.map]
    | ok result =>
      have hg : (f item).map g = .ok (g result) := by rw [h, Except.map]
      rw [mapM_cons_of_ok h, mapM_cons_of_ok (f := fun item => (f item).map g) hg, ih]
      cases items.mapM f <;> rfl

/-- **There are results** if no item fails. -/
theorem exists_mapM_eq_ok_iff :
    (∃ results, items.mapM f = .ok results) ↔ ∀ item ∈ items, ∃ result, f item = .ok result := by
  induction items with
  | nil => exact ⟨fun _ _ hitem => absurd hitem List.not_mem_nil, fun _ => ⟨[], rfl⟩⟩
  | cons item items ih =>
    rw [List.forall_mem_cons, ← ih]
    cases h : f item with
    | error fault => simp [mapM_cons_of_error h]
    | ok result =>
      rw [mapM_cons_of_ok h]
      cases items.mapM f <;> simp [Except.map]

/-- **The error is that of the first item that fails.** -/
theorem mapM_eq_error_iff {rejects : Item → Bool} {blame : Item → Fault}
    (hf : ∀ item fault, f item = .error fault ↔ rejects item = true ∧ fault = blame item)
    {fault : Fault} :
    items.mapM f = .error fault ↔ ∃ item, items.find? rejects = some item ∧ fault = blame item := by
  induction items with
  | nil =>
    constructor
    · intro h
      cases h
    · rintro ⟨_, h, -⟩
      cases h
  | cons item items ih =>
    cases h : f item with
    | error first =>
      obtain ⟨hrejects, rfl⟩ := (hf item first).mp h
      rw [mapM_cons_of_error h, List.find?_cons_of_pos hrejects]
      simp [eq_comm]
    | ok result =>
      have haccepts : ¬rejects item = true := by
        intro hrejects
        have := (hf item (blame item)).mpr ⟨hrejects, rfl⟩
        rw [h] at this
        cases this
      rw [mapM_cons_of_ok h, List.find?_cons_of_neg haccepts, ← ih]
      cases items.mapM f <;> simp [Except.map]

/-! ## Looking up by a key -/

/-- An item is found by its key, if no other has the same. -/
theorem find?_key_eq_some {Key : Type} [DecidableEq Key] {key : Item → Key}
    (h : (items.map key).Nodup) {item : Item} (hitem : item ∈ items) :
    items.find? (key · = key item) = some item := by
  induction items with
  | nil => cases hitem
  | cons first items ih =>
    rw [List.map_cons, List.nodup_cons] at h
    rcases List.mem_cons.mp hitem with rfl | hitem
    · exact List.find?_cons_of_pos (decide_eq_true rfl)
    · have hne : key first ≠ key item := fun heq => h.1 (heq ▸ List.mem_map_of_mem hitem)
      rw [List.find?_cons_of_neg (by simpa using hne), ih h.2 hitem]

section LookUp

variable {Key Value : Type} [BEq Key] [LawfulBEq Key] {entries : List (Key × Value)} {key : Key}

/-- In a list without repeated keys the entries are what look-up finds. -/
theorem lookup_eq_some_iff_mem (h : (entries.map (·.1)).Nodup) {value : Value} :
    entries.lookup key = some value ↔ (key, value) ∈ entries := by
  induction entries with
  | nil => simp
  | cons entry rest ih =>
    rw [List.map_cons, List.nodup_cons] at h
    rw [List.lookup_cons, List.mem_cons]
    by_cases hentry : key = entry.1
    · subst hentry
      have hrest : (entry.1, value) ∉ rest := by
        intro hmem
        exact h.1 (List.mem_map.mpr ⟨_, hmem, rfl⟩)
      simp [hrest, Prod.ext_iff, eq_comm]
    · have hne : (key == entry.1) = false := by simpa using hentry
      have hhead : (key, value) ≠ entry := fun heq => hentry (congrArg Prod.fst heq)
      simp [hne, hhead, ih h.2]

/-- Nothing is found by a key that no entry has. -/
theorem lookup_eq_none_iff_notMem : entries.lookup key = none ↔ key ∉ entries.map (·.1) := by
  simp only [List.lookup_eq_none_iff, List.mem_map, not_exists, not_and, bne_iff_ne, ne_eq]
  exact forall₂_congr fun _ _ => not_congr eq_comm

end LookUp

end EnumCodegen
