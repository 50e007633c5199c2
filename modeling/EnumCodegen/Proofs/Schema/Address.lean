import EnumCodegen.Schema.Part
import Mathlib.Data.List.Basic

/-!
# The address of a part

Every part of a file has one address: the path that is read as leading to it. No other path leads
there, so a location addresses a part exactly if its path is the part's address.

## Main definitions

* `Part.address`: the path that leads to a part

## Main results

* `Part.ofPath?_address`: the address of a part leads to it
* `Part.address_of_ofPath?`: no other path leads to it
* `SourceLocation.addresses_iff`: the locations that address a part
-/

namespace EnumCodegen

/-! ## The path that leads to a part -/

/-- The path from one message to another. -/
def innerAddress (inner : List Nat) : List Nat :=
  inner.flatMap ([3, ·])

@[simp] theorem innerAddress_nil : innerAddress [] = [] := rfl

@[simp] theorem innerAddress_cons (i : Nat) (inner : List Nat) :
    innerAddress (i :: inner) = 3 :: i :: innerAddress inner := rfl

/-- The path that leads to a message of the file. -/
def messageAddress : List Nat → List Nat
  | [] => []
  | i :: inner => 4 :: i :: innerAddress inner

theorem messageAddress_concat {messages : List Nat} (h : messages ≠ []) (i : Nat) :
    messageAddress (messages ++ [i]) = messageAddress messages ++ [3, i] := by
  obtain ⟨j, inner, rfl⟩ := List.exists_cons_of_ne_nil h
  simp [messageAddress, innerAddress]

/-- The path that leads to the enum in a place. -/
def Place.enumAddress (place : Place) : List Nat :=
  if place.messages = [] then [5, place.index]
  else messageAddress place.messages ++ [4, place.index]

/-- The path that leads to the field in a place. -/
def Place.fieldAddress (place : Place) : List Nat :=
  messageAddress place.messages ++ [2, place.index]

namespace Part

/-- **The path that leads to a part.** -/
def address : Part → List Nat
  | enum place => place.enumAddress
  | value place j => place.enumAddress ++ [2, j]
  | field place => place.fieldAddress

/-- Reading goes down to the inner message first. -/
theorem inMessage?_innerAddress (messages inner rest : List Nat) :
    inMessage? messages (innerAddress inner ++ rest) = inMessage? (messages ++ inner) rest := by
  induction inner generalizing messages with
  | nil => simp
  | cons i inner ih =>
    rw [innerAddress_cons, List.cons_append, List.cons_append, inMessage?, ih,
      List.append_assoc, List.singleton_append]

theorem ofPath?_messageAddress {messages : List Nat} (h : messages ≠ []) (rest : List Nat) :
    ofPath? (messageAddress messages ++ rest) = inMessage? messages rest := by
  obtain ⟨i, inner, rfl⟩ := List.exists_cons_of_ne_nil h
  exact inMessage?_innerAddress [i] inner rest

/-- **The path of a part leads to it.** Fields stand in messages only. -/
theorem ofPath?_address {part : Part} (h : ∀ place, part = field place → place.messages ≠ []) :
    ofPath? part.address = some part := by
  cases part with
  | enum place =>
    obtain ⟨messages, index⟩ := place
    by_cases hmessages : messages = []
    · subst hmessages
      rfl
    · rw [address, Place.enumAddress, if_neg hmessages, ofPath?_messageAddress hmessages]
      rfl
  | value place j =>
    obtain ⟨messages, index⟩ := place
    by_cases hmessages : messages = []
    · subst hmessages
      rfl
    · rw [address, Place.enumAddress, if_neg hmessages, List.append_assoc,
        ofPath?_messageAddress hmessages]
      rfl
  | field place =>
    rw [address, Place.fieldAddress, ofPath?_messageAddress (h place rfl)]
    rfl

theorem address_of_inMessage? {messages path : List Nat} {part : Part} (hmessages : messages ≠ [])
    (h : inMessage? messages path = some part) :
    part.address = messageAddress messages ++ path := by
  -- the indices that were read and the path that is left make the same address at every step
  fun_induction inMessage? messages path with
  | case1 messages i =>
    obtain rfl := Option.some.inj h
    rfl
  | case2 messages i rest ih =>
    rw [ih (by simp) h, messageAddress_concat hmessages, List.append_assoc]
    rfl
  | case3 messages i =>
    obtain rfl := Option.some.inj h
    rw [address, Place.enumAddress, if_neg hmessages]
  | case4 messages i j =>
    obtain rfl := Option.some.inj h
    rw [address, Place.enumAddress, if_neg hmessages, List.append_assoc]
    rfl
  | case5 => simp at h

/-- **No other path leads to a part.** -/
theorem address_of_ofPath? {path : List Nat} {part : Part} (h : ofPath? path = some part) :
    part.address = path := by
  unfold ofPath? at h
  split at h
  · exact address_of_inMessage? (by simp) h
  · obtain rfl := Option.some.inj h
    rfl
  · obtain rfl := Option.some.inj h
    rfl
  · simp at h

/-- **Different parts have different addresses.** -/
theorem address_injective {part part' : Part}
    (h : ∀ place, part = field place → place.messages ≠ [])
    (h' : ∀ place, part' = field place → place.messages ≠ [])
    (haddress : part.address = part'.address) : part = part' := by
  have hread := ofPath?_address h
  rw [haddress, ofPath?_address h'] at hread
  exact (Option.some.inj hread).symm

end Part

theorem Place.enumAddress_injective {place place' : Place}
    (h : place.enumAddress = place'.enumAddress) : place = place' :=
  Part.enum.inj (Part.address_injective (by simp) (by simp) h)

theorem Place.fieldAddress_injective {place place' : Place} (hmessages : place.messages ≠ [])
    (hmessages' : place'.messages ≠ []) (h : place.fieldAddress = place'.fieldAddress) :
    place = place' := by
  apply Part.field.inj
  refine Part.address_injective ?_ ?_ h
  · rintro _ ⟨⟩
    exact hmessages
  · rintro _ ⟨⟩
    exact hmessages'

theorem toNat?_path_eq_some_iff {path : List Int32} {address : List Nat} :
    (path.mapM fun n : Int32 => n.toInt.toNat?) = some address ↔
      path.map Int32.toInt = address.map Int.ofNat := by
  induction path generalizing address with
  | nil => simp [eq_comm]
  | cons n path ih =>
    rw [List.mapM_cons]
    cases address with
    | nil => simp [Option.bind_eq_some_iff]
    | cons i address => simp [Option.bind_eq_some_iff, Int.mem_toNat?, ih]

/-- **A location addresses a part** if its path is the address of the part. -/
theorem SourceLocation.addresses_iff (location : SourceLocation) {part : Part}
    (h : ∀ place, part = .field place → place.messages ≠ []) :
    location.addresses part.address = true ↔ location.part? = some part := by
  rw [addresses, decide_eq_true_iff, ← toNat?_path_eq_some_iff, part?, Option.bind_eq_some_iff]
  constructor
  · intro hpath
    exact ⟨part.address, hpath, Part.ofPath?_address h⟩
  · rintro ⟨path, hpath, hpart⟩
    rw [hpath, Part.address_of_ofPath? hpart]

end EnumCodegen
