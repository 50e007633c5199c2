import EnumCodegen.Protobuf.Basic

/-!
# Numbers of variable length

A number is written in groups of seven bits, the lowest first; every byte but the last has its top bit
set. Ten bytes hold 64 bits, the tenth only one.

## Main definitions

* `Protobuf.writeVarint`: the bytes of a number
* `Protobuf.readVarint?`: the number at the start of bytes

## Main results

* `Protobuf.readVarint?_writeVarint`: reading gives back the number written, whatever follows
-/

namespace EnumCodegen.Protobuf

/-- The bytes of a number, in at most the given count of groups behind the first. -/
def writeGroups : Nat → Nat → Bytes
  | 0, n => [UInt8.ofNat n]
  | groups + 1, n =>
    if n < 128 then [UInt8.ofNat n]
    else UInt8.ofNat (128 + n % 128) :: writeGroups groups (n / 128)

/-- The bound of the numbers that ten bytes hold, `2 ^ 64`. -/
def numberBound : Nat :=
  18446744073709551616

/-- **The bytes of a number** below the bound. -/
def writeVarint (n : Nat) : Bytes :=
  writeGroups 9 n

/-- The number at the start of bytes, in at most the given count of groups behind the first. The last
group that may follow holds a single bit. -/
def readGroups? : Nat → Bytes → Option (Nat × Bytes)
  | _, [] => none
  | 0, byte :: rest => if byte ≤ 1 then some (byte.toNat, rest) else none
  | groups + 1, byte :: rest =>
    if byte < 128 then some (byte.toNat, rest)
    else (readGroups? groups rest).map fun (n, rest) => (byte.toNat - 128 + 128 * n, rest)

/-- **The number at the start of bytes**, and what follows it. -/
def readVarint? (bytes : Bytes) : Option (Nat × Bytes) :=
  readGroups? 9 bytes

theorem readGroups?_writeGroups (groups n : Nat) (rest : Bytes) (h : n < 2 * Nat.pow 128 groups) :
    readGroups? groups (writeGroups groups n ++ rest) = some (n, rest) := by
  induction groups generalizing n with
  | zero =>
    have : n < 2 := h
    have : n = 0 ∨ n = 1 := by omega
    rcases this with rfl | rfl <;> rfl
  | succ groups ih =>
    unfold writeGroups
    split
    · have : UInt8.ofNat n < 128 := by
        rw [UInt8.lt_iff_toNat_lt, UInt8.toNat_ofNat']
        show n % 256 < 128
        omega
      simp only [List.cons_append, List.nil_append, readGroups?, if_pos this, UInt8.toNat_ofNat']
      rw [Nat.mod_eq_of_lt (by omega)]
    · have h8 : (UInt8.ofNat (128 + n % 128)).toNat = 128 + n % 128 := by
        rw [UInt8.toNat_ofNat', Nat.mod_eq_of_lt (by omega)]
      have : ¬ UInt8.ofNat (128 + n % 128) < 128 := by
        rw [UInt8.lt_iff_toNat_lt, h8]
        show ¬ 128 + n % 128 < 128
        omega
      simp only [List.cons_append, readGroups?, if_neg this, h8]
      rw [ih (n / 128) (by rw [show Nat.pow 128 (groups + 1) = Nat.pow 128 groups * 128 from rfl] at h; omega)]
      simp only [Option.map_some, Option.some.injEq, Prod.mk.injEq, and_true]
      omega

/-- Reading gives back the number written, whatever follows. -/
theorem readVarint?_writeVarint {n : Nat} (h : n < numberBound) (rest : Bytes) :
    readVarint? (writeVarint n ++ rest) = some (n, rest) :=
  readGroups?_writeGroups 9 n rest h

theorem writeGroups_ne_nil (groups n : Nat) : writeGroups groups n ≠ [] := by
  cases groups with
  | zero => simp [writeGroups]
  | succ groups => unfold writeGroups; split <;> simp

theorem writeVarint_ne_nil (n : Nat) : writeVarint n ≠ [] :=
  writeGroups_ne_nil 9 n

end EnumCodegen.Protobuf
