import Mathlib.Algebra.Ring.Nat
import Mathlib.Data.List.Basic

namespace KeyMaster.Data.LengthPrefixed

/-! Numbers of four bytes, most significant first, and byte strings behind their
length as such a number. -/

/-! ### Numbers -/

/-- `u32::to_be_bytes`. -/
def beBytes (value : UInt32) : List UInt8 :=
  [UInt8.ofNat (value.toNat / 16777216), UInt8.ofNat (value.toNat / 65536),
    UInt8.ofNat (value.toNat / 256), UInt8.ofNat value.toNat]

/-- `u32::from_be_bytes`. -/
def ofBeBytes (a b c d : UInt8) : UInt32 :=
  UInt32.ofNat (((a.toNat * 256 + b.toNat) * 256 + c.toNat) * 256 + d.toNat)

theorem toNat_ofBeBytes (a b c d : UInt8) :
    (ofBeBytes a b c d).toNat = ((a.toNat * 256 + b.toNat) * 256 + c.toNat) * 256 + d.toNat := by
  have := a.toNat_lt
  have := b.toNat_lt
  have := c.toNat_lt
  have := d.toNat_lt
  exact Nat.mod_eq_of_lt (by omega)

theorem beBytes_ofBeBytes (a b c d : UInt8) : beBytes (ofBeBytes a b c d) = [a, b, c, d] := by
  have boundA := a.toNat_lt
  have boundB := b.toNat_lt
  have boundC := c.toNat_lt
  have boundD := d.toNat_lt
  have byte : ∀ (value : Nat) (byte : UInt8), value % 256 = byte.toNat → UInt8.ofNat value = byte := by
    intro value byte same
    exact UInt8.toNat_inj.mp same
  rw [beBytes, toNat_ofBeBytes, byte _ a (by omega), byte _ b (by omega), byte _ c (by omega),
    byte _ d (by omega)]

/-- The number in front of the bytes. -/
def readNumber : List UInt8 → Option (UInt32 × List UInt8)
  | a :: b :: c :: d :: rest => some (ofBeBytes a b c d, rest)
  | _ => none

@[simp] theorem readNumber_beBytes (value : UInt32) (rest : List UInt8) :
    readNumber (beBytes value ++ rest) = some (value, rest) := by
  have bound := value.toNat_lt
  have number : ofBeBytes (UInt8.ofNat (value.toNat / 16777216)) (UInt8.ofNat (value.toNat / 65536))
      (UInt8.ofNat (value.toNat / 256)) (UInt8.ofNat value.toNat) = value := by
    apply UInt32.toNat_inj.mp
    simp only [toNat_ofBeBytes, UInt8.toNat_ofNat']
    omega
  simp only [beBytes, List.cons_append, List.nil_append, readNumber, number]

theorem beBytes_of_readNumber {bytes rest : List UInt8} {value : UInt32}
    (read : readNumber bytes = some (value, rest)) : bytes = beBytes value ++ rest := by
  match bytes with
  | a :: b :: c :: d :: more =>
      cases read
      rw [beBytes_ofBeBytes]
      rfl

theorem readNumber_of_le {bytes : List UInt8} (enough : 4 ≤ bytes.length) :
    ∃ value rest, readNumber bytes = some (value, rest) := by
  match bytes with
  | a :: b :: c :: d :: rest => exact ⟨ofBeBytes a b c d, rest, rfl⟩

@[simp] theorem length_beBytes (value : UInt32) : (beBytes value).length = 4 := rfl

/-! ### Strings -/

def string (bytes : List UInt8) : List UInt8 := beBytes (UInt32.ofNat bytes.length) ++ bytes

/-- The string in front of the bytes, and what follows it. -/
def readString (bytes : List UInt8) : Option (List UInt8 × List UInt8) :=
  (readNumber bytes).bind fun (length, rest) =>
    if rest.length < length.toNat then none
    else some (rest.take length.toNat, rest.drop length.toNat)

theorem toNat_ofNat_length {bytes : List UInt8} (fits : bytes.length < 2 ^ 32) :
    (UInt32.ofNat bytes.length).toNat = bytes.length :=
  Nat.mod_eq_of_lt fits

theorem readString_string {bytes : List UInt8} (fits : bytes.length < 2 ^ 32) (rest : List UInt8) :
    readString (string bytes ++ rest) = some (bytes, rest) := by
  rw [string, List.append_assoc, readString, readNumber_beBytes, Option.bind_some]
  simp only [toNat_ofNat_length fits, List.length_append]
  rw [if_neg (by omega), List.take_left, List.drop_left]

theorem string_of_readString {bytes value rest : List UInt8}
    (read : readString bytes = some (value, rest)) :
    bytes = string value ++ rest ∧ value.length < 2 ^ 32 := by
  obtain ⟨⟨length, more⟩, number, taken⟩ := Option.bind_eq_some_iff.mp read
  simp only at taken
  split at taken
  · cases taken
  · rename_i enough
    cases taken
    have size : (more.take length.toNat).length = length.toNat := by
      rw [List.length_take]
      omega
    refine ⟨?_, by rw [size]; exact length.toNat_lt⟩
    rw [beBytes_of_readNumber number, string, size, UInt32.ofNat_toNat, List.append_assoc,
      List.take_append_drop]

/-! ### Sequences -/

/-- As many items as asked for, one behind the other. -/
def readMany {α : Type} (read : List UInt8 → Option (α × List UInt8)) :
    Nat → List UInt8 → Option (List α × List UInt8)
  | 0, bytes => some ([], bytes)
  | count + 1, bytes =>
      (read bytes).bind fun (item, rest) =>
        (readMany read count rest).map fun (items, last) => (item :: items, last)

theorem readMany_flatMap {α : Type} {read : List UInt8 → Option (α × List UInt8)}
    {write : α → List UInt8} {items : List α}
    (reads : ∀ item ∈ items, ∀ rest, read (write item ++ rest) = some (item, rest))
    (rest : List UInt8) :
    readMany read items.length (items.flatMap write ++ rest) = some (items, rest) := by
  induction items with
  | nil => rfl
  | cons item items ih =>
      rw [List.length_cons, readMany, List.flatMap_cons, List.append_assoc,
        reads item List.mem_cons_self, Option.bind_some]
      simp only [ih fun other member => reads other (List.mem_cons_of_mem _ member), Option.map_some]

end KeyMaster.Data.LengthPrefixed
