import Mathlib.Data.List.TakeDrop

namespace KeyMaster.Data

/-! Canonical S-expressions: an atom is its length in decimal digits, a colon and
that many bytes, and a list stands in parentheses. -/

/-! ### Lengths -/

namespace Decimal

def isDigit (byte : UInt8) : Bool := decide (0x30 ≤ byte.toNat ∧ byte.toNat ≤ 0x39)

def encode (number : Nat) : List UInt8 :=
  (Nat.toDigits 10 number).map fun digit => UInt8.ofNat digit.toNat

def value (digits : List UInt8) : Nat :=
  Nat.ofDigitChars 10 (digits.map fun byte => Char.ofNat byte.toNat) 0

theorem bounds_of_mem_toDigits {number : Nat} {digit : Char} (member : digit ∈ Nat.toDigits 10 number) :
    48 ≤ digit.toNat ∧ digit.toNat ≤ 57 := by
  have isDigit := Nat.isDigit_of_mem_toDigits (by decide) (by decide) member
  simp only [Char.isDigit, Bool.and_eq_true, decide_eq_true_eq] at isDigit
  exact isDigit

theorem isDigit_of_mem_encode {number : Nat} {byte : UInt8} (member : byte ∈ encode number) :
    isDigit byte = true := by
  obtain ⟨digit, isDigit, rfl⟩ := List.mem_map.mp member
  have bounds := bounds_of_mem_toDigits isDigit
  rw [Decimal.isDigit, UInt8.toNat_ofNat', Nat.mod_eq_of_lt (by omega), decide_eq_true_eq]
  exact bounds

theorem encode_ne_nil (number : Nat) : encode number ≠ [] := by
  rw [encode, ne_eq, List.map_eq_nil_iff]
  exact Nat.toDigits_ne_nil

@[simp] theorem value_encode (number : Nat) : value (encode number) = number := by
  have chars : (encode number).map (fun byte => Char.ofNat byte.toNat) = Nat.toDigits 10 number := by
    rw [encode, List.map_map]
    refine (List.map_congr_left fun digit member => ?_).trans (List.map_id _)
    have bounds := bounds_of_mem_toDigits member
    rw [Function.comp_apply, UInt8.toNat_ofNat', Nat.mod_eq_of_lt (by omega), Char.ofNat_toNat]
    rfl
  rw [value, chars, Nat.ofDigitChars_ten_toDigits]

end Decimal

/-! ### Atoms -/

inductive SExpression where
  | atom (bytes : List UInt8)
  | list (items : List SExpression)

namespace SExpression

def encodeAtom (bytes : List UInt8) : List UInt8 := Decimal.encode bytes.length ++ 0x3A :: bytes

/-- A length without leading zeros, and what follows its colon. -/
def readLength (bytes : List UInt8) : Option (Nat × List UInt8) :=
  let digits := bytes.takeWhile Decimal.isDigit
  let length := Decimal.value digits
  match bytes.dropWhile Decimal.isDigit with
  | 0x3A :: rest => if Decimal.encode length = digits then some (length, rest) else none
  | _ => none

def readAtom (bytes : List UInt8) : Option (List UInt8 × List UInt8) :=
  (readLength bytes).bind fun (length, rest) =>
    if rest.length < length then none else some (rest.take length, rest.drop length)

theorem readAtom_encodeAtom (bytes rest : List UInt8) :
    readAtom (encodeAtom bytes ++ rest) = some (bytes, rest) := by
  have digits : ∀ byte ∈ Decimal.encode bytes.length, Decimal.isDigit byte = true :=
    fun byte => Decimal.isDigit_of_mem_encode
  have colon : Decimal.isDigit 0x3A = false := by decide
  have length : readLength (encodeAtom bytes ++ rest) = some (bytes.length, bytes ++ rest) := by
    rw [encodeAtom, List.append_assoc, List.cons_append, readLength,
      List.takeWhile_append_of_pos digits, List.dropWhile_append_of_pos digits]
    simp [colon]
  rw [readAtom, length, Option.bind_some]
  simp

/-! ### Trees -/

mutual

def encode : SExpression → List UInt8
  | .atom bytes => encodeAtom bytes
  | .list items => 0x28 :: encodeAll items ++ [0x29]

def encodeAll : List SExpression → List UInt8
  | [] => []
  | item :: rest => encode item ++ encodeAll rest

end

mutual

/-- The expression in front of the bytes, and what follows it. -/
def read : Nat → List UInt8 → Option (SExpression × List UInt8)
  | 0, _ => none
  | _ + 1, [] => none
  | fuel + 1, byte :: more =>
      if byte = 0x28 then (readItems fuel more).map fun (items, rest) => (.list items, rest)
      else (readAtom (byte :: more)).map fun (bytes, rest) => (.atom bytes, rest)

/-- The items up to the parenthesis that closes their list. -/
def readItems : Nat → List UInt8 → Option (List SExpression × List UInt8)
  | 0, _ => none
  | _ + 1, [] => none
  | fuel + 1, byte :: more =>
      if byte = 0x29 then some ([], more)
      else
        (read fuel (byte :: more)).bind fun (item, rest) =>
          (readItems fuel rest).map fun (items, last) => (item :: items, last)

end

/-- The expression that all of the bytes are. -/
def parse (bytes : List UInt8) : Option SExpression :=
  match read bytes.length bytes with
  | some (tree, []) => some tree
  | _ => none

/-! ### What is encoded is read -/

/-- An expression starts with a digit or an opening parenthesis. -/
theorem encode_eq_cons (tree : SExpression) :
    ∃ byte more, encode tree = byte :: more ∧ byte ≠ 0x29 ∧
      ((∃ bytes, tree = .atom bytes) → byte ≠ 0x28) := by
  cases tree with
  | atom bytes =>
      obtain ⟨byte, more, digits⟩ := List.exists_cons_of_ne_nil (Decimal.encode_ne_nil bytes.length)
      have isDigit : Decimal.isDigit byte = true :=
        Decimal.isDigit_of_mem_encode (by rw [digits]; exact List.mem_cons_self)
      refine ⟨byte, more ++ 0x3A :: bytes, by rw [encode, encodeAtom, digits]; rfl, ?_, ?_⟩
      · rintro rfl
        cases isDigit
      · rintro _ rfl
        cases isDigit
  | list items =>
      refine ⟨0x28, encodeAll items ++ [0x29], by rw [encode]; rfl, by decide, ?_⟩
      rintro ⟨bytes, same⟩
      cases same

mutual

theorem read_encode (tree : SExpression) (fuel : Nat) (rest : List UInt8)
    (enough : (encode tree).length ≤ fuel) : read fuel (encode tree ++ rest) = some (tree, rest) := by
  obtain ⟨byte, more, whole, _, start⟩ := encode_eq_cons tree
  have size : 0 < (encode tree).length := by
    rw [whole]
    exact Nat.succ_pos _
  obtain ⟨fuel, rfl⟩ : ∃ less, fuel = less + 1 := ⟨fuel - 1, by omega⟩
  cases tree with
  | atom bytes =>
      have atom := readAtom_encodeAtom bytes rest
      rw [encode] at whole
      rw [encode, whole, List.cons_append, read, if_neg (start ⟨bytes, rfl⟩), ← List.cons_append, ← whole,
        atom, Option.map_some]
  | list items =>
      rw [encode, List.length_append, List.length_cons, List.length_singleton] at enough
      rw [encode, List.append_assoc, List.cons_append, read, if_pos rfl, List.singleton_append,
        readItems_encodeAll items fuel rest (by omega), Option.map_some]

theorem readItems_encodeAll (items : List SExpression) (fuel : Nat) (rest : List UInt8)
    (enough : (encodeAll items).length + 1 ≤ fuel) :
    readItems fuel (encodeAll items ++ 0x29 :: rest) = some (items, rest) := by
  obtain ⟨fuel, rfl⟩ : ∃ less, fuel = less + 1 := ⟨fuel - 1, by omega⟩
  cases items with
  | nil => rw [encodeAll, List.nil_append, readItems, if_pos rfl]
  | cons item items =>
      obtain ⟨byte, more, whole, other, _⟩ := encode_eq_cons item
      have size : 0 < (encode item).length := by
        rw [whole]
        exact Nat.succ_pos _
      have first := read_encode item fuel (encodeAll items ++ 0x29 :: rest)
      rw [encodeAll, List.length_append] at enough
      rw [encodeAll, List.append_assoc]
      rw [whole, List.cons_append] at first ⊢
      rw [readItems, if_neg other, first (by rw [← whole]; omega), Option.bind_some]
      simp only [readItems_encodeAll items fuel rest (by omega), Option.map_some]

end

theorem parse_encode (tree : SExpression) : parse (encode tree) = some tree := by
  have whole := read_encode tree (encode tree).length [] (Nat.le_refl _)
  rw [List.append_nil] at whole
  rw [parse, whole]

end SExpression

end KeyMaster.Data
