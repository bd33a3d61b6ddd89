import Mathlib.Logic.Basic

namespace KeyMaster.Data.Utf8

/-! UTF-8 on lists, and splitting into lines on either side of the encoding. -/

def encode (text : List Char) : List UInt8 := text.flatMap String.utf8EncodeChar

def decode (bytes : List UInt8) : Option (List Char) :=
  bytes.toByteArray.utf8Decode?.map Array.toList

theorem utf8Encode_eq (text : List Char) : text.utf8Encode = (encode text).toByteArray := rfl

@[simp] theorem decode_encode (text : List Char) : decode (encode text) = some text := by
  rw [decode, ← utf8Encode_eq, List.utf8Decode?_utf8Encode, Option.map_some]

theorem decode_eq_some {bytes : List UInt8} {text : List Char} :
    decode bytes = some text ↔ bytes = encode text := by
  constructor
  · intro decoded
    have valid : bytes.toByteArray.utf8Decode?.isSome := by
      rw [decode] at decoded
      cases array : bytes.toByteArray.utf8Decode? with
      | none =>
          rw [array] at decoded
          cases decoded
      | some chars => rfl
    obtain ⟨chars, encoded⟩ := ByteArray.isSome_utf8Decode?_iff.mp valid
    have same : bytes = encode chars := by
      have lists := congrArg (fun array => array.data.toList) encoded
      simpa [List.utf8Encode, encode] using lists
    rw [same, decode_encode] at decoded
    rw [same, Option.some.inj decoded]
  · rintro rfl
    exact decode_encode text

theorem encode_injective {left right : List Char} (same : encode left = encode right) :
    left = right := by
  have decoded := congrArg decode same
  rw [decode_encode, decode_encode] at decoded
  exact Option.some.inj decoded

@[simp] theorem encode_cons (char : Char) (rest : List Char) :
    encode (char :: rest) = String.utf8EncodeChar char ++ encode rest := rfl

theorem encode_append (start rest : List Char) : encode (start ++ rest) = encode start ++ encode rest :=
  List.flatMap_append

@[simp] theorem encode_eq_nil {text : List Char} : encode text = [] ↔ text = [] := by
  constructor
  · intro empty
    exact encode_injective empty
  · rintro rfl
    rfl

theorem length_le_encode (text : List Char) : text.length ≤ (encode text).length := by
  induction text with
  | nil => exact Nat.le_refl _
  | cons char rest ih =>
      have first := char.utf8Size_pos
      rw [encode_cons, List.length_append, List.length_cons, String.length_utf8EncodeChar]
      omega

/-- A byte below 128 of an encoding is the whole encoding of its character. -/
theorem utf8EncodeChar_of_mem_ascii {char : Char} {byte : UInt8}
    (member : byte ∈ String.utf8EncodeChar char) (ascii : byte.toNat < 128) :
    String.utf8EncodeChar char = [byte] ∧ byte.toNat = char.toNat := by
  have large : ∀ {offset start : Nat}, byte = UInt8.ofNat (offset + start) → 128 ≤ start →
      offset + start < 256 → False := by
    rintro offset start rfl high small
    rw [UInt8.toNat_ofNat', Nat.mod_eq_of_lt small] at ascii
    omega
  unfold String.utf8EncodeChar at member ⊢
  dsimp only at member ⊢
  split at member
  · rename_i single
    rw [if_pos single, List.mem_singleton.mp member, UInt8.toNat_ofNat']
    exact ⟨rfl, Nat.mod_eq_of_lt (Nat.lt_of_le_of_lt single (by decide))⟩
  · split at member
    · simp only [List.mem_cons, List.not_mem_nil, or_false] at member
      rcases member with first | last
      · exact (large first (by omega) (by omega)).elim
      · exact (large last (by omega) (by omega)).elim
    · split at member
      · simp only [List.mem_cons, List.not_mem_nil, or_false] at member
        rcases member with first | second | last
        · exact (large first (by omega) (by omega)).elim
        · exact (large second (by omega) (by omega)).elim
        · exact (large last (by omega) (by omega)).elim
      · simp only [List.mem_cons, List.not_mem_nil, or_false] at member
        rcases member with first | second | third | last
        · exact (large first (by omega) (by omega)).elim
        · exact (large second (by omega) (by omega)).elim
        · exact (large third (by omega) (by omega)).elim
        · exact (large last (by omega) (by omega)).elim

theorem mem_utf8EncodeChar_iff {char ascii : Char} {byte : UInt8} (isByte : byte.toNat = ascii.toNat)
    (small : ascii.toNat < 128) : byte ∈ String.utf8EncodeChar char ↔ char = ascii := by
  constructor
  · intro member
    have value := (utf8EncodeChar_of_mem_ascii member (by omega)).2
    exact Char.toNat_inj.mp (value.symm.trans isByte)
  · rintro rfl
    have single : char.val.toNat ≤ 0x7f := by
      change char.toNat ≤ 0x7f
      omega
    have same : byte = UInt8.ofNat char.val.toNat := by
      apply UInt8.toNat_inj.mp
      rw [UInt8.toNat_ofNat', isByte]
      exact (Nat.mod_eq_of_lt (Nat.lt_of_lt_of_le small (by decide))).symm
    unfold String.utf8EncodeChar
    dsimp only
    rw [if_pos single, same]
    exact List.mem_singleton_self _

theorem mem_encode_iff {text : List Char} {ascii : Char} {byte : UInt8}
    (isByte : byte.toNat = ascii.toNat) (small : ascii.toNat < 128) :
    byte ∈ encode text ↔ ascii ∈ text := by
  induction text with
  | nil => simp [encode]
  | cons char rest ih =>
      rw [encode_cons, List.mem_append, ih, mem_utf8EncodeChar_iff isByte small, List.mem_cons,
        eq_comm]

theorem head?_encode_eq_some {text : List Char} {ascii : Char} {byte : UInt8}
    (isByte : byte.toNat = ascii.toNat) (small : ascii.toNat < 128) :
    (encode text).head? = some byte ↔ text.head? = some ascii := by
  cases text with
  | nil => simp [encode]
  | cons char rest =>
      have first : (encode (char :: rest)).head? = (String.utf8EncodeChar char).head? := by
        rw [encode_cons]
        cases bytes : String.utf8EncodeChar char with
        | nil => exact absurd bytes String.utf8EncodeChar_ne_nil
        | cons byte more => rfl
      rw [first, List.head?_cons, Option.some.injEq, ← mem_utf8EncodeChar_iff isByte small]
      constructor
      · exact List.mem_of_mem_head?
      · intro member
        rw [(utf8EncodeChar_of_mem_ascii member (by omega)).1]
        rfl

/-! ### Decoding that replaces what is no UTF-8 -/

def isTail (byte : UInt8) : Bool := 0x80 ≤ byte && byte ≤ 0xBF

/-- The first two bytes of a character of three or four bytes. -/
def opens (first second : UInt8) : Bool :=
  first == 0xE0 && (0xA0 ≤ second && second ≤ 0xBF) ||
  0xE1 ≤ first && first ≤ 0xEC && isTail second ||
  first == 0xED && (0x80 ≤ second && second ≤ 0x9F) ||
  0xEE ≤ first && first ≤ 0xEF && isTail second ||
  first == 0xF0 && (0x90 ≤ second && second ≤ 0xBF) ||
  0xF1 ≤ first && first ≤ 0xF3 && isTail second ||
  first == 0xF4 && (0x80 ≤ second && second ≤ 0x8F)

/-- The bytes that one replacement character stands for: the longest start of a
character, or a single byte. -/
def brokenLength : List UInt8 → Nat
  | first :: second :: rest =>
      if opens first second then if 0xF0 ≤ first && rest.head?.any isTail then 3 else 2 else 1
  | _ => 1

/-- After as many bytes that are left out. -/
def lossyFrom : Nat → List UInt8 → List Char
  | _, [] => []
  | skip + 1, _ :: rest => lossyFrom skip rest
  | 0, byte :: rest =>
      match (byte :: rest).toByteArray.utf8DecodeChar? 0 with
      | some char => char :: lossyFrom (char.utf8Size - 1) rest
      | none => '\uFFFD' :: lossyFrom (brokenLength (byte :: rest) - 1) rest

/-- `String::from_utf8_lossy`. -/
def decodeLossy (bytes : List UInt8) : List Char := lossyFrom 0 bytes

theorem lossyFrom_append (skipped bytes : List UInt8) :
    lossyFrom skipped.length (skipped ++ bytes) = lossyFrom 0 bytes := by
  induction skipped with
  | nil => rfl
  | cons byte rest ih => exact ih

@[simp] theorem decodeLossy_encode (text : List Char) : decodeLossy (encode text) = text := by
  induction text with
  | nil => rfl
  | cons char rest ih =>
      cases bytes : String.utf8EncodeChar char with
      | nil => exact absurd bytes String.utf8EncodeChar_ne_nil
      | cons byte more =>
          have first : (byte :: (more ++ encode rest)).toByteArray.utf8DecodeChar? 0 = some char := by
            rw [← List.cons_append, ← bytes, List.toByteArray_append]
            exact ByteArray.utf8DecodeChar?_utf8EncodeChar_append
          have size : char.utf8Size - 1 = more.length := by
            rw [← String.length_utf8EncodeChar, bytes, List.length_cons, Nat.add_sub_cancel]
          rw [encode_cons, bytes, List.cons_append, decodeLossy, lossyFrom, first]
          simp only [size, lossyFrom_append]
          exact congrArg _ ih

example : decodeLossy [0x61, 0xE2, 0x82, 0x2F, 0xFF, 0xFE] = ['a', '\uFFFD', '/', '\uFFFD', '\uFFFD'] := by
  decide +kernel

/-! ### Splitting -/

section Splitting

variable {α : Type} [BEq α] [LawfulBEq α] {separator item : α} {start rest line : List α}

theorem splitOn_cons_self : (separator :: rest).splitOn separator = [] :: rest.splitOn separator := by
  rw [List.splitOn, List.splitOnP_cons_eq_if_modifyHead, if_pos (beq_self_eq_true separator),
    List.splitOn]

theorem splitOn_cons_of_ne (other : item ≠ separator) :
    (item :: rest).splitOn separator = (rest.splitOn separator).modifyHead (item :: ·) := by
  rw [List.splitOn, List.splitOnP_cons_eq_if_modifyHead,
    if_neg (by rw [beq_iff_eq]; exact other), List.splitOn]

theorem splitOn_append (absent : separator ∉ start) :
    (start ++ rest).splitOn separator = (rest.splitOn separator).modifyHead (start ++ ·) := by
  induction start with
  | nil =>
      rw [List.nil_append]
      cases rest.splitOn separator <;> rfl
  | cons item more ih =>
      rw [List.mem_cons, not_or] at absent
      rw [List.cons_append, splitOn_cons_of_ne (Ne.symm absent.1), ih absent.2]
      cases rest.splitOn separator <;> rfl

theorem splitOn_of_not_mem (absent : separator ∉ line) : line.splitOn separator = [line] := by
  have split : (line ++ []).splitOn separator = [[]].modifyHead (line ++ ·) := splitOn_append absent
  simpa using split

theorem splitOn_lines {lines : List (List α)} (oneLine : ∀ line ∈ lines, separator ∉ line) :
    (lines.flatMap (· ++ [separator])).splitOn separator = lines ++ [[]] := by
  induction lines with
  | nil => rfl
  | cons line lines ih =>
      rw [List.forall_mem_cons] at oneLine
      rw [List.flatMap_cons, List.append_assoc, splitOn_append oneLine.1, List.singleton_append,
        splitOn_cons_self, ih oneLine.2]
      simp

/-- What ends in something else than the separator leaves a piece behind. -/
theorem splitOn_concat (bytes : List α) (other : item ≠ separator) :
    ∃ lines line, (bytes ++ [item]).splitOn separator = lines ++ [line ++ [item]] := by
  induction bytes with
  | nil => exact ⟨[], [], splitOn_cons_of_ne other⟩
  | cons first rest ih =>
      obtain ⟨lines, line, split⟩ := ih
      by_cases same : first = separator
      · rw [same, List.cons_append, splitOn_cons_self, split]
        exact ⟨[] :: lines, line, rfl⟩
      · rw [List.cons_append, splitOn_cons_of_ne same, split]
        cases lines with
        | nil => exact ⟨[], first :: line, rfl⟩
        | cons head more => exact ⟨(first :: head) :: more, line, rfl⟩

end Splitting

/-- Splitting the bytes at an ASCII byte splits the text at its character. -/
theorem splitOn_encode {text : List Char} {ascii : Char} {byte : UInt8}
    (isByte : byte.toNat = ascii.toNat) (small : ascii.toNat < 128) :
    (encode text).splitOn byte = (text.splitOn ascii).map encode := by
  induction text with
  | nil => rfl
  | cons char rest ih =>
      by_cases same : char = ascii
      · have single := utf8EncodeChar_of_mem_ascii
          ((mem_utf8EncodeChar_iff isByte small).mpr same) (by omega)
        rw [encode_cons, single.1, List.singleton_append, splitOn_cons_self, ih, same,
          splitOn_cons_self]
        rfl
      · have absent : byte ∉ String.utf8EncodeChar char := by
          rwa [mem_utf8EncodeChar_iff isByte small]
        rw [encode_cons, splitOn_append absent, ih, splitOn_cons_of_ne same]
        cases rest.splitOn ascii <;> rfl

end KeyMaster.Data.Utf8
