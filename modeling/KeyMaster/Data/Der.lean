import Mathlib.Data.Nat.Digits.Lemmas

namespace KeyMaster.Data

/-! The distinguished encoding of tagged trees: tags of one byte, definite
lengths in as few bytes as possible. -/

/-! ### Numbers -/

namespace Octets

/-- The bytes of a number from the most significant one on, without leading zeros. -/
def encode (number : Nat) : List UInt8 := (Nat.digits 256 number).reverse.map UInt8.ofNat

def decode (bytes : List UInt8) : Nat := Nat.ofDigits 256 (bytes.map UInt8.toNat).reverse

theorem toNat_encode (number : Nat) :
    (encode number).map UInt8.toNat = (Nat.digits 256 number).reverse := by
  rw [encode, List.map_map]
  refine List.map_congr_left ?_ |>.trans (List.map_id _)
  intro digit member
  have bound : digit < 256 := Nat.digits_lt_base (by decide) (List.mem_reverse.mp member)
  exact Nat.mod_eq_of_lt bound

theorem decode_encode (number : Nat) : decode (encode number) = number := by
  rw [decode, toNat_encode, List.reverse_reverse, Nat.ofDigits_digits]

theorem encode_decode {bytes : List UInt8} (leading : bytes.head? ≠ some 0) :
    encode (decode bytes) = bytes := by
  have digits : Nat.digits 256 (decode bytes) = (bytes.map UInt8.toNat).reverse := by
    refine Nat.digits_ofDigits 256 (by decide) _ ?_ ?_
    · intro digit member
      obtain ⟨byte, _, rfl⟩ := List.mem_map.mp (List.mem_reverse.mp member)
      exact byte.toNat_lt
    · intro nonempty zero
      rw [List.getLast_reverse, List.head_map] at zero
      have given : bytes ≠ [] := by simpa using nonempty
      exact leading ((List.head?_eq_some_head given).trans (congrArg some (UInt8.toNat_inj.mp zero)))
  rw [encode, digits, List.reverse_reverse, List.map_map]
  exact (List.map_congr_left fun byte _ => UInt8.ofNat_toNat).trans (List.map_id _)

theorem length_encode_le_iff {number count : Nat} :
    (encode number).length ≤ count ↔ number < 256 ^ count := by
  rw [encode, List.length_map, List.length_reverse]
  exact Nat.digits_length_le_iff (by decide) number

theorem head?_encode (number : Nat) : (encode number).head? ≠ some 0 := by
  intro leading
  by_cases zero : number = 0
  · subst zero
    cases leading
  · have isDigit : ((encode number).map UInt8.toNat).head? = some 0 := by
      rw [List.head?_map, leading]
      rfl
    rw [toNat_encode, List.head?_reverse] at isDigit
    have nonempty : Nat.digits 256 number ≠ [] := Nat.digits_ne_nil_iff_ne_zero.mpr zero
    rw [List.getLast?_eq_getLast_of_ne_nil nonempty] at isDigit
    exact Nat.getLast_digit_ne_zero 256 zero (Option.some.inj isDigit)

end Octets

namespace Der

/-! ### Lengths -/

/-- A length below 128 is a byte by itself; a longer one follows the count of
its bytes. -/
def encodeLength (length : Nat) : List UInt8 :=
  if length < 128 then [UInt8.ofNat length]
  else UInt8.ofNat (128 + (Octets.encode length).length) :: Octets.encode length

def maxLength : Nat := 256 ^ 126

/-- The length in front of the bytes, if it is definite and as short as it can be. -/
def readLength : List UInt8 → Option (Nat × List UInt8)
  | [] => none
  | first :: rest =>
      if first.toNat < 128 then some (first.toNat, rest)
      else
        let count := first.toNat - 128
        let octets := rest.take count
        let length := Octets.decode octets
        if count < 127 ∧ octets.length = count ∧ octets.head? ≠ some 0 ∧ 128 ≤ length then
          some (length, rest.drop count)
        else none

theorem length_octets_lt {length : Nat} (bound : length < maxLength) :
    (Octets.encode length).length < 127 :=
  Nat.lt_succ_of_le (Octets.length_encode_le_iff.mpr bound)

theorem readLength_encodeLength {length : Nat} (bound : length < maxLength) (rest : List UInt8) :
    readLength (encodeLength length ++ rest) = some (length, rest) := by
  rw [encodeLength]
  by_cases short : length < 128
  · have byte : (UInt8.ofNat length).toNat = length := Nat.mod_eq_of_lt (by omega)
    rw [if_pos short, List.singleton_append, readLength, byte, if_pos short]
  · have few := length_octets_lt bound
    have byte : (UInt8.ofNat (128 + (Octets.encode length).length)).toNat =
        128 + (Octets.encode length).length := Nat.mod_eq_of_lt (by omega)
    rw [if_neg short, List.cons_append, readLength, byte, if_neg (by omega)]
    simp only [Nat.add_sub_cancel_left, List.take_left', List.drop_left', Octets.decode_encode]
    rw [if_pos ⟨few, trivial, Octets.head?_encode length, by omega⟩]

theorem encodeLength_of_readLength {bytes rest : List UInt8} {length : Nat}
    (read : readLength bytes = some (length, rest)) :
    bytes = encodeLength length ++ rest ∧ length < maxLength := by
  cases bytes with
  | nil => cases read
  | cons first more =>
      rw [readLength] at read
      split at read
      · rename_i short
        cases read
        refine ⟨?_, lt_of_lt_of_le short (by decide)⟩
        rw [encodeLength, if_pos short, UInt8.ofNat_toNat]
        rfl
      · rename_i long
        simp only at read
        split at read
        · rename_i minimal
          obtain ⟨few, complete, leading, large⟩ := minimal
          obtain ⟨rfl, rfl⟩ := Prod.mk.inj (Option.some.inj read)
          have octets := Octets.encode_decode leading
          refine ⟨?_, ?_⟩
          · have count : 128 + (more.take (first.toNat - 128)).length = first.toNat := by
              rw [complete]
              omega
            rw [encodeLength, if_neg (by omega), octets, count, UInt8.ofNat_toNat, List.cons_append,
              List.take_append_drop]
          · rw [maxLength, ← Octets.length_encode_le_iff, octets, complete]
            omega
        · cases read

/-! ### Frames -/

def frame (tag : UInt8) (contents : List UInt8) : List UInt8 :=
  tag :: encodeLength contents.length ++ contents

/-- The first frame: its tag, its contents and what follows it. -/
def readFrame : List UInt8 → Option (UInt8 × List UInt8 × List UInt8)
  | [] => none
  | tag :: rest =>
      (readLength rest).bind fun (length, body) =>
        if body.length < length then none else some (tag, body.take length, body.drop length)

theorem readFrame_frame {tag : UInt8} {contents : List UInt8} (bound : contents.length < maxLength)
    (rest : List UInt8) : readFrame (frame tag contents ++ rest) = some (tag, contents, rest) := by
  rw [frame, List.cons_append, List.cons_append, List.append_assoc, readFrame,
    readLength_encodeLength bound, Option.bind_some]
  simp

theorem frame_of_readFrame {bytes contents rest : List UInt8} {tag : UInt8}
    (read : readFrame bytes = some (tag, contents, rest)) :
    bytes = frame tag contents ++ rest ∧ contents.length < maxLength := by
  cases bytes with
  | nil => cases read
  | cons first more =>
      obtain ⟨⟨length, body⟩, isLength, taken⟩ := Option.bind_eq_some_iff.mp read
      simp only at taken
      split at taken
      · cases taken
      · rename_i enough
        cases taken
        obtain ⟨split, bound⟩ := encodeLength_of_readLength isLength
        have size : (body.take length).length = length := by
          rw [List.length_take]
          omega
        refine ⟨?_, by rwa [size]⟩
        rw [frame, size, split, List.cons_append, List.cons_append, List.append_assoc,
          List.take_append_drop]

theorem two_le_length_frame (tag : UInt8) (contents : List UInt8) :
    contents.length + 2 ≤ (frame tag contents).length := by
  have nonempty : 0 < (encodeLength contents.length).length := by
    rw [encodeLength]
    split <;> simp
  rw [frame, List.length_append, List.length_cons]
  omega

/-! ### Trees -/

inductive Form where
  | primitive
  | constructed
deriving DecidableEq

/-- What the tag says of its contents, unless its number goes on in the next byte. -/
def form (tag : UInt8) : Option Form :=
  if tag &&& 0x1F = 0x1F then none
  else if tag &&& 0x20 = 0 then some .primitive
  else some .constructed

inductive Element where
  | primitive (tag : UInt8) (contents : List UInt8)
  | constructed (tag : UInt8) (parts : List Element)

mutual

def encode : Element → List UInt8
  | .primitive tag contents => frame tag contents
  | .constructed tag parts => frame tag (encodeAll parts)

def encodeAll : List Element → List UInt8
  | [] => []
  | element :: rest => encode element ++ encodeAll rest

end

mutual

/-- The tags are those of their contents, and no length is too long. -/
def Encodable : Element → Prop
  | .primitive tag contents => form tag = some .primitive ∧ contents.length < maxLength
  | .constructed tag parts =>
      form tag = some .constructed ∧ (encodeAll parts).length < maxLength ∧ AllEncodable parts

def AllEncodable : List Element → Prop
  | [] => True
  | element :: rest => Encodable element ∧ AllEncodable rest

end

mutual

def readElement : Nat → List UInt8 → Option (Element × List UInt8)
  | 0, _ => none
  | fuel + 1, bytes =>
      (readFrame bytes).bind fun (tag, contents, rest) =>
        match form tag with
        | none => none
        | some .primitive => some (.primitive tag contents, rest)
        | some .constructed =>
            (readElements fuel contents).map fun parts => (.constructed tag parts, rest)

def readElements : Nat → List UInt8 → Option (List Element)
  | _, [] => some []
  | 0, _ :: _ => none
  | fuel + 1, byte :: more =>
      (readElement fuel (byte :: more)).bind fun (element, rest) =>
        (readElements fuel rest).map fun others => element :: others

end

/-- The element that all of the bytes encode. -/
def parse (bytes : List UInt8) : Option Element :=
  match readElement bytes.length bytes with
  | some (element, []) => some element
  | _ => none

/-! ### What is encoded is read -/

theorem two_le_length_encode (element : Element) : 2 ≤ (encode element).length := by
  cases element with
  | primitive tag contents =>
      rw [encode]
      exact Nat.le_trans (Nat.le_add_left 2 _) (two_le_length_frame tag contents)
  | constructed tag parts =>
      rw [encode]
      exact Nat.le_trans (Nat.le_add_left 2 _) (two_le_length_frame tag (encodeAll parts))

mutual

theorem readElement_encode (element : Element) (fuel : Nat) (rest : List UInt8)
    (enough : (encode element).length ≤ fuel + 1) (encodable : Encodable element) :
    readElement fuel (encode element ++ rest) = some (element, rest) := by
  have size := two_le_length_encode element
  obtain ⟨fuel, rfl⟩ : ∃ less, fuel = less + 1 := ⟨fuel - 1, by omega⟩
  cases element with
  | primitive tag contents =>
      obtain ⟨isForm, bound⟩ := encodable
      rw [encode, readElement, readFrame_frame bound, Option.bind_some]
      simp only [isForm]
  | constructed tag parts =>
      obtain ⟨isForm, bound, all⟩ := encodable
      have inner := two_le_length_frame tag (encodeAll parts)
      rw [encode] at enough ⊢
      rw [readElement, readFrame_frame bound, Option.bind_some]
      simp only [isForm, readElements_encodeAll parts fuel (by omega) all, Option.map_some]

theorem readElements_encodeAll (elements : List Element) (fuel : Nat)
    (enough : (encodeAll elements).length ≤ fuel) (encodable : AllEncodable elements) :
    readElements fuel (encodeAll elements) = some elements := by
  cases elements with
  | nil =>
      rw [encodeAll]
      cases fuel <;> rfl
  | cons element rest =>
      obtain ⟨first, all⟩ := encodable
      have size := two_le_length_encode element
      rw [encodeAll, List.length_append] at enough
      obtain ⟨fuel, rfl⟩ : ∃ less, fuel = less + 1 := ⟨fuel - 1, by omega⟩
      obtain ⟨byte, more, whole⟩ : ∃ byte more, encodeAll (element :: rest) = byte :: more := by
        apply List.exists_cons_of_length_pos
        rw [encodeAll, List.length_append]
        omega
      rw [whole, readElements, ← whole, encodeAll,
        readElement_encode element fuel _ (by omega) first, Option.bind_some]
      simp only [readElements_encodeAll rest fuel (by omega) all, Option.map_some]

end

/-! ### What is read was encoded -/

theorem encode_of_read (fuel : Nat) :
    (∀ bytes element rest, readElement fuel bytes = some (element, rest) →
      bytes = encode element ++ rest ∧ Encodable element) ∧
    ∀ bytes elements, readElements fuel bytes = some elements →
      bytes = encodeAll elements ∧ AllEncodable elements := by
  induction fuel with
  | zero =>
      refine ⟨fun bytes element rest read => ?_, fun bytes elements read => ?_⟩
      · cases read
      · cases bytes with
        | nil =>
            cases read
            exact ⟨rfl, trivial⟩
        | cons byte more => cases read
  | succ fuel ih =>
      obtain ⟨one, all⟩ := ih
      refine ⟨fun bytes element rest read => ?_, fun bytes elements read => ?_⟩
      · rw [readElement] at read
        obtain ⟨⟨tag, contents, left⟩, framed, built⟩ := Option.bind_eq_some_iff.mp read
        obtain ⟨split, bound⟩ := frame_of_readFrame framed
        simp only at built
        split at built
        · cases built
        · rename_i isForm
          cases built
          exact ⟨split, isForm, bound⟩
        · rename_i isForm
          obtain ⟨parts, inner, same⟩ := Option.map_eq_some_iff.mp built
          cases same
          obtain ⟨rfl, encodable⟩ := all _ _ inner
          exact ⟨split, isForm, bound, encodable⟩
      · cases bytes with
        | nil =>
            cases read
            exact ⟨rfl, trivial⟩
        | cons byte more =>
            rw [readElements] at read
            obtain ⟨⟨element, rest⟩, first, others⟩ := Option.bind_eq_some_iff.mp read
            obtain ⟨later, inner, rfl⟩ := Option.map_eq_some_iff.mp others
            obtain ⟨split, encodable⟩ := one _ _ _ first
            obtain ⟨rfl, allEncodable⟩ := all _ _ inner
            exact ⟨split, encodable, allEncodable⟩

/-- The reader takes the encodings and nothing else. -/
theorem parse_eq_some {bytes : List UInt8} {element : Element} :
    parse bytes = some element ↔ bytes = encode element ∧ Encodable element := by
  constructor
  · intro parsed
    rw [parse] at parsed
    split at parsed
    · rename_i read
      cases parsed
      obtain ⟨split, encodable⟩ := (encode_of_read _).1 _ _ _ read
      exact ⟨split.trans (List.append_nil _), encodable⟩
    · cases parsed
  · intro ⟨isEncoded, encodable⟩
    have read := readElement_encode element bytes.length [] (by rw [isEncoded]; omega) encodable
    rw [List.append_nil, ← isEncoded] at read
    rw [parse, read]

end Der

end KeyMaster.Data
