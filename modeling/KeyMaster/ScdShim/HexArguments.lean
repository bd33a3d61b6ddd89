import KeyMaster.ScdShim.Commands

namespace KeyMaster.ScdShim

/-! What SETDATA takes for hexadecimal data.

The decoder reads the text in pairs.  It goes past a pair exactly if
`byteFromStrRadix` has a value for it, which a plus sign and a digit have too,
and it panics at the first slice that ends inside a character.
-/

def pairText (pairs : List (Char × Char)) : List Char :=
  pairs.flatMap fun pair => [pair.1, pair.2]

def pairValues (pairs : List (Char × Char)) : Option (List UInt8) :=
  pairs.mapM fun pair => byteFromStrRadix pair.1 pair.2

@[simp] theorem pairText_cons (high low : Char) (pairs : List (Char × Char)) :
    pairText ((high, low) :: pairs) = high :: low :: pairText pairs := rfl

theorem pairValues_cons_eq_some {high low : Char} {pairs : List (Char × Char)} {bytes : List UInt8} :
    pairValues ((high, low) :: pairs) = some bytes ↔
      ∃ byte rest, byteFromStrRadix high low = some byte ∧ pairValues pairs = some rest ∧
        bytes = byte :: rest := by
  simp only [pairValues, List.mapM_cons, Option.bind_eq_bind, Option.bind_eq_some_iff, Option.pure_def,
    Option.some.injEq, eq_comm (a := bytes)]
  constructor
  · intro ⟨byte, value, rest, values, whole⟩
    exact ⟨byte, rest, value, values, whole⟩
  · intro ⟨byte, rest, value, values, whole⟩
    exact ⟨byte, value, rest, values, whole⟩

/-- An even number of characters, all of them hexadecimal digits. -/
def HexText (text : List Char) : Prop :=
  text.length % 2 = 0 ∧ ∀ digit ∈ text, (hexValue digit).isSome

/-- The next two bytes of the text end inside a character. -/
def SplitsCharacter : List Char → Prop
  | [] => False
  | [char] => 2 < char.utf8Size
  | char :: next :: _ => 2 < char.utf8Size ∨ char.utf8Size = 1 ∧ 1 < next.utf8Size

/-- The decoder does not refuse the text although it is not hexadecimal. -/
inductive Misread (text : List Char) : Prop where
  | cut (even : (String.ofList text).utf8ByteSize % 2 = 0) (pairs : List (Char × Char))
      (rest : List Char) (split : text = pairText pairs ++ rest)
      (accepted : (pairValues pairs).isSome) (cut : SplitsCharacter rest)
  | signed (pairs : List (Char × Char)) (whole : text = pairText pairs)
      (accepted : (pairValues pairs).isSome) (plus : ∃ digit, ('+', digit) ∈ pairs)

/-- SETDATA stores the bytes of a hexadecimal text and answers any other with an
error. -/
structure SetdataExact {codecs : Codecs} (state : ScdState codecs) (args : List Char) : Prop where
  stores : HexText (withoutWhiteSpace args) →
    ∃ data, fromHexDigits (withoutWhiteSpace args) = some data ∧
      handleSetdata state args = some ({ state with storedData := data }, sendOk "")
  refuses : ¬ HexText (withoutWhiteSpace args) →
    ∃ code message, handleSetdata state args = some (state, sendErr code message)

/-! ### Digits -/

theorem utf8Size_of_hexValue {digit : Char} (isDigit : (hexValue digit).isSome) :
    digit.utf8Size = 1 := by
  rw [Char.utf8Size_eq_one_iff]
  unfold hexValue at isDigit
  split at isDigit
  · rename_i range
    exact UInt32.le_trans range.2 (by decide)
  · split at isDigit
    · rename_i range
      exact UInt32.le_trans range.2 (by decide)
    · split at isDigit
      · rename_i range
        exact UInt32.le_trans range.2 (by decide)
      · cases isDigit

theorem byteFromStrRadix_digits {high low : Char} {byte : UInt8}
    (value : byteFromStrRadix high low = some byte) :
    (high = '+' ∨ (hexValue high).isSome) ∧ (hexValue low).isSome := by
  unfold byteFromStrRadix at value
  split at value
  · rename_i plus
    obtain ⟨digit, isDigit, _⟩ := Option.map_eq_some_iff.mp value
    exact ⟨.inl plus, by simp [isDigit]⟩
  · simp only [Option.bind_eq_bind, Option.bind_eq_some_iff] at value
    obtain ⟨first, isFirst, second, isSecond, _⟩ := value
    exact ⟨.inr (by simp [isFirst]), by simp [isSecond]⟩

theorem utf8Size_of_byteFromStrRadix {high low : Char} {byte : UInt8}
    (value : byteFromStrRadix high low = some byte) :
    high.utf8Size = 1 ∧ low.utf8Size = 1 := by
  obtain ⟨plus | digit, isLow⟩ := byteFromStrRadix_digits value
  · exact ⟨by rw [plus]; rfl, utf8Size_of_hexValue isLow⟩
  · exact ⟨utf8Size_of_hexValue digit, utf8Size_of_hexValue isLow⟩

theorem byteFromStrRadix_of_digits {high low : Char} {highValue lowValue : Nat}
    (isHigh : hexValue high = some highValue) (isLow : hexValue low = some lowValue) :
    byteFromStrRadix high low = some (UInt8.ofNat (highValue * 16 + lowValue)) := by
  have unsigned : high ≠ '+' := by
    intro plus
    rw [plus, show hexValue '+' = none by decide] at isHigh
    cases isHigh
  simp [byteFromStrRadix, unsigned, isHigh, isLow]

theorem even_of_hexText {text : List Char} (hex : HexText text) :
    (String.ofList text).utf8ByteSize % 2 = 0 := by
  have size : ∀ text : List Char, (∀ digit ∈ text, (hexValue digit).isSome) →
      (String.ofList text).utf8ByteSize = text.length := by
    intro text digits
    rw [String.utf8ByteSize_ofList]
    induction text with
    | nil => rfl
    | cons digit rest ih =>
        rw [List.forall_mem_cons] at digits
        rw [String.utf8Len_cons, ih digits.2, utf8Size_of_hexValue digits.1, List.length_cons]
  rw [size text hex.2]
  exact hex.1

/-! ### The pairs that the decoder goes past -/

section Pairs

variable {pairs : List (Char × Char)} {text rest : List Char} {bytes : List UInt8} {start : Nat}

theorem hexDecodeFrom_pairs (values : pairValues pairs = some bytes) :
    hexDecodeFrom start (pairText pairs ++ rest) =
      bytes.foldr HexResult.cons (hexDecodeFrom (start + 2 * pairs.length) rest) := by
  induction pairs generalizing start bytes with
  | nil =>
      cases values
      rfl
  | cons pair pairs ih =>
      obtain ⟨high, low⟩ := pair
      obtain ⟨byte, more, value, tailValues, rfl⟩ := pairValues_cons_eq_some.mp values
      obtain ⟨highSize, lowSize⟩ := utf8Size_of_byteFromStrRadix value
      have next : start + 2 + 2 * pairs.length = start + 2 * (pairs.length + 1) := by omega
      simp [hexDecodeFrom, highSize, lowSize, value, ih tailValues, next]

theorem foldr_cons_decoded (bytes : List UInt8) :
    bytes.foldr HexResult.cons (.decoded []) = .decoded bytes := by
  induction bytes with
  | nil => rfl
  | cons byte bytes ih => rw [List.foldr_cons, ih, HexResult.cons]

theorem foldr_cons_panicked (bytes : List UInt8) :
    bytes.foldr HexResult.cons .panicked = .panicked := by
  induction bytes with
  | nil => rfl
  | cons byte bytes ih =>
      rw [List.foldr_cons, ih]
      rfl

theorem hexDecodeFrom_cut (cut : SplitsCharacter text) : hexDecodeFrom start text = .panicked := by
  match text, cut with
  | [char], cut =>
      have size : char.utf8Size ≠ 2 := by
        simp only [SplitsCharacter] at cut
        omega
      simp [hexDecodeFrom, size]
  | char :: next :: rest, cut =>
      have notTwo : char.utf8Size ≠ 2 := by
        simp only [SplitsCharacter] at cut
        omega
      have notBoth : ¬ (char.utf8Size = 1 ∧ next.utf8Size = 1) := by
        simp only [SplitsCharacter] at cut
        omega
      simp [hexDecodeFrom, notTwo, notBoth]

theorem hexDecodeFrom_wholePairs (values : pairValues pairs = some bytes) :
    hexDecodeFrom start (pairText pairs) = .decoded bytes := by
  rw [← List.append_nil (pairText pairs), hexDecodeFrom_pairs values, hexDecodeFrom, foldr_cons_decoded]

/-- How the decoder ends on a text of an even number of bytes. -/
theorem hexDecodeFrom_cases (start : Nat) (even : (String.ofList text).utf8ByteSize % 2 = 0) :
    (∃ pairs bytes, text = pairText pairs ∧ pairValues pairs = some bytes) ∨
    (∃ pairs rest, text = pairText pairs ++ rest ∧ (pairValues pairs).isSome ∧ SplitsCharacter rest) ∨
    (∃ message, hexDecodeFrom start text = .invalid message) := by
  induction start, text using hexDecodeFrom.induct with
  | case1 start => exact .inl ⟨[], [], rfl, rfl⟩
  | case2 start char two => exact .inr (.inr ⟨_, by rw [hexDecodeFrom, if_pos two]⟩)
  | case3 start char notTwo =>
      refine .inr (.inl ⟨[], [char], rfl, rfl, ?_⟩)
      rw [String.utf8ByteSize_ofList, String.utf8Len_cons, String.utf8Len_nil] at even
      have positive := char.utf8Size_pos
      simp only [SplitsCharacter]
      omega
  | case4 start char next rest two =>
      exact .inr (.inr ⟨_, by simp only [hexDecodeFrom, if_pos two]; rfl⟩)
  | case5 start char next rest notTwo ascii refused =>
      exact .inr (.inr ⟨_, by simp only [hexDecodeFrom, if_neg notTwo, if_pos ascii, refused]; rfl⟩)
  | case6 start char next rest notTwo ascii byte value ih =>
      rw [String.utf8ByteSize_ofList] at even ih
      rw [String.utf8Len_cons, String.utf8Len_cons, ascii.1, ascii.2] at even
      rcases ih (by omega) with ⟨pairs, bytes, rfl, values⟩ | ⟨pairs, tail, rfl, values, cut⟩ |
        ⟨message, invalid⟩
      · exact .inl ⟨(char, next) :: pairs, byte :: bytes, rfl,
          pairValues_cons_eq_some.mpr ⟨byte, bytes, value, values, rfl⟩⟩
      · obtain ⟨bytes, values⟩ := Option.isSome_iff_exists.mp values
        have all := pairValues_cons_eq_some.mpr ⟨byte, bytes, value, values, rfl⟩
        exact .inr (.inl ⟨(char, next) :: pairs, tail, rfl, by rw [all]; rfl, cut⟩)
      · refine .inr (.inr ⟨message, ?_⟩)
        simp only [hexDecodeFrom, if_neg notTwo, if_pos ascii, value, invalid, HexResult.cons]
  | case7 start char next rest notTwo notAscii =>
      refine .inr (.inl ⟨[], char :: next :: rest, rfl, rfl, ?_⟩)
      have positive := char.utf8Size_pos
      have nextPositive := next.utf8Size_pos
      simp only [SplitsCharacter]
      omega

/-- Pairs without a plus sign are pairs of digits. -/
theorem hexText_pairText (accepted : (pairValues pairs).isSome)
    (unsigned : ∀ digit, ('+', digit) ∉ pairs) : HexText (pairText pairs) := by
  obtain ⟨bytes, values⟩ := Option.isSome_iff_exists.mp accepted
  induction pairs generalizing bytes with
  | nil => exact ⟨rfl, by simp [pairText]⟩
  | cons pair pairs ih =>
      obtain ⟨high, low⟩ := pair
      obtain ⟨byte, more, value, tailValues, rfl⟩ := pairValues_cons_eq_some.mp values
      obtain ⟨even, digits⟩ := ih (by simp [tailValues])
        (fun digit member => unsigned digit (List.mem_cons_of_mem _ member)) more tailValues
      obtain ⟨plus | isHigh, isLow⟩ := byteFromStrRadix_digits value
      · subst high
        exact absurd List.mem_cons_self (unsigned low)
      · simp only [HexText, pairText_cons, List.length_cons, List.forall_mem_cons]
        exact ⟨by omega, isHigh, isLow, digits⟩

theorem fromHexDigits_of_hexText (hex : HexText text) : ∃ data, fromHexDigits text = some data := by
  obtain ⟨even, digits⟩ := hex
  induction text using fromHexDigits.induct with
  | case1 => exact ⟨[], rfl⟩
  | case2 digit => simp at even
  | case3 high low rest ih =>
      simp only [List.forall_mem_cons] at digits
      obtain ⟨isHigh, isLow, restDigits⟩ := digits
      obtain ⟨highValue, high⟩ := Option.isSome_iff_exists.mp isHigh
      obtain ⟨lowValue, low⟩ := Option.isSome_iff_exists.mp isLow
      obtain ⟨tail, decoded⟩ := ih (by simp only [List.length_cons] at even; omega) restDigits
      simp only [fromHexDigits, high, low, decoded, Option.bind_eq_bind, Option.bind_some]
      exact ⟨_, rfl⟩

theorem hexDecodeFrom_of_hex {data : List UInt8} (decoded : fromHexDigits text = some data) :
    hexDecodeFrom start text = .decoded data := by
  induction text using fromHexDigits.induct generalizing data start with
  | case1 =>
      cases decoded
      rfl
  | case2 digit => cases decoded
  | case3 high low rest ih =>
      simp only [fromHexDigits, Option.bind_eq_bind, Option.bind_eq_some_iff] at decoded
      obtain ⟨highValue, isHigh, lowValue, isLow, tail, decodedTail, same⟩ := decoded
      have value := byteFromStrRadix_of_digits isHigh isLow
      obtain ⟨highSize, lowSize⟩ := utf8Size_of_byteFromStrRadix value
      rw [← Option.some.inj same]
      simp [hexDecodeFrom, highSize, lowSize, value, ih decodedTail, HexResult.cons]

end Pairs

/-! ### SETDATA -/

theorem trim_withoutWhiteSpace (args : List Char) :
    trim (withoutWhiteSpace args) = withoutWhiteSpace args := by
  apply trim_eq_self
  intro char member
  simpa using (List.mem_filter.mp member).2

theorem hexDecode_withoutWhiteSpace (args : List Char) :
    hexDecode (withoutWhiteSpace args) =
      if (String.ofList (withoutWhiteSpace args)).utf8ByteSize % 2 ≠ 0 then
        .invalid "odd-length hex string"
      else hexDecodeFrom 0 (withoutWhiteSpace args) := by
  simp only [hexDecode, trim_withoutWhiteSpace]

variable {codecs : Codecs} {state : ScdState codecs} {args : List Char}

/-- SETDATA stores the bytes that hexadecimal digits denote, whatever white
space stands between them. -/
theorem handleSetdata_hex {data : List UInt8}
    (decoded : fromHexDigits (withoutWhiteSpace args) = some data) :
    handleSetdata state args = some ({ state with storedData := data }, sendOk "") := by
  have shape := fromHexDigits_shape decoded
  have even : (String.ofList (withoutWhiteSpace args)).utf8ByteSize % 2 = 0 :=
    even_of_hexText ⟨by omega, shape.2⟩
  simp only [handleSetdata, hexDecode_withoutWhiteSpace, even, ne_eq, not_true_eq_false, if_false,
    hexDecodeFrom_of_hex decoded]

theorem sendOk_ne_sendErr (code : Nat) (message : String) : sendOk "" ≠ sendErr code message := by
  intro same
  have texts := Data.Utf8.encode_injective same
  simp at texts

theorem handleSetdata_wholePairs {pairs : List (Char × Char)} {bytes : List UInt8}
    (even : (String.ofList (withoutWhiteSpace args)).utf8ByteSize % 2 = 0)
    (whole : withoutWhiteSpace args = pairText pairs) (values : pairValues pairs = some bytes) :
    handleSetdata state args = some ({ state with storedData := bytes }, sendOk "") := by
  have decoded : hexDecode (withoutWhiteSpace args) = .decoded bytes := by
    rw [hexDecode_withoutWhiteSpace, if_neg (by omega), whole, hexDecodeFrom_wholePairs values]
  simp only [handleSetdata, decoded]

theorem even_pairText {pairs : List (Char × Char)} (accepted : (pairValues pairs).isSome) :
    (String.ofList (pairText pairs)).utf8ByteSize % 2 = 0 := by
  obtain ⟨bytes, values⟩ := Option.isSome_iff_exists.mp accepted
  rw [String.utf8ByteSize_ofList]
  induction pairs generalizing bytes with
  | nil => rfl
  | cons pair pairs ih =>
      obtain ⟨high, low⟩ := pair
      obtain ⟨byte, more, value, tailValues, rfl⟩ := pairValues_cons_eq_some.mp values
      obtain ⟨highSize, lowSize⟩ := utf8Size_of_byteFromStrRadix value
      have tail := ih (by simp [tailValues]) more tailValues
      rw [pairText_cons, String.utf8Len_cons, String.utf8Len_cons, highSize, lowSize]
      omega

theorem SetdataExact.not_misread (holds : SetdataExact state args) :
    ¬ Misread (withoutWhiteSpace args) := by
  intro misread
  cases misread with
  | cut even pairs rest split accepted cut =>
      obtain ⟨bytes, values⟩ := Option.isSome_iff_exists.mp accepted
      have panics : handleSetdata state args = none := by
        have decoded : hexDecode (withoutWhiteSpace args) = .panicked := by
          rw [hexDecode_withoutWhiteSpace, if_neg (by omega), split, hexDecodeFrom_pairs values,
            hexDecodeFrom_cut cut, foldr_cons_panicked]
        simp only [handleSetdata, decoded]
      by_cases hex : HexText (withoutWhiteSpace args)
      · obtain ⟨data, _, stored⟩ := holds.stores hex
        simp [panics] at stored
      · obtain ⟨code, message, refused⟩ := holds.refuses hex
        simp [panics] at refused
  | signed pairs whole accepted plus =>
      obtain ⟨bytes, values⟩ := Option.isSome_iff_exists.mp accepted
      obtain ⟨digit, member⟩ := plus
      have even : (String.ofList (withoutWhiteSpace args)).utf8ByteSize % 2 = 0 :=
        whole ▸ even_pairText accepted
      have stored : handleSetdata state args = some ({ state with storedData := bytes }, sendOk "") :=
        handleSetdata_wholePairs even whole values
      have signed : '+' ∈ withoutWhiteSpace args := by
        rw [whole]
        exact List.mem_flatMap.mpr ⟨_, member, List.mem_cons_self⟩
      have notHex : ¬ HexText (withoutWhiteSpace args) := fun hex =>
        absurd (hex.2 '+' signed) (by decide)
      obtain ⟨code, message, refused⟩ := holds.refuses notHex
      rw [stored, Option.some.injEq, Prod.mk.injEq] at refused
      exact sendOk_ne_sendErr code message refused.2

theorem setdataExact_of_not_misread (sound : ¬ Misread (withoutWhiteSpace args)) :
    SetdataExact state args := by
  constructor
  · intro hex
    obtain ⟨data, decoded⟩ := fromHexDigits_of_hexText hex
    exact ⟨data, decoded, handleSetdata_hex decoded⟩
  · intro notHex
    by_cases even : (String.ofList (withoutWhiteSpace args)).utf8ByteSize % 2 = 0
    · rcases hexDecodeFrom_cases 0 even with
        ⟨pairs, bytes, whole, values⟩ | ⟨pairs, rest, split, accepted, cut⟩ | ⟨message, invalid⟩
      · have accepted : (pairValues pairs).isSome := by simp [values]
        have unsigned : ∀ digit, ('+', digit) ∉ pairs := fun digit member =>
          sound (.signed pairs whole accepted ⟨digit, member⟩)
        exact absurd (whole ▸ hexText_pairText accepted unsigned) notHex
      · exact absurd (.cut even pairs rest split accepted cut) sound
      · have decoded : hexDecode (withoutWhiteSpace args) = .invalid message := by
          rw [hexDecode_withoutWhiteSpace, if_neg (by omega), invalid]
        exact ⟨62, "Invalid hex data: " ++ message, by simp only [handleSetdata, decoded]⟩
    · have decoded : hexDecode (withoutWhiteSpace args) = .invalid "odd-length hex string" := by
        rw [hexDecode_withoutWhiteSpace, if_pos (by omega)]
      exact ⟨62, "Invalid hex data: odd-length hex string", by simp only [handleSetdata, decoded]; rfl⟩

/-- SETDATA takes exactly hexadecimal data unless the text is one that the
decoder misreads. -/
theorem setdataExact_iff : SetdataExact state args ↔ ¬ Misread (withoutWhiteSpace args) :=
  ⟨SetdataExact.not_misread, setdataExact_of_not_misread⟩

/-- `SETDATA +1` stores a byte, and `SETDATA a€` stops the shim. -/
theorem setdata_misreads :
    ¬ SetdataExact (.start (Transparent.simpleCodecs []) [] .connect 42) "+1".toList ∧
      handleSetdata (.start (Transparent.simpleCodecs []) [] .connect 42) "a€".toList = none := by
  constructor
  · intro holds
    exact holds.not_misread (.signed [('+', '1')] rfl rfl ⟨'1', List.mem_cons_self⟩)
  · rfl

end KeyMaster.ScdShim
