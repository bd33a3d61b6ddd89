import KeyMaster.Json
import Mathlib.Tactic.IntervalCases

namespace KeyMaster

/-! Hexadecimal bytes: the `hex` crate. -/

def hexValue (digit : Char) : Option Nat :=
  if '0' ≤ digit ∧ digit ≤ '9' then some (digit.toNat - '0'.toNat)
  else if 'a' ≤ digit ∧ digit ≤ 'f' then some (digit.toNat - 'a'.toNat + 10)
  else if 'A' ≤ digit ∧ digit ≤ 'F' then some (digit.toNat - 'A'.toNat + 10)
  else none

def fromHexDigits : List Char → Option (List UInt8)
  | [] => some []
  | [_] => none
  | high :: low :: rest => do
      let high ← hexValue high
      let low ← hexValue low
      let bytes ← fromHexDigits rest
      some (UInt8.ofNat (high * 16 + low) :: bytes)

/-- `Vec::<u8>::from_hex`: digits of either case, an even number of them. -/
def fromHex (text : String) : Option (List UInt8) := fromHexDigits text.toList

def IsHex (count : Nat) (text : String) : Prop :=
  text.toList.length = count ∧ ∀ digit ∈ text.toList, (hexValue digit).isSome

theorem fromHexDigits_shape {digits : List Char} {bytes : List UInt8}
    (decoded : fromHexDigits digits = some bytes) :
    digits.length = 2 * bytes.length ∧ ∀ digit ∈ digits, (hexValue digit).isSome := by
  induction digits using fromHexDigits.induct generalizing bytes with
  | case1 =>
      cases decoded
      exact ⟨rfl, by simp⟩
  | case2 digit => cases decoded
  | case3 high low rest ih =>
      simp only [fromHexDigits, Option.bind_eq_bind, Option.bind_eq_some_iff] at decoded
      obtain ⟨highValue, isHigh, lowValue, isLow, tail, decodedTail, same⟩ := decoded
      cases same
      obtain ⟨length, digits⟩ := ih decodedTail
      refine ⟨by simp only [List.length_cons, length]; omega, ?_⟩
      intro digit member
      simp only [List.mem_cons] at member
      rcases member with rfl | rfl | inRest
      · simp [isHigh]
      · simp [isLow]
      · exact digits digit inRest

theorem fromHex_isHex {text : String} {bytes : List UInt8} (decoded : fromHex text = some bytes) :
    IsHex (2 * bytes.length) text :=
  fromHexDigits_shape decoded

/-- `hex::encode`: two lowercase digits a byte. -/
def toHex (bytes : List UInt8) : String :=
  String.ofList (bytes.flatMap fun byte =>
    [hexDigit (byte.toNat / 16), hexDigit (byte.toNat % 16)])

theorem hexValue_hexDigit (nibble : Nat) (bound : nibble < 16) :
    hexValue (hexDigit nibble) = some nibble := by
  interval_cases nibble <;> decide

@[simp] theorem fromHex_toHex (bytes : List UInt8) : fromHex (toHex bytes) = some bytes := by
  rw [fromHex, toHex, String.toList_ofList]
  induction bytes with
  | nil => rfl
  | cons byte rest ih =>
      have bound := byte.toNat_lt
      have high := hexValue_hexDigit (byte.toNat / 16) (by omega)
      have low := hexValue_hexDigit (byte.toNat % 16) (by omega)
      have whole : UInt8.ofNat (byte.toNat / 16 * 16 + byte.toNat % 16) = byte := by
        rw [show byte.toNat / 16 * 16 + byte.toNat % 16 = byte.toNat by omega, UInt8.ofNat_toNat]
      rw [List.flatMap_cons, List.cons_append, List.cons_append, List.nil_append]
      simp only [fromHexDigits, high, low, ih, Option.bind_eq_bind, Option.bind_some, whole]

end KeyMaster
