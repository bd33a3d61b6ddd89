import Mathlib.Data.List.Basic

namespace KeyMaster.Data.Percent

/-! Bytes in which a percent sign starts an escape of two hexadecimal digits. -/

/-- The value of a digit of either case. -/
def hexDigit (byte : UInt8) : Option Nat :=
  if 0x30 ≤ byte.toNat ∧ byte.toNat ≤ 0x39 then some (byte.toNat - 0x30)
  else if 0x41 ≤ byte.toNat ∧ byte.toNat ≤ 0x46 then some (byte.toNat - 0x37)
  else if 0x61 ≤ byte.toNat ∧ byte.toNat ≤ 0x66 then some (byte.toNat - 0x57)
  else none

/-- The bytes that an encoding stands for, unless an escape is broken. -/
def decode : List UInt8 → Option (List UInt8)
  | [] => some []
  | 0x25 :: high :: low :: rest =>
      (hexDigit high).bind fun first => (hexDigit low).bind fun second =>
        (decode rest).map (UInt8.ofNat (first * 16 + second) :: ·)
  | byte :: rest => if byte = 0x25 then none else (decode rest).map (byte :: ·)

/-- Each percent sign is followed by two digits. -/
def Escaped (bytes : List UInt8) : Prop :=
  ∀ before after, bytes = before ++ 0x25 :: after →
    ∃ high low rest, after = high :: low :: rest ∧ (hexDigit high).isSome ∧ (hexDigit low).isSome

variable {byte : UInt8} {rest : List UInt8}

theorem decode_cons_of_ne (plain : byte ≠ 0x25) :
    decode (byte :: rest) = (decode rest).map (byte :: ·) := by
  rw [decode.eq_def]
  split
  · rename_i same
    cases same
  · rename_i same
    exact absurd (List.cons.inj same).1 plain
  · rename_i same
    obtain ⟨rfl, rfl⟩ := List.cons.inj same
    rw [if_neg plain]

theorem escaped_nil : Escaped [] := by
  intro before after split
  simp at split

theorem Escaped.cons (escaped : Escaped rest) (plain : byte ≠ 0x25) : Escaped (byte :: rest) := by
  intro before after split
  cases before with
  | nil => exact absurd (List.cons.inj split).1 plain
  | cons first before => exact escaped before after (List.cons.inj split).2

theorem Escaped.escape {high low : UInt8} (escaped : Escaped rest) (isHigh : (hexDigit high).isSome)
    (isLow : (hexDigit low).isSome) : Escaped (0x25 :: high :: low :: rest) := by
  have digit : ∀ {byte : UInt8}, (hexDigit byte).isSome → byte ≠ 0x25 := by
    rintro byte isDigit rfl
    cases isDigit
  have tail : Escaped (high :: low :: rest) := (escaped.cons (digit isLow)).cons (digit isHigh)
  intro before after split
  cases before with
  | nil => exact ⟨high, low, rest, ((List.cons.inj split).2).symm, isHigh, isLow⟩
  | cons first before => exact tail before after (List.cons.inj split).2

/-- What can be decoded is escaped. -/
theorem escaped_of_decode {bytes data : List UInt8} (decoded : decode bytes = some data) :
    Escaped bytes := by
  fun_induction decode bytes generalizing data with
  | case1 => exact escaped_nil
  | case2 high low rest ih =>
      obtain ⟨first, isFirst, decoded⟩ := Option.bind_eq_some_iff.mp decoded
      obtain ⟨second, isSecond, decoded⟩ := Option.bind_eq_some_iff.mp decoded
      obtain ⟨later, isLater, _⟩ := Option.map_eq_some_iff.mp decoded
      apply (ih isLater).escape
      · rw [isFirst, Option.isSome_some]
      · rw [isSecond, Option.isSome_some]
  | case3 => cases decoded
  | case4 byte rest _ plain ih =>
      obtain ⟨later, isLater, _⟩ := Option.map_eq_some_iff.mp decoded
      exact (ih isLater).cons plain

end KeyMaster.Data.Percent
