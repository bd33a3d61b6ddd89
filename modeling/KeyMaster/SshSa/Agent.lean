import KeyMaster.Data.LengthPrefixed

namespace KeyMaster.SshSa

open Data

/-! The messages of an SSH agent client, as `km-ssh-sa` reads them. -/

def sshAgentcRequestIdentities : UInt8 := 11
def sshAgentIdentitiesAnswer : UInt8 := 12
def sshAgentcSignRequest : UInt8 := 13
def sshAgentSignResponse : UInt8 := 14
def sshAgentFailure : UInt8 := 5

/-! ### Checked access -/

inductive Panic where
  | index
  | slice
  | overflow
deriving DecidableEq, Repr

/-- An addition of `usize`, of 64 bits. -/
def add (left right : Nat) : Except Panic Nat :=
  if left + right < 2 ^ 64 then .ok (left + right) else .error .overflow

/-- `buf[position]`. -/
def byteAt (buf : List UInt8) (position : Nat) : Except Panic UInt8 :=
  buf[position]?.elim (.error .index) .ok

/-- `&buf[first..last]`. -/
def slice (buf : List UInt8) (first last : Nat) : Except Panic (List UInt8) :=
  if first ≤ last ∧ last ≤ buf.length then .ok ((buf.take last).drop first) else .error .slice

def numberAt (buf : List UInt8) (offset : Nat) : Except Panic UInt32 := do
  let a ← byteAt buf offset
  let b ← byteAt buf (← add offset 1)
  let c ← byteAt buf (← add offset 2)
  let d ← byteAt buf (← add offset 3)
  return LengthPrefixed.ofBeBytes a b c d

/-! ### Messages -/

/-- The string at the offset, if it is all there, and the offset after it. -/
def readString (buf : List UInt8) (offset : Nat) : Except Panic (Option (List UInt8) × Nat) := do
  let header ← add offset 4
  if header > buf.length then return (none, offset)
  let len ← numberAt buf offset
  let offset ← add offset 4
  let last ← add offset len.toNat
  if last > buf.length then return (none, offset)
  let data ← slice buf offset last
  return (some data, last)

inductive AgentRequest where
  | requestIdentities
  | signRequest (keyBlob data : List UInt8) (flags : UInt32)
deriving DecidableEq

/-- What a message leads to: an answer at once, or a request to the main loop. -/
inductive Handling where
  | answers (response : List UInt8)
  | forwards (request : AgentRequest)
deriving DecidableEq

/-- The flags after the strings, if they are all there. -/
def flagsAt (body : List UInt8) (offset : Nat) : Except Panic UInt32 := do
  if (← add offset 4) ≤ body.length then numberAt body offset else return 0

/-- `handle_sign_request` up to the request that it sends. -/
def handleSignRequest (body : List UInt8) : Except Panic Handling := do
  match ← readString body 0 with
  | (none, _) => return .answers [sshAgentFailure]
  | (some keyBlob, offset) =>
      match ← readString body offset with
      | (none, _) => return .answers [sshAgentFailure]
      | (some data, offset) =>
          let flags ← flagsAt body offset
          return .forwards (.signRequest keyBlob data flags)

/-- An iteration of `handle_connection`, once the payload is read. -/
def handlePayload (payload : List UInt8) : Except Panic Handling := do
  let msgType ← byteAt payload 0
  let msgBody ← slice payload 1 payload.length
  if msgType = sshAgentcRequestIdentities then return .forwards .requestIdentities
  else if msgType = sshAgentcSignRequest then handleSignRequest msgBody
  else return .answers [sshAgentFailure]

/-- The longest payload that is read. -/
def maxPayload : Nat := 256 * 1024

/-! ### What a body says -/

/-- The flags at the start of what follows the strings. -/
def flagsOf (rest : List UInt8) : UInt32 := ((LengthPrefixed.readNumber rest).map Prod.fst).getD 0

def IsSignBody (body keyBlob data rest : List UInt8) : Prop :=
  body = LengthPrefixed.string keyBlob ++ (LengthPrefixed.string data ++ rest)

/-! ### Reading -/

variable {buf body : List UInt8} {offset : Nat}

@[simp] theorem add_eq {left right : Nat} (fits : left + right < 2 ^ 64) :
    add left right = .ok (left + right) := if_pos fits

theorem byteAt_eq {position : Nat} {byte : UInt8} (found : buf[position]? = some byte) :
    byteAt buf position = .ok byte := by
  rw [byteAt, found]
  rfl

theorem numberAt_eq (small : buf.length ≤ maxPayload) {value : UInt32} {rest : List UInt8}
    (read : LengthPrefixed.readNumber (buf.drop offset) = some (value, rest)) :
    numberAt buf offset = .ok value := by
  match isDrop : buf.drop offset with
  | a :: b :: c :: d :: more =>
      rw [isDrop] at read
      obtain ⟨rfl, rfl⟩ := Prod.mk.inj (Option.some.inj read)
      have bytes : ∀ position, buf[offset + position]? = (a :: b :: c :: d :: more)[position]? := by
        intro position
        rw [← isDrop, List.getElem?_drop]
      have size := congrArg List.length isDrop
      simp only [List.length_drop, List.length_cons] at size
      rw [maxPayload] at small
      rw [numberAt, byteAt_eq (show buf[offset]? = some a from bytes 0), add_eq (by omega),
        add_eq (by omega), add_eq (by omega)]
      simp only [bind, Except.bind, byteAt_eq (bytes 1), byteAt_eq (bytes 2), byteAt_eq (bytes 3)]
      rfl
  | [] | [_] | [_, _] | [_, _, _] =>
      rw [isDrop] at read
      cases read

theorem readString_some (small : buf.length ≤ maxPayload) {value rest : List UInt8}
    (read : LengthPrefixed.readString (buf.drop offset) = some (value, rest)) :
    readString buf offset = .ok (some value, offset + 4 + value.length) ∧
      buf.drop (offset + 4 + value.length) = rest := by
  obtain ⟨split, fits⟩ := LengthPrefixed.string_of_readString read
  have size := congrArg List.length split
  simp only [LengthPrefixed.string, List.length_append, List.length_drop,
    LengthPrefixed.length_beBytes] at size
  rw [maxPayload] at small
  have number : LengthPrefixed.readNumber (buf.drop offset) =
      some (UInt32.ofNat value.length, value ++ rest) := by
    rw [split, LengthPrefixed.string, List.append_assoc, LengthPrefixed.readNumber_beBytes]
  have contents : buf.drop (offset + 4) = value ++ rest := by
    rw [← List.drop_drop, split, LengthPrefixed.string, List.append_assoc]
    rfl
  have taken : (buf.take (offset + 4 + value.length)).drop (offset + 4) = value := by
    rw [List.drop_take, Nat.add_sub_cancel_left, contents, List.take_left]
  constructor
  · rw [readString, add_eq (by omega)]
    simp only [bind, Except.bind]
    rw [if_neg (by omega), numberAt_eq small number]
    simp only [LengthPrefixed.toNat_ofNat_length fits]
    rw [add_eq (by omega)]
    simp only
    rw [if_neg (by omega), slice, if_pos (by omega), taken]
    rfl
  · rw [← List.drop_drop, contents, List.drop_left]

theorem readString_none (small : buf.length ≤ maxPayload) (within : offset ≤ buf.length)
    (refused : LengthPrefixed.readString (buf.drop offset) = none) :
    ∃ after, readString buf offset = .ok (none, after) := by
  rw [maxPayload] at small
  rw [readString, add_eq (by omega)]
  simp only [bind, Except.bind]
  by_cases short : offset + 4 > buf.length
  · exact ⟨offset, by rw [if_pos short]; rfl⟩
  · have enough : 4 ≤ (buf.drop offset).length := by
      rw [List.length_drop]
      omega
    obtain ⟨len, more, number⟩ := LengthPrefixed.readNumber_of_le enough
    rw [LengthPrefixed.readString, number, Option.bind_some] at refused
    have size := congrArg List.length (LengthPrefixed.beBytes_of_readNumber number)
    simp only [List.length_append, List.length_drop, LengthPrefixed.length_beBytes] at size
    have bound := len.toNat_lt
    rw [if_neg short, numberAt_eq small number]
    simp only
    rw [add_eq (by omega)]
    simp only
    refine ⟨offset + 4, ?_⟩
    simp only at refused
    split at refused
    · rw [if_pos (by omega)]
      rfl
    · cases refused

theorem flagsAt_eq (small : body.length ≤ maxPayload) (within : offset ≤ body.length) :
    flagsAt body offset = .ok (flagsOf (body.drop offset)) := by
  rw [maxPayload] at small
  rw [flagsAt, add_eq (by omega)]
  simp only [bind, Except.bind]
  by_cases enough : offset + 4 ≤ body.length
  · obtain ⟨value, rest, number⟩ := LengthPrefixed.readNumber_of_le
      (show 4 ≤ (body.drop offset).length by rw [List.length_drop]; omega)
    rw [if_pos enough, numberAt_eq small number, flagsOf, number]
    rfl
  · have none : LengthPrefixed.readNumber (body.drop offset) = none := by
      cases number : LengthPrefixed.readNumber (body.drop offset) with
      | none => rfl
      | some read =>
          have size := congrArg List.length (LengthPrefixed.beBytes_of_readNumber number)
          simp only [List.length_append, List.length_drop, LengthPrefixed.length_beBytes] at size
          omega
    rw [if_neg enough, flagsOf, none]
    rfl

/-! ### Sign requests -/

/-- The two strings of a body and what follows them. -/
def signBody (body : List UInt8) : Option (List UInt8 × List UInt8 × List UInt8) :=
  (LengthPrefixed.readString body).bind fun (keyBlob, more) =>
    (LengthPrefixed.readString more).map fun (data, rest) => (keyBlob, data, rest)

theorem isSignBody_of_signBody {keyBlob data rest : List UInt8}
    (read : signBody body = some (keyBlob, data, rest)) : IsSignBody body keyBlob data rest := by
  obtain ⟨⟨key, more⟩, first, others⟩ := Option.bind_eq_some_iff.mp read
  obtain ⟨⟨value, last⟩, second, same⟩ := Option.map_eq_some_iff.mp others
  cases same
  rw [IsSignBody, ← (LengthPrefixed.string_of_readString second).1]
  exact (LengthPrefixed.string_of_readString first).1

theorem signBody_of_isSignBody (small : body.length ≤ maxPayload) {keyBlob data rest : List UInt8}
    (split : IsSignBody body keyBlob data rest) : signBody body = some (keyBlob, data, rest) := by
  have size := congrArg List.length split
  simp only [LengthPrefixed.string, List.length_append, LengthPrefixed.length_beBytes] at size
  rw [maxPayload] at small
  rw [signBody, split, LengthPrefixed.readString_string (by omega), Option.bind_some]
  simp only [LengthPrefixed.readString_string (show data.length < 2 ^ 32 by omega), Option.map_some]

theorem handleSignRequest_eq (small : body.length ≤ maxPayload) :
    handleSignRequest body = .ok
      (match signBody body with
       | some (keyBlob, data, rest) => .forwards (.signRequest keyBlob data (flagsOf rest))
       | none => .answers [sshAgentFailure]) := by
  have start : body.drop 0 = body := List.drop_zero
  rw [handleSignRequest, signBody]
  cases first : LengthPrefixed.readString body with
  | none =>
      obtain ⟨after, read⟩ := readString_none small (Nat.zero_le _) (start.symm ▸ first)
      rw [read]
      rfl
  | some key =>
      obtain ⟨keyBlob, more⟩ := key
      obtain ⟨readKey, isMore⟩ := readString_some small (start.symm ▸ first)
      have firstSize := congrArg List.length (LengthPrefixed.string_of_readString first).1
      simp only [LengthPrefixed.string, List.length_append, LengthPrefixed.length_beBytes] at firstSize
      rw [readKey, Option.bind_some]
      simp only [bind, Except.bind]
      cases second : LengthPrefixed.readString more with
      | none =>
          obtain ⟨after, read⟩ := readString_none small (by omega) (isMore.symm ▸ second)
          rw [read]
          rfl
      | some value =>
          obtain ⟨data, rest⟩ := value
          obtain ⟨readData, isRest⟩ := readString_some small (isMore.symm ▸ second)
          have secondSize := congrArg List.length (LengthPrefixed.string_of_readString second).1
          simp only [LengthPrefixed.string, List.length_append, LengthPrefixed.length_beBytes] at secondSize
          have flags := flagsAt_eq small
            (show 0 + 4 + keyBlob.length + 4 + data.length ≤ body.length by omega)
          rw [readData]
          simp only [flags, isRest]
          rfl

/-! ### Payloads -/

theorem handlePayload_cons (msgType : UInt8) (body : List UInt8) :
    handlePayload (msgType :: body) =
      if msgType = sshAgentcRequestIdentities then .ok (.forwards .requestIdentities)
      else if msgType = sshAgentcSignRequest then handleSignRequest body
      else .ok (.answers [sshAgentFailure]) := by
  have rest : slice (msgType :: body) 1 (msgType :: body).length = .ok body := by
    rw [slice, if_pos ⟨by simp, Nat.le_refl _⟩, List.take_length]
    rfl
  rw [handlePayload, byteAt_eq (show (msgType :: body)[0]? = some msgType from rfl)]
  simp only [bind, Except.bind, rest]
  rfl

/-- A payload is handled without a panic; a sign request is forwarded exactly if
the body holds its two strings, and with what the body says. -/
theorem handlePayload_exact {payload : List UInt8} (nonempty : 1 ≤ payload.length)
    (small : payload.length ≤ maxPayload) :
    (∃ handling, handlePayload payload = .ok handling) ∧
      ∀ body, payload = sshAgentcSignRequest :: body →
        (∀ keyBlob data flags,
          handlePayload payload = .ok (.forwards (.signRequest keyBlob data flags)) ↔
            ∃ rest, IsSignBody body keyBlob data rest ∧ flags = flagsOf rest) ∧
        (∀ keyBlob data rest otherBlob otherData otherRest, IsSignBody body keyBlob data rest →
          IsSignBody body otherBlob otherData otherRest →
          keyBlob = otherBlob ∧ data = otherData ∧ rest = otherRest) ∧
        ((¬ ∃ keyBlob data rest, IsSignBody body keyBlob data rest) →
          handlePayload payload = .ok (.answers [sshAgentFailure])) := by
  obtain ⟨msgType, more, rfl⟩ := List.exists_cons_of_length_pos nonempty
  have smallBody : more.length ≤ maxPayload := by
    rw [List.length_cons] at small
    omega
  constructor
  · rw [handlePayload_cons, handleSignRequest_eq smallBody]
    split_ifs <;> exact ⟨_, rfl⟩
  · intro body isBody
    have handled : handlePayload (sshAgentcSignRequest :: body) = handleSignRequest body := by
      rw [handlePayload_cons, if_neg (by decide), if_pos rfl]
    rw [(List.cons.inj isBody).2] at smallBody
    rw [isBody, handled, handleSignRequest_eq smallBody]
    refine ⟨fun keyBlob data flags => ?_, ?_, fun absent => ?_⟩
    · constructor
      · intro forwarded
        cases read : signBody body with
        | none =>
            rw [read] at forwarded
            cases forwarded
        | some parts =>
            obtain ⟨key, value, rest⟩ := parts
            rw [read] at forwarded
            cases forwarded
            exact ⟨rest, isSignBody_of_signBody read, rfl⟩
      · rintro ⟨rest, split, rfl⟩
        rw [signBody_of_isSignBody smallBody split]
    · intro keyBlob data rest otherBlob otherData otherRest split other
      have read := signBody_of_isSignBody smallBody split
      rw [signBody_of_isSignBody smallBody other] at read
      cases read
      exact ⟨rfl, rfl, rfl⟩
    · cases read : signBody body with
      | none => rfl
      | some parts => exact absurd ⟨_, _, _, isSignBody_of_signBody read⟩ absent

/-- A key blob of one byte, no data, and flags. -/
def shortSignRequest : List UInt8 := [13, 0, 0, 0, 1, 0xAA, 0, 0, 0, 0, 0, 0, 0, 2]

theorem shortSignRequest_exact :
    (∃ handling, handlePayload shortSignRequest = .ok handling) ∧
      ∀ body, shortSignRequest = sshAgentcSignRequest :: body →
        (∀ keyBlob data flags,
          handlePayload shortSignRequest = .ok (.forwards (.signRequest keyBlob data flags)) ↔
            ∃ rest, IsSignBody body keyBlob data rest ∧ flags = flagsOf rest) ∧
        (∀ keyBlob data rest otherBlob otherData otherRest, IsSignBody body keyBlob data rest →
          IsSignBody body otherBlob otherData otherRest →
          keyBlob = otherBlob ∧ data = otherData ∧ rest = otherRest) ∧
        ((¬ ∃ keyBlob data rest, IsSignBody body keyBlob data rest) →
          handlePayload shortSignRequest = .ok (.answers [sshAgentFailure])) :=
  handlePayload_exact (by decide) (by decide)

example : handlePayload shortSignRequest = .ok (.forwards (.signRequest [0xAA] [] 2)) := by decide

end KeyMaster.SshSa
