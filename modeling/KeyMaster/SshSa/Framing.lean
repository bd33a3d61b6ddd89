import KeyMaster.Data.Streams
import KeyMaster.SshSa.Answers

namespace KeyMaster.SshSa

open Data

/-! The byte streams of an agent client. -/

/-- A message of an allowed length, if it is all there. -/
def readPayload (stream : List UInt8) : Option (List UInt8 × List UInt8) :=
  match LengthPrefixed.readNumber stream with
  | none => none
  | some (msgLen, rest) =>
      if msgLen.toNat = 0 ∨ msgLen.toNat > maxPayload then none
      else if rest.length < msgLen.toNat then none
      else some (rest.take msgLen.toNat, rest.drop msgLen.toNat)

/-- The response to a message, given what `handle_request_identities` or
`handle_sign_request` gets for a request to the main loop. -/
def responseTo (reply : AgentRequest → List UInt8) : Handling → List UInt8
  | .answers response => response
  | .forwards request => reply request

variable {stream rest payload : List UInt8}

theorem readPayload_sound (read : readPayload stream = some (payload, rest)) :
    stream = LengthPrefixed.string payload ++ rest ∧ 1 ≤ payload.length ∧ payload.length ≤ maxPayload := by
  unfold readPayload at read
  split at read
  · cases read
  · rename_i msgLen more number
    split_ifs at read with outOfBounds short
    cases read
    have size : (more.take msgLen.toNat).length = msgLen.toNat := by
      rw [List.length_take]
      omega
    refine ⟨?_, by omega, by omega⟩
    rw [LengthPrefixed.beBytes_of_readNumber number, LengthPrefixed.string, size, UInt32.ofNat_toNat,
      List.append_assoc, List.take_append_drop]

theorem readPayload_string (nonempty : 1 ≤ payload.length) (small : payload.length ≤ maxPayload)
    (rest : List UInt8) : readPayload (LengthPrefixed.string payload ++ rest) = some (payload, rest) := by
  have fits : payload.length < 2 ^ 32 := by
    rw [maxPayload] at small
    omega
  rw [LengthPrefixed.string, List.append_assoc, readPayload, LengthPrefixed.readNumber_beBytes]
  simp only [LengthPrefixed.toNat_ofNat_length fits, List.length_append]
  rw [if_neg (by omega), if_neg (by omega), List.take_left, List.drop_left]

theorem exists_handling (nonempty : 1 ≤ payload.length) (small : payload.length ≤ maxPayload) :
    ∃ handling, handlePayload payload = .ok handling := by
  obtain ⟨msgType, body, rfl⟩ := List.exists_cons_of_length_pos nonempty
  have smallBody : body.length ≤ maxPayload := by
    rw [List.length_cons] at small
    omega
  rw [handlePayload_cons, handleSignRequest_eq smallBody]
  split_ifs <;> exact ⟨_, rfl⟩

/-- `handle_connection` on what a client sends: what it writes, given the replies
that come in for its messages. -/
def handleConnection (reply : Nat → AgentRequest → List UInt8) (served : Nat) (stream : List UInt8) :
    Except Panic (List UInt8) :=
  match _read : readPayload stream with
  | none => .ok []
  | some (payload, rest) => do
      let response := responseTo (reply served) (← handlePayload payload)
      return LengthPrefixed.string response ++ (← handleConnection reply (served + 1) rest)
termination_by stream.length
decreasing_by
  rw [(readPayload_sound _read).1, List.length_append, LengthPrefixed.string, List.length_append,
    LengthPrefixed.length_beBytes]
  omega

theorem handleConnection_none (reply : Nat → AgentRequest → List UInt8) (served : Nat)
    (ended : readPayload stream = none) : handleConnection reply served stream = .ok [] := by
  rw [handleConnection]
  split
  · rfl
  · rename_i read
    rw [ended] at read
    cases read

theorem handleConnection_some (reply : Nat → AgentRequest → List UInt8) (served : Nat)
    (read : readPayload stream = some (payload, rest)) {handling : Handling}
    (handles : handlePayload payload = .ok handling) {later : List UInt8}
    (goesOn : handleConnection reply (served + 1) rest = .ok later) :
    handleConnection reply served stream =
      .ok (LengthPrefixed.string (responseTo (reply served) handling) ++ later) := by
  rw [handleConnection]
  split
  · rename_i ended
    rw [ended] at read
    cases read
  · rename_i found more isRead
    rw [read] at isRead
    cases isRead
    rw [handles]
    simp only [bind, Except.bind, goesOn]
    rfl

/-- A response for each message, in order. -/
structure Responds (reply : Nat → AgentRequest → List UInt8) (served : Nat)
    (payloads responses : List (List UInt8)) : Prop where
  length : responses.length = payloads.length
  each : ∀ position payload, payloads[position]? = some payload → ∃ handling,
    handlePayload payload = .ok handling ∧
      responses[position]? = some (responseTo (reply (served + position)) handling)

theorem Responds.cons {reply : Nat → AgentRequest → List UInt8} {served : Nat}
    {payloads responses : List (List UInt8)} (responds : Responds reply (served + 1) payloads responses)
    {handling : Handling} (handles : handlePayload payload = .ok handling) :
    Responds reply served (payload :: payloads) (responseTo (reply served) handling :: responses) where
  length := congrArg Nat.succ responds.length
  each position other isOther := by
    cases position with
    | zero =>
        cases isOther
        exact ⟨handling, handles, rfl⟩
    | succ position =>
        obtain ⟨found, isHandling, isResponse⟩ := responds.each position other isOther
        refine ⟨found, isHandling, ?_⟩
        rw [List.getElem?_cons_succ, isResponse, Nat.succ_add_eq_add_succ]

theorem handleConnection_splits (reply : Nat → AgentRequest → List UInt8) (served : Nat)
    {payloads : List (List UInt8)}
    (splits : Streams.Splits readPayload LengthPrefixed.string stream payloads rest) :
    ∃ responses, Responds reply served payloads responses ∧
      handleConnection reply served stream = .ok (responses.flatMap LengthPrefixed.string) := by
  induction payloads generalizing stream served with
  | nil =>
      refine ⟨[], ⟨rfl, by simp⟩, ?_⟩
      have ended := splits.ended
      rw [show rest = stream from splits.whole.symm] at ended
      exact handleConnection_none reply served ended
  | cons payload payloads ih =>
      obtain ⟨_, nonempty, small⟩ := readPayload_sound splits.first
      obtain ⟨handling, handles⟩ := exists_handling nonempty small
      obtain ⟨responses, responds, goesOn⟩ := ih (served + 1) splits.tail
      exact ⟨_, responds.cons handles, handleConnection_some reply served splits.first handles goesOn⟩

/-- Whatever bytes a client sends, they are messages and a rest that is none, in
one way only.  The handler does not panic; it writes a response to each message,
and the client reads them back one by one. -/
theorem handleConnection_serves (reply : Nat → AgentRequest → List UInt8) (stream : List UInt8) :
    ∃ payloads rest responses,
      Streams.Splits readPayload LengthPrefixed.string stream payloads rest ∧
      (∀ others last, Streams.Splits readPayload LengthPrefixed.string stream others last →
        others = payloads ∧ last = rest) ∧
      Responds reply 0 payloads responses ∧
      handleConnection reply 0 stream = .ok (responses.flatMap LengthPrefixed.string) ∧
      ((∀ response ∈ responses, response.length < 2 ^ 32) → ∀ more,
        LengthPrefixed.readMany LengthPrefixed.readString responses.length
          (responses.flatMap LengthPrefixed.string ++ more) = some (responses, more)) := by
  have sound : ∀ stream payload rest, readPayload stream = some (payload, rest) →
      stream = LengthPrefixed.string payload ++ rest ∧ LengthPrefixed.string payload ≠ [] ∧
        ∀ after, readPayload (LengthPrefixed.string payload ++ after) = some (payload, after) := by
    intro stream payload rest read
    obtain ⟨whole, nonempty, small⟩ := readPayload_sound read
    refine ⟨whole, ?_, readPayload_string nonempty small⟩
    simp [LengthPrefixed.string, LengthPrefixed.beBytes]
  obtain ⟨payloads, rest, splits⟩ := Streams.exists_splits sound stream
  obtain ⟨responses, responds, written⟩ := handleConnection_splits reply 0 splits
  refine ⟨payloads, rest, responses, splits, fun others last also => also.unique splits, responds,
    written, ?_⟩
  intro fit more
  exact LengthPrefixed.readMany_flatMap
    (fun response member after => LengthPrefixed.readString_string (fit response member) after) more

example : handleConnection (fun _ _ => [sshAgentFailure]) 0 [0, 0, 0, 1, 11, 0, 0, 0, 0, 9] =
    .ok [0, 0, 0, 1, 5] := by
  rw [handleConnection_some _ _ (show readPayload _ = some ([11], [0, 0, 0, 0, 9]) from rfl) rfl
    (handleConnection_none _ _ rfl)]
  rfl

end KeyMaster.SshSa
