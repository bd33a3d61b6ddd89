import KeyMaster.Data.LengthPrefixed
import KeyMaster.Data.Streams
import KeyMaster.JsonSize
import KeyMaster.NostrSa.Client

namespace KeyMaster.NostrSa

open Data

/-! The frames between `KmNostrClient` and `km-nostr-sa`: the length of a message
in four bytes, and its JSON text. -/

/-- `serde_json::to_vec`. -/
def toVec (value : Value) : List UInt8 := Utf8.encode value.toJson.toList

inductive FrameError where
  | unexpectedEof
  | bail (message : String)
  | json (error : String)

/-- `read_exact`: the bytes and what follows them. A stream that ends before
leaves nothing behind. -/
def readExact (count : Nat) (stream : List UInt8) : Except FrameError (List UInt8) × List UInt8 :=
  if stream.length < count then (.error .unexpectedEof, [])
  else (.ok (stream.take count), stream.drop count)

/-- `u32::from_be_bytes` of a header. -/
def headerLength (header : List UInt8) : Nat :=
  match header with
  | [a, b, c, d] => (LengthPrefixed.ofBeBytes a b c d).toNat
  | _ => 0

/-- 1 MiB. -/
def maxMessageSize : Nat := 1024 * 1024

section Readers

-- `serde_json::from_slice`
variable (fromSlice : List UInt8 → Except String Value)

/-- The message of a frame whose length is read. -/
def readBody (len : Nat) (stream : List UInt8) : Except FrameError Value × List UInt8 :=
  match readExact len stream with
  | (.error error, rest) => (.error error, rest)
  | (.ok buf, rest) =>
      match fromSlice buf with
      | .ok msg => (.ok msg, rest)
      | .error error => (.error (.json error), rest)

def readFramedMessage (stream : List UInt8) : Except FrameError Value × List UInt8 :=
  match readExact 4 stream with
  | (.error error, rest) => (.error error, rest)
  | (.ok lenBuf, rest) =>
      let len := headerLength lenBuf
      if len = 0 ∨ len > maxMessageSize then (.error (.bail s!"invalid message length: {len}"), rest)
      else readBody fromSlice len rest

/-- The response that `KmNostrClient::call` reads, of any length. -/
def readResponse (stream : List UInt8) : Except FrameError Value × List UInt8 :=
  match readExact 4 stream with
  | (.error error, rest) => (.error error, rest)
  | (.ok hdr, rest) => readBody fromSlice (headerLength hdr) rest

end Readers

def writeFramedMessage (msg : Value) : List UInt8 :=
  let data := toVec msg
  LengthPrefixed.beBytes (UInt32.ofNat data.length) ++ data

/-- The request that `KmNostrClient::call` makes. -/
def callRequest (method : String) (params : Value) : Value :=
  jsonObject [("jsonrpc", .string "2.0"), ("id", .number (.posInt 1)), ("method", .string method),
    ("params", params)]

/-- What it writes. -/
def callFrame (method : String) (params : Value) : List UInt8 :=
  let payload := toVec (callRequest method params)
  LengthPrefixed.beBytes (UInt32.ofNat payload.length) ++ payload

/-! ### Frames -/

variable {fromSlice : List UInt8 → Except String Value} {msg : Value} {data rest cut : List UInt8}

theorem readExact_append (data rest : List UInt8) :
    readExact data.length (data ++ rest) = (.ok data, rest) := by
  rw [readExact, if_neg (by rw [List.length_append]; omega), List.take_left, List.drop_left]

theorem readExact_short {count : Nat} {stream : List UInt8} (short : stream.length < count) :
    readExact count stream = (.error .unexpectedEof, []) := if_pos short

theorem readBody_append (parsed : fromSlice data = .ok msg) (rest : List UInt8) :
    readBody fromSlice data.length (data ++ rest) = (.ok msg, rest) := by
  simp only [readBody, readExact_append, parsed]

theorem readBody_short {count : Nat} {stream : List UInt8} (short : stream.length < count) :
    readBody fromSlice count stream = (.error .unexpectedEof, []) := by
  simp only [readBody, readExact_short short]

/-- Behind a header that says a length in bounds, both readers read the body. -/
theorem reads_header {len : Nat} (nonempty : 1 ≤ len) (bound : len ≤ maxMessageSize) (rest : List UInt8) :
    readFramedMessage fromSlice (LengthPrefixed.beBytes (UInt32.ofNat len) ++ rest) =
        readBody fromSlice len rest ∧
      readResponse fromSlice (LengthPrefixed.beBytes (UInt32.ofNat len) ++ rest) =
        readBody fromSlice len rest := by
  have header := readExact_append (LengthPrefixed.beBytes (UInt32.ofNat len)) rest
  have number := LengthPrefixed.readNumber_beBytes (UInt32.ofNat len) []
  have length : headerLength (LengthPrefixed.beBytes (UInt32.ofNat len)) = len := by
    rw [LengthPrefixed.beBytes] at number ⊢
    rw [headerLength, (Prod.mk.inj (Option.some.inj number)).1]
    exact Nat.mod_eq_of_lt (by rw [maxMessageSize] at bound; omega)
  rw [LengthPrefixed.length_beBytes] at header
  constructor
  · simp only [readFramedMessage, header, length]
    exact if_neg (by omega)
  · simp only [readResponse, header, length]

theorem reads_frame (nonempty : 1 ≤ data.length) (bound : data.length ≤ maxMessageSize)
    (parsed : fromSlice data = .ok msg) (rest : List UInt8) :
    readFramedMessage fromSlice (LengthPrefixed.string data ++ rest) = (.ok msg, rest) ∧
      readResponse fromSlice (LengthPrefixed.string data ++ rest) = (.ok msg, rest) := by
  rw [LengthPrefixed.string, List.append_assoc]
  rw [← readBody_append parsed rest]
  exact reads_header nonempty bound (data ++ rest)

/-- A frame that breaks off does so within its header or within its data. -/
theorem cut_frame (isCut : cut <+: LengthPrefixed.string data) (proper : cut ≠ LengthPrefixed.string data) :
    cut.length < 4 ∨ ∃ start, cut = LengthPrefixed.beBytes (UInt32.ofNat data.length) ++ start ∧
      start.length < data.length := by
  rcases Nat.lt_or_ge cut.length 4 with header | body
  · exact .inl header
  · have whole : LengthPrefixed.beBytes (UInt32.ofNat data.length) <+: LengthPrefixed.string data :=
      List.prefix_append _ _
    obtain ⟨start, rfl⟩ := List.prefix_of_prefix_length_le whole isCut body
    have within : start <+: data := (List.prefix_append_right_inj _).mp isCut
    refine .inr ⟨start, rfl, ?_⟩
    rcases Nat.lt_or_eq_of_le within.length_le with short | full
    · exact short
    · exact absurd (by rw [within.eq_of_length full]; rfl) proper

theorem reads_cut (nonempty : 1 ≤ data.length) (bound : data.length ≤ maxMessageSize)
    (isCut : cut <+: LengthPrefixed.string data) (proper : cut ≠ LengthPrefixed.string data) :
    readFramedMessage fromSlice cut = (.error .unexpectedEof, []) ∧
      readResponse fromSlice cut = (.error .unexpectedEof, []) := by
  rcases cut_frame isCut proper with header | ⟨start, rfl, short⟩
  · simp only [readFramedMessage, readResponse, readExact_short header, and_self]
  · rw [← readBody_short short]
    exact reads_header nonempty bound start

/-! ### Streams -/

/-- The text of the value is read back. -/
def Inverts (fromSlice : List UInt8 → Except String Value) (value : Value) : Prop :=
  fromSlice (toVec value) = .ok value

/-- The length of the text is one that `read_framed_message` takes. -/
def Sized (msg : Value) : Prop := 1 ≤ (toVec msg).length ∧ (toVec msg).length ≤ maxMessageSize

theorem held_callRequest {method : String} {params : Value} (held : params.Held) :
    (callRequest method params).Held := by
  apply Value.held_jsonObject
  intro member isMember
  simp only [List.mem_cons, List.not_mem_nil, or_false] at isMember
  rcases isMember with rfl | rfl | rfl | rfl
  · trivial
  · trivial
  · trivial
  · exact held

/-- Requests and responses are read back in order, also from a stream that breaks
off; a length out of bounds is refused. -/
theorem framing_roundtrip (fromSlice : List UInt8 → Except String Value) :
    (∀ calls : List (String × Value),
      (∀ call ∈ calls, Inverts fromSlice (callRequest call.1 call.2) ∧
        Sized (callRequest call.1 call.2)) →
      Streams.Delivers (readFramedMessage fromSlice) (fun call => callFrame call.1 call.2)
        (fun call => .ok (callRequest call.1 call.2)) (.error .unexpectedEof) calls) ∧
    (∀ msgs : List Value, (∀ msg ∈ msgs, Inverts fromSlice msg ∧ Sized msg) →
      Streams.Delivers (readResponse fromSlice) writeFramedMessage .ok (.error .unexpectedEof) msgs) ∧
    ∀ header rest : List UInt8, header.length = 4 →
      headerLength header = 0 ∨ headerLength header > maxMessageSize →
      readFramedMessage fromSlice (header ++ rest) =
        (.error (.bail s!"invalid message length: {headerLength header}"), rest) := by
  refine ⟨?_, ?_, ?_⟩
  · intro calls wellFormed
    apply Streams.delivers_of_cuts
    · intro call member rest
      obtain ⟨inverts, sized⟩ := wellFormed call member
      exact (reads_frame sized.1 sized.2 inverts rest).1
    · intro call member cut isCut proper
      have sized := (wellFormed call member).2
      exact (reads_cut sized.1 sized.2 isCut proper).1
    · rfl
  · intro msgs wellFormed
    apply Streams.delivers_of_cuts
    · intro msg member rest
      obtain ⟨inverts, sized⟩ := wellFormed msg member
      exact (reads_frame sized.1 sized.2 inverts rest).2
    · intro msg member cut isCut proper
      have sized := (wellFormed msg member).2
      exact (reads_cut sized.1 sized.2 isCut proper).2
    · rfl
  · intro header rest isHeader invalid
    have read := readExact_append header rest
    rw [isHeader] at read
    simp only [readFramedMessage, read]
    exact if_pos invalid

namespace Sample

def sliceJson (bytes : List UInt8) : Except String Value :=
  (((Utf8.decode bytes).bind fun text => JsonText.readJson (String.ofList text)).map .ok).getD
    (.error "expected value")

theorem sliceJson_toVec {value : Value} (held : value.Held) : Inverts sliceJson value := by
  rw [Inverts, sliceJson, toVec, Utf8.decode_encode, Option.bind_some, String.ofList_toList,
    JsonText.readJson_toJson held.tree]
  rfl

def keysCall : String × Value := ("get_public_keys", jsonObject [])

def keysResponse : Value := jsonObject [("id", .number (.posInt 1)), ("result", .array [])]

theorem keys_roundtrip :
    Streams.Delivers (readFramedMessage sliceJson) (fun call => callFrame call.1 call.2)
      (fun call => .ok (callRequest call.1 call.2)) (.error .unexpectedEof) [keysCall, keysCall] ∧
    Streams.Delivers (readResponse sliceJson) writeFramedMessage .ok (.error .unexpectedEof)
      [keysResponse, .null] ∧
    readFramedMessage sliceJson [0, 0x10, 0, 1, 0x7B] =
      (.error (.bail "invalid message length: 1048577"), [0x7B]) := by
  obtain ⟨requests, responses, refused⟩ := framing_roundtrip sliceJson
  have calls : ∀ call ∈ [keysCall, keysCall],
      Inverts sliceJson (callRequest call.1 call.2) ∧ Sized (callRequest call.1 call.2) := by
    intro call member
    have same : call = keysCall := by
      simpa using member
    rw [same]
    exact ⟨sliceJson_toVec (held_callRequest (Value.held_jsonObject (by simp))), by decide, by decide⟩
  have answers : ∀ msg ∈ [keysResponse, .null], Inverts sliceJson msg ∧ Sized msg := by
    have null : Value.null.Held := trivial
    simp only [List.forall_mem_cons]
    refine ⟨⟨sliceJson_toVec (Value.held_jsonObject ?_), by decide, by decide⟩,
      ⟨sliceJson_toVec null, by decide, by decide⟩, by simp⟩
    intro member isMember
    simp only [List.mem_cons, List.not_mem_nil, or_false] at isMember
    rcases isMember with rfl | rfl <;> trivial
  exact ⟨requests _ calls, responses _ answers,
    refused [0, 0x10, 0, 1] [0x7B] rfl (by decide)⟩

end Sample

end KeyMaster.NostrSa
