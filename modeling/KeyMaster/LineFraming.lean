import KeyMaster.Data.Streams
import KeyMaster.JsonSize
import Mathlib.Data.List.TakeDrop

namespace KeyMaster.LineFraming

open Data

/-! The newline-delimited messages of `avatar-protocol`, as streams of bytes. -/

/-- What `serde_json` writes for a type, and reads as it. -/
structure Serde (α : Type) where
  toVec : α → List UInt8
  fromStr : String → Except String α

variable {α : Type} (serde : Serde α)

/-- The message is printed as one line without white space at its end, and what is
printed is read as the message. -/
def Serde.Inverts (msg : α) : Prop :=
  ∃ text : List Char, serde.toVec msg = Utf8.encode text ∧ '\n' ∉ text ∧ trimEnd text = text ∧
    serde.fromStr (String.ofList text) = .ok msg

inductive ReadError where
  | invalidUtf8
  | bail (message : String)
  | json (error : String)
deriving DecidableEq

/-! ### Reading and writing -/

/-- The bytes that `read_line` takes, through a line feed if there is one, and
those that it leaves. -/
def readUntil (stream : List UInt8) : List UInt8 × List UInt8 :=
  let (line, rest) := stream.span (· ≠ 0x0A)
  (line ++ rest.take 1, rest.drop 1)

/-- What `read_line_message` makes of the bytes taken. -/
def lineMessage (bytes : List UInt8) : Except ReadError α :=
  match Utf8.decode bytes with
  | none => .error .invalidUtf8
  | some line =>
      let n := bytes.length
      if n = 0 then .error (.bail "connection closed")
      else if n > maxLineSize then .error (.bail s!"line too long: {n} bytes")
      else
        match serde.fromStr (String.ofList (trimEnd line)) with
        | .ok msg => .ok msg
        | .error error => .error (.json error)

def readLineMessage (stream : List UInt8) : Except ReadError α × List UInt8 :=
  let (bytes, rest) := readUntil stream
  (lineMessage serde bytes, rest)

def writeLineMessage (msg : α) : List UInt8 := serde.toVec msg ++ [0x0A]

/-! ### Lines of a stream -/

/-- A line that someone writes: a message, or any other bytes. -/
inductive Line (α : Type) where
  | message (msg : α)
  | other (bytes : List UInt8)

namespace Line

def write : Line α → List UInt8
  | .message msg => writeLineMessage serde msg
  | .other bytes => bytes ++ [0x0A]

/-- The other lines considered are those that are too long. -/
def WellFormed : Line α → Prop
  | .message msg => serde.Inverts msg
  | .other bytes => 0x0A ∉ bytes ∧ maxLineSize < bytes.length + 1

/-- The error that a line is refused with for its length. -/
def refusal (line : List UInt8) : ReadError :=
  if (Utf8.decode line).isSome then .bail s!"line too long: {line.length} bytes" else .invalidUtf8

def result : Line α → Except ReadError α
  | .message msg =>
      if (writeLineMessage serde msg).length ≤ maxLineSize then .ok msg
      else .error (refusal (writeLineMessage serde msg))
  | .other bytes => .error (refusal (bytes ++ [0x0A]))

end Line

/-! ### One line -/

variable {serde} {msg : α} {bytes rest : List UInt8}

theorem ne_newline_of_not_mem (absent : 0x0A ∉ bytes) : ∀ byte ∈ bytes, decide (byte ≠ 0x0A) = true := by
  intro byte member
  rw [decide_eq_true_eq]
  rintro rfl
  exact absent member

theorem readUntil_line (absent : 0x0A ∉ bytes) (rest : List UInt8) :
    readUntil (bytes ++ [0x0A] ++ rest) = (bytes ++ [0x0A], rest) := by
  have inLine := ne_newline_of_not_mem absent
  rw [readUntil, List.span_eq_takeWhile_dropWhile, List.append_assoc, List.takeWhile_append_of_pos inLine,
    List.dropWhile_append_of_pos inLine]
  simp

theorem readUntil_end (absent : 0x0A ∉ bytes) : readUntil bytes = (bytes, []) := by
  have inLine := ne_newline_of_not_mem absent
  have whole : readUntil (bytes ++ []) = (bytes, []) := by
    rw [readUntil, List.span_eq_takeWhile_dropWhile, List.takeWhile_append_of_pos inLine,
      List.dropWhile_append_of_pos inLine]
    simp
  rwa [List.append_nil] at whole

theorem lineMessage_long (long : maxLineSize < bytes.length) :
    lineMessage serde bytes = .error (Line.refusal bytes) := by
  rw [lineMessage, Line.refusal]
  cases Utf8.decode bytes with
  | none => rfl
  | some line =>
      simp only [Option.isSome_some, if_true]
      rw [if_neg (by omega), if_pos long]

theorem trimEnd_append_newline (text : List Char) : trimEnd (text ++ ['\n']) = trimEnd text := by
  have newline : isWhiteSpace '\n' = true := by decide
  rw [trimEnd, List.reverse_append, List.reverse_singleton, List.singleton_append,
    List.dropWhile_cons_of_pos newline, trimEnd]

theorem lineMessage_message (inverts : serde.Inverts msg)
    (fits : (writeLineMessage serde msg).length ≤ maxLineSize) :
    lineMessage serde (writeLineMessage serde msg) = .ok msg := by
  obtain ⟨text, printed, _, noSpace, parsed⟩ := inverts
  have encoded : writeLineMessage serde msg = Utf8.encode (text ++ ['\n']) := by
    rw [writeLineMessage, printed, Utf8.encode_append]
    rfl
  have nonempty : 0 < (writeLineMessage serde msg).length := by
    rw [writeLineMessage, List.length_append]
    exact Nat.succ_pos _
  rw [encoded] at fits nonempty ⊢
  rw [lineMessage, Utf8.decode_encode]
  simp only [trimEnd_append_newline, noSpace, parsed]
  rw [if_neg (by omega), if_neg (by omega)]

theorem newline_not_mem_toVec (inverts : serde.Inverts msg) : 0x0A ∉ serde.toVec msg := by
  obtain ⟨text, printed, oneLine, _⟩ := inverts
  rw [printed, Utf8.mem_encode_iff (show (0x0A : UInt8).toNat = '\n'.toNat from rfl) (by decide)]
  exact oneLine

/-- A line is taken as a whole, with or without an error. -/
theorem reads_line {line : Line α} (wellFormed : line.WellFormed serde) (rest : List UInt8) :
    readLineMessage serde (line.write serde ++ rest) = (line.result serde, rest) := by
  cases line with
  | message msg =>
      have read := readUntil_line (newline_not_mem_toVec wellFormed) rest
      rw [readLineMessage, Line.write, writeLineMessage, read, Line.result]
      by_cases fits : (writeLineMessage serde msg).length ≤ maxLineSize
      · rw [if_pos fits]
        exact congrArg (·, rest) (lineMessage_message wellFormed fits)
      · rw [if_neg fits]
        exact congrArg (·, rest) (lineMessage_long (Nat.lt_of_not_le fits))
  | other bytes =>
      obtain ⟨absent, long⟩ := wellFormed
      simp only [readLineMessage, Line.write, readUntil_line absent, Line.result]
      exact congrArg (·, rest) (lineMessage_long (by rw [List.length_append]; exact long))

theorem readLineMessage_nil :
    readLineMessage serde [] = (.error (.bail "connection closed"), []) := by
  have empty : Utf8.decode [] = some [] := Utf8.decode_encode []
  rw [readLineMessage, readUntil_end List.not_mem_nil]
  simp only [lineMessage, empty, List.length_nil, if_true]

/-- On a line of text it is the reader of lines. -/
theorem toOption_lineMessage {parseJson : String → Option Value} {deserialize : Value → Option α}
    (parses : ∀ text, (serde.fromStr text).toOption = (parseJson text).bind deserialize) (line : String) :
    (lineMessage serde (Utf8.encode line.toList)).toOption =
      KeyMaster.readLineMessage parseJson deserialize line := by
  have size : (Utf8.encode line.toList).length = line.utf8ByteSize := textSize_eq line
  have closed : line.utf8ByteSize = 0 ↔ line = "" := String.utf8ByteSize_eq_zero_iff
  rw [lineMessage, Utf8.decode_encode, KeyMaster.readLineMessage]
  simp only [size, closed]
  by_cases ended : line = ""
  · rw [if_pos ended, if_pos (.inl ended)]
    rfl
  · by_cases long : line.utf8ByteSize > maxLineSize
    · rw [if_neg ended, if_pos long, if_pos (.inr long)]
      rfl
    · rw [if_neg ended, if_neg long, if_neg (not_or.mpr ⟨ended, long⟩), ← parses]
      cases serde.fromStr (String.ofList (trimEnd line.toList)) <;> rfl

/-! ### Streams -/

theorem readLines (lines : List (Line α)) (wellFormed : ∀ line ∈ lines, line.WellFormed serde)
    (count : Nat) :
    Streams.readTimes (readLineMessage serde) (lines.length + count) (lines.flatMap (Line.write serde)) =
      (lines.map (Line.result serde) ++ List.replicate count (.error (.bail "connection closed")), []) := by
  have read := Streams.readTimes_flatMap (fun line member => reads_line (wellFormed line member)) []
  rw [List.append_nil] at read
  rw [Streams.readTimes_add, read, Streams.readTimes_stuck readLineMessage_nil]

/-- Messages that fit are read back in order, and then the connection is closed.
Longer lines are errors that take the line and nothing else. -/
theorem newline_roundtrip (serde : Serde α) :
    (∀ messages : List α, (∀ msg ∈ messages, serde.Inverts msg ∧
        (writeLineMessage serde msg).length ≤ maxLineSize) →
      ∀ count, Streams.readTimes (readLineMessage serde) (messages.length + count)
          (messages.flatMap (writeLineMessage serde)) =
        (messages.map .ok ++ List.replicate count (.error (.bail "connection closed")), [])) ∧
    (∀ lines : List (Line α), (∀ line ∈ lines, line.WellFormed serde) →
      ∀ count, Streams.readTimes (readLineMessage serde) (lines.length + count)
          (lines.flatMap (Line.write serde)) =
        (lines.map (Line.result serde) ++ List.replicate count (.error (.bail "connection closed")), [])) ∧
    ∀ bytes : List UInt8, 0x0A ∉ bytes → maxLineSize < bytes.length →
      readLineMessage serde bytes = (.error (Line.refusal bytes), []) := by
  refine ⟨?_, readLines, ?_⟩
  · intro messages wellFormed count
    have written : ∀ line ∈ messages.map Line.message, line.WellFormed serde := by
      intro line member
      obtain ⟨msg, isMessage, rfl⟩ := List.mem_map.mp member
      exact (wellFormed msg isMessage).1
    have lines := readLines _ written count
    have results : messages.map (Line.result serde ∘ Line.message) = messages.map .ok :=
      List.map_congr_left fun msg member => if_pos (wellFormed msg member).2
    rw [List.length_map, List.flatMap_map, List.map_map, results] at lines
    exact lines
  · intro bytes absent long
    rw [readLineMessage, readUntil_end absent]
    exact congrArg (·, []) (lineMessage_long long)

namespace Sample

def valueSerde : Serde Value where
  toVec value := Utf8.encode value.toJson.toList
  fromStr text := (JsonText.readJson text).elim (.error "expected value") .ok

theorem inverts_object {members : List (String × Value)} (tree : (Value.object members).Tree) :
    valueSerde.Inverts (.object members) := by
  refine ⟨(Value.object members).toJson.toList, rfl, JsonText.newline_not_mem_toJson tree, ?_, ?_⟩
  · have trimmed := trimEnd_toJson members
    rw [KeyMaster.writeLineMessage, String.toList_append] at trimmed
    rw [← trimEnd_append_newline]
    exact trimmed
  · simp only [valueSerde, String.ofList_toList, JsonText.readJson_toJson tree, Option.elim_some]

def request : Value := .object [("id", .number (.posInt 1)), ("method", .string "connect")]

def letters (count : Nat) : List UInt8 := List.replicate count 0x61

theorem request_roundtrip :
    Streams.readTimes (readLineMessage valueSerde) 3 (writeLineMessage valueSerde request ++
        writeLineMessage valueSerde request) =
      ([.ok request, .ok request, .error (.bail "connection closed")], []) ∧
    Streams.readTimes (readLineMessage valueSerde) 2 (letters maxLineSize ++ [0x0A] ++
        writeLineMessage valueSerde request) =
      ([.error (Line.refusal (letters maxLineSize ++ [0x0A])), .ok request], []) ∧
    readLineMessage valueSerde (letters (maxLineSize + 1)) =
      (.error (Line.refusal (letters (maxLineSize + 1))), []) := by
  have inverts : valueSerde.Inverts request :=
    inverts_object (by simp [Value.Tree, Value.Every, Value.EveryMember, Number.Valid])
  have fits : (writeLineMessage valueSerde request).length ≤ maxLineSize := by decide +kernel
  have absent : ∀ count, 0x0A ∉ letters count := by
    intro count
    simp [letters]
  obtain ⟨messages, lines, unfinished⟩ := newline_roundtrip valueSerde
  refine ⟨?_, ?_, ?_⟩
  · have read := messages [request, request] (by simp [inverts, fits]) 1
    simpa using read
  · have read := lines [.other (letters maxLineSize), .message request]
      (by simp [Line.WellFormed, inverts, letters]) 0
    simpa [Line.write, Line.result, fits] using read
  · exact unfinished _ (absent _) (by simp [letters])

end Sample

end KeyMaster.LineFraming
