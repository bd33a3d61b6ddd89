import KeyMaster.JsonRpc
import KeyMaster.JsonText

namespace KeyMaster

open Value

/-! Responses on the wire: what serde writes for them, and what the other side
reads. -/

/-! ### Serialization -/

/-- The number that an `i64` is printed as. -/
def numberOfI64 (value : Int) : Number :=
  if 0 ≤ value then .posInt (UInt64.ofNat value.toNat) else .negInt (Int64.ofInt value)

/-- A member that `skip_serializing_if = "Option::is_none"` leaves out. -/
def memberOf (name : String) (value : Option Value) : List (String × Value) :=
  (value.map fun value => (name, value)).toList

def JsonRpcError.serialize (error : JsonRpcError) : Value :=
  .object ([("code", .number (numberOfI64 error.code)), ("message", .string error.message)] ++
    memberOf "data" error.data)

/-- The members in the order of the struct's fields. -/
def JsonRpcResponse.serialize (response : JsonRpcResponse) : Value :=
  .object ([("jsonrpc", .string response.jsonrpc)] ++ memberOf "result" response.result ++
    memberOf "error" (response.error.map JsonRpcError.serialize) ++ [("id", response.id)])

/-- `write_line_message`. -/
def writeLineMessage (tree : Value) : String := tree.toJson ++ "\n"

/-! ### A line read back -/

theorem trimEnd_toJson (members : List (String × Value)) :
    trimEnd (writeLineMessage (.object members)).toList = (Value.object members).toJson.toList := by
  have closes : ∃ init, (Value.object members).toJson.toList = init ++ ['\x7d'] :=
    ⟨_, by rw [Value.toJson, String.toList_append]; rfl⟩
  obtain ⟨init, printed⟩ := closes
  have newline : isWhiteSpace '\n' = true := by decide
  have brace : isWhiteSpace '\x7d' = false := by decide
  simp [writeLineMessage, trimEnd, printed, newline, brace]

/-- What a reader of lines makes of a printed object. -/
theorem readLineMessage_writeLineMessage {α : Type} {parseJson : String → Option Value}
    {deserialize : Value → Option α} {members : List (String × Value)}
    (parsed : parseJson (Value.object members).toJson = some (.object members))
    (fits : (writeLineMessage (.object members)).utf8ByteSize ≤ maxLineSize) :
    readLineMessage parseJson deserialize (writeLineMessage (.object members)) =
      deserialize (.object members) := by
  have nonempty : writeLineMessage (.object members) ≠ "" := by
    simp [writeLineMessage]
  rw [readLineMessage, if_neg (by simp only [nonempty, false_or]; omega), trimEnd_toJson,
    String.ofList_toList, parsed, Option.bind_some]

theorem readI64_numberOfI64 (value : Int64) :
    readI64 (.number (numberOfI64 value.toInt)) = some value.toInt := by
  have upper := Int64.toInt_lt value
  unfold numberOfI64
  split
  · have small : (UInt64.ofNat value.toInt.toNat).toNat = value.toInt.toNat := by
      rw [UInt64.toNat_ofNat', Nat.mod_eq_of_lt (by omega)]
    rw [readI64, small, if_pos (by omega), Int.toNat_of_nonneg (by assumption)]
  · rw [readI64, Int64.ofInt_toInt]

theorem numberOfI64_valid (value : Int64) : (numberOfI64 value.toInt).Valid := by
  unfold numberOfI64
  split
  · trivial
  · rw [Int64.ofInt_toInt]
    change value.toInt < 0
    omega

/-! ### Responses -/

/-- A response that one of the two constructors builds from values held. -/
inductive Built : JsonRpcResponse → Prop where
  | success {id result : Value} (heldId : id.Held) (heldResult : result.Held) :
      Built (.success id result)
  | failure {id : Value} (heldId : id.Held) (code : Int64) (message : String) :
      Built (.failure id code.toInt message)

/-- The response is written as one line, which is read back as itself and as a
message that is a response. -/
structure SurvivesWire (parseJson : String → Option Value) (response : JsonRpcResponse) : Prop where
  oneLine : '\n' ∉ response.serialize.toJson.toList
  asResponse : readLineMessage parseJson JsonRpcResponse.deserialize
    (writeLineMessage response.serialize) = some response
  asMessage : ∃ message, readLineMessage parseJson JsonRpcMessage.deserialize
    (writeLineMessage response.serialize) = some message ∧
      message.isResponse = true ∧ message.isRequest = false

theorem Built.tree {response : JsonRpcResponse} (built : Built response) : response.serialize.Tree := by
  cases built with
  | success heldId heldResult =>
      simp only [JsonRpcResponse.serialize, JsonRpcResponse.success, memberOf, Value.Tree, Every,
        EveryMember, Option.map_some, Option.map_none, Option.toList, List.append_nil, List.cons_append,
        List.nil_append, true_and, and_true]
      exact ⟨heldResult.tree, heldId.tree⟩
  | failure heldId code message =>
      simp only [JsonRpcResponse.serialize, JsonRpcResponse.failure, JsonRpcError.serialize, memberOf,
        Value.Tree, Every, EveryMember, Option.map_some, Option.map_none, Option.toList, List.append_nil,
        List.cons_append, List.nil_append, true_and, and_true]
      exact ⟨numberOfI64_valid code, heldId.tree⟩

theorem optional_of_ne_null {α : Type} {read : Value → Option α} {value : Value}
    (given : value ≠ .null) : optional read (some value) = (read value).map some := by
  cases value with
  | null => exact absurd rfl given
  | bool | number | string | array | object => rfl

@[simp] theorem optional_none {α : Type} (read : Value → Option α) : optional read none = some none :=
  rfl

theorem optional_readValue (value : Value) : ∃ read, optional readValue (some value) = some read := by
  cases value with
  | null => exact ⟨none, rfl⟩
  | bool | number | string | array | object => exact ⟨_, rfl⟩

section Deserialize

variable {id result : Value}

theorem deserialize_success (heldId : id.Held) (heldResult : result.Held) (given : result ≠ .null) :
    JsonRpcResponse.deserialize (JsonRpcResponse.success id result).serialize =
      some (JsonRpcResponse.success id result) := by
  simp [JsonRpcResponse.deserialize, JsonRpcResponse.serialize, JsonRpcResponse.success, memberOf,
    fieldOnce, required, asStr, optional_of_ne_null given, readValue, heldResult.normalize_eq,
    heldId.normalize_eq]

theorem deserialize_success_message (given : result ≠ .null) :
    ∃ message, JsonRpcMessage.deserialize (JsonRpcResponse.success id result).serialize =
      some message ∧ message.isResponse = true ∧ message.isRequest = false := by
  obtain ⟨readId, isRead⟩ := optional_readValue id
  refine ⟨⟨"2.0", none, .null, some result.normalize, none, readId⟩, ?_, rfl, rfl⟩
  simp [JsonRpcMessage.deserialize, JsonRpcResponse.serialize, JsonRpcResponse.success, memberOf,
    fieldOnce, required, asStr, isRead, optional_of_ne_null given, readValue]

theorem deserialize_null :
    JsonRpcResponse.deserialize (JsonRpcResponse.success id .null).serialize =
      some ⟨"2.0", none, none, id.normalize⟩ := by
  simp [JsonRpcResponse.deserialize, JsonRpcResponse.serialize, JsonRpcResponse.success, memberOf,
    fieldOnce, required, asStr, readValue, optional]

theorem optional_error (code : Int64) (message : String) :
    optional JsonRpcError.deserialize (some (JsonRpcError.serialize ⟨code.toInt, message, none⟩)) =
      some (some ⟨code.toInt, message, none⟩) := by
  rw [optional_of_ne_null (by simp [JsonRpcError.serialize])]
  simp [JsonRpcError.deserialize, JsonRpcError.serialize, memberOf, fieldOnce, required, asStr,
    readI64_numberOfI64]

theorem deserialize_failure (heldId : id.Held) (code : Int64) (message : String) :
    JsonRpcResponse.deserialize (JsonRpcResponse.failure id code.toInt message).serialize =
      some (JsonRpcResponse.failure id code.toInt message) := by
  simp [JsonRpcResponse.deserialize, JsonRpcResponse.serialize, JsonRpcResponse.failure, memberOf,
    fieldOnce, required, asStr, readValue, heldId.normalize_eq, optional_error]

theorem deserialize_failure_message (code : Int64) (text : String) :
    ∃ message, JsonRpcMessage.deserialize (JsonRpcResponse.failure id code.toInt text).serialize =
      some message ∧ message.isResponse = true ∧ message.isRequest = false := by
  obtain ⟨readId, isRead⟩ := optional_readValue id
  refine ⟨⟨"2.0", none, .null, none, some ⟨code.toInt, text, none⟩, readId⟩, ?_, rfl, rfl⟩
  simp [JsonRpcMessage.deserialize, JsonRpcResponse.serialize, JsonRpcResponse.failure, memberOf,
    fieldOnce, required, asStr, isRead, optional_error]

end Deserialize

section Wire

variable {parseJson : String → Option Value} {response : JsonRpcResponse}

theorem readLineMessage_serialize {α : Type} (deserialize : Value → Option α)
    (parses : parseJson response.serialize.toJson = some response.serialize)
    (fits : (writeLineMessage response.serialize).utf8ByteSize ≤ maxLineSize) :
    readLineMessage parseJson deserialize (writeLineMessage response.serialize) =
      deserialize response.serialize :=
  readLineMessage_writeLineMessage parses fits

theorem not_survivesWire_null {id : Value}
    (parses : parseJson (JsonRpcResponse.success id .null).serialize.toJson =
      some (JsonRpcResponse.success id .null).serialize)
    (fits : (writeLineMessage (JsonRpcResponse.success id .null).serialize).utf8ByteSize ≤
      maxLineSize) :
    ¬ SurvivesWire parseJson (JsonRpcResponse.success id .null) := by
  intro survives
  have same := survives.asResponse
  rw [readLineMessage_serialize _ parses fits, deserialize_null] at same
  cases congrArg JsonRpcResponse.result (Option.some.inj same)

/-- A response whose text is read back survives the wire unless it is a success
whose result is null. -/
theorem survivesWire_iff (parses : parseJson response.serialize.toJson = some response.serialize)
    (built : Built response)
    (fits : (writeLineMessage response.serialize).utf8ByteSize ≤ maxLineSize) :
    SurvivesWire parseJson response ↔ response.result ≠ some .null := by
  constructor
  · intro survives isNull
    cases built with
    | success heldId heldResult =>
        cases Option.some.inj isNull
        exact not_survivesWire_null parses fits survives
    | failure heldId code message => cases isNull
  · intro given
    have oneLine := JsonText.newline_not_mem_toJson built.tree
    have read : ∀ {α : Type} (deserialize : Value → Option α),
        readLineMessage parseJson deserialize (writeLineMessage response.serialize) =
          deserialize response.serialize :=
      fun deserialize => readLineMessage_serialize deserialize parses fits
    cases built with
    | success heldId heldResult =>
        have notNull := fun isNull => given (congrArg some isNull)
        refine ⟨oneLine, ?_, ?_⟩
        · rw [read, deserialize_success heldId heldResult notNull]
        · rw [read]
          exact deserialize_success_message notNull
    | failure heldId code message =>
        refine ⟨oneLine, ?_, ?_⟩
        · rw [read, deserialize_failure heldId]
        · rw [read]
          exact deserialize_failure_message code message

end Wire

theorem survivesWire_ok :
    SurvivesWire JsonText.readJson (.success (.number (.posInt 7)) (.string "ok")) ↔
      some (Value.string "ok") ≠ some .null :=
  have built : Built (.success (.number (.posInt 7)) (.string "ok")) := .success trivial trivial
  survivesWire_iff (JsonText.readJson_toJson built.tree) built (by decide +kernel)

/-- A success without a value is read back as a message that is no response. -/
theorem null_result_lost :
    ¬ SurvivesWire JsonText.readJson (.success (.number (.posInt 7)) .null) :=
  have built : Built (.success (.number (.posInt 7)) .null) := .success trivial trivial
  not_survivesWire_null (JsonText.readJson_toJson built.tree) (by decide +kernel)

end KeyMaster
