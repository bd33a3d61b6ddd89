import KeyMaster.Avatar.LocalApi
import KeyMaster.JsonRpcWire

namespace KeyMaster

open Value

/-! The answer that a local client gets for a KeyMaster's answer. -/

variable {C : Crates}

/-- The response for the local client has its request's id and the outcome of the
KeyMaster's message: the same error, or else the same result. -/
structure KeepsAnswer (request : JsonRpcRequest) (message : JsonRpcMessage)
    (response : JsonRpcResponse) : Prop where
  id : response.id = request.id.getD .null
  error : response.error = message.error
  result : message.error = none → response.result = message.result

/-- The plaintext is an object with the id of the local request. -/
def NamesRequest (tree : Value) (request : JsonRpcRequest) : Prop :=
  ∃ members id, tree = .object members ∧ ("id", id) ∈ members ∧
    id.normalize = request.id.getD .null

/-! ### One member of a tree -/

section Members

variable {members : List (String × Value)} {name : String} {value : Value}

theorem fieldOnce_eq_some (found : fieldOnce members name = some (some value)) :
    (name, value) ∈ members := by
  unfold fieldOnce at found
  split at found
  · cases found
  · rename_i member only
    cases found
    have kept : member ∈ members.filter fun member => member.1 = name := by
      rw [only]
      exact List.mem_singleton_self _
    obtain ⟨inMembers, isName⟩ := List.mem_filter.mp kept
    rw [← of_decide_eq_true isName]
    exact inMembers
  · cases found

theorem fieldOnce_of_mem {field : Option Value} (once : fieldOnce members name = some field)
    (member : (name, value) ∈ members) : field = some value := by
  have kept : (name, value) ∈ members.filter fun member => member.1 = name :=
    List.mem_filter.mpr ⟨member, by simp⟩
  unfold fieldOnce at once
  split at once
  · rename_i none
    rw [none] at kept
    cases kept
  · rename_i only single
    rw [single, List.mem_singleton] at kept
    rw [← Option.some.inj once, ← kept]
  · cases once

theorem mem_normalizeMembers {held : Value} :
    (name, held) ∈ normalizeMembers members ↔
      ∃ value, (name, value) ∈ members ∧ held = value.normalize := by
  simp [normalizeMembers_eq, mapValues, eq_comm]

/-- A member that is there once is held under its name. -/
theorem mem_mapOfMembers_of_fieldOnce (found : fieldOnce members name = some (some value)) :
    (name, value.normalize) ∈ mapOfMembers (normalizeMembers members) := by
  have lookup : (mapOfMembers (normalizeMembers members)).lookup name =
      (normalizeMembers members).reverse.lookup name :=
    get_jsonObject (normalizeMembers members) name
  have present : ((normalizeMembers members).reverse.lookup name).isSome := by
    rw [isSome_lookup, List.mem_map]
    exact ⟨(name, value.normalize), List.mem_reverse.mpr
      (mem_normalizeMembers.mpr ⟨value, fieldOnce_eq_some found, rfl⟩), rfl⟩
  obtain ⟨held, isHeld⟩ := Option.isSome_iff_exists.mp present
  have source : ∃ other, (name, other) ∈ members ∧ held = other.normalize := by
    obtain ⟨left, right, split, _⟩ := List.lookup_eq_some_iff.mp isHeld
    apply mem_normalizeMembers.mp
    rw [← List.mem_reverse, split]
    simp
  obtain ⟨other, inMembers, rfl⟩ := source
  cases fieldOnce_of_mem found inMembers
  rw [← lookup] at isHeld
  exact (lookup_eq_some_of_nodup (keyOrdered_mapOfMembers _).nodup).mp isHeld

/-- What an object holds is smaller than the object. -/
theorem normalize_ne_object (found : fieldOnce members name = some (some value)) :
    value.normalize ≠ (Value.object members).normalize := by
  intro same
  have member := List.sizeOf_lt_of_mem (mem_mapOfMembers_of_fieldOnce found)
  rw [same, Value.normalize, Prod.mk.sizeOf_spec, Value.object.sizeOf_spec] at member
  omega

theorem normalize_ne_array {items : List Value} (member : value ∈ items) :
    value.normalize ≠ (Value.array items).normalize := by
  have inItems : value.normalize ∈ normalizeItems items := by
    induction items with
    | nil => cases member
    | cons item items ih =>
        rw [normalizeItems, List.mem_cons]
        rcases List.mem_cons.mp member with rfl | inRest
        · exact .inl rfl
        · exact .inr (ih inRest)
  intro same
  have smaller := List.sizeOf_lt_of_mem inItems
  rw [same, Value.normalize, Value.array.sizeOf_spec] at smaller
  omega

end Members

/-! ### The two readings of an answer -/

section Readings

variable {members : List (String × Value)} {message : JsonRpcMessage}

theorem optional_readValue_eq_some {field : Option Value} {value : Value}
    (read : optional readValue field = some (some value)) :
    ∃ given, field = some given ∧ value = given.normalize := by
  cases field with
  | none => cases read
  | some given =>
      cases given with
      | null => cases read
      | bool | number | string | array | object =>
          cases read
          exact ⟨_, rfl, rfl⟩

/-- As a response, a message has the same outcome, if it has an id at all. -/
theorem deserialize_of_message
    (read : JsonRpcMessage.deserialize (.object members) = some message) :
    ∃ field, fieldOnce members "id" = some field ∧
      JsonRpcResponse.deserialize (.object members) = field.map fun id =>
        ⟨message.jsonrpc, message.result, message.error, id.normalize⟩ := by
  simp only [JsonRpcMessage.deserialize, Option.bind_eq_bind, Option.bind_eq_some_iff] at read
  obtain ⟨_, jsonrpcField, jsonrpc, isJsonrpc, _, _, method, _, _, _, _, resultField, result, isResult,
    _, errorField, error, isError, field, idField, id, isId, same⟩ := read
  cases Option.some.inj same
  refine ⟨field, idField, ?_⟩
  simp only [JsonRpcResponse.deserialize, jsonrpcField, resultField, errorField, idField, isJsonrpc,
    isResult, isError, Option.bind_eq_bind, Option.bind_some]
  cases field <;> rfl

theorem not_result_object (read : JsonRpcMessage.deserialize (.object members) = some message) :
    message.result ≠ some (Value.object members).normalize := by
  simp only [JsonRpcMessage.deserialize, Option.bind_eq_bind, Option.bind_eq_some_iff] at read
  obtain ⟨_, _, jsonrpc, _, _, _, method, _, _, _, field, resultField, result, isResult, _, _, error, _,
    _, _, id, _, same⟩ := read
  cases Option.some.inj same
  rintro rfl
  obtain ⟨given, rfl, whole⟩ := optional_readValue_eq_some isResult
  exact normalize_ne_object resultField whole.symm

/-- An array that reads as a message is too long for a response. -/
theorem deserialize_array {items : List Value}
    (read : JsonRpcMessage.deserialize (.array items) = some message) :
    JsonRpcResponse.deserialize (.array items) = none ∧
      message.result ≠ some (Value.array items).normalize := by
  match items, read with
  | jsonrpc :: method :: params :: result :: error :: last, read =>
      refine ⟨rfl, ?_⟩
      simp only [JsonRpcMessage.deserialize, Option.bind_eq_bind, Option.bind_eq_some_iff] at read
      obtain ⟨_, _, _, _, held, isHeld, _, _, same⟩ := read
      have kept : message.result = held := by
        split at same
        · cases Option.some.inj same
          rfl
        · obtain ⟨_, _, whole⟩ := Option.bind_eq_some_iff.mp same
          cases Option.some.inj whole
          rfl
        · cases same
      rw [kept]
      rintro rfl
      obtain ⟨given, isResult, whole⟩ := optional_readValue_eq_some isHeld
      cases Option.some.inj isResult
      exact normalize_ne_array (by simp) whole.symm

end Readings

/-! ### What the local client gets -/

section Answer

variable {request : JsonRpcRequest} {message : JsonRpcMessage} {tree : Value}

/-- The raw value in a success is never the outcome of the message. -/
theorem not_keepsAnswer_raw (id : Value)
    (other : message.result ≠ some tree.normalize) :
    ¬ KeepsAnswer request message (.success id tree.normalize) := by
  intro keeps
  have noError : message.error = none := keeps.error.symm
  exact other (keeps.result noError).symm

theorem response_answered {event : Event C} {plaintext : String}
    (parsed : C.parseJson plaintext = some tree) :
    (Outcome.answered event plaintext).response request =
      ((JsonRpcResponse.deserialize tree).getD (.success (request.id.getD .null) tree.normalize)) := by
  simp only [Outcome.response, parsed]
  cases JsonRpcResponse.deserialize tree <;> rfl

theorem keepsAnswer_deserialized_iff (read : JsonRpcMessage.deserialize tree = some message) :
    KeepsAnswer request message
        ((JsonRpcResponse.deserialize tree).getD (.success (request.id.getD .null) tree.normalize)) ↔
      NamesRequest tree request := by
  match tree, read with
  | .object members, read =>
      obtain ⟨field, idField, asResponse⟩ := deserialize_of_message read
      rw [asResponse]
      cases field with
      | none =>
          constructor
          · intro keeps
            exact absurd keeps (not_keepsAnswer_raw _ (not_result_object read))
          · intro ⟨others, id, same, member, _⟩
            cases same
            cases fieldOnce_of_mem idField member
      | some id =>
          constructor
          · intro keeps
            exact ⟨members, id, rfl, fieldOnce_eq_some idField, keeps.id⟩
          · intro ⟨others, other, same, member, named⟩
            cases same
            cases fieldOnce_of_mem idField member
            exact ⟨named, rfl, fun _ => rfl⟩
  | .array items, read =>
      obtain ⟨noResponse, other⟩ := deserialize_array read
      rw [noResponse]
      constructor
      · intro keeps
        exact absurd keeps (not_keepsAnswer_raw _ other)
      · intro ⟨others, id, same, _⟩
        cases same

/-- The local client gets its id and the KeyMaster's outcome exactly if the
answer is an object with the id of the local request. -/
theorem keepsAnswer_iff (request : JsonRpcRequest) (event : Event C) {plaintext : String}
    (parsed : C.parseJson plaintext = some tree)
    (read : JsonRpcMessage.deserialize tree = some message) :
    KeepsAnswer request message ((Outcome.answered event plaintext).response request) ↔
      NamesRequest tree request := by
  rw [response_answered parsed, keepsAnswer_deserialized_iff read]

end Answer

/-! Answers to a request with the id 7. -/

namespace Transparent

def denied (id : List (String × Value)) : Value :=
  .object ([("jsonrpc", .string "2.0"), ("error", .object [("code", .number (.negInt (-1))),
    ("message", .string "denied")])] ++ id)

def withId (id : UInt64) : Value := denied [("id", .number (.posInt id))]

def deniedMessage (id : Option Value) : JsonRpcMessage :=
  ⟨"2.0", none, .null, none, some ⟨-1, "denied", none⟩, id⟩

abbrev relayCrates (tree : Value) : Crates := Transparent.crates [(tree.toJson, tree)]

theorem parseJson_toJson (tree : Value) : (relayCrates tree).parseJson tree.toJson = some tree :=
  List.lookup_cons_self

def seventh : JsonRpcRequest := ⟨"2.0", "ssh.sign_request", .null, some (.number (.posInt 7))⟩

def answer (tree : Value) : Event (relayCrates tree) := ⟨1, 2, protocolKind, [], ""⟩

end Transparent

open Transparent in
theorem withId_keepsAnswer :
    KeepsAnswer seventh (deniedMessage (some (.number (.posInt 7))))
        ((Outcome.answered (answer (withId 7)) (withId 7).toJson).response seventh) ↔
      NamesRequest (withId 7) seventh :=
  keepsAnswer_iff seventh (answer (withId 7)) (parseJson_toJson _) rfl

open Transparent in
/-- An error without an id is relayed as a success. -/
theorem error_relayed_as_success :
    JsonRpcMessage.deserialize (denied []) = some (deniedMessage none) ∧
      (deniedMessage none).isResponse = true ∧
      ¬ KeepsAnswer seventh (deniedMessage none)
        ((Outcome.answered (answer (denied [])) (denied []).toJson).response seventh) := by
  refine ⟨rfl, rfl, ?_⟩
  intro keeps
  have error := keeps.error
  rw [response_answered (parseJson_toJson _)] at error
  cases error

end KeyMaster
