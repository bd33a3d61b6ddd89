import KeyMaster.Codecs
import KeyMaster.JsonRpcWire

namespace KeyMaster

open Value

/-! Messages that a relay reads and writes again. -/

/-- `read_line_message::<JsonRpcResponse>`. -/
def readResponseLine (codecs : Codecs) (text : String) : Option JsonRpcResponse :=
  readLineMessage (fun json => (codecs.parseJson json).toOption) JsonRpcResponse.deserialize text

/-! ### Requests -/

/-- An array may not end before its last field: `id` has no
`#[serde(default)]`, which `params` has. -/
def JsonRpcRequest.deserialize : Value → Option JsonRpcRequest
  | .object members => do
      let jsonrpc ← required Value.asStr (← fieldOnce members "jsonrpc")
      let method ← required Value.asStr (← fieldOnce members "method")
      let params ← fieldOnce members "params"
      let id ← optional readValue (← fieldOnce members "id")
      some { jsonrpc, method, params := (params.map Value.normalize).getD .null, id }
  | .array [jsonrpc, method, params, id] => do
      let jsonrpc ← jsonrpc.asStr
      let method ← method.asStr
      let id ← optional readValue (some id)
      some { jsonrpc, method, params := params.normalize, id }
  | _ => none

/-- `read_line_message::<JsonRpcRequest>`. -/
def readRequestLine (codecs : Codecs) (text : String) : Option JsonRpcRequest :=
  readLineMessage (fun json => (codecs.parseJson json).toOption) JsonRpcRequest.deserialize text

/-- A member that `skip_serializing_if = "Value::is_null"` leaves out. -/
def memberUnlessNull (name : String) (value : Value) : List (String × Value) :=
  if value.isNull then [] else [(name, value)]

def JsonRpcRequest.serialize (request : JsonRpcRequest) : Value :=
  .object ([("jsonrpc", .string request.jsonrpc), ("method", .string request.method)] ++
    memberUnlessNull "params" request.params ++ memberOf "id" request.id)

/-- A request as one that was read is: an absent id and a `null` are the same. -/
structure JsonRpcRequest.Read (request : JsonRpcRequest) : Prop where
  params : request.params.Held
  id : ∀ id, request.id = some id → id.Held ∧ id ≠ .null

variable {request : JsonRpcRequest}

/-! ### Requests read -/

theorem mem_of_fieldOnce {members : List (String × Value)} {name : String} {value : Value}
    (found : fieldOnce members name = some (some value)) : (name, value) ∈ members := by
  unfold fieldOnce at found
  split at found
  · cases found
  · rename_i member only
    have inside : member ∈ members.filter fun member => member.1 = name := by
      rw [only]
      exact List.mem_singleton_self _
    rw [List.mem_filter, decide_eq_true_eq] at inside
    cases found
    rw [← inside.2]
    exact inside.1
  · cases found

theorem normalize_ne_null {value : Value} (given : value ≠ .null) : value.normalize ≠ .null := by
  cases value with
  | null => exact absurd rfl given
  | bool | number | string => exact given
  | array items => simp [Value.normalize]
  | object members => simp [Value.normalize]

theorem readId_held {read : Option (Option Value)} {value id : Value} (tree : value.Tree)
    (isRead : optional readValue (some value) = read) (isId : read = some (some id)) :
    id.Held ∧ id ≠ .null := by
  by_cases given : value = .null
  · rw [← isRead, given] at isId
    cases isId
  · rw [← isRead, optional_of_ne_null given] at isId
    cases isId
    exact ⟨tree.held, normalize_ne_null given⟩

theorem JsonRpcRequest.read_of_deserialize {tree : Value} (isTree : tree.Tree)
    (reads : JsonRpcRequest.deserialize tree = some request) : request.Read := by
  unfold JsonRpcRequest.deserialize at reads
  split at reads
  · rename_i members
    have parts := everyMember_iff.mp isTree.2
    simp only [Option.bind_eq_bind, Option.bind_eq_some_iff] at reads
    obtain ⟨_, _, jsonrpc, _, _, _, method, _, params, isParams, idField, isId, id, read, same⟩ := reads
    cases same
    constructor
    · cases params with
      | none => trivial
      | some value => exact Tree.held (parts _ (mem_of_fieldOnce isParams))
    · rintro last rfl
      cases idField with
      | none => cases read
      | some value => exact readId_held (parts _ (mem_of_fieldOnce isId)) read rfl
  · rename_i first second params last
    have parts := isTree
    simp only [Value.Tree, Value.Every, Value.EveryItem] at parts
    simp only [Option.bind_eq_bind, Option.bind_eq_some_iff] at reads
    obtain ⟨jsonrpc, _, method, _, id, read, same⟩ := reads
    cases same
    refine ⟨Tree.held parts.2.2.1, ?_⟩
    rintro found rfl
    exact readId_held parts.2.2.2.1 read rfl
  · cases reads

/-! ### Requests written -/

theorem memberUnlessNull_of_ne_null {value : Value} (name : String) (given : value ≠ .null) :
    memberUnlessNull name value = [(name, value)] := by
  cases value with
  | null => exact absurd rfl given
  | bool | number | string | array | object => rfl

theorem JsonRpcRequest.Read.tree (read : request.Read) : request.serialize.Tree := by
  refine ⟨trivial, everyMember_iff.mpr fun member inside => ?_⟩
  simp only [List.mem_append, List.mem_cons, List.not_mem_nil, or_false] at inside
  rcases inside with ((rfl | rfl) | inParams) | inId
  · trivial
  · trivial
  · by_cases null : request.params = .null
    · rw [null] at inParams
      cases inParams
    · rw [memberUnlessNull_of_ne_null _ null] at inParams
      rw [List.mem_singleton.mp inParams]
      exact read.params.tree
  · rw [memberOf, Option.mem_toList, Option.map_eq_some_iff] at inId
    obtain ⟨id, isId, rfl⟩ := inId
    exact (read.id id isId).1.tree

theorem filter_memberUnlessNull (name other : String) (value : Value) :
    (memberUnlessNull name value).filter (fun member => member.1 = other) =
      if name = other then memberUnlessNull name value else [] := by
  unfold memberUnlessNull
  split <;> split <;> simp [*]

theorem filter_memberOf (name other : String) (value : Option Value) :
    (memberOf name value).filter (fun member => member.1 = other) =
      if name = other then memberOf name value else [] := by
  cases value with
  | none => split <;> rfl
  | some value => split <;> simp [memberOf, *]

/-- The fields of a written request, as either struct looks for them. -/
theorem JsonRpcRequest.fields (request : JsonRpcRequest) :
    ∃ members, request.serialize = .object members ∧
      fieldOnce members "jsonrpc" = some (some (.string request.jsonrpc)) ∧
      fieldOnce members "method" = some (some (.string request.method)) ∧
      fieldOnce members "params" =
        some (if request.params.isNull then none else some request.params) ∧
      fieldOnce members "id" = some request.id ∧
      fieldOnce members "result" = some none ∧ fieldOnce members "error" = some none := by
  refine ⟨_, rfl, ?_, ?_, ?_, ?_, ?_, ?_⟩ <;>
    simp only [fieldOnce, List.filter_append, filter_memberUnlessNull, filter_memberOf, List.filter_cons,
      List.filter_nil, String.reduceEq, decide_true, decide_false, if_true, if_false, Bool.false_eq_true,
      List.nil_append, List.append_nil]
  · cases request.params <;> rfl
  · cases request.id <;> rfl

theorem readParams_eq (read : request.Read) :
    (((if request.params.isNull then none else some request.params).map Value.normalize).getD .null :
      Value) = request.params := by
  have normal := read.params.normalize_eq
  cases params : request.params with
  | null => rfl
  | bool | number | string | array | object =>
      rw [params] at normal
      exact normal

theorem readId_eq (read : request.Read) : optional readValue request.id = some request.id := by
  cases isId : request.id with
  | none => rfl
  | some id =>
      obtain ⟨held, given⟩ := read.id id isId
      rw [optional_of_ne_null given, readValue, held.normalize_eq, Option.map_some]

/-- The other side reads the request that was written. -/
theorem JsonRpcRequest.Read.deserialize_serialize (read : request.Read) :
    JsonRpcRequest.deserialize request.serialize = some request := by
  obtain ⟨members, isObject, isJsonrpc, isMethod, isParams, isId, _, _⟩ := request.fields
  rw [isObject, JsonRpcRequest.deserialize]
  simp only [isJsonrpc, isMethod, isParams, isId, Option.bind_eq_bind, Option.bind_some, required,
    Value.asStr, readId_eq read, readParams_eq read]

/-- As a message it is a request with the same method, parameters and id. -/
theorem JsonRpcRequest.Read.asMessage (read : request.Read) :
    JsonRpcMessage.deserialize request.serialize =
      some ⟨request.jsonrpc, some request.method, request.params, none, none, request.id⟩ := by
  obtain ⟨members, isObject, isJsonrpc, isMethod, isParams, isId, isResult, isError⟩ := request.fields
  have method : optional Value.asStr (some (.string request.method)) = some (some request.method) := rfl
  rw [isObject, JsonRpcMessage.deserialize]
  simp only [isJsonrpc, isMethod, isParams, isId, isResult, isError, Option.bind_eq_bind,
    Option.bind_some, required, Value.asStr, method, optional_none, readId_eq read, readParams_eq read]

/-! ### Responses -/

/-- A response whose values the program holds. -/
structure JsonRpcResponse.Held (response : JsonRpcResponse) : Prop where
  id : response.id.Held
  result : ∀ result, response.result = some result → result.Held
  code : ∀ error, response.error = some error → ∃ code : Int64, error.code = code.toInt
  data : ∀ error data, response.error = some error → error.data = some data →
    data.Held ∧ data ≠ .null

theorem JsonRpcResponse.held_success {id : UInt64} {result : Value} (held : result.Held) :
    (JsonRpcResponse.success (.number (.posInt id)) result).Held where
  id := trivial
  result value isResult := by
    cases isResult
    exact held
  code error isError := by cases isError
  data error data isError := by cases isError

/-- The response as it is read back: a result that is null is none. -/
def JsonRpcResponse.reread (response : JsonRpcResponse) : JsonRpcResponse :=
  { response with result := response.result.filter fun result => !result.isNull }

variable {response : JsonRpcResponse} {error : JsonRpcError}

theorem JsonRpcError.serialize_eq (error : JsonRpcError) :
    ∃ members, error.serialize = .object members ∧
      fieldOnce members "code" = some (some (.number (numberOfI64 error.code))) ∧
      fieldOnce members "message" = some (some (.string error.message)) ∧
      fieldOnce members "data" = some error.data := by
  refine ⟨_, rfl, ?_, ?_, ?_⟩ <;>
    simp only [fieldOnce, List.filter_append, filter_memberOf, List.filter_cons, List.filter_nil,
      String.reduceEq, decide_true, decide_false, if_true, if_false, Bool.false_eq_true,
      List.nil_append, List.append_nil]
  cases error.data <;> rfl

theorem JsonRpcError.deserialize_serialize {code : Int64} (isCode : error.code = code.toInt)
    (data : ∀ data, error.data = some data → data.Held ∧ data ≠ .null) :
    JsonRpcError.deserialize error.serialize = some error := by
  obtain ⟨members, isObject, hasCode, hasMessage, hasData⟩ := error.serialize_eq
  have isData : optional readValue error.data = some error.data := by
    cases held : error.data with
    | none => rfl
    | some value =>
        obtain ⟨isHeld, given⟩ := data value held
        rw [optional_of_ne_null given, readValue, isHeld.normalize_eq, Option.map_some]
  rw [isObject, JsonRpcError.deserialize]
  simp only [hasCode, hasMessage, hasData, Option.bind_eq_bind, Option.bind_some, required, isCode,
    readI64_numberOfI64, Value.asStr, isData]
  rw [← isCode]

theorem JsonRpcResponse.fields (response : JsonRpcResponse) :
    ∃ members, response.serialize = .object members ∧
      fieldOnce members "jsonrpc" = some (some (.string response.jsonrpc)) ∧
      fieldOnce members "result" = some response.result ∧
      fieldOnce members "error" = some (response.error.map JsonRpcError.serialize) ∧
      fieldOnce members "id" = some (some response.id) := by
  refine ⟨_, rfl, ?_, ?_, ?_, ?_⟩ <;>
    simp only [fieldOnce, List.filter_append, filter_memberOf, List.filter_cons, List.filter_nil,
      String.reduceEq, decide_true, decide_false, if_true, if_false, Bool.false_eq_true,
      List.nil_append, List.append_nil]
  · cases response.result <;> rfl
  · cases response.error <;> rfl

theorem JsonRpcResponse.Held.readResult (held : response.Held) :
    optional readValue response.result = some (response.result.filter fun result => !result.isNull) := by
  cases isResult : response.result with
  | none => rfl
  | some result =>
      have normal := (held.result result isResult).normalize_eq
      cases result with
      | null => rfl
      | bool | number | string | array | object =>
          rw [optional_of_ne_null (by simp), KeyMaster.readValue, normal]
          rfl

theorem JsonRpcResponse.Held.readError (held : response.Held) :
    optional JsonRpcError.deserialize (response.error.map JsonRpcError.serialize) =
      some response.error := by
  cases isError : response.error with
  | none => rfl
  | some error =>
      obtain ⟨code, isCode⟩ := held.code error isError
      rw [Option.map_some, optional_of_ne_null (by simp [JsonRpcError.serialize]),
        JsonRpcError.deserialize_serialize isCode fun data => held.data error data isError,
        Option.map_some]

theorem JsonRpcResponse.Held.deserialize_serialize (held : response.Held) :
    JsonRpcResponse.deserialize response.serialize = some response.reread := by
  obtain ⟨members, isObject, hasJsonrpc, hasResult, hasError, hasId⟩ := response.fields
  rw [isObject, JsonRpcResponse.deserialize]
  simp only [hasJsonrpc, hasResult, hasError, hasId, Option.bind_eq_bind, Option.bind_some, required,
    Value.asStr, held.readResult, held.readError, KeyMaster.readValue, held.id.normalize_eq]
  rfl

theorem JsonRpcResponse.Held.reread (held : response.Held) : response.reread.Held where
  id := held.id
  result result isResult := held.result result (Option.filter_eq_some_iff.mp isResult).1
  code := held.code
  data := held.data

theorem memberOf_tree {name : String} {value : Option Value}
    (tree : ∀ found, value = some found → found.Tree) : ∀ member ∈ memberOf name value, member.2.Tree := by
  intro member inside
  rw [memberOf, Option.mem_toList, Option.map_eq_some_iff] at inside
  obtain ⟨found, isFound, rfl⟩ := inside
  exact tree found isFound

theorem JsonRpcResponse.Held.tree (held : response.Held) : response.serialize.Tree := by
  refine ⟨trivial, everyMember_iff.mpr fun member inside => ?_⟩
  rw [List.mem_append, List.mem_append, List.mem_append] at inside
  rcases inside with ((isJsonrpc | inResult) | inError) | isId
  · rw [List.mem_singleton.mp isJsonrpc]
    trivial
  · exact memberOf_tree (fun result isResult => (held.result result isResult).tree) member inResult
  · refine memberOf_tree ?_ member inError
    intro tree isTree
    obtain ⟨error, isError, rfl⟩ := Option.map_eq_some_iff.mp isTree
    obtain ⟨code, isCode⟩ := held.code error isError
    refine ⟨trivial, everyMember_iff.mpr fun field inError => ?_⟩
    rcases List.mem_append.mp inError with fixed | inData
    · rcases List.mem_cons.mp fixed with rfl | isMessage
      · exact isCode ▸ numberOfI64_valid code
      · rw [List.mem_singleton.mp isMessage]
        trivial
    · exact memberOf_tree (fun data isData => (held.data error data isError isData).1.tree) field inData
  · rw [List.mem_singleton.mp isId]
    exact held.id.tree

end KeyMaster
