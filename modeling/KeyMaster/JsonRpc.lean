import KeyMaster.Json
import KeyMaster.Text

namespace KeyMaster

/-! JSON-RPC 2.0 messages of the `avatar-protocol` crate.

`deserialize` is what serde derives for each struct: from an object, unknown
members are ignored and a repeated member is an error; from an array, the
fields are read in order.
-/

structure JsonRpcRequest where
  jsonrpc : String
  method : String
  params : Value
  id : Option Value

structure JsonRpcError where
  code : Int
  message : String
  data : Option Value

structure JsonRpcResponse where
  jsonrpc : String
  result : Option Value
  error : Option JsonRpcError
  id : Value

/-- `JsonRpcMessage`: a request or a response, the direction not known yet. -/
structure JsonRpcMessage where
  jsonrpc : String
  method : Option String
  params : Value
  result : Option Value
  error : Option JsonRpcError
  id : Option Value

def JsonRpcResponse.success (id result : Value) : JsonRpcResponse :=
  { jsonrpc := "2.0", result := some result, error := none, id }

def JsonRpcResponse.failure (id : Value) (code : Int) (message : String) : JsonRpcResponse :=
  { jsonrpc := "2.0", result := none, error := some { code, message, data := none }, id }

def jsonrpcMethodNotFound : Int := -32601
def jsonrpcInvalidParams : Int := -32602
def jsonrpcInternalError : Int := -32603
def jsonrpcNoSession : Int := -32001
def jsonrpcSendFailed : Int := -32002
def jsonrpcTimeout : Int := -32003

def JsonRpcMessage.isRequest (message : JsonRpcMessage) : Bool := message.method.isSome

def JsonRpcMessage.isResponse (message : JsonRpcMessage) : Bool :=
  message.result.isSome || message.error.isSome

/-! ### Deserialization -/

/-- The member of a name, absent if there is none; a repeated one is an error. -/
def fieldOnce (members : List (String × Value)) (name : String) : Option (Option Value) :=
  match members.filter fun member => member.1 = name with
  | [] => some none
  | [member] => some (some member.2)
  | _ => none

def required {α : Type} (read : Value → Option α) : Option Value → Option α
  | none => none
  | some value => read value

/-- An `Option` field: both an absent member and `null` read as `None`. -/
def optional {α : Type} (read : Value → Option α) : Option Value → Option (Option α)
  | none => some none
  | some .null => some none
  | some value => (read value).map some

def readValue (value : Value) : Option Value := some value.normalize

/-- `i64`: a float or an integer out of range is an error. -/
def readI64 : Value → Option Int
  | .number (.posInt value) => if value.toNat < 2 ^ 63 then some value.toNat else none
  | .number (.negInt value) => some value.toInt
  | _ => none

def JsonRpcError.deserialize : Value → Option JsonRpcError
  | .object members => do
      let code ← required readI64 (← fieldOnce members "code")
      let message ← required Value.asStr (← fieldOnce members "message")
      let data ← optional readValue (← fieldOnce members "data")
      some { code, message, data }
  | .array [code, message, data] => do
      let code ← readI64 code
      let message ← message.asStr
      let data ← optional readValue (some data)
      some { code, message, data }
  | _ => none

def JsonRpcResponse.deserialize : Value → Option JsonRpcResponse
  | .object members => do
      let jsonrpc ← required Value.asStr (← fieldOnce members "jsonrpc")
      let result ← optional readValue (← fieldOnce members "result")
      let error ← optional JsonRpcError.deserialize (← fieldOnce members "error")
      let id ← required readValue (← fieldOnce members "id")
      some { jsonrpc, result, error, id }
  | .array [jsonrpc, result, error, id] => do
      let jsonrpc ← jsonrpc.asStr
      let result ← optional readValue (some result)
      let error ← optional JsonRpcError.deserialize (some error)
      some { jsonrpc, result, error, id := id.normalize }
  | _ => none

/-- `params` and `id` carry `#[serde(default)]`, so an array may end before its
last field. -/
def JsonRpcMessage.deserialize : Value → Option JsonRpcMessage
  | .object members => do
      let jsonrpc ← required Value.asStr (← fieldOnce members "jsonrpc")
      let method ← optional Value.asStr (← fieldOnce members "method")
      let params ← fieldOnce members "params"
      let result ← optional readValue (← fieldOnce members "result")
      let error ← optional JsonRpcError.deserialize (← fieldOnce members "error")
      let id ← optional readValue (← fieldOnce members "id")
      some { jsonrpc, method, params := (params.map Value.normalize).getD .null, result, error, id }
  | .array (jsonrpc :: method :: params :: result :: error :: last) => do
      let jsonrpc ← jsonrpc.asStr
      let method ← optional Value.asStr (some method)
      let result ← optional readValue (some result)
      let error ← optional JsonRpcError.deserialize (some error)
      match last with
      | [] => some { jsonrpc, method, params := params.normalize, result, error, id := none }
      | [id] => do
          let id ← optional readValue (some id)
          some { jsonrpc, method, params := params.normalize, result, error, id }
      | _ => none
  | _ => none

/-! ### Framing -/

def maxLineSize : Nat := 1024 * 1024

/-- `read_line_message` on what `read_line` returned, which is empty at the end
of the stream. -/
def readLineMessage {α : Type} (parseJson : String → Option Value)
    (deserialize : Value → Option α) (line : String) : Option α :=
  if line = "" ∨ line.utf8ByteSize > maxLineSize then none
  else (parseJson (String.ofList (trimEnd line.toList))).bind deserialize

end KeyMaster
