import KeyMaster.Codecs
import KeyMaster.Text

namespace KeyMaster.ScdShim

/-! `GpgSaClient`, the shim's side of the km-gpg-sa proxy socket. -/

inductive ClientError where
  | writeRequest (error : OneLine)
  | flush (error : OneLine)
  | readResponse (error : OneLine)
  | parseResponse (error : OneLine)
  | proxyError (message : String)
  | missingSignature
  | decodeSignature (error : OneLine)

/-- The strings that the code has in place of `ClientError`. -/
def ClientError.text : ClientError → String
  | .writeRequest error => "write request: " ++ error.text
  | .flush error => "flush: " ++ error.text
  | .readResponse error => "read response: " ++ error.text
  | .parseResponse error => "parse response: " ++ error.text
  | .proxyError message => "proxy error: " ++ message
  | .missingSignature => "missing 'signature' in response"
  | .decodeSignature error => "decode signature: " ++ error.text

inductive RequestIo where
  | writeFailed (error : OneLine)
  | flushFailed (error : OneLine)
  | readFailed (error : OneLine)
  /-- What `read_line` returns, empty at the end of the stream. -/
  | line (text : String)

variable (codecs : Codecs)

def readResponse (line : String) : Except ClientError Value :=
  match codecs.parseJson (String.ofList (trimEnd line.toList)) with
  | .error error => .error (.parseResponse error)
  | .ok tree =>
      match tree.normalize.get "error" with
      | some error =>
          .error (.proxyError (((error.get "message").bind Value.asStr).getD "unknown error"))
      | none => .ok ((tree.normalize.get "result").getD .null)

def RequestIo.result : RequestIo → Except ClientError Value
  | .writeFailed error => .error (.writeRequest error)
  | .flushFailed error => .error (.flush error)
  | .readFailed error => .error (.readResponse error)
  | .line text => readResponse codecs text

/-- The client, and the requests that it has handed to the socket. -/
structure GpgSaClient where
  nextId : UInt64
  requests : List Value

namespace GpgSaClient

def connect : GpgSaClient := ⟨1, []⟩

def requestObject (client : GpgSaClient) (method : String) (params : Value) : Value :=
  jsonObject [("jsonrpc", .string "2.0"), ("method", .string method), ("params", params),
    ("id", .number (.posInt client.nextId))]

def request (client : GpgSaClient) (method : String) (params : Value) (io : RequestIo) :
    Except ClientError Value × GpgSaClient :=
  (io.result codecs, ⟨client.nextId + 1, client.requests ++ [client.requestObject method params]⟩)

def signature (payload : Value) : Except ClientError (List UInt8) :=
  match (payload.get "signature").bind Value.asStr with
  | none => .error .missingSignature
  | some text => (codecs.base64Decode text).mapError .decodeSignature

def signParams (keyIndex : Nat) (publicKey data : List UInt8) : Value :=
  jsonObject [("key_index", .number (.posInt (UInt64.ofNat keyIndex))),
    ("public_key", .string (codecs.base64Encode publicKey)),
    ("data", .string (codecs.base64Encode data)), ("mechanism", .string "eddsa")]

def sign (client : GpgSaClient) (keyIndex : Nat) (publicKey data : List UInt8) (io : RequestIo) :
    Except ClientError (List UInt8) × GpgSaClient :=
  let (payload, after) :=
    client.request codecs "gpg.sign_request" (signParams codecs keyIndex publicKey data) io
  (payload.bind (signature codecs), after)

end GpgSaClient

end KeyMaster.ScdShim
