import KeyMaster.Data.Calls
import KeyMaster.Data.Conversation
import KeyMaster.JsonRpcRelay

namespace KeyMaster.GpgSa

open Data

/-! The proxy of `km-gpg-sa`: a handler for each connection of a scd-shim, and
one avatar connection, whose two halves are behind a lock each. -/

variable (codecs : Codecs)

/-! ### Messages -/

def connectRequest : JsonRpcRequest where
  jsonrpc := "2.0"
  method := "connect"
  params := jsonObject [("type", .string "gpg")]
  id := some (.number (.posInt 1))

/-- `REQUEST_COUNTER` starts at two, and nothing else takes a number from it. -/
def certRequest : JsonRpcRequest where
  jsonrpc := "2.0"
  method := "gpg.get_public_cert"
  params := jsonObject []
  id := some (.number (.posInt 2))

def proxyError (request : JsonRpcRequest) (message : String) : JsonRpcResponse :=
  .failure (request.id.getD .null) jsonrpcInternalError ("proxy error: " ++ message)

/-! ### State -/

/-- What a handler that has a request does next. -/
inductive Forwarding where
  | lockWriter
  | lockReader
  | send
  | receive
deriving DecidableEq

/-- What a handler that has the response does next. -/
inductive Returning where
  | unlockReader
  | unlockWriter
  | write
deriving DecidableEq

inductive Handler where
  | reading
  | forwarding (request : JsonRpcRequest) (next : Forwarding)
  | returning (response : JsonRpcResponse) (next : Returning)
  | closed

/-- A connection of a shim: the requests read from it, the responses written to
it, and what its handler does. -/
structure Shim where
  requests : List JsonRpcRequest
  responses : List JsonRpcResponse
  handler : Handler

/-- How a request was settled. -/
inductive Ending where
  /-- With the answer that was read at this position of the avatar connection. -/
  | answered (position : Nat) (text : String) (answer : JsonRpcResponse)
  | failed (message : String)

structure Proxy where
  shims : List Shim
  /-- The connections whose handlers hold `avatar_writer` and `avatar_reader`. -/
  writer : Option Nat
  reader : Option Nat
  avatar : Conversation JsonRpcRequest String
  /-- The avatar has closed its end. -/
  broken : Bool
  exchanges : List (Calls.Exchange JsonRpcRequest Ending)

def Ending.response (request : JsonRpcRequest) : Ending → JsonRpcResponse
  | .answered _ _ answer => answer
  | .failed message => proxyError request message

def Ending.position : Ending → Option Nat
  | .answered position _ _ => some position
  | .failed _ => none

def Handler.holdsWriter : Handler → Bool
  | .forwarding _ .lockReader | .forwarding _ .send | .forwarding _ .receive => true
  | .returning _ .unlockReader | .returning _ .unlockWriter => true
  | _ => false

def Handler.holdsReader : Handler → Bool
  | .forwarding _ .send | .forwarding _ .receive | .returning _ .unlockReader => true
  | _ => false

namespace Proxy

def setShim (proxy : Proxy) (number : Nat) (shim : Shim) : Proxy :=
  { proxy with shims := proxy.shims.set number shim }

def setHandler (proxy : Proxy) (number : Nat) (shim : Shim) (handler : Handler) : Proxy :=
  proxy.setShim number { shim with handler }

def settle (proxy : Proxy) (number : Nat) (shim : Shim) (request : JsonRpcRequest)
    (ending : Ending) : Proxy :=
  { proxy.setHandler number shim (.returning (ending.response request) .unlockReader) with
    exchanges := proxy.exchanges ++ [⟨⟨number, shim.responses.length⟩, request, ending⟩] }

end Proxy

/-! ### Start -/

inductive StartError where
  /-- The avatar's line is no response. -/
  | read
  | connectFailed (message : String) (code : Int)
  | missingCert
deriving DecidableEq

/-- The certificate in the answer to `gpg.get_public_cert`. -/
def certArmor (answer : JsonRpcResponse) : Option String :=
  (answer.result.bind fun result => result.get "public_cert_armor").bind Value.asStr

/-- Connect and fetch the certificate, given the avatar's two answers; the
listener is bound after that. -/
def startUp (connectText certText : String) : Except StartError (String × Proxy) :=
  match readResponseLine codecs connectText with
  | none => .error .read
  | some connectResp =>
      match connectResp.error with
      | some error => .error (.connectFailed error.message error.code)
      | none =>
          match readResponseLine codecs certText with
          | none => .error .read
          | some certResp =>
              match certArmor certResp with
              | none => .error .missingCert
              | some armor =>
                  .ok (armor,
                    { shims := []
                      writer := none
                      reader := none
                      avatar := ⟨[connectRequest, certRequest], [connectText, certText], 2⟩
                      broken := false
                      exchanges := [] })

/-! ### Steps -/

inductive Label where
  | accept
  | readRequest (shim : Nat) (text : String)
  /-- The shim is gone, or its line is no request. -/
  | disconnect (shim : Nat)
  | lockWriter (shim : Nat)
  | lockReader (shim : Nat)
  | send (shim : Nat)
  | sendFails (shim : Nat) (message : String)
  | avatarAnswers (request : JsonRpcRequest) (text : String)
  | avatarCloses
  | receive (shim : Nat) (text : String) (answer : JsonRpcResponse)
  /-- The line that is read is no response. -/
  | receiveUnreadable (shim : Nat) (text message : String)
  | receiveEnds (shim : Nat) (message : String)
  | unlockReader (shim : Nat)
  | unlockWriter (shim : Nat)
  | write (shim : Nat) (written : Bool)

inductive Step : Proxy → Label → Proxy → Prop
  | accept (proxy : Proxy) :
      Step proxy .accept { proxy with shims := proxy.shims ++ [⟨[], [], .reading⟩] }
  | readRequest {proxy : Proxy} {number : Nat} {shim : Shim} {text : String}
      {request : JsonRpcRequest} (found : proxy.shims[number]? = some shim)
      (reading : shim.handler = .reading) (reads : readRequestLine codecs text = some request) :
      Step proxy (.readRequest number text)
        (proxy.setShim number
          { shim with
            requests := shim.requests ++ [request], handler := .forwarding request .lockWriter })
  | disconnect {proxy : Proxy} {number : Nat} {shim : Shim}
      (found : proxy.shims[number]? = some shim) (reading : shim.handler = .reading) :
      Step proxy (.disconnect number) (proxy.setHandler number shim .closed)
  | lockWriter {proxy : Proxy} {number : Nat} {shim : Shim} {request : JsonRpcRequest}
      (found : proxy.shims[number]? = some shim)
      (next : shim.handler = .forwarding request .lockWriter) (free : proxy.writer = none) :
      Step proxy (.lockWriter number)
        { proxy.setHandler number shim (.forwarding request .lockReader) with writer := some number }
  | lockReader {proxy : Proxy} {number : Nat} {shim : Shim} {request : JsonRpcRequest}
      (found : proxy.shims[number]? = some shim)
      (next : shim.handler = .forwarding request .lockReader) (free : proxy.reader = none) :
      Step proxy (.lockReader number)
        { proxy.setHandler number shim (.forwarding request .send) with reader := some number }
  | send {proxy : Proxy} {number : Nat} {shim : Shim} {request : JsonRpcRequest}
      (found : proxy.shims[number]? = some shim) (next : shim.handler = .forwarding request .send)
      (connected : proxy.broken = false) :
      Step proxy (.send number)
        { proxy.setHandler number shim (.forwarding request .receive) with
          avatar := proxy.avatar.send request }
  | sendFails {proxy : Proxy} {number : Nat} {shim : Shim} {request : JsonRpcRequest}
      {message : String} (found : proxy.shims[number]? = some shim)
      (next : shim.handler = .forwarding request .send) (closed : proxy.broken = true) :
      Step proxy (.sendFails number message) (proxy.settle number shim request (.failed message))
  | avatarAnswers {proxy : Proxy} {request : JsonRpcRequest} {text : String}
      (asked : proxy.avatar.asked? = some request) (connected : proxy.broken = false) :
      Step proxy (.avatarAnswers request text) { proxy with avatar := proxy.avatar.answer text }
  | avatarCloses (proxy : Proxy) : Step proxy .avatarCloses { proxy with broken := true }
  | receive {proxy : Proxy} {number : Nat} {shim : Shim} {request : JsonRpcRequest} {text : String}
      {answer : JsonRpcResponse} (found : proxy.shims[number]? = some shim)
      (next : shim.handler = .forwarding request .receive)
      (arrived : proxy.avatar.arrived? = some text)
      (reads : readResponseLine codecs text = some answer) :
      Step proxy (.receive number text answer)
        { proxy.settle number shim request (.answered proxy.avatar.read text answer) with
          avatar := proxy.avatar.take }
  | receiveUnreadable {proxy : Proxy} {number : Nat} {shim : Shim} {request : JsonRpcRequest}
      {text message : String} (found : proxy.shims[number]? = some shim)
      (next : shim.handler = .forwarding request .receive)
      (arrived : proxy.avatar.arrived? = some text) (reads : readResponseLine codecs text = none) :
      Step proxy (.receiveUnreadable number text message)
        { proxy.settle number shim request (.failed message) with avatar := proxy.avatar.take }
  | receiveEnds {proxy : Proxy} {number : Nat} {shim : Shim} {request : JsonRpcRequest}
      {message : String} (found : proxy.shims[number]? = some shim)
      (next : shim.handler = .forwarding request .receive) (closed : proxy.broken = true) :
      Step proxy (.receiveEnds number message) (proxy.settle number shim request (.failed message))
  | unlockReader {proxy : Proxy} {number : Nat} {shim : Shim} {response : JsonRpcResponse}
      (found : proxy.shims[number]? = some shim)
      (next : shim.handler = .returning response .unlockReader) :
      Step proxy (.unlockReader number)
        { proxy.setHandler number shim (.returning response .unlockWriter) with reader := none }
  | unlockWriter {proxy : Proxy} {number : Nat} {shim : Shim} {response : JsonRpcResponse}
      (found : proxy.shims[number]? = some shim)
      (next : shim.handler = .returning response .unlockWriter) :
      Step proxy (.unlockWriter number)
        { proxy.setHandler number shim (.returning response .write) with writer := none }
  | write {proxy : Proxy} {number : Nat} {shim : Shim} {response : JsonRpcResponse}
      {written : Bool} (found : proxy.shims[number]? = some shim)
      (next : shim.handler = .returning response .write) :
      Step proxy (.write number written)
        (proxy.setShim number
          (if written then
            { shim with responses := shim.responses ++ [response], handler := .reading }
          else { shim with handler := .closed }))

end KeyMaster.GpgSa
