import KeyMaster.JsonMap
import KeyMaster.ScdShim.SignedData

namespace KeyMaster.ScdShim

/-! The sign request of a PKSIGN: for which key it is, and what it has signed. -/

/-- The bytes of a parameter of a request, as the proxy decodes them. -/
def requestField (codecs : Codecs) (request : Value) (field : String) : Option (List UInt8) :=
  (((request.get "params").bind (·.get field)).bind Value.asStr).bind fun text =>
    (codecs.base64Decode text).toOption

section

variable {codecs : Codecs} (state : ScdState codecs) (args : List Char) (io : RequestIo)

def pksignSent : List Value :=
  (handlePksign state args io).1.client.requests.drop state.client.requests.length

/-- PKSIGN sends a request, with these bytes in the field. -/
def SendsField (field : String) (bytes : List UInt8) : Prop :=
  ∃ request, pksignSent state args io = [request] ∧ requestField codecs request field = some bytes

def SignsFor (key : List UInt8) : Prop := SendsField state args io "public_key" key

def SignsData (data : List UInt8) : Prop := SendsField state args io "data" data

/-- The identity that the argument of READKEY or PKSIGN names. -/
def namedIdentity : Option (Identity codecs) :=
  state.identities.find? fun id =>
    id.keyref = String.ofList (trim (skipOptions args)) ∨
      id.keygrip = String.ofList (trim (skipOptions args))

def fallbackIdentity : Option (Identity codecs) :=
  state.identities.find? fun id => id.keyref = "OPENPGP.3"

end

variable {codecs : Codecs} {state : ScdState codecs} {args : List Char} {io : RequestIo}
  {id : Identity codecs} {data : List UInt8}

theorem pksignRequest_eq :
    pksignRequest state args =
      match (namedIdentity state args).or (fallbackIdentity state) with
      | none => .error (69, "No matching key found")
      | some id =>
          if state.storedData = [] then .error (76, "No data to sign (call SETDATA first)")
          else .ok (id, stripDigestInfo state.storedData) := by
  have swapped : namedIdentity state args = state.identities.find? fun id =>
      id.keygrip = String.ofList (trim (skipOptions args)) ∨
        id.keyref = String.ofList (trim (skipOptions args)) := by
    simp only [namedIdentity, or_comm]
  rw [swapped]
  rfl

theorem pksignRequest_eq_ok (stored : state.storedData ≠ []) :
    pksignRequest state args = .ok (id, data) ↔
      (namedIdentity state args).or (fallbackIdentity state) = some id ∧
        data = stripDigestInfo state.storedData := by
  rw [pksignRequest_eq]
  cases (namedIdentity state args).or (fallbackIdentity state) with
  | none => simp
  | some other => simp [stored, eq_comm]

theorem pksignSent_refused {failure : Nat × String}
    (refused : pksignRequest state args = .error failure) : pksignSent state args io = [] := by
  simp [pksignSent, handlePksign_refused refused]

theorem pksignSent_requested (requested : pksignRequest state args = .ok (id, data)) :
    pksignSent state args io = [state.client.requestObject "gpg.sign_request"
      (GpgSaClient.signParams codecs id.index id.publicKey.toList data)] := by
  simp [pksignSent, client_handlePksign requested, GpgSaClient.sign, GpgSaClient.request]

section Fields

variable {client : GpgSaClient} {index : Nat} {publicKey bytes : List UInt8} {field : String}

theorem requestField_signParams (field : String) :
    requestField codecs
        (client.requestObject "gpg.sign_request" (GpgSaClient.signParams codecs index publicKey data))
        field =
      (((GpgSaClient.signParams codecs index publicKey data).get field).bind Value.asStr).bind
        fun text => (codecs.base64Decode text).toOption := by
  simp [requestField, GpgSaClient.requestObject, Value.get_jsonObject, List.lookup_cons]

theorem requestField_publicKey (lossless : codecs.Lossless) :
    requestField codecs
        (client.requestObject "gpg.sign_request" (GpgSaClient.signParams codecs index publicKey data))
        "public_key" = some publicKey := by
  rw [requestField_signParams]
  simp [GpgSaClient.signParams, Value.get_jsonObject, List.lookup_cons, Value.asStr,
    lossless publicKey, Except.toOption]

theorem requestField_data (lossless : codecs.Lossless) :
    requestField codecs
        (client.requestObject "gpg.sign_request" (GpgSaClient.signParams codecs index publicKey data))
        "data" = some data := by
  rw [requestField_signParams]
  simp [GpgSaClient.signParams, Value.get_jsonObject, List.lookup_cons, Value.asStr,
    lossless data, Except.toOption]

theorem sendsField_requested (requested : pksignRequest state args = .ok (id, data)) :
    SendsField state args io field bytes ↔
      requestField codecs
        (state.client.requestObject "gpg.sign_request"
          (GpgSaClient.signParams codecs id.index id.publicKey.toList data)) field = some bytes := by
  simp [SendsField, pksignSent_requested requested]

end Fields

theorem signsFor_requested (lossless : codecs.Lossless) {key : List UInt8}
    (requested : pksignRequest state args = .ok (id, data)) :
    SignsFor state args io key ↔ id.publicKey.toList = key := by
  rw [SignsFor, sendsField_requested requested, requestField_publicKey lossless, Option.some.injEq]

theorem signsData_requested (lossless : codecs.Lossless) {signed : List UInt8}
    (requested : pksignRequest state args = .ok (id, data)) :
    SignsData state args io signed ↔ data = signed := by
  rw [SignsData, sendsField_requested requested, requestField_data lossless, Option.some.injEq]

theorem not_sendsField_refused {failure : Nat × String} {field : String} {bytes : List UInt8}
    (refused : pksignRequest state args = .error failure) :
    ¬ SendsField state args io field bytes := by
  simp [SendsField, pksignSent_refused refused]

end KeyMaster.ScdShim
