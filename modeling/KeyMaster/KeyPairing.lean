import KeyMaster.Pkcs11.SignedKeys
import KeyMaster.ScdShim.SignRequests

namespace KeyMaster

open Data

/-! The key index and the public key of a sign request, against the list that
both come from. -/

/-- What an entry of a list of identities says of its key. -/
structure ListedKey where
  keyType : String
  publicKey : String

def ScdShim.RawIdentity.listed (raw : ScdShim.RawIdentity) : ListedKey := ⟨raw.keyType, raw.publicKey⟩

def Pkcs11.RawIdentity.listed (raw : Pkcs11.RawIdentity) : ListedKey := ⟨raw.keyType, raw.publicKey⟩

/-- The parameters of a sign request carry the key, and the index of an entry
that holds it. -/
def NamesEntry (codecs : Codecs) (listed : List ListedKey) (params : Value) (key : List UInt8) : Prop :=
  ∃ index entry, params.get "key_index" = some (.number (.posInt index)) ∧
    listed[index.toNat]? = some entry ∧ entry.keyType = "ed25519" ∧
    codecs.base64Decode entry.publicKey = .ok key ∧ key.length = 32 ∧
    ((params.get "public_key").bind Value.asStr).map codecs.base64Decode = some (.ok key)

variable {codecs : Codecs} {listed : List ListedKey} {entry : ListedKey} {index : Nat}
  {key data : List UInt8}

theorem namesEntry_signParams (lossless : codecs.Lossless) (fits : listed.length ≤ 2 ^ 64)
    (isEntry : listed[index]? = some entry) (keyType : entry.keyType = "ed25519")
    (decoded : codecs.base64Decode entry.publicKey = .ok key) (length : key.length = 32) :
    NamesEntry codecs listed (ScdShim.GpgSaClient.signParams codecs index key data) key := by
  have bound := (List.getElem?_eq_some_iff.mp isEntry).1
  have number : (UInt64.ofNat index).toNat = index := Nat.mod_eq_of_lt (Nat.lt_of_lt_of_le bound fits)
  refine ⟨.ofNat index, entry, ?_, by rw [number, isEntry], keyType, decoded, length, ?_⟩
  · simp [ScdShim.GpgSaClient.signParams, Value.get_jsonObject, List.lookup_cons]
  · simp [ScdShim.GpgSaClient.signParams, Value.get_jsonObject, List.lookup_cons, Value.asStr,
      lossless key]

/-! ### The shim -/

namespace ScdShim

open CommandTransition

variable {raw : List RawIdentity} {client : GpgSaClient} {pid : UInt32} {state : ScdState codecs}
  {id : Identity codecs}

theorem decodeKey_eq_some {raw : RawIdentity} {key : Vector UInt8 32}
    (decoded : decodeKey codecs raw = some key) :
    raw.keyType = "ed25519" ∧ codecs.base64Decode raw.publicKey = .ok key.toList := by
  unfold decodeKey at decoded
  split_ifs at decoded with keyType
  split at decoded
  · cases decoded
  · rename_i bytes isKey
    split_ifs at decoded
    cases decoded
    exact ⟨not_not.mp keyType, isKey⟩

theorem identities_listed (member : id ∈ identities codecs raw) :
    ∃ entry, raw[id.index]? = some entry ∧ entry.keyType = "ed25519" ∧
      codecs.base64Decode entry.publicKey = .ok id.publicKey.toList := by
  obtain ⟨⟨⟨key, index⟩, position⟩, positioned, rfl⟩ := List.mem_map.mp member
  have isDecoded : (key, index) ∈ decodedIdentities codecs raw :=
    List.mem_of_getElem? (List.mk_mem_zipIdx_iff_getElem?.mp positioned)
  obtain ⟨⟨entry, index⟩, isEntry, decoded⟩ := List.mem_filterMap.mp isDecoded
  obtain ⟨_, isKey, same⟩ := Option.map_eq_some_iff.mp decoded
  cases same
  exact ⟨entry, List.mk_mem_zipIdx_iff_getElem?.mp isEntry, decodeKey_eq_some isKey⟩

theorem identities_handlePksign (state : ScdState codecs) (args : List Char) (io : RequestIo) :
    (handlePksign state args io).1.identities = state.identities := by
  cases requested : pksignRequest state args with
  | error failure => rw [handlePksign_refused requested]
  | ok request =>
      obtain ⟨id, data⟩ := request
      cases signed : (state.client.sign codecs id.index id.publicKey.toList data io).1 with
      | error error => rw [handlePksign_failed requested signed]
      | ok sig =>
          by_cases length : sig.length = 64
          · rw [handlePksign_signed requested signed length]
          · rw [handlePksign_wrongLength requested signed length]

theorem CommandStep.identities {before after : ScdState codecs} {input : Input}
    (step : CommandStep before input after) : after.identities = before.identities := by
  cases step.kind with
  | accepts accepted isAfter | resets reset isAfter | idle noData noReset isAfter =>
      have same : after = _ := isAfter
      rw [same]
  | requests requested isPksign isAfter =>
      have same : after = _ := isAfter
      rw [same, identities_handlePksign]

theorem reachable_identities (reachable : Reachable CommandStep (.start codecs raw client pid) state) :
    state.identities = identities codecs raw :=
  Reachable.invariant (fun state => state.identities = identities codecs raw)
    (fun _ _ _ step kept => step.identities.trans kept) rfl reachable

theorem mem_of_pksignRequest {args : List Char} (requested : pksignRequest state args = .ok (id, data)) :
    id ∈ state.identities := by
  rw [pksignRequest_eq] at requested
  cases named : (namedIdentity state args).or (fallbackIdentity state) with
  | none =>
      rw [named] at requested
      cases requested
  | some other =>
      rw [named] at requested
      simp only at requested
      split_ifs at requested
      cases requested
      rcases Option.or_eq_some_iff.mp named with found | ⟨_, found⟩
      · exact List.mem_of_find?_eq_some found
      · exact List.mem_of_find?_eq_some found

theorem sent_namesEntry (lossless : codecs.Lossless) (fits : raw.length ≤ 2 ^ 64)
    {trace : List (CommandTransition codecs)} {final : ScdState codecs}
    (run : Run CommandStep (.start codecs raw client pid) trace final)
    {transition : CommandTransition codecs} (member : transition ∈ trace) {request : Value}
    (isSent : request ∈ sent transition) :
    ∃ params key, request.get "params" = some params ∧
      NamesEntry codecs (raw.map RawIdentity.listed) params key := by
  have step : CommandStep transition.before transition.label transition.after := run.step_of_mem member
  cases step.kind with
  | accepts accepted after | resets reset after | idle noData noReset after =>
      rw [sent_eq_nil (by rw [after])] at isSent
      cases isSent
  | @requests id data requested isPksign after =>
      rw [sent_requests transition requested after, List.mem_singleton] at isSent
      have isIdentity := mem_of_pksignRequest requested
      rw [reachable_identities (run.reachable_before member)] at isIdentity
      obtain ⟨entry, isEntry, keyType, decoded⟩ := identities_listed isIdentity
      refine ⟨GpgSaClient.signParams codecs id.index id.publicKey.toList data, id.publicKey.toList, ?_, ?_⟩
      · simp [isSent, GpgSaClient.requestObject, Value.get_jsonObject, List.lookup_cons]
      · have isListed : (raw.map RawIdentity.listed)[id.index]? = some entry.listed := by
          rw [List.getElem?_map, isEntry]
          rfl
        exact namesEntry_signParams lossless (by rwa [List.length_map]) isListed keyType decoded (by simp)

end ScdShim

/-! ### The module -/

namespace Pkcs11

/-- The request of a `c_sign`, the first on its connection. -/
def signTree (codecs : Codecs) (request : SignRequest) : Value :=
  LocalClient.connect.requestTree "sign_request" (LocalClient.signPayload codecs request)

theorem sign_namesEntry (lossless : codecs.Lossless) {earlier : List CallTransition}
    {transition : CallTransition} {session : Nat} {request : SignRequest}
    (run : Run (Step codecs) none earlier transition.before)
    (isSent : transition.request = some (session, request)) :
    ∃ raw handle params, latest (CallTransition.listed codecs) earlier = some raw ∧
      latest CallTransition.signKey earlier = some handle ∧
      (signTree codecs request).get "payload" = some params ∧
      (raw.length ≤ 2 ^ 64 →
        NamesEntry codecs (raw.map RawIdentity.listed) params request.publicKey) ∧
      readAttribute transition.before session handle ckaEcPoint = some request.publicKey := by
  obtain ⟨before, label, after⟩ := transition
  simp only at run
  unfold CallTransition.request at isSent
  split at isSent
  · rename_i signSession call isSign
    obtain ⟨sent, sends, same⟩ := Option.map_eq_some_iff.mp isSent
    cases same
    obtain ⟨module, op, position, kind, identity, inSession, active, found, keyIndex, publicKey⟩ :=
      cSign_sent sends
    have tracks := run_tracks run module inSession.state_eq
    have coherent := reachable_coherent ⟨earlier, run⟩ module inSession.state_eq
    obtain ⟨raw, isLatest, identities⟩ := tracks.identities
    obtain ⟨isHandle, isIdentity⟩ := object?_eq_some.mp found
    have isPrivate : kind = .privateKey := by
      obtain ⟨_, other, _, decoded⟩ := coherent.sign op active
      rw [isHandle, handleToIdentityIndex_handle] at decoded
      cases decoded
      rfl
    obtain ⟨entry, isEntry, keyType, decoded, length⟩ :=
      identitiesOf_listed (identities ▸ List.mem_of_getElem? isIdentity)
    refine ⟨raw, op.keyHandle, LocalClient.signPayload codecs request, isLatest,
      tracks.signing op active, ?_, fun fits => ?_, ?_⟩
    · simp [signTree, LocalClient.requestTree, Value.get_jsonObject]
    · have isListed : (raw.map RawIdentity.listed)[identity.index]? = some entry.listed := by
        rw [List.getElem?_map, isEntry]
        rfl
      have named := @namesEntry_signParams codecs _ _ _ _ request.data lossless
        (by rwa [List.length_map]) isListed keyType decoded length
      rw [← keyIndex, ← publicKey] at named
      exact named
    · rw [readAttribute_eq inSession, found, Option.bind_some, isPrivate, publicKey]
      rfl
  · cases isSent

end Pkcs11

/-- Every sign request names an entry of the list that it was chosen from, with
the entry's own key, however many entries are skipped; the module signs with the
key that it reports for the handle. A `Vec` has at most 2^64 entries. -/
theorem requests_nameEntries (lossless : codecs.Lossless) :
    (∀ (raw : List ScdShim.RawIdentity) (client : ScdShim.GpgSaClient) (pid : UInt32)
      (trace : List (ScdShim.CommandTransition codecs)) (final : ScdShim.ScdState codecs),
      raw.length ≤ 2 ^ 64 → Run ScdShim.CommandStep (.start codecs raw client pid) trace final →
      ∀ transition ∈ trace, ∀ request ∈ transition.sent,
        ∃ params key, request.get "params" = some params ∧
          NamesEntry codecs (raw.map ScdShim.RawIdentity.listed) params key) ∧
    ∀ (earlier later : List Pkcs11.CallTransition) (transition : Pkcs11.CallTransition)
      (final : Pkcs11.State) (session : Nat) (request : Pkcs11.SignRequest),
      Run (Pkcs11.Step codecs) none (earlier ++ transition :: later) final →
      transition.request = some (session, request) →
      ∃ raw handle params,
        Pkcs11.latest (Pkcs11.CallTransition.listed codecs) earlier = some raw ∧
        Pkcs11.latest Pkcs11.CallTransition.signKey earlier = some handle ∧
        (Pkcs11.signTree codecs request).get "payload" = some params ∧
        (raw.length ≤ 2 ^ 64 →
          NamesEntry codecs (raw.map Pkcs11.RawIdentity.listed) params request.publicKey) ∧
        Pkcs11.readAttribute transition.before session handle Pkcs11.ckaEcPoint =
          some request.publicKey := by
  constructor
  · intro raw client pid trace final fits run transition member request isSent
    exact ScdShim.sent_namesEntry lossless fits run member isSent
  · intro earlier later transition final session request run isSent
    obtain ⟨middle, first, rest⟩ := run.unappend
    cases rest with
    | cons step _ => exact Pkcs11.sign_namesEntry lossless first isSent

/-! Lists whose first entry is skipped. -/

namespace ScdShim.Sample

def skippedStart : ScdState shortCodecs :=
  .start shortCodecs [⟨"rsa", "", "old"⟩, rawIdentity] .connect 42

def skippedStored : ScdState shortCodecs := continued skippedStart (answered "SETDATA 01")

def skippedSigned : ScdState shortCodecs := continued skippedStored (answered "PKSIGN OPENPGP.1")

def skippedPksign : CommandTransition shortCodecs :=
  ⟨skippedStored, answered "PKSIGN OPENPGP.1", skippedSigned⟩

theorem skippedSetdata_step : CommandStep skippedStart (answered "SETDATA 01") skippedStored :=
  sets_line.continues skippedStart (answered "SETDATA 01") rfl

theorem skippedPksign_step : CommandStep skippedStored (answered "PKSIGN OPENPGP.1") skippedSigned :=
  signsFirst_line.continues skippedStored (answered "PKSIGN OPENPGP.1") rfl

theorem skippedPksign_run :
    Run CommandStep skippedStart [⟨skippedStart, answered "SETDATA 01", skippedStored⟩, skippedPksign]
      skippedSigned :=
  .cons skippedSetdata_step (.cons skippedPksign_step (.nil _))

theorem identities_skipped : ∃ key, skippedStart.identities = [.ofKey shortCodecs key 1 0] := by
  obtain ⟨key, isKey⟩ := decodeKey_rawIdentity shortAnswer
  have skipped : decodeKey (answerCodecs shortAnswer) ⟨"rsa", "", "old"⟩ = none := if_pos (by decide)
  have decoded : decodedIdentities (answerCodecs shortAnswer) [⟨"rsa", "", "old"⟩, rawIdentity] =
      [(key, 1)] := by
    simp [decodedIdentities, skipped, isKey]
  refine ⟨key, ?_⟩
  rw [skippedStart, ScdState.start, identities, shortCodecs, decoded]
  rfl

theorem skippedPksign_sends : skippedPksign.sent.length = 1 := by
  obtain ⟨key, one⟩ := identities_skipped
  have isStored : skippedStored = { skippedStart with storedData := [1] } :=
    CommandStep.continued_eq (sets_line.step skippedStart (answered "SETDATA 01") rfl)
  have isOne : skippedStored.identities = [.ofKey shortCodecs key 1 0] := by rw [isStored]; exact one
  have isGiven : skippedStored.storedData ≠ [] := by rw [isStored]; exact List.cons_ne_nil _ _
  exact signsFirst_line.length_sent skippedStored (answered "PKSIGN OPENPGP.1") rfl isOne rfl isGiven

end ScdShim.Sample

namespace Pkcs11.Sample

open Transparent

def skippedKeys : List RawIdentity := ⟨"rsa4096", "", "old"⟩ :: rawKeys

def skippedModule : ModuleState where
  initialized := true
  socketPath := "/tmp/keymaster-avatar.sock"
  identities := [identityWith (List.replicate 32 0x11) "alice / certification" 1,
    identityWith (List.replicate 32 0x22) "bob / certification" 2]
  sessionOpen := false
  sessionHandle := ckInvalidHandle
  signOp := none
  findOp := none

def stepFrom (before : State) (call : Call) : CallTransition :=
  ⟨before, call, call.after (simpleCodecs []) before⟩

def skippedInitialize : CallTransition :=
  stepFrom none (.initializeModule "/tmp/keymaster-avatar.sock" (.identities skippedKeys))

def skippedOpen : CallTransition := stepFrom skippedInitialize.after (.openSession 0 ckfSerialSession false)

def skippedSignInit : CallTransition := stepFrom skippedOpen.after (.signInit 1 (some ckmEddsa) 4)

def skippedSign : CallTransition :=
  stepFrom skippedSignInit.after (.sign 1
    ⟨some [0xCA, 0xFE], some (List.replicate 64 0), some 64, fun _ => .signed (List.replicate 64 0x5A)⟩)

theorem skippedInitialize_after : skippedInitialize.after = some skippedModule := by
  have decoded : ∀ bytes, (simpleCodecs []).base64Decode (String.ofList (toBase64 bytes)) = .ok bytes :=
    simpleCodecs_lossless []
  have listed : identitiesOf (simpleCodecs []) skippedKeys = skippedModule.identities := by
    simp [identitiesOf, skippedKeys, rawKeys, identityOf, decoded, skippedModule, identityWith, List.zipIdx]
  rw [skippedInitialize, stepFrom, Call.after, cInitialize]
  simp [listed]
  rfl

theorem skippedSign_request :
    skippedSign.request = some (1, ⟨2, List.replicate 32 0x22, [0xCA, 0xFE]⟩) := by
  have opened : skippedOpen.after =
      some { skippedModule with sessionOpen := true, sessionHandle := 1 } := by
    rw [skippedOpen, stepFrom, skippedInitialize_after]
    rfl
  have started : skippedSignInit.after = some { skippedModule with
      sessionOpen := true, sessionHandle := 1, signOp := some ⟨4, ckmEddsa⟩ } := by
    rw [skippedSignInit, stepFrom, opened]
    rfl
  rw [skippedSign, stepFrom, started]
  rfl

theorem skippedSign_run :
    Run (Step (simpleCodecs [])) none
      ([skippedInitialize, skippedOpen, skippedSignInit] ++ skippedSign :: []) skippedSign.after :=
  .cons rfl (.cons rfl (.cons rfl (.cons rfl (.nil _))))

end Pkcs11.Sample

open ScdShim.Sample Pkcs11.Sample Transparent in
theorem skipped_nameEntries :
    (∀ request ∈ skippedPksign.sent, ∃ params key, request.get "params" = some params ∧
      NamesEntry shortCodecs [⟨"rsa", ""⟩, rawIdentity.listed] params key) ∧
    ∃ raw handle params,
      Pkcs11.latest (Pkcs11.CallTransition.listed (simpleCodecs []))
        [skippedInitialize, skippedOpen, skippedSignInit] = some raw ∧
      Pkcs11.latest Pkcs11.CallTransition.signKey
        [skippedInitialize, skippedOpen, skippedSignInit] = some handle ∧
      (Pkcs11.signTree (simpleCodecs []) ⟨2, List.replicate 32 0x22, [0xCA, 0xFE]⟩).get "payload" =
        some params ∧
      (raw.length ≤ 2 ^ 64 → NamesEntry (simpleCodecs []) (raw.map Pkcs11.RawIdentity.listed) params
        (List.replicate 32 0x22)) ∧
      Pkcs11.readAttribute skippedSign.before 1 handle Pkcs11.ckaEcPoint =
        some (List.replicate 32 0x22) :=
  ⟨(requests_nameEntries shortCodecs_lossless).1 [⟨"rsa", "", "old"⟩, rawIdentity] .connect 42 _ _
      (by decide) skippedPksign_run skippedPksign (by simp),
    (requests_nameEntries (simpleCodecs_lossless [])).2 _ [] _ _ 1 _ skippedSign_run skippedSign_request⟩

end KeyMaster
