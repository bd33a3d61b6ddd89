import KeyMaster.JsonMap
import KeyMaster.NostrSa.Client

namespace KeyMaster.NostrSa

open Value

/-! The client's hex and the avatar's base64 are the same bytes. -/

variable (codecs : Codecs)

def hexToBase64 : Value → Value
  | .string text => (fromHex text).elim (.string text) fun bytes => .string (codecs.base64Encode bytes)
  | value => value

def hexToBase64In (fields : List String) (name : String) (value : Value) : Value :=
  if name ∈ fields then hexToBase64 codecs value else value

variable {codecs} {map : List (String × Value)} {field : String} {fields : List String}

theorem hexToBase64Field_object (ordered : KeyOrdered map) :
    hexToBase64Field codecs (.object map) field =
      .object (mapValues (hexToBase64In codecs [field]) map) := by
  rw [hexToBase64Field, Value.get]
  cases decoded : ((map.lookup field).bind Value.asStr).bind fromHex with
  | none =>
      rw [mapValues_eq_self]
      intro member inMap
      rw [hexToBase64In]
      split
      · rename_i named
        rw [← List.mem_singleton.mp named, ordered.lookup_of_mem inMap] at decoded
        cases value : member.2 with
        | string text =>
            have notHex : fromHex text = none := by simpa [value, Value.asStr] using decoded
            rw [hexToBase64, notHex, Option.elim_none]
        | _ => rfl
      · rfl
  | some bytes =>
      obtain ⟨text, isText, isHex⟩ := Option.bind_eq_some_iff.mp decoded
      obtain ⟨held, found, isString⟩ := Option.bind_eq_some_iff.mp isText
      have heldIs : held = .string text := by
        cases held with
        | string other => exact congrArg Value.string (Option.some.inj isString)
        | _ => cases isString
      have changed : hexToBase64 codecs held = .string (codecs.base64Encode bytes) := by
        rw [heldIs, hexToBase64, isHex, Option.elim_some]
      have single : hexToBase64In codecs [field] =
          fun name value => if name = field then hexToBase64 codecs value else value := by
        funext name value
        simp only [hexToBase64In, List.mem_singleton]
      rw [single, ← ordered.mapInsert_eq found, changed]
      rfl

theorem foldl_hexToBase64Field (nodup : fields.Nodup) (ordered : KeyOrdered map) :
    fields.foldl (hexToBase64Field codecs) (.object map) =
      .object (mapValues (hexToBase64In codecs fields) map) := by
  induction fields generalizing map with
  | nil => simp [hexToBase64In, mapValues]
  | cons field rest ih =>
      obtain ⟨notLater, nodupRest⟩ := List.nodup_cons.mp nodup
      rw [List.foldl_cons, hexToBase64Field_object ordered, ih nodupRest ordered.mapValues]
      have once : ∀ name value, hexToBase64In codecs rest name (hexToBase64In codecs [field] name value) =
          hexToBase64In codecs (field :: rest) name value := by
        intro name value
        by_cases named : name = field
        · simp [hexToBase64In, named, notLater]
        · simp [hexToBase64In, named]
      simp [mapValues, once]

theorem requestByteFields_nodup (method : String) : (requestByteFields method).Nodup := by
  unfold requestByteFields
  split <;> decide

/-- The bridge turns the byte fields of a method's params to base64, and
changes nothing else. -/
theorem translateRequestParams_object (method : String) (ordered : KeyOrdered map) :
    translateRequestParams codecs method (.object map) =
      .object (mapValues (hexToBase64In codecs (requestByteFields method)) map) :=
  foldl_hexToBase64Field (requestByteFields_nodup method) ordered

/-! ### Params -/

/-- A byte argument stands in a byte field, a text does not. -/
def Arg.Fits (fields : List String) (name : String) : Arg → Prop
  | .bytes _ => name ∈ fields
  | .text _ => name ∉ fields
  | .integer _ | .null => True

def Call.FieldsAgree {α : Type} (call : Call α) : Prop :=
  ∀ entry ∈ call.args, entry.2.Fits (requestByteFields call.method) entry.1

variable (codecs) in
def Call.avatarParams {α : Type} (call : Call α) : Value :=
  jsonObject (call.args.map fun (name, arg) => (name, arg.toAvatar codecs))

@[simp] theorem hexToBase64_toHex (bytes : List UInt8) :
    hexToBase64 codecs (.string (toHex bytes)) = .string (codecs.base64Encode bytes) := by
  rw [hexToBase64, fromHex_toHex, Option.elim_some]

theorem translateRequestParams_params {α : Type} {call : Call α} (agree : call.FieldsAgree) :
    translateRequestParams codecs call.method call.params = call.avatarParams codecs := by
  rw [Call.params, Call.avatarParams, jsonObject, jsonObject,
    translateRequestParams_object _ (keyOrdered_mapOfMembers _), ← mapOfMembers_mapValues, mapValues,
    List.map_map]
  congr 2
  apply List.map_congr_left
  rintro ⟨name, arg⟩ inArgs
  have fits : arg.Fits (requestByteFields call.method) name := agree (name, arg) inArgs
  cases arg with
  | bytes value =>
      have isField : name ∈ requestByteFields call.method := fits
      simp [hexToBase64In, isField, Arg.toClient, Arg.toAvatar]
  | text value =>
      have noField : name ∉ requestByteFields call.method := fits
      simp [hexToBase64In, noField, Arg.toClient, Arg.toAvatar]
  | integer | null =>
      simp [hexToBase64In, Arg.toClient, Arg.toAvatar, hexToBase64]

/-- The field tables of the two crates agree. -/
theorem fieldsAgree {α : Type} (clientCall : ClientCall α) : clientCall.call.FieldsAgree := by
  rw [Call.FieldsAgree]
  cases clientCall with
  | getPublicKeys => simp [ClientCall.call, KmNostrClient.getPublicKeys]
  | signEvent => simp [ClientCall.call, KmNostrClient.signEvent, requestByteFields, Arg.Fits]
  | nip44Encrypt => simp [ClientCall.call, KmNostrClient.nip44Encrypt, requestByteFields, Arg.Fits]
  | nip44Decrypt => simp [ClientCall.call, KmNostrClient.nip44Decrypt, requestByteFields, Arg.Fits]
  | getMlsPubkey => simp [ClientCall.call, KmNostrClient.getMlsPubkey, requestByteFields, Arg.Fits]
  | mlsSign => simp [ClientCall.call, KmNostrClient.mlsSign, requestByteFields, Arg.Fits]
  | signAccountIdentityProof =>
      simp [ClientCall.call, KmNostrClient.signAccountIdentityProof, requestByteFields, Arg.Fits]
  | mlsHpkePubkeyAt =>
      simp [ClientCall.call, KmNostrClient.mlsHpkePubkeyAt, requestByteFields, Arg.Fits]
  | mlsHpkeDh => simp [ClientCall.call, KmNostrClient.mlsHpkeDh, requestByteFields, Arg.Fits]
  | mlsHpkeDecap => simp [ClientCall.call, KmNostrClient.mlsHpkeDecap, requestByteFields, Arg.Fits]
  | mlsNextHpkeInitKey mlsPubkey current =>
      cases current with
      | none =>
          simp [ClientCall.call, KmNostrClient.mlsNextHpkeInitKey, requestByteFields, Arg.Fits]
      | some key =>
          simp [ClientCall.call, KmNostrClient.mlsNextHpkeInitKey, requestByteFields, Arg.Fits]

/-! ### Results -/

def HoldsText (result : Value) (field text : String) : Prop := result.get field = some (.string text)

def HoldsBytes (codecs : Codecs) (result : Value) (field : String) (bytes : List UInt8) : Prop :=
  HoldsText result field (codecs.base64Encode bytes)

/-- The answer to a call that a result has, with its bytes in fields that hold
them; there may be other members. -/
def ClientCall.Answers (holds : Value → String → List UInt8 → Prop) {α : Type} (result : Value) :
    (clientCall : ClientCall α) → α → Prop
  | .getPublicKeys, keys => ∃ items, result = .array items ∧
      List.Forall₂ (fun item (key : Vector UInt8 32) => holds item "public_key" key.toList) items keys
  | .signEvent .., signature => holds result "signature" signature.toList
  | .nip44Encrypt .., ciphertext => HoldsText result "ciphertext" ciphertext
  | .nip44Decrypt .., plaintext => HoldsText result "plaintext" plaintext
  | .getMlsPubkey .., mlsPubkey => holds result "mls_pubkey" mlsPubkey.toList
  | .mlsSign .., signature => holds result "signature" signature.toList
  | .signAccountIdentityProof .., signature => holds result "signature" signature.toList
  | .mlsHpkePubkeyAt .., hpkePubkey => holds result "hpke_pubkey" hpkePubkey.toList
  | .mlsHpkeDh .., dhResult => holds result "dh_result" dhResult.toList
  | .mlsHpkeDecap .., dhResult => holds result "dh_result" dhResult.toList
  | .mlsNextHpkeInitKey .., (hpkePubkey, index) => holds result "hpke_pubkey" hpkePubkey.toList ∧
      ∃ number, (result.get "index").bind Value.asU64 = some number ∧ index = number.toUInt32

/-- A result of the avatar carries an answer: its byte members are the base64
texts of the answer's bytes. -/
def ClientCall.Carries (codecs : Codecs) {α : Type} (result : Value) (clientCall : ClientCall α)
    (answer : α) : Prop :=
  clientCall.Answers (HoldsBytes codecs) result answer

/-- The bytes of a text after the bridge: a text that is no base64 is left as it
is, and the client takes it for hex. -/
def bytesOf (codecs : Codecs) (text : String) : Option (List UInt8) :=
  (codecs.base64Decode text).toOption.or (fromHex text)

def YieldsBytes (codecs : Codecs) (result : Value) (field : String) (bytes : List UInt8) : Prop :=
  ∃ text, HoldsText result field text ∧ bytesOf codecs text = some bytes

/-- What a call gets from a result of the avatar. -/
def ClientCall.Yields (codecs : Codecs) {α : Type} (result : Value) (clientCall : ClientCall α)
    (answer : α) : Prop :=
  clientCall.Answers (YieldsBytes codecs) result answer

theorem HoldsBytes.yields (lossless : codecs.Lossless) {result : Value} {bytes : List UInt8}
    (holds : HoldsBytes codecs result field bytes) : YieldsBytes codecs result field bytes := by
  refine ⟨_, holds, ?_⟩
  rw [bytesOf, lossless bytes]
  rfl

theorem ClientCall.Carries.yields (lossless : codecs.Lossless) {α : Type} {result : Value}
    {clientCall : ClientCall α} {answer : α} (carries : clientCall.Carries codecs result answer) :
    clientCall.Yields codecs result answer := by
  cases clientCall with
  | getPublicKeys =>
      obtain ⟨items, isArray, held⟩ := carries
      exact ⟨items, isArray, held.imp fun _ _ holds => HoldsBytes.yields lossless holds⟩
  | nip44Encrypt | nip44Decrypt => exact carries
  | mlsNextHpkeInitKey => exact ⟨HoldsBytes.yields lossless carries.1, carries.2⟩
  | _ => exact HoldsBytes.yields lossless carries

variable {count : Nat} {bytes : Vector UInt8 count} {result : Value}

theorem hexToArray_eq_ok {text : String} :
    hexToArray count text = .ok bytes ↔ fromHex text = some bytes.toList := by
  unfold hexToArray
  split
  · rename_i noHex
    simp [noHex]
  · rename_i decoded isHex
    rw [isHex]
    split
    · rw [Except.ok.injEq, Option.some.injEq, ← Vector.toList_inj]
      simp
    · rename_i other
      have notOther : decoded ≠ bytes.toList := by
        rintro rfl
        exact other Vector.length_toList
      simp [notOther]

theorem getStr_eq_ok {text : String} : getStr result field = .ok text ↔ HoldsText result field text := by
  rw [getStr, HoldsText]
  cases member : result.get field with
  | none => simp
  | some value => cases value <;> simp [Value.asStr]

theorem bind_eq_ok {α β : Type} {first : Except ClientError α} {next : α → Except ClientError β}
    {answer : β} :
    (first >>= next) = .ok answer ↔ ∃ value, first = .ok value ∧ next value = .ok answer := by
  cases first with
  | error => simp [bind, Except.bind]
  | ok value => simp [bind, Except.bind]

theorem get_base64ToHexField (codecs : Codecs) (result : Value) (field other : String) :
    (base64ToHexField codecs result field).get other =
      if other = field then
        (((result.get field).bind Value.asStr).bind fun text =>
          (codecs.base64Decode text).toOption).elim (result.get field) fun bytes =>
            some (.string (toHex bytes))
      else result.get other := by
  unfold base64ToHexField
  split
  · rename_i bytes decoded
    cases result with
    | object members =>
        rw [setField, Value.get, lookup_mapInsert, decoded]
        rfl
    | _ => cases decoded
  · rename_i noBytes
    rw [noBytes, Option.elim_none]
    split
    · rename_i same
      rw [same]
    · rfl

/-- The client reads the bytes of a field after the bridge has translated it. -/
theorem decode_base64ToHexField :
    (getStr (base64ToHexField codecs result field) field >>= hexToArray count) = .ok bytes ↔
      YieldsBytes codecs result field bytes.toList := by
  have translated := get_base64ToHexField codecs result field field
  rw [if_pos rfl] at translated
  simp only [bind_eq_ok, getStr_eq_ok, hexToArray_eq_ok, YieldsBytes, HoldsText, translated]
  cases member : (result.get field).bind Value.asStr with
  | none =>
      have noText : ∀ text, result.get field ≠ some (.string text) := by
        intro text isText
        rw [isText] at member
        cases member
      simp [noText]
  | some text =>
      have isText : result.get field = some (.string text) := by
        obtain ⟨value, isValue, isStr⟩ := Option.bind_eq_some_iff.mp member
        cases value with
        | string other => rw [isValue, Option.some.inj isStr]
        | _ => cases isStr
      rw [isText]
      cases decoded : (codecs.base64Decode text).toOption <;>
        simp [bytesOf, decoded, fromHex_toHex]

theorem mapM_eq_ok {α β : Type} {decode : α → Except ClientError β} {items : List α} {answers : List β} :
    items.mapM decode = .ok answers ↔
      List.Forall₂ (fun item answer => decode item = .ok answer) items answers := by
  induction items generalizing answers with
  | nil => cases answers <;> simp [pure, Except.pure]
  | cons item rest ih =>
      simp only [List.mapM_cons, bind_eq_ok, ih]
      cases answers with
      | nil => simp [pure, Except.pure]
      | cons answer others => simp [pure, Except.pure]

theorem decode_publicKeys {keys : List (Vector UInt8 32)} :
    KmNostrClient.getPublicKeys.decode (translateResponseResult codecs "get_public_keys" result) =
        .ok keys ↔
      ∃ items, result = .array items ∧
        List.Forall₂ (fun item (key : Vector UInt8 32) =>
          YieldsBytes codecs item "public_key" key.toList) items keys := by
  have each : ∀ (item : Value) (key : Vector UInt8 32),
      KmNostrClient.publicKeyOf (base64ToHexField codecs item "public_key") = .ok key ↔
        YieldsBytes codecs item "public_key" key.toList := by
    intro item key
    rw [← decode_base64ToHexField, getStr, KmNostrClient.publicKeyOf]
    cases ((base64ToHexField codecs item "public_key").get "public_key").bind Value.asStr with
    | none => simp [bind, Except.bind]
    | some text => rfl
  cases result with
  | array items =>
      simp only [translateResponseResult, if_true, KmNostrClient.getPublicKeys, Value.asArray, mapM_eq_ok,
        List.forall₂_map_left_iff, each]
      simp
  | _ => simp [translateResponseResult, KmNostrClient.getPublicKeys, Value.asArray]

/-- A call gets an answer exactly from the results that have one. -/
theorem decode_eq_ok_iff {α : Type} (clientCall : ClientCall α) {answer : α} :
    clientCall.call.decode (translateResponseResult codecs clientCall.call.method result) =
      .ok answer ↔ clientCall.Yields codecs result answer := by
  cases clientCall with
  | getPublicKeys => exact decode_publicKeys
  | nip44Encrypt | nip44Decrypt => exact getStr_eq_ok
  | mlsNextHpkeInitKey mlsPubkey current =>
      obtain ⟨hpkePubkey, index⟩ := answer
      have kept := get_base64ToHexField codecs result "hpke_pubkey" "index"
      rw [if_neg (by decide)] at kept
      change (KmNostrClient.mlsNextHpkeInitKey mlsPubkey current).decode
        (base64ToHexField codecs result "hpke_pubkey") = .ok (hpkePubkey, index) ↔ _
      simp only [KmNostrClient.mlsNextHpkeInitKey]
      rw [bind_eq_ok]
      simp only [hexTo32, decode_base64ToHexField, kept]
      rw [ClientCall.Yields, ClientCall.Answers]
      cases (result.get "index").bind Value.asU64 with
      | none => simp
      | some number =>
          constructor
          · rintro ⟨value, yields, same⟩
            cases same
            exact ⟨yields, number, rfl, rfl⟩
          · rintro ⟨yields, _, isNumber, rfl⟩
            cases isNumber
            exact ⟨hpkePubkey, yields, rfl⟩
  | _ => exact decode_base64ToHexField

theorem decode_translateResponseResult (lossless : codecs.Lossless) {α : Type}
    (clientCall : ClientCall α) {answer : α} (carries : clientCall.Carries codecs result answer) :
    clientCall.call.decode (translateResponseResult codecs clientCall.call.method result) =
      .ok answer :=
  (decode_eq_ok_iff clientCall).mpr (carries.yields lossless)

/-- Client and avatar mean the same bytes, in the params and in the result. -/
theorem encodings_agree (lossless : codecs.Lossless) {α : Type} (clientCall : ClientCall α) :
    translateRequestParams codecs clientCall.call.method clientCall.call.params =
        clientCall.call.avatarParams codecs ∧
      ∀ result answer, clientCall.Carries codecs result answer →
        clientCall.call.decode (translateResponseResult codecs clientCall.call.method result) =
          .ok answer :=
  ⟨translateRequestParams_params (fieldsAgree clientCall),
    fun _ _ carries => decode_translateResponseResult lossless clientCall carries⟩

open Transparent in
theorem mlsSign_encodings_agree :
    translateRequestParams (simpleCodecs []) "mls_sign"
        (KmNostrClient.mlsSign (Vector.replicate 32 0xAB) [104, 105]).params =
      (KmNostrClient.mlsSign (Vector.replicate 32 0xAB) [104, 105]).avatarParams (simpleCodecs []) ∧
    (KmNostrClient.mlsSign (Vector.replicate 32 0xAB) [104, 105]).decode
        (translateResponseResult (simpleCodecs []) "mls_sign"
          (jsonObject [("signature", .string (String.ofList (toBase64 (List.replicate 64 0xFF))))])) =
      .ok (Vector.replicate 64 0xFF) := by
  obtain ⟨params, result⟩ := encodings_agree (simpleCodecs_lossless [])
    (.mlsSign (Vector.replicate 32 0xAB) [104, 105])
  refine ⟨params, result _ _ ?_⟩
  rw [ClientCall.Carries, ClientCall.Answers, HoldsBytes, HoldsText, get_jsonObject,
    Vector.toList_replicate]
  rfl

theorem requestOf_message {α : Type} (call : Call α) (reply : ReplyChannel) :
    requestOf reply call.message =
      some ⟨call.method, call.params, .number (.posInt 1), reply⟩ := by
  simp [requestOf, methodOf, Call.message, get_jsonObject, lookup_cons_eq, Value.asStr]

theorem read_answeredReply {α : Type} (call : Call α) (request : ClientRequest)
    {answer : JsonRpcResponse} (succeeded : answer.error = none)
    (isResult : answer.result = some result) :
    call.read (responseValue (answeredReply codecs request answer)) =
      call.decode (translateResponseResult codecs request.method result) := by
  simp [Call.read, responseValue, answeredReply, succeeded, isResult, get_jsonObject, lookup_cons_eq]

end KeyMaster.NostrSa
