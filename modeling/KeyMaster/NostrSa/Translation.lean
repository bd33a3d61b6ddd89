import KeyMaster.Codecs
import KeyMaster.Hex

namespace KeyMaster.NostrSa

/-! Hex to base64 and back: the byte fields of the bridge's two sides. -/

/-- `obj[field] = value` on an object. -/
def setField (field : String) (value : Value) : Value → Value
  | .object members => .object (Value.mapInsert field value members)
  | other => other

variable (codecs : Codecs)

def hexToBase64Field (obj : Value) (field : String) : Value :=
  match ((obj.get field).bind Value.asStr).bind fromHex with
  | some bytes => setField field (.string (codecs.base64Encode bytes)) obj
  | none => obj

def base64ToHexField (obj : Value) (field : String) : Value :=
  match ((obj.get field).bind Value.asStr).bind fun text => (codecs.base64Decode text).toOption with
  | some bytes => setField field (.string (toHex bytes)) obj
  | none => obj

/-- The byte fields of a method's params, in the order they are translated. -/
def requestByteFields : String → List String
  | "sign_event" => ["public_key", "event_hash"]
  | "nip04_encrypt" | "nip04_decrypt" | "nip44_encrypt" | "nip44_decrypt" =>
      ["public_key", "peer_public_key"]
  | "get_mls_pubkey" => ["nostr_pubkey"]
  | "mls_sign" => ["mls_pubkey", "data"]
  | "sign_account_identity_proof" => ["account_identity", "mls_signature_public_key"]
  | "mls_hpke_pubkey_at" => ["mls_pubkey"]
  | "mls_hpke_dh" | "mls_hpke_decap" => ["hpke_pubkey", "peer_public"]
  | "mls_next_hpke_init_key" => ["mls_pubkey", "current_hpke_pubkey"]
  | _ => []

def translateRequestParams (method : String) (params : Value) : Value :=
  (requestByteFields method).foldl (hexToBase64Field codecs) params

def resultByteField : String → Option String
  | "sign_event" | "mls_sign" | "sign_account_identity_proof" => some "signature"
  | "get_mls_pubkey" => some "mls_pubkey"
  | "mls_hpke_pubkey_at" | "mls_next_hpke_init_key" => some "hpke_pubkey"
  | "mls_hpke_dh" | "mls_hpke_decap" => some "dh_result"
  | _ => none

/-- The result of `get_public_keys` is an array with a key in each item. -/
def translateResponseResult (method : String) (result : Value) : Value :=
  if method = "get_public_keys" then
    match result with
    | .array items => .array (items.map fun item => base64ToHexField codecs item "public_key")
    | other => other
  else
    match resultByteField method with
    | some field => base64ToHexField codecs result field
    | none => result

end KeyMaster.NostrSa
