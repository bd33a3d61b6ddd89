import KeyMaster.NostrSa.Bridge

namespace KeyMaster.NostrSa

/-! The methods of `KmNostrClient`, and the encodings on both sides of the bridge. -/

/-! ### Calls -/

/-- `Error`, without those of the socket and of `serde_json`. -/
inductive ClientError where
  | hex
  | rpc (code : Int) (message : String)
  | protocol (message : String)
deriving DecidableEq

inductive Arg where
  | bytes (value : List UInt8)
  | text (value : String)
  | integer (value : UInt32)
  | null

namespace Arg

def toClient : Arg → Value
  | .bytes value => .string (toHex value)
  | .text value => .string value
  | .integer value => .number (.posInt value.toUInt64)
  | .null => .null

def toAvatar (codecs : Codecs) : Arg → Value
  | .bytes value => .string (codecs.base64Encode value)
  | arg => arg.toClient

end Arg

/-- A method with its arguments, and how the client decodes the result. -/
structure Call (α : Type) where
  method : String
  args : List (String × Arg)
  decode : Value → Except ClientError α

def getStr (obj : Value) (field : String) : Except ClientError String :=
  ((obj.get field).bind Value.asStr).elim (.error (.protocol ("missing field: " ++ field))) .ok

def hexToArray (count : Nat) (text : String) : Except ClientError (Vector UInt8 count) :=
  match fromHex text with
  | none => .error .hex
  | some bytes =>
      if length : bytes.length = count then .ok ⟨bytes.toArray, length⟩
      else .error (.protocol s!"expected {count} bytes, got {bytes.length}")

def hexTo32 : String → Except ClientError (Vector UInt8 32) := hexToArray 32

def hexTo64 : String → Except ClientError (Vector UInt8 64) := hexToArray 64

namespace KmNostrClient

/-- An item of the result of `get_public_keys`. -/
def publicKeyOf (item : Value) : Except ClientError (Vector UInt8 32) :=
  match (item.get "public_key").bind Value.asStr with
  | none => .error (.protocol "missing public_key")
  | some text => hexTo32 text

def getPublicKeys : Call (List (Vector UInt8 32)) where
  method := "get_public_keys"
  args := []
  decode resp :=
    match resp.asArray with
    | none => .error (.protocol "expected array")
    | some items => items.mapM publicKeyOf

def signEvent (pubkey eventHash : Vector UInt8 32) : Call (Vector UInt8 64) where
  method := "sign_event"
  args := [("public_key", .bytes pubkey.toList), ("event_hash", .bytes eventHash.toList)]
  decode resp := getStr resp "signature" >>= hexTo64

def nip44Encrypt (pubkey peerPublicKey : Vector UInt8 32) (plaintext : String) : Call String where
  method := "nip44_encrypt"
  args := [("public_key", .bytes pubkey.toList), ("peer_public_key", .bytes peerPublicKey.toList),
    ("plaintext", .text plaintext)]
  decode resp := getStr resp "ciphertext"

def nip44Decrypt (pubkey peerPublicKey : Vector UInt8 32) (ciphertext : String) : Call String where
  method := "nip44_decrypt"
  args := [("public_key", .bytes pubkey.toList), ("peer_public_key", .bytes peerPublicKey.toList),
    ("ciphertext", .text ciphertext)]
  decode resp := getStr resp "plaintext"

def getMlsPubkey (nostrPubkey : Vector UInt8 32) : Call (Vector UInt8 32) where
  method := "get_mls_pubkey"
  args := [("nostr_pubkey", .bytes nostrPubkey.toList), ("device_id", .null)]
  decode resp := getStr resp "mls_pubkey" >>= hexTo32

def mlsSign (mlsPubkey : Vector UInt8 32) (data : List UInt8) : Call (Vector UInt8 64) where
  method := "mls_sign"
  args := [("mls_pubkey", .bytes mlsPubkey.toList), ("data", .bytes data)]
  decode resp := getStr resp "signature" >>= hexTo64

def signAccountIdentityProof (accountIdentity mlsSignaturePublicKey : Vector UInt8 32)
    (ciphersuite signatureScheme : UInt32) : Call (Vector UInt8 64) where
  method := "sign_account_identity_proof"
  args := [("account_identity", .bytes accountIdentity.toList),
    ("mls_signature_public_key", .bytes mlsSignaturePublicKey.toList),
    ("ciphersuite", .integer ciphersuite), ("signature_scheme", .integer signatureScheme)]
  decode resp := getStr resp "signature" >>= hexTo64

def mlsHpkePubkeyAt (mlsPubkey : Vector UInt8 32) (keyType index : UInt32) :
    Call (Vector UInt8 32) where
  method := "mls_hpke_pubkey_at"
  args := [("mls_pubkey", .bytes mlsPubkey.toList), ("key_type", .integer keyType),
    ("index", .integer index)]
  decode resp := getStr resp "hpke_pubkey" >>= hexTo32

def mlsHpkeDh (hpkePubkey peerPublic : Vector UInt8 32) : Call (Vector UInt8 32) where
  method := "mls_hpke_dh"
  args := [("hpke_pubkey", .bytes hpkePubkey.toList), ("peer_public", .bytes peerPublic.toList)]
  decode resp := getStr resp "dh_result" >>= hexTo32

def mlsHpkeDecap (hpkePubkey peerPublic : Vector UInt8 32) : Call (Vector UInt8 32) where
  method := "mls_hpke_decap"
  args := [("hpke_pubkey", .bytes hpkePubkey.toList), ("peer_public", .bytes peerPublic.toList)]
  decode resp := getStr resp "dh_result" >>= hexTo32

def mlsNextHpkeInitKey (mlsPubkey : Vector UInt8 32)
    (currentHpkePubkey : Option (Vector UInt8 32)) : Call (Vector UInt8 32 × UInt32) where
  method := "mls_next_hpke_init_key"
  args := [("mls_pubkey", .bytes mlsPubkey.toList),
    ("current_hpke_pubkey", currentHpkePubkey.elim .null fun key => .bytes key.toList)]
  decode resp := do
    let pubkey ← getStr resp "hpke_pubkey" >>= hexTo32
    match (resp.get "index").bind Value.asU64 with
    | none => .error (.protocol "missing index")
    | some index => .ok (pubkey, index.toUInt32)

end KmNostrClient

inductive ClientCall : Type → Type
  | getPublicKeys : ClientCall (List (Vector UInt8 32))
  | signEvent (pubkey eventHash : Vector UInt8 32) : ClientCall (Vector UInt8 64)
  | nip44Encrypt (pubkey peerPublicKey : Vector UInt8 32) (plaintext : String) : ClientCall String
  | nip44Decrypt (pubkey peerPublicKey : Vector UInt8 32) (ciphertext : String) : ClientCall String
  | getMlsPubkey (nostrPubkey : Vector UInt8 32) : ClientCall (Vector UInt8 32)
  | mlsSign (mlsPubkey : Vector UInt8 32) (data : List UInt8) : ClientCall (Vector UInt8 64)
  | signAccountIdentityProof (accountIdentity mlsSignaturePublicKey : Vector UInt8 32)
      (ciphersuite signatureScheme : UInt32) : ClientCall (Vector UInt8 64)
  | mlsHpkePubkeyAt (mlsPubkey : Vector UInt8 32) (keyType index : UInt32) :
      ClientCall (Vector UInt8 32)
  | mlsHpkeDh (hpkePubkey peerPublic : Vector UInt8 32) : ClientCall (Vector UInt8 32)
  | mlsHpkeDecap (hpkePubkey peerPublic : Vector UInt8 32) : ClientCall (Vector UInt8 32)
  | mlsNextHpkeInitKey (mlsPubkey : Vector UInt8 32)
      (currentHpkePubkey : Option (Vector UInt8 32)) : ClientCall (Vector UInt8 32 × UInt32)

def ClientCall.call {α : Type} : ClientCall α → Call α
  | .getPublicKeys => KmNostrClient.getPublicKeys
  | .signEvent pubkey eventHash => KmNostrClient.signEvent pubkey eventHash
  | .nip44Encrypt pubkey peer plaintext => KmNostrClient.nip44Encrypt pubkey peer plaintext
  | .nip44Decrypt pubkey peer ciphertext => KmNostrClient.nip44Decrypt pubkey peer ciphertext
  | .getMlsPubkey nostrPubkey => KmNostrClient.getMlsPubkey nostrPubkey
  | .mlsSign mlsPubkey data => KmNostrClient.mlsSign mlsPubkey data
  | .signAccountIdentityProof identity mlsKey ciphersuite scheme =>
      KmNostrClient.signAccountIdentityProof identity mlsKey ciphersuite scheme
  | .mlsHpkePubkeyAt mlsPubkey keyType index =>
      KmNostrClient.mlsHpkePubkeyAt mlsPubkey keyType index
  | .mlsHpkeDh hpkePubkey peerPublic => KmNostrClient.mlsHpkeDh hpkePubkey peerPublic
  | .mlsHpkeDecap hpkePubkey peerPublic => KmNostrClient.mlsHpkeDecap hpkePubkey peerPublic
  | .mlsNextHpkeInitKey mlsPubkey current => KmNostrClient.mlsNextHpkeInitKey mlsPubkey current

/-! ### The exchange -/

def Call.params {α : Type} (call : Call α) : Value :=
  jsonObject (call.args.map fun (name, arg) => (name, arg.toClient))

def Call.message {α : Type} (call : Call α) : Value :=
  jsonObject [("jsonrpc", .string "2.0"), ("id", .number (.posInt 1)),
    ("method", .string call.method), ("params", call.params)]

def asI64 : Value → Option Int
  | .number (.posInt value) => if value.toNat < 2 ^ 63 then some value.toNat else none
  | .number (.negInt value) => some value.toInt
  | _ => none

/-- `KmNostrClient::call` from the response on, and the method's decoding. -/
def Call.read {α : Type} (call : Call α) (resp : Value) : Except ClientError α :=
  match resp.get "error" with
  | some err => .error (.rpc (((err.get "code").bind asI64).getD (-1))
      (((err.get "message").bind Value.asStr).getD "unknown error"))
  | none =>
      match resp.get "result" with
      | some result => call.decode result
      | none => .error (.protocol "missing result field")

end KeyMaster.NostrSa
