import KeyMaster.Crates
import KeyMaster.Hex

namespace KeyMaster

variable (C : Crates)

/-! The signed connector of an attach request. -/

/-! ### Canonical JSON -/

mutual

/-- `canonicalize_json`: sort keys lexicographically, compact output. -/
def canonicalizeJson : Value → String
  | .object members =>
      "\x7b" ++ ",".intercalate ((Value.mapOfMembers (canonicalMembers members)).map
        fun member => quote member.1 ++ ":" ++ member.2) ++ "\x7d"
  | value => value.toJson

/-- Each member's printed value: a nested object is canonicalized, anything
else is left to the JSON printer. -/
def canonicalMembers : List (String × Value) → List (String × String)
  | [] => []
  | (key, .object members) :: rest =>
      (key, canonicalizeJson (.object members)) :: canonicalMembers rest
  | (key, value) :: rest => (key, value.toJson) :: canonicalMembers rest

end

/-! ### Verification -/

/-- How an attach ends before it touches the session table: with an error
response, or with the `Err` of a key that is not on the curve. -/
inductive AttachFailure where
  | rejected (message : String)
  | invalidKey
deriving DecidableEq, Repr

def connectorStr (connector : Value) (name : String) : Option String :=
  (connector.get name).bind Value.asStr

def verifyLoginXpub (loginXpub : C.Xpub) (connector : Value) : Except AttachFailure Unit :=
  match connectorStr connector "login_xpub" with
  | none => .ok ()
  | some loginXpubStr =>
      if loginXpubStr ≠ C.xpubToString loginXpub then .error (.rejected "login_xpub mismatch")
      else .ok ()

def schnorrFromSlice (bytes : List UInt8) : Option (List UInt8) :=
  if bytes.length = 64 then some bytes else none

def verifyConnectorSig (connector : Value) (sigHex : String) : Except AttachFailure Unit :=
  let digest := C.sha256 (utf8Bytes (canonicalizeJson connector))
  match (fromHex sigHex).bind schnorrFromSlice with
  | none => .error (.rejected "invalid connector_sig")
  | some sig =>
      match fromHex ((connectorStr connector "identity_npub").getD "") with
      | none => .error (.rejected "invalid identity_npub")
      | some identityPk =>
          if identityPk.length ≠ 32 then .error (.rejected "invalid identity_npub")
          else
            match C.xOnlyFromSlice identityPk with
            | none => .error .invalidKey
            | some xonly =>
                if C.verifySchnorr sig digest xonly then .ok ()
                else .error (.rejected "connector signature verification failed")

/-- The connector part of `handle_attach`: a connector without a string
`connector_sig` is a legacy attach and passes unverified. -/
def verifyConnector (loginXpub : C.Xpub) (params : Value) : Except AttachFailure Unit :=
  match params.get "connector" with
  | none => .ok ()
  | some connector => do
      verifyLoginXpub C loginXpub connector
      match connectorStr params "connector_sig" with
      | none => .ok ()
      | some sigHex => verifyConnectorSig C connector sigHex

/-- The connector is signed: its `identity_npub` is the hex form of a key under
which the hex signature verifies for the digest of the canonical connector. -/
def SignedConnector (connector : Value) (sigHex npub : String) : Prop :=
  connectorStr connector "identity_npub" = some npub ∧ IsHex 64 npub ∧
    ∃ sig identityPk xonly, fromHex sigHex = some sig ∧ sig.length = 64 ∧
      fromHex npub = some identityPk ∧ C.xOnlyFromSlice identityPk = some xonly ∧
      C.verifySchnorr sig (C.sha256 (utf8Bytes (canonicalizeJson connector))) xonly = true

variable {C}

theorem verifyLoginXpub_ok {loginXpub : C.Xpub} {connector : Value}
    (verified : verifyLoginXpub C loginXpub connector = .ok ()) {text : String}
    (given : connectorStr connector "login_xpub" = some text) :
    text = C.xpubToString loginXpub := by
  simp only [verifyLoginXpub, given] at verified
  by_contra different
  simp [different] at verified

theorem verifyConnectorSig_ok {connector : Value} {sigHex : String}
    (verified : verifyConnectorSig C connector sigHex = .ok ()) :
    ∃ npub, SignedConnector C connector sigHex npub := by
  simp only [verifyConnectorSig] at verified
  split at verified
  · cases verified
  · rename_i sig signature
    obtain ⟨sigBytes, sigDecoded, sigParsed⟩ := Option.bind_eq_some_iff.mp signature
    have sigLength : sigBytes.length = 64 ∧ sigBytes = sig := by
      unfold schnorrFromSlice at sigParsed
      split at sigParsed
      · exact ⟨‹_›, Option.some.inj sigParsed⟩
      · cases sigParsed
    obtain ⟨sigLength, rfl⟩ := sigLength
    split at verified
    · cases verified
    · rename_i identityPk keyDecoded
      split at verified
      · cases verified
      · rename_i keyLength
        simp only [ne_eq, not_not] at keyLength
        split at verified
        · cases verified
        · rename_i xonly parsed
          split at verified
          · rename_i accepted
            cases found : connectorStr connector "identity_npub" with
            | none =>
                rw [found] at keyDecoded
                cases keyDecoded
                cases keyLength
            | some npub =>
                rw [found] at keyDecoded
                have digits := fromHex_isHex keyDecoded
                rw [keyLength] at digits
                exact ⟨npub, found, digits, sigBytes, identityPk, xonly, sigDecoded, sigLength,
                  keyDecoded, parsed, accepted⟩
          · cases verified

/-- Passing verification with a connector and a signature string means that
the connector is signed and names the avatar's own `login_xpub` if it names any. -/
theorem verifyConnector_ok {loginXpub : C.Xpub} {params connector : Value} {sigHex : String}
    (verified : verifyConnector C loginXpub params = .ok ())
    (present : params.get "connector" = some connector)
    (signature : connectorStr params "connector_sig" = some sigHex) :
    (∃ npub, SignedConnector C connector sigHex npub) ∧
      ∀ text, connectorStr connector "login_xpub" = some text →
        text = C.xpubToString loginXpub := by
  simp only [verifyConnector, present, signature] at verified
  cases login : verifyLoginXpub C loginXpub connector with
  | error failure =>
      rw [login] at verified
      cases verified
  | ok accepted =>
      rw [login] at verified
      exact ⟨verifyConnectorSig_ok verified, fun text given => verifyLoginXpub_ok login given⟩

end KeyMaster
