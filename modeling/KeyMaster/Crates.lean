import KeyMaster.Json
import Mathlib.Tactic.Ring

namespace KeyMaster

structure ChildNumber where
  index : Nat
  normal : index < 2 ^ 31

/-- `ChildNumber::from_normal_idx`: an index with the hardened bit set is an error. -/
def ChildNumber.fromNormalIdx (index : Nat) : Option ChildNumber :=
  if normal : index < 2 ^ 31 then some ⟨index, normal⟩ else none

/-- The third-party crates, as far as the code calls them: key and event types
are opaque, and everything that is computed outside the repository is a field. -/
structure Crates where
  /-- `nostr::PublicKey`, an x-only key. -/
  PublicKey : Type
  SecretKey : Type
  EventId : Type
  Xpriv : Type
  Xpub : Type
  /-- `secp256k1::XOnlyPublicKey`. -/
  XOnlyPublicKey : Type
  publicKeyEq : DecidableEq PublicKey
  eventIdEq : DecidableEq EventId
  xpubEq : DecidableEq Xpub
  /-- `Keys::new(secret).public_key()`. -/
  publicKey : SecretKey → PublicKey
  publicKeyToHex : PublicKey → String
  publicKeyFromSlice : List UInt8 → Option PublicKey
  secretKeyFromSlice : List UInt8 → Option SecretKey
  eventIdToHex : EventId → String
  eventIdFromHex : String → Option EventId
  /-- `nip44::decrypt(own secret key, other party, content)`. -/
  nip44Decrypt : SecretKey → PublicKey → String → Option String
  parseJson : String → Option Value
  /-- The message of the error that `serde_json` gives for a text that is none. -/
  jsonErrorText : String → String
  sha256 : List UInt8 → Vector UInt8 32
  xOnlyFromSlice : List UInt8 → Option XOnlyPublicKey
  /-- `verify_schnorr(signature, digest, key)`. -/
  verifySchnorr : List UInt8 → Vector UInt8 32 → XOnlyPublicKey → Bool
  xpubFromStr : String → Option Xpub
  xpubToString : Xpub → String
  derivePriv : Xpriv → List ChildNumber → Option Xpriv
  derivePub : Xpub → List ChildNumber → Option Xpub
  /-- `xpriv.private_key.secret_bytes()`. -/
  secretBytes : Xpriv → Vector UInt8 32
  /-- `xpub.public_key.serialize()`, the compressed SEC1 form. -/
  serializePublicKey : Xpub → Vector UInt8 33

namespace Crates

instance (C : Crates) : DecidableEq C.PublicKey := C.publicKeyEq

instance (C : Crates) : DecidableEq C.EventId := C.eventIdEq

instance (C : Crates) : DecidableEq C.Xpub := C.xpubEq

end Crates

structure Keys (C : Crates) where
  secretKey : C.SecretKey

def Keys.publicKey {C : Crates} (keys : Keys C) : C.PublicKey := C.publicKey keys.secretKey

/-- A signed Nostr event.  Its signature has been checked by `nostr-sdk`. -/
structure Event (C : Crates) where
  id : C.EventId
  pubkey : C.PublicKey
  kind : Nat
  tags : List (List String)
  content : String
deriving DecidableEq

def utf8Bytes (text : String) : List UInt8 := text.toByteArray.data.toList

/-! ### A transparent instance

Every computation of the model can be evaluated over it: a key is a number, a
derived key spells its path, a ciphertext names its recipient and its sender
in front of the plaintext, and a signature repeats what it signs.
-/

namespace Transparent

def toBytes (width value : Nat) : Vector UInt8 width :=
  Vector.ofFn fun position => UInt8.ofNat (value / 256 ^ (width - 1 - position.val))

def ofBytes (bytes : List UInt8) : Nat := bytes.foldl (fun value byte => value * 256 + byte.toNat) 0

def derive (parent : Nat) (path : List ChildNumber) : Nat :=
  path.foldl (fun value child => value * 2 ^ 31 + child.index) parent

def encrypt (recipient sender : Nat) (plaintext : String) : String :=
  toString recipient ++ ":" ++ toString sender ++ ":" ++ plaintext

def decrypt (recipient sender : Nat) (content : String) : Option String :=
  let header := (encrypt recipient sender "").toList
  if header.isPrefixOf content.toList then some (String.ofList (content.toList.drop header.length))
  else none

def ofDecimal (text : String) : Option Nat :=
  if text.toList.all Char.isDigit then
    some (text.toList.foldl (fun value digit => value * 10 + (digit.toNat - '0'.toNat)) 0)
  else none

/-- The crates over numbers; the JSON texts it reads are given. -/
abbrev crates (texts : List (String × Value)) : Crates where
  PublicKey := Nat
  SecretKey := Nat
  EventId := Nat
  Xpriv := Nat
  Xpub := Nat
  XOnlyPublicKey := Nat
  publicKeyEq := inferInstance
  eventIdEq := inferInstance
  xpubEq := inferInstance
  publicKey := id
  publicKeyToHex := toString
  publicKeyFromSlice bytes := some (ofBytes bytes)
  secretKeyFromSlice bytes := some (ofBytes bytes)
  eventIdToHex := toString
  eventIdFromHex := ofDecimal
  nip44Decrypt := decrypt
  parseJson text := texts.lookup text
  jsonErrorText text := "not a known text: " ++ text
  sha256 bytes := toBytes 32 (ofBytes (bytes.take 31))
  xOnlyFromSlice bytes := some (ofBytes bytes)
  verifySchnorr signature digest key := signature == digest.toList ++ (toBytes 32 key).toList
  xpubFromStr := ofDecimal
  xpubToString := toString
  derivePriv parent path := some (derive parent path)
  derivePub parent path := some (derive parent path)
  secretBytes := toBytes 32
  serializePublicKey key := ⟨#[2] ++ (toBytes 32 key).toArray, by simp⟩

theorem decrypt_encrypt (recipient sender : Nat) (plaintext : String) :
    decrypt recipient sender (encrypt recipient sender plaintext) = some plaintext := by
  have split : (encrypt recipient sender plaintext).toList =
      (encrypt recipient sender "").toList ++ plaintext.toList := by
    simp [encrypt]
  have isPrefix : (encrypt recipient sender "").toList.isPrefixOf
      (encrypt recipient sender plaintext).toList = true := by
    rw [split, List.isPrefixOf_iff_prefix]
    exact List.prefix_append _ _
  rw [decrypt, if_pos isPrefix, split, List.drop_left, String.ofList_toList]

theorem ofBytes_cons (byte : UInt8) (bytes : List UInt8) :
    ofBytes (byte :: bytes) = byte.toNat * 256 ^ bytes.length + ofBytes bytes := by
  have shift : ∀ (bytes : List UInt8) (start : Nat),
      bytes.foldl (fun value byte => value * 256 + byte.toNat) start =
        start * 256 ^ bytes.length + ofBytes bytes := by
    intro bytes
    induction bytes with
    | nil => simp [ofBytes]
    | cons head rest ih =>
        intro start
        have first : ofBytes (head :: rest) =
            (0 * 256 + head.toNat) * 256 ^ rest.length + ofBytes rest := ih _
        rw [List.foldl_cons, ih, first, List.length_cons, Nat.pow_succ]
        ring
  rw [ofBytes, List.foldl_cons, shift, Nat.zero_mul, Nat.zero_add]

theorem ofBytes_toBytes (width value : Nat) :
    ofBytes (toBytes width value).toList = value % 256 ^ width := by
  induction width with
  | zero =>
      simp only [toBytes, Vector.toList_ofFn, List.ofFn_zero, Nat.pow_zero, Nat.mod_one]
      rfl
  | succ width ih =>
      have split : (toBytes (width + 1) value).toList =
          UInt8.ofNat (value / 256 ^ width) :: (toBytes width value).toList := by
        simp only [toBytes, Vector.toList_ofFn, List.ofFn_succ]
        simp [Nat.sub_sub, Nat.add_comm]
      rw [split, ofBytes_cons, ih, Nat.mod_pow_succ]
      simp [Nat.mul_comm, Nat.add_comm]

end Transparent

end KeyMaster
