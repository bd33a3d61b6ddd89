import KeyMaster.Data.Utf8
import KeyMaster.Hex
import KeyMaster.ScdShim.Client

namespace KeyMaster.ScdShim

open Data

/-! The identities that the shim offers as card keys. -/

def textBytes (text : String) : List UInt8 := Utf8.encode text.toList

/-! ### Keygrips -/

/-- The parameters of Ed25519 that libgcrypt hashes, by their names. -/
def curveParameters : List (String × List UInt8) :=
  [("p", 0x7F :: List.replicate 30 0xFF ++ [0xED]),
   ("a", [0x01]),
   ("b", [0x2D, 0xFC, 0x93, 0x11, 0xD4, 0x90, 0x01, 0x8C, 0x73, 0x38, 0xBF, 0x86, 0x88, 0x86, 0x17, 0x67,
     0xFF, 0x8F, 0xF5, 0xB2, 0xBE, 0xBE, 0x27, 0x54, 0x8A, 0x14, 0xB2, 0x35, 0xEC, 0xA6, 0x87, 0x4A]),
   ("g", [0x04,
     0x21, 0x69, 0x36, 0xD3, 0xCD, 0x6E, 0x53, 0xFE, 0xC0, 0xA4, 0xE2, 0x31, 0xFD, 0xD6, 0xDC, 0x5C,
     0x69, 0x2C, 0xC7, 0x60, 0x95, 0x25, 0xA7, 0xB2, 0xC9, 0x56, 0x2D, 0x60, 0x8F, 0x25, 0xD5, 0x1A] ++
     List.replicate 31 0x66 ++ [0x58]),
   ("n", 0x10 :: List.replicate 15 0x00 ++
     [0x14, 0xDE, 0xF9, 0xDE, 0xA2, 0xF7, 0x9C, 0xD6, 0x58, 0x12, 0x63, 0x1A, 0x5C, 0xF5, 0xD3, 0xED])]

/-- `(1:<name><length>:<value>)`. -/
def hashedParameter (parameter : String × List UInt8) : List UInt8 :=
  textBytes ("(1:" ++ parameter.1 ++ toString parameter.2.length) ++ textBytes ":" ++ parameter.2 ++
    textBytes ")"

/-- `{:02X}`. -/
def upperHex (byte : UInt8) : List Char :=
  let digit := fun value => "0123456789ABCDEF".toList.getD value '0'
  [digit (byte.toNat / 16), digit (byte.toNat % 16)]

def computeKeygrip (codecs : Codecs) (publicKey : List UInt8) : String :=
  let hash := codecs.sha1 ((curveParameters ++ [("q", publicKey)]).flatMap hashedParameter)
  String.ofList (hash.toList.flatMap upperHex)

/-- The canonical S-expression of a public key. -/
def publicKeySexp (publicKey : List UInt8) : List UInt8 :=
  textBytes "(10:public-key(3:ecc(5:curve7:Ed25519)(5:flags5:eddsa)(1:q33:" ++ 0x40 :: publicKey ++
    textBytes ")))"

/-! ### Identities -/

/-- A key of the proxy, at its position in the proxy's list. -/
structure Identity (codecs : Codecs) where
  publicKey : Vector UInt8 32
  index : Nat
  keygrip : String
  keyref : String
  keygrip_eq : keygrip = computeKeygrip codecs publicKey.toList
  keyref_eq : keyref = "OPENPGP.1" ∨ keyref = "OPENPGP.3"

structure RawIdentity where
  keyType : String
  publicKey : String
  label : String

variable (codecs : Codecs)

/-- The key of an entry: 32 bytes of type `ed25519`. -/
def decodeKey (raw : RawIdentity) : Option (Vector UInt8 32) :=
  if raw.keyType ≠ "ed25519" then none
  else
    match codecs.base64Decode raw.publicKey with
    | .error _ => none
    | .ok key => if length : key.length = 32 then some ⟨key.toArray, by simpa⟩ else none

/-- The decoded keys, each with the index of its entry. -/
def decodedIdentities (raw : List RawIdentity) : List (Vector UInt8 32 × Nat) :=
  raw.zipIdx.filterMap fun entry => (decodeKey codecs entry.1).map fun key => (key, entry.2)

def keyrefAt (position : Nat) : String := ["OPENPGP.1", "OPENPGP.3"].getD position "OPENPGP.1"

theorem keyrefAt_eq (position : Nat) :
    keyrefAt position = "OPENPGP.1" ∨ keyrefAt position = "OPENPGP.3" := by
  match position with
  | 0 => exact .inl rfl
  | 1 => exact .inr rfl
  | _ + 2 => exact .inl rfl

def Identity.ofKey (key : Vector UInt8 32) (index position : Nat) : Identity codecs where
  publicKey := key
  index := index
  keygrip := computeKeygrip codecs key.toList
  keyref := keyrefAt position
  keygrip_eq := rfl
  keyref_eq := keyrefAt_eq position

def identities (raw : List RawIdentity) : List (Identity codecs) :=
  (decodedIdentities codecs raw).zipIdx.map fun entry => .ofKey codecs entry.1.1 entry.1.2 entry.2

end KeyMaster.ScdShim
