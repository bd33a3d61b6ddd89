import KeyMaster.Data.Utf8

namespace KeyMaster.Pkcs11

open Data

/-! The self-signed certificates under which the keys are found. -/

def derLen (length : Nat) : List UInt8 :=
  if length < 128 then [UInt8.ofNat length]
  else if length < 256 then [0x81, UInt8.ofNat length]
  else [0x82, UInt8.ofNat (length / 256), UInt8.ofNat length]

def derTag (tag : UInt8) (contents : List UInt8) : List UInt8 :=
  tag :: derLen contents.length ++ contents

def derSeq (parts : List (List UInt8)) : List UInt8 := derTag 0x30 parts.flatten

/-- OID 1.3.101.112. -/
def ed25519Oid : List UInt8 := [0x06, 0x03, 0x2B, 0x65, 0x70]

def ed25519Algo : List UInt8 := derSeq [ed25519Oid]

/-- A name with the label as its common name, OID 2.5.4.3. -/
def certName (label : String) : List UInt8 :=
  let cnOid := [0x06, 0x03, 0x55, 0x04, 0x03]
  let cnValue := derTag 0x0C (Utf8.encode label.toList)
  let cnAttr := derSeq [cnOid, cnValue]
  derSeq [derTag 0x31 cnAttr]

def certValidity : List UInt8 :=
  derSeq [derTag 0x17 (Utf8.encode "700101000000Z".toList),
    derTag 0x17 (Utf8.encode "491231235959Z".toList)]

def bitString (bytes : List UInt8) : List UInt8 := derTag 0x03 (0x00 :: bytes)

def tbsCert (publicKey : List UInt8) (label : String) : List UInt8 :=
  let version := derTag 0xA0 (derTag 0x02 [2])
  let serial := derTag 0x02 [1]
  let spki := derSeq [ed25519Algo, bitString publicKey]
  derSeq [version, serial, ed25519Algo, certName label, certValidity, certName label, spki]

def createSelfSignedCert (publicKey : List UInt8) (label : String) : List UInt8 :=
  derSeq [tbsCert publicKey label, ed25519Algo, bitString (List.replicate 64 0)]

end KeyMaster.Pkcs11
