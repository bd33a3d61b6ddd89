import Mathlib.Algebra.Ring.Nat

namespace KeyMaster.Pkcs11

/-! The part of the PKCS#11 interface that the module uses.  A `CK_ULONG` is a
`Nat`: no arithmetic of the module leaves its eight bytes. -/

/-- `CK_RV`. -/
inductive CkRv where
  | ok
  | argumentsBad
  | attributeTypeInvalid
  | bufferTooSmall
  | cryptokiNotInitialized
  | cryptokiAlreadyInitialized
  | deviceError
  | generalError
  | mechanismInvalid
  | objectHandleInvalid
  | operationNotInitialized
  | sessionHandleInvalid
  | slotIdInvalid
deriving DecidableEq, Repr

def ckTrue : UInt8 := 1
def ckFalse : UInt8 := 0
def ckInvalidHandle : Nat := 0
def ckUnavailableInformation : Nat := 2 ^ 64 - 1

def ckoCertificate : Nat := 0x1
def ckoPublicKey : Nat := 0x2
def ckoPrivateKey : Nat := 0x3

def ckcX509 : Nat := 0x0
def ckkEcEdwards : Nat := 0x40
def ckmEddsa : Nat := 0x1057
def ckfSerialSession : Nat := 0x4

def ckaClass : Nat := 0x0
def ckaToken : Nat := 0x1
def ckaPrivate : Nat := 0x2
def ckaLabel : Nat := 0x3
def ckaValue : Nat := 0x11
def ckaCertificateType : Nat := 0x80
def ckaIssuer : Nat := 0x81
def ckaSerialNumber : Nat := 0x82
def ckaKeyType : Nat := 0x100
def ckaSubject : Nat := 0x101
def ckaId : Nat := 0x102
def ckaSign : Nat := 0x108
def ckaVerify : Nat := 0x10A
def ckaEcParams : Nat := 0x180
def ckaEcPoint : Nat := 0x181
def ckaAlwaysAuthenticate : Nat := 0x202

/-! ### Integers in memory -/

def leBytes : Nat → Nat → List UInt8
  | 0, _ => []
  | count + 1, value => UInt8.ofNat (value % 256) :: leBytes count (value / 256)

/-- `to_ne_bytes` on a little-endian machine. -/
def neBytes (value : Nat) : List UInt8 := leBytes 8 value

def ofNeBytes : List UInt8 → Nat
  | [] => 0
  | byte :: rest => byte.toNat + 256 * ofNeBytes rest

theorem ofNeBytes_leBytes {count value : Nat} (bound : value < 256 ^ count) :
    ofNeBytes (leBytes count value) = value := by
  induction count generalizing value with
  | zero =>
      rw [Nat.pow_zero] at bound
      rw [leBytes, ofNeBytes]
      omega
  | succ count ih =>
      rw [Nat.pow_succ] at bound
      have first : (UInt8.ofNat (value % 256)).toNat = value % 256 := by simp
      rw [leBytes, ofNeBytes, ih (by omega), first]
      omega

/-! ### Attributes -/

/-- `CK_ATTRIBUTE`, with the memory that its pointer leads to. -/
structure Attribute where
  attrType : Nat
  pValue : Option (List UInt8)
  valueLen : Nat

namespace Attribute

def query (attrType : Nat) : Attribute := ⟨attrType, none, 0⟩

def buffer (attrType length : Nat) : Attribute :=
  ⟨attrType, some (List.replicate length 0), length⟩

def ofValue (attrType : Nat) (value : List UInt8) : Attribute :=
  ⟨attrType, some value, value.length⟩

/-- The value of the attribute; a null pointer of length zero is empty. -/
def value? (attr : Attribute) : Option (List UInt8) :=
  match attr.pValue with
  | some memory => some (memory.take attr.valueLen)
  | none => if attr.valueLen = 0 then some [] else none

@[simp] theorem value?_ofValue (attrType : Nat) (value : List UInt8) :
    (ofValue attrType value).value? = some value := by
  simp [ofValue, value?]

end Attribute

end KeyMaster.Pkcs11
