import KeyMaster.Crates

namespace KeyMaster

variable (C : Crates)

/-! Service-channel key derivation: `seed.rs` and `protocol_index`. -/

/-- The first four bytes of the name's SHA-256 as a big-endian number with the
top bit cleared. -/
def protocolIndex (name : String) : Nat :=
  let hash := C.sha256 (utf8Bytes name)
  let raw := hash[0].toNat * 2 ^ 24 + hash[1].toNat * 2 ^ 16 + hash[2].toNat * 2 ^ 8 + hash[3].toNat
  raw &&& 0x7FFFFFFF

/-- Path: `login_xpriv / protocol_index(protocol) / seq`, non-hardened. -/
def deriveServiceKeys (loginXpriv : C.Xpriv) (protocol : String) (seq : Nat) : Option (Keys C) := do
  let h ← ChildNumber.fromNormalIdx (protocolIndex C protocol)
  let s ← ChildNumber.fromNormalIdx seq
  let child ← C.derivePriv loginXpriv [h, s]
  let nostrSecret ← C.secretKeyFromSlice (C.secretBytes child).toList
  some ⟨nostrSecret⟩

/-- Path: `xpub / protocol_index(protocol) / seq`, non-hardened; the x-only key
is bytes 1 to 32 of the compressed one. -/
def deriveServicePubkey (xpub : C.Xpub) (protocol : String) (seq : Nat) : Option C.PublicKey := do
  let h ← ChildNumber.fromNormalIdx (protocolIndex C protocol)
  let s ← ChildNumber.fromNormalIdx seq
  let childXpub ← C.derivePub xpub [h, s]
  C.publicKeyFromSlice ((C.serializePublicKey childXpub).toList.drop 1)

theorem protocolIndex_normal (name : String) : protocolIndex C name < 2 ^ 31 := by
  unfold protocolIndex
  exact Nat.lt_of_le_of_lt Nat.and_le_right (by decide)

theorem deriveServiceKeys_seq_lt {loginXpriv : C.Xpriv} {protocol : String} {seq : Nat} {keys : Keys C}
    (derived : deriveServiceKeys C loginXpriv protocol seq = some keys) : seq < 2 ^ 31 := by
  by_contra large
  have rejected : ChildNumber.fromNormalIdx seq = none := by
    simp only [ChildNumber.fromNormalIdx, dif_neg large]
  simp [deriveServiceKeys, rejected] at derived

end KeyMaster
