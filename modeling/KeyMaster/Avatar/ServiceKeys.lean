import KeyMaster.Avatar.Seed
import KeyMaster.Data.Bip32
import Mathlib.Data.ZMod.Basic

namespace KeyMaster

open Data.Bip32

/-! Both ends of a service channel derive the same key. -/

variable {Scalar Point Chain : Type} [Ring Scalar] [AddCommGroup Point] [Module Scalar Point]
  [DecidableEq Scalar] [DecidableEq Point] {C : Crates}

/-- What the crates' keys are over the group of their curve, and that the crates
compute over it. -/
structure GroupKeys (C : Crates)
    (derivation : Derivation Scalar Point Chain (Vector UInt8 33) ChildNumber) where
  privateNode : C.Xpriv → PrivateNode Scalar Chain
  publicNode : C.Xpub → PublicNode Point Chain
  secretScalar : C.SecretKey → Scalar
  /-- Both points with an x-coordinate have one x-only key. -/
  xOnly : Point → C.PublicKey
  /-- `Xpub::from_priv`. -/
  fromPriv : C.Xpriv → C.Xpub
  publicNode_fromPriv : ∀ xpriv, publicNode (fromPriv xpriv) = derivation.neuter (privateNode xpriv)
  derivePriv_eq : ∀ xpriv path,
    (C.derivePriv xpriv path).map privateNode = derivation.derivePriv (privateNode xpriv) path
  derivePub_eq : ∀ xpub path,
    (C.derivePub xpub path).map publicNode = derivation.derivePub (publicNode xpub) path
  secretBytes_eq : ∀ xpriv,
    (C.secretKeyFromSlice (C.secretBytes xpriv).toList).map secretScalar = some (privateNode xpriv).key
  publicKey_eq : ∀ secret, C.publicKey secret = xOnly (derivation.publicKey (secretScalar secret))
  serialize_eq : ∀ xpub, C.serializePublicKey xpub = derivation.serialize (publicNode xpub).point
  fromSlice_eq : ∀ node : PublicNode Point Chain,
    C.publicKeyFromSlice ((derivation.serialize node.point).toList.drop 1) = some (xOnly node.point)

namespace GroupKeys

variable {derivation : Derivation Scalar Point Chain (Vector UInt8 33) ChildNumber}
  (keys : GroupKeys C derivation) {xpriv : C.Xpriv} {path : List ChildNumber} {protocol : String}
  {seq : Nat}

/-- A step of the path has no child, which no caller can bring about. -/
def StepFails (xpriv : C.Xpriv) (path : List ChildNumber) : Prop :=
  derivation.derivePriv (keys.privateNode xpriv) path = none

theorem derivePriv_eq_none : C.derivePriv xpriv path = none ↔ keys.StepFails xpriv path := by
  rw [StepFails, ← keys.derivePriv_eq, Option.map_eq_none_iff]

theorem derivePub_fromPriv (xpriv : C.Xpriv) (path : List ChildNumber) :
    (C.derivePub (keys.fromPriv xpriv) path).map keys.publicNode =
      (C.derivePriv xpriv path).map fun child => derivation.neuter (keys.privateNode child) := by
  rw [keys.derivePub_eq, keys.publicNode_fromPriv, derivation.derivePub_neuter, ← keys.derivePriv_eq,
    Option.map_map]
  rfl

/-- The x-only key of an extended private key, whichever way it is taken. -/
theorem publicKey_secretBytes {secret : C.SecretKey}
    (isSecret : C.secretKeyFromSlice (C.secretBytes xpriv).toList = some secret) :
    C.publicKey secret = keys.xOnly (derivation.neuter (keys.privateNode xpriv)).point := by
  have scalar := keys.secretBytes_eq xpriv
  rw [isSecret, Option.map_some, Option.some.injEq] at scalar
  rw [keys.publicKey_eq, scalar]
  rfl

theorem publicKeyFromSlice_eq (xpub : C.Xpub) :
    C.publicKeyFromSlice ((C.serializePublicKey xpub).toList.drop 1) =
      some (keys.xOnly (keys.publicNode xpub).point) := by
  rw [keys.serialize_eq, keys.fromSlice_eq]

/-- The two derivations along one path. -/
theorem service_path (xpriv : C.Xpriv) (path : List ChildNumber) :
    ((C.derivePriv xpriv path).bind fun child =>
        (C.secretKeyFromSlice (C.secretBytes child).toList).map C.publicKey) =
      (C.derivePub (keys.fromPriv xpriv) path).bind fun child =>
        C.publicKeyFromSlice ((C.serializePublicKey child).toList.drop 1) := by
  have children := keys.derivePub_fromPriv xpriv path
  cases priv : C.derivePriv xpriv path with
  | none =>
      rw [priv, Option.map_none, Option.map_eq_none_iff] at children
      rw [children]
      rfl
  | some child =>
      rw [priv, Option.map_some, Option.map_eq_some_iff] at children
      obtain ⟨xpub, isPub, node⟩ := children
      rw [isPub, Option.bind_some, Option.bind_some, keys.publicKeyFromSlice_eq, node]
      cases isSecret : C.secretKeyFromSlice (C.secretBytes child).toList with
      | none =>
          have scalar := keys.secretBytes_eq child
          rw [isSecret] at scalar
          cases scalar
      | some secret => rw [Option.map_some, keys.publicKey_secretBytes isSecret]

/-- `protocol_index(protocol) / seq`. -/
def servicePath (C : Crates) (protocol : String) (seq : Nat) (normal : seq < 2 ^ 31) :
    List ChildNumber :=
  [⟨protocolIndex C protocol, protocolIndex_normal C protocol⟩, ⟨seq, normal⟩]

theorem fromNormalIdx_normal {index : Nat} (normal : index < 2 ^ 31) :
    ChildNumber.fromNormalIdx index = some ⟨index, normal⟩ :=
  dif_pos normal

theorem fromNormalIdx_hardened {index : Nat} (hardened : ¬ index < 2 ^ 31) :
    ChildNumber.fromNormalIdx index = none :=
  dif_neg hardened

theorem deriveServiceKeys_eq (normal : seq < 2 ^ 31) :
    (deriveServiceKeys C xpriv protocol seq).map Keys.publicKey =
      (C.derivePriv xpriv (servicePath C protocol seq normal)).bind fun child =>
        (C.secretKeyFromSlice (C.secretBytes child).toList).map C.publicKey := by
  simp only [deriveServiceKeys, fromNormalIdx_normal (protocolIndex_normal C protocol),
    fromNormalIdx_normal normal, Option.bind_eq_bind, Option.bind_some, Option.map_bind, servicePath]
  apply Option.bind_congr
  intro child _
  rw [Function.comp_apply]
  cases C.secretKeyFromSlice (C.secretBytes child).toList <;> rfl

theorem deriveServicePubkey_eq {xpub : C.Xpub} (normal : seq < 2 ^ 31) :
    deriveServicePubkey C xpub protocol seq =
      (C.derivePub xpub (servicePath C protocol seq normal)).bind fun child =>
        C.publicKeyFromSlice ((C.serializePublicKey child).toList.drop 1) := by
  simp only [deriveServicePubkey, fromNormalIdx_normal (protocolIndex_normal C protocol),
    fromNormalIdx_normal normal, Option.bind_eq_bind, Option.bind_some, servicePath]

theorem deriveServiceKeys_hardened (hardened : ¬ seq < 2 ^ 31) :
    deriveServiceKeys C xpriv protocol seq = none := by
  simp only [deriveServiceKeys, fromNormalIdx_hardened hardened, Option.bind_eq_bind, Option.bind_none,
    Option.bind_fun_none]

theorem deriveServicePubkey_hardened {xpub : C.Xpub} (hardened : ¬ seq < 2 ^ 31) :
    deriveServicePubkey C xpub protocol seq = none := by
  simp only [deriveServicePubkey, fromNormalIdx_hardened hardened, Option.bind_eq_bind,
    Option.bind_none, Option.bind_fun_none]

theorem deriveServiceKeys_eq_none (normal : seq < 2 ^ 31) :
    deriveServiceKeys C xpriv protocol seq = none ↔
      keys.StepFails xpriv (servicePath C protocol seq normal) := by
  rw [← keys.derivePriv_eq_none, ← Option.map_eq_none_iff (f := Keys.publicKey),
    deriveServiceKeys_eq normal]
  cases C.derivePriv xpriv (servicePath C protocol seq normal) with
  | none => simp
  | some child =>
      have scalar := keys.secretBytes_eq child
      cases isSecret : C.secretKeyFromSlice (C.secretBytes child).toList with
      | none =>
          rw [isSecret] at scalar
          cases scalar
      | some secret => simp [isSecret]

/-- Both ends of a channel fail together, and only for a hardened `seq` or a step
without a child, or they derive the same x-only key. -/
theorem deriveServiceKeys_agree (loginXpriv : C.Xpriv) (protocol : String) (seq : Nat) :
    (deriveServiceKeys C loginXpriv protocol seq).map Keys.publicKey =
        deriveServicePubkey C (keys.fromPriv loginXpriv) protocol seq ∧
      (deriveServiceKeys C loginXpriv protocol seq = none ↔
        2 ^ 31 ≤ seq ∨ ∃ normal, keys.StepFails loginXpriv (servicePath C protocol seq normal)) ∧
      protocolIndex C protocol < 2 ^ 31 := by
  by_cases normal : seq < 2 ^ 31
  · refine ⟨?_, ?_, protocolIndex_normal C protocol⟩
    · rw [deriveServiceKeys_eq normal, deriveServicePubkey_eq normal, keys.service_path]
    · have small : ¬ 2 ^ 31 ≤ seq := by omega
      rw [keys.deriveServiceKeys_eq_none normal]
      simp only [small, false_or, normal, exists_true_left]
  · have large : 2 ^ 31 ≤ seq := by omega
    rw [deriveServiceKeys_hardened normal, deriveServicePubkey_hardened normal]
    exact ⟨rfl, by simp only [large, true_or], protocolIndex_normal C protocol⟩

end GroupKeys

/-! The group of order 5, where a point and its inverse share an x-coordinate. -/

namespace Transparent

def coordinate (point : ZMod 5) : Nat := min point.val (5 - point.val)

def derivation : Derivation (ZMod 5) (ZMod 5) Nat (Vector UInt8 33) ChildNumber where
  generator := ⟨2, by decide⟩
  serialize point :=
    ⟨#[if point.val ≤ 2 then 2 else 3] ++ (toBytes 32 (coordinate point)).toArray, by simp⟩
  offset chain key child :=
    if child.index % 7 = 3 then none
    else some ((chain + ofBytes key.toList + child.index : Nat), 31 * chain + child.index)

abbrev groupCrates : Crates where
  PublicKey := Nat
  SecretKey := ZMod 5
  EventId := Nat
  Xpriv := PrivateNode (ZMod 5) Nat
  Xpub := PublicNode (ZMod 5) Nat
  XOnlyPublicKey := Nat
  publicKeyEq := inferInstance
  eventIdEq := inferInstance
  xpubEq := inferInstance
  publicKey secret := coordinate (derivation.publicKey secret)
  publicKeyToHex := toString
  publicKeyFromSlice bytes := some (ofBytes bytes)
  secretKeyFromSlice bytes := if ofBytes bytes < 5 then some (ofBytes bytes : ZMod 5) else none
  eventIdToHex := toString
  eventIdFromHex := ofDecimal
  nip44Decrypt _ _ content := some content
  parseJson _ := none
  jsonErrorText text := text
  sha256 bytes := toBytes 32 (ofBytes bytes)
  xOnlyFromSlice bytes := some (ofBytes bytes)
  verifySchnorr _ _ _ := false
  xpubFromStr _ := none
  xpubToString node := toString node.point.val
  derivePriv := derivation.derivePriv
  derivePub := derivation.derivePub
  secretBytes node := toBytes 32 node.key.val
  serializePublicKey node := derivation.serialize node.point

def groupKeys : GroupKeys groupCrates derivation where
  privateNode := id
  publicNode := id
  secretScalar := id
  xOnly := coordinate
  fromPriv := derivation.neuter
  publicNode_fromPriv _ := rfl
  derivePriv_eq _ _ := by simp
  derivePub_eq _ _ := by simp
  secretBytes_eq node := by
    have small := ZMod.val_lt node.key
    have value : ofBytes (toBytes 32 node.key.val).toList = node.key.val := by
      rw [ofBytes_toBytes]
      exact Nat.mod_eq_of_lt (by omega)
    simp [value, small]
  publicKey_eq _ := rfl
  serialize_eq _ := rfl
  fromSlice_eq node := by
    have small : coordinate node.point < 256 ^ 32 := by
      have bound := ZMod.val_lt node.point
      unfold coordinate
      omega
    have value : ofBytes (toBytes 32 (coordinate node.point)).toList = coordinate node.point := by
      rw [ofBytes_toBytes, Nat.mod_eq_of_lt small]
    simp only [derivation, Option.some.injEq]
    rw [← Vector.toList_toArray] at value
    simpa using value

end Transparent

open Transparent in
theorem groupCrates_agree :
    (deriveServiceKeys groupCrates ⟨3, 11, by decide⟩ "ssh" 0).map Keys.publicKey =
        deriveServicePubkey groupCrates (groupKeys.fromPriv ⟨3, 11, by decide⟩) "ssh" 0 ∧
      (deriveServiceKeys groupCrates ⟨3, 11, by decide⟩ "ssh" 0 = none ↔
        2 ^ 31 ≤ 0 ∨ ∃ normal, groupKeys.StepFails ⟨3, 11, by decide⟩
          (GroupKeys.servicePath groupCrates "ssh" 0 normal)) ∧
      protocolIndex groupCrates "ssh" < 2 ^ 31 :=
  groupKeys.deriveServiceKeys_agree ⟨3, 11, by decide⟩ "ssh" 0

end KeyMaster
