import Mathlib.Algebra.Module.Defs

namespace KeyMaster.Data.Bip32

/-! Non-hardened child derivation over a group.

A key is a scalar and its public key that multiple of the generator.  What a
child adds to its parent is any function of the parent's chain code, the
parent's serialized public key and the index; where there is none, or the child
would be zero, derivation fails.
-/

variable {Scalar Point Chain Serialized Index : Type} [Ring Scalar] [AddCommGroup Point]
  [Module Scalar Point]

/-- The generator of a cyclic group with its scalars taken modulo the order. -/
structure Generator (Scalar Point : Type) [Ring Scalar] [AddCommGroup Point] [Module Scalar Point] where
  point : Point
  faithful : ∀ scalar : Scalar, scalar • point = 0 → scalar = 0

structure Derivation (Scalar Point Chain Serialized Index : Type) [Ring Scalar] [AddCommGroup Point]
    [Module Scalar Point] where
  generator : Generator Scalar Point
  serialize : Point → Serialized
  offset : Chain → Serialized → Index → Option (Scalar × Chain)

structure PrivateNode (Scalar Chain : Type) [Zero Scalar] where
  key : Scalar
  chain : Chain
  nonzero : key ≠ 0
deriving DecidableEq

structure PublicNode (Point Chain : Type) [Zero Point] where
  point : Point
  chain : Chain
  nonzero : point ≠ 0
deriving DecidableEq

namespace Derivation

variable (derivation : Derivation Scalar Point Chain Serialized Index)

def publicKey (key : Scalar) : Point := key • derivation.generator.point

theorem publicKey_eq_zero {key : Scalar} : derivation.publicKey key = 0 ↔ key = 0 := by
  constructor
  · exact derivation.generator.faithful key
  · intro zero
    rw [publicKey, zero, zero_smul]

theorem publicKey_add (key tweak : Scalar) :
    derivation.publicKey (key + tweak) = derivation.publicKey key + derivation.publicKey tweak :=
  add_smul _ _ _

/-- Keep the public key and the chain code. -/
def neuter (node : PrivateNode Scalar Chain) : PublicNode Point Chain where
  point := derivation.publicKey node.key
  chain := node.chain
  nonzero := fun zero => node.nonzero (derivation.publicKey_eq_zero.mp zero)

variable [DecidableEq Scalar] [DecidableEq Point]

def ckdPriv (node : PrivateNode Scalar Chain) (index : Index) : Option (PrivateNode Scalar Chain) :=
  match derivation.offset node.chain (derivation.serialize (derivation.publicKey node.key)) index with
  | none => none
  | some (tweak, chain) =>
      if nonzero : node.key + tweak ≠ 0 then some ⟨node.key + tweak, chain, nonzero⟩ else none

def ckdPub (node : PublicNode Point Chain) (index : Index) : Option (PublicNode Point Chain) :=
  match derivation.offset node.chain (derivation.serialize node.point) index with
  | none => none
  | some (tweak, chain) =>
      if nonzero : node.point + derivation.publicKey tweak ≠ 0 then
        some ⟨node.point + derivation.publicKey tweak, chain, nonzero⟩
      else none

def derivePriv (node : PrivateNode Scalar Chain) (path : List Index) :
    Option (PrivateNode Scalar Chain) :=
  path.foldlM derivation.ckdPriv node

def derivePub (node : PublicNode Point Chain) (path : List Index) : Option (PublicNode Point Chain) :=
  path.foldlM derivation.ckdPub node

/-- Deriving a child and then keeping its public part is deriving the child of
the public part, failures included. -/
theorem ckdPub_neuter (node : PrivateNode Scalar Chain) (index : Index) :
    derivation.ckdPub (derivation.neuter node) index =
      (derivation.ckdPriv node index).map derivation.neuter := by
  unfold ckdPub ckdPriv neuter
  dsimp only
  cases derivation.offset node.chain (derivation.serialize (derivation.publicKey node.key)) index with
  | none => rfl
  | some child =>
      obtain ⟨tweak, chain⟩ := child
      have zero : derivation.publicKey node.key + derivation.publicKey tweak = 0 ↔
          node.key + tweak = 0 := by
        rw [← publicKey_add, publicKey_eq_zero]
      by_cases isZero : node.key + tweak = 0
      · simp [isZero, zero.mpr isZero]
      · have pointNonzero := mt zero.mp isZero
        simp [isZero, pointNonzero, publicKey_add]

theorem derivePub_neuter (node : PrivateNode Scalar Chain) (path : List Index) :
    derivation.derivePub (derivation.neuter node) path =
      (derivation.derivePriv node path).map derivation.neuter := by
  induction path generalizing node with
  | nil => rfl
  | cons index path ih =>
      rw [derivePub, derivePriv, List.foldlM_cons, List.foldlM_cons, ckdPub_neuter]
      cases derivation.ckdPriv node index with
      | none => rfl
      | some child => exact ih child

end Derivation

end KeyMaster.Data.Bip32
