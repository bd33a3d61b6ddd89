import KeyMaster.Pkcs11.Attributes
import Mathlib.Data.List.Forall2

namespace KeyMaster.Pkcs11

/-! Templates of any length: entry by entry, and in the two calls of the
convention. -/

/-- What a call does to one entry: the bytes copied to its pointer and the
length left behind. -/
structure Answer where
  copied : List UInt8
  valueLen : Nat

def Attribute.receive (attr : Attribute) (answer : Answer) : Attribute where
  attrType := attr.attrType
  pValue := attr.pValue.map fun memory => answer.copied ++ memory.drop answer.copied.length
  valueLen := answer.valueLen

def commonTypes : List Nat := [ckaToken, ckaId, ckaLabel, ckaClass, ckaPrivate]

def supportedTypes : HandleType → List Nat
  | .privateKey =>
      commonTypes ++ [ckaKeyType, ckaSign, ckaAlwaysAuthenticate, ckaEcParams, ckaEcPoint]
  | .publicKey =>
      commonTypes ++ [ckaKeyType, ckaVerify, ckaAlwaysAuthenticate, ckaEcParams, ckaEcPoint]
  | .certificate =>
      commonTypes ++ [ckaCertificateType, ckaValue, ckaSubject, ckaIssuer, ckaSerialNumber]

/-- The pointer is null or leads to enough memory for the value. -/
def HasRoom (value : Option (List UInt8)) (attr : Attribute) : Prop :=
  attr.pValue = none ∨ ∃ bytes, value = some bytes ∧ bytes.length ≤ attr.valueLen

def Sizes (value : Nat → Option (List UInt8)) (query sized : Attribute) : Prop :=
  sized.attrType = query.attrType ∧
    ∃ bytes, value query.attrType = some bytes ∧ sized.valueLen = bytes.length

def BufferFor (sized attr : Attribute) : Prop :=
  attr.attrType = sized.attrType ∧ attr.valueLen = sized.valueLen ∧ attr.pValue.isSome

def Fills (value : Nat → Option (List UInt8)) (buffer filled : Attribute) : Prop :=
  filled.value? = value buffer.attrType ∧ filled.value?.isSome ∧ filled.valueLen = buffer.valueLen

/-- The object's attributes are read as the convention has it. -/
structure ReadsByConvention (state : State) (session object : Nat) (kind : HandleType)
    (value : Nat → Option (List UInt8)) : Prop where
  kept : ∀ template, (cGetAttributeValue state session object template).state = state
  own : ∃ answers : Nat → Bool → Nat → Answer,
    (∀ attrType isNull valueLen, (answers attrType isNull valueLen).copied.length ≤ valueLen) ∧
      ∀ attrs, (cGetAttributeValue state session object (some attrs)).written =
        some (attrs.map fun attr =>
          attr.receive (answers attr.attrType attr.pValue.isNone attr.valueLen))
  ok_iff : ∀ attrs, (cGetAttributeValue state session object (some attrs)).rv = .ok ↔
    ∀ attr ∈ attrs, attr.attrType ∈ supportedTypes kind ∧ HasRoom (value attr.attrType) attr
  twoCalls : ∀ queries : List Attribute,
    (∀ query ∈ queries, query.attrType ∈ supportedTypes kind ∧ query.pValue = none) →
      ∃ sized, cGetAttributeValue state session object (some queries) = ⟨.ok, some sized, state⟩ ∧
        List.Forall₂ (Sizes value) queries sized ∧
        ∀ buffers, List.Forall₂ BufferFor sized buffers →
          ∃ filled, cGetAttributeValue state session object (some buffers) = ⟨.ok, some filled, state⟩ ∧
            List.Forall₂ (Fills value) buffers filled

/-! ### Supported attributes -/

variable {identity : Identity} {index : Nat} {kind : HandleType} {attrType : Nat}

theorem isSome_ite_some {α : Type} {condition : Prop} [Decidable condition] {value : α}
    {otherwise : Option α} :
    (if condition then some value else otherwise).isSome ↔ condition ∨ otherwise.isSome := by
  by_cases holds : condition
  · simp [holds]
  · simp [holds]

theorem isSome_attributeData :
    (attributeData identity index kind attrType).isSome ↔ attrType ∈ supportedTypes kind := by
  cases kind with
  | privateKey =>
      simp only [attributeData, keyData, isSome_ite_some, reduceCtorEq, if_false, and_true,
        and_false, Option.isSome_none, Bool.false_eq_true, or_false]
      simp [supportedTypes, commonTypes]
  | publicKey =>
      simp only [attributeData, keyData, isSome_ite_some, reduceCtorEq, if_false, and_true,
        and_false, Option.isSome_none, Bool.false_eq_true, or_false]
      simp [supportedTypes, commonTypes]
  | certificate =>
      simp only [attributeData, certificateData, isSome_ite_some, if_true, Option.isSome_none,
        Bool.false_eq_true, or_false]
      simp [supportedTypes, commonTypes, or_assoc]

/-! ### One entry -/

variable {data : Nat → Option (List UInt8)} {rv : CkRv} {attr : Attribute}

def answerFor (data : Nat → Option (List UInt8)) (attrType : Nat) (isNull : Bool) (valueLen : Nat) :
    Answer :=
  match data attrType with
  | none => ⟨[], ckUnavailableInformation⟩
  | some bytes =>
      ⟨if isNull = true ∨ valueLen < bytes.length then [] else bytes, bytes.length⟩

theorem length_copied_answerFor (isNull : Bool) (valueLen : Nat) :
    (answerFor data attrType isNull valueLen).copied.length ≤ valueLen := by
  rw [answerFor]
  split
  · exact Nat.zero_le _
  · dsimp only
    split_ifs with refused
    · exact Nat.zero_le _
    · exact Nat.not_lt.mp fun short => refused (.inr short)

theorem fillAttribute_snd (data : Nat → Option (List UInt8)) (rv : CkRv) (attr : Attribute) :
    (fillAttribute (data attr.attrType) rv attr).2 =
      attr.receive (answerFor data attr.attrType attr.pValue.isNone attr.valueLen) := by
  obtain ⟨attrType, pValue, valueLen⟩ := attr
  cases found : data attrType with
  | none => cases pValue <;> simp [fillAttribute, answerFor, Attribute.receive, found]
  | some bytes =>
      cases pValue with
      | none => simp [fillAttribute, answerFor, Attribute.receive, found]
      | some memory =>
          by_cases short : valueLen < bytes.length
          · simp [fillAttribute, answerFor, Attribute.receive, found, short]
          · simp [fillAttribute, answerFor, Attribute.receive, found, short]

theorem fillAttribute_ok_iff :
    (fillAttribute (data attr.attrType) rv attr).1 = .ok ↔
      rv = .ok ∧ (data attr.attrType).isSome ∧ HasRoom (data attr.attrType) attr := by
  obtain ⟨attrType, pValue, valueLen⟩ := attr
  cases found : data attrType with
  | none => simp [fillAttribute]
  | some bytes =>
      cases pValue with
      | none => simp [fillAttribute, HasRoom]
      | some memory =>
          by_cases short : valueLen < bytes.length
          · simp [fillAttribute, HasRoom, short]
          · have room : bytes.length ≤ valueLen := Nat.not_lt.mp short
            simp [fillAttribute, HasRoom, short, room]

/-! ### The loop over the template -/

theorem fillAttributes_snd (data : Nat → Option (List UInt8)) (rv : CkRv) (attrs : List Attribute) :
    (fillAttributes data rv attrs).2 = attrs.map fun attr =>
      attr.receive (answerFor data attr.attrType attr.pValue.isNone attr.valueLen) := by
  induction attrs generalizing rv with
  | nil => rfl
  | cons attr rest ih =>
      rw [List.map_cons, ← fillAttribute_snd data rv attr, ← ih]
      rfl

theorem fillAttributes_ok_iff {attrs : List Attribute} :
    (fillAttributes data rv attrs).1 = .ok ↔
      rv = .ok ∧ ∀ attr ∈ attrs, (data attr.attrType).isSome ∧ HasRoom (data attr.attrType) attr := by
  induction attrs generalizing rv with
  | nil => simp [fillAttributes]
  | cons attr rest ih =>
      rw [fillAttributes, List.forall_mem_cons, ← and_assoc, ← fillAttribute_ok_iff]
      exact ih

/-! ### The convention -/

variable {state : State} {session object : Nat} {module : ModuleState}

theorem cGetAttributeValue_state (state : State) (session object : Nat)
    (template : Option (List Attribute)) :
    (cGetAttributeValue state session object template).state = state := by
  rw [cGetAttributeValue]
  rcases withState_cases state _ with ⟨module, rfl, _, ran⟩ | refused
  · rw [ran]
    cases template with
    | none => rfl
    | some attrs =>
        simp only
        rcases withSession_cases module session _ with ⟨_, _, found⟩ | closed
        · rw [found]
          cases module.object? object <;> rfl
        · rw [closed]
          rfl
  · rw [refused]

theorem cGetAttributeValue_object (inSession : InSession state session module)
    (isObject : module.object? object = some (index, kind, identity)) (attrs : List Attribute) :
    cGetAttributeValue state session object (some attrs) =
      ⟨(fillAttributes (attributeData identity index kind) .ok attrs).1,
        some (fillAttributes (attributeData identity index kind) .ok attrs).2, state⟩ := by
  rw [cGetAttributeValue_eq inSession, isObject, inSession.state_eq]

theorem cGetAttributeValue_ok_iff (inSession : InSession state session module)
    (isObject : module.object? object = some (index, kind, identity)) {attrs : List Attribute} :
    (cGetAttributeValue state session object (some attrs)).rv = .ok ↔
      ∀ attr ∈ attrs, attr.attrType ∈ supportedTypes kind ∧
        HasRoom (attributeData identity index kind attr.attrType) attr := by
  rw [cGetAttributeValue_object inSession isObject]
  simp only [fillAttributes_ok_iff, true_and, isSome_attributeData]

theorem cGetAttributeValue_written (inSession : InSession state session module)
    (isObject : module.object? object = some (index, kind, identity)) (attrs : List Attribute) :
    (cGetAttributeValue state session object (some attrs)).written =
      some (attrs.map fun attr => attr.receive
        (answerFor (attributeData identity index kind) attr.attrType attr.pValue.isNone
          attr.valueLen)) := by
  rw [cGetAttributeValue_object inSession isObject, fillAttributes_snd]

theorem sizes_receive {value : Nat → Option (List UInt8)} {query : Attribute} {bytes : List UInt8}
    (reported : value query.attrType = some bytes) :
    Sizes value query
      (query.receive (answerFor value query.attrType query.pValue.isNone query.valueLen)) := by
  refine ⟨rfl, bytes, reported, ?_⟩
  simp only [Attribute.receive, answerFor, reported]

theorem fills_receive {value : Nat → Option (List UInt8)} {buffer : Attribute} {bytes : List UInt8}
    (reported : value buffer.attrType = some bytes) (sized : buffer.valueLen = bytes.length)
    (pointer : buffer.pValue.isSome) :
    Fills value buffer
      (buffer.receive (answerFor value buffer.attrType buffer.pValue.isNone buffer.valueLen)) := by
  obtain ⟨attrType, pValue, valueLen⟩ := buffer
  obtain ⟨memory, rfl⟩ := Option.isSome_iff_exists.mp pointer
  dsimp only at reported sized
  subst sized
  simp [Fills, Attribute.receive, answerFor, reported, Attribute.value?]

/-- A template that asks for supported attributes only, with room for each. -/
theorem cGetAttributeValue_complete (inSession : InSession state session module)
    (isObject : module.object? object = some (index, kind, identity)) {attrs : List Attribute}
    (room : ∀ attr ∈ attrs, ∃ bytes, attributeData identity index kind attr.attrType = some bytes ∧
      (attr.pValue = none ∨ bytes.length ≤ attr.valueLen)) :
    cGetAttributeValue state session object (some attrs) =
      ⟨.ok, some (attrs.map fun attr => attr.receive
        (answerFor (attributeData identity index kind) attr.attrType attr.pValue.isNone
          attr.valueLen)), state⟩ := by
  have succeeds := (cGetAttributeValue_ok_iff inSession isObject).mpr fun attr member => by
    obtain ⟨bytes, reported, fits⟩ := room attr member
    refine ⟨isSome_attributeData.mp (Option.isSome_iff_exists.mpr ⟨bytes, reported⟩), ?_⟩
    exact fits.imp_right fun fits => ⟨bytes, reported, fits⟩
  have written := cGetAttributeValue_written inSession isObject attrs
  have kept := cGetAttributeValue_state state session object (some attrs)
  generalize cGetAttributeValue state session object (some attrs) = outcome at succeeds written kept ⊢
  obtain ⟨rv, filled, after⟩ := outcome
  simp only at succeeds written kept
  rw [succeeds, written, kept]

/-- Every entry of a template is answered by itself, within its length; two calls
read any supported attributes. -/
theorem readsByConvention (inSession : InSession state session module)
    (isObject : module.object? object = some (index, kind, identity)) :
    ReadsByConvention state session object kind (attributeData identity index kind) := by
  let value := attributeData identity index kind
  have complete {attrs : List Attribute} :=
    @cGetAttributeValue_complete identity index kind state session object module inSession isObject attrs
  refine ⟨cGetAttributeValue_state state session object,
    ⟨answerFor value, fun _ => length_copied_answerFor, cGetAttributeValue_written inSession isObject⟩,
    fun _ => cGetAttributeValue_ok_iff inSession isObject, ?_⟩
  intro queries asked
  have supported : ∀ query ∈ queries, ∃ bytes, value query.attrType = some bytes := by
    intro query member
    exact Option.isSome_iff_exists.mp (isSome_attributeData.mpr (asked query member).1)
  refine ⟨_, complete fun query member => ?_, ?_, fun buffers prepared => ?_⟩
  · obtain ⟨bytes, reported⟩ := supported query member
    exact ⟨bytes, reported, .inl (asked query member).2⟩
  · rw [List.forall₂_map_right_iff, List.forall₂_same]
    intro query member
    obtain ⟨bytes, reported⟩ := supported query member
    exact sizes_receive reported
  · have ready : ∀ buffer ∈ buffers, ∃ bytes, value buffer.attrType = some bytes ∧
        buffer.valueLen = bytes.length ∧ buffer.pValue.isSome := by
      rw [List.forall₂_map_left_iff] at prepared
      have each := (List.forall₂_and_left queries buffers).mpr ⟨supported, prepared⟩
      refine ((List.forall₂_and_left (R := fun _ _ => True) buffers queries).mp ?_).1
      refine .flip (each.imp fun query buffer related => ⟨?_, trivial⟩)
      obtain ⟨⟨bytes, reported⟩, sameType, sameLen, pointer⟩ := related
      obtain ⟨_, held, isHeld, isLength⟩ := sizes_receive reported
      refine ⟨held, ?_, sameLen.trans isLength, pointer⟩
      rw [sameType]
      exact isHeld
    refine ⟨_, complete fun buffer member => ?_, ?_⟩
    · obtain ⟨bytes, reported, sized, _⟩ := ready buffer member
      exact ⟨bytes, reported, .inr (Nat.le_of_eq sized.symm)⟩
    · rw [List.forall₂_map_right_iff, List.forall₂_same]
      intro buffer member
      obtain ⟨bytes, reported, sized, pointer⟩ := ready buffer member
      exact fills_receive reported sized pointer

open Sample in
theorem twoKeys_readsByConvention :
    ReadsByConvention twoKeys 1 (HandleType.certificate.handle 1) .certificate
      (attributeData (identityWith (List.replicate 32 0x22) "bob / certification" 1) 1 .certificate) :=
  readsByConvention twoKeys_inSession (object?_eq_some.mpr ⟨rfl, rfl⟩)

end KeyMaster.Pkcs11
