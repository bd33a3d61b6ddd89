import KeyMaster.Pkcs11.Attributes
import Mathlib.Data.List.Induction

namespace KeyMaster.Pkcs11

open Data

/-! Object search beside object attributes: a search looks at the class alone. -/

def collected (state : State) (session : Nat) (template : Option (List Attribute)) : List Nat :=
  ((cFindObjectsInit state session template).state.bind ModuleState.findOp).elim [] FindOp.handles

/-- The entry asks for the value that the object's attribute has. -/
def HasValue (state : State) (session object : Nat) (attr : Attribute) : Prop :=
  ∃ value, attr.value? = some value ∧ readAttribute state session object attr.attrType = some value

/-- A search collects the objects whose attributes have the values asked for. -/
def SearchAgrees (state : State) (session : Nat) (module : ModuleState)
    (template : Option (List Attribute)) : Prop :=
  ∀ object, object ∈ collected state session template ↔
    (module.object? object).isSome ∧
      ∀ attr ∈ template.getD [], HasValue state session object attr

def wantedKinds (template : Option (List Attribute)) : List HandleType :=
  match wantClass template with
  | some objectClass => HandleType.all.filter fun kind => kind.objectClass == objectClass
  | none => HandleType.all

def SharedCertificate (identities : List Identity) (attrType : Nat) (value : List UInt8) : Prop :=
  if attrType = ckaCertificateType then value = neBytes ckcX509
  else if attrType = ckaValue then ∀ identity ∈ identities, identity.certDer = value
  else if attrType = ckaSubject ∨ attrType = ckaIssuer then value = []
  else if attrType = ckaSerialNumber then value = [0x02, 0x01, 0x01]
  else False

def SharedKey (identities : List Identity) (kind : HandleType) (attrType : Nat)
    (value : List UInt8) : Prop :=
  if attrType = ckaKeyType then value = neBytes ckkEcEdwards
  else if attrType = ckaSign ∧ kind = .privateKey then value = [ckTrue]
  else if attrType = ckaVerify ∧ kind = .publicKey then value = [ckTrue]
  else if attrType = ckaAlwaysAuthenticate then value = [ckFalse]
  else if attrType = ckaEcParams then value = ed25519EcParams
  else if attrType = ckaEcPoint then ∀ identity ∈ identities, identity.publicKey = value
  else False

/-- All objects of the type share the value, with one identity in case of
`CKA_ID`. -/
def Shared (identities : List Identity) (kind : HandleType) (attrType : Nat) (value : List UInt8) :
    Prop :=
  if attrType = ckaToken then value = [ckTrue]
  else if attrType = ckaId then identities.length = 1 ∧ value = [1]
  else if attrType = ckaLabel then
    ∀ identity ∈ identities, Utf8.encode identity.label.toList = value
  else if attrType = ckaClass then value = neBytes kind.objectClass
  else if attrType = ckaPrivate then value = [if kind = .privateKey then ckTrue else ckFalse]
  else if kind = .certificate then SharedCertificate identities attrType value
  else SharedKey identities kind attrType value

/-- A search that its class entries alone decide. -/
def ClassDecides (identities : List Identity) (template : Option (List Attribute)) : Prop :=
  identities = [] ∨
    ∀ kind ∈ wantedKinds template, ∀ attr ∈ template.getD [],
      ∃ value, attr.value? = some value ∧ Shared identities kind attr.attrType value

/-! ### The handles collected -/

variable {state : State} {session object : Nat} {module : ModuleState}
  {template : Option (List Attribute)} {identities : List Identity} {kind : HandleType}

theorem handlesOf_wantClass (template : Option (List Attribute)) (index : Nat) :
    handlesOf (wantClass template) index = (wantedKinds template).map fun kind => kind.handle index := by
  rw [wantedKinds]
  cases wantClass template with
  | none => rfl
  | some objectClass =>
      by_cases isPrivate : objectClass = ckoPrivateKey
      · subst isPrivate; rfl
      by_cases isPublic : objectClass = ckoPublicKey
      · subst isPublic; rfl
      by_cases isCertificate : objectClass = ckoCertificate
      · subst isCertificate; rfl
      · simp [handlesOf, isPrivate, isPublic, isCertificate, HandleType.all, HandleType.objectClass,
          Ne.symm isPrivate, Ne.symm isPublic, Ne.symm isCertificate]

theorem collected_eq (inSession : InSession state session module) :
    collected state session template =
      (List.range module.identities.length).flatMap fun index =>
        (wantedKinds template).map fun kind => kind.handle index := by
  rw [collected, cFindObjectsInit, inSession.withState, inSession.withSession,
    funext (handlesOf_wantClass template)]
  rfl

theorem mem_collected (inSession : InSession state session module) :
    object ∈ collected state session template ↔
      ∃ index < module.identities.length, ∃ kind ∈ wantedKinds template, kind.handle index = object := by
  simp [collected_eq inSession]

/-- The class filter comes from one of the entries. -/
theorem wantClass_eq_some {objectClass : Nat} (wanted : wantClass template = some objectClass) :
    ∃ attr ∈ template.getD [], attr.attrType = ckaClass ∧
      ∃ value, attr.value? = some value ∧ ofNeBytes value = objectClass := by
  rw [wantClass] at wanted
  generalize template.getD [] = attrs at wanted ⊢
  induction attrs using List.reverseRecOn with
  | nil => cases wanted
  | append_singleton attrs attr ih =>
      rw [List.foldl_append, List.foldl_cons, List.foldl_nil] at wanted
      split at wanted
      · rename_i memory isMemory
        split_ifs at wanted with isClass
        · refine ⟨attr, by simp, isClass.1, memory.take 8, ?_, Option.some.inj wanted⟩
          rw [Attribute.value?, isMemory, isClass.2]
        · obtain ⟨found, member, named⟩ := ih wanted
          exact ⟨found, List.mem_append_left _ member, named⟩
      · obtain ⟨found, member, named⟩ := ih wanted
        exact ⟨found, List.mem_append_left _ member, named⟩

/-! ### Objects and their values -/

theorem hasValue_iff (inSession : InSession state session module) {index : Nat} {identity : Identity}
    (found : module.identities[index]? = some identity) (attr : Attribute) :
    HasValue state session (kind.handle index) attr ↔
      ∃ value, attr.value? = some value ∧
        attributeData identity index kind attr.attrType = some value := by
  have isObject : module.object? (kind.handle index) = some (index, kind, identity) :=
    object?_eq_some.mpr ⟨rfl, found⟩
  simp only [HasValue, readAttribute_eq inSession, isObject, Option.bind_some]

@[simp] theorem attributeData_class (identity : Identity) (index : Nat) (kind : HandleType) :
    attributeData identity index kind ckaClass = some (neBytes kind.objectClass) := by
  rfl

theorem ofNeBytes_objectClass (kind : HandleType) :
    ofNeBytes (neBytes kind.objectClass) = kind.objectClass := by
  cases kind <;> exact ofNeBytes_leBytes (by decide)

theorem mem_wantedKinds_of_hasValue (inSession : InSession state session module) {index : Nat}
    {identity : Identity} (found : module.identities[index]? = some identity)
    (hasValues : ∀ attr ∈ template.getD [], HasValue state session (kind.handle index) attr) :
    kind ∈ wantedKinds template := by
  have isKind : kind ∈ HandleType.all := by cases kind <;> simp [HandleType.all]
  rw [wantedKinds]
  cases wanted : wantClass template with
  | none => exact isKind
  | some objectClass =>
      obtain ⟨attr, member, isClass, value, isValue, isNumber⟩ := wantClass_eq_some wanted
      obtain ⟨held, isHeld, reported⟩ :=
        (hasValue_iff inSession found attr).mp (hasValues attr member)
      rw [isClass, attributeData_class] at reported
      rw [isHeld, ← reported] at isValue
      cases isValue
      rw [ofNeBytes_objectClass] at isNumber
      exact List.mem_filter.mpr ⟨isKind, by simp [isNumber]⟩

/-! ### What all objects of a type share -/

def AllData (identities : List Identity) (data : Nat → Identity → Option (List UInt8))
    (value : List UInt8) : Prop :=
  ∀ (index : Nat) (identity : Identity), identities[index]? = some identity →
    data index identity = some value

variable {value held : List UInt8}

theorem allData_const (nonempty : identities ≠ []) :
    AllData identities (fun _ _ => some held) value ↔ value = held := by
  obtain ⟨first, rest, rfl⟩ := List.exists_cons_of_ne_nil nonempty
  constructor
  · intro all
    exact (Option.some.inj (all 0 first rfl)).symm
  · intro same _ _ _
    rw [same]

theorem allData_none (nonempty : identities ≠ []) :
    AllData identities (fun _ _ => none) value ↔ False := by
  obtain ⟨first, rest, rfl⟩ := List.exists_cons_of_ne_nil nonempty
  refine ⟨fun all => ?_, False.elim⟩
  cases all 0 first rfl

theorem allData_field (field : Identity → List UInt8) :
    AllData identities (fun _ identity => some (field identity)) value ↔
      ∀ identity ∈ identities, field identity = value := by
  constructor
  · intro all identity member
    obtain ⟨index, found⟩ := List.mem_iff_getElem?.mp member
    exact Option.some.inj (all index identity found)
  · intro all index identity found
    exact congrArg some (all identity (List.mem_of_getElem? found))

/-- Only a single identity leaves no choice of `CKA_ID`. -/
theorem allData_id (nonempty : identities ≠ []) :
    AllData identities (fun index _ => some [UInt8.ofNat (index + 1)]) value ↔
      identities.length = 1 ∧ value = [1] := by
  obtain ⟨first, rest, rfl⟩ := List.exists_cons_of_ne_nil nonempty
  constructor
  · intro all
    have isOne : some [UInt8.ofNat 1] = some value := all 0 first rfl
    cases rest with
    | nil => exact ⟨rfl, (Option.some.inj isOne).symm⟩
    | cons second more =>
        have isTwo : some [UInt8.ofNat 2] = some value := all 1 second rfl
        rw [← isOne] at isTwo
        cases isTwo
  · intro ⟨single, isOne⟩ index identity found
    have bound := (List.getElem?_eq_some_iff.mp found).1
    have first : index = 0 := by omega
    rw [first, isOne]
    rfl

theorem allData_ite {condition : Prop} [Decidable condition]
    {yes no : Nat → Identity → Option (List UInt8)} {holdsYes holdsNo : Prop}
    (ifYes : AllData identities yes value ↔ holdsYes)
    (ifNo : AllData identities no value ↔ holdsNo) :
    AllData identities (fun index identity =>
        if condition then yes index identity else no index identity) value ↔
      if condition then holdsYes else holdsNo := by
  by_cases holds : condition
  · simpa only [holds, if_true] using ifYes
  · simpa only [holds, if_false] using ifNo

theorem allData_attributeData (nonempty : identities ≠ []) (kind : HandleType) (attrType : Nat) :
    AllData identities (fun index identity => attributeData identity index kind attrType) value ↔
      Shared identities kind attrType value := by
  have certificate : AllData identities (fun _ identity => certificateData identity attrType) value ↔
      SharedCertificate identities attrType value :=
    allData_ite (allData_const nonempty) <| allData_ite (allData_field _) <|
      allData_ite (allData_const nonempty) <| allData_ite (allData_const nonempty) <|
        allData_none nonempty
  have key : AllData identities (fun _ identity => keyData identity kind attrType) value ↔
      SharedKey identities kind attrType value :=
    allData_ite (allData_const nonempty) <| allData_ite (allData_const nonempty) <|
      allData_ite (allData_const nonempty) <| allData_ite (allData_const nonempty) <|
        allData_ite (allData_const nonempty) <| allData_ite (allData_field _) <|
          allData_none nonempty
  exact allData_ite (allData_const nonempty) <| allData_ite (allData_id nonempty) <|
    allData_ite (allData_field _) <| allData_ite (allData_const nonempty) <|
      allData_ite (allData_const nonempty) <| allData_ite certificate key

/-! ### When search and attributes agree -/

theorem exists_identity {index : Nat} (bound : index < module.identities.length) :
    ∃ identity, module.identities[index]? = some identity :=
  ⟨_, List.getElem?_eq_getElem bound⟩

theorem searchAgrees_iff_classDecides (inSession : InSession state session module) :
    SearchAgrees state session module template ↔ ClassDecides module.identities template := by
  constructor
  · intro agrees
    by_cases none : module.identities = []
    · exact .inl none
    refine .inr fun kind wanted attr member => ?_
    have asked : ∀ (index : Nat) (identity : Identity), module.identities[index]? = some identity →
        ∃ value, attr.value? = some value ∧
          attributeData identity index kind attr.attrType = some value := by
      intro index identity found
      have bound := (List.getElem?_eq_some_iff.mp found).1
      have isCollected := (mem_collected inSession).mpr ⟨index, bound, kind, wanted, rfl⟩
      exact (hasValue_iff inSession found attr).mp (((agrees _).mp isCollected).2 attr member)
    obtain ⟨first, found⟩ := exists_identity (List.length_pos_iff.mpr none)
    obtain ⟨value, isValue, _⟩ := asked 0 first found
    refine ⟨value, isValue, (allData_attributeData none kind attr.attrType).mp ?_⟩
    intro index identity found
    obtain ⟨held, isHeld, reported⟩ := asked index identity found
    rw [isHeld] at isValue
    cases isValue
    exact reported
  · intro decides object
    constructor
    · intro isCollected
      obtain ⟨index, bound, kind, wanted, rfl⟩ := (mem_collected inSession).mp isCollected
      obtain ⟨identity, found⟩ := exists_identity bound
      refine ⟨by rw [object?_eq_some.mpr ⟨rfl, found⟩]; rfl, fun attr member => ?_⟩
      rcases decides with none | decides
      · rw [none] at bound
        cases bound
      · have nonempty : module.identities ≠ [] := List.length_pos_iff.mp (Nat.zero_lt_of_lt bound)
        obtain ⟨value, isValue, shared⟩ := decides kind wanted attr member
        have reported := (allData_attributeData nonempty kind attr.attrType).mpr shared index identity found
        exact (hasValue_iff inSession found attr).mpr ⟨value, isValue, reported⟩
    · intro ⟨isObject, hasValues⟩
      obtain ⟨⟨index, kind, identity⟩, found⟩ := Option.isSome_iff_exists.mp isObject
      obtain ⟨rfl, isIdentity⟩ := object?_eq_some.mp found
      have bound := (List.getElem?_eq_some_iff.mp isIdentity).1
      exact (mem_collected inSession).mpr
        ⟨index, bound, kind, mem_wantedKinds_of_hasValue inSession isIdentity hasValues, rfl⟩

def idTemplate (kind : HandleType) (id : List UInt8) : Option (List Attribute) :=
  some [.ofValue ckaClass (neBytes kind.objectClass), .ofValue ckaId id]

theorem wantedKinds_idTemplate (kind : HandleType) (id : List UInt8) :
    wantedKinds (idTemplate kind id) = [kind] := by
  cases kind <;> rfl

theorem collected_idTemplate_iff (inSession : InSession state session module) {index : Nat}
    (bound : index < module.identities.length) (kind : HandleType) (id : List UInt8) :
    collected state session (idTemplate kind id) = [kind.handle index] ↔
      module.identities.length = 1 := by
  have isCollected : collected state session (idTemplate kind id) =
      (List.range module.identities.length).map kind.handle := by
    rw [collected_eq inSession, wantedKinds_idTemplate]
    exact List.map_eq_flatMap.symm
  rw [isCollected]
  constructor
  · intro single
    simpa using congrArg List.length single
  · intro single
    have first : index = 0 := by omega
    rw [single, first]
    rfl

/-- A search collects the objects with the values asked for exactly if its
class entries decide it; of a certificate's id it makes nothing. -/
theorem searchAgrees_iff (inSession : InSession state session module)
    (template : Option (List Attribute)) :
    (SearchAgrees state session module template ↔ ClassDecides module.identities template) ∧
      ∀ index kind id, index < module.identities.length →
        readAttribute state session (HandleType.certificate.handle index) ckaId = some id →
        (collected state session (idTemplate kind id) = [kind.handle index] ↔
          module.identities.length = 1) :=
  ⟨searchAgrees_iff_classDecides inSession,
    fun _ kind id bound _ => collected_idTemplate_iff inSession bound kind id⟩

open Sample in
theorem twoKeys_searchAgrees_iff :
    (SearchAgrees twoKeys 1 twoKeysModule (idTemplate .privateKey [2]) ↔
        ClassDecides twoKeysModule.identities (idTemplate .privateKey [2])) ∧
      ∀ index kind id, index < twoKeysModule.identities.length →
        readAttribute twoKeys 1 (HandleType.certificate.handle index) ckaId = some id →
        (collected twoKeys 1 (idTemplate kind id) = [kind.handle index] ↔
          twoKeysModule.identities.length = 1) :=
  searchAgrees_iff twoKeys_inSession (idTemplate .privateKey [2])

open Sample in
/-- The id of the second certificate also leads to the first private key. -/
theorem twoKeys_search_disagrees :
    readAttribute twoKeys 1 (HandleType.certificate.handle 1) ckaId = some [2] ∧
      collected twoKeys 1 (idTemplate .privateKey [2]) =
        [HandleType.privateKey.handle 0, HandleType.privateKey.handle 1] ∧
      ¬ SearchAgrees twoKeys 1 twoKeysModule (idTemplate .privateKey [2]) := by
  have isCollected : collected twoKeys 1 (idTemplate .privateKey [2]) =
      [HandleType.privateKey.handle 0, HandleType.privateKey.handle 1] := by
    rw [collected_eq twoKeys_inSession, wantedKinds_idTemplate]
    rfl
  refine ⟨?_, isCollected, fun agrees => ?_⟩
  · rw [readAttribute_eq twoKeys_inSession]
    rfl
  · have first : HandleType.privateKey.handle 0 ∈ collected twoKeys 1 (idTemplate .privateKey [2]) := by
      rw [isCollected]
      exact List.mem_cons_self
    obtain ⟨value, isValue, reported⟩ :=
      ((agrees _).mp first).2 (.ofValue ckaId [2]) (by simp [idTemplate])
    rw [Attribute.value?_ofValue] at isValue
    rw [readAttribute_eq twoKeys_inSession, ← isValue] at reported
    revert reported
    decide

end KeyMaster.Pkcs11
