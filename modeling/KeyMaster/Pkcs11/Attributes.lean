import KeyMaster.Pkcs11.Module

namespace KeyMaster.Pkcs11

open Data

/-! The attributes of the objects. -/

def ed25519EcParams : List UInt8 := ed25519Oid

def certificateData (identity : Identity) (attrType : Nat) : Option (List UInt8) :=
  if attrType = ckaCertificateType then some (neBytes ckcX509)
  else if attrType = ckaValue then some identity.certDer
  else if attrType = ckaSubject ∨ attrType = ckaIssuer then some []
  else if attrType = ckaSerialNumber then some [0x02, 0x01, 0x01]
  else none

def keyData (identity : Identity) (kind : HandleType) (attrType : Nat) : Option (List UInt8) :=
  if attrType = ckaKeyType then some (neBytes ckkEcEdwards)
  else if attrType = ckaSign ∧ kind = .privateKey then some [ckTrue]
  else if attrType = ckaVerify ∧ kind = .publicKey then some [ckTrue]
  else if attrType = ckaAlwaysAuthenticate then some [ckFalse]
  else if attrType = ckaEcParams then some ed25519EcParams
  else if attrType = ckaEcPoint then some identity.publicKey
  else none

/-- The value of an attribute of an identity's object, or nothing for an
unknown attribute. -/
def attributeData (identity : Identity) (index : Nat) (kind : HandleType) (attrType : Nat) :
    Option (List UInt8) :=
  if attrType = ckaToken then some [ckTrue]
  else if attrType = ckaId then some [UInt8.ofNat (index + 1)]
  else if attrType = ckaLabel then some (Utf8.encode identity.label.toList)
  else if attrType = ckaClass then some (neBytes kind.objectClass)
  else if attrType = ckaPrivate then some [if kind = .privateKey then ckTrue else ckFalse]
  else if kind = .certificate then certificateData identity attrType
  else keyData identity kind attrType

/-- Answer one entry of a template; an error replaces the code so far. -/
def fillAttribute (data : Option (List UInt8)) (rv : CkRv) (attr : Attribute) : CkRv × Attribute :=
  match data with
  | none => (.attributeTypeInvalid, { attr with valueLen := ckUnavailableInformation })
  | some bytes =>
      match attr.pValue with
      | none => (rv, { attr with valueLen := bytes.length })
      | some memory =>
          if attr.valueLen < bytes.length then
            (.bufferTooSmall, { attr with valueLen := bytes.length })
          else
            (rv, { attr with
              pValue := some (bytes ++ memory.drop bytes.length)
              valueLen := bytes.length })

def fillAttributes (data : Nat → Option (List UInt8)) : CkRv → List Attribute → CkRv × List Attribute
  | rv, [] => (rv, [])
  | rv, attr :: rest =>
      let (rv, filled) := fillAttribute (data attr.attrType) rv attr
      let (rv, others) := fillAttributes data rv rest
      (rv, filled :: others)

def cGetAttributeValue (state : State) (session object : Nat) (template : Option (List Attribute)) :
    Outcome (List Attribute) :=
  withState state fun module =>
    match template with
    | none => module.fail .argumentsBad
    | some attrs =>
        module.withSession session
          (match module.object? object with
           | none => module.fail .objectHandleInvalid
           | some (index, kind, identity) =>
               let (rv, filled) := fillAttributes (attributeData identity index kind) .ok attrs
               ⟨rv, some filled, some module⟩)

/-- Read an attribute with two calls: one for its length, one for its value. -/
def readAttribute (state : State) (session object attrType : Nat) : Option (List UInt8) :=
  match cGetAttributeValue state session object (some [.query attrType]) with
  | ⟨.ok, some [sized], _⟩ =>
      match cGetAttributeValue state session object (some [.buffer attrType sized.valueLen]) with
      | ⟨.ok, some [filled], _⟩ => filled.value?
      | _ => none
  | _ => none

variable {state : State} {session object attrType : Nat} {module : ModuleState}

theorem cGetAttributeValue_eq (inSession : InSession state session module) (attrs : List Attribute) :
    cGetAttributeValue state session object (some attrs) =
      match module.object? object with
      | none => module.fail .objectHandleInvalid
      | some (index, kind, identity) =>
          let (rv, filled) := fillAttributes (attributeData identity index kind) .ok attrs
          ⟨rv, some filled, some module⟩ := by
  rw [cGetAttributeValue, inSession.withState]
  exact inSession.withSession _

theorem readAttribute_eq (inSession : InSession state session module) :
    readAttribute state session object attrType =
      (module.object? object).bind fun (index, kind, identity) =>
        attributeData identity index kind attrType := by
  rw [readAttribute, cGetAttributeValue_eq inSession]
  cases found : module.object? object with
  | none => rfl
  | some entry =>
      obtain ⟨index, kind, identity⟩ := entry
      rw [Option.bind_some]
      cases data : attributeData identity index kind attrType with
      | none => simp [fillAttributes, fillAttribute, Attribute.query, data]
      | some bytes =>
          simp only [fillAttributes, fillAttribute, Attribute.query, data]
          rw [cGetAttributeValue_eq inSession, found]
          simp [fillAttributes, fillAttribute, Attribute.buffer, Attribute.value?, data]

end KeyMaster.Pkcs11
