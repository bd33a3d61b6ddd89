import KeyMaster.Avatar.Connector
import KeyMaster.Avatar.Seed
import KeyMaster.Avatar.Session
import KeyMaster.JsonRpc

namespace KeyMaster

open Data

/-! What `handle_attach` reads from a request and decides before it touches the
session table. -/

/-- A resolved user entry, as far as the API socket needs it. -/
structure UserEntry where
  uid : UInt32
  gid : UInt32
deriving DecidableEq, Repr

abbrev UserMap := HashMap String UserEntry

/-- What `main` sets up before the event loop. -/
structure Config (C : Crates) where
  avatarKeys : Keys C
  loginXpriv : C.Xpriv
  loginXpub : C.Xpub
  allowlist : List String
  userMap : Option UserMap

variable (C : Crates)

/-! ### Parameters -/

def attachParams (params : Value) : Value :=
  if params.isArray then (params.asArray.bind List.head?).getD (.object [])
  else if params.isObject then params
  else .object []

/-- One element of the services list, its `seq` as it was sent. -/
def sentService (service : Value) : Option (String × UInt64) :=
  match (service.get "type").bind Value.asStr with
  | some serviceType => some (serviceType, ((service.get "seq").bind Value.asU64).getD 0)
  | none => service.asStr.map fun serviceType => (serviceType, 0)

def sentServices (params : Value) : List (String × UInt64) :=
  (((params.get "services").bind Value.asArray).map (List.filterMap sentService)).getD []

/-- The services as the handler uses them: `seq as u32`. -/
def attachServices (params : Value) : List (String × UInt32) :=
  (sentServices params).map fun service => (service.1, service.2.toUInt32)

def attachIdentity (params : Value) : String :=
  ((((params.get "connector").bind fun connector => connectorStr connector "identity_npub").or
    ((params.get "identity").bind Value.asStr))).getD "default"

def attachRealmXpub (params : Value) : Option C.Xpub :=
  ((params.get "connector").bind fun connector => connectorStr connector "realm_xpub").bind
    C.xpubFromStr

/-! ### Checks -/

def checkAllowlist (allowlist : List String) (identity : String) : Except AttachFailure Unit :=
  if allowlist ≠ [] ∧ identity ∉ allowlist then .error (.rejected "identity not in allowlist")
  else .ok ()

def attachChecks (config : Config C) (params : Value) : Except AttachFailure Unit := do
  verifyConnector C config.loginXpub params
  checkAllowlist config.allowlist (attachIdentity params)

/-! ### Service channels -/

/-- The KM side of a channel: derived from the realm xpub, or the event's
sender for lack of one. -/
def kmChannelPubkey (realmXpub : Option C.Xpub) (kmPubkey : C.PublicKey) (serviceType : String)
    (seq : Nat) : Option C.PublicKey :=
  match realmXpub with
  | some rxpub => deriveServicePubkey C rxpub serviceType seq
  | none => some kmPubkey

def deriveChannel (loginXpriv : C.Xpriv) (realmXpub : Option C.Xpub) (kmPubkey : C.PublicKey)
    (service : String × UInt32) : Option (ServiceChannel C) := do
  let serviceAvatarKeys ← deriveServiceKeys C loginXpriv service.1 service.2.toNat
  let kmServicePubkey ← kmChannelPubkey C realmXpub kmPubkey service.1 service.2.toNat
  some { serviceType := service.1, serviceAvatarKeys, kmServicePubkey, kmRealmPubkey := kmPubkey }

/-- The channels up to the first service that cannot be derived, and whether
all could. -/
def deriveChannels (loginXpriv : C.Xpriv) (realmXpub : Option C.Xpub) (kmPubkey : C.PublicKey) :
    List (String × UInt32) → List (ServiceChannel C) × Bool
  | [] => ([], true)
  | service :: rest =>
      (deriveChannel C loginXpriv realmXpub kmPubkey service).elim ([], false) fun channel =>
        let later := deriveChannels loginXpriv realmXpub kmPubkey rest
        (channel :: later.1, later.2)

/-! ### Responses -/

def acceptedService (service : String × UInt32) : Value :=
  jsonObject [("type", .string service.1), ("seq", .number (.posInt service.2.toUInt64))]

def acceptedResponse (msg : JsonRpcMessage) (services : List (String × UInt32)) :
    JsonRpcResponse :=
  .success (msg.id.getD (.number (.posInt 1)))
    (jsonObject [("accepted", .array (services.map acceptedService))])

def rejectedResponse (msg : JsonRpcMessage) (message : String) : JsonRpcResponse :=
  .failure (msg.id.getD .null) jsonrpcInvalidParams message

/-! ### Facts about the checks and the derivation -/

variable {C}

theorem attachChecks_ok {config : Config C} {params : Value}
    (passed : attachChecks C config params = .ok ()) :
    verifyConnector C config.loginXpub params = .ok () ∧
      (config.allowlist ≠ [] → attachIdentity params ∈ config.allowlist) := by
  unfold attachChecks at passed
  cases verified : verifyConnector C config.loginXpub params with
  | error failure =>
      rw [verified] at passed
      cases passed
  | ok accepted =>
      rw [verified] at passed
      refine ⟨rfl, fun restricted => ?_⟩
      by_contra stranger
      simp [checkAllowlist, restricted, stranger, bind, Except.bind] at passed

variable {loginXpriv : C.Xpriv} {realmXpub : Option C.Xpub} {kmPubkey : C.PublicKey}
  {service : String × UInt32} {services : List (String × UInt32)} {channel : ServiceChannel C}

theorem deriveChannel_eq_some :
    deriveChannel C loginXpriv realmXpub kmPubkey service = some channel ↔
      channel.serviceType = service.1 ∧ channel.kmRealmPubkey = kmPubkey ∧
        deriveServiceKeys C loginXpriv service.1 service.2.toNat = some channel.serviceAvatarKeys ∧
        kmChannelPubkey C realmXpub kmPubkey service.1 service.2.toNat = some channel.kmServicePubkey := by
  obtain ⟨serviceType, avatarKeys, servicePubkey, realmPubkey⟩ := channel
  simp only [deriveChannel, Option.bind_eq_bind, Option.bind_eq_some_iff, Option.some.injEq,
    ServiceChannel.mk.injEq]
  constructor
  · rintro ⟨keys, derived, pubkey, chosen, sameType, sameKeys, samePubkey, sameRealm⟩
    subst sameKeys samePubkey
    exact ⟨sameType.symm, sameRealm.symm, derived, chosen⟩
  · rintro ⟨sameType, sameRealm, derived, chosen⟩
    exact ⟨avatarKeys, derived, servicePubkey, chosen, sameType.symm, rfl, rfl, sameRealm.symm⟩

@[simp] theorem deriveChannels_nil :
    deriveChannels C loginXpriv realmXpub kmPubkey [] = ([], true) := rfl

theorem deriveChannels_cons_none
    (failed : deriveChannel C loginXpriv realmXpub kmPubkey service = none) :
    deriveChannels C loginXpriv realmXpub kmPubkey (service :: services) = ([], false) := by
  simp [deriveChannels, failed]

theorem deriveChannels_cons_some
    (derived : deriveChannel C loginXpriv realmXpub kmPubkey service = some channel) :
    deriveChannels C loginXpriv realmXpub kmPubkey (service :: services) =
      (channel :: (deriveChannels C loginXpriv realmXpub kmPubkey services).1,
        (deriveChannels C loginXpriv realmXpub kmPubkey services).2) := by
  simp [deriveChannels, derived]

theorem mem_deriveChannels
    (member : channel ∈ (deriveChannels C loginXpriv realmXpub kmPubkey services).1) :
    ∃ service ∈ services, deriveChannel C loginXpriv realmXpub kmPubkey service = some channel := by
  induction services with
  | nil => cases member
  | cons first rest ih =>
      cases derived : deriveChannel C loginXpriv realmXpub kmPubkey first with
      | none =>
          rw [deriveChannels_cons_none derived] at member
          cases member
      | some head =>
          rw [deriveChannels_cons_some derived] at member
          rcases List.mem_cons.mp member with rfl | inRest
          · exact ⟨first, List.mem_cons_self, derived⟩
          · obtain ⟨service, inServices, found⟩ := ih inRest
            exact ⟨service, List.mem_cons_of_mem _ inServices, found⟩

theorem deriveChannels_complete :
    (deriveChannels C loginXpriv realmXpub kmPubkey services).2 = true ↔
      ∀ service ∈ services, (deriveChannel C loginXpriv realmXpub kmPubkey service).isSome := by
  induction services with
  | nil => simp
  | cons first rest ih =>
      cases derived : deriveChannel C loginXpriv realmXpub kmPubkey first with
      | none => simp [deriveChannels_cons_none derived, derived]
      | some head => simp [deriveChannels_cons_some derived, derived, ih]

end KeyMaster
