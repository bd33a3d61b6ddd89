import KeyMaster.Data.Simulation
import KeyMaster.Pkcs11.Attributes
import KeyMaster.Pkcs11.Invariant

namespace KeyMaster.Pkcs11

open Data

/-! The functions that leave the module's state as it is, and the module as a
machine that answers calls. -/

variable {α : Type}

/-! ### Information -/

structure CkVersion where
  major : UInt8
  minor : UInt8
deriving DecidableEq

/-- `pad_str::<width>`. -/
def padStr (width : Nat) (text : String) : List UInt8 :=
  let bytes := Utf8.encode text.toList
  bytes.take width ++ List.replicate (width - bytes.length) 0x20

theorem length_padStr (width : Nat) (text : String) : (padStr width text).length = width := by
  rw [padStr, List.length_append, List.length_take, List.length_replicate]
  omega

def ckfTokenPresent : Nat := 0x1
def ckfRwSession : Nat := 0x2
def ckfHwSlot : Nat := 0x4
def ckfTokenInitialized : Nat := 0x400
def ckfSign : Nat := 0x800
def ckfVerify : Nat := 0x2000
def cksRwPublicSession : Nat := 2

structure CkInfo where
  cryptokiVersion : CkVersion := ⟨2, 40⟩
  manufacturerId : List UInt8 := padStr 32 "IZ RedToken"
  flags : Nat := 0
  libraryDescription : List UInt8 := padStr 32 "IZ KeyMaster GPG PKCS#11"
  libraryVersion : CkVersion := ⟨0, 1⟩

structure CkSlotInfo where
  slotDescription : List UInt8 := padStr 64 "IZ Avatar GPG"
  manufacturerId : List UInt8 := padStr 32 "IZ RedToken"
  flags : Nat := ckfTokenPresent ||| ckfHwSlot
  hardwareVersion : CkVersion := ⟨0, 1⟩
  firmwareVersion : CkVersion := ⟨0, 1⟩

structure CkTokenInfo where
  label : List UInt8 := padStr 32 "IZ KeyMaster GPG"
  manufacturerId : List UInt8 := padStr 32 "IZ RedToken"
  model : List UInt8 := padStr 16 "Avatar"
  serialNumber : List UInt8 := padStr 16 "0000000000000001"
  flags : Nat := ckfTokenInitialized
  maxSessionCount : Nat := 1
  sessionCount : Nat := 0
  maxRwSessionCount : Nat := 1
  rwSessionCount : Nat := 0
  maxPinLen : Nat := 0
  minPinLen : Nat := 0
  totalPublicMemory : Nat := ckUnavailableInformation
  freePublicMemory : Nat := ckUnavailableInformation
  totalPrivateMemory : Nat := ckUnavailableInformation
  freePrivateMemory : Nat := ckUnavailableInformation
  hardwareVersion : CkVersion := ⟨0, 1⟩
  firmwareVersion : CkVersion := ⟨0, 1⟩
  utcTime : List UInt8 := padStr 16 ""

structure CkMechanismInfo where
  minKeySize : Nat := 256
  maxKeySize : Nat := 256
  flags : Nat := ckfSign ||| ckfVerify

structure CkSessionInfo where
  slotId : Nat := 0
  state : Nat := cksRwPublicSession
  flags : Nat := ckfSerialSession ||| ckfRwSession
  deviceError : Nat := 0

/-- What a function writes through its pointers. -/
inductive Written where
  | nothing
  | info (info : CkInfo)
  | slotInfo (info : CkSlotInfo)
  | tokenInfo (info : CkTokenInfo)
  | mechanismInfo (info : CkMechanismInfo)
  | sessionInfo (info : CkSessionInfo)
  /-- The one element of a list, if there was room for it, and the count. -/
  | listing (element : Option Nat) (count : Nat)
  | session (handle : Nat)
  | handles (found : List Nat) (count : Nat)
  | attributes (attrs : List Attribute)
  | signature (written : SignWritten)

structure Reply where
  rv : CkRv
  written : Written

def refusal (rv : CkRv) : Reply := ⟨rv, .nothing⟩

/-- A structure to fill in, unless its pointer is null. -/
def fillIn (pointerNull : Bool) (written : Written) : Reply :=
  if pointerNull then refusal .argumentsBad else ⟨.ok, written⟩

def onSlot (slotId : Nat) (reply : Reply) : Reply :=
  if slotId ≠ 0 then refusal .slotIdInvalid else reply

/-- A list of one element by the two-call convention. -/
def listOne (element : Nat) (listNull : Bool) (count : Option Nat) : Reply :=
  match count with
  | none => refusal .argumentsBad
  | some count =>
      if listNull then ⟨.ok, .listing none 1⟩
      else if count < 1 then ⟨.bufferTooSmall, .listing none 1⟩
      else ⟨.ok, .listing (some element) 1⟩

/-! ### The functions -/

def ModuleState.answers (module : ModuleState) (reply : Reply) : Outcome Written :=
  ⟨reply.rv, some reply.written, some module⟩

def cGetInfo (state : State) (infoNull : Bool) : Outcome Written :=
  withState state fun module => module.answers (fillIn infoNull (.info {}))

def cGetSlotList (state : State) (listNull : Bool) (count : Option Nat) : Outcome Written :=
  withState state fun module => module.answers (listOne 0 listNull count)

def cGetSlotInfo (state : State) (slotId : Nat) (infoNull : Bool) : Outcome Written :=
  withState state fun module => module.answers (onSlot slotId (fillIn infoNull (.slotInfo {})))

def cGetTokenInfo (state : State) (slotId : Nat) (infoNull : Bool) : Outcome Written :=
  withState state fun module => module.answers (onSlot slotId (fillIn infoNull (.tokenInfo {})))

def cGetMechanismList (state : State) (slotId : Nat) (listNull : Bool) (count : Option Nat) :
    Outcome Written :=
  withState state fun module => module.answers (onSlot slotId (listOne ckmEddsa listNull count))

def mechanismReply (mechanism : Nat) (infoNull : Bool) : Reply :=
  if infoNull then refusal .argumentsBad
  else if mechanism = ckmEddsa then ⟨.ok, .mechanismInfo {}⟩
  else refusal .mechanismInvalid

def cGetMechanismInfo (state : State) (slotId mechanism : Nat) (infoNull : Bool) : Outcome Written :=
  withState state fun module => module.answers (onSlot slotId (mechanismReply mechanism infoNull))

def cGetSessionInfo (state : State) (session : Nat) (infoNull : Bool) : Outcome Written :=
  withState state fun module =>
    if infoNull then module.fail .argumentsBad
    else module.withSession session (module.answers ⟨.ok, .sessionInfo {}⟩)

/-- No login is required. -/
def cLogin (state : State) (session : Nat) : Outcome Unit :=
  withState state fun module => module.withSession session ⟨.ok, none, some module⟩

def cLogout (state : State) (session : Nat) : Outcome Unit :=
  withState state fun module => module.withSession session ⟨.ok, none, some module⟩

/-! ### The module as a machine -/

/-- A call of a function that leaves the state as it is. -/
inductive Inquiry where
  | getInfo (infoNull : Bool)
  | getSlotList (listNull : Bool) (count : Option Nat)
  | getSlotInfo (slotId : Nat) (infoNull : Bool)
  | getTokenInfo (slotId : Nat) (infoNull : Bool)
  | getMechanismList (slotId : Nat) (listNull : Bool) (count : Option Nat)
  | getMechanismInfo (slotId mechanism : Nat) (infoNull : Bool)
  | getSessionInfo (session : Nat) (infoNull : Bool)
  | login (session : Nat)
  | logout (session : Nat)
  | getAttributeValue (session object : Nat) (template : Option (List Attribute))

inductive Request where
  | call (call : Call)
  | inquiry (inquiry : Inquiry)

def Outcome.reply (outcome : Outcome α) (write : α → Written) : Reply × State :=
  (⟨outcome.rv, outcome.written.elim .nothing write⟩, outcome.state)

def Call.reply (codecs : Codecs) (state : State) : Call → Reply × State
  | .initializeModule socketPath listing =>
      (cInitialize codecs state socketPath listing).reply fun _ => .nothing
  | .finalize => (cFinalize state).reply fun _ => .nothing
  | .openSession slotId flags sessionNull => (cOpenSession state slotId flags sessionNull).reply .session
  | .closeSession session => (cCloseSession state session).reply fun _ => .nothing
  | .closeAllSessions slotId => (cCloseAllSessions state slotId).reply fun _ => .nothing
  | .findObjectsInit session template =>
      (cFindObjectsInit state session template).reply fun _ => .nothing
  | .findObjects session objectsNull maxCount countNull =>
      (cFindObjects state session objectsNull maxCount countNull).reply fun found =>
        .handles found.1 found.2
  | .findObjectsFinal session => (cFindObjectsFinal state session).reply fun _ => .nothing
  | .signInit session mechanism key => (cSignInit state session mechanism key).reply fun _ => .nothing
  | .sign session call => (cSign state session call).reply .signature

def Inquiry.reply (state : State) : Inquiry → Reply × State
  | .getInfo infoNull => (cGetInfo state infoNull).reply id
  | .getSlotList listNull count => (cGetSlotList state listNull count).reply id
  | .getSlotInfo slotId infoNull => (cGetSlotInfo state slotId infoNull).reply id
  | .getTokenInfo slotId infoNull => (cGetTokenInfo state slotId infoNull).reply id
  | .getMechanismList slotId listNull count => (cGetMechanismList state slotId listNull count).reply id
  | .getMechanismInfo slotId mechanism infoNull =>
      (cGetMechanismInfo state slotId mechanism infoNull).reply id
  | .getSessionInfo session infoNull => (cGetSessionInfo state session infoNull).reply id
  | .login session => (cLogin state session).reply fun _ => .nothing
  | .logout session => (cLogout state session).reply fun _ => .nothing
  | .getAttributeValue session object template =>
      (cGetAttributeValue state session object template).reply .attributes

def Request.reply (codecs : Codecs) (state : State) : Request → Reply × State
  | .call made => made.reply codecs state
  | .inquiry made => made.reply state

/-- The replies to a sequence of calls. -/
def replies (codecs : Codecs) (state : State) (requests : List Request) : List Reply :=
  outputs (Request.reply codecs) state requests

/-- As a machine the module goes through the states of its calls. -/
theorem Call.reply_state (codecs : Codecs) (state : State) (call : Call) :
    (call.reply codecs state).2 = call.after codecs state := by
  cases call <;> rfl

end KeyMaster.Pkcs11
