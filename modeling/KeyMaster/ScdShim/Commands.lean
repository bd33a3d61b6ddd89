import KeyMaster.ScdShim.Identities

namespace KeyMaster.ScdShim

/-! The Assuan commands of `scd-shim` and its command loop. -/

def serial : String := "D2760001240103000000000000000100"

/-! ### Output -/

def lineFeed : UInt8 := 0x0A

def sendOk (msg : String) : List UInt8 :=
  textBytes (if msg = "" then "OK\n" else "OK " ++ msg ++ "\n")

def sendErr (code : Nat) (msg : String) : List UInt8 :=
  textBytes ("ERR " ++ toString code ++ " " ++ msg ++ "\n")

def sendStatus (keyword value : String) : List UInt8 :=
  textBytes ("S " ++ keyword ++ " " ++ value ++ "\n")

def escapeByte (byte : UInt8) : List UInt8 :=
  if byte = 0x25 then textBytes "%25"
  else if byte = 0x0D then textBytes "%0D"
  else if byte = lineFeed then textBytes "%0A"
  else [byte]

def sendData (data : List UInt8) : List UInt8 :=
  textBytes "D " ++ data.flatMap escapeByte ++ [lineFeed]

/-! ### Command lines -/

def parseCommand (line : List Char) : List Char × List Char :=
  (line.takeWhile fun char => !isWhiteSpace char,
    trimStart (line.dropWhile fun char => !isWhiteSpace char))

/-- Skip white space and words that begin with `--`, in one pass over the line. -/
def skipOptionsFrom : Bool → List Char → List Char
  | _, [] => []
  | inOption, char :: rest =>
      if isWhiteSpace char then skipOptionsFrom false rest
      else if inOption then skipOptionsFrom true rest
      else if "--".toList.isPrefixOf (char :: rest) then skipOptionsFrom true rest
      else char :: rest

def skipOptions (line : List Char) : List Char := skipOptionsFrom false line

/-- `to_uppercase` as far as its result is ASCII.  Any other character has an
uppercase that is not ASCII, and stands for itself here. -/
def upperChar (char : Char) : List Char :=
  if 'a' ≤ char ∧ char ≤ 'z' then [Char.ofNat (char.toNat - 32)]
  else
    match char.toNat with
    | 0x00DF => ['S', 'S']
    | 0x0131 => ['I']
    | 0x017F => ['S']
    | 0xFB00 => ['F', 'F']
    | 0xFB01 => ['F', 'I']
    | 0xFB02 => ['F', 'L']
    | 0xFB03 => ['F', 'F', 'I']
    | 0xFB04 => ['F', 'F', 'L']
    | 0xFB05 | 0xFB06 => ['S', 'T']
    | _ => [char]

inductive CommandName where
  | serialno | learn | readkey | setdata | pksign | keyinfo | getattr | getinfo | readcert
  | restart | reset | bye | nop | option | unknown
deriving DecidableEq, Repr

def commandNames : List (String × CommandName) :=
  [("SERIALNO", .serialno), ("LEARN", .learn), ("READKEY", .readkey), ("SETDATA", .setdata),
   ("PKSIGN", .pksign), ("KEYINFO", .keyinfo), ("GETATTR", .getattr), ("GETINFO", .getinfo),
   ("READCERT", .readcert), ("RESTART", .restart), ("RESET", .reset), ("BYE", .bye), ("NOP", .nop),
   ("OPTION", .option)]

def commandName (word : List Char) : CommandName :=
  (commandNames.lookup (String.ofList (word.flatMap upperChar))).getD .unknown

/-- What follows the first occurrence of `target`. -/
def afterFirst (target : List Char) : List Char → Option (List Char)
  | [] => if target = [] then some [] else none
  | char :: rest =>
      if target.isPrefixOf (char :: rest) then some ((char :: rest).drop target.length)
      else afterFirst target rest

/-! ### Hexadecimal arguments -/

inductive HexResult where
  | decoded (bytes : List UInt8)
  | invalid (message : String)
  /-- A string slice that cuts a character. -/
  | panicked
deriving DecidableEq

def HexResult.cons (byte : UInt8) : HexResult → HexResult
  | .decoded bytes => .decoded (byte :: bytes)
  | result => result

/-- `u8::from_str_radix` in base 16 on two ASCII characters, which also takes a
plus sign. -/
def byteFromStrRadix (high low : Char) : Option UInt8 :=
  if high = '+' then (hexValue low).map UInt8.ofNat
  else do
    let high ← hexValue high
    let low ← hexValue low
    some (UInt8.ofNat (high * 16 + low))

/-- The loop over two-byte slices, from the byte offset `start` on.  A slice
that ends inside a character panics; a character of two bytes is no number. -/
def hexDecodeFrom (start : Nat) : List Char → HexResult
  | [] => .decoded []
  | [char] => if char.utf8Size = 2 then .invalid s!"hex decode at {start}: invalid digit found in string"
      else .panicked
  | char :: next :: rest =>
      let invalid := .invalid s!"hex decode at {start}: invalid digit found in string"
      if char.utf8Size = 2 then invalid
      else if char.utf8Size = 1 ∧ next.utf8Size = 1 then
        match byteFromStrRadix char next with
        | none => invalid
        | some byte => (hexDecodeFrom (start + 2) rest).cons byte
      else .panicked

def hexDecode (text : List Char) : HexResult :=
  let trimmed := trim text
  if (String.ofList trimmed).utf8ByteSize % 2 ≠ 0 then .invalid "odd-length hex string"
  else hexDecodeFrom 0 trimmed

/-! ### Handlers -/

structure ScdState (codecs : Codecs) where
  identities : List (Identity codecs)
  storedData : List UInt8
  client : GpgSaClient
  /-- `std::process::id()`. -/
  pid : UInt32

/-- The state in which `main` enters the command loop. -/
def ScdState.start (codecs : Codecs) (raw : List RawIdentity) (client : GpgSaClient) (pid : UInt32) :
    ScdState codecs where
  identities := KeyMaster.ScdShim.identities codecs raw
  storedData := []
  client := client
  pid := pid

variable {codecs : Codecs}

def handleSerialno (args : List Char) : List UInt8 :=
  match afterFirst "--demand=".toList args with
  | none => sendStatus "SERIALNO" serial ++ sendOk ""
  | some demand =>
      let demandSerial := demand.takeWhile fun char => (hexValue char).isSome
      let stripZeros := fun text : List Char => (text.reverse.dropWhile (· = '0')).reverse
      if stripZeros serial.toList = stripZeros demandSerial then
        sendStatus "SERIALNO" serial ++ sendOk ""
      else sendErr 67 "Card not present"

def handleLearn (state : ScdState codecs) : List UInt8 :=
  sendStatus "SERIALNO" serial ++ sendStatus "APPTYPE" "OPENPGP" ++
    state.identities.flatMap (fun id => sendStatus "KEYPAIRINFO" (id.keygrip ++ " " ++ id.keyref)) ++
    sendOk ""

def handleReadkey (state : ScdState codecs) (args : List Char) : List UInt8 :=
  let keyref := String.ofList (trim (skipOptions args))
  match state.identities.find? fun id => id.keyref = keyref ∨ id.keygrip = keyref with
  | some id => sendData (publicKeySexp id.publicKey.toList) ++ sendOk ""
  | none => sendErr 69 "No such key"

/-- `args.split_whitespace().collect()`. -/
def withoutWhiteSpace (args : List Char) : List Char := args.filter fun char => !isWhiteSpace char

/-- The new state and what is written, unless decoding panics. -/
def handleSetdata (state : ScdState codecs) (args : List Char) :
    Option (ScdState codecs × List UInt8) :=
  match hexDecode (withoutWhiteSpace args) with
  | .decoded data => some ({ state with storedData := data }, sendOk "")
  | .invalid message => some (state, sendErr 62 ("Invalid hex data: " ++ message))
  | .panicked => none

def sha256Prefix : List UInt8 :=
  [0x30, 0x31, 0x30, 0x0D, 0x06, 0x09, 0x60, 0x86, 0x48, 0x01, 0x65, 0x03, 0x04, 0x02, 0x01, 0x05,
   0x00, 0x04, 0x20]

def sha512Prefix : List UInt8 :=
  [0x30, 0x51, 0x30, 0x0D, 0x06, 0x09, 0x60, 0x86, 0x48, 0x01, 0x65, 0x03, 0x04, 0x02, 0x03, 0x05,
   0x00, 0x04, 0x40]

/-- Strip the DigestInfo wrapper of a SHA-256 or SHA-512 digest. -/
def stripDigestInfo (data : List UInt8) : List UInt8 :=
  if data.length = 51 ∧ sha256Prefix <+: data then data.drop sha256Prefix.length
  else if data.length = 83 ∧ sha512Prefix <+: data then data.drop sha512Prefix.length
  else data

/-- The identity and the data of the request that PKSIGN sends, or the error it
answers with at once. -/
def pksignRequest (state : ScdState codecs) (args : List Char) :
    Except (Nat × String) (Identity codecs × List UInt8) :=
  let keyid := String.ofList (trim (skipOptions args))
  let identity := (state.identities.find? fun id => id.keygrip = keyid ∨ id.keyref = keyid).or
    (state.identities.find? fun id => id.keyref = "OPENPGP.3")
  match identity with
  | none => .error (69, "No matching key found")
  | some id =>
      if state.storedData = [] then .error (76, "No data to sign (call SETDATA first)")
      else .ok (id, stripDigestInfo state.storedData)

def handlePksign (state : ScdState codecs) (args : List Char) (io : RequestIo) :
    ScdState codecs × List UInt8 :=
  match pksignRequest state args with
  | .error (code, msg) => (state, sendErr code msg)
  | .ok (id, data) =>
      let (signed, client) := state.client.sign codecs id.index id.publicKey.toList data io
      match signed with
      | .ok sig =>
          if sig.length ≠ 64 then
            -- Returns early: the stored data stays.
            ({ state with client }, sendErr 2 "Invalid signature length")
          else ({ state with client, storedData := [] }, sendData sig ++ sendOk "")
      | .error error =>
          ({ state with client, storedData := [] }, sendErr 2 ("Sign error: " ++ error.text))

section Pksign

variable {state : ScdState codecs} {args : List Char} {io : RequestIo} {id : Identity codecs}
  {data sig : List UInt8}

theorem handlePksign_refused {failure : Nat × String}
    (refused : pksignRequest state args = .error failure) :
    handlePksign state args io = (state, sendErr failure.1 failure.2) := by
  simp only [handlePksign, refused]

theorem handlePksign_signed (requested : pksignRequest state args = .ok (id, data))
    (signed : (state.client.sign codecs id.index id.publicKey.toList data io).1 = .ok sig)
    (length : sig.length = 64) :
    handlePksign state args io =
      ({ state with
          client := (state.client.sign codecs id.index id.publicKey.toList data io).2,
          storedData := [] },
        sendData sig ++ sendOk "") := by
  simp only [handlePksign, requested, signed, length, ne_eq, not_true_eq_false, if_false]

theorem handlePksign_wrongLength (requested : pksignRequest state args = .ok (id, data))
    (signed : (state.client.sign codecs id.index id.publicKey.toList data io).1 = .ok sig)
    (length : sig.length ≠ 64) :
    handlePksign state args io =
      ({ state with client := (state.client.sign codecs id.index id.publicKey.toList data io).2 },
        sendErr 2 "Invalid signature length") := by
  simp only [handlePksign, requested, signed, length, ne_eq, not_false_eq_true, if_true]

theorem handlePksign_failed {error : ClientError}
    (requested : pksignRequest state args = .ok (id, data))
    (signed : (state.client.sign codecs id.index id.publicKey.toList data io).1 = .error error) :
    handlePksign state args io =
      ({ state with
          client := (state.client.sign codecs id.index id.publicKey.toList data io).2,
          storedData := [] },
        sendErr 2 ("Sign error: " ++ error.text)) := by
  simp only [handlePksign, requested, signed]

end Pksign

def handleKeyinfo (state : ScdState codecs) : List UInt8 :=
  state.identities.flatMap (fun id =>
    sendStatus "KEYINFO" (id.keygrip ++ " T " ++ serial ++ " " ++ id.keyref ++ " - - - -")) ++ sendOk ""

def attributeStatus (state : ScdState codecs) (attr : String) : List (String × String) :=
  if attr = "SERIALNO" then [("SERIALNO", serial)]
  else if attr = "APPTYPE" then [("APPTYPE", "OPENPGP")]
  else if attr = "KEY-ATTR" then
    state.identities.map fun id => ("KEY-ATTR", id.keyref ++ " 22 1.3.101.112")
  else if attr = "$AUTHKEYID" then
    ((state.identities.find? fun id => id.keyref = "OPENPGP.3").map fun id =>
      ("AUTHKEYID", id.keyref)).toList
  else if attr = "CHV-STATUS" then [("CHV-STATUS", "1 -1 -1 -1 3 3 3")]
  else if attr = "DISP-NAME" then [("DISP-NAME", "KeyMaster")]
  else []

def handleGetattr (state : ScdState codecs) (args : List Char) : List UInt8 :=
  (attributeStatus state (String.ofList (trim args))).flatMap (fun status =>
    sendStatus status.1 status.2) ++ sendOk ""

def handleGetinfo (state : ScdState codecs) (args : List Char) : List UInt8 :=
  let what := String.ofList (trim args)
  if what = "socket_name" then sendErr 69 "Not a socket-based daemon"
  else if what = "version" then sendData (textBytes "0.1.0") ++ sendOk ""
  else if what = "pid" then textBytes ("D " ++ toString state.pid.toNat ++ "\n") ++ sendOk ""
  else sendOk ""

/-! ### The command loop -/

inductive Flow (codecs : Codecs) where
  | continues (state : ScdState codecs)
  | exits
  | panics

/-- What a command line leads to: the bytes written and how the loop goes on. -/
structure Reply (codecs : Codecs) where
  out : List UInt8
  flow : Flow codecs

def command (line : List Char) : CommandName × List Char :=
  let (word, args) := parseCommand (trim line)
  (commandName word, args)

def execute (state : ScdState codecs) (name : CommandName) (args : List Char) (io : RequestIo) :
    Reply codecs :=
  match name with
  | .serialno => ⟨handleSerialno args, .continues state⟩
  | .learn => ⟨handleLearn state, .continues state⟩
  | .readkey => ⟨handleReadkey state args, .continues state⟩
  | .setdata =>
      match handleSetdata state args with
      | none => ⟨[], .panics⟩
      | some (after, out) => ⟨out, .continues after⟩
  | .pksign => ⟨(handlePksign state args io).2, .continues (handlePksign state args io).1⟩
  | .keyinfo => ⟨handleKeyinfo state, .continues state⟩
  | .getattr => ⟨handleGetattr state args, .continues state⟩
  | .getinfo => ⟨handleGetinfo state args, .continues state⟩
  | .readcert => ⟨sendErr 69 "Not supported", .continues state⟩
  | .restart | .reset => ⟨sendOk "", .continues { state with storedData := [] }⟩
  | .bye => ⟨sendOk "closing connection", .exits⟩
  | .nop | .option | .unknown => ⟨sendOk "", .continues state⟩

/-- One iteration of the loop; `io` is used if the command sends a request. -/
def handleLine (state : ScdState codecs) (line : List Char) (io : RequestIo) : Reply codecs :=
  if trim line = [] then ⟨[], .continues state⟩
  else execute state (command line).1 (command line).2 io

end KeyMaster.ScdShim
