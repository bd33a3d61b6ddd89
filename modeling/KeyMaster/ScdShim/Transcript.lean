import KeyMaster.Data.Assuan
import KeyMaster.JsonRpcWire
import KeyMaster.LineFraming
import KeyMaster.ScdShim.Framing
import KeyMaster.ScdShim.SignRequests

namespace KeyMaster.ScdShim

open Data Assuan

/-! What gpg-agent hears from the shim, from its greeting to its last answer. -/

/-! ### The program -/

/-- The fields of an identity, as `serde` reads them from an object or an array. -/
def RawIdentity.fromValue : Value → Option RawIdentity
  | .array [.string keyType, .string publicKey, .string label] => some ⟨keyType, publicKey, label⟩
  | .object members => do
      let field := fun name => ((Value.object members).get name).bind Value.asStr
      return ⟨← field "key_type", ← field "public_key", ← field "label"⟩
  | _ => none

inductive StartError where
  | request (error : ClientError)
  | missingIdentities
  | parseIdentities (error : OneLine)

def StartError.text : StartError → String
  | .request error => error.text
  | .missingIdentities => "missing 'identities' in response"
  | .parseIdentities error => "parse identities: " ++ error.text

/-- What the shim finds when it runs. -/
structure Surroundings where
  /-- The outcome of `GpgSaClient::connect`. -/
  connection : Except String Unit
  identitiesIo : RequestIo
  /-- `serde_json`'s error for what is no list of identities. -/
  parseError : Value → OneLine
  /-- How the request of a PKSIGN on the line at this position ends. -/
  io : Nat → RequestIo
  pid : UInt32

variable (codecs : Codecs) (surroundings : Surroundings)

def identitiesOf (payload : Value) : Except StartError (List RawIdentity) :=
  match payload.get "identities" with
  | none => .error .missingIdentities
  | some value =>
      match value.asArray.bind fun items => items.mapM RawIdentity.fromValue with
      | none => .error (.parseIdentities (surroundings.parseError value))
      | some raw => .ok raw

def requestIdentities (client : GpgSaClient) : Except StartError (List RawIdentity) × GpgSaClient :=
  let (payload, after) :=
    client.request codecs "gpg.request_identities" (jsonObject []) surroundings.identitiesIo
  ((payload.mapError .request).bind (identitiesOf surroundings), after)

/-- A line of `BufRead::lines`, from the bytes that `read_line` takes. -/
def withoutLineEnd (text : List Char) : List Char :=
  if text.getLast? = some '\n' then
    if text.dropLast.getLast? = some '\r' then text.dropLast.dropLast else text.dropLast
  else text

/-- The lines of the standard input, up to one that is not UTF-8. -/
def inputLines (stdin : List UInt8) : List (List Char) :=
  if _empty : stdin = [] then []
  else
    match Utf8.decode (LineFraming.readUntil stdin).1 with
    | none => []
    | some text => withoutLineEnd text :: inputLines (LineFraming.readUntil stdin).2
termination_by stdin.length
decreasing_by
  rw [LineFraming.readUntil, List.span_eq_takeWhile_dropWhile]
  cases stdin with
  | nil => exact absurd rfl _empty
  | cons byte rest =>
      have shorter := (List.dropWhile_suffix (l := rest) fun byte => decide (byte ≠ 0x0A)).length_le
      rw [List.length_drop, List.dropWhile_cons, List.length_cons]
      split
      · omega
      · rw [List.length_cons]
        omega

variable {codecs}

/-- What the command loop writes, from the line at this position on. -/
def serve (io : Nat → RequestIo) : ScdState codecs → Nat → List (List Char) → List UInt8
  | _, _, [] => []
  | state, position, line :: rest =>
      match (handleLine state line (io position)).flow with
      | .continues after =>
          (handleLine state line (io position)).out ++ serve io after (position + 1) rest
      | .exits | .panics => (handleLine state line (io position)).out

variable (codecs)

/-- `main`: what is written to the standard output. -/
def main (stdin : List UInt8) : List UInt8 :=
  match surroundings.connection with
  | .error message => sendErr 2 ("Cannot connect to km-gpg-sa: " ++ message)
  | .ok () =>
      match requestIdentities codecs surroundings .connect with
      | (.error error, _) => sendErr 2 ("Cannot fetch identities: " ++ error.text)
      | (.ok raw, client) =>
          sendOk "scd-shim ready" ++
            serve surroundings.io (.start codecs raw client surroundings.pid) 0 (inputLines stdin)

/-! ### Answers -/

def errAnswer (code : Nat) (msg : String) : Answer := ⟨[], .err code msg⟩

def okAnswer : Answer := ⟨[], .ok ""⟩

def dataAnswer (bytes : List UInt8) : Answer := ⟨[.data bytes], .ok ""⟩

def statusAnswer (statuses : List (String × String)) : Answer :=
  ⟨statuses.map fun status => .status status.1 status.2, .ok ""⟩

section

variable {codecs : Codecs} (state : ScdState codecs) (args : List Char) (io : RequestIo)

def serialnoAnswer : Answer :=
  match afterFirst "--demand=".toList args with
  | none => statusAnswer [("SERIALNO", serial)]
  | some demand =>
      let demandSerial := demand.takeWhile fun char => (hexValue char).isSome
      let stripZeros := fun text : List Char => (text.reverse.dropWhile (· = '0')).reverse
      if stripZeros serial.toList = stripZeros demandSerial then statusAnswer [("SERIALNO", serial)]
      else errAnswer 67 "Card not present"

def learnAnswer : Answer :=
  statusAnswer ([("SERIALNO", serial), ("APPTYPE", "OPENPGP")] ++
    state.identities.map fun id => ("KEYPAIRINFO", id.keygrip ++ " " ++ id.keyref))

def readkeyAnswer : Answer :=
  match namedIdentity state args with
  | some id => dataAnswer (publicKeySexp id.publicKey.toList)
  | none => errAnswer 69 "No such key"

def setdataAnswer : Option Answer :=
  match hexDecode (withoutWhiteSpace args) with
  | .decoded _ => some okAnswer
  | .invalid message => some (errAnswer 62 ("Invalid hex data: " ++ message))
  | .panicked => none

def pksignAnswer : Answer :=
  match pksignRequest state args with
  | .error (code, msg) => errAnswer code msg
  | .ok (id, data) =>
      match (state.client.sign codecs id.index id.publicKey.toList data io).1 with
      | .ok sig => if sig.length = 64 then dataAnswer sig else errAnswer 2 "Invalid signature length"
      | .error error => errAnswer 2 ("Sign error: " ++ error.text)

def keyinfoAnswer : Answer :=
  statusAnswer (state.identities.map fun id =>
    ("KEYINFO", id.keygrip ++ " T " ++ serial ++ " " ++ id.keyref ++ " - - - -"))

def getattrAnswer : Answer := statusAnswer (attributeStatus state (String.ofList (trim args)))

def getinfoAnswer : Answer :=
  let what := String.ofList (trim args)
  if what = "socket_name" then errAnswer 69 "Not a socket-based daemon"
  else if what = "version" then dataAnswer (textBytes "0.1.0")
  else if what = "pid" then dataAnswer (textBytes (toString state.pid.toNat))
  else okAnswer

/-- The answer to a command, unless decoding its argument panics. -/
def answerTo (name : CommandName) : Option Answer :=
  match name with
  | .serialno => some (serialnoAnswer args)
  | .learn => some (learnAnswer state)
  | .readkey => some (readkeyAnswer state args)
  | .setdata => setdataAnswer args
  | .pksign => some (pksignAnswer state args io)
  | .keyinfo => some (keyinfoAnswer state)
  | .getattr => some (getattrAnswer state args)
  | .getinfo => some (getinfoAnswer state args)
  | .readcert => some (errAnswer 69 "Not supported")
  | .bye => some ⟨[], .ok "closing connection"⟩
  | .restart | .reset | .nop | .option | .unknown => some okAnswer

def lineAnswer (line : List Char) : Option Answer :=
  if trim line = [] then none else answerTo state (command line).2 io (command line).1

end

variable {codecs}

/-- The answers of the command loop, from the line at this position on. -/
def answers (io : Nat → RequestIo) : ScdState codecs → Nat → List (List Char) → List Answer
  | _, _, [] => []
  | state, position, line :: rest =>
      match (handleLine state line (io position)).flow with
      | .continues after =>
          (lineAnswer state (io position) line).toList ++ answers io after (position + 1) rest
      | .exits | .panics => (lineAnswer state (io position) line).toList

variable (codecs)

/-- A greeting and the answers to the commands, or why there are none. -/
def transcript (stdin : List UInt8) : List Answer :=
  match surroundings.connection with
  | .error message => [errAnswer 2 ("Cannot connect to km-gpg-sa: " ++ message)]
  | .ok () =>
      match requestIdentities codecs surroundings .connect with
      | (.error error, _) => [errAnswer 2 ("Cannot fetch identities: " ++ error.text)]
      | (.ok raw, client) =>
          ⟨[], .ok "scd-shim ready"⟩ ::
            answers surroundings.io (.start codecs raw client surroundings.pid) 0 (inputLines stdin)

variable {codecs}

/-! ### What is written for an answer -/

def writeLine : Line → List UInt8
  | .status keyword value => sendStatus keyword value
  | .data bytes => sendData bytes

def writeEnding : Ending → List UInt8
  | .ok comment => sendOk comment
  | .err code description => sendErr code description

def writeAnswer (answer : Answer) : List UInt8 :=
  answer.lines.flatMap writeLine ++ writeEnding answer.ending

section Writers

variable {rest : List UInt8} {answer : Answer}

theorem lineFeed_not_mem {text : String} (oneLine : '\n' ∉ text.toList) :
    Assuan.lineFeed ∉ textBytes text :=
  fun member => oneLine (lineFeed_mem_textBytes.mp member)

theorem textLine_append (text : String) (rest : List UInt8) :
    textBytes (text ++ "\n") ++ rest = textBytes text ++ Assuan.lineFeed :: rest := by
  rw [textBytes_append, textBytes_lineFeed, List.append_assoc]
  rfl

theorem readLine_sendErr (code : Nat) (msg : String) :
    readLine (textBytes ("ERR " ++ toString code ++ " " ++ msg)) = some (.inr (.err code msg)) := by
  have split : textBytes ("ERR " ++ toString code ++ " " ++ msg) =
      0x45 :: 0x52 :: 0x52 :: Assuan.space :: Decimal.encode code ++
        Assuan.space :: Utf8.encode msg.toList := by
    rw [textBytes_append, textBytes_append, textBytes_append, List.append_assoc, List.append_assoc,
      ← encode_toString]
    rfl
  rw [split]
  exact readLine_err code msg

theorem readLine_sendStatus {keyword : String} (oneWord : ' ' ∉ keyword.toList) (value : String) :
    readLine (textBytes ("S " ++ keyword ++ " " ++ value)) = some (.inl (.status keyword value)) := by
  have split : textBytes ("S " ++ keyword ++ " " ++ value) =
      0x53 :: Assuan.space :: Utf8.encode keyword.toList ++
        Assuan.space :: Utf8.encode value.toList := by
    rw [textBytes_append, textBytes_append, textBytes_append, List.append_assoc, List.append_assoc]
    rfl
  rw [split]
  exact readLine_status oneWord value

theorem readAnswer_writeEnding {ending : Ending} (valid : ending.Valid) (rest : List UInt8) :
    readAnswer (writeEnding ending ++ rest) = some (⟨[], ending⟩, rest) := by
  cases ending with
  | ok comment =>
      simp only [writeEnding, sendOk]
      split
      · rename_i empty
        have oneLine : Assuan.lineFeed ∉ ([0x4F, 0x4B] : List UInt8) := by decide
        rw [empty]
        exact readAnswer_ending oneLine readLine_ok
      · have oneLine : '\n' ∉ ("OK " ++ comment).toList := by
          rw [String.toList_append, List.mem_append, not_or]
          exact ⟨by decide, valid⟩
        rw [textLine_append]
        refine readAnswer_ending (lineFeed_not_mem oneLine) ?_
        rw [textBytes_append]
        exact readLine_okComment comment
  | err code description =>
      have number := newline_not_mem_toString code
      have oneLine : '\n' ∉ ("ERR " ++ toString code ++ " " ++ description).toList := by
        simp only [String.toList_append, List.mem_append, not_or]
        exact ⟨⟨⟨by decide, number⟩, by decide⟩, valid⟩
      rw [writeEnding, sendErr, textLine_append]
      exact readAnswer_ending (lineFeed_not_mem oneLine) (readLine_sendErr code description)

theorem readAnswer_writeLine {line : Line} (valid : line.Valid) {last : List UInt8}
    (later : readAnswer rest = some (answer, last)) :
    readAnswer (writeLine line ++ rest) = some (⟨line :: answer.lines, answer.ending⟩, last) := by
  cases line with
  | status keyword value =>
      obtain ⟨oneWord, keywordLine, valueLine⟩ := valid
      have oneLine : '\n' ∉ ("S " ++ keyword ++ " " ++ value).toList := by
        simp only [String.toList_append, List.mem_append, not_or]
        exact ⟨⟨⟨by decide, keywordLine⟩, by decide⟩, valueLine⟩
      rw [writeLine, sendStatus, textLine_append]
      exact readAnswer_line (lineFeed_not_mem oneLine) (readLine_sendStatus oneWord value) later
  | data bytes =>
      have oneLine : Assuan.lineFeed ∉ textBytes "D " ++ bytes.flatMap escapeByte := by
        rw [List.mem_append, not_or]
        refine ⟨by decide, ?_⟩
        rw [List.mem_flatMap]
        rintro ⟨byte, _, member⟩
        exact (unbroken_escapeByte byte).2 member
      rw [writeLine, sendData, List.append_assoc, List.singleton_append]
      exact readAnswer_line oneLine (readLine_data (decode_escape bytes)) later

/-- What is written for an answer is read back as it. -/
theorem readAnswer_writeAnswer (valid : answer.Valid) (rest : List UInt8) :
    readAnswer (writeAnswer answer ++ rest) = some (answer, rest) := by
  obtain ⟨lines, ending⟩ := answer
  obtain ⟨validLines, validEnding⟩ := valid
  rw [writeAnswer, List.append_assoc]
  induction lines with
  | nil => exact readAnswer_writeEnding validEnding rest
  | cons line lines ih =>
      rw [List.forall_mem_cons] at validLines
      rw [List.flatMap_cons, List.append_assoc]
      exact readAnswer_writeLine validLines.1 (ih validLines.2 validEnding)

end Writers

/-! ### What the handlers write -/

section Handlers

variable {state : ScdState codecs} {args line : List Char} {io : RequestIo} {answer : Answer}

theorem writeAnswer_errAnswer (code : Nat) (msg : String) :
    writeAnswer (errAnswer code msg) = sendErr code msg := List.nil_append _

theorem writeAnswer_dataAnswer (bytes : List UInt8) :
    writeAnswer (dataAnswer bytes) = sendData bytes ++ sendOk "" := by
  rw [writeAnswer, dataAnswer, List.flatMap_singleton]
  rfl

theorem writeAnswer_statusAnswer (statuses : List (String × String)) :
    writeAnswer (statusAnswer statuses) =
      statuses.flatMap (fun status => sendStatus status.1 status.2) ++ sendOk "" := by
  rw [writeAnswer, statusAnswer, List.flatMap_map]
  rfl

theorem handleSerialno_eq : handleSerialno args = writeAnswer (serialnoAnswer args) := by
  unfold handleSerialno serialnoAnswer
  cases afterFirst "--demand=".toList args with
  | none => rfl
  | some demand =>
      dsimp only
      split
      · rfl
      · rw [writeAnswer_errAnswer]

theorem handleLearn_write : handleLearn state = writeAnswer (learnAnswer state) := by
  rw [learnAnswer, writeAnswer_statusAnswer, handleLearn, List.flatMap_append, List.flatMap_map]
  rfl

theorem handleReadkey_write : handleReadkey state args = writeAnswer (readkeyAnswer state args) := by
  unfold readkeyAnswer
  rw [show handleReadkey state args = match namedIdentity state args with
    | some id => sendData (publicKeySexp id.publicKey.toList) ++ sendOk ""
    | none => sendErr 69 "No such key" from rfl]
  cases namedIdentity state args with
  | none => rw [writeAnswer_errAnswer]
  | some id => rw [writeAnswer_dataAnswer]

theorem handleSetdata_write :
    (handleSetdata state args).map Prod.snd = (setdataAnswer args).map writeAnswer := by
  unfold handleSetdata setdataAnswer
  cases hexDecode (withoutWhiteSpace args) with
  | decoded data => rfl
  | invalid message => rw [Option.map_some, Option.map_some, writeAnswer_errAnswer]
  | panicked => rfl

theorem handlePksign_write : (handlePksign state args io).2 = writeAnswer (pksignAnswer state args io) := by
  unfold pksignAnswer
  cases requested : pksignRequest state args with
  | error failure => rw [handlePksign_refused requested, writeAnswer_errAnswer]
  | ok request =>
      obtain ⟨id, data⟩ := request
      dsimp only
      cases signed : (state.client.sign codecs id.index id.publicKey.toList data io).1 with
      | ok sig =>
          by_cases length : sig.length = 64
          · simp only [handlePksign_signed requested signed length, if_pos length, writeAnswer_dataAnswer]
          · simp only [handlePksign_wrongLength requested signed length, if_neg length,
              writeAnswer_errAnswer]
      | error error => rw [handlePksign_failed requested signed, writeAnswer_errAnswer]

theorem handleKeyinfo_write : handleKeyinfo state = writeAnswer (keyinfoAnswer state) := by
  rw [keyinfoAnswer, writeAnswer_statusAnswer, List.flatMap_map]
  rfl

theorem handleGetattr_write : handleGetattr state args = writeAnswer (getattrAnswer state args) := by
  rw [getattrAnswer, writeAnswer_statusAnswer]
  rfl

/-- The digits of a number stand for themselves. -/
theorem escape_toString (number : Nat) :
    (textBytes (toString number)).flatMap escapeByte = textBytes (toString number) := by
  rw [textBytes, encode_toString]
  have digits : ∀ byte ∈ Decimal.encode number, escapeByte byte = [byte] := by
    intro byte member
    have isDigit := of_decide_eq_true (Decimal.isDigit_of_mem_encode member)
    rcases escapeByte_cases byte with ⟨rfl, _⟩ | ⟨rfl, _⟩ | ⟨rfl, _⟩ | ⟨_, _, _, same⟩
    · exact absurd isDigit (by decide)
    · exact absurd isDigit (by decide)
    · exact absurd isDigit (by decide)
    · exact same
  rw [List.flatMap_congr digits, List.flatMap_singleton']

theorem handleGetinfo_write : handleGetinfo state args = writeAnswer (getinfoAnswer state args) := by
  unfold handleGetinfo getinfoAnswer
  dsimp only
  split
  · rw [writeAnswer_errAnswer]
  split
  · rw [writeAnswer_dataAnswer]
  split
  · rw [writeAnswer_dataAnswer, sendData, escape_toString, textBytes_append, textBytes_append,
      textBytes_lineFeed]
  · rfl

theorem execute_write (name : CommandName) :
    (execute state name args io).out = (answerTo state args io name).elim [] writeAnswer := by
  cases name with
  | serialno => exact handleSerialno_eq
  | learn => exact handleLearn_write
  | readkey => exact handleReadkey_write
  | setdata =>
      have written : (handleSetdata state args).map Prod.snd = (setdataAnswer args).map writeAnswer :=
        handleSetdata_write
      rw [answerTo]
      cases answered : handleSetdata state args with
      | none =>
          rw [answered, Option.map_none, eq_comm, Option.map_eq_none_iff] at written
          simp only [execute, answered, written, Option.elim_none]
      | some result =>
          rw [answered, Option.map_some, eq_comm, Option.map_eq_some_iff] at written
          obtain ⟨answer, isAnswer, same⟩ := written
          simp only [execute, answered, isAnswer, Option.elim_some, same]
  | pksign => exact handlePksign_write
  | keyinfo => exact handleKeyinfo_write
  | getattr => exact handleGetattr_write
  | getinfo => exact handleGetinfo_write
  | readcert => rw [answerTo, Option.elim_some, writeAnswer_errAnswer, execute]
  | bye | restart | reset | nop | option | unknown => rfl

theorem handleLine_write :
    (handleLine state line io).out = (lineAnswer state io line).toList.flatMap writeAnswer := by
  rw [handleLine, lineAnswer]
  split
  · rfl
  · rw [execute_write]
    cases answerTo state (command line).2 io (command line).1 with
    | none => rfl
    | some answer => simp

/-! ### Answers that fit on lines -/

theorem errAnswer_valid {code : Nat} {msg : String} (oneLine : '\n' ∉ msg.toList) :
    (errAnswer code msg).Valid := ⟨by simp [errAnswer], oneLine⟩

theorem ok_valid : (Ending.ok "").Valid := by decide

theorem okAnswer_valid : okAnswer.Valid := ⟨by simp [okAnswer], ok_valid⟩

theorem dataAnswer_valid (bytes : List UInt8) : (dataAnswer bytes).Valid where
  lines := by simp [dataAnswer, Line.Valid]
  ending := ok_valid

theorem statusAnswer_valid {statuses : List (String × String)}
    (valid : ∀ status ∈ statuses, (Line.status status.1 status.2).Valid) :
    (statusAnswer statuses).Valid where
  lines := by
    intro line member
    obtain ⟨status, inStatuses, rfl⟩ := List.mem_map.mp member
    exact valid status inStatuses
  ending := ok_valid

theorem status_valid (keyword : String) (oneWord : ' ' ∉ keyword.toList ∧ '\n' ∉ keyword.toList)
    {value : String} (oneLine : '\n' ∉ value.toList) : (Line.status keyword value).Valid :=
  ⟨oneWord.1, oneWord.2, oneLine⟩

theorem serialno_valid : (Line.status "SERIALNO" serial).Valid := by decide

theorem serialnoAnswer_valid : (serialnoAnswer args).Valid := by
  have found : (statusAnswer [("SERIALNO", serial)]).Valid :=
    statusAnswer_valid (by simpa using serialno_valid)
  unfold serialnoAnswer
  cases afterFirst "--demand=".toList args with
  | none => exact found
  | some demand =>
      dsimp only
      split
      · exact found
      · exact errAnswer_valid (by decide)

theorem learnAnswer_valid : (learnAnswer state).Valid := by
  refine statusAnswer_valid ?_
  rw [List.forall_mem_append]
  constructor
  · simp only [List.forall_mem_cons, List.not_mem_nil, false_implies, implies_true, and_true]
    exact ⟨serialno_valid, by decide⟩
  · intro status member
    obtain ⟨id, _, rfl⟩ := List.mem_map.mp member
    have grip := newline_not_mem_keygrip id
    have ref := newline_not_mem_keyref id
    refine status_valid "KEYPAIRINFO" (by decide) ?_
    simp [grip, ref]

theorem readkeyAnswer_valid : (readkeyAnswer state args).Valid := by
  unfold readkeyAnswer
  cases namedIdentity state args with
  | none => exact errAnswer_valid (by decide)
  | some id => exact dataAnswer_valid _

theorem setdataAnswer_valid (answered : setdataAnswer args = some answer) : answer.Valid := by
  unfold setdataAnswer at answered
  cases decoded : hexDecode (withoutWhiteSpace args) with
  | decoded data =>
      rw [decoded] at answered
      cases answered
      exact okAnswer_valid
  | invalid message =>
      rw [decoded] at answered
      cases answered
      have oneLine := hexDecode_oneLine decoded
      exact errAnswer_valid (by simpa using oneLine)
  | panicked =>
      rw [decoded] at answered
      cases answered

theorem pksignAnswer_valid (sound : ¬ BrokenError codecs io) : (pksignAnswer state args io).Valid := by
  unfold pksignAnswer
  cases requested : pksignRequest state args with
  | error failure => exact errAnswer_valid (pksignRequest_oneLine requested)
  | ok request =>
      obtain ⟨id, data⟩ := request
      dsimp only
      cases signed : (state.client.sign codecs id.index id.publicKey.toList data io).1 with
      | ok sig =>
          dsimp only
          split
          · exact dataAnswer_valid sig
          · exact errAnswer_valid (by decide)
      | error error =>
          refine errAnswer_valid ?_
          rw [String.toList_append, List.mem_append, not_or]
          refine ⟨by decide, ?_⟩
          by_cases proxy : ∃ message, error = .proxyError message
          · obtain ⟨message, rfl⟩ := proxy
            obtain ⟨text, isLine, failed⟩ := sign_eq_proxyError.mp signed
            rw [newline_mem_proxyError]
            exact fun broken => sound ⟨text, message, isLine, failed, broken⟩
          · exact oneLine_text fun message same => proxy ⟨message, same⟩

theorem keyinfoAnswer_valid : (keyinfoAnswer state).Valid := by
  refine statusAnswer_valid ?_
  intro status member
  obtain ⟨id, _, rfl⟩ := List.mem_map.mp member
  have grip := newline_not_mem_keygrip id
  have ref := newline_not_mem_keyref id
  refine status_valid "KEYINFO" (by decide) ?_
  simp [grip, ref, serial]

theorem attributeStatus_valid (attr : String) :
    ∀ status ∈ attributeStatus state attr, (Line.status status.1 status.2).Valid := by
  intro status member
  unfold attributeStatus at member
  split_ifs at member
  · exact List.mem_singleton.mp member ▸ serialno_valid
  · rw [List.mem_singleton.mp member]
    decide
  · obtain ⟨id, _, rfl⟩ := List.mem_map.mp member
    have ref := newline_not_mem_keyref id
    refine status_valid "KEY-ATTR" (by decide) ?_
    simp [ref]
  · rw [Option.mem_toList, Option.map_eq_some_iff] at member
    obtain ⟨id, _, rfl⟩ := member
    exact status_valid "AUTHKEYID" (by decide) (newline_not_mem_keyref id)
  · rw [List.mem_singleton.mp member]
    decide
  · rw [List.mem_singleton.mp member]
    decide
  · cases member

theorem getinfoAnswer_valid : (getinfoAnswer state args).Valid := by
  unfold getinfoAnswer
  dsimp only
  split_ifs
  · exact errAnswer_valid (by decide)
  · exact dataAnswer_valid _
  · exact dataAnswer_valid _
  · exact okAnswer_valid

theorem answerTo_valid (sound : ¬ BrokenError codecs io) {name : CommandName}
    (answered : answerTo state args io name = some answer) : answer.Valid := by
  cases name with
  | setdata => exact setdataAnswer_valid answered
  | serialno => exact Option.some.inj answered ▸ serialnoAnswer_valid
  | learn => exact Option.some.inj answered ▸ learnAnswer_valid
  | readkey => exact Option.some.inj answered ▸ readkeyAnswer_valid
  | pksign => exact Option.some.inj answered ▸ pksignAnswer_valid sound
  | keyinfo => exact Option.some.inj answered ▸ keyinfoAnswer_valid
  | getattr => exact Option.some.inj answered ▸ statusAnswer_valid (attributeStatus_valid _)
  | getinfo => exact Option.some.inj answered ▸ getinfoAnswer_valid
  | readcert => exact Option.some.inj answered ▸ errAnswer_valid (by decide)
  | bye => exact Option.some.inj answered ▸ ⟨by simp, by decide⟩
  | restart | reset | nop | option | unknown => exact Option.some.inj answered ▸ okAnswer_valid

theorem lineAnswer_valid (sound : ¬ BrokenError codecs io) :
    ∀ answer ∈ (lineAnswer state io line).toList, answer.Valid := by
  intro answer member
  rw [Option.mem_toList, lineAnswer] at member
  split at member
  · cases member
  · exact answerTo_valid sound member

end Handlers

/-! ### Transcripts -/

/-- No error that the shim reports has a line break. -/
structure Surroundings.Sound (codecs : Codecs) (surroundings : Surroundings) : Prop where
  connection : ∀ message, surroundings.connection = .error message → '\n' ∉ message.toList
  identitiesIo : ¬ BrokenError codecs surroundings.identitiesIo
  io : ∀ position, ¬ BrokenError codecs (surroundings.io position)

def Surroundings.Starts (codecs : Codecs) (surroundings : Surroundings) : Prop :=
  surroundings.connection = .ok () ∧
    ∃ raw, (requestIdentities codecs surroundings .connect).1 = .ok raw

/-- The commands through the first BYE. -/
def throughBye : List (List Char) → List (List Char)
  | [] => []
  | line :: rest => if (command line).1 = .bye then [line] else line :: throughBye rest

section Transcripts

variable {surroundings : Surroundings} {line : List Char} {io : Nat → RequestIo}
  {state : ScdState codecs} {position : Nat} {lines : List (List Char)}

theorem requestError_oneLine {io : RequestIo} {error : ClientError} (sound : ¬ BrokenError codecs io)
    (failed : io.result codecs = .error error) : '\n' ∉ error.text.toList := by
  by_cases proxy : ∃ message, error = .proxyError message
  · obtain ⟨message, rfl⟩ := proxy
    rw [newline_mem_proxyError]
    intro broken
    cases io with
    | line text => exact sound ⟨text, message, rfl, failed, broken⟩
    | writeFailed | flushFailed | readFailed => cases failed
  · exact oneLine_text fun message same => proxy ⟨message, same⟩

theorem startError_oneLine {error : StartError} (sound : surroundings.Sound codecs)
    (failed : (requestIdentities codecs surroundings .connect).1 = .error error) :
    '\n' ∉ error.text.toList := by
  cases error with
  | missingIdentities => decide
  | parseIdentities error =>
      unfold StartError.text
      rw [String.toList_append, List.mem_append, not_or]
      exact ⟨by decide, error.oneLine⟩
  | request error =>
      cases result : surroundings.identitiesIo.result codecs with
      | error other =>
          simp only [requestIdentities, GpgSaClient.request, result, Except.mapError, Except.bind,
            Except.error.injEq, StartError.request.injEq] at failed
          exact failed ▸ requestError_oneLine sound.identitiesIo result
      | ok payload =>
          simp only [requestIdentities, GpgSaClient.request, result, Except.mapError, Except.bind,
            identitiesOf] at failed
          split at failed
          · cases failed
          · split at failed <;> cases failed

theorem serve_write (io : Nat → RequestIo) (state : ScdState codecs) (position : Nat)
    (lines : List (List Char)) :
    serve io state position lines = (answers io state position lines).flatMap writeAnswer := by
  induction lines generalizing state position with
  | nil => rfl
  | cons line rest ih =>
      rw [serve, answers]
      cases (handleLine state line (io position)).flow with
      | continues after => simp only [handleLine_write, ih, List.flatMap_append]
      | exits | panics => exact handleLine_write

theorem answers_valid (sound : ∀ position, ¬ BrokenError codecs (io position)) :
    ∀ answer ∈ answers io state position lines, answer.Valid := by
  induction lines generalizing state position with
  | nil => simp [answers]
  | cons line rest ih =>
      rw [answers]
      cases (handleLine state line (io position)).flow with
      | continues after =>
          exact List.forall_mem_append.mpr ⟨lineAnswer_valid (sound position), ih⟩
      | exits | panics => exact lineAnswer_valid (sound position)

theorem main_write (stdin : List UInt8) :
    main codecs surroundings stdin = (transcript codecs surroundings stdin).flatMap writeAnswer := by
  unfold main transcript
  cases surroundings.connection with
  | error message => simp [writeAnswer_errAnswer]
  | ok connected =>
      obtain ⟨found, client⟩ := requestIdentities codecs surroundings .connect
      cases found with
      | error error => simp [writeAnswer_errAnswer]
      | ok raw =>
          simp only [serve_write, List.flatMap_cons]
          rfl

theorem transcript_valid (sound : surroundings.Sound codecs) (stdin : List UInt8) :
    ∀ answer ∈ transcript codecs surroundings stdin, answer.Valid := by
  unfold transcript
  cases connected : surroundings.connection with
  | error message =>
      have oneLine := sound.connection message connected
      rw [List.forall_mem_singleton]
      exact errAnswer_valid (by simpa using oneLine)
  | ok connected =>
      cases started : requestIdentities codecs surroundings .connect with
      | mk found client =>
          cases found with
          | error error =>
              have oneLine := startError_oneLine sound (congrArg Prod.fst started)
              rw [List.forall_mem_singleton]
              exact errAnswer_valid (by simpa using oneLine)
          | ok raw =>
              exact List.forall_mem_cons.mpr ⟨⟨by simp, by decide⟩, answers_valid sound.io⟩

/-! ### The lines of the input -/

theorem withoutLineEnd_concat (noReturn : line.getLast? ≠ some '\r') :
    withoutLineEnd (line ++ ['\n']) = line := by
  rw [withoutLineEnd, if_pos List.getLast?_concat, List.dropLast_concat, if_neg noReturn]

theorem inputLines_commands {commands : List (List Char)}
    (plain : ∀ command ∈ commands, '\n' ∉ command ∧ command.getLast? ≠ some '\r') :
    inputLines (commands.flatMap fun command => Utf8.encode command ++ [lineFeed]) = commands := by
  induction commands with
  | nil => rw [List.flatMap_nil, inputLines, dif_pos rfl]
  | cons command rest ih =>
      rw [List.forall_mem_cons] at plain
      have absent : 0x0A ∉ Utf8.encode command := by
        rw [Utf8.mem_encode_iff (show (0x0A : UInt8).toNat = '\n'.toNat from rfl) (by decide)]
        exact plain.1.1
      have encoded : Utf8.encode command ++ [0x0A] = Utf8.encode (command ++ ['\n']) := by
        rw [Utf8.encode_append]
        rfl
      rw [List.flatMap_cons, inputLines, dif_neg (by simp), lineFeed, LineFraming.readUntil_line absent,
        encoded, Utf8.decode_encode]
      simp only [withoutLineEnd_concat plain.1.2]
      exact congrArg (command :: ·) (ih plain.2)

/-! ### One answer for each command -/

/-- A line that cuts no character ends the loop exactly if it is BYE. -/
theorem flow_handleLine (whole : ¬ CutsCharacter line) (state : ScdState codecs) (io : RequestIo) :
    (command line).1 = .bye ∧ (handleLine state line io).flow = .exits ∨
      (command line).1 ≠ .bye ∧ ∃ after, (handleLine state line io).flow = .continues after := by
  rw [handleLine]
  split
  · rename_i empty
    refine .inr ⟨?_, state, rfl⟩
    rw [command_of_empty empty]
    decide
  · cases name : (command line).1 with
    | bye => exact .inl ⟨rfl, rfl⟩
    | setdata =>
        refine .inr ⟨by decide, ?_⟩
        rw [execute, handleSetdata]
        cases decoded : hexDecode (withoutWhiteSpace (command line).2) with
        | decoded data => exact ⟨_, rfl⟩
        | invalid message => exact ⟨_, rfl⟩
        | panicked => exact absurd ⟨name, decoded⟩ whole
    | pksign => exact .inr ⟨by decide, _, rfl⟩
    | serialno | learn | readkey | keyinfo | getattr | getinfo | readcert | restart | reset | nop
    | option | unknown => exact .inr ⟨by decide, _, rfl⟩

theorem length_lineAnswer (whole : ¬ CutsCharacter line) (state : ScdState codecs) (io : RequestIo) :
    (lineAnswer state io line).toList.length = if trim line = [] then 0 else 1 := by
  rw [lineAnswer]
  split
  · rfl
  · cases name : (command line).1 with
    | setdata =>
        rw [answerTo, setdataAnswer]
        cases decoded : hexDecode (withoutWhiteSpace (command line).2) with
        | decoded data => rfl
        | invalid message => rfl
        | panicked => exact absurd ⟨name, decoded⟩ whole
    | serialno | learn | readkey | pksign | keyinfo | getattr | getinfo | readcert | bye | restart
    | reset | nop | option | unknown => rfl

theorem length_answers (whole : ∀ line ∈ lines, ¬ CutsCharacter line) (io : Nat → RequestIo)
    (state : ScdState codecs) (position : Nat) :
    (answers io state position lines).length = (throughBye lines).countP (trim · ≠ []) := by
  induction lines generalizing state position with
  | nil => rfl
  | cons line rest ih =>
      rw [List.forall_mem_cons] at whole
      have own := length_lineAnswer whole.1 state (io position)
      rw [answers, throughBye]
      rcases flow_handleLine whole.1 state (io position) with ⟨isBye, exits⟩ | ⟨other, after, goesOn⟩
      · rw [exits, if_pos isBye, own]
        simp [List.countP_cons]
      · simp only [goesOn, if_neg other, List.length_append, own, ih whole.2, List.countP_cons]
        simp [Nat.add_comm]

end Transcripts

namespace Sample

open Transparent

def oneIdentity : Value :=
  .object [("id", .number (.posInt 1)), ("jsonrpc", .string "2.0"), ("result",
    .object [("identities", .array [.object [("key_type", .string "ed25519"), ("label", .string "laptop"),
      ("public_key", .string (String.ofList (toBase64 (List.replicate 32 7))))]])])]

def identityCodecs : Codecs := simpleCodecs [(oneIdentity.toJson, oneIdentity)]

/-- A proxy with one key, which breaks off at every sign request. -/
def resetProxy : Surroundings where
  connection := .ok ()
  identitiesIo := .line (oneIdentity.toJson ++ "\n")
  parseError _ := ⟨"invalid type", by decide⟩
  io _ := .readFailed ⟨"Connection reset by peer (os error 104)", by decide⟩
  pid := 42

theorem read_oneIdentity : readResponse identityCodecs (oneIdentity.toJson ++ "\n") =
    .ok ((oneIdentity.normalize.get "result").getD .null) := by
  have trimmed : String.ofList (trimEnd (oneIdentity.toJson ++ "\n").toList) = oneIdentity.toJson :=
    (congrArg String.ofList (trimEnd_toJson _)).trans String.ofList_toList
  have parsed : identityCodecs.parseJson oneIdentity.toJson = .ok oneIdentity := by
    simp [identityCodecs, simpleCodecs, List.lookup_cons_self]
  rw [readResponse, trimmed, parsed]
  rfl

theorem resetProxy_sound : resetProxy.Sound identityCodecs where
  connection := by
    intro message refused
    cases refused
  identitiesIo := by
    rintro ⟨text, message, isLine, failed, _⟩
    cases isLine
    rw [read_oneIdentity] at failed
    cases failed
  io := by
    rintro position ⟨text, message, isLine, _⟩
    cases isLine

def signCommands : List (List Char) := ["SETDATA 0102".toList, [], "PKSIGN OPENPGP.1".toList, "BYE".toList]

end Sample

end KeyMaster.ScdShim
