import KeyMaster.Data.Percent
import KeyMaster.ScdShim.Commands
import Mathlib.Tactic.IntervalCases

namespace KeyMaster.ScdShim

open Data

/-! The line framing of the shim's answers. -/

def StartsWith (start : String) (line : List UInt8) : Prop := textBytes start <+: line

/-- Lines that end in a line feed: status and data lines, and one last line
that begins with `OK` or `ERR`. -/
inductive Framed : List UInt8 → Prop
  | last {line : List UInt8} (oneLine : lineFeed ∉ line)
      (terminal : StartsWith "OK" line ∨ StartsWith "ERR" line) : Framed (line ++ [lineFeed])
  | cons {line rest : List UInt8} (oneLine : lineFeed ∉ line)
      (inner : StartsWith "S " line ∨ StartsWith "D " line) (framed : Framed rest) :
      Framed (line ++ lineFeed :: rest)

/-! ### Writers -/

@[simp] theorem textBytes_append (first second : String) :
    textBytes (first ++ second) = textBytes first ++ textBytes second := by
  rw [textBytes, String.toList_append, Utf8.encode_append, textBytes, textBytes]

@[simp] theorem lineFeed_mem_textBytes {text : String} :
    lineFeed ∈ textBytes text ↔ '\n' ∈ text.toList :=
  Utf8.mem_encode_iff rfl (by decide)

theorem not_framed_nil : ¬ Framed [] := by
  intro framed
  generalize none : ([] : List UInt8) = bytes at framed
  cases framed <;> simp at none

theorem textBytes_lineFeed : textBytes "\n" = [lineFeed] := by decide

theorem newline_not_mem_toString (value : Nat) : '\n' ∉ (toString value).toList := by
  rw [Nat.toString_eq_repr, Nat.toList_repr]
  intro member
  exact absurd (Nat.isDigit_of_mem_toDigits (by decide) (by decide) member) (by decide)

theorem Framed.text {start text : String} {rest : List UInt8} (oneLine : '\n' ∉ (start ++ text).toList)
    (inner : start = "S " ∨ start = "D ") (framed : Framed rest) :
    Framed (textBytes (start ++ text ++ "\n") ++ rest) := by
  rw [textBytes_append, textBytes_lineFeed, List.append_assoc, List.singleton_append]
  refine .cons (by simpa using oneLine) ?_ framed
  rw [textBytes_append]
  rcases inner with rfl | rfl
  · exact .inl (List.prefix_append _ _)
  · exact .inr (List.prefix_append _ _)

theorem framed_last {start text : String} (oneLine : '\n' ∉ (start ++ text).toList)
    (terminal : start = "OK" ∨ start = "ERR") : Framed (textBytes (start ++ text ++ "\n")) := by
  rw [textBytes_append, textBytes_lineFeed]
  refine .last (by simpa using oneLine) ?_
  rw [textBytes_append]
  rcases terminal with rfl | rfl
  · exact .inl (List.prefix_append _ _)
  · exact .inr (List.prefix_append _ _)

theorem framed_sendOk (msg : String) (oneLine : '\n' ∉ msg.toList) : Framed (sendOk msg) := by
  unfold sendOk
  split
  · rw [show "OK\n" = "OK" ++ "" ++ "\n" from rfl]
    exact framed_last (by decide) (.inl rfl)
  · have split : "OK " ++ msg = "OK" ++ (" " ++ msg) := by
      rw [show "OK " = "OK" ++ " " from rfl, String.append_assoc]
    rw [split]
    exact framed_last (by simpa using oneLine) (.inl rfl)

theorem sendErr_eq (code : Nat) (msg : String) :
    sendErr code msg = textBytes ("ERR" ++ (" " ++ toString code ++ " " ++ msg) ++ "\n") := by
  simp only [sendErr, show "ERR " = "ERR" ++ " " from rfl, String.append_assoc]

theorem not_framed_of_break {line : List UInt8} (broken : lineFeed ∈ line)
    (first : line.head? = some 0x45) : ¬ Framed (line ++ [lineFeed]) := by
  intro framed
  generalize whole : line ++ [lineFeed] = bytes at framed
  cases framed with
  | last oneLine _ =>
      have same := List.append_inj_left' whole rfl
      exact oneLine (same ▸ broken)
  | cons oneLine inner _ =>
      have heads := congrArg List.head? whole
      rw [List.head?_append, first] at heads
      rcases inner with ⟨more, rfl⟩ | ⟨more, rfl⟩
      · rw [show textBytes "S " = [0x53, 0x20] by decide] at heads
        simp at heads
      · rw [show textBytes "D " = [0x44, 0x20] by decide] at heads
        simp at heads

theorem framed_sendErr (code : Nat) (msg : String) :
    Framed (sendErr code msg) ↔ '\n' ∉ msg.toList := by
  have number := newline_not_mem_toString code
  rw [sendErr_eq]
  constructor
  · intro framed broken
    rw [textBytes_append, textBytes_lineFeed] at framed
    refine not_framed_of_break ?_ ?_ framed
    · simp [broken]
    · rw [textBytes_append]
      rfl
  · intro oneLine
    refine framed_last ?_ (.inr rfl)
    simp only [String.toList_append, List.mem_append, not_or]
    exact ⟨by decide, ⟨⟨by decide, number⟩, by decide⟩, oneLine⟩

theorem Framed.status {keyword value : String} {rest : List UInt8}
    (oneLine : '\n' ∉ (keyword ++ " " ++ value).toList) (framed : Framed rest) :
    Framed (sendStatus keyword value ++ rest) := by
  have split : "S " ++ keyword ++ " " ++ value ++ "\n" = "S " ++ (keyword ++ " " ++ value) ++ "\n" := by
    simp only [String.append_assoc]
  rw [sendStatus, split]
  refine .text ?_ (.inl rfl) framed
  simpa using oneLine

theorem Framed.statuses {α : Type} {items : List α} {keyword value : α → String} {rest : List UInt8}
    (oneLine : ∀ item ∈ items, '\n' ∉ (keyword item ++ " " ++ value item).toList)
    (framed : Framed rest) :
    Framed (items.flatMap (fun item => sendStatus (keyword item) (value item)) ++ rest) := by
  induction items with
  | nil => exact framed
  | cons item items ih =>
      rw [List.flatMap_cons, List.append_assoc]
      exact .status (oneLine item List.mem_cons_self)
        (ih fun other member => oneLine other (List.mem_cons_of_mem _ member))

/-- A byte is escaped in one of three ways, or stands for itself. -/
theorem escapeByte_cases (byte : UInt8) :
    (byte = 0x25 ∧ escapeByte byte = [0x25, 0x32, 0x35]) ∨
      (byte = 0x0D ∧ escapeByte byte = [0x25, 0x30, 0x44]) ∨
      (byte = lineFeed ∧ escapeByte byte = [0x25, 0x30, 0x41]) ∨
      (byte ≠ 0x25 ∧ byte ≠ 0x0D ∧ byte ≠ lineFeed ∧ escapeByte byte = [byte]) := by
  unfold escapeByte
  split_ifs with percent carriageReturn newLine
  · exact .inl ⟨percent, by decide⟩
  · exact .inr (.inl ⟨carriageReturn, by decide⟩)
  · exact .inr (.inr (.inl ⟨newLine, by decide⟩))
  · exact .inr (.inr (.inr ⟨percent, carriageReturn, newLine, rfl⟩))

/-- An escape holds no line break. -/
theorem unbroken_escapeByte (byte : UInt8) : 0x0D ∉ escapeByte byte ∧ lineFeed ∉ escapeByte byte := by
  rcases escapeByte_cases byte with ⟨_, same⟩ | ⟨_, same⟩ | ⟨_, same⟩ | ⟨_, notReturn, notFeed, same⟩
  · rw [same]
    decide
  · rw [same]
    decide
  · rw [same]
    decide
  · rw [same, List.mem_singleton, List.mem_singleton]
    exact ⟨Ne.symm notReturn, Ne.symm notFeed⟩

theorem decode_escapeByte (byte : UInt8) (rest : List UInt8) :
    Percent.decode (escapeByte byte ++ rest) = (Percent.decode rest).map (byte :: ·) := by
  rcases escapeByte_cases byte with ⟨rfl, same⟩ | ⟨rfl, same⟩ | ⟨rfl, same⟩ | ⟨plain, _, _, same⟩
  · rw [same]
    rfl
  · rw [same]
    rfl
  · rw [same]
    rfl
  · rw [same]
    exact Percent.decode_cons_of_ne plain

theorem decode_escape (data : List UInt8) : Percent.decode (data.flatMap escapeByte) = some data := by
  induction data with
  | nil => rfl
  | cons byte rest ih => rw [List.flatMap_cons, decode_escapeByte, ih, Option.map_some]

theorem Framed.data {data rest : List UInt8} (framed : Framed rest) :
    Framed (sendData data ++ rest) := by
  rw [sendData, List.append_assoc, List.singleton_append]
  refine .cons ?_ (.inr (List.prefix_append _ _)) framed
  rw [List.mem_append, not_or]
  refine ⟨by decide, ?_⟩
  simpa using fun byte _ => (unbroken_escapeByte byte).2

/-! ### Handlers -/

variable {codecs : Codecs} {state : ScdState codecs} {args line : List Char} {io : RequestIo}

theorem framed_ok : Framed (sendOk "") := framed_sendOk "" (by decide)

theorem newline_not_mem_keyref (id : Identity codecs) : '\n' ∉ id.keyref.toList := by
  rcases id.keyref_eq with same | same <;> rw [same] <;> decide

theorem newline_not_mem_upperHex (byte : UInt8) : '\n' ∉ upperHex byte := by
  have digit : ∀ value < 16, '\n' ≠ "0123456789ABCDEF".toList.getD value '0' := by decide
  have bound := byte.toNat_lt
  simp only [upperHex, List.mem_cons, List.not_mem_nil, or_false, not_or]
  exact ⟨digit _ (by omega), digit _ (by omega)⟩

theorem newline_not_mem_keygrip (id : Identity codecs) : '\n' ∉ id.keygrip.toList := by
  rw [id.keygrip_eq, computeKeygrip, String.toList_ofList]
  simpa using fun byte _ => newline_not_mem_upperHex byte

theorem framed_handleSerialno : Framed (handleSerialno args) := by
  have found : Framed (sendStatus "SERIALNO" serial ++ sendOk "") := .status (by decide) framed_ok
  unfold handleSerialno
  cases afterFirst "--demand=".toList args with
  | none => exact found
  | some demand =>
      dsimp only
      split
      · exact found
      · exact (framed_sendErr _ _).mpr (by decide)

theorem framed_handleLearn : Framed (handleLearn state) := by
  unfold handleLearn
  rw [List.append_assoc, List.append_assoc]
  refine .status (by decide) (.status (by decide) (.statuses ?_ framed_ok))
  intro id _
  have grip := newline_not_mem_keygrip id
  have ref := newline_not_mem_keyref id
  simp [grip, ref]

theorem framed_handleReadkey : Framed (handleReadkey state args) := by
  unfold handleReadkey
  dsimp only
  split
  · exact .data framed_ok
  · exact (framed_sendErr _ _).mpr (by decide)

theorem framed_handleKeyinfo : Framed (handleKeyinfo state) := by
  refine .statuses ?_ framed_ok
  intro id _
  have grip := newline_not_mem_keygrip id
  have ref := newline_not_mem_keyref id
  simp [grip, ref, serial]

theorem attributeStatus_oneLine (attr : String) :
    ∀ status ∈ attributeStatus state attr, '\n' ∉ (status.1 ++ " " ++ status.2).toList := by
  intro status member
  unfold attributeStatus at member
  split at member
  · rw [List.mem_singleton.mp member]
    decide
  split at member
  · rw [List.mem_singleton.mp member]
    decide
  split at member
  · obtain ⟨id, _, rfl⟩ := List.mem_map.mp member
    have ref := newline_not_mem_keyref id
    simp [ref]
  split at member
  · rw [Option.mem_toList, Option.map_eq_some_iff] at member
    obtain ⟨id, _, rfl⟩ := member
    have ref := newline_not_mem_keyref id
    simp [ref]
  split at member
  · rw [List.mem_singleton.mp member]
    decide
  split at member
  · rw [List.mem_singleton.mp member]
    decide
  · cases member

theorem framed_handleGetattr : Framed (handleGetattr state args) :=
  .statuses (attributeStatus_oneLine _) framed_ok

theorem framed_handleGetinfo : Framed (handleGetinfo state args) := by
  unfold handleGetinfo
  dsimp only
  split
  · exact (framed_sendErr _ _).mpr (by decide)
  split
  · exact .data framed_ok
  split
  · have number := newline_not_mem_toString state.pid.toNat
    refine .text ?_ (.inr rfl) framed_ok
    simpa using number
  · exact framed_ok

theorem invalidDigit_oneLine (start : Nat) :
    '\n' ∉ s!"hex decode at {start}: invalid digit found in string".toList := by
  have number := newline_not_mem_toString start
  simp only [String.toList_append, List.mem_append, not_or]
  exact ⟨⟨by decide, number⟩, by decide⟩

theorem hexDecodeFrom_oneLine {start : Nat} {message : String}
    (failed : hexDecodeFrom start args = .invalid message) : '\n' ∉ message.toList := by
  induction start, args using hexDecodeFrom.induct with
  | case1 => cases failed
  | case2 start char wide =>
      rw [hexDecodeFrom, if_pos wide] at failed
      exact HexResult.invalid.inj failed ▸ invalidDigit_oneLine start
  | case3 start char narrow =>
      rw [hexDecodeFrom, if_neg narrow] at failed
      cases failed
  | case4 start char next rest wide =>
      simp only [hexDecodeFrom, if_pos wide] at failed
      exact HexResult.invalid.inj failed ▸ invalidDigit_oneLine start
  | case5 start char next rest narrow pair noByte =>
      simp only [hexDecodeFrom, if_neg narrow, if_pos pair, noByte] at failed
      exact HexResult.invalid.inj failed ▸ invalidDigit_oneLine start
  | case6 start char next rest narrow pair byte isByte ih =>
      simp only [hexDecodeFrom, if_neg narrow, if_pos pair, isByte] at failed
      cases later : hexDecodeFrom (start + 2) rest with
      | invalid text =>
          rw [later] at failed
          exact ih (later.trans failed)
      | decoded | panicked =>
          rw [later] at failed
          cases failed
  | case7 start char next rest narrow cut =>
      simp only [hexDecodeFrom, if_neg narrow, if_neg cut] at failed
      cases failed

theorem hexDecode_oneLine {message : String} (failed : hexDecode args = .invalid message) :
    '\n' ∉ message.toList := by
  unfold hexDecode at failed
  dsimp only at failed
  split at failed
  · rw [← HexResult.invalid.inj failed]
    decide
  · exact hexDecodeFrom_oneLine failed

theorem framed_handleSetdata {after : ScdState codecs} {out : List UInt8}
    (answered : handleSetdata state args = some (after, out)) : Framed out := by
  unfold handleSetdata at answered
  cases decoded : hexDecode (withoutWhiteSpace args) with
  | decoded data =>
      rw [decoded] at answered
      cases answered
      exact framed_ok
  | invalid message =>
      rw [decoded] at answered
      cases answered
      have oneLine := hexDecode_oneLine decoded
      refine (framed_sendErr _ _).mpr ?_
      simpa using oneLine
  | panicked =>
      rw [decoded] at answered
      cases answered

/-- The proxy answers with an error whose message has a line break. -/
def BrokenError (codecs : Codecs) (io : RequestIo) : Prop :=
  ∃ text message, io = .line text ∧
    readResponse codecs text = .error (.proxyError message) ∧ '\n' ∈ message.toList

theorem oneLine_text {error : ClientError} (other : ∀ message, error ≠ .proxyError message) :
    '\n' ∉ error.text.toList := by
  cases error with
  | proxyError message => exact absurd rfl (other message)
  | missingSignature => decide
  | writeRequest error | flush error | readResponse error | parseResponse error
  | decodeSignature error =>
      unfold ClientError.text
      rw [String.toList_append, List.mem_append, not_or]
      exact ⟨by decide, error.oneLine⟩

theorem newline_mem_proxyError (message : String) :
    '\n' ∈ (ClientError.proxyError message).text.toList ↔ '\n' ∈ message.toList := by
  have start : '\n' ∉ "proxy error: ".toList := by decide
  unfold ClientError.text
  rw [String.toList_append, List.mem_append, or_iff_right start]

theorem signature_ne_proxyError (payload : Value) (message : String) :
    GpgSaClient.signature codecs payload ≠ .error (.proxyError message) := by
  unfold GpgSaClient.signature
  cases (payload.get "signature").bind Value.asStr with
  | none => simp
  | some text => cases decoded : codecs.base64Decode text <;> simp [decoded, Except.mapError]

theorem sign_eq_proxyError {client : GpgSaClient} {keyIndex : Nat} {publicKey data : List UInt8}
    {message : String} :
    (client.sign codecs keyIndex publicKey data io).1 = .error (.proxyError message) ↔
      ∃ text, io = .line text ∧ readResponse codecs text = .error (.proxyError message) := by
  cases io with
  | writeFailed | flushFailed | readFailed =>
      simp [GpgSaClient.sign, GpgSaClient.request, RequestIo.result, Except.bind]
  | line text =>
      cases read : readResponse codecs text with
      | error error => simp [GpgSaClient.sign, GpgSaClient.request, RequestIo.result, Except.bind, read]
      | ok payload =>
          simp [GpgSaClient.sign, GpgSaClient.request, RequestIo.result, Except.bind, read,
            signature_ne_proxyError]

theorem pksignRequest_oneLine {failure : Nat × String}
    (refused : pksignRequest state args = .error failure) : '\n' ∉ failure.2.toList := by
  unfold pksignRequest at refused
  dsimp only at refused
  split at refused
  · cases refused
    decide
  split at refused
  · cases refused
    decide
  · cases refused

theorem framed_handlePksign :
    Framed (handlePksign state args io).2 ↔
      ¬ ((∃ request, pksignRequest state args = .ok request) ∧ BrokenError codecs io) := by
  cases requested : pksignRequest state args with
  | error failure =>
      have oneLine := pksignRequest_oneLine requested
      simp [handlePksign_refused requested, framed_sendErr, oneLine]
  | ok request =>
      obtain ⟨id, data⟩ := request
      have proxyError := @sign_eq_proxyError codecs io state.client id.index id.publicKey.toList data
      cases signed : (state.client.sign codecs id.index id.publicKey.toList data io).1 with
      | ok sig =>
          have sound : ¬ BrokenError codecs io := by
            rintro ⟨text, message, isLine, failed, _⟩
            rw [proxyError.mpr ⟨text, isLine, failed⟩] at signed
            cases signed
          by_cases length : sig.length = 64
          · rw [handlePksign_signed requested signed length]
            simp [sound, framed_ok, Framed.data]
          · rw [handlePksign_wrongLength requested signed length]
            simp [sound, framed_sendErr]
      | error error =>
          rw [handlePksign_failed requested signed, framed_sendErr]
          have broken : '\n' ∈ error.text.toList ↔ BrokenError codecs io := by
            constructor
            · intro broken
              by_cases proxy : ∃ message, error = .proxyError message
              · obtain ⟨message, rfl⟩ := proxy
                obtain ⟨text, isLine, failed⟩ := proxyError.mp signed
                refine ⟨text, message, isLine, failed, ?_⟩
                rwa [newline_mem_proxyError] at broken
              · exact absurd broken (oneLine_text fun message same => proxy ⟨message, same⟩)
            · rintro ⟨text, message, isLine, failed, broken⟩
              rw [proxyError.mpr ⟨text, isLine, failed⟩] at signed
              cases signed
              rwa [newline_mem_proxyError]
          simp [broken]

/-- The line is a SETDATA whose argument is cut inside a character. -/
def CutsCharacter (line : List Char) : Prop :=
  (command line).1 = .setdata ∧ hexDecode (withoutWhiteSpace (command line).2) = .panicked

/-- The line is a PKSIGN that sends a request, and the answer to it is a broken
error. -/
def ReportsBrokenError (state : ScdState codecs) (line : List Char) (io : RequestIo) : Prop :=
  (command line).1 = .pksign ∧ (∃ request, pksignRequest state (command line).2 = .ok request) ∧
    BrokenError codecs io

/-- The answer to a line is framed exactly when the line cuts no character and
no proxy error with a line break is reported. -/
theorem framed_handleLine_iff (given : trim line ≠ []) :
    Framed (handleLine state line io).out ↔
      ¬ CutsCharacter line ∧ ¬ ReportsBrokenError state line io := by
  rw [handleLine, if_neg given, CutsCharacter, ReportsBrokenError]
  generalize (command line).2 = args
  cases name : (command line).1 with
  | setdata =>
      simp only [execute, true_and, reduceCtorEq, false_and, not_false_eq_true, and_true]
      have panics : handleSetdata state args = none ↔
          hexDecode (withoutWhiteSpace args) = .panicked := by
        unfold handleSetdata
        cases hexDecode (withoutWhiteSpace args) <;> simp
      cases answered : handleSetdata state args with
      | none => simp [panics.mp answered, not_framed_nil]
      | some answer =>
          have whole : hexDecode (withoutWhiteSpace args) ≠ .panicked := by
            rw [← panics.ne, answered]
            exact Option.some_ne_none answer
          simp [whole, framed_handleSetdata answered]
  | pksign => simpa [execute] using framed_handlePksign
  | serialno => simpa [execute] using framed_handleSerialno
  | learn => simpa [execute] using framed_handleLearn
  | readkey => simpa [execute] using framed_handleReadkey
  | keyinfo => simpa [execute] using framed_handleKeyinfo
  | getattr => simpa [execute] using framed_handleGetattr
  | getinfo => simpa [execute] using framed_handleGetinfo
  | readcert => simpa [execute] using (framed_sendErr 69 "Not supported").mpr (by decide)
  | bye => simpa [execute] using framed_sendOk "closing connection" (by decide)
  | restart | reset | nop | option | unknown => simpa [execute] using framed_ok

/-! ### A proxy error of two lines -/

namespace Sample

open Transparent

def twoLineError : Value :=
  .object [("error", .object [("code", .number (.negInt (-32603))), ("message", .string "no\nOK")]),
    ("id", .number (.posInt 1)), ("jsonrpc", .string "2.0")]

def errorCodecs : Codecs := simpleCodecs [(twoLineError.toJson, twoLineError)]

def signingState : ScdState errorCodecs where
  identities := [.ofKey errorCodecs (Vector.replicate 32 7) 0 0]
  storedData := [1]
  client := .connect
  pid := 42

def pksignLine : List Char := "PKSIGN OPENPGP.1".toList

end Sample

open Sample in
theorem framed_pksignLine_iff :
    Framed (handleLine signingState pksignLine (.line (twoLineError.toJson ++ "\n"))).out ↔
      ¬ CutsCharacter pksignLine ∧
        ¬ ReportsBrokenError signingState pksignLine (.line (twoLineError.toJson ++ "\n")) :=
  framed_handleLine_iff (by decide)

open Sample in
/-- The second line of the error looks like an answer of its own. -/
theorem twoLineError_not_framed :
    trim pksignLine ≠ [] ∧
      (handleLine signingState pksignLine (.line (twoLineError.toJson ++ "\n"))).out =
        textBytes "ERR 2 Sign error: proxy error: no\nOK\n" ∧
      ¬ Framed (handleLine signingState pksignLine (.line (twoLineError.toJson ++ "\n"))).out := by
  have written : (handleLine signingState pksignLine (.line (twoLineError.toJson ++ "\n"))).out =
      textBytes "ERR 2 Sign error: proxy error: no\nOK\n" := by decide +kernel
  refine ⟨by decide, written, ?_⟩
  rw [written, show textBytes "ERR 2 Sign error: proxy error: no\nOK\n" =
    textBytes "ERR 2 Sign error: proxy error: no\nOK" ++ [lineFeed] by decide]
  exact not_framed_of_break (by decide) (by decide)

end KeyMaster.ScdShim
