import KeyMaster.Data.Runs
import KeyMaster.JsonRpcWire
import KeyMaster.ScdShim.Commands

namespace KeyMaster.ScdShim

open Data

/-! What PKSIGN has signed: the data of the latest SETDATA, once. -/

variable {codecs : Codecs}

/-- A line on the shim's input, and how the I/O of its request ends. -/
structure Input where
  line : List Char
  io : RequestIo

/-- An iteration of the command loop after which the loop goes on. -/
def CommandStep (before : ScdState codecs) (input : Input) (after : ScdState codecs) : Prop :=
  (handleLine before input.line input.io).flow = .continues after

abbrev CommandTransition (codecs : Codecs) := Transition (ScdState codecs) Input

namespace CommandTransition

variable (transition : CommandTransition codecs)

def sent : List Value :=
  transition.after.client.requests.drop transition.before.client.requests.length

def Accepts (data : List UInt8) : Prop :=
  (command transition.label.line).1 = .setdata ∧
    hexDecode (withoutWhiteSpace (command transition.label.line).2) = .decoded data

def Resets : Prop :=
  (command transition.label.line).1 = .reset ∨ (command transition.label.line).1 = .restart

/-- The steps before a request are a SETDATA of the data and, after it, no
other accepted SETDATA, no RESET or RESTART and no request. -/
def Backed (earlier : List (CommandTransition codecs)) (data : List UInt8) : Prop :=
  ∃ start set between, earlier = start ++ set :: between ∧ Accepts set data ∧
    ∀ step ∈ between, (∀ other, ¬ Accepts step other) ∧ ¬ Resets step ∧ sent step = []

def RequestsSignature (codecs : Codecs) (request : Value) (data : List UInt8) : Prop :=
  ∃ (client : GpgSaClient) (id : Identity codecs), request = client.requestObject "gpg.sign_request"
    (GpgSaClient.signParams codecs id.index id.publicKey.toList (stripDigestInfo data))

end CommandTransition

open CommandTransition

/-- Every request of the run asks for a signature of the latest accepted
SETDATA, which no earlier request was sent after and no RESET followed. -/
def SignsOnce (trace : List (CommandTransition codecs)) : Prop :=
  ∀ earlier transition later, trace = earlier ++ transition :: later →
    ∀ request ∈ sent transition,
      ∃ data, Backed earlier data ∧ RequestsSignature codecs request data

/-- A PKSIGN that sends a request is not answered with a signature of another
length than 64 bytes. -/
def CommandTransition.SignatureFits (transition : CommandTransition codecs) : Prop :=
  (command transition.label.line).1 = .pksign →
    (∃ request, pksignRequest transition.before (command transition.label.line).2 = .ok request) →
    ∀ sig, (transition.label.io.result codecs).bind (GpgSaClient.signature codecs) = .ok sig →
      sig.length = 64

/-! ### What a step does -/

inductive CommandCase (transition : CommandTransition codecs) : Prop
  | accepts {data : List UInt8} (accepted : Accepts transition data)
      (after : transition.after = { transition.before with storedData := data })
  | resets (reset : Resets transition)
      (after : transition.after = { transition.before with storedData := [] })
  | requests {id : Identity codecs} {data : List UInt8}
      (requested : pksignRequest transition.before (command transition.label.line).2 = .ok (id, data))
      (isPksign : (command transition.label.line).1 = .pksign)
      (after : transition.after =
        (handlePksign transition.before (command transition.label.line).2 transition.label.io).1)
  | idle (noData : ∀ data, ¬ Accepts transition data) (noReset : ¬ Resets transition)
      (after : transition.after = transition.before)

theorem command_of_empty {line : List Char} (empty : trim line = []) : command line = (.unknown, []) := by
  rw [command, empty]
  rfl

theorem CommandStep.kind {before after : ScdState codecs} {input : Input}
    (step : CommandStep before input after) : CommandCase ⟨before, input, after⟩ := by
  unfold CommandStep handleLine at step
  split at step
  · rename_i empty
    have name := command_of_empty empty
    refine .idle ?_ ?_ (Flow.continues.inj step).symm
    · simp [Accepts, name]
    · simp [Resets, name]
  · cases name : (command input.line).1 with
    | setdata =>
        have noReset : ¬ Resets (⟨before, input, after⟩ : CommandTransition codecs) := by
          simp [Resets, name]
        rw [name, execute, handleSetdata] at step
        cases decoded : hexDecode (withoutWhiteSpace (command input.line).2) with
        | decoded data =>
            rw [decoded] at step
            exact .accepts ⟨name, decoded⟩ (Flow.continues.inj step).symm
        | invalid message =>
            rw [decoded] at step
            exact .idle (by simp [Accepts, decoded]) noReset (Flow.continues.inj step).symm
        | panicked =>
            rw [decoded] at step
            cases step
    | pksign =>
        rw [name, execute] at step
        cases requested : pksignRequest before (command input.line).2 with
        | ok request => exact .requests requested name (Flow.continues.inj step).symm
        | error failure =>
            rw [handlePksign_refused requested] at step
            exact .idle (by simp [Accepts, name]) (by simp [Resets, name])
              (Flow.continues.inj step).symm
    | restart =>
        rw [name, execute] at step
        exact .resets (.inr name) (Flow.continues.inj step).symm
    | reset =>
        rw [name, execute] at step
        exact .resets (.inl name) (Flow.continues.inj step).symm
    | bye =>
        rw [name, execute] at step
        cases step
    | serialno | learn | readkey | keyinfo | getattr | getinfo | readcert | nop | option | unknown =>
        rw [name, execute] at step
        exact .idle (by simp [Accepts, name]) (by simp [Resets, name]) (Flow.continues.inj step).symm

/-! ### The stored data -/

/-- Data that is stored was accepted, and has not been sent or reset since. -/
def StoredBacked (trace : List (CommandTransition codecs)) (state : ScdState codecs) : Prop :=
  state.storedData ≠ [] → Backed trace state.storedData

theorem Backed.extend {earlier : List (CommandTransition codecs)} {data : List UInt8}
    {transition : CommandTransition codecs} (backed : Backed earlier data)
    (noData : ∀ other, ¬ Accepts transition other) (noReset : ¬ Resets transition)
    (silent : sent transition = []) : Backed (earlier ++ [transition]) data := by
  obtain ⟨start, set, between, rfl, accepted, quiet⟩ := backed
  refine ⟨start, set, between ++ [transition], by simp, accepted, ?_⟩
  rw [List.forall_mem_append, List.forall_mem_singleton]
  exact ⟨quiet, noData, noReset, silent⟩

section Pksign

variable {state : ScdState codecs} {args : List Char} {io : RequestIo} {id : Identity codecs}
  {data : List UInt8}

theorem client_handlePksign (requested : pksignRequest state args = .ok (id, data)) :
    (handlePksign state args io).1.client =
      (state.client.sign codecs id.index id.publicKey.toList data io).2 := by
  cases signed : (state.client.sign codecs id.index id.publicKey.toList data io).1 with
  | error error => rw [handlePksign_failed requested signed]
  | ok sig =>
      by_cases length : sig.length = 64
      · rw [handlePksign_signed requested signed length]
      · rw [handlePksign_wrongLength requested signed length]

/-- A signature of 64 bytes, like any error, clears the stored data. -/
theorem storedData_handlePksign (requested : pksignRequest state args = .ok (id, data))
    (fits : ∀ sig, (io.result codecs).bind (GpgSaClient.signature codecs) = .ok sig →
      sig.length = 64) : (handlePksign state args io).1.storedData = [] := by
  cases signed : (state.client.sign codecs id.index id.publicKey.toList data io).1 with
  | error error => rw [handlePksign_failed requested signed]
  | ok sig => rw [handlePksign_signed requested signed (fits sig signed)]

theorem data_of_pksignRequest (requested : pksignRequest state args = .ok (id, data)) :
    state.storedData ≠ [] ∧ data = stripDigestInfo state.storedData := by
  unfold pksignRequest at requested
  dsimp only at requested
  split at requested
  · cases requested
  split at requested
  · cases requested
  · rename_i stored
    cases requested
    exact ⟨stored, rfl⟩

end Pksign

theorem sent_eq_nil {transition : CommandTransition codecs}
    (same : transition.after.client = transition.before.client) : sent transition = [] := by
  simp [sent, same]

theorem sent_requests (transition : CommandTransition codecs) {id : Identity codecs}
    {data : List UInt8}
    (requested : pksignRequest transition.before (command transition.label.line).2 = .ok (id, data))
    (after : transition.after =
      (handlePksign transition.before (command transition.label.line).2 transition.label.io).1) :
    sent transition = [transition.before.client.requestObject "gpg.sign_request"
      (GpgSaClient.signParams codecs id.index id.publicKey.toList data)] := by
  rw [sent, after, client_handlePksign requested]
  simp [GpgSaClient.sign, GpgSaClient.request]

theorem StoredBacked.snoc {trace : List (CommandTransition codecs)}
    {transition : CommandTransition codecs} (backed : StoredBacked trace transition.before)
    (fits : transition.SignatureFits) (kind : CommandCase transition) :
    StoredBacked (trace ++ [transition]) transition.after := by
  intro stored
  cases kind with
  | accepts accepted after =>
      rw [after]
      exact ⟨trace, transition, [], rfl, accepted, by simp⟩
  | resets reset after => exact absurd (by rw [after]) stored
  | requests requested isPksign after =>
      have cleared := storedData_handlePksign requested (fits isPksign ⟨_, requested⟩)
      exact absurd (by rw [after, cleared]) stored
  | idle noData noReset after =>
      rw [after] at stored ⊢
      exact Backed.extend (backed stored) noData noReset (sent_eq_nil (by rw [after]))

theorem StoredBacked.signs {trace : List (CommandTransition codecs)}
    {transition : CommandTransition codecs} (backed : StoredBacked trace transition.before)
    (kind : CommandCase transition) {request : Value} (member : request ∈ sent transition) :
    ∃ data, Backed trace data ∧ RequestsSignature codecs request data := by
  cases kind with
  | accepts accepted after | resets reset after | idle noData noReset after =>
      rw [sent_eq_nil (by rw [after])] at member
      cases member
  | @requests id data requested isPksign after =>
      rw [sent_requests transition requested after, List.mem_singleton] at member
      obtain ⟨stored, rfl⟩ := data_of_pksignRequest requested
      exact ⟨transition.before.storedData, backed stored, transition.before.client, id, member⟩

/-! ### Runs -/

variable {raw : List RawIdentity} {client : GpgSaClient} {pid : UInt32} {final : ScdState codecs}
  {trace : List (CommandTransition codecs)}

theorem run_storedBacked (run : Run CommandStep (.start codecs raw client pid) trace final)
    (fits : ∀ transition ∈ trace, transition.SignatureFits) : StoredBacked trace final :=
  run.snoc_induction (motive := fun trace final =>
      (∀ transition ∈ trace, CommandTransition.SignatureFits transition) → StoredBacked trace final)
    (fun _ stored => absurd rfl stored)
    (fun trace before input after _ ih step fits => by
      rw [List.forall_mem_append, List.forall_mem_singleton] at fits
      exact (ih fits.1).snoc fits.2 step.kind) fits

/-- A run signs each SETDATA at most once if no request is answered with a
signature of a wrong length. -/
theorem run_signsOnce (run : Run CommandStep (.start codecs raw client pid) trace final)
    (fits : ∀ transition ∈ trace, transition.SignatureFits) : SignsOnce trace := by
  intro earlier transition later split request member
  subst split
  rw [List.forall_mem_append] at fits
  obtain ⟨middle, first, rest⟩ := run.unappend
  cases rest with
  | cons step _ => exact (run_storedBacked first fits.1).signs step.kind member

/-! ### A signature of a wrong length -/

theorem nonempty_of_command {line : List Char} (known : (command line).1 ≠ .unknown) :
    trim line ≠ [] := by
  intro empty
  rw [command_of_empty empty] at known
  exact known rfl

theorem pksign_continues {before : ScdState codecs} {input : Input}
    (isPksign : (command input.line).1 = .pksign) :
    CommandStep before input (handlePksign before (command input.line).2 input.io).1 := by
  have given : trim input.line ≠ [] := nonempty_of_command (by simp [isPksign])
  rw [CommandStep, handleLine, if_neg given, isPksign, execute]

theorem setdata_continues {before : ScdState codecs} {input : Input} {data : List UInt8}
    (isSetdata : (command input.line).1 = .setdata)
    (decoded : hexDecode (withoutWhiteSpace (command input.line).2) = .decoded data) :
    CommandStep before input { before with storedData := data } := by
  have given : trim input.line ≠ [] := nonempty_of_command (by simp [isSetdata])
  rw [CommandStep, handleLine, if_neg given, isSetdata, execute, handleSetdata, decoded]

theorem CommandStep.pksign {before after : ScdState codecs} {input : Input}
    (step : CommandStep before input after) (isPksign : (command input.line).1 = .pksign) :
    after = (handlePksign before (command input.line).2 input.io).1 :=
  Flow.continues.inj (step.symm.trans (pksign_continues isPksign))

/-- After a PKSIGN whose signature does not fit, the same line signs again. -/
theorem signs_again {before after : ScdState codecs} {first second : Input}
    (step : CommandStep before first after) (again : CommandStep after second final)
    (sameLine : second.line = first.line)
    (wrong : ¬ CommandTransition.SignatureFits ⟨before, first, after⟩) :
    ¬ SignsOnce (trace ++ [⟨before, first, after⟩, ⟨after, second, final⟩]) := by
  simp only [CommandTransition.SignatureFits, Classical.not_imp, not_forall] at wrong
  obtain ⟨isPksign, ⟨⟨id, data⟩, requested⟩, sig, signed, length⟩ := wrong
  have isAfter := step.pksign isPksign
  have kept : pksignRequest after (command second.line).2 = .ok (id, data) := by
    rw [isAfter, handlePksign_wrongLength requested signed length, sameLine]
    exact requested
  have firstSent := sent_requests ⟨before, first, after⟩ requested isAfter
  have secondSent := sent_requests ⟨after, second, final⟩ kept
    (again.pksign (sameLine ▸ isPksign))
  intro once
  obtain ⟨other, ⟨start, set, between, split, accepted, quiet⟩, _⟩ :=
    once (trace ++ [⟨before, first, after⟩]) _ [] (by simp) _
      (secondSent ▸ List.mem_singleton_self _)
  -- The first PKSIGN is the last step before the second, and no SETDATA.
  rcases List.eq_nil_or_concat between with rfl | ⟨init, last, rfl⟩
  · have same := List.singleton_inj.mp (List.append_inj_right' split rfl)
    rw [← same] at accepted
    exact absurd (isPksign.symm.trans accepted.1) (by decide)
  · rw [List.concat_eq_append, ← List.cons_append, ← List.append_assoc] at split
    have same := List.singleton_inj.mp (List.append_inj_right' split rfl)
    have silent := (quiet last (by simp)).2.2
    rw [← same, firstSent] at silent
    cases silent

/-! Two signatures, one of 64 bytes and one of a single byte. -/

namespace Sample

open Transparent

def signedTree (signature : List UInt8) : Value :=
  .object [("id", .number (.posInt 1)), ("jsonrpc", .string "2.0"),
    ("result", .object [("signature", .string (String.ofList (toBase64 signature)))])]

def shortAnswer : Value := signedTree [11]

def fullAnswer : Value := signedTree (List.replicate 64 11)

/-- They read the one answer. -/
def answerCodecs (answer : Value) : Codecs := simpleCodecs [(answer.toJson, answer)]

def shortCodecs : Codecs := answerCodecs shortAnswer

def fullCodecs : Codecs := answerCodecs fullAnswer

theorem shortCodecs_lossless : shortCodecs.Lossless := simpleCodecs_lossless _

def rawIdentity : RawIdentity :=
  ⟨"ed25519", String.ofList (toBase64 (List.replicate 32 7)), "laptop"⟩

theorem decodeKey_rawIdentity (answer : Value) :
    ∃ key, decodeKey (answerCodecs answer) rawIdentity = some key := by
  have decoded : (answerCodecs answer).base64Decode rawIdentity.publicKey = .ok (List.replicate 32 7) :=
    simpleCodecs_lossless _ _
  have isKey : (decodeKey (answerCodecs answer) rawIdentity).isSome = true := by
    unfold decodeKey
    rw [if_neg fun other => other rfl, decoded]
    rfl
  exact Option.isSome_iff_exists.mp isKey

/-- It is the one key of the card. -/
theorem identities_rawIdentity (answer : Value) :
    ∃ key, identities (answerCodecs answer) [rawIdentity] = [.ofKey (answerCodecs answer) key 0 0] := by
  obtain ⟨key, isKey⟩ := decodeKey_rawIdentity answer
  exact ⟨key, by simp [identities, decodedIdentities, isKey]⟩

def answeredWith (answer : Value) (line : String) : Input := ⟨line.toList, .line (answer.toJson ++ "\n")⟩

def answered : String → Input := answeredWith shortAnswer

def continued (state : ScdState codecs) (input : Input) : ScdState codecs :=
  match (handleLine state input.line input.io).flow with
  | .continues after => after
  | .exits | .panics => state

theorem CommandStep.continued_eq {before after : ScdState codecs} {input : Input}
    (step : CommandStep before input after) : continued before input = after := by
  rw [CommandStep] at step
  rw [continued, step]

theorem CommandStep.continues {before after : ScdState codecs} {input : Input}
    (step : CommandStep before input after) : CommandStep before input (continued before input) := by
  rw [CommandStep.continued_eq step]
  exact step

theorem answer_signature (signature : List UInt8) (line : String) :
    ((answeredWith (signedTree signature) line).io.result
      (answerCodecs (signedTree signature))).bind
        (GpgSaClient.signature (answerCodecs (signedTree signature))) = .ok signature := by
  have trimmed : String.ofList (trimEnd ((signedTree signature).toJson ++ "\n").toList) =
      (signedTree signature).toJson :=
    (congrArg String.ofList (trimEnd_toJson _)).trans String.ofList_toList
  have parsed : (answerCodecs (signedTree signature)).parseJson
      (signedTree signature).toJson = .ok (signedTree signature) := by
    simp [answerCodecs, simpleCodecs, List.lookup_cons_self]
  have distinct : ["id", "jsonrpc", "result"].Nodup := by decide
  have noError : (signedTree signature).normalize.get "error" = none :=
    Value.get_normalize_of_not_mem (show "error" ∉ ["id", "jsonrpc", "result"] by decide)
  have result : (signedTree signature).normalize.get "result" =
      some (.object [("signature", .string (String.ofList (toBase64 signature)))]) := by
    rw [signedTree, Value.get_normalize (by exact distinct)]
    rfl
  have text : ((Value.object [("signature", .string (String.ofList (toBase64 signature)))]).get
      "signature").bind Value.asStr = some (String.ofList (toBase64 signature)) := rfl
  have decoded : (answerCodecs (signedTree signature)).base64Decode
      (String.ofList (toBase64 signature)) = .ok signature := simpleCodecs_lossless _ signature
  simp only [answeredWith, RequestIo.result, readResponse, trimmed, parsed, noError, result,
    Option.getD_some, Except.bind, GpgSaClient.signature, text, decoded, Except.mapError]

/-! Each PKSIGN has a SETDATA of its own and a signature of 64 bytes. -/

/-- The line has the card's first key sign. -/
structure SignsFirst (line : String) : Prop where
  isPksign : (command line.toList).1 = .pksign
  names : String.ofList (trim (skipOptions (command line.toList).2)) = "OPENPGP.1"

structure Sets (line : String) (data : List UInt8) : Prop where
  isSetdata : (command line.toList).1 = .setdata
  decodes : hexDecode (withoutWhiteSpace (command line.toList).2) = .decoded data

theorem signsFirst_line : SignsFirst "PKSIGN OPENPGP.1" := ⟨by decide +kernel, by decide +kernel⟩

theorem sets_line : Sets "SETDATA 01" [1] := ⟨by decide +kernel, by decide +kernel⟩

section

variable {line set again : String} {data other sig : List UInt8} {io : RequestIo}
  {id : Identity codecs} {raw : List RawIdentity} {client : GpgSaClient} {pid : UInt32}

theorem SignsFirst.requested (signs : SignsFirst line) {state : ScdState codecs}
    (one : state.identities = [id]) (first : id.keyref = "OPENPGP.1") (stored : state.storedData ≠ []) :
    pksignRequest state (command line.toList).2 = .ok (id, stripDigestInfo state.storedData) := by
  have found : [id].find? (fun other => other.keygrip = "OPENPGP.1" ∨ other.keyref = "OPENPGP.1") =
      some id := List.find?_cons_of_pos (by simp [first])
  unfold pksignRequest
  dsimp only
  rw [signs.names, one, found, Option.some_or]
  exact if_neg stored

theorem Sets.step (sets : Sets set data) (state : ScdState codecs) (input : Input)
    (isLine : input.line = set.toList) : CommandStep state input { state with storedData := data } :=
  setdata_continues (isLine ▸ sets.isSetdata) (isLine ▸ sets.decodes)

theorem Sets.continues (sets : Sets set data) (state : ScdState codecs) (input : Input)
    (isLine : input.line = set.toList) : CommandStep state input (continued state input) :=
  CommandStep.continues (sets.step state input isLine)

theorem SignsFirst.continues (signs : SignsFirst line) (state : ScdState codecs) (input : Input)
    (isLine : input.line = line.toList) : CommandStep state input (continued state input) :=
  CommandStep.continues (pksign_continues (isLine ▸ signs.isPksign))

theorem SignsFirst.length_sent (signs : SignsFirst line) (state : ScdState codecs) (input : Input)
    (isLine : input.line = line.toList) (one : state.identities = [id]) (first : id.keyref = "OPENPGP.1")
    (stored : state.storedData ≠ []) : (sent ⟨state, input, continued state input⟩).length = 1 := by
  have isPksign : (command input.line).1 = .pksign := isLine ▸ signs.isPksign
  have requested := signs.requested one first stored
  rw [← isLine] at requested
  have isAfter := CommandStep.pksign (signs.continues state input isLine) isPksign
  rw [sent_requests ⟨state, input, continued state input⟩ requested isAfter, List.length_singleton]

/-- Stored data is signed and forgotten. -/
theorem SignsFirst.run (signs : SignsFirst line) (sets : Sets set data)
    (first : id.keyref = "OPENPGP.1") (stored : data ≠ []) (length : sig.length = 64)
    (fits : (io.result codecs).bind (GpgSaClient.signature codecs) = .ok sig)
    (client : GpgSaClient) (pid : UInt32) :
    ∃ trace after, Run CommandStep ⟨[id], [], client, pid⟩ trace ⟨[id], [], after, pid⟩ ∧
      trace.map (fun transition => transition.label) = [⟨set.toList, io⟩, ⟨line.toList, io⟩] ∧
      trace.map (fun transition => (sent transition).length) = [0, 1] := by
  have setting : CommandStep ⟨[id], [], client, pid⟩ ⟨set.toList, io⟩ ⟨[id], data, client, pid⟩ :=
    sets.step _ ⟨set.toList, io⟩ rfl
  have requested := @SignsFirst.requested codecs line id signs ⟨[id], data, client, pid⟩ rfl first stored
  have signing := @pksign_continues codecs ⟨[id], data, client, pid⟩ ⟨line.toList, io⟩ signs.isPksign
  rw [handlePksign_signed requested fits length] at signing
  refine ⟨_, _, .cons setting (.cons signing (.nil _)), rfl, ?_⟩
  have silent := @sent_eq_nil codecs ⟨_, ⟨set.toList, io⟩, ⟨[id], data, client, pid⟩⟩
    (show client = (⟨[id], [], client, pid⟩ : ScdState codecs).client from rfl)
  have asks := sent_requests ⟨_, ⟨line.toList, io⟩, _⟩ requested (signing.pksign signs.isPksign)
  rw [List.map_cons, List.map_singleton, silent, asks]
  rfl

/-- A signature for each of two SETDATA. -/
theorem two_signatures (signs : SignsFirst line) (sets : Sets set data) (setsAgain : Sets again other)
    (one : identities codecs raw = [id]) (first : id.keyref = "OPENPGP.1") (stored : data ≠ [])
    (storedAgain : other ≠ []) (length : sig.length = 64)
    (fits : (io.result codecs).bind (GpgSaClient.signature codecs) = .ok sig) :
    ∃ trace final, Run CommandStep (.start codecs raw client pid) trace final ∧
      trace.map (fun transition => transition.label) =
        [⟨set.toList, io⟩, ⟨line.toList, io⟩, ⟨again.toList, io⟩, ⟨line.toList, io⟩] ∧
      trace.map (fun transition => (sent transition).length) = [0, 1, 0, 1] := by
  obtain ⟨trace, middle, run, labels, lengths⟩ := signs.run sets first stored length fits client pid
  obtain ⟨more, last, runOn, labelsOn, lengthsOn⟩ :=
    signs.run setsAgain first storedAgain length fits middle pid
  refine ⟨trace ++ more, ⟨[id], [], last, pid⟩, ?_, ?_, ?_⟩
  · rw [ScdState.start, one]
    exact run.append runOn
  · rw [List.map_append, labels, labelsOn]
    rfl
  · rw [List.map_append, lengths, lengthsOn]
    rfl

end

/-! Two PKSIGN lines follow one SETDATA, with a signature of one byte in between. -/

def shortStart : ScdState shortCodecs := .start shortCodecs [rawIdentity] .connect 42

def stored : ScdState shortCodecs := continued shortStart (answered "SETDATA 01")

def signedShort : ScdState shortCodecs := continued stored (answered "PKSIGN OPENPGP.1")

def signedTwice : ScdState shortCodecs := continued signedShort (answered "PKSIGN OPENPGP.1")

def setdataStep : CommandTransition shortCodecs := ⟨shortStart, answered "SETDATA 01", stored⟩

def firstPksign : CommandTransition shortCodecs := ⟨stored, answered "PKSIGN OPENPGP.1", signedShort⟩

def secondPksign : CommandTransition shortCodecs :=
  ⟨signedShort, answered "PKSIGN OPENPGP.1", signedTwice⟩

theorem setdata_step : CommandStep shortStart (answered "SETDATA 01") stored :=
  sets_line.continues shortStart (answered "SETDATA 01") rfl

theorem firstPksign_step : CommandStep stored (answered "PKSIGN OPENPGP.1") signedShort :=
  signsFirst_line.continues stored (answered "PKSIGN OPENPGP.1") rfl

theorem secondPksign_step : CommandStep signedShort (answered "PKSIGN OPENPGP.1") signedTwice :=
  signsFirst_line.continues signedShort (answered "PKSIGN OPENPGP.1") rfl

theorem shortAnswer_signature :
    ((answered "PKSIGN OPENPGP.1").io.result shortCodecs).bind (GpgSaClient.signature shortCodecs) =
      .ok [11] :=
  answer_signature [11] "PKSIGN OPENPGP.1"

theorem firstPksign_wrong : ¬ firstPksign.SignatureFits := by
  obtain ⟨key, one⟩ := identities_rawIdentity shortAnswer
  have isStored : stored = { shortStart with storedData := [1] } :=
    CommandStep.continued_eq (sets_line.step shortStart (answered "SETDATA 01") rfl)
  have requested := @SignsFirst.requested shortCodecs "PKSIGN OPENPGP.1" _ signsFirst_line
    { shortStart with storedData := [1] } one rfl (by decide)
  rw [← isStored] at requested
  intro fits
  have length := fits signsFirst_line.isPksign ⟨_, requested⟩ [11] shortAnswer_signature
  exact absurd length (by decide)

end Sample

open Sample in
theorem full_signatures_signOnce :
    ∃ trace final, Run CommandStep (.start fullCodecs [rawIdentity] .connect 42) trace final ∧
      trace.map (fun transition => transition.label) =
        [answeredWith fullAnswer "SETDATA 01", answeredWith fullAnswer "PKSIGN OPENPGP.1",
          answeredWith fullAnswer "SETDATA 02", answeredWith fullAnswer "PKSIGN OPENPGP.1"] ∧
      trace.map (fun transition => (sent transition).length) = [0, 1, 0, 1] ∧ SignsOnce trace := by
  have setsAgain : Sets "SETDATA 02" [2] := ⟨by decide +kernel, by decide +kernel⟩
  have answered : ∀ line : String,
      ((answeredWith fullAnswer line).io.result fullCodecs).bind (GpgSaClient.signature fullCodecs) =
        .ok (List.replicate 64 11) := answer_signature (List.replicate 64 11)
  obtain ⟨key, one⟩ := identities_rawIdentity fullAnswer
  obtain ⟨trace, final, run, labels, lengths⟩ := @two_signatures fullCodecs _ _ _ _ _ _ _ _ _ .connect 42
    signsFirst_line sets_line setsAgain one rfl (by decide) (by decide) List.length_replicate (answered "")
  refine ⟨trace, final, run, labels, lengths, run_signsOnce run ?_⟩
  intro transition member _ _ sig signed
  have isLabel := List.mem_map_of_mem (f := fun transition => transition.label) member
  rw [labels] at isLabel
  have isFull : (transition.label.io.result fullCodecs).bind (GpgSaClient.signature fullCodecs) =
      .ok (List.replicate 64 11) := by
    simp only [List.mem_cons, List.not_mem_nil, or_false] at isLabel
    rcases isLabel with same | same | same | same <;> rw [same] <;> exact answered _
  rw [← Except.ok.inj (isFull.symm.trans signed), List.length_replicate]

open Sample in
/-- The second PKSIGN signs the data that the first has signed. -/
theorem short_signature_signs_again :
    Run CommandStep shortStart [setdataStep, firstPksign, secondPksign] signedTwice ∧
      ¬ SignsOnce [setdataStep, firstPksign, secondPksign] :=
  have twice : ¬ SignsOnce ([setdataStep] ++ [firstPksign, secondPksign]) :=
    signs_again firstPksign_step secondPksign_step rfl firstPksign_wrong
  ⟨.cons setdata_step (.cons firstPksign_step (.cons secondPksign_step (.nil _))), twice⟩

end KeyMaster.ScdShim
