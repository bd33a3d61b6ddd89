import KeyMaster.Data.Runs
import KeyMaster.JsonRpcWire
import KeyMaster.ScdShim.Client

namespace KeyMaster.ScdShim

open Data

/-! Requests and answers on one connection to the proxy.

The proxy answers every request with one line, in order.  A call that times
out leaves its answer on the stream, where the next read finds it.
-/

variable (codecs : Codecs)

inductive Delivery where
  | writeFailed (error : OneLine)
  | timedOut (error : OneLine)
  | delivered

/-- A call of `request`, with the line that the proxy answers it with. -/
structure Call where
  method : String
  params : Value
  answer : String
  delivery : Delivery

def Call.TimesOut (call : Call) : Prop := ∃ error, call.delivery = .timedOut error

def Call.Delivers (call : Call) : Prop := call.delivery = .delivered

/-- A connection: the answers not read yet, each with the number of its request. -/
structure Wire where
  client : GpgSaClient
  unread : List (Nat × String)

namespace Wire

variable (wire : Wire) (call : Call)

def connect : Wire := ⟨.connect, []⟩

def ownAnswer : Nat × String := (wire.client.requests.length, call.answer)

def stream : List (Nat × String) := wire.unread ++ [wire.ownAnswer call]

def consumed : Option (Nat × String) :=
  match call.delivery with
  | .delivered => (wire.stream call).head?
  | .writeFailed _ | .timedOut _ => none

def io : RequestIo :=
  match call.delivery with
  | .writeFailed error => .writeFailed error
  | .timedOut error => .readFailed error
  | .delivered => .line ((wire.stream call).head?.elim "" Prod.snd)

def result : Except ClientError Value :=
  (wire.client.request codecs call.method call.params (wire.io call)).1

def handle : Wire where
  client := (wire.client.request codecs call.method call.params (wire.io call)).2
  unread :=
    match call.delivery with
    | .writeFailed _ => wire.unread
    | .timedOut _ => wire.stream call
    | .delivered => (wire.stream call).tail

/-- The call's answer is a JSON object with the id of its request. -/
def CarriesId : Prop :=
  ∃ tree, codecs.parseJson (String.ofList (trimEnd call.answer.toList)) = .ok tree ∧
    tree.normalize.get "id" = some (.number (.posInt wire.client.nextId))

end Wire

def Step (before : Wire) (call : Call) (after : Wire) : Prop :=
  before.CarriesId codecs call ∧ after = before.handle codecs call

/-- A call that returns a value or a proxy error has read its own answer, and a
signature it returns is the one in that answer. -/
structure Correlates (transition : Transition Wire Call) : Prop where
  value : ∀ value, transition.before.result codecs transition.label = .ok value →
    transition.before.consumed transition.label =
      some (transition.before.ownAnswer transition.label)
  proxyError : ∀ message,
    transition.before.result codecs transition.label = .error (.proxyError message) →
    transition.before.consumed transition.label =
      some (transition.before.ownAnswer transition.label)
  signature : ∀ bytes,
    (transition.before.result codecs transition.label).bind (GpgSaClient.signature codecs) =
      .ok bytes →
    (readResponse codecs transition.label.answer).bind (GpgSaClient.signature codecs) = .ok bytes

variable {codecs} {wire final : Wire} {call : Call} {trace : List (Transition Wire Call)}

@[simp] theorem length_requests_handle :
    (wire.handle codecs call).client.requests.length = wire.client.requests.length + 1 := by
  simp [Wire.handle, GpgSaClient.request]

/-! ### What stays on the stream -/

def IsJson (codecs : Codecs) (line : String) : Prop :=
  ∃ tree, codecs.parseJson (String.ofList (trimEnd line.toList)) = .ok tree

/-- The answers on the stream are JSON, and those of earlier requests. -/
def Wire.Coherent (codecs : Codecs) (wire : Wire) : Prop :=
  ∀ answer ∈ wire.unread, answer.1 < wire.client.requests.length ∧ IsJson codecs answer.2

theorem Wire.Coherent.stream (coherent : wire.Coherent codecs) (carries : wire.CarriesId codecs call) :
    ∀ answer ∈ wire.stream call,
      answer.1 < wire.client.requests.length + 1 ∧ IsJson codecs answer.2 := by
  intro answer member
  rcases List.mem_append.mp member with old | own
  · exact ⟨Nat.lt_succ_of_lt (coherent answer old).1, (coherent answer old).2⟩
  · rw [List.mem_singleton.mp own]
    obtain ⟨tree, parsed, _⟩ := carries
    exact ⟨Nat.lt_succ_self _, tree, parsed⟩

theorem Step.coherent {after : Wire} (step : Step codecs wire call after)
    (coherent : wire.Coherent codecs) : after.Coherent codecs := by
  obtain ⟨carries, rfl⟩ := step
  intro answer member
  rw [length_requests_handle]
  cases delivery : call.delivery with
  | writeFailed =>
      simp only [Wire.handle, delivery] at member
      exact ⟨Nat.lt_succ_of_lt (coherent answer member).1, (coherent answer member).2⟩
  | timedOut =>
      simp only [Wire.handle, delivery] at member
      exact coherent.stream carries answer member
  | delivered =>
      simp only [Wire.handle, delivery] at member
      exact coherent.stream carries answer (List.mem_of_mem_tail member)

/-- A call leaves the stream empty exactly when it finds it so and does not time out. -/
theorem unread_handle : (wire.handle codecs call).unread = [] ↔ wire.unread = [] ∧ ¬ call.TimesOut := by
  cases delivery : call.delivery with
  | writeFailed => simp [Wire.handle, Call.TimesOut, delivery]
  | timedOut => simp [Wire.handle, Call.TimesOut, Wire.stream, delivery]
  | delivered =>
      simp only [Wire.handle, Call.TimesOut, Wire.stream, delivery]
      cases wire.unread <;> simp

/-! ### Which answer a call reads -/

theorem consumed_own (delivers : call.Delivers) (empty : wire.unread = []) :
    wire.consumed call = some (wire.ownAnswer call) := by
  rw [Call.Delivers] at delivers
  simp [Wire.consumed, Wire.stream, delivers, empty]

theorem consumed_other (delivers : call.Delivers) (coherent : wire.Coherent codecs)
    (left : wire.unread ≠ []) : wire.consumed call ≠ some (wire.ownAnswer call) := by
  rw [Call.Delivers] at delivers
  obtain ⟨answer, rest, unread⟩ := List.exists_cons_of_ne_nil left
  have older := (coherent answer (unread ▸ List.mem_cons_self)).1
  intro own
  simp only [Wire.consumed, delivers, Wire.stream, unread, List.cons_append, List.head?_cons,
    Option.some.injEq] at own
  rw [own] at older
  exact absurd older (Nat.lt_irrefl _)

theorem readResponse_of_isJson {line : String} (isJson : IsJson codecs line) :
    (∃ value, readResponse codecs line = .ok value) ∨
      ∃ message, readResponse codecs line = .error (.proxyError message) := by
  obtain ⟨tree, parsed⟩ := isJson
  cases failed : tree.normalize.get "error" with
  | none => exact .inl ⟨_, by simp only [readResponse, parsed, failed]; rfl⟩
  | some error => exact .inr ⟨_, by simp only [readResponse, parsed, failed]; rfl⟩

theorem result_of_consumed {answer : Nat × String} (consumed : wire.consumed call = some answer) :
    wire.result codecs call = readResponse codecs answer.2 := by
  cases delivery : call.delivery with
  | writeFailed | timedOut => simp [Wire.consumed, delivery] at consumed
  | delivered =>
      simp only [Wire.consumed, delivery] at consumed
      simp [Wire.result, GpgSaClient.request, RequestIo.result, Wire.io, delivery, consumed]

theorem not_delivers_result (codecs : Codecs) (wire : Wire) (silent : ¬ call.Delivers) :
    (∃ error, wire.result codecs call = .error (.writeRequest error)) ∨
      ∃ error, wire.result codecs call = .error (.readResponse error) := by
  cases delivery : call.delivery with
  | writeFailed error =>
      refine .inl ⟨error, ?_⟩
      simp [Wire.result, GpgSaClient.request, RequestIo.result, Wire.io, delivery]
  | timedOut error =>
      refine .inr ⟨error, ?_⟩
      simp [Wire.result, GpgSaClient.request, RequestIo.result, Wire.io, delivery]
  | delivered => exact absurd delivery silent

theorem correlates_iff (coherent : wire.Coherent codecs) :
    Correlates codecs ⟨wire, call, final⟩ ↔ (call.Delivers → wire.unread = []) := by
  constructor
  · intro correlates delivers
    by_contra left
    have other := consumed_other delivers coherent left
    obtain ⟨answer, rest, unread⟩ := List.exists_cons_of_ne_nil left
    have consumed : wire.consumed call = some answer := by
      rw [Call.Delivers] at delivers
      simp [Wire.consumed, Wire.stream, delivers, unread]
    have result : wire.result codecs call = readResponse codecs answer.2 :=
      result_of_consumed consumed
    rcases readResponse_of_isJson (coherent answer (unread ▸ List.mem_cons_self)).2 with
      ⟨value, read⟩ | ⟨message, read⟩
    · exact other (correlates.value value (result.trans read))
    · exact other (correlates.proxyError message (result.trans read))
  · intro empty
    by_cases delivers : call.Delivers
    · have own := consumed_own delivers (empty delivers)
      refine ⟨fun _ _ => own, fun _ _ => own, fun bytes signed => ?_⟩
      rwa [result_of_consumed own] at signed
    · rcases not_delivers_result codecs wire delivers with
        ⟨error, result⟩ | ⟨error, result⟩ <;>
        constructor <;> simp [result, Except.bind]

/-! ### Runs -/

theorem unread_run (run : Run (Step codecs) .connect trace final) :
    final.unread = [] ↔ ∀ transition ∈ trace, ¬ transition.label.TimesOut :=
  run.snoc_induction (motive := fun trace final =>
      final.unread = [] ↔ ∀ transition ∈ trace, ¬ transition.label.TimesOut)
    (by simp [Wire.connect]) fun trace before call after _ ih step => by
      obtain ⟨_, rfl⟩ := step
      rw [unread_handle, ih, List.forall_mem_append, List.forall_mem_singleton]

theorem coherent_run (run : Run (Step codecs) .connect trace final) : final.Coherent codecs :=
  Reachable.invariant (Wire.Coherent codecs) (fun _ _ _ step => step.coherent)
    (by simp [Wire.Coherent, Wire.connect]) ⟨trace, run⟩

/-- All calls of a run get their own answers exactly when no read succeeds
after one that timed out. -/
theorem run_correlates_iff (run : Run (Step codecs) .connect trace final) :
    (∀ transition ∈ trace, Correlates codecs transition) ↔
      trace.Pairwise fun earlier later => earlier.label.TimesOut → ¬ later.label.Delivers :=
  run.snoc_induction (motive := fun trace _ =>
      (∀ transition ∈ trace, Correlates codecs transition) ↔
        trace.Pairwise fun earlier later => earlier.label.TimesOut → ¬ later.label.Delivers)
    (by simp) fun trace before call after soFar ih step => by
      rw [List.forall_mem_append, List.forall_mem_singleton, List.pairwise_append, ih,
        correlates_iff (coherent_run soFar), unread_run soFar]
      simp only [List.pairwise_cons, List.not_mem_nil, false_implies, implies_true, List.Pairwise.nil,
        and_true, true_and, List.mem_singleton, forall_eq]
      exact and_congr_right fun _ =>
        ⟨fun silent earlier member timesOut delivers => silent delivers earlier member timesOut,
          fun silent delivers earlier member timesOut => silent earlier member timesOut delivers⟩

/-! ### An answer that comes late

The request for a first signature times out, and the next one reads its answer.
-/

namespace Sample

open Transparent

def signatureAnswer (id : UInt64) (signature : List UInt8) : Value :=
  .object [("id", .number (.posInt id)), ("jsonrpc", .string "2.0"),
    ("result", .object [("signature", .string (String.ofList (toBase64 signature)))])]

def lateAnswers : List Value := [signatureAnswer 1 [11], signatureAnswer 2 [22]]

def lateCodecs : Codecs := simpleCodecs (lateAnswers.map fun tree => (tree.toJson, tree))

def wouldBlock : OneLine := ⟨"Resource temporarily unavailable (os error 11)", by decide⟩

def signCall (data : UInt8) (answer : Value) (delivery : Delivery) : Call where
  method := "gpg.sign_request"
  params := GpgSaClient.signParams lateCodecs 0 [] [data]
  answer := answer.toJson ++ "\n"
  delivery := delivery

def firstCall : Call := signCall 1 (signatureAnswer 1 [11]) (.timedOut wouldBlock)

def secondCall : Call := signCall 2 (signatureAnswer 2 [22]) .delivered

def lateWire : Wire := Wire.connect.handle lateCodecs firstCall

def lateTrace : List (Transition Wire Call) :=
  [⟨.connect, firstCall, lateWire⟩, ⟨lateWire, secondCall, lateWire.handle lateCodecs secondCall⟩]

theorem trimmed_answer (id : UInt64) (signature : List UInt8) (data : UInt8) (delivery : Delivery) :
    String.ofList (trimEnd (signCall data (signatureAnswer id signature) delivery).answer.toList) =
      (signatureAnswer id signature).toJson :=
  (congrArg String.ofList (trimEnd_toJson _)).trans String.ofList_toList

theorem parse_firstAnswer : lateCodecs.parseJson (String.ofList (trimEnd firstCall.answer.toList)) =
    .ok (signatureAnswer 1 [11]) := by
  rw [firstCall, trimmed_answer]
  simp [lateCodecs, simpleCodecs, lateAnswers, List.lookup_cons_self]

theorem parse_secondAnswer :
    lateCodecs.parseJson (String.ofList (trimEnd secondCall.answer.toList)) =
      .ok (signatureAnswer 2 [22]) := by
  have different : ((signatureAnswer 2 [22]).toJson == (signatureAnswer 1 [11]).toJson) = false := by
    decide +kernel
  rw [secondCall, trimmed_answer]
  simp [lateCodecs, simpleCodecs, lateAnswers, List.lookup_cons, different]

theorem late_run : Run (Step lateCodecs) .connect lateTrace (lateWire.handle lateCodecs secondCall) :=
  .cons ⟨⟨signatureAnswer 1 [11], parse_firstAnswer, rfl⟩, rfl⟩
    (.cons ⟨⟨signatureAnswer 2 [22], parse_secondAnswer, rfl⟩, rfl⟩ (.nil _))

end Sample

open Sample in
theorem late_run_correlates_iff :
    (∀ transition ∈ lateTrace, Correlates lateCodecs transition) ↔
      lateTrace.Pairwise fun earlier later => earlier.label.TimesOut → ¬ later.label.Delivers :=
  run_correlates_iff late_run

open Sample in
/-- The second call returns the signature of the first call's data. -/
theorem late_answer_misread :
    Run (Step lateCodecs) .connect lateTrace (lateWire.handle lateCodecs secondCall) ∧
      (lateWire.result lateCodecs secondCall).bind (GpgSaClient.signature lateCodecs) = .ok [11] ∧
      (readResponse lateCodecs secondCall.answer).bind (GpgSaClient.signature lateCodecs) =
        .ok [22] ∧
      ¬ ∀ transition ∈ lateTrace, Correlates lateCodecs transition := by
  have misread : (lateWire.result lateCodecs secondCall).bind (GpgSaClient.signature lateCodecs) =
      .ok [11] := by
    have consumed : lateWire.consumed secondCall = some (0, firstCall.answer) := rfl
    rw [result_of_consumed consumed]
    simp only [readResponse, parse_firstAnswer]
    rfl
  have own : (readResponse lateCodecs secondCall.answer).bind (GpgSaClient.signature lateCodecs) =
      .ok [22] := by
    simp only [readResponse, parse_secondAnswer]
    rfl
  refine ⟨late_run, misread, own, fun correlates => ?_⟩
  have kept := (correlates _ (List.mem_cons_of_mem _ List.mem_cons_self)).signature [11] misread
  rw [own] at kept
  cases kept

end KeyMaster.ScdShim
