import KeyMaster.GpgSa.Forwarding

namespace KeyMaster.GpgSa

open Data

/-! The proxy never gets stuck: whatever it has read is answered. -/

variable {codecs : Codecs} {proxy before after : Proxy} {number : Nat} {shim next : Shim}
  {request : JsonRpcRequest} {label : Label} {answer : JsonRpcRequest → String}

/-- The steps of a proxy that is left alone by its shims, with an avatar that
answers as it is told and stays. -/
def Label.Serves (answer : JsonRpcRequest → String) : Label → Prop
  | .accept | .readRequest _ _ | .disconnect _ | .avatarCloses => False
  | .avatarAnswers request text => text = answer request
  | .write _ written => written = true
  | .lockWriter _ | .lockReader _ | .send _ | .sendFails _ _ | .receive _ _ _
  | .receiveUnreadable _ _ _ | .receiveEnds _ _ | .unlockReader _ | .unlockWriter _ => True

def Handler.isClosed : Handler → Bool
  | .closed => true
  | _ => false

/-- An open connection stays open, and has sent no more. -/
def Shim.Stays (shim later : Shim) : Prop :=
  shim.handler.isClosed = false →
    later.requests = shim.requests ∧ later.handler.isClosed = false

/-! ### What is left to do -/

/-- The steps that a handler has before it, the avatar's answer among them. -/
def Handler.left : Handler → Nat
  | .forwarding _ .lockWriter => 8
  | .forwarding _ .lockReader => 7
  | .forwarding _ .send => 6
  | .forwarding _ .receive => 4
  | .returning _ .unlockReader => 3
  | .returning _ .unlockWriter => 2
  | .returning _ .write => 1
  | .reading | .closed => 0

def Proxy.unanswered (proxy : Proxy) : Nat :=
  if proxy.broken then 0 else proxy.avatar.sent.length - proxy.avatar.answers.length

def Proxy.left (proxy : Proxy) : Nat :=
  (proxy.shims.map fun shim => shim.handler.left).sum + proxy.unanswered

/-- Whoever holds the reader lock holds the writer lock too. -/
theorem Handler.holdsWriter_of_holdsReader {handler : Handler} (reads : handler.holdsReader = true) :
    handler.holdsWriter = true := by
  unfold Handler.holdsReader at reads
  split at reads
  · rfl
  · rfl
  · rfl
  · cases reads

theorem Handler.idle {handler : Handler} (rest : handler.left = 0) :
    handler = .reading ∨ handler = .closed := by
  unfold Handler.left at rest
  split at rest
  all_goals first | exact .inl rfl | exact .inr rfl | cases rest

theorem Handler.left_le (handler : Handler) : handler.left ≤ 8 := by
  unfold Handler.left
  split <;> omega

theorem Guarded.unanswered_le (guarded : Guarded proxy) : proxy.unanswered ≤ 1 := by
  rw [Proxy.unanswered]
  rcases guarded.avatar with
      ⟨⟨unread, unanswered⟩, done⟩ | ⟨request, ⟨⟨unread, unanswered⟩, _, last⟩, _⟩ <;>
    split <;> omega

theorem Guarded.left_le (guarded : Guarded proxy) : proxy.left ≤ 8 * proxy.shims.length + 1 := by
  have each := sum_map_le (fun shim : Shim => shim.handler.left_le) proxy.shims
  have unanswered := guarded.unanswered_le
  rw [Proxy.left]
  omega

theorem left_set (next : Shim) (found : proxy.shims[number]? = some shim) :
    ((proxy.shims.set number next).map fun shim => shim.handler.left).sum + shim.handler.left =
      (proxy.shims.map fun shim => shim.handler.left).sum + next.handler.left :=
  sum_map_set (fun shim => shim.handler.left) next found

/-! ### A step that lessens it -/

/-- A step of the proxy or of the avatar after which less is left. -/
def Lessens (codecs : Codecs) (answer : JsonRpcRequest → String) (proxy : Proxy) : Prop :=
  ∃ label after, label.Serves answer ∧ Step codecs proxy label after ∧ after.left < proxy.left

theorem lessens_of_set (label : Label) (found : proxy.shims[number]? = some shim)
    (serves : label.Serves answer)
    (step : Step codecs proxy label after) (isNext : after.shims = proxy.shims.set number next)
    (less : next.handler.left + after.unanswered < shim.handler.left + proxy.unanswered) :
    Lessens codecs answer proxy := by
  refine ⟨label, after, serves, step, ?_⟩
  have sum := left_set next found
  rw [Proxy.left, Proxy.left, isNext]
  omega

theorem Guarded.lessens_send (guarded : Guarded proxy) (found : proxy.shims[number]? = some shim)
    (isNext : shim.handler = .forwarding request .send) : Lessens codecs answer proxy := by
  cases connected : proxy.broken with
  | true =>
      refine lessens_of_set (.sendFails number "") found trivial
        (.sendFails found isNext connected) rfl ?_
      have same : (proxy.settle number shim request (.failed "")).unanswered = proxy.unanswered := rfl
      rw [same, isNext]
      exact Nat.add_lt_add_right (by decide : 3 < 6) _
  | false =>
      have settled := guarded.settled found isNext connected
      refine lessens_of_set (.send number) found trivial (.send found isNext connected) rfl ?_
      obtain ⟨⟨unread, unanswered⟩, done⟩ := settled
      simp only [Proxy.unanswered, Proxy.setHandler, Proxy.setShim, connected, Conversation.send,
        List.length_append, List.length_singleton, isNext, Handler.left, Bool.false_eq_true, if_false]
      omega

theorem Guarded.lessens_receive (guarded : Guarded proxy) (found : proxy.shims[number]? = some shim)
    (isNext : shim.handler = .forwarding request .receive) : Lessens codecs answer proxy := by
  have awaits := guarded.receiving number request ⟨shim, found, isNext⟩
  cases connected : proxy.broken with
  | true =>
      refine lessens_of_set (.receiveEnds number "") found trivial
        (.receiveEnds found isNext connected) rfl ?_
      have same : (proxy.settle number shim request (.failed "")).unanswered = proxy.unanswered := rfl
      rw [same, isNext]
      exact Nat.add_lt_add_right (by decide : 3 < 4) _
  | false =>
      rcases awaits.asked_or_arrived with ⟨asked, more⟩ | ⟨text, arrived, all⟩
      · refine ⟨.avatarAnswers request (answer request), _, rfl, .avatarAnswers asked connected, ?_⟩
        simp only [Proxy.left, Proxy.unanswered, connected, Conversation.answer, List.length_append,
          List.length_singleton, Bool.false_eq_true, if_false]
        omega
      · cases reads : readResponseLine codecs text with
        | some answer =>
            refine lessens_of_set (.receive number text answer) found trivial
              (.receive found isNext arrived reads) rfl ?_
            rw [isNext]
            exact Nat.add_lt_add_right (by decide : 3 < 4) _
        | none =>
            refine lessens_of_set (.receiveUnreadable number text "") found trivial
              (.receiveUnreadable found isNext arrived reads) rfl ?_
            rw [isNext]
            exact Nat.add_lt_add_right (by decide : 3 < 4) _

/-- Who holds the writer lock can go on. -/
theorem Guarded.lessens_holder (guarded : Guarded proxy) (found : proxy.shims[number]? = some shim)
    (holding : shim.handler.holdsWriter = true) : Lessens codecs answer proxy := by
  cases handler : shim.handler with
  | reading =>
      rw [handler] at holding
      cases holding
  | closed =>
      rw [handler] at holding
      cases holding
  | forwarding request stage =>
      cases stage with
      | lockWriter =>
          rw [handler] at holding
          cases holding
      | lockReader =>
          have free : proxy.reader = none := by
            cases held : proxy.reader with
            | none => rfl
            | some other =>
                obtain ⟨reader, isReader, reads⟩ := (guarded.reader other).mp held
                have same := guarded.writer.unique isReader (Handler.holdsWriter_of_holdsReader reads)
                  found holding
                rw [same, found] at isReader
                cases isReader
                simp only [handler, Handler.holdsReader, Bool.false_eq_true] at reads
          refine lessens_of_set (.lockReader number) found trivial
            (.lockReader found handler free) rfl ?_
          rw [handler]
          exact Nat.add_lt_add_right (by decide : 6 < 7) _
      | send => exact guarded.lessens_send found handler
      | receive => exact guarded.lessens_receive found handler
  | returning response stage =>
      cases stage with
      | unlockReader =>
          refine lessens_of_set (.unlockReader number) found trivial
            (.unlockReader found handler) rfl ?_
          rw [handler]
          exact Nat.add_lt_add_right (by decide : 2 < 3) _
      | unlockWriter =>
          refine lessens_of_set (.unlockWriter number) found trivial
            (.unlockWriter found handler) rfl ?_
          rw [handler]
          exact Nat.add_lt_add_right (by decide : 1 < 2) _
      | write =>
          rw [handler] at holding
          cases holding

/-- Who does not hold it, and has something left to do, takes it or writes. -/
theorem lessens_other (found : proxy.shims[number]? = some shim) (free : proxy.writer = none)
    (idle : shim.handler.holdsWriter = false) (busy : shim.handler.left ≠ 0) :
    Lessens codecs answer proxy := by
  cases handler : shim.handler with
  | reading | closed =>
      rw [handler] at busy
      exact absurd rfl busy
  | forwarding request stage =>
      cases stage with
      | lockWriter =>
          refine lessens_of_set (.lockWriter number) found trivial
            (.lockWriter found handler free) rfl ?_
          rw [handler]
          exact Nat.add_lt_add_right (by decide : 7 < 8) _
      | lockReader | send | receive =>
          rw [handler] at idle
          cases idle
  | returning response stage =>
      cases stage with
      | unlockReader | unlockWriter =>
          rw [handler] at idle
          cases idle
      | write =>
          refine lessens_of_set (.write number true) found rfl
            (.write found handler) rfl ?_
          rw [handler]
          exact Nat.add_lt_add_right (by decide : 0 < 1) _

theorem Guarded.lessens (guarded : Guarded proxy) (busy : proxy.left ≠ 0) :
    Lessens codecs answer proxy := by
  cases held : proxy.writer with
  | some number =>
      obtain ⟨shim, found, holding⟩ := (guarded.writer number).mp held
      exact guarded.lessens_holder found holding
  | none =>
      have some_busy : (proxy.shims.map fun shim => shim.handler.left).sum ≠ 0 := by
        intro rest
        rw [Proxy.left, rest, Nat.zero_add, Proxy.unanswered] at busy
        rcases guarded.avatar with
          ⟨⟨unread, unanswered⟩, done⟩ | ⟨request, _, gone | ⟨number, shim, found, isNext⟩⟩
        · split at busy <;> omega
        · rw [gone] at busy
          exact busy rfl
        · have writes := guarded.writer.held found (by rw [isNext]; rfl)
          rw [held] at writes
          cases writes
      obtain ⟨number, shim, found, heavy⟩ := exists_weight_of_sum_ne_zero some_busy
      exact lessens_other found held ((held ▸ guarded.writer).not_holds found) heavy

/-! ### Connections that stay open -/

theorem Step.stays {first : List Shim} (step : Step codecs before label after)
    (serves : label.Serves answer) (stay : Follows Shim.Stays first before.shims) :
    Follows Shim.Stays first after.shims := by
  have goesOn : ∀ {shim next : Shim}, next.requests = shim.requests → next.handler.isClosed = false →
      ∀ earlier, Shim.Stays earlier shim → Shim.Stays earlier next := by
    intro shim next requests isOpen earlier stays wasOpen
    exact ⟨requests.trans (stays wasOpen).1, isOpen⟩
  cases step with
  | accept | readRequest | disconnect | avatarCloses => exact serves.elim
  | avatarAnswers => exact stay
  | lockWriter found | lockReader found | send found | sendFails found | receive found
  | receiveUnreadable found | receiveEnds found | unlockReader found | unlockWriter found =>
      exact stay.set found _ (goesOn rfl rfl)
  | write found isNext =>
      cases serves
      exact stay.set found _ (goesOn rfl rfl)

theorem Proxy.idle_of_rest (rest : proxy.left = 0) (found : proxy.shims[number]? = some shim) :
    shim.handler = .reading ∨ shim.handler = .closed := by
  have none_left : (proxy.shims.map fun shim => shim.handler.left).sum = 0 := by
    rw [Proxy.left] at rest
    omega
  exact Handler.idle
    (List.sum_eq_zero_iff.mp none_left _ (List.mem_map_of_mem (List.mem_of_getElem? found)))

theorem Guarded.free_of_rest (guarded : Guarded proxy) (rest : proxy.left = 0) :
    proxy.writer = none ∧ proxy.reader = none := by
  constructor
  · cases held : proxy.writer with
    | none => rfl
    | some number =>
        obtain ⟨shim, found, holding⟩ := (guarded.writer number).mp held
        rcases Proxy.idle_of_rest rest found with handler | handler <;>
          simp only [handler, Handler.holdsWriter, Bool.false_eq_true] at holding
  · cases held : proxy.reader with
    | none => rfl
    | some number =>
        obtain ⟨shim, found, holding⟩ := (guarded.reader number).mp held
        rcases Proxy.idle_of_rest rest found with handler | handler <;>
          simp only [handler, Handler.holdsReader, Bool.false_eq_true] at holding

/-- The proxy reaches a state from which no step of its own is left, with the
connections that it has. -/
theorem Guarded.drains (codecs : Codecs) (guarded : Guarded proxy) (answer : JsonRpcRequest → String) :
    ∃ trace final, Run (Step codecs) proxy trace final ∧
      (∀ transition ∈ trace, transition.label.Serves answer) ∧
      (Guarded final ∧ Follows Shim.Stays proxy.shims final.shims) ∧ final.left = 0 ∧
      trace.length ≤ proxy.left := by
  refine exists_run_to_rest (fun state => Guarded state ∧ Follows Shim.Stays proxy.shims state.shims)
    (fun _ => Label.Serves answer) Proxy.left ?_ ⟨guarded, .refl (fun _ isOpen => ⟨rfl, isOpen⟩) _⟩
  rintro state ⟨holds, stay⟩ busy
  have lessens : Lessens codecs answer state := holds.lessens busy
  obtain ⟨label, after, serves, step, less⟩ := lessens
  exact ⟨label, after, serves, step, ⟨step.guarded holds, step.stays serves stay⟩, less⟩

/-- From every reachable state the proxy, if no shim sends more and the avatar
answers what it is sent, comes to rest: both locks are free, and every
connection that is open has a response to each of its requests. -/
theorem reachable_drains {connectText certText armor : String} {start : Proxy}
    (started : startUp codecs connectText certText = .ok (armor, start))
    (reachable : Reachable (Step codecs) start proxy) (answer : JsonRpcRequest → String) :
    ∃ trace final, Run (Step codecs) proxy trace final ∧
      (∀ transition ∈ trace, transition.label.Serves answer) ∧
      trace.length ≤ 8 * proxy.shims.length + 1 ∧ final.writer = none ∧ final.reader = none ∧
      ∀ (number : Nat) (shim : Shim), proxy.shims[number]? = some shim →
        shim.handler.isClosed = false →
        ∃ later : Shim, final.shims[number]? = some later ∧ later.requests = shim.requests ∧
          later.responses.length = shim.requests.length := by
  have guarded := reachable_guarded started reachable
  obtain ⟨trace, final, run, serves, ⟨last, stay⟩, rest, short⟩ := guarded.drains codecs answer
  obtain ⟨writer, reader⟩ := last.free_of_rest rest
  refine ⟨trace, final, run, serves, short.trans guarded.left_le, writer, reader, ?_⟩
  intro number shim found isOpen
  obtain ⟨later, isLater, stays⟩ := stay number shim found
  obtain ⟨requests, isOpen⟩ := stays isOpen
  refine ⟨later, isLater, requests, ?_⟩
  have coherent := (reachable_paired started (reachable.run run)).coherent number later isLater
  rcases Proxy.idle_of_rest rest isLater with handler | handler
  · rw [Shim.Coherent, handler] at coherent
    rw [coherent.1, requests]
  · rw [handler] at isOpen
    cases isOpen

namespace Sample

/-- Both shims have sent a request, the second one holds both locks. -/
theorem one_locked : ∃ busy, Reachable (Step proxyCodecs) started busy ∧
    busy.shims.map Shim.requests = [[decryptRequest], [keysRequest]] ∧ busy.reader = some 1 := by
  refine ⟨_, ⟨_,
    .cons (.accept _) <|
    .cons (.accept _) <|
    .cons (@Step.readRequest _ _ 0 _ (line (requestTree 7 "gpg.decrypt")) decryptRequest rfl rfl rfl) <|
    .cons (@Step.readRequest _ _ 1 _ (line (requestTree 1 "gpg.get_public_keys")) keysRequest
      rfl rfl rfl) <|
    .cons (@Step.lockWriter _ _ 1 _ _ rfl rfl rfl) <|
    .cons (@Step.lockReader _ _ 1 _ _ rfl rfl rfl) <|
    .nil _⟩, rfl, rfl⟩

end Sample

open Sample in
theorem one_locked_drains : ∃ busy, Reachable (Step proxyCodecs) started busy ∧
    busy.shims.map Shim.requests = [[decryptRequest], [keysRequest]] ∧ busy.reader = some 1 ∧
    ∃ trace final, Run (Step proxyCodecs) busy trace final ∧
      (∀ transition ∈ trace, transition.label.Serves fun _ => line keys) ∧
      trace.length ≤ 8 * busy.shims.length + 1 ∧ final.writer = none ∧ final.reader = none ∧
      ∀ (number : Nat) (shim : Shim), busy.shims[number]? = some shim →
        shim.handler.isClosed = false →
        ∃ later : Shim, final.shims[number]? = some later ∧ later.requests = shim.requests ∧
          later.responses.length = shim.requests.length := by
  obtain ⟨busy, reachable, requests, reader⟩ := one_locked
  exact ⟨busy, reachable, requests, reader, reachable_drains startUp_started reachable _⟩

end KeyMaster.GpgSa
