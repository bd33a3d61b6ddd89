import KeyMaster.Data.Simulation
import KeyMaster.GpgSa.Proxy

namespace KeyMaster.GpgSa

open Data

/-! Whose answer a shim gets from the proxy. -/

variable {codecs : Codecs}

abbrev Served := Calls.Exchange JsonRpcRequest Ending

/-- No caller is put off: only its exchange leads to a reply. -/
abbrev ServiceStep := Calls.Step (fun request ending => Ending.response request ending) fun _ _ => False

def Proxy.view (proxy : Proxy) : Calls.Service JsonRpcRequest JsonRpcResponse Ending :=
  ⟨proxy.shims.map fun shim => ⟨shim.requests, shim.responses⟩, proxy.exchanges⟩

/-- The answer of an exchange is the avatar's to the request's own line, which
is none of the two sent at the start. -/
def Ending.Own (codecs : Codecs) (avatar : Conversation JsonRpcRequest String)
    (request : JsonRpcRequest) : Ending → Prop
  | .answered position text answer =>
      2 ≤ position ∧ avatar.Answered position request text ∧ readResponseLine codecs text = some answer
  | .failed _ => True

/-- Every shim has its responses in the order of its requests, one each, with at
most the last one missing: the answer that the avatar gave to this request and
that no other request was given, or an error of the proxy that carries the
request's id.  The avatar is never sent a request before the answer to the
last one was read. -/
structure Relays (codecs : Codecs) (proxy : Proxy) : Prop where
  correlates : Calls.Correlates (fun request ending => Ending.response request ending)
    (fun _ _ => False) proxy.view
  own : ∀ exchange ∈ proxy.exchanges, exchange.ending.Own codecs proxy.avatar exchange.call
  once : (proxy.exchanges.filterMap fun exchange => exchange.ending.position).Nodup
  alternates : proxy.avatar.sent.length ≤ proxy.avatar.read + 1

/-! ### Requests and exchanges -/

def ServedBelow (exchanges : List Served) (number count : Nat) : Prop :=
  Calls.Below (exchanges.map Calls.Exchange.ticket) number count

def Shim.Open (shim : Shim) (request : JsonRpcRequest) : Prop :=
  shim.requests[shim.responses.length]? = some request ∧
    shim.requests.length = shim.responses.length + 1

/-- Where a handler stands with its requests and their exchanges. -/
def Shim.Coherent (exchanges : List Served) (number : Nat) (shim : Shim) : Prop :=
  match shim.handler with
  | .reading => shim.responses.length = shim.requests.length ∧
      ServedBelow exchanges number shim.responses.length
  | .forwarding request _ => shim.Open request ∧ ServedBelow exchanges number shim.responses.length
  | .returning response _ => ∃ exchange ∈ exchanges,
      exchange.ticket = ⟨number, shim.responses.length⟩ ∧ shim.Open exchange.call ∧
        response = exchange.ending.response exchange.call ∧
        ServedBelow exchanges number (shim.responses.length + 1)
  | .closed => True

structure Paired (shims : List Shim) (exchanges : List Served) : Prop where
  coherent : ∀ (number : Nat) (shim : Shim), shims[number]? = some shim →
    shim.Coherent exchanges number
  known : ∀ exchange ∈ exchanges, exchange.ticket.caller < shims.length

variable {shims : List Shim} {exchanges : List Served} {served : Served} {number : Nat}
  {shim next : Shim} {request : JsonRpcRequest}

theorem ServedBelow.add {count : Nat} (below : ServedBelow exchanges number count)
    (own : served.ticket.caller = number → served.ticket.number < count) :
    ServedBelow (exchanges ++ [served]) number count := by
  rw [ServedBelow, List.map_append]
  exact Calls.Below.add below own

theorem Shim.Coherent.add (coherent : shim.Coherent exchanges number)
    (other : served.ticket.caller ≠ number) : shim.Coherent (exchanges ++ [served]) number := by
  rw [Shim.Coherent] at coherent ⊢
  cases handler : shim.handler with
  | reading =>
      rw [handler] at coherent
      exact ⟨coherent.1, coherent.2.add fun own => absurd own other⟩
  | forwarding request stage =>
      rw [handler] at coherent
      exact ⟨coherent.1, coherent.2.add fun own => absurd own other⟩
  | returning response stage =>
      rw [handler] at coherent
      obtain ⟨exchange, member, isTicket, isOpen, isResponse, below⟩ := coherent
      exact ⟨exchange, List.mem_append_left _ member, isTicket, isOpen, isResponse,
        below.add fun own => absurd own other⟩
  | closed => trivial

theorem Paired.join (paired : Paired shims exchanges) :
    Paired (shims ++ [⟨[], [], .reading⟩]) exchanges where
  coherent number shim found := by
    by_cases old : number < shims.length
    · rw [List.getElem?_append_left old] at found
      exact paired.coherent number shim found
    · rw [List.getElem?_append_right (Nat.not_lt.mp old)] at found
      rw [List.mem_singleton.mp (List.mem_of_getElem? found)]
      refine ⟨rfl, ?_⟩
      intro ticket member own
      obtain ⟨exchange, inside, isTicket⟩ := List.mem_map.mp member
      rw [← isTicket] at own
      exact absurd (own ▸ paired.known exchange inside) old
  known exchange member := by
    rw [List.length_append]
    exact Nat.lt_add_right _ (paired.known exchange member)

theorem Paired.set (paired : Paired shims exchanges) (found : shims[number]? = some shim)
    (own : next.Coherent exchanges number) : Paired (shims.set number next) exchanges where
  coherent other changed isOther := by
    rw [getElem?_set_of_some found] at isOther
    split at isOther
    · rename_i same
      rw [← Option.some.inj isOther, same]
      exact own
    · exact paired.coherent other changed isOther
  known exchange member := by
    rw [List.length_set]
    exact paired.known exchange member

/-- A handler that goes on with the same request or response. -/
theorem Paired.advance (paired : Paired shims exchanges) (found : shims[number]? = some shim)
    {handler : Handler}
    (same : Shim.Coherent exchanges number { shim with handler } = shim.Coherent exchanges number) :
    Paired (shims.set number { shim with handler }) exchanges :=
  paired.set found (same ▸ paired.coherent number shim found)

theorem Paired.forwarding {stage : Forwarding} (paired : Paired shims exchanges)
    (found : shims[number]? = some shim) (isNext : shim.handler = .forwarding request stage) :
    shim.Open request ∧ ServedBelow exchanges number shim.responses.length := by
  have coherent := paired.coherent number shim found
  rwa [Shim.Coherent, isNext] at coherent

theorem Paired.settle {stage : Forwarding} (paired : Paired shims exchanges)
    (found : shims[number]? = some shim) (isNext : shim.handler = .forwarding request stage)
    (ending : Ending) :
    Paired (shims.set number { shim with
        handler := .returning (ending.response request) .unlockReader })
      (exchanges ++ [⟨⟨number, shim.responses.length⟩, request, ending⟩]) where
  coherent other changed isOther := by
    obtain ⟨isOpen, below⟩ := paired.forwarding found isNext
    rw [getElem?_set_of_some found] at isOther
    split at isOther
    · rename_i same
      rw [← Option.some.inj isOther, same]
      refine ⟨_, List.mem_append_right _ List.mem_cons_self, rfl, isOpen, rfl, ?_⟩
      exact ServedBelow.add (Calls.Below.succ below) fun _ => Nat.lt_succ_self _
    · rename_i different
      exact (paired.coherent other changed isOther).add (Ne.symm different)
  known exchange member := by
    rw [List.length_set]
    rcases List.mem_append.mp member with old | new
    · exact paired.known exchange old
    · rw [List.mem_singleton.mp new]
      exact (List.getElem?_eq_some_iff.mp found).1

variable {before after : Proxy} {label : Label}

theorem Step.paired (step : Step codecs before label after)
    (paired : Paired before.shims before.exchanges) : Paired after.shims after.exchanges := by
  cases step with
  | accept => exact paired.join
  | readRequest found reading reads =>
      refine paired.set found ?_
      have coherent := paired.coherent _ _ found
      rw [Shim.Coherent, reading] at coherent
      refine ⟨⟨?_, ?_⟩, coherent.2⟩
      · rw [coherent.1, List.getElem?_concat_length]
      · rw [List.length_append, List.length_singleton, coherent.1]
  | disconnect found reading => exact paired.set found trivial
  | lockWriter found isNext free | lockReader found isNext free | send found isNext connected =>
      exact paired.advance found (by simp only [Shim.Coherent, isNext]; rfl)
  | sendFails found isNext closed | receive found isNext arrived reads
  | receiveUnreadable found isNext arrived reads | receiveEnds found isNext closed =>
      exact paired.settle found isNext _
  | avatarAnswers asked connected => exact paired
  | avatarCloses => exact paired
  | unlockReader found isNext | unlockWriter found isNext =>
      exact paired.advance found (by simp only [Shim.Coherent, isNext]; rfl)
  | @write number shim response written found isNext =>
      refine paired.set found ?_
      have coherent := paired.coherent _ _ found
      rw [Shim.Coherent, isNext] at coherent
      obtain ⟨exchange, member, isTicket, isOpen, isResponse, below⟩ := coherent
      cases written with
      | false => trivial
      | true =>
          refine ⟨?_, ?_⟩
          · simp only [if_true, List.length_append, List.length_singleton, isOpen.2]
          · simpa only [if_true, List.length_append, List.length_singleton] using below

/-! ### The locks and the avatar connection -/

def Receives (shims : List Shim) (number : Nat) (request : JsonRpcRequest) : Prop :=
  ∃ shim, shims[number]? = some shim ∧ shim.handler = .forwarding request .receive

/-- Each lock names its holder; a handler that receives awaits the answer to its
request, and otherwise no answer is awaited unless the avatar is gone. -/
structure Guarded (proxy : Proxy) : Prop where
  writer : Guards (fun shim => shim.handler.holdsWriter) proxy.shims proxy.writer
  reader : Guards (fun shim => shim.handler.holdsReader) proxy.shims proxy.reader
  receiving : ∀ number request, Receives proxy.shims number request → proxy.avatar.Awaits request
  avatar : proxy.avatar.Settled ∨ ∃ request, proxy.avatar.Awaits request ∧
    (proxy.broken = true ∨ ∃ number, Receives proxy.shims number request)

variable {proxy : Proxy}

theorem receives_set (found : shims[number]? = some shim) {other : Nat} :
    Receives (shims.set number next) other request ↔
      if other = number then next.handler = .forwarding request .receive
      else Receives shims other request := by
  rw [Receives, getElem?_set_of_some found]
  split
  · simp
  · rfl

theorem receives_set_of_ne (found : shims[number]? = some shim)
    (before : ∀ request, shim.handler ≠ .forwarding request .receive)
    (after : ∀ request, next.handler ≠ .forwarding request .receive) {other : Nat} :
    Receives (shims.set number next) other request ↔ Receives shims other request := by
  rw [receives_set found]
  split
  · rename_i same
    rw [same]
    constructor
    · exact fun receives => absurd receives (after _)
    · rintro ⟨held, isHeld, receives⟩
      rw [found] at isHeld
      cases isHeld
      exact absurd receives (before _)
  · rfl

/-- Only the holder of the reader lock receives. -/
theorem Guarded.receives_eq (guarded : Guarded proxy) (found : proxy.shims[number]? = some shim)
    (holding : shim.handler.holdsReader = true) {other : Nat}
    (receives : Receives proxy.shims other request) : other = number := by
  obtain ⟨held, isHeld, isNext⟩ := receives
  exact guarded.reader.unique isHeld (by rw [isNext]; rfl) found holding

theorem Guarded.join (guarded : Guarded proxy) :
    Guarded { proxy with shims := proxy.shims ++ [⟨[], [], .reading⟩] } where
  writer := guarded.writer.join rfl
  reader := guarded.reader.join rfl
  receiving number request := by
    rintro ⟨shim, found, isNext⟩
    by_cases old : number < proxy.shims.length
    · rw [List.getElem?_append_left old] at found
      exact guarded.receiving number request ⟨shim, found, isNext⟩
    · rw [List.getElem?_append_right (Nat.not_lt.mp old)] at found
      rw [List.mem_singleton.mp (List.mem_of_getElem? found)] at isNext
      cases isNext
  avatar := by
    rcases guarded.avatar with settled | ⟨request, awaits, gone | ⟨number, shim, found, isNext⟩⟩
    · exact .inl settled
    · exact .inr ⟨request, awaits, .inl gone⟩
    · refine .inr ⟨request, awaits, .inr ⟨number, shim, ?_, isNext⟩⟩
      rwa [List.getElem?_append_left (List.getElem?_eq_some_iff.mp found).1]

/-- A handler that neither received nor receives leaves the avatar to others. -/
theorem Guarded.quiet {writer reader : Option Nat} {exchanges : List Served} (guarded : Guarded proxy)
    (found : proxy.shims[number]? = some shim)
    (before : ∀ request, shim.handler ≠ .forwarding request .receive)
    (after : ∀ request, next.handler ≠ .forwarding request .receive)
    (isWriter : Guards (fun shim => shim.handler.holdsWriter) (proxy.shims.set number next) writer)
    (isReader : Guards (fun shim => shim.handler.holdsReader) (proxy.shims.set number next) reader) :
    Guarded { proxy with shims := proxy.shims.set number next, writer, reader, exchanges } where
  writer := isWriter
  reader := isReader
  receiving other request receives :=
    guarded.receiving other request ((receives_set_of_ne found before after).mp receives)
  avatar := by
    rcases guarded.avatar with settled | ⟨request, awaits, gone | ⟨other, receives⟩⟩
    · exact .inl settled
    · exact .inr ⟨request, awaits, .inl gone⟩
    · exact .inr ⟨request, awaits, .inr ⟨other, (receives_set_of_ne found before after).mpr receives⟩⟩

theorem Guarded.settled (guarded : Guarded proxy) (found : proxy.shims[number]? = some shim)
    (isNext : shim.handler = .forwarding request .send) (connected : proxy.broken = false) :
    proxy.avatar.Settled := by
  rcases guarded.avatar with settled | ⟨awaited, awaits, gone | ⟨other, receives⟩⟩
  · exact settled
  · rw [connected] at gone
    cases gone
  · have same := guarded.receives_eq found (by rw [isNext]; rfl) receives
    obtain ⟨held, isHeld, isReceive⟩ := receives
    rw [same, found] at isHeld
    cases isHeld
    rw [isNext] at isReceive
    cases isReceive

theorem Guarded.send (guarded : Guarded proxy) (found : proxy.shims[number]? = some shim)
    (isNext : shim.handler = .forwarding request .send) (connected : proxy.broken = false) :
    Guarded { proxy.setHandler number shim (.forwarding request .receive) with
      avatar := proxy.avatar.send request } where
  writer := guarded.writer.keep found (by simp only [isNext]; rfl)
  reader := guarded.reader.keep found (by simp only [isNext]; rfl)
  receiving other asked receives := by
    have awaits := (guarded.settled found isNext connected).send request
    rw [Proxy.setHandler, Proxy.setShim, receives_set found] at receives
    split at receives
    · cases receives
      exact awaits
    · rename_i different
      exact absurd (guarded.receives_eq found (by rw [isNext]; rfl) receives) different
  avatar := by
    refine .inr ⟨request, (guarded.settled found isNext connected).send request, .inr ⟨number, ?_⟩⟩
    rw [Proxy.setHandler, Proxy.setShim, receives_set found, if_pos rfl]

theorem Guarded.take (guarded : Guarded proxy) (found : proxy.shims[number]? = some shim)
    (isNext : shim.handler = .forwarding request .receive) {text : String}
    (arrived : proxy.avatar.arrived? = some text) (ending : Ending) :
    Guarded { proxy.settle number shim request ending with avatar := proxy.avatar.take } where
  writer := guarded.writer.keep found (by simp only [isNext]; rfl)
  reader := guarded.reader.keep found (by simp only [isNext]; rfl)
  receiving other asked receives := by
    rw [Proxy.settle, Proxy.setHandler, Proxy.setShim, receives_set found] at receives
    split at receives
    · cases receives
    · rename_i different
      exact absurd (guarded.receives_eq found (by rw [isNext]; rfl) receives) different
  avatar := .inl ((guarded.receiving number request ⟨shim, found, isNext⟩).take arrived)

theorem Guarded.ends (guarded : Guarded proxy) (found : proxy.shims[number]? = some shim)
    (isNext : shim.handler = .forwarding request .receive) (closed : proxy.broken = true)
    (ending : Ending) : Guarded (proxy.settle number shim request ending) where
  writer := guarded.writer.keep found (by simp only [isNext]; rfl)
  reader := guarded.reader.keep found (by simp only [isNext]; rfl)
  receiving other asked receives := by
    rw [Proxy.settle, Proxy.setHandler, Proxy.setShim, receives_set found] at receives
    split at receives
    · cases receives
    · exact guarded.receiving other asked receives
  avatar := by
    rcases guarded.avatar with settled | ⟨awaited, awaits, _⟩
    · exact .inl settled
    · exact .inr ⟨awaited, awaits, .inl closed⟩

theorem Guarded.answered {text : String} (guarded : Guarded proxy)
    (asked : proxy.avatar.asked? = some request) :
    Guarded { proxy with avatar := proxy.avatar.answer text } where
  writer := guarded.writer
  reader := guarded.reader
  receiving number awaited receives := (guarded.receiving number awaited receives).answer asked text
  avatar := by
    rcases guarded.avatar with settled | ⟨awaited, awaits, reason⟩
    · rw [settled.asked?] at asked
      cases asked
    · exact .inr ⟨awaited, awaits.answer asked text, reason⟩

theorem Step.guarded (step : Step codecs before label after) (guarded : Guarded before) :
    Guarded after := by
  cases step with
  | accept => exact guarded.join
  | readRequest found reading reads =>
      exact guarded.quiet found (by simp [reading]) (by simp)
        (guarded.writer.keep found (by simp only [reading]; rfl))
        (guarded.reader.keep found (by simp only [reading]; rfl))
  | disconnect found reading =>
      exact guarded.quiet found (by simp [reading]) (by simp)
        (guarded.writer.keep found (by simp only [reading]; rfl))
        (guarded.reader.keep found (by simp only [reading]; rfl))
  | lockWriter found isNext free =>
      exact guarded.quiet found (by simp [isNext]) (by simp)
        ((free ▸ guarded.writer).acquire found rfl)
        (guarded.reader.keep found (by simp only [isNext]; rfl))
  | lockReader found isNext free =>
      exact guarded.quiet found (by simp [isNext]) (by simp)
        (guarded.writer.keep found (by simp only [isNext]; rfl))
        ((free ▸ guarded.reader).acquire found rfl)
  | send found isNext connected => exact guarded.send found isNext connected
  | sendFails found isNext closed =>
      exact guarded.quiet found (by simp [isNext]) (by simp)
        (guarded.writer.keep found (by simp only [isNext]; rfl))
        (guarded.reader.keep found (by simp only [isNext]; rfl))
  | avatarAnswers asked connected => exact guarded.answered asked
  | avatarCloses =>
      refine ⟨guarded.writer, guarded.reader, guarded.receiving, ?_⟩
      rcases guarded.avatar with settled | ⟨awaited, awaits, _⟩
      · exact .inl settled
      · exact .inr ⟨awaited, awaits, .inl rfl⟩
  | receive found isNext arrived reads => exact guarded.take found isNext arrived _
  | receiveUnreadable found isNext arrived reads => exact guarded.take found isNext arrived _
  | receiveEnds found isNext closed => exact guarded.ends found isNext closed _
  | unlockReader found isNext =>
      exact guarded.quiet found (by simp [isNext]) (by simp)
        (guarded.writer.keep found (by simp only [isNext]; rfl))
        (guarded.reader.release found (by rw [isNext]; rfl) rfl)
  | unlockWriter found isNext =>
      exact guarded.quiet found (by simp [isNext]) (by simp)
        (guarded.writer.release found (by rw [isNext]; rfl) rfl)
        (guarded.reader.keep found (by simp only [isNext]; rfl))
  | @write number shim response written found isNext =>
      cases written <;>
        exact guarded.quiet found (by simp [isNext]) (by simp)
          (guarded.writer.keep found (by simp only [isNext]; rfl))
          (guarded.reader.keep found (by simp only [isNext]; rfl))

/-! ### Answers -/

structure Exchanged (codecs : Codecs) (avatar : Conversation JsonRpcRequest String)
    (exchanges : List Served) : Prop where
  started : 2 ≤ avatar.read
  own : ∀ exchange ∈ exchanges, exchange.ending.Own codecs avatar exchange.call
  once : (exchanges.filterMap fun exchange => exchange.ending.position).Nodup

variable {avatar later : Conversation JsonRpcRequest String}

theorem Exchanged.grow (exchanged : Exchanged codecs avatar exchanges)
    (reads : avatar.read ≤ later.read)
    (keeps : ∀ position request text, avatar.Answered position request text →
      later.Answered position request text) : Exchanged codecs later exchanges where
  started := exchanged.started.trans reads
  own exchange member := by
    have own := exchanged.own exchange member
    cases ending : exchange.ending with
    | failed message => trivial
    | answered position text answer =>
        rw [ending] at own
        exact ⟨own.1, keeps _ _ _ own.2.1, own.2.2⟩
  once := exchanged.once

theorem Exchanged.fail {ticket : Calls.Ticket} {message : String}
    (exchanged : Exchanged codecs avatar exchanges) :
    Exchanged codecs avatar (exchanges ++ [⟨ticket, request, .failed message⟩]) where
  started := exchanged.started
  own exchange member := by
    rcases List.mem_append.mp member with old | new
    · exact exchanged.own exchange old
    · rw [List.mem_singleton.mp new]
      trivial
  once := by simpa [Ending.position] using exchanged.once

theorem Exchanged.succeed {ticket : Calls.Ticket} {text : String} {answer : JsonRpcResponse}
    (exchanged : Exchanged codecs avatar exchanges) (awaits : avatar.Awaits request)
    (arrived : avatar.arrived? = some text) (reads : readResponseLine codecs text = some answer) :
    Exchanged codecs avatar.take
      (exchanges ++ [⟨ticket, request, .answered avatar.read text answer⟩]) where
  started := Nat.le_succ_of_le exchanged.started
  own exchange member := by
    rcases List.mem_append.mp member with old | new
    · exact (exchanged.grow (Nat.le_succ _) fun _ _ _ answered => answered.take).own exchange old
    · rw [List.mem_singleton.mp new]
      exact ⟨exchanged.started, awaits.answered arrived, reads⟩
  once := by
    rw [List.filterMap_append, List.nodup_append]
    refine ⟨exchanged.once, List.nodup_singleton _, ?_⟩
    intro position member other isRead
    obtain ⟨exchange, isExchange, isPosition⟩ := List.mem_filterMap.mp member
    have own := exchanged.own exchange isExchange
    cases ending : exchange.ending with
    | failed message =>
        rw [ending] at isPosition
        cases isPosition
    | answered earlier _ _ =>
        rw [ending] at own isPosition
        cases isPosition
        rw [List.mem_singleton.mp isRead]
        exact Nat.ne_of_lt own.2.1.1

theorem Step.exchanged (step : Step codecs before label after) (guarded : Guarded before)
    (exchanged : Exchanged codecs before.avatar before.exchanges) :
    Exchanged codecs after.avatar after.exchanges := by
  cases step with
  | accept => exact exchanged
  | readRequest | disconnect | lockWriter | lockReader | avatarCloses | unlockReader | unlockWriter
  | write => exact exchanged
  | send => exact exchanged.grow (Nat.le_refl _) fun _ _ _ answered => answered.send _
  | avatarAnswers => exact exchanged.grow (Nat.le_refl _) fun _ _ _ answered => answered.answer _
  | sendFails found isNext closed | receiveEnds found isNext closed => exact exchanged.fail
  | receive found isNext arrived reads =>
      exact exchanged.succeed (guarded.receiving _ _ ⟨_, found, isNext⟩) arrived reads
  | receiveUnreadable found isNext arrived reads =>
      exact exchanged.fail.grow (Nat.le_succ _) fun _ _ _ answered => answered.take

/-! ### The service -/

theorem view_call? {ticket : Calls.Ticket} (found : before.shims[ticket.caller]? = some shim) :
    before.view.call? ticket = shim.requests[ticket.number]? := by
  simp only [Proxy.view, Calls.Service.call?, List.getElem?_map, found, Option.map_some,
    Option.bind_some]

theorem view_callers (found : before.shims[number]? = some shim) :
    before.view.callers[number]? = some ⟨shim.requests, shim.responses⟩ := by
  simp only [Proxy.view, List.getElem?_map, found, Option.map_some]

/-- A change of the handler alone does not show. -/
theorem map_set_of_same (next : Shim) (found : shims[number]? = some shim)
    (requests : next.requests = shim.requests) (responses : next.responses = shim.responses) :
    ((shims.set number next).map fun shim => (⟨shim.requests, shim.responses⟩ : Calls.Caller _ _)) =
      shims.map fun shim => ⟨shim.requests, shim.responses⟩ := by
  apply List.ext_getElem?
  intro other
  rw [List.getElem?_map, List.getElem?_map, getElem?_set_of_some found]
  split
  · rename_i same
    rw [same, found, Option.map_some, Option.map_some, requests, responses]
  · rfl

/-- To settle a request is the exchange of the service. -/
theorem Paired.exchange {stage : Forwarding} (paired : Paired before.shims before.exchanges)
    (found : before.shims[number]? = some shim) (isNext : shim.handler = .forwarding request stage)
    (ending : Ending) (conversation : Conversation JsonRpcRequest String) :
    ServiceStep before.view (.exchange ⟨number, shim.responses.length⟩ ending)
      { before.settle number shim request ending with avatar := conversation : Proxy }.view := by
  obtain ⟨isOpen, below⟩ := paired.forwarding found isNext
  have made : before.view.call? ⟨number, shim.responses.length⟩ = some request := by
    rw [view_call? found]
    exact isOpen.1
  have unserved : ∀ exchange ∈ before.view.exchanges,
      exchange.ticket ≠ ⟨number, shim.responses.length⟩ := by
    intro exchange member same
    exact Calls.Below.not_mem below (same ▸ List.mem_map_of_mem member)
  simp only [Proxy.settle, Proxy.setHandler, Proxy.setShim, Proxy.view]
  rw [map_set_of_same { shim with handler := .returning (ending.response request) .unlockReader }
    found rfl rfl]
  exact .exchange ending made unserved

/-- To write a response is the reply of the service. -/
theorem Paired.reply (paired : Paired before.shims before.exchanges)
    (found : before.shims[number]? = some shim) {response : JsonRpcResponse}
    (isNext : shim.handler = .returning response .write) :
    ServiceStep before.view (.reply number)
      (before.setShim number
        { shim with responses := shim.responses ++ [response], handler := .reading }).view := by
  have coherent := paired.coherent number shim found
  rw [Shim.Coherent, isNext] at coherent
  obtain ⟨exchange, member, isTicket, isOpen, isResponse, below⟩ := coherent
  have step : ServiceStep before.view (.reply number) _ := .reply (view_callers found) member isTicket
  simp only [Calls.Service.setCaller, Proxy.setShim, Proxy.view, List.map_set, isResponse] at step ⊢
  exact step

theorem implements_service {start : Proxy} (paired : Paired start.shims start.exchanges) :
    Implements (Step codecs) start ServiceStep Proxy.view := by
  intro before label after reachable step
  have now : Paired before.shims before.exchanges :=
    Reachable.invariant (fun proxy => Paired proxy.shims proxy.exchanges)
      (fun _ _ _ step => step.paired) paired reachable
  have hidden : ∀ {number : Nat} {shim : Shim}, before.shims[number]? = some shim →
      ∀ handler, (before.setHandler number shim handler).view = before.view := by
    intro number shim found handler
    simp only [Proxy.setHandler, Proxy.setShim, Proxy.view]
    rw [map_set_of_same { shim with handler } found rfl rfl]
  cases step with
  | accept =>
      refine .inr ⟨.join, ?_⟩
      simp only [Proxy.view, List.map_append]
      exact .join _
  | @readRequest number shim text request found reading reads =>
      have coherent := now.coherent _ _ found
      rw [Shim.Coherent, reading] at coherent
      have step : ServiceStep before.view (.call number request) _ :=
        .call request (view_callers found) coherent.1
      refine .inr ⟨.call number request, ?_⟩
      simp only [Calls.Service.setCaller, Proxy.setShim, Proxy.view, List.map_set] at step ⊢
      exact step
  | disconnect found reading => exact .inl (hidden found _)
  | lockWriter found isNext free => exact .inl (hidden found _)
  | lockReader found isNext free => exact .inl (hidden found _)
  | send found isNext connected => exact .inl (hidden found _)
  | avatarAnswers => exact .inl rfl
  | avatarCloses => exact .inl rfl
  | sendFails found isNext closed => exact .inr ⟨_, now.exchange found isNext _ before.avatar⟩
  | receive found isNext arrived reads => exact .inr ⟨_, now.exchange found isNext _ _⟩
  | receiveUnreadable found isNext arrived reads => exact .inr ⟨_, now.exchange found isNext _ _⟩
  | receiveEnds found isNext closed => exact .inr ⟨_, now.exchange found isNext _ before.avatar⟩
  | unlockReader found isNext => exact .inl (hidden found _)
  | unlockWriter found isNext => exact .inl (hidden found _)
  | @write number shim response written found isNext =>
      cases written with
      | true => exact .inr ⟨_, now.reply found isNext⟩
      | false => exact .inl (hidden found .closed)

/-! ### From the start -/

variable {connectText certText armor : String} {start : Proxy}

/-- What the start-up leaves behind, and that both of its texts are answers. -/
theorem startUp_eq (started : startUp codecs connectText certText = .ok (armor, start)) :
    start = ⟨[], none, none, ⟨[connectRequest, certRequest], [connectText, certText], 2⟩, false, []⟩ := by
  rw [startUp] at started
  split at started
  · cases started
  · split at started
    · cases started
    · split at started
      · cases started
      · split at started
        · cases started
        · cases started
          rfl

theorem paired_startUp (started : startUp codecs connectText certText = .ok (armor, start)) :
    Paired start.shims start.exchanges := by
  cases startUp_eq started
  exact ⟨fun number shim found => by simp at found, fun exchange member => by simp at member⟩

theorem guarded_startUp (started : startUp codecs connectText certText = .ok (armor, start)) :
    Guarded start := by
  cases startUp_eq started
  refine ⟨.start, .start, ?_, .inl ⟨⟨Nat.le_refl _, Nat.le_refl _⟩, rfl⟩⟩
  rintro number request ⟨shim, found, _⟩
  simp at found

theorem exchanged_startUp (started : startUp codecs connectText certText = .ok (armor, start)) :
    Exchanged codecs start.avatar start.exchanges := by
  cases startUp_eq started
  exact ⟨Nat.le_refl _, fun exchange member => by simp at member, .nil⟩

theorem reachable_paired (started : startUp codecs connectText certText = .ok (armor, start))
    (reachable : Reachable (Step codecs) start proxy) : Paired proxy.shims proxy.exchanges :=
  Reachable.invariant (fun proxy => Paired proxy.shims proxy.exchanges)
    (fun _ _ _ step => step.paired) (paired_startUp started) reachable

theorem reachable_guarded (started : startUp codecs connectText certText = .ok (armor, start))
    (reachable : Reachable (Step codecs) start proxy) : Guarded proxy :=
  reachable.invariant Guarded (fun _ _ _ step => step.guarded) (guarded_startUp started)

theorem reachable_exchanged (started : startUp codecs connectText certText = .ok (armor, start))
    (reachable : Reachable (Step codecs) start proxy) :
    Exchanged codecs proxy.avatar proxy.exchanges := by
  have both := reachable.invariant
    (fun proxy => Guarded proxy ∧ Exchanged codecs proxy.avatar proxy.exchanges)
    (fun _ _ _ step holds => ⟨step.guarded holds.1, step.exchanged holds.1 holds.2⟩)
    ⟨guarded_startUp started, exchanged_startUp started⟩
  exact both.2

theorem view_correlates (started : startUp codecs connectText certText = .ok (armor, start))
    (reachable : Reachable (Step codecs) start proxy) :
    Calls.Correlates (fun request ending => Ending.response request ending) (fun _ _ => False)
      proxy.view := by
  have service := (implements_service (paired_startUp started)).reachable reachable
  have empty : start.view = .start := by
    cases startUp_eq started
    rfl
  rw [empty] at service
  exact Calls.correlates_of_reachable service

theorem reachable_relays (started : startUp codecs connectText certText = .ok (armor, start))
    (reachable : Reachable (Step codecs) start proxy) : Relays codecs proxy := by
  have guarded := reachable_guarded started reachable
  have exchanged := reachable_exchanged started reachable
  refine ⟨view_correlates started reachable, exchanged.own, exchanged.once, ?_⟩
  rcases guarded.avatar with settled | ⟨request, awaits, _⟩
  · rw [settled.2]
    exact Nat.le_succ _
  · exact Nat.le_of_eq awaits.2.2

namespace Sample

open Transparent

def answerTree (id : UInt64) (result : Value) : Value :=
  .object [("id", .number (.posInt id)), ("jsonrpc", .string "2.0"), ("result", result)]

def requestTree (id : UInt64) (method : String) : Value :=
  .object [("id", .number (.posInt id)), ("jsonrpc", .string "2.0"), ("method", .string method)]

def connected : Value := answerTree 1 (.object [])

def cert : Value := answerTree 2 (.object [("public_cert_armor", .string "armor")])

def keys : Value := answerTree 1 (.array [])

def proxyCodecs : Codecs :=
  simpleCodecs ([connected, cert, keys, requestTree 1 "gpg.get_public_keys",
    requestTree 7 "gpg.decrypt"].map
    fun tree => (tree.toJson, tree))

/-- A line of the tree. -/
def line (tree : Value) : String := tree.toJson ++ "\n"

def keysRequest : JsonRpcRequest :=
  ⟨"2.0", "gpg.get_public_keys", .null, some (.number (.posInt 1))⟩

def decryptRequest : JsonRpcRequest := ⟨"2.0", "gpg.decrypt", .null, some (.number (.posInt 7))⟩

def started : Proxy :=
  ⟨[], none, none, ⟨[connectRequest, certRequest], [line connected, line cert], 2⟩, false, []⟩

theorem startUp_started : startUp proxyCodecs (line connected) (line cert) = .ok ("armor", started) := by
  rfl

/-- The second shim overtakes the first one, which then loses the avatar. -/
theorem two_shims : ∃ final, Reachable (Step proxyCodecs) started final ∧
    final.shims.map Shim.responses =
      [[proxyError decryptRequest "connection closed"],
        [.success (.number (.posInt 1)) (.array [])]] := by
  refine ⟨_, ⟨_,
    .cons (.accept _) <|
    .cons (.accept _) <|
    .cons (@Step.readRequest _ _ 0 _ (line (requestTree 7 "gpg.decrypt")) decryptRequest rfl rfl rfl) <|
    .cons (@Step.readRequest _ _ 1 _ (line (requestTree 1 "gpg.get_public_keys")) keysRequest
      rfl rfl rfl) <|
    .cons (@Step.lockWriter _ _ 1 _ _ rfl rfl rfl) <|
    .cons (@Step.lockReader _ _ 1 _ _ rfl rfl rfl) <|
    .cons (@Step.send _ _ 1 _ _ rfl rfl rfl) <|
    .cons (@Step.avatarAnswers _ _ _ (line keys) rfl rfl) <|
    .cons (@Step.receive _ _ 1 _ _ (line keys) (.success (.number (.posInt 1)) (.array []))
      rfl rfl rfl rfl) <|
    .cons (@Step.unlockReader _ _ 1 _ _ rfl rfl) <|
    .cons (@Step.unlockWriter _ _ 1 _ _ rfl rfl) <|
    .cons (@Step.lockWriter _ _ 0 _ _ rfl rfl rfl) <|
    .cons (@Step.lockReader _ _ 0 _ _ rfl rfl rfl) <|
    .cons (@Step.send _ _ 0 _ _ rfl rfl rfl) <|
    .cons (@Step.write _ _ 1 _ _ true rfl rfl) <|
    .cons (.avatarCloses _) <|
    .cons (@Step.receiveEnds _ _ 0 _ _ "connection closed" rfl rfl rfl) <|
    .cons (@Step.unlockReader _ _ 0 _ _ rfl rfl) <|
    .cons (@Step.unlockWriter _ _ 0 _ _ rfl rfl) <|
    .cons (@Step.write _ _ 0 _ _ true rfl rfl) <|
    .nil _⟩, rfl⟩

end Sample

open Sample in
theorem two_shims_relays : ∃ final, Reachable (Step proxyCodecs) started final ∧
    final.shims.map Shim.responses =
      [[proxyError decryptRequest "connection closed"],
        [.success (.number (.posInt 1)) (.array [])]] ∧
    Relays proxyCodecs final := by
  obtain ⟨final, reachable, responses⟩ := two_shims
  exact ⟨final, reachable, responses, reachable_relays startUp_started reachable⟩

end KeyMaster.GpgSa
