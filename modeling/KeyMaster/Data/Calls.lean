import KeyMaster.Data.Parties
import KeyMaster.Data.Runs
import Mathlib.Data.List.Nodup

namespace KeyMaster.Data.Calls

/-! Callers of a service that works off one call at a time.

A caller makes a call once it has the reply to its last one.  A call is served
in one exchange, or its caller is put off with a reply of another kind; what
the exchange is made of, and over which connection, the service does not say.
-/

/-- A call, named by its caller and its number among the caller's calls. -/
structure Ticket where
  caller : Nat
  number : Nat
deriving DecidableEq

/-- The tickets of a caller all have numbers below this one. -/
def Below (tickets : List Ticket) (caller count : Nat) : Prop :=
  ∀ ticket ∈ tickets, ticket.caller = caller → ticket.number < count

structure Caller (α β : Type) where
  calls : List α
  replies : List β

structure Exchange (α ω : Type) where
  ticket : Ticket
  call : α
  ending : ω

structure Service (α β ω : Type) where
  callers : List (Caller α β)
  exchanges : List (Exchange α ω)

inductive Label (α β ω : Type) where
  | join
  | call (caller : Nat) (call : α)
  | exchange (ticket : Ticket) (ending : ω)
  | reply (caller : Nat)
  | putOff (caller : Nat) (reply : β)

variable {α β ω : Type}

namespace Service

def start : Service α β ω := ⟨[], []⟩

def setCaller (service : Service α β ω) (number : Nat) (caller : Caller α β) : Service α β ω :=
  { service with callers := service.callers.set number caller }

def call? (service : Service α β ω) (ticket : Ticket) : Option α :=
  service.callers[ticket.caller]?.bind fun caller => caller.calls[ticket.number]?

end Service

/-- `respond` is the reply to a call that an exchange leads to, `PutsOff` relates
a call to the replies that need none. -/
inductive Step (respond : α → ω → β) (PutsOff : α → β → Prop) :
    Service α β ω → Label α β ω → Service α β ω → Prop
  | join (service : Service α β ω) :
      Step respond PutsOff service .join { service with callers := service.callers ++ [⟨[], []⟩] }
  | call {service : Service α β ω} {number : Nat} {caller : Caller α β} (call : α)
      (found : service.callers[number]? = some caller)
      (prompt : caller.replies.length = caller.calls.length) :
      Step respond PutsOff service (.call number call)
        (service.setCaller number { caller with calls := caller.calls ++ [call] })
  | exchange {service : Service α β ω} {ticket : Ticket} {call : α} (ending : ω)
      (made : service.call? ticket = some call)
      (unserved : ∀ exchange ∈ service.exchanges, exchange.ticket ≠ ticket) :
      Step respond PutsOff service (.exchange ticket ending)
        { service with exchanges := service.exchanges ++ [⟨ticket, call, ending⟩] }
  | reply {service : Service α β ω} {number : Nat} {caller : Caller α β}
      {exchange : Exchange α ω} (found : service.callers[number]? = some caller)
      (served : exchange ∈ service.exchanges)
      (own : exchange.ticket = ⟨number, caller.replies.length⟩) :
      Step respond PutsOff service (.reply number)
        (service.setCaller number
          { caller with replies := caller.replies ++ [respond exchange.call exchange.ending] })
  | putOff {service : Service α β ω} {number : Nat} {caller : Caller α β} {call : α} {reply : β}
      (found : service.callers[number]? = some caller)
      (isOpen : caller.calls[caller.replies.length]? = some call) (putsOff : PutsOff call reply) :
      Step respond PutsOff service (.putOff number reply)
        (service.setCaller number { caller with replies := caller.replies ++ [reply] })

/-- Every caller has its replies in the order of its calls, with at most the last
one missing; a reply is that of the call's own exchange, or puts the call off;
and no call is served twice. -/
structure Correlates (respond : α → ω → β) (PutsOff : α → β → Prop) (service : Service α β ω) :
    Prop where
  paced : ∀ caller ∈ service.callers, caller.replies.length ≤ caller.calls.length ∧
    caller.calls.length ≤ caller.replies.length + 1
  replies : ∀ (number index : Nat) (caller : Caller α β) (call : α) (reply : β),
    service.callers[number]? = some caller → caller.calls[index]? = some call →
    caller.replies[index]? = some reply →
    (∃ exchange ∈ service.exchanges, exchange.ticket = ⟨number, index⟩ ∧ exchange.call = call ∧
      reply = respond call exchange.ending) ∨ PutsOff call reply
  served : ∀ exchange ∈ service.exchanges, service.call? exchange.ticket = some exchange.call
  once : (service.exchanges.map Exchange.ticket).Nodup

variable {respond : α → ω → β} {PutsOff : α → β → Prop} {before after service : Service α β ω}
  {number : Nat} {caller : Caller α β}

theorem correlates_start : Correlates respond PutsOff (.start : Service α β ω) where
  paced _ member := by cases member
  replies _ _ _ _ _ found := by cases found
  served _ member := by cases member
  once := .nil

/-! ### Tickets -/

section Tickets

variable {tickets : List Ticket} {ticket : Ticket} {name count : Nat}

theorem Below.add (below : Below tickets name count)
    (own : ticket.caller = name → ticket.number < count) : Below (tickets ++ [ticket]) name count := by
  intro other member
  rcases List.mem_append.mp member with old | new
  · exact below other old
  · rw [List.mem_singleton.mp new]
    exact own

theorem Below.succ (below : Below tickets name count) : Below tickets name (count + 1) :=
  fun ticket member own => Nat.lt_succ_of_lt (below ticket member own)

theorem Below.not_mem (below : Below tickets name count) : (⟨name, count⟩ : Ticket) ∉ tickets :=
  fun member => Nat.lt_irrefl _ (below _ member rfl)

end Tickets

/-! ### Changing a caller -/

theorem setCaller_callers {replaced : Caller α β} (found : service.callers[number]? = some replaced)
    (other : Nat) :
    (service.setCaller number caller).callers[other]? =
      if other = number then some caller else service.callers[other]? :=
  getElem?_set_of_some found other

theorem call?_setCaller {replaced : Caller α β} (found : service.callers[number]? = some replaced)
    (grows : replaced.calls <+: caller.calls) {ticket : Ticket} {call : α}
    (made : service.call? ticket = some call) :
    (service.setCaller number caller).call? ticket = some call := by
  rw [Service.call?, setCaller_callers found]
  rw [Service.call?] at made
  split
  · rename_i same
    rw [same, found, Option.bind_some] at made
    obtain ⟨more, grown⟩ := grows
    rw [Option.bind_some, ← grown, List.getElem?_append_left (List.getElem?_eq_some_iff.mp made).1]
    exact made
  · exact made

/-- A caller whose calls grow and whose replies are its own keeps the service
correlated. -/
theorem Correlates.setCaller {replaced : Caller α β} (correlates : Correlates respond PutsOff service)
    (found : service.callers[number]? = some replaced) (grows : replaced.calls <+: caller.calls)
    (paced : caller.replies.length ≤ caller.calls.length ∧
      caller.calls.length ≤ caller.replies.length + 1)
    (replies : ∀ (index : Nat) (call : α) (reply : β), caller.calls[index]? = some call →
      caller.replies[index]? = some reply →
      (∃ exchange ∈ service.exchanges, exchange.ticket = ⟨number, index⟩ ∧ exchange.call = call ∧
        reply = respond call exchange.ending) ∨ PutsOff call reply) :
    Correlates respond PutsOff (service.setCaller number caller) where
  paced other member := by
    rcases List.mem_or_eq_of_mem_set member with old | rfl
    · exact correlates.paced other old
    · exact paced
  replies other index held call reply changed := by
    rw [setCaller_callers found] at changed
    split at changed
    · rename_i same
      rw [← Option.some.inj changed, same]
      exact replies index call reply
    · exact correlates.replies other index held call reply changed
  served exchange member := call?_setCaller found grows (correlates.served exchange member)
  once := correlates.once

/-- The reply to the open call is its exchange's, or puts it off. -/
theorem Correlates.addReply (correlates : Correlates respond PutsOff service)
    (found : service.callers[number]? = some caller) {call : α} {reply : β}
    (isOpen : caller.calls[caller.replies.length]? = some call)
    (own : (∃ exchange ∈ service.exchanges, exchange.ticket = ⟨number, caller.replies.length⟩ ∧
      exchange.call = call ∧ reply = respond call exchange.ending) ∨ PutsOff call reply) :
    Correlates respond PutsOff
      (service.setCaller number { caller with replies := caller.replies ++ [reply] }) := by
  have paced := correlates.paced caller (List.mem_of_getElem? found)
  have bound := (List.getElem?_eq_some_iff.mp isOpen).1
  refine correlates.setCaller found List.prefix_rfl ?_ ?_
  · simp only [List.length_append, List.length_singleton]
    omega
  · intro index other earlier isCall isReply
    dsimp only at isCall isReply
    by_cases old : index < caller.replies.length
    · rw [List.getElem?_append_left old] at isReply
      exact correlates.replies number index caller other earlier found isCall isReply
    · have last : index = caller.replies.length := by
        have inside := (List.getElem?_eq_some_iff.mp isReply).1
        simp only [List.length_append, List.length_singleton] at inside
        omega
      subst last
      rw [isOpen] at isCall
      rw [List.getElem?_concat_length] at isReply
      cases isCall
      cases isReply
      exact own

/-! ### Steps -/

theorem Correlates.join (correlates : Correlates respond PutsOff service) :
    Correlates respond PutsOff { service with callers := service.callers ++ [⟨[], []⟩] } where
  paced caller member := by
    rcases List.mem_append.mp member with old | new
    · exact correlates.paced caller old
    · rw [List.mem_singleton.mp new]
      exact ⟨Nat.le_refl _, Nat.zero_le _⟩
  replies number index caller call reply found isCall isReply := by
    by_cases old : number < service.callers.length
    · rw [List.getElem?_append_left old] at found
      exact correlates.replies number index caller call reply found isCall isReply
    · rw [List.getElem?_append_right (Nat.not_lt.mp old)] at found
      rw [List.mem_singleton.mp (List.mem_of_getElem? found)] at isCall
      cases isCall
  served exchange member := by
    have made := correlates.served exchange member
    obtain ⟨caller, found, isCall⟩ := Option.bind_eq_some_iff.mp made
    have bound := (List.getElem?_eq_some_iff.mp found).1
    rw [Service.call?, List.getElem?_append_left bound, found, Option.bind_some]
    exact isCall
  once := correlates.once

theorem Correlates.exchange (correlates : Correlates respond PutsOff service) {ticket : Ticket}
    {call : α} (ending : ω) (made : service.call? ticket = some call)
    (unserved : ∀ exchange ∈ service.exchanges, exchange.ticket ≠ ticket) :
    Correlates respond PutsOff
      { service with exchanges := service.exchanges ++ [⟨ticket, call, ending⟩] } where
  paced := correlates.paced
  replies number index caller call reply found isCall isReply := by
    rcases correlates.replies number index caller call reply found isCall isReply with
      ⟨exchange, member, own⟩ | putsOff
    · exact .inl ⟨exchange, List.mem_append_left _ member, own⟩
    · exact .inr putsOff
  served exchange member := by
    rcases List.mem_append.mp member with old | new
    · exact correlates.served exchange old
    · rw [List.mem_singleton.mp new]
      exact made
  once := by
    rw [List.map_append, List.map_singleton, List.nodup_append]
    refine ⟨correlates.once, List.nodup_singleton _, ?_⟩
    intro used member other isOther same
    obtain ⟨exchange, isExchange, isTicket⟩ := List.mem_map.mp member
    refine unserved exchange isExchange ?_
    rw [isTicket, same, List.mem_singleton.mp isOther]

theorem Step.correlates {label : Label α β ω} (step : Step respond PutsOff before label after)
    (correlates : Correlates respond PutsOff before) : Correlates respond PutsOff after := by
  cases step with
  | join => exact correlates.join
  | @call number caller call found prompt =>
      refine correlates.setCaller found (List.prefix_append _ _) ?_ ?_
      · simp [prompt]
      · intro index other reply isCall isReply
        have bound := (List.getElem?_eq_some_iff.mp isReply).1
        dsimp only at isCall bound
        rw [List.getElem?_append_left (prompt ▸ bound)] at isCall
        exact correlates.replies number index caller other reply found isCall isReply
  | exchange ending made unserved => exact correlates.exchange ending made unserved
  | @reply number caller exchange found served own =>
      have made := correlates.served exchange served
      rw [own, Service.call?, found, Option.bind_some] at made
      exact correlates.addReply found made (.inl ⟨exchange, served, own, rfl, rfl⟩)
  | putOff found isOpen putsOff => exact correlates.addReply found isOpen (.inr putsOff)

theorem correlates_of_reachable (reachable : Reachable (Step respond PutsOff) .start service) :
    Correlates respond PutsOff service :=
  Reachable.invariant (Correlates respond PutsOff) (fun _ _ _ step => step.correlates) correlates_start
    reachable

end KeyMaster.Data.Calls
