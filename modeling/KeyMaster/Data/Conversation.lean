import Mathlib.Logic.Basic

namespace KeyMaster.Data

/-! A stream of requests over which the answers come back in order. -/

/-- The requests sent, the answers of the other side, and how many of these
have been read. -/
structure Conversation (α β : Type) where
  sent : List α
  answers : List β
  read : Nat

namespace Conversation

variable {α β : Type} {conversation : Conversation α β} {request : α} {reply : β}

def send (conversation : Conversation α β) (request : α) : Conversation α β :=
  { conversation with sent := conversation.sent ++ [request] }

def answer (conversation : Conversation α β) (reply : β) : Conversation α β :=
  { conversation with answers := conversation.answers ++ [reply] }

def take (conversation : Conversation α β) : Conversation α β :=
  { conversation with read := conversation.read + 1 }

/-- The request that the other side answers next. -/
def asked? (conversation : Conversation α β) : Option α :=
  conversation.sent[conversation.answers.length]?

/-- The answer that is read next. -/
def arrived? (conversation : Conversation α β) : Option β :=
  conversation.answers[conversation.read]?

/-- An answer is to a request that was sent, and read after it was given. -/
def Ordered (conversation : Conversation α β) : Prop :=
  conversation.read ≤ conversation.answers.length ∧
    conversation.answers.length ≤ conversation.sent.length

/-- Every request has been answered and its answer read. -/
def Settled (conversation : Conversation α β) : Prop :=
  conversation.Ordered ∧ conversation.read = conversation.sent.length

/-- All but the last request, which is this one, have been. -/
def Awaits (conversation : Conversation α β) (request : α) : Prop :=
  conversation.Ordered ∧ conversation.sent[conversation.read]? = some request ∧
    conversation.sent.length = conversation.read + 1

/-- The request at a position was given this answer, which has been read. -/
def Answered (conversation : Conversation α β) (position : Nat) (request : α) (reply : β) : Prop :=
  position < conversation.read ∧ conversation.sent[position]? = some request ∧
    conversation.answers[position]? = some reply

theorem Awaits.ordered (awaits : conversation.Awaits request) : conversation.Ordered := awaits.1

theorem Settled.send (settled : conversation.Settled) (request : α) :
    (conversation.send request).Awaits request := by
  obtain ⟨⟨unread, unanswered⟩, done⟩ := settled
  refine ⟨⟨unread, ?_⟩, ?_, ?_⟩
  · simp only [Conversation.send, List.length_append, List.length_singleton]
    omega
  · simp only [Conversation.send, done, List.getElem?_concat_length]
  · simp only [Conversation.send, done, List.length_append, List.length_singleton]

theorem Settled.arrived?_send (settled : conversation.Settled) (request : α) :
    (conversation.send request).arrived? = none := by
  obtain ⟨⟨unread, unanswered⟩, done⟩ := settled
  rw [Conversation.arrived?, List.getElem?_eq_none]
  simp only [Conversation.send]
  omega

/-- A conversation that is settled has nothing to be answered. -/
theorem Settled.asked? (settled : conversation.Settled) : conversation.asked? = none := by
  obtain ⟨⟨unread, unanswered⟩, done⟩ := settled
  rw [Conversation.asked?, List.getElem?_eq_none]
  omega

theorem Ordered.answer (ordered : conversation.Ordered) (asked : conversation.asked? = some request)
    (reply : β) : (conversation.answer reply).Ordered := by
  have bound := (List.getElem?_eq_some_iff.mp asked).1
  obtain ⟨unread, unanswered⟩ := ordered
  simp only [Ordered, Conversation.answer, List.length_append, List.length_singleton]
  omega

theorem Awaits.answer {other : α} (awaits : conversation.Awaits request)
    (asked : conversation.asked? = some other) (reply : β) :
    (conversation.answer reply).Awaits request :=
  ⟨awaits.ordered.answer asked reply, awaits.2.1, awaits.2.2⟩

/-- What is awaited is either still to be answered, or its answer has arrived. -/
theorem Awaits.asked_or_arrived (awaits : conversation.Awaits request) :
    (conversation.asked? = some request ∧ conversation.answers.length < conversation.sent.length) ∨
      ∃ reply, conversation.arrived? = some reply ∧
        conversation.answers.length = conversation.sent.length := by
  obtain ⟨⟨unread, unanswered⟩, waiting, last⟩ := awaits
  by_cases given : conversation.answers.length = conversation.read
  · left
    rw [asked?, given]
    exact ⟨waiting, by omega⟩
  · right
    exact ⟨_, List.getElem?_eq_getElem (show conversation.read < conversation.answers.length by omega),
      by omega⟩

/-- Where no answer has arrived, the next one does. -/
theorem Awaits.arrived?_answer (awaits : conversation.Awaits request)
    (missing : conversation.arrived? = none) (reply : β) :
    (conversation.answer reply).arrived? = some reply := by
  obtain ⟨⟨unread, unanswered⟩, waiting, last⟩ := awaits
  have given := List.getElem?_eq_none_iff.mp missing
  have now : conversation.read = conversation.answers.length := by omega
  rw [arrived?, Conversation.answer]
  simp only [now, List.getElem?_concat_length]

theorem Awaits.take (awaits : conversation.Awaits request)
    (arrived : conversation.arrived? = some reply) : conversation.take.Settled := by
  have bound := (List.getElem?_eq_some_iff.mp arrived).1
  obtain ⟨⟨unread, unanswered⟩, waiting, last⟩ := awaits
  exact ⟨⟨bound, unanswered⟩, last.symm⟩

/-- The answer that arrives is the awaited request's own. -/
theorem Awaits.answered (awaits : conversation.Awaits request)
    (arrived : conversation.arrived? = some reply) :
    conversation.take.Answered conversation.read request reply :=
  ⟨Nat.lt_succ_self _, awaits.2.1, arrived⟩

/-! ### What has been answered stays so -/

variable {position : Nat}

theorem Answered.send (answered : conversation.Answered position request reply) (next : α) :
    (conversation.send next).Answered position request reply := by
  obtain ⟨known, isRequest, isAnswer⟩ := answered
  refine ⟨known, ?_, isAnswer⟩
  rw [Conversation.send, List.getElem?_append_left (List.getElem?_eq_some_iff.mp isRequest).1]
  exact isRequest

theorem Answered.answer (answered : conversation.Answered position request reply) (next : β) :
    (conversation.answer next).Answered position request reply := by
  obtain ⟨known, isRequest, isAnswer⟩ := answered
  refine ⟨known, isRequest, ?_⟩
  rw [Conversation.answer, List.getElem?_append_left (List.getElem?_eq_some_iff.mp isAnswer).1]
  exact isAnswer

theorem Answered.take (answered : conversation.Answered position request reply) :
    conversation.take.Answered position request reply :=
  ⟨Nat.lt_succ_of_lt answered.1, answered.2⟩

end Conversation

end KeyMaster.Data
