import KeyMaster.Avatar.Turns

namespace KeyMaster

open Data LoopState

/-! The session table over runs of the event loop. -/

variable {C : Crates} {config : Config C}

/-- What a turn owes to the session table: it is in order whenever another
task can look at it, sessions of other KeyMasters stay as they are, none
appears, and a detach removes its author's session and signals its senders. -/
structure TurnKeepsTable (config : Config C)
    (transition : Transition (LoopState C) (Turn C)) : Prop where
  valid : ∀ reached ∈ transition.before.during config transition.label, reached.mgr.Valid
  unchanged : ∀ reached ∈ transition.before.during config transition.label,
    ∀ sessionId session, transition.before.mgr.sessions.lookup sessionId = some session →
      session.keymasterPubkey ≠ transition.label.event.pubkey →
      ∃ same, reached.mgr.sessions.lookup sessionId = some same ∧ session.SameContents same
  unforged : ∀ reached ∈ transition.before.during config transition.label,
    ∀ sessionId session, reached.mgr.sessions.lookup sessionId = some session →
      session.keymasterPubkey ≠ transition.label.event.pubkey →
      ∃ same, transition.before.mgr.sessions.lookup sessionId = some same ∧
        same.SameContents session
  removed : transition.label.Detaches config →
    ∀ sessionId session, transition.after.mgr.sessions.lookup sessionId = some session →
      session.keymasterPubkey ≠ transition.label.event.pubkey
  signalled : transition.label.Detaches config →
    ∀ sessionId session, transition.before.mgr.sessions.lookup sessionId = some session →
      session.keymasterPubkey = transition.label.event.pubkey →
      ∀ sender ∈ session.senders, sender ∈ transition.after.signalled

theorem handle_of_detaches (before : LoopState C) {turn : Turn C} (valid : turn.table.Valid)
    (detaches : turn.Detaches config) {sessionId : C.EventId} {session : RootSession C} :
    ((before.handle config turn).mgr.sessions.lookup sessionId = some session →
      session.keymasterPubkey ≠ turn.event.pubkey) ∧
    (turn.table.sessions.lookup sessionId = some session →
      session.keymasterPubkey = turn.event.pubkey →
      (before.handle config turn).signalled = before.signalled ++ session.senders) := by
  have responded := run_keepsTable (keepsTable_sendResponse turn.io turn.event
    (.success .null (jsonObject [("status", .string "ok")])))
  rw [handle, actions_of_detaches detaches, handleDetach, run_append, (responded _).1,
    (responded _).2.1]
  cases search : turn.table.findSessionByKmPubkey turn.event.pubkey with
  | none =>
      have absent := SessionManager.findSessionByKmPubkey_eq_none.mp search
      exact ⟨absent sessionId session, fun found owner => absurd owner (absent _ _ found)⟩
  | some gone =>
      obtain ⟨author, found, owner⟩ := valid.findSessionByKmPubkey_eq_some.mp search
      constructor
      · intro lookup same
        change (turn.table.removeSession gone).1.sessions.lookup sessionId = some session at lookup
        rw [SessionManager.lookup_removeSession] at lookup
        split at lookup
        · cases lookup
        · rename_i different
          exact different (valid.unique lookup found (same.trans owner.symm))
      · intro lookup same
        have isGone := valid.unique lookup found (same.trans owner.symm)
        subst isGone
        change before.signalled ++ (turn.table.removeSession sessionId).2 = _
        rw [SessionManager.removeSession, lookup, Option.elim_some]

/-- In every run in which an event id belongs to one event, every turn keeps
the table in order, touches no other KeyMaster's session, and detaches fully. -/
theorem run_keepsTable_of_distinct {trace : List (Transition (LoopState C) (Turn C))}
    {final : LoopState C} (run : Run (Step config) new trace final)
    (distinct : ∀ first ∈ trace, ∀ second ∈ trace, first.label.event.id = second.label.event.id →
      first.label.event.pubkey = second.label.event.pubkey) :
    ∀ transition ∈ trace, TurnKeepsTable config transition := by
  intro transition member
  obtain ⟨earlier, later, whole, toBefore, taken, _⟩ := run.split member
  obtain ⟨before, turn, after⟩ := transition
  have reachable : Data.Reachable (Step config) new before := ⟨earlier, toBefore⟩
  obtain ⟨order, ends⟩ := taken
  dsimp only at order ends toBefore
  have table := order.valid (Reachable.valid reachable)
  -- The session under the event's own id, if there is one, is its author's.
  have owned : ∀ session, before.mgr.sessions.lookup turn.event.id = some session →
      session.keymasterPubkey = turn.event.pubkey := by
    intro session found
    obtain ⟨creation, msg, last, sameId, _⟩ := session_created toBefore _ _ found
    have inTrace : creation ∈ trace := by
      rw [whole]
      exact List.mem_append_left _ last.mem
    exact last.author.symm.trans (distinct creation inTrace _ member sameId)
  constructor
  · intro reached during
    exact (during_stage table during).valid table
  · intro reached during sessionId session found other
    obtain ⟨same, inTable, contents⟩ := order.lookup found
    refine ⟨same, (during_stage table during).frame inTable ?_ ?_, contents⟩
    · rw [← contents.pubkey]
      exact other
    · rintro rfl
      exact other (owned session found)
  · intro reached during sessionId session found other
    rcases (during_stage table during).origin found with inTable | ⟨_, author⟩
    · obtain ⟨same, inBefore, contents⟩ := order.symm.lookup inTable
      exact ⟨same, inBefore, contents.symm⟩
    · exact absurd author other
  · intro detaches sessionId session found
    rw [ends] at found
    exact (handle_of_detaches before table detaches).1 found
  · intro detaches sessionId session found owner sender member
    obtain ⟨same, inTable, contents⟩ := order.lookup found
    rw [contents.pubkey] at owner
    rw [ends, (handle_of_detaches before table detaches).2 inTable owner,
      ← contents.senders]
    exact List.mem_append_right _ member

namespace Transparent

def detachTexts : List (String × Value) :=
  [("attach", request "attach" [("services", .array [.string "ssh"])]),
   ("detach", request "detach" [])]

def detachInputs : List (Event (crates detachTexts) × HandlerIo) :=
  [(event 10 2 "attach", io), (event 11 3 "attach", io), (event 12 2 "detach", io)]

end Transparent

open Transparent in
theorem detach_keepsTable :
    (replayed (avatar detachTexts) new detachInputs).mgr.sessions.keys = [(11 : Nat)] ∧
      ∀ transition ∈ replay (avatar detachTexts) new detachInputs,
        TurnKeepsTable (avatar detachTexts) transition :=
  ⟨by decide, run_keepsTable_of_distinct (replay_run new detachInputs) (by decide)⟩

end KeyMaster
