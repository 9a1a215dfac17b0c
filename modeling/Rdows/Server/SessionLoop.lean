import Rdows.Lib.Run
import Rdows.Server.SessionSpec

/-!
# The message loop of a session

`run_session` reads one WebSocket message after the other and hands each binary frame that decodes
to `handle_message`.  `ServerRun.step` is one turn of this loop.  Here it is connected to the plans,
so that what is known of every plan is known of every turn.

## Turns

A turn leaves the session alone, or it handles the message that came (`step_cases`).  A message that
is handled is dispatched, or it leaves the work of the session alone (`step_dispatches`).

## From plans to turns

* `handle_eq_played`: handling a message is playing its plan over the transport of the turn.
* `handle_upholds`, `handle_throughout`: what a plan upholds is true of the replies that were sent
  and of the session that is left, also if a send failed on the way.
* `handle_each`: what holds of each reply of a plan is known of each message that was sent.
* `handle_leaves`, `handle_mayReply`: the two inversions of `SessionSpec`, for a turn.
* `handle_of_running`: a session that goes on has played its plan to the end.

## Histories

A run is recorded twice.  `seen` is its history with the most recent frame first, which is the order
in which an invariant grows with the run; `emitted` lists the replies in the order in which they
were sent, which is what a peer sees.  Statements about one more frame at the end of a run use the
first, statements about the stream of replies the second.
-/

namespace Rdows

open Rust

/-- The message that a binary frame decodes to; none for other WebSocket messages and for frames
that do not decode. -/
def WsMessage.carried : WsMessage → Option RdowsMessage
  | .binary data =>
      match RdowsMessage.decode data with
      | .ok msg => some msg
      | .err _ | .panic _ => none
  | .close | .other | .error => none

namespace ServerRun

variable {r : ServerRun} {env : Env} {data : Bytes} {msg m : RdowsMessage}

/-! ### Turns of the loop -/

/-- The history of a run, most recent frame first: what came, and what the turn did. -/
abbrev Seen := List ((Env × WsMessage) × Served)

/-- The state after a run of the loop. -/
abbrev after (r : ServerRun) (inputs : List (Env × WsMessage)) : ServerRun :=
  Machine.exec step r inputs

/-- The history of a run of the loop. -/
abbrev seen (r : ServerRun) (inputs : List (Env × WsMessage)) : Seen :=
  Machine.history step r inputs

/-- The first frame of a run is the last entry of its history. -/
theorem seen_cons (r : ServerRun) (input : Env × WsMessage) (rest : List (Env × WsMessage)) :
    r.seen (input :: rest) = (r.step input).2.seen rest ++ [(input, (r.step input).1)] :=
  Machine.history_cons step r input rest

/-- One more frame at the end of a run. -/
theorem after_concat (r : ServerRun) (inputs : List (Env × WsMessage)) (input : Env × WsMessage) :
    r.after (inputs ++ [input]) = ((r.after inputs).step input).2 :=
  Machine.exec_concat step r inputs input

/-- One more frame at the end of a run is the first entry of its history. -/
theorem seen_concat (r : ServerRun) (inputs : List (Env × WsMessage)) (input : Env × WsMessage) :
    r.seen (inputs ++ [input]) = (input, ((r.after inputs).step input).1) :: r.seen inputs :=
  Machine.history_concat step r inputs input
theorem handle_dispatched_of_reaches (reaches : r.session.ReachesDispatch msg) :
    (r.handle env msg).1.dispatched = some msg := if_pos reaches

theorem handle_dispatched_of_not (h : ¬ r.session.ReachesDispatch msg) :
    (r.handle env msg).1.dispatched = none := if_neg h

theorem step_handle (running : r.running = true) (decoded : RdowsMessage.decode data = .ok msg) :
    r.step (env, .binary data) = r.handle env msg := by
  simp [step, running, decoded]

/-- A session that has ended does nothing. -/
theorem step_stopped (stopped : r.running = false) (input : Env × WsMessage) :
    r.step input = (⟨none, []⟩, r) := by
  simp [step, stopped]

/-- A running session handles the message that came. -/
theorem step_carried (running : r.running = true) {input : Env × WsMessage}
    (carried : input.2.carried = some msg) : r.step input = r.handle input.1 msg := by
  obtain ⟨env, ws⟩ := input
  rcases ws with data | _ | _ | _
  · rcases decoded : RdowsMessage.decode data with m | e | p <;>
      simp only [WsMessage.carried, decoded] at carried <;> cases carried
    exact step_handle running decoded
  · cases carried
  · cases carried
  · cases carried

/-- A turn of the loop leaves the session alone, or it handles the message that came. -/
theorem step_cases (r : ServerRun) (input : Env × WsMessage) :
    (∃ goesOn, (goesOn = true → r.running = true) ∧
      r.step input = (⟨none, []⟩, ⟨r.session, goesOn⟩)) ∨
    ∃ msg, r.running = true ∧ input.2.carried = some msg ∧ r.step input = r.handle input.1 msg := by
  by_cases running : r.running = true
  swap
  · exact .inl ⟨r.running, id, step_stopped (Bool.eq_false_iff.mpr running) input⟩
  obtain ⟨env, ws⟩ := input
  rcases ws with data | _ | _ | _
  · rcases decoded : RdowsMessage.decode data with msg | e | p
    · exact .inr ⟨msg, running, by simp [WsMessage.carried, decoded], step_handle running decoded⟩
    · exact .inl ⟨false, by simp, by simp [step, running, decoded]⟩
    · exact .inl ⟨false, by simp, by simp [step, running, decoded]⟩
  · exact .inl ⟨false, by simp, by simp [step, running]⟩
  · exact .inl ⟨r.running, id, by rw [step, if_pos running]⟩
  · exact .inl ⟨false, by simp, by simp [step, running]⟩

/-- The replies of a run, in the order in which they were sent. -/
def emitted (r : ServerRun) : List (Env × WsMessage) → List RdowsMessage
  | [] => []
  | input :: rest => (r.step input).1.replies ++ emitted (r.step input).2 rest


/-! ### Handling a message is playing its plan -/

/-- How the plan of a message was played: the outcome, the session that is left, and what was
sent. -/
abbrev played (r : ServerRun) (env : Env) (msg : RdowsMessage) :
    Outcome RdowsError Unit × Session × List RdowsMessage :=
  (r.session.plan env.now env.draws msg).run numbering env.refuses r.session.nextSeq []

/-- Handling a message is playing its plan over the transport of the turn. -/
theorem handle_eq_played (r : ServerRun) (env : Env) (msg : RdowsMessage) :
    r.handle env msg =
      (⟨if r.session.ReachesDispatch msg then some msg else none, (r.played env msg).2.2⟩,
        ⟨(r.played env msg).2.1,
          (r.played env msg).1.IsOk ∧ (r.played env msg).2.1.state ≠ .closed⟩) := by
  rw [handle, Handler.handleMessage_run]
  rfl

/-- The session goes on if its handler returned and has not closed it. -/
theorem handle_running : (r.handle env msg).2.running = true ↔
    (r.played env msg).1.IsOk ∧ (r.handle env msg).2.session.state ≠ .closed := by
  rw [handle_eq_played]
  exact decide_eq_true_iff

/-- A message that passes all checks is dispatched. -/
theorem handle_of_reaches (reaches : r.session.ReachesDispatch msg) :
    r.handle env msg =
      let out := ((r.session.accepting msg).planDispatch env.now env.draws msg).run numbering
        env.refuses r.session.nextSeq []
      (⟨some msg, out.2.2⟩, ⟨out.2.1, out.1.IsOk ∧ out.2.1.state ≠ .closed⟩) := by
  rw [handle_eq_played, played, Session.plan_of_reaches reaches, if_pos reaches]

/-- What a plan upholds is true of the replies that were sent and of the session that is left: it
was played to its end, or a send failed and the session has ended. -/
theorem handle_upholds {cut : List RdowsMessage → Session → Prop}
    {ends : Outcome RdowsError Unit → List RdowsMessage → Session → Prop}
    (cutNumbers : ∀ sent s n, cut sent s → cut sent (s.renumber n))
    (endNumbers : ∀ o sent s n, ends o sent s → ends o sent (s.renumber n))
    (upholds : (r.session.plan env.now env.draws msg).Upholds numbering cut ends
      r.session.nextSeq) :
    ends (r.played env msg).1 (r.handle env msg).1.replies (r.handle env msg).2.session ∨
      cut (r.handle env msg).1.replies (r.handle env msg).2.session ∧
        (r.played env msg).1.IsErr ∧ (r.handle env msg).2.running = false ∧
          ∃ i, env.transport i ≠ none := by
  obtain ⟨front, sent, holds⟩ :=
    Script.run_upholds env.refuses cutNumbers endNumbers upholds []
  rw [List.nil_append] at sent
  rw [handle_eq_played]
  show ends _ (r.played env msg).2.2 (r.played env msg).2.1 ∨ cut (r.played env msg).2.2 _ ∧ _ ∧ _
  rw [sent]
  rcases holds with ends | ⟨cut, i, e, refused, failed⟩
  · exact .inl ends
  · refine .inr ⟨cut, ?_, ?_, i, ?_⟩
    · rw [failed]
      trivial
    · show decide ((r.played env msg).1.IsOk ∧ _) = false
      rw [failed]
      exact decide_eq_false fun ok => ok.1
    · intro accepted
      rw [Env.refuses, accepted] at refused
      cases refused

/-- What a plan upholds throughout is true of the replies that were sent and of the session that
is left. -/
theorem handle_throughout {P : List RdowsMessage → Session → Prop}
    (renumbers : ∀ sent s n, P sent s → P sent (s.renumber n))
    (upholds : (r.session.plan env.now env.draws msg).Throughout numbering P r.session.nextSeq) :
    P (r.handle env msg).1.replies (r.handle env msg).2.session := by
  rcases handle_upholds renumbers (fun _ => renumbers) upholds with ends | ⟨cut, -⟩
  · exact ends
  · exact cut

/-- The replies to a message are an initial part of what its plan sends. -/
theorem handle_emits (r : ServerRun) (env : Env) (msg : RdowsMessage) :
    (r.handle env msg).1.replies
      <+: (r.session.plan env.now env.draws msg).emits numbering r.session.nextSeq := by
  obtain ⟨front, initial, sent⟩ : ∃ front,
      front <+: (r.session.plan env.now env.draws msg).emits numbering r.session.nextSeq ∧
        (r.played env msg).2.2 = [] ++ front :=
    Script.run_sent (r.session.plan env.now env.draws msg) r.session.nextSeq []
  rw [handle_eq_played]
  show (r.played env msg).2.2 <+: _
  rw [sent, List.nil_append]
  exact initial

/-- What holds of each reply of a plan is known of each message that was sent. -/
theorem handle_each {P : Session → Reply → Prop}
    (each : (r.session.plan env.now env.draws msg).Each P)
    (sent : m ∈ (r.handle env msg).1.replies) :
    ∃ t k reply, P t reply ∧ m = reply.under t.sessionId k :=
  each.emits _ m ((handle_emits r env msg).subset sent)

/-- **A session that goes on** has played the plan to its end: no send has failed, so all replies of
the plan were sent, and the session is the one the plan ends with. -/
theorem handle_of_running (running : (r.handle env msg).2.running = true) :
    (r.session.plan env.now env.draws msg).ending = .ok () ∧
      (r.handle env msg).1.replies
        = (r.session.plan env.now env.draws msg).emits numbering r.session.nextSeq ∧
      (r.handle env msg).2.session = (r.session.plan env.now env.draws msg).final.renumber
        ((r.session.plan env.now env.draws msg).nextNumber r.session.nextSeq) := by
  obtain ⟨ends, whole⟩ := Script.run_eq_of_isOk (handle_running.mp running).1
  have whole : r.played env msg = _ := whole
  rw [handle_eq_played]
  dsimp only
  rw [whole]
  exact ⟨ends, rfl, rfl⟩

/-- A plan that is one reply: it is sent, or the WebSocket refuses it. -/
theorem handle_of_answer {t : Session} {reply : Reply}
    (plan : r.session.plan env.now env.draws msg = .answer t reply) :
    (r.handle env msg).2.session = t.renumber (r.session.nextSeq + 1) ∧
    (env.transport 0 = none ∧
        (r.handle env msg).1.replies = [reply.under t.sessionId r.session.nextSeq] ∨
      env.transport 0 ≠ none ∧ (r.handle env msg).1.replies = []) := by
  rw [handle_eq_played, played, plan]
  unfold Script.answer Script.run
  dsimp only [List.length_nil]
  rw [Env.refuses]
  rcases env.transport 0 with _ | reason
  · exact ⟨rfl, .inl ⟨rfl, rfl⟩⟩
  · exact ⟨rfl, .inr ⟨Option.some_ne_none reason, rfl⟩⟩

/-! ### Messages that are dispatched -/

/-- What a dispatched message leaves of the session. -/
theorem handle_leaves (env : Env) (reaches : r.session.ReachesDispatch msg) :
    (r.session.accepting msg).Leaves env.now env.draws msg (r.handle env msg).2.session := by
  refine handle_throughout
    (P := fun _ t => (r.session.accepting msg).Leaves env.now env.draws msg t)
    (fun _ _ n leaves => leaves.renumber n) ?_
  rw [Session.plan_of_reaches reaches]
  exact Session.leaves_planDispatch _ _ _ msg _

/-- What a dispatched message is answered with. -/
theorem handle_mayReply (reaches : r.session.ReachesDispatch msg)
    (sent : m ∈ (r.handle env msg).1.replies) :
    ∃ t k reply, (r.session.accepting msg).MayReply msg reply ∧
      m = reply.under (Session.sessionId t) k := by
  refine handle_each (P := fun _ reply => (r.session.accepting msg).MayReply msg reply) ?_ sent
  rw [Session.plan_of_reaches reaches]
  exact Session.mayReply_planDispatch _ _ _ msg

/-- What a message that is not dispatched leaves of the session. -/
theorem handle_sameWork (undispatched : ¬ r.session.ReachesDispatch msg) :
    r.session.SameWork (r.handle env msg).2.session :=
  handle_throughout (fun _ _ n same => same.renumber n)
    ((Session.undispatched_plan undispatched _ _).sameWork _)

/-- A turn of the loop dispatches the message that came, or it leaves the work of the session
alone. -/
theorem step_dispatches (r : ServerRun) (input : Env × WsMessage) :
    (r.step input).1.dispatched = none ∧ r.session.SameWork (r.step input).2.session ∨
    ∃ msg, r.running = true ∧ input.2.carried = some msg ∧ r.session.ReachesDispatch msg ∧
      (r.step input).1.dispatched = some msg ∧ r.step input = r.handle input.1 msg := by
  rcases r.step_cases input with ⟨goesOn, -, stays⟩ | ⟨msg, running, carried, handles⟩
  · rw [stays]
    exact .inl ⟨rfl, .refl _⟩
  · rw [handles]
    by_cases reaches : r.session.ReachesDispatch msg
    · exact .inr ⟨msg, running, carried, reaches, handle_dispatched_of_reaches reaches, rfl⟩
    · exact .inl ⟨handle_dispatched_of_not reaches, handle_sameWork reaches⟩

/-- What a turn of the loop that dispatches a message leaves of the session. -/
theorem step_leaves (r : ServerRun) (input : Env × WsMessage) :
    (r.step input).1.dispatched = none ∧ r.session.SameWork (r.step input).2.session ∨
    ∃ msg, input.2.carried = some msg ∧ (r.step input).1.dispatched = some msg ∧
      (r.session.accepting msg).Leaves input.1.now input.1.draws msg
        (r.step input).2.session := by
  rcases r.step_dispatches input with idle | ⟨msg, -, carried, reaches, dispatched, handles⟩
  · exact .inl idle
  · refine .inr ⟨msg, carried, dispatched, ?_⟩
    rw [handles]
    exact handle_leaves _ reaches

/-- A message that was dispatched was handled by the dispatcher. -/
theorem step_of_dispatched {input : Env × WsMessage}
    (dispatched : (r.step input).1.dispatched = some msg) :
    r.session.ReachesDispatch msg ∧ r.step input = r.handle input.1 msg := by
  rcases r.step_dispatches input with ⟨none, -⟩ | ⟨msg', -, -, reaches, some, handles⟩
  · rw [none] at dispatched
    cases dispatched
  · rw [some] at dispatched
    cases dispatched
    exact ⟨reaches, handles⟩

/-! ### Numbers -/

/-- A plan numbers what it sends. -/
theorem numbered_emits (p : Plan) (n : UInt32) :
    Numbered n (p.emits numbering n) (p.nextNumber n) := by
  induction p generalizing n with
  | done s => rfl
  | fail e s => rfl
  | crash c s => rfl
  | reply s r next ih =>
      refine ⟨?_, ih (n + 1)⟩
      show (r.under s.sessionId n).header.sequence = n
      rw [Reply.header_under]
      rfl

end ServerRun

end Rdows
