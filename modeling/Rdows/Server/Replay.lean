import Rdows.Core.RoundTrip
import Rdows.Server.Noninterference

/-!
# Frames out of order

A Ready session answers a message that does not carry the expected number with an ERROR and does
nothing else (`Session.plan_unexpected`).  Hence such messages can be left out of a run: what is
left of the run is the same but for the numbers of the replies (`ServerRun.after_expectedOnly`,
where the two runs are followed side by side).  And what a session executes after its CONNECT
carries the numbers after CONNECT's, one after the other (`ServerRun.numbered_executed`).

## Why the runs differ in numbers only

The ERROR to an unexpected message uses up a number of the session, so from there on the two runs
number their replies differently.  The plans do not look at that number, so the sessions stay
`Beside` each other: equal but for the next number.  This is an invariant of both runs together, and
the comparison of the replies is up to `unnumbered`.

## What is needed of the transport

If the ERROR cannot be sent, the send fails and the session ends, while the run without the message
goes on.  `CanComplain` excludes this, and asks nothing of the sends of other messages.  An
unexpected message that is also above the negotiated size is refused for its size, which is checked
first; the effect is the same, one ERROR.

## Executing at most once

A message is `executed` if the session accepts it: the CONNECT it waits for, or a message of the
right size and number.  The numbers of what is executed are consecutive, so that no message is
executed twice before the numbers wrap around, and none is executed out of order.
-/

namespace Rdows

open Rust

/-! ### One message -/

namespace Session

variable {s : Session} {msg : RdowsMessage}

/-- The session is Ready and the message does not carry the number it expects. -/
def unexpected (s : Session) (msg : RdowsMessage) : Bool :=
  s.state = .ready &&
    match s.expectedRemoteSeq with
    | some expected => msg.header.sequence ≠ expected
    | none => false

/-- The session accepts the message: as the CONNECT it waits for, or as one of the right size and
number once it is Ready. -/
def executes (s : Session) (msg : RdowsMessage) : Bool :=
  match s.state with
  | .awaitingConnect =>
      match msg with
      | .connect header _ => header.version = rdowsVersion
      | _ => false
  | .ready => ¬ s.maxMsgSize < msg.header.payloadLength ∧ ¬ s.unexpected msg
  | .closed => false

/-- **A message with an unexpected number** is answered with an ERROR, and that is all. -/
theorem plan_unexpected (h : s.unexpected msg = true) (now : ℕ) (draws : ℕ → UInt32) :
    ∃ payload, s.plan now draws msg = .answer s (.error payload) := by
  unfold unexpected at h
  rw [Bool.and_eq_true, decide_eq_true_iff] at h
  obtain ⟨ready, differs⟩ := h
  unfold plan
  split
  · exact ⟨_, rfl⟩
  · rw [ready]
    unfold planNumbered
    rcases expects : s.expectedRemoteSeq with _ | expected <;> rw [expects] at differs
    · cases differs
    · dsimp only
      rw [if_pos (of_decide_eq_true differs)]
      exact ⟨_, rfl⟩

/-- A Ready session that does not execute a message complains. -/
theorem plan_not_executed (ready : s.state = .ready) (h : s.executes msg = false) (now : ℕ)
    (draws : ℕ → UInt32) : ∃ payload, s.plan now draws msg = .answer s (.error payload) := by
  by_cases oversize : s.maxMsgSize < msg.header.payloadLength
  · unfold plan
    rw [if_pos ⟨ready, oversize⟩]
    exact ⟨_, rfl⟩
  · refine plan_unexpected ?_ now draws
    unfold executes at h
    rw [ready] at h
    by_contra expected
    exact absurd h (by simp [oversize, expected])

end Session

namespace ServerRun

open Session

variable {r : ServerRun} {env : Env} {msg : RdowsMessage}

/-- A session that complains is left as it is but for its next number; it goes on if the ERROR could
be sent. -/
theorem handle_complaint {payload : ErrorPayload}
    (complains : r.session.plan env.now env.draws msg = .answer r.session (.error payload)) :
    (r.handle env msg).2.session = r.session.renumber (r.session.nextSeq + 1) ∧
      (env.transport 0 = none → r.session.state ≠ .closed →
        (r.handle env msg).2.running = true) := by
  rw [handle_eq_played]
  unfold played
  rw [complains]
  unfold Script.answer Script.run Env.refuses
  rcases sends : env.transport 0 with _ | reason
  · exact ⟨rfl, fun _ opened => decide_eq_true ⟨trivial, opened⟩⟩
  · exact ⟨rfl, fun none => by cases none⟩

/-! ### Leaving messages out -/

/-- The input carries a message with an unexpected number. -/
def unexpected (r : ServerRun) (input : Env × WsMessage) : Bool :=
  r.running && (input.2.carried.any fun msg => r.session.unexpected msg)

/-- The inputs of a run without those that come with an unexpected number.  What is expected is
decided by the run of all inputs. -/
def expectedOnly (r : ServerRun) : List (Env × WsMessage) → List (Env × WsMessage)
  | [] => []
  | input :: rest =>
      if r.unexpected input then expectedOnly (r.step input).2 rest
      else input :: expectedOnly (r.step input).2 rest

/-- The replies of a run to the inputs that do not come with an unexpected number. -/
def lasting (r : ServerRun) : List (Env × WsMessage) → List RdowsMessage
  | [] => []
  | input :: rest =>
      if r.unexpected input then lasting (r.step input).2 rest
      else (r.step input).1.replies ++ lasting (r.step input).2 rest

/-- A reply without its sequence number, to compare replies that were numbered differently. -/
def unnumbered (m : RdowsMessage) : RdowsMessage := m.withHeader { m.header with sequence := 0 }

/-- The ERROR for an unexpected number, if there is one, can be sent. -/
def CanComplain (r : ServerRun) (input : Env × WsMessage) : Prop :=
  r.unexpected input = true → input.1.transport 0 = none

/-- The number is all that a reply takes from the moment it is sent in. -/
theorem unnumbered_under (reply : Reply) (id n n' : UInt32) :
    unnumbered (reply.under id n) = unnumbered (reply.under id n') := by
  cases reply <;> rfl

/-- What an unexpected number leaves of the session: everything but its next number. -/
theorem step_unexpected {input : Env × WsMessage} (unexpected : r.unexpected input = true)
    (sends : input.1.transport 0 = none) :
    (r.step input).2.session = r.session.renumber (r.session.nextSeq + 1) ∧
      (r.step input).2.running = r.running := by
  unfold ServerRun.unexpected at unexpected
  rw [Bool.and_eq_true, Option.any_eq_true] at unexpected
  obtain ⟨running, msg, carried, differs⟩ := unexpected
  obtain ⟨payload, complains⟩ := plan_unexpected differs input.1.now input.1.draws
  obtain ⟨session, goesOn⟩ := handle_complaint complains
  have opened : r.session.state ≠ .closed := by
    unfold Session.unexpected at differs
    rw [Bool.and_eq_true, decide_eq_true_iff] at differs
    rw [differs.1]
    decide
  rw [step_carried running carried, running]
  exact ⟨session, goesOn sends opened⟩

/-- **Two runs side by side**, of all inputs and of the expected ones only: the sessions stay equal
but for their next numbers, they end together, and the replies that last are the same but for their
numbers. -/
theorem after_expectedOnly {r q : ServerRun} (beside : Beside (· = ·) r.session q.session)
    (runs : r.running = q.running) (inputs : List (Env × WsMessage))
    (sends : Machine.Always step CanComplain r inputs) :
    Beside (· = ·) (r.after inputs).session (q.after (r.expectedOnly inputs)).session ∧
      (r.after inputs).running = (q.after (r.expectedOnly inputs)).running ∧
      List.Forall₂ (fun m m' => unnumbered m = unnumbered m') (r.lasting inputs)
        (q.emitted (r.expectedOnly inputs)) := by
  -- over the inputs, for any two sessions that are side by side
  induction inputs generalizing r q with
  | nil => exact ⟨beside, runs, .nil⟩
  | cons input rest ih =>
      obtain ⟨first, later⟩ := sends
      -- only the first run takes this step, and is left as it was but for its next number
      by_cases unexpected : r.unexpected input = true
      · obtain ⟨session, running⟩ := step_unexpected unexpected (first unexpected)
        have still : Beside (· = ·) (r.step input).2.session q.session := by
          rw [session]
          exact ⟨beside.rest, beside.stores⟩
        simp only [expectedOnly, lasting, if_pos unexpected]
        exact ih still (running.trans runs) later
      · obtain ⟨replies, running, sessions⟩ := step_both (P := fun a b =>
          List.Forall₂ (fun m m' => unnumbered m = unnumbered m') a.1.replies b.1.replies ∧
            a.2.running = b.2.running ∧ Beside (· = ·) a.2.session b.2.session) runs input
          (fun _ => ⟨.nil, rfl, beside⟩) fun msg _ _ => by
            obtain ⟨-, replies, running, sessions, -⟩ :=
              handle_beside storeCongr_eq (N := fun _ _ => True)
                (M := fun m m' => unnumbered m = unnumbered m') (fun _ _ => id)
                (fun reply id n n' _ => unnumbered_under reply id n n') beside trivial input.1 msg
            exact ⟨replies, running, sessions⟩
        obtain ⟨after, stops, lasts⟩ := ih sessions running later
        simp only [expectedOnly, lasting, if_neg unexpected, emitted]
        exact ⟨after, stops, List.rel_append replies lasts⟩

/-! ### What is executed -/

/-- The messages that a run executes, in order: a message that is refused for its size or its number
is not among them, a message that its handler refuses is. -/
def executed (r : ServerRun) : List (Env × WsMessage) → List RdowsMessage
  | [] => []
  | input :: rest =>
      (if r.running then input.2.carried.toList.filter fun msg => r.session.executes msg else []) ++
        executed (r.step input).2 rest

/-- A session that has ended executes nothing. -/
theorem executed_of_stopped (stopped : r.running = false) (inputs : List (Env × WsMessage)) :
    r.executed inputs = [] := by
  induction inputs with
  | nil => rfl
  | cons input rest ih =>
      rw [executed, step_stopped stopped, ih, stopped]
      rfl

/-- What the head of a run executes. -/
theorem executed_cons_of_carried (running : r.running = true) {input : Env × WsMessage}
    {msg : RdowsMessage} (carried : input.2.carried = some msg)
    (rest : List (Env × WsMessage)) :
    r.executed (input :: rest) = (if r.session.executes msg then [msg] else []) ++
      (r.handle input.1 msg).2.executed rest := by
  rw [executed, step_carried running carried, if_pos running, carried, Option.toList_some,
    List.filter_singleton]
  rcases r.session.executes msg <;> rfl

/-- An input that carries no message executes nothing. -/
theorem executed_cons_of_none {input : Env × WsMessage} (carried : input.2.carried = none)
    (rest : List (Env × WsMessage)) :
    r.executed (input :: rest) = (r.step input).2.executed rest := by
  rw [executed, carried]
  rcases r.running <;> rfl

/-- A turn of the loop that carries no message leaves the session alone. -/
theorem step_of_none {input : Env × WsMessage} (carried : input.2.carried = none) :
    ∃ goesOn, (goesOn = true → r.running = true) ∧ (r.step input).2 = ⟨r.session, goesOn⟩ := by
  rcases r.step_cases input with ⟨goesOn, runs, stays⟩ | ⟨msg, -, some, -⟩
  · exact ⟨goesOn, runs, by rw [stays]⟩
  · rw [carried] at some
    cases some

/-- **What a Ready session executes** carries consecutive numbers, from the one it expects on.  What
comes with another number is not executed. -/
theorem numbered_executed_of_inStep {limit seq : UInt32} (inStep : InStep limit seq r)
    (inputs : List (Env × WsMessage)) : ∃ next, Numbered (seq + 1) (r.executed inputs) next := by
  induction inputs generalizing r seq with
  | nil => exact ⟨seq + 1, rfl⟩
  | cons input rest ih =>
      by_cases running : r.running = true
      swap
      · rw [executed_of_stopped (Bool.eq_false_iff.mpr running)]
        exact ⟨seq + 1, rfl⟩
      obtain ⟨ready, expects, hlimit⟩ := inStep running
      rcases carried : input.2.carried with _ | msg
      · obtain ⟨goesOn, runs, stays⟩ := step_of_none (r := r) carried
        rw [executed_cons_of_none carried, stays]
        exact ih fun goes => inStep (runs goes)
      rw [executed_cons_of_carried running carried]
      by_cases executes : r.session.executes msg = true
      · have passes := executes
        unfold Session.executes Session.unexpected at passes
        rw [ready, expects, hlimit] at passes
        simp only [decide_true, Bool.true_and, decide_eq_true_eq, not_not, ne_eq] at passes
        have next : InStep limit (seq + 1) (r.handle input.1 msg).2 :=
          (inStep.handle running passes.2 (UInt32.not_lt.mp passes.1)).1
        obtain ⟨next, numbered⟩ := ih next
        rw [if_pos executes]
        exact ⟨next, passes.2, numbered⟩
      -- A refused message leaves the session in step with the number it waits for.
      · obtain ⟨payload, complains⟩ := plan_not_executed ready (Bool.eq_false_iff.mpr executes)
          input.1.now input.1.draws
        have session := (handle_complaint complains).1
        rw [if_neg executes, List.nil_append]
        refine ih fun _ => ?_
        rw [session]
        exact ⟨ready, expects, hlimit⟩

/-- A session that waits for CONNECT and does not accept the message that comes has ended. -/
theorem stopped_of_not_connect (awaiting : r.session.state = .awaitingConnect)
    (h : r.session.executes msg = false) : (r.handle env msg).2.running = false := by
  have ends : (r.session.plan env.now env.draws msg).Upholds numbering (fun _ _ => True)
      (fun o _ t => o.IsOk → t.state = .closed) r.session.nextSeq := by
    unfold Session.executes at h
    rw [awaiting] at h
    rw [plan_of_awaiting awaiting]
    cases msg with
    | connect header payload =>
        refine (?_ : Script.Upholds _ _ _ (if header.version ≠ rdowsVersion then _ else _) _)
        rw [if_pos (of_decide_eq_false h)]
        exact ⟨trivial, fun _ => rfl⟩
    | _ => exact fun ok => ok.elim
  rcases handle_upholds (fun _ _ _ h => h) (fun _ _ _ _ h => h) ends with ends | ⟨-, -, stopped, -⟩
  · rw [Bool.eq_false_iff]
    intro running
    obtain ⟨ok, opened⟩ := handle_running.mp running
    exact opened (ends ok)
  · exact stopped

/-- **What a session executes**: its CONNECT, and then messages that carry the numbers after
CONNECT's, each of them once. -/
theorem numbered_executed (config : ServerConfig) (now : ℕ) (inputs : List (Env × WsMessage)) :
    (new config now).executed inputs = [] ∨
      ∃ header payload rest next,
        (new config now).executed inputs = .connect header payload :: rest ∧
          Numbered (header.sequence + 1) rest next := by
  -- A text or a ping may come before CONNECT, and a close may end the loop; the session is fresh.
  suffices ∀ r : ServerRun, r.session = Session.new config now →
      r.executed inputs = [] ∨ ∃ header payload rest next,
        r.executed inputs = .connect header payload :: rest ∧
          Numbered (header.sequence + 1) rest next from this _ rfl
  intro r fresh
  induction inputs generalizing r with
  | nil => exact .inl rfl
  | cons input rest ih =>
      by_cases running : r.running = true
      swap
      · exact .inl (executed_of_stopped (Bool.eq_false_iff.mpr running) _)
      rcases carried : input.2.carried with _ | msg
      · obtain ⟨goesOn, -, stays⟩ := step_of_none (r := r) carried
        rw [executed_cons_of_none carried, stays]
        exact ih _ fresh
      rw [executed_cons_of_carried running carried]
      have awaiting : r.session.state = .awaitingConnect := by rw [fresh]; rfl
      by_cases executes : r.session.executes msg = true
      · rw [if_pos executes]
        cases msg with
        | connect header payload =>
            have start : r = new config now := by
              obtain ⟨session, running'⟩ := r
              cases fresh
              cases running
              rfl
            subst start
            obtain ⟨next, numbered⟩ := numbered_executed_of_inStep
              (inStep_connect config now input.1 header payload).1 rest
            exact .inr ⟨header, payload, _, next, rfl, numbered⟩
        | _ =>
            unfold Session.executes at executes
            rw [awaiting] at executes
            cases executes
      · rw [if_neg executes, executed_of_stopped
          (stopped_of_not_connect awaiting (Bool.eq_false_iff.mpr executes))]
        exact .inl rfl

/-- **Duplicates and frames out of order have no effect.** A Ready session answers a message with an
unexpected number with one ERROR and changes nothing but its next number.  If such messages are left
out of a run, whatever they are and wherever they come, the session ends up the same but for its
next number, and so are the replies but for their numbers and those ERRORs.  What a session executes
after CONNECT carries the numbers after CONNECT's, one after the other.

The ERROR must be sendable in the first two parts, since a send that fails ends the session. -/
theorem unexpected_without_effect :
    (∀ s env msg, s.unexpected msg = true → env.transport 0 = none → ∃ payload,
      (Handler.handleMessage env msg).run ⟨s, []⟩ = (.ok (),
        ⟨s.renumber (s.nextSeq + 1), [.error (Handler.headerFor s .error 0) payload]⟩)) ∧
    (∀ r inputs, Machine.Always step CanComplain r inputs →
      (r.after (r.expectedOnly inputs)).session.renumber 0
          = (r.after inputs).session.renumber 0 ∧
        (r.after (r.expectedOnly inputs)).running = (r.after inputs).running ∧
        (r.emitted (r.expectedOnly inputs)).map unnumbered = (r.lasting inputs).map unnumbered) ∧
    (∀ config now inputs, (new config now).executed inputs = [] ∨
      ∃ header payload rest next,
        (new config now).executed inputs = .connect header payload :: rest ∧
          Numbered (header.sequence + 1) rest next) := by
  refine ⟨?_, ?_, numbered_executed⟩
  · intro s env msg unexpected sends
    obtain ⟨payload, complains⟩ := plan_unexpected unexpected env.now env.draws
    refine ⟨payload, ?_⟩
    rw [Handler.handleMessage_run, complains]
    unfold Plan.play Script.answer Script.run Env.refuses
    simp only [List.length_nil, sends]
    rfl
  · intro r inputs sends
    obtain ⟨beside, runs, lasts⟩ := after_expectedOnly ⟨rfl, rfl⟩ rfl inputs sends
    refine ⟨?_, runs.symm, ?_⟩
    · rw [beside.rest, ← beside.stores]
      rfl
    · have same : List.Forall₂ (· = ·) ((r.lasting inputs).map unnumbered)
          ((r.emitted (r.expectedOnly inputs)).map unnumbered) :=
        List.forall₂_map_left_iff.mpr (List.forall₂_map_right_iff.mpr lasts)
      -- the replies were compared one by one
      rw [List.forall₂_eq_eq_eq] at same
      exact same.symm

/-- A frame that comes twice is left out once. -/
example : (new {} 0).expectedOnly (binaries [delivered (sampleConnect 1024),
      delivered (.ack (.new .ack 7 1 0)), delivered (.ack (.new .ack 7 1 0))])
    = binaries [delivered (sampleConnect 1024), delivered (.ack (.new .ack 7 1 0))] := by
  rfl

end ServerRun

end Rdows
