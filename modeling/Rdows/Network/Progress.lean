import Rdows.Core.Reencode
import Rdows.Network.Requests
import Rdows.Server.SessionRuns

/-!
# No call waits in vain

A call sends its frames and waits for a message that is not a CREDIT_UPDATE.  Here nothing is
assumed about the frames: they may be too large, out of order, refused or cut off by the format.

## What the server owes at least

The agreement of requests and answers says that an admitted request is answered *once*.  For a call
to return, it is enough that every request is answered *at least* once, and that holds without any
condition on the frames:

* `Session.responds_plan`, `ServerRun.step_responds`: a Ready session that goes on after a frame has
  sent an answer, or the frame was the first half of a SEND or a WRITE and the session now waits for
  the second.  Only DISCONNECT, CREDIT_UPDATE, ACK and the data of a refused SEND are met with
  silence, and a client sends none of the first three in a call.
* `ServerRun.step_ready`: as long as the server is there, its session stays Ready.

A session that does not go on has closed its end, and then the client's read fails instead of
waiting; that is the transport's part.

`Attends` is stated for every point at which a plan can be left, so that the argument does not
depend on how many replies a plan has.  The cases are those of the dispatcher.
-/

namespace Rdows

open Rust

/-! ### What a session does about a message -/

namespace Session

/-- The message is one that is not met with silence, in the state that the session is in. -/
def Asks (s : Session) : RdowsMessage → Prop
  | .disconnect _ | .creditUpdate _ _ | .ack _ => False
  | .sendData _ _ => s.pendingOp ≠ .discardingSendData
  | _ => True

/-- What was sent for a message, and the session that is left, say that it was answered or that its
second half is expected. -/
inductive Responds (msg : RdowsMessage) (sent : List RdowsMessage) (t : Session) : Prop
  | answered (m : RdowsMessage) (mem : m ∈ sent) (answer : m.isCreditUpdate = false)
  | sending (variant : msg.variantOpcode = .send) (awaits : t.pendingOp.awaitsSendData = true)
  | writing (variant : msg.variantOpcode = .write) (awaits : t.pendingOp.awaitsWriteData = true)

/-- A session that goes on responds.  If it ends, the client finds out in another way. -/
def Attends (msg : RdowsMessage) (o : Outcome RdowsError Unit) (sent : List RdowsMessage)
    (t : Session) : Prop :=
  o = .ok () → Responds msg sent t

theorem Attends.renumber {msg : RdowsMessage} {o : Outcome RdowsError Unit}
    {sent : List RdowsMessage} {t : Session} (n : UInt32) (attends : Attends msg o sent t) :
    Attends msg o sent (t.renumber n) := by
  intro ok
  cases attends ok with
  | answered m mem answer => exact .answered m mem answer
  | sending variant awaits => exact .sending variant awaits
  | writing variant awaits => exact .writing variant awaits

/-- The plan attends to the message. -/
abbrev Attentive (msg : RdowsMessage) (p : Plan) (n : UInt32) : Prop :=
  p.Upholds numbering (fun _ _ => True) (Attends msg) n

section Plans

variable {s : Session} {msg : RdowsMessage} {n : UInt32}

theorem attentive_answer {t : Session} {r : Reply}
    (answer : (r.under t.sessionId n).isCreditUpdate = false) :
    Attentive msg (.answer t r) n :=
  ⟨trivial, fun _ => .answered _ List.mem_cons_self answer⟩

theorem attentive_complain (t : Session) (code : ErrorCode) (failingSeq : UInt32)
    (description : String) : Attentive msg (t.complain code failingSeq description) n :=
  attentive_answer rfl

theorem attentive_calling {α : Type} {t : Session} {x : Method MemoryStore ErrorCode α}
    {next : Except ErrorCode α → Session → Plan}
    (goesOn : ∀ result store, Attentive msg (next result { t with memoryStore := store }) n) :
    Attentive msg (t.calling x next) n :=
  upholds_calling (fun p _ ok => by cases ok) fun result _ => goesOn result _

/-- The messages that are dispatched are all attended to, each by its own arm. -/
theorem attentive_planDispatch (asks : s.Asks msg) (now : ℕ) (draws : ℕ → UInt32) :
    Attentive msg (s.planDispatch now draws msg) n := by
  cases msg with
  | mrReg header payload =>
      unfold planDispatch planMrReg
      dsimp only
      split
      · exact attentive_answer rfl
      · exact attentive_calling fun result store => attentive_answer rfl
  | mrDereg header payload =>
      unfold planDispatch planMrDereg
      exact attentive_calling fun result store => attentive_answer rfl
  | send header payload =>
      unfold planDispatch planSend
      dsimp only
      split
      · exact ⟨trivial, fun _ => .answered _ List.mem_cons_self rfl⟩
      · exact fun _ => .sending rfl rfl
  | sendData header payload =>
      unfold planDispatch planSendData
      dsimp only
      split
      · -- The RECV_COMP is the answer, whether or not a CREDIT_UPDATE follows it.
        refine ⟨trivial, ?_⟩
        unfold planCredits
        split
        · exact fun ok => by cases ok
        · split
          · exact ⟨trivial, fun _ => .answered _ List.mem_cons_self rfl⟩
          · exact fun _ => .answered _ List.mem_cons_self rfl
      · rename_i discarding
        exact absurd discarding asks
      · exact attentive_complain _ _ _ _
      · exact attentive_complain _ _ _ _
  | write header payload =>
      unfold planDispatch planWrite
      dsimp only
      split
      · exact attentive_complain _ _ _ _
      · exact fun ok => by cases ok
      · exact fun _ => .writing rfl rfl
  | writeData header payload =>
      unfold planDispatch planWriteData
      dsimp only
      split
      · refine attentive_calling fun result store => ?_
        rcases result with code | _
        · exact attentive_complain _ _ _ _
        · exact attentive_answer rfl
      · exact attentive_complain _ _ _ _
      · exact attentive_complain _ _ _ _
      · exact attentive_complain _ _ _ _
  | readReq header payload =>
      unfold planDispatch planReadReq
      dsimp only
      split
      · exact attentive_complain _ _ _ _
      · split
        · exact attentive_complain _ _ _ _
        · exact fun ok => by cases ok
        · exact attentive_answer rfl
  | atomicReq header payload =>
      unfold planDispatch planAtomicReq
      dsimp only
      split
      · exact attentive_complain _ _ _ _
      · refine attentive_calling fun result store => ?_
        rcases result with code | original
        · exact attentive_complain _ _ _ _
        · exact attentive_answer rfl
  | ack header => exact asks.elim
  | _ => exact attentive_complain _ _ _ _

/-- **A Ready session attends to every message that is not met with silence**: if its
plan returns, it has sent a reply or put the operation into the slot. -/
theorem responds_plan (ready : s.state = .ready) (asks : s.Asks msg) (now : ℕ)
    (draws : ℕ → UInt32) : Attentive msg (s.plan now draws msg) n := by
  have control : isControl msg = false := by
    cases msg with
    | disconnect header => exact asks.elim
    | creditUpdate header payload => exact asks.elim
    | _ => rfl
  have dispatched : Attentive msg ((s.accepting msg).planReady now draws msg) n := by
    rw [planReady_eq_planDispatch control]
    exact attentive_planDispatch (s := s.accepting msg) asks now draws
  unfold plan
  split
  · exact attentive_complain _ _ _ _
  · rw [ready]
    dsimp only
    unfold planNumbered
    split
    · split
      · exact attentive_complain _ _ _ _
      · exact dispatched
    · exact dispatched

end Plans

end Session

/-! ### One frame -/

namespace Session

variable {s : Session} {msg : RdowsMessage}

/-- A Ready session stays Ready or is closed by a message that is not dispatched. -/
theorem Undispatched.state {plan : Plan} (h : s.Undispatched msg plan) (ready : s.state = .ready)
    (n : UInt32) :
    plan.Throughout numbering (fun _ t => t.state = .ready ∨ t.state = .closed) n := by
  cases h with
  | connects _ awaiting =>
      rw [ready] at awaiting
      cases awaiting
  | closed => exact .inl ready
  | oversize => exact ⟨.inl ready, .inl ready⟩
  | gap _ expected => exact ⟨.inl ready, .inl ready⟩
  | disconnect header => exact .inr rfl
  | creditUpdate header payload => exact .inl ready

end Session

namespace ServerRun

variable {r : ServerRun} {now : ℕ} {draws : ℕ → UInt32} {data : Bytes}

/-- A server that goes on after a frame has decoded and handled it: a frame that does not decode
ends the session. -/
theorem step_goesOn (goesOn : (r.step (.reliable now draws, .binary data)).2.running = true) :
    ∃ msg, RdowsMessage.decode data = .ok msg ∧
      r.step (.reliable now draws, .binary data) = r.handle (.reliable now draws) msg ∧
      (r.played (.reliable now draws) msg).1 = .ok () ∧
      (r.handle (.reliable now draws) msg).2.session.state ≠ .closed := by
  rcases running : r.running with _ | _
  · rw [step_stopped running, running] at goesOn
    cases goesOn
  have stops (stuck : (r.step (.reliable now draws, .binary data)).2.running = false) : False := by
    rw [stuck] at goesOn
    cases goesOn
  rcases decoded : RdowsMessage.decode data with msg | e | p
  · have handles : r.step (.reliable now draws, .binary data) = _ := step_handle running decoded
    rw [handles, handle_eq_played] at goesOn
    obtain ⟨ok, notClosed⟩ := of_decide_eq_true goesOn
    refine ⟨msg, rfl, handles, ?_, by rw [handle_eq_played]; exact notClosed⟩
    generalize (r.played (.reliable now draws) msg).1 = o at ok
    rcases o with _ | e | p
    · rfl
    · exact ok.elim
    · exact ok.elim
  · exact (stops (by simp [step, running, decoded])).elim
  · exact (stops (by simp [step, running, decoded])).elim

/-- A session that is Ready stays so as long as the server is there. -/
theorem step_ready (ready : r.session.state = .ready)
    (goesOn : (r.step (.reliable now draws, .binary data)).2.running = true) :
    (r.step (.reliable now draws, .binary data)).2.session.state = .ready := by
  obtain ⟨msg, -, handles, -, notClosed⟩ := step_goesOn goesOn
  rw [handles]
  by_cases reaches : r.session.ReachesDispatch msg
  · exact (congrArg Handler.Gate.state (handle_leaves _ reaches).gate_eq).trans ready
  · refine Or.resolve_right ?_ notClosed
    exact handle_throughout (P := fun _ t => t.state = .ready ∨ t.state = .closed)
      (fun _ _ _ h => h) ((Session.undispatched_plan reaches _ _).state ready _)

/-- **One frame.** A session that goes on after a frame has decoded it and responded to its message.
If it does not go on, the server is gone, which the client notices as well. -/
theorem step_responds (ready : r.session.state = .ready)
    (asks : ∀ msg, RdowsMessage.decode data = .ok msg → r.session.Asks msg)
    (goesOn : (r.step (.reliable now draws, .binary data)).2.running = true) :
    ∃ msg, RdowsMessage.decode data = .ok msg ∧
      Session.Responds msg (r.step (.reliable now draws, .binary data)).1.replies
        (r.step (.reliable now draws, .binary data)).2.session := by
  obtain ⟨msg, decoded, handles, ok, -⟩ := step_goesOn goesOn
  rw [handles] at goesOn ⊢
  refine ⟨msg, decoded, ?_⟩
  rcases @handle_upholds r (.reliable now draws) msg (fun _ _ => True) (Session.Attends msg)
      (fun _ _ _ _ => trivial) (fun _ _ _ n attends => attends.renumber n)
      (Session.responds_plan ready (asks msg decoded) now draws) with ends | ⟨-, -, stopped, -⟩
  · exact ends ok
  · rw [stopped] at goesOn
    cases goesOn

end ServerRun

end Rdows
