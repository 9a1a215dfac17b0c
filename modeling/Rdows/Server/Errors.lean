import Rdows.Server.Frames
import Rdows.Server.Writes

/-!
# The message an ERROR names

Every ERROR carries the sequence number of the message that caused it, so that a peer can tell which
of its messages failed.  The places that send one pass this number by hand: the checks of
`handle_message`, the last arm of `dispatch`, and the handlers.  All of them pass the number of the
message, except for the two handlers of data frames: `handle_send_data` and `handle_write_data`
ignore their header and pass 0.

* `Session.blamed` is the number that an ERROR to a message carries (`blamed_of_error`).
* `errors_name_message`: the ERRORs name the message, unless it is a data frame that is dispatched
  and refused, has a number other than 0, and is answered.  This is an equivalence, in every state
  of a session.
* `ServerRun.namesMessage_run` is the same for whole runs.

## When a data frame is refused

`RefusesData` describes the refusal from the state before the frame.  A SEND_DATA is refused if no
SEND waits for it and none was turned down; a WRITE_DATA is refused if no WRITE waits for it, or if
what the WRITE named is not there any more: between the WRITE and its data the region may have been
deregistered, and the range is checked only now.  A data frame that is refused by the checks before
`dispatch` is not concerned: those pass its number on.

The number 0 is the number of a message as well, if the session starts there or wraps around.  Then
the ERROR happens to name it, which is why the exception asks for another number.
-/

namespace Rdows

open Rust

namespace Session

/-- The message is a data frame that its handler refuses: no operation waits for it, or there is no
place for the data of its WRITE (the R_Key is not live any more, or the range is not inside its
region). -/
def RefusesData (s : Session) : RdowsMessage → Prop
  | .sendData _ _ => s.pendingOp.awaitsSendData = false ∧ s.pendingOp ≠ .discardingSendData
  | .writeData _ payload =>
      match s.pendingOp with
      | .awaitingWriteData _ rkey remoteVa _ =>
          ¬ s.memoryStore.Writable rkey remoteVa.toNat payload.data.length
      | _ => True
  | _ => False

instance (s : Session) : DecidablePred s.RefusesData := fun msg => by
  unfold RefusesData
  split
  · infer_instance
  · split <;> infer_instance
  · infer_instance

/-- The sequence number that an ERROR to the message carries: 0 if it is a data frame that is
dispatched and refused, and else its own. -/
def blamed (s : Session) (msg : RdowsMessage) : UInt32 :=
  if s.ReachesDispatch msg ∧ s.RefusesData msg then 0 else msg.header.sequence

/-- A data frame with a number other than 0 is dispatched and refused, and the ERROR is sent. -/
def Misattributes (s : Session) (env : Env) (msg : RdowsMessage) : Prop :=
  s.ReachesDispatch msg ∧ s.RefusesData msg ∧ msg.header.sequence ≠ 0 ∧ env.transport 0 = none

/-- If the reply is an ERROR, it carries this number. -/
def Blames (number : UInt32) (_ : Session) (r : Reply) : Prop :=
  ∀ payload, r = .error payload → payload.failingSeq = number

variable {s t : Session} {now : ℕ} {draws : ℕ → UInt32} {msg : RdowsMessage} {number : UInt32}

/-! ### The plans -/

/-- An ERROR that carries the number. -/
theorem blames_complain {failingSeq : UInt32} (same : number = failingSeq) (code : ErrorCode)
    (description : String) : (t.complain code failingSeq description).Each (Blames number) := by
  refine ⟨?_, trivial⟩
  rintro payload ⟨⟩
  exact same.symm

/-- A reply that is no ERROR. -/
theorem blames_other {r : Reply} (other : r.opcode ≠ .error) : Blames number t r := by
  rintro payload rfl
  exact absurd rfl other

/-- MR_REG is never answered with an ERROR: its refusals are acknowledgements. -/
theorem blames_planMrReg (wrid : UInt64) (payload : MrRegPayload) :
    (s.planMrReg now draws wrid payload).Each (Blames number) := by
  unfold planMrReg
  dsimp only
  split
  · exact ⟨blames_other nofun, trivial⟩
  · exact each_calling fun result _ => ⟨blames_other nofun, trivial⟩

/-- The ERROR to a SEND_DATA carries 0. -/
theorem blames_planSendData (header : RdowsHeader) (payload : DataPayload)
    (refused : s.RefusesData (.sendData header payload) → number = 0) :
    s.planSendData.Each (Blames number) := by
  have credits (t : Session) : t.planCredits.Each (Blames number) := by
    unfold planCredits
    split
    · trivial
    · split
      · exact ⟨blames_other nofun, trivial⟩
      · trivial
  unfold RefusesData at refused
  unfold planSendData
  dsimp only
  split
  · exact ⟨blames_other nofun, credits _⟩
  · trivial
  · rename_i waits
    rw [waits] at refused
    exact blames_complain (refused ⟨rfl, nofun⟩) _ _
  · rename_i waits
    rw [waits] at refused
    exact blames_complain (refused ⟨rfl, nofun⟩) _ _

/-- The ERROR to a WRITE_DATA carries 0. -/
theorem blames_planWriteData (header : RdowsHeader) (payload : DataPayload)
    (refused : s.RefusesData (.writeData header payload) → number = 0) :
    (s.planWriteData payload).Each (Blames number) := by
  unfold RefusesData at refused
  unfold planWriteData
  dsimp only
  split
  · rename_i wrid rkey remoteVa len waits
    rw [waits] at refused
    -- the store is called after the slot was emptied, and refuses what cannot be written
    refine each_calling fun result returned => ?_
    rcases result with code | _
    · refine blames_complain (refused ?_) _ _
      refine (s.memoryStore.isErr_writeRegion_iff rkey remoteVa payload.data).mp ?_
      rw [returned]
      trivial
    · exact ⟨blames_other nofun, trivial⟩
  · rename_i waits
    rw [waits] at refused
    exact blames_complain (refused trivial) _ _
  · rename_i waits
    rw [waits] at refused
    exact blames_complain (refused trivial) _ _
  · rename_i waits
    rw [waits] at refused
    exact blames_complain (refused trivial) _ _

/-- **The handlers.**  An ERROR carries 0 where a data frame is refused, and the number of the
message everywhere else. -/
theorem blames_planDispatch (refused : s.RefusesData msg → number = 0)
    (named : ¬ s.RefusesData msg → number = msg.header.sequence) :
    (s.planDispatch now draws msg).Each (Blames number) := by
  -- no other message than a data frame is refused with 0
  cases msg with
  | mrReg header payload => exact blames_planMrReg header.wrid payload
  | mrDereg header payload =>
      show (s.planMrDereg header.wrid payload).Each _
      exact each_calling fun result _ => ⟨blames_other nofun, trivial⟩
  | send header payload =>
      show (s.planSend header).Each _
      unfold planSend
      split
      · refine ⟨?_, trivial⟩
        rintro payload ⟨⟩
        exact (named id).symm
      · trivial
  | sendData header payload => exact blames_planSendData header payload refused
  | write header payload =>
      show (s.planWrite header payload).Each _
      unfold planWrite
      split
      · exact blames_complain (named id) _ _
      · trivial
      · trivial
  | writeData header payload => exact blames_planWriteData header payload refused
  | readReq header payload =>
      show (s.planReadReq header payload).Each _
      unfold planReadReq
      split
      · exact blames_complain (named id) _ _
      · split
        · exact blames_complain (named id) _ _
        · trivial
        · exact ⟨blames_other nofun, trivial⟩
  | atomicReq header payload =>
      show (s.planAtomicReq header payload).Each _
      unfold planAtomicReq
      split
      · exact blames_complain (named id) _ _
      · refine each_calling fun result _ => ?_
        rcases result with code | original
        · exact blames_complain (named id) _ _
        · exact ⟨blames_other nofun, trivial⟩
  | ack header => trivial
  | _ => exact blames_complain (named id) _ _

/-- A message that is not dispatched is named by the ERROR it is answered with. -/
theorem Undispatched.blames {plan : Plan} (h : s.Undispatched msg plan) :
    plan.Each (Blames msg.header.sequence) := by
  cases h with
  | connects _ awaiting =>
      cases msg with
      | connect header payload =>
          unfold planConnect
          dsimp only
          split
          · refine ⟨?_, trivial⟩
            rintro payload ⟨⟩
            rfl
          · exact ⟨blames_other nofun, trivial⟩
      | _ => trivial
  | closed => trivial
  | oversize => exact blames_complain rfl _ _
  | gap _ expected => exact blames_complain rfl _ _
  | disconnect header => trivial
  | creditUpdate header payload => trivial

/-- Every ERROR in the plan of a message carries the number that `blamed` gives. -/
theorem blames_plan : (s.plan now draws msg).Each (Blames (s.blamed msg)) := by
  by_cases reaches : s.ReachesDispatch msg
  · rw [plan_of_reaches reaches]
    refine blames_planDispatch (s := s.accepting msg) ?_ ?_
    · intro refused
      exact if_pos ⟨reaches, refused⟩
    · intro accepted
      exact if_neg fun both => accepted both.2
  · have same : s.blamed msg = msg.header.sequence := if_neg fun both => reaches both.1
    rw [same]
    exact (undispatched_plan reaches now draws).blames

/-- A data frame that is refused is answered with an ERROR. -/
theorem planDispatch_of_refuses (refused : s.RefusesData msg) (now : ℕ) (draws : ℕ → UInt32) :
    ∃ t code description, s.planDispatch now draws msg = complain t code 0 description := by
  cases msg with
  | sendData header payload =>
      unfold RefusesData at refused
      unfold planDispatch planSendData
      dsimp only
      rcases waits : s.pendingOp with _ | wrid | _ | _ <;> rw [waits] at refused
      · exact ⟨_, _, _, rfl⟩
      · exact absurd refused.1 nofun
      · exact ⟨_, _, _, rfl⟩
      · exact absurd rfl refused.2
  | writeData header payload =>
      unfold RefusesData at refused
      unfold planDispatch planWriteData
      dsimp only
      rcases waits : s.pendingOp with _ | wrid | ⟨wrid, rkey, remoteVa, len⟩ | _ <;>
        rw [waits] at refused
      · exact ⟨_, _, _, rfl⟩
      · exact ⟨_, _, _, rfl⟩
      · have failed := (s.memoryStore.isErr_writeRegion_iff rkey remoteVa payload.data).mpr refused
        unfold calling
        dsimp only
        rcases called : (MemoryStore.writeRegion rkey remoteVa payload.data).run s.memoryStore
          with ⟨_ | code | p, store⟩ <;> rw [called] at failed
        · exact failed.elim
        · exact ⟨_, _, _, rfl⟩
        · exact failed.elim
      · exact ⟨_, _, _, rfl⟩
  | _ => exact refused.elim

end Session

/-- A message that is an ERROR was an ERROR before it got its header. -/
theorem Reply.eq_error_of_under {r : Reply} {sessionId seq : UInt32} {header : RdowsHeader}
    {payload : ErrorPayload} (same : r.under sessionId seq = .error header payload) :
    r = .error payload := by
  cases r with
  | error payload' =>
      cases same
      rfl
  | _ => cases same

namespace Session

variable {s : Session} {env : Env} {msg : RdowsMessage}

/-! ### One message -/

/-- What `handle_message` sends. -/
abbrev replies (s : Session) (env : Env) (msg : RdowsMessage) : List RdowsMessage :=
  ((Handler.handleMessage env msg).run ⟨s, []⟩).2.sent

/-- **The number in an ERROR** is the one that `blamed` gives, whichever ERROR it is and over
whatever transport. -/
theorem blamed_of_error {header : RdowsHeader} {payload : ErrorPayload}
    (sent : .error header payload ∈ s.replies env msg) : payload.failingSeq = s.blamed msg := by
  obtain ⟨t, k, r, blames, same⟩ :=
    blames_plan.emits _ _ ((ServerRun.handle_emits ⟨s, true⟩ env msg).subset sent)
  exact blames payload (Reply.eq_error_of_under same.symm)

/-- A data frame that is refused is answered with an ERROR, if that can be sent. -/
theorem replies_of_refuses (env : Env) (reaches : s.ReachesDispatch msg)
    (refused : s.RefusesData msg) :
    s.replies env msg = [] ∧ env.transport 0 ≠ none ∨
      ∃ header payload, s.replies env msg = [.error header payload] ∧ env.transport 0 = none := by
  obtain ⟨t, code, description, plans⟩ :=
    planDispatch_of_refuses (s := s.accepting msg) refused env.now env.draws
  rw [replies, Handler.handleMessage_run, plan_of_reaches reaches, plans]
  unfold Plan.play complain Script.answer Script.run
  dsimp only [List.length_nil]
  rw [Env.refuses]
  rcases env.transport 0 with _ | reason
  · exact .inr ⟨_, _, rfl, rfl⟩
  · exact .inl ⟨rfl, Option.some_ne_none reason⟩

/-- The ERROR to a data frame that is refused carries 0. -/
theorem replies_of_misattributes (wrong : s.Misattributes env msg) :
    ∃ header payload, s.replies env msg = [.error header payload] ∧ payload.failingSeq = 0 := by
  obtain ⟨reaches, refused, -, delivers⟩ := wrong
  rcases replies_of_refuses env reaches refused with
    ⟨-, fails⟩ | ⟨header, payload, replies, -⟩
  · exact absurd delivers fails
  · refine ⟨header, payload, replies, ?_⟩
    have sent : .error header payload ∈ s.replies env msg := by
      rw [replies]
      exact List.mem_singleton_self _
    exact (blamed_of_error sent).trans (if_pos ⟨reaches, refused⟩)

/-- The exact condition under which the ERRORs to a message name it. -/
theorem names_message_iff :
    (∀ header payload, .error header payload ∈ s.replies env msg →
      payload.failingSeq = msg.header.sequence) ↔ ¬ s.Misattributes env msg := by
  constructor
  · intro names wrong
    obtain ⟨header, payload, replies, zero⟩ := replies_of_misattributes wrong
    have named : payload.failingSeq = msg.header.sequence := by
      refine names header payload ?_
      rw [replies]
      exact List.mem_singleton_self _
    exact wrong.2.2.1 (named.symm.trans zero)
  · intro attributed header payload sent
    rw [blamed_of_error sent]
    by_cases both : s.ReachesDispatch msg ∧ s.RefusesData msg
    · rw [blamed, if_pos both]
      by_contra nonzero
      rcases replies_of_refuses env both.1 both.2 with ⟨silent, -⟩ | ⟨-, -, -, delivers⟩
      · rw [silent] at sent
        cases sent
      · exact attributed ⟨both.1, both.2, fun zero => nonzero zero.symm, delivers⟩
    · exact if_neg both

/-- **ERRORs name the message that caused them**, in every state of a session, with every pending
operation, over every transport; except for a data frame with a number other than 0 that is
dispatched and refused, and whose ERROR is sent.  That ERROR carries 0. -/
theorem errors_name_message (s : Session) (env : Env) (msg : RdowsMessage) :
    ((∀ header payload, .error header payload ∈ s.replies env msg →
      payload.failingSeq = msg.header.sequence) ↔ ¬ s.Misattributes env msg) ∧
    (s.Misattributes env msg → ∃ header payload, s.replies env msg = [.error header payload] ∧
      payload.failingSeq = 0) :=
  ⟨names_message_iff, replies_of_misattributes⟩

end Session

namespace ServerRun

/-- The WRITE_DATA of a WRITE behind the end of its region; it has the number 3. -/
def outsideData : RdowsMessage := .writeData (.new .writeData 7 3 21) ⟨[9]⟩

/-- The session that waits for it: a region of eight bytes, and a WRITE to offset 8 that was
accepted, since its range is not looked at before the data comes. -/
def awaitingOutside : Session :=
  ((new {} 0).after (eightWritable ++ binaries
    [delivered (.write (.new .write 7 2 21) ⟨⟨1⟩, 8, 1, []⟩)])).session

/-- **An ERROR that names no message.**  A region has eight bytes.  A WRITE to offset 8 is accepted,
and its data, the message with the number 3, is refused.  The ERROR carries 0. -/
theorem outside_write_blames_zero :
    awaitingOutside.state = .ready ∧ outsideData.header.sequence = 3 ∧
    awaitingOutside.replies (delivered outsideData).1 outsideData
      = [.error (.new .error 7 2 0) ⟨.errBounds, 0, ""⟩] :=
  ⟨by decide +kernel, rfl, by decide +kernel⟩

/-! ### Whole runs -/

/-- The ERRORs that a turn of the loop sent name the message that came. -/
def NamesMessage (turn : (Env × WsMessage) × Served) : Prop :=
  ∀ msg, turn.1.2.carried = some msg → ∀ header payload, .error header payload ∈ turn.2.replies →
    payload.failingSeq = msg.header.sequence

/-- A turn of the loop handles no message to which the session misattributes its ERROR. -/
def Attributes (r : ServerRun) (input : Env × WsMessage) : Prop :=
  ∀ msg, r.running = true → input.2.carried = some msg → ¬ r.session.Misattributes input.1 msg

/-- One turn names its message exactly if it handles no message that is misattributed. -/
theorem namesMessage_step (r : ServerRun) (input : Env × WsMessage) :
    NamesMessage (input, (r.step input).1) ↔ r.Attributes input := by
  refine forall_congr' fun msg => ?_
  by_cases running : r.running = true
  · constructor
    · intro names _ carried
      have names := names carried
      rw [step_carried running carried] at names
      exact Session.names_message_iff.mp names
    · intro attributes carried
      rw [step_carried running carried]
      exact Session.names_message_iff.mpr (attributes running carried)
  · rw [step_stopped (Bool.eq_false_iff.mpr running)]
    exact iff_of_true (fun _ header payload sent => nomatch sent) fun runs => absurd runs running

/-- **A whole run.**  The ERRORs of a session name the messages that caused them exactly if no data
frame is refused on the way. -/
theorem namesMessage_run (r : ServerRun) (inputs : List (Env × WsMessage)) :
    (∀ turn ∈ r.seen inputs, NamesMessage turn) ↔ Machine.Always step Attributes r inputs := by
  induction inputs using List.reverseRecOn with
  | nil => exact iff_of_true (fun turn none => nomatch none) trivial
  | append_singleton inputs input ih =>
      rw [seen_concat, List.forall_mem_cons, namesMessage_step, ih, Machine.always_concat]
      exact and_comm

end ServerRun

end Rdows
