import Rdows.Core.RoundTrip
import Rdows.Server.SessionLoop

/-!
# Runs of a server session

Three properties of whole runs of `run_session`, each with the step it rests on and the runs in
which it fails.

* **Sequence numbers.** A client that numbers its frames consecutively is not told that it left a
  gap, as long as no frame declares a payload above the negotiated size (`notGap_of_within_limit`).
  A frame above it is refused before the expected number advances, and the session is stuck from
  then on (`oversize_frame_wedges_session`).
* **The target of WRITE_DATA.** Data goes where the latest WRITE said, as long as no WRITE is
  refused while another one still waits for its data (`writeData_latest_write`).  A refused WRITE
  does not clear the slot (`refused_write_keeps_stale_target`).
* **Posted receives.** `held` counts the receives that are posted or taken by a waiting SEND.  Every
  step either keeps the account of `held` and RECV_COMPs or loses exactly one receive, and
  `LosesReceive` says when; so the account is balanced at every message boundary exactly in the runs
  without such a step (`receives_balanced_iff`).

## One slot for two frames

The second and the third property fail for the same reason.  The slot of a session has room for one
operation, and the handlers of the announcing frames do not look at what is in it.  A SEND that
waits is displaced by another SEND, by a WRITE that is accepted, and by data that is not its own,
and its receive is then neither posted nor completed.  A WRITE that is refused, on the other hand,
does not displace anything, so that the data which its sender lets follow meets the WRITE before it.

## Invariants and histories

What a run has done is read off its history `Seen`, not off ghost state: `LatestWrite` looks for the
latest WRITE among the dispatched messages, and the account of receives counts the RECV_COMPs among
the replies.  The invariants (`InStep`, `TargetKnown`, `Balanced`) relate the session to the history
so far.
-/

namespace Rdows

open Rust
namespace ServerRun

open Handler

variable {r : ServerRun} {env : Env} {data : Bytes} {msg : RdowsMessage}

/-! ### Sequence numbers -/

/-- While it runs, the session is ready, has the limit `limit`, and expects the successor of
`seq`. -/
def InStep (limit seq : UInt32) (r : ServerRun) : Prop :=
  r.running = true → r.session.state = .ready ∧ r.session.expectedRemoteSeq = some (seq + 1) ∧
    r.session.maxMsgSize = limit

/-- One frame with the expected number and an admissible size: no gap is reported, and the session
is in step with the number of this frame. -/
theorem InStep.handle {limit seq : UInt32} (inStep : InStep limit seq r)
    (running : r.running = true) (numbered : msg.header.sequence = seq + 1)
    (size : msg.header.payloadLength ≤ limit) :
    InStep limit (seq + 1) (r.handle env msg).2 ∧
      ∀ reply ∈ (r.handle env msg).1.replies, notGap reply := by
  obtain ⟨ready, expects, hlimit⟩ := inStep running
  have small : ¬ r.session.maxMsgSize < msg.header.payloadLength := by
    rw [hlimit]
    exact UInt32.not_lt.mpr size
  have inOrder : ∀ expected, r.session.expectedRemoteSeq = some expected →
      msg.header.sequence = expected := by
    intro expected h
    rw [expects] at h
    cases h
    exact numbered
  have moves {t : Session} (gates : gate t = gate (r.session.accepting msg)) :
      t.state = .ready ∧ t.expectedRemoteSeq = some (seq + 1 + 1) ∧ t.maxMsgSize = limit := by
    refine ⟨(congrArg Gate.state gates).trans ready, ?_,
      (congrArg Gate.maxMsgSize gates).trans hlimit⟩
    rw [← numbered]
    exact congrArg Gate.expectedRemoteSeq gates
  by_cases control : Session.isControl msg = false
  · have reaches : r.session.ReachesDispatch msg := ⟨ready, small, inOrder, control⟩
    refine ⟨fun _ => moves (handle_leaves env reaches).gate_eq, fun reply sent => ?_⟩
    obtain ⟨t, k, r, mayReply, rfl⟩ := handle_mayReply reaches sent
    exact mayReply.notGap t.sessionId k
  -- The two messages of `handle_ready` itself are not answered; one of them closes the session.
  · have upholds : (r.session.plan env.now env.draws msg).Upholds numbering
        (fun sent _ => sent = [])
        (fun _ sent t => sent = [] ∧ (t.state ≠ .closed → gate t = gate (r.session.accepting msg)))
        r.session.nextSeq := by
      rw [Session.plan_of_ready ready small inOrder]
      cases msg with
      | disconnect header => exact ⟨rfl, fun goesOn => absurd rfl goesOn⟩
      | creditUpdate header payload => exact ⟨rfl, fun _ => rfl⟩
      | _ => exact absurd rfl control
    rcases handle_upholds (fun _ _ _ h => h) (fun _ _ _ _ h => h) upholds with
      ⟨silent, gates⟩ | ⟨silent, -, stopped, -⟩ <;> rw [silent]
    · exact ⟨fun goesOn => moves (gates (handle_running.mp goesOn).2), List.forall_mem_nil _⟩
    · refine ⟨fun goesOn => ?_, List.forall_mem_nil _⟩
      rw [stopped] at goesOn
      cases goesOn

/-- The CONNECT of a fresh session brings it in step with its own number, or ends it. -/
theorem inStep_connect (config : ServerConfig) (now : ℕ) (env : Env) (header : RdowsHeader)
    (payload : ConnectPayload) :
    InStep (min payload.maxMsgSize defaultMaxMsgSize) header.sequence
        ((new config now).handle env (.connect header payload)).2 ∧
      ∀ reply ∈ ((new config now).handle env (.connect header payload)).1.replies,
        notGap reply := by
  have upholds : ((new config now).session.plan env.now env.draws (.connect header payload)).Upholds
      numbering (fun sent _ => ∀ reply ∈ sent, notGap reply)
      (fun _ sent t => (∀ reply ∈ sent, notGap reply) ∧ (t.state ≠ .closed →
        t.state = .ready ∧ t.expectedRemoteSeq = some (header.sequence + 1) ∧
          t.maxMsgSize = min payload.maxMsgSize defaultMaxMsgSize)) 0 := by
    rw [Session.plan_of_awaiting rfl]
    unfold Session.planConnect
    dsimp only
    split
    · exact ⟨by simp, List.forall_mem_singleton.mpr rfl, fun goesOn => absurd rfl goesOn⟩
    · exact ⟨by simp, List.forall_mem_singleton.mpr rfl, fun _ => ⟨rfl, rfl, rfl⟩⟩
  rcases handle_upholds (fun _ _ _ h => h) (fun _ _ _ _ h => h) upholds with
    ⟨noGap, agreed⟩ | ⟨noGap, -, stopped, -⟩
  · exact ⟨fun goesOn => agreed (handle_running.mp goesOn).2, noGap⟩
  · refine ⟨fun goesOn => ?_, noGap⟩
    rw [stopped] at goesOn
    cases goesOn

/-- The frames decode, and their sequence numbers are the successors of `seq`, modulo
`2 ^ 32`. -/
def NumberedAfter (seq : UInt32) : List (Env × Bytes) → Prop
  | [] => True
  | (_, data) :: rest => ∃ msg, RdowsMessage.decode data = .ok msg ∧
      msg.header.sequence = seq + 1 ∧ NumberedAfter (seq + 1) rest

/-- The WebSocket messages that carry the frames. -/
def binaries (frames : List (Env × Bytes)) : List (Env × WsMessage) :=
  frames.map fun frame => (frame.1, .binary frame.2)

/-- No frame declares a payload above the limit. -/
def WithinLimit (limit : UInt32) (frames : List (Env × Bytes)) : Prop :=
  ∀ frame ∈ frames, ∀ msg, RdowsMessage.decode frame.2 = .ok msg →
    msg.header.payloadLength ≤ limit

/-- A session that is in step stays in step over consecutively numbered frames. -/
theorem InStep.notGap_seen {limit seq : UInt32} (inStep : InStep limit seq r)
    {frames : List (Env × Bytes)} (numbered : NumberedAfter seq frames)
    (within : WithinLimit limit frames) :
    ∀ entry ∈ r.seen (binaries frames), ∀ reply ∈ entry.2.replies, notGap reply := by
  induction frames generalizing r seq with
  | nil => simp [binaries, Machine.history, Machine.historyFrom]
  | cons frame rest ih =>
      obtain ⟨env, data⟩ := frame
      obtain ⟨msg, decoded, hseq, restNumbered⟩ := numbered
      have size := within (env, data) List.mem_cons_self msg decoded
      have restWithin : WithinLimit limit rest :=
        fun frame h => within frame (List.mem_cons_of_mem _ h)
      -- a session that has ended stays in step: it is not required to expect anything
      have head : InStep limit (seq + 1) (r.step (env, .binary data)).2 ∧
          ∀ reply ∈ (r.step (env, .binary data)).1.replies, notGap reply := by
        by_cases running : r.running = true
        · rw [step_handle running decoded]
          exact inStep.handle running hseq size
        · rw [step_stopped (Bool.eq_false_iff.mpr running)]
          exact ⟨fun h => absurd h running, by simp⟩
      intro entry hentry
      rw [binaries, List.map_cons, seen_cons] at hentry
      rcases List.mem_append.mp hentry with later | now
      · exact ih head.1 restNumbered restWithin entry later
      · rw [List.mem_singleton.mp now]
        exact head.2

/-- **A correctly numbered session is not told of a gap**, whatever its first frame's number and
proposed size, provided that no later frame declares a payload above the negotiated size.

`connects` and `numbered` say that the frames decode, that the first is a CONNECT and that the
others are numbered on from it.  `within` is needed because a frame that is too large is refused
before its number is accepted. -/
theorem notGap_of_within_limit (config : ServerConfig) (now : ℕ) (env : Env) (data : Bytes)
    (header : RdowsHeader) (payload : ConnectPayload)
    (connects : RdowsMessage.decode data = .ok (.connect header payload))
    (frames : List (Env × Bytes)) (numbered : NumberedAfter header.sequence frames)
    (within : WithinLimit (min payload.maxMsgSize defaultMaxMsgSize) frames) :
    ∀ entry ∈ (new config now).seen ((env, .binary data) :: binaries frames),
      ∀ reply ∈ entry.2.replies, notGap reply := by
  have first := inStep_connect config now env header payload
  intro entry hentry
  rw [seen_cons, step_handle rfl connects] at hentry
  rcases List.mem_append.mp hentry with later | now
  · exact first.1.notGap_seen numbered within entry later
  · rw [List.mem_singleton.mp now]
    exact first.2

/-- The frame of a message, in an environment in which every send succeeds. -/
def delivered (msg : RdowsMessage) : Env × Bytes :=
  (⟨0, fun i => UInt32.ofNat (i + 1), fun _ => none⟩, msg.encode)

/-- A CONNECT with sequence number 0 that proposes `maxMsgSize`. -/
def sampleConnect (maxMsgSize : UInt32) : RdowsMessage :=
  .connect (.new .connect 7 0 0) ⟨⟨1⟩, 0, maxMsgSize, 0⟩

/-- Frames over the end of the sequence numbers: a READ_REQ of an R_Key that was never given out, a
registration and an ACK. -/
def wrappingFrames : List (Env × Bytes) :=
  [delivered (.readReq (.new .readReq 7 0xFFFFFFFF 1) ⟨⟨9⟩, 0, 8, ⟨1⟩, 0⟩),
    delivered (.mrReg (.new .mrReg 7 0 2) ⟨⟨1⟩, .remoteWrite, 16, none⟩),
    delivered (.ack (.new .ack 7 1 3))]

/-- A session that starts just before the wrap-around.  The READ_REQ is answered with an ERROR, the
numbers go on at 0, and no reply tells of a gap. -/
theorem notGap_of_within_limit_wrapping :
    (∃ entry ∈ (new {} 0).seen (binaries
        (delivered (.connect (.new .connect 7 0xFFFFFFFE 0) ⟨⟨1⟩, 0, 1024, 0⟩) :: wrappingFrames)),
      ∃ reply ∈ entry.2.replies, reply.header.opcode = .error) ∧
    ∀ entry ∈ (new {} 0).seen (binaries
        (delivered (.connect (.new .connect 7 0xFFFFFFFE 0) ⟨⟨1⟩, 0, 1024, 0⟩) :: wrappingFrames)),
      ∀ reply ∈ entry.2.replies, notGap reply := by
  have within : WithinLimit (min 1024 defaultMaxMsgSize) wrappingFrames := by
    intro frame mem msg decoded
    simp only [wrappingFrames, List.mem_cons, List.not_mem_nil, or_false] at mem
    rcases mem with rfl | rfl | rfl <;> cases decoded <;> decide
  have numbered : NumberedAfter 0xFFFFFFFE wrappingFrames :=
    ⟨_, rfl, by decide +kernel, _, rfl, by decide +kernel, _, rfl, by decide +kernel, trivial⟩
  refine ⟨by decide +kernel, ?_⟩
  exact notGap_of_within_limit {} 0 _ _ _ _ rfl wrappingFrames numbered within

/-- **A frame above the negotiated size wedges the session.**  CONNECT proposes size 0;
a SEND_DATA frame with one byte is refused with ERR_PAYLOAD_SIZE, and the next frame,
correctly numbered, is answered with ERR_SEQ_GAP. -/
theorem oversize_frame_wedges_session :
    (∃ msg, RdowsMessage.decode (sampleConnect 0).encode = .ok msg ∧ msg.header.sequence = 0) ∧
    NumberedAfter 0 [delivered (.sendData (.new .sendData 7 1 0) ⟨[0]⟩),
      delivered (.ack (.new .ack 7 2 0))] ∧
    ∃ entry ∈ (new {} 0).seen (binaries [delivered (sampleConnect 0),
        delivered (.sendData (.new .sendData 7 1 0) ⟨[0]⟩), delivered (.ack (.new .ack 7 2 0))]),
      ∃ reply ∈ entry.2.replies, notGap reply = false := by
  refine ⟨⟨_, rfl, rfl⟩, ⟨_, rfl, rfl, _, rfl, rfl, trivial⟩, ?_⟩
  decide

/-! ### The target of WRITE_DATA -/

/-- The message is one half of a WRITE: it sets or clears the target. -/
def isWriteHalf : RdowsMessage → Bool
  | .write .. | .writeData .. => true
  | _ => false

/-- **The latest WRITE.**  The most recent WRITE that was dispatched was not answered, has
the given WRID, R_Key and address, and no WRITE_DATA was dispatched since. -/
def LatestWrite (seen : Seen) (wrid : UInt64) (rkey : RKey) (va : UInt64) : Prop :=
  ∃ newer entry older header payload, seen = newer ++ entry :: older ∧
    entry.2.dispatched = some (.write header payload) ∧ entry.2.replies = [] ∧
    header.wrid = wrid ∧ payload.rkey = rkey ∧ payload.remoteVa = va ∧
    ∀ e ∈ newer, ∀ m, e.2.dispatched = some m → isWriteHalf m = false

/-- A turn without a half of a WRITE does not change which WRITE is the latest. -/
theorem LatestWrite.cons {seen : Seen} {wrid : UInt64} {rkey : RKey} {va : UInt64}
    (h : LatestWrite seen wrid rkey va) {entry : (Env × WsMessage) × Served}
    (other : ∀ m, entry.2.dispatched = some m → isWriteHalf m = false) :
    LatestWrite (entry :: seen) wrid rkey va := by
  obtain ⟨newer, write, older, header, payload, split, rest⟩ := h
  refine ⟨entry :: newer, write, older, header, payload, by rw [split, List.cons_append],
    rest.1, rest.2.1, rest.2.2.1, rest.2.2.2.1, rest.2.2.2.2.1, ?_⟩
  intro e he
  rcases List.mem_cons.mp he with rfl | he
  · exact other
  · exact rest.2.2.2.2.2 e he

/-- If the slot names a target, it is that of the latest WRITE. -/
def TargetKnown (seen : Seen) (s : Session) : Prop :=
  ∀ wrid rkey va len, s.pendingOp = .awaitingWriteData wrid rkey va len →
    LatestWrite seen wrid rkey va

/-- A turn that leaves the slot alone and dispatches no half of a WRITE. -/
theorem TargetKnown.cons {seen : Seen} {s s' : Session} (known : TargetKnown seen s)
    (same : s'.pendingOp = s.pendingOp) {entry : (Env × WsMessage) × Served}
    (other : ∀ m, entry.2.dispatched = some m → isWriteHalf m = false) :
    TargetKnown (entry :: seen) s' := by
  intro wrid rkey va len h
  rw [same] at h
  exact (known wrid rkey va len h).cons other

/-- A slot without a target is true to every history. -/
theorem TargetKnown.of_ne {seen : Seen} {s : Session}
    (h : ∀ wrid rkey va len, s.pendingOp ≠ .awaitingWriteData wrid rkey va len) :
    TargetKnown seen s :=
  fun wrid rkey va len hp => absurd hp (h wrid rkey va len)

/-- The message is a WRITE whose R_Key `validate_rkey` refuses. -/
def refusesWrite (s : Session) : RdowsMessage → Bool
  | .write _ payload => (s.memoryStore.validateRkey payload.rkey .remoteWrite).IsErr
  | _ => false

/-- The frame is not a WRITE that is refused while another WRITE waits for its data. -/
def KeepsTarget (r : ServerRun) (input : Env × WsMessage) : Prop :=
  ∀ m, (r.step input).1.dispatched = some m →
    ¬ (refusesWrite r.session m = true ∧ r.session.pendingOp.awaitsWriteData = true)

instance (r : ServerRun) (input : Env × WsMessage) : Decidable (KeepsTarget r input) :=
  Option.decidableForallMem (r.step input).1.dispatched

/-- A WRITE that is accepted is not answered. -/
theorem replies_of_accepted {header : RdowsHeader} {payload : WritePayload}
    (reaches : r.session.ReachesDispatch (.write header payload)) {entry : MemoryRegionEntry}
    (valid : r.session.memoryStore.validateRkey payload.rkey .remoteWrite = .ok entry) :
    (r.handle env (.write header payload)).1.replies = [] := by
  have plan : (r.session.accepting (.write header payload)).planWrite header payload = .done _ :=
    Session.planWrite_of_ok header valid
  rw [handle_of_reaches reaches, Session.planDispatch, plan]
  rfl

/-- One dispatched message keeps the slot true to the latest WRITE, unless it is a WRITE
refused while another one waits. -/
theorem TargetKnown.handle {seen : Seen} (known : TargetKnown seen r.session)
    (reaches : r.session.ReachesDispatch msg)
    (ok : ¬ (refusesWrite r.session msg = true ∧ r.session.pendingOp.awaitsWriteData = true))
    (input : Env × WsMessage) :
    TargetKnown ((input, (r.handle env msg).1) :: seen) (r.handle env msg).2.session := by
  have dispatched : (r.handle env msg).1.dispatched = some msg :=
    handle_dispatched_of_reaches reaches
  have leaves : (r.session.accepting msg).Leaves env.now env.draws msg
      (r.handle env msg).2.session := handle_leaves env reaches
  have other (h : isWriteHalf msg = false) :
      ∀ m, (r.handle env msg).1.dispatched = some m → isWriteHalf m = false := by
    intro m hm
    rw [dispatched] at hm
    cases hm
    exact h
  by_cases whole : touchesSlot msg = false
  · refine known.cons (congrArg Slot.pendingOp (leaves.slot_eq whole)) (other ?_)
    cases msg with
    | write | writeData => cases whole
    | _ => rfl
  -- what is left are the halves of SEND and WRITE
  generalize (r.handle env msg).2.session = t at leaves
  cases leaves with
  | turnsDown => exact known.cons rfl (other rfl)
  | discards | accepts | receives | writes | ignores => exact .of_ne nofun
  | declines header payload invalid =>
      refine .of_ne fun wrid rkey va len awaits => ok ⟨?_, ?_⟩
      · rcases valid : r.session.memoryStore.validateRkey payload.rkey .remoteWrite
          with e | code | p
        · exact absurd valid (invalid e)
        · simp [refusesWrite, valid]
        · exact absurd valid (MemoryStore.validateRkey_ne_panic _ _ _ _)
      · rw [show r.session.pendingOp = _ from awaits]
        rfl
  | announces header payload valid =>
      intro wrid rkey va len awaits
      cases awaits
      exact ⟨[], _, seen, header, payload, rfl, dispatched, replies_of_accepted reaches valid, rfl,
        rfl, rfl, by simp⟩
  | stays noMrReg whole' => exact absurd whole' whole
  | _ => exact absurd rfl whole

/-- One turn of the loop. -/
theorem TargetKnown.step {seen : Seen} (known : TargetKnown seen r.session)
    (input : Env × WsMessage) (ok : KeepsTarget r input) :
    TargetKnown ((input, (r.step input).1) :: seen) (r.step input).2.session := by
  have nothing {s' : Session} (same : s'.pendingOp = r.session.pendingOp)
      {served : Served} (h : served.dispatched = none) :
      TargetKnown ((input, served) :: seen) s' :=
    known.cons same fun m hm => by rw [h] at hm; cases hm
  obtain ⟨goesOn, -, turn⟩ | ⟨msg, -, -, turn⟩ := step_cases r input
  · rw [turn]
    exact nothing rfl rfl
  by_cases reaches : r.session.ReachesDispatch msg
  · have ok' := ok msg (turn ▸ handle_dispatched_of_reaches reaches)
    rw [turn]
    exact known.handle reaches ok' input
  · rw [turn]
    refine nothing ?_ (handle_dispatched_of_not reaches)
    exact congrArg Slot.pendingOp (handle_sameWork reaches).slot_eq

/-- In a run of such frames the slot always names the latest WRITE. -/
theorem targetKnown_after (config : ServerConfig) (now : ℕ) (inputs : List (Env × WsMessage))
    (ok : Machine.Always step KeepsTarget (new config now) inputs) :
    TargetKnown ((new config now).seen inputs) ((new config now).after inputs).session := by
  refine Machine.always_induction (P := fun seen r => TargetKnown seen r.session) ?_ ?_ ok
  · exact .of_ne fun wrid rkey va len h => by cases h
  · intro seen r input last known
    exact known.step input last

section WriteData

variable {header : RdowsHeader} {payload : DataPayload}
  (reaches : r.session.ReachesDispatch (.writeData header payload))
include reaches

/-- What a WRITE_DATA does when the slot names a target: the write to that target, and a WRITE_COMP
for its work request at most. -/
theorem writeData_effect (env : Env) {wrid : UInt64} {rkey : RKey} {va len : UInt64}
    (awaiting : r.session.pendingOp = .awaitingWriteData wrid rkey va len) :
    (r.handle env (.writeData header payload)).2.session.memoryStore
      = ((MemoryStore.writeRegion rkey va payload.data).run r.session.memoryStore).2 ∧
    ∀ h, .writeComp h ∈ (r.handle env (.writeData header payload)).1.replies → h.wrid = wrid := by
  constructor
  · have leaves := handle_leaves env reaches
    generalize (r.handle env (.writeData header payload)).2.session = t at leaves
    cases leaves with
    | writes _ _ awaits =>
        cases awaiting.symm.trans awaits
        rfl
    | ignores _ _ other => exact absurd awaiting (other _ _ _ _)
    | stays _ whole => cases whole
  · intro h completed
    obtain ⟨t, k, reply, mayReply, same⟩ := handle_mayReply reaches completed
    cases mayReply with
    | complains => cases same
    | writeComp _ _ awaits =>
        cases awaiting.symm.trans awaits
        cases same
        rfl

/-- Without a target a WRITE_DATA changes no region and completes nothing. -/
theorem writeData_no_effect (env : Env)
    (other : ∀ wrid rkey va len, r.session.pendingOp ≠ .awaitingWriteData wrid rkey va len) :
    (r.handle env (.writeData header payload)).2.session.memoryStore = r.session.memoryStore ∧
    ∀ h, .writeComp h ∉ (r.handle env (.writeData header payload)).1.replies := by
  constructor
  · have leaves := handle_leaves env reaches
    generalize (r.handle env (.writeData header payload)).2.session = t at leaves
    cases leaves with
    | writes _ _ awaits => exact absurd awaits (other _ _ _ _)
    | ignores => rfl
    | stays _ whole => cases whole
  · intro h completed
    obtain ⟨t, k, reply, mayReply, same⟩ := handle_mayReply reaches completed
    cases mayReply with
    | complains => cases same
    | writeComp _ _ awaits => exact absurd awaits (other _ _ _ _)

end WriteData

/-- **WRITE_DATA goes where the latest WRITE said, or nowhere.** In a run in which no WRITE is
refused while another one waits for its data, a WRITE_DATA that changes a region or is answered with
a WRITE_COMP belongs to the latest WRITE: that one was accepted, no WRITE_DATA came since, and its
R_Key, address and WRID are the ones used.

`ok` excludes the runs of `refused_write_keeps_stale_target`; `data` and `effect` say that the next
frame is a WRITE_DATA and has an effect. -/
theorem writeData_latest_write (config : ServerConfig) (now : ℕ)
    (inputs : List (Env × WsMessage))
    (ok : Machine.Always step KeepsTarget (new config now) inputs)
    (input : Env × WsMessage) (header : RdowsHeader) (payload : DataPayload)
    (data : (((new config now).after inputs).step input).1.dispatched
      = some (.writeData header payload))
    (effect : (((new config now).after inputs).step input).2.session.memoryStore
        ≠ ((new config now).after inputs).session.memoryStore ∨
      ∃ h, .writeComp h ∈ (((new config now).after inputs).step input).1.replies) :
    ∃ wrid rkey va, LatestWrite ((new config now).seen inputs) wrid rkey va ∧
      (((new config now).after inputs).step input).2.session.memoryStore
        = ((MemoryStore.writeRegion rkey va payload.data).run
            ((new config now).after inputs).session.memoryStore).2 ∧
      ∀ h, .writeComp h ∈ (((new config now).after inputs).step input).1.replies →
        h.wrid = wrid := by
  have known := targetKnown_after config now inputs ok
  generalize (new config now).after inputs = r at *
  obtain ⟨goesOn, -, turn⟩ | ⟨msg, -, -, turn⟩ := step_cases r input
  · rw [turn] at data
    cases data
  rw [turn] at data effect ⊢
  by_cases reaches : r.session.ReachesDispatch msg
  swap
  · rw [handle_dispatched_of_not reaches] at data
    cases data
  rw [handle_dispatched_of_reaches reaches] at data
  cases data
  -- A WRITE_DATA has an effect only if the slot names a target, and then the target is known.
  by_cases pending : ∃ wrid rkey va len, r.session.pendingOp = .awaitingWriteData wrid rkey va len
  · obtain ⟨wrid, rkey, va, len, pending⟩ := pending
    obtain ⟨store, comps⟩ := writeData_effect reaches input.1 pending
    exact ⟨wrid, rkey, va, known wrid rkey va len pending, store, comps⟩
  · push Not at pending
    obtain ⟨store, comps⟩ := writeData_no_effect reaches input.1 pending
    rcases effect with changed | ⟨h, hcomp⟩
    · exact absurd store changed
    · exact absurd hcomp (comps h)

/-- CONNECT, a region of eight bytes that may be written, and a WRITE of one byte to it. -/
def sampleWrite : List (Env × Bytes) :=
  [delivered (sampleConnect 1024),
    delivered (.mrReg (.new .mrReg 7 1 0) ⟨⟨1⟩, .remoteWrite, 8, none⟩),
    delivered (.write (.new .write 7 2 21) ⟨⟨1⟩, 4, 1, []⟩)]

/-- A WRITE_DATA frame with one byte, under a sequence number. -/
def sampleWriteData (sequence : UInt32) : Env × WsMessage :=
  ((delivered (sampleConnect 0)).1,
    .binary (RdowsMessage.writeData (.new .writeData 7 sequence 21) ⟨[9]⟩).encode)

/-- After `sampleWrite` the data of the WRITE is completed, so there is a latest WRITE that it
belongs to.  No WRITE of this run is refused. -/
theorem writeData_latest_write_sample :
    Machine.Always step KeepsTarget (new {} 0) (binaries sampleWrite) ∧
    ∃ wrid rkey va, LatestWrite ((new {} 0).seen (binaries sampleWrite)) wrid rkey va := by
  have always : Machine.Always step KeepsTarget (new {} 0) (binaries sampleWrite) := by
    decide +kernel
  have data : (((new {} 0).after (binaries sampleWrite)).step (sampleWriteData 3)).1.dispatched
      = some (.writeData { RdowsHeader.new .writeData 7 3 21 with payloadLength := 1 } ⟨[9]⟩) := by
    decide +kernel
  have replies : (((new {} 0).after (binaries sampleWrite)).step (sampleWriteData 3)).1.replies
      = [.writeComp (.new .writeComp 7 2 21)] := by decide +kernel
  obtain ⟨wrid, rkey, va, latest, -⟩ := writeData_latest_write {} 0 (binaries sampleWrite) always
    (sampleWriteData 3) _ _ data (.inr ⟨_, replies ▸ List.mem_singleton_self _⟩)
  exact ⟨always, wrid, rkey, va, latest⟩

/-- **A refused WRITE leaves the target of an earlier one in place.**  The last WRITE was
refused with an error, and its data is written to the region of the WRITE before it and
answered with that one's WRITE_COMP. -/
theorem refused_write_keeps_stale_target :
    ∃ entry older header payload code, (new {} 0).seen (binaries (sampleWrite ++
        [delivered (.write (.new .write 7 3 22) ⟨⟨99⟩, 0, 1, []⟩)])) = entry :: older ∧
      entry.2.dispatched = some (.write header payload) ∧
      entry.2.replies = [.error (.new .error 7 2 0) ⟨code, 3, ""⟩] ∧
      ∃ h, .writeComp h ∈ (((new {} 0).after (binaries (sampleWrite ++
          [delivered (.write (.new .write 7 3 22) ⟨⟨99⟩, 0, 1, []⟩)]))).step
            (sampleWriteData 4)).1.replies ∧ h.wrid ≠ header.wrid := by
  have replies : (((new {} 0).after (binaries (sampleWrite ++
      [delivered (.write (.new .write 7 3 22) ⟨⟨99⟩, 0, 1, []⟩)]))).step
        (sampleWriteData 4)).1.replies = [.writeComp (.new .writeComp 7 3 21)] := by decide +kernel
  rw [replies, binaries, List.map_append, ← binaries]
  exact ⟨_, _, { RdowsHeader.new .write 7 3 22 with payloadLength := 24 }, ⟨⟨99⟩, 0, 1, []⟩,
    .errInvalidMkey, seen_concat _ (binaries sampleWrite) _, by decide +kernel, by decide +kernel,
    _, List.mem_singleton_self _, by decide⟩

/-! ### Posted receives -/

/-- One while a SEND waits for its data, and 0 otherwise. -/
def waiting (s : Session) : ℕ := if s.pendingOp.awaitsSendData then 1 else 0

/-- The receives that are posted or taken by a SEND that waits for its data. -/
def held (s : Session) : ℕ := s.recvQueueDepth.toNat + waiting s

/-- The number of RECV_COMPs among some replies. -/
def recvComps (replies : List RdowsMessage) : ℕ := replies.countP fun m => !notRecvComp m

/-- The message takes a waiting SEND out of the slot without completing it: another SEND,
the data of a WRITE, or a WRITE that is accepted. -/
def displacesSend (s : Session) : RdowsMessage → Bool
  | .send .. | .writeData .. => true
  | .write _ payload => (s.memoryStore.validateRkey payload.rkey .remoteWrite).IsOk
  | _ => false

/-- The RECV_COMPs of two parts of a run add up. -/
theorem recvComps_append (front back : List RdowsMessage) :
    recvComps (front ++ back) = recvComps front + recvComps back := List.countP_append

/-- What is held is read off the slot. -/
theorem held_of_slot {s t : Session} (same : slot t = slot s) : held t = held s := by
  have depth : t.recvQueueDepth = s.recvQueueDepth := congrArg Slot.recvQueueDepth same
  have pending : t.pendingOp = s.pendingOp := congrArg Slot.pendingOp same
  rw [held, held, waiting, waiting, depth, pending]

/-- Replies without a RECV_COMP. -/
theorem recvComps_eq_zero {replies : List RdowsMessage} (none : ∀ m ∈ replies, notRecvComp m) :
    recvComps replies = 0 :=
  List.countP_eq_zero.mpr fun m sent => by simp [none m sent]

/-- A SEND displaces a SEND that waits, whether or not it is accepted: what is held goes down by the
receive of the displaced one, and by nothing else. -/
theorem held_planSend (s : Session) (header : RdowsHeader) :
    held (s.planSend header).final + waiting s = held s := by
  unfold Session.planSend
  split
  · rename_i empty
    simp [Script.final, held, waiting, empty, PendingOp.awaitsSendData]
  · rename_i posted
    have positive : s.recvQueueDepth.toNat ≠ 0 := fun h => posted (UInt32.toNat_inj.mp h)
    have depth : (s.recvQueueDepth - 1).toNat = s.recvQueueDepth.toNat - 1 :=
      toNat_sub32 (Nat.one_le_iff_ne_zero.mpr positive)
    have taken : waiting (Script.final (.done { s with
        recvQueueDepth := s.recvQueueDepth - 1
        pendingOp := .awaitingSendData header.wrid } : Plan)) = 1 := rfl
    rw [held, taken, held, Script.final]
    dsimp only
    omega

/-- The data of a SEND turns the receive of a waiting SEND into a RECV_COMP. -/
theorem held_planSendData (s : Session) (n : UInt32) :
    held s.planSendData.final + recvComps (s.planSendData.emits numbering n) = held s := by
  -- returning credits neither posts nor takes a receive
  have credits (t : Session) (n : UInt32) :
      held t.planCredits.final + recvComps (t.planCredits.emits numbering n) = held t := by
    unfold Session.planCredits
    split
    · rfl
    · split <;> rfl
  have released : held { s with pendingOp := .none } + waiting s = held s := rfl
  unfold Session.planSendData
  dsimp only
  split <;> rename_i pending
  · have one : waiting s = 1 := by
      rw [waiting, pending]
      rfl
    have account := credits { s with pendingOp := .none } (n + 1)
    rw [Script.final, Script.emits, recvComps, List.countP_cons_of_pos rfl]
    rw [recvComps] at account
    omega
  all_goals
    have zero : waiting s = 0 := by
      rw [waiting, pending]
      rfl
    rw [zero] at released
    exact released

/-- **One dispatched message** keeps the account, or it displaces a waiting SEND and loses
exactly its receive. -/
theorem held_planDispatch (s : Session) (now : ℕ) (draws : ℕ → UInt32) (msg : RdowsMessage)
    (n : UInt32) :
    held (s.planDispatch now draws msg).final +
        recvComps ((s.planDispatch now draws msg).emits numbering n) +
        (if displacesSend s msg then waiting s else 0)
      = held s := by
  by_cases data : ∃ header payload, msg = .sendData header payload
  · obtain ⟨header, payload, rfl⟩ := data
    exact held_planSendData s n
  -- no other message is answered with a RECV_COMP
  have none : recvComps ((s.planDispatch now draws msg).emits numbering n) = 0 := by
    refine recvComps_eq_zero fun m sent => ?_
    obtain ⟨t, k, r, mayReply, rfl⟩ := (s.mayReply_planDispatch now draws msg).emits n m sent
    exact mayReply.notRecvComp (fun header payload same => data ⟨header, payload, same⟩) _ _
  rw [none, Nat.add_zero]
  have leaves : s.Leaves now draws msg (s.planDispatch now draws msg).final :=
    (s.leaves_planDispatch now draws msg n).final
  cases msg with
  | send header payload => exact held_planSend s header
  | sendData header payload => exact absurd ⟨header, payload, rfl⟩ data
  | write header payload =>
      generalize (s.planDispatch now draws (.write header payload)).final = t at leaves
      cases leaves with
      | declines _ _ invalid =>
          have keeps : displacesSend s (.write header payload) = false := by
            rcases valid : s.memoryStore.validateRkey payload.rkey .remoteWrite with e | code | p
            · exact absurd valid (invalid e)
            all_goals rw [displacesSend, valid]; rfl
          rw [keeps]
          rfl
      | announces _ _ valid =>
          have displaces : displacesSend s (.write header payload) = true := by
            rw [displacesSend, valid]
            rfl
          rw [if_pos displaces]
          rfl
      | stays _ whole => cases whole
  | writeData header payload =>
      generalize (s.planDispatch now draws (.writeData header payload)).final = t at leaves
      cases leaves with
      | writes | ignores => rfl
      | stays _ whole => cases whole
  | _ => exact held_of_slot (leaves.slot_eq rfl)

/-- The frame makes the session lose a posted receive: it is dispatched while a SEND waits, and
displaces it. -/
def LosesReceive (r : ServerRun) (input : Env × WsMessage) : Prop :=
  ∃ m, (r.step input).1.dispatched = some m ∧ displacesSend r.session m = true ∧
    r.session.pendingOp.awaitsSendData = true

/-- **One turn of the loop** keeps the account exactly if it loses no receive.  The turn must not
end the session: a send that fails cuts the account short. -/
theorem held_step (input : Env × WsMessage) (goesOn : (r.step input).2.running = true) :
    held (r.step input).2.session + recvComps (r.step input).1.replies = held r.session ↔
      ¬ LosesReceive r input := by
  obtain ⟨_, -, turn⟩ | ⟨msg, -, -, turn⟩ := step_cases r input
  · rw [turn]
    exact iff_of_true rfl (by simp [LosesReceive, turn])
  by_cases reaches : r.session.ReachesDispatch msg
  · have loses : LosesReceive r input ↔
        displacesSend r.session msg = true ∧ r.session.pendingOp.awaitsSendData = true := by
      simp [LosesReceive, turn, handle_dispatched_of_reaches reaches]
    have same : displacesSend (r.session.accepting msg) msg = displacesSend r.session msg := by
      cases msg <;> rfl
    -- a session that goes on has played the whole plan, so the account of the plan is that of the
    -- turn
    have account := held_planDispatch (r.session.accepting msg) input.1.now input.1.draws msg
      r.session.nextSeq
    rw [turn] at goesOn
    obtain ⟨-, replies, session⟩ := handle_of_running goesOn
    rw [Session.plan_of_reaches reaches] at replies session
    rw [same, ← replies] at account
    have left : held (r.handle input.1 msg).2.session
        = held ((r.session.accepting msg).planDispatch input.1.now input.1.draws msg).final := by
      rw [session]
      rfl
    have before : held (r.session.accepting msg) = held r.session := rfl
    have wait : waiting (r.session.accepting msg)
        = if r.session.pendingOp.awaitsSendData then 1 else 0 := rfl
    rw [wait, before] at account
    rw [loses, turn, left, ← account]
    by_cases displaces : displacesSend r.session msg = true <;>
      by_cases awaits : r.session.pendingOp.awaitsSendData = true <;> simp [displaces, awaits]
  · rw [turn]
    refine iff_of_true ?_ (by simp [LosesReceive, turn, handle_dispatched_of_not reaches])
    have none : recvComps (r.handle input.1 msg).1.replies = 0 := by
      refine recvComps_eq_zero fun m sent => ?_
      obtain ⟨t, k, reply, ⟨ack, -, rfl⟩ | ⟨payload, rfl, -⟩, rfl⟩ := handle_each
        (Session.undispatched_plan reaches input.1.now input.1.draws).mayReply sent <;> rfl
    rw [none, Nat.add_zero]
    exact held_of_slot (handle_sameWork reaches).slot_eq

/-- All replies of a run. -/
def allReplies (seen : Seen) : List RdowsMessage := seen.flatMap fun entry => entry.2.replies

/-- The account of posted receives is balanced after a run: what is posted, what was
completed and what a SEND still waits for add up to the configured depth. -/
def Balanced (config : ServerConfig) (now : ℕ) (inputs : List (Env × WsMessage)) : Prop :=
  ((new config now).after inputs).session.recvQueueDepth.toNat +
      recvComps (allReplies ((new config now).seen inputs)) +
      (if ((new config now).after inputs).session.pendingOp.awaitsSendData then 1 else 0)
    = config.recvQueueDepth.toNat

/-- The account in terms of what is held. -/
theorem balanced_iff_held (config : ServerConfig) (now : ℕ) (inputs : List (Env × WsMessage)) :
    Balanced config now inputs ↔
      held ((new config now).after inputs).session +
        recvComps (allReplies ((new config now).seen inputs)) = config.recvQueueDepth.toNat := by
  rw [Balanced, held, waiting]
  omega

/-- The loop does not start again once it has ended. -/
theorem running_of_step (input : Env × WsMessage) (goesOn : (r.step input).2.running = true) :
    r.running = true := by
  obtain ⟨_, keeps, turn⟩ | ⟨msg, running, -, -⟩ := step_cases r input
  · rw [turn] at goesOn
    exact keeps goesOn
  · exact running

/-- One more frame of a balanced run. -/
theorem balanced_concat_iff {config : ServerConfig} {now : ℕ} {inputs : List (Env × WsMessage)}
    {input : Env × WsMessage}
    (balanced : ((new config now).after inputs).running = true → Balanced config now inputs)
    (goesOn : ((new config now).after (inputs ++ [input])).running = true) :
    Balanced config now (inputs ++ [input]) ↔
      ¬ LosesReceive ((new config now).after inputs) input := by
  rw [after_concat] at goesOn
  have before := (balanced_iff_held config now inputs).mp
    (balanced (running_of_step input goesOn))
  rw [← held_step input goesOn, balanced_iff_held, after_concat, seen_concat, allReplies,
    List.flatMap_cons, recvComps_append]
  rw [allReplies] at before
  dsimp only
  omega

/-- **No posted receive is lost, exactly in the runs without a displaced SEND.** The account is
balanced at every message boundary of a running session if and only if no frame, while a SEND waits
for its data, is a SEND, a WRITE_DATA or an accepted WRITE.

Only boundaries at which the session goes on are looked at: a send that fails ends it in the middle
of a handler, where a receive may be taken and not yet completed. -/
theorem receives_balanced_iff (config : ServerConfig) (now : ℕ)
    (inputs : List (Env × WsMessage)) :
    (∀ front, front <+: inputs → ((new config now).after front).running = true →
      Balanced config now front) ↔
    Machine.Always step
      (fun r input => (r.step input).2.running = true → ¬ LosesReceive r input)
      (new config now) inputs := by
  -- over the run by its last frame: every proper part of it is a part of the run before
  induction inputs using List.reverseRecOn with
  | nil =>
      refine iff_of_true ?_ trivial
      intro front hfront _
      rw [List.prefix_nil.mp hfront, balanced_iff_held]
      rfl
  | append_singleton inputs input ih =>
      rw [Machine.always_concat, ← ih]
      constructor
      · intro all
        have earlier : ∀ front, front <+: inputs →
            ((new config now).after front).running = true → Balanced config now front :=
          fun front h => all front (h.trans (List.prefix_append _ _))
        refine ⟨earlier, fun goesOn => ?_⟩
        have goesOn' : ((new config now).after (inputs ++ [input])).running = true := by
          rw [after_concat]
          exact goesOn
        exact (balanced_concat_iff (earlier inputs (List.prefix_refl _)) goesOn').mp
          (all _ (List.prefix_refl _) goesOn')
      · rintro ⟨earlier, last⟩ front hfront running
        rcases List.prefix_concat_iff.mp hfront with rfl | shorter
        · refine (balanced_concat_iff (earlier inputs (List.prefix_refl _)) running).mpr ?_
          rw [after_concat] at running
          exact last running
        · exact earlier front shorter running

/-- **A second SEND loses the receive of the first.** With two posted receives, two SENDs in a row
leave none posted, none completed and one waited for. -/
theorem second_send_loses_receive :
    ((new { recvQueueDepth := 2 } 0).after (binaries [delivered (sampleConnect 1024),
      delivered (.send (.new .send 7 1 0) ⟨[]⟩),
      delivered (.send (.new .send 7 2 0) ⟨[]⟩)])).running = true ∧
    ¬ Balanced { recvQueueDepth := 2 } 0 (binaries [delivered (sampleConnect 1024),
      delivered (.send (.new .send 7 1 0) ⟨[]⟩), delivered (.send (.new .send 7 2 0) ⟨[]⟩)]) := by
  unfold Balanced
  decide

end ServerRun

end Rdows
