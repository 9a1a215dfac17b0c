import Rdows.Client.Completions
import Rdows.Lib.Program
import Rdows.Network.Agreement
import Rdows.Network.Progress
import Rdows.Server.Frames

/-!
# One call at a time

The client and the server as a sequential machine: a call sends its frames, each of which the server
handles at once, and then reads what there is to read.  The state between two calls is a
`Standstill`; the frames in it carry no numbers of calls, and there is nothing in it but what the
two parties and the two channels hold.

## What is left out

`Standstill.call` leaves out nothing but the order in which the parties move.

* A frame may be refused, or not be delivered at all for its length.
* The server may end the session in the middle of a request.
* Messages that no call has read stay in the channel for the next one, and so does a frame that
  cannot be read.
* What the server reads from its clock and draws at random is given by the `Readings`, one for each
  frame it handles.  What the client's stream yields to a call when the server is gone is given by
  the transport.

`Sound.sends` says that a call never waits for a message that will not come: behind the frames of a
request there is a message to end it, or the server is gone.

## What it is for

The network has many schedules, and a program could in principle get other results in each of them.
`Network.Schedules` shows that it does not: all of them give what this machine gives.  So what is to
be shown of programs is shown here, by following one call after the other, and
`Network.Transparency` starts from this machine and not from the network.
-/

namespace Rdows

open Rust

/-- The clock and the random draws that the server reads while it handles its `i`-th frame.  They
come from outside, and are the same for every schedule. -/
abbrev Readings := ℕ → ℕ × (ℕ → UInt32)

/-- Both parties while no call is under way and the server has nothing to do.  What is left unread
stays here, as frames. -/
structure Standstill where
  transport : Transport
  conn : RdowsConnection
  /-- What was sent after the server had gone. -/
  unhandled : List Bytes
  unread : List Bytes
  server : ServerRun
  /-- The number of frames handled so far. -/
  handled : ℕ
  /-- The number of calls made so far. -/
  calls : ℕ

/-- A program that makes calls on a connection. -/
abbrev App (α : Type) := Program Verb RdowsError VerbValue α

/-- A server that is there after a frame was delivered the frame. -/
theorem Transport.deliver_of_goesOn {t : Transport} {r : ServerRun} {env : Env} {frame : Bytes}
    (goesOn : (r.step (env, t.deliver frame)).2.running = true) :
    t.deliver frame = .binary frame := by
  rcases within : t.fits frame with _ | _
  · rw [deliver_of_not_fits within, ServerRun.step] at goesOn
    split at goesOn
    · cases goesOn
    · exact absurd goesOn ‹_›
  · exact deliver_of_fits within

namespace Standstill

open RdowsConnection

variable (readings : Readings)

/-- Send a frame and let the server handle it.  If the server is gone, the frame stays unhandled. -/
def send (s : Standstill) (frame : Bytes) : Standstill :=
  if s.server.running then
    let now := readings s.handled
    let out := s.server.step (.reliable now.1 now.2, s.transport.deliver frame)
    { s with
      unread := s.unread ++ out.1.replies.map RdowsMessage.encode
      server := out.2
      handled := s.handled + 1 }
  else { s with unhandled := s.unhandled ++ [frame] }

/-- The loop of `recv_app_message` over the frames in the channel, with those it leaves there.  It
fails where there is no frame, and at a frame that cannot be read. -/
def hear (t : Transport) (call : ℕ) : List Bytes → RdowsConnection →
    Outcome RdowsError RdowsMessage × RdowsConnection × List Bytes
  | [], c => (.err (t.lost call), c, [])
  | data :: rest, c =>
      if t.fits data then
        match (recvTurn (some (.ok data))).run c with
        | (.ok (some m), d) => (.ok m, d, rest)
        | (.ok none, d) => hear t call rest d
        | (.err e, d) => (.err e, d, rest)
        | (.panic p, d) => (.panic p, d, rest)
      else (.err (t.lost call), c, data :: rest)

/-- Play a call to its end: frames are sent as they come, and a wait reads what there is. -/
def converse : Talk RdowsConnection RdowsError Bytes RdowsMessage VerbValue → Standstill →
    Outcome RdowsError VerbValue × Standstill
  | .done result conn, s => (result, { s with conn })
  | .send frame next, s => converse next (s.send readings frame)
  | .receive conn next, s =>
      match hear s.transport s.calls s.unread conn with
      | (.ok m, conn, unread) => converse (next m conn) { s with unread }
      | (.err e, conn, unread) => (.err e, { s with conn, unread })
      | (.panic p, conn, unread) => (.panic p, { s with conn, unread })

/-- Carry a call out. -/
def perform (s : Standstill) (verb : Verb) : Outcome RdowsError VerbValue × Standstill :=
  converse readings (verb.start.start s.conn) s

/-- Make a call. -/
def call (s : Standstill) (verb : Verb) : Outcome RdowsError VerbValue × Standstill :=
  perform readings { s with calls := s.calls + 1 } verb

/-- The state after `connect`. -/
def start (transport : Transport) (config : ServerConfig) (now : ℕ) (sessionId : UInt32)
    (cqCapacity : ℕ) : Standstill where
  transport
  conn := Network.readyConnection sessionId cqCapacity
  unhandled := []
  unread := []
  server := ⟨Network.readySession config now sessionId, true⟩
  handled := 0
  calls := 0

/-! ### Requests -/

variable {readings}

/-- A request sends all its frames before it reads. -/
theorem converse_request (frames : List Bytes) (conn : RdowsConnection)
    (finish : RdowsMessage → Local VerbValue) (s : Standstill) :
    converse readings (.request frames conn finish) s
      = converse readings (.request [] conn finish) (frames.foldl (send readings) s) := by
  induction frames generalizing s with
  | nil => rfl
  | cons frame frames ih => exact ih (s.send readings frame)

/-- The message makes a waiting call stop waiting, whatever its connection expects: it is an answer,
an error, or not decodable. -/
def Stops (frame : Bytes) : Prop :=
  ∀ c d, (recvTurn (some (.ok frame))).run c ≠ (.ok none, d)

/-- A reply that is not a CREDIT_UPDATE is not taken for one. -/
theorem stops_encode {m : RdowsMessage} (version : m.header.version = rdowsVersion)
    (opcode : m.header.opcode = m.variantOpcode) (answer : m.isCreditUpdate = false) :
    Stops m.encode := by
  intro c d run
  obtain ⟨m', decoded, run⟩ := Method.run_lift_bind_eq_ok.mp run
  have variant := RdowsMessage.variantOpcode_of_decode_encode version opcode decoded
  obtain ⟨_, t, -, run⟩ := Method.run_bind_eq_ok.mp run
  cases m' with
  | creditUpdate header payload =>
      cases m with
      | creditUpdate header payload => cases answer
      | _ => cases variant
  | _ => cases run

/-- There is a message to end a call among those that are unread. -/
def Answers (s : Standstill) : Prop := ∃ frame ∈ s.unread, Stops frame

/-- While the server is there, its session is Ready and no frame is left over.  Every call keeps
this. -/
structure Sound (s : Standstill) : Prop where
  ready : s.server.running = true → s.server.session.state = .ready
  handled : s.server.running = true → s.unhandled = []

theorem sound_start (transport : Transport) (config : ServerConfig) (now : ℕ) (sessionId : UInt32)
    (cqCapacity : ℕ) : (start transport config now sessionId cqCapacity).Sound :=
  ⟨fun _ => rfl, fun _ => rfl⟩

section Send

variable {s : Standstill} {frame : Bytes}

theorem running_of_send (goesOn : (s.send readings frame).server.running = true) :
    s.server.running = true := by
  by_contra stopped
  rw [send, if_neg stopped] at goesOn
  exact stopped goesOn

theorem Sound.send (sound : s.Sound) (frame : Bytes) : (s.send readings frame).Sound := by
  by_cases running : s.server.running = true
  · have same : s.send readings frame = _ := if_pos running
    rw [same]
    refine ⟨fun goesOn => ?_, fun _ => sound.handled running⟩
    have delivered := Transport.deliver_of_goesOn goesOn
    dsimp only at goesOn ⊢
    rw [delivered] at goesOn ⊢
    exact ServerRun.step_ready (sound.ready running) goesOn
  · have same : s.send readings frame = _ := if_neg running
    rw [same]
    exact ⟨fun goesOn => absurd goesOn running, fun goesOn => absurd goesOn running⟩

/-- What there is to read stays there. -/
theorem Answers.send (answers : s.Answers) (frame : Bytes) : (s.send readings frame).Answers := by
  obtain ⟨answer, mem, stops⟩ := answers
  unfold Standstill.send
  split
  · exact ⟨answer, List.mem_append_left _ mem, stops⟩
  · exact ⟨answer, mem, stops⟩

/-- **A frame of a request.**  Behind it there is an answer, or the server waits for the second
half, or it is gone. -/
theorem Sound.send_responds (sound : s.Sound) {m : RdowsMessage}
    (version : m.header.version = rdowsVersion) (opcode : m.header.opcode = m.variantOpcode)
    (asks : ∀ msg, msg.variantOpcode = m.variantOpcode → s.server.session.Asks msg)
    (goesOn : (s.send readings m.encode).server.running = true) :
    (s.send readings m.encode).Answers ∨
      (m.variantOpcode = .send ∧
        (s.send readings m.encode).server.session.pendingOp.awaitsSendData = true) ∨
      (m.variantOpcode = .write ∧
        (s.send readings m.encode).server.session.pendingOp.awaitsWriteData = true) := by
  have running := running_of_send goesOn
  have same : s.send readings m.encode = _ := if_pos running
  rw [same] at goesOn ⊢
  have delivered := Transport.deliver_of_goesOn goesOn
  dsimp only at goesOn ⊢
  rw [delivered] at goesOn ⊢
  obtain ⟨msg, decoded, responds⟩ := ServerRun.step_responds (sound.ready running)
    (fun msg decoded => asks msg
      (RdowsMessage.variantOpcode_of_decode_encode version opcode decoded)) goesOn
  have variant := RdowsMessage.variantOpcode_of_decode_encode version opcode decoded
  cases responds with
  | answered reply mem answer =>
      refine .inl ⟨reply.encode, List.mem_append_right _ (List.mem_map_of_mem mem), ?_⟩
      -- What a server sends carries the opcode of its variant.
      obtain ⟨msg, -, handles, -⟩ := ServerRun.step_goesOn goesOn
      rw [handles] at mem
      obtain ⟨t, k, r, -, rfl⟩ := ServerRun.handle_reply mem
      refine stops_encode ?_ ?_ answer
      · rw [Reply.header_under]
        rfl
      · rw [Reply.header_under]
        cases r <;> rfl
  | sending first awaits => exact .inr (.inl ⟨variant.symm.trans first, awaits⟩)
  | writing first awaits => exact .inr (.inr ⟨variant.symm.trans first, awaits⟩)

end Send

end Standstill

namespace Verb.Requests

open Standstill

variable {readings : Readings} {v : Verb} {c : RdowsConnection} {messages : List RdowsMessage}
  {finish : RdowsMessage → RdowsConnection.Local VerbValue} {s : Standstill}

/-- A request of one frame, or the second half of one. -/
theorem answers_last {m : RdowsMessage} (opcode : Opcode) (sound : s.Sound)
    (version : m.header.version = rdowsVersion) (header : m.header.opcode = m.variantOpcode)
    (variant : m.variantOpcode = opcode) (last : opcode ≠ .send ∧ opcode ≠ .write)
    (asks : ∀ msg, msg.variantOpcode = opcode → s.server.session.Asks msg)
    (goesOn : (s.send readings m.encode).server.running = true) :
    (s.send readings m.encode).Answers := by
  subst variant
  rcases sound.send_responds version header asks goesOn with answers | ⟨first, -⟩ | ⟨first, -⟩
  · exact answers
  · exact absurd first last.1
  · exact absurd first last.2

/-- The opcodes of requests that a session attends to in every state. -/
theorem asks_of_variant {t : Session} {msg : RdowsMessage} {opcode : Opcode}
    (kind : opcode ∈ [.mrReg, .mrDereg, .send, .write, .writeData, .readReq, .atomicReq])
    (variant : msg.variantOpcode = opcode) : t.Asks msg := by
  subst variant
  cases msg with
  | disconnect header => exact absurd kind (by simp [RdowsMessage.variantOpcode])
  | creditUpdate header payload => exact absurd kind (by simp [RdowsMessage.variantOpcode])
  | ack header => exact absurd kind (by simp [RdowsMessage.variantOpcode])
  | sendData header payload => exact absurd kind (by simp [RdowsMessage.variantOpcode])
  | _ => trivial

/-- **No request is left without an answer.**  Behind the frames of a request there is a message to
end the call, or the server is gone. -/
theorem responded (requests : v.Requests c messages finish) (sound : s.Sound)
    (goesOn : ((messages.map RdowsMessage.encode).foldl (send readings) s).server.running = true) :
    ((messages.map RdowsMessage.encode).foldl (send readings) s).Answers := by
  cases requests with
  | regMr accessFlags regionLen =>
      exact answers_last .mrReg sound rfl rfl rfl (by decide) (fun _ => asks_of_variant (by decide))
        goesOn
  | deregMr lkey =>
      exact answers_last .mrDereg sound rfl rfl rfl (by decide)
        (fun _ => asks_of_variant (by decide)) goesOn
  | postSend wrid sgList data gathered =>
      have first := sound.send_responds rfl rfl
        (fun _ => asks_of_variant (show Opcode.send ∈ _ by decide)) (running_of_send goesOn)
      rcases first with answers | ⟨-, awaits⟩ | ⟨first, -⟩
      · exact answers.send _
      -- The SEND was accepted, so its data is not discarded.
      · refine answers_last .sendData (sound.send _) rfl rfl rfl (by decide) ?_ goesOn
        intro msg variant
        cases msg with
        | sendData header payload =>
            intro discarding
            rw [discarding] at awaits
            cases awaits
        | _ => cases variant
      · cases first
  | rdmaWrite wrid rkey remoteVa sgList data gathered =>
      -- The data of a WRITE is answered in any case, also if the WRITE was refused.
      exact answers_last .writeData (sound.send _) rfl rfl rfl (by decide)
        (fun _ => asks_of_variant (by decide)) goesOn
  | rdmaRead wrid rkey remoteVa readLen localLkey localVa =>
      exact answers_last .readReq sound rfl rfl rfl (by decide)
        (fun _ => asks_of_variant (by decide)) goesOn
  | atomicCas wrid rkey remoteVa compare swap =>
      exact answers_last .atomicReq sound rfl rfl rfl (by decide)
        (fun _ => asks_of_variant (by decide)) goesOn
  | atomicFaa wrid rkey remoteVa addend =>
      exact answers_last .atomicReq sound rfl rfl rfl (by decide)
        (fun _ => asks_of_variant (by decide)) goesOn

end Verb.Requests

end Rdows
