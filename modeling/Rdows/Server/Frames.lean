import Rdows.Server.Bookkeeping

/-!
# The frames a session emits

What can be said of the outgoing side of a session, whatever comes in and over every transport.

* **Numbers.** The replies of a run are numbered consecutively from 0 on
  (`ServerRun.numbered_emitted`).  A number is lost only with a send that fails, and that ends the
  session.
* **Session.** After CONNECT_ACK every reply carries the session of the CONNECT
  (`ServerRun.sessionId_emitted`).
* **Sizes.** A reply has a small payload, unless it returns the data of a READ_REQ
  (`ServerRun.size_reply`); the size that was negotiated does not come into it.

The last two are read off the plans in one pass (`Session.emits_plan`).

## Sizes and the form of the wire

Every payload has a fixed size, but for two.  An ERROR has its text; the texts of the server are
literals and the report of a gap, none of them longer than 47 bytes.  A READ_RESP has the data that
was asked for, which the server neither splits nor compares with the negotiated size: a peer that
asks for more than it can take gets it.  Small replies therefore always decode to what was encoded;
for a READ_RESP the payload length of the header can overflow its 32 bits, and what remains to be
said is that the frame does not decode to an error (`RdowsMessage.Readable`).

## Before CONNECT

A session that waits for CONNECT has the identifier 0, and can send nothing but a CONNECT_ACK, under
the identifier it has just taken over, or an ERROR to a CONNECT of another version.
-/

namespace Rdows

open Rust

/-! ### What a plan sends -/

/-- Every reply but a READ_RESP has a payload of at most so many bytes: it is the ERROR with the
longest text. -/
def smallPayload : ℕ := 57

/-- The reply returns no data, and its payload is small under every header. -/
structure Reply.Small (r : Reply) : Prop where
  noData : ∀ wrid payload, r ≠ .readResp wrid payload
  length : ∀ header, (r.message header).encodePayload.length ≤ smallPayload

/-- An ERROR with a text of at most 47 bytes. -/
theorem Reply.small_error {code : ErrorCode} {failingSeq : UInt32} {description : String}
    (text : (utf8Bytes description).length ≤ 47) :
    (Reply.error ⟨code, failingSeq, description⟩).Small := by
  refine ⟨nofun, fun header => ?_⟩
  show (ErrorPayload.encode _).length ≤ 57
  rw [ErrorPayload.length_encode]
  exact Nat.add_le_add_left text 10

/-- A small reply can be encoded and decoded. -/
theorem Reply.withinFormat_under {r : Reply} (small : r.Small) (sessionId seq : UInt32) :
    (r.under sessionId seq).WithinFormat where
  version := by rw [header_under]; rfl
  opcode := by
    rw [header_under]
    cases r <;> rfl
  sgCount h p same := by cases r <;> cases same
  description h p same := by
    have short := small.length (.new r.opcode sessionId seq r.wrid)
    rw [show r.message _ = .error h p from same] at short
    have short : p.encode.length ≤ 57 := short
    rw [ErrorPayload.length_encode] at short
    omega
  payload := Nat.lt_of_le_of_lt (small.length _) (by decide)

/-- Decoding the frame of the message gives a message with the same header, or panics; it reports
no error. -/
def RdowsMessage.Readable (m : RdowsMessage) : Prop :=
  (∃ m', decode m.encode = .ok m' ∧ m'.header = m.wireHeader) ∨ ∃ p, decode m.encode = .panic p

namespace Session

variable {s : Session} {now : ℕ} {draws : ℕ → UInt32} {msg : RdowsMessage}

/-- What goes out as a reply to `msg`, in the state `t` of the handler: under which session it is
sent, and how large it can be. -/
structure Emits (s : Session) (msg : RdowsMessage) (t : Session) (r : Reply) : Prop where
  /-- A session that is connected replies under what CONNECT agreed on. -/
  agreed : s.state ≠ .awaitingConnect → t.agreed = s.agreed
  /-- Only the data of a READ_REQ can be large. -/
  size : r.Small ∨ ∃ header payload data, msg = .readReq header payload ∧
    r = .readResp header.wrid ⟨0, data⟩ ∧ data.length = payload.readLen.toNat

/-- A dispatched message does not change what CONNECT agreed on. -/
theorem Leaves.agreed_eq {t : Session} (leaves : s.Leaves now draws msg t) :
    t.agreed = s.agreed := by
  have refreshed : (s.refreshed now).agreed = s.agreed := by
    unfold Session.refreshed
    split <;> rfl
  cases leaves with
  | refuses | registers => exact refreshed
  | _ => rfl

/-- A reply to a dispatched message is small, or it returns what a READ_REQ asks for. -/
theorem MayReply.size {r : Reply} (mayReply : s.MayReply msg r) :
    r.Small ∨ ∃ header payload data, msg = .readReq header payload ∧
      r = .readResp header.wrid ⟨0, data⟩ ∧ data.length = payload.readLen.toNat := by
  cases mayReply with
  | complains _ payload _ text => exact .inl (Reply.small_error text)
  | mrRegAck _ _ ack => exact .inl ⟨nofun, fun _ => show ack.encode.length ≤ 57 by simp⟩
  | mrDeregAck _ _ ack => exact .inl ⟨nofun, fun _ => show ack.encode.length ≤ 57 by simp⟩
  | recvComp | writeComp => exact .inl ⟨nofun, fun _ => Nat.zero_le _⟩
  | creditUpdate _ _ update => exact .inl ⟨nofun, fun _ => show update.encode.length ≤ 57 by simp⟩
  | readResp header payload read =>
      exact .inr ⟨header, payload, _, rfl, rfl, MemoryStore.length_of_readRegion read⟩
  | atomicResp _ _ resp => exact .inl ⟨nofun, fun _ => show resp.encode.length ≤ 57 by simp⟩

/-- What goes out in reply to a dispatched message. -/
theorem emits_planDispatch : (s.planDispatch now draws msg).Each (s.Emits msg) :=
  ((s.leaves_planDispatch now draws msg 0).each.and (s.mayReply_planDispatch now draws msg)).mono
    fun _ _ both => ⟨fun _ => both.1.agreed_eq, both.2.size⟩

/-- A message that is not dispatched: only the answer to a CONNECT changes what is agreed on. -/
theorem Undispatched.emits {plan : Plan} (h : s.Undispatched msg plan) :
    plan.Each (s.Emits msg) := by
  have mayReply := h.mayReply
  have agreed : plan.Each fun t _ => s.state ≠ .awaitingConnect → t.agreed = s.agreed := by
    cases h with
    | connects _ awaiting => exact mayReply.mono fun _ _ _ connected => absurd awaiting connected
    | oversize | gap => exact ⟨fun _ => rfl, trivial⟩
    | _ => trivial
  refine (agreed.and mayReply).mono fun t r both => ⟨both.1, .inl ?_⟩
  rcases both.2 with ⟨ack, -, rfl⟩ | ⟨payload, rfl, text⟩
  · exact ⟨nofun, fun _ => show ack.encode.length ≤ 57 by simp⟩
  · exact Reply.small_error text

/-- **What a session sends in reply to a message**: every reply is under the session of the moment,
and small unless it returns what a READ_REQ asked for. -/
theorem emits_plan : (s.plan now draws msg).Each (s.Emits msg) := by
  by_cases reaches : s.ReachesDispatch msg
  · rw [plan_of_reaches reaches]
    exact (emits_planDispatch (s := s.accepting msg)).mono fun t r emits =>
      ⟨emits.agreed, emits.size⟩
  · exact (undispatched_plan reaches now draws).emits

end Session

/-! ### What a run sends -/

namespace ServerRun

variable {r : ServerRun} {env : Env} {msg m : RdowsMessage}

/-- What is known of a reply to a message: it was a reply of the plan, under the number and the
session of the moment. -/
theorem handle_reply (sent : m ∈ (r.handle env msg).1.replies) :
    ∃ t k reply, r.session.Emits msg t reply ∧ m = reply.under t.sessionId k :=
  handle_each Session.emits_plan sent

/-! #### Numbers -/

/-- **One turn of the loop takes the next numbers**, and leaves none out if the session goes
on. -/
theorem numbered_replies (r : ServerRun) (input : Env × WsMessage) :
    ∃ next, Numbered r.session.nextSeq (r.step input).1.replies next ∧
      ((r.step input).2.running = true → (r.step input).2.session.nextSeq = next) := by
  rcases r.step_cases input with ⟨goesOn, -, stays⟩ | ⟨msg, -, -, handles⟩
  · rw [stays]
    exact ⟨r.session.nextSeq, rfl, fun _ => rfl⟩
  · rw [handles]
    have numbered := numbered_emits (r.session.plan input.1.now input.1.draws msg)
      r.session.nextSeq
    by_cases running : (r.handle input.1 msg).2.running = true
    · obtain ⟨-, replies, left⟩ := handle_of_running running
      rw [replies, left]
      exact ⟨_, numbered, fun _ => rfl⟩
    · obtain ⟨rest, split⟩ := handle_emits r input.1 msg
      rw [← split] at numbered
      obtain ⟨next, front, -⟩ := numbered.split
      exact ⟨next, front, fun goesOn => absurd goesOn running⟩

/-- A session that has ended sends nothing. -/
theorem emitted_of_stopped (stopped : r.running = false) (inputs : List (Env × WsMessage)) :
    r.emitted inputs = [] := by
  induction inputs with
  | nil => rfl
  | cons input rest ih =>
      rw [emitted, step_stopped stopped]
      exact ih

/-- **The replies of a run are numbered consecutively**, from the next number of the session on. -/
theorem numbered_emitted (r : ServerRun) (inputs : List (Env × WsMessage)) :
    ∃ next, Numbered r.session.nextSeq (r.emitted inputs) next := by
  induction inputs generalizing r with
  | nil => exact ⟨_, rfl⟩
  | cons input rest ih =>
      obtain ⟨next, numbered, goesOn⟩ := numbered_replies r input
      by_cases running : (r.step input).2.running = true
      · obtain ⟨last, later⟩ := ih (r.step input).2
        rw [goesOn running] at later
        exact ⟨last, numbered.append later⟩
      · rw [emitted, emitted_of_stopped (Bool.eq_false_iff.mpr running), List.append_nil]
        exact ⟨next, numbered⟩

/-! #### The session of a reply -/

/-- A reply of a run was sent in one of its turns. -/
theorem exists_of_mem_emitted {inputs : List (Env × WsMessage)} (sent : m ∈ r.emitted inputs) :
    ∃ earlier input later, inputs = earlier ++ input :: later ∧
      m ∈ ((r.after earlier).step input).1.replies := by
  induction inputs generalizing r with
  | nil => cases sent
  | cons input rest ih =>
      rcases List.mem_append.mp sent with now | later
      · exact ⟨[], input, rest, rfl, now⟩
      · obtain ⟨earlier, turn, behind, split, sent⟩ := ih later
        refine ⟨input :: earlier, turn, behind, by rw [split, List.cons_append], ?_⟩
        exact sent

/-- A session that is connected replies under its own session id. -/
theorem sessionId_reply {input : Env × WsMessage} (sent : m ∈ (r.step input).1.replies)
    (connected : r.session.state ≠ .awaitingConnect) :
    m.header.sessionId = r.session.sessionId := by
  rcases r.step_cases input with ⟨goesOn, -, stays⟩ | ⟨msg, -, -, handles⟩
  · rw [stays] at sent
    cases sent
  · rw [handles] at sent
    obtain ⟨t, k, reply, emits, rfl⟩ := handle_reply sent
    rw [Reply.header_under]
    exact congrArg Prod.fst (emits.agreed connected)

/-- The turn in which a CONNECT is accepted: the session takes over its terms, and the CONNECT_ACK
carries its session id. -/
theorem agreed_of_accepted {header : RdowsHeader} {payload : ConnectPayload}
    (awaiting : r.session.state = .awaitingConnect) :
    connectAcks (r.handle env (.connect header payload)).1.replies ≠ 0 →
      (r.handle env (.connect header payload)).2.session.agreed
          = (header.sessionId, payload.pd, min payload.maxMsgSize defaultMaxMsgSize) ∧
        ∀ m ∈ (r.handle env (.connect header payload)).1.replies,
          m.header.sessionId = header.sessionId := by
  refine handle_throughout (P := fun sent t => connectAcks sent ≠ 0 →
    t.agreed = (header.sessionId, payload.pd, min payload.maxMsgSize defaultMaxMsgSize) ∧
      ∀ m ∈ sent, m.header.sessionId = header.sessionId) (fun _ _ _ h => h) ?_
  unfold Session.plan Session.planConnect
  rw [awaiting, if_neg (by simp)]
  dsimp only
  split
  · exact ⟨fun acked => absurd rfl acked, fun acked => absurd rfl acked⟩
  · refine ⟨fun acked => absurd rfl acked, fun _ => ⟨rfl, fun m sent => ?_⟩⟩
    rw [List.mem_singleton.mp sent]
    rfl

section Connected

variable (config : ServerConfig) (now : ℕ) {earlier : List (Env × WsMessage)}
  {input : Env × WsMessage} {header : RdowsHeader} {payload : ConnectPayload}
  (carried : input.2.carried = some (.connect header payload))
  (acked : connectAcks (((new config now).after earlier).step input).1.replies ≠ 0)
include carried acked

/-- A CONNECT is acknowledged only by a session that waits for it. -/
theorem accepted_step :
    (((new config now).after earlier).step input).2.session.agreed
        = (header.sessionId, payload.pd, min payload.maxMsgSize defaultMaxMsgSize) ∧
      ∀ m ∈ (((new config now).after earlier).step input).1.replies,
        m.header.sessionId = header.sessionId := by
  rcases ((new config now).after earlier).step_cases input with
    ⟨goesOn, -, stays⟩ | ⟨msg, running, carries, handles⟩
  · rw [stays] at acked
    exact absurd rfl acked
  · obtain rfl : RdowsMessage.connect header payload = msg :=
      Option.some.inj (carried.symm.trans carries)
    rw [handles] at acked ⊢
    by_cases awaiting : ((new config now).after earlier).session.state = .awaitingConnect
    · exact agreed_of_accepted awaiting acked
    · exact absurd ((bookkept_after config now earlier).books (storeInv_after config now earlier)
        running awaiting input.1 _).noAck acked

/-- **What CONNECT agreed on** is in force ever after: the session never waits for a CONNECT again,
and no message changes the terms. -/
theorem agreed_after (later : List (Env × WsMessage)) :
    ((new config now).after (earlier ++ [input] ++ later)).session.state ≠ .awaitingConnect ∧
      ((new config now).after (earlier ++ [input] ++ later)).session.agreed
        = (header.sessionId, payload.pd, min payload.maxMsgSize defaultMaxMsgSize) := by
  have ackSeen (rest : List (Env × WsMessage)) :
      connectAcks (allReplies ((new config now).seen (earlier ++ [input] ++ rest))) ≠ 0 := by
    rw [seen, Machine.history_append, Machine.history_concat, allReplies, List.flatMap_append,
      List.flatMap_cons, connectAcks_append, connectAcks_append]
    intro none
    exact acked (Nat.eq_zero_of_add_eq_zero_right (Nat.eq_zero_of_add_eq_zero_left none))
  refine ⟨(bookkept_after config now _).connected (ackSeen later), ?_⟩
  have acknowledged := ackSeen []
  rw [List.append_nil] at acknowledged
  rw [(monotone_after config now (earlier ++ [input]) later).2 acknowledged, after_concat]
  exact (accepted_step config now carried acked).1

/-- **After CONNECT_ACK every reply carries the session of the CONNECT**, the CONNECT_ACK itself
included, whatever frames come later. -/
theorem sessionId_emitted (later : List (Env × WsMessage)) :
    ∀ m ∈ ((new config now).after earlier).emitted (input :: later),
      m.header.sessionId = header.sessionId := by
  intro m sent
  rcases List.mem_append.mp sent with first | behind
  · exact (accepted_step config now carried acked).2 m first
  · obtain ⟨front, last, -, -, sent⟩ := exists_of_mem_emitted behind
    have reached : (((new config now).after earlier).step input).2.after front
        = (new config now).after (earlier ++ [input] ++ front) := by
      rw [after, after, after, Machine.exec_append, Machine.exec_concat]
    obtain ⟨connected, agreed⟩ := agreed_after config now carried acked front
    rw [reached] at sent
    rw [sessionId_reply sent connected]
    exact congrArg Prod.fst agreed

end Connected

/-! #### Sizes -/

/-- The size of the payload of a reply to a message.  The sizes are fixed but for two: an ERROR has
its text, and a READ_RESP the data that the READ_REQ asks for. -/
def replySize (asked : Option RdowsMessage) : RdowsMessage → ℕ
  | .connectAck .. | .mrRegAck .. | .atomicResp .. => 16
  | .mrDeregAck .. | .creditUpdate .. => 8
  | .error _ payload => 10 + (utf8Bytes payload.description).length
  | .readResp .. =>
      match asked with
      | some (.readReq _ payload) => 8 + payload.readLen.toNat
      | _ => 8
  -- RECV_COMP and WRITE_COMP are headers; the server sends nothing else.
  | _ => 0

/-- **The size of a reply** is that of the table.  It is small, unless the reply returns the data of
a READ_REQ. -/
theorem size_reply {input : Env × WsMessage} (sent : m ∈ (r.step input).1.replies) :
    m.encodePayload.length = replySize input.2.carried m ∧
      (m.encodePayload.length ≤ smallPayload ∨ ∃ header payload h data,
        input.2.carried = some (.readReq header payload) ∧ m = .readResp h ⟨0, data⟩ ∧
          data.length = payload.readLen.toNat) := by
  rcases r.step_cases input with ⟨goesOn, -, stays⟩ | ⟨msg, -, carried, handles⟩
  · rw [stays] at sent
    cases sent
  · rw [handles] at sent
    obtain ⟨t, k, reply, emits, rfl⟩ := handle_reply sent
    rcases emits.size with small | ⟨header, payload, data, rfl, rfl, length⟩
    · refine ⟨?_, .inl (small.length _)⟩
      cases reply with
      | readResp wrid payload => exact absurd rfl (small.noData wrid payload)
      | recvComp wrid => rfl
      | writeComp wrid => rfl
      | error payload => exact ErrorPayload.length_encode payload
      | _ => simp [Reply.under, Reply.message, RdowsMessage.encodePayload, replySize]
    · refine ⟨?_, .inr ⟨header, payload, _, data, carried, rfl, length⟩⟩
      rw [carried]
      exact (ReadRespPayload.length_encode _).trans (congrArg (8 + ·) length)

/-- A reply has the protocol's version. -/
theorem version_reply {input : Env × WsMessage} (sent : m ∈ (r.step input).1.replies) :
    m.header.version = rdowsVersion := by
  rcases r.step_cases input with ⟨goesOn, -, stays⟩ | ⟨msg, -, -, handles⟩
  · rw [stays] at sent
    cases sent
  · rw [handles] at sent
    obtain ⟨t, k, reply, -, rfl⟩ := handle_reply sent
    rw [Reply.header_under]
    rfl

/-- **Every reply can be read**: a peer that decodes its frame gets no error, and if it gets a
message, this has the header of the reply. -/
theorem readable_reply {input : Env × WsMessage} (sent : m ∈ (r.step input).1.replies) :
    m.Readable := by
  rcases r.step_cases input with ⟨goesOn, -, stays⟩ | ⟨msg, -, -, handles⟩
  · rw [stays] at sent
    cases sent
  · rw [handles] at sent
    obtain ⟨t, k, reply, emits, rfl⟩ := handle_reply sent
    rcases emits.size with small | ⟨header, payload, data, -, rfl, -⟩
    · refine .inl ⟨_, RdowsMessage.decode_encode_eq (reply.withinFormat_under small _ _), ?_⟩
      exact RdowsMessage.header_withHeader _ _
    · rcases RdowsMessage.decode_encode_readResp
        (h := .new .readResp t.sessionId k header.wrid) (p := ⟨0, data⟩) rfl rfl with
        ⟨q, decoded⟩ | panics
      · exact .inl ⟨_, decoded, rfl⟩
      · exact .inr panics

end ServerRun

end Rdows
