import Rdows.Client.LocalMemory
import Rdows.Lib.Run

/-!
# Completions

A connection by itself: it makes one call after the other, and what its stream yields while a call
waits is whatever it is, frames and errors in any order, and then its end.  `Exchange` records a
call: what it put on the wire, the message it took as its answer, its result, and the connection
before and after.

## One answer, one completion?

An application that posts work requests relies on one completion for each, which tells how the
request ended.  The code nearly does that.  `Exchange.completed_iff`: a work request that was
answered pushes exactly one completion, with its WRID, its opcode and a status that tells whether
the call succeeded; except if the data of a READ_RESP cannot be stored, or if an ERROR carries the
code of success.  These are the only exceptions (`Verb.Lands`), and both are in the hand of the peer
or of the application.

## How it is proved

* `Waits` and `Awaits` are what may change of a connection while a call waits: the numbers, and
  credits that are added.  The queue and the local regions are what they were when the call started.
* `Verb.pushes` are the calls of `push` that a verb makes once it has its answer; `answered` says
  that it does nothing else with the queue, and how it ends then.
* `Exchange.queue_of_silent`: a call that puts nothing on the wire pushes none.
* `completions_account`: over whole runs, what was polled and what is still queued are the
  completions of the calls that were answered, in their order.

There is room for every push, because a work request that finds the queue full is refused before it
sends anything (`room_of_passes`).
-/

namespace Rdows

open Rust

/-- A call and what came of it: an event of a run, with everything an observer of the connection
could see. -/
structure Exchange where
  verb : Verb
  before : RdowsConnection
  sent : List Bytes
  consumed : Option RdowsMessage
  result : Outcome RdowsError VerbValue
  after : RdowsConnection

namespace RdowsConnection

/-- The loop of `recv_app_message` over what the stream yields, with what it leaves in the stream.
It ends with the first message that is no CREDIT_UPDATE, or with an error. -/
def hear : List StreamItem → RdowsConnection → Outcome RdowsError RdowsMessage × RdowsConnection ×
    List StreamItem
  | [], c => (.err .sessionClosed, c, [])
  | item :: rest, c =>
      match (recvTurn (some item)).run c with
      | (.ok (some m), d) => (.ok m, d, rest)
      | (.ok none, d) => hear rest d
      | (.err e, d) => (.err e, d, rest)
      | (.panic p, d) => (.panic p, d, rest)

/-- Play a talk to its end against what the stream yields: the message it took as its answer, its
result and the connection it leaves. -/
def converse : Talk RdowsConnection RdowsError Bytes RdowsMessage VerbValue → List StreamItem →
    Option RdowsMessage × Outcome RdowsError VerbValue × RdowsConnection
  | .done result c, _ => (none, result, c)
  | .send _ next, incoming => converse next incoming
  | .receive c next, incoming =>
      match hear incoming c with
      | (.ok m, d, rest) => (some m, (converse (next m d) rest).2)
      | (.err e, d, _) => (none, .err e, d)
      | (.panic p, d, _) => (none, .panic p, d)

/-- Make a call while the stream yields the given items. -/
def exchange (c : RdowsConnection) (call : Verb × List StreamItem) : Exchange × RdowsConnection :=
  let talk := call.1.start.start c
  let out := converse talk call.2
  ({ verb := call.1, before := c, sent := talk.frames, consumed := out.1, result := out.2.1
     after := out.2.2 }, out.2.2)

theorem sent_exchange (c : RdowsConnection) (call : Verb × List StreamItem) :
    (c.exchange call).1.sent = (call.1.start.start c).frames := rfl

end RdowsConnection

namespace Verb

/-- The WRID and the opcode of a work request; registrations, polls and local accesses are none. -/
def work : Verb → Option (UInt64 × Opcode)
  | postSend wrid _ => some (wrid, .send)
  | rdmaWrite wrid .. => some (wrid, .write)
  | rdmaRead wrid .. => some (wrid, .readReq)
  | atomicCas wrid .. | atomicFaa wrid .. => some (wrid, .atomicReq)
  | regMr .. | deregMr .. | pollCq .. | writeLocalMr .. | readLocalMr .. => none

/-- The message is the regular response to the call, or an ERROR.  A server that keeps to the
protocol sends nothing else in answer. -/
def Responds : Verb → RdowsMessage → Prop
  | _, .error _ _ => True
  | postSend .., .recvComp _ => True
  | rdmaWrite .., .writeComp _ => True
  | rdmaRead .., .readResp _ _ => True
  | atomicCas .., .atomicResp _ _ => True
  | atomicFaa .., .atomicResp _ _ => True
  | _, _ => False

/-- What the call takes out of the completion queue, and the queue it leaves, if it puts nothing on
the wire. -/
def takes (q : CompletionQueue) : Verb → List CompletionQueueEntry × CompletionQueue
  | pollCq max => q.pollCq max
  | _ => ([], q)

/-- The entries that are taken out are at the front. -/
theorem takes_append (q : CompletionQueue) (verb : Verb) :
    (verb.takes q).1 ++ (verb.takes q).2.entries = q.entries := by
  cases verb with
  | pollCq max => exact List.take_append_drop (min max q.entries.length) q.entries
  | _ => rfl

theorem takes_of_other {verb : Verb} (other : ∀ max, verb ≠ pollCq max) (q : CompletionQueue) :
    verb.takes q = ([], q) := by
  cases verb with
  | pollCq max => exact absurd rfl (other max)
  | _ => rfl

theorem ne_pollCq_of_remote {verb : Verb} (remote : verb.isRemote = true) (max : ℕ) :
    verb ≠ pollCq max := by
  rintro rfl
  cases remote

/-- What the completion of a call depends on once it is answered: the data of a READ_RESP has room
in the local region of the call, at an address whose end is a 64-bit number, and an ERROR reports a
failure. -/
def Lands (c : RdowsConnection) : Verb → RdowsMessage → Prop
  | rdmaRead _ _ _ _ localLkey localVa, .readResp _ payload =>
      c.Stores localLkey localVa.toNat payload.data.length
  | _, .error _ err => err.errorCode ≠ .success
  | _, _ => True

end Verb

/-- **Exactly one completion** was pushed: it carries the WRID and the opcode, and its status is 0
if the call succeeded and another one if it failed. -/
def Exchange.Completed (x : Exchange) (wrid : UInt64) (opcode : Opcode) : Prop :=
  ∃ cqe : CompletionQueueEntry, x.after.cq.entries = x.before.cq.entries ++ [cqe] ∧
    cqe.wrid = wrid ∧ cqe.opcode = opcode ∧
    (cqe.status = 0 ↔ x.result.IsOk) ∧ (cqe.status ≠ 0 ↔ x.result.IsErr)

namespace Exchange

/-- The completions that a call polled. -/
def polled (x : Exchange) : List CompletionQueueEntry :=
  match x.verb, x.result with
  | .pollCq _, .ok (.completions entries) => entries
  | _, _ => []

/-- The work request that a call finished, and whether it succeeded.  A call without an answer
finished none. -/
def finished (x : Exchange) : List (UInt64 × Opcode × Bool) :=
  match x.verb.work, x.consumed with
  | some (wrid, opcode), some _ => [(wrid, opcode, decide x.result.IsOk)]
  | _, _ => []

/-- An answered work request got its response or an ERROR, and nothing keeps its completion back.
It is the condition under which completions can be counted on. -/
def Sound (x : Exchange) : Prop :=
  ∀ wrid opcode m, x.verb.work = some (wrid, opcode) → x.consumed = some m →
    x.verb.Responds m ∧ x.verb.Lands x.before m

/-- What an application reads off a completion. -/
def summary (cqe : CompletionQueueEntry) : UInt64 × Opcode × Bool :=
  (cqe.wrid, cqe.opcode, cqe.status = 0)

end Exchange

/-! ### Waiting -/

namespace RdowsConnection

/-- What changes while a call sends and waits: sequence numbers, and credits that are added.  A
credit that was there when the call started is still there. -/
structure Waits (c d : RdowsConnection) : Prop where
  cq : d.cq = c.cq
  localMrs : d.localMrs = c.localMrs
  credits : c.sendCredits ≠ 0 → d.sendCredits ≠ 0

namespace Waits

theorem refl (c : RdowsConnection) : c.Waits c := ⟨rfl, rfl, id⟩

theorem trans {a b c : RdowsConnection} (hab : a.Waits b) (hbc : b.Waits c) : a.Waits c :=
  ⟨hbc.cq.trans hab.cq, hbc.localMrs.trans hab.localMrs, fun some => hbc.credits (hab.credits some)⟩

end Waits

/-- The connection also stays in its session. -/
structure Awaits (c d : RdowsConnection) : Prop extends c.Waits d where
  sessionId : d.sessionId = c.sessionId

namespace Awaits

theorem refl (c : RdowsConnection) : c.Awaits c := ⟨.refl c, rfl⟩

theorem trans {a b c : RdowsConnection} (hab : a.Awaits b) (hbc : b.Awaits c) : a.Awaits c :=
  ⟨hab.toWaits.trans hbc.toWaits, hbc.sessionId.trans hab.sessionId⟩

/-- The sequence numbers and the credits do not matter. -/
theorem of_numbers (c : RdowsConnection) (nextSeq : UInt32) (expectedRemoteSeq : Option UInt32) :
    c.Awaits { c with nextSeq, expectedRemoteSeq } :=
  ⟨⟨rfl, rfl, id⟩, rfl⟩

end Awaits

/-- Credits that are added do not vanish. -/
theorem ne_zero_of_checkedAdd32 {a b c : UInt32} (sum : checkedAdd32 a b = some c) (some : a ≠ 0) :
    c ≠ 0 := by
  unfold checkedAdd32 at sum
  split_ifs at sum with fits
  cases sum
  intro zero
  have total := toNat_add32 fits
  rw [zero] at total
  exact some (UInt32.toNat.inj (Nat.eq_zero_of_add_eq_zero_right total.symm))

/-- One turn of `recv_app_message`, in whatever way it ends. -/
theorem awaits_recvTurn (item : Option StreamItem) : (recvTurn item).Keeps Awaits := by
  intro c
  rcases item with _ | reason | data
  · exact .refl c
  · exact .refl c
  rw [recvTurn]
  rcases RdowsMessage.decode data with m | e | p
  -- whatever the check of the number says, it changes only which number is expected
  · have counts : ∀ d, ((validateRemoteSeq m).run c).2 = d → c.Awaits d := by
      rintro d rfl
      rw [validateRemoteSeq, Method.run_bind_of_ok (Method.run_get _)]
      rcases c.expectedRemoteSeq with _ | expected
      · exact .of_numbers c _ _
      · dsimp only
        rw [Method.run_ite]
        split
        · exact .refl c
        · exact .of_numbers c _ _
    rw [Method.run_bind_of_ok (Method.run_lift _ _), Method.run_bind]
    rcases valid : (validateRemoteSeq m).run c with ⟨_ | e | p, d⟩
    · have before := counts d (congrArg Prod.snd valid)
      cases m with
      -- the one message that the loop consumes itself
      | creditUpdate header payload =>
          dsimp only
          rw [Method.run_bind_of_ok (Method.run_get _)]
          rcases added : checkedAdd32 d.sendCredits payload.creditIncrement with _ | credits
          · exact before
          · exact before.trans ⟨⟨rfl, rfl, ne_zero_of_checkedAdd32 added⟩, rfl⟩
      | _ => exact before
    · exact counts d (congrArg Prod.snd valid)
    · exact counts d (congrArg Prod.snd valid)
  · exact .refl c
  · exact .refl c

/-- The whole loop. -/
theorem awaits_hear (incoming : List StreamItem) (c : RdowsConnection) :
    c.Awaits (hear incoming c).2.1 := by
  induction incoming generalizing c with
  | nil => exact .refl c
  | cons data rest ih =>
      have turn := awaits_recvTurn (some data) c
      rw [hear]
      generalize (recvTurn (some data)).run c = out at turn ⊢
      obtain ⟨(_ | m) | e | p, d⟩ := out
      · exact turn.trans (ih d)
      · exact turn
      · exact turn
      · exact turn

/-- A request waits for its answer and ends with what it makes of it, or it fails without one. -/
theorem converse_request (frames : List Bytes) (c : RdowsConnection)
    (finish : RdowsMessage → Local VerbValue) (incoming : List StreamItem) :
    (∃ m d, c.Awaits d ∧ converse (.request frames c finish) incoming
      = (some m, ((finish m).run d).1, ((finish m).run d).2)) ∨
    ∃ result d, c.Awaits d ∧ converse (.request frames c finish) incoming = (none, result, d) := by
  induction frames with
  | cons frame frames ih => exact ih
  | nil =>
      have waits := awaits_hear incoming c
      show (∃ m d, _ ∧ converse (.receive c _) incoming = _) ∨
        ∃ result d, _ ∧ converse (.receive c _) incoming = _
      rw [converse]
      generalize hear incoming c = out at waits ⊢
      obtain ⟨m | e | p, d, rest⟩ := out
      · exact .inl ⟨m, d, waits, rfl⟩
      · exact .inr ⟨_, d, waits, rfl⟩
      · exact .inr ⟨_, d, waits, rfl⟩

end RdowsConnection

/-! ### What an answer does to the queue -/

/-- There is room for one more entry. -/
theorem CompletionQueue.entries_push {q : CompletionQueue} (room : q.isFull = false)
    (cqe : CompletionQueueEntry) : (q.push cqe).2.entries = q.entries ++ [cqe] := by
  have below : ¬ q.capacity ≤ q.entries.length := by simpa [isFull] using room
  rw [push, if_neg below]

namespace RdowsConnection

variable {c d : RdowsConnection} {wrid : UInt64}

/-- The completion that a work request of the connection pushes. -/
def completion (c : RdowsConnection) (wrid : UInt64) (status : UInt16) (opcode : Opcode)
    (byteCount : UInt32) : CompletionQueueEntry :=
  { wrid, status, opcode, vendorError := 0, byteCount, qpNumber := c.sessionId }

/-- A RECV_COMP uses up a credit and pushes a completion. -/
theorem run_onRecvComp_push {totalLen : UInt32} {header : RdowsHeader}
    (credits : d.sendCredits ≠ 0) :
    (onRecvComp wrid totalLen (.recvComp header)).run d
      = (pushCqe wrid 0 .send totalLen).run { d with sendCredits := d.sendCredits - 1 } := by
  have positive : (1 : UInt32).toNat ≤ d.sendCredits.toNat :=
    Nat.one_le_iff_ne_zero.mpr fun zero => credits (UInt32.toNat.inj zero)
  rw [onRecvComp, Method.run_bind_of_ok (Method.run_get _), checkedSub32, if_pos positive,
    Outcome.orPanic_some, Method.run_bind_of_ok (Method.run_lift _ _),
    Method.run_bind_of_ok (Method.run_modify _ _)]

/-- The acknowledgements of registrations do not touch the queue. -/
theorem queue_onMrRegAck (regionLen : UInt64) (m : RdowsMessage) (c : RdowsConnection) :
    ((onMrRegAck regionLen m).run c).2.cq = c.cq := by
  cases m with
  | mrRegAck header ack =>
      rw [onMrRegAck, Method.run_ite]
      split
      · rfl
      · rcases (zeroed regionLen.toNat : Outcome RdowsError Bytes) with b | e | p <;> rfl
  | _ => rfl

@[inherit_doc queue_onMrRegAck]
theorem queue_onMrDeregAck (lkey : LKey) (m : RdowsMessage) (c : RdowsConnection) :
    ((onMrDeregAck lkey m).run c).2.cq = c.cq := by
  cases m with
  | mrDeregAck header ack =>
      rw [onMrDeregAck, Method.run_ite]
      split <;> rfl
  | _ => rfl

/-- Storing data touches the local regions only, and only they decide how it ends. -/
theorem copyToLocalMr_congr (same : d.localMrs = c.localMrs) (lkey : LKey) (start : ℕ)
    (data : Bytes) :
    ((copyToLocalMr lkey start data).run d).1 = ((copyToLocalMr lkey start data).run c).1 ∧
      ((copyToLocalMr lkey start data).run d).2.cq = d.cq ∧
      ((copyToLocalMr lkey start data).run d).2.sessionId = d.sessionId := by
  have found : d.localMr lkey = c.localMr lkey := by rw [localMr, localMr, same]
  rw [copyToLocalMr, Method.run_bind_of_ok (Method.run_get _),
    Method.run_bind_of_ok (Method.run_get _), found]
  rcases c.localMr lkey with mr | e | p
  · rw [Method.run_bind_of_ok (Method.run_lift _ _), Method.run_bind_of_ok (Method.run_lift _ _)]
    rcases checkRange mr start data.length with stop | e | p
    · rw [Method.run_bind_of_ok (Method.run_lift _ _), Method.run_bind_of_ok (Method.run_lift _ _)]
      rcases (copyFromSlice mr.localBuf start stop data : Outcome RdowsError Bytes) with b | e | p
      · exact ⟨rfl, rfl, rfl⟩
      · exact ⟨rfl, rfl, rfl⟩
      · exact ⟨rfl, rfl, rfl⟩
    · exact ⟨rfl, rfl, rfl⟩
    · exact ⟨rfl, rfl, rfl⟩
  · exact ⟨rfl, rfl, rfl⟩
  · exact ⟨rfl, rfl, rfl⟩

/-- The data of a READ_RESP is stored and a completion pushed; if it cannot be stored, the call ends
before that. -/
theorem answered_onReadResp (same : d.localMrs = c.localMrs) (wrid : UInt64) (localLkey : LKey)
    (localVa : UInt64) (header : RdowsHeader) (payload : ReadRespPayload) :
    let out := (onReadResp wrid localLkey localVa (.readResp header payload)).run d
    let stored := c.Stores localLkey localVa.toNat payload.data.length
    out.2.cq = (if stored then
        (d.cq.push (d.completion wrid 0 .readReq (UInt32.ofNat payload.data.length))).2
      else d.cq) ∧ (stored → out.1.IsOk) := by
  obtain ⟨outcome, queue, session⟩ :=
    copyToLocalMr_congr same localLkey localVa.toNat payload.data
  have stores := isOk_copyToLocalMr_iff c localLkey localVa.toNat payload.data
  dsimp only
  rw [onReadResp]
  rw [← outcome] at stores
  rcases run : (copyToLocalMr localLkey localVa.toNat payload.data).run d with
    ⟨u | e | p, e'⟩ <;>
    rw [run] at queue session stores <;> dsimp only at queue session ⊢
  · rw [Method.run_bind_of_ok run, if_pos (stores.mp trivial)]
    refine ⟨?_, fun _ => trivial⟩
    show (e'.cq.push (e'.completion _ _ _ _)).2 = _
    rw [queue, completion, session]
    rfl
  · rw [Method.run_bind, run, if_neg stores.mpr]
    exact ⟨queue, stores.mpr⟩
  · rw [Method.run_bind, run, if_neg stores.mpr]
    exact ⟨queue, stores.mpr⟩

end RdowsConnection

namespace Exchange

variable {x : Exchange} {wrid : UInt64} {opcode : Opcode}

theorem not_completed_of_same (same : x.after.cq = x.before.cq) : ¬ x.Completed wrid opcode := by
  rintro ⟨cqe, pushed, -⟩
  rw [same] at pushed
  have length := congrArg List.length pushed
  rw [List.length_append, List.length_singleton] at length
  omega

theorem polled_of_other (other : ∀ max, x.verb ≠ .pollCq max) : x.polled = [] := by
  unfold polled
  split
  · rename_i max _ verb _
    exact absurd verb (other max)
  · rfl

theorem polled_of_remote (remote : x.verb.isRemote = true) : x.polled = [] :=
  polled_of_other (Verb.ne_pollCq_of_remote remote)

/-- The call succeeded and pushed a completion with status 0. -/
theorem completed_of_ok {cqe : CompletionQueueEntry}
    (pushed : x.after.cq.entries = x.before.cq.entries ++ [cqe])
    (carries : cqe.wrid = wrid ∧ cqe.opcode = opcode) (status : cqe.status = 0)
    (succeeded : x.result.IsOk) : x.Completed wrid opcode :=
  ⟨cqe, pushed, carries.1, carries.2, iff_of_true status succeeded,
    iff_of_false (not_not.mpr status) succeeded.not_isErr⟩

/-- The call failed and pushed a completion with the code of an ERROR. -/
theorem completed_of_err {cqe : CompletionQueueEntry} {code : ErrorCode}
    (pushed : x.after.cq.entries = x.before.cq.entries ++ [cqe])
    (carries : cqe.wrid = wrid ∧ cqe.opcode = opcode) (status : cqe.status = code.toU16)
    (failed : x.result.IsErr) : x.Completed wrid opcode ↔ code ≠ .success := by
  have zero : code.toU16 = 0 ↔ code = .success := by cases code <;> decide
  constructor
  · rintro ⟨other, pushed', -, -, -, fails⟩
    obtain rfl : cqe = other := by
      rw [pushed] at pushed'
      exact List.singleton_inj.mp (List.append_cancel_left pushed')
    rw [status] at fails
    exact fun success => fails.mpr failed (zero.mpr success)
  · intro failure
    have nonzero : cqe.status ≠ 0 := by
      rw [status]
      exact fun h => failure (zero.mp h)
    exact ⟨cqe, pushed, carries.1, carries.2,
      iff_of_false nonzero fun succeeded => succeeded.not_isErr failed,
      iff_of_true nonzero failed⟩

end Exchange

namespace Verb

open RdowsConnection

/-- The entries for which a verb calls `push` when the message is its answer. -/
def pushes (c : RdowsConnection) : Verb → RdowsMessage → List CompletionQueueEntry
  | postSend wrid sgList, .recvComp _ =>
      [c.completion wrid 0 .send (UInt32.ofNat (totalLength sgList))]
  | rdmaWrite wrid _ _ sgList, .writeComp _ =>
      [c.completion wrid 0 .write (UInt64.ofNat (totalLength sgList)).toUInt32]
  | rdmaRead wrid _ _ _ localLkey localVa, .readResp _ payload =>
      if c.Stores localLkey localVa.toNat payload.data.length then
        [c.completion wrid 0 .readReq (UInt32.ofNat payload.data.length)]
      else []
  | atomicCas wrid .., .atomicResp _ _ => [c.completion wrid 0 .atomicReq 8]
  | atomicFaa wrid .., .atomicResp _ _ => [c.completion wrid 0 .atomicReq 8]
  | verb, .error _ err =>
      match verb.work with
      | some (wrid, opcode) => [c.completion wrid err.errorCode.toU16 opcode 0]
      | none => []
  | _, _ => []

/-- How a work request ends that pushes a completion: with an error if the answer is an ERROR, and
successfully otherwise. -/
def Tells : RdowsMessage → Outcome RdowsError VerbValue → Prop
  | .error _ _, result => result.IsErr
  | _, result => result.IsOk

section Pushes

variable {v : Verb} {c d : RdowsConnection} {m : RdowsMessage} {messages : List RdowsMessage}
  {finish : RdowsMessage → Local VerbValue} {wrid : UInt64} {opcode : Opcode}

/-- Only a work request pushes anything. -/
theorem pushes_of_noWork (other : v.work = none) : v.pushes c m = [] := by
  cases v with
  | regMr accessFlags regionLen => cases m <;> rfl
  | deregMr lkey => cases m <;> rfl
  | pollCq max => cases m <;> rfl
  | writeLocalMr lkey offset data => cases m <;> rfl
  | readLocalMr lkey offset len => cases m <;> rfl
  | _ => cases other

theorem pushes_error (work : v.work = some (wrid, opcode)) (header : RdowsHeader)
    (err : ErrorPayload) :
    v.pushes c (.error header err) = [c.completion wrid err.errorCode.toU16 opcode 0] := by
  cases v <;> cases work <;> rfl

theorem lands_error (header : RdowsHeader) (err : ErrorPayload) :
    v.Lands c (.error header err) ↔ err.errorCode ≠ .success := by
  cases v <;> exact Iff.rfl

/-- A work request that gets its response pushes a completion with status 0 if the response
lands, and nothing otherwise. -/
theorem pushes_of_responds (c : RdowsConnection) (work : v.work = some (wrid, opcode))
    (responds : v.Responds m) :
    (∃ header err, m = .error header err) ∨ (∀ result, Tells m result → result.IsOk) ∧
      ((v.Lands c m ∧ ∃ byteCount, v.pushes c m = [c.completion wrid 0 opcode byteCount]) ∨
        ¬ v.Lands c m ∧ v.pushes c m = []) := by
  cases m with
  | error header err => exact .inl ⟨header, err, rfl⟩
  | recvComp header =>
      cases v with
      | postSend wrid sgList =>
          cases work
          exact .inr ⟨fun _ => id, .inl ⟨trivial, _, rfl⟩⟩
      | _ => exact responds.elim
  | writeComp header =>
      cases v with
      | rdmaWrite wrid rkey remoteVa sgList =>
          cases work
          exact .inr ⟨fun _ => id, .inl ⟨trivial, _, rfl⟩⟩
      | _ => exact responds.elim
  -- the one answer that can miss: its data may not fit into the local region
  | readResp header payload =>
      cases v with
      | rdmaRead wrid rkey remoteVa readLen localLkey localVa =>
          cases work
          refine .inr ⟨fun _ => id, ?_⟩
          by_cases stored : c.Stores localLkey localVa.toNat payload.data.length
          · exact .inl ⟨stored, _, if_pos stored⟩
          · exact .inr ⟨stored, if_neg stored⟩
      | _ => exact responds.elim
  | atomicResp header payload =>
      cases v with
      | atomicCas wrid rkey remoteVa compare swap =>
          cases work
          exact .inr ⟨fun _ => id, .inl ⟨trivial, _, rfl⟩⟩
      | atomicFaa wrid rkey remoteVa addend =>
          cases work
          exact .inr ⟨fun _ => id, .inl ⟨trivial, _, rfl⟩⟩
      | _ => exact responds.elim
  | _ => cases v <;> exact responds.elim

/-- A work request that passes its checks has room for its completion. -/
theorem room_of_passes (passes : v.Passes c) (work : v.work ≠ none) : c.cq.isFull = false := by
  cases v with
  | postSend wrid sgList => exact passes.1
  | rdmaWrite wrid rkey remoteVa sgList => exact passes
  | rdmaRead wrid rkey remoteVa readLen localLkey localVa => exact passes
  | atomicCas wrid rkey remoteVa compare swap => exact passes
  | atomicFaa wrid rkey remoteVa addend => exact passes
  | _ => exact absurd rfl work

/-- **A verb and the queue.**  Once it has its answer, a verb makes these calls of `push` and does
nothing else with the queue, whatever is in the queue by then; if it makes one, then its result
tells whether the answer is an ERROR. -/
theorem Requests.answered (requests : v.Requests c messages finish) (passes : v.Passes c)
    (awaits : c.Awaits d) (q : CompletionQueue) (m : RdowsMessage) :
    ((finish m).run { d with cq := q }).2.cq
        = Machine.exec CompletionQueue.push q (v.pushes c m) ∧
      (v.pushes c m ≠ [] → Tells m ((finish m).run { d with cq := q }).1) := by
  have session : d.completion = c.completion := by
    funext wrid status opcode byteCount
    rw [completion, completion, awaits.sessionId]
  -- An ERROR is handled alike by all work requests.
  have failed {α : Type} (f : α → VerbValue) {wrid : UInt64} {opcode : Opcode}
      (work : v.work = some (wrid, opcode)) (expected : String) (header : RdowsHeader)
      (err : ErrorPayload) :
      let out := ((notCompleted wrid opcode expected (.error header err)).mapValue f).run
        { d with cq := q }
      out.2.cq = Machine.exec CompletionQueue.push q (v.pushes c (.error header err)) ∧
        (v.pushes c (.error header err) ≠ [] → Tells (.error header err) out.1) := by
    rw [pushes_error work, ← session]
    exact ⟨rfl, fun _ => trivial⟩
  cases requests with
  | regMr accessFlags regionLen =>
      rw [pushes_of_noWork rfl]
      exact ⟨queue_onMrRegAck regionLen m _, fun some => absurd rfl some⟩
  | deregMr lkey =>
      rw [pushes_of_noWork rfl]
      exact ⟨queue_onMrDeregAck lkey m _, fun some => absurd rfl some⟩
  | postSend wrid sgList data gathered =>
      cases m with
      | recvComp header =>
          rw [Method.run_mapValue, run_onRecvComp_push (d := { d with cq := q })
            (awaits.credits passes.2), length_of_gatherSgData gathered, pushes, ← session]
          exact ⟨rfl, fun _ => trivial⟩
      | error header err => exact failed _ rfl "RECV_COMP" header err
      | _ => exact ⟨rfl, fun some => absurd rfl some⟩
  | rdmaWrite wrid rkey remoteVa sgList data gathered =>
      cases m with
      | writeComp header =>
          rw [length_of_gatherSgData gathered, pushes, ← session]
          exact ⟨rfl, fun _ => trivial⟩
      | error header err => exact failed _ rfl "WRITE_COMP" header err
      | _ => exact ⟨rfl, fun some => absurd rfl some⟩
  | rdmaRead wrid rkey remoteVa readLen localLkey localVa =>
      cases m with
      | readResp header payload =>
          obtain ⟨queue, succeeds⟩ := answered_onReadResp (d := { d with cq := q })
            awaits.localMrs wrid localLkey localVa header payload
          rw [Method.run_mapValue, pushes, ← session]
          split at queue
          · rename_i stored
            rw [if_pos stored]
            exact ⟨queue, fun _ => (succeeds stored).map _⟩
          · rename_i unstored
            rw [if_neg unstored]
            exact ⟨queue, fun some => absurd rfl some⟩
      | error header err => exact failed _ rfl "READ_RESP" header err
      | _ => exact ⟨rfl, fun some => absurd rfl some⟩
  | atomicCas | atomicFaa =>
      cases m with
      | atomicResp header payload =>
          rw [pushes, ← session]
          exact ⟨rfl, fun _ => trivial⟩
      | error header err => exact failed _ rfl "ATOMIC_RESP" header err
      | _ => exact ⟨rfl, fun some => absurd rfl some⟩

/-- **When an answered work request is completed**: exactly if the answer lands.  Both kinds of
answer are covered, and the room for the completion comes from the checks the call has passed. -/
theorem Requests.completed_iff (requests : v.Requests c messages finish)
    (work : v.work = some (wrid, opcode)) (passes : v.Passes c) (awaits : c.Awaits d)
    (responds : v.Responds m) {x : Exchange} (before : x.before = c)
    (ends : (x.result, x.after) = (finish m).run d) :
    x.Completed wrid opcode ↔ v.Lands c m := by
  subst before
  have room : x.before.cq.isFull = false := room_of_passes passes (by simp [work])
  have answered := requests.answered passes awaits d.cq m
  rw [show (finish m).run { d with cq := d.cq } = (x.result, x.after) from ends.symm,
    awaits.cq] at answered
  obtain ⟨queue, tells⟩ := answered
  -- an answer that pushes one entry finds room for it, since the call was not refused for a full
  -- queue
  have pushed {cqe : CompletionQueueEntry} (one : v.pushes x.before m = [cqe]) :
      x.after.cq.entries = x.before.cq.entries ++ [cqe] ∧ Tells m x.result := by
    rw [queue, one]
    exact ⟨CompletionQueue.entries_push room cqe, tells (by simp [one])⟩
  rcases pushes_of_responds x.before work responds with ⟨header, err, rfl⟩ |
    ⟨succeeds, ⟨lands, byteCount, one⟩ | ⟨missed, none⟩⟩
  · obtain ⟨entries, failed⟩ := pushed (pushes_error work header err)
    rw [lands_error]
    exact Exchange.completed_of_err entries ⟨rfl, rfl⟩ rfl failed
  · obtain ⟨entries, succeeded⟩ := pushed one
    exact iff_of_true
      (Exchange.completed_of_ok entries ⟨rfl, rfl⟩ rfl (succeeds _ succeeded)) lands
  · refine iff_of_false (Exchange.not_completed_of_same ?_) missed
    rw [queue, none]
    rfl

end Pushes

end Verb

namespace RdowsConnection

/-- **A call and the queue.**  It puts nothing on the wire and pushes nothing; or it passed its
checks and waited, and then it ended without an answer and pushed nothing, or with one. -/
theorem exchange_cases (c : RdowsConnection) (verb : Verb) (incoming : List StreamItem) :
    let x := (c.exchange (verb, incoming)).1
    (x.sent = [] ∧ x.consumed = none ∧ (x.polled, x.after.cq) = verb.takes c.cq) ∨
    x.sent ≠ [] ∧ verb.isRemote = true ∧
      ∃ messages finish d, x.sent = messages.map RdowsMessage.encode ∧
      verb.Requests c messages finish ∧ verb.Passes c ∧ c.Awaits d ∧
      ((x.consumed = none ∧ x.after = d) ∨
        ∃ m, x.consumed = some m ∧ (x.result, x.after) = (finish m).run d) := by
  intro x
  have unsent {result : Outcome RdowsError VerbValue} {d : RdowsConnection}
      (ended : verb.start.start c = .done result d) :
      x.sent = [] ∧ x.consumed = none ∧ x.result = result ∧ x.after = d := by
    show (verb.start.start c).frames = [] ∧ (converse (verb.start.start c) incoming).1 = none ∧
      (converse (verb.start.start c) incoming).2.1 = result ∧
      (converse (verb.start.start c) incoming).2.2 = d
    rw [ended]
    exact ⟨rfl, rfl, rfl, rfl⟩
  by_cases remote : verb.isRemote = true
  · rcases verb.start_remote c remote with ⟨result, ended, -⟩ |
      ⟨messages, next, finish, started, requests, passes, -⟩
    · obtain ⟨sent, consumed, -, after⟩ := unsent ended
      refine .inl ⟨sent, consumed, ?_⟩
      rw [Exchange.polled_of_remote remote, after,
        Verb.takes_of_other (Verb.ne_pollCq_of_remote remote)]
    · have frames : x.sent = messages.map RdowsMessage.encode := by
        rw [sent_exchange, started, Talk.frames_request]
      have out : (x.consumed, x.result, x.after) = converse
          (.request (messages.map RdowsMessage.encode) { c with nextSeq := next } finish)
          incoming := by
        rw [← started]
        rfl
      -- Sending takes a number, and waiting takes in CREDIT_UPDATEs; neither touches the queue.
      refine .inr ⟨?_, remote, messages, finish, ?_⟩
      · rw [frames]
        cases requests <;> simp
      · have numbered : c.Awaits { c with nextSeq := next } := .of_numbers c _ _
        rcases converse_request (messages.map RdowsMessage.encode) { c with nextSeq := next } finish
          incoming with ⟨m, d, waits, answered⟩ | ⟨result, d, waits, unanswered⟩
        · rw [answered] at out
          obtain ⟨consumed, ends⟩ := Prod.mk.inj out
          exact ⟨d, frames, requests, passes, numbered.trans waits, .inr ⟨m, consumed, ends⟩⟩
        · rw [unanswered] at out
          obtain ⟨consumed, ends⟩ := Prod.mk.inj out
          exact ⟨d, frames, requests, passes, numbered.trans waits,
            .inl ⟨consumed, (Prod.mk.inj ends).2⟩⟩
  · refine .inl ?_
    cases verb with
    | pollCq max =>
        obtain ⟨sent, consumed, -, -⟩ := unsent rfl
        exact ⟨sent, consumed, rfl⟩
    | writeLocalMr lkey offset data =>
        obtain ⟨sent, consumed, -, after⟩ := unsent rfl
        refine ⟨sent, consumed, ?_⟩
        rw [after]
        exact congrArg (Prod.mk []) (copyToLocalMr_congr rfl lkey offset data).2.1
    | readLocalMr lkey offset len =>
        obtain ⟨sent, consumed, -, after⟩ := unsent rfl
        refine ⟨sent, consumed, ?_⟩
        rw [after]
        rfl
    | _ => exact absurd rfl remote

end RdowsConnection

namespace Exchange

open RdowsConnection

variable {c : RdowsConnection} {call : Verb × List StreamItem}

/-- A call that took a message as its answer ends with what it makes of it. -/
theorem ends_of_consumed {x : Exchange} {finish : RdowsMessage → Local VerbValue}
    {d : RdowsConnection} {m : RdowsMessage}
    (ends : (x.consumed = none ∧ x.after = d) ∨
      ∃ m, x.consumed = some m ∧ (x.result, x.after) = (finish m).run d)
    (consumed : x.consumed = some m) : (x.result, x.after) = (finish m).run d := by
  rcases ends with ⟨unanswered, -⟩ | ⟨m', answered, ends⟩
  · cases unanswered.symm.trans consumed
  · cases answered.symm.trans consumed
    exact ends

/-- What a call took out and what it left. -/
theorem entries_of_takes {x : Exchange} {verb : Verb} {q : CompletionQueue}
    (takes : (x.polled, x.after.cq) = verb.takes q) :
    x.polled ++ x.after.cq.entries = q.entries := by
  rw [← verb.takes_append q, ← takes]

/-- **A work request that is answered** is completed exactly if the answer lands in the connection
it started from. -/
theorem completed_iff {wrid : UInt64} {opcode : Opcode} {m : RdowsMessage}
    (work : call.1.work = some (wrid, opcode)) (consumed : (c.exchange call).1.consumed = some m)
    (responds : call.1.Responds m) :
    (c.exchange call).1.Completed wrid opcode ↔ call.1.Lands c m := by
  rcases c.exchange_cases call.1 call.2 with ⟨-, unanswered, -⟩ |
    ⟨-, -, messages, finish, d, -, requests, passes, waits, ends⟩
  · cases unanswered.symm.trans consumed
  · exact requests.completed_iff work passes waits responds rfl
      (ends_of_consumed ends consumed)

/-- **A call that puts nothing on the wire** adds nothing to the queue.  It can only take entries
out, as `poll_cq` does. -/
theorem queue_of_silent (silent : (c.exchange call).1.sent = []) :
    (c.exchange call).1.after.cq.entries <:+ c.cq.entries := by
  rcases c.exchange_cases call.1 call.2 with ⟨-, -, takes⟩ | ⟨sent, -⟩
  · exact ⟨_, entries_of_takes takes⟩
  · exact absurd silent sent

/-- **One call.**  What it polls and what it leaves in the queue are what it found there and the
completion of the work request it finished. -/
theorem account_step (sound : (c.exchange call).1.Sound) :
    ((c.exchange call).1.polled ++ (c.exchange call).1.after.cq.entries).map summary
      = c.cq.entries.map summary ++ (c.exchange call).1.finished := by
  -- a call without an answer of its own finishes no work and leaves the entries as they were
  have unfinished (left : (c.exchange call).1.polled ++ (c.exchange call).1.after.cq.entries
      = c.cq.entries) (none : call.1.work = none ∨ (c.exchange call).1.consumed = none) :
      ((c.exchange call).1.polled ++ (c.exchange call).1.after.cq.entries).map summary
        = c.cq.entries.map summary ++ (c.exchange call).1.finished := by
    have nothing : (c.exchange call).1.finished = [] := by
      unfold finished
      rcases none with none | none
      · rw [show (c.exchange call).1.verb.work = _ from none]
      · rw [none]
        split
        · contradiction
        · rfl
    rw [left, nothing, List.append_nil]
  rcases c.exchange_cases call.1 call.2 with ⟨-, unanswered, takes⟩ |
    ⟨-, remote, messages, finish, d, -, requests, passes, waits, ⟨unanswered, after⟩ |
      ⟨m, answered, ends⟩⟩
  · exact unfinished (entries_of_takes takes) (.inr unanswered)
  · refine unfinished ?_ (.inr unanswered)
    rw [polled_of_remote remote, show (c.exchange call).1.after = d from after, waits.cq]
    rfl
  · rcases work : call.1.work with _ | ⟨wrid, opcode⟩
    · refine unfinished ?_ (.inl work)
      have after : (c.exchange call).1.after = ((finish m).run d).2 := (Prod.mk.inj ends).2
      have queue := (requests.answered passes waits d.cq m).1
      rw [Verb.pushes_of_noWork work] at queue
      rw [polled_of_remote remote, after, show ((finish m).run d).2.cq = d.cq from queue, waits.cq]
      rfl
    -- soundness is used here: the answer lands, so there is exactly one entry for it
    · obtain ⟨responds, lands⟩ := sound wrid opcode m work answered
      obtain ⟨cqe, pushed, rfl, rfl, ok, -⟩ :=
        (requests.completed_iff work passes waits responds rfl ends).mpr lands
      have finishes : (c.exchange call).1.finished
          = [(cqe.wrid, cqe.opcode, decide (c.exchange call).1.result.IsOk)] := by
        rw [finished, show (c.exchange call).1.verb.work = _ from work,
          show (c.exchange call).1.consumed = _ from answered]
      rw [polled_of_remote remote, List.nil_append, finishes,
        show (c.exchange call).1.after.cq.entries = _ from pushed, List.map_append,
        ← decide_eq_decide.mpr ok]
      rfl

end Exchange

namespace RdowsConnection

/-- The calls of a run in their order. -/
def exchanges (c : RdowsConnection) (calls : List (Verb × List StreamItem)) : List Exchange :=
  ((Machine.history exchange c calls).map Prod.snd).reverse

theorem exchanges_cons (c : RdowsConnection) (call : Verb × List StreamItem)
    (rest : List (Verb × List StreamItem)) :
    c.exchanges (call :: rest) = (c.exchange call).1 :: (c.exchange call).2.exchanges rest := by
  rw [exchanges, Machine.history_cons, List.map_append, List.reverse_append]
  rfl

/-- **A whole run.**  What was polled and what is still queued are what was queued at the start
and the completions of the work requests that were finished, in their order. -/
theorem account_run (c : RdowsConnection) (calls : List (Verb × List StreamItem))
    (sound : ∀ x ∈ c.exchanges calls, x.Sound) :
    ((c.exchanges calls).flatMap Exchange.polled
        ++ (Machine.exec exchange c calls).cq.entries).map Exchange.summary
      = c.cq.entries.map Exchange.summary ++ (c.exchanges calls).flatMap Exchange.finished := by
  induction calls generalizing c with
  | nil => exact (List.append_nil _).symm
  | cons call rest ih =>
      rw [exchanges_cons] at sound ⊢
      have step := Exchange.account_step (sound _ List.mem_cons_self)
      have later := ih (c.exchange call).2 fun x mem => sound x (List.mem_cons_of_mem _ mem)
      rw [List.flatMap_cons, List.flatMap_cons, List.append_assoc, List.map_append,
        Machine.exec_cons, later, ← List.append_assoc, ← List.map_append, ← List.append_assoc,
        ← step]
      rfl

/-- **Work requests and completions.**  In every run of calls, with whatever frames arrive: an
answered work request pushes exactly one completion that tells how it ended, if and only if the
answer lands; a call that puts nothing on the wire pushes none; and if all answers land, then
completions and finished work requests are the same, in their order. -/
theorem completions_account (c : RdowsConnection) (calls : List (Verb × List StreamItem)) :
    (∀ x ∈ c.exchanges calls,
      (∀ wrid opcode m, x.verb.work = some (wrid, opcode) → x.consumed = some m →
        x.verb.Responds m → (x.Completed wrid opcode ↔ x.verb.Lands x.before m)) ∧
      (x.sent = [] → x.after.cq.entries <:+ x.before.cq.entries)) ∧
    ((∀ x ∈ c.exchanges calls, x.Sound) →
      ((c.exchanges calls).flatMap Exchange.polled
          ++ (Machine.exec exchange c calls).cq.entries).map Exchange.summary
        = c.cq.entries.map Exchange.summary ++ (c.exchanges calls).flatMap Exchange.finished) := by
  refine ⟨?_, account_run c calls⟩
  induction calls generalizing c with
  | nil => simp [exchanges, Machine.history, Machine.historyFrom]
  | cons call rest ih =>
      rw [exchanges_cons]
      intro x mem
      rcases List.mem_cons.mp mem with rfl | mem
      · exact ⟨fun wrid opcode m => Exchange.completed_iff, Exchange.queue_of_silent⟩
      · exact ih (c.exchange call).2 x mem

/-- A connection that is just established, with the defaults of `connect` and room for a few
completions. -/
def established : RdowsConnection where
  sessionId := 7
  pd := ⟨1⟩
  maxMsgSize := defaultMaxMsgSize
  nextSeq := 1
  expectedRemoteSeq := some 1
  sendCredits := defaultIcc
  cq := .new 16
  localMrs := ∅

/-- The READ_RESP to the first request of that connection, with one byte. -/
def oneByteRead : RdowsMessage :=
  .readResp { RdowsHeader.new .readResp 7 1 5 with payloadLength := 9 } ⟨0, [42]⟩

/-- **A READ whose data cannot be stored.**  The READ_RESP arrives, but no local region has the
L_Key that `rdma_read` was given.  The call fails and pushes no completion. -/
theorem unstored_read_pushes_nothing :
    let x := (established.exchange (.rdmaRead 5 ⟨1⟩ 0 1 ⟨99⟩ 0, [.ok oneByteRead.encode])).1
    x.verb.work = some (5, .readReq) ∧ x.sent ≠ [] ∧
    (∃ m, x.consumed = some m ∧ x.verb.Responds m) ∧
    x.result = .err (.protocol .errInvalidLkey) ∧ x.after.cq.entries = [] ∧
    ¬ x.Completed 5 .readReq := by
  refine ⟨rfl, by decide +kernel, ⟨oneByteRead, by decide +kernel, trivial⟩,
    by decide +kernel, by decide +kernel, ?_⟩
  rintro ⟨cqe, pushed, -⟩
  have length : (established.exchange (.rdmaRead 5 ⟨1⟩ 0 1 ⟨99⟩ 0,
    [.ok oneByteRead.encode])).1.after.cq.entries.length = 0 := by decide +kernel
  rw [pushed, List.length_append, List.length_singleton] at length
  omega

end RdowsConnection

end Rdows
