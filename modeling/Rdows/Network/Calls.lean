import Rdows.Client.LocalMemory
import Rdows.Network.Direct
import Rdows.Server.StoreRefinement

/-!
# What a call comes to

Between two calls the channels are empty, but for a CREDIT_UPDATE that the client has not come
across yet (`Absorbs`).  A call then comes to this: the server plays its plans for the frames, the
client takes in what was unread, and its verb makes something of the answer.

## From interleavings to function calls

Here no interleaving is left: the call is followed in the one order in which every frame is handled
as soon as it is sent (`Standstill`).  That every other order comes to the same is proved elsewhere
(`Network.Schedules`).  What this module provides is the step from frames to results, in three
lemmas that the comparison with `Direct` uses for every verb:

* `InStep.send`: the server plays the plan of the frame it is sent, if the frame has the number it
  expects and is not too large; `InStep.send_ok` and `InStep.send_crash` are the two ways it can
  end.
* `perform_answered`, `perform_lost`: a request whose frames are answered, and one whose server is
  gone.
* `perform_local`: a call that makes no use of the network.

`RdowsConnection.Blind` says that what a verb makes of an answer does not depend on numbers and
credits, which the connection has and `Direct` has not.  Like other properties of methods it is
proved along the bodies.
-/

namespace Rdows

open Rust Handler

/-! ### What does not depend on the link -/

namespace RdowsConnection

/-- The connection with other numbers and credits. -/
def relink (c : RdowsConnection) (next : UInt32) (expected : Option UInt32) (credits : UInt32) :
    RdowsConnection :=
  { c with nextSeq := next, expectedRemoteSeq := expected, sendCredits := credits }

/-- The method neither looks at the numbers and the credits nor changes them.  Running it on a
connection with others gives the same result. -/
def Blind {α : Type} (x : Local α) : Prop :=
  ∀ c next expected credits,
    x.run (c.relink next expected credits)
      = ((x.run c).1, (x.run c).2.relink next expected credits)

namespace Blind

variable {α β : Type}

theorem bind {x : Local α} {f : α → Local β} (first : Blind x) (second : ∀ a, Blind (f a)) :
    Blind (x >>= f) := by
  intro c next expected credits
  rw [Method.run_bind, Method.run_bind, first]
  rcases x.run c with ⟨a | e | p, d⟩
  · exact second a d next expected credits
  · rfl
  · rfl

theorem lift (o : Outcome RdowsError α) : Blind (Method.lift o : Local α) := fun _ _ _ _ => rfl

theorem pure (a : α) : Blind (Pure.pure a : Local α) := fun _ _ _ _ => rfl

theorem throw (e : RdowsError) : Blind (Method.throw e : Local α) := fun _ _ _ _ => rfl

theorem mapValue {x : Local α} (blind : Blind x) (f : α → β) : Blind (x.mapValue f) := by
  intro c next expected credits
  rw [Method.run_mapValue, Method.run_mapValue, blind]

theorem pushCqe (wrid : UInt64) (status : UInt16) (opcode : Opcode) (byteCount : UInt32) :
    Blind (pushCqe wrid status opcode byteCount) :=
  fun _ _ _ _ => rfl

theorem copyToLocalMr (lkey : LKey) (start : ℕ) (data : Bytes) :
    Blind (copyToLocalMr lkey start data) := by
  have copies (o : Outcome RdowsError MemoryRegionHandle) : Blind (do
      let mr ← Method.lift o
      let stop ← Method.lift (checkRange mr start data.length)
      let localBuf ← Method.lift (copyFromSlice mr.localBuf start stop data)
      Method.modify fun c =>
        { c with localMrs := c.localMrs.insert lkey.value { mr with localBuf } }) :=
    bind (lift o) fun _ => bind (lift _) fun _ => bind (lift _) fun _ => fun _ _ _ _ => rfl
  exact fun c => copies (c.localMr lkey) c

theorem granted (lkey : LKey) (rkey : RKey) (regionLen : UInt64) :
    Blind (granted lkey rkey regionLen) :=
  bind (lift _) fun _ => bind (fun _ _ _ _ => rfl) fun _ => pure _

theorem released (lkey : LKey) : Blind (released lkey) :=
  bind (fun _ _ _ _ => rfl) fun _ => pure _

theorem completes (wrid : UInt64) (opcode : Opcode) (byteCount : α → UInt32)
    {deliver : α → Local VerbValue} (delivers : ∀ a, Blind (deliver a))
    (result : Except ErrorCode α) : Blind (completes wrid opcode byteCount deliver result) := by
  cases result with
  | ok a => exact bind (delivers a) fun _ => bind (pushCqe _ _ _ _) fun _ => pure _
  | error code => exact bind (pushCqe _ _ _ _) fun _ => throw _

end Blind

end RdowsConnection

namespace Standstill

open Network (Arrives)
open RdowsConnection (Local recvTurn)

section Send

variable {readings : Readings} {s : Standstill} {m m' : RdowsMessage} {next : UInt32}
  {pending : PendingOp}

/-- The frame is the next one that the session expects, delivered, and not too large: nothing keeps
the server from dispatching it. -/
structure InStep (s : Standstill) (m m' : RdowsMessage) : Prop where
  running : s.server.running = true
  ready : s.server.session.state = .ready
  expects : s.server.session.expectedRemoteSeq = some m.header.sequence
  arrives : Arrives m m'
  within : s.transport.fits m.encode = true
  size : m.encodePayload.length ≤ s.server.session.maxMsgSize.toNat

/-- **A frame in step** is dispatched, and its plan is played.  All that is left to know is the
plan. -/
theorem InStep.send (inStep : InStep s m m') {p : Plan}
    (plans : (s.server.session.accepting m').planDispatch (readings s.handled).1
      (readings s.handled).2 m' = p) :
    s.send readings m.encode = { s with
      unread := s.unread ++
        (p.emits numbering s.server.session.nextSeq).map RdowsMessage.encode
      server := ⟨p.final.renumber (p.nextNumber s.server.session.nextSeq),
        p.ending.IsOk ∧ p.final.state ≠ .closed⟩
      handled := s.handled + 1 } := by
  have bound := s.server.session.maxMsgSize.toNat_lt
  have small : m.encodePayload.length < 2 ^ 32 := inStep.size.trans_lt bound
  have reaches : s.server.session.ReachesDispatch m' := by
    refine ⟨inStep.ready, ?_, ?_, inStep.arrives.request⟩
    · rw [inStep.arrives.header, UInt32.not_lt, UInt32.le_iff_toNat_le]
      show (UInt32.ofNat m.encodePayload.length).toNat ≤ _
      rw [UInt32.toNat_ofNat_of_lt' small]
      exact inStep.size
    · intro expected expects
      rw [inStep.expects] at expects
      cases expects
      rw [inStep.arrives.header]
      rfl
  obtain ⟨replied, left⟩ := ServerRun.step_plan inStep.running (inStep.arrives.decoded small)
    ((Session.plan_of_reaches reaches _ _).trans plans)
  have same : s.send readings m.encode = _ := if_pos inStep.running
  rw [same, Transport.deliver_of_fits inStep.within]
  dsimp only
  rw [replied, left]

/-- A plan that is played to its end leaves the server running. -/
theorem InStep.send_ok (inStep : InStep s m m') {p : Plan}
    (plans : (s.server.session.accepting m').planDispatch (readings s.handled).1
      (readings s.handled).2 m' = p) (ends : p.ending = .ok ()) (ready : p.final.state = .ready) :
    s.send readings m.encode = { s with
      unread := s.unread ++
        (p.emits numbering s.server.session.nextSeq).map RdowsMessage.encode
      server := ⟨p.final.renumber (p.nextNumber s.server.session.nextSeq), true⟩
      handled := s.handled + 1 } := by
  have goesOn : decide (p.ending.IsOk ∧ p.final.state ≠ .closed) = true := by
    rw [ends, ready]
    rfl
  rw [inStep.send plans, goesOn]

/-- A plan that panics before it replies leaves nothing but a server that is gone, which is what a
panic of its task comes to. -/
theorem InStep.send_crash (inStep : InStep s m m') {cause : Panic} {t : Session}
    (plans : (s.server.session.accepting m').planDispatch (readings s.handled).1
      (readings s.handled).2 m' = .crash cause t) :
    ∃ server : ServerRun, server.running = false ∧
      s.send readings m.encode = { s with server, handled := s.handled + 1 } := by
  have stops : decide ((Outcome.panic cause : Outcome RdowsError Unit).IsOk ∧ t.state ≠ .closed)
      = false := decide_eq_false And.left
  have served := inStep.send plans
  rw [Script.emits, List.map_nil, List.append_nil] at served
  exact ⟨_, stops, served⟩

end Send

/-! ### What is unread between two calls -/

/-- The messages are taken in on the way to the next one, and only change the number that is
expected and the credits. -/
def Absorbs (t : Transport) (unread : List Bytes) (expected : Option UInt32) (credits : UInt32)
    (expected' : Option UInt32) (credits' : UInt32) : Prop :=
  ∀ call (c : RdowsConnection) next rest,
    hear t call (unread ++ rest) (c.relink next expected credits)
      = hear t call rest (c.relink next expected' credits')

theorem absorbs_nil (t : Transport) (expected : Option UInt32) (credits : UInt32) :
    Absorbs t [] expected credits expected credits :=
  fun _ _ _ _ => rfl

/-- A CREDIT_UPDATE with the expected number is taken in. -/
theorem run_recvTurn_creditUpdate {c : RdowsConnection} {sessionId n increment : UInt32}
    (expects : c.expectedRemoteSeq = some n)
    (fits : c.sendCredits.toNat + increment.toNat < 2 ^ 32) :
    (recvTurn (some (.ok ((Reply.creditUpdate { creditIncrement := increment }).under
        sessionId n).encode))).run c
      = (.ok none, c.relink c.nextSeq (some (n + 1)) (c.sendCredits + increment)) := by
  have within : ((Reply.creditUpdate { creditIncrement := increment }).under sessionId
      n).WithinFormat := by
    refine .of_header rfl rfl ?_
    show (CreditUpdatePayload.encode _).length < _
    rw [CreditUpdatePayload.length_encode]
    decide
  have sum : checkedAdd32 c.sendCredits increment = some (c.sendCredits + increment) := if_pos fits
  rw [Network.run_recvTurn within expects]
  show (do
    let c ← Method.get
    let credits ← Method.lift (.orPanic .arithmeticOverflow (checkedAdd32 c.sendCredits increment))
    Method.modify fun c => { c with sendCredits := credits }
    return none : Local (Option RdowsMessage)).run _ = _
  rw [Method.run_bind_of_ok (Method.run_get _)]
  show (Method.lift (.orPanic .arithmeticOverflow (checkedAdd32 c.sendCredits increment)) >>= _ :
    Local (Option RdowsMessage)).run _ = _
  rw [sum]
  rfl

theorem absorbs_creditUpdate (t : Transport) {credits sessionId n increment : UInt32}
    (fits : credits.toNat + increment.toNat < 2 ^ 32) :
    Absorbs t [((Reply.creditUpdate { creditIncrement := increment }).under sessionId n).encode]
      (some n) credits (some (n + 1)) (credits + increment) := by
  intro call c next rest
  have short : ((Reply.creditUpdate { creditIncrement := increment }).under sessionId
      n).encode.length ≤ 128 := by
    rw [RdowsMessage.length_encode]
    show headerSize + (CreditUpdatePayload.encode _).length ≤ 128
    rw [CreditUpdatePayload.length_encode]
    decide
  rw [List.singleton_append, hear, if_pos (Transport.fits_of_length_le short),
    run_recvTurn_creditUpdate rfl (by exact fits)]
  rfl

/-! ### One call -/

section Call

variable {readings : Readings} {s : Standstill} {verb : Verb} {frames : List Bytes}
  {finish : RdowsMessage → Local VerbValue} {next credits : UInt32} {n k : ℕ}
  {unhandled : List Bytes} {server : ServerRun}

/-- **A request that is answered** ends with what it makes of the answer, after it has taken in what
was unread before. -/
theorem perform_answered {n : UInt32} {r : Reply} {sessionId : UInt32} {more : List Bytes}
    (absorbs : Absorbs s.transport s.unread s.conn.expectedRemoteSeq s.conn.sendCredits (some n)
      credits)
    (started : verb.start.start s.conn = .request frames { s.conn with nextSeq := next } finish)
    (served : frames.foldl (send readings) s = { s with
      unread := s.unread ++ (r.under sessionId n).encode :: more, server, handled := k })
    (fits : (r.under sessionId n).WithinFormat)
    (within : s.transport.fits (r.under sessionId n).encode = true)
    (answer : (r.under sessionId n).isCreditUpdate = false) :
    s.perform readings verb =
      let out := (finish (r.under sessionId n).canonical).run
        (s.conn.relink next (some (n + 1)) credits)
      (out.1, { s with conn := out.2, unread := more, server, handled := k }) := by
  have number : (r.under sessionId n).header.sequence = n := by
    rw [Reply.header_under]
    rfl
  have hears : hear s.transport s.calls (s.unread ++ (r.under sessionId n).encode :: more)
      { s.conn with nextSeq := next }
      = (.ok (r.under sessionId n).canonical, s.conn.relink next (some (n + 1)) credits, more) := by
    rw [show { s.conn with nextSeq := next } = s.conn.relink next _ _ from rfl, absorbs, hear,
      if_pos within, Network.run_recvTurn_answer fits (by rw [number]; rfl) answer, Network.counted,
      number]
    rfl
  rw [perform, started, converse_request, served]
  show converse readings (.receive _ _) _ = _
  rw [converse]
  dsimp only
  rw [hears]
  rfl

/-- **A request whose server is gone** is given the error of the transport, and its connection keeps
everything but its numbers and credits. -/
theorem perform_lost {expected : Option UInt32}
    (absorbs : Absorbs s.transport s.unread s.conn.expectedRemoteSeq s.conn.sendCredits expected
      credits)
    (started : verb.start.start s.conn = .request frames { s.conn with nextSeq := next } finish)
    (served : frames.foldl (send readings) s = { s with unhandled, server, handled := k }) :
    s.perform readings verb = (.err (s.transport.lost s.calls), { s with
      conn := s.conn.relink next expected credits, unhandled, unread := [], server
      handled := k }) := by
  have hears : hear s.transport s.calls s.unread { s.conn with nextSeq := next }
      = (.err (s.transport.lost s.calls), s.conn.relink next expected credits, []) := by
    have absorbed := absorbs s.calls s.conn next []
    rw [List.append_nil] at absorbed
    exact absorbed
  rw [perform, started, converse_request, served]
  show converse readings (.receive _ _) _ = _
  rw [converse]
  dsimp only
  rw [hears]

/-- A call that makes no use of the network: it runs on the connection alone, and the server does
not notice. -/
theorem perform_local {x : Local VerbValue} (isLocal : verb.start = Agent.ofMethod x) :
    s.perform readings verb = ((x.run s.conn).1, { s with conn := (x.run s.conn).2 }) := by
  rw [perform, isLocal]
  rfl

end Call

end Standstill

end Rdows
