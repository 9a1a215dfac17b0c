import Rdows.Network.Calls
import Rdows.Network.Schedules

/-!
# The network is transparent

A program on a connection cannot tell the network from a function call: in every schedule it gets
what `Direct.call` gives it, and leaves the same local buffers, completions, regions and receives
behind.  The condition is `Direct.Admits`, on every call that the program makes.

## The two sides

* `Sim` relates the two: the connections are the same but for numbers and credits, the session has
  the same backend, and the two sides are in step (`Tuned`).
* `Sim.call`: one call, verb by verb.  The server may refuse it, and it may panic.
* `network_transparent`: whole programs, in every schedule.

## Replies and results

`Direct.call` has no frames.  What a handler does with the backend is there a method that returns a
value or an error code, and what the client does with that is a function of it.  `Enacts` says that
the plan of a message does the same to the backend and replies with a message that carries the
result, and `Conveys` that the client, when it reads this reply, ends as the function of the result
does.  With these two for each kind of request, one lemma about a request of one frame
(`Sim.request_single`) and one about the last frame of a request (`Sim.request_last`) are enough.

## Panics and the transport

The server may panic on the way, and the program goes on: its requests then fail with what the
transport yields to each call, which is a parameter of both sides.  Frames above the limit of the
transport are not admitted, also not the answer to a read: the client would lose it, while the
function call would return the data.
-/

namespace Rdows

open Rust Handler Confluence

namespace Standstill

open Network (Arrives)
open RdowsConnection (Local Blind)

/-! ### In step -/

/-- **In step.** The session waits for a request with the client's next number.  Once the client has
taken in what is unread, it expects the server's next number, and its credits and the SENDs that the
server has counted make up the initial credits. -/
structure Tuned (s : Standstill) : Prop where
  running : s.server.running = true
  standing : Standing s.server.session s.conn.nextSeq .none
  size : s.server.session.maxMsgSize = defaultMaxMsgSize
  icc : s.server.session.icc = defaultIcc
  absorbs : ∃ credits : UInt32,
    credits.toNat + s.server.session.sendsSinceLastCredit.toNat = defaultIcc.toNat ∧
      Absorbs s.transport s.unread s.conn.expectedRemoteSeq s.conn.sendCredits
        (some s.server.session.nextSeq) credits

/-- The network and the function call agree on the state: on what a program can find out, and on the
counters that number the readings and the errors of the transport. -/
structure Sim (s : Standstill) (d : Direct) : Prop where
  transport : s.transport = d.transport
  calls : s.calls = d.calls
  conn : ∃ next expected credits, s.conn = d.conn.relink next expected credits
  solvent : s.conn.sendCredits ≠ 0
  running : s.server.running = d.running
  tuned : d.running = true → s.Tuned
  backend : d.running = true → s.server.session.backend = d.backend
  handled : d.running = true → s.handled = d.handled
  drained : d.running = false → s.unread = []

/-- They agree on the result of a call and on the state after it. -/
def Agree (out : Outcome RdowsError VerbValue × Standstill)
    (out' : Outcome RdowsError VerbValue × Direct) : Prop :=
  out.1 = out'.1 ∧ out.2.Sim out'.2

theorem sim_start (transport : Transport) (config : ServerConfig) (now : ℕ) (sessionId : UInt32)
    (cqCapacity : ℕ) :
    (start transport config now sessionId cqCapacity).Sim
      (.start transport config now sessionId cqCapacity) where
  transport := rfl
  calls := rfl
  conn := ⟨_, _, _, rfl⟩
  solvent := show defaultIcc ≠ 0 by decide
  running := rfl
  tuned _ := ⟨rfl, ⟨rfl, rfl, rfl, rfl, show (0 : UInt32) < defaultIcc / 4 by decide⟩, rfl, rfl,
    defaultIcc, rfl, absorbs_nil _ _ _⟩
  backend _ := rfl
  handled _ := rfl
  drained gone := by cases gone

/-- Credits that balance are not used up: the server gives them back when a quarter is counted. -/
theorem solvent_of_balance {session : Session} {next credits : UInt32} {pending : PendingOp}
    (standing : Standing session next pending) (icc : session.icc = defaultIcc)
    (balance : credits.toNat + session.sendsSinceLastCredit.toNat = defaultIcc.toNat) :
    credits ≠ 0 := by
  rintro rfl
  have below := standing.credits
  rw [icc, UInt32.lt_iff_toNat_lt] at below
  have quarter : (defaultIcc / 4).toNat < defaultIcc.toNat := by decide
  rw [UInt32.toNat_zero, Nat.zero_add] at balance
  omega

/-! ### Requests -/

section Request

variable {readings : Readings} {s : Standstill} {d : Direct} {verb : Verb} {frames : List Bytes}
  {finish' : RdowsMessage → Local VerbValue} {next : UInt32}

/-- While the server is gone, frames pile up. -/
theorem sends_gone (gone : s.server.running = false) (frames : List Bytes) :
    ∃ unhandled, frames.foldl (send readings) s = { s with unhandled } := by
  induction frames generalizing s with
  | nil => exact ⟨s.unhandled, rfl⟩
  | cons frame frames ih =>
      have same : s.send readings frame = _ := if_neg (by rw [gone]; exact Bool.false_ne_true)
      rw [List.foldl_cons, same]
      obtain ⟨unhandled, later⟩ := @ih { s with unhandled := s.unhandled ++ [frame] } gone
      exact ⟨unhandled, later⟩

theorem Sim.relink_eq (sim : Sim s d) (next : UInt32) (expected : Option UInt32)
    (credits : UInt32) :
    s.conn.relink next expected credits = d.conn.relink next expected credits := by
  obtain ⟨a, b, c, linked⟩ := sim.conn
  rw [linked]
  rfl

/-- A request to a server that is gone. -/
theorem Sim.request_gone (sim : Sim s d) (gone : d.running = false)
    (started : verb.start.start s.conn = .request frames { s.conn with nextSeq := next } finish') :
    Agree (s.perform readings verb) (.err (d.transport.lost d.calls), d) := by
  have stopped := sim.running.trans gone
  obtain ⟨unhandled, served⟩ := @sends_gone readings s stopped frames
  have absorbs := absorbs_nil s.transport s.conn.expectedRemoteSeq s.conn.sendCredits
  rw [← sim.drained gone] at absorbs
  rw [perform_lost absorbs started served, sim.transport, sim.calls]
  refine ⟨rfl, rfl, rfl, ⟨_, _, _, sim.relink_eq _ _ _⟩, sim.solvent, sim.running,
    ?_, ?_, ?_, fun _ => rfl⟩
  · exact fun present => by rw [gone] at present; cases present
  · exact fun present => by rw [gone] at present; cases present
  · exact fun present => by rw [gone] at present; cases present

/-- It is enough to follow a request while the server is there. -/
theorem Sim.request {α : Type} {x : Method Backend ErrorCode α}
    {finish : Except ErrorCode α → Local VerbValue} {k : ℕ} (sim : Sim s d)
    (started : verb.start.start s.conn = .request frames { s.conn with nextSeq := next } finish')
    (served : d.running = true → Agree (s.perform readings verb) (d.request k x finish)) :
    Agree (s.perform readings verb) (d.request k x finish) := by
  rcases presence : d.running with _ | _
  · rw [Direct.request, if_neg (by rw [presence]; exact Bool.false_ne_true)]
    exact sim.request_gone presence started
  · exact served presence

/-- A request during which the server goes. -/
theorem Sim.request_crash (sim : Sim s d) (present : d.running = true)
    (started : verb.start.start s.conn = .request frames { s.conn with nextSeq := next } finish')
    {server : ServerRun} {k : ℕ} (stopped : server.running = false)
    (served : frames.foldl (send readings) s = { s with server, handled := k }) :
    Agree (s.perform readings verb)
      (.err (d.transport.lost d.calls), { d with running := false }) := by
  have tuned := sim.tuned present
  obtain ⟨credits, balance, absorbs⟩ := tuned.absorbs
  rw [perform_lost absorbs started served, sim.transport, sim.calls]
  refine ⟨rfl, rfl, rfl, ⟨_, _, _, sim.relink_eq _ _ _⟩,
    solvent_of_balance tuned.standing tuned.icc balance, stopped, ?_, ?_, ?_, fun _ => rfl⟩
  · exact fun present => by cases present
  · exact fun present => by cases present
  · exact fun present => by cases present

/-- The answer is carried, and makes the verb do the same as the result that it conveys.  It is what
a handler's reply has to satisfy for its plan to stand for an operation. -/
structure Conveys (transport : Transport) (finish' : RdowsMessage → Local VerbValue)
    (finish : Local VerbValue) (r : Reply) : Prop where
  fits : ∀ sessionId n, (r.under sessionId n).WithinFormat
  within : ∀ sessionId n, transport.fits (r.under sessionId n).encode = true
  answer : ∀ sessionId n, (r.under sessionId n).isCreditUpdate = false
  returns : ∀ sessionId n c, (finish' (r.under sessionId n).canonical).run c = finish.run c

/-- Every transport carries a small reply. -/
theorem fits_of_small {r : Reply} (small : r.Small) (transport : Transport) (sessionId n : UInt32) :
    transport.fits (r.under sessionId n).encode = true := by
  rw [Transport.fits_encode]
  exact Transport.takes_of_le ((Nat.add_le_add_left (small.length _) headerSize).trans (by decide))

/-- A small answer. -/
theorem Conveys.of_small {transport : Transport} {finish : Local VerbValue} {r : Reply}
    (small : r.Small) (answer : ∀ sessionId n, (r.under sessionId n).isCreditUpdate = false)
    (returns : ∀ sessionId n c, (finish' (r.under sessionId n).canonical).run c = finish.run c) :
    Conveys transport finish' finish r :=
  ⟨Reply.withinFormat_under small, fits_of_small small transport, answer, returns⟩

/-- A request that is answered. -/
theorem Sim.request_answered (sim : Sim s d) (present : d.running = true)
    (started : verb.start.start s.conn = .request frames { s.conn with nextSeq := next } finish')
    {t : Session} {r : Reply} {k : ℕ} {finish : Local VerbValue} (standing : Standing t next .none)
    (size : t.maxMsgSize = defaultMaxMsgSize) (icc : t.icc = defaultIcc)
    (sends : t.sendsSinceLastCredit = s.server.session.sendsSinceLastCredit)
    (served : frames.foldl (send readings) s = { s with
      unread := s.unread ++ [(r.under t.sessionId s.server.session.nextSeq).encode]
      server := ⟨t.renumber (s.server.session.nextSeq + 1), true⟩
      handled := s.handled + k })
    (conveys : Conveys s.transport finish' finish r) (blind : Blind finish) :
    Agree (s.perform readings verb) (d.conclude k t.backend finish) := by
  obtain ⟨credits, balance, absorbs⟩ := (sim.tuned present).absorbs
  rw [perform_answered absorbs started served (conveys.fits _ _) (conveys.within _ _)
    (conveys.answer _ _)]
  dsimp only
  rw [conveys.returns, sim.relink_eq, blind]
  rw [← sends] at balance
  refine ⟨rfl, sim.transport, sim.calls, ⟨_, _, _, rfl⟩, solvent_of_balance standing icc balance,
    present.symm, fun _ => ⟨rfl, ?_, size, icc, credits, balance, ?_⟩,
    fun _ => rfl, fun _ => congrArg (· + k) (sim.handled present), fun gone => ?_⟩
  · exact ⟨standing.ready, standing.expects, standing.slot, standing.reads, standing.credits⟩
  · exact absorbs_nil _ _ _
  · cases present.symm.trans gone

/-- The plan does on a session what `x` does on its backend: it panics if `x` does, and otherwise
ends with an answer that conveys the result. -/
def Enacts {α : Type} (transport : Transport) (finish' : RdowsMessage → Local VerbValue)
    (finish : Except ErrorCode α → Local VerbValue) (t : Session) (plan : Plan) :
    Outcome ErrorCode α × Backend → Prop
  | (.ok a, backend) => ∃ r, plan = .answer (t.withBackend backend) r ∧
      Conveys transport finish' (finish (.ok a)) r
  | (.err code, backend) => ∃ r, plan = .answer (t.withBackend backend) r ∧
      Conveys transport finish' (finish (.error code)) r
  | (.panic _, _) => ∃ p u, plan = .crash p u

/-- The frame with the next number is in step. -/
theorem Tuned.inStep (tuned : s.Tuned) {m m' : RdowsMessage} (arrives : Arrives m m')
    (numbered : m.header.sequence = s.conn.nextSeq)
    (size : m.encodePayload.length ≤ defaultMaxMsgSize.toNat)
    (within : s.transport.takes (headerSize + m.encodePayload.length) = true) : InStep s m m' :=
  ⟨tuned.running, tuned.standing.ready, by rw [numbered]; exact tuned.standing.expects, arrives,
    by rw [Transport.fits_encode]; exact within, by rw [tuned.size]; exact size⟩

/-- A payload of this length is no larger than negotiated, and the transport takes its frame. -/
def Carries (s : Standstill) (payload : ℕ) : Prop :=
  payload ≤ defaultMaxMsgSize.toNat ∧ s.transport.takes (headerSize + payload) = true

theorem Sim.carries (sim : Sim s d) {payload : ℕ} (carried : d.Carries payload) :
    s.Carries payload := by
  rw [Carries, sim.transport]
  exact carried

theorem Carries.inStep {payload : ℕ} (carried : s.Carries payload) (tuned : s.Tuned)
    {m m' : RdowsMessage} (arrives : Arrives m m') (numbered : m.header.sequence = s.conn.nextSeq)
    (length : m.encodePayload.length = payload) : InStep s m m' := by
  subst length
  exact tuned.inStep arrives numbered carried.1 carried.2

/-- **A request whose last frame is answered.** The frames before it are taken in, so the whole
request is the plan of the last one. -/
theorem Sim.request_last {α : Type} (sim : Sim s d) (present : d.running = true) (init : List Bytes)
    {m m' : RdowsMessage} {x : Method Backend ErrorCode α}
    {finish : Except ErrorCode α → Local VerbValue} {u : ServerRun} {j : ℕ} {t : Session}
    (started : verb.start.start s.conn
      = .request (init ++ [m.encode]) { s.conn with nextSeq := next } finish')
    (taken : init.foldl (send readings) s = { s with server := u, handled := s.handled + j })
    (inStep : InStep { s with server := u, handled := s.handled + j } m m')
    (number : u.session.nextSeq = s.server.session.nextSeq)
    (standing : Standing t next .none) (size : t.maxMsgSize = defaultMaxMsgSize)
    (icc : t.icc = defaultIcc)
    (sends : t.sendsSinceLastCredit = s.server.session.sendsSinceLastCredit)
    (enacts : Enacts s.transport finish' finish t ((u.session.accepting m').planDispatch
      (readings (s.handled + j)).1 (readings (s.handled + j)).2 m') (x.run d.backend))
    (blind : ∀ result, Blind (finish result)) :
    Agree (s.perform readings verb) (d.request (j + 1) x finish) := by
  -- a value and an error code are both carried by a reply, which the client turns into the same
  have answered {backend : Backend} {result : Except ErrorCode α}
      (answers : ∃ r, (u.session.accepting m').planDispatch (readings (s.handled + j)).1
          (readings (s.handled + j)).2 m' = .answer (t.withBackend backend) r ∧
        Conveys s.transport finish' (finish result) r) :
      Agree (s.perform readings verb) (d.conclude (j + 1) backend (finish result)) := by
    obtain ⟨r, plans, conveys⟩ := answers
    refine sim.request_answered (t := t.withBackend backend) (r := r) present started
      ⟨standing.ready, standing.expects, standing.slot, standing.reads, standing.credits⟩ size icc
      sends ?_ conveys (blind result)
    rw [List.foldl_append, taken, List.foldl_cons, List.foldl_nil,
      inStep.send_ok plans rfl standing.ready]
    dsimp only
    rw [number]
    rfl
  rw [Direct.request, if_pos present]
  rcases result : x.run d.backend with ⟨a | code | p, backend⟩ <;> rw [result] at enacts
  · exact answered enacts
  · exact answered enacts
  · obtain ⟨p, u, plans⟩ := enacts
    obtain ⟨server, stopped, served⟩ := inStep.send_crash plans
    refine sim.request_crash (k := s.handled + j + 1) present started stopped ?_
    rw [List.foldl_append, taken, List.foldl_cons, List.foldl_nil, served]

/-- A request of one frame. -/
theorem Sim.request_single {α : Type} (sim : Sim s d) {m m' : RdowsMessage}
    {x : Method Backend ErrorCode α} {finish : Except ErrorCode α → Local VerbValue}
    (started : verb.start.start s.conn = .request [m.encode] s.conn.bump finish')
    (arrives : Arrives m m') (numbered : m.header.sequence = s.conn.nextSeq)
    (small : m.encodePayload.length ≤ 104)
    (enacts : ∀ t : Session, t.outstandingReads = 0 → t.backend = d.backend →
      Enacts d.transport finish' finish t
        (t.planDispatch (readings d.handled).1 (readings d.handled).2 m') (x.run t.backend))
    (blind : ∀ result, Blind (finish result)) :
    Agree (s.perform readings verb) (d.request 1 x finish) := by
  refine sim.request started fun present => ?_
  have tuned := sim.tuned present
  have same : (s.server.session.accepting m').backend = d.backend := sim.backend present
  have enacts := enacts (s.server.session.accepting m') tuned.standing.reads same
  rw [← sim.handled present, ← sim.transport, same] at enacts
  have within : s.transport.takes (headerSize + m.encodePayload.length) = true :=
    Transport.takes_of_le (Nat.add_le_add_left small headerSize)
  refine sim.request_last (t := s.server.session.accepting m') present [] started rfl
    (tuned.inStep arrives numbered (small.trans (by decide)) within) rfl
    ⟨tuned.standing.ready, ?_, tuned.standing.slot, tuned.standing.reads, tuned.standing.credits⟩
    tuned.size tuned.icc rfl enacts blind
  show some (m'.header.sequence + 1) = _
  rw [arrives.header]
  exact congrArg (fun n => some (n + 1)) numbered

end Request

/-! ### Plans and operations -/

section Enacts

variable {α : Type} {finish' : RdowsMessage → Local VerbValue}
  {finish : Except ErrorCode α → Local VerbValue} {t : Session} {transport : Transport}

/-- A plan that calls the store and answers with the result. -/
theorem enacts_calling {x : Method MemoryStore ErrorCode α}
    {next : Except ErrorCode α → Session → Plan}
    (conveys : ∀ result, (x.run t.memoryStore).1 = .ofExcept result →
      ∃ r, (∀ u, next result u = .answer u r) ∧ Conveys transport finish' (finish result) r) :
    Enacts transport finish' finish t (t.calling x next) ((Backend.onStore x).run t.backend) := by
  rw [Session.calling, Backend.run_onStore, show t.backend.memoryStore = t.memoryStore from rfl]
  rcases called : x.run t.memoryStore with ⟨a | code | p, store⟩ <;> rw [called] at conveys
  · obtain ⟨r, answers, conveys⟩ := conveys (.ok a) rfl
    exact ⟨r, answers _, conveys⟩
  · obtain ⟨r, answers, conveys⟩ := conveys (.error code) rfl
    exact ⟨r, answers _, conveys⟩
  · exact ⟨_, _, rfl⟩

/-- Refusals of the store name an error: the status of the acknowledgement is not that of
success. -/
theorem register_refuses {draws : ℕ → UInt32} {pd : ProtectionDomain} {flags : AccessFlags}
    {len : UInt64} {store : MemoryStore} {code : ErrorCode}
    (refused : ((MemoryStore.register draws pd flags len).run store).1 = .err code) :
    code.toU16 ≠ 0 := by
  have ends := MemoryStore.register_spec draws pd flags len store
  generalize (MemoryStore.register draws pd flags len).run store = out at ends refused
  cases ends with
  | regionLimit full => cases refused; decide
  | overQuota beyond => cases refused; decide
  | noFreshKey next => cases refused; decide
  | _ => cases refused

@[inherit_doc register_refuses]
theorem deregister_refuses {pd : ProtectionDomain} {lkey : LKey} {store : MemoryStore}
    {code : ErrorCode} (refused : ((MemoryStore.deregister pd lkey).run store).1 = .err code) :
    code.toU16 ≠ 0 := by
  have ends := MemoryStore.deregister_spec pd lkey store
  generalize (MemoryStore.deregister pd lkey).run store = out at ends refused
  cases ends with
  | unknown absent => cases refused; decide
  | wrongDomain entry found other => cases refused; decide
  | _ => cases refused

theorem refreshed_eq_withBackend (t : Session) (now : ℕ) :
    t.refreshed now = t.withBackend (t.backend.refreshed now) := by
  rw [Session.refreshed, Backend.refreshed]
  show (if mrRegWindow ≤ now - t.mrRegWindowStart then _ else _)
    = t.withBackend (if mrRegWindow ≤ now - t.mrRegWindowStart then _ else _)
  split <;> rfl

/-- The plan of `handle_mr_reg`. -/
theorem enacts_planMrReg {now : ℕ} {draws : ℕ → UInt32} {wrid : UInt64} {payload : MrRegPayload}
    {finish : Except ErrorCode (LKey × RKey) → Local VerbValue}
    (granted : ∀ lkey rkey, Conveys transport finish' (finish (.ok (lkey, rkey)))
      (.mrRegAck wrid { pd := payload.pd, lkey, rkey, status := 0 }))
    (refused : ∀ code : ErrorCode, code.toU16 ≠ 0 → Conveys transport finish' (finish (.error code))
      (.mrRegAck wrid { pd := payload.pd, lkey := ⟨0⟩, rkey := ⟨0⟩, status := code.toU16 })) :
    Enacts transport finish' finish t (t.planMrReg now draws wrid payload)
      ((Backend.register now draws payload.pd payload.accessFlags payload.regionLen).run
        t.backend) := by
  rw [Session.planMrReg, refreshed_eq_withBackend, Backend.run_register]
  generalize t.backend.refreshed now = b
  show Enacts transport finish' finish t
    (if b.mrRegRateLimit ≤ b.mrRegCount then .answer (t.withBackend b) _
      else (t.withBackend { b with mrRegCount := b.mrRegCount + 1 }).calling _ _)
    (if b.mrRegRateLimit ≤ b.mrRegCount then _ else _)
  split_ifs
  · exact ⟨_, rfl, refused .errInternal (by decide)⟩
  · refine enacts_calling (t := t.withBackend { b with mrRegCount := b.mrRegCount + 1 })
      fun result ran => ?_
    cases result with
    | ok keys => exact ⟨_, fun _ => rfl, granted keys.1 keys.2⟩
    | error code => exact ⟨_, fun _ => rfl, refused code (register_refuses ran)⟩

/-- The plan of `handle_mr_dereg`. -/
theorem enacts_planMrDereg {wrid : UInt64} {payload : MrDeregPayload}
    {finish : Except ErrorCode Unit → Local VerbValue}
    (granted : Conveys transport finish' (finish (.ok ())) (.mrDeregAck wrid { status := 0 }))
    (refused : ∀ code : ErrorCode, code.toU16 ≠ 0 → Conveys transport finish' (finish (.error code))
      (.mrDeregAck wrid { status := code.toU16 })) :
    Enacts transport finish' finish t (t.planMrDereg wrid payload)
      ((Backend.onStore (MemoryStore.deregister payload.pd payload.lkey)).run t.backend) := by
  refine enacts_calling fun result ran => ?_
  cases result with
  | ok done => exact ⟨_, fun _ => rfl, granted⟩
  | error code => exact ⟨_, fun _ => rfl, refused code (deregister_refuses ran)⟩

/-- The plan of `handle_read_req`. -/
theorem enacts_planReadReq {header : RdowsHeader} {payload : ReadReqPayload}
    {finish : Except ErrorCode Bytes → Local VerbValue} (reads : t.outstandingReads = 0)
    (returned : ∀ data, t.memoryStore.readRegion payload.rkey payload.remoteVa payload.readLen
        = .ok data →
      Conveys transport finish' (finish (.ok data))
        (.readResp header.wrid { fragmentOffset := 0, data }))
    (refused : ∀ errorCode description, (utf8Bytes description).length ≤ 47 →
      Conveys transport finish' (finish (.error errorCode))
        (.error { errorCode, failingSeq := header.sequence, description })) :
    Enacts transport finish' finish t (t.planReadReq header payload)
      ((Backend.read payload.rkey payload.remoteVa payload.readLen).run t.backend) := by
  have none : t.maxOutstandingReads ≤ t.outstandingReads ↔ t.maxOutstandingReads = 0 := by
    rw [reads]
    exact UInt32.le_zero_iff
  rw [Session.planReadReq, Backend.read, Method.run_bind_of_ok (Method.run_get _), Method.run_ite]
  show Enacts _ _ _ _ _ (if t.maxOutstandingReads = 0 then _ else _)
  simp only [none]
  split_ifs
  · exact ⟨_, rfl, refused _ _ (by decide)⟩
  · rw [show t.backend.memoryStore = t.memoryStore from rfl]
    rcases read : t.memoryStore.readRegion payload.rkey payload.remoteVa payload.readLen
      with data | code | p
    · exact ⟨_, rfl, returned data read⟩
    · exact ⟨_, rfl, refused _ _ (by decide)⟩
    · exact ⟨_, _, rfl⟩

/-- The plan of `handle_atomic_req`, for the atomics that there are. -/
theorem enacts_planAtomicReq {header : RdowsHeader} {payload : AtomicReqPayload}
    {finish : Except ErrorCode UInt64 → Local VerbValue}
    (known : payload.atomicType = atomicTypeCas ∨ payload.atomicType = atomicTypeFaa)
    (returned : ∀ original, Conveys transport finish' (finish (.ok original))
      (.atomicResp header.wrid { originalValue := original, status := 0 }))
    (refused : ∀ errorCode description, (utf8Bytes description).length ≤ 47 →
      Conveys transport finish' (finish (.error errorCode))
        (.error { errorCode, failingSeq := header.sequence, description })) :
    Enacts transport finish' finish t (t.planAtomicReq header payload)
      ((Backend.onStore (MemoryStore.atomicOp payload.rkey payload.remoteVa payload.atomicType
        payload.operand1 payload.operand2)).run t.backend) := by
  rw [Session.planAtomicReq, if_neg (by tauto)]
  refine enacts_calling fun result _ => ?_
  cases result with
  | ok original => exact ⟨_, fun _ => rfl, returned original⟩
  | error code => exact ⟨_, fun _ => rfl, refused code "" (by decide)⟩

/-- The plan of `handle_write`, for an R_Key that may be used. -/
theorem planWrite_of_valid {header : RdowsHeader} {payload : WritePayload}
    (valid : (t.memoryStore.validateRkey payload.rkey .remoteWrite).IsOk) :
    t.planWrite header payload = .done { t with
      pendingOp := .awaitingWriteData header.wrid payload.rkey payload.remoteVa
        payload.length } := by
  unfold Session.planWrite
  generalize t.memoryStore.validateRkey payload.rkey .remoteWrite = validated at valid
  rcases validated with key | code | p
  · rfl
  · exact absurd valid id
  · exact absurd valid id

/-- The plan of `handle_write_data`, for data that is waited for. -/
theorem enacts_planWriteData {finish : Except ErrorCode Unit → Local VerbValue} {wrid : UInt64}
    {rkey : RKey} {remoteVa len : UInt64} {payload : DataPayload}
    (slot : t.pendingOp = .awaitingWriteData wrid rkey remoteVa len)
    (written : Conveys transport finish' (finish (.ok ())) (.writeComp wrid))
    (refused : ∀ errorCode description, (utf8Bytes description).length ≤ 47 →
      Conveys transport finish' (finish (.error errorCode))
        (.error { errorCode, failingSeq := 0, description })) :
    Enacts transport finish' finish { t with pendingOp := .none } (t.planWriteData payload)
      ((Backend.onStore (MemoryStore.writeRegion rkey remoteVa payload.data)).run t.backend) := by
  rw [Session.planWriteData, slot]
  refine enacts_calling (t := { t with pendingOp := .none }) fun result _ => ?_
  cases result with
  | ok done => exact ⟨_, fun _ => rfl, written⟩
  | error code => exact ⟨_, fun _ => rfl, refused code "" (by decide)⟩

/-- The plan of `handle_send_data`, for data that is thrown away. -/
theorem planSendData_discarding (slot : t.pendingOp = .discardingSendData) :
    t.planSendData = .done { t with pendingOp := .none } := by
  rw [Session.planSendData, slot]

/-- The plan of `handle_send_data`, for data that is waited for. -/
theorem planSendData_awaiting {wrid : UInt64} (slot : t.pendingOp = .awaitingSendData wrid) :
    t.planSendData = .reply { t with pendingOp := .none } (.recvComp wrid)
      (Session.planCredits { t with pendingOp := .none }) := by
  rw [Session.planSendData, slot]

/-- A SEND is counted; once a quarter of the credits is used up, they are given back. -/
theorem planCredits_of_lt (below : t.sendsSinceLastCredit < t.icc / 4) :
    t.planCredits = if t.icc / 4 ≤ t.sendsSinceLastCredit + 1 then
        .reply { t with sendsSinceLastCredit := t.sendsSinceLastCredit + 1 }
          (.creditUpdate { creditIncrement := t.sendsSinceLastCredit + 1 })
          (.done { t with sendsSinceLastCredit := 0 })
      else .done { t with sendsSinceLastCredit := t.sendsSinceLastCredit + 1 } := by
  have room : t.sendsSinceLastCredit.toNat + 1 < 2 ^ 32 :=
    Nat.lt_of_le_of_lt (UInt32.lt_iff_toNat_lt.mp below) (t.icc / 4).toNat_lt
  have counted : checkedAdd32 t.sendsSinceLastCredit 1 = some (t.sendsSinceLastCredit + 1) :=
    if_pos room
  rw [Session.planCredits, counted]

end Enacts

/-! ### Acknowledgements -/

open RdowsConnection in
/-- The acknowledgement of a registration.  The source allocates the buffer twice. -/
theorem onMrRegAck_granted (regionLen : UInt64) (header : RdowsHeader) (pd : ProtectionDomain)
    (lkey : LKey) (rkey : RKey) (c : RdowsConnection) :
    ((onMrRegAck regionLen (.mrRegAck header { pd, lkey, rkey, status := 0 })).mapValue
      VerbValue.handle).run c = (granted lkey rkey regionLen).run c := by
  rw [onMrRegAck, if_neg (by exact not_not.mpr rfl), granted]
  rcases (zeroed regionLen.toNat : Outcome RdowsError Bytes) with localBuf | e | p <;> rfl

open RdowsConnection in
theorem onMrRegAck_refused {code : ErrorCode} (refused : code.toU16 ≠ 0) (regionLen : UInt64)
    (header : RdowsHeader) (pd : ProtectionDomain) (lkey : LKey) (rkey : RKey)
    (c : RdowsConnection) :
    ((onMrRegAck regionLen (.mrRegAck header { pd, lkey, rkey, status := code.toU16 })).mapValue
      VerbValue.handle).run c = (.err (.protocol code), c) := by
  rw [onMrRegAck, if_pos (by exact refused), statusError, ErrorCode.tryFromOrInternal_toU16]
  rfl

open RdowsConnection in
theorem onMrDeregAck_refused {code : ErrorCode} (refused : code.toU16 ≠ 0) (lkey : LKey)
    (header : RdowsHeader) (c : RdowsConnection) :
    ((onMrDeregAck lkey (.mrDeregAck header { status := code.toU16 })).mapValue
      fun _ => VerbValue.unit).run c = (.err (.protocol code), c) := by
  rw [onMrDeregAck, if_pos (by exact refused), statusError, ErrorCode.tryFromOrInternal_toU16]
  rfl

open RdowsConnection in
theorem onReadResp_returned (wrid : UInt64) (localLkey : LKey) (localVa : UInt64)
    (header : RdowsHeader) (fragmentOffset : UInt64) (data : Bytes) (c : RdowsConnection) :
    ((onReadResp wrid localLkey localVa (.readResp header { fragmentOffset, data })).mapValue
      fun _ => VerbValue.unit).run c
      = (completes wrid .readReq (fun data => UInt32.ofNat data.length) (fun data => do
          copyToLocalMr localLkey localVa.toNat data
          return .unit) (.ok data)).run c := by
  rw [onReadResp, completes, Method.run_mapValue]
  simp only [Method.run_bind]
  rcases (copyToLocalMr localLkey localVa.toNat data).run c with ⟨_ | e | p, c'⟩ <;> rfl

/-! ### Requests of one frame -/

section Single

variable {readings : Readings} {s : Standstill} {d : Direct}

theorem Sim.pd_eq (sim : Sim s d) : s.conn.pd = d.conn.pd := by
  obtain ⟨_, _, _, linked⟩ := sim.conn
  rw [linked]
  rfl

theorem Sim.cq_eq (sim : Sim s d) : s.conn.cq = d.conn.cq := by
  obtain ⟨_, _, _, linked⟩ := sim.conn
  rw [linked]
  rfl

theorem Sim.gatherSgData_eq (sim : Sim s d) (sgList : List ScatterGatherEntry) :
    s.conn.gatherSgData sgList = d.conn.gatherSgData sgList := by
  obtain ⟨_, _, _, linked⟩ := sim.conn
  rw [linked]
  induction sgList with
  | nil => rfl
  | cons sg rest ih =>
      rw [RdowsConnection.gatherSgData, ih]
      rfl

theorem Sim.regMr (sim : Sim s d) (accessFlags : AccessFlags) (regionLen : UInt64) :
    Agree (s.perform readings (.regMr accessFlags regionLen))
      (d.perform readings (.regMr accessFlags regionLen)) := by
  have small (ack : MrRegAckPayload) : (Reply.mrRegAck 0 ack).Small := by
    refine ⟨nofun, fun _ => ?_⟩
    show (MrRegAckPayload.encode _).length ≤ 57
    simp
  refine sim.request_single (Verb.start_regMr s.conn accessFlags regionLen)
    (Network.arrives_canonical rfl rfl rfl) rfl ?_ (fun t _ _ => ?_) fun result => ?_
  · show (MrRegPayload.encode _).length ≤ _
    rw [MrRegPayload.length_encode, if_neg (by exact Bool.false_ne_true)]
    decide
  · rw [← sim.pd_eq]
    refine enacts_planMrReg (fun lkey rkey => ?_) fun code refused => ?_
    · refine .of_small (small _) (fun _ _ => rfl) fun _ _ c => ?_
      exact onMrRegAck_granted _ _ _ _ _ c
    · refine .of_small (small _) (fun _ _ => rfl) fun _ _ c => ?_
      exact onMrRegAck_refused refused _ _ _ _ _ c
  · cases result with
    | ok keys => exact .granted keys.1 keys.2 regionLen
    | error code => exact .throw _

theorem Sim.deregMr (sim : Sim s d) (lkey : LKey) :
    Agree (s.perform readings (.deregMr lkey)) (d.perform readings (.deregMr lkey)) := by
  have small (ack : MrDeregAckPayload) : (Reply.mrDeregAck 0 ack).Small := by
    refine ⟨nofun, fun _ => ?_⟩
    show (MrDeregAckPayload.encode _).length ≤ 57
    simp
  refine sim.request_single (m := .mrDereg (s.conn.headerFor .mrDereg 0) { pd := s.conn.pd, lkey })
    (show (Verb.deregMr lkey).start.start s.conn = .request _ _ fun m =>
      (RdowsConnection.onMrDeregAck lkey m).mapValue fun _ => .unit from rfl)
    (Network.arrives_canonical rfl rfl rfl) rfl ?_ (fun t _ _ => ?_) fun result => ?_
  · show (MrDeregPayload.encode _).length ≤ _
    rw [MrDeregPayload.length_encode]
    decide
  · rw [← sim.pd_eq]
    refine enacts_planMrDereg ?_ fun code refused => ?_
    · exact .of_small (small _) (fun _ _ => rfl) fun _ _ _ => rfl
    · refine .of_small (small _) (fun _ _ => rfl) fun _ _ c => ?_
      exact onMrDeregAck_refused refused _ _ c
  · cases result with
    | ok done => exact .released lkey
    | error code => exact .throw _

/-- The opening checks of a work request, in the order of the source: room in the queue, then the
data. -/
def opens {α β : Type} (c : RdowsConnection) (gathered : Outcome RdowsError α)
    (talk : α → Talk RdowsConnection RdowsError Bytes RdowsMessage β) :
    Talk RdowsConnection RdowsError Bytes RdowsMessage β :=
  if c.cq.isFull then .done (.err (.protocol .errCqOverflow)) c
  else match gathered with
    | .ok a => talk a
    | .err e => .done (.err e) c
    | .panic p => .done (.panic p) c

/-- **The opening checks** refuse on both sides, or on none: a full completion queue and a list that
cannot be gathered end the call before it sends anything, with the same result. -/
theorem Sim.working {verb : Verb} {α β : Type} {f : β → VerbValue} {gathered : Outcome RdowsError α}
    {talk : α → Talk RdowsConnection RdowsError Bytes RdowsMessage β}
    {next : α → Outcome RdowsError VerbValue × Direct} (sim : Sim s d)
    (started : verb.start.start s.conn = Talk.map f (opens s.conn gathered talk))
    (goesOn : ∀ a, gathered = .ok a → verb.start.start s.conn = (talk a).map f →
      Agree (s.perform readings verb) (next a)) :
    Agree (s.perform readings verb) (d.working gathered next) := by
  have refused {out : Outcome RdowsError VerbValue}
      (ended : verb.start.start s.conn = .done out s.conn) :
      Agree (s.perform readings verb) (out, d) := by
    rw [perform, ended]
    exact ⟨rfl, sim⟩
  unfold opens at started
  unfold Direct.working
  rw [← sim.cq_eq]
  split_ifs with full
  · rw [if_pos full] at started
    exact refused started
  · rw [if_neg full] at started
    rcases gathered with a | e | p
    · exact goesOn a rfl started
    · exact refused started
    · exact refused started

theorem Sim.rdmaRead (sim : Sim s d) (wrid : UInt64) (rkey : RKey) (remoteVa readLen : UInt64)
    (localLkey : LKey) (localVa : UInt64)
    (admits : d.Admits (.rdmaRead wrid rkey remoteVa readLen localLkey localVa)) :
    Agree (s.perform readings (.rdmaRead wrid rkey remoteVa readLen localLkey localVa))
      (d.perform readings (.rdmaRead wrid rkey remoteVa readLen localLkey localVa)) := by
  have opening : (RdowsConnection.rdmaRead wrid rkey remoteVa readLen localLkey localVa).start
      s.conn = opens s.conn (.ok ()) fun _ => .request _ _ _ :=
    s.conn.rdmaRead_start wrid rkey remoteVa readLen localLkey localVa
  refine sim.working (congrArg (Talk.map fun _ => VerbValue.unit) opening) fun _ _ started => ?_
  rw [Talk.map_request] at started
  refine sim.request_single started (Network.arrives_canonical rfl rfl rfl) rfl ?_
    (fun t reads same => ?_) fun result => ?_
  · show (ReadReqPayload.encode _).length ≤ _
    rw [ReadReqPayload.length_encode]
    decide
  · refine enacts_planReadReq reads (fun data read => ?_) fun code text short => ?_
    · have store : t.memoryStore = d.backend.memoryStore := congrArg Backend.memoryStore same
      rw [store] at read
      -- the response is as long as the data, so the condition on the run must say that it is
      -- carried
      obtain ⟨fits, taken⟩ := admits data read
      refine ⟨fun _ _ => .of_header rfl rfl ?_, fun _ _ => ?_, fun _ _ => rfl, fun _ _ c => ?_⟩
      · show (ReadRespPayload.encode _).length < _
        rw [ReadRespPayload.length_encode]
        exact fits
      · rw [Transport.fits_encode]
        show d.transport.takes (headerSize + (ReadRespPayload.encode _).length) = true
        rw [ReadRespPayload.length_encode]
        exact taken
      · exact onReadResp_returned _ _ _ _ _ _ c
    · exact .of_small (Reply.small_error short) (fun _ _ => rfl) fun _ _ _ => rfl
  · exact .completes _ _ _ (fun data => .bind (.copyToLocalMr _ _ _) fun _ => .pure _) result

/-- An atomic, of a type that there is. -/
theorem Sim.postAtomic {verb : Verb} {wrid : UInt64} {rkey : RKey} {remoteVa : UInt64}
    {atomicType : UInt8} {operand1 operand2 : UInt64} (sim : Sim s d)
    (isAtomic : verb.start = (RdowsConnection.postAtomic wrid rkey remoteVa atomicType operand1
      operand2).mapValue .original)
    (known : atomicType = atomicTypeCas ∨ atomicType = atomicTypeFaa) :
    Agree (s.perform readings verb) (d.working (.ok ()) fun _ => d.request 1
      (Backend.onStore (MemoryStore.atomicOp rkey remoteVa atomicType operand1 operand2))
      (RdowsConnection.completes wrid .atomicReq (fun _ => 8) fun original =>
        return .original original)) := by
  have opening : (RdowsConnection.postAtomic wrid rkey remoteVa atomicType operand1 operand2).start
      s.conn = opens s.conn (.ok ()) fun _ => .request _ _ _ :=
    s.conn.postAtomic_start wrid rkey remoteVa atomicType operand1 operand2
  refine sim.working ((congrArg (Agent.start · s.conn) isAtomic).trans
    (congrArg (Talk.map VerbValue.original) opening)) fun _ _ started => ?_
  rw [Talk.map_request] at started
  refine sim.request_single started (Network.arrives_canonical rfl rfl rfl) rfl ?_
    (fun t _ _ => ?_) fun result => ?_
  · show (AtomicReqPayload.encode _).length ≤ _
    rw [AtomicReqPayload.length_encode]
    decide
  · refine enacts_planAtomicReq known (fun original => ?_) fun code text short => ?_
    · refine .of_small ⟨nofun, fun _ => ?_⟩ (fun _ _ => rfl) fun _ _ _ => rfl
      show (AtomicRespPayload.encode _).length ≤ 57
      simp
    · exact .of_small (Reply.small_error short) (fun _ _ => rfl) fun _ _ _ => rfl
  · exact .completes _ _ _ (fun original => .pure _) result

end Single

/-! ### Requests of two frames -/

section Pair

variable {readings : Readings} {s : Standstill} {d : Direct}

/-- The server takes a WRITE in, and waits for its data. -/
theorem Tuned.send_write (tuned : s.Tuned) {rkey : RKey} {sgList : List ScatterGatherEntry}
    (carried : s.Carries (WritePayload.writeHeaderSize + sgList.length * sgEntrySize))
    (valid : (s.server.session.memoryStore.validateRkey rkey .remoteWrite).IsOk)
    (wrid remoteVa len : UInt64) :
    s.send readings (RdowsMessage.write (s.conn.headerFor .write wrid)
        { rkey, remoteVa, length := len, sgList }).encode =
      { s with
        server := ⟨{ s.server.session with
          expectedRemoteSeq := some (s.conn.nextSeq + 1)
          pendingOp := .awaitingWriteData wrid rkey remoteVa len }, true⟩
        handled := s.handled + 1 } := by
  refine Eq.trans ((carried.inStep tuned (Network.arrives_canonical rfl rfl rfl) rfl ?_).send_ok
    (planWrite_of_valid valid) rfl tuned.standing.ready) ?_
  · exact WritePayload.length_encode _
  · show { s with unread := s.unread ++ [], server := _, handled := _ } = _
    rw [List.append_nil]
    rfl

theorem Sim.rdmaWrite (sim : Sim s d) (wrid : UInt64) (rkey : RKey) (remoteVa : UInt64)
    (sgList : List ScatterGatherEntry) (admits : d.Admits (.rdmaWrite wrid rkey remoteVa sgList)) :
    Agree (s.perform readings (.rdmaWrite wrid rkey remoteVa sgList))
      (d.perform readings (.rdmaWrite wrid rkey remoteVa sgList)) := by
  have opening : (RdowsConnection.rdmaWrite wrid rkey remoteVa sgList).start s.conn
      = opens s.conn (d.conn.gatherSgData sgList) fun data => .request
        [(RdowsMessage.write (s.conn.headerFor .write wrid)
            { rkey, remoteVa, length := UInt64.ofNat data.length, sgList }).encode,
          (RdowsMessage.writeData (s.conn.bump.headerFor .writeData wrid) { data }).encode]
        s.conn.bump.bump (RdowsConnection.onWriteComp wrid (UInt64.ofNat data.length)) := by
    rw [s.conn.rdmaWrite_start, sim.gatherSgData_eq]
    rcases d.conn.gatherSgData sgList with data | e | p <;> rfl
  refine sim.working (congrArg (Talk.map fun _ => VerbValue.unit) opening)
    fun data gathered started => ?_
  rw [Talk.map_request] at started
  obtain ⟨list, bytes, valid⟩ := admits data gathered
  refine sim.request started fun present => ?_
  have tuned := sim.tuned present
  have same := sim.backend present
  rw [← same] at valid
  -- the WRITE is taken without a reply, since its key is valid; the data is the frame that is
  -- answered
  refine sim.request_last
    (t := { s.server.session with
      expectedRemoteSeq := some (s.conn.nextSeq + 1 + 1), pendingOp := .none })
    present [_] started (tuned.send_write (sim.carries list) valid wrid remoteVa _)
    ⟨rfl, tuned.standing.ready, rfl, Network.arrives_canonical rfl rfl rfl, ?_, ?_⟩ rfl
    ⟨tuned.standing.ready, rfl, rfl, tuned.standing.reads, tuned.standing.credits⟩
    tuned.size tuned.icc rfl ?_ ?_
  · rw [Transport.fits_encode]
    exact (sim.carries bytes).2
  · show data.length ≤ s.server.session.maxMsgSize.toNat
    rw [tuned.size]
    exact bytes.1
  · rw [← same]
    refine enacts_planWriteData (t := { s.server.session with
      expectedRemoteSeq := some (s.conn.nextSeq + 1 + 1)
      pendingOp := .awaitingWriteData wrid rkey remoteVa (UInt64.ofNat data.length) }) rfl ?_
      fun code text short => ?_
    · exact .of_small ⟨nofun, fun _ => Nat.zero_le _⟩ (fun _ _ => rfl) fun _ _ _ => rfl
    · exact .of_small (Reply.small_error short) (fun _ _ => rfl) fun _ _ _ => rfl
  · exact RdowsConnection.Blind.completes _ _ _ fun _ => .pure _

open RdowsConnection in
/-- The end of a SEND that was received uses up a credit. -/
theorem onRecvComp_received (wrid : UInt64) (totalLen : UInt32) (header : RdowsHeader)
    (c : RdowsConnection) (next : UInt32) (expected : Option UInt32) {credits : UInt32}
    (solvent : credits ≠ 0) :
    ((onRecvComp wrid totalLen (.recvComp header)).mapValue fun _ => VerbValue.unit).run
        (c.relink next expected credits)
      = (completes wrid .send (fun _ => totalLen) (fun _ => return .unit) (.ok ())).run
          (c.relink next expected (credits - 1)) := by
  have less : checkedSub32 credits 1 = some (credits - 1) :=
    if_pos (Nat.pos_of_ne_zero fun zero => solvent (UInt32.toNat_inj.mp zero))
  rw [Method.run_mapValue, onRecvComp, Method.run_bind_of_ok (Method.run_get _),
    show (c.relink next expected credits).sendCredits = credits from rfl, less]
  rfl

/-- **A SEND that is received.** The RECV_COMP costs the client a credit; behind it there may be a
CREDIT_UPDATE, which this call leaves unread and the next one absorbs. -/
theorem Sim.request_received (sim : Sim s d) (present : d.running = true) {verb : Verb}
    {wrid : UInt64} {totalLen next credits credits' : UInt32} {frames more : List Bytes}
    {t : Session} {k : ℕ}
    (started : verb.start.start s.conn = .request frames { s.conn with nextSeq := next } fun m =>
      (RdowsConnection.onRecvComp wrid totalLen m).mapValue fun _ => .unit)
    (absorbs : Absorbs s.transport s.unread s.conn.expectedRemoteSeq s.conn.sendCredits
      (some s.server.session.nextSeq) credits)
    (served : frames.foldl (send readings) s = { s with
      unread := s.unread ++ ((Reply.recvComp wrid).under t.sessionId
        s.server.session.nextSeq).encode :: more
      server := ⟨t, true⟩
      handled := s.handled + k })
    (standing : Standing t next .none) (size : t.maxMsgSize = defaultMaxMsgSize)
    (icc : t.icc = defaultIcc) (first : credits ≠ 0) (solvent : credits - 1 ≠ 0)
    (balance : credits'.toNat + t.sendsSinceLastCredit.toNat = defaultIcc.toNat)
    (left : Absorbs s.transport more (some (s.server.session.nextSeq + 1)) (credits - 1)
      (some t.nextSeq) credits') :
    Agree (s.perform readings verb) (d.conclude k t.backend
      (RdowsConnection.completes wrid .send (fun _ => totalLen) (fun _ => return .unit)
        (.ok ()))) := by
  have blind := RdowsConnection.Blind.completes wrid .send (fun _ => totalLen)
    (fun _ : Unit => .pure VerbValue.unit) (.ok ())
  have small : (Reply.recvComp wrid).Small := ⟨nofun, fun _ => Nat.zero_le _⟩
  rw [perform_answered absorbs started served (.of_header rfl rfl (Nat.two_pow_pos 32))
    (fits_of_small small _ _ _) rfl]
  dsimp only
  rw [show ((Reply.recvComp wrid).under t.sessionId s.server.session.nextSeq).canonical
    = .recvComp _ from rfl, onRecvComp_received _ _ _ _ _ _ first, sim.relink_eq, blind]
  refine ⟨rfl, sim.transport, sim.calls, ⟨_, _, _, rfl⟩, solvent, present.symm,
    fun _ => ⟨rfl, standing, size, icc, credits', balance, left⟩, fun _ => rfl,
    fun _ => congrArg (· + k) (sim.handled present), fun gone => ?_⟩
  cases present.symm.trans gone

/-- What a SEND is told that finds no receive posted. -/
def notReady (failingSeq : UInt32) : Reply :=
  .error { errorCode := .errRnr, failingSeq, description := "receiver not ready" }

/-- The session once it has received a SEND. -/
def received (s : Standstill) : Session :=
  { s.server.session with
    expectedRemoteSeq := some (s.conn.nextSeq + 1 + 1)
    recvQueueDepth := s.server.session.recvQueueDepth - 1
    pendingOp := .none }

/-- The data of a SEND. -/
theorem send_sendData {u : Standstill} {sessionId next : UInt32} {data : Bytes} {p : Plan}
    (running : u.server.running = true) (ready : u.server.session.state = .ready)
    (expects : u.server.session.expectedRemoteSeq = some next)
    (within : u.transport.takes (headerSize + data.length) = true)
    (size : data.length ≤ u.server.session.maxMsgSize.toNat)
    (plans : Session.planSendData
      { u.server.session with expectedRemoteSeq := some (next + 1) } = p)
    (ends : p.ending = .ok ()) (still : p.final.state = .ready) (wrid : UInt64) :
    u.send readings (RdowsMessage.sendData (.new .sendData sessionId next wrid) { data }).encode
      = { u with
        unread := u.unread ++
          (p.emits numbering u.server.session.nextSeq).map RdowsMessage.encode
        server := ⟨p.final.renumber (p.nextNumber u.server.session.nextSeq), true⟩
        handled := u.handled + 1 } :=
  InStep.send_ok ⟨running, ready, by exact expects, Network.arrives_canonical rfl rfl rfl,
    by rw [Transport.fits_encode]; exact within, by exact size⟩ plans ends still

section Send

variable {sgList : List ScatterGatherEntry} {data : Bytes} (tuned : s.Tuned)
  (list : s.Carries (4 + sgList.length * sgEntrySize)) (bytes : s.Carries data.length)
include tuned list bytes

/-- A SEND that finds no receive posted is refused, and its data is thrown away. -/
theorem Tuned.send_refused (empty : s.server.session.recvQueueDepth = 0) (wrid : UInt64) :
    [(RdowsMessage.send (s.conn.headerFor .send wrid) { sgList }).encode,
        (RdowsMessage.sendData (s.conn.bump.headerFor .sendData wrid) { data }).encode].foldl
      (send readings) s = { s with
        unread := s.unread ++
          [((notReady s.conn.nextSeq).under s.server.session.sessionId
            s.server.session.nextSeq).encode]
        server := ⟨{ s.server.session with
          expectedRemoteSeq := some (s.conn.nextSeq + 1 + 1)
          pendingOp := .none
          nextSeq := s.server.session.nextSeq + 1 }, true⟩
        handled := s.handled + 2 } := by
  have refused : s.send readings (RdowsMessage.send (s.conn.headerFor .send wrid) { sgList }).encode
      = { s with
        unread := s.unread ++
          [((notReady s.conn.nextSeq).under s.server.session.sessionId
            s.server.session.nextSeq).encode]
        server := ⟨{ s.server.session with
          expectedRemoteSeq := some (s.conn.nextSeq + 1)
          pendingOp := .discardingSendData
          nextSeq := s.server.session.nextSeq + 1 }, true⟩
        handled := s.handled + 1 } := by
    exact Eq.trans ((list.inStep tuned ⟨fun _ => RdowsMessage.decode_encode_send rfl rfl, rfl, rfl⟩
      rfl (SendPayload.length_encode _)).send_ok (if_pos empty) rfl tuned.standing.ready) rfl
  -- the data of the refused SEND is taken and dropped without a reply
  rw [List.foldl_cons, List.foldl_cons, List.foldl_nil, refused]
  refine Eq.trans (send_sendData (by rfl) (by exact tuned.standing.ready) (by rfl)
    (by exact bytes.2) ?_
    (planSendData_discarding (by rfl)) rfl (by exact tuned.standing.ready) wrid) ?_
  · show data.length ≤ s.server.session.maxMsgSize.toNat
    rw [tuned.size]
    exact bytes.1
  · show { s with unread := _ ++ [], server := _, handled := _ } = _
    rw [List.append_nil]
    rfl

/-- A SEND that finds a receive posted uses it up; its data is acknowledged, and counted. -/
theorem Tuned.send_received (posted : s.server.session.recvQueueDepth ≠ 0) (wrid : UInt64)
    {p : Plan} (plans : s.received.planCredits = p) (ends : p.ending = .ok ())
    (ready : p.final.state = .ready) :
    [(RdowsMessage.send (s.conn.headerFor .send wrid) { sgList }).encode,
        (RdowsMessage.sendData (s.conn.bump.headerFor .sendData wrid) { data }).encode].foldl
      (send readings) s = { s with
        unread := s.unread ++
          ((Reply.recvComp wrid).under s.server.session.sessionId
            s.server.session.nextSeq).encode ::
            (p.emits numbering (s.server.session.nextSeq + 1)).map RdowsMessage.encode
        server := ⟨p.final.renumber (p.nextNumber (s.server.session.nextSeq + 1)), true⟩
        handled := s.handled + 2 } := by
  have taken : s.send readings (RdowsMessage.send (s.conn.headerFor .send wrid) { sgList }).encode
      = { s with
        server := ⟨{ s.server.session with
          expectedRemoteSeq := some (s.conn.nextSeq + 1)
          recvQueueDepth := s.server.session.recvQueueDepth - 1
          pendingOp := .awaitingSendData wrid }, true⟩
        handled := s.handled + 1 } := by
    refine Eq.trans ((list.inStep tuned ⟨fun _ => RdowsMessage.decode_encode_send rfl rfl, rfl, rfl⟩
      rfl (SendPayload.length_encode _)).send_ok (if_neg posted) rfl tuned.standing.ready) ?_
    show { s with unread := _ ++ [], server := _, handled := _ } = _
    rw [List.append_nil]
    rfl
  -- the data is answered with the RECV_COMP, and with what the plan of the credits adds
  have acknowledged := (planSendData_awaiting (t := { s.server.session with
    expectedRemoteSeq := some (s.conn.nextSeq + 1 + 1)
    recvQueueDepth := s.server.session.recvQueueDepth - 1
    pendingOp := .awaitingSendData wrid }) rfl).trans (congrArg _ plans)
  rw [List.foldl_cons, List.foldl_cons, List.foldl_nil, taken]
  refine Eq.trans (send_sendData (by rfl) (by exact tuned.standing.ready) (by rfl)
    (by exact bytes.2) ?_
    acknowledged (by exact ends) (by exact ready) wrid) rfl
  show data.length ≤ s.server.session.maxMsgSize.toNat
  rw [tuned.size]
  exact bytes.1

end Send

/-- A SEND moves a credit to the server's count. -/
theorem spend_credit {credits sends : UInt32}
    (balance : credits.toNat + sends.toNat = defaultIcc.toNat) (below : sends < defaultIcc / 4) :
    credits ≠ 0 ∧ credits - 1 ≠ 0 ∧ (credits - 1).toNat + (sends + 1).toNat = defaultIcc.toNat := by
  have few := UInt32.lt_iff_toNat_lt.mp below
  rw [show (defaultIcc / 4).toNat = 16383 from rfl] at few
  rw [show defaultIcc.toNat = 65535 from rfl] at balance ⊢
  have spent : (credits - 1).toNat = credits.toNat - 1 :=
    UInt32.toNat_sub_of_le credits 1 (UInt32.le_iff_toNat_le.mpr (show 1 ≤ credits.toNat by omega))
  have counted : (sends + 1).toNat = sends.toNat + 1 := by
    rw [UInt32.toNat_add]
    exact Nat.mod_eq_of_lt (show sends.toNat + 1 < 2 ^ 32 by omega)
  refine ⟨?_, ?_, by omega⟩
  · rintro rfl
    rw [UInt32.toNat_zero] at balance
    omega
  · intro zero
    rw [zero, UInt32.toNat_zero] at spent
    omega

theorem Sim.postSend (sim : Sim s d) (wrid : UInt64) (sgList : List ScatterGatherEntry)
    (admits : d.Admits (.postSend wrid sgList)) :
    Agree (s.perform readings (.postSend wrid sgList))
      (d.perform readings (.postSend wrid sgList)) := by
  have opening : (RdowsConnection.postSend wrid sgList).start s.conn
      = opens s.conn (d.conn.gatherSgData sgList) fun data => .request
        [(RdowsMessage.send (s.conn.headerFor .send wrid) { sgList }).encode,
          (RdowsMessage.sendData (s.conn.bump.headerFor .sendData wrid) { data }).encode]
        s.conn.bump.bump (RdowsConnection.onRecvComp wrid (UInt32.ofNat data.length)) := by
    rw [s.conn.postSend_start, if_neg sim.solvent, sim.gatherSgData_eq]
    rcases d.conn.gatherSgData sgList with data | e | p <;> rfl
  refine sim.working (congrArg (Talk.map fun _ => VerbValue.unit) opening)
    fun data gathered started => ?_
  rw [Talk.map_request] at started
  obtain ⟨list, bytes⟩ := admits data gathered
  replace list := sim.carries list
  replace bytes := sim.carries bytes
  refine sim.request started fun present => ?_
  have tuned := sim.tuned present
  have same := sim.backend present
  have standing := tuned.standing
  rw [Direct.request, if_pos present, ← same, Backend.receive,
    Method.run_bind_of_ok (Method.run_get _), Method.run_ite]
  -- without a posted receive both sides refuse; with one the SEND costs a credit, which comes back
  -- at once or is counted
  by_cases empty : s.server.session.recvQueueDepth = 0
  · rw [if_pos (by exact empty)]
    refine sim.request_answered (r := notReady s.conn.nextSeq)
      (t := { s.server.session with
        expectedRemoteSeq := some (s.conn.nextSeq + 1 + 1), pendingOp := .none })
      present started ⟨standing.ready, rfl, rfl, standing.reads, standing.credits⟩ tuned.size
      tuned.icc rfl (tuned.send_refused list bytes empty wrid)
      (.of_small (Reply.small_error (by decide)) (fun _ _ => rfl) fun _ _ _ => rfl)
      (RdowsConnection.Blind.completes _ _ _ (fun _ => .pure _) (.error .errRnr))
  · rw [if_neg (by exact empty)]
    obtain ⟨credits, balance, absorbs⟩ := tuned.absorbs
    have below := standing.credits
    rw [tuned.icc] at below
    obtain ⟨solvent, still, balanced⟩ := spend_credit balance below
    have plans := planCredits_of_lt (t := s.received) standing.credits
    have fits : (credits - 1).toNat + (s.server.session.sendsSinceLastCredit + 1).toNat
        < 2 ^ 32 := by
      rw [balanced]
      decide
    split at plans
    -- the CREDIT_UPDATE that is due stays unread until the next call, which absorbs it
    next due =>
      refine sim.request_received (t := { s.received with
          sendsSinceLastCredit := 0, nextSeq := s.server.session.nextSeq + 1 + 1 })
        present started absorbs
        (tuned.send_received list bytes empty wrid plans rfl standing.ready)
        ⟨standing.ready, rfl, rfl, standing.reads, ?_⟩ tuned.size tuned.icc solvent still ?_
        (absorbs_creditUpdate _ fits)
      · show (0 : UInt32) < s.server.session.icc / 4
        rw [tuned.icc]
        decide
      · exact (UInt32.toNat_add _ _).trans ((Nat.mod_eq_of_lt fits).trans balanced)
    next early =>
      exact sim.request_received (t := { s.received with
          sendsSinceLastCredit := s.server.session.sendsSinceLastCredit + 1
          nextSeq := s.server.session.nextSeq + 1 })
        present started absorbs
        (tuned.send_received list bytes empty wrid plans rfl standing.ready)
        ⟨standing.ready, rfl, rfl, standing.reads, UInt32.not_le.mp early⟩ tuned.size tuned.icc
        solvent still balanced (absorbs_nil _ _ _)

end Pair

/-! ### Whole programs -/

section Programs

variable {readings : Readings} {s : Standstill} {d : Direct}

/-- What the client does alone. -/
theorem Sim.locally {verb : Verb} {x : Local VerbValue} (sim : Sim s d)
    (isLocal : verb.start = Agent.ofMethod x) (blind : Blind x) :
    Agree (s.perform readings verb) (d.locally x) := by
  have ran : x.run s.conn = ((x.run d.conn).1, (x.run d.conn).2.relink s.conn.nextSeq
      s.conn.expectedRemoteSeq s.conn.sendCredits) := by
    obtain ⟨next, expected, credits, linked⟩ := sim.conn
    rw [linked]
    exact blind d.conn next expected credits
  rw [perform_local isLocal, ran]
  refine ⟨rfl, sim.transport, sim.calls, ⟨_, _, _, rfl⟩, sim.solvent, sim.running,
    fun present => ?_, sim.backend, sim.handled, sim.drained⟩
  have tuned := sim.tuned present
  exact ⟨tuned.running, tuned.standing, tuned.size, tuned.icc, tuned.absorbs⟩

/-- The verbs. -/
theorem Sim.perform (sim : Sim s d) (readings : Readings) (verb : Verb) (admits : d.Admits verb) :
    Agree (s.perform readings verb) (d.perform readings verb) := by
  cases verb with
  | regMr accessFlags regionLen => exact sim.regMr accessFlags regionLen
  | deregMr lkey => exact sim.deregMr lkey
  | postSend wrid sgList => exact sim.postSend wrid sgList admits
  | rdmaWrite wrid rkey remoteVa sgList => exact sim.rdmaWrite wrid rkey remoteVa sgList admits
  | rdmaRead wrid rkey remoteVa readLen localLkey localVa =>
      exact sim.rdmaRead wrid rkey remoteVa readLen localLkey localVa admits
  | atomicCas wrid rkey remoteVa compare swap => exact sim.postAtomic rfl (.inl rfl)
  | atomicFaa wrid rkey remoteVa addend => exact sim.postAtomic rfl (.inr rfl)
  | pollCq max => exact sim.locally rfl fun _ _ _ _ => rfl
  | writeLocalMr lkey offset data =>
      exact sim.locally rfl (.mapValue (.copyToLocalMr lkey offset data) _)
  | readLocalMr lkey offset len =>
      exact sim.locally (x := fun c => ((c.readLocalMr lkey offset len).map .bytes, c)) rfl
        fun _ _ _ _ => rfl

/-- **One call** returns the same on both sides, and leaves them related, if it is admitted. -/
theorem Sim.call (sim : Sim s d) (readings : Readings) (verb : Verb) (admits : d.Admits verb) :
    Agree (s.call readings verb) (d.call readings verb) := by
  refine Sim.perform (s := { s with calls := s.calls + 1 }) (d := { d with calls := d.calls + 1 })
    ⟨sim.transport, congrArg (· + 1) sim.calls, sim.conn, sim.solvent, sim.running,
      fun present => ?_, sim.backend, sim.handled, sim.drained⟩ readings verb ?_
  · have tuned := sim.tuned present
    exact ⟨tuned.running, tuned.standing, tuned.size, tuned.icc, tuned.absorbs⟩
  -- What is admitted does not depend on the number of the call.
  · cases verb <;> exact admits

/-- **One run.**  The two machines return the same to a program that makes admitted calls, and stay
related. -/
theorem Sim.run {α : Type} (sim : Sim s d) (program : App α)
    (admitted : program.Meets (Direct.call readings) Direct.Admits d) :
    (program.run (Standstill.call readings) s).1 = (program.run (Direct.call readings) d).1 ∧
      (program.run (Standstill.call readings) s).2.Sim (program.run (Direct.call readings) d).2 :=
  Program.run_simulates (fun _ _ verb sim admits => sim.call readings verb admits) program sim
    admitted

end Programs

end Standstill

/-- The deployment has come to rest with what a run without a network gives: the result, the
connection but for its numbers and credits, and the server's store and counters. -/
def Deployment.Mirrors {α : Type} (final : Deployment α) (out : Except Panic α × Direct) : Prop :=
  final.net.server.running = out.2.running ∧
    (out.2.running = true → final.net.server.session.backend = out.2.backend) ∧
    match out.1 with
    | .ok value => final.program = .done value ∧ ∃ next expected credits,
        final.net.client = .idle (out.2.conn.relink next expected credits)
    | .error _ => final.net.client = .crashed

theorem Deployment.mirrors_of_shows {α : Type} {final : Deployment α}
    {out : Except Panic α × Standstill} {out' : Except Panic α × Direct} (shows : final.Shows out)
    (same : out.1 = out'.1) (sim : out.2.Sim out'.2) : final.Mirrors out' := by
  obtain ⟨holds, ends⟩ := shows
  rw [same] at ends
  refine ⟨?_, ?_, ?_⟩
  · rw [holds.server]
    exact sim.running
  · rw [holds.server]
    exact sim.backend
  · rcases result : out'.1 with p | value <;> rw [result] at ends
    · exact ends
    · obtain ⟨next, expected, credits, linked⟩ := sim.conn
      exact ⟨ends.1, next, expected, credits, ends.2.trans (congrArg _ linked)⟩

namespace Deployment

variable {α : Type} {transport : Transport} {config : ServerConfig} {now : ℕ} {sessionId : UInt32}
  {cqCapacity : ℕ} {readings : Readings} {program : App α}

/-- The run that is easiest to follow, for a program that makes admitted calls. -/
theorem completes_admitted (draws : ℕ → UInt32)
    (admitted : program.Meets (Direct.call readings) Direct.Admits
      (.start transport config now sessionId cqCapacity)) :
    ∃ n final,
      Steps (Turn readings) n (launch transport config now draws sessionId cqCapacity program)
        final ∧
      Final (Turn readings) final ∧
      final.Mirrors (program.run (Direct.call readings)
        (.start transport config now sessionId cqCapacity)) := by
  obtain ⟨n, final, run, ends, shows⟩ :=
    completes_launch transport config now draws sessionId cqCapacity readings program
  obtain ⟨same, sim⟩ :=
    (Standstill.sim_start transport config now sessionId cqCapacity).run program admitted
  exact ⟨n, final, run, ends, mirrors_of_shows shows same sim⟩

/-- A program that ends when its calls are function calls, ends in every schedule. -/
theorem settles_of_yields {value : α} {d : Direct}
    (yields : program.Yields (Direct.call readings) Direct.Admits
      (.start transport config now sessionId cqCapacity) value d) (present : d.running = true)
    (draws : ℕ → UInt32) {P : Deployment α → Prop}
    (holds : ∀ final : Deployment α, final.program = .done value →
      final.net.server.session.backend = d.backend → P final) :
    Settles (Turn readings) (launch transport config now draws sessionId cqCapacity program)
      P := by
  obtain ⟨n, final, run, ends, mirrors⟩ := completes_admitted draws yields.meets
  rw [yields.run] at mirrors
  exact .of_steps diamond run ends (holds final mirrors.2.2.1 (mirrors.2.1 present))

end Deployment

/-- **The network is transparent.**  A program that makes admitted calls ends in every schedule, and
with what it gives when its calls are function calls.

`admitted` is a condition on the run without a network: every SEND, every WRITE and every answer to
a read is within what was negotiated and within the limit of the transport, and every WRITE names an
R_Key that may be used.  Calls that the server refuses, and calls at which it panics, are admitted
like the others; a call that finds no server gets the error of the transport on both sides. -/
theorem network_transparent {α : Type} (transport : Transport) (config : ServerConfig) (now : ℕ)
    (draws : ℕ → UInt32) (sessionId : UInt32) (cqCapacity : ℕ) (readings : Readings)
    (program : App α)
    (admitted : program.Meets (Direct.call readings) Direct.Admits
      (.start transport config now sessionId cqCapacity)) :
    Settles (Deployment.Turn readings)
      (.launch transport config now draws sessionId cqCapacity program)
      fun final => final.Mirrors (program.run (Direct.call readings)
        (.start transport config now sessionId cqCapacity)) := by
  obtain ⟨n, final, run, ends, mirrors⟩ := Deployment.completes_admitted draws admitted
  exact .of_steps Deployment.diamond run ends mirrors

/-- Register eight bytes, write them, and read them back, with the handles that the registration
returned. -/
def registerAndRead : App (Except RdowsError VerbValue) :=
  .call (.regMr (.remoteRead ||| .remoteWrite) 8) fun
    | .ok (.handle handle) =>
        .call (.rdmaWrite 1 handle.rkey 0 [⟨handle.lkey, 0, 8⟩]) fun _ =>
          .call (.rdmaRead 2 handle.rkey 0 8 handle.lkey 0) .done
    | other => .done other

/-- Every call of it is admitted, over the transport that both parties use. -/
theorem admitted_registerAndRead :
    registerAndRead.Meets (Direct.call fun _ => (0, fun _ => 7)) Direct.Admits
      (.start .standard {} 0 7 16) := by
  refine ⟨trivial, ?_, ?_, ?_⟩
  · intro data gathered
    have zeros : Outcome.ok (List.replicate 8 0) = Outcome.ok data := gathered
    cases zeros
    exact ⟨⟨by decide, by decide⟩, ⟨by decide, by decide⟩, trivial⟩
  · intro data read
    have length : data.length = 8 := MemoryStore.length_of_readRegion read
    rw [length]
    exact ⟨by decide, by decide⟩
  · trivial

/-- Over the transport that both parties use, with every kind of frame that has a bound. -/
theorem network_transparent_registerAndRead :
    registerAndRead.Meets (Direct.call fun _ => (0, fun _ => 7)) Direct.Admits
        (.start .standard {} 0 7 16) ∧
      Settles (Deployment.Turn fun _ => (0, fun _ => 7))
        (.launch .standard {} 0 (fun _ => 7) 7 16 registerAndRead)
        fun final => final.Mirrors (registerAndRead.run (Direct.call fun _ => (0, fun _ => 7))
          (.start .standard {} 0 7 16)) :=
  ⟨admitted_registerAndRead,
    network_transparent .standard {} 0 _ 7 16 _ registerAndRead admitted_registerAndRead⟩

end Rdows
