import Rdows.Network.Registration
import Rdows.Network.Transparency

/-!
# Running out of receives

`demo_err_rnr` of the client's `main.rs` sends more messages than the server has receives for, and
then shows that the connection is still of use.  It indexes what `poll_cq` returns without looking
at its length, so that it relies on every SEND to leave a completion, also if it fails.  In fact
each leaves exactly one, and nothing is left over from the SENDs before it.

## The program

It is written as a `Caller`.  Its value is what it prints: a `Line` for each call, with the whole
list that was polled behind it, of which the function prints fields of the first entry.  An access
to an empty list is a panic of the program, as in the source, so that "ends without a panic"
includes that every index was in range.

## The argument

The program is followed call by call on `Direct`, where a call is a function and nothing is on its
way.  `Sending` is the invariant of the loop: the buffer holds the message, the completion queue is
empty, and the server has so many receives left.  A SEND takes one of them (`Sending.turn_sent`) or
is refused (`Sending.turn_refused`); its completion is polled, and the queue is empty again.  The
loop is an induction over the numbers of the SENDs (`Sending.loop`), with the receives that are left
counting down to zero and staying there.

`err_rnr_demonstrated` carries the result over to every schedule of client and server.
-/

namespace Rdows

open Rust Confluence

namespace Demo

/-- What `demo_err_rnr` prints after a call, from what `poll_cq` returned then: one constructor for
each format of a line. -/
inductive Line where
  | sent (cqes : List CompletionQueueEntry)
  | notReady (cqes : List CompletionQueueEntry)
  | written (cqes : List CompletionQueueEntry)
  deriving DecidableEq

/-- A function that makes calls on its connection. -/
abbrev DemoCaller := Caller Verb RdowsError VerbValue Unit RdowsError

/-- A call with `?`. -/
def conn (verb : Verb) : DemoCaller VerbValue := Caller.invoke id verb

/-- `conn.reg_mr(..).await?`; a call that succeeds returns a handle and nothing else. -/
def register (accessFlags : AccessFlags) (len : UInt64) : DemoCaller MemoryRegionHandle := do
  match ← conn (.regMr accessFlags len) with
  | .handle mr => return mr
  | _ => Caller.lift (.panic .sliceOutOfRange)

/-- `conn.poll_cq(10)`, and the accesses to `cqes[0]` that follow: they panic if nothing was
polled. -/
def pollCompletions : DemoCaller (List CompletionQueueEntry) := do
  match ← conn (.pollCq 10) with
  | .completions (cqe :: rest) => return cqe :: rest
  | _ => Caller.lift (.panic .sliceOutOfRange)

/-- `b"Hello from SEND"`. -/
def hello : Bytes := [72, 101, 108, 108, 111, 32, 102, 114, 111, 109, 32, 83, 69, 78, 68]

/-- `b"still alive"`. -/
def stillAlive : Bytes := [115, 116, 105, 108, 108, 32, 97, 108, 105, 118, 101]

/-- The body of the loop of `demo_err_rnr`, with the counter of SENDs that succeeded.  Any error but
`ErrRnr` ends the program. -/
def sendTurn (sg : List ScatterGatherEntry) (succeeded i : UInt64) :
    DemoCaller (Line × UInt64) := do
  match ← Caller.call (.postSend i sg) with
  | .ok _ =>
      let cqes ← pollCompletions
      let succeeded ← Caller.lift (.orPanic .arithmeticOverflow (checkedAdd64 succeeded 1))
      return (.sent cqes, succeeded)
  | .error (.protocol .errRnr) =>
      let cqes ← pollCompletions
      return (.notReady cqes, succeeded)
  | .error e => Caller.throw e

/-- The loop of `demo_err_rnr`. -/
def sendLoop (sg : List ScatterGatherEntry) (succeeded : UInt64) :
    List UInt64 → DemoCaller (List Line × UInt64)
  | [] => return ([], succeeded)
  | i :: rest => do
      let turn ← sendTurn sg succeeded i
      let later ← sendLoop sg turn.2 rest
      return (turn.1 :: later.1, later.2)

/-- `1..=sends`. -/
def wrids (sends : UInt64) : List UInt64 :=
  (List.range sends.toNat).map fun k => UInt64.ofNat (k + 1)

/-- `demo_err_rnr`: the lines that are printed, and the number of SENDs that succeeded.  It
registers a buffer, sends from it in a loop, and then registers and writes another region. -/
def demoErrRnr (sends : UInt64) : DemoCaller (List Line × UInt64) := do
  let mr ← register .localWrite 256
  let _ ← conn (.writeLocalMr mr.lkey 0 hello)
  let sent ← sendLoop [⟨mr.lkey, 0, 15⟩] 0 (wrids sends)
  let remoteMr ← register .remoteWrite 64
  let _ ← conn (.writeLocalMr mr.lkey 0 stillAlive)
  let _ ← conn (.rdmaWrite 100 remoteMr.rkey 0 [⟨mr.lkey, 0, 11⟩])
  let cqes ← pollCompletions
  return (sent.1 ++ [.written cqes], sent.2)

/-! ### Calls -/

variable {readings : Readings} {d d' : Direct}

/-- The run of a function of the program that ends with a value. -/
abbrev Ends {α : Type} (readings : Readings) (x : DemoCaller α) (d : Direct) (value : α)
    (d' : Direct) : Prop :=
  (x.start ()).Yields (Direct.call readings) Direct.Admits d (.ok value, ()) d'

theorem ends_bind {α β : Type} {x : DemoCaller α} {f : α → DemoCaller β} {a : α} {b : β}
    {d'' : Direct} (first : Ends readings x d a d') (rest : Ends readings (f a) d' b d'') :
    Ends readings (x >>= f) d b d'' :=
  Caller.yields_bind first rest

theorem ends_conn {verb : Verb} {value : VerbValue} (admits : d.Admits verb)
    (served : d.call readings verb = (.ok value, d')) : Ends readings (conn verb) d value d' :=
  Caller.yields_invoke admits served ()

theorem ends_register {accessFlags : AccessFlags} {len : UInt64} {mr : MemoryRegionHandle}
    (served : d.call readings (.regMr accessFlags len) = (.ok (.handle mr), d')) :
    Ends readings (register accessFlags len) d mr d' :=
  ends_bind (ends_conn trivial served) (.done _ _)

theorem ends_call {verb : Verb} {result : Except RdowsError VerbValue} (admits : d.Admits verb)
    (served : d.call readings verb = (.ofExcept result, d')) :
    Ends readings (Caller.call verb) d result d' :=
  .call admits served (.done _ _)

/-- The completion of a work request. -/
def completion (sessionId : UInt32) (wrid : UInt64) (status : UInt16) (opcode : Opcode)
    (byteCount : UInt32) : CompletionQueueEntry :=
  { wrid, status, opcode, vendorError := 0, byteCount, qpNumber := sessionId }

/-- The only completion is polled, and the queue is empty again. -/
theorem ends_pollCompletions (d : Direct) {c : RdowsConnection} (empty : c.cq.entries = [])
    (room : 0 < c.cq.capacity) (wrid : UInt64) (status : UInt16) (opcode : Opcode)
    (byteCount : UInt32) :
    Ends readings pollCompletions { d with conn := c.completed wrid status opcode byteCount }
      [completion c.sessionId wrid status opcode byteCount]
      { d with conn := c, calls := d.calls + 1 } := by
  have pushed : (c.completed wrid status opcode byteCount) = { c with
      cq := ⟨[completion c.sessionId wrid status opcode byteCount], c.cq.capacity⟩ } := by
    have below : ¬ c.cq.capacity ≤ c.cq.entries.length := by
      rw [empty]
      exact Nat.not_le.mpr room
    show { c with cq := (c.cq.push _).2 } = _
    rw [CompletionQueue.push, if_neg below, empty]
    rfl
  have restored : ({ c with cq := ⟨[], c.cq.capacity⟩ } : RdowsConnection) = c := by
    rw [← empty]
  have polled : Direct.call readings { d with conn := c.completed wrid status opcode byteCount }
      (.pollCq 10) = (.ok (.completions [completion c.sessionId wrid status opcode byteCount]),
        { d with conn := c, calls := d.calls + 1 }) := by
    rw [pushed]
    exact congrArg (fun e => (_, { d with conn := e, calls := d.calls + 1 })) restored
  exact ends_bind (ends_conn trivial polled) (.done _ _)

/-- A buffer that is filled from its beginning is sent as it was filled. -/
theorem gatherSgData_withBytes {c : RdowsConnection} {lkey : LKey} {data : Bytes} {len : UInt32}
    (inside : c.Inside lkey 0 data.length) (whole : len.toNat = data.length) :
    (c.withBytes lkey 0 data).gatherSgData [⟨lkey, 0, len⟩] = .ok data := by
  have small : 0 + data.length < usizeBound := by
    have bound : data.length < 2 ^ 32 := by
      rw [← whole]
      exact len.toNat_lt
    show 0 + data.length < 2 ^ 64
    omega
  have copied := (RdowsConnection.copyToLocalMr_run fun _ => small).inside inside
  have read : (c.withBytes lkey 0 data).readLocalMr lkey (0 : UInt64).toNat len.toNat
      = .ok data := by
    rw [whole]
    exact RdowsConnection.readLocalMr_of_copyToLocalMr copied
  rw [RdowsConnection.gatherSgData_cons, read]
  exact congrArg Outcome.ok (List.append_nil data)

/-- Filling a buffer keeps the completion queue, the session, and the size of the buffer. -/
theorem withBytes_spec {c : RdowsConnection} {lkey : LKey} {data : Bytes}
    (inside : c.Inside lkey 0 data.length) :
    (c.withBytes lkey 0 data).cq = c.cq ∧ (c.withBytes lkey 0 data).sessionId = c.sessionId ∧
      ∀ n, c.Inside lkey 0 n → (c.withBytes lkey 0 data).Inside lkey 0 n := by
  obtain ⟨mr, found, within⟩ := inside
  rw [RdowsConnection.withBytes, found]
  refine ⟨rfl, rfl, ?_⟩
  rintro n ⟨mr', found', within'⟩
  cases found.symm.trans found'
  refine ⟨_, AList.lookup_insert _, ?_⟩
  show 0 + n ≤ (splice mr.localBuf 0 data).length
  rw [length_splice within]
  exact within'

/-- What a registration did that returned. -/
theorem regMr_inv {accessFlags : AccessFlags} {len : UInt64} {value : VerbValue}
    (served : d.call readings (.regMr accessFlags len) = (.ok value, d')) :
    ∃ lkey rkey backend conn, d.running = true ∧
      (Backend.register (readings d.handled).1 (readings d.handled).2 d.conn.pd accessFlags len).run
        d.backend = (.ok (lkey, rkey), backend) ∧
      (RdowsConnection.granted lkey rkey len).run d.conn = (.ok value, conn) ∧
      d' = { d with conn, backend, handled := d.handled + 1, calls := d.calls + 1 } := by
  rw [Direct.call, Direct.perform, Direct.request] at served
  dsimp only at served
  by_cases running : d.running = true
  · rw [if_pos running] at served
    rcases ran : (Backend.register (readings d.handled).1 (readings d.handled).2 d.conn.pd
      accessFlags len).run d.backend with ⟨⟨lkey, rkey⟩ | code | p, backend⟩ <;> rw [ran] at served
    · obtain ⟨result, rfl⟩ := Prod.mk.inj served
      exact ⟨lkey, rkey, backend, _, running, rfl, Prod.ext result rfl, rfl⟩
    · cases served
    · cases served
  · rw [if_neg running] at served
    cases served

/-- A registration looks at the number of frames only for its clock and its draws, so it may be
moved to another place in the run with the same readings. -/
theorem call_regMr_handled {k : ℕ} {accessFlags : AccessFlags} {len : UInt64} {value : VerbValue}
    (served : Direct.call (fun _ => readings d.handled) { d with handled := k }
      (.regMr accessFlags len) = (.ok value, d')) :
    d.call readings (.regMr accessFlags len)
      = (.ok value, { d' with handled := d.handled + 1 }) := by
  obtain ⟨lkey, rkey, backend, conn, running, ran, granted, rfl⟩ := regMr_inv served
  rw [Direct.call, Direct.perform]
  refine Direct.request_of_ok (d := { d with calls := d.calls + 1 }) (a := (lkey, rkey)) running ran
    ?_ 1
  exact granted

/-- A registration does not use up receives. -/
theorem recvQueueDepth_regMr {accessFlags : AccessFlags} {len : UInt64} {value : VerbValue}
    (served : d.call readings (.regMr accessFlags len) = (.ok value, d')) :
    d'.backend.recvQueueDepth = d.backend.recvQueueDepth := by
  obtain ⟨lkey, rkey, backend, conn, -, ran, -, rfl⟩ := regMr_inv served
  obtain ⟨count, start, same, -⟩ := d.backend.refreshed_eq (readings d.handled).1
  rw [Backend.run_register, same] at ran
  show backend.recvQueueDepth = _
  split_ifs at ran
  · cases ran
  · exact (congrArg (fun out => out.2.recvQueueDepth) ran).symm

/-- Neither the connection nor the receives matter to the registrations. -/
theorem provisioned_again {config : ServerConfig} {k total : ℕ}
    (h : Direct.Provisioned config k total d) (conn : RdowsConnection) (depth : UInt32)
    (calls : ℕ) : Direct.Provisioned config k total
      { d with conn, backend := { d.backend with recvQueueDepth := depth }, handled := k, calls } :=
  ⟨h.running, h.reads, h.rateLimit, h.count, h.inv, h.regions, h.bytes, h.lkeys, h.rkeys,
    h.maxRegions, h.maxTotal, rfl⟩

/-! ### One SEND -/

/-- The line for a SEND that found a receive: its completion is the only one that was polled. -/
def sentLine (sessionId : UInt32) (wrid : UInt64) : Line :=
  .sent [completion sessionId wrid 0 .send 15]

/-- The line for a SEND that found none: its completion is the only one as well. -/
def notReadyLine (sessionId : UInt32) (wrid : UInt64) : Line :=
  .notReady [completion sessionId wrid ErrorCode.errRnr.toU16 .send 0]

/-- The state in the loop: one region is registered, its buffer begins with the message, the
completion queue is empty, and the server has `n` receives left.  The number of frames is kept
apart, because only registrations look at it. -/
structure Sending (config : ServerConfig) (sessionId : UInt32) (lkey : LKey) (n : ℕ) (d : Direct) :
    Prop where
  provisioned : Direct.Provisioned config 1 256 { d with handled := 1 }
  empty : d.conn.cq.entries = []
  room : 0 < d.conn.cq.capacity
  session : d.conn.sessionId = sessionId
  inside : d.conn.Inside lkey 0 11
  gathered : d.conn.gatherSgData [⟨lkey, 0, 15⟩] = .ok hello
  receives : d.backend.recvQueueDepth.toNat = n

namespace Sending

variable {config : ServerConfig} {sessionId : UInt32} {lkey : LKey} {n : ℕ}

theorem notFull (sending : Sending config sessionId lkey n d) : d.conn.cq.isFull = false := by
  have below : ¬ d.conn.cq.capacity ≤ d.conn.cq.entries.length := by
    rw [sending.empty]
    exact Nat.not_le.mpr sending.room
  exact decide_eq_false below

theorem admits (sending : Sending config sessionId lkey n d) (i : UInt64) :
    d.Admits (.postSend i [⟨lkey, 0, 15⟩]) := by
  intro data gathered
  cases sending.gathered.symm.trans gathered
  exact ⟨Direct.carries_of_le (by show 4 + 1 * sgEntrySize ≤ 104; decide),
    Direct.carries_of_le (by decide)⟩

/-- The receives and the numbers of frames and calls are all that changes. -/
theorem later (sending : Sending config sessionId lkey n d) (depth : UInt32) (handled calls : ℕ) :
    Sending config sessionId lkey depth.toNat
      { d with backend := { d.backend with recvQueueDepth := depth }, handled, calls } where
  provisioned := provisioned_again sending.provisioned d.conn depth calls
  session := sending.session
  empty := sending.empty
  room := sending.room
  inside := sending.inside
  gathered := sending.gathered
  receives := rfl

/-- A SEND that finds a receive. -/
theorem call_sent (sending : Sending config sessionId lkey (n + 1) d) (i : UInt64) :
    d.call readings (.postSend i [⟨lkey, 0, 15⟩]) = (.ok .unit, { d with
      conn := d.conn.completed i 0 .send 15
      backend := { d.backend with recvQueueDepth := d.backend.recvQueueDepth - 1 }
      handled := d.handled + 2
      calls := d.calls + 1 }) := by
  have some : d.backend.recvQueueDepth ≠ 0 := by
    intro none
    have receives := sending.receives
    rw [none] at receives
    cases receives
  have ran : Backend.receive.run d.backend
      = (.ok (), { d.backend with recvQueueDepth := d.backend.recvQueueDepth - 1 }) := by
    rw [Backend.receive, Method.run_bind_of_ok (Method.run_get _), Method.run_ite, if_neg some]
    rfl
  have present : d.running = true := sending.provisioned.running
  rw [Direct.call, Direct.perform, sending.gathered,
    Direct.working_of_ok (by exact sending.notFull)]
  exact Direct.request_of_ok (d := { d with calls := d.calls + 1 }) present ran
    (RdowsConnection.run_completes_ok rfl) 2

/-- A SEND that finds none is refused, and leaves a completion all the same. -/
theorem call_refused (sending : Sending config sessionId lkey 0 d) (i : UInt64) :
    d.call readings (.postSend i [⟨lkey, 0, 15⟩]) = (.err (.protocol .errRnr), { d with
      conn := d.conn.completed i ErrorCode.errRnr.toU16 .send 0
      handled := d.handled + 2
      calls := d.calls + 1 }) := by
  have none : d.backend.recvQueueDepth = 0 := UInt32.toNat.inj sending.receives
  have ran : Backend.receive.run d.backend = (.err .errRnr, d.backend) := by
    rw [Backend.receive, Method.run_bind_of_ok (Method.run_get _), Method.run_ite, if_pos none]
    rfl
  rw [Direct.call, Direct.perform, sending.gathered,
    Direct.working_of_ok (by exact sending.notFull), Direct.request,
    if_pos (by exact sending.provisioned.running), ran]
  rfl

/-- The body of the loop, if there is a receive. -/
theorem turn_sent (sending : Sending config sessionId lkey (n + 1) d) (i succeeded : UInt64)
    (few : succeeded.toNat + 1 < 2 ^ 64) :
    ∃ d', Ends readings (sendTurn [⟨lkey, 0, 15⟩] succeeded i) d
        (sentLine sessionId i, succeeded + 1) d' ∧
      Sending config sessionId lkey n d' ∧ d'.handled = d.handled + 2 := by
  have counted : (d.backend.recvQueueDepth - 1).toNat = n := by
    have receives := sending.receives
    rw [toNat_sub32 (by rw [receives]; exact Nat.succ_le_succ (Nat.zero_le n)), receives]
    rfl
  have next := sending.later (d.backend.recvQueueDepth - 1) (d.handled + 2) (d.calls + 1 + 1)
  rw [counted] at next
  have added : checkedAdd64 succeeded 1 = some (succeeded + 1) := if_pos few
  have sent : Ends readings (Caller.call (.postSend i [⟨lkey, 0, 15⟩])) d (.ok .unit) _ :=
    ends_call (sending.admits i) (sending.call_sent i)
  refine ⟨_, ends_bind sent (ends_bind (ends_pollCompletions { d with
    backend := { d.backend with recvQueueDepth := d.backend.recvQueueDepth - 1 }
    handled := d.handled + 2
    calls := d.calls + 1 } sending.empty sending.room i 0 .send 15) ?_), next, rfl⟩
  rw [added, sending.session]
  exact .done _ _

/-- The body of the loop, if there is none. -/
theorem turn_refused (sending : Sending config sessionId lkey 0 d) (i succeeded : UInt64) :
    ∃ d', Ends readings (sendTurn [⟨lkey, 0, 15⟩] succeeded i) d
        (notReadyLine sessionId i, succeeded) d' ∧
      Sending config sessionId lkey 0 d' ∧ d'.handled = d.handled + 2 := by
  have next := sending.later d.backend.recvQueueDepth (d.handled + 2) (d.calls + 1 + 1)
  rw [sending.receives] at next
  have refused : Ends readings (Caller.call (.postSend i [⟨lkey, 0, 15⟩])) d
      (.error (.protocol .errRnr)) _ :=
    ends_call (sending.admits i) (sending.call_refused i)
  refine ⟨_, ends_bind refused (ends_bind (ends_pollCompletions { d with
    handled := d.handled + 2
    calls := d.calls + 1 } sending.empty sending.room i _ .send 0) ?_), next, rfl⟩
  rw [sending.session]
  exact .done _ _

/-- **The loop**: as many SENDs succeed as there are receives, and the others are refused.  The
induction is over the SENDs that are left. -/
theorem loop (sending : Sending config sessionId lkey n d) (wrids : List UInt64)
    (succeeded : UInt64) (few : succeeded.toNat + wrids.length < 2 ^ 64) :
    ∃ d', Ends readings (sendLoop [⟨lkey, 0, 15⟩] succeeded wrids) d
        ((wrids.take n).map (sentLine sessionId) ++ (wrids.drop n).map (notReadyLine sessionId),
          succeeded + UInt64.ofNat (min n wrids.length)) d' ∧
      Sending config sessionId lkey (n - wrids.length) d' ∧
      d'.handled = d.handled + 2 * wrids.length := by
  induction wrids generalizing n d succeeded with
  | nil =>
      refine ⟨d, ?_, sending, rfl⟩
      rw [List.take_nil, List.drop_nil, List.length_nil, Nat.min_zero]
      show Ends readings (return ([], succeeded)) d ([], succeeded + 0) d
      rw [UInt64.add_zero]
      exact .done _ _
  | cons i rest ih =>
      rw [List.length_cons] at few ⊢
      -- with no receive left this SEND and all later ones are refused
      rcases n with _ | n
      · obtain ⟨d₁, turn, next, frames⟩ := sending.turn_refused i succeeded
        obtain ⟨d₂, later, final, total⟩ := ih next succeeded (by omega)
        refine ⟨d₂, ends_bind turn (ends_bind later ?_), ?_, by omega⟩
        · rw [List.drop_zero, Nat.zero_min, Nat.zero_min]
          exact .done _ _
        · rw [Nat.zero_sub] at final ⊢
          exact final
      · obtain ⟨d₁, turn, next, frames⟩ := sending.turn_sent i succeeded (by omega)
        have counted : (succeeded + 1).toNat = succeeded.toNat + 1 :=
          toNat_add64 (by show succeeded.toNat + 1 < 2 ^ 64; omega)
        obtain ⟨d₂, later, final, total⟩ := ih next (succeeded + 1) (by omega)
        refine ⟨d₂, ends_bind turn (ends_bind later ?_), ?_, by omega⟩
        · have sum : succeeded + UInt64.ofNat (min (n + 1) (rest.length + 1))
              = succeeded + 1 + UInt64.ofNat (min n rest.length) := by
            rw [Nat.succ_min_succ, UInt64.add_assoc, Nat.succ_eq_add_one, Nat.add_comm,
              UInt64.ofNat_add]
            rfl
          rw [sum]
          exact .done _ _
        · rw [Nat.add_sub_add_right]
          exact final

end Sending

/-! ### The program -/

/-- What the program needs of the server: room for its two regions of 256 and 64 bytes, a rate limit
that lets two registrations pass, and a generator that draws an unused R_Key for each of them.  The
first registration is the first frame, and the second one comes behind two frames for each SEND. -/
structure Supports (config : ServerConfig) (readings : Readings) (sends : UInt64) : Prop where
  regions : 2 ≤ config.maxRegionsPerSession
  bytes : 320 ≤ config.maxTotalBytesPerSession.toNat
  rate : 2 ≤ config.mrRegRateLimit.toNat
  first : 0 < (MemoryStore.drawable (readings 0).2).card
  second : 1 < (MemoryStore.drawable (readings (1 + 2 * sends.toNat)).2).card

/-- The last line, for the WRITE. -/
def writtenLine (sessionId : UInt32) : Line := .written [completion sessionId 100 0 .write 11]

/-- The lines for the SENDs, if the server has `depth` receives. -/
def sendLines (sessionId : UInt32) (depth : ℕ) (sends : UInt64) : List Line :=
  ((wrids sends).take depth).map (sentLine sessionId)
    ++ ((wrids sends).drop depth).map (notReadyLine sessionId)

section Program

variable {config : ServerConfig} {sends : UInt64} {sessionId : UInt32}
  (supports : Supports config readings sends)
include supports

/-- The part before the loop: one region is registered, and the message is written into its
buffer. -/
theorem yields_opening {cqCapacity : ℕ} (capacity : 0 < cqCapacity) (transport : Transport)
    (now : ℕ) (sessionId : UInt32) :
    ∃ mr d₁ d₂, Ends readings (register .localWrite 256)
        (.start transport config now sessionId cqCapacity) mr d₁ ∧
      Ends readings (conn (.writeLocalMr mr.lkey 0 hello)) d₁ .unit d₂ ∧
      Sending config sessionId mr.lkey config.recvQueueDepth.toNat d₂ ∧ d₂.handled = 1 := by
  have start := Direct.provisioned_start transport config now sessionId cqCapacity
  obtain ⟨mr, d₁, registered, once, granted⟩ := start.regMr readings .localWrite 256 (by decide)
    (by decide) (by have := supports.regions; omega) (by have := supports.rate; omega)
    (by have := supports.bytes; show 0 + 256 ≤ _; omega) supports.first
  -- the buffer has 256 bytes, more than the greeting and more than what is sent
  have inside (n : ℕ) (small : n ≤ 256) : d₁.conn.Inside mr.lkey 0 n := by
    refine ⟨mr, ?_, ?_⟩
    · rw [granted.localMrs]
      exact AList.lookup_insert _
    · rw [granted.buffer, List.length_replicate, Nat.zero_add]
      exact small
  have filled := inside hello.length (by decide)
  obtain ⟨queue, session, kept⟩ := withBytes_spec filled
  refine ⟨mr, d₁, _, ends_register registered,
    ends_conn trivial (Direct.call_writeLocalMr filled (by decide)), ?_, once.handled⟩
  exact {
    provisioned := provisioned_again once _ d₁.backend.recvQueueDepth _
    session := session.trans granted.session
    empty := by
      show (d₁.conn.withBytes mr.lkey 0 hello).cq.entries = []
      rw [queue, granted.queue]
      rfl
    room := by
      show 0 < (d₁.conn.withBytes mr.lkey 0 hello).cq.capacity
      rw [queue, granted.queue]
      exact capacity
    inside := kept 11 (inside 11 (by decide))
    gathered := gatherSgData_withBytes filled rfl
    receives := congrArg UInt32.toNat (recvQueueDepth_regMr registered) }

/-- The part behind the loop: a second region is registered and written, with every receive used
up. -/
theorem yields_closing {lkey : LKey} {n : ℕ} (sending : Sending config sessionId lkey n d)
    (frames : d.handled = 1 + 2 * sends.toNat) (lines : List Line) (succeeded : UInt64) :
    ∃ d', Ends readings (do
        let remoteMr ← register .remoteWrite 64
        let _ ← conn (.writeLocalMr lkey 0 stillAlive)
        let _ ← conn (.rdmaWrite 100 remoteMr.rkey 0 [⟨lkey, 0, 11⟩])
        let cqes ← pollCompletions
        return (lines ++ [.written cqes], succeeded)) d
        (lines ++ [writtenLine sessionId], succeeded) d' ∧ d'.running = true := by
  obtain ⟨remote, e, registered, twice, granted⟩ := sending.provisioned.regMr
    (fun _ => readings d.handled) .remoteWrite 64 (by decide) (by decide)
    (by have := supports.regions; omega) (by have := supports.rate; omega)
    (by have := supports.bytes; show 256 + 64 ≤ _; omega)
    (by rw [frames]; exact supports.second)
  -- The new region may even have the L_Key of the old one: it is large enough as well.
  have inside : e.conn.Inside lkey 0 stillAlive.length := by
    obtain ⟨mr, found, within⟩ := sending.inside
    rw [RdowsConnection.Inside, granted.localMrs, AssocMap.lookup_insert_eq_ite]
    split_ifs
    · exact ⟨remote, rfl, by rw [granted.buffer, List.length_replicate]; decide⟩
    · exact ⟨mr, found, within⟩
  obtain ⟨queue, session, -⟩ := withBytes_spec inside
  have empty : (e.conn.withBytes lkey 0 stillAlive).cq.entries = [] := by
    rw [queue, granted.queue]
    exact sending.empty
  have room : 0 < (e.conn.withBytes lkey 0 stillAlive).cq.capacity := by
    rw [queue, granted.queue]
    exact sending.room
  have notFull : (e.conn.withBytes lkey 0 stillAlive).cq.isFull = false := by
    rw [queue, granted.queue]
    exact sending.notFull
  have gathered : (e.conn.withBytes lkey 0 stillAlive).gatherSgData [⟨lkey, 0, 11⟩]
      = .ok stillAlive := gatherSgData_withBytes inside rfl
  obtain ⟨store, written⟩ : ∃ store, (MemoryStore.writeRegion remote.rkey 0 stillAlive).run
      e.backend.memoryStore = (.ok (), store) := by
    have right : AccessFlags.remoteWrite.contains .remoteWrite := by decide
    have access : e.backend.memoryStore.toMemory.access remote.rkey .remoteWrite
        = .ok ⟨.remoteWrite, List.replicate 64 0⟩ := by
      refine Memory.access_eq_ok.mpr ⟨?_, right⟩
      rw [granted.memory]
      exact Memory.set_self _ _ _
    obtain ⟨outcome, -⟩ := MemoryStore.writeRegion_refines twice.inv remote.rkey 0 stillAlive
    rw [Memory.write, access] at outcome
    exact ⟨_, Prod.ext outcome rfl⟩
  have admits : Direct.Admits { e with
      conn := e.conn.withBytes lkey 0 stillAlive, handled := d.handled + 1, calls := e.calls + 1 }
      (.rdmaWrite 100 remote.rkey 0 [⟨lkey, 0, 11⟩]) := by
    intro data taken
    cases gathered.symm.trans taken
    exact ⟨Direct.carries_of_le
        (by show WritePayload.writeHeaderSize + 1 * sgEntrySize ≤ 104; decide),
      Direct.carries_of_le (by decide), Direct.validateRkey_of_writeRegion written⟩
  have wrote : Ends readings (conn (.rdmaWrite 100 remote.rkey 0 [⟨lkey, 0, 11⟩])) _ .unit _ :=
    ends_conn admits (Direct.call_rdmaWrite (d := { e with
      conn := e.conn.withBytes lkey 0 stillAlive, handled := d.handled + 1, calls := e.calls + 1 })
        twice.running notFull gathered written 100)
  have polled : Ends readings pollCompletions _ _ _ := ends_pollCompletions { e with
    conn := e.conn.withBytes lkey 0 stillAlive
    backend := { e.backend with memoryStore := store }
    handled := d.handled + 1 + 2
    calls := e.calls + 1 + 1 } empty room 100 0 .write 11
  rw [session, granted.session, sending.session] at polled
  refine ⟨_, ends_bind (ends_register (call_regMr_handled registered)) (ends_bind
    (ends_conn trivial (Direct.call_writeLocalMr inside (by decide)))
      (ends_bind wrote (ends_bind polled (.done _ _)))), twice.running⟩

end Program

/-- **Running out of receives.**  For any number of SENDs and any number of receives, over every
transport and in every schedule of client and server: `demo_err_rnr` ends without an error or a
panic.  As many SENDs succeed as the server has receives, each with its whole message; the others
are told so; and the connection then still carries a WRITE.  Behind every SEND, and behind the
WRITE, exactly one completion is polled, with the WRID of the call.

* `supports`: the two registrations of the program succeed.
* `capacity`: the completion queue can hold one entry.  With none, every SEND is refused before it
  is sent, and the program ends with that error. -/
theorem err_rnr_demonstrated {config : ServerConfig} {sends : UInt64}
    (supports : Supports config readings sends) {cqCapacity : ℕ} (capacity : 0 < cqCapacity)
    (transport : Transport) (now : ℕ) (draws : ℕ → UInt32) (sessionId : UInt32) :
    Settles (Deployment.Turn readings)
      (.launch transport config now draws sessionId cqCapacity ((demoErrRnr sends).start ()))
      fun final => final.program = .done (.ok
        (sendLines sessionId config.recvQueueDepth.toNat sends ++ [writtenLine sessionId],
          UInt64.ofNat (min config.recvQueueDepth.toNat sends.toNat)), ()) := by
  have length : (wrids sends).length = sends.toNat := by
    rw [wrids, List.length_map, List.length_range]
  obtain ⟨mr, d₁, d₂, registered, filled, sending, once⟩ :=
    yields_opening supports capacity transport now sessionId
  obtain ⟨d₃, sent, later, frames⟩ := sending.loop (wrids sends) 0 (by
    rw [length]
    have bound := sends.toNat_lt
    show 0 + sends.toNat < 2 ^ 64
    omega)
  rw [length, UInt64.zero_add] at sent
  rw [length, once] at frames
  obtain ⟨d₄, closing, running⟩ := yields_closing supports later frames
    (sendLines sessionId config.recvQueueDepth.toNat sends)
    (UInt64.ofNat (min config.recvQueueDepth.toNat sends.toNat))
  have whole : Ends readings (demoErrRnr sends)
      (.start transport config now sessionId cqCapacity) _ d₄ :=
    ends_bind registered (ends_bind filled (ends_bind sent closing))
  exact Deployment.settles_of_yields whole running draws fun final done _ => done

/-- Three SENDs to a server with two receives, over the transport that both parties use.  The third
SEND is refused, and leaves one completion like the others. -/
theorem err_rnr_demonstrated_threeSends :
    Settles (Deployment.Turn fun _ => (0, fun i => UInt32.ofNat (i + 1)))
      (.launch .standard { recvQueueDepth := 2 } 0 (fun i => UInt32.ofNat (i + 1)) 7 16
        ((demoErrRnr 3).start ()))
      fun final => final.program = .done (.ok
        ([.sent [⟨1, 0, .send, 0, 15, 7⟩], .sent [⟨2, 0, .send, 0, 15, 7⟩],
          .notReady [⟨3, 0x10, .send, 0, 0, 7⟩], .written [⟨100, 0, .write, 0, 11, 7⟩]], 2),
        ()) := by
  have supports : Supports { recvQueueDepth := 2 }
      (fun _ => (0, fun i => UInt32.ofNat (i + 1))) 3 :=
    ⟨by decide, by decide, by decide, Nat.zero_lt_one.trans MemoryStore.one_lt_card_drawable,
      MemoryStore.one_lt_card_drawable⟩
  exact err_rnr_demonstrated supports (by decide) .standard 0 (fun i => UInt32.ofNat (i + 1)) 7

end Demo

end Rdows
