import Rdows.Server.AccessRights

/-!
# The bookkeeping of a session

The counters and parameters of a session over whole runs: outstanding reads, credits to return,
registrations in the current window, posted receives, and what CONNECT agreed on.

* `Books` relates them before and after one message of a Ready session, together with a tally of the
  replies.  `Session.books_plan` proves it in one pass over the handlers: for every point where a
  failing send can cut a handler short, and, with the bound on the credits and the only possible
  panic, for every point where it ends.
* `Opens` is the same for a session that waits for CONNECT.
* `ServerRun.bookkeeping` is the invariant of every run.

## Credits

Every completed SEND is a credit to return.  The session counts them and returns a quarter of the
initial credit count at once, so the account has two sides: what the CREDIT_UPDATEs have returned
and what is still counted add up to the RECV_COMPs.  The update is sent before the count is reset.
If that send fails, the account is still balanced, but the count stands at a quarter; this is why
the bound below a quarter is stated for a session that goes on or has lost no send.

## Panics

The counters are machine words that are added to with a check.  Their bounds show that no check ever
fails, whatever frames come: the only panic that a peer can bring about is inside
`MemoryStore::register` (`RegisterPanics`), where the total of the bytes can overflow, the L_Keys
can run out, or a region can be larger than any `Vec`.
-/

namespace Rdows

open Rust

/-! ### Ledger and tally -/

/-- The counters and parameters of a session, without its store and its pending operation. -/
structure Ledger where
  state : SessionState
  sessionId : UInt32
  pd : ProtectionDomain
  maxMsgSize : UInt32
  icc : UInt32
  maxOutstandingReads : UInt32
  mrRegRateLimit : UInt32
  outstandingReads : UInt32
  mrRegCount : UInt32
  recvQueueDepth : UInt32
  sendsSinceLastCredit : UInt32

/-- What CONNECT agreed on: the identifier of the session, its domain and the size of messages. -/
def Session.agreed (s : Session) : UInt32 × ProtectionDomain × UInt32 :=
  (s.sessionId, s.pd, s.maxMsgSize)

/-- The ledger of a session. -/
def Session.ledger (s : Session) : Ledger where
  state := s.state
  sessionId := s.sessionId
  pd := s.pd
  maxMsgSize := s.maxMsgSize
  icc := s.icc
  maxOutstandingReads := s.maxOutstandingReads
  mrRegRateLimit := s.mrRegRateLimit
  outstandingReads := s.outstandingReads
  mrRegCount := s.mrRegCount
  recvQueueDepth := s.recvQueueDepth
  sendsSinceLastCredit := s.sendsSinceLastCredit

namespace RdowsMessage

/-- The credits that a message returns. -/
def creditIncrement : RdowsMessage → ℕ
  | .creditUpdate _ payload => payload.creditIncrement.toNat
  | _ => 0

/-- One for a CONNECT_ACK, and 0 for every other message. -/
def connectAcks : RdowsMessage → ℕ
  | .connectAck _ _ => 1
  | _ => 0

end RdowsMessage

/-- The credits that some replies return together. -/
def increments (replies : List RdowsMessage) : ℕ :=
  (replies.map RdowsMessage.creditIncrement).sum

/-- The number of CONNECT_ACKs among some replies. -/
def connectAcks (replies : List RdowsMessage) : ℕ := (replies.map RdowsMessage.connectAcks).sum

/-- A quarter of the initial credits: when so many SENDs have been completed, they are returned at
once. -/
def creditQuarter : ℕ := 16383

/-- What one message does to the ledger `a` of a Ready session, if the replies returned `credits`
credits and had `comps` RECV_COMPs and `acks` CONNECT_ACKs among them. -/
structure Books (a : Ledger) (credits comps acks : ℕ) (b : Ledger) : Prop where
  /-- What CONNECT agreed on stays. -/
  agreed : (b.sessionId, b.pd, b.maxMsgSize) = (a.sessionId, a.pd, a.maxMsgSize)
  /-- The configured limits stay. -/
  limits : (b.icc, b.maxOutstandingReads, b.mrRegRateLimit)
    = (a.icc, a.maxOutstandingReads, a.mrRegRateLimit)
  state : b.state = a.state ∨ b.state = .closed
  noAck : acks = 0
  reads : b.outstandingReads = a.outstandingReads
  rate : a.mrRegCount ≤ a.mrRegRateLimit → b.mrRegCount ≤ b.mrRegRateLimit
  depth : b.recvQueueDepth ≤ a.recvQueueDepth
  credits : credits + b.sendsSinceLastCredit.toNat = comps + a.sendsSinceLastCredit.toNat

/-- What does not touch the ledger and does not count among the replies keeps the books. -/
theorem Books.still (a : Ledger) : Books a 0 0 0 a where
  agreed := rfl
  limits := rfl
  state := .inl rfl
  noAck := rfl
  reads := rfl
  rate := id
  depth := UInt32.le_refl _
  credits := rfl

/-- Where a handler ends the books are kept, the credits to return are below their quarter, and it
panicked only where it may. -/
structure Booked (a : Ledger) (mayPanic : Panic → Prop) (o : Outcome RdowsError Unit)
    (credits comps acks : ℕ) (b : Ledger) : Prop where
  books : Books a credits comps acks b
  quarter : b.sendsSinceLastCredit.toNat < creditQuarter
  panics : ∀ p, o = .panic p → mayPanic p

/-- A handler that returns without touching the ledger. -/
theorem Booked.still {a : Ledger} {mayPanic : Panic → Prop}
    (quarter : a.sendsSinceLastCredit.toNat < creditQuarter) :
    Booked a mayPanic (.ok ()) 0 0 0 a where
  books := .still a
  quarter := quarter
  panics p panicked := by cases panicked

namespace Session

open ServerRun (recvComps)

variable {s : Session} {now : ℕ} {draws : ℕ → UInt32} {msg : RdowsMessage} {n : UInt32}

/-- The message is an MR_REG for which `MemoryStore::register` panics. -/
def RegisterPanics (s : Session) (draws : ℕ → UInt32) (msg : RdowsMessage) (p : Panic) : Prop :=
  ∃ header payload, msg = .mrReg header payload ∧
    ((MemoryStore.register draws payload.pd payload.accessFlags payload.regionLen).run
      s.memoryStore).1 = .panic p

/-- The books after some replies, as `Books` for the ledgers of two sessions and the tally of the
replies between them. -/
abbrev Kept (s : Session) (sent : List RdowsMessage) (t : Session) : Prop :=
  Books s.ledger (increments sent) (recvComps sent) (connectAcks sent) t.ledger

/-- The books where the handler of a message ends. -/
abbrev Ends (s : Session) (draws : ℕ → UInt32) (msg : RdowsMessage) (o : Outcome RdowsError Unit)
    (sent : List RdowsMessage) (t : Session) : Prop :=
  Booked s.ledger (s.RegisterPanics draws msg) o (increments sent) (recvComps sent)
    (connectAcks sent) t.ledger

/-- The count of registrations once the window is up to date. -/
theorem refreshed_eq (s : Session) (now : ℕ) : ∃ count start,
    s.refreshed now = { s with mrRegCount := count, mrRegWindowStart := start } ∧
      (s.mrRegCount ≤ s.mrRegRateLimit → count ≤ s.mrRegRateLimit) := by
  unfold refreshed
  split
  · exact ⟨0, now, rfl, fun _ => UInt32.le_iff_toNat_le.mpr (Nat.zero_le _)⟩
  · exact ⟨_, _, rfl, id⟩

/-- A count that is below its limit can be counted up once. -/
theorem add_one_le_of_not_le {a b : UInt32} (below : ¬ b ≤ a) : a + 1 ≤ b := by
  have lt := UInt32.lt_iff_toNat_lt.mp (UInt32.not_le.mp below)
  have bound := b.toNat_lt
  rw [UInt32.le_iff_toNat_le, toNat_add32 (show a.toNat + 1 < 2 ^ 32 by omega)]
  exact lt

section Ready

variable (quarter : s.sendsSinceLastCredit.toNat < creditQuarter)
include quarter

/-- The books of MR_REG: the count stays within its limit. -/
theorem books_planMrReg (header : RdowsHeader) (payload : MrRegPayload) :
    (s.planMrReg now draws header.wrid payload).Upholds numbering s.Kept
      (s.Ends draws (.mrReg header payload)) n := by
  obtain ⟨count, start, refreshed, within⟩ := s.refreshed_eq now
  unfold planMrReg
  rw [refreshed]
  dsimp only
  split
  · have kept : s.Kept [] { s with mrRegCount := count, mrRegWindowStart := start } :=
      { Books.still s.ledger with rate := within }
    exact ⟨kept, kept, quarter, by simp⟩
  · rename_i below
    have kept : s.Kept [] { s with mrRegCount := count + 1, mrRegWindowStart := start } :=
      { Books.still s.ledger with rate := fun _ => add_one_le_of_not_le below }
    refine upholds_calling ?_ ?_
    · intro p panics
      refine ⟨kept, quarter, ?_⟩
      intro p' same
      cases same
      exact ⟨header, payload, rfl, panics⟩
    · intro result _
      exact ⟨kept, kept, quarter, by simp⟩

/-- The books of SEND: a receive is taken from the queue if there is one. -/
theorem books_planSend (header : RdowsHeader) :
    (s.planSend header).Upholds numbering s.Kept (s.Ends draws msg) n := by
  have still := Books.still s.ledger
  unfold planSend
  split
  · exact ⟨still, .still quarter⟩
  · rename_i posted
    refine ⟨{ still with depth := ?_ }, quarter, by simp⟩
    show s.recvQueueDepth - 1 ≤ s.recvQueueDepth
    have positive : (1 : UInt32).toNat ≤ s.recvQueueDepth.toNat :=
      Nat.one_le_iff_ne_zero.mpr fun zero => posted (UInt32.toNat.inj zero)
    rw [UInt32.le_iff_toNat_le, toNat_sub32 positive]
    exact Nat.sub_le _ _

/-- The books of SEND_DATA: a completed SEND is counted, and the count is returned when it has
reached a quarter of the initial credits. -/
theorem books_planSendData (icc : s.icc = defaultIcc) :
    s.planSendData.Upholds numbering s.Kept (s.Ends draws msg) n := by
  have still := Books.still s.ledger
  unfold planSendData
  split
  · refine ⟨still, ?_⟩
    -- the count is below its quarter, so it can be counted up
    have room : s.sendsSinceLastCredit.toNat + 1 < 2 ^ 32 := by
      unfold creditQuarter at quarter
      omega
    have counted : (s.sendsSinceLastCredit + 1).toNat = s.sendsSinceLastCredit.toNat + 1 :=
      toNat_add32 room
    have added : checkedAdd32 s.sendsSinceLastCredit 1 = some (s.sendsSinceLastCredit + 1) :=
      if_pos room
    -- between the RECV_COMP and the CREDIT_UPDATE the SEND is counted and not yet returned
    have owed : Books s.ledger 0 1 0
        { s with sendsSinceLastCredit := s.sendsSinceLastCredit + 1 }.ledger := by
      refine { still with credits := ?_ }
      show 0 + (s.sendsSinceLastCredit + 1).toNat = 1 + s.sendsSinceLastCredit.toNat
      omega
    unfold planCredits
    dsimp only
    rw [added]
    dsimp only
    split
    · refine ⟨owed, { still with credits := ?_ }, Nat.zero_lt_succ _, by simp⟩
      show 0 + ((s.sendsSinceLastCredit + 1).toNat + 0) + 0 = 1 + s.sendsSinceLastCredit.toNat
      omega
    · rename_i below
      rw [icc] at below
      exact ⟨owed, UInt32.lt_iff_toNat_lt.mp (UInt32.not_le.mp below), by simp⟩
  · exact .still quarter
  · exact ⟨still, .still quarter⟩
  · exact ⟨still, .still quarter⟩

/-- **The books of a dispatched message** are kept at every reply and at the end, however it is
handled.  Most messages do not touch the ledger. -/
theorem books_planDispatch (icc : s.icc = defaultIcc) (inv : s.memoryStore.StoreInv) :
    (s.planDispatch now draws msg).Upholds numbering s.Kept (s.Ends draws msg) n := by
  have still := Books.still s.ledger
  have done : Booked s.ledger (s.RegisterPanics draws msg) (.ok ()) 0 0 0 s.ledger := .still quarter
  -- the ledger is touched by MR_REG, SEND and SEND_DATA only; the others must not panic
  cases msg with
  | mrReg header payload => exact books_planMrReg quarter header payload
  | mrDereg header payload =>
      unfold planDispatch planMrDereg
      refine upholds_calling ?_ fun result _ => ⟨still, done⟩
      intro p panics
      have safe := MemoryStore.deregister_not_isPanic inv payload.pd payload.lkey
      rw [panics] at safe
      exact absurd trivial safe
  | send header payload => exact books_planSend quarter header
  | sendData header payload => exact books_planSendData quarter icc
  | write header payload =>
      unfold planDispatch planWrite
      dsimp only
      split
      · exact ⟨still, done⟩
      · rename_i p panics
        exact absurd panics (MemoryStore.validateRkey_ne_panic _ _ _ _)
      · exact done
  | writeData header payload =>
      unfold planDispatch planWriteData
      dsimp only
      split
      · refine upholds_calling ?_ fun result _ => ?_
        · intro p panics
          exact absurd panics (MemoryStore.writeRegion_ne_panic _ _ _ _ _)
        · rcases result with code | _
          · exact ⟨still, done⟩
          · exact ⟨still, done⟩
      · exact ⟨still, done⟩
      · exact ⟨still, done⟩
      · exact ⟨still, done⟩
  | readReq header payload =>
      unfold planDispatch planReadReq
      dsimp only
      split
      · exact ⟨still, done⟩
      · split
        · exact ⟨still, done⟩
        · rename_i p panics
          exact absurd panics (MemoryStore.readRegion_ne_panic _ _ _ _ _)
        · exact ⟨still, done⟩
  | atomicReq header payload =>
      unfold planDispatch planAtomicReq
      dsimp only
      split
      · exact ⟨still, done⟩
      · refine upholds_calling ?_ fun result _ => ?_
        · intro p panics
          exact absurd panics (MemoryStore.atomicOp_ne_panic _ _ _ _ _ _ _)
        · rcases result with code | _
          · exact ⟨still, done⟩
          · exact ⟨still, done⟩
  | ack header => exact done
  | _ => exact ⟨still, done⟩

/-- A message that is not dispatched does not touch the ledger, once the session is connected. -/
theorem Undispatched.books {plan : Plan} (h : s.Undispatched msg plan)
    (connected : s.state ≠ .awaitingConnect) :
    plan.Upholds numbering s.Kept (s.Ends draws msg) n := by
  have still := Books.still s.ledger
  have done : Booked s.ledger (s.RegisterPanics draws msg) (.ok ()) 0 0 0 s.ledger := .still quarter
  cases h with
  | connects _ awaiting => exact absurd awaiting connected
  | closed => exact done
  | oversize => exact ⟨still, done⟩
  | gap _ expected => exact ⟨still, done⟩
  | disconnect header => exact ⟨{ still with state := .inr rfl }, quarter, by simp⟩
  | creditUpdate header payload => exact done

/-- **The books of a message** that comes once the session is connected, whether or not it is
dispatched. -/
theorem books_plan (icc : s.icc = defaultIcc) (inv : s.memoryStore.StoreInv)
    (connected : s.state ≠ .awaitingConnect) :
    (s.plan now draws msg).Upholds numbering s.Kept (s.Ends draws msg) n := by
  by_cases reaches : s.ReachesDispatch msg
  · rw [plan_of_reaches reaches]
    exact books_planDispatch (s := s.accepting msg) quarter icc inv
  · exact (undispatched_plan reaches now draws).books quarter connected

end Ready

/-! ### Before CONNECT -/

/-- What one message does to a session that waits for CONNECT: it can set what CONNECT agrees on,
and the session is Ready once it has sent its CONNECT_ACK. -/
structure Opens (s : Session) (sent : List RdowsMessage) (t : Session) : Prop where
  untouched : (t.memoryStore, t.pendingOp, t.icc, t.maxOutstandingReads, t.mrRegRateLimit,
      t.outstandingReads, t.mrRegCount, t.recvQueueDepth, t.sendsSinceLastCredit)
    = (s.memoryStore, s.pendingOp, s.icc, s.maxOutstandingReads, s.mrRegRateLimit,
      s.outstandingReads, s.mrRegCount, s.recvQueueDepth, s.sendsSinceLastCredit)
  uncounted : increments sent = 0 ∧ recvComps sent = 0
  size : s.maxMsgSize ≤ defaultMaxMsgSize → t.maxMsgSize ≤ defaultMaxMsgSize
  acked : connectAcks sent = 0 → t.state ≠ .ready
  waits : connectAcks sent ≠ 0 → t.state ≠ .awaitingConnect

/-- The next number is not among what CONNECT sets. -/
theorem Opens.renumber {t : Session} {sent : List RdowsMessage} (opens : s.Opens sent t)
    (n : UInt32) : s.Opens sent (t.renumber n) :=
  ⟨opens.untouched, opens.uncounted, opens.size, opens.acked, opens.waits⟩

/-- Nothing panics before CONNECT. -/
theorem opens_plan (awaiting : s.state = .awaitingConnect) :
    (s.plan now draws msg).Upholds numbering s.Opens
      (fun o sent t => s.Opens sent t ∧ ∀ p, o ≠ .panic p) n := by
  have notReady : s.state ≠ .ready := by
    rw [awaiting]
    decide
  rw [plan_of_awaiting awaiting]
  cases msg with
  | connect header payload =>
      unfold planConnect
      dsimp only
      split
      · exact ⟨⟨rfl, ⟨rfl, rfl⟩, id, fun _ => notReady, fun acked => absurd rfl acked⟩,
          ⟨rfl, ⟨rfl, rfl⟩, id, fun _ => by simp, fun acked => absurd rfl acked⟩, by simp⟩
      -- what was agreed on stands already while the CONNECT_ACK is being sent
      · have size : min payload.maxMsgSize defaultMaxMsgSize ≤ defaultMaxMsgSize := by
          show (if _ ≤ _ then _ else _) ≤ _
          split
          · assumption
          · exact UInt32.le_refl _
        exact ⟨⟨rfl, ⟨rfl, rfl⟩, fun _ => size, fun _ => notReady, fun acked => absurd rfl acked⟩,
          ⟨rfl, ⟨rfl, rfl⟩, fun _ => size, fun noAck => absurd noAck Nat.one_ne_zero,
            fun _ => by simp⟩, by simp⟩
  | _ => exact ⟨⟨rfl, ⟨rfl, rfl⟩, id, fun _ => notReady, fun acked => absurd rfl acked⟩, by simp⟩

/-! ### The refusal of READ_REQ -/

/-- The reply says that the receiver is not ready. -/
def isRnr : RdowsMessage → Bool
  | .error _ payload => payload.errorCode = .errRnr
  | _ => false

/-- READ_REQ is refused for too many outstanding reads only if there are too many. -/
theorem readReq_not_rnr (room : ¬ s.maxOutstandingReads ≤ s.outstandingReads)
    (header : RdowsHeader) (payload : ReadReqPayload) :
    (s.plan now draws (.readReq header payload)).Throughout numbering
      (fun sent _ => ∀ m ∈ sent, isRnr m = false) n := by
  have none : ∀ m ∈ ([] : List RdowsMessage), isRnr m = false := by simp
  have one {m : RdowsMessage} (h : isRnr m = false) : ∀ m' ∈ [m], isRnr m' = false := by simpa
  by_cases reaches : s.ReachesDispatch (.readReq header payload)
  · rw [plan_of_reaches reaches]
    show ((s.accepting _).planReadReq header payload).Throughout numbering _ _
    unfold planReadReq
    rw [if_neg (show ¬ (s.accepting _).maxOutstandingReads ≤ (s.accepting _).outstandingReads
      from room)]
    split
    · rename_i code failed
      have access := MemoryStore.readRegion_isAccessError failed
      refine ⟨none, one ?_⟩
      show decide (code = .errRnr) = false
      -- the codes of the store are others
      rcases access with rfl | rfl | rfl | rfl | rfl <;> rfl
    · exact none
    · exact ⟨none, one rfl⟩
  · have undispatched := undispatched_plan reaches now draws
    generalize s.plan now draws (.readReq header payload) = plan at undispatched ⊢
    cases undispatched with
    | connects => exact none
    | closed => exact none
    | oversize => exact ⟨none, one rfl⟩
    | gap _ expected => exact ⟨none, one rfl⟩

end Session

/-! ### Whole runs -/

namespace ServerRun

open Session

/-- The session's bookkeeping, given the replies `sent` so far.  `reliable` says that no send has
failed. -/
structure Bookkept (config : ServerConfig) (reliable : Prop) (sent : List RdowsMessage)
    (r : ServerRun) : Prop where
  /-- The configured limits are never touched. -/
  limits : (r.session.icc, r.session.maxOutstandingReads, r.session.mrRegRateLimit)
    = (defaultIcc, config.maxOutstandingReads, config.mrRegRateLimit)
  reads : r.session.outstandingReads = 0
  rate : r.session.mrRegCount ≤ r.session.mrRegRateLimit
  depth : r.session.recvQueueDepth ≤ config.recvQueueDepth
  /-- Every completed SEND was returned as a credit or is still to be returned. -/
  credits : increments sent + r.session.sendsSinceLastCredit.toNat = recvComps sent
  quarter : r.running = true ∨ reliable → r.session.sendsSinceLastCredit.toNat < creditQuarter
  size : r.session.maxMsgSize ≤ defaultMaxMsgSize
  /-- Nothing was registered and nothing is pending before a CONNECT is accepted. -/
  fresh : connectAcks sent = 0 →
    r.session.memoryStore = .new config.maxRegionsPerSession config.maxTotalBytesPerSession ∧
      r.session.pendingOp = .none
  awaits : connectAcks sent = 0 → r.running = true → r.session.state = .awaitingConnect
  connected : connectAcks sent ≠ 0 → r.session.state ≠ .awaitingConnect

/-- The books of a fresh session. -/
theorem bookkept_new (config : ServerConfig) (now : ℕ) (reliable : Prop) :
    Bookkept config reliable [] (new config now) where
  limits := rfl
  reads := rfl
  rate := UInt32.le_iff_toNat_le.mpr (Nat.zero_le _)
  depth := UInt32.le_refl _
  credits := rfl
  quarter _ := Nat.zero_lt_succ _
  size := UInt32.le_refl _
  fresh _ := ⟨rfl, rfl⟩
  awaits _ _ := rfl
  connected acked := absurd rfl acked

/-- The credits of two parts of a run add up. -/
theorem increments_append (front back : List RdowsMessage) :
    increments (front ++ back) = increments front + increments back := by
  simp [increments]

/-- So do the CONNECT_ACKs. -/
theorem connectAcks_append (front back : List RdowsMessage) :
    connectAcks (front ++ back) = connectAcks front + connectAcks back := by
  simp [connectAcks]

section Step

variable {config : ServerConfig} {reliable : Prop} {sent : List RdowsMessage} {r : ServerRun}
  {env : Env} {msg : RdowsMessage}

/-- How a message of a connected session was handled. -/
theorem Bookkept.played (kept : Bookkept config reliable sent r)
    (inv : r.session.memoryStore.StoreInv) (running : r.running = true)
    (connected : r.session.state ≠ .awaitingConnect) (env : Env) (msg : RdowsMessage) :
    r.session.Ends env.draws msg (r.played env msg).1 (r.handle env msg).1.replies
        (r.handle env msg).2.session ∨
      r.session.Kept (r.handle env msg).1.replies (r.handle env msg).2.session ∧
        (r.played env msg).1.IsErr ∧ (r.handle env msg).2.running = false ∧
          ∃ i, env.transport i ≠ none :=
  handle_upholds (fun _ _ _ h => h) (fun _ _ _ _ h => h)
    (books_plan (kept.quarter (.inl running)) (congrArg Prod.fst kept.limits) inv connected)

/-- The books of a message of a connected session, however it was handled. -/
theorem Bookkept.books (kept : Bookkept config reliable sent r)
    (inv : r.session.memoryStore.StoreInv) (running : r.running = true)
    (connected : r.session.state ≠ .awaitingConnect) (env : Env) (msg : RdowsMessage) :
    r.session.Kept (r.handle env msg).1.replies (r.handle env msg).2.session := by
  rcases kept.played inv running connected env msg with ends | ⟨cut, -⟩
  · exact ends.books
  · exact cut

/-- How a message was handled by a session that waits for CONNECT. -/
theorem opens_handle (awaiting : r.session.state = .awaitingConnect) (env : Env)
    (msg : RdowsMessage) :
    r.session.Opens (r.handle env msg).1.replies (r.handle env msg).2.session ∧
      ∀ p, (r.played env msg).1 ≠ .panic p := by
  have opens : (r.session.plan env.now env.draws msg).Upholds numbering r.session.Opens
      (fun o sent t => r.session.Opens sent t ∧ ∀ p, o ≠ .panic p) r.session.nextSeq :=
    opens_plan awaiting
  rcases handle_upholds (fun _ _ n h => h.renumber n)
    (fun _ _ _ n h => ⟨h.1.renumber n, h.2⟩) opens with ends | ⟨cut, failed, -⟩
  · exact ends
  · refine ⟨cut, fun p panicked => ?_⟩
    rw [panicked] at failed
    exact failed

/-- A message of a connected session. -/
theorem Bookkept.handle_connected (kept : Bookkept config reliable sent r)
    (inv : r.session.memoryStore.StoreInv) (running : r.running = true)
    (connected : r.session.state ≠ .awaitingConnect) :
    Bookkept config (reliable ∧ ∀ i, env.transport i = none)
      ((r.handle env msg).1.replies ++ sent) (r.handle env msg).2 := by
  have books := kept.books inv running connected env msg
  have acked : connectAcks sent ≠ 0 := fun noAck => connected (kept.awaits noAck running)
  have some : connectAcks ((r.handle env msg).1.replies ++ sent) ≠ 0 := by
    rw [connectAcks_append]
    omega
  refine
    { limits := books.limits.trans kept.limits
      reads := books.reads.trans kept.reads
      rate := books.rate kept.rate
      depth := UInt32.le_trans books.depth kept.depth
      credits := ?_
      quarter := ?_
      size := ?_
      fresh := fun noAck => absurd noAck some
      awaits := fun noAck => absurd noAck some
      connected := fun _ => ?_ }
  · have before := kept.credits
    have now : _ + (r.handle env msg).2.session.sendsSinceLastCredit.toNat
      = _ + r.session.sendsSinceLastCredit.toNat := books.credits
    rw [increments_append, recvComps_append]
    omega
  -- The quarter is only known where the plan was played to its end, and a cut stops the session.
  · intro sends
    rcases kept.played inv running connected env msg with ends | ⟨-, -, stopped, i, refused⟩
    · exact ends.quarter
    · rcases sends with running' | ⟨-, accepts⟩
      · rw [stopped] at running'
        cases running'
      · exact absurd (accepts i) refused
  · have agreed : (r.handle env msg).2.session.maxMsgSize = r.session.maxMsgSize :=
      congrArg (fun terms => terms.2.2) books.agreed
    rw [agreed]
    exact kept.size
  · rcases books.state with same | closed
    · exact fun awaiting => connected (same.symm.trans awaiting)
    · exact fun awaiting => by cases closed.symm.trans awaiting

/-- A message of a session that waits for CONNECT. -/
theorem Bookkept.handle_awaiting (kept : Bookkept config reliable sent r)
    (running : r.running = true) (awaiting : r.session.state = .awaitingConnect) :
    Bookkept config (reliable ∧ ∀ i, env.transport i = none)
      ((r.handle env msg).1.replies ++ sent) (r.handle env msg).2 := by
  obtain ⟨untouched, ⟨noCredits, noComps⟩, size, acked, waits⟩ :=
    (opens_handle awaiting env msg).1
  simp only [Prod.mk.injEq] at untouched
  obtain ⟨store, pending, icc, maxReads, limit, reads, count, depth, sends⟩ := untouched
  have noAckBefore : connectAcks sent = 0 := by
    by_contra some
    exact kept.connected some awaiting
  have acks : connectAcks ((r.handle env msg).1.replies ++ sent)
      = connectAcks (r.handle env msg).1.replies := by
    rw [connectAcks_append, noAckBefore, Nat.add_zero]
  refine
    { limits := ?_
      reads := reads.trans kept.reads
      rate := ?_
      depth := ?_
      credits := ?_
      quarter := ?_
      size := size kept.size
      fresh := ?_
      awaits := ?_
      connected := ?_ }
  · rw [icc, maxReads, limit]
    exact kept.limits
  · rw [count, limit]
    exact kept.rate
  · rw [depth]
    exact kept.depth
  · rw [increments_append, recvComps_append, noCredits, noComps, Nat.zero_add, Nat.zero_add, sends]
    exact kept.credits
  · intro _
    rw [sends]
    exact kept.quarter (.inl running)
  · intro _
    rw [store, pending]
    exact kept.fresh noAckBefore
  -- A session that runs without having acknowledged still waits: a refused CONNECT closes it.
  · intro noAck running'
    have ok := handle_running.mp running'
    rcases state : (r.handle env msg).2.session.state with _ | _ | _
    · rfl
    · exact absurd state (acked (acks ▸ noAck))
    · exact absurd state ok.2
  · rw [acks]
    exact waits

/-- **One turn of the loop keeps the books.** A failing send in this turn ends the reliability of
the run, not the account. -/
theorem Bookkept.step (kept : Bookkept config reliable sent r)
    (inv : r.session.memoryStore.StoreInv) (input : Env × WsMessage) :
    Bookkept config (reliable ∧ ∀ i, input.1.transport i = none)
      ((r.step input).1.replies ++ sent) (r.step input).2 := by
  rcases r.step_cases input with ⟨goesOn, runs, stays⟩ | ⟨msg, running, -, handles⟩
  · rw [stays]
    exact { kept with
      quarter := fun sends => kept.quarter (sends.imp runs And.left)
      awaits := fun noAck running => kept.awaits noAck (runs running) }
  · rw [handles]
    by_cases awaiting : r.session.state = .awaitingConnect
    · exact kept.handle_awaiting running awaiting
    · exact kept.handle_connected inv running awaiting

/-- No turn of the loop posts a receive or changes what an accepted CONNECT agreed on. -/
theorem Bookkept.step_monotone (kept : Bookkept config reliable sent r)
    (inv : r.session.memoryStore.StoreInv) (input : Env × WsMessage) :
    (r.step input).2.session.recvQueueDepth ≤ r.session.recvQueueDepth ∧
      (connectAcks sent ≠ 0 → (r.step input).2.session.agreed = r.session.agreed) := by
  rcases r.step_cases input with ⟨goesOn, -, stays⟩ | ⟨msg, running, -, handles⟩
  · rw [stays]
    exact ⟨UInt32.le_refl _, fun _ => rfl⟩
  · rw [handles]
    by_cases awaiting : r.session.state = .awaitingConnect
    · have depth := congrArg (fun view => view.2.2.2.2.2.2.2.1)
        (opens_handle awaiting input.1 msg).1.untouched
      exact ⟨UInt32.le_of_eq depth, fun acked => absurd awaiting (kept.connected acked)⟩
    · have books := kept.books inv running awaiting input.1 msg
      exact ⟨books.depth, fun _ => books.agreed⟩

end Step

/-- The books are kept in every run. -/
theorem bookkept_after (config : ServerConfig) (now : ℕ) (inputs : List (Env × WsMessage)) :
    Bookkept config (∀ input ∈ inputs, ∀ i, input.1.transport i = none)
      (allReplies ((new config now).seen inputs)) ((new config now).after inputs) := by
  induction inputs using List.reverseRecOn with
  | nil => exact bookkept_new config now _
  | append_singleton inputs input ih =>
      have next := ih.step (storeInv_after config now inputs) input
      rw [after_concat, seen_concat, allReplies, List.flatMap_cons]
      exact { next with
        quarter := fun sends => next.quarter (sends.imp_right fun accepts =>
          ⟨fun earlier mem => accepts earlier (List.mem_append_left _ mem),
            accepts input (by simp)⟩) }

/-- Later on, no receive is posted and what an accepted CONNECT agreed on stays. -/
theorem monotone_after (config : ServerConfig) (now : ℕ) (inputs later : List (Env × WsMessage)) :
    ((new config now).after (inputs ++ later)).session.recvQueueDepth
        ≤ ((new config now).after inputs).session.recvQueueDepth ∧
      (connectAcks (allReplies ((new config now).seen inputs)) ≠ 0 →
        ((new config now).after (inputs ++ later)).session.agreed
          = ((new config now).after inputs).session.agreed) := by
  induction later using List.reverseRecOn with
  | nil =>
      rw [List.append_nil]
      exact ⟨UInt32.le_refl _, fun _ => rfl⟩
  | append_singleton later input ih =>
      obtain ⟨depth, agreed⟩ := (bookkept_after config now (inputs ++ later)).step_monotone
        (storeInv_after config now (inputs ++ later)) input
      rw [← List.append_assoc, after_concat]
      refine ⟨UInt32.le_trans depth ih.1, fun acked => (agreed ?_).trans (ih.2 acked)⟩
      rw [seen, Machine.history_append, allReplies, List.flatMap_append, connectAcks_append]
      exact fun none => acked (Nat.eq_zero_of_add_eq_zero_left none)

/-- **The bookkeeping of a session.**  For every sequence of frames, clock readings, draws and send
failures, at every message boundary: the counters are in their bounds and the replies account for
the credits (`Bookkept`); receives are never posted again and what an accepted CONNECT agreed on
never changes; no update of a counter overflows or underflows, so that handling a message panics
only inside `MemoryStore::register`; and a READ_REQ is refused for outstanding reads only by a
server configured to allow none. -/
theorem bookkeeping (config : ServerConfig) (now : ℕ) (inputs : List (Env × WsMessage)) :
    Bookkept config (∀ input ∈ inputs, ∀ i, input.1.transport i = none)
      (allReplies ((new config now).seen inputs)) ((new config now).after inputs) ∧
    (∀ later, ((new config now).after (inputs ++ later)).session.recvQueueDepth
        ≤ ((new config now).after inputs).session.recvQueueDepth ∧
      (connectAcks (allReplies ((new config now).seen inputs)) ≠ 0 →
        ((new config now).after (inputs ++ later)).session.agreed
          = ((new config now).after inputs).session.agreed)) ∧
    (((new config now).after inputs).running = true →
      (∀ env msg p, ((Handler.handleMessage env msg).run
          ⟨((new config now).after inputs).session, []⟩).1 = .panic p →
        ((new config now).after inputs).session.RegisterPanics env.draws msg p) ∧
      ∀ env header payload,
        (∃ m ∈ (((new config now).after inputs).handle env (.readReq header payload)).1.replies,
          isRnr m = true) → config.maxOutstandingReads = 0) := by
  have kept := bookkept_after config now inputs
  have inv := storeInv_after config now inputs
  refine ⟨kept, monotone_after config now inputs, fun running => ⟨?_, ?_⟩⟩
  · intro env msg p panics
    rw [Handler.handleMessage_run] at panics
    by_cases awaiting : ((new config now).after inputs).session.state = .awaitingConnect
    · exact absurd panics ((opens_handle awaiting env msg).2 p)
    · rcases kept.played inv running awaiting env msg with ends | ⟨-, failed, -⟩
      · exact ends.panics p panics
      · rw [show (played _ env msg).1 = .panic p from panics] at failed
        exact failed.elim
  -- no read is outstanding between two messages, so only a maximum of 0 refuses
  · rintro env header payload ⟨m, mem, rnr⟩
    by_contra configured
    have room : ¬ ((new config now).after inputs).session.maxOutstandingReads
        ≤ ((new config now).after inputs).session.outstandingReads := by
      have maximum : ((new config now).after inputs).session.maxOutstandingReads
          = config.maxOutstandingReads := congrArg (fun limits => limits.2.1) kept.limits
      rw [maximum, kept.reads]
      intro zero
      exact configured (UInt32.toNat.inj (Nat.le_zero.mp (UInt32.le_iff_toNat_le.mp zero)))
    have none := handle_throughout (fun _ _ _ h => h) (readReq_not_rnr room header payload) m mem
    rw [none] at rnr
    cases rnr

end ServerRun

end Rdows
