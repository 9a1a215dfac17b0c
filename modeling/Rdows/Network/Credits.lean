import Mathlib.Algebra.Order.BigOperators.Group.List
import Rdows.Client.LocalMemory
import Rdows.Network.Holdings

/-!
# Credits are conserved

A credit is with the client, on its way back in a CREDIT_UPDATE, or counted by the server.  A SEND
that is completed moves one from the client to the server, at two different times: the server counts
it when it sends the RECV_COMP, and the client takes it off when it reads the RECV_COMP.
`Credited.balance` says that nothing is lost in between.

## What depends on it

The client's counter is a `u32` with overflow checks.  If credits could be duplicated, a
CREDIT_UPDATE would make it panic; if they could be lost, `post_send` would one day be refused for
good.  Neither happens: CREDIT_UPDATEs never follow each other, so that little is on its way when no
call waits, and the client always has credits left (`Known.credits_left`).

## The runs it is about

The invariant is kept by admitted moves (`Credited.moves`).  `credits_conserved` is about all runs
over a transport whose limit is not above the negotiated size, as long as nothing is lost on the way
to the client.  A frame of the client that is above the limit is not an exception: it ends the
session, and what was counted before stays counted.

The server's half is a fact about sessions (`Reached.credits`): what it has counted and what it has
returned differ by the SENDs it has completed.  The client's half is what an answer does to its
holdings (`Network.Holdings`).
-/

namespace Rdows

open Rust ServerRun

namespace RdowsConnection

/-- Gathering fails with a code of the protocol. -/
theorem gatherSgData_err {c : RdowsConnection} {sgList : List ScatterGatherEntry} {e : RdowsError}
    (failed : c.gatherSgData sgList = .err e) : ∃ code, e = .protocol code := by
  induction sgList with
  | nil => cases failed
  | cons sg rest ih =>
      rw [gatherSgData_cons] at failed
      rcases Outcome.bind_eq_err.mp failed with refused | ⟨data, -, failed⟩
      · rw [readLocalMr_eq_err refused, refusal]
        split <;> exact ⟨_, rfl⟩
      · rcases Outcome.bind_eq_err.mp failed with later | ⟨data', -, done⟩
        · exact ih later
        · cases done

/-- Nor does the answer to a SEND report a lack of credits. -/
theorem onRecvComp_failsWith (wrid : UInt64) (totalLen : UInt32) (m : RdowsMessage) :
    (onRecvComp wrid totalLen m).FailsWith (· ≠ .sendCreditsExhausted) := by
  cases m with
  | recvComp header =>
      refine .bind .get fun c => .bind (.lift fun e failed => ?_) fun credits =>
        .bind (.modify _) fun _ => .modify _
      generalize checkedSub32 c.sendCredits 1 = credits at failed
      cases credits <;> cases failed
  | error header err => exact .bind (.modify _) fun _ => .throw nofun
  | _ => exact .throw nofun

end RdowsConnection

/-- A `post_send` with credits left is not refused for lack of them. -/
theorem Verb.postSend_not_exhausted {c c' : RdowsConnection} {wrid : UInt64}
    {sgList : List ScatterGatherEntry} {result : Outcome RdowsError VerbValue}
    (credits : c.sendCredits ≠ 0)
    (started : (Verb.postSend wrid sgList).start.start c = .done result c') :
    result ≠ .err .sendCreditsExhausted := by
  have run := congrArg (Talk.map fun _ => VerbValue.unit) (c.postSend_start wrid sgList)
  have ended := run.symm.trans started
  by_cases full : c.cq.isFull = true
  · rw [if_pos full] at ended
    cases ended
    exact nofun
  rw [if_neg full, if_neg credits] at ended
  rcases gathered : c.gatherSgData sgList with data | e | p <;> rw [gathered] at ended
  · cases ended
  · obtain ⟨code, rfl⟩ := RdowsConnection.gatherSgData_err gathered
    cases ended
    exact nofun
  · cases ended
    exact nofun

namespace Network

open RdowsConnection

/-! ### Counting what is unread -/

theorem increments_cons (m : RdowsMessage) (rest : List RdowsMessage) :
    increments (m :: rest) = m.creditIncrement + increments rest := by
  simp [increments]

theorem creditIncrement_of_answer {m : RdowsMessage} (isAnswer : m.isCreditUpdate = false) :
    m.creditIncrement = 0 := by
  cases m with
  | creditUpdate header payload => cases isAnswer
  | _ => rfl

theorem increments_canonical (replies : List RdowsMessage) :
    increments (replies.map RdowsMessage.canonical) = increments replies := by
  have same (m : RdowsMessage) : m.canonical.creditIncrement = m.creditIncrement := by
    cases m <;> rfl
  rw [increments, increments, List.map_map]
  exact congrArg List.sum (List.map_congr_left fun m _ => same m)

theorem recvComps_canonical (replies : List RdowsMessage) :
    recvComps (replies.map RdowsMessage.canonical) = recvComps replies := by
  rw [recvComps, recvComps, List.countP_map]
  exact List.countP_congr fun m _ => by cases m <;> rfl

/-- Among messages that are all CREDIT_UPDATEs and never follow each other there is at most one, so
what they return is bounded by one increment. -/
theorem increments_le_of_spaced {unread : List RdowsMessage} {bound : ℕ}
    (spaced : unread.IsChain Apart) (notices : ∀ m ∈ unread, m.isCreditUpdate = true)
    (small : ∀ m ∈ unread, m.creditIncrement ≤ bound) : increments unread ≤ bound := by
  rcases unread with _ | ⟨m, _ | ⟨m', rest⟩⟩
  · exact Nat.zero_le _
  · rw [increments_cons]
    exact small m List.mem_cons_self
  · have first := notices m List.mem_cons_self
    have second := notices m' (List.mem_cons_of_mem _ List.mem_cons_self)
    rcases (List.isChain_cons_cons.mp spaced).1 with answer | answer
    · rw [first] at answer
      cases answer
    · rw [second] at answer
      cases answer

/-- The answers among some messages: those that are no CREDIT_UPDATEs. -/
def answersOf (messages : List RdowsMessage) : List RdowsMessage :=
  messages.filter fun m => !m.isCreditUpdate

/-- At most one answer is unread. -/
theorem Coherent.answersOf_le {events : List Event} {net : Network} {conn : RdowsConnection}
    (coherent : Coherent events net net.client) (held : net.client.connection = some conn) :
    (answersOf net.unread).length ≤ 1 := by
  have count {c : RdowsConnection} {unread : List (ℕ × RdowsMessage)}
      (linked : net.Linked c unread) :
      (answersOf net.unread).length = (answersIn unread).length := by
    rw [linked.unread_eq, answersOf, answersIn, List.filter_map, List.length_map]
    refine congrArg List.length (List.filter_congr fun u _ => ?_)
    exact congrArg not (isCreditUpdate_canonical u.2)
  generalize net.client = client at coherent held
  -- between calls there is no answer in the channel, and during one there is at most its own
  cases coherent with
  | idle settled =>
      obtain ⟨unread, linked, read, -⟩ := settled
      rw [count linked, read]
      exact Nat.zero_le _
  | ended settled answered =>
      obtain ⟨unread, linked, read, -⟩ := settled
      rw [count linked, read]
      exact Nat.zero_le _
  | requesting frames unread goal requests linked outstanding owes =>
      rw [count linked]
      cases outstanding with
      | owed read =>
          rw [read]
          exact Nat.zero_le _
      | arrived m frame only =>
          rw [only]
          exact Nat.le_refl _
  | failing p => cases held
  | crashed => cases held

/-! ### The server's part -/

/-- **A served frame moves credits**: what is counted and what is returned differ by the completed
SENDs. -/
theorem Reached.credits {config : ServerConfig} {now : ℕ} {server : ServerRun}
    (reached : Reached config now server) (later : ℕ) (draws : ℕ → UInt32) (message : WsMessage) :
    let out := server.step (.reliable later draws, message)
    increments out.1.replies + out.2.session.sendsSinceLastCredit.toNat
      = recvComps out.1.replies + server.session.sendsSinceLastCredit.toNat := by
  intro out
  obtain ⟨inputs, rfl, -, -⟩ := reached
  have before := (bookkept_after config now inputs).credits
  have after := (bookkept_after config now
    (inputs ++ [(.reliable later draws, message)])).credits
  rw [after_concat, seen_concat, allReplies, List.flatMap_cons, increments_append,
    recvComps_append] at after
  change increments out.1.replies + _ + out.2.session.sendsSinceLastCredit.toNat
    = recvComps out.1.replies + _ at after
  rw [allReplies] at before
  omega

theorem Reached.quarter {config : ServerConfig} {now : ℕ} {server : ServerRun}
    (reached : Reached config now server) :
    server.session.sendsSinceLastCredit.toNat < creditQuarter := by
  obtain ⟨inputs, rfl, reliable, -⟩ := reached
  exact (bookkept_after config now inputs).quarter (.inr reliable)

/-! ### The invariant -/

/-- Where the credits are, in every phase of the client.  While a RECV_COMP is unread, the credit it
stands for is counted on both sides, and the balance says so. -/
structure Credited (seen : List (Move × Event)) (net : Network) : Prop where
  /-- A SEND whose RECV_COMP is unread is counted on both sides. -/
  balance : ∀ conn, net.client.connection = some conn →
    conn.sendCredits.toNat + increments net.unread
      + net.server.session.sendsSinceLastCredit.toNat = defaultIcc.toNat + recvComps net.unread
  small : ∀ conn, net.client.connection = some conn →
    ∀ m ∈ net.unread, m.creditIncrement ≤ creditQuarter
  /-- A `post_send` that has ended was not refused for lack of credits. -/
  granted : ∀ wrid sgList before consumed result conn,
    net.client = .inCall (.postSend wrid sgList) before consumed (.done result conn) →
      result ≠ .err .sendCreditsExhausted
  returned : ∀ record, Event.returned record ∈ seen.map Prod.snd → ∀ wrid sgList,
    record.verb = .postSend wrid sgList → record.result ≠ .err .sendCreditsExhausted

section Step

variable {config : ServerConfig} {now : ℕ} {seen : List (Move × Event)} {net net' : Network}
  {conn : RdowsConnection}

/-- **The client has credits left** whenever no call waits: at most a quarter is counted, and at
most one increment is on its way. -/
theorem Known.credits_left (known : Known config now seen net) (credited : Credited seen net)
    (idle : net.client = .idle conn) : conn.sendCredits ≠ 0 := by
  have held : net.client.connection = some conn := by rw [idle]; rfl
  have settled := known.coherent.settled idle
  have way := increments_le_of_spaced (known.attuned.spaced conn held) settled.unread_creditUpdate
    (credited.small conn held)
  have balance := credited.balance conn held
  have counted := known.reached.quarter
  have icc : defaultIcc.toNat = 65535 := rfl
  intro zero
  rw [zero, icc] at balance
  unfold creditQuarter at way counted
  have none : (0 : UInt32).toNat = 0 := rfl
  omega

/-- A frame is served. -/
theorem Credited.served (credited : Credited seen net) (known : Known config now seen net)
    {tag : ℕ} {frame : Bytes} {rest : List (ℕ × Bytes)}
    (held : net.client.connection = some conn) (front : net.toServer = (tag, frame) :: rest)
    (running : net.server.running = true) {later : ℕ} {draws : ℕ → UInt32}
    (admitted : admits net.transport net.server (later, draws) frame = true) :
    let net' := net.served later draws tag frame rest
    (conn.sendCredits.toNat + increments net'.unread
      + net'.server.session.sendsSinceLastCredit.toNat
        = defaultIcc.toNat + recvComps net'.unread) ∧
    ∀ m ∈ net'.unread, m.creditIncrement ≤ creditQuarter := by
  intro net'
  obtain ⟨unread, told⟩ := known.attuned.serves known.coherent known.reached held front running
    admitted
  have moved : increments _ + net'.server.session.sendsSinceLastCredit.toNat = _ :=
    known.reached.credits later draws (net.transport.deliver frame)
  have balance := credited.balance conn held
  have quarter := known.reached.quarter
  -- Together with the quarter this bounds what a single CREDIT_UPDATE can return.
  have single : recvComps (net.server.step
      (.reliable later draws, net.transport.deliver frame)).1.replies ≤ 1 := by
    rcases told with ⟨silent, -⟩ | ⟨-, -, opcode, -, replies, -⟩
    · rw [silent]
      exact Nat.zero_le _
    · generalize (net.server.step _).1.replies = sent at replies
      cases replies with
      | silent => exact Nat.zero_le _
      | answer m kind => exact List.countP_le_length
      | returned header header' payload data => exact Nat.le_refl _
  rw [show net'.unread = _ from unread]
  constructor
  · rw [increments_append, recvComps_append, increments_canonical, recvComps_canonical]
    omega
  · intro m mem
    rcases List.mem_append.mp mem with old | new
    · exact credited.small conn held m old
    · have part : m.creditIncrement ≤ increments _ :=
        List.le_sum_of_mem (List.mem_map_of_mem new)
      rw [increments_canonical] at part
      omega

/-- A message is read. -/
theorem Credited.heard (credited : Credited seen net) (known : Known config now seen net)
    {verb : Verb} {before : RdowsConnection} {messages : List RdowsMessage}
    {finish : RdowsMessage → Local VerbValue} {tag : ℕ} {data : Bytes} {rest : List (ℕ × Bytes)}
    (phase : net.client = .inCall verb before none (.request [] conn finish))
    (requests : verb.Requests before messages finish)
    (front : net.toClient = (tag, data) :: rest) {conn' : RdowsConnection}
    (held : (answered verb before finish tag ((recvTurn (some (.ok data))).run conn)).connection
      = some conn') :
    conn'.sendCredits.toNat + increments (unreadIn rest)
        + net.server.session.sendsSinceLastCredit.toNat
      = defaultIcc.toNat + recvComps (unreadIn rest) := by
  have waits := Phase.connection_of_request phase
  obtain ⟨m, hears, unread, -⟩ := known.coherent.reads phase front
  have balance := credited.balance conn waits
  rw [unread, increments_cons, recvComps, List.countP_cons] at balance
  -- A RECV_COMP costs the client one credit, a CREDIT_UPDATE gives back what was under way.
  generalize answered verb before finish tag _ = client at hears held
  cases hears with
  | answer isAnswer =>
      have gains := (known.gains phase requests (by rw [unread]; exact List.mem_cons_self) isAnswer
        held).credits
      rw [creditIncrement_of_answer isAnswer] at balance
      rw [recvComps, List.countP_singleton] at gains
      rw [recvComps]
      omega
  | credits notice credits sum =>
      obtain rfl : _ = conn' := Option.some.inj ((Talk.receiver_request _ _ _).symm.trans held)
      have noComp : (!Handler.notRecvComp m) = false := by
        cases m with
        | creditUpdate header payload => rfl
        | _ => cases notice
      rw [noComp] at balance
      show credits.toNat + _ + _ = _
      rw [recvComps, sum]
      simp only [Bool.false_eq_true, if_false] at balance
      omega
  | overflow notice beyond p => cases held

/-- A `post_send` that is answered was not refused for lack of credits. -/
theorem granted_of_hears {wrid : UInt64} {sgList : List ScatterGatherEntry}
    {before : RdowsConnection} {messages : List RdowsMessage}
    {finish : RdowsMessage → Local VerbValue} {tag : ℕ} {m : RdowsMessage} {client : Phase}
    (requests : (Verb.postSend wrid sgList).Requests before messages finish)
    (hears : Hears (.postSend wrid sgList) before conn finish tag m client)
    {consumed : Option (ℕ × RdowsMessage)} {result : Outcome RdowsError VerbValue}
    {conn' : RdowsConnection}
    (ended : client = .inCall (.postSend wrid sgList) before consumed (.done result conn')) :
    result ≠ .err .sendCreditsExhausted := by
  cases requests with
  | postSend wrid sgList data gathered =>
  cases hears with
  | answer isAnswer =>
      cases ended
      intro exhausted
      rw [Method.run_mapValue] at exhausted
      rcases run : (onRecvComp wrid (UInt32.ofNat data.length) m).run (counted conn m) with
        ⟨a | e | p, d⟩ <;> rw [run] at exhausted
      · cases exhausted
      · cases exhausted
        exact onRecvComp_failsWith wrid _ m _ _ _ run rfl
      · cases exhausted
  | credits notice credits sum => cases ended
  | overflow notice beyond p =>
      cases ended
      exact nofun

/-- **Every move conserves the credits.** The cases are those of `Moves`; only serving a frame and
reading a message do anything to them. -/
theorem Credited.moves {move : Move} {event : Event} (credited : Credited seen net)
    (known : Known config now seen net) (admitted : net.admitted move = true)
    (moves : Moves net move event net') : Credited ((move, event) :: seen) net' := by
  -- only a call that returns adds to what is said about returned calls
  have quiet (event : Event) (other : ∀ record, event ≠ .returned record) :
      ∀ record, Event.returned record ∈ ((move, event) :: seen).map Prod.snd → ∀ wrid sgList,
        record.verb = .postSend wrid sgList → record.result ≠ .err .sendCreditsExhausted := by
    intro record mem
    rcases List.mem_cons.mp mem with last | earlier
    · exact absurd last.symm (other record)
    · exact credited.returned record earlier
  have silent (record : Returned) : Event.quiet ≠ .returned record := by
    intro same
    cases same
  cases moves with
  | stays =>
      exact ⟨credited.balance, credited.small, credited.granted, quiet _ silent⟩
  | @ends verb conn conn' result phase started same =>
      have idle : net.client.connection = some conn := by rw [phase]; rfl
      have same := Verb.holdings_of_done started
      refine ⟨?_, fun _ _ => credited.small conn idle, ?_, quiet _ silent⟩
      · intro c held
        obtain rfl := Talk.receiver_done held
        rw [same.credits]
        exact credited.balance conn idle
      · rintro wrid sgList before consumed result' c client
        cases client
        exact Verb.postSend_not_exhausted (known.credits_left credited phase) started
  | @asks verb conn conn' messages finish phase started requests same =>
      have idle : net.client.connection = some conn := by rw [phase]; rfl
      have same := Verb.holdings_of_request started
      refine ⟨?_, fun _ _ => credited.small conn idle, ?_, quiet _ silent⟩
      · intro c held
        obtain rfl : conn' = c :=
          Option.some.inj ((Talk.receiver_request _ _ _).symm.trans held)
        rw [same.credits]
        exact credited.balance conn idle
      · rintro wrid sgList before consumed result c client
        obtain ⟨-, -, -, talk⟩ := Phase.inCall.inj client
        exact absurd talk (Talk.request_ne_done _ _ _ _ _)
  | @sends verb before conn frame frames finish phase =>
      have waits := Phase.connection_of_request phase
      refine ⟨?_, fun _ _ => credited.small conn waits, ?_, quiet _ silent⟩
      · intro c held
        obtain rfl : conn = c :=
          Option.some.inj ((Talk.receiver_request _ _ _).symm.trans held)
        exact credited.balance conn waits
      · rintro wrid sgList before' consumed result c client
        obtain ⟨-, -, -, talk⟩ := Phase.inCall.inj client
        exact absurd talk (Talk.request_ne_done _ _ _ _ _)
  -- the one step that moves credits from the channel to the client
  | @reads verb before conn messages finish tag data rest phase requests front =>
      have waits := Phase.connection_of_request phase
      obtain ⟨m, hears, unread, -⟩ := known.coherent.reads phase front
      refine ⟨?_, ?_, ?_, quiet _ silent⟩
      · intro c held
        exact credited.heard known phase requests front held
      · intro c held later mem
        refine credited.small conn waits later ?_
        rw [unread]
        exact List.mem_cons_of_mem _ mem
      · intro wrid sgList before' consumed result c client
        have call := call_answered verb before finish tag ((recvTurn (some (.ok data))).run conn)
        rw [show answered verb before finish tag _ = _ from client] at call
        cases call
        exact granted_of_hears requests hears client
  | @loses verb before conn finish phase stuck =>
      have waits := Phase.connection_of_request phase
      refine ⟨?_, fun _ _ => credited.small conn waits, ?_, quiet _ silent⟩
      · intro c held
        obtain rfl := Talk.receiver_done held
        exact credited.balance conn waits
      · rintro wrid sgList before' consumed result c client
        cases client
        exact Transport.lost_ne_exhausted _ _
  | @returns verb before conn consumed result phase returned =>
      have ended : net.client.connection = some conn := by
        rw [phase]
        exact Talk.receiver_done_of_not_isPanic _ returned
      refine ⟨?_, fun _ _ => credited.small conn ended, by simp, ?_⟩
      · rintro c ⟨⟩
        exact credited.balance conn ended
      · intro record mem
        rcases List.mem_cons.mp mem with last | earlier
        · cases last
          rintro wrid sgList rfl
          exact credited.granted wrid sgList before consumed result conn phase
        · exact credited.returned record earlier
  | crashes =>
      refine ⟨fun _ held => ?_, fun _ held => ?_, by simp, quiet _ silent⟩
      · cases held
      · cases held
  -- the one step that moves credits from the server into the channel
  | @serves tag frame rest later draws front running =>
      have admits := admits_of_admitted admitted front running
      have served (c : RdowsConnection) (held : net.client.connection = some c) :=
        credited.served known held front running admits
      exact ⟨fun c held => (served c held).1, fun c held => (served c held).2, credited.granted,
        quiet _ fun _ same => by cases same⟩

/-- **Whenever no call is under way**, every credit is with the client, on its way back, or
counted. -/
theorem Known.conserved (known : Known config now seen net) (credited : Credited seen net)
    (idle : net.client = .idle conn) :
    conn.sendCredits.toNat + increments net.unread
      + net.server.session.sendsSinceLastCredit.toNat = 65535 := by
  have balance := credited.balance conn (by rw [idle]; rfl)
  have none : recvComps net.unread = 0 := by
    refine List.countP_eq_zero.mpr fun m mem => ?_
    have notice := (known.coherent.settled idle).unread_creditUpdate m mem
    cases m with
    | creditUpdate header payload => exact Bool.false_ne_true
    | _ => cases notice
  rw [none] at balance
  exact balance

/-- **Taking in what is read** stays within the range of the counter: the credits of a CREDIT_UPDATE
can be added, and there is one to spend for a RECV_COMP. -/
theorem Known.in_range (known : Known config now seen net) (credited : Credited seen net)
    (held : net.client.connection = some conn) {m : RdowsMessage} {rest : List RdowsMessage}
    (unread : net.unread = m :: rest) :
    (∀ header payload, m = .creditUpdate header payload →
      conn.sendCredits.toNat + payload.creditIncrement.toNat < 2 ^ 32) ∧
    ∀ header, m = .recvComp header → 1 ≤ conn.sendCredits.toNat := by
  have balance := credited.balance conn held
  have one := known.coherent.answersOf_le held
  have spaced := known.attuned.spaced conn held
  have small := credited.small conn held
  have icc : defaultIcc.toNat = 65535 := rfl
  rw [unread] at balance one spaced small
  rw [increments_cons, icc] at balance
  constructor
  · rintro header payload rfl
    have comps : recvComps (.creditUpdate header payload :: rest) ≤ 1 := by
      refine Nat.le_trans ?_ one
      rw [recvComps, List.countP_eq_length_filter]
      refine (List.monotone_filter_right _ fun m comp => ?_).length_le
      cases m with
      | creditUpdate header payload => cases comp
      | _ => rfl
    change conn.sendCredits.toNat + (payload.creditIncrement.toNat + _) + _ = _ at balance
    omega
  · rintro header rfl
    -- At most one answer is unread, so behind the RECV_COMP there is at most one CREDIT_UPDATE.
    have notices : ∀ m ∈ rest, m.isCreditUpdate = true := by
      have none : answersOf rest = [] := by
        rw [answersOf, List.filter_cons_of_pos rfl, List.length_cons] at one
        exact List.eq_nil_of_length_eq_zero (Nat.le_zero.mp (Nat.le_of_succ_le_succ one))
      intro m mem
      have notice := List.filter_eq_nil_iff.mp none m mem
      simpa using notice
    have way : increments rest ≤ creditQuarter := increments_le_of_spaced spaced.tail notices
      fun m mem => small m (List.mem_cons_of_mem _ mem)
    have counted := known.reached.quarter
    have comps : 1 ≤ recvComps (.recvComp header :: rest) := by
      rw [recvComps, List.countP_cons_of_pos rfl]
      exact Nat.le_add_left _ _
    change conn.sendCredits.toNat + (0 + _) + _ = _ at balance
    unfold creditQuarter at way counted
    omega

end Step

/-! ### Whole runs -/

/-- **Credits are conserved.**  Take a run of the network from the handshake on.  Whenever no call
is under way, the credits of the client, the credits in unread CREDIT_UPDATEs and the SENDs that the
server has counted are the initial credits; taking in what is read never overflows or underflows;
and no `post_send` is refused for lack of credits.

* `limited`, `below`: the transport has a limit, and it is not above the size that is negotiated.
  Both parties use one of 16 MiB.  Without it the server would refuse a frame that is too large
  before it counts it, and the two sides would fall out of step.
* `ok`: every WRITE that is handled names a live R_Key with the right to write, and no reply is lost
  on its way to the client.  What the client sends may be lost; the session ends then. -/
theorem credits_conserved (transport : Transport) (limit : ℕ)
    (limited : transport.maxFrameSize = some limit)
    (below : limit ≤ headerSize + defaultMaxMsgSize.toNat) (config : ServerConfig) (now : ℕ)
    (draws : ℕ → UInt32) (sessionId : UInt32) (cqCapacity : ℕ) (moves : List Move)
    (ok : Machine.Always step
      (fun net move => net.writesLive move = true ∧ net.lossless move = true)
      (start transport config now draws sessionId cqCapacity) moves) :
    let net := Machine.exec step (start transport config now draws sessionId cqCapacity) moves
    let events := (Machine.history step
      (start transport config now draws sessionId cqCapacity) moves).map Prod.snd
    (∀ conn, net.client = .idle conn →
      conn.sendCredits.toNat + increments net.unread
        + net.server.session.sendsSinceLastCredit.toNat = 65535) ∧
    (∀ verb before consumed conn next tag data rest m,
      net.client = .inCall verb before consumed (.receive conn next) →
      net.toClient = (tag, data) :: rest → RdowsMessage.decode data = .ok m →
      (∀ header payload, m = .creditUpdate header payload →
        conn.sendCredits.toNat + payload.creditIncrement.toNat < 2 ^ 32) ∧
      ∀ header, m = .recvComp header → 1 ≤ conn.sendCredits.toNat) ∧
    ∀ record, Event.returned record ∈ events → ∀ wrid sgList,
      record.verb = .postSend wrid sgList → record.result ≠ .err .sendCreditsExhausted := by
  have initial : Credited [] (start transport config now draws sessionId cqCapacity) := by
    rw [start_eq]
    refine ⟨?_, by simp [unread, unreadIn], by simp, by simp⟩
    rintro conn ⟨⟩
    rfl
  have invariant := admitted_induction (P := Credited) initial
    (fun _ _ _ _ _ admitted known credited moves => credited.moves known admitted moves)
    (always_admitted limited below ok)
  intro net events
  refine ⟨fun conn idle => invariant.1.conserved invariant.2 idle, ?_, invariant.2.returned⟩
  intro verb before consumed conn next tag data rest m phase front decoded
  have held : net.client.connection = some conn := by rw [phase]; rfl
  have first : net.unread = m :: unreadIn rest := by rw [unread, front, unreadIn_cons decoded]
  exact invariant.1.in_range invariant.2 held first

/-- A region is registered and sent; a read of it is refused, and a SEND from an unknown L_Key puts
nothing on the wire.  Failed calls are part of the run because they must not cost a credit. -/
def registerAndSend : List Move :=
  round 1 (.regMr .remoteWrite 8) ++ round 2 (.postSend 1 [⟨⟨1⟩, 0, 8⟩]) ++
    round 1 (.rdmaRead 2 ⟨1⟩ 0 8 ⟨1⟩ 0) ++ [.call (.postSend 3 [⟨⟨9⟩, 0, 8⟩]), .client]

/-- Over the transport that both parties use: one SEND has been counted, a call has failed on either
side, and no call is under way. -/
theorem credits_conserved_registerAndSend :
    Machine.Always step (fun net move => net.writesLive move = true ∧ net.lossless move = true)
      sampleStart registerAndSend ∧
    (Machine.exec step sampleStart registerAndSend).client.isIdle = true ∧
    (Machine.exec step sampleStart registerAndSend).server.session.sendsSinceLastCredit = 1 ∧
    ∀ conn, (Machine.exec step sampleStart registerAndSend).client = .idle conn →
      conn.sendCredits.toNat + increments (Machine.exec step sampleStart registerAndSend).unread
        + (Machine.exec step sampleStart registerAndSend).server.session.sendsSinceLastCredit.toNat
          = 65535 := by
  have ok : Machine.Always step
      (fun net move => net.writesLive move = true ∧ net.lossless move = true) sampleStart
      registerAndSend := by decide +kernel
  have idle : (Machine.exec step sampleStart registerAndSend).client.isIdle = true := by
    decide +kernel
  have counted : (Machine.exec step sampleStart registerAndSend).server.session.sendsSinceLastCredit
      = 1 := by decide +kernel
  obtain ⟨balance, -, -⟩ := credits_conserved .standard _ rfl (by decide) {} 0 sampleDraws 7 16
    registerAndSend ok
  rw [show start .standard {} 0 sampleDraws 7 16 = sampleStart from rfl] at balance
  exact ⟨ok, idle, counted, balance⟩

end Network

end Rdows
