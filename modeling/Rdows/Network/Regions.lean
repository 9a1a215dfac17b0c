import Rdows.Network.Holdings

/-!
# Client and server agree on the regions

The client's map of local regions and the server's map of regions change at two different times: the
server's when it handles an MR_REG or an MR_DEREG, the client's when it reads the acknowledgement.
In between, the unread messages tell the difference: taking them in one after the other makes the
client's regions those of the server (`Mirrored.regions`).  When no call is under way there is
nothing left to tell.

## What is compared

The regions by their keys (`handles`): L_Key, R_Key and length.  The bytes are not compared, since
each side has its own and they are meant to differ.  `Mirrored` also says that every local buffer is
as long as its region, which is what the range checks of the client rely on.

## The runs it is about

As for the credits, the invariant is kept by admitted moves, and `regions_agree` is about all runs
over a transport that loses nothing on the way to the client.  A READ_RESP that is lost ends the
client's stream but not the session: the server goes on to register regions, and the client never
reads an acknowledgement again.

A registration that is refused changes neither side; a deregistration that is refused leaves the
region on both.  Both cases are in `Verb.settle`, which reads off an answer what it does.
-/

namespace Rdows

open Rust

/-- What an answer tells the call that is under way; between two calls it tells nothing. -/
def Phase.settle : Phase → RdowsMessage → Handles → Handles
  | inCall verb _ _ _, m, regions => verb.settle m regions
  | idle _, _, regions => regions
  | crashed, _, regions => regions

/-- The L_Key, the R_Key and the length of the client's regions. -/
def RdowsConnection.triples (c : RdowsConnection) : Set (LKey × RKey × ℕ) :=
  {t | ∃ key mr, c.localMrs.lookup key = some mr ∧ (mr.lkey, mr.rkey, mr.len.toNat) = t}

/-- The L_Key, the R_Key and the length of the server's regions. -/
def MemoryStore.triples (s : MemoryStore) : Set (LKey × RKey × ℕ) :=
  {t | ∃ key entry, s.regions.lookup key = some entry ∧
    (entry.lkey, entry.rkey, entry.data.length) = t}

/-- The same regions by their keys are the same triples. -/
theorem triples_eq_of_handles_eq {c : RdowsConnection} {s : MemoryStore}
    (same : s.handles = c.handles) : c.triples = s.triples := by
  ext t
  have client : t ∈ c.triples ↔ ∃ key, c.handles key = some t :=
    exists_congr fun key => Option.map_eq_some_iff.symm
  have server : t ∈ s.triples ↔ ∃ key, s.handles key = some t :=
    exists_congr fun key => Option.map_eq_some_iff.symm
  rw [client, server, same]

namespace Network

open RdowsConnection

/-- Nothing but CREDIT_UPDATEs tells nothing, however many there are. -/
theorem foldl_settle_creditUpdates (client : Phase) {unread : List RdowsMessage}
    (notices : ∀ m ∈ unread, m.isCreditUpdate = true) (regions : Handles) :
    unread.foldl (fun regions m => client.settle m regions) regions = regions := by
  induction unread with
  | nil => rfl
  | cons m rest ih =>
      have tells : client.settle m regions = regions := by
        cases client with
        | inCall verb before consumed talk =>
            exact Verb.settle_creditUpdate (notices m List.mem_cons_self) regions
        | idle conn => rfl
        | crashed => rfl
      rw [List.foldl_cons, tells]
      exact ih fun later mem => notices later (List.mem_cons_of_mem _ mem)

/-- The client's regions, once it has taken in what is unread, are those of the server.  Buffers
have the lengths of their regions at any time. -/
structure Mirrored (net : Network) : Prop where
  regions : ∀ conn, net.client.connection = some conn →
    net.server.session.memoryStore.handles
      = net.unread.foldl (fun regions m => net.client.settle m regions) conn.handles
  buffered : ∀ conn, net.client.connection = some conn → conn.Buffered

section Step

variable {config : ServerConfig} {now : ℕ} {seen : List (Move × Event)} {net net' : Network}
  {conn : RdowsConnection}

/-- **Whenever no call is under way** there is nothing left to tell: only CREDIT_UPDATEs are unread,
so the regions of the client are those of the server. -/
theorem Mirrored.agree (mirrored : net.Mirrored) (settled : net.Settled conn)
    (held : net.client.connection = some conn) :
    net.server.session.memoryStore.handles = conn.handles := by
  rw [mirrored.regions conn held]
  exact foldl_settle_creditUpdates _ settled.unread_creditUpdate _

/-- A message is read. -/
theorem Mirrored.heard (mirrored : net.Mirrored) (known : Known config now seen net)
    {verb : Verb} {before : RdowsConnection} {messages : List RdowsMessage}
    {finish : RdowsMessage → Local VerbValue} {tag : ℕ} {data : Bytes} {rest : List (ℕ × Bytes)}
    (phase : net.client = .inCall verb before none (.request [] conn finish))
    (requests : verb.Requests before messages finish)
    (front : net.toClient = (tag, data) :: rest) :
    Mirrored { net with
      client := answered verb before finish tag ((recvTurn (some (.ok data))).run conn)
      toClient := rest } := by
  have waits := Phase.connection_of_request phase
  obtain ⟨m, hears, unread, -⟩ := known.coherent.reads phase front
  have regions := mirrored.regions conn waits
  have buffered := mirrored.buffered conn waits
  rw [unread, List.foldl_cons, phase] at regions
  generalize answered verb before finish tag _ = client at hears
  cases hears with
  -- what the client concludes from the answer is taken off what is still to be settled
  | answer isAnswer =>
      have gains (c : RdowsConnection) (held : Talk.receiver _ = some c) : Gains verb m conn c :=
        known.gains phase requests (by rw [unread]; exact List.mem_cons_self) isAnswer held
      refine ⟨fun c held => ?_, fun c held => (gains c held).buffered buffered⟩
      rw [(gains c held).regions]
      exact regions
  -- a CREDIT_UPDATE tells nothing about the regions
  | credits notice credits sum =>
      have same (c : RdowsConnection)
          (held : (Talk.request [] { counted conn m with sendCredits := credits } finish :
            Talk _ _ Bytes RdowsMessage _).receiver = some c) :
          { counted conn m with sendCredits := credits } = c :=
        Option.some.inj ((Talk.receiver_request _ _ _).symm.trans held)
      have tells : verb.settle m conn.handles = conn.handles := Verb.settle_creditUpdate notice _
      rw [Phase.settle, tells] at regions
      constructor
      · intro c held
        rw [← same c held]
        exact regions
      · intro c held
        rw [← same c held]
        exact buffered
  | overflow notice beyond p =>
      refine ⟨fun _ held => ?_, fun _ held => ?_⟩
      · cases held
      · cases held

/-- A frame is served. -/
theorem Mirrored.served (mirrored : net.Mirrored) (known : Known config now seen net) {tag : ℕ}
    {frame : Bytes} {rest : List (ℕ × Bytes)} (front : net.toServer = (tag, frame) :: rest)
    (running : net.server.running = true) {later : ℕ} {draws : ℕ → UInt32}
    (admitted : admits net.transport net.server (later, draws) frame = true) :
    (net.served later draws tag frame rest).Mirrored := by
  refine ⟨fun conn held => ?_, mirrored.buffered⟩
  change net.client.connection = some conn at held
  obtain ⟨unread, told⟩ := known.attuned.serves known.coherent known.reached held front running
    admitted
  have before := mirrored.regions conn held
  show (net.server.step
      (.reliable later draws, net.transport.deliver frame)).2.session.memoryStore.handles
    = List.foldl (fun regions m => net.client.settle m regions) conn.handles _
  rw [unread, List.foldl_append, ← before]
  -- what the server did to its regions is what its new replies will tell
  rcases told with ⟨silent, same⟩ | ⟨verb, c, opcode, call, -, -, regions⟩
  · rw [silent]
    exact same
  · rw [regions, List.foldl_map]
    generalize net.client = client at call
    cases client with
    | inCall verb' before' consumed talk =>
        cases call
        refine congrArg (fun f => List.foldl f _ _) ?_
        funext r m
        exact (congrFun (verb.settle_canonical m) r).symm
    | idle conn => cases call
    | crashed => cases call

/-- **Every move keeps the regions in line.** Serving a frame changes the server and adds what tells
of it; reading changes the client and takes it away. -/
theorem Mirrored.moves {move : Move} {event : Event} (mirrored : net.Mirrored)
    (known : Known config now seen net) (admitted : net.admitted move = true)
    (moves : Moves net move event net') : net'.Mirrored := by
  -- From an idle client on, a call that leaves its regions alone has nothing to be told.
  have called {c c' : RdowsConnection} (phase : net.client = .idle c) (same : c.SameHoldings c')
      (client : Phase) (holds : ∀ d, client.connection = some d → d = c') :
      Mirrored { net with client, calls := net.calls + 1 } := by
    have held : net.client.connection = some c := by rw [phase]; rfl
    have settled := known.coherent.settled phase
    refine ⟨fun d now => ?_, fun d now => ?_⟩
    · rw [holds d now, same.regions]
      refine (mirrored.agree settled held).trans ?_
      exact (foldl_settle_creditUpdates client settled.unread_creditUpdate _).symm
    · rw [holds d now]
      exact same.buffered (mirrored.buffered c held)
  cases moves with
  | stays => exact mirrored
  | ends phase started same =>
      exact called phase (Verb.holdings_of_done started) _
        fun d held => (Talk.receiver_done held).symm
  | asks phase started requests same =>
      exact called phase (Verb.holdings_of_request started) _
        fun d held => (Option.some.inj ((Talk.receiver_request _ _ _).symm.trans held)).symm
  | sends phase =>
      obtain ⟨regions, buffered⟩ := mirrored
      rw [phase] at regions buffered
      exact ⟨regions, buffered⟩
  | reads phase requests front => exact mirrored.heard known phase requests front
  | @loses verb before conn finish phase stuck =>
      obtain ⟨regions, buffered⟩ := mirrored
      rw [phase] at regions buffered
      refine ⟨fun c held => ?_, fun c held => ?_⟩
      · obtain rfl := Talk.receiver_done held
        exact regions conn (Talk.receiver_request _ _ _)
      · obtain rfl := Talk.receiver_done held
        exact buffered conn (Talk.receiver_request _ _ _)
  | @returns verb before conn consumed result phase returned =>
      have held : net.client.connection = some conn := by
        rw [phase]
        exact Talk.receiver_done_of_not_isPanic _ returned
      -- A call that ended has read its answer, so nothing is left to settle.
      have settled : net.Settled conn := by
        have coherent := known.coherent
        rw [phase] at coherent
        generalize talk : Talk.done result conn = t at coherent
        cases coherent with
        | requesting => exact absurd talk.symm (Talk.request_ne_done _ _ _ _ _)
        | ended settled answered =>
            cases talk
            exact settled
        | failing p =>
            cases talk
            exact absurd trivial returned
      refine ⟨fun c now => ?_, fun c now => ?_⟩
      · cases now
        refine (mirrored.agree settled held).trans ?_
        exact (foldl_settle_creditUpdates (.idle conn) settled.unread_creditUpdate _).symm
      · cases now
        exact mirrored.buffered conn held
  | crashes =>
      refine ⟨fun _ held => ?_, fun _ held => ?_⟩
      · cases held
      · cases held
  | @serves tag frame rest later draws front running =>
      have admits := admits_of_admitted admitted front running
      exact mirrored.served known front running admits

end Step

/-! ### Whole runs -/

/-- **Client and server agree on the regions.**  Take a run of the network from the handshake on.
Whenever no call is under way, the client has the same L_Keys, R_Keys and lengths as the server, and
every local buffer is as long as its region.

The conditions are those of `credits_conserved`: the transport has a limit that is not above the
size that is negotiated, every WRITE that is handled names a live R_Key with the right to write, and
no reply is lost on its way to the client.  Registrations are not limited; one that overflows ends
the session, and the client's call then fails without a region on its side. -/
theorem regions_agree (transport : Transport) (limit : ℕ)
    (limited : transport.maxFrameSize = some limit)
    (below : limit ≤ headerSize + defaultMaxMsgSize.toNat) (config : ServerConfig) (now : ℕ)
    (draws : ℕ → UInt32) (sessionId : UInt32) (cqCapacity : ℕ) (moves : List Move)
    (ok : Machine.Always step
      (fun net move => net.writesLive move = true ∧ net.lossless move = true)
      (start transport config now draws sessionId cqCapacity) moves) :
    let net := Machine.exec step (start transport config now draws sessionId cqCapacity) moves
    ∀ conn, net.client = .idle conn →
      conn.triples = net.server.session.memoryStore.triples ∧
      ∀ key mr, conn.localMrs.lookup key = some mr → mr.localBuf.length = mr.len.toNat := by
  have initial : Mirrored (start transport config now draws sessionId cqCapacity) := by
    rw [start_eq]
    refine ⟨fun conn held => ?_, fun conn held => ?_⟩
    · cases held
      rfl
    · cases held
      exact nofun
  have invariant := admitted_induction (P := fun _ net => net.Mirrored) initial
    (fun _ _ _ _ _ admitted known mirrored moves => mirrored.moves known admitted moves)
    (always_admitted limited below ok)
  intro net conn idle
  have held : net.client.connection = some conn := by rw [idle]; rfl
  have settled := invariant.1.coherent.settled idle
  exact ⟨triples_eq_of_handles_eq (invariant.2.agree settled held),
    invariant.2.buffered conn held⟩

/-- A region is registered and written to, another one is refused for its length, and the first one
is released; then a third one is registered. -/
def registerAndRelease : List Move :=
  registerAndWrite ++ round 1 (.regMr .remoteWrite 1099511627776) ++ round 1 (.deregMr ⟨1⟩) ++
    round 1 (.regMr .remoteRead 4)

/-- Over the transport that both parties use: the second region is on neither side, the third one on
both. -/
theorem regions_agree_registerAndRelease :
    Machine.Always step (fun net move => net.writesLive move = true ∧ net.lossless move = true)
      sampleStart registerAndRelease ∧
    (Machine.exec step sampleStart registerAndRelease).client.isIdle = true ∧
    (Machine.exec step sampleStart registerAndRelease).server.session.memoryStore.regions.keys
      = [2] ∧
    ∀ conn, (Machine.exec step sampleStart registerAndRelease).client = .idle conn →
      conn.triples
          = (Machine.exec step sampleStart registerAndRelease).server.session.memoryStore.triples ∧
        ∀ key mr, conn.localMrs.lookup key = some mr → mr.localBuf.length = mr.len.toNat := by
  have ok : Machine.Always step
      (fun net move => net.writesLive move = true ∧ net.lossless move = true) sampleStart
      registerAndRelease := by decide +kernel
  have agree := regions_agree .standard _ rfl (by decide) {} 0 sampleDraws 7 16 registerAndRelease
    ok
  dsimp only at agree
  rw [show start .standard {} 0 sampleDraws 7 16 = sampleStart from rfl] at agree
  exact ⟨ok, by decide +kernel, by decide +kernel, agree⟩

end Network

end Rdows
