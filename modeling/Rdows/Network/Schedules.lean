import Rdows.Lib.Confluence
import Rdows.Network.Sequential

/-!
# All schedules agree

A program makes calls on its connection while the server handles frames.  Who moves next is left
to a scheduler; the two channels hold what is on its way.

* `Deployment.diamond`: a turn of the client and a turn of the server commute.  They meet only in
  the channels, which are read at one end and written at the other; and the client sees that the
  server is gone only when the server has no turn left.  A frame that is too large for the client
  stays at the head of its channel, whatever comes behind it.
* `Deployment.completes_call`, `Deployment.completes`: one schedule in which every program ends, the
  one in which every frame is handled as soon as it is sent.  It does what `Standstill.call` does.
  That the client does not wait forever in it is `Verb.Requests.responded`.
* `schedules_agree`: hence every program ends in every schedule, after the same number of turns, in
  the same state, with what the sequential run of the program gives.

The frames need not be admitted: the theorem also covers programs whose requests are refused or not
delivered, that read the answers of earlier calls, or that lose their server.  What a schedule
cannot decide is given to all of them alike: the clock and the random draws for the `i`-th frame
(`Readings`), and the error of the transport for the `i`-th call (`Transport.failure`).
-/

namespace Rdows

open Rust Confluence

/-- A program on a connection, with the server it talks to and what is on the way between them. -/
structure Deployment (α : Type) where
  program : App α
  net : Network
  /-- The number of frames handled so far. -/
  handled : ℕ

namespace Deployment

variable {α : Type}

/-- Hand what a call returned to the program.  A program that is not in a call does not change. -/
def resume (result : Outcome RdowsError VerbValue) : App α → App α
  | .call verb next =>
      match result with
      | .ok value => next (.ok value)
      | .err e => next (.error e)
      | .panic _ => .call verb next
  | .done a => .done a

/-- A turn of the client: it makes the next call, or takes a step in the current one.  It has none
when its program has ended, when it has crashed, and while it waits for a message. -/
def clientTurn (d : Deployment α) : Option (Deployment α) :=
  match d.net.client with
  | .idle _ =>
      match d.program with
      | .done _ => none
      | .call verb _ => some { d with net := (d.net.step (.call verb)).2 }
  | .inCall _ _ _ (.send _ _) => some { d with net := (d.net.step .client).2 }
  | .inCall _ _ _ (.receive _ _) =>
      if d.net.toClient = [] ∧ d.net.server.running = true then none
      else some { d with net := (d.net.step .client).2 }
  | .inCall _ _ _ (.done result _) =>
      some { d with program := resume result d.program, net := (d.net.step .client).2 }
  | .crashed => none

/-- A turn of the server: it handles the next frame.  It has none when there is no frame, and when
it is gone. -/
def serverTurn (readings : Readings) (d : Deployment α) : Option (Deployment α) :=
  match d.net.toServer with
  | [] => none
  | _ :: _ =>
      if d.net.server.running then
        let now := readings d.handled
        some { d with net := (d.net.step (.server now.1 now.2)).2, handled := d.handled + 1 }
      else none

/-- A turn of either party.  A schedule is a sequence of turns. -/
def Turn (readings : Readings) (d d' : Deployment α) : Prop :=
  d.clientTurn = some d' ∨ d.serverTurn readings = some d'

/-- The state after `connect`, with a program to run. -/
def launch (transport : Transport) (config : ServerConfig) (now : ℕ) (draws : ℕ → UInt32)
    (sessionId : UInt32) (cqCapacity : ℕ) (program : App α) : Deployment α where
  program
  net := .start transport config now draws sessionId cqCapacity
  handled := 0

/-! ### Turns commute -/

variable {readings : Readings}

/-- A server that is there handles the first frame. -/
theorem serverTurn_eq {d : Deployment α} {tag : ℕ} {frame : Bytes} {rest : List (ℕ × Bytes)}
    (front : d.net.toServer = (tag, frame) :: rest) (running : d.net.server.running = true) :
    d.serverTurn readings = some { d with
      net := d.net.served (readings d.handled).1 (readings d.handled).2 tag frame rest
      handled := d.handled + 1 } := by
  rw [serverTurn, front]
  dsimp only
  rw [if_pos running, Network.step, Network.serverStep_serve _ _ front running]

section Read

variable {d : Deployment α} {verb : Verb} {before conn : RdowsConnection}
  {consumed : Option (ℕ × RdowsMessage)} {next : RdowsMessage → RdowsConnection →
    Talk RdowsConnection RdowsError Bytes RdowsMessage VerbValue}

/-- A client that waits takes the first message. -/
theorem clientTurn_read {tag : ℕ} {data : Bytes} {unread : List (ℕ × Bytes)}
    (phase : d.net.client = .inCall verb before consumed (.receive conn next))
    (front : d.net.toClient = (tag, data) :: unread) (within : d.net.transport.fits data = true) :
    d.clientTurn = some { d with
      net := { d.net with
        client := Network.heard verb before consumed next tag
          ((RdowsConnection.recvTurn (some (.ok data))).run conn)
        toClient := unread } } := by
  rw [clientTurn, phase]
  dsimp only
  rw [if_neg (by rw [front]; exact fun waits => List.cons_ne_nil _ _ waits.1), Network.step,
    Network.clientStep_read phase front within]

/-- A client that waits for what cannot be read is given the error of the transport. -/
theorem clientTurn_lost
    (phase : d.net.client = .inCall verb before consumed (.receive conn next))
    (stuck : d.net.Stuck) :
    d.clientTurn = some { d with
      net := { d.net with
        client := .inCall verb before consumed
          (.done (.err (d.net.transport.lost d.net.calls)) conn) } } := by
  have moves : ¬ (d.net.toClient = [] ∧ d.net.server.running = true) := by
    rintro ⟨empty, running⟩
    rcases stuck with ⟨-, gone⟩ | ⟨u, rest, front, -⟩
    · exact absurd running (Bool.eq_false_iff.mp gone)
    · exact List.cons_ne_nil u rest (front.symm.trans empty)
  rw [clientTurn, phase]
  dsimp only
  rw [if_neg moves, Network.step, Network.clientStep_lost phase stuck]

end Read

/-- **The turns of the two parties commute.** Each takes from the front of one channel and adds to
the end of the other, so a turn of the one does not take away the turn of the other. -/
theorem commute (d a b : Deployment α) (client : d.clientTurn = some a)
    (server : d.serverTurn readings = some b) :
    ∃ e, a.serverTurn readings = some e ∧ b.clientTurn = some e := by
  obtain ⟨program, ⟨transport, phase, toServer, toClient, r, calls⟩, handled⟩ := d
  rcases toServer with _ | ⟨⟨tag, frame⟩, rest⟩
  · cases server
  by_cases running : r.running = true
  swap
  · rw [serverTurn, if_neg running] at server
    cases server
  rw [serverTurn_eq rfl running] at server
  cases server
  rcases phase with conn |
    ⟨verb, before, consumed, (⟨result, conn⟩ | ⟨out, next⟩ | ⟨conn, next⟩)⟩ | _
  · rcases program with value | ⟨verb, next⟩
    · cases client
    · cases client
      exact ⟨_, serverTurn_eq rfl running, rfl⟩
  · cases client
    rcases result with value | e | p
    · exact ⟨_, serverTurn_eq rfl running, rfl⟩
    · exact ⟨_, serverTurn_eq rfl running, rfl⟩
    · exact ⟨_, serverTurn_eq rfl running, rfl⟩
  -- The frame is put behind those that the server has yet to handle.
  · cases client
    exact ⟨_, serverTurn_eq rfl running, rfl⟩
  -- The client reads what is there already; the replies come behind it.
  · rcases toClient with _ | ⟨⟨tag', data⟩, unread⟩
    · rw [clientTurn, if_pos ⟨rfl, running⟩] at client
      cases client
    · rcases within : transport.fits data with _ | _
      · rw [clientTurn_lost rfl (.inr ⟨_, _, rfl, within⟩)] at client
        cases client
        exact ⟨_, serverTurn_eq rfl running, clientTurn_lost rfl (.inr ⟨_, _, rfl, within⟩)⟩
      · rw [clientTurn_read rfl rfl within] at client
        cases client
        exact ⟨_, serverTurn_eq rfl running, clientTurn_read rfl rfl within⟩
  · cases client

theorem diamond : Diamond (Turn readings : Deployment α → Deployment α → Prop) :=
  diamond_of_commute commute

/-! ### One schedule in which every program ends -/

/-- The channels and the server are as in the standstill, apart from the numbers of calls that the
frames carry. -/
structure Holds (d : Deployment α) (s : Standstill) : Prop where
  transport : d.net.transport = s.transport
  calls : d.net.calls = s.calls
  unhandled : d.net.toServer.map Prod.snd = s.unhandled
  unread : d.net.toClient.map Prod.snd = s.unread
  server : d.net.server = s.server
  handled : d.handled = s.handled

section Call

open Standstill
open RdowsConnection (Local recvTurn)

variable {d : Deployment α} {s : Standstill} {verb : Verb} {before conn : RdowsConnection}
  {finish : RdowsMessage → Local VerbValue} (readings : Readings)

/-- The client is in the middle of a request. -/
def Requesting (d : Deployment α) (verb : Verb) (before : RdowsConnection) (frames : List Bytes)
    (conn : RdowsConnection) (finish : RdowsMessage → Local VerbValue) : Prop :=
  d.net.client = .inCall verb before none (.request frames conn finish)

/-- The call has ended and is about to return. -/
def Ended (d : Deployment α) (result : Outcome RdowsError VerbValue) (conn : RdowsConnection) :
    Prop :=
  ∃ verb before consumed, d.net.client = .inCall verb before consumed (.done result conn)

/-- The client sends a frame, and the server handles it if it is there. -/
theorem completes_send {frame : Bytes} {frames : List Bytes}
    (requesting : d.Requesting verb before (frame :: frames) conn finish) (holds : d.Holds s)
    (sound : s.Sound) :
    ∃ n d', Steps (Turn readings) n d d' ∧ d'.Requesting verb before frames conn finish ∧
      d'.program = d.program ∧ d'.Holds (s.send readings frame) := by
  have phase : d.net.client
      = .inCall verb before none (.send frame (.request frames conn finish)) := requesting
  let sent : Deployment α := { d with
    net := { d.net with
      client := .inCall verb before none (.request frames conn finish)
      toServer := d.net.toServer ++ [(d.net.calls, frame)] } }
  have sends : d.clientTurn = some sent := by
    rw [clientTurn, phase]
    dsimp only
    rw [Network.step, Network.clientStep, phase]
  by_cases running : s.server.running = true
  · have empty : d.net.toServer = [] :=
      List.map_eq_nil_iff.mp (holds.unhandled.trans (sound.handled running))
    have handles := @serverTurn_eq α readings sent d.net.calls frame []
      (by rw [show sent.net.toServer = d.net.toServer ++ _ from rfl, empty, List.nil_append])
      (by rw [← holds.server] at running; exact running)
    refine ⟨_, _, .head (.inl sends) (.single (.inr handles)), rfl, rfl, ?_⟩
    have same : s.send readings frame = _ := if_pos running
    rw [same]
    -- The server does the same in both.
    have serves : d.net.server.step (.reliable (readings d.handled).1 (readings d.handled).2,
          d.net.transport.deliver frame)
        = s.server.step (.reliable (readings s.handled).1 (readings s.handled).2,
          s.transport.deliver frame) := by
      rw [holds.server, holds.handled, holds.transport]
    refine ⟨holds.transport, holds.calls, (sound.handled running).symm, ?_,
      congrArg Prod.snd serves, congrArg (· + 1) holds.handled⟩
    show (d.net.toClient ++ (d.net.server.step _).1.replies.map _).map Prod.snd = _
    rw [List.map_append, holds.unread, List.map_map]
    exact congrArg (fun out => s.unread ++ out.1.replies.map RdowsMessage.encode) serves
  · refine ⟨_, _, .single (.inl sends), rfl, rfl, ?_⟩
    have same : s.send readings frame = _ := if_neg running
    rw [same]
    refine ⟨holds.transport, holds.calls, ?_, holds.unread, holds.server, holds.handled⟩
    show (d.net.toServer ++ [_]).map Prod.snd = _
    rw [List.map_append, holds.unhandled]
    rfl

/-- The client sends all its frames. -/
theorem completes_sends {frames : List Bytes}
    (requesting : d.Requesting verb before frames conn finish) (holds : d.Holds s)
    (sound : s.Sound) :
    ∃ n d', Steps (Turn readings) n d d' ∧ d'.Requesting verb before [] conn finish ∧
      d'.program = d.program ∧ d'.Holds (frames.foldl (send readings) s) ∧
      (frames.foldl (send readings) s).Sound := by
  induction frames generalizing d s with
  | nil => exact ⟨0, d, .refl d, requesting, rfl, holds, sound⟩
  | cons frame frames ih =>
      obtain ⟨m, d₁, first, requesting, same, holds⟩ :=
        completes_send readings requesting holds sound
      obtain ⟨n, d₂, later, requesting, same', held⟩ := ih requesting holds (sound.send frame)
      exact ⟨m + n, d₂, first.trans later, requesting, same'.trans same, held⟩

/-- The client finds that there is nothing to be read any more. -/
theorem completes_lost (requesting : d.Requesting verb before [] conn finish) (holds : d.Holds s)
    (stuck : d.net.Stuck)
    (fails : hear s.transport s.calls s.unread conn
      = (.err (s.transport.lost s.calls), conn, s.unread)) :
    ∃ n d' result s', converse readings (.request [] conn finish) s = (result, s') ∧
      Steps (Turn readings) n d d' ∧ d'.Ended result s'.conn ∧ d'.program = d.program ∧
      d'.Holds s' ∧ s'.server = s.server ∧ s'.unhandled = s.unhandled := by
  refine ⟨_, _, .err (s.transport.lost s.calls), { s with conn }, ?_,
    .single (.inl (clientTurn_lost requesting stuck)), ⟨verb, before, none, ?_⟩, rfl,
    ⟨holds.transport, holds.calls, holds.unhandled, holds.unread, holds.server, holds.handled⟩, rfl,
    rfl⟩
  · show converse readings (.receive conn _) s = _
    rw [converse, fails]
  · rw [holds.transport, holds.calls]

/-- The client reads until its call has ended.  It does not wait in vain. -/
theorem completes_receive (requesting : d.Requesting verb before [] conn finish)
    (holds : d.Holds s) (answered : s.server.running = true → s.Answers) :
    ∃ n d' result s', converse readings (.request [] conn finish) s = (result, s') ∧
      Steps (Turn readings) n d d' ∧ d'.Ended result s'.conn ∧ d'.program = d.program ∧
      d'.Holds s' ∧ s'.server = s.server ∧ s'.unhandled = s.unhandled := by
  induction channel : d.net.toClient generalizing d s conn with
  | nil =>
      have empty : s.unread = [] := by rw [← holds.unread, channel, List.map_nil]
      have gone : s.server.running = false := by
        rcases running : s.server.running with _ | _
        · rfl
        · obtain ⟨frame, mem, -⟩ := answered running
          rw [empty] at mem
          cases mem
      rw [← holds.server] at gone
      exact completes_lost readings requesting holds (.inl ⟨channel, gone⟩) (by rw [empty, hear])
  | cons u rest ih =>
      obtain ⟨tag, data⟩ := u
      have front : s.unread = data :: rest.map Prod.snd := by rw [← holds.unread, channel]; rfl
      rcases within : s.transport.fits data with _ | _
      · refine completes_lost readings requesting holds
          (.inr ⟨_, _, channel, by rw [holds.transport]; exact within⟩) ?_
        rw [front, hear, if_neg (Bool.eq_false_iff.mp within)]
      have reads := clientTurn_read requesting channel (by rw [holds.transport]; exact within)
      have held : ∀ client conn, Holds { d with net := { d.net with client, toClient := rest } }
          { s with conn, unread := rest.map Prod.snd } :=
        fun _ _ => ⟨holds.transport, holds.calls, holds.unhandled, rfl, holds.server, holds.handled⟩
      have unfolds (conn : RdowsConnection) (s : Standstill) :
          converse readings (.request [] conn finish) s = converse readings (.receive conn _) s :=
        rfl
      rw [unfolds, converse, front, hear, if_pos within]
      rcases run : (recvTurn (some (.ok data))).run conn with ⟨(_ | m) | e | p, conn'⟩ <;>
        rw [run] at reads
      · -- A CREDIT_UPDATE: the client goes on waiting.
        have later : s.server.running = true →
            Answers { s with unread := rest.map Prod.snd } := by
          intro running
          obtain ⟨frame, mem, stops⟩ := answered running
          rw [front] at mem
          rcases List.mem_cons.mp mem with rfl | mem
          · exact absurd run (stops conn conn')
          · exact ⟨frame, mem, stops⟩
        obtain ⟨n, d', result, s', conversed, steps, rest⟩ :=
          ih (d := { d with net := { d.net with
            client := .inCall verb before none (.request [] conn' finish), toClient := rest } })
            rfl (held _ s.conn) later rfl
        rw [unfolds, converse] at conversed
        exact ⟨n + 1, d', result, s', conversed, .head (.inl reads) steps, rest⟩
      · exact ⟨_, _, _, _, rfl, .single (.inl reads), ⟨verb, before, _, rfl⟩, rfl, held _ _, rfl,
          rfl⟩
      · exact ⟨_, _, _, _, rfl, .single (.inl reads), ⟨verb, before, _, rfl⟩, rfl, held _ _, rfl,
          rfl⟩
      · exact ⟨_, _, _, _, rfl, .single (.inl reads), ⟨verb, before, _, rfl⟩, rfl, held _ _, rfl,
          rfl⟩

/-- What is left of a call that has returned: the client is idle and the program goes on, or the
client has crashed. -/
def Resumed (d : Deployment α) (result : Outcome RdowsError VerbValue) (conn : RdowsConnection)
    (program : App α) : Prop :=
  (result.IsPanic ∧ d.net.client = .crashed) ∨
    (¬ result.IsPanic ∧ d.net.client = .idle conn ∧ d.program = resume result program)

/-- The call returns. -/
theorem completes_return {result : Outcome RdowsError VerbValue} (ended : d.Ended result s.conn)
    (holds : d.Holds s) :
    ∃ d', Steps (Turn readings) 1 d d' ∧ d'.Resumed result s.conn d.program ∧ d'.Holds s := by
  obtain ⟨verb, before, consumed, phase⟩ := ended
  have turn : d.clientTurn = some { d with
      program := resume result d.program, net := (d.net.step .client).2 } := by
    rw [clientTurn, phase]
  refine ⟨_, .single (.inl turn), ?_⟩
  rw [Network.step, Network.clientStep, phase]
  have held (program : App α) (client : Phase) : Holds { d with
      program := program, net := { d.net with client := client } } s :=
    ⟨holds.transport, holds.calls, holds.unhandled, holds.unread, holds.server, holds.handled⟩
  rcases result with value | e | p
  · exact ⟨.inr ⟨id, rfl, rfl⟩, held _ _⟩
  · exact ⟨.inr ⟨id, rfl, rfl⟩, held _ _⟩
  · exact ⟨.inl ⟨trivial, rfl⟩, held _ _⟩

/-- **A whole call**, in the schedule in which every frame is handled as soon as it is sent.  It
ends as the sequential call does, and leaves what that leaves. -/
theorem completes_call {next : Except RdowsError VerbValue → App α}
    (idle : d.net.client = .idle s.conn) (program : d.program = .call verb next)
    (holds : d.Holds s) (sound : s.Sound) :
    ∃ n d', Steps (Turn readings) n d d' ∧
      d'.Resumed (s.call readings verb).1 (s.call readings verb).2.conn (.call verb next) ∧
      d'.Holds (s.call readings verb).2 ∧ (s.call readings verb).2.Sound := by
  let called : Deployment α := { d with
    net := { d.net with
      client := .inCall verb s.conn none (verb.start.start s.conn)
      calls := d.net.calls + 1 } }
  have calls : d.clientTurn = some called := by
    rw [clientTurn, idle, program]
    dsimp only
    rw [Network.step, idle, ← program]
  let s₀ : Standstill := { s with calls := s.calls + 1 }
  have held (conn : RdowsConnection) : called.Holds { s₀ with conn } :=
    ⟨holds.transport, congrArg (· + 1) holds.calls, holds.unhandled, holds.unread, holds.server,
      holds.handled⟩
  rw [← program]
  rw [Standstill.call, Standstill.perform]
  -- a verb ends on its own, or sends its frames, reads until its answer comes, and returns
  rcases verb.start_cases s.conn with ⟨result, conn, ends, -⟩ |
    ⟨messages, conn, finish, started, requests, -⟩
  · rw [ends]
    obtain ⟨d', returns, resumed, holds⟩ := completes_return (s := { s₀ with conn }) readings
      (d := called) ⟨verb, s.conn, none, congrArg (Phase.inCall verb s.conn none) ends⟩ (held conn)
    exact ⟨_, d', .head (.inl calls) returns, resumed, holds, sound.ready, sound.handled⟩
  · obtain ⟨k, d₁, sends, requesting, same, holds₁, sound₁⟩ := completes_sends readings
      (d := called) (s := s₀) (congrArg (Phase.inCall verb s.conn none) started) (held s.conn)
      ⟨sound.ready, sound.handled⟩
    obtain ⟨l, d₂, result, s₂, conversed, reads, ended, same', holds₂, server, unhandled⟩ :=
      completes_receive readings requesting holds₁ (requests.responded ⟨sound.ready, sound.handled⟩)
    obtain ⟨d₃, returns, resumed, holds₃⟩ := completes_return readings ended holds₂
    rw [started, converse_request, conversed]
    refine ⟨_, d₃, .head (.inl calls) (sends.trans (reads.trans returns)), ?_, holds₃, ?_, ?_⟩
    · rw [same', same] at resumed
      exact resumed
    · rw [server]
      exact sound₁.ready
    · rw [server, unhandled]
      exact sound₁.handled

end Call

/-- The deployment has come to rest with the result of a sequential run: the program has ended with
it, and the two parties are as that run left them. -/
def Shows (d : Deployment α) (out : Except Panic α × Standstill) : Prop :=
  d.Holds out.2 ∧
    match out.1 with
    | .ok value => d.program = .done value ∧ d.net.client = .idle out.2.conn
    | .error _ => d.net.client = .crashed

/-- Nobody can move: the program has ended or crashed, and the server has nothing to do or is
gone. -/
theorem final_of_shows {d : Deployment α} {out : Except Panic α × Standstill}
    (shows : d.Shows out) (sound : out.2.Sound) : Final (Turn readings) d := by
  obtain ⟨holds, ends⟩ := shows
  rintro d' (client | server)
  · rcases result : out.1 with p | value <;> rw [result] at ends
    · rw [clientTurn, show d.net.client = .crashed from ends] at client
      cases client
    · rw [clientTurn, ends.2] at client
      dsimp only at client
      rw [ends.1] at client
      cases client
  -- a server that runs has handled all that was sent; one that has ended handles nothing
  · by_cases running : out.2.server.running = true
    · have empty : d.net.toServer = [] :=
        List.map_eq_nil_iff.mp (holds.unhandled.trans (sound.handled running))
      rw [serverTurn, empty] at server
      cases server
    · rw [← holds.server] at running
      rw [serverTurn] at server
      split at server
      · cases server
      · rw [if_neg running] at server
        cases server

/-- **Every program ends** in this schedule, with what its sequential run gives.  By induction over
the program, call by call. -/
theorem completes (readings : Readings) (program : App α) {d : Deployment α} {s : Standstill}
    (idle : d.net.client = .idle s.conn) (same : d.program = program) (holds : d.Holds s)
    (sound : s.Sound) :
    ∃ n d', Steps (Turn readings) n d d' ∧ Final (Turn readings) d' ∧
      d'.Shows (program.run (Standstill.call readings) s) := by
  induction program generalizing d s with
  | done value =>
      have shows : d.Shows (.ok value, s) := ⟨holds, same, idle⟩
      exact ⟨0, d, .refl d, final_of_shows shows sound, shows⟩
  | call verb next ih =>
      obtain ⟨k, d₁, steps, resumed, holds, sound⟩ :=
        completes_call readings idle same holds sound
      rw [Program.run]
      -- a value and an error are handed to the program, a panic ends it
      rcases called : s.call readings verb with ⟨value | e | p, s₁⟩ <;>
        rw [called] at resumed holds sound
      · obtain ⟨panics, -⟩ | ⟨-, idle, same⟩ := resumed
        · exact panics.elim
        · obtain ⟨n, d', later, final, shows⟩ := ih (.ok value) idle same holds sound
          exact ⟨k + n, d', steps.trans later, final, shows⟩
      · obtain ⟨panics, -⟩ | ⟨-, idle, same⟩ := resumed
        · exact panics.elim
        · obtain ⟨n, d', later, final, shows⟩ := ih (.error e) idle same holds sound
          exact ⟨k + n, d', steps.trans later, final, shows⟩
      · obtain ⟨-, crashed⟩ | ⟨returns, -⟩ := resumed
        · have shows : d₁.Shows (.error p, s₁) := ⟨holds, crashed⟩
          exact ⟨k, d₁, steps, final_of_shows shows sound, shows⟩
        · exact absurd trivial returns

/-- The run that is easiest to follow, from the handshake on. -/
theorem completes_launch (transport : Transport) (config : ServerConfig) (now : ℕ)
    (draws : ℕ → UInt32) (sessionId : UInt32) (cqCapacity : ℕ) (readings : Readings)
    (program : App α) :
    ∃ n final,
      Steps (Turn readings) n (launch transport config now draws sessionId cqCapacity program)
        final ∧
      Final (Turn readings) final ∧
      final.Shows (program.run (Standstill.call readings)
        (.start transport config now sessionId cqCapacity)) := by
  have start := Network.start_eq transport config now draws sessionId cqCapacity
  refine completes readings program (congrArg Network.client start) rfl ⟨?_, ?_, ?_, ?_, ?_, rfl⟩
    (Standstill.sound_start transport config now sessionId cqCapacity)
  all_goals rw [launch, start]; rfl

end Deployment

/-- **All schedules agree.**  Every program ends, from the handshake on and in every schedule, in
one and the same state: there is a number of turns within which every schedule stays and can be
completed to that state, which shows the result of the sequential run of the program.

The schedules differ in the order of the turns alone.  They have the transport in common, with what
the client's stream yields to each call once there is nothing to be read, and the readings, with the
time and the random draws for each frame that the server handles. -/
theorem schedules_agree {α : Type} (transport : Transport) (config : ServerConfig) (now : ℕ)
    (draws : ℕ → UInt32) (sessionId : UInt32) (cqCapacity : ℕ) (readings : Readings)
    (program : App α) :
    Settles (Deployment.Turn readings)
      (.launch transport config now draws sessionId cqCapacity program)
      fun final => final.Shows (program.run (Standstill.call readings)
        (.start transport config now sessionId cqCapacity)) := by
  obtain ⟨n, final, run, ends, shows⟩ := Deployment.completes_launch transport config now draws
    sessionId cqCapacity readings program
  exact .of_steps Deployment.diamond run ends shows

end Rdows
