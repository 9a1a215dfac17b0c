import Rdows.Network.Agreement
import Rdows.Server.Bookkeeping

/-!
# What a move of the network can do

`Moves` lists the moves once and for all: a call ends at once or becomes a request; the client sends
a frame, takes a message in, finds that there is nothing to be read any more, returns or crashes;
the server serves a frame.  `step_moves` says that there are no others, because a call is always in
one of two forms (`Shaped`): it waits behind the frames it has yet to send, or it has ended.

## Why a relation

`Network.step` is the function that is compared with the source, and it is defined for every state a
network could be in.  An invariant that went through it would take the client's phase, its talk and
both channels apart again each time.  Going through `Moves` instead, it has one case for each thing
that can happen, with the equations that hold in that case as hypotheses.  All invariants of the
network that follow (credits, regions, receives, unread answers) are proved by `moves_induction`.

## The server in a network

`server_reached`: the server of a network is a session that was run from its beginning, over a
transport that refuses nothing, and has accepted its CONNECT.  So whatever was proved about all runs
of a session holds of the server at every point of every run of the network.
-/

namespace Rdows

open Rust

/-- The connection that the client holds, unless a call panicked.  During a call it is the one the
talk holds. -/
def Phase.connection : Phase → Option RdowsConnection
  | idle conn => some conn
  | inCall _ _ _ talk => talk.receiver
  | crashed => none

/-- A call that waits holds its connection. -/
theorem Phase.connection_of_request {phase : Phase} {verb : Verb} {before conn : RdowsConnection}
    {consumed : Option (ℕ × RdowsMessage)} {frames : List Bytes}
    {finish : RdowsMessage → RdowsConnection.Local VerbValue}
    (waits : phase = .inCall verb before consumed (.request frames conn finish)) :
    phase.connection = some conn := by
  rw [waits]
  exact Talk.receiver_request _ _ _

namespace Network

open RdowsConnection

/-- **The forms of a call.** It waits behind the frames it has yet to send, which are the last ones
of its request; or it has ended, with its result at hand. -/
inductive Shaped : Phase → Prop
  | idle (conn : RdowsConnection) : Shaped (.idle conn)
  | requesting {verb : Verb} {before : RdowsConnection} {messages : List RdowsMessage}
      {finish : RdowsMessage → Local VerbValue} (frames : List Bytes) (conn : RdowsConnection)
      (requests : verb.Requests before messages finish)
      (own : frames <:+ messages.map RdowsMessage.encode) :
      Shaped (.inCall verb before none (.request frames conn finish))
  | ended (verb : Verb) (before : RdowsConnection) (consumed : Option (ℕ × RdowsMessage))
      (result : Outcome RdowsError VerbValue) (conn : RdowsConnection) :
      Shaped (.inCall verb before consumed (.done result conn))
  | crashed : Shaped .crashed

/-- The phase of a request once a frame was read: it waits on if that was a CREDIT_UPDATE, and has
ended otherwise. -/
def answered (verb : Verb) (before : RdowsConnection) (finish : RdowsMessage → Local VerbValue)
    (tag : ℕ) (turn : Outcome RdowsError (Option RdowsMessage) × RdowsConnection) : Phase :=
  heard verb before none (fun m s => .done ((finish m).run s).1 ((finish m).run s).2) tag turn

/-- What can happen in a move.  One constructor for each, with what has to be the case for it and
the network it leads to. -/
inductive Moves (net : Network) : Move → Event → Network → Prop
  | stays (move : Move) : Moves net move .quiet net
  /-- A call that puts nothing on the wire. -/
  | ends {verb : Verb} {conn conn' : RdowsConnection} {result : Outcome RdowsError VerbValue}
      (phase : net.client = .idle conn) (started : verb.start.start conn = .done result conn')
      (same : conn.SameLink conn') :
      Moves net (.call verb) .quiet { net with
        client := .inCall verb conn none (.done result conn')
        calls := net.calls + 1 }
  /-- A call that becomes a request. -/
  | asks {verb : Verb} {conn conn' : RdowsConnection} {messages : List RdowsMessage}
      {finish : RdowsMessage → Local VerbValue} (phase : net.client = .idle conn)
      (started : verb.start.start conn = .request (messages.map RdowsMessage.encode) conn' finish)
      (requests : verb.Requests conn messages finish)
      (same : conn'.expectedRemoteSeq = conn.expectedRemoteSeq) :
      Moves net (.call verb) .quiet { net with
        client := .inCall verb conn none (.request (messages.map RdowsMessage.encode) conn' finish)
        calls := net.calls + 1 }
  | sends {verb : Verb} {before conn : RdowsConnection} {frame : Bytes} {frames : List Bytes}
      {finish : RdowsMessage → Local VerbValue}
      (phase : net.client = .inCall verb before none (.request (frame :: frames) conn finish)) :
      Moves net .client .quiet { net with
        client := .inCall verb before none (.request frames conn finish)
        toServer := net.toServer ++ [(net.calls, frame)] }
  | reads {verb : Verb} {before conn : RdowsConnection} {messages : List RdowsMessage}
      {finish : RdowsMessage → Local VerbValue} {tag : ℕ} {data : Bytes} {rest : List (ℕ × Bytes)}
      (phase : net.client = .inCall verb before none (.request [] conn finish))
      (requests : verb.Requests before messages finish)
      (front : net.toClient = (tag, data) :: rest) :
      Moves net .client .quiet { net with
        client := answered verb before finish tag ((recvTurn (some (.ok data))).run conn)
        toClient := rest }
  /-- The server is gone, or the next frame is too large for the transport. -/
  | loses {verb : Verb} {before conn : RdowsConnection}
      {finish : RdowsMessage → Local VerbValue}
      (phase : net.client = .inCall verb before none (.request [] conn finish))
      (stuck : net.Stuck) :
      Moves net .client .quiet { net with
        client := .inCall verb before none (.done (.err (net.transport.lost net.calls)) conn) }
  | returns {verb : Verb} {before conn : RdowsConnection} {consumed : Option (ℕ × RdowsMessage)}
      {result : Outcome RdowsError VerbValue}
      (phase : net.client = .inCall verb before consumed (.done result conn))
      (returned : ¬ result.IsPanic) :
      Moves net .client
        (.returned { call := net.calls, verb, before, result, after := conn, consumed })
        { net with client := .idle conn }
  | crashes : Moves net .client .quiet { net with client := .crashed }
  | serves {tag : ℕ} {frame : Bytes} {rest : List (ℕ × Bytes)} (now : ℕ) (draws : ℕ → UInt32)
      (front : net.toServer = (tag, frame) :: rest) (running : net.server.running = true) :
      Moves net (.server now draws) (.handled
        { call := tag, before := net.server.session
          replies := (net.server.step
            (.reliable now draws, net.transport.deliver frame)).1.replies
          after := (net.server.step
            (.reliable now draws, net.transport.deliver frame)).2.session })
        (net.served now draws tag frame rest)

theorem clientStep_moves {net : Network} (shaped : Shaped net.client) :
    Moves net .client net.clientStep.1 net.clientStep.2 := by
  rcases phase : net.client with conn | ⟨verb, before, consumed, talk⟩ | _ <;> rw [phase] at shaped
  · rw [clientStep_idle phase]
    exact .stays _
  swap
  · rw [clientStep_crashed phase]
    exact .stays _
  cases shaped with
  | @requesting _ _ messages finish frames conn requests own =>
      rcases frames with _ | ⟨frame, frames⟩
      -- Everything is sent: the client waits for a running server, reads, or fails.
      · rcases net.read_cases with ⟨empty, running⟩ | ⟨tag, data, rest, front, within⟩ | stuck
        · rw [clientStep_wait phase empty running]
          exact .stays _
        · rw [clientStep_read phase front within]
          exact .reads phase requests front
        · rw [clientStep_lost phase stuck]
          exact .loses phase stuck
      · have sends : net.client
            = .inCall verb before none (.send frame (.request frames conn finish)) := phase
        rw [clientStep_send sends]
        exact .sends phase
  | ended _ _ _ result conn =>
      rcases result with value | e | p
      · rw [clientStep_return phase id]
        exact .returns phase id
      · rw [clientStep_return phase id]
        exact .returns phase id
      · rw [clientStep_panic phase]
        exact .crashes

/-- **There are no other moves** than those of the list, as long as the call is in one of its
forms. -/
theorem step_moves {net : Network} (shaped : Shaped net.client) (move : Move) :
    Moves net move (net.step move).1 (net.step move).2 := by
  cases move with
  | client => exact clientStep_moves shaped
  -- a call begins only when the client is idle
  | call verb =>
      rcases phase : net.client with conn | ⟨running, before, consumed, talk⟩ | _
      · have step : net.step (.call verb) = (.quiet, { net with
            client := .inCall verb conn none (verb.start.start conn)
            calls := net.calls + 1 }) := by rw [Network.step, phase]
        rw [step]
        rcases verb.start_cases conn with ⟨result, conn', ended, same, -⟩ |
          ⟨messages, conn', finish, started, requests, -, same⟩
        · rw [ended]
          exact .ends phase ended same
        · rw [started]
          exact .asks phase started requests same
      · have step : net.step (.call verb) = (.quiet, net) := by rw [Network.step, phase]
        rw [step]
        exact .stays _
      · have step : net.step (.call verb) = (.quiet, net) := by rw [Network.step, phase]
        rw [step]
        exact .stays _
  -- the server moves only if there is a frame to handle and it has not ended
  | server now draws =>
      rcases front : net.toServer with _ | ⟨⟨tag, frame⟩, rest⟩
      · rw [Network.step, serverStep_rest now draws (.inl front)]
        exact .stays _
      · rcases running : net.server.running with _ | _
        · rw [Network.step, serverStep_rest now draws (.inr running)]
          exact .stays _
        · rw [Network.step, serverStep_serve now draws front running]
          exact .serves now draws front running

/-- A read leaves the call in one of its forms. -/
theorem Shaped.answered {verb : Verb} {before : RdowsConnection} {messages : List RdowsMessage}
    {finish : RdowsMessage → Local VerbValue} (requests : verb.Requests before messages finish)
    (tag : ℕ) (turn : Outcome RdowsError (Option RdowsMessage) × RdowsConnection) :
    Shaped (answered verb before finish tag turn) := by
  obtain ⟨(_ | m) | e | p, conn⟩ := turn
  · exact .requesting [] conn requests List.nil_suffix
  · exact .ended _ _ _ _ _
  · exact .ended _ _ _ _ _
  · exact .ended _ _ _ _ _

/-- Every move keeps the call in one of its forms. -/
theorem Shaped.moves {net net' : Network} {move : Move} {event : Event}
    (shaped : Shaped net.client) (moves : Moves net move event net') : Shaped net'.client := by
  cases moves with
  | stays => exact shaped
  | ends phase started same => exact .ended _ _ _ _ _
  | asks phase started requests same => exact .requesting _ _ requests (List.suffix_refl _)
  | sends phase =>
      rw [phase] at shaped
      generalize talk : Talk.request _ _ _ = t at shaped
      cases shaped with
      | requesting frames conn requests own =>
          obtain ⟨rfl, rfl, rfl⟩ := Talk.request_inj talk
          exact .requesting _ _ requests ((List.suffix_cons _ _).trans own)
      | ended => cases talk
  | reads phase requests front => exact .answered requests _ _
  | loses phase stuck => exact .ended _ _ _ _ _
  | returns phase returned => exact .idle _
  | crashes => exact .crashed
  | serves now draws front running => exact shaped

/-- **Induction over the runs of a network.**  A property of the history and the network that
holds at the start and survives every move that meets the condition holds after every run whose
moves all meet it. -/
theorem moves_induction {C : Network → Move → Prop} {P : List (Move × Event) → Network → Prop}
    {net : Network} (shaped : Shaped net.client) (initial : P [] net)
    (next : ∀ seen t move event t', C t move → P seen t → Moves t move event t' →
      P ((move, event) :: seen) t')
    {moves : List Move} (meets : Machine.Always step C net moves) :
    P (Machine.history step net moves) (Machine.exec step net moves) := by
  refine (Machine.always_induction (P := fun seen t => Shaped t.client ∧ P seen t)
    ⟨shaped, initial⟩ ?_ meets).2
  rintro seen t move meets ⟨shaped, holds⟩
  have moves := step_moves shaped move
  exact ⟨shaped.moves moves, next seen t move _ _ meets holds moves⟩

theorem shaped_start (transport : Transport) (config : ServerConfig) (now : ℕ) (draws : ℕ → UInt32)
    (sessionId : UInt32) (cqCapacity : ℕ) :
    Shaped (start transport config now draws sessionId cqCapacity).client := by
  rw [start_eq]
  exact .idle _

/-! ### The server of a network -/

/-- The session was run from its beginning over a transport that refuses nothing, and it has
accepted its CONNECT, with the size that the client proposes. -/
def Reached (config : ServerConfig) (now : ℕ) (server : ServerRun) : Prop :=
  ∃ inputs, server = (ServerRun.new config now).after inputs ∧
    (∀ input ∈ inputs, ∀ i, input.1.transport i = none) ∧
    connectAcks (ServerRun.allReplies ((ServerRun.new config now).seen inputs)) ≠ 0 ∧
    server.session.maxMsgSize = defaultMaxMsgSize

/-- Serving one more frame leads to another session of this kind: nothing but time and draws comes
from outside. -/
theorem Reached.step {config : ServerConfig} {now : ℕ} {server : ServerRun}
    (reached : Reached config now server) (later : ℕ) (draws : ℕ → UInt32) (message : WsMessage) :
    Reached config now (server.step (.reliable later draws, message)).2 := by
  obtain ⟨inputs, rfl, reliable, acked, size⟩ := reached
  refine ⟨inputs ++ [(.reliable later draws, message)], ?_, ?_, ?_, ?_⟩
  · rw [ServerRun.after_concat]
  · intro input mem i
    rcases List.mem_append.mp mem with earlier | last
    · exact reliable input earlier i
    · rw [List.mem_singleton.mp last]
      rfl
  · rw [ServerRun.seen_concat, ServerRun.allReplies, List.flatMap_cons,
      ServerRun.connectAcks_append]
    exact fun none => acked (Nat.eq_zero_of_add_eq_zero_left none)
  · have agreed := (ServerRun.monotone_after config now inputs
      [(.reliable later draws, message)]).2 acked
    rw [ServerRun.after_concat] at agreed
    exact (congrArg (fun terms => terms.2.2) agreed).trans size

/-- **The server of a network** is always a session in one of its own runs, so whatever is known of
all runs of a session is known of it. -/
theorem server_reached (transport : Transport) (config : ServerConfig) (now : ℕ)
    (draws : ℕ → UInt32) (sessionId : UInt32) (cqCapacity : ℕ) (moves : List Move) :
    Reached config now
      (Machine.exec step (start transport config now draws sessionId cqCapacity) moves).server := by
  refine moves_induction (C := fun _ _ => True) (P := fun _ net => Reached config now net.server)
    (shaped_start transport config now draws sessionId cqCapacity) ?_ ?_
    (Machine.always_of_forall (fun _ _ => trivial) _ moves)
  · refine ⟨[(.reliable now draws, .binary (connectMessage sessionId).encode)], ?_, ?_, ?_, ?_⟩
    · show _ = ((ServerRun.new config now).step
        (.reliable now draws, .binary (connectMessage sessionId).encode)).2
      rw [start_eq, step_connect]
    · intro input mem i
      rw [List.mem_singleton.mp mem]
      rfl
    · rw [ServerRun.seen_cons, step_connect]
      exact Nat.one_ne_zero
    · rw [start_eq]
      rfl
  · intro seen net move event net' _ reached moves
    cases moves with
    | serves later draws front running => exact reached.step later draws _
    | _ => exact reached

end Network

end Rdows
