import Rdows.Network.Requests

/-!
# Requests and answers agree

In every interleaving of the client and the server, a call consumes the answer to its own request,
and nothing but CREDIT_UPDATEs is left unread when it has returned, as long as every frame the
server handles is admitted (`Network.admits`).

## Why this is not obvious

The client takes the next message that is no CREDIT_UPDATE for the answer to its call, without
comparing numbers.  One answer too many, and every later call reads the answer to the call before
it.  So the server must answer each request exactly once, however many frames it has, and the client
must not return before it has read that answer.  Exactly one thing breaks this: a WRITE that is
refused, because both of its frames are answered with an ERROR (`refused_write_leaves_answer`).

## The invariant

`Coherent` follows the phases of the client.  It speaks of the two channels in terms of what is
*owed*: the frames that are on their way to the server, together with those the call has yet to
send, owe one answer or none; and the messages that are on their way to the client hold the answer
that is no longer owed (`Outstanding`).

* `Linked`: what is unread is decodable and numbered as the client expects.
* `Settled`: nothing is unread but CREDIT_UPDATEs, and nothing is owed; this is what holds between
  two calls.
* `Coherent.server`, `Coherent.call`, `Coherent.client`: each kind of move keeps the invariant.
* `responses_agree`: the theorem, by induction over the run.

The server's side is a `Service` in the sense of `Lib.Dialogue`, so what a frame does to the debt is
proved once, without the channels.
-/

namespace Rdows

open Rust Handler

namespace Network

open RdowsConnection

/-! ### What is unread -/

/-- The unread messages that answer a request: all but the CREDIT_UPDATEs. -/
def answersIn (unread : List (ℕ × RdowsMessage)) : List (ℕ × RdowsMessage) :=
  unread.filter fun u => !u.2.isCreditUpdate

/-- The channel to the client holds these messages.  They can be read and decoded, and they are
numbered from the number the client expects to the one the server uses next. -/
structure Linked (net : Network) (conn : RdowsConnection) (unread : List (ℕ × RdowsMessage)) :
    Prop where
  channel : net.toClient = unread.map fun u => (u.1, u.2.encode)
  fits : ∀ u ∈ unread, u.2.WithinFormat
  carried : ∀ u ∈ unread, net.transport.fits u.2.encode = true
  numbered : ∃ expected, conn.expectedRemoteSeq = some expected ∧
    Numbered expected (unread.map Prod.snd) net.server.session.nextSeq

/-- Nothing is unread but CREDIT_UPDATEs, and nothing is owed for the frames that are left in the
channel. -/
def Settled (net : Network) (conn : RdowsConnection) : Prop :=
  ∃ unread, net.Linked conn unread ∧ answersIn unread = [] ∧
    (service net.transport).Owes (Rest conn.nextSeq) net.toServer none net.server

/-- The answer to a call is still owed, or it is the only answer that is unread.  In the second case
the frame it answers has been handled, and the event is in the history. -/
inductive Outstanding (events : List Event) (call : ℕ) (verb : Verb) (before : RdowsConnection)
    (unread : List (ℕ × RdowsMessage)) :
    Option (ℕ × Bytes → ServerRun → ServerRun → RdowsMessage → Prop) → Prop
  | owed (read : answersIn unread = []) :
      Outstanding events call verb before unread (some (Meets call verb before))
  | arrived (m : RdowsMessage) (frame : Handled) (only : answersIn unread = [(call, m)])
      (handled : Event.handled frame ∈ events) (own : frame.call = call)
      (sent : m ∈ frame.replies)
      (tells : verb.Answer before frame.before.memoryStore frame.after.memoryStore m.canonical) :
      Outstanding events call verb before unread none

/-- **The invariant**, phase by phase.  A call that panicked ends the client, and nothing is claimed
of what it leaves. -/
inductive Coherent (events : List Event) (net : Network) : Phase → Prop
  | idle {conn : RdowsConnection} (settled : net.Settled conn) : Coherent events net (.idle conn)
  | requesting {verb : Verb} {before conn : RdowsConnection} {messages : List RdowsMessage}
      {finish : RdowsMessage → Local VerbValue} (frames : List Bytes)
      (unread : List (ℕ × RdowsMessage))
      (goal : Option (ℕ × Bytes → ServerRun → ServerRun → RdowsMessage → Prop))
      (requests : verb.Requests before messages finish) (linked : net.Linked conn unread)
      (outstanding : Outstanding events net.calls verb before unread goal)
      (owes : (service net.transport).Owes (Rest conn.nextSeq)
        (net.toServer ++ frames.map fun frame => (net.calls, frame)) goal net.server) :
      Coherent events net (.inCall verb before none (.request frames conn finish))
  | ended {verb : Verb} {before conn : RdowsConnection} {consumed : Option (ℕ × RdowsMessage)}
      {result : Outcome RdowsError VerbValue} (settled : net.Settled conn)
      (answered : Returned.Answered events
        { call := net.calls, verb, before, result, after := conn, consumed }) :
      Coherent events net (.inCall verb before consumed (.done result conn))
  | failing {verb : Verb} {before conn : RdowsConnection} {consumed : Option (ℕ × RdowsMessage)}
      (p : Panic) : Coherent events net (.inCall verb before consumed (.done (.panic p) conn))
  | crashed : Coherent events net .crashed

section Monotone

variable {events : List Event} {net : Network} {call : ℕ} {verb : Verb}
  {before : RdowsConnection} {unread : List (ℕ × RdowsMessage)}
  {goal : Option (ℕ × Bytes → ServerRun → ServerRun → RdowsMessage → Prop)}

theorem answered_cons {record : Returned} (h : record.Answered events) (event : Event) :
    record.Answered (event :: events) where
  own tag m consumed := by
    obtain ⟨own, frame, handled, rest⟩ := h.own tag m consumed
    exact ⟨own, frame, List.mem_cons_of_mem _ handled, rest⟩
  applied value remote ok := by
    obtain ⟨frame, handled, rest⟩ := h.applied value remote ok
    exact ⟨frame, List.mem_cons_of_mem _ handled, rest⟩

/-- Only the answers that are unread matter, and more events do no harm. -/
theorem Outstanding.mono {events' : List Event} {unread' : List (ℕ × RdowsMessage)}
    (h : Outstanding events call verb before unread goal) (more : events ⊆ events')
    (same : answersIn unread' = answersIn unread) :
    Outstanding events' call verb before unread' goal := by
  cases h with
  | owed read => exact .owed (same.trans read)
  | arrived m frame only handled own sent tells =>
      exact .arrived m frame (same.trans only) (more handled) own sent tells

theorem Coherent.cons {phase : Phase} (h : Coherent events net phase) (event : Event) :
    Coherent (event :: events) net phase := by
  cases h with
  | idle settled => exact .idle settled
  | requesting frames unread goal requests linked outstanding owes =>
      exact .requesting frames unread goal requests linked
        (outstanding.mono (List.subset_cons_self event events) rfl) owes
  | ended settled answered => exact .ended settled (answered_cons answered event)
  | failing p => exact .failing p
  | crashed => exact .crashed

end Monotone

/-- What a move must do: keep the invariant, and let a call return with its own answer only. -/
def Kept (events : List Event) (out : Event × Network) : Prop :=
  Coherent (out.1 :: events) out.2 out.2.client ∧
    ∀ record, out.1 = .returned record → record.Answered events

theorem Coherent.quiet {events : List Event} {net : Network}
    (h : Coherent events net net.client) : Kept events (.quiet, net) :=
  ⟨h.cons .quiet, fun record same => by cases same⟩

/-! ### The server moves -/

section Server

variable {events : List Event} {net : Network} {conn : RdowsConnection}
  {unread : List (ℕ × RdowsMessage)}

theorem answersIn_append (front back : List (ℕ × RdowsMessage)) :
    answersIn (front ++ back) = answersIn front ++ answersIn back :=
  List.filter_append ..

/-- The answers among the replies to one frame. -/
theorem answersIn_tagged (t : Transport) (tag : ℕ) (replies : List RdowsMessage) :
    answersIn (replies.map fun m => (tag, m))
      = ((service t).answers replies).map fun m => (tag, m) := by
  rw [answersIn, List.filter_map]
  rfl

variable {now : ℕ} {draws : ℕ → UInt32} {tag : ℕ} {frame : Bytes} {rest : List (ℕ × Bytes)}

/-- The replies follow what is unread, with the next numbers. -/
theorem Linked.served (linked : net.Linked conn unread)
    (fits : ∀ m ∈ ((service net.transport).serve net.server (now, draws) (tag, frame)).1,
      m.WithinFormat ∧ net.transport.fits m.encode = true) :
    (net.served now draws tag frame rest).Linked conn (unread ++
      ((service net.transport).serve net.server (now, draws) (tag, frame)).1.map
        fun m => (tag, m)) where
  channel := by
    rw [List.map_append, List.map_map, ← linked.channel]
    rfl
  fits u hu := by
    rcases List.mem_append.mp hu with old | new
    · exact linked.fits u old
    · obtain ⟨m, hm, rfl⟩ := List.mem_map.mp new
      exact (fits m hm).1
  carried u hu := by
    rcases List.mem_append.mp hu with old | new
    · exact linked.carried u old
    · obtain ⟨m, hm, rfl⟩ := List.mem_map.mp new
      exact (fits m hm).2
  -- the new replies carry on the numbers of the server, behind those that are unread
  numbered := by
    obtain ⟨expected, expects, numbered⟩ := linked.numbered
    refine ⟨expected, expects, ?_⟩
    have tagged (replies : List RdowsMessage) :
        (replies.map fun m => (tag, m)).map Prod.snd = replies := by
      rw [List.map_map]
      exact List.map_id _
    rw [List.map_append, tagged]
    exact numbered.append (net.server.numbered_step now draws (net.transport.deliver frame))

/-- Nothing is owed for frames that are left over; they are handled silently. -/
theorem Settled.served (settled : net.Settled conn) (front : net.toServer = (tag, frame) :: rest)
    (running : net.server.running = true)
    (admitted : admits net.transport net.server (now, draws) frame = true) :
    (net.served now draws tag frame rest).Settled conn := by
  obtain ⟨unread, linked, read, owes⟩ := settled
  rw [front] at owes
  obtain ⟨fits, ⟨silent, later⟩ | ⟨meets, r, goal, -⟩⟩ := owes running (now, draws) admitted
  · refine ⟨_, linked.served fits, ?_, later⟩
    rw [answersIn_append, answersIn_tagged net.transport, silent, read]
    rfl
  · cases goal

/-- **The server handles a frame.** What it replies is appended to what is unread, and what it owes
is one frame less. -/
theorem Coherent.server (h : Coherent events net net.client) (now : ℕ) (draws : ℕ → UInt32)
    (ok : net.admitted (.server now draws) = true) : Kept events (net.serverStep now draws) := by
  rcases front : net.toServer with _ | ⟨⟨tag, frame⟩, rest⟩
  · rw [serverStep_rest now draws (.inl front)]
    exact h.quiet
  rcases running : net.server.running with _ | _
  · rw [serverStep_rest now draws (.inr running)]
    exact h.quiet
  have admitted := admits_of_admitted ok front running
  have step : net.serverStep now draws = (.handled ⟨tag, net.server.session,
      ((service net.transport).serve net.server (now, draws) (tag, frame)).1,
      ((service net.transport).serve net.server (now, draws) (tag, frame)).2.session⟩,
      net.served now draws tag frame rest) := serverStep_serve now draws front running
  rw [step]
  refine ⟨?_, fun record same => by cases same⟩
  show Coherent _ (net.served now draws tag frame rest) net.client
  generalize net.client = phase at h
  cases h with
  | idle settled => exact .idle (settled.served front running admitted)
  | requesting frames unread goal requests linked outstanding owes =>
      rw [front] at owes
      obtain ⟨fits, ⟨silent, later⟩ | ⟨meets, r, isGoal, only, met, later⟩⟩ :=
        owes running (now, draws) admitted
      -- The frame was not the one with the answer: only notices came back.
      · refine .requesting frames _ goal requests (linked.served fits)
          (outstanding.mono (List.subset_cons_self _ _) ?_) later
        rw [answersIn_append, answersIn_tagged net.transport, silent]
        exact List.append_nil _
      · cases outstanding with
        | arrived => cases isGoal
        | owed read =>
            -- The answer is the only one of the call, because none was unread before.
            cases isGoal
            obtain ⟨own, tells⟩ := met
            have sent :
                r ∈ ((service net.transport).serve net.server (now, draws) (tag, frame)).1 := by
              refine (List.mem_filter.mp (?_ : r ∈ (service net.transport).answers _)).1
              rw [only]
              exact List.mem_singleton_self r
            refine .requesting frames _ none requests (linked.served fits)
              (.arrived r _ ?_ List.mem_cons_self own sent tells) later
            rw [answersIn_append, answersIn_tagged net.transport, only, read]
            exact congrArg (fun call => [(call, r)]) own
  | ended settled answered =>
      exact .ended (settled.served front running admitted) (answered_cons answered _)
  | failing p => exact .failing p
  | crashed => exact .crashed

end Server

/-! ### The client is called -/

section Call

variable {events : List Event} {net net' : Network} {conn conn' : RdowsConnection}
  {unread : List (ℕ × RdowsMessage)}

/-- Only the channel, the server and the sequence numbers matter. -/
theorem Linked.transfer (linked : net.Linked conn unread) (channel : net'.toClient = net.toClient)
    (transport : net'.transport = net.transport) (server : net'.server = net.server)
    (same : conn'.expectedRemoteSeq = conn.expectedRemoteSeq) : net'.Linked conn' unread where
  channel := channel.trans linked.channel
  fits := linked.fits
  carried := by
    rw [transport]
    exact linked.carried
  numbered := by
    rw [same, server]
    exact linked.numbered

@[inherit_doc Linked.transfer]
theorem Settled.transfer (settled : net.Settled conn) (frames : net'.toServer = net.toServer)
    (channel : net'.toClient = net.toClient) (transport : net'.transport = net.transport)
    (server : net'.server = net.server) (same : conn.SameLink conn') : net'.Settled conn' := by
  obtain ⟨unread, linked, read, owes⟩ := settled
  refine ⟨unread, linked.transfer channel transport server same.2, read, ?_⟩
  rw [same.1, frames, transport, server]
  exact owes

/-- **A new call.** It begins where everything is settled, and its request is owed an answer behind
what is settled.  A call that ends on its own owes nothing. -/
theorem Coherent.call (h : Coherent events net net.client) (verb : Verb) :
    Kept events (net.step (.call verb)) := by
  rcases phase : net.client with conn | ⟨running, before, consumed, talk⟩ | _
  · rw [phase] at h
    cases h with
    | idle settled =>
    have step : net.step (.call verb) = (.quiet, { net with
        client := .inCall verb conn none (verb.start.start conn)
        calls := net.calls + 1 }) := by rw [Network.step, phase]
    rw [step]
    apply Coherent.quiet
    show Coherent events _ (.inCall verb conn none (verb.start.start conn))
    rcases verb.start_cases conn with ⟨result, conn', ended, same, remote⟩ |
      ⟨messages, conn', finish, started, requests, numbered, same⟩
    · rw [ended]
      refine .ended (settled.transfer rfl rfl rfl rfl same) ⟨?_, ?_⟩
      · intro tag m consumed
        cases consumed
      · intro value isRemote ok
        refine absurd ?_ (remote isRemote)
        rw [show result = .ok value from ok]
        trivial
    -- The old frames are settled, so that what is owed behind them is the answer to this call.
    · obtain ⟨unread, linked, read, owes⟩ := settled
      rw [started]
      refine .requesting _ unread _ requests (linked.transfer rfl rfl rfl same) (.owed read) ?_
      rw [List.map_map]
      exact owes.append fun t _ standing => requests.owes numbered _ standing
  · have stays : net.step (.call verb) = (.quiet, net) := by rw [Network.step, phase]
    rw [stays]
    exact h.quiet
  · have stays : net.step (.call verb) = (.quiet, net) := by rw [Network.step, phase]
    rw [stays]
    exact h.quiet

end Call

/-! ### The client moves -/

section Client

variable {events : List Event} {net net' : Network} {conn conn' : RdowsConnection}
  {unread : List (ℕ × RdowsMessage)} {m : RdowsMessage}

/-- The connection once the message has been counted: its number is taken off, whatever it is. -/
def counted (conn : RdowsConnection) (m : RdowsMessage) : RdowsConnection :=
  { conn with expectedRemoteSeq := some (m.header.sequence + 1) }

/-- What a turn of `recv_app_message` makes of a message with the right number. -/
def takeIn : RdowsMessage → Local (Option RdowsMessage)
  | .creditUpdate _ payload => do
      let c ← Method.get
      let credits ← Method.lift
        (.orPanic .arithmeticOverflow (checkedAdd32 c.sendCredits payload.creditIncrement))
      Method.modify fun c => { c with sendCredits := credits }
      return none
  | other => return some other

/-- A message with the expected number is counted and taken in. -/
theorem run_recvTurn_decoded {data : Bytes} (decoded : RdowsMessage.decode data = .ok m)
    (expects : conn.expectedRemoteSeq = some m.header.sequence) :
    (recvTurn (some (.ok data))).run conn = (takeIn m).run (counted conn m) := by
  have valid : (validateRemoteSeq m).run conn = (.ok (), counted conn m) := by
    rw [validateRemoteSeq, Method.run_bind_of_ok (Method.run_get _), expects]
    dsimp only
    rw [if_neg (not_not.mpr rfl)]
    rfl
  rw [recvTurn, decoded, Method.run_bind_of_ok (Method.run_lift _ _)]
  refine (Method.run_bind_of_ok valid).trans ?_
  cases m <;> rfl

/-- A message within the format is decoded. -/
theorem run_recvTurn (fits : m.WithinFormat)
    (expects : conn.expectedRemoteSeq = some m.header.sequence) :
    (recvTurn (some (.ok m.encode))).run conn = (takeIn m.canonical).run (counted conn m) := by
  have sequence : m.canonical.header.sequence = m.header.sequence := by
    rw [RdowsMessage.canonical, RdowsMessage.header_withHeader]
    rfl
  have counts : counted conn m.canonical = counted conn m := by rw [counted, sequence, counted]
  rw [← counts]
  exact run_recvTurn_decoded (RdowsMessage.decode_encode_eq fits) (by rw [expects, sequence])

/-- A message that is taken in is handed over, or it is a CREDIT_UPDATE and only the credits
change, or they overflow. -/
theorem takeIn_cases (m : RdowsMessage) (conn : RdowsConnection) :
    (m.isCreditUpdate = false ∧ (takeIn m).run conn = (.ok (some m), conn)) ∨
    (m.isCreditUpdate = true ∧
      ((∃ credits, (takeIn m).run conn = (.ok none, { conn with sendCredits := credits })) ∨
        ∃ p, (takeIn m).run conn = (.panic p, conn))) := by
  cases m with
  | creditUpdate header payload =>
      refine .inr ⟨rfl, ?_⟩
      rw [takeIn, Method.run_bind_of_ok (Method.run_get _)]
      rcases checkedAdd32 conn.sendCredits payload.creditIncrement with _ | credits
      · exact .inr ⟨_, rfl⟩
      · exact .inl ⟨credits, rfl⟩
  | _ => exact .inl ⟨rfl, rfl⟩

theorem isCreditUpdate_canonical (m : RdowsMessage) :
    m.canonical.isCreditUpdate = m.isCreditUpdate := by
  cases m <;> rfl

/-- An answer is handed over. -/
theorem run_recvTurn_answer (fits : m.WithinFormat)
    (expects : conn.expectedRemoteSeq = some m.header.sequence)
    (answer : m.isCreditUpdate = false) :
    (recvTurn (some (.ok m.encode))).run conn = (.ok (some m.canonical), counted conn m) := by
  rw [run_recvTurn fits expects]
  rcases takeIn_cases m.canonical (counted conn m) with ⟨-, run⟩ | ⟨notice, -⟩
  · exact run
  · rw [isCreditUpdate_canonical, answer] at notice
    cases notice

/-- A CREDIT_UPDATE is taken in, unless the credits overflow. -/
theorem run_recvTurn_creditUpdate (fits : m.WithinFormat)
    (expects : conn.expectedRemoteSeq = some m.header.sequence)
    (notice : m.isCreditUpdate = true) :
    (∃ credits, (recvTurn (some (.ok m.encode))).run conn
      = (.ok none, { counted conn m with sendCredits := credits })) ∨
    ∃ p, (recvTurn (some (.ok m.encode))).run conn = (.panic p, counted conn m) := by
  rw [run_recvTurn fits expects]
  rcases takeIn_cases m.canonical (counted conn m) with ⟨answer, -⟩ | ⟨-, run⟩
  · rw [isCreditUpdate_canonical, notice] at answer
    cases answer
  · exact run

variable {u : ℕ × RdowsMessage}

/-- The first unread message has the number the client expects. -/
theorem Linked.expects (linked : net.Linked conn (u :: unread)) :
    conn.expectedRemoteSeq = some u.2.header.sequence := by
  obtain ⟨expected, expects, sequence, -⟩ := linked.numbered
  rw [expects, sequence]

/-- Reading the first unread message. -/
theorem Linked.tail (linked : net.Linked conn (u :: unread))
    (channel : net'.toClient = unread.map fun u => (u.1, u.2.encode))
    (transport : net'.transport = net.transport) (server : net'.server = net.server)
    (counts : conn'.expectedRemoteSeq = some (u.2.header.sequence + 1)) :
    net'.Linked conn' unread where
  channel := channel
  fits u hu := linked.fits u (List.mem_cons_of_mem _ hu)
  carried u hu := by
    rw [transport]
    exact linked.carried u (List.mem_cons_of_mem _ hu)
  numbered := by
    obtain ⟨expected, -, sequence, numbered⟩ := linked.numbered
    refine ⟨_, counts, ?_⟩
    rw [sequence, server]
    exact numbered

variable {verb : Verb} {before : RdowsConnection} {messages : List RdowsMessage}
  {finish : RdowsMessage → Local VerbValue}
  {goal : Option (ℕ × Bytes → ServerRun → ServerRun → RdowsMessage → Prop)}

/-- The client waits for its answer and there is nothing to read: it goes on waiting, or the
server is gone and the call fails. -/
theorem receive_nothing (phase : net.client = .inCall verb before none (.request [] conn finish))
    (requests : verb.Requests before messages finish) (linked : net.Linked conn [])
    (owes : (service net.transport).Owes (Rest conn.nextSeq) net.toServer
      (some (Meets net.calls verb before)) net.server) : Kept events net.clientStep := by
  have empty : net.toClient = [] := linked.channel
  rcases running : net.server.running with _ | _
  swap
  · rw [clientStep_wait phase empty running]
    apply Coherent.quiet
    rw [phase]
    refine .requesting [] [] _ requests linked (.owed rfl) ?_
    rw [List.map_nil, List.append_nil]
    exact owes
  · rw [clientStep_lost phase (.inl ⟨empty, running⟩)]
    apply Coherent.quiet
    refine .ended ⟨[], linked.transfer rfl rfl rfl rfl, rfl,
      .of_not_alive _ running⟩ ⟨?_, ?_⟩
    · intro tag m consumed
      cases consumed
    · intro value _ ok
      cases ok

/-- The client reads a message: a CREDIT_UPDATE is taken in, and the answer ends the call. -/
theorem receive_message (phase : net.client = .inCall verb before none (.request [] conn finish))
    (requests : verb.Requests before messages finish) (linked : net.Linked conn (u :: unread))
    (outstanding : Outstanding events net.calls verb before (u :: unread) goal)
    (owes : (service net.transport).Owes (Rest conn.nextSeq) net.toServer goal net.server) :
    Kept events net.clientStep := by
  obtain ⟨tag, m⟩ := u
  have fits : m.WithinFormat := linked.fits _ List.mem_cons_self
  rw [clientStep_read phase linked.channel (linked.carried _ List.mem_cons_self)]
  apply Coherent.quiet
  dsimp only
  -- a CREDIT_UPDATE is consumed on the way; anything else is the answer the call waits for
  rcases notice : m.isCreditUpdate with _ | _
  · rw [run_recvTurn_answer fits linked.expects notice]
    have answers : answersIn ((tag, m) :: unread) = (tag, m) :: answersIn unread :=
      List.filter_cons_of_pos (congrArg not notice)
    cases outstanding with
    -- an answer that is owed is not in the channel yet
    | owed read =>
        rw [answers] at read
        cases read
    | arrived m' frame only handled own sent tells =>
        rw [answers] at only
        obtain ⟨same, read⟩ := List.cons.inj only
        cases same
        have ends := requests.finish_sameLink m.canonical (counted conn m)
        refine .ended ⟨unread, linked.tail rfl rfl rfl ends.2, read, ?_⟩ ⟨?_, ?_⟩
        · rw [ends.1]
          exact owes
        · intro tag message consumed
          cases consumed
          exact ⟨rfl, frame, handled, own, m, sent, rfl⟩
        · intro value _ ok
          have run : (finish m.canonical).run (counted conn m)
              = (.ok value, ((finish m.canonical).run (counted conn m)).2) := Prod.ext ok rfl
          exact ⟨frame, handled, own, requests.applied tells run⟩
  · have answers : answersIn unread = answersIn ((tag, m) :: unread) :=
      (List.filter_cons_of_neg (by simp [notice])).symm
    rcases run_recvTurn_creditUpdate fits linked.expects notice with ⟨credits, run⟩ | ⟨p, run⟩
    · rw [run]
      refine .requesting [] unread goal requests (linked.tail rfl rfl rfl rfl)
        (outstanding.mono (List.Subset.refl _) answers) ?_
      rw [List.map_nil, List.append_nil]
      exact owes
    · rw [run]
      exact .failing p

/-- **The client moves**: it sends a frame that was owed for already, reads the front of the
channel, or returns. -/
theorem Coherent.client (h : Coherent events net net.client) : Kept events net.clientStep := by
  rcases phase : net.client with conn | ⟨verb, before, consumed, talk⟩ | _
  · rw [clientStep_idle phase]
    exact h.quiet
  swap
  · rw [clientStep_crashed phase]
    exact h.quiet
  rw [phase] at h
  cases h with
  | @requesting _ _ conn _ finish frames unread goal requests linked outstanding owes =>
      rcases frames with _ | ⟨frame, frames⟩
      · rw [List.map_nil, List.append_nil] at owes
        rcases unread with _ | ⟨u, unread⟩
        · cases outstanding with
          | owed read => exact receive_nothing phase requests linked owes
          | arrived m frame only => cases only
        · exact receive_message phase requests linked outstanding owes
      · have sends : net.client
            = .inCall verb before none (.send frame (.request frames conn finish)) := phase
        rw [clientStep_send sends]
        apply Coherent.quiet
        refine .requesting frames unread goal requests (linked.transfer rfl rfl rfl rfl)
          outstanding ?_
        -- The frame moves from what the call has yet to send to the channel; the sum is the same.
        rw [List.append_assoc]
        exact owes
  | @ended _ _ conn _ result settled answered =>
      have returns (ends : ¬ result.IsPanic) : Kept events net.clientStep := by
        rw [clientStep_return phase ends]
        refine ⟨.idle (settled.transfer rfl rfl rfl rfl (.refl conn)), fun other same => ?_⟩
        cases same
        exact answered
      rcases result with value | e | p
      · exact returns id
      · exact returns id
      · rw [clientStep_panic phase]
        exact Coherent.quiet .crashed
  | failing p =>
      rw [clientStep_panic phase]
      exact Coherent.quiet .crashed

end Client

/-! ### Whole runs -/

/-- The session of the server after the handshake. -/
def readySession (config : ServerConfig) (now : ℕ) (sessionId : UInt32) : Session :=
  { Session.new config now with
    state := .ready
    sessionId
    pd := ⟨1⟩
    nextSeq := 1
    expectedRemoteSeq := some 1 }

/-- The connection of the client after the handshake. -/
def readyConnection (sessionId : UInt32) (cqCapacity : ℕ) : RdowsConnection where
  sessionId
  pd := ⟨1⟩
  maxMsgSize := defaultMaxMsgSize
  nextSeq := 1
  expectedRemoteSeq := some 1
  sendCredits := defaultIcc
  cq := .new cqCapacity
  localMrs := ∅

/-- What the server makes of the client's CONNECT. -/
theorem step_connect (config : ServerConfig) (now : ℕ) (draws : ℕ → UInt32) (sessionId : UInt32) :
    (ServerRun.new config now).step (.reliable now draws, .binary (connectMessage sessionId).encode)
      = (⟨none, [.connectAck (.new .connectAck sessionId 0 0)
          ⟨⟨1⟩, 0, defaultMaxMsgSize, defaultIcc⟩]⟩,
        ⟨readySession config now sessionId, true⟩) := by
  have connects : RdowsMessage.decode (connectMessage sessionId).encode
      = .ok (connectMessage sessionId).canonical := by
    refine RdowsMessage.decode_encode_eq (.of_header rfl rfl ?_)
    show (ConnectPayload.encode _).length < 2 ^ 32
    rw [ConnectPayload.length_encode]
    decide
  rw [ServerRun.step_handle rfl connects]
  rfl

/-- **The handshake leaves both parties ready**: the channels are empty, and each side expects the
number that the other one uses next. -/
theorem start_eq (transport : Transport) (config : ServerConfig) (now : ℕ)
    (draws : ℕ → UInt32) (sessionId : UInt32) (cqCapacity : ℕ) :
    start transport config now draws sessionId cqCapacity =
      { transport
        client := .idle (readyConnection sessionId cqCapacity)
        toServer := []
        toClient := []
        server := ⟨readySession config now sessionId, true⟩
        calls := 0 } := by
  have acknowledges (payload : ConnectPayload) :
      RdowsMessage.decode (RdowsMessage.connectAck (.new .connectAck sessionId 0 0) payload).encode
        = .ok (RdowsMessage.connectAck (.new .connectAck sessionId 0 0) payload).canonical := by
    refine RdowsMessage.decode_encode_eq (.of_header rfl rfl ?_)
    show payload.encode.length < 2 ^ 32
    rw [ConnectPayload.length_encode]
    decide
  have carried : transport.fits (connectMessage sessionId).encode = true := by
    refine Transport.fits_of_length_le ?_
    rw [RdowsMessage.length_encode]
    show headerSize + (ConnectPayload.encode _).length ≤ 128
    rw [ConnectPayload.length_encode]
    decide
  rw [start, Transport.deliver_of_fits carried, step_connect]
  dsimp only
  rw [handshake, acknowledges]
  rfl

theorem coherent_start (transport : Transport) (config : ServerConfig) (now : ℕ)
    (draws : ℕ → UInt32) (sessionId : UInt32) (cqCapacity : ℕ) :
    Coherent [] (start transport config now draws sessionId cqCapacity)
      (start transport config now draws sessionId cqCapacity).client := by
  rw [start_eq]
  have standing : Standing (readySession config now sessionId) 1 .none :=
    ⟨rfl, rfl, rfl, rfl, show (0 : UInt32) < defaultIcc / 4 by decide⟩
  exact .idle ⟨[], ⟨rfl, by simp, by simp, 1, rfl, rfl⟩, rfl, fun _ => standing⟩

/-- What is unread when nothing is owed. -/
theorem Settled.creditUpdates {net : Network} {conn : RdowsConnection}
    (settled : net.Settled conn) : ∀ u ∈ net.toClient, ∃ header payload,
      RdowsMessage.decode u.2 = .ok (.creditUpdate header payload) := by
  obtain ⟨unread, linked, read, -⟩ := settled
  intro u hu
  rw [linked.channel] at hu
  obtain ⟨⟨tag, m⟩, hm, rfl⟩ := List.mem_map.mp hu
  have notice := List.filter_eq_nil_iff.mp read (tag, m) hm
  rw [RdowsMessage.decode_encode_eq (linked.fits (tag, m) hm)]
  cases m with
  | creditUpdate header payload => exact ⟨_, _, rfl⟩
  | _ => exact absurd rfl notice

/-- Every move keeps the invariant. -/
theorem Coherent.step {events : List Event} {net : Network} (h : Coherent events net net.client)
    (move : Move) (ok : net.admitted move = true) : Kept events (net.step move) := by
  cases move with
  | call verb => exact h.call verb
  | client => exact h.client
  | server now draws => exact h.server now draws ok

/-- **Requests and answers agree.** Take a run of the network from the handshake on.  Whenever no
call is under way, nothing is unread but CREDIT_UPDATEs; and every call that has returned consumed
the answer to its own request, and reports what was done for it.

The condition `ok` is on the frames that the server handles, one at a time, and says of each that it
is not delivered at all, or that three things hold:

* it is no larger than negotiated: the server answers an oversized frame with an ERROR without
  looking at it, so both frames of an oversized request would be answered;
* a WRITE in it names a live R_Key with the right to write: both halves of any other WRITE are
  answered, and the second answer is left for the next call;
* what the server replies is carried: a READ_RESP above the limit, or one whose length does not fit
  its field, never arrives as what was sent, and the call that waits for it ends otherwise. -/
theorem responses_agree (transport : Transport) (config : ServerConfig) (now : ℕ)
    (draws : ℕ → UInt32) (sessionId : UInt32) (cqCapacity : ℕ) (moves : List Move)
    (ok : Machine.Always step (fun net move => net.admitted move = true)
      (start transport config now draws sessionId cqCapacity) moves) :
    let net := Machine.exec step (start transport config now draws sessionId cqCapacity) moves
    let events :=
      (Machine.history step (start transport config now draws sessionId cqCapacity) moves).map
        Prod.snd
    (net.client.isIdle = true → ∀ u ∈ net.toClient, ∃ header payload,
      RdowsMessage.decode u.2 = .ok (.creditUpdate header payload)) ∧
    ∀ record, Event.returned record ∈ events → record.Answered events := by
  intro net events
  -- coherence of the states, and what was returned so far was answered; both along the run
  have invariant : Coherent events net net.client ∧
      ∀ record, Event.returned record ∈ events → record.Answered events := by
    refine Machine.always_induction
      (P := fun seen net => Coherent (seen.map Prod.snd) net net.client ∧
        ∀ record, Event.returned record ∈ seen.map Prod.snd →
          record.Answered (seen.map Prod.snd))
      ⟨coherent_start transport config now draws sessionId cqCapacity, by simp⟩ ?_ ok
    rintro seen net move admitted ⟨coherent, answered⟩
    obtain ⟨kept, own⟩ := coherent.step move admitted
    refine ⟨kept, fun record returned => ?_⟩
    rcases List.mem_cons.mp returned with last | earlier
    · exact answered_cons (own record last.symm) _
    · exact answered_cons (answered record earlier) _
  refine ⟨fun idle => ?_, invariant.2⟩
  have coherent := invariant.1
  rcases phase : net.client with conn | _ | _ <;> rw [phase] at coherent idle
  · cases coherent with
    | idle settled => exact settled.creditUpdates
  · cases idle
  · cases idle

/-- The draws of a sample run: one, two, three and so on. -/
def sampleDraws (i : ℕ) : UInt32 := UInt32.ofNat (i + 1)

/-- A sample connection, over the transport that both parties use and with the default
configuration. -/
def sampleStart : Network := start .standard {} 0 sampleDraws 7 16

/-- A call from beginning to end: it sends its frames, the server handles them, the call reads
one message and returns. -/
def round (frames : ℕ) (verb : Verb) : List Move :=
  .call verb :: (List.replicate frames .client ++
    List.replicate frames (.server 0 sampleDraws) ++ [.client, .client])

/-- A region is registered and written to. -/
def registerAndWrite : List Move :=
  round 1 (.regMr .remoteWrite 8) ++ round 2 (.rdmaWrite 1 ⟨1⟩ 0 [⟨⟨1⟩, 0, 8⟩])

/-- A region is registered and written to: all frames are admitted, the client is idle in the end,
and both calls got their own answers. -/
theorem responses_agree_registerAndWrite :
    Machine.Always step (fun net move => net.admitted move = true) sampleStart registerAndWrite ∧
    (Machine.exec step sampleStart registerAndWrite).client.isIdle = true ∧
    (∀ u ∈ (Machine.exec step sampleStart registerAndWrite).toClient, ∃ header payload,
      RdowsMessage.decode u.2 = .ok (.creditUpdate header payload)) ∧
    ∀ record, Event.returned record
        ∈ (Machine.history step sampleStart registerAndWrite).map Prod.snd →
      record.Answered ((Machine.history step sampleStart registerAndWrite).map Prod.snd) := by
  have ok : Machine.Always step (fun net move => net.admitted move = true) sampleStart
      registerAndWrite := by decide +kernel
  have idle : (Machine.exec step sampleStart registerAndWrite).client.isIdle = true := by
    decide +kernel
  have agree := responses_agree .standard {} 0 sampleDraws 7 16 registerAndWrite ok
  exact ⟨ok, idle, agree.1 idle, agree.2⟩

/-- An `rdma_write` returned `Ok` on a message that was sent for another call. -/
def reportsForeignWrite : Event → Bool
  | .returned ⟨call, .rdmaWrite .., _, .ok _, _, some (tag, _)⟩ => tag ≠ call
  | _ => false

/-- A WRITE to an unknown R_Key. -/
def refusedWrite (wrid : UInt64) : List Move := round 2 (.rdmaWrite wrid ⟨99⟩ 0 [])

/-- **A refused WRITE leaves an answer behind.**  Both halves of a WRITE to an unknown R_Key
are answered with an ERROR, and the call reads only the first one: it has returned, the server
has handled all frames, and an ERROR is unread.  From then on every call reads the answer to
the call before it; a later WRITE to the same unknown R_Key reads the WRITE_COMP of a good one
and returns `Ok`. -/
theorem refused_write_leaves_answer :
    (Machine.exec step sampleStart (refusedWrite 1)).client.isIdle = true ∧
    (Machine.exec step sampleStart (refusedWrite 1)).toServer = [] ∧
    (Machine.exec step sampleStart (refusedWrite 1)).server.running = true ∧
    (∃ u ∈ (Machine.exec step sampleStart (refusedWrite 1)).toClient,
      ¬ ∃ header payload, RdowsMessage.decode u.2 = .ok (.creditUpdate header payload)) ∧
    ∃ entry ∈ Machine.history step sampleStart (round 1 (.regMr .remoteWrite 8) ++
        refusedWrite 1 ++ round 2 (.rdmaWrite 2 ⟨1⟩ 0 []) ++ refusedWrite 3),
      reportsForeignWrite entry.2 = true := by
  have unread : (Machine.exec step sampleStart (refusedWrite 1)).toClient
      = [(1, (RdowsMessage.error (.new .error 7 2 0)
          ⟨.errUnknownOpcode, 0, "unexpected WRITE_DATA without preceding WRITE"⟩).encode)] := by
    decide +kernel
  refine ⟨by decide +kernel, by decide +kernel, by decide +kernel, ?_, by decide +kernel⟩
  rw [unread]
  refine ⟨_, List.mem_singleton_self _, ?_⟩
  rintro ⟨header, payload, decoded⟩
  cases decoded

end Network

end Rdows
