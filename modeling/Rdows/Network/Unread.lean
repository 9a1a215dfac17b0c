import Mathlib.Data.List.Chain
import Rdows.Network.Moves
import Rdows.Server.Replies

/-!
# What the client has yet to read

The messages on the way to the client, as it will decode them (`unread`), in runs in which every
frame the server handles is admitted.

* A frame on the way to the server that carries the number of the current call is one of the
  messages of that call (`Attuned.own`).
* An unread message is a CREDIT_UPDATE, or it has an opcode that answers the current call
  (`Attuned.suits`).
* No two CREDIT_UPDATEs follow each other (`Attuned.spaced`).

## Why it is needed

`Coherent` says which answer a call gets, but not what the messages on the way do to the client when
it reads them.  The accounts of credits and of regions need just that: they are balanced between the
client, the server and the channel, so every message in the channel has to be understood before it
is read.  That CREDIT_UPDATEs are apart bounds the credits that are on the way.

## Induction over admitted runs

`admitted_induction` is the induction over such runs.  It hands out what is known of every network
on the way: the forms of a call, the invariant `Coherent`, the session of the server as one that was
run from its beginning, and `Attuned`.  `Coherent.reads` and `Coherent.serves` say what a read and a
served frame can do under these circumstances.

`always_admitted` leads from the conditions of a lossless channel to those of an admitted run.  It
is where the limit of the transport enters: it is not above the size that is negotiated, so that the
server's own check of the size never refuses a frame.
-/

namespace Rdows

open Rust

/-- The call that is under way, with the connection it was made on, until it has returned. -/
def Phase.call : Phase → Option (Verb × RdowsConnection)
  | inCall verb before _ _ => some (verb, before)
  | idle _ => none
  | crashed => none

namespace RdowsMessage

theorem variantOpcode_canonical (m : RdowsMessage) :
    m.canonical.variantOpcode = m.variantOpcode := by
  cases m <;> rfl

theorem isCreditUpdate_iff {m : RdowsMessage} :
    m.isCreditUpdate = true ↔ m.variantOpcode = .creditUpdate := by
  cases m <;> simp [isCreditUpdate, variantOpcode]

/-- An answer is not a CREDIT_UPDATE. -/
theorem not_creditUpdate_of_answers {m : RdowsMessage} {opcode : Opcode}
    (kind : m.variantOpcode ∈ opcode.answers) : m.isCreditUpdate = false := by
  have never : Opcode.creditUpdate ∉ opcode.answers := by cases opcode <;> decide
  rw [Bool.eq_false_iff]
  intro notice
  rw [isCreditUpdate_iff.mp notice] at kind
  exact never kind

end RdowsMessage

/-- A reply is an answer or a CREDIT_UPDATE. -/
theorem Replies.mem {opcode : Opcode} {sent : List RdowsMessage} (replies : Replies opcode sent)
    {m : RdowsMessage} (mem : m ∈ sent) :
    m.isCreditUpdate = true ∨ m.variantOpcode ∈ opcode.answers := by
  cases replies with
  | silent => cases mem
  | answer m' kind =>
      obtain rfl := List.mem_singleton.mp mem
      exact .inr kind
  | returned header header' payload data =>
      rcases List.mem_cons.mp mem with rfl | last
      · have kind : Opcode.recvComp ∈ Opcode.sendData.answers := by decide
        rw [data]
        exact .inr kind
      · obtain rfl := List.mem_singleton.mp last
        exact .inl rfl

/-- What the server reads as a message was a frame within the limit of the transport. -/
theorem Transport.decoded_of_carried {t : Transport} {frame : Bytes} {msg : RdowsMessage}
    (carried : (t.deliver frame).carried = some msg) :
    t.fits frame = true ∧ RdowsMessage.decode frame = .ok msg := by
  rcases within : t.fits frame with _ | _
  · rw [deliver_of_not_fits within] at carried
    cases carried
  · rw [deliver_of_fits within, WsMessage.carried] at carried
    rcases decoded : RdowsMessage.decode frame with m | e | p <;> rw [decoded] at carried <;>
      cases carried
    exact ⟨rfl, rfl⟩

/-! ### What answers a call -/

namespace Verb

/-- The opcodes that answer a call: its response and ERROR.  They are those of the frame that is
answered. -/
def answers : Verb → List Opcode
  | regMr .. => Opcode.mrReg.answers
  | deregMr .. => Opcode.mrDereg.answers
  | postSend .. => Opcode.sendData.answers
  | rdmaWrite .. => Opcode.writeData.answers
  | rdmaRead .. => Opcode.readReq.answers
  | atomicCas .. | atomicFaa .. => Opcode.atomicReq.answers
  | pollCq .. | writeLocalMr .. | readLocalMr .. => []

/-- What an answer to the call tells about the regions: an acknowledgement of success adds one or
removes one. -/
def settle : Verb → RdowsMessage → Handles → Handles
  | regMr _ regionLen, .mrRegAck _ ack, regions => regions.acknowledge regionLen ack
  | deregMr lkey, .mrDeregAck _ ack, regions => regions.release lkey ack
  | _, _, regions => regions

/-- A CREDIT_UPDATE tells nothing. -/
theorem settle_creditUpdate {v : Verb} {m : RdowsMessage} (notice : m.isCreditUpdate = true)
    (regions : Handles) : v.settle m regions = regions := by
  cases m with
  | creditUpdate header payload => cases v <;> rfl
  | _ => cases notice

theorem settle_canonical (v : Verb) (m : RdowsMessage) : v.settle m.canonical = v.settle m := by
  cases m <;> cases v <;> rfl

open Network in
/-- **A message of a call arrives** as one whose answers are answers to the call, and a reply to it
tells about the regions what a reply to the call does. -/
theorem Requests.arrives {v : Verb} {c : RdowsConnection} {messages : List RdowsMessage}
    {finish : RdowsMessage → RdowsConnection.Local VerbValue} {m : RdowsMessage}
    (requests : v.Requests c messages finish) (mem : m ∈ messages) :
    ∃ m', Arrives m m' ∧ m'.variantOpcode.answers ⊆ v.answers ∧ m'.settle = v.settle := by
  have plain {m : RdowsMessage} {sessionId sequence : UInt32} {wrid : UInt64}
      (header : m.header = RdowsHeader.new m.variantOpcode sessionId sequence wrid)
      (isPlain : m.isPlain = true) (request : Session.isControl m.canonical = false)
      (suits : m.variantOpcode.answers ⊆ v.answers) (tells : m.canonical.settle = v.settle) :
      ∃ m', Arrives m m' ∧ m'.variantOpcode.answers ⊆ v.answers ∧ m'.settle = v.settle :=
    ⟨m.canonical, arrives_canonical header isPlain request,
      by rw [RdowsMessage.variantOpcode_canonical]; exact suits, tells⟩
  cases requests with
  | regMr accessFlags regionLen =>
      obtain rfl := List.mem_singleton.mp mem
      exact plain rfl rfl rfl (List.Subset.refl _) (by funext reply; cases reply <;> rfl)
  | deregMr lkey =>
      obtain rfl := List.mem_singleton.mp mem
      exact plain rfl rfl rfl (List.Subset.refl _) (by funext reply; cases reply <;> rfl)
  | postSend wrid sgList data gathered =>
      rcases List.mem_cons.mp mem with rfl | last
      -- the first frame can only be answered with an ERROR
      · have error : Opcode.send.answers ⊆ Opcode.sendData.answers := by decide
        exact ⟨_, ⟨fun _ => RdowsMessage.decode_encode_send rfl rfl, rfl, rfl⟩, error,
          by funext reply; cases reply <;> rfl⟩
      · obtain rfl := List.mem_singleton.mp last
        exact plain rfl rfl rfl (List.Subset.refl _) (by funext reply; cases reply <;> rfl)
  | rdmaWrite wrid rkey remoteVa sgList data gathered =>
      rcases List.mem_cons.mp mem with rfl | last
      · have error : Opcode.write.answers ⊆ Opcode.writeData.answers := by decide
        exact plain rfl rfl rfl error (by funext reply; cases reply <;> rfl)
      · obtain rfl := List.mem_singleton.mp last
        exact plain rfl rfl rfl (List.Subset.refl _) (by funext reply; cases reply <;> rfl)
  | rdmaRead wrid rkey remoteVa readLen localLkey localVa =>
      obtain rfl := List.mem_singleton.mp mem
      exact plain rfl rfl rfl (List.Subset.refl _) (by funext reply; cases reply <;> rfl)
  | atomicCas wrid rkey remoteVa compare swap =>
      obtain rfl := List.mem_singleton.mp mem
      exact plain rfl rfl rfl (List.Subset.refl _) (by funext reply; cases reply <;> rfl)
  | atomicFaa wrid rkey remoteVa addend =>
      obtain rfl := List.mem_singleton.mp mem
      exact plain rfl rfl rfl (List.Subset.refl _) (by funext reply; cases reply <;> rfl)

end Verb

namespace Network

open RdowsConnection

/-! ### The unread messages -/

/-- The messages that the frames of a channel are decoded to.  A frame that cannot be decoded does
not occur in admitted runs. -/
def unreadIn (channel : List (ℕ × Bytes)) : List RdowsMessage :=
  channel.filterMap fun u =>
    match RdowsMessage.decode u.2 with
    | .ok m => some m
    | .err _ | .panic _ => none

/-- The messages that the client has yet to read. -/
def unread (net : Network) : List RdowsMessage := unreadIn net.toClient

theorem unreadIn_append (front back : List (ℕ × Bytes)) :
    unreadIn (front ++ back) = unreadIn front ++ unreadIn back :=
  List.filterMap_append

theorem unreadIn_cons {tag : ℕ} {data : Bytes} {rest : List (ℕ × Bytes)} {m : RdowsMessage}
    (decoded : RdowsMessage.decode data = .ok m) :
    unreadIn ((tag, data) :: rest) = m :: unreadIn rest := by
  rw [unreadIn, List.filterMap_cons, decoded]
  rfl

/-- Messages within the format are decoded with their payload length filled in. -/
theorem unreadIn_encode {messages : List (ℕ × RdowsMessage)}
    (fits : ∀ u ∈ messages, u.2.WithinFormat) :
    unreadIn (messages.map fun u => (u.1, u.2.encode))
      = messages.map fun u => u.2.canonical := by
  induction messages with
  | nil => rfl
  | cons u rest ih =>
      rw [List.map_cons, List.map_cons,
        unreadIn_cons (RdowsMessage.decode_encode_eq (fits u List.mem_cons_self)),
        ih fun v mem => fits v (List.mem_cons_of_mem _ mem)]

section Coherent

variable {events : List Event} {net net' : Network} {conn : RdowsConnection}
  {unread : List (ℕ × RdowsMessage)}

/-- While no call is under way, everything is settled. -/
theorem Coherent.settled (coherent : Coherent events net net.client)
    (idle : net.client = .idle conn) : net.Settled conn := by
  rw [idle] at coherent
  cases coherent with
  | idle settled => exact settled

theorem Linked.unread_eq (linked : net.Linked conn unread) :
    net.unread = unread.map fun u => u.2.canonical := by
  rw [Network.unread, linked.channel, unreadIn_encode linked.fits]

/-- Unread messages among which there is no answer are CREDIT_UPDATEs. -/
theorem creditUpdate_of_answersIn (read : answersIn unread = []) :
    ∀ m ∈ unread.map fun u => u.2.canonical, m.isCreditUpdate = true := by
  intro m mem
  obtain ⟨u, unreadU, rfl⟩ := List.mem_map.mp mem
  have notice := List.filter_eq_nil_iff.mp read u unreadU
  rw [isCreditUpdate_canonical]
  simpa using notice

/-- Nothing is unread but CREDIT_UPDATEs. -/
theorem Settled.unread_creditUpdate (settled : net.Settled conn) :
    ∀ m ∈ net.unread, m.isCreditUpdate = true := by
  obtain ⟨unread, linked, read, -⟩ := settled
  rw [linked.unread_eq]
  exact creditUpdate_of_answersIn read

/-! ### What a read can do -/

/-- What the client makes of the message `m` while it waits for its answer. -/
inductive Hears (verb : Verb) (before conn : RdowsConnection)
    (finish : RdowsMessage → Local VerbValue) (tag : ℕ) (m : RdowsMessage) : Phase → Prop
  /-- The call ends with what it makes of the answer. -/
  | answer (isAnswer : m.isCreditUpdate = false) :
      Hears verb before conn finish tag m (.inCall verb before (some (tag, m))
        (.done ((finish m).run (counted conn m)).1 ((finish m).run (counted conn m)).2))
  | credits (notice : m.isCreditUpdate = true) (credits : UInt32)
      (sum : credits.toNat = conn.sendCredits.toNat + m.creditIncrement) :
      Hears verb before conn finish tag m (.inCall verb before none
        (.request [] { counted conn m with sendCredits := credits } finish))
  | overflow (notice : m.isCreditUpdate = true)
      (beyond : 2 ^ 32 ≤ conn.sendCredits.toNat + m.creditIncrement) (p : Panic) :
      Hears verb before conn finish tag m
        (.inCall verb before none (.done (.panic p) (counted conn m)))

theorem hears_takeIn (verb : Verb) (before conn : RdowsConnection)
    (finish : RdowsMessage → Local VerbValue) (tag : ℕ) (m : RdowsMessage) :
    Hears verb before conn finish tag m
      (answered verb before finish tag ((takeIn m).run (counted conn m))) := by
  cases m with
  | creditUpdate header payload =>
      rw [takeIn, Method.run_bind_of_ok (Method.run_get _)]
      by_cases fits : conn.sendCredits.toNat + payload.creditIncrement.toNat < 2 ^ 32
      · have added : checkedAdd32 (counted conn (.creditUpdate header payload)).sendCredits
            payload.creditIncrement = some (conn.sendCredits + payload.creditIncrement) :=
          if_pos fits
        rw [added]
        exact .credits rfl _ (toNat_add32 fits)
      · have wraps : checkedAdd32 (counted conn (.creditUpdate header payload)).sendCredits
            payload.creditIncrement = none := if_neg fits
        rw [wraps]
        exact .overflow rfl (Nat.le_of_not_lt fits) _
  | _ => exact .answer rfl

variable {verb : Verb} {before : RdowsConnection} {finish : RdowsMessage → Local VerbValue}
  {tag : ℕ} {data : Bytes} {rest : List (ℕ × Bytes)}

/-- **A read.**  The first message is decoded and has the expected number; if it is an answer, it
is the only one. -/
theorem Coherent.reads (coherent : Coherent events net net.client)
    (phase : net.client = .inCall verb before none (.request [] conn finish))
    (front : net.toClient = (tag, data) :: rest) :
    ∃ m, Hears verb before conn finish tag m
        (answered verb before finish tag ((recvTurn (some (.ok data))).run conn)) ∧
      net.unread = m :: unreadIn rest ∧
      (m.isCreditUpdate = false → ∀ later ∈ unreadIn rest, later.isCreditUpdate = true) := by
  rw [phase] at coherent
  generalize talk : Talk.request [] conn finish = t at coherent
  cases coherent with
  | ended => cases talk
  | failing => cases talk
  | requesting frames unread goal requests linked outstanding owes =>
      obtain ⟨rfl, rfl, rfl⟩ := Talk.request_inj talk
      have channel := linked.channel
      rw [front] at channel
      -- what is first in the channel is the frame of the first message that is unread
      rcases unread with _ | ⟨⟨tag', m⟩, unread⟩
      · cases channel
      obtain ⟨first, others⟩ := List.cons.inj channel
      obtain ⟨rfl, rfl⟩ := Prod.mk.inj first
      have fits : m.WithinFormat := linked.fits _ List.mem_cons_self
      have decoded := RdowsMessage.decode_encode_eq fits
      have sequence : m.canonical.header.sequence = m.header.sequence := by
        rw [RdowsMessage.canonical, RdowsMessage.header_withHeader]
        rfl
      have rest_eq : unreadIn rest = unread.map fun u => u.2.canonical := by
        rw [others, unreadIn_encode fun u mem => linked.fits u (List.mem_cons_of_mem _ mem)]
      refine ⟨m.canonical, ?_, ?_, ?_⟩
      · rw [run_recvTurn_decoded decoded (by rw [sequence]; exact linked.expects)]
        exact hears_takeIn verb before conn finish tag m.canonical
      · rw [Network.unread, front, unreadIn_cons decoded]
      · intro isAnswer
        rw [isCreditUpdate_canonical] at isAnswer
        have answers : answersIn ((tag, m) :: unread) = (tag, m) :: answersIn unread :=
          List.filter_cons_of_pos (congrArg not isAnswer)
        rw [rest_eq]
        apply creditUpdate_of_answersIn
        cases outstanding with
        | owed read =>
            rw [answers] at read
            cases read
        | arrived m' frame only =>
            rw [answers] at only
            exact (List.cons.inj only).2

/-! ### What a served frame can do -/

variable {frame : Bytes}

/-- **A served frame.**  The client can decode what the server replies; and the server replies with
nothing but CREDIT_UPDATEs, or the frame belongs to the current call. -/
theorem Coherent.serves (coherent : Coherent events net net.client)
    (held : net.client.connection = some conn) (front : net.toServer = (tag, frame) :: rest)
    (running : net.server.running = true) {now : ℕ} {draws : ℕ → UInt32}
    (admitted : admits net.transport net.server (now, draws) frame = true) :
    let replies := (net.server.step (.reliable now draws, net.transport.deliver frame)).1.replies
    (net.served now draws tag frame rest).unread
      = net.unread ++ replies.map RdowsMessage.canonical ∧
    ((∀ m ∈ replies, m.isCreditUpdate = true) ∨
      tag = net.calls ∧ ∃ verb before, net.client.call = some (verb, before)) := by
  intro replies
  have decodes (fits : ∀ m ∈ replies, m.WithinFormat ∧ net.transport.fits m.encode = true) :
      (net.served now draws tag frame rest).unread
        = net.unread ++ replies.map RdowsMessage.canonical := by
    have tagged : replies.map (fun m => (tag, m.encode))
        = (replies.map fun m => (tag, m)).map fun u => (u.1, u.2.encode) := by
      rw [List.map_map]
      rfl
    show unreadIn (net.toClient ++ replies.map fun m => (tag, m.encode)) = _
    rw [unreadIn_append, tagged, unreadIn_encode, List.map_map]
    · rfl
    · intro u mem
      obtain ⟨m, sent, rfl⟩ := List.mem_map.mp mem
      exact (fits m sent).1
  have notices (silent : (service net.transport).answers replies = []) :
      ∀ m ∈ replies, m.isCreditUpdate = true := by
    intro m sent
    have notice : ¬ (!m.isCreditUpdate) = true := List.filter_eq_nil_iff.mp silent m sent
    simpa using notice
  -- outside a request nothing is owed, so all that can come is a CREDIT_UPDATE
  have settles (settled : net.Settled conn) :
      (net.served now draws tag frame rest).unread
        = net.unread ++ replies.map RdowsMessage.canonical ∧
      ∀ m ∈ replies, m.isCreditUpdate = true := by
    obtain ⟨unread, linked, read, owes⟩ := settled
    rw [front] at owes
    obtain ⟨fits, ⟨silent, -⟩ | ⟨meets, r, goal, -⟩⟩ := owes running (now, draws) admitted
    · exact ⟨decodes fits, notices silent⟩
    · cases goal
  generalize phase : net.client = client at coherent held
  cases coherent with
  | idle settled =>
      cases held
      exact ⟨(settles settled).1, .inl (settles settled).2⟩
  | ended settled answered =>
      obtain rfl := Talk.receiver_done held
      exact ⟨(settles settled).1, .inl (settles settled).2⟩
  | failing p => cases held
  | crashed => cases held
  | requesting frames unread goal requests linked outstanding owes =>
      rw [front] at owes
      obtain ⟨fits, ⟨silent, -⟩ | ⟨meets, r, isGoal, -, met, -⟩⟩ :=
        owes running (now, draws) admitted
      · exact ⟨decodes fits, .inl (notices silent)⟩
      · refine ⟨decodes fits, .inr ⟨?_, _, _, rfl⟩⟩
        cases outstanding with
        | arrived => cases isGoal
        | owed read =>
            cases isGoal
            exact met.1

end Coherent

/-! ### Frames and answers of the current call -/

/-- Not both of them are CREDIT_UPDATEs: between two of them there is an answer. -/
def Apart (m m' : RdowsMessage) : Prop := m.isCreditUpdate = false ∨ m'.isCreditUpdate = false

/-- Frames on the way and unread messages belong to the current call. -/
structure Attuned (net : Network) : Prop where
  /-- A frame with the number of the current call is one of its messages. -/
  own : ∀ u ∈ net.toServer, u.1 ≤ net.calls ∧ ∀ verb before,
    net.client.call = some (verb, before) → u.1 = net.calls →
      ∃ messages finish m, verb.Requests before messages finish ∧ m ∈ messages ∧ u.2 = m.encode
  /-- An unread message is a CREDIT_UPDATE or answers the current call. -/
  suits : ∀ conn verb before, net.client.connection = some conn →
    net.client.call = some (verb, before) →
      ∀ m ∈ net.unread, m.isCreditUpdate = true ∨ m.variantOpcode ∈ verb.answers
  /-- No two CREDIT_UPDATEs follow each other. -/
  spaced : ∀ conn, net.client.connection = some conn → net.unread.IsChain Apart

section Attuned

variable {config : ServerConfig} {started : ℕ} {events : List Event} {net net' : Network}
  {conn : RdowsConnection} {tag : ℕ} {frame : Bytes} {rest : List (ℕ × Bytes)}

theorem Reached.storeInv {server : ServerRun} (reached : Reached config started server) :
    server.session.memoryStore.StoreInv := by
  obtain ⟨inputs, rfl, -⟩ := reached
  exact ServerRun.storeInv_after config started inputs

/-- A served frame: nothing happens to the regions, or it is one of the current call and is replied
to as such. -/
theorem Attuned.serves (attuned : net.Attuned) (coherent : Coherent events net net.client)
    (reached : Reached config started net.server) (held : net.client.connection = some conn)
    (front : net.toServer = (tag, frame) :: rest) (running : net.server.running = true) {now : ℕ}
    {draws : ℕ → UInt32} (admitted : admits net.transport net.server (now, draws) frame = true) :
    let out := net.server.step (.reliable now draws, net.transport.deliver frame)
    (net.served now draws tag frame rest).unread
        = net.unread ++ out.1.replies.map RdowsMessage.canonical ∧
    ((out.1.replies = [] ∧
        out.2.session.memoryStore.handles = net.server.session.memoryStore.handles) ∨
      ∃ verb before opcode, net.client.call = some (verb, before) ∧
        Replies opcode out.1.replies ∧ opcode.answers ⊆ verb.answers ∧
        out.2.session.memoryStore.handles = out.1.replies.foldl
          (fun regions m => verb.settle m regions) net.server.session.memoryStore.handles) := by
  intro out
  obtain ⟨decodes, belongs⟩ := coherent.serves held front running admitted
  refine ⟨decodes, ?_⟩
  rcases ServerRun.answers_step reached.storeInv
      (.reliable now draws, net.transport.deliver frame) fun _ => rfl with
    ⟨silent, same⟩ | ⟨msg, carried, replies, regions⟩
  · refine .inl ⟨silent, ?_⟩
    rw [show out.2.session = _ from same]
  rcases belongs with notices | ⟨own, verb, before, call⟩
  · -- A CREDIT_UPDATE never comes alone.
    refine .inl ?_
    change Replies msg.variantOpcode out.1.replies at replies
    generalize out.1.replies = sent at notices replies regions
    cases replies with
    | silent => exact ⟨rfl, regions⟩
    | answer m kind =>
        have notice := notices m (List.mem_singleton_self m)
        rw [RdowsMessage.not_creditUpdate_of_answers kind] at notice
        cases notice
    | returned header header' payload data =>
        cases notices (.recvComp header) List.mem_cons_self
  · obtain ⟨messages, finish, m, requests, mem, encoded⟩ :=
      (attuned.own (tag, frame) (by rw [front]; exact List.mem_cons_self)).2 verb before call own
    dsimp only at encoded
    subst encoded
    obtain ⟨m', arrives, suits, tells⟩ := requests.arrives mem
    obtain ⟨within, decoded⟩ := Transport.decoded_of_carried carried
    cases decoded.symm.trans (arrives.decoded_of_admits admitted within)
    refine .inr ⟨verb, before, _, call, replies, suits, ?_⟩
    rw [← tells]
    exact regions

/-- What is replied to a message keeps CREDIT_UPDATEs apart. -/
theorem isChain_append_replies {opcode : Opcode} {front replies : List RdowsMessage}
    (spaced : front.IsChain Apart) (belongs : Replies opcode replies) :
    (front ++ replies.map RdowsMessage.canonical).IsChain Apart := by
  have isAnswer {m : RdowsMessage} (kind : m.variantOpcode ∈ opcode.answers) :
      m.canonical.isCreditUpdate = false := by
    rw [isCreditUpdate_canonical]
    exact RdowsMessage.not_creditUpdate_of_answers kind
  cases belongs with
  | silent =>
      rw [List.map_nil, List.append_nil]
      exact spaced
  | answer m kind =>
      refine List.isChain_append.mpr ⟨spaced, .singleton _, ?_⟩
      intro x _ y first
      cases first
      exact .inr (isAnswer kind)
  | returned header header' payload data =>
      refine List.isChain_append.mpr ⟨spaced, .cons_cons (.inl rfl) (.singleton _), ?_⟩
      intro x _ y first
      cases first
      exact .inr rfl

/-- **Serving a frame** keeps frames and answers with their call: the new replies answer the message
that was served, and that one belongs to the call. -/
theorem Attuned.served (attuned : net.Attuned) (coherent : Coherent events net net.client)
    (reached : Reached config started net.server) (front : net.toServer = (tag, frame) :: rest)
    (running : net.server.running = true) {now : ℕ} {draws : ℕ → UInt32}
    (admitted : admits net.transport net.server (now, draws) frame = true) :
    (net.served now draws tag frame rest).Attuned := by
  have same : (net.served now draws tag frame rest).client = net.client := rfl
  refine ⟨?_, ?_, ?_⟩
  · intro u mem
    exact attuned.own u (by rw [front]; exact List.mem_cons_of_mem _ mem)
  -- every unread message suits the call that is under way
  · intro conn verb before held call m mem
    rw [same] at held call
    obtain ⟨unread, silent | ⟨verb', before', opcode, call', replies, answers, -⟩⟩ :=
      attuned.serves coherent reached held front running admitted
    · rw [unread, silent.1, List.map_nil, List.append_nil] at mem
      exact attuned.suits conn verb before held call m mem
    · rw [unread] at mem
      cases call.symm.trans call'
      rcases List.mem_append.mp mem with old | new
      · exact attuned.suits conn verb before held call m old
      · obtain ⟨reply, sent, rfl⟩ := List.mem_map.mp new
        rw [RdowsMessage.variantOpcode_canonical, isCreditUpdate_canonical]
        exact (replies.mem sent).imp_right fun kind => answers kind
  · intro conn held
    rw [same] at held
    obtain ⟨unread, silent | ⟨-, -, opcode, -, replies, -, -⟩⟩ :=
      attuned.serves coherent reached held front running admitted
    · rw [unread, silent.1, List.map_nil, List.append_nil]
      exact attuned.spaced conn held
    · rw [unread]
      exact isChain_append_replies (attuned.spaced conn held) replies

/-- A read does not change which call is under way. -/
theorem call_answered (verb : Verb) (before : RdowsConnection)
    (finish : RdowsMessage → Local VerbValue) (tag : ℕ)
    (turn : Outcome RdowsError (Option RdowsMessage) × RdowsConnection) :
    (answered verb before finish tag turn).call = some (verb, before) := by
  obtain ⟨(_ | m) | e | p, conn⟩ := turn <;> rfl

/-- **Every move keeps frames and answers with their call.** A new call begins when nothing but
CREDIT_UPDATEs is unread, so that no answer is left over for it. -/
theorem Attuned.moves {move : Move} {event : Event} (attuned : net.Attuned)
    (shaped : Shaped net.client) (coherent : Coherent events net net.client)
    (reached : Reached config started net.server) (admitted : net.admitted move = true)
    (moves : Moves net move event net') : net'.Attuned := by
  obtain ⟨own, suits, spaced⟩ := attuned
  -- A new call finds nothing but CREDIT_UPDATEs, and has a number that no frame carries yet.
  have called {c : RdowsConnection} (phase : net.client = .idle c) (client : Phase) :
      Attuned { net with client, calls := net.calls + 1 } := by
    rw [phase] at spaced
    refine ⟨?_, ?_, fun _ _ => spaced c rfl⟩
    · intro u mem
      have earlier := (own u mem).1
      refine ⟨Nat.le_succ_of_le earlier, fun _ _ _ number => ?_⟩
      dsimp only at number
      omega
    · intro _ _ _ _ _ m mem
      exact .inl ((coherent.settled phase).unread_creditUpdate m mem)
  cases moves with
  | stays => exact ⟨own, suits, spaced⟩
  | ends phase started same => exact called phase _
  | asks phase started requests same => exact called phase _
  | sends phase =>
      rw [phase] at own suits spaced shaped
      refine ⟨?_, suits, spaced⟩
      intro u mem
      rcases List.mem_append.mp mem with old | new
      · exact own u old
      · obtain rfl := List.mem_singleton.mp new
        refine ⟨Nat.le_refl _, fun verb before call _ => ?_⟩
        cases call
        -- The frame is one of those that the shape of the call lists.
        generalize talk : Talk.request _ _ _ = t at shaped
        cases shaped with
        | ended => cases talk
        | requesting frames conn requests suffix =>
            obtain ⟨rfl, rfl, rfl⟩ := Talk.request_inj talk
            obtain ⟨m, mem, encoded⟩ := List.mem_map.mp (suffix.subset List.mem_cons_self)
            exact ⟨_, _, m, requests, mem, encoded.symm⟩
  | @reads verb before conn messages finish tag data rest phase requests front =>
      have waits := Phase.connection_of_request phase
      have call : net.client.call = some (verb, before) := by rw [phase]; rfl
      obtain ⟨m, -, unread, -⟩ := coherent.reads phase front
      refine ⟨?_, ?_, ?_⟩
      · intro u mem
        refine ⟨(own u mem).1, fun verb' before' call' => ?_⟩
        rw [call_answered] at call'
        cases call'
        exact (own u mem).2 verb before call
      · intro conn' verb' before' _ call' later mem
        rw [call_answered] at call'
        cases call'
        refine suits conn verb before waits call later ?_
        rw [unread]
        exact List.mem_cons_of_mem _ mem
      · intro conn' _
        have chain := spaced conn waits
        rw [unread] at chain
        exact chain.tail
  | loses phase stuck =>
      rw [phase] at own suits spaced
      exact ⟨own, fun _ verb before _ => suits _ verb before (Talk.receiver_request _ _ _),
        fun _ _ => spaced _ (Talk.receiver_request _ _ _)⟩
  | returns phase returned =>
      refine ⟨fun u mem => ⟨(own u mem).1, by simp [Phase.call]⟩, by simp [Phase.call], ?_⟩
      rw [phase] at spaced
      exact fun _ _ => spaced _ (Talk.receiver_done_of_not_isPanic _ returned)
  | crashes =>
      exact ⟨fun u mem => ⟨(own u mem).1, by simp [Phase.call]⟩, by simp [Phase.call],
        by simp [Phase.connection]⟩
  | serves now draws front running =>
      have admits := admits_of_admitted admitted front running
      exact Attuned.served ⟨own, suits, spaced⟩ coherent reached front running admits

end Attuned

/-! ### Induction over admitted runs -/

/-- What is known of a network at every point of a run whose frames are all admitted.  It is the
induction hypothesis of every invariant of such runs. -/
structure Known (config : ServerConfig) (now : ℕ) (seen : List (Move × Event)) (net : Network) :
    Prop where
  shaped : Shaped net.client
  coherent : Coherent (seen.map Prod.snd) net net.client
  reached : Reached config now net.server
  attuned : net.Attuned

theorem known_start (transport : Transport) (config : ServerConfig) (now : ℕ) (draws : ℕ → UInt32)
    (sessionId : UInt32) (cqCapacity : ℕ) :
    Known config now [] (start transport config now draws sessionId cqCapacity) where
  shaped := shaped_start transport config now draws sessionId cqCapacity
  coherent := coherent_start transport config now draws sessionId cqCapacity
  reached := server_reached transport config now draws sessionId cqCapacity []
  attuned := by
    rw [start_eq]
    exact ⟨by simp, by simp [Phase.call], fun _ _ => .nil⟩

/-- Every move keeps what is known, so that an invariant built on it needs no induction of its own
for this part. -/
theorem Known.step {config : ServerConfig} {now : ℕ} {seen : List (Move × Event)} {net : Network}
    (known : Known config now seen net) {move : Move} (admitted : net.admitted move = true) :
    Known config now ((move, (net.step move).1) :: seen) (net.step move).2 := by
  have moves := step_moves known.shaped move
  refine ⟨known.shaped.moves moves, (known.coherent.step move admitted).1, ?_,
    known.attuned.moves known.shaped known.coherent known.reached admitted moves⟩
  generalize (net.step move).1 = event at moves
  generalize (net.step move).2 = net' at moves
  cases moves with
  | serves later draws front running => exact known.reached.step later draws _
  | _ => exact known.reached

/-- **Induction over admitted runs.** What holds at the start and survives every admitted move,
given what is known before it, holds after every run of admitted moves. -/
theorem admitted_induction {transport : Transport} {config : ServerConfig} {now : ℕ}
    {draws : ℕ → UInt32} {sessionId : UInt32} {cqCapacity : ℕ}
    {P : List (Move × Event) → Network → Prop}
    (initial : P [] (start transport config now draws sessionId cqCapacity))
    (next : ∀ seen net move event net', net.admitted move = true → Known config now seen net →
      P seen net → Moves net move event net' → P ((move, event) :: seen) net')
    {moves : List Move}
    (ok : Machine.Always step (fun net move => net.admitted move = true)
      (start transport config now draws sessionId cqCapacity) moves) :
    let seen := Machine.history step (start transport config now draws sessionId cqCapacity) moves
    let net := Machine.exec step (start transport config now draws sessionId cqCapacity) moves
    Known config now seen net ∧ P seen net := by
  refine Machine.always_induction (P := fun seen net => Known config now seen net ∧ P seen net)
    ⟨known_start transport config now draws sessionId cqCapacity, initial⟩ ?_ ok
  rintro seen net move admitted ⟨known, holds⟩
  exact ⟨known.step admitted,
    next seen net move _ _ admitted known holds (step_moves known.shaped move)⟩

/-! ### Lossless runs -/

/-- What stays the same in a run over one transport: the client's call has one of its forms, the
server is in one of its own runs, and the transport has its limit. -/
structure Limited (config : ServerConfig) (now limit : ℕ) (net : Network) : Prop where
  shaped : Shaped net.client
  reached : Reached config now net.server
  limited : net.transport.maxFrameSize = some limit

theorem Limited.step {config : ServerConfig} {now limit : ℕ} {net : Network} (move : Move)
    (fixed : Limited config now limit net) : Limited config now limit (net.step move).2 := by
  have moves := step_moves fixed.shaped move
  refine ⟨fixed.shaped.moves moves, ?_, ?_⟩ <;>
    generalize (net.step move).1 = event at moves <;>
    generalize (net.step move).2 = net' at moves
  · cases moves with
    | serves later draws front running => exact fixed.reached.step later draws _
    | _ => exact fixed.reached
  · cases moves <;> exact fixed.limited

/-- **A lossless run is admitted**, over a transport whose limit is not above the size that is
negotiated: a frame that is delivered is not too large then, and a reply that is carried has a
length that fits its field. -/
theorem Limited.admitted {config : ServerConfig} {now limit : ℕ} {net : Network} {move : Move}
    (fixed : Limited config now limit net) (below : limit ≤ headerSize + defaultMaxMsgSize.toNat)
    (live : net.writesLive move = true) (carried : net.lossless move = true) :
    net.admitted move = true := by
  cases move with
  | call verb => rfl
  | client => rfl
  | server later draws =>
      rcases front : net.toServer with _ | ⟨⟨tag, frame⟩, rest⟩
      · rw [Network.admitted, front]
      rcases running : net.server.running with _ | _
      · rw [Network.admitted, front, running]
        rfl
      rcases within : net.transport.fits frame with _ | _
      · have admits : admits net.transport net.server (later, draws) frame = true := by
          rw [Network.admits, within]
          rfl
        rw [Network.admitted, front]
        exact (congrArg (!net.server.running || ·) admits).trans (Bool.or_true _)
      -- the negotiated size is the default, and the transport takes nothing above it
      obtain ⟨-, -, -, -, size⟩ := fixed.reached
      have short : frame.length ≤ headerSize + net.server.session.maxMsgSize.toNat := by
        rw [size]
        exact (Transport.length_le_of_fits fixed.limited within).trans below
      rw [writesLive, front, running] at live
      replace live : (!net.transport.fits frame || writesAllowed net.server frame) = true := live
      rw [within] at live
      rw [lossless, Network.step, serverStep_serve later draws front running,
        Transport.deliver_of_fits within] at carried
      rw [Network.admitted, front, running]
      show admits net.transport net.server (later, draws) frame = true
      rw [admits, within, decide_eq_true short]
      refine Bool.and_eq_true_iff.mpr ⟨live, List.all_eq_true.mpr fun m sent => ?_⟩
      have fits := List.all_eq_true.mp carried m sent
      have bound := (Transport.length_le_of_fits fixed.limited fits).trans below
      have field := defaultMaxMsgSize.toNat_lt
      rw [RdowsMessage.length_encode] at bound
      rw [fits, decide_eq_true (show m.encodePayload.length < 2 ^ 32 by omega)]
      rfl

/-- **Whole runs** over such a transport are admitted, if the WRITEs find live keys and no reply is
lost. -/
theorem always_admitted {transport : Transport} {limit : ℕ}
    (limited : transport.maxFrameSize = some limit)
    (below : limit ≤ headerSize + defaultMaxMsgSize.toNat) {config : ServerConfig} {now : ℕ}
    {draws : ℕ → UInt32} {sessionId : UInt32} {cqCapacity : ℕ} {moves : List Move}
    (ok : Machine.Always step
      (fun net move => net.writesLive move = true ∧ net.lossless move = true)
      (start transport config now draws sessionId cqCapacity) moves) :
    Machine.Always step (fun net move => net.admitted move = true)
      (start transport config now draws sessionId cqCapacity) moves := by
  refine ok.imp_of_invariant (I := Limited config now limit) (fun _ move => Limited.step move)
    (fun _ _ fixed meets => fixed.admitted below meets.1 meets.2) ⟨?_, ?_, ?_⟩
  · exact shaped_start transport config now draws sessionId cqCapacity
  · exact server_reached transport config now draws sessionId cqCapacity []
  · rw [start_eq]
    exact limited

end Network

end Rdows
