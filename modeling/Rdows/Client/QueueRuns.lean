import Rdows.Client.ScatterGather
import Rdows.Lib.Fifo

/-!
# The completion queue over whole runs

`CompletionQueue::push` refuses an entry if the queue is full, and the verbs ignore what it returns.
That nothing is lost rests on the check that every work request makes before it sends anything:
while it waits for its answer, nobody else touches the queue.

## Three steps

* `CompletionQueue.step_eq`: the queue is a bounded queue (`Lib.Fifo`), so that order and bound come
  from there.
* `queues_attempt`: the operations that one call makes on the queue, which are those of
  `Verb.pushes` or a poll; there is room for what it pushes, and it returns what it polls.
  `queues_run` puts the calls of a run together.
* `completion_queue_exact` draws the conclusion for whole runs: no push is refused, and what is
  polled is what was pushed, each once and in order.

## What a run is

A run is any sequence of calls.  What arrives while a call waits is arbitrary, frames and errors of
the WebSocket alike, and the WebSocket may refuse any of the frames that the call sends (`Call`).  A
refused frame ends the call with an error after the frames before it have gone out; such a call has
no answer and pushes nothing, although its request may be half on the wire.

Here the answer need not fit the request, and what it does to the queue need not be a completion
that the application expects; whether it is, is the subject of `Client.Completions`.
-/

namespace Rdows

open Rust

/-! ### The queue by itself -/

namespace CompletionQueue

/-- `push` and `poll_cq` as the operations of a queue, with what they return. -/
def step (q : CompletionQueue) : Fifo.Op CompletionQueueEntry →
    Fifo.Answer CompletionQueueEntry × CompletionQueue
  | .push cqe => (.pushed (q.push cqe).1, (q.push cqe).2)
  | .poll max => (.polled (q.pollCq max).1, (q.pollCq max).2)

/-- **The completion queue is a bounded queue**, operation by operation: the capacity is fixed and
the entries are those of the abstract one. -/
theorem step_eq (capacity : ℕ) (entries : List CompletionQueueEntry)
    (op : Fifo.Op CompletionQueueEntry) :
    step ⟨entries, capacity⟩ op
      = ((Fifo.step capacity entries op).1, ⟨(Fifo.step capacity entries op).2, capacity⟩) := by
  cases op with
  | push cqe =>
      rw [step, push, Fifo.step]
      split <;> rfl
  | poll max =>
      rw [step, pollCq, Fifo.step]
      dsimp only
      rw [← List.take_eq_take_min, ← List.drop_eq_drop_min]

/-- There is room for the entry, if the operation is a push. -/
def Roomy (q : CompletionQueue) (op : Fifo.Op CompletionQueueEntry) : Prop :=
  Fifo.Roomy q.capacity q.entries op

/-- The operations lead from one queue to another, with room for every entry that is pushed; what
was taken out is `polled`, and what was pushed is `pushed`. -/
structure Plays (q q' : CompletionQueue) (ops : List (Fifo.Op CompletionQueueEntry))
    (polled pushed : List CompletionQueueEntry) : Prop where
  left : Machine.exec step q ops = q'
  taken : Fifo.taken (Machine.history step q ops) = polled
  offered : Fifo.offered ops = pushed
  room : Machine.Always step Roomy q ops

namespace Plays

variable {q q' q'' : CompletionQueue} {ops ops' : List (Fifo.Op CompletionQueueEntry)}
  {polled pushed polled' pushed' : List CompletionQueueEntry}

theorem nil (q : CompletionQueue) : q.Plays q [] [] [] := ⟨rfl, rfl, rfl, trivial⟩

theorem append (first : q.Plays q' ops polled pushed) (second : q'.Plays q'' ops' polled' pushed') :
    q.Plays q'' (ops ++ ops') (polled ++ polled') (pushed ++ pushed') where
  left := by rw [Machine.exec_append, first.left, second.left]
  taken := by
    rw [Machine.history_append, Fifo.taken_append, first.left, first.taken, second.taken]
  offered := by rw [Fifo.offered_append, first.offered, second.offered]
  room := by
    rw [Machine.always_append, first.left]
    exact ⟨first.room, second.room⟩

theorem poll (q : CompletionQueue) (max : ℕ) :
    q.Plays (q.pollCq max).2 [.poll max] (q.pollCq max).1 [] :=
  ⟨rfl, rfl, rfl, trivial, trivial⟩

theorem push (room : q.isFull = false) (cqe : CompletionQueueEntry) :
    q.Plays (q.push cqe).2 [.push cqe] [] [cqe] := by
  refine ⟨rfl, rfl, rfl, ?_, trivial⟩
  show q.entries.length < q.capacity
  simpa [isFull] using room

/-- **From an empty queue on**, nothing is refused, and what is taken out or left is what was
pushed, in its order. -/
theorem exact_of_new {capacity : ℕ} (plays : (new capacity).Plays q ops polled pushed) :
    q.entries.length ≤ capacity ∧
    (∀ cqe stored, (.push cqe, .pushed stored) ∈ Machine.history step (new capacity) ops →
      stored = true) ∧
    polled ++ q.entries = pushed := by
  have simulates := step_eq capacity
  obtain ⟨left, history⟩ := Machine.run_of_simulates simulates [] ops
  have room := (Machine.always_of_simulates simulates).mp plays.room
  obtain ⟨stored, kept⟩ := Fifo.stored_of_roomy room
  have account := Fifo.account capacity [] ops
  have taken := plays.taken
  rw [new, history] at taken
  rw [← plays.left, new, left, history]
  refine ⟨Fifo.length_exec_le (Nat.zero_le _) ops, kept, ?_⟩
  rw [← taken, account, stored, plays.offered]
  rfl

end Plays

end CompletionQueue

/-! ### One call -/

/-- A verb pushes one entry at most. -/
theorem Verb.pushes_cases (c : RdowsConnection) (v : Verb) (m : RdowsMessage) :
    v.pushes c m = [] ∨ ∃ cqe, v.pushes c m = [cqe] := by
  unfold pushes
  split
  · exact .inr ⟨_, rfl⟩
  · exact .inr ⟨_, rfl⟩
  · split
    · exact .inr ⟨_, rfl⟩
    · exact .inl rfl
  · exact .inr ⟨_, rfl⟩
  · exact .inr ⟨_, rfl⟩
  · split
    · exact .inr ⟨_, rfl⟩
    · exact .inl rfl
  · exact .inl rfl

namespace Exchange

open RdowsConnection

/-- The entries for which the call called `push`, in their order. -/
def pushed (x : Exchange) : List CompletionQueueEntry :=
  match x.consumed with
  | some m => x.verb.pushes x.before m
  | none => []

/-- What the call did with the queue: a poll, or the pushes it made once it was answered. -/
def queueOps (x : Exchange) : List (Fifo.Op CompletionQueueEntry) :=
  match x.verb with
  | .pollCq max => [.poll max]
  | _ => x.pushed.map .push

/-- The queue before and after a call, and what the call did in between, as operations of a bounded
queue. -/
abbrev Queues (x : Exchange) : Prop :=
  x.before.cq.Plays x.after.cq x.queueOps x.polled x.pushed

variable {x : Exchange}

theorem queueOps_of_other (other : ∀ max, x.verb ≠ .pollCq max) :
    x.queueOps = x.pushed.map .push := by
  unfold queueOps
  split
  · rename_i max verb
    exact absurd verb (other max)
  · rfl

/-- A call that took no message as its answer, and left the queue alone. -/
theorem queues_of_unanswered (other : ∀ max, x.verb ≠ .pollCq max) (unanswered : x.consumed = none)
    (same : x.after.cq = x.before.cq) : x.Queues := by
  have nothing : x.pushed = [] := by rw [pushed, unanswered]
  rw [Queues, queueOps_of_other other, polled_of_other other, nothing, same]
  exact .nil _

/-- A call that was answered pushes its completion, for which it had made sure that there is room.
-/
theorem queues_of_answered {messages : List RdowsMessage}
    {finish : RdowsMessage → Local VerbValue} {d : RdowsConnection} {m : RdowsMessage}
    (other : ∀ max, x.verb ≠ .pollCq max) (requests : x.verb.Requests x.before messages finish)
    (passes : x.verb.Passes x.before) (awaits : x.before.Awaits d) (answered : x.consumed = some m)
    (after : x.after = ((finish m).run d).2) : x.Queues := by
  have entries : x.pushed = x.verb.pushes x.before m := by rw [pushed, answered]
  have left : x.after.cq
      = Machine.exec CompletionQueue.push x.before.cq (x.verb.pushes x.before m) := by
    rw [after, ← awaits.cq]
    exact (requests.answered passes awaits d.cq m).1
  rw [Queues, queueOps_of_other other, polled_of_other other, entries, left]
  rcases x.verb.pushes_cases x.before m with none | ⟨cqe, one⟩
  · rw [none]
    exact .nil _
  · have work : x.verb.work ≠ none := fun idle => by
      rw [Verb.pushes_of_noWork idle] at one
      cases one
    rw [one]
    exact .push (Verb.room_of_passes passes work) cqe

end Exchange

namespace RdowsConnection

theorem queues_exchange (c : RdowsConnection) (verb : Verb) (incoming : List StreamItem) :
    (c.exchange (verb, incoming)).1.Queues := by
  by_cases polls : ∃ max, verb = .pollCq max
  · obtain ⟨max, rfl⟩ := polls
    exact .poll c.cq max
  · have other (max : ℕ) : verb ≠ .pollCq max := fun is => polls ⟨max, is⟩
    rcases c.exchange_cases verb incoming with ⟨-, unanswered, takes⟩ |
      ⟨-, -, messages, finish, d, -, requests, passes, awaits,
        ⟨unanswered, after⟩ | ⟨m, answered, ends⟩⟩
    · refine Exchange.queues_of_unanswered other unanswered ?_
      rw [Verb.takes_of_other other] at takes
      exact (Prod.mk.inj takes).2
    · refine Exchange.queues_of_unanswered other unanswered ?_
      rw [after]
      exact awaits.cq
    · exact Exchange.queues_of_answered other requests passes awaits answered
        (congrArg Prod.snd ends)

/-! ### Whole runs -/

/-- A call of the API: the frames that arrive while it waits, and the frame of its own, if any, that
the WebSocket refuses. -/
structure Call where
  verb : Verb
  incoming : List StreamItem := []
  refused : Option (ℕ × String) := none

/-- Make a call.  If the WebSocket refuses a frame, the call fails with its error: the frames before
it are on the wire, and its own number is spent too. -/
def attempt (c : RdowsConnection) (call : Call) : Exchange × RdowsConnection :=
  let frames := (call.verb.start.start c).frames
  match call.refused with
  | some (k, reason) =>
      if k < frames.length then
        let d := { c with nextSeq := c.nextSeq + UInt32.ofNat (k + 1) }
        ({ verb := call.verb, before := c, sent := frames.take k, consumed := none
           result := .err (.webSocket reason), after := d }, d)
      else c.exchange (call.verb, call.incoming)
  | none => c.exchange (call.verb, call.incoming)

/-- **A call and the queue**, whether the call was refused, cut off by the WebSocket, left without
an answer, or answered. -/
theorem queues_attempt (c : RdowsConnection) (call : Call) :
    c.cq.Plays (c.attempt call).2.cq (c.attempt call).1.queueOps (c.attempt call).1.polled
      (c.attempt call).1.pushed := by
  have exchanged := c.queues_exchange call.verb call.incoming
  unfold attempt
  dsimp only
  split
  · split
    · rename_i k reason _ sends
      show Exchange.Queues ⟨call.verb, c, _, none, _, _⟩
      refine Exchange.queues_of_unanswered (fun max polls => ?_) rfl rfl
      -- `poll_cq` has no frame that could be refused.
      replace polls : call.verb = .pollCq max := polls
      rw [polls] at sends
      exact absurd sends (Nat.not_lt_zero k)
    · exact exchanged
  · exact exchanged

/-- **A run and the queue**: the queue at the end is what the pushes and polls of the calls, one
after the other, make of the queue at the start. -/
theorem queues_run (c : RdowsConnection) (calls : List Call) :
    let run := Machine.outputs attempt c calls
    c.cq.Plays (Machine.exec attempt c calls).cq (run.flatMap Exchange.queueOps)
      (run.flatMap Exchange.polled) (run.flatMap Exchange.pushed) := by
  induction calls generalizing c with
  | nil => exact .nil c.cq
  | cons call rest ih => exact (c.queues_attempt call).append (ih (c.attempt call).2)

/-- **The completion queue loses nothing.**  Take any connection with an empty queue of any
capacity, and any run of it.  The queue is as the calls' pushes and polls leave it, and it never
holds more than its capacity; no push is refused; and what was polled so far, followed by what is in
the queue, is what was pushed, in that order. -/
theorem completion_queue_exact (c : RdowsConnection) (capacity : ℕ) (calls : List Call) :
    let fresh := { c with cq := .new capacity }
    let run := Machine.outputs attempt fresh calls
    let queue := (Machine.exec attempt fresh calls).cq
    let ops := run.flatMap Exchange.queueOps
    queue = Machine.exec CompletionQueue.step (.new capacity) ops ∧
    queue.entries.length ≤ capacity ∧
    (∀ cqe stored, (.push cqe, .pushed stored)
      ∈ Machine.history CompletionQueue.step (.new capacity) ops → stored = true) ∧
    run.flatMap Exchange.polled ++ queue.entries = run.flatMap Exchange.pushed := by
  intro fresh run queue ops
  have plays := fresh.queues_run calls
  exact ⟨plays.left.symm, plays.exact_of_new⟩

end RdowsConnection

end Rdows
