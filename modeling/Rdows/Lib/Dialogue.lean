import Rdows.Lib.Outcome

/-!
# Dialogues over a pair of channels

Both sides of a connection, each without the other: what a client does when it cannot know what it
will be told, and what a server has to do for the frames it is sent.  Neither mentions the channels;
the system that connects the two is built over this module.

## Agents

An `Agent` is a method that may also send frames and wait for messages.  Running it on a receiver
gives a `Talk`: what it does next, as far as it can go without its peer.  The talk is a tree with
one branch for every message that may be received, so an agent is followed step by step without fuel
and without a choice of scheduler.  A call that sends some frames and then waits for one message is
a `Talk.request`; `Paired` relates two talks that a peer cannot tell apart.

## Services

A `Service` answers frames one at a time.  Most replies belong to a request; a `notice` is a message
that may come at any time.  `Owes rest frames goal s` says what a service in state `s` still owes
for the frames that are on their way to it: exactly one reply that meets the goal (or none, if there
is no goal), and then it is at `rest`.

## Why `Owes`

It is what makes an interleaving argument short.  It speaks of the frames in the channel and of
those the agent has yet to send as one list, so it does not change when a frame is sent; serving a
frame peels it off (it is established that way by `Owes.cons`), and a new request is put behind the
old frames by `Owes.append`.
-/

namespace Rust

/-! ### Agents -/

/-- What an agent on a receiver of type `σ` does next, with frames `ω` and messages `μ`: it has
ended, or sends a frame and goes on, or waits for a message and goes on as that message says. -/
inductive Talk (σ ε ω μ α : Type) where
  /-- It has ended and leaves the receiver behind. -/
  | done (result : Outcome ε α) (s : σ)
  /-- It sends a frame. -/
  | send (frame : ω) (next : Talk σ ε ω μ α)
  /-- It waits for a message; the receiver may change while it waits. -/
  | receive (s : σ) (next : μ → σ → Talk σ ε ω μ α)

namespace Talk

variable {σ ε ω μ α β : Type}

/-- Go on with the result once the first talk has ended.  The result is passed on in every outcome;
`Agent.bind` decides what an error does. -/
def andThen : Talk σ ε ω μ α → (Outcome ε α → σ → Talk σ ε ω μ β) → Talk σ ε ω μ β
  | done result s, k => k result s
  | send frame next, k => send frame (next.andThen k)
  | receive s next, k => receive s fun m s' => (next m s').andThen k

/-- Send the frames, wait for a message, and end with what `finish` makes of it.  Every verb of a
client has this form. -/
def request (frames : List ω) (s : σ) (finish : μ → Method σ ε α) : Talk σ ε ω μ α :=
  frames.foldr send (receive s fun m s' => done ((finish m).run s').1 ((finish m).run s').2)

/-- The frames that are sent before the agent ends or waits.  They are what a service will be given,
whatever the agent is told later. -/
def frames : Talk σ ε ω μ α → List ω
  | done _ _ => []
  | send frame next => frame :: next.frames
  | receive _ _ => []

@[simp] theorem frames_request (frames : List ω) (s : σ) (finish : μ → Method σ ε α) :
    (request frames s finish).frames = frames := by
  induction frames with
  | nil => rfl
  | cons frame frames ih => exact congrArg (List.cons frame) ih

/-- The receiver that the agent holds, unless it panicked: after a panic no one may look at it. -/
def receiver : Talk σ ε ω μ α → Option σ
  | done (.panic _) _ => none
  | done (.ok _) s => some s
  | done (.err _) s => some s
  | send _ next => next.receiver
  | receive s _ => some s

@[simp] theorem receiver_request (frames : List ω) (s : σ) (finish : μ → Method σ ε α) :
    (request frames s finish).receiver = some s := by
  induction frames with
  | nil => rfl
  | cons frame frames ih => exact ih

/-- An agent that has ended holds at most the receiver it left. -/
theorem receiver_done {result : Outcome ε α} {s t : σ}
    (h : (done result s : Talk σ ε ω μ α).receiver = some t) : s = t := by
  rcases result with a | e | p
  · exact Option.some.inj h
  · exact Option.some.inj h
  · cases h

theorem receiver_done_of_not_isPanic {result : Outcome ε α} (s : σ) (h : ¬ result.IsPanic) :
    (done result s : Talk σ ε ω μ α).receiver = some s := by
  rcases result with a | e | p
  · rfl
  · rfl
  · exact absurd trivial h

/-- A request is determined by its frames, its receiver and its end. -/
theorem request_inj {frames frames' : List ω} {s s' : σ} {finish finish' : μ → Method σ ε α}
    (h : request frames s finish = request frames' s' finish') :
    frames = frames' ∧ s = s' ∧ finish = finish' := by
  have same : frames = frames' := by
    rw [← frames_request frames s finish, h, frames_request]
  subst same
  refine ⟨rfl, ?_⟩
  induction frames with
  | nil =>
      obtain ⟨receiver, next⟩ := Talk.receive.inj h
      refine ⟨receiver, funext fun m => funext fun t => ?_⟩
      obtain ⟨result, left⟩ := Talk.done.inj (congrFun (congrFun next m) t)
      exact Prod.ext result left
  | cons frame frames ih => exact ih (Talk.send.inj h).2

/-- A request has not ended. -/
theorem request_ne_done (frames : List ω) (s t : σ) (finish : μ → Method σ ε α)
    (result : Outcome ε α) : request frames s finish ≠ done result t := by
  cases frames <;> exact nofun

/-- Apply a function to the value that is returned. -/
def map (f : α → β) : Talk σ ε ω μ α → Talk σ ε ω μ β
  | done result s => done (result.map f) s
  | send frame next => send frame (next.map f)
  | receive s next => receive s fun m s' => (next m s').map f

theorem map_request (f : α → β) (frames : List ω) (s : σ) (finish : μ → Method σ ε α) :
    (request frames s finish).map f = request frames s fun m => (finish m).mapValue f := by
  induction frames with
  | nil => rfl
  | cons frame frames ih => exact congrArg (send frame) ih

/-- Two talks that a peer cannot tell apart: they send the same frames and end with the same result,
on related receivers, whatever they are told on the way. -/
inductive Paired (R : σ → σ → Prop) : Talk σ ε ω μ α → Talk σ ε ω μ α → Prop
  | done {s t : σ} (result : Outcome ε α) (related : R s t) :
      Paired R (done result s) (done result t)
  | send {x y : Talk σ ε ω μ α} (frame : ω) (later : Paired R x y) :
      Paired R (send frame x) (send frame y)
  | receive {s t : σ} {next next' : μ → σ → Talk σ ε ω μ α} (related : R s t)
      (later : ∀ m s t, R s t → Paired R (next m s) (next' m t)) :
      Paired R (receive s next) (receive t next')

namespace Paired

variable {R : σ → σ → Prop} {s t : σ}

theorem frames_eq {x y : Talk σ ε ω μ α} (paired : Paired R x y) : x.frames = y.frames := by
  induction paired with
  | done result related => rfl
  | send frame later ih => exact congrArg (List.cons frame) ih
  | receive related later => rfl

theorem of_respects {x : Method σ ε α} (respects : x.Respects R) (related : R s t) :
    Paired R (Talk.done (x.run s).1 (x.run s).2 : Talk σ ε ω μ α)
      (.done (x.run t).1 (x.run t).2) := by
  obtain ⟨result, after⟩ := respects s t related
  rw [result]
  exact .done _ after

theorem request (frames : List ω) (related : R s t) {finish : μ → Method σ ε α}
    (respects : ∀ m, (finish m).Respects R) :
    Paired R (Talk.request frames s finish) (Talk.request frames t finish) := by
  induction frames with
  | nil => exact .receive related fun m s t related => of_respects (respects m) related
  | cons frame frames ih => exact .send frame ih

theorem map {x y : Talk σ ε ω μ α} (paired : Paired R x y) (f : α → β) :
    Paired R (x.map f) (y.map f) := by
  induction paired with
  | done result related => exact .done _ related
  | send frame later ih => exact .send frame ih
  | receive related later ih => exact .receive related ih

end Paired

end Talk

/-- A method that may also talk to a peer.  Without a `send` or a `receive` it is a plain
`Method`. -/
def Agent (σ ε ω μ α : Type) := σ → Talk σ ε ω μ α

namespace Agent

variable {σ ε ω μ α β : Type}

/-- Start the agent on a receiver. -/
def start (x : Agent σ ε ω μ α) (s : σ) : Talk σ ε ω μ α := x s

/-- An agent that does not talk. -/
def ofMethod (x : Method σ ε α) : Agent σ ε ω μ α := fun s => .done (x.run s).1 (x.run s).2

/-- Send a frame. -/
def send (frame : ω) : Agent σ ε ω μ Unit := fun s => .send frame (.done (.ok ()) s)

/-- Wait for a message. -/
def receive : Agent σ ε ω μ μ := fun s => .receive s fun m s' => .done (.ok m) s'

/-- Apply a function to the value that is returned. -/
def mapValue (f : α → β) (x : Agent σ ε ω μ α) : Agent σ ε ω μ β := fun s => (x s).map f

/-- Sequencing; an error or a panic ends the whole. -/
protected def bind (x : Agent σ ε ω μ α) (f : α → Agent σ ε ω μ β) : Agent σ ε ω μ β := fun s =>
  (x s).andThen fun
    | .ok a, t => f a t
    | .err e, t => .done (.err e) t
    | .panic p, t => .done (.panic p) t

instance : Monad (Agent σ ε ω μ) where
  pure a := fun s => .done (.ok a) s
  bind := Agent.bind

@[simp] theorem start_ite (c : Prop) [Decidable c] (x y : Agent σ ε ω μ α) (s : σ) :
    (if c then x else y).start s = if c then x.start s else y.start s := by
  split <;> rfl

end Agent

/-! ### Services -/

/-- A component that answers frames one at a time.  What the outside decides meanwhile is an
argument of every step, and `admits` says under which of these decisions a step is considered. -/
structure Service (S E ω ρ : Type) where
  /-- Serve one frame; `E` is what the outside decides meanwhile. -/
  serve : S → E → ω → List ρ × S
  /-- The service is still there. -/
  alive : S → Bool
  /-- The condition under which serving the frame is considered. -/
  admits : S → E → ω → Bool
  /-- The message belongs to no request. -/
  notice : ρ → Bool
  /-- The message can be delivered. -/
  fits : ρ → Prop

namespace Service

variable {S E ω ρ : Type} (svc : Service S E ω ρ)

/-- The messages that answer a request: the replies without the notices. -/
def answers (replies : List ρ) : List ρ := replies.filter fun r => !svc.notice r

/-- What is owed for the frames: one reply that meets the goal, or none if there is no goal;
and after the last frame the service is at `rest`.  A service that is gone owes nothing.  The
goal relates the frame that is answered, the states before and after, and the reply. -/
def Owes (rest : S → Prop) : List ω → Option (ω → S → S → ρ → Prop) → S → Prop
  | [], none, s => svc.alive s = true → rest s
  | [], some _, s => svc.alive s = false
  | f :: fs, goal, s => svc.alive s = true → ∀ e, svc.admits s e f = true →
      (∀ r ∈ (svc.serve s e f).1, svc.fits r) ∧
      ((svc.answers (svc.serve s e f).1 = [] ∧ Owes rest fs goal (svc.serve s e f).2) ∨
        ∃ meets r, goal = some meets ∧ svc.answers (svc.serve s e f).1 = [r] ∧
          meets f s (svc.serve s e f).2 r ∧ Owes rest fs none (svc.serve s e f).2)

variable {svc} {rest rest' : S → Prop} {goal : Option (ω → S → S → ρ → Prop)} {s : S}

/-- A service that is gone owes nothing. -/
theorem Owes.of_not_alive (frames : List ω) (gone : svc.alive s = false) :
    svc.Owes rest frames goal s := by
  rcases frames with _ | ⟨f, fs⟩
  · rcases goal with _ | meets
    · intro alive
      rw [gone] at alive
      cases alive
    · exact gone
  · intro alive
    rw [gone] at alive
    cases alive

/-- Serving the first frame: nothing is answered and the rest is owed as before, or the goal is met
and the rest is settled.  Only what is admitted and served while the service is alive matters. -/
theorem Owes.cons {f : ω} {fs : List ω}
    (serves : svc.alive s = true → ∀ e, svc.admits s e f = true → ∃ replies t,
      svc.serve s e f = (replies, t) ∧ (∀ r ∈ replies, svc.fits r) ∧
      ((svc.answers replies = [] ∧ svc.Owes rest fs goal t) ∨
        ∃ meets r, goal = some meets ∧ svc.answers replies = [r] ∧ meets f s t r ∧
          svc.Owes rest fs none t)) : svc.Owes rest (f :: fs) goal s := by
  intro alive e admitted
  obtain ⟨replies, t, served, later⟩ := serves alive e admitted
  rw [served]
  exact later

/-- A request may follow frames that are settled. -/
theorem Owes.append {old new : List ω} (settled : svc.Owes rest old none s)
    (owes : ∀ t, svc.alive t = true → rest t → svc.Owes rest' new goal t) :
    svc.Owes rest' (old ++ new) goal s := by
  induction old generalizing s with
  | nil =>
      rcases alive : svc.alive s with _ | _
      · exact .of_not_alive new alive
      · exact owes s alive (settled alive)
  | cons f fs ih =>
      intro alive e admitted
      obtain ⟨fit, ⟨silent, later⟩ | ⟨meets, r, none_eq, -⟩⟩ := settled alive e admitted
      · exact ⟨fit, .inl ⟨silent, ih later⟩⟩
      · cases none_eq

end Service

end Rust
