import Mathlib.Data.List.DropRight
import Rdows.Server.Admission
import Rdows.Server.SessionRuns

/-!
# The whole server

`run_server` accepts connections and spawns a task for each.  `Rdows.Server.Admission` follows the
tasks through `handle_connection` and the map they share; `Rdows.Server.Session` is what one of them
does in `run_session`.  `Host` puts the two together: any number of connections, each with its own
session, whose steps come in any order.

* A connection reaches `run_session` only by an upgrade that `check_subprotocol` lets through, and
  leaves it when its session is over.  A session that panics takes its task with it: the block that
  would release the place of the connection is not reached.
* `react` is what a connection does in a step of its own, and `step_eq_react` says that this is all
  that a step does.  It is the one place where the cases of `step` are gone through: what a
  connection does depends on its own stage and session, and reaches other connections only through
  the map.
* `Progress` is what is known of one connection in every run, by where it is.
-/

namespace Rdows

open Rust

/-! ### The upgrade -/

/-- `SUBPROTOCOL`: the text "rdows.v1", as the bytes of a header value. -/
def subprotocol : Bytes := [114, 100, 111, 119, 115, 46, 118, 49]

/-- What `trim` removes from a text of visible characters and tabs. -/
def isBlank (b : UInt8) : Bool := b = 32 || b = 9

/-- `HeaderValue::to_str`: only visible characters, spaces and tabs are text. -/
def headerText (value : Bytes) : Option Bytes :=
  if value.all fun b => 32 ≤ b && b < 127 || b = 9 then some value else none

/-- `s.split(',').any(|p| p.trim() == SUBPROTOCOL)`. -/
def offersSubprotocol (s : Bytes) : Bool :=
  (s.splitOn 44).any fun part => (part.dropWhile isBlank).rdropWhile isBlank = subprotocol

/-- `check_subprotocol`, on the values of the headers `Sec-WebSocket-Protocol`: is the upgrade
accepted? -/
def checkSubprotocol (values : List Bytes) : Bool :=
  values.any fun value => (headerText value).any offersSubprotocol

/-- What a client asks for in its upgrade request. -/
structure UpgradeRequest where
  protocols : List Bytes
  /-- The request is one that the WebSocket library passes on to `check_subprotocol`. -/
  wellFormed : Bool

/-- The upgrade goes through. -/
def UpgradeRequest.accepted (request : UpgradeRequest) : Bool :=
  request.wellFormed && checkSubprotocol request.protocols

/-! ### Connections with their sessions -/

/-- A turn of `run_session` panics: the message decodes and its handler does.  Decoding itself never
does. -/
def ServerRun.panics (r : ServerRun) (input : Env × WsMessage) : Bool :=
  match input.2 with
  | .binary data =>
      match RdowsMessage.decode data with
      | .ok msg => ((Handler.handleMessage input.1 msg).run ⟨r.session, []⟩).1.IsPanic
      | .err _ => false
      | .panic _ => true
  | .close | .other | .error => false

/-- What a connection has in `run_session`: nothing yet or no longer, its session, or a session
whose task has panicked. -/
inductive Host.Service where
  | none
  | session (r : ServerRun)
  /-- The task is gone. -/
  | panicked

/-- The connections of a server, and their sessions.  A connection is known by its position in the
order of arrival. -/
structure Host (Ip : Type) where
  admission : Admission.Server Ip
  services : ℕ → Host.Service

namespace Host

open Admission (Stage Task Tracker count)

variable {Ip : Type} [DecidableEq Ip]

/-- What can happen: a connection arrives, a task goes on outside its session, an upgrade request
is answered, or the WebSocket yields a message. -/
inductive Event (Ip : Type) where
  | connect (ip : Ip)
  | goOn (i : ℕ) (succeeds : Bool)
  | upgrade (i : ℕ) (request : UpgradeRequest) (now : ℕ)
  | receive (i : ℕ) (env : Env) (message : WsMessage)

/-- The server before the first connection: no task, and nothing in the map. -/
def start : Host Ip := ⟨.start, fun _ => .none⟩

/-- Where a connection is in `handle_connection`; none if it has not arrived. -/
def stage (h : Host Ip) (i : ℕ) : Option Stage := h.admission.tasks[i]?.map Task.stage

/-- The address a connection came from. -/
def address (h : Host Ip) (i : ℕ) : Option Ip := h.admission.tasks[i]?.map Task.ip

/-- The connection gets another service, and the others keep theirs. -/
def serve (h : Host Ip) (i : ℕ) (service : Service) : Host Ip :=
  { h with services := Function.update h.services i service }

section Step

variable (config : ServerConfig) (maxSessionsPerIp : UInt32)

/-- The task `i` goes on in `handle_connection`, by the transition of `Server.Admission`. -/
def advance (h : Host Ip) (i : ℕ) (succeeds : Bool) : Host Ip :=
  { h with admission := (h.admission.step maxSessionsPerIp (.goOn i succeeds)).2 }

/-- One step of the server; a turn of a session has an output.  An event that does not fit the place
of its connection changes nothing. -/
def step (h : Host Ip) : Event Ip → Option Served × Host Ip
  | .connect ip =>
      (none, { h with admission := (h.admission.step maxSessionsPerIp (.connect ip)).2 })
  | .goOn i succeeds =>
      match h.stage i, h.services i with
      -- The upgrade is an event of its own.
      | some .upgrading, _ => (none, h)
      -- `run_session` returns when the session is over.
      | some .serving, .session r =>
          if r.running then (none, h)
          else (none, (h.serve i .none).advance maxSessionsPerIp i succeeds)
      | some .serving, _ => (none, h)
      | _, _ => (none, h.advance maxSessionsPerIp i succeeds)
  | .upgrade i request now =>
      match h.stage i with
      | some .upgrading =>
          let service := if request.accepted then .session (.new config now) else .none
          (none, (h.serve i service).advance maxSessionsPerIp i request.accepted)
      | _ => (none, h)
  | .receive i env message =>
      match h.services i with
      | .session r =>
          if r.running then
            let out := r.step (env, message)
            (some out.1, h.serve i (if r.panics (env, message) then .panicked else .session out.2))
          else (none, h)
      | .none | .panicked => (none, h)

/-- The server after a run from its start. -/
abbrev after (events : List (Event Ip)) : Host Ip :=
  Machine.exec (step config maxSessionsPerIp) start events

/-- The history of a run, most recent event first. -/
abbrev seen (events : List (Event Ip)) : List (Event Ip × Option Served) :=
  Machine.history (step config maxSessionsPerIp) start events

end Step

end Host

/-! ### What a connection does and sees -/

namespace Admission

/-- The ways of a task through `handle_connection`. -/
inductive Stage.Next (succeeds : Bool) : Stage → Stage → Prop
  | admitted : Next succeeds .arrived .handshaking
  | refused : Next succeeds .arrived .refused
  | crashed : Next succeeds .arrived .crashed
  | handshake : Next succeeds .handshaking (if succeeds then .upgrading else .releasing)
  | upgrade : Next succeeds .upgrading (if succeeds then .serving else .releasing)
  | finished : Next succeeds .serving .releasing
  | released : Next succeeds .releasing .closed
  | releaseCrashed : Next succeeds .releasing .crashed
  | halted {stage : Stage} (ended : stage = .closed ∨ stage = .refused ∨ stage = .crashed) :
      Next succeeds stage stage

/-- Where a connection can be after a step in which its task goes on, or does not. -/
inductive Stage.After : Option Bool → Option Stage → Option Stage → Prop
  | stays {stage : Option Stage} : After none stage stage
  | absent {succeeds : Bool} : After (some succeeds) none none
  | goesOn {succeeds : Bool} {before after : Stage} (next : Next succeeds before after) :
      After (some succeeds) (some before) (some after)

end Admission

namespace Host

open Admission (Stage)

variable {Ip : Type} {i : ℕ} {seen : List (Event Ip × Option Served)}

/-- The connection that an event concerns; an arrival concerns none of those that are there. -/
def Event.connection : Event Ip → Option ℕ
  | .connect _ => none
  | .goOn i _ | .upgrade i _ _ | .receive i _ _ => some i

/-- What a connection does in a step of its own: its output, its service afterwards, and how its
task goes on, if it does. -/
structure Reaction where
  /-- What `run_session` did with a message. -/
  output : Option Served
  /-- What the connection has in `run_session` afterwards. -/
  service : Service
  /-- The task goes on in `handle_connection`, with this outcome of the handshake it is in. -/
  goesOn : Option Bool

/-- The reaction of a connection to an event that concerns it.  It depends on nothing but the stage
of this connection and what it has in `run_session`. -/
def react (config : ServerConfig) (stage : Option Stage) (service : Service) :
    Event Ip → Reaction
  | .connect _ => ⟨none, service, none⟩
  | .goOn _ succeeds =>
      match stage, service with
      | some .upgrading, _ => ⟨none, service, none⟩
      | some .serving, .session r =>
          if r.running then ⟨none, service, none⟩ else ⟨none, .none, some succeeds⟩
      | some .serving, _ => ⟨none, service, none⟩
      | _, _ => ⟨none, service, some succeeds⟩
  | .upgrade _ request now =>
      match stage with
      | some .upgrading =>
          ⟨none, if request.accepted then .session (.new config now) else .none,
            some request.accepted⟩
      | _ => ⟨none, service, none⟩
  | .receive _ env message =>
      match service with
      | .session r =>
          if r.running then
            ⟨some (r.step (env, message)).1,
              if r.panics (env, message) then .panicked else .session (r.step (env, message)).2,
              none⟩
          else ⟨none, service, none⟩
      | .none | .panicked => ⟨none, service, none⟩

/-- What a connection was served, most recent message first. -/
def handledBy (i : ℕ) (seen : List (Event Ip × Option Served)) :
    ServerRun.Seen :=
  seen.filterMap fun
    | (.receive j env message, some served) =>
        if j = i then some ((env, message), served) else none
    | _ => none

/-- A step without output serves nobody. -/
theorem handledBy_cons_none (i : ℕ) (event : Event Ip) :
    handledBy i ((event, none) :: seen) = handledBy i seen := by
  rcases event with ip | ⟨j, succeeds⟩ | ⟨j, request, now⟩ | ⟨j, env, message⟩ <;> rfl

/-- Nor does an event that concerns another connection. -/
theorem handledBy_cons_of_ne {j : ℕ} {event : Event Ip} (concerns : event.connection = some j)
    (other : j ≠ i) (out : Option Served) :
    handledBy i ((event, out) :: seen) = handledBy i seen := by
  rcases out with _ | served
  · exact handledBy_cons_none i event
  · rcases event with ip | _ | _ | _ <;> cases concerns
    · rfl
    · rfl
    · rw [handledBy, List.filterMap_cons]
      dsimp only
      rw [if_neg other]
      rfl

/-- A turn of its session is served to the connection. -/
theorem handledBy_cons_self (i : ℕ) (env : Env) (message : WsMessage) (served : Served) :
    handledBy i ((.receive i env message, some served) :: seen)
      = ((env, message), served) :: handledBy i seen := by
  rw [handledBy, List.filterMap_cons]
  dsimp only
  rw [if_pos rfl]
  rfl

/-- The connection has not reached `run_session`: it has not arrived, or its upgrade is not done. -/
def isEarly : Option Stage → Bool
  | none | some .arrived | some .handshaking | some .upgrading => true
  | _ => false

/-- The connection will not reach `run_session` any more: it was rejected, or has left it. -/
def isLate : Stage → Bool
  | .releasing | .closed | .refused | .crashed => true
  | _ => false

/-- **What is true of one connection**, by where it is: it has not reached its session and nothing
was served to it, it is in its session, its session has panicked, or it has left `run_session`. -/
inductive Progress (config : ServerConfig) (i : ℕ) (seen : List (Event Ip × Option Served)) :
    Option Stage → Service → Prop
  | before {stage : Option Stage} (early : isEarly stage = true)
      (nothing : handledBy i seen = []) :
      Progress config i seen stage .none
  | during (now : ℕ) (inputs : List (Env × WsMessage)) :
      Progress config i seen (some .serving) (.session ((ServerRun.new config now).after inputs))
  | lost : Progress config i seen (some .serving) .panicked
  | behind {stage : Stage} (late : isLate stage = true) : Progress config i seen (some stage) .none

/-- A step that does not concern the connection. -/
theorem Progress.cons {config : ServerConfig} {stage : Option Stage} {service : Service}
    (progress : Progress config i seen stage service) {record : Event Ip × Option Served}
    (same : handledBy i (record :: seen) = handledBy i seen) :
    Progress config i (record :: seen) stage service := by
  cases progress with
  | before early nothing => exact .before early (same.trans nothing)
  | during now inputs => exact .during now inputs
  | lost => exact .lost
  | behind late => exact .behind late

namespace Progress

variable {config : ServerConfig} {stage after : Option Stage} {service : Service}
  (progress : Progress config i seen stage service)
include progress

/-- The own steps of a connection outside its session. -/
theorem goOn (succeeds : Bool)
    (moved : Stage.After (react config stage service (.goOn i succeeds : Event Ip)).goesOn stage
      after) :
    Progress config i
      ((.goOn i succeeds, (react config stage service (.goOn i succeeds : Event Ip)).output) ::
        seen) after (react config stage service (.goOn i succeeds : Event Ip)).service := by
  cases progress with
  | before early nothing =>
      have nothing := (handledBy_cons_none i (.goOn i succeeds)).trans nothing
      -- before its session a connection can be admitted, refused, or fail in its handshake
      rcases stage with _ | _ | _ | _ | _ | _ | _ | _ | _ <;> cases early <;> cases moved
      · exact .before rfl nothing
      · rename_i next
        cases next with
        | admitted => exact .before rfl nothing
        | refused => exact .behind rfl
        | crashed => exact .behind rfl
        | halted ended => simp at ended
      · rename_i next
        cases next with
        | handshake =>
            cases succeeds
            · exact .behind rfl
            · exact .before rfl nothing
        | halted ended => simp at ended
      · exact .before rfl nothing
  | during now inputs =>
      unfold react at moved ⊢
      dsimp only at moved ⊢
      split at moved
      -- a session that runs is not left; its task goes on when the loop has ended
      next running =>
        cases moved
        rw [if_pos running]
        exact .during now inputs
      next stopped =>
        rw [if_neg stopped]
        cases moved with
        | goesOn next =>
            cases next with
            | finished => exact .behind rfl
            | halted ended => simp at ended
  | lost =>
      cases moved
      exact .lost
  | behind late =>
      rename_i stage
      cases stage <;> cases late <;> cases moved <;> rename_i next
      · cases next with
        | released => exact .behind rfl
        | releaseCrashed => exact .behind rfl
        | halted ended => simp at ended
      all_goals
        cases next with
        | halted ended => exact .behind rfl

/-- The upgrade request of the connection. -/
theorem upgrade (request : UpgradeRequest) (now : ℕ)
    (moved : Stage.After (react config stage service (.upgrade i request now : Event Ip)).goesOn
      stage after) :
    Progress config i
      ((.upgrade i request now,
        (react config stage service (.upgrade i request now : Event Ip)).output) :: seen)
      after (react config stage service (.upgrade i request now : Event Ip)).service := by
  have unchanged := progress.cons (handledBy_cons_none i (.upgrade i request now))
  unfold react at moved ⊢
  dsimp only at moved ⊢
  split at moved
  next =>
    cases moved with
    | goesOn next =>
        cases next with
        | upgrade =>
            dsimp only
            split
            · exact .during now []
            · exact .behind rfl
        | halted ended => simp at ended
  next =>
    cases moved
    exact unchanged

/-- A message of the connection. -/
theorem receive (env : Env) (message : WsMessage)
    (moved : Stage.After (react config stage service (.receive i env message : Event Ip)).goesOn
      stage after) :
    Progress config i
      ((.receive i env message,
        (react config stage service (.receive i env message : Event Ip)).output) :: seen)
      after (react config stage service (.receive i env message : Event Ip)).service := by
  have unchanged := progress.cons (handledBy_cons_none i (.receive i env message))
  cases progress with
  | during now inputs =>
      unfold react at moved ⊢
      dsimp only at moved ⊢
      split at moved
      next running =>
        cases moved
        rw [if_pos running]
        dsimp only
        -- a turn that panics takes the task with it
        split
        · exact .lost
        · rw [← ServerRun.after_concat]
          exact .during now (inputs ++ [(env, message)])
      next stopped =>
        cases moved
        rw [if_neg stopped]
        exact unchanged
  | _ =>
      cases moved
      exact unchanged

/-- The own step of a connection. -/
theorem own {event : Event Ip} (concerns : event.connection = some i)
    (moved : Stage.After (react config stage service event).goesOn stage after) :
    Progress config i ((event, (react config stage service event).output) :: seen) after
      (react config stage service event).service := by
  rcases event with ip | ⟨k, succeeds⟩ | ⟨k, request, now⟩ | ⟨k, env, message⟩ <;> cases concerns
  · exact progress.goOn succeeds moved
  · exact progress.upgrade request now moved
  · exact progress.receive env message moved

end Progress

end Host

/-! ### What a step of the server does -/

namespace Admission

variable {Ip : Type} [DecidableEq Ip]

/-- A task that goes on moves to its next stage, and no other task does. -/
theorem Server.tasks_goOn {s : Server Ip} {i : ℕ} {task : Task Ip}
    (present : s.tasks[i]? = some task) (maxSessionsPerIp : UInt32) (succeeds : Bool) :
    ∃ stage, (s.step maxSessionsPerIp (.goOn i succeeds)).2.tasks
        = s.tasks.set i { task with stage } ∧ Stage.Next succeeds task.stage stage := by
  have stays : s.tasks = s.tasks.set i task := by
    obtain ⟨bound, here⟩ := List.getElem?_eq_some_iff.mp present
    rw [← here, List.set_getElem_self]
  rw [Server.step, present]
  dsimp only
  unfold Server.goOn
  -- one case for each stage, in their order
  rcases task with ⟨ip, _ | _ | _ | _ | _ | _ | _ | _⟩
  · dsimp only
    rcases (sessionLimitCheck maxSessionsPerIp ip).run s.tracker with ⟨(_ | _) | e | p, after⟩
    · exact ⟨_, rfl, .refused⟩
    · exact ⟨_, rfl, .admitted⟩
    · exact e.elim
    · exact ⟨_, rfl, .crashed⟩
  · exact ⟨_, rfl, .handshake⟩
  · exact ⟨_, rfl, .upgrade⟩
  · exact ⟨_, rfl, .finished⟩
  · dsimp only
    rcases (release ip).run s.tracker with ⟨(_ | _) | e | p, after⟩
    · exact ⟨_, rfl, .released⟩
    · exact ⟨_, rfl, .released⟩
    · exact e.elim
    · exact ⟨_, rfl, .releaseCrashed⟩
  · exact ⟨_, stays, .halted (.inl rfl)⟩
  · exact ⟨_, stays, .halted (.inr (.inl rfl))⟩
  · exact ⟨_, stays, .halted (.inr (.inr rfl))⟩

/-- The task `i` goes on, or nothing happens. -/
def Server.proceed (maxSessionsPerIp : UInt32) (s : Server Ip) (i : ℕ) : Option Bool → Server Ip
  | some succeeds => (s.step maxSessionsPerIp (.goOn i succeeds)).2
  | none => s

/-- A position behind the last task is none of a task, and nothing happens there. -/
theorem Server.proceed_of_absent {s : Server Ip} {i : ℕ} (absent : s.tasks[i]? = none)
    (maxSessionsPerIp : UInt32) (goesOn : Option Bool) :
    s.proceed maxSessionsPerIp i goesOn = s := by
  rcases goesOn with _ | succeeds
  · rfl
  · rw [proceed, step, absent]

/-- A task may change its stage, and nothing else. -/
theorem Server.tasks_proceed {s : Server Ip} {i : ℕ} {task : Task Ip}
    (here : s.tasks[i]? = some task) (maxSessionsPerIp : UInt32) (goesOn : Option Bool) :
    ∃ stage, (s.proceed maxSessionsPerIp i goesOn).tasks = s.tasks.set i { task with stage } := by
  rcases goesOn with _ | succeeds
  · obtain ⟨bound, found⟩ := List.getElem?_eq_some_iff.mp here
    refine ⟨task.stage, ?_⟩
    rw [proceed, ← found, List.set_getElem_self]
  · obtain ⟨stage, tasks, -⟩ := tasks_goOn here maxSessionsPerIp succeeds
    exact ⟨stage, tasks⟩

/-- The stage of the task that goes on, or does not. -/
theorem Server.stage_proceed (s : Server Ip) (maxSessionsPerIp : UInt32) (i : ℕ)
    (goesOn : Option Bool) :
    Stage.After goesOn (s.tasks[i]?.map Task.stage)
      ((s.proceed maxSessionsPerIp i goesOn).tasks[i]?.map Task.stage) := by
  rcases goesOn with _ | succeeds
  · exact .stays
  rcases present : s.tasks[i]? with _ | task
  · rw [proceed_of_absent present, present]
    exact .absent
  · obtain ⟨stage, tasks, next⟩ := tasks_goOn present maxSessionsPerIp succeeds
    have bound := (List.getElem?_eq_some_iff.mp present).1
    rw [proceed, tasks, List.getElem?_set_self bound]
    exact .goesOn next

/-- The other tasks keep their stages. -/
theorem Server.stage_proceed_of_ne {s : Server Ip} {maxSessionsPerIp : UInt32} {i j : ℕ}
    (other : j ≠ i) (goesOn : Option Bool) :
    (s.proceed maxSessionsPerIp i goesOn).tasks[j]?.map Task.stage
      = s.tasks[j]?.map Task.stage := by
  rcases goesOn with _ | succeeds
  · rfl
  rcases present : s.tasks[i]? with _ | task
  · rw [proceed_of_absent present]
  · obtain ⟨stage, tasks, -⟩ := tasks_goOn present maxSessionsPerIp succeeds
    rw [proceed, tasks, List.getElem?_set_ne other.symm]

/-- A task keeps its address. -/
theorem Server.ip_proceed (s : Server Ip) (maxSessionsPerIp : UInt32) (i j : ℕ)
    (goesOn : Option Bool) :
    (s.proceed maxSessionsPerIp i goesOn).tasks[j]?.map Task.ip = s.tasks[j]?.map Task.ip := by
  rcases here : s.tasks[i]? with _ | task
  · rw [proceed_of_absent here]
  obtain ⟨stage, tasks⟩ := tasks_proceed here maxSessionsPerIp goesOn
  rw [tasks]
  by_cases same : i = j
  · subst same
    rw [List.getElem?_set_self (List.getElem?_eq_some_iff.mp here).1, here]
    rfl
  · rw [List.getElem?_set_ne same]

end Admission

namespace Host

open Admission (Stage Task Tracker count)

variable {Ip : Type} [DecidableEq Ip] {h : Host Ip} {i j : ℕ} {maxSessionsPerIp : UInt32}

/-- A new connection comes behind the others. -/
theorem stage_connect (config : ServerConfig) (h : Host Ip) (ip : Ip) (j : ℕ) :
    (h.step config maxSessionsPerIp (.connect ip)).2.stage j = h.stage j ∨
      (h.stage j = none ∧
        (h.step config maxSessionsPerIp (.connect ip)).2.stage j = some .arrived) := by
  show ((h.admission.tasks ++ [⟨ip, .arrived⟩])[j]?).map _ = _ ∨
    _ ∧ ((h.admission.tasks ++ [⟨ip, .arrived⟩])[j]?).map _ = _
  rcases Nat.lt_trichotomy j h.admission.tasks.length with before | rfl | behind
  · rw [List.getElem?_append_left before]
    exact .inl rfl
  · refine .inr ⟨?_, ?_⟩
    · rw [stage, List.getElem?_eq_none (Nat.le_refl _)]
      rfl
    · rw [List.getElem?_concat_length]
      rfl
  · rw [List.getElem?_eq_none (by rw [List.length_append]; exact behind), stage,
      List.getElem?_eq_none (Nat.le_of_lt behind)]
    exact .inl rfl

/-- The server after a reaction of the connection `i`. -/
def settle (maxSessionsPerIp : UInt32) (h : Host Ip) (i : ℕ) (reaction : Reaction) : Host Ip where
  admission := h.admission.proceed maxSessionsPerIp i reaction.goesOn
  services := Function.update h.services i reaction.service

/-- A connection that does nothing. -/
theorem settle_idle (output : Option Served) :
    h.settle maxSessionsPerIp i ⟨output, h.services i, none⟩ = h := by
  rw [settle, Function.update_eq_self]
  rfl

/-- **A step is a reaction of one connection.** What the reaction is depends only on the stage and
the service of this connection; what it changes is its own service, its task and the map of the
addresses. -/
theorem step_eq_react (config : ServerConfig) (maxSessionsPerIp : UInt32) (h : Host Ip)
    {event : Event Ip} (concerns : event.connection = some i) :
    h.step config maxSessionsPerIp event =
      ((react config (h.stage i) (h.services i) event).output,
        h.settle maxSessionsPerIp i (react config (h.stage i) (h.services i) event)) := by
  rcases event with ip | ⟨k, succeeds⟩ | ⟨k, request, now⟩ | ⟨k, env, message⟩ <;>
    cases concerns <;> unfold Host.step react <;> dsimp only
  · split
    · rw [settle_idle]
    · split
      · rw [settle_idle]
      · rfl
    · rw [settle_idle]
    · rw [settle, Function.update_eq_self]
      rfl
  · split
    · rfl
    · rw [settle_idle]
  · split
    · split
      · rfl
      · rw [settle_idle]
    · rw [settle_idle]
    · rw [settle_idle]

/-- **A step of another connection** leaves the stage and the service of this one as they were. -/
theorem step_elsewhere (config : ServerConfig) (maxSessionsPerIp : UInt32) (h : Host Ip)
    {event : Event Ip} (concerns : event.connection = some j) (other : j ≠ i) :
    (h.step config maxSessionsPerIp event).2.stage i = h.stage i ∧
      (h.step config maxSessionsPerIp event).2.services i = h.services i ∧
      ∀ seen, handledBy i ((event, (h.step config maxSessionsPerIp event).1) :: seen)
        = handledBy i seen := by
  refine ⟨?_, ?_, fun seen => handledBy_cons_of_ne concerns other _⟩
  · rw [step_eq_react config maxSessionsPerIp h concerns]
    exact Admission.Server.stage_proceed_of_ne other.symm _
  · rw [step_eq_react config maxSessionsPerIp h concerns]
    exact Function.update_of_ne other.symm ..

/-- No step but an arrival changes the addresses of connections. -/
theorem address_step (config : ServerConfig) (maxSessionsPerIp : UInt32) (h : Host Ip)
    {event : Event Ip} (concerns : event.connection = some j) (i : ℕ) :
    (h.step config maxSessionsPerIp event).2.address i = h.address i := by
  rw [step_eq_react config maxSessionsPerIp h concerns]
  exact h.admission.ip_proceed maxSessionsPerIp j i _

/-! ### One connection in every run -/

/-- A connection arrives. -/
theorem Progress.connect {config : ServerConfig} {seen : List (Event Ip × Option Served)}
    (progress : Progress config i seen (h.stage i) (h.services i)) (ip : Ip) :
    Progress config i ((.connect ip, none) :: seen)
      ((h.step config maxSessionsPerIp (.connect ip)).2.stage i) (h.services i) := by
  rcases h.stage_connect config ip i with same | ⟨absent, arrived⟩
  · rw [same]
    exact progress.cons (handledBy_cons_none i _)
  · rw [absent] at progress
    rw [arrived]
    generalize h.services i = service at progress
    cases progress with
    | before early nothing => exact .before rfl ((handledBy_cons_none i _).trans nothing)

/-- **One step of the server**, seen from one connection: whatever the event is, what is known of
the connection is known again, at the place where it is now. -/
theorem Progress.step {config : ServerConfig} {seen : List (Event Ip × Option Served)}
    (progress : Progress config i seen (h.stage i) (h.services i)) (event : Event Ip) :
    Progress config i ((event, (h.step config maxSessionsPerIp event).1) :: seen)
      ((h.step config maxSessionsPerIp event).2.stage i)
      ((h.step config maxSessionsPerIp event).2.services i) := by
  rcases concerns : event.connection with _ | j
  · rcases event with ip | _ | _ | _ <;> cases concerns
    exact progress.connect ip
  by_cases own : j = i
  · subst own
    have moved := h.admission.stage_proceed maxSessionsPerIp j
      (react config (h.stage j) (h.services j) event).goesOn
    rw [step_eq_react config maxSessionsPerIp h concerns]
    rw [show (h.settle maxSessionsPerIp j _).services j = _ from Function.update_self ..]
    exact progress.own concerns moved
  · obtain ⟨stage, service, same⟩ := h.step_elsewhere config maxSessionsPerIp concerns own
    rw [stage, service]
    exact progress.cons (same seen)

end Host

end Rdows
