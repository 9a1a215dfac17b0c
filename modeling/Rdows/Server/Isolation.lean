import Rdows.Lib.Rank
import Rdows.Server.Host

/-!
# Addresses do not interfere

Every connection of `run_server` is a task of its own, but all tasks share one map, the session
tracker.  What a connection does in `handle_connection` depends on that map: whether it is admitted,
whether the block that releases its place finds an entry, whether one of the two panics.  So the
connections of one address could be affected by those of others.

## What is compared

A run of the server is compared with another run of the same server, in which no other address ever
connects.  `ownEvents` takes from the events of the first run those of the address, in their order;
they keep everything the outside decides, which is the outcome of the handshakes, the upgrade
requests, the messages and, for every message, the clock and the random draws.  Connections are
counted in the order of their arrival, so the ones that are left have other positions; `rank` is the
new one.

## The argument

* The two blocks under the lock look at and change no entry but their own: they do the same on two
  maps with the same entry for their address (`sessionLimitCheck_respects`, `release_respects`), and
  they leave all other entries as they are (`sessionLimitCheck_keeps`, `release_keeps`).  This is
  about entries, not counts: a refused connection leaves an entry 0 behind and a released one leaves
  none, and a later block can tell the difference.
* `Server.Shows` relates two servers of which the second has just what the first has for one
  address, and every step keeps it.
* A step is a reaction of one connection to its own stage and session (`step_eq_react`), so two
  connections that are alike stay alike (`Mirrors.step_own`).

`addresses_isolated` follows by induction over the run and its projection.
-/

namespace Rdows

open Rust

namespace Admission

variable {Ip : Type} [DecidableEq Ip]

/-! ### The blocks under the lock -/

/-- Two maps with the same entry for an address, or with none in both. -/
def SameEntry (ip : Ip) (tracker tracker' : Tracker Ip) : Prop :=
  tracker.lookup ip = tracker'.lookup ip

/-- The same entry set in both maps. -/
theorem SameEntry.insert {ip : Ip} {tracker tracker' : Tracker Ip}
    (same : SameEntry ip tracker tracker') (other : Ip) (held : UInt32) :
    SameEntry ip (tracker.insert other held) (tracker'.insert other held) := by
  rw [SameEntry, AssocMap.lookup_insert_eq_ite, AssocMap.lookup_insert_eq_ite, same]

/-- The same entry removed from both maps. -/
theorem SameEntry.erase {ip : Ip} {tracker tracker' : Tracker Ip}
    (same : SameEntry ip tracker tracker') (other : Ip) :
    SameEntry ip (tracker.erase other) (tracker'.erase other) := by
  rw [SameEntry, AssocMap.lookup_erase_eq_ite, AssocMap.lookup_erase_eq_ite, same]

/-- The entry of the address itself, inserted if there is none. -/
theorem SameEntry.orInsertZero {ip : Ip} {tracker tracker' : Tracker Ip}
    (same : SameEntry ip tracker tracker') :
    SameEntry ip (orInsertZero ip tracker) (orInsertZero ip tracker') := by
  unfold Admission.orInsertZero
  rw [← same]
  split
  · exact same
  · exact same.insert ip 0

/-- Admission at an address depends on the entry of this address only: on two maps with the same
entry it decides alike, and leaves the same entry. -/
theorem sessionLimitCheck_respects (maxSessionsPerIp : UInt32) (ip : Ip) :
    (sessionLimitCheck maxSessionsPerIp ip).Respects (SameEntry ip) := by
  refine (Method.Respects.modify fun _ _ => SameEntry.orInsertZero).bind fun _ => ?_
  refine Method.Respects.get_bind (fun s t same => ?_) fun s => ?_
  · rw [count, count, same]
  · refine .ite (.lift _) ((Method.Respects.lift _).bind fun more => ?_)
    exact (Method.Respects.modify fun _ _ same => same.insert ip more).bind fun _ => .lift _

/-- So does a release. -/
theorem release_respects (ip : Ip) : (release ip).Respects (SameEntry ip) := by
  refine Method.Respects.get_bind (fun s t same => ?_) fun s => ?_
  · rw [same]
  · split
    · exact .lift _
    · refine (Method.Respects.lift _).bind fun fewer => ?_
      refine (Method.Respects.modify fun _ _ same => same.insert ip fewer).bind fun _ => ?_
      refine (Method.Respects.modify fun _ _ same => ?_).bind fun _ => .lift _
      split
      · exact same.erase ip
      · exact same

theorem SameEntry.refl {ip : Ip} (tracker : Tracker Ip) : SameEntry ip tracker tracker :=
  Eq.refl _

theorem SameEntry.trans {ip : Ip} (a b c : Tracker Ip) (first : SameEntry ip a b)
    (second : SameEntry ip b c) : SameEntry ip a c :=
  Eq.trans first second

section Elsewhere

variable {ip other : Ip} (differs : ip ≠ other)
include differs

/-- The entry of another address is set. -/
theorem SameEntry.insert_of_ne (tracker : Tracker Ip) (held : UInt32) :
    SameEntry ip tracker (tracker.insert other held) := by
  rw [SameEntry, AssocMap.lookup_insert_eq_ite, if_neg differs]

/-- The entry of another address is inserted if there is none. -/
theorem SameEntry.orInsertZero_of_ne (tracker : Tracker Ip) :
    SameEntry ip tracker (Admission.orInsertZero other tracker) := by
  unfold Admission.orInsertZero
  split
  · rfl
  · exact SameEntry.insert_of_ne differs tracker 0

/-- Admission at another address leaves the entry as it is. -/
theorem sessionLimitCheck_keeps (maxSessionsPerIp : UInt32) :
    (sessionLimitCheck maxSessionsPerIp other).Keeps (SameEntry ip) := by
  refine Method.Keeps.bind SameEntry.trans (SameEntry.orInsertZero_of_ne differs) fun _ _ t _ => ?_
  refine Method.Keeps.bind SameEntry.trans (R := SameEntry ip) (.get SameEntry.refl)
    (fun _ s t _ => ?_) t
  dsimp only
  rw [Method.run_ite]
  split
  · rfl
  · refine Method.Keeps.bind SameEntry.trans (R := SameEntry ip) (.lift SameEntry.refl _)
      (fun _ more t _ => ?_) t
    exact SameEntry.insert_of_ne differs t more

/-- So does a release. -/
theorem release_keeps : (release other).Keeps (SameEntry ip) := by
  refine Method.Keeps.bind SameEntry.trans (.get SameEntry.refl) fun _ s t _ => ?_
  split
  · rfl
  · refine Method.Keeps.bind SameEntry.trans (R := SameEntry ip) (.lift SameEntry.refl _)
      (fun _ fewer t _ => ?_) t
    refine SameEntry.trans _ _ _ (SameEntry.insert_of_ne differs t fewer) ?_
    show SameEntry ip _ (if fewer = 0 then (t.insert other fewer).erase other else _)
    split
    · rw [SameEntry, AssocMap.lookup_erase_eq_ite, if_neg differs]
    · rfl

end Elsewhere

/-! ### The tasks of one address -/

/-- The task is one of the address. -/
def Task.comesFrom (ip : Ip) (task : Task Ip) : Bool := task.ip = ip

theorem Task.comesFrom_iff {ip : Ip} {task : Task Ip} :
    task.comesFrom ip = true ↔ task.ip = ip := decide_eq_true_iff

namespace Server

variable {ip : Ip} {s s' : Server Ip} {i : ℕ} {task : Task Ip} {maxSessionsPerIp : UInt32}

/-- The position of a task among those of the address: how many of them came before it. -/
def rank (ip : Ip) (s : Server Ip) (i : ℕ) : ℕ := Filtered.rank (Task.comesFrom ip) s.tasks i

/-- **A server with one address.**  It has the entry and the tasks that the other one has for the
address, and no other tasks. -/
structure Shows (ip : Ip) (s s' : Server Ip) : Prop where
  entry : SameEntry ip s.tracker s'.tracker
  tasks : s'.tasks = s.tasks.filter (Task.comesFrom ip)

namespace Shows

variable (shown : Shows ip s s')
include shown

/-- **A connection from another address** has no counterpart in the server with one address, and no
rank among its tasks. -/
theorem connect_other {other : Ip} (differs : other ≠ ip) (maxSessionsPerIp : UInt32) :
    Shows ip (s.step maxSessionsPerIp (.connect other)).2 s' := by
  refine ⟨shown.entry, ?_⟩
  have left : ¬ Task.comesFrom ip ⟨other, .arrived⟩ = true := mt Task.comesFrom_iff.mp differs
  show s'.tasks = (s.tasks ++ ([⟨other, .arrived⟩] : List (Task Ip))).filter _
  rw [List.filter_append, List.filter_cons_of_neg left, List.filter_nil, List.append_nil,
    shown.tasks]

/-- A connection from the address. -/
theorem connect (maxSessionsPerIp : UInt32) :
    Shows ip (s.step maxSessionsPerIp (.connect ip)).2
      (s'.step maxSessionsPerIp (.connect ip)).2 := by
  refine ⟨shown.entry, ?_⟩
  have joins : Task.comesFrom ip ⟨ip, .arrived⟩ = true := Task.comesFrom_iff.mpr rfl
  show s'.tasks ++ _ = (s.tasks ++ ([⟨ip, .arrived⟩] : List (Task Ip))).filter _
  rw [List.filter_append, List.filter_cons_of_pos joins, List.filter_nil, shown.tasks]

variable (here : s.tasks[i]? = some task)
include here

/-- A task of the address is found at its rank in the server with one address. -/
theorem task_at_rank (own : task.ip = ip) : s'.tasks[s.rank ip i]? = some task := by
  rw [shown.tasks]
  exact Filtered.getElem?_filter here (Task.comesFrom_iff.mpr own)

/-- A task of another address moves. -/
theorem move_other (differs : task.ip ≠ ip) (stage : Stage) {after : Tracker Ip}
    (entry : SameEntry ip s.tracker after) :
    Shows ip ({ s with tracker := after }.move i task stage) s' := by
  refine ⟨(entry.symm.trans shown.entry), ?_⟩
  rw [shown.tasks]
  exact (Filtered.filter_set_of_not (b := { task with stage }) here rfl
    (mt Task.comesFrom_iff.mp differs)).symm

/-- A task of the address moves, in both servers. -/
theorem move_own (own : task.ip = ip) (stage : Stage) {after after' : Tracker Ip}
    (entry : SameEntry ip after after') :
    Shows ip ({ s with tracker := after }.move i task stage)
      ({ s' with tracker := after' }.move (s.rank ip i) task stage) := by
  refine ⟨entry, ?_⟩
  show s'.tasks.set _ _ = _
  rw [shown.tasks]
  exact (Filtered.filter_set (b := { task with stage }) here rfl
    (Task.comesFrom_iff.mpr own)).symm

/-- **A step of another address.** It may be admitted, refused or released; what the map has for the
address of interest stays. -/
theorem goOn_other (differs : task.ip ≠ ip) (succeeds : Bool) :
    Shows ip (s.step maxSessionsPerIp (.goOn i succeeds)).2 s' := by
  rw [step, here]
  dsimp only
  unfold Server.goOn
  -- the two blocks under the lock keep the entries of other addresses
  split
  · have entry := sessionLimitCheck_keeps differs.symm maxSessionsPerIp s.tracker
    split
    all_goals
      rename_i run
      rw [run] at entry
      exact shown.move_other here differs _ entry
  · exact shown.move_other here differs _ rfl
  · exact shown.move_other here differs _ rfl
  · exact shown.move_other here differs _ rfl
  · have entry := release_keeps differs.symm s.tracker
    split
    all_goals
      rename_i run
      rw [run] at entry
      exact shown.move_other here differs _ entry
  all_goals exact shown

/-- **A step of the address**, which both servers take.  They find the same entry, so they decide
alike and leave the same entry. -/
theorem goOn_own (own : task.ip = ip) (succeeds : Bool) :
    Shows ip (s.step maxSessionsPerIp (.goOn i succeeds)).2
      (s'.step maxSessionsPerIp (.goOn (s.rank ip i) succeeds)).2 := by
  subst own
  rw [step, step, here, shown.task_at_rank here rfl]
  dsimp only
  unfold Server.goOn
  split
  · obtain ⟨result, after, after', left, right, entry⟩ :=
      (sessionLimitCheck_respects maxSessionsPerIp task.ip).runs shown.entry
    rw [left, right]
    rcases result with (_ | _) | e | p
    · exact shown.move_own here rfl _ entry
    · exact shown.move_own here rfl _ entry
    · exact e.elim
    · exact shown.move_own here rfl _ entry
  · exact shown.move_own here rfl _ shown.entry
  · exact shown.move_own here rfl _ shown.entry
  · exact shown.move_own here rfl _ shown.entry
  · obtain ⟨result, after, after', left, right, entry⟩ :=
      (release_respects task.ip).runs shown.entry
    rw [left, right]
    rcases result with (_ | _) | e | p
    · exact shown.move_own here rfl _ entry
    · exact shown.move_own here rfl _ entry
    · exact e.elim
    · exact shown.move_own here rfl _ entry
  all_goals exact shown

end Shows

/-- **A reaction in another address**, or at a position without a task. -/
theorem Shows.proceed_other (shown : Shows ip s s') (elsewhere : s.tasks[i]?.map Task.ip ≠ some ip)
    (maxSessionsPerIp : UInt32) (goesOn : Option Bool) :
    Shows ip (s.proceed maxSessionsPerIp i goesOn) s' := by
  rcases here : s.tasks[i]? with _ | task
  · rw [proceed_of_absent here]
    exact shown
  rcases goesOn with _ | succeeds
  · exact shown
  · refine shown.goOn_other here (fun same => elsewhere ?_) succeeds
    rw [here, Option.map_some, same]

/-- **A reaction in the address**, which both servers take. -/
theorem Shows.proceed_own (shown : Shows ip s s') (own : s.tasks[i]?.map Task.ip = some ip)
    (maxSessionsPerIp : UInt32) (goesOn : Option Bool) :
    Shows ip (s.proceed maxSessionsPerIp i goesOn)
      (s'.proceed maxSessionsPerIp (s.rank ip i) goesOn) := by
  obtain ⟨task, here, same⟩ := Option.map_eq_some_iff.mp own
  rcases goesOn with _ | succeeds
  · exact shown
  · exact shown.goOn_own here same succeeds

/-- Ranks are given by the order of arrival, so a step of a task changes none. -/
theorem rank_proceed (s : Server Ip) (i j : ℕ) (goesOn : Option Bool) :
    (s.proceed maxSessionsPerIp i goesOn).rank ip j = s.rank ip j := by
  rcases here : s.tasks[i]? with _ | task
  · rw [proceed_of_absent here]
  obtain ⟨stage, tasks⟩ := tasks_proceed here maxSessionsPerIp goesOn
  rw [rank, tasks]
  exact Filtered.rank_set (p := Task.comesFrom ip) (b := { task with stage }) here rfl j

end Server

end Admission

/-! ### The run of one address -/

namespace Host

open Admission (Stage Task Tracker)

variable {Ip : Type}

/-- The same event, at another connection.  Nothing of what the outside decides is changed. -/
def Event.move (k : ℕ) : Event Ip → Event Ip
  | .connect ip => .connect ip
  | .goOn _ succeeds => .goOn k succeeds
  | .upgrade _ request now => .upgrade k request now
  | .receive _ env message => .receive k env message

theorem Event.connection_move {event : Event Ip} {i : ℕ} (concerns : event.connection = some i)
    (k : ℕ) : (event.move k).connection = some k := by
  rcases event with ip | _ | _ | _
  · cases concerns
  all_goals rfl

/-- What a connection does in an event does not depend on its position. -/
theorem react_move (config : ServerConfig) (stage : Option Stage) (service : Service)
    (event : Event Ip) (k : ℕ) :
    react config stage service (event.move k) = react config stage service event := by
  rcases event with ip | _ | _ | _ <;> rfl

/-- Connections that were served the same before are served the same after the same event. -/
theorem handledBy_cons_move {event : Event Ip} {i k : ℕ} (concerns : event.connection = some i)
    {seen seen' : List (Event Ip × Option Served)} (same : handledBy k seen' = handledBy i seen)
    (output : Option Served) :
    handledBy k ((event.move k, output) :: seen') = handledBy i ((event, output) :: seen) := by
  rcases output with _ | served
  · rw [handledBy_cons_none, handledBy_cons_none, same]
  rcases event with ip | _ | _ | ⟨j, env, message⟩ <;> cases concerns
  · exact same
  · exact same
  · rw [Event.move, handledBy_cons_self, handledBy_cons_self, same]

/-- Nothing was served yet to the connection that arrives next. -/
theorem Progress.next {config : ServerConfig} {h : Host Ip}
    {seen : List (Event Ip × Option Served)}
    (progress : ∀ i, Progress config i seen (h.stage i) (h.services i)) :
    h.services h.admission.tasks.length = .none ∧
      handledBy h.admission.tasks.length seen = [] := by
  have absent : h.stage h.admission.tasks.length = none := by
    rw [stage, List.getElem?_eq_none (Nat.le_refl _), Option.map_none]
  have next := progress h.admission.tasks.length
  rw [absent] at next
  generalize h.services h.admission.tasks.length = service at next ⊢
  cases next with
  | before early nothing => exact ⟨rfl, nothing⟩

variable [DecidableEq Ip]

/-- The position of a connection among those of the address. -/
def rank (ip : Ip) (h : Host Ip) (i : ℕ) : ℕ := h.admission.rank ip i

/-- What the address takes from an event: its own connections arrive, and their events are kept,
with the position that the connection has among them. -/
def own (ip : Ip) (h : Host Ip) (event : Event Ip) : Option (Event Ip) :=
  match event with
  | .connect other => if other = ip then some event else none
  | .goOn i _ | .upgrade i _ _ | .receive i _ _ =>
      if h.address i = some ip then some (event.move (h.rank ip i)) else none

/-- An event of a connection is kept if the connection is one of the address. -/
theorem own_eq {ip : Ip} {h : Host Ip} {event : Event Ip} {i : ℕ}
    (concerns : event.connection = some i) :
    own ip h event = if h.address i = some ip then some (event.move (h.rank ip i)) else none := by
  rcases event with ip | _ | _ | _ <;> cases concerns <;> rfl

/-- The events of one address in a run of the server, as a run of their own. -/
def ownEvents (config : ServerConfig) (maxSessionsPerIp : UInt32) (ip : Ip)
    (events : List (Event Ip)) : List (Event Ip) :=
  Machine.kept (step config maxSessionsPerIp) (own ip) start events

section Step

variable {config : ServerConfig} {maxSessionsPerIp : UInt32} {ip : Ip} {h : Host Ip} {i j : ℕ}

/-- A step of a connection changes no rank. -/
theorem rank_step {event : Event Ip} (concerns : event.connection = some j) :
    (h.step config maxSessionsPerIp event).2.rank ip i = h.rank ip i := by
  rw [step_eq_react config maxSessionsPerIp h concerns]
  exact h.admission.rank_proceed j i _

/-- Connections of the address have different ranks. -/
theorem rank_inj (here : h.address i = some ip) (there : h.address j = some ip)
    (same : h.rank ip i = h.rank ip j) : i = j := by
  obtain ⟨task, here, own⟩ := Option.map_eq_some_iff.mp here
  obtain ⟨task', there, own'⟩ := Option.map_eq_some_iff.mp there
  exact Filtered.rank_inj here there (Task.comesFrom_iff.mpr own) (Task.comesFrom_iff.mpr own') same

/-- A step of a connection changes its own service and no other. -/
theorem services_step {event : Event Ip} (concerns : event.connection = some j) :
    (h.step config maxSessionsPerIp event).2.services
      = Function.update h.services j (react config (h.stage j) (h.services j) event).service := by
  rw [step_eq_react config maxSessionsPerIp h concerns]
  rfl

/-- After an arrival, a connection of an address was there before, at its rank, or is the new
one. -/
theorem address_connect {other : Ip}
    (known : (h.step config maxSessionsPerIp (.connect other)).2.address i = some ip) :
    (h.address i = some ip ∧
      (h.step config maxSessionsPerIp (.connect other)).2.rank ip i = h.rank ip i) ∨
    (i = h.admission.tasks.length ∧ other = ip ∧
      (h.step config maxSessionsPerIp (.connect other)).2.rank ip i
        = (h.admission.tasks.filter (Task.comesFrom ip)).length) := by
  have tasks : (h.step config maxSessionsPerIp (.connect other)).2.admission.tasks
    = h.admission.tasks ++ [⟨other, .arrived⟩] := rfl
  rw [address, tasks] at known
  obtain ⟨task, here, own⟩ := Option.map_eq_some_iff.mp known
  have bound := (List.getElem?_eq_some_iff.mp here).1
  rw [List.length_append, List.length_singleton] at bound
  have rank : (h.step config maxSessionsPerIp (.connect other)).2.rank ip i = h.rank ip i :=
    Filtered.rank_append (Nat.le_of_lt_succ bound) _
  rcases Nat.lt_succ_iff_lt_or_eq.mp bound with before | rfl
  · rw [List.getElem?_append_left before] at here
    refine .inl ⟨?_, rank⟩
    rw [address, here, Option.map_some, own]
  · rw [List.getElem?_concat_length] at here
    cases here
    exact .inr ⟨rfl, own, rank.trans (Filtered.rank_length _)⟩

end Step

/-- **Two servers that are alike for one address**, of which the second has no other connections:
what they keep of it in the map, its tasks, its sessions, and what these were served. -/
structure Mirrors (config : ServerConfig) (ip : Ip) (seen : List (Event Ip × Option Served))
    (h : Host Ip) (seen' : List (Event Ip × Option Served)) (h' : Host Ip) : Prop where
  admission : h.admission.Shows ip h'.admission
  services : ∀ i, h.address i = some ip → h'.services (h.rank ip i) = h.services i
  handled : ∀ i, h.address i = some ip → handledBy (h.rank ip i) seen' = handledBy i seen
  progress : ∀ i, Progress config i seen (h.stage i) (h.services i)
  progress' : ∀ i, Progress config i seen' (h'.stage i) (h'.services i)

namespace Mirrors

variable {config : ServerConfig} {maxSessionsPerIp : UInt32} {ip : Ip}
  {seen seen' : List (Event Ip × Option Served)} {h h' : Host Ip}
  (mirrors : Mirrors config ip seen h seen' h')
include mirrors

/-- A connection of the address is as far in both servers. -/
theorem stage_at_rank {i : ℕ} (own : h.address i = some ip) :
    h'.stage (h.rank ip i) = h.stage i := by
  obtain ⟨task, here, same⟩ := Option.map_eq_some_iff.mp own
  rw [stage, stage, here, rank, mirrors.admission.task_at_rank here same]

/-- **A step of another address.** The server with one address does nothing meanwhile, and the two
are still alike for it. -/
theorem step_other {event : Event Ip} {j : ℕ} (concerns : event.connection = some j)
    (elsewhere : h.address j ≠ some ip) :
    Mirrors config ip ((event, (h.step config maxSessionsPerIp event).1) :: seen)
      (h.step config maxSessionsPerIp event).2 seen' h' := by
  have unchanged (i : ℕ) (known : h.address i = some ip) :=
    h.step_elsewhere config maxSessionsPerIp concerns (i := i) fun same =>
      elsewhere (same ▸ known)
  refine ⟨?_, fun i known => ?_, fun i known => ?_, fun i => (mirrors.progress i).step event,
    mirrors.progress'⟩
  · rw [step_eq_react config maxSessionsPerIp h concerns]
    exact mirrors.admission.proceed_other elsewhere maxSessionsPerIp _
  · rw [address_step config maxSessionsPerIp h concerns] at known
    rw [rank_step concerns, (unchanged i known).2.1, mirrors.services i known]
  · rw [address_step config maxSessionsPerIp h concerns] at known
    rw [rank_step concerns, (unchanged i known).2.2 seen, mirrors.handled i known]

/-- **A step of the address**, which both servers take, each at its own position of the
connection. -/
theorem step_own {event : Event Ip} {j : ℕ} (concerns : event.connection = some j)
    (own : h.address j = some ip) :
    Mirrors config ip ((event, (h.step config maxSessionsPerIp event).1) :: seen)
      (h.step config maxSessionsPerIp event).2
      ((event.move (h.rank ip j),
        (h'.step config maxSessionsPerIp (event.move (h.rank ip j))).1) :: seen')
      (h'.step config maxSessionsPerIp (event.move (h.rank ip j))).2 := by
  have concerns' := Event.connection_move concerns (h.rank ip j)
  -- the connection is as far in both servers and has the same session, so it reacts in the same way
  have alike : react config (h'.stage (h.rank ip j)) (h'.services (h.rank ip j))
      (event.move (h.rank ip j)) = react config (h.stage j) (h.services j) event := by
    rw [react_move, mirrors.stage_at_rank own, mirrors.services j own]
  have apart (i : ℕ) (known : h.address i = some ip) (other : j ≠ i) :
      h.rank ip j ≠ h.rank ip i := fun same => other (rank_inj own known same)
  refine ⟨?_, fun i known => ?_, fun i known => ?_, fun i => (mirrors.progress i).step event,
    fun i => (mirrors.progress' i).step _⟩
  · rw [step_eq_react config maxSessionsPerIp h concerns,
      step_eq_react config maxSessionsPerIp h' concerns', alike]
    exact mirrors.admission.proceed_own own maxSessionsPerIp _
  · rw [address_step config maxSessionsPerIp h concerns] at known
    rw [rank_step concerns, services_step concerns, services_step concerns', alike]
    -- the other connections of the address are left alone by both
    by_cases same : j = i
    · subst same
      rw [Function.update_self, Function.update_self]
    · rw [Function.update_of_ne (Ne.symm same), Function.update_of_ne (apart i known same).symm,
        mirrors.services i known]
  · rw [address_step config maxSessionsPerIp h concerns] at known
    rw [rank_step concerns]
    by_cases same : j = i
    · subst same
      rw [step_eq_react config maxSessionsPerIp h concerns,
        step_eq_react config maxSessionsPerIp h' concerns', alike]
      exact handledBy_cons_move concerns (mirrors.handled j known) _
    · rw [handledBy_cons_of_ne concerns same, handledBy_cons_of_ne concerns' (apart i known same),
        mirrors.handled i known]

/-- **A connection from another address.** -/
theorem connect_other {other : Ip} (differs : other ≠ ip) :
    Mirrors config ip ((.connect other, none) :: seen)
      (h.step config maxSessionsPerIp (.connect other)).2 seen' h' := by
  have before {i : ℕ}
      (known : (h.step config maxSessionsPerIp (.connect other)).2.address i = some ip) :=
    (address_connect known).resolve_right fun new => differs new.2.1
  refine ⟨?_, fun i known => ?_, fun i known => ?_,
    fun i => (mirrors.progress i).step (.connect other), mirrors.progress'⟩
  · exact mirrors.admission.connect_other differs maxSessionsPerIp
  · rw [(before known).2]
    exact mirrors.services i (before known).1
  · rw [(before known).2, handledBy_cons_none]
    exact mirrors.handled i (before known).1

/-- **A connection from the address.**  In both servers it is a new one: nothing was served to it,
and it has no session. -/
theorem connect :
    Mirrors config ip ((.connect ip, none) :: seen)
      (h.step config maxSessionsPerIp (.connect ip)).2 ((.connect ip, none) :: seen')
      (h'.step config maxSessionsPerIp (.connect ip)).2 := by
  obtain ⟨idle, nothing⟩ := Progress.next mirrors.progress
  obtain ⟨idle', nothing'⟩ := Progress.next mirrors.progress'
  rw [mirrors.admission.tasks] at idle' nothing'
  refine ⟨?_, fun i known => ?_, fun i known => ?_,
    fun i => (mirrors.progress i).step (.connect ip),
    fun i => (mirrors.progress' i).step (.connect ip)⟩
  · exact mirrors.admission.connect maxSessionsPerIp
  · show h'.services _ = h.services i
    rcases address_connect known with ⟨known, rank⟩ | ⟨rfl, -, rank⟩
    · rw [rank, mirrors.services i known]
    · rw [rank, idle, idle']
  · rw [handledBy_cons_none, handledBy_cons_none]
    rcases address_connect known with ⟨known, rank⟩ | ⟨rfl, -, rank⟩
    · rw [rank, mirrors.handled i known]
    · rw [rank, nothing, nothing']

/-- **One step that the address does not see**: the server with one address does nothing
meanwhile. -/
theorem step_dropped {event : Event Ip} (dropped : Host.own ip h event = none) :
    Mirrors config ip ((event, (h.step config maxSessionsPerIp event).1) :: seen)
      (h.step config maxSessionsPerIp event).2 seen' h' := by
  rcases concerns : event.connection with _ | j
  · rcases event with other | _ | _ | _ <;> cases concerns
    refine mirrors.connect_other fun same => ?_
    rw [Host.own, if_pos same] at dropped
    cases dropped
  · refine mirrors.step_other concerns fun own => ?_
    rw [own_eq concerns, if_pos own] at dropped
    cases dropped

/-- **One step that the address sees**: both servers take it, at their own positions of the
connection. -/
theorem step_matched {event event' : Event Ip} (kept : Host.own ip h event = some event') :
    Mirrors config ip ((event, (h.step config maxSessionsPerIp event).1) :: seen)
      (h.step config maxSessionsPerIp event).2
      ((event', (h'.step config maxSessionsPerIp event').1) :: seen')
      (h'.step config maxSessionsPerIp event').2 := by
  rcases concerns : event.connection with _ | j
  · rcases event with other | _ | _ | _ <;> cases concerns
    rw [Host.own] at kept
    obtain ⟨rfl, same⟩ := Option.ite_none_right_eq_some.mp kept
    cases same
    exact mirrors.connect
  · rw [own_eq concerns] at kept
    obtain ⟨own, same⟩ := Option.ite_none_right_eq_some.mp kept
    cases same
    exact mirrors.step_own concerns own

end Mirrors

/-- The two servers are alike for the address after every run. -/
theorem mirrors_after (config : ServerConfig) (maxSessionsPerIp : UInt32)
    (events : List (Event Ip)) (ip : Ip) :
    Mirrors config ip (seen config maxSessionsPerIp events) (after config maxSessionsPerIp events)
      (seen config maxSessionsPerIp (ownEvents config maxSessionsPerIp ip events))
      (after config maxSessionsPerIp (ownEvents config maxSessionsPerIp ip events)) := by
  have unserved (i : ℕ) :
      Progress config i ([] : List (Event Ip × Option Served)) none .none := .before rfl rfl
  have initially : Mirrors config ip [] (start : Host Ip) [] start :=
    ⟨⟨.refl _, rfl⟩, fun _ _ => rfl, fun _ _ => rfl, unserved, unserved⟩
  exact Machine.kept_induction (P := Mirrors config ip) initially
    (fun _ _ _ _ _ dropped mirrors => mirrors.step_dropped dropped)
    (fun _ _ _ _ _ _ kept mirrors => mirrors.step_matched kept) events

/-- **Addresses do not interfere.**  After any run of the server, with connections from any
addresses and their steps in any order, what there is for one address is what there would be if no
other address had ever connected: the entry in the map, the connections and where they are, the
sessions, and everything that was served to them.

The run without the other addresses is that of `ownEvents`. -/
theorem addresses_isolated (config : ServerConfig) (maxSessionsPerIp : UInt32)
    (events : List (Event Ip)) (ip : Ip) :
    (after config maxSessionsPerIp (ownEvents config maxSessionsPerIp ip events)).admission.tasks
        = (after config maxSessionsPerIp events).admission.tasks.filter (Task.comesFrom ip) ∧
    (after config maxSessionsPerIp
        (ownEvents config maxSessionsPerIp ip events)).admission.tracker.lookup ip
      = (after config maxSessionsPerIp events).admission.tracker.lookup ip ∧
    ∀ i, (after config maxSessionsPerIp events).address i = some ip →
      (after config maxSessionsPerIp (ownEvents config maxSessionsPerIp ip events)).services
          ((after config maxSessionsPerIp events).rank ip i)
        = (after config maxSessionsPerIp events).services i ∧
      handledBy ((after config maxSessionsPerIp events).rank ip i)
          (seen config maxSessionsPerIp (ownEvents config maxSessionsPerIp ip events))
        = handledBy i (seen config maxSessionsPerIp events) := by
  have mirrors := mirrors_after config maxSessionsPerIp events ip
  exact ⟨mirrors.admission.tasks, mirrors.admission.entry.symm,
    fun i known => ⟨mirrors.services i known, mirrors.handled i known⟩⟩

/-- Connections from two addresses, each of which may have one session.  The one from `false` comes
first and gives up in its handshake; the first one from `true` is served a CONNECT in between, and
the second one is refused. -/
def twoAddresses : List (Event Bool) :=
  [.connect false, .connect true, .goOn 0 true, .goOn 1 true, .goOn 1 true,
    .upgrade 1 ⟨[subprotocol], true⟩ 0, .goOn 0 false,
    .receive 1 (ServerRun.delivered (ServerRun.sampleConnect 1024)).1
      (.binary (ServerRun.sampleConnect 1024).encode),
    .connect true, .goOn 2 true, .goOn 0 true]

/-- The served connection is the second one of the server and the first one of its address.  Without
the connection from `false`, it is served the same. -/
theorem addresses_isolated_twoAddresses :
    (after {} 1 twoAddresses).address 1 = some true ∧
      (after {} 1 twoAddresses).rank true 1 = 0 ∧
      (handledBy 1 (seen {} 1 twoAddresses)).length = 1 ∧
      handledBy 0 (seen {} 1 (ownEvents {} 1 true twoAddresses))
        = handledBy 1 (seen {} 1 twoAddresses) ∧
      (after {} 1 (ownEvents {} 1 true twoAddresses)).admission.tasks.map Task.stage
        = [.serving, .refused] := by
  obtain ⟨tasks, -, connections⟩ := addresses_isolated {} 1 twoAddresses true
  have own : (after {} 1 twoAddresses).address 1 = some true := by decide +kernel
  have first : (after {} 1 twoAddresses).rank true 1 = 0 := by decide +kernel
  have same := (connections 1 own).2
  rw [first] at same
  refine ⟨own, first, by decide +kernel, same, ?_⟩
  rw [tasks]
  decide +kernel

end Host

end Rdows
