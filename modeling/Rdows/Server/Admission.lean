import Rdows.Lib.AssocMap
import Rdows.Lib.Outcome
import Rdows.Lib.Run

/-!
# Per-IP session accounting

`handle_connection` counts the sessions of every address in a map that all connections share.  A
connection takes the lock of the map in one block to be admitted or refused, and in one of three
identical blocks to release its place: after a failed TLS handshake, after a failed WebSocket
upgrade, and after its session.

## The model

A connection is a `Task` in some `Stage`.  The server is the map and the tasks, and a step of any
task can come at any time; what the outside decides (whether a handshake succeeds) comes with the
step.  Each block under the lock is one step, since no other task can be inside the lock meanwhile;
between two blocks any number of steps of other tasks can come.

## The invariant

`Accounted` is the invariant: for every address the count is the number of tasks that hold a place.
Only the two blocks under the lock touch the map (`sessionLimitCheck_spec`, `release_spec`), and
every step keeps the invariant (`Accounted.step`).

A release of an address without an entry would do nothing and leave a place behind for nobody, and a
decrement below 0 would overflow.  `Proper` says that neither ever happens.  An entry is removed
when its count has gone down to 0; the entry that a refused connection inserts when the limit is 0
is left behind, with a count of 0.

A session that panics is not followed here: its task never reaches the block that releases its
place.  `Server.Capacity` is about what this means.
-/

namespace Rdows

open Rust

namespace Admission

variable {Ip : Type} [DecidableEq Ip]

/-- `SessionTracker`: the number of sessions of each address.  What the lock protects is the value;
the lock itself is that each block is one step. -/
abbrev Tracker (Ip : Type) := AList fun _ : Ip => UInt32

/-- The count of an address; 0 if it has no entry. -/
def count (tracker : Tracker Ip) (ip : Ip) : UInt32 := (tracker.lookup ip).getD 0

/-! ### The blocks under the lock -/

/-- `tracker.entry(ip).or_insert(0)`: an entry of 0 unless there is one. -/
def orInsertZero (ip : Ip) (tracker : Tracker Ip) : Tracker Ip :=
  match tracker.lookup ip with
  | some _ => tracker
  | none => tracker.insert ip 0

/-- The "per-IP session limit check" of `handle_connection`: is the connection admitted?  A refused
one leaves the entry that was inserted. -/
def sessionLimitCheck (maxSessionsPerIp : UInt32) (ip : Ip) : Method (Tracker Ip) Empty Bool := do
  Method.modify (orInsertZero ip)
  let tracker ← Method.get
  let held := count tracker ip
  if maxSessionsPerIp ≤ held then return false
  else do
    let more ← Method.lift (.orPanic .arithmeticOverflow (checkedAdd32 held 1))
    Method.modify (·.insert ip more)
    return true

/-- Each of the three blocks that release a place: was there an entry to decrement? -/
def release (ip : Ip) : Method (Tracker Ip) Empty Bool := do
  let tracker ← Method.get
  match tracker.lookup ip with
  | none => return false
  | some held => do
      let fewer ← Method.lift (.orPanic .arithmeticOverflow (checkedSub32 held 1))
      Method.modify (·.insert ip fewer)
      Method.modify fun tracker => if fewer = 0 then tracker.erase ip else tracker
      return true

/-! ### Connections -/

/-- Where `handle_connection` is: between two awaits or two blocks under the lock. -/
inductive Stage where
  /-- Before the block that admits or refuses it. -/
  | arrived
  /-- Admitted; in the TLS handshake. -/
  | handshaking
  /-- In the WebSocket upgrade. -/
  | upgrading
  /-- In `run_session`. -/
  | serving
  /-- A handshake failed or the session is over; before the block that releases the place. -/
  | releasing
  | closed
  | refused
  /-- A block under the lock panicked. -/
  | crashed
  deriving DecidableEq, Repr

/-- The connection was admitted and has not released its place. -/
def Stage.holds : Stage → Bool
  | handshaking | upgrading | serving | releasing => true
  | arrived | closed | refused | crashed => false

/-- A connection: its address, and how far its task is. -/
structure Task (Ip : Type) where
  ip : Ip
  stage : Stage

/-- The shared map and the connections so far, in the order of their arrival. -/
structure Server (Ip : Type) where
  tracker : Tracker Ip
  tasks : List (Task Ip)

/-- A connection arrives, or a task goes on; `succeeds` is the outcome of the handshake it is in. -/
inductive Event (Ip : Type) where
  | connect (ip : Ip)
  | goOn (task : ℕ) (succeeds : Bool)

/-- What a block under the lock did, if the step was one. -/
inductive Report where
  | nothing
  | admitted
  | refused
  | released
  /-- There was no entry to decrement. -/
  | missing
  | panicked
  deriving DecidableEq, Repr

namespace Server

/-- The server before the first connection, with an empty map. -/
def start : Server Ip := ⟨∅, []⟩

/-- The task `i` moves to another stage. -/
def move (s : Server Ip) (i : ℕ) (task : Task Ip) (stage : Stage) : Server Ip :=
  { s with tasks := s.tasks.set i { task with stage } }

/-- One step of the task `i`, by the stage it is in. -/
def goOn (maxSessionsPerIp : UInt32) (s : Server Ip) (i : ℕ) (task : Task Ip) (succeeds : Bool) :
    Report × Server Ip :=
  match task.stage with
  | .arrived =>
      match (sessionLimitCheck maxSessionsPerIp task.ip).run s.tracker with
      | (.ok true, tracker) => (.admitted, { s with tracker }.move i task .handshaking)
      | (.ok false, tracker) => (.refused, { s with tracker }.move i task .refused)
      | (.panic _, tracker) => (.panicked, { s with tracker }.move i task .crashed)
  | .handshaking => (.nothing, s.move i task (if succeeds then .upgrading else .releasing))
  | .upgrading => (.nothing, s.move i task (if succeeds then .serving else .releasing))
  | .serving => (.nothing, s.move i task .releasing)
  | .releasing =>
      match (release task.ip).run s.tracker with
      | (.ok true, tracker) => (.released, { s with tracker }.move i task .closed)
      | (.ok false, tracker) => (.missing, { s with tracker }.move i task .closed)
      | (.panic _, tracker) => (.panicked, { s with tracker }.move i task .crashed)
  | .closed | .refused | .crashed => (.nothing, s)

/-- One step of the server.  A step of a task that does not exist is none. -/
def step (maxSessionsPerIp : UInt32) (s : Server Ip) : Event Ip → Report × Server Ip
  | .connect ip => (.nothing, { s with tasks := s.tasks ++ [⟨ip, .arrived⟩] })
  | .goOn i succeeds =>
      match s.tasks[i]? with
      | some task => s.goOn maxSessionsPerIp i task succeeds
      | none => (.nothing, s)

/-- The connections of an address that were admitted and have not released their place. -/
def holders (s : Server Ip) (ip : Ip) : ℕ :=
  s.tasks.countP fun task => task.ip = ip && task.stage.holds

end Server

/-! ### What the blocks do -/

/-- The counts after the entry of an address is set. -/
theorem count_insert (tracker : Tracker Ip) (ip other : Ip) (held : UInt32) :
    count (tracker.insert ip held) other = if other = ip then held else count tracker other := by
  unfold count
  rw [AssocMap.lookup_insert_eq_ite]
  split <;> rfl

/-- The counts after the entry of an address is removed. -/
theorem count_erase (tracker : Tracker Ip) (ip other : Ip) :
    count (tracker.erase ip) other = if other = ip then 0 else count tracker other := by
  unfold count
  rw [AssocMap.lookup_erase_eq_ite]
  split <;> rfl

/-- A fresh entry counts nothing. -/
theorem count_orInsertZero (tracker : Tracker Ip) (ip other : Ip) :
    count (orInsertZero ip tracker) other = count tracker other := by
  unfold orInsertZero
  rcases found : tracker.lookup ip with _ | held
  · rw [count_insert]
    split
    · rename_i same
      rw [same, count, found]
      rfl
    · rfl
  · rfl

/-- **Admission.**  A connection is refused if its address is at the limit, and then no count has
changed; otherwise the count of its address is one more and all others are as they were. -/
theorem sessionLimitCheck_spec (maxSessionsPerIp : UInt32) (ip : Ip) (tracker : Tracker Ip) :
    ∃ after, (∀ other, other ≠ ip → count after other = count tracker other) ∧
      (((sessionLimitCheck maxSessionsPerIp ip).run tracker = (.ok false, after) ∧
          count after ip = count tracker ip) ∨
        ((sessionLimitCheck maxSessionsPerIp ip).run tracker = (.ok true, after) ∧
          (count tracker ip).toNat < maxSessionsPerIp.toNat ∧
          (count after ip).toNat = (count tracker ip).toNat + 1)) := by
  have same := count_orInsertZero tracker ip
  unfold sessionLimitCheck
  rw [Method.run_bind_of_ok (Method.run_modify _ _), Method.run_bind_of_ok (Method.run_get _)]
  dsimp only
  rw [Method.run_ite, same]
  by_cases full : maxSessionsPerIp ≤ count tracker ip
  · rw [if_pos full]
    exact ⟨orInsertZero ip tracker, fun other _ => same other, .inl ⟨rfl, same ip⟩⟩
  · have room : (count tracker ip).toNat < maxSessionsPerIp.toNat :=
      UInt32.lt_iff_toNat_lt.mp (UInt32.not_le.mp full)
    have fits : (count tracker ip).toNat + 1 < 2 ^ 32 :=
      Nat.lt_of_le_of_lt room maxSessionsPerIp.toNat_lt
    have added : checkedAdd32 (count tracker ip) 1 = some (count tracker ip + 1) := if_pos fits
    rw [if_neg full, added]
    refine ⟨(orInsertZero ip tracker).insert ip (count tracker ip + 1), ?_, .inr ⟨rfl, room, ?_⟩⟩
    · intro other differs
      rw [count_insert, if_neg differs, same]
    · rw [count_insert, if_pos rfl]
      exact toNat_add32 fits

/-- **Release.**  The count of an address that has one is one less, and all others are as they
were. -/
theorem release_spec (ip : Ip) (tracker : Tracker Ip) (holds : (count tracker ip).toNat ≠ 0) :
    ∃ after, (release ip).run tracker = (.ok true, after) ∧
      (count after ip).toNat + 1 = (count tracker ip).toNat ∧
      ∀ other, other ≠ ip → count after other = count tracker other := by
  unfold release
  rw [Method.run_bind_of_ok (Method.run_get _)]
  rcases found : tracker.lookup ip with _ | held
  · exact absurd (by rw [count, found]; rfl) holds
  have counted : count tracker ip = held := by rw [count, found]; rfl
  rw [counted] at holds ⊢
  have covered : (1 : UInt32).toNat ≤ held.toNat := Nat.one_le_iff_ne_zero.mpr holds
  have taken : checkedSub32 held 1 = some (held - 1) := if_pos covered
  have fewer : (held - 1).toNat + 1 = held.toNat := by
    rw [toNat_sub32 covered]
    exact Nat.sub_add_cancel covered
  dsimp only
  rw [taken]
  -- the entry goes with the last place, and an address without an entry counts 0
  by_cases last : held - 1 = 0
  · refine ⟨(tracker.insert ip (held - 1)).erase ip, ?_, ?_, ?_⟩
    · show (Outcome.ok true, if held - 1 = 0 then _ else _) = _
      rw [if_pos last]
    · rw [count_erase, if_pos rfl, ← last]
      exact fewer
    · intro other differs
      rw [count_erase, if_neg differs, count_insert, if_neg differs]
  · refine ⟨tracker.insert ip (held - 1), ?_, ?_, ?_⟩
    · show (Outcome.ok true, if held - 1 = 0 then _ else _) = _
      rw [if_neg last]
    · rw [count_insert, if_pos rfl]
      exact fewer
    · intro other differs
      rw [count_insert, if_neg differs]

/-! ### Whole runs -/

namespace Server

variable {s : Server Ip} {i : ℕ} {task : Task Ip} {maxSessionsPerIp : UInt32}

/-- Every count is the number of connections that hold a place, and within the limit. -/
structure Accounted (maxSessionsPerIp : UInt32) (s : Server Ip) : Prop where
  conserved : ∀ ip, (count s.tracker ip).toNat = s.holders ip
  limited : ∀ ip, count s.tracker ip ≤ maxSessionsPerIp

/-- A step of a task changes the number of holders of its address by what it gains or gives up. -/
theorem holders_move (present : s.tasks[i]? = some task) (stage : Stage) (ip : Ip) :
    (s.move i task stage).holders ip + (if task.ip = ip ∧ task.stage.holds then 1 else 0)
      = s.holders ip + (if task.ip = ip ∧ stage.holds then 1 else 0) := by
  obtain ⟨bound, here⟩ := List.getElem?_eq_some_iff.mp present
  unfold move holders
  dsimp only
  rw [List.countP_set bound, here]
  simp only [Bool.and_eq_true, decide_eq_true_eq]
  by_cases holds : task.ip = ip ∧ task.stage.holds = true
  · have counted : 0 < s.tasks.countP fun task => decide (task.ip = ip) && task.stage.holds :=
      List.countP_pos_iff.mpr ⟨task, List.mem_of_getElem? present, by simpa using holds⟩
    rw [if_pos holds]
    omega
  · rw [if_neg holds]
    omega

/-- The places that a task in a stage holds at an address. -/
def places (task : Task Ip) (stage : Stage) (ip : Ip) : ℕ :=
  if task.ip = ip ∧ stage.holds then 1 else 0

/-- At its own address a task holds a place or none, by its stage. -/
theorem places_self (task : Task Ip) (stage : Stage) :
    places task stage task.ip = if stage.holds then 1 else 0 := by
  simp [places]

/-- At another address a task holds no place. -/
theorem places_of_ne {ip : Ip} (other : ip ≠ task.ip) (stage : Stage) :
    places task stage ip = 0 :=
  if_neg fun same => other same.1.symm

/-- A step that moves a task and the counts by the same places keeps the account. -/
theorem Accounted.move (accounted : Accounted maxSessionsPerIp s)
    (present : s.tasks[i]? = some task) {stage : Stage} {after : Tracker Ip}
    (own : (count after task.ip).toNat + places task task.stage task.ip
      = (count s.tracker task.ip).toNat + places task stage task.ip)
    (others : ∀ ip, ip ≠ task.ip → count after ip = count s.tracker ip)
    (limited : count after task.ip ≤ maxSessionsPerIp) :
    Accounted maxSessionsPerIp ({ s with tracker := after }.move i task stage) := by
  have balance (ip : Ip) : (count after ip).toNat + places task task.stage ip
      = (count s.tracker ip).toNat + places task stage ip := by
    by_cases same : ip = task.ip
    · rw [same, own]
    · rw [others ip same, places_of_ne same, places_of_ne same]
  constructor
  · intro ip
    have account : (s.move i task stage).holders ip + places task task.stage ip
      = s.holders ip + places task stage ip := holders_move present stage ip
    have before := accounted.conserved ip
    have now := balance ip
    show (count after ip).toNat = (s.move i task stage).holders ip
    omega
  · intro ip
    by_cases same : ip = task.ip
    · exact same ▸ limited
    · exact (others ip same).symm ▸ accounted.limited ip

/-- A step outside the lock, which neither gains nor gives up a place. -/
theorem Accounted.move_outside (accounted : Accounted maxSessionsPerIp s)
    (present : s.tasks[i]? = some task) {stage : Stage} (same : stage.holds = task.stage.holds) :
    Accounted maxSessionsPerIp (s.move i task stage) :=
  accounted.move present (by rw [places_self, places_self, same]) (fun _ _ => rfl)
    (accounted.limited _)

/-- What is true of a step: the counts stay right, no decrement fails, and a refused connection
leaves every count as it was. -/
structure Proper (maxSessionsPerIp : UInt32) (s : Server Ip) (out : Report × Server Ip) :
    Prop where
  accounted : Accounted maxSessionsPerIp out.2
  found : out.1 ≠ .missing
  noPanic : out.1 ≠ .panicked
  refusal : out.1 = .refused → ∀ ip, count out.2.tracker ip = count s.tracker ip

/-- **One step of a task** keeps the account, whichever stage it is in and however its handshake
ends. -/
theorem Accounted.goOn (accounted : Accounted maxSessionsPerIp s)
    (present : s.tasks[i]? = some task) (succeeds : Bool) :
    Proper maxSessionsPerIp s (s.goOn maxSessionsPerIp i task succeeds) := by
  unfold Server.goOn
  rcases stage : task.stage with _ | _ | _ | _ | _ | _ | _ | _
  · -- The block that admits or refuses.
    have idle : places task task.stage task.ip = 0 := by rw [places_self, stage]; rfl
    obtain ⟨after, others, ⟨run, same⟩ | ⟨run, room, more⟩⟩ :=
      sessionLimitCheck_spec maxSessionsPerIp task.ip s.tracker
    · have unchanged (ip : Ip) : count after ip = count s.tracker ip := by
        by_cases own : ip = task.ip
        · rw [own, same]
        · exact others ip own
      dsimp only
      rw [run]
      refine ⟨accounted.move present ?_ others ?_, by simp, by simp, fun _ => unchanged⟩
      · rw [idle, same, places_self]
        rfl
      · rw [same]
        exact accounted.limited _
    · dsimp only
      rw [run]
      refine ⟨accounted.move present ?_ others ?_, by simp, by simp, by simp⟩
      · rw [idle, more, places_self]
        rfl
      · rw [UInt32.le_iff_toNat_le, more]
        exact room
  -- TLS and the upgrade: the place is kept, whether they succeed or not.
  · refine ⟨accounted.move_outside present ?_, by simp, by simp, by simp⟩
    rw [stage]
    cases succeeds <;> rfl
  · refine ⟨accounted.move_outside present ?_, by simp, by simp, by simp⟩
    rw [stage]
    cases succeeds <;> rfl
  · exact ⟨accounted.move_outside present (by rw [stage]; rfl), by simp, by simp, by simp⟩
  · -- A block that releases the place.
    have holding : places task task.stage task.ip = 1 := by rw [places_self, stage]; rfl
    have holds : (count s.tracker task.ip).toNat ≠ 0 := by
      rw [accounted.conserved]
      refine Nat.ne_of_gt (List.countP_pos_iff.mpr ⟨task, List.mem_of_getElem? present, ?_⟩)
      simp [stage, Stage.holds]
    obtain ⟨after, run, fewer, others⟩ := release_spec task.ip s.tracker holds
    dsimp only
    rw [run]
    refine ⟨accounted.move present ?_ others ?_, by simp, by simp, by simp⟩
    · rw [holding, fewer, places_self]
      rfl
    · have limited := UInt32.le_iff_toNat_le.mp (accounted.limited task.ip)
      rw [UInt32.le_iff_toNat_le]
      omega
  · exact ⟨accounted, by simp, by simp, by simp⟩
  · exact ⟨accounted, by simp, by simp, by simp⟩
  · exact ⟨accounted, by simp, by simp, by simp⟩

/-- **One step of the server** keeps the account: a task goes on, or a connection arrives, which
holds no place yet. -/
theorem Accounted.step (accounted : Accounted maxSessionsPerIp s) (event : Event Ip) :
    Proper maxSessionsPerIp s (s.step maxSessionsPerIp event) := by
  cases event with
  | connect ip =>
      refine ⟨⟨fun other => ?_, accounted.limited⟩, by simp [Server.step], by simp [Server.step],
        by simp [Server.step]⟩
      refine (accounted.conserved other).trans ?_
      simp [Server.step, holders, Stage.holds]
  | goOn i succeeds =>
      unfold Server.step
      dsimp only
      rcases present : s.tasks[i]? with _ | task
      · exact ⟨accounted, by simp, by simp, by simp⟩
      · exact accounted.goOn present succeeds

/-- **Per-IP session accounting.**  For any number of connections from any addresses and any
interleaving of their steps: the count of every address is the number of its connections that were
admitted and have not released their place, and is within the limit; a step never decrements a
missing entry or below zero; and a refused connection changes no count. -/
theorem sessions_accounted (maxSessionsPerIp : UInt32) (events : List (Event Ip)) :
    (∀ ip, (count (Machine.exec (step maxSessionsPerIp) start events).tracker ip).toNat
        = (Machine.exec (step maxSessionsPerIp) start events).holders ip ∧
      count (Machine.exec (step maxSessionsPerIp) start events).tracker ip ≤ maxSessionsPerIp) ∧
    ∀ event, Proper maxSessionsPerIp (Machine.exec (step maxSessionsPerIp) start events)
      (step maxSessionsPerIp (Machine.exec (step maxSessionsPerIp) start events) event) := by
  have accounted : Accounted maxSessionsPerIp
      (Machine.exec (step maxSessionsPerIp) (start : Server Ip) events) := by
    refine Machine.exec_induction ⟨fun ip => rfl, fun ip => ?_⟩
      (fun s event accounted => (accounted.step event).accounted) events
    exact UInt32.le_iff_toNat_le.mpr (Nat.zero_le _)
  exact ⟨fun ip => ⟨accounted.conserved ip, accounted.limited ip⟩,
    fun event => accounted.step event⟩

end Server

end Admission

end Rdows
