import Mathlib.Algebra.BigOperators.Group.Finset.Basic
import Mathlib.Algebra.Order.BigOperators.Group.Finset
import Rdows.Server.AccessRights
import Rdows.Server.Host

/-!
# What one address can take up

The limits of `ServerConfig` are checked in two places: on the regions of one session by its memory
store, and on the sessions of one address by `handle_connection`.

* `memory_bounded`: together they bound the memory that an address can hold, over all interleavings
  of its connections.
* `panicked_places_lost`: a session that panics never gives its place back.  An address that has
  lost all its places so is locked out, and a peer can bring that about (`overflowingRun`).

## Holding a place

A connection in `run_session` holds a place of its address, and so does one whose session has
panicked: its task is gone, and with it the block that would have released the place.  The count in
the map does not tell the two apart.  That is what makes the bound on memory sound, since every
session that still has regions is among those that are counted; and it is what makes the loss of a
place final, since nothing else ever decrements the count.

## What is left of a session

The store of a session lives as long as its task.  A session that is over, by its end or by a panic,
holds nothing (`Host.Service.measure`).  For the others the limits of the store apply: its regions
are within their number, and their bytes within the quota.

`Reached` is what both results use: where every connection of a run is (`Progress`), and that the
counts are right (`Accounted`).
-/

namespace Rdows

open Rust

/-- What a session keeps in memory; nothing is left of one that is over. -/
def Host.Service.measure (f : MemoryStore → ℕ) : Host.Service → ℕ
  | session r => f r.session.memoryStore
  | none | panicked => 0

/-- The session panicked, and its task is gone. -/
def Host.Service.isPanicked : Host.Service → Bool
  | panicked => true
  | none | session _ => false

/-- The bytes of all regions, as the allocator sees them: the sum of the lengths of their
buffers. -/
def MemoryStore.heldBytes (s : MemoryStore) : ℕ :=
  AssocMap.weight (fun e => e.data.length) s.regions

/-- The limits of a session's store are those of the configuration. -/
theorem ServerRun.limits_after (config : ServerConfig) (now : ℕ)
    (inputs : List (Env × WsMessage)) :
    ((new config now).after inputs).session.memoryStore.maxRegions = config.maxRegionsPerSession ∧
      ((new config now).after inputs).session.memoryStore.maxTotalBytes
        = config.maxTotalBytesPerSession := by
  induction inputs using List.reverseRecOn with
  | nil => exact ⟨rfl, rfl⟩
  | append_singleton inputs input ih =>
      have move := step_moves (storeInv_after config now inputs) input
      rw [after_concat]
      exact ⟨move.limits.1.trans ih.1, move.limits.2.trans ih.2⟩

namespace Admission

variable {Ip : Type} [DecidableEq Ip]

/-- A task of an address that is at its limit is refused. -/
theorem Server.stage_of_full {s : Server Ip} {i : ℕ} {ip : Ip}
    (address : s.tasks[i]?.map Task.ip = some ip)
    (arrived : s.tasks[i]?.map Task.stage = some .arrived)
    {maxSessionsPerIp : UInt32} (full : maxSessionsPerIp.toNat ≤ (count s.tracker ip).toNat)
    (succeeds : Bool) :
    ((s.step maxSessionsPerIp (.goOn i succeeds)).2.tasks[i]?).map Task.stage = some .refused := by
  obtain ⟨task, here, rfl⟩ := Option.map_eq_some_iff.mp address
  obtain ⟨task', here', staged⟩ := Option.map_eq_some_iff.mp arrived
  cases here.symm.trans here'
  have bound := (List.getElem?_eq_some_iff.mp here).1
  rw [Server.step, here]
  dsimp only
  rw [Server.goOn, staged]
  dsimp only
  obtain ⟨after, -, ⟨refused, -⟩ | ⟨-, room, -⟩⟩ :=
    sessionLimitCheck_spec maxSessionsPerIp task.ip s.tracker
  · rw [refused]
    show ((s.tasks.set i { task with stage := .refused })[i]?).map _ = _
    rw [List.getElem?_set_self bound]
    rfl
  · exact absurd room (Nat.not_lt.mpr full)

end Admission

namespace Host

open Admission (Stage Task Tracker count)

variable {Ip : Type} [DecidableEq Ip] {h : Host Ip} {i : ℕ} {maxSessionsPerIp : UInt32}

/-! ### Places -/

/-- In the shared map, a step of the server is a step of one task, or nothing. -/
theorem admission_step (config : ServerConfig) (maxSessionsPerIp : UInt32) (h : Host Ip)
    (event : Event Ip) :
    (h.step config maxSessionsPerIp event).2.admission = h.admission ∨
      ∃ e, (h.step config maxSessionsPerIp event).2.admission
        = (h.admission.step maxSessionsPerIp e).2 := by
  rcases concerns : event.connection with _ | i
  · rcases event with ip | _ | _ | _ <;> cases concerns
    exact .inr ⟨.connect ip, rfl⟩
  · rw [step_eq_react config maxSessionsPerIp h concerns, settle]
    rcases (react config (h.stage i) (h.services i) event).goesOn with _ | succeeds
    · exact .inl rfl
    · exact .inr ⟨.goOn i succeeds, rfl⟩

/-- What is true of the server in every run: where every connection is, and that every
count is right. -/
structure Reached (config : ServerConfig) (maxSessionsPerIp : UInt32)
    (seen : List (Event Ip × Option Served)) (h : Host Ip) : Prop where
  progress : ∀ i, Progress config i seen (h.stage i) (h.services i)
  accounted : h.admission.Accounted maxSessionsPerIp

/-- Every step of the server keeps both. -/
theorem Reached.step {config : ServerConfig} {seen : List (Event Ip × Option Served)}
    (reached : Reached config maxSessionsPerIp seen h) (event : Event Ip) :
    Reached config maxSessionsPerIp
      ((event, (h.step config maxSessionsPerIp event).1) :: seen)
      (h.step config maxSessionsPerIp event).2 := by
  refine ⟨fun i => (reached.progress i).step event, ?_⟩
  rcases h.admission_step config maxSessionsPerIp event with same | ⟨e, same⟩
  · rw [same]
    exact reached.accounted
  · rw [same]
    exact (reached.accounted.step e).accounted

/-- Both hold in every run. -/
theorem reached_after (config : ServerConfig) (maxSessionsPerIp : UInt32)
    (events : List (Event Ip)) :
    Reached config maxSessionsPerIp (seen config maxSessionsPerIp events)
      (after config maxSessionsPerIp events) := by
  refine Machine.run_induction (P := Reached config maxSessionsPerIp)
    ⟨fun i => .before rfl rfl, fun ip => rfl, fun ip => ?_⟩
    (fun _ _ event reached => reached.step event) events
  exact UInt32.le_iff_toNat_le.mpr (Nat.zero_le _)

/-- The connections of an address, those that are over included. -/
def connections (h : Host Ip) (ip : Ip) : Finset ℕ :=
  (Finset.range h.admission.tasks.length).filter fun i => h.address i = some ip

/-- A set of positions of a list is no larger than the number of entries that are like those at the
positions. -/
theorem card_le_countP {α : Type} {l : List α} {p : α → Bool} {s : Finset ℕ}
    (like : ∀ i ∈ s, ∃ a, l[i]? = some a ∧ p a = true) : s.card ≤ l.countP p := by
  induction l using List.reverseRecOn generalizing s with
  | nil =>
      have empty : s = ∅ := Finset.eq_empty_of_forall_notMem fun i mem => by
        obtain ⟨a, here, -⟩ := like i mem
        cases here
      rw [empty]
      rfl
  | append_singleton l a ih =>
      have rest : ∀ i ∈ s.erase l.length, ∃ b, l[i]? = some b ∧ p b = true := by
        intro i mem
        obtain ⟨differs, mem⟩ := Finset.mem_erase.mp mem
        obtain ⟨b, here, holds⟩ := like i mem
        have bound := (List.getElem?_eq_some_iff.mp here).1
        rw [List.length_append, List.length_singleton] at bound
        rw [List.getElem?_append_left (by omega)] at here
        exact ⟨b, here, holds⟩
      have fewer := ih rest
      rw [List.countP_append]
      -- the last position is one of the set, and then counts, or it is not
      by_cases last : l.length ∈ s
      · obtain ⟨b, here, holds⟩ := like _ last
        rw [List.getElem?_concat_length] at here
        cases here
        rw [Finset.card_erase_of_mem last] at fewer
        rw [List.countP_singleton, if_pos holds]
        omega
      · rw [Finset.erase_eq_of_notMem last] at fewer
        omega

section Reached

variable {config : ServerConfig} {seen : List (Event Ip × Option Served)}
  (reached : Reached config maxSessionsPerIp seen h)
include reached

/-- Connections of an address that are in `run_session`, panicked or not, have places. -/
theorem Reached.card_serving_le {ip : Ip} {s : Finset ℕ}
    (serving : ∀ i ∈ s, h.address i = some ip ∧ h.stage i = some .serving) :
    s.card ≤ (count h.admission.tracker ip).toNat := by
  rw [reached.accounted.conserved]
  refine card_le_countP fun i mem => ?_
  obtain ⟨address, stage⟩ := serving i mem
  obtain ⟨task, here, rfl⟩ := Option.map_eq_some_iff.mp address
  obtain ⟨task', here', staged⟩ := Option.map_eq_some_iff.mp stage
  cases here.symm.trans here'
  exact ⟨task, here, by simp [staged, Stage.holds]⟩

/-- What the sessions of an address hold together is at most the number of places times what one
session can hold. -/
theorem Reached.sum_measure_le {f : MemoryStore → ℕ} {most : ℕ}
    (bound : ∀ now inputs, f ((ServerRun.new config now).after inputs).session.memoryStore ≤ most)
    (ip : Ip) :
    ∑ i ∈ h.connections ip, (h.services i).measure f ≤ maxSessionsPerIp.toNat * most := by
  -- only a connection in `run_session` holds anything, and it holds a place
  have single (i : ℕ) :
      (h.services i).measure f ≤ if h.stage i = some .serving then most else 0 := by
    have progress := reached.progress i
    generalize h.stage i = stage, h.services i = service at progress ⊢
    cases progress with
    | during now inputs => exact bound now inputs
    | _ => exact Nat.zero_le _
  have places : ((h.connections ip).filter fun i => h.stage i = some .serving).card
      ≤ (count h.admission.tracker ip).toNat := by
    refine reached.card_serving_le fun i mem => ?_
    obtain ⟨mem, serving⟩ := Finset.mem_filter.mp mem
    exact ⟨(Finset.mem_filter.mp mem).2, serving⟩
  have limited := UInt32.le_iff_toNat_le.mp (reached.accounted.limited ip)
  calc ∑ i ∈ h.connections ip, (h.services i).measure f
      ≤ ∑ i ∈ h.connections ip, if h.stage i = some .serving then most else 0 :=
        Finset.sum_le_sum fun i _ => single i
    _ = ((h.connections ip).filter fun i => h.stage i = some .serving).card * most := by
        rw [← Finset.sum_filter]
        exact Finset.sum_const_nat fun _ _ => rfl
    _ ≤ maxSessionsPerIp.toNat * most := Nat.mul_le_mul_right _ (places.trans limited)

end Reached

/-- **Bounded memory.** In every run, the sessions of one address together hold no more bytes and no
more regions than the limit on sessions times the limits on one session.  Connections that were
refused, have not been upgraded yet or are over hold nothing. -/
theorem memory_bounded (config : ServerConfig) (maxSessionsPerIp : UInt32)
    (events : List (Event Ip)) (ip : Ip) :
    ∑ i ∈ (after config maxSessionsPerIp events).connections ip,
        ((after config maxSessionsPerIp events).services i).measure MemoryStore.heldBytes
      ≤ maxSessionsPerIp.toNat * config.maxTotalBytesPerSession.toNat ∧
    ∑ i ∈ (after config maxSessionsPerIp events).connections ip,
        ((after config maxSessionsPerIp events).services i).measure
          (fun store => AssocMap.size store.regions)
      ≤ maxSessionsPerIp.toNat * config.maxRegionsPerSession := by
  have reached := reached_after config maxSessionsPerIp events
  refine ⟨reached.sum_measure_le (fun now inputs => ?_) ip,
    reached.sum_measure_le (fun now inputs => ?_) ip⟩
  all_goals
    have inv := ServerRun.storeInv_after config now inputs
    obtain ⟨regions, bytes⟩ := ServerRun.limits_after config now inputs
  · rw [← bytes, MemoryStore.heldBytes, ← inv.total]
    exact inv.bytesWithin
  · rw [← regions]
    exact inv.regionsWithin

/-! ### Places lost to panics -/

/-- The connections of an address whose sessions panicked. -/
def panicked (h : Host Ip) (ip : Ip) : Finset ℕ :=
  (h.connections ip).filter fun i => (h.services i).isPanicked

/-- A connection keeps its address. -/
theorem address_of_address (config : ServerConfig) (maxSessionsPerIp : UInt32) {ip : Ip}
    (known : h.address i = some ip) (event : Event Ip) :
    (h.step config maxSessionsPerIp event).2.address i = some ip := by
  rcases concerns : event.connection with _ | j
  · rcases event with other | _ | _ | _ <;> cases concerns
    obtain ⟨task, here, rfl⟩ := Option.map_eq_some_iff.mp known
    have bound := (List.getElem?_eq_some_iff.mp here).1
    show ((h.admission.tasks ++ [⟨other, .arrived⟩])[i]?).map Task.ip = _
    rw [List.getElem?_append_left bound, here]
    rfl
  · rw [address_step config maxSessionsPerIp h concerns]
    exact known

/-- A session that has panicked is in nobody's hands any more. -/
theorem panicked_step {config : ServerConfig} (serving : h.stage i = some .serving)
    (lost : h.services i = .panicked) (event : Event Ip) :
    (h.step config maxSessionsPerIp event).2.services i = .panicked := by
  rcases concerns : event.connection with _ | j
  · rcases event with ip | _ | _ | _ <;> cases concerns
    exact lost
  by_cases own : j = i
  · subst own
    rw [step_eq_react config maxSessionsPerIp h concerns, serving, lost]
    refine (Function.update_self ..).trans ?_
    rcases event with ip | _ | _ | _ <;> rfl
  · rw [(h.step_elsewhere config maxSessionsPerIp concerns own).2.1, lost]

section Reached

variable {config : ServerConfig} {seen : List (Event Ip × Option Served)} {ip : Ip}
  (reached : Reached config maxSessionsPerIp seen h)
include reached

/-- A connection whose session panicked is in `run_session` for ever. -/
theorem Reached.serving_of_panicked (mem : i ∈ h.panicked ip) :
    h.address i = some ip ∧ h.stage i = some .serving ∧ h.services i = .panicked := by
  obtain ⟨mem, lost⟩ := Finset.mem_filter.mp mem
  refine ⟨(Finset.mem_filter.mp mem).2, ?_⟩
  have progress := reached.progress i
  generalize h.stage i = stage, h.services i = service at progress lost ⊢
  cases progress with
  | lost => exact ⟨rfl, rfl⟩
  | _ => cases lost

/-- Panicked sessions stay so, whatever the server does next. -/
theorem Reached.panicked_subset (event : Event Ip) :
    h.panicked ip ⊆ (h.step config maxSessionsPerIp event).2.panicked ip := by
  intro i mem
  obtain ⟨address, serving, lost⟩ := reached.serving_of_panicked mem
  have address := address_of_address config maxSessionsPerIp address event
  refine Finset.mem_filter.mpr ⟨Finset.mem_filter.mpr ⟨?_, address⟩, ?_⟩
  · obtain ⟨task, here, -⟩ := Option.map_eq_some_iff.mp address
    exact Finset.mem_range.mpr (List.getElem?_eq_some_iff.mp here).1
  · rw [panicked_step serving lost]
    rfl

/-- An address whose places are all lost is refused. -/
theorem Reached.refused (full : maxSessionsPerIp.toNat ≤ (h.panicked ip).card)
    (address : h.address i = some ip) (arrived : h.stage i = some .arrived) (succeeds : Bool) :
    (h.step config maxSessionsPerIp (.goOn i succeeds)).2.stage i = some .refused := by
  have places := reached.card_serving_le (s := h.panicked ip) fun i mem =>
    ⟨(reached.serving_of_panicked mem).1, (reached.serving_of_panicked mem).2.1⟩
  have step : h.step config maxSessionsPerIp (.goOn i succeeds)
      = (none, h.advance maxSessionsPerIp i succeeds) := by
    rw [Host.step, arrived]
  rw [step]
  exact Admission.Server.stage_of_full address arrived (full.trans places) succeeds

end Reached

/-- Nor does any later run bring one back. -/
theorem panicked_subset_after (config : ServerConfig) (maxSessionsPerIp : UInt32)
    (events later : List (Event Ip)) (ip : Ip) :
    (after config maxSessionsPerIp events).panicked ip
      ⊆ (after config maxSessionsPerIp (events ++ later)).panicked ip := by
  induction later using List.reverseRecOn with
  | nil => rw [List.append_nil]
  | append_singleton later event ih =>
      have reached := reached_after config maxSessionsPerIp (events ++ later)
      rw [← List.append_assoc]
      rw [after, after, Machine.exec_concat]
      exact ih.trans (reached.panicked_subset event)

/-- **Places are lost to panics for good.** If as many sessions of an address have panicked as the
address may have, then no connection from there is admitted any more, whatever happens later.
`address` and `arrived` say that `i` is a connection from there that has not been decided on. -/
theorem panicked_places_lost (config : ServerConfig) (maxSessionsPerIp : UInt32)
    (events later : List (Event Ip)) (ip : Ip)
    (lost : maxSessionsPerIp.toNat ≤ ((after config maxSessionsPerIp events).panicked ip).card)
    (i : ℕ) (address : (after config maxSessionsPerIp (events ++ later)).address i = some ip)
    (arrived : (after config maxSessionsPerIp (events ++ later)).stage i = some .arrived)
    (succeeds : Bool) :
    ((after config maxSessionsPerIp (events ++ later)).step config maxSessionsPerIp
      (.goOn i succeeds)).2.stage i = some .refused := by
  have still := Finset.card_le_card
    (panicked_subset_after config maxSessionsPerIp events later ip)
  exact (reached_after config maxSessionsPerIp (events ++ later)).refused (lost.trans still) address
    arrived succeeds

/-- A message that the WebSocket of the first connection yields. -/
def fromFirst (msg : RdowsMessage) : Event Unit :=
  .receive 0 (ServerRun.delivered msg).1 (.binary msg.encode)

/-- A connection whose second registration overflows the byte total: one byte is registered, and the
next length is `2 ^ 64 - 1`. -/
def overflowingRun : List (Event Unit) :=
  [.connect (), .goOn 0 true, .goOn 0 true, .upgrade 0 ⟨[subprotocol], true⟩ 0,
    fromFirst (ServerRun.sampleConnect 1024),
    fromFirst (.mrReg (.new .mrReg 7 1 0) ⟨⟨1⟩, .remoteWrite, 1, none⟩),
    fromFirst (.mrReg (.new .mrReg 7 2 0) ⟨⟨1⟩, .remoteWrite, 0xFFFFFFFFFFFFFFFF, none⟩)]

/-- An address that may have one session loses it by `overflowingRun`.  The next connection from
there is refused, though no session of the address is alive. -/
theorem panicked_places_lost_overflow :
    (after {} 1 overflowingRun).panicked () = {0} ∧
      ((after {} 1 (overflowingRun ++ [.connect ()])).step {} 1 (.goOn 1 true)).2.stage 1
        = some .refused := by
  have lost : (after {} 1 overflowingRun).panicked () = {0} := by decide +kernel
  refine ⟨lost, panicked_places_lost {} 1 overflowingRun [.connect ()] () ?_ 1
    (by decide +kernel) (by decide +kernel) true⟩
  rw [lost]
  decide

end Host

end Rdows
