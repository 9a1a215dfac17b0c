import Rdows.Kv.Api
import Rdows.Network.Transparency

/-!
# The store as it is seen from outside

The whole stack, from the HTTP interface to the memory of the server: requests, the store, the
verbs, the two channels, the session, the region.

## Two results

* `requests_served`: in every schedule of client and server all requests are answered, none of them
  with an internal error, and the answers and the region are those of the store on its region.
* `requests_answered_as_map`: as long as no deletion hides another key, the answers are those of a
  finite map with room for 64 keys (`Answers`).

The first one holds for every list of requests.  The second has the condition that the store as a
map always needs, since `delete` leaves no marker behind; here it is a condition on the requests,
checked along the run of the abstract store.

## How the layers are put together

Every layer was proved against the one below it, and this module composes them: a request on the
region (`Api.step`), the request over function calls (`performs_all`), the function calls over a
connection in any schedule (`network_transparent`), and the map (`Holds`).  A `Deployment` settles
in a state that does not depend on the schedule, so the answers do not either.

`Full` and `Answers` are the abstract specification: a map from keys to values with a limit on the
number of keys.  A put may be refused because the map is full, but for no other reason than that or
its length.
-/

namespace Rdows

open Rust Confluence

namespace Kv

namespace Api

/-! ### A map with room for so many keys -/

/-- The map is full, and the key is not in it: the only situation in which a put may find no
room. -/
def Full (contents : String → Option String) (key : String) : Prop :=
  contents key = none ∧
    ∃ keys : Finset String, keys.card = slotCount ∧ ∀ k ∈ keys, (contents k).isSome

/-- A request is answered as the map demands: the status code and the value of the answer, for every
kind of request. -/
def Answers (contents : String → Option String) : Request → Response → Prop
  | .putKey key value, response =>
      if maxKeyLen < (utf8Bytes key).length then
        response = ⟨.payloadTooLarge, .error "key too long (max 255 bytes)" none⟩
      else if maxValueLen < (utf8Bytes value).length then
        response = ⟨.payloadTooLarge, .error "value too long (max 764 bytes)" none⟩
      else
        (Full contents key →
          response = ⟨.insufficientStorage, .error "hash table full" none⟩) ∧
        (¬ Full contents key → ∃ result, response = ⟨.ok, .put result⟩ ∧
          result.key = key ∧ result.value = value ∧ result.update = (contents key).isSome)
  | .getKey key, response =>
      match contents key with
      | some value => ∃ result, response = ⟨.ok, .get result⟩ ∧
          result.key = key ∧ result.value = value
      | none => response = ⟨.notFound, .error "key not found" (some key)⟩
  | .deleteKey key, response =>
      match contents key with
      | some _ => ∃ result, response = ⟨.ok, .delete result⟩ ∧ result.key = key
      | none => response = ⟨.notFound, .error "key not found" (some key)⟩
  | .getSlots, response => ∃ slots, response = ⟨.ok, .slots slots⟩ ∧ slots.length = slotCount ∧
      ∀ key value, contents key = some value ↔
        ∃ info ∈ slots, info.key = some key ∧ info.value = some value
  | .getStats, response => response.status = .ok

/-- The map after a request and its answer.  Only requests that succeed change it. -/
def next (contents : String → Option String) (request : Request) (response : Response) :
    String → Option String :=
  match request, response.status with
  | .putKey key value, .ok => Function.update contents key (some value)
  | .deleteKey key, .ok => Function.update contents key none
  | _, _ => contents

/-- All requests are answered as the map demands that the ones before have left. -/
def AllAnswered : (String → Option String) → List Request → List Response → Prop
  | _, [], [] => True
  | contents, request :: requests, response :: responses =>
      Answers contents request response ∧
        AllAnswered (next contents request response) requests responses
  | _, _, _ => False

/-- The request deletes a key from a slot that lies on the way to another stored key.  That key
would not be found any more. -/
def Hides (region : Bytes) : Request → Prop
  | .deleteKey key => ∃ i value, tableOf region i = some (key, value) ∧
      Probe.Shields path slotCount (tableOf region) key i
  | _ => False

section Map

variable {region : Bytes} {contents : String → Option String}

/-- Probing for a key does not stop exactly if the map is full: with 64 slots and 64 other keys
there is no empty slot left. -/
theorem full_iff (h : Holds region contents) (key : String) :
    landing region key = none ↔ Full contents key := by
  have taken : (∀ i, (tableOf region i).isSome) ↔ _ := h.placed.full_iff
  rw [show Probe.lookup path slotCount (tableOf region) = contents from h.lookup_eq] at taken
  constructor
  · intro land
    refine ⟨by rw [← h.lookup_eq, lookup_of_exhausted land], taken.mp fun i => ?_⟩
    obtain ⟨k, v, stored, -⟩ := landing_eq_none_iff.mp land i
    rw [stored]
    rfl
  · rintro ⟨absent, full⟩
    refine landing_eq_none_iff.mpr fun i => ?_
    obtain ⟨⟨k, v⟩, stored⟩ := Option.isSome_iff_exists.mp (taken.mpr full i)
    refine ⟨k, v, stored, ?_⟩
    rintro rfl
    have found : lookup region k = some v := h.placed.lookup_eq_some_iff.mpr ⟨i, stored⟩
    rw [← h.lookup_eq, found] at absent
    cases absent

/-- The listing of the slots is the map: a key and its value are in the map exactly if a slot shows
them. -/
theorem mem_slots (h : Holds region contents) (key value : String) :
    contents key = some value ↔
      ∃ info ∈ (List.finRange slotCount).map fun i : Fin slotCount =>
        slotInfo i (tableOf region i), info.key = some key ∧ info.value = some value := by
  rw [← h.lookup_eq, h.placed.lookup_eq_some_iff]
  constructor
  · rintro ⟨i, stored⟩
    refine ⟨_, List.mem_map_of_mem (List.mem_finRange i), ?_⟩
    rw [stored]
    exact ⟨rfl, rfl⟩
  · rintro ⟨info, mem, isKey, isValue⟩
    obtain ⟨i, -, rfl⟩ := List.mem_map.mp mem
    rcases stored : tableOf region i with _ | ⟨k, v⟩ <;> rw [stored] at isKey isValue
    · cases isKey
    · cases isKey
      cases isValue
      exact ⟨i, stored⟩

/-- What a request leaves: an answer that the map demands, and the next map. -/
def Responds (contents : String → Option String) (request : Request)
    (out : Outcome Empty Response × Bytes) : Prop :=
  ∃ response, out.1 = .ok response ∧ Answers contents request response ∧
    Holds out.2 (next contents request response)

theorem responds_put (h : Holds region contents) (kv : KvStore) (key value : String) :
    Responds contents (.putKey key value) (step kv region (.putKey key value)) := by
  by_cases longKey : maxKeyLen < (utf8Bytes key).length
  · rw [step_put (.error .keyTooLong) (by rw [put, if_pos longKey, Method.run_throw]; rfl) kv]
    refine ⟨_, rfl, ?_, h⟩
    rw [Answers, if_pos longKey]
    rfl
  by_cases longValue : maxValueLen < (utf8Bytes value).length
  · rw [step_put (.error .valueTooLong)
      (by rw [put, if_neg longKey, if_pos longValue, Method.run_throw]; rfl) kv]
    refine ⟨_, rfl, ?_, h⟩
    rw [Answers, if_neg longKey, if_pos longValue]
    rfl
  have fitsKey := Nat.not_lt.mp longKey
  have fitsValue := Nat.not_lt.mp longValue
  -- from here on only the table can refuse, and it does so exactly if the contents are full for the
  -- key
  have full := full_iff h key
  rw [Responds]
  simp only [Answers, if_neg longKey, if_neg longValue, ← full]
  rcases land : landing region key with _ | m
  · rw [step_put (.error .tableFull) (run_put_full h.wf fitsKey fitsValue land) kv]
    exact ⟨_, rfl, ⟨fun _ => rfl, fun room => absurd rfl room⟩, h⟩
  · obtain ⟨region', run, wf, table⟩ := run_put h.wf fitsKey fitsValue land
    rw [step_put (.ok _) run kv]
    refine ⟨_, rfl, ⟨fun stuck => absurd stuck (Option.some_ne_none m), fun _ =>
      ⟨_, rfl, rfl, rfl, ?_⟩⟩, wf, ?_, ?_⟩
    · rw [← h.lookup_eq, lookup_of_landing land, Option.isSome_map]
    · rw [table]
      exact h.placed.set land value
    · show Probe.lookup path slotCount (tableOf region') = Function.update contents key (some value)
      rw [table, h.placed.lookup_set land value, ← h.lookup_eq]

theorem responds_get (h : Holds region contents) (kv : KvStore) (key : String) :
    Responds contents (.getKey key) (step kv region (.getKey key)) := by
  rw [Responds]
  rcases found : contents key with _ | value
  · obtain ⟨result, run, isNone⟩ := run_get h.wf key
    rw [h.lookup_eq, found, Option.map_eq_none_iff] at isNone
    subst isNone
    rw [step_get none run kv]
    refine ⟨_, rfl, ?_, h⟩
    rw [Answers, found]
    rfl
  · obtain ⟨m, land, slot⟩ := h.landing_of_contents found
    obtain ⟨lines, run⟩ := run_get_found h.wf land slot
    rw [step_get _ run kv]
    refine ⟨_, rfl, ?_, h⟩
    rw [Answers, found]
    exact ⟨_, rfl, rfl, rfl⟩

theorem responds_delete (h : Holds region contents) (kv : KvStore) {key : String}
    (safe : ¬ Hides region (.deleteKey key)) :
    Responds contents (.deleteKey key) (step kv region (.deleteKey key)) := by
  rw [Responds]
  rcases found : contents key with _ | value
  · obtain ⟨result, run, absent⟩ := run_delete_absent h.wf (by rw [h.lookup_eq, found])
    rw [step_delete result run kv, deleteResponse, absent, if_neg Bool.false_ne_true]
    refine ⟨_, rfl, ?_, h⟩
    rw [Answers, found]
  · obtain ⟨m, land, slot⟩ := h.landing_of_contents found
    obtain ⟨region', run, wf, table⟩ := run_delete_found h.wf land slot
    have unshielding : ¬ Probe.Shields path slotCount (tableOf region) key (path key m) :=
      fun shields => safe ⟨_, value, slot, shields⟩
    rw [step_delete _ run kv]
    refine ⟨_, rfl, ?_, wf, ?_, ?_⟩
    · rw [Answers, found]
      exact ⟨_, rfl, rfl⟩
    · rw [table]
      exact h.placed.clear slot unshielding
    · show Probe.lookup path slotCount (tableOf region') = Function.update contents key none
      rw [table, h.placed.lookup_clear slot unshielding, ← h.lookup_eq]

/-- **One request** is answered as the map demands, and leaves a region that holds the next map. -/
theorem responds (h : Holds region contents) (kv : KvStore) {request : Request}
    (safe : ¬ Hides region request) : Responds contents request (step kv region request) := by
  cases request with
  | putKey key value => exact responds_put h kv key value
  | getKey key => exact responds_get h kv key
  | deleteKey key => exact responds_delete h kv safe
  | getSlots =>
      rw [step_slots _ (run_dumpSlots h.wf) kv]
      refine ⟨_, rfl, ⟨_, rfl, ?_, mem_slots h⟩, h⟩
      rw [List.length_map, List.length_finRange]
  | getStats => exact ⟨_, rfl, rfl, h⟩

/-- **All requests** are answered in this way, one after the other, if none of them hides a key at
its turn. -/
theorem allAnswered {requests : List Request} {responses : List Response} {kv : KvStore}
    (h : Holds region contents)
    (safe : Machine.Always (step kv) (fun region request => ¬ Hides region request) region requests)
    (outputs : responses.map .ok = Machine.outputs (step kv) region requests) :
    AllAnswered contents requests responses := by
  induction requests generalizing region contents responses with
  | nil =>
      rw [Machine.outputs, List.map_eq_nil_iff] at outputs
      subst outputs
      trivial
  | cons request rest ih =>
      obtain ⟨response, answered, answers, held⟩ := responds h kv safe.1
      rw [Machine.outputs, answered] at outputs
      obtain ⟨first, others, rfl, same, later⟩ := List.map_eq_cons_iff.mp outputs
      cases same
      exact ⟨answers, ih held safe.2 later⟩

end Map

/-! ### The whole stack -/

section Stack

variable {transport : Transport} {config : ServerConfig} {readings : Readings} {cqCapacity : ℕ}
  {requests : List Request}

/-- The run of the service, when its calls are function calls. -/
theorem yields_main (admits : Admits transport config) (keys : DrawsKeys readings)
    (capacity : 0 < cqCapacity) (few : (slotCount + 1) * requests.length + 1 < 2 ^ 64)
    (now : ℕ) (sessionId : UInt32) :
    ∃ kv responses kv' d, (main sessionId requests).Yields (Direct.call readings) Direct.Admits
        (.start transport config now sessionId cqCapacity) (.ok responses) d ∧
      Attached kv 0 kv' d (Machine.exec (step kv) emptyRegion requests) ∧
      responses.map .ok = Machine.outputs (step kv) emptyRegion requests ∧
      ∀ response ∈ responses, response.status ≠ .internalServerError := by
  obtain ⟨kv, d, created, attached⟩ := yields_create admits keys capacity now sessionId
  have ready := attached _ few
  rw [← Nat.zero_add ((slotCount + 1) * requests.length)] at ready
  obtain ⟨responses, kv', d', yields, attached', outputs, served⟩ :=
    performs_all readings requests wellFormed_emptyRegion ready
  exact ⟨kv, responses, kv', d', created.bind (yields.bind (.done _ _)), attached', outputs, served⟩

end Stack

/-- **Every request is served.**  In every schedule of the client's and the server's turns the
service answers all requests, none with an internal error; the answers are those of the store on its
region, and the region is what the server's memory holds in the end.

* `admits`: the server has room for the two registrations of the store and lets it read, and the
  transport takes a frame with a slot in it.
* `keys`: the server's generator draws an unused R_Key for each of the two registrations.
* `capacity`: the completion queue can hold one entry.
* `few`: the counter of work requests does not overflow.  A request needs at most one for each slot,
  and one more. -/
theorem requests_served {transport : Transport} {config : ServerConfig}
    (admits : Admits transport config) {readings : Readings} (keys : DrawsKeys readings)
    {cqCapacity : ℕ} (capacity : 0 < cqCapacity) {requests : List Request}
    (few : (slotCount + 1) * requests.length + 1 < 2 ^ 64) (now : ℕ) (draws : ℕ → UInt32)
    (sessionId : UInt32) :
    Settles (Deployment.Turn readings)
      (.launch transport config now draws sessionId cqCapacity (main sessionId requests))
      fun final => ∃ kv responses, final.program = .done (.ok responses) ∧
        responses.map .ok = Machine.outputs (step kv) emptyRegion requests ∧
        (∀ response ∈ responses, response.status ≠ .internalServerError) ∧
        final.net.server.session.memoryStore.toMemory kv.remoteRkey
          = some ⟨.remoteWrite ||| .remoteRead, Machine.exec (step kv) emptyRegion requests⟩ := by
  obtain ⟨kv, responses, kv', d, yields, attached, outputs, served⟩ :=
    yields_main admits keys capacity few now sessionId
  refine Deployment.settles_of_yields yields attached.running draws fun final done held =>
    ⟨kv, responses, done, outputs, served, ?_⟩
  have same : kv'.remoteRkey = kv.remoteRkey := by rw [← attached.identity]
  have store : final.net.server.session.memoryStore = d.backend.memoryStore :=
    congrArg Backend.memoryStore held
  rw [store, ← same]
  exact attached.backs.table

/-- A generator that counts, and so never draws a key twice. -/
def counting : Readings := fun _ => (0, fun i => UInt32.ofNat (i + 1))

/-- It draws fresh keys for the two registrations. -/
theorem drawsKeys_counting : DrawsKeys counting :=
  ⟨Nat.zero_lt_one.trans MemoryStore.one_lt_card_drawable, MemoryStore.one_lt_card_drawable⟩

/-- The default configuration has room for the store, and the WebSocket takes its slots. -/
theorem admits_default : Admits .standard {} :=
  ⟨by decide, by decide, by decide, by decide, by decide⟩

/-- A key is put and read back, in the default configuration and with a generator that counts: the
conditions can be met. -/
theorem requests_served_default :
    Settles (Deployment.Turn counting)
      (.launch .standard {} 0 (counting 0).2 7 128 (main 7 [.putKey "k" "v", .getKey "k"]))
      fun final => ∃ kv responses, final.program = .done (.ok responses) ∧
        responses.map .ok = Machine.outputs (step kv) emptyRegion [.putKey "k" "v", .getKey "k"] ∧
        (∀ response ∈ responses, response.status ≠ .internalServerError) ∧
        final.net.server.session.memoryStore.toMemory kv.remoteRkey
          = some ⟨.remoteWrite ||| .remoteRead,
              Machine.exec (step kv) emptyRegion [.putKey "k" "v", .getKey "k"]⟩ :=
  requests_served admits_default drawsKeys_counting (by decide) (by decide) 0 (counting 0).2 7

/-- **The service is a finite map.**  In every schedule the answers to the requests are those of a
map with room for 64 keys.

The conditions are those of `requests_served` and one more, `safe`: no deletion empties a slot on
the way to another key.  Probing would stop there, and the other key would be lost. -/
theorem requests_answered_as_map {transport : Transport} {config : ServerConfig}
    (admits : Admits transport config) {readings : Readings} (keys : DrawsKeys readings)
    {cqCapacity : ℕ} (capacity : 0 < cqCapacity) {requests : List Request}
    (few : (slotCount + 1) * requests.length + 1 < 2 ^ 64)
    (safe : ∀ kv,
      Machine.Always (step kv) (fun region request => ¬ Hides region request) emptyRegion requests)
    (now : ℕ) (draws : ℕ → UInt32) (sessionId : UInt32) :
    Settles (Deployment.Turn readings)
      (.launch transport config now draws sessionId cqCapacity (main sessionId requests))
      fun final => ∃ responses, final.program = .done (.ok responses) ∧
        AllAnswered (fun _ => none) requests responses := by
  obtain ⟨kv, responses, kv', d, yields, attached, outputs, -⟩ :=
    yields_main admits keys capacity few now sessionId
  exact Deployment.settles_of_yields yields attached.running draws fun final done _ =>
    ⟨responses, done, allAnswered .empty (safe kv) outputs⟩

/-- A key that is not there is deleted, then it is put, read back and listed: four kinds of request,
none of which hides a key. -/
theorem requests_answered_as_map_default :
    Settles (Deployment.Turn counting)
      (.launch .standard {} 0 (counting 0).2 7 128
        (main 7 [.deleteKey "k", .putKey "k" "v", .getKey "k", .getSlots]))
      fun final => ∃ responses, final.program = .done (.ok responses) ∧
        AllAnswered (fun _ => none) [.deleteKey "k", .putKey "k" "v", .getKey "k", .getSlots]
          responses := by
  have absent : ¬ Hides emptyRegion (.deleteKey "k") := by
    rintro ⟨i, value, stored, -⟩
    rw [tableOf_emptyRegion] at stored
    cases stored
  have safe : ∀ kv, Machine.Always (step kv) (fun region request => ¬ Hides region request)
      emptyRegion [.deleteKey "k", .putKey "k" "v", .getKey "k", .getSlots] :=
    fun kv => ⟨absent, id, id, id, trivial⟩
  exact requests_answered_as_map admits_default drawsKeys_counting (by decide) (by decide) safe 0
    (counting 0).2 7

end Api

end Kv

end Rdows
