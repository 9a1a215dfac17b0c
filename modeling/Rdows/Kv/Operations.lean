import Rdows.Kv.StoreRefinement

/-!
# The operations of the key-value store, slot by slot

The three probe loops on any table whose slots are zero or encoded entries, however it came about:
keys may be stored twice or be hidden behind an emptied slot, as after unlucky deletions
(`StoreRefinement`).  Each operation then looks at the first slot on the key's way that is empty or
holds the key (`FirstAt`), and at most that slot is written.

## Why not as a map

As a map the store is only right as long as no deletion hides another key.  What a single operation
does is right on every table, and this is what the results here say: where `put` writes and when it
finds no room, that a `put` is read back by the next `get`, what `delete` zeroes, and that a failed
operation changes nothing (`OnlySlot`, `Crowded`).  None of it needs the keys to be unique.

`wellFormed_after` says that the calls themselves never leave this class of tables, so the results
hold at every point of every run, also behind a deletion that has hidden a key.

The example is a table with two keys of the same home slot, of which the second is stored behind the
first (`collidingPuts`).
-/

namespace Rdows

open Rust

namespace Kv

variable {region : Bytes} {key value : String}

/-- The region differs from the one before in one slot at most, which has the given bytes.  All
other slots are untouched, byte by byte. -/
structure OnlySlot (before after : Bytes) (i : Fin slotCount) (slot : Bytes) : Prop where
  length : after.length = before.length
  written : slotAt after i = slot
  others : ∀ j ≠ i, slotAt after j = slotAt before j

theorem WellFormed.onlySlot (wf : WellFormed region) {slot : Bytes}
    (whole : slot.length = slotSize) (i : Fin slotCount) :
    OnlySlot region (withSlot region i slot) i slot where
  length := by
    rw [withSlot, length_splice]
    rw [whole]
    exact slot_inside wf.length i
  written := by rw [slotAt_splice wf.length whole, if_pos rfl]
  others j other := by rw [slotAt_splice wf.length whole, if_neg other]

/-! ### Where probing stops -/

/-- The slot at step `m` of probing for the key is the first one that is empty or holds the key.  It
is determined by the table and the key (`FirstAt.unique`). -/
structure FirstAt (region : Bytes) (key : String) (m : ℕ) : Prop where
  inside : m < slotCount
  stops : tableOf region (path key m) = none ∨ ∃ v, tableOf region (path key m) = some (key, v)
  earlier : ∀ l < m, ∃ k v, tableOf region (path key l) = some (k, v) ∧ k ≠ key

/-- All slots hold keys other than this one, so there is neither the key nor room for it. -/
def Crowded (region : Bytes) (key : String) : Prop :=
  ∀ i, ∃ k v, tableOf region i = some (k, v) ∧ k ≠ key

theorem firstAt_of_landing {m : ℕ} (land : landing region key = some m) :
    FirstAt region key m :=
  ⟨(Probe.landing_eq_some.mp land).1, Probe.stops_iff.mp (Probe.landing_eq_some.mp land).2.1,
    fun _ before => Probe.exists_of_lt_landing land before⟩

/-- Probing does not stop on the way to where it stops. -/
theorem FirstAt.not_lt {m n : ℕ} (first : FirstAt region key m) (other : FirstAt region key n) :
    ¬ m < n := by
  intro before
  obtain ⟨k, v, stored, differs⟩ := other.earlier m before
  rcases first.stops with empty | ⟨v', holds⟩
  · rw [stored] at empty
    cases empty
  · rw [stored] at holds
    cases holds
    exact differs rfl

theorem FirstAt.unique {m n : ℕ} (first : FirstAt region key m) (other : FirstAt region key n) :
    m = n :=
  Nat.le_antisymm (Nat.not_lt.mp (other.not_lt first)) (Nat.not_lt.mp (first.not_lt other))

/-- Probing visits every slot, because it wraps around and takes as many steps as there are
slots. -/
theorem exists_path_eq (key : String) (i : Fin slotCount) : ∃ m < slotCount, path key m = i := by
  have home : hashKey (utf8Bytes key) < 64 := Nat.mod_lt _ (by decide)
  have here : (i : ℕ) < 64 := i.isLt
  refine ⟨(i + 64 - hashKey (utf8Bytes key)) % 64, Nat.mod_lt _ (by decide), Fin.ext ?_⟩
  show (hashKey (utf8Bytes key) + (i + 64 - hashKey (utf8Bytes key)) % 64) % 64 = i
  omega

theorem landing_eq_none_iff : landing region key = none ↔ Crowded region key := by
  rw [landing, Probe.landing_eq_none]
  constructor
  · intro all i
    obtain ⟨m, inside, rfl⟩ := exists_path_eq key i
    exact all m inside
  · intro all m _
    exact all (path key m)

/-! ### The operations -/

/-- A put that fails changes nothing. -/
theorem run_put_of_err (wf : WellFormed region) {e : KvError}
    (failed : ((put key value).run region).1 = .err e) :
    ((put key value).run region).2 = region := by
  by_cases longKey : (utf8Bytes key).length > maxKeyLen
  · rw [put, if_pos longKey, Method.run_throw]
  by_cases longValue : (utf8Bytes value).length > maxValueLen
  · rw [put, if_neg longKey, if_pos longValue, Method.run_throw]
  rcases land : landing region key with _ | m
  · rw [run_put_full wf (Nat.not_lt.mp longKey) (Nat.not_lt.mp longValue) land]
  · obtain ⟨region', run, -, -⟩ := run_put wf (Nat.not_lt.mp longKey) (Nat.not_lt.mp longValue) land
    rw [run] at failed
    cases failed

/-- A put is read back from the slot it wrote. -/
theorem run_put_get (wf : WellFormed region) {slot : Bytes}
    (encodes : Encodes slot (some (key, value))) {m : ℕ} (land : landing region key = some m) :
    ∃ r g, (put key value).run region = (.ok r, withSlot region (path key m) slot) ∧
      r.slot = path key m ∧ r.probes = m + 1 ∧
      (get key).run (withSlot region (path key m) slot)
        = (.ok (some g), withSlot region (path key m) slot) ∧
      g.value = value ∧ g.slot = r.slot ∧ g.probes = r.probes := by
  obtain ⟨wf', table⟩ := wf.write encodes (path key m)
  have land' : landing (withSlot region (path key m) slot) key = some m := by
    rw [landing, table]
    exact Probe.landing_set land value
  have stored : tableOf (withSlot region (path key m) slot) (path key m) = some (key, value) := by
    rw [table, Function.update_self]
  obtain ⟨lines, read⟩ := run_get_found wf' land' stored
  exact ⟨_, _, run_put_encoded wf encodes land, rfl, rfl, read, rfl, rfl, rfl⟩

/-! ### Reachable tables -/

/-- The outcome is no panic, and the region is a table of zero slots and encoded entries.  Errors
are allowed. -/
def Sound {α : Type} (out : Outcome KvError α × Bytes) : Prop :=
  ¬ out.1.IsPanic ∧ WellFormed out.2

theorem WellFormed.put (wf : WellFormed region) (key value : String) :
    Sound ((put key value).run region) := by
  by_cases longKey : (utf8Bytes key).length > maxKeyLen
  · rw [Kv.put, if_pos longKey, Method.run_throw]
    exact ⟨id, wf⟩
  by_cases longValue : (utf8Bytes value).length > maxValueLen
  · rw [Kv.put, if_neg longKey, if_pos longValue, Method.run_throw]
    exact ⟨id, wf⟩
  rcases land : landing region key with _ | m
  · rw [run_put_full wf (Nat.not_lt.mp longKey) (Nat.not_lt.mp longValue) land]
    exact ⟨id, wf⟩
  · obtain ⟨region', run, wf', -⟩ :=
      run_put wf (Nat.not_lt.mp longKey) (Nat.not_lt.mp longValue) land
    rw [run]
    exact ⟨id, wf'⟩

theorem WellFormed.get (wf : WellFormed region) (key : String) :
    Sound ((get key).run region) := by
  obtain ⟨result, run, -⟩ := run_get wf key
  rw [run]
  exact ⟨id, wf⟩

theorem WellFormed.delete (wf : WellFormed region) (key : String) :
    Sound ((delete key).run region) := by
  rcases found : lookup region key with _ | v
  · obtain ⟨result, run, -⟩ := run_delete_absent wf found
    rw [run]
    exact ⟨id, wf⟩
  · obtain ⟨m, land, slot⟩ := Probe.landing_of_lookup found
    obtain ⟨region', run, wf', -⟩ := run_delete_found wf land slot
    rw [run]
    exact ⟨id, wf'⟩

theorem WellFormed.step (wf : WellFormed region) (op : KvOp) : WellFormed (step region op).2 := by
  cases op with
  | put key value => exact (wf.put key value).2
  | get key => exact (wf.get key).2
  | delete key => exact (wf.delete key).2

/-- Every table that calls lead to is one of zero slots and encoded entries, also after a deletion
that hides another key.  So what is proved here of such tables holds at every point of every run. -/
theorem wellFormed_after (ops : List KvOp) : WellFormed (after ops) :=
  Machine.exec_induction wellFormed_emptyRegion (fun _ op wf => wf.step op) ops

/-! ### The result -/

/-- **The operations of the store**, on every table of zero slots and encoded entries.

* A put within the limits finds no room exactly if all slots hold other keys.  Otherwise it writes
  the first slot on the key's way that is empty or holds the key and nothing else, and the next get
  returns the value from that slot, after as many probes.
* A delete that found the key zeroes one slot that held it and nothing else.
* A put that fails, a get, and a delete that did not find the key leave the region as it was. -/
theorem operations_exact (wf : WellFormed region) (key value : String) :
    ((utf8Bytes key).length ≤ maxKeyLen → (utf8Bytes value).length ≤ maxValueLen →
      (((put key value).run region).1 = .err .tableFull ↔ Crowded region key) ∧
      (¬ Crowded region key → ∃ m r region' slot g, FirstAt region key m ∧
        (put key value).run region = (.ok r, region') ∧ encodeSlot key value = .ok slot ∧
        OnlySlot region region' (path key m) slot ∧ r.slot = path key m ∧ r.probes = m + 1 ∧
        (get key).run region' = (.ok (some g), region') ∧ g.value = value ∧ g.slot = r.slot ∧
        g.probes = r.probes)) ∧
    (∀ e, ((put key value).run region).1 = .err e → ((put key value).run region).2 = region) ∧
    ((get key).run region).2 = region ∧
    ∃ r region', (delete key).run region = (.ok r, region') ∧
      (r.found = true → ∃ i v, tableOf region i = some (key, v) ∧
        OnlySlot region region' i (List.replicate slotSize 0)) ∧
      (r.found = false → region' = region) := by
  refine ⟨fun hkey hvalue => ⟨⟨?_, ?_⟩, ?_⟩, fun e => run_put_of_err wf, ?_, ?_⟩
  · intro full
    rcases land : landing region key with _ | m
    · exact landing_eq_none_iff.mp land
    · obtain ⟨region', run, -, -⟩ := run_put wf hkey hvalue land
      rw [run] at full
      cases full
  · intro crowded
    rw [run_put_full wf hkey hvalue (landing_eq_none_iff.mpr crowded)]
  · intro room
    -- where a key lands is the first slot of its path that is free or holds the key
    obtain ⟨m, land⟩ := Option.ne_none_iff_exists'.mp fun none => room (landing_eq_none_iff.mp none)
    obtain ⟨slot, encoded, -, -⟩ := decodeSlot_encodeSlot hkey hvalue
    have encodes : Encodes slot (some (key, value)) := ⟨hkey, hvalue, encoded⟩
    obtain ⟨r, g, run, at_slot, probes, read, same⟩ := run_put_get wf encodes land
    exact ⟨m, r, _, slot, g, firstAt_of_landing land, run, encoded,
      wf.onlySlot encodes.length_eq _, at_slot, probes, read, same⟩
  · obtain ⟨result, run, -⟩ := run_get wf key
    rw [run]
  · rcases found : lookup region key with _ | v
    · obtain ⟨r, run, absent⟩ := run_delete_absent wf found
      refine ⟨r, region, run, fun yes => ?_, fun _ => rfl⟩
      rw [absent] at yes
      cases yes
    · obtain ⟨m, land, slot⟩ := Probe.landing_of_lookup found
      exact ⟨_, _, run_delete_zeroes wf land slot, fun _ => ⟨_, v, slot,
        wf.onlySlot List.length_replicate _⟩, fun no => by cases no⟩

/-- Two keys with the same home slot are put, into an empty table. -/
def collidingPuts : List KvOp := collision.take 2

theorem tableOf_step_put (wf : WellFormed region) {key : Key} {value : Value} {m : ℕ}
    (land : landing region key = some m) :
    tableOf (step region (.put key value)).2
      = Function.update (tableOf region) (path key m) (some (key.val, value.val)) := by
  obtain ⟨region', run, -, table⟩ := run_put wf key.2 value.2 land
  rw [step, run]
  exact table

/-- The second one goes to the slot behind the first one's, since its home slot is taken. -/
theorem tableOf_collidingPuts :
    tableOf (after collidingPuts) = Function.update
      (Function.update (fun _ => none) (path "!" 0) (some ("!", "x")))
      (path "a" 1) (some ("a", "y")) := by
  have first : tableOf (step emptyRegion (.put bang ⟨"x", by decide⟩)).2
      = Function.update (fun _ => none) (path "!" 0) (some ("!", "x")) := by
    have land : landing emptyRegion bang = some 0 := by
      rw [landing, tableOf_emptyRegion]
      decide
    rw [tableOf_step_put wellFormed_emptyRegion land, tableOf_emptyRegion]
    rfl
  have land : landing (step emptyRegion (.put bang ⟨"x", by decide⟩)).2 letter = some 1 := by
    rw [landing, first]
    decide
  have puts : collidingPuts = [.put bang ⟨"x", by decide⟩, .put letter ⟨"y", by decide⟩] := rfl
  rw [after, puts, Machine.exec_cons, Machine.exec_cons, Machine.exec_nil,
    tableOf_step_put (wellFormed_emptyRegion.step _) land, first]
  rfl

/-- On the table with the two keys, of which the second is behind the first: a put of the second key
updates it at its second probe and is read back, and a delete finds it and zeroes its slot. -/
theorem operations_exact_collidingPuts :
    (∃ r region' g, (put "a" "z").run (after collidingPuts) = (.ok r, region') ∧ r.probes = 2 ∧
      (get "a").run region' = (.ok (some g), region') ∧ g.value = "z") ∧
    ∃ r region' i v, (delete "a").run (after collidingPuts) = (.ok r, region') ∧ r.found = true ∧
      tableOf (after collidingPuts) i = some ("a", v) ∧
      OnlySlot (after collidingPuts) region' i (List.replicate slotSize 0) := by
  have wf := wellFormed_after collidingPuts
  -- both keys have the same path; the first slot is taken, so `"a"` is in the second one
  have stored : tableOf (after collidingPuts) (path "a" 1) = some ("a", "y") := by
    rw [tableOf_collidingPuts]
    decide
  have room : ¬ Crowded (after collidingPuts) "a" := fun crowded => by
    obtain ⟨k, v, holds, other⟩ := crowded (path "a" 1)
    rw [stored] at holds
    cases holds
    exact other rfl
  have land : landing (after collidingPuts) "a" = some 1 := by
    rw [landing, tableOf_collidingPuts]
    decide
  obtain ⟨puts, -, -, r, region', run, deleted, -⟩ := operations_exact wf "a" "z"
  refine ⟨?_, ?_⟩
  · obtain ⟨m, r, region', slot, g, first, run, -, -, -, probes, read, same, -⟩ :=
      (puts (by decide) (by decide)).2 room
    refine ⟨r, region', g, run, ?_, read, same⟩
    rw [probes, first.unique (firstAt_of_landing land)]
  · have found : r.found = true := by
      have exactly := run_delete_zeroes wf land stored
      rw [run] at exactly
      cases exactly
      rfl
    obtain ⟨i, v, holds, only⟩ := deleted found
    exact ⟨r, region', i, v, run, found, holds, only⟩

end Kv

end Rdows
