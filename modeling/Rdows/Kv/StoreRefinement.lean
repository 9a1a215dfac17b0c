import Rdows.Kv.Store
import Rdows.Lib.Run

/-!
# The key-value store as a finite map

What the store is for: a finite map from keys to values.  `held seen` is that map as the calls seen
so far determine it, and `Answers` says that a call was answered as the map demands.

## The exact condition

The store is such a map for as long as no deletion empties a slot that another key's probing has to
pass (`Shielding`): `delete` leaves no marker behind, so a later lookup of the other key stops at
the emptied slot.  `answersAsMap_iff` states that this is the exact condition.  Its two halves are
`Holds.next`, the simulation of the map by the table over one safe call, and
`Holds.exists_unanswered`, the call that goes wrong after an unsafe one.

"At every point of the run, whatever is called next" is essential to it: a hidden key does no harm
until someone asks for it, and a run in which no one does would be answered correctly by accident.

## The counterexample

Two keys of one byte have the same home slot.  The first is put there and the second behind it; when
the first is deleted, the second is not found any more (`delete_hides_colliding_key`).  Three calls
are enough, and the table is nearly empty.

Keys and values are subtypes that fit (`Key`, `Value`), so that a call cannot fail for its length;
calls with strings that are too long are refused by `put` without effect.
-/

namespace Rdows

open Rust

namespace Kv

/-- A key that fits, by the limit that `put` checks. -/
abbrev Key := { key : String // (utf8Bytes key).length ≤ maxKeyLen }

/-- A value that fits, by the limit that `put` checks. -/
abbrev Value := { value : String // (utf8Bytes value).length ≤ maxValueLen }

/-- A call to the store, on a key that fits. -/
inductive KvOp where
  | put (key : Key) (value : Value)
  | get (key : Key)
  | delete (key : Key)

/-- How a call ended, without the facts about the operation that go with it. -/
inductive KvAnswer where
  | put (result : Outcome KvError PutResult)
  | get (result : Outcome KvError (Option GetResult))
  | delete (result : Outcome KvError DeleteResult)
  deriving DecidableEq

/-- The store's response to one call, on the region as its receiver. -/
def step (region : Bytes) : KvOp → KvAnswer × Bytes
  | .put key value =>
      let out := (put key value).run region
      (.put out.1, out.2)
  | .get key =>
      let out := (get key).run region
      (.get out.1, out.2)
  | .delete key =>
      let out := (delete key).run region
      (.delete out.1, out.2)

/-- The freshly registered region: the server fills new regions with zeros. -/
def emptyRegion : Bytes := List.replicate mrSize 0

/-- The region after a list of calls. -/
abbrev after (ops : List KvOp) : Bytes := Machine.exec step emptyRegion ops

/-- The calls and their answers, most recent first. -/
abbrev seen (ops : List KvOp) : List (KvOp × KvAnswer) := Machine.history step emptyRegion ops

/-- The map after the calls seen: the most recent successful `put` or `delete` on a key decides.  A
`delete` succeeds also if it found nothing. -/
def held : List (KvOp × KvAnswer) → String → Option String
  | [] => fun _ => none
  | (.put key value, .put (.ok _)) :: rest => Function.update (held rest) key (some value)
  | (.delete key, .delete (.ok _)) :: rest => Function.update (held rest) key none
  | _ :: rest => held rest

/-- A call is answered as the map `contents` demands.  `put` may find no room, but only for a
key that is not in the map. -/
def Answers (contents : String → Option String) : KvOp → KvAnswer → Prop
  | .put key _, .put result =>
      (∃ r, result = .ok r ∧ r.update = (contents key).isSome) ∨
        (result = .err .tableFull ∧ contents key = none)
  | .get key, .get result => ∃ r, result = .ok r ∧ r.map GetResult.value = contents key
  | .delete key, .delete result => ∃ r, result = .ok r ∧ r.found = (contents key).isSome
  | _, _ => False

/-- At every point of the run, whatever is called next is answered as the map demands. -/
def AnswersAsMap (ops : List KvOp) : Prop :=
  ∀ front, front <+: ops → ∀ next, Answers (held (seen front)) next (step (after front) next).1

/-- The call deletes a key from a slot that lies on the way to another stored key. -/
def Shielding (region : Bytes) : KvOp → Prop
  | .delete key => ∃ i value, tableOf region i = some (key.val, value) ∧
      Probe.Shields path slotCount (tableOf region) key i
  | _ => False

/-! ### The table simulates the map -/

/-- Every slot of the empty region is zero. -/
theorem slotAt_emptyRegion (i : Fin slotCount) :
    slotAt emptyRegion i = List.replicate slotSize 0 := by
  have inside : i * slotSize + slotSize ≤ emptyRegion.length :=
    slot_inside List.length_replicate i
  rw [emptyRegion, List.length_replicate] at inside
  rw [slotAt, emptyRegion, List.drop_replicate, List.take_replicate,
    Nat.min_eq_left (Nat.le_sub_of_add_le' inside)]

theorem tableOf_emptyRegion : tableOf emptyRegion = fun _ => none := by
  funext i
  rw [tableOf, slotAt_emptyRegion, decodeSlot_zeros]

theorem wellFormed_emptyRegion : WellFormed emptyRegion := by
  refine ⟨List.length_replicate, fun i => ?_⟩
  rw [tableOf_emptyRegion]
  exact slotAt_emptyRegion i

/-- The region is a table that holds exactly the map `contents`: every stored key is found, and with
the value of the map. -/
structure Holds (region : Bytes) (contents : String → Option String) : Prop where
  wf : WellFormed region
  placed : Probe.WellPlaced path slotCount (tableOf region)
  lookup_eq : lookup region = contents

namespace Holds

variable {region : Bytes} {contents : String → Option String}

/-- The empty region holds the empty map. -/
theorem empty : Holds emptyRegion fun _ => none := by
  refine ⟨wellFormed_emptyRegion, fun i k v h => ?_, ?_⟩
  · rw [tableOf_emptyRegion] at h
    cases h
  · funext k
    rcases found : lookup emptyRegion k with _ | v
    · rfl
    · obtain ⟨i, h⟩ := Probe.exists_of_lookup found
      rw [tableOf_emptyRegion] at h
      cases h

/-- A key of the map is stored where probing for it stops. -/
theorem landing_of_contents (h : Holds region contents) {key value : String}
    (found : contents key = some value) :
    ∃ m, landing region key = some m ∧ tableOf region (path key m) = some (key, value) := by
  rw [← h.lookup_eq] at found
  exact Probe.landing_of_lookup found

/-- A stored key fits. -/
theorem fits (h : Holds region contents) {key value : String}
    (found : contents key = some value) : (utf8Bytes key).length ≤ maxKeyLen := by
  obtain ⟨m, -, slot⟩ := h.landing_of_contents found
  have encoded := h.wf.slots (path key m)
  rw [slot] at encoded
  exact encoded.1

/-- **One call is answered as the map demands**, on a region that holds the map.  This needs no
condition on the call; only what it leaves behind does. -/
theorem answers (h : Holds region contents) (op : KvOp) :
    Answers contents op (step region op).1 := by
  cases op with
  | put key value =>
      -- a probe sequence without a place for the key does not hold the key
      rcases land : landing region key with _ | m
      · right
        refine ⟨by rw [run_put_full h.wf key.2 value.2 land], ?_⟩
        rw [← h.lookup_eq, lookup_of_exhausted land]
      · left
        obtain ⟨region', run, -, -⟩ := run_put h.wf key.2 value.2 land
        refine ⟨_, by rw [run], ?_⟩
        rw [← h.lookup_eq, lookup_of_landing land, Option.isSome_map]
  | get key =>
      obtain ⟨result, run, value⟩ := run_get h.wf key.val
      exact ⟨result, by rw [run], by rw [value, h.lookup_eq]⟩
  | delete key =>
      rcases found : contents key with _ | v
      · obtain ⟨result, run, absent⟩ := run_delete_absent h.wf (by rw [h.lookup_eq, found])
        exact ⟨result, by rw [run], by rw [absent, found, Option.isSome_none]⟩
      · obtain ⟨m, land, slot⟩ := h.landing_of_contents found
        obtain ⟨region', run, -, -⟩ := run_delete_found h.wf land slot
        exact ⟨_, by rw [run], by rw [found, Option.isSome_some]⟩

variable {earlier : List (KvOp × KvAnswer)}

/-- **One step of the simulation.**  A call that empties no slot on the way to another key
takes the table that holds the map to the table that holds the next map. -/
theorem next (h : Holds region (held earlier)) {op : KvOp} (safe : ¬ Shielding region op) :
    Holds (step region op).2 (held ((op, (step region op).1) :: earlier)) := by
  cases op with
  | put key value =>
      rw [step]
      rcases land : landing region key with _ | m
      · rw [run_put_full h.wf key.2 value.2 land]
        exact h
      · obtain ⟨region', run, wf, table⟩ := run_put h.wf key.2 value.2 land
        rw [run]
        refine ⟨wf, ?_, ?_⟩
        · rw [table]
          exact h.placed.set land value.val
        · show Probe.lookup path slotCount (tableOf region') = Function.update (held earlier) _ _
          rw [table, h.placed.lookup_set land value.val, ← h.lookup_eq]
  | get key =>
      obtain ⟨result, run, -⟩ := run_get h.wf key.val
      rw [step, run]
      exact h
  | delete key =>
      rw [step]
      rcases found : held earlier key with _ | v
      · obtain ⟨result, run, -⟩ := run_delete_absent h.wf (by rw [h.lookup_eq, found])
        rw [run]
        have same : Function.update (held earlier) key none = held earlier := by
          rw [← found, Function.update_eq_self]
        exact ⟨h.wf, h.placed, h.lookup_eq.trans same.symm⟩
      · obtain ⟨m, land, slot⟩ := h.landing_of_contents found
        obtain ⟨region', run, wf, table⟩ := run_delete_found h.wf land slot
        -- the slot may be emptied: no other key was placed behind it on its path
        have unshielding : ¬ Probe.Shields path slotCount (tableOf region) key.val (path key m) :=
          fun shields => safe ⟨_, v, slot, shields⟩
        rw [run]
        refine ⟨wf, ?_, ?_⟩
        · rw [table]
          exact h.placed.clear slot unshielding
        · show Probe.lookup path slotCount (tableOf region') = Function.update (held earlier) _ _
          rw [table, h.placed.lookup_clear slot unshielding, ← h.lookup_eq]

/-- **The call that goes wrong.**  After a deletion that empties a slot on the way to another
key, a lookup of that key fails. -/
theorem exists_unanswered (h : Holds region (held earlier)) {op : KvOp}
    (shielding : Shielding region op) :
    ∃ next, ¬ Answers (held ((op, (step region op).1) :: earlier)) next
      (step (step region op).2 next).1 := by
  cases op with
  | put key value => exact shielding.elim
  | get key => exact shielding.elim
  | delete key =>
      obtain ⟨i, v, slot, shields⟩ := shielding
      obtain ⟨m, land, rfl⟩ := h.placed i key v slot
      obtain ⟨region', run, wf, table⟩ := run_delete_found h.wf land slot
      obtain ⟨other, v', different, stored, lost⟩ := h.placed.exists_lost shields
      have kept : held earlier other = some v' := by rw [← h.lookup_eq, ← stored]
      obtain ⟨result, run_other, value⟩ := run_get wf other
      obtain ⟨r, deleted⟩ : ∃ r, step region (.delete key) = (.delete (.ok r), region') :=
        ⟨_, by rw [step, run]⟩
      -- the next operation asks for the key that the emptied slot cuts off
      refine ⟨.get ⟨other, h.fits kept⟩, ?_⟩
      rw [deleted]
      dsimp only
      rw [step, run_other]
      rintro ⟨r, same, answer⟩
      cases same
      rw [value, lookup, table, lost, held, Function.update_of_ne different, kept] at answer
      cases answer

end Holds

/-! ### Whole runs -/

/-- In every run without an unsafe deletion the region holds the map.  The induction is over the
run, with `Holds.next` as its step. -/
theorem holds_after {ops : List KvOp}
    (safe : Machine.Always step (fun region op => ¬ Shielding region op) emptyRegion ops) :
    Holds (after ops) (held (seen ops)) := by
  refine Machine.always_induction (P := fun seen region => Holds region (held seen)) ?_ ?_ safe
  · exact Holds.empty
  · intro seen region op last holds
    exact holds.next last

/-- **The store is a finite map exactly as long as no deletion hides another key.**  At every
point of a run every next call is answered as the map of the successful puts and deletes
demands, if and only if no `delete` of the run emptied a slot on the way to another stored
key. -/
theorem answersAsMap_iff (ops : List KvOp) :
    AnswersAsMap ops ↔
      Machine.Always step (fun region op => ¬ Shielding region op) emptyRegion ops := by
  constructor
  · intro answered
    induction ops using List.reverseRecOn with
    | nil => trivial
    | append_singleton ops op ih =>
        have before := ih fun front hfront next =>
          answered front (hfront.trans (List.prefix_append _ _)) next
        refine (Machine.always_concat step).mpr ⟨before, fun shielding => ?_⟩
        obtain ⟨next, wrong⟩ := (holds_after before).exists_unanswered shielding
        have right := answered (ops ++ [op]) List.prefix_rfl next
        rw [seen, after, Machine.history_concat, Machine.exec_concat] at right
        exact wrong right
  · rintro safe front ⟨rest, rfl⟩ next
    exact (holds_after ((Machine.always_append step).mp safe).1).answers next

/-- Two keys with the same home slot. -/
def bang : Key := ⟨"!", by decide⟩

@[inherit_doc bang]
def letter : Key := ⟨"a", by decide⟩

/-- Both keys are put, then the first one is deleted.  The second was placed behind it and loses its
way. -/
def collision : List KvOp :=
  [.put bang ⟨"x", by decide⟩, .put letter ⟨"y", by decide⟩, .delete bang]

/-- After `collision` the key `"a"` is in the map, but not found. -/
theorem delete_hides_colliding_key :
    held (seen collision) "a" = some "y" ∧
      (step (after collision) (.get letter)).1 = .get (.ok none) := by
  -- `"!"` goes to its home slot, `"a"` to the next one.
  have land₁ : landing emptyRegion "!" = some 0 := by
    rw [landing, tableOf_emptyRegion]
    decide
  obtain ⟨region₁, run₁, wf₁, table₁⟩ :=
    @run_put emptyRegion "!" "x" 0 wellFormed_emptyRegion bang.2 (by decide) land₁
  rw [tableOf_emptyRegion] at table₁
  have land₂ : landing region₁ "a" = some 1 := by
    rw [landing, table₁]
    decide
  obtain ⟨region₂, run₂, wf₂, table₂⟩ := @run_put region₁ "a" "y" 1 wf₁ letter.2 (by decide) land₂
  rw [table₁] at table₂
  have land₃ : landing region₂ "!" = some 0 := by
    rw [landing, table₂]
    decide
  have slot₃ : tableOf region₂ (path "!" 0) = some ("!", "x") := by
    rw [table₂]
    decide
  obtain ⟨region₃, run₃, wf₃, table₃⟩ := run_delete_found wf₂ land₃ slot₃
  rw [table₂] at table₃
  -- The home slot is empty again, and probing for `"a"` stops there.
  have lost : lookup region₃ "a" = none := by
    rw [lookup, table₃]
    decide
  obtain ⟨result, run₄, value₄⟩ := run_get wf₃ "a"
  rw [lost] at value₄
  have none_found : result = none := Option.map_eq_none_iff.mp value₄
  subst none_found
  have step₁ : step emptyRegion (.put bang ⟨"x", by decide⟩) = (.put (.ok _), region₁) :=
    congrArg (fun out => (KvAnswer.put out.1, out.2)) run₁
  have step₂ : step region₁ (.put letter ⟨"y", by decide⟩) = (.put (.ok _), region₂) :=
    congrArg (fun out => (KvAnswer.put out.1, out.2)) run₂
  have step₃ : step region₂ (.delete bang) = (.delete (.ok _), region₃) :=
    congrArg (fun out => (KvAnswer.delete out.1, out.2)) run₃
  have step₄ : step region₃ (.get letter) = (.get (.ok none), region₃) :=
    congrArg (fun out => (KvAnswer.get out.1, out.2)) run₄
  have end_region : after collision = region₃ := by
    rw [after, collision, Machine.exec_cons, step₁, Machine.exec_cons, step₂, Machine.exec_cons,
      step₃, Machine.exec_nil]
  have history : held (seen collision) "a" = some "y" := by
    rw [seen, collision, Machine.history, Machine.historyFrom, step₁, Machine.historyFrom, step₂,
      Machine.historyFrom, step₃, Machine.historyFrom]
    rfl
  exact ⟨history, by rw [end_region, step₄]⟩

end Kv

end Rdows
