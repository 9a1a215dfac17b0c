import Mathlib.Data.Fintype.EquivFin
import Mathlib.Data.List.Basic
import Mathlib.Logic.Function.Basic
import Mathlib.Order.Basic

/-!
# Open addressing

A table maps slots to at most one key with a value.  The slots a key may live in are given by a
*probe path*: `path k m` is the slot visited at step `m`.  Probing for `k` stops at the first slot,
within `n` steps, that is empty or holds `k`; `landing` is the step at which it stops.  Nothing is
assumed of the paths, so linear probing, with or without wrap-around, is one instance.

## The table as a map

A table is `WellPlaced` if every stored key is found where it is stored.  Then looking a key up
tells whether it is stored at all (`WellPlaced.lookup_eq_some_iff`), and the table *is* the finite
map `lookup`.  Writing a key to its landing slot keeps the table well placed and updates the map
(`WellPlaced.set`, `WellPlaced.lookup_set`).

## Removal

Emptying the slot of a key is the delicate operation: other keys may have been placed by passing
over it, and probing for them would now stop too early.  The slot `Shields` such a key.  Without
tombstones, emptying keeps the table well placed if and only if the slot shields no other key
(`WellPlaced.clear`), and otherwise some other key is lost at once (`WellPlaced.exists_lost`).  The
value of that key is still in the table; it can only not be found any more.

## When the table is full

An insertion fails when probing does not stop, that is when all `n` slots on the path hold other
keys.  `WellPlaced.full_iff` says when all slots of a table are taken in terms of the map alone: it
has as many keys as there are slots.
-/

namespace Probe

universe u v w

variable {K : Type u} {V : Type v} {ι : Type w} [DecidableEq K] (path : K → ℕ → ι) (n : ℕ)

/-- Probing for `k` stops at step `m`: the slot is empty or holds `k`.  An empty slot means that `k`
has never been placed further on. -/
def stops (t : ι → Option (K × V)) (k : K) (m : ℕ) : Bool :=
  match t (path k m) with
  | none => true
  | some (k', _) => k' = k

/-- The step at which probing for `k` stops, if it does within `n` steps.  It is where `k` is read
from and where it would be written. -/
def landing (t : ι → Option (K × V)) (k : K) : Option ℕ := (List.range n).find? (stops path t k)

/-- The value found by probing for `k`: that of the landing slot, if `k` is there. -/
def lookup (t : ι → Option (K × V)) (k : K) : Option V :=
  (landing path n t k).bind fun m => (t (path k m)).map Prod.snd

/-- Every stored key is found where it is stored, so no entry is out of reach and no key is stored
twice. -/
def WellPlaced (t : ι → Option (K × V)) : Prop :=
  ∀ i k v, t i = some (k, v) → ∃ m, landing path n t k = some m ∧ path k m = i

/-- Some other key than `k` is stored behind the slot `i`: probing for it passes over `i`, and
relies on `i` not being empty. -/
def Shields (t : ι → Option (K × V)) (k : K) (i : ι) : Prop :=
  ∃ j k' v m l, t j = some (k', v) ∧ k' ≠ k ∧ landing path n t k' = some m ∧ l < m ∧
    path k' l = i

variable {path n} {t : ι → Option (K × V)} {k : K}

theorem stops_iff {m : ℕ} : stops path t k m = true ↔
    t (path k m) = none ∨ ∃ v, t (path k m) = some (k, v) := by
  unfold stops
  rcases t (path k m) with _ | ⟨k', v⟩
  · simp
  · simp [eq_comm]

theorem landing_eq_some {m : ℕ} : landing path n t k = some m ↔
    m < n ∧ stops path t k m = true ∧ ∀ l < m, stops path t k l = false := by
  rw [landing, List.find?_range_eq_some]
  simp only [List.mem_range, Bool.not_eq_eq_eq_not, Bool.not_true]
  tauto

/-- Before the landing every slot holds another key. -/
theorem exists_of_lt_landing {m l : ℕ} (h : landing path n t k = some m) (hl : l < m) :
    ∃ k' v, t (path k l) = some (k', v) ∧ k' ≠ k := by
  have passes := (landing_eq_some.mp h).2.2 l hl
  unfold stops at passes
  rcases hslot : t (path k l) with _ | ⟨k', v⟩
  · simp [hslot] at passes
  · simp only [hslot, decide_eq_false_iff_not] at passes
    exact ⟨k', v, rfl, passes⟩

/-- Probing does not stop if and only if every slot it visits holds another key. -/
theorem landing_eq_none : landing path n t k = none ↔
    ∀ m < n, ∃ k' v, t (path k m) = some (k', v) ∧ k' ≠ k := by
  rw [landing, List.find?_eq_none]
  refine forall_congr' fun m => ?_
  rw [List.mem_range, stops]
  rcases t (path k m) with _ | ⟨k', v⟩
  · simp
  · simp

/-- The landing slot is not visited earlier on. -/
theorem path_ne_landing {m l : ℕ} (h : landing path n t k = some m) (hl : l < m) :
    path k l ≠ path k m := by
  intro same
  have passes := (landing_eq_some.mp h).2.2 l hl
  have stop := (landing_eq_some.mp h).2.1
  rw [stops, same, ← stops, stop] at passes
  cases passes

/-- Writing a key to its landing slot leaves the landing where it is, so a second write replaces the
first. -/
theorem landing_set [DecidableEq ι] {m : ℕ} (h : landing path n t k = some m) (v : V) :
    landing path n (Function.update t (path k m) (some (k, v))) k = some m := by
  refine landing_eq_some.mpr ⟨(landing_eq_some.mp h).1, ?_, ?_⟩
  · exact stops_iff.mpr (.inr ⟨v, Function.update_self _ _ _⟩)
  · intro l hl
    have passes := (landing_eq_some.mp h).2.2 l hl
    rwa [stops, Function.update_of_ne (path_ne_landing h hl), ← stops]

/-- A value that was found is stored where probing stopped. -/
theorem landing_of_lookup {v : V} (h : lookup path n t k = some v) :
    ∃ m, landing path n t k = some m ∧ t (path k m) = some (k, v) := by
  unfold lookup at h
  rcases hland : landing path n t k with _ | m
  · simp [hland] at h
  · simp only [hland, Option.bind_some, Option.map_eq_some_iff] at h
    obtain ⟨⟨k', v'⟩, hslot, rfl⟩ := h
    rcases stops_iff.mp (landing_eq_some.mp hland).2.1 with empty | ⟨v, holds⟩
    · rw [empty] at hslot
      cases hslot
    · rw [hslot] at holds
      cases holds
      exact ⟨m, rfl, hslot⟩

/-- A value that was found is stored: probing never makes up an entry. -/
theorem exists_of_lookup {v : V} (h : lookup path n t k = some v) : ∃ i, t i = some (k, v) := by
  obtain ⟨m, -, slot⟩ := landing_of_lookup h
  exact ⟨_, slot⟩

namespace WellPlaced

/-- **The table is a map**: a key has the value it is stored with. -/
theorem lookup_eq_some_iff (wp : WellPlaced path n t) {v : V} :
    lookup path n t k = some v ↔ ∃ i, t i = some (k, v) := by
  refine ⟨exists_of_lookup, ?_⟩
  rintro ⟨i, hi⟩
  obtain ⟨m, hm, rfl⟩ := wp i k v hi
  simp [lookup, hm, hi]

/-- A key is stored in one slot only. -/
theorem unique (wp : WellPlaced path n t) {i j : ι} {v v' : V} (hi : t i = some (k, v))
    (hj : t j = some (k, v')) : i = j := by
  obtain ⟨m, hm, rfl⟩ := wp i k v hi
  obtain ⟨m', hm', rfl⟩ := wp j k v' hj
  rw [hm] at hm'
  cases hm'
  rfl

/-- **All slots are taken** exactly if the map has as many keys as there are slots. -/
theorem full_iff [Fintype ι] (wp : WellPlaced path n t) :
    (∀ i, (t i).isSome) ↔
      ∃ keys : Finset K, keys.card = Fintype.card ι ∧ ∀ k ∈ keys, (lookup path n t k).isSome := by
  classical
  constructor
  · intro taken
    have stored (i : ι) : ∃ k v, t i = some (k, v) := by
      obtain ⟨⟨k, v⟩, slot⟩ := Option.isSome_iff_exists.mp (taken i)
      exact ⟨k, v, slot⟩
    choose key value holds using stored
    refine ⟨Finset.univ.image key, ?_, ?_⟩
    · refine Finset.card_image_of_injective _ fun i j same => ?_
      have here := holds i
      rw [same] at here
      exact wp.unique here (holds j)
    · intro k mem
      obtain ⟨i, -, rfl⟩ := Finset.mem_image.mp mem
      rw [wp.lookup_eq_some_iff.mpr ⟨i, holds i⟩]
      rfl
  · rintro ⟨keys, many, found⟩ i
    -- The slots of the keys are all the slots there are.
    have stored (k : keys) : ∃ i v, t i = some (k.val, v) := by
      obtain ⟨v, value⟩ := Option.isSome_iff_exists.mp (found k k.2)
      obtain ⟨i, slot⟩ := exists_of_lookup value
      exact ⟨i, v, slot⟩
    choose slot value holds using stored
    have injective : Function.Injective slot := by
      intro k k' same
      have here := holds k
      rw [same, holds k'] at here
      exact Subtype.ext (congrArg Prod.fst (Option.some.inj here)).symm
    have all := (Fintype.bijective_iff_injective_and_card slot).mpr
      ⟨injective, by rw [Fintype.card_coe, many]⟩
    obtain ⟨k, rfl⟩ := all.surjective i
    rw [holds k]
    rfl

variable [DecidableEq ι] {m : ℕ}

/-- Writing a key to its landing slot keeps every key where it is found. -/
theorem set (wp : WellPlaced path n t) (h : landing path n t k = some m) (v : V) :
    WellPlaced path n (Function.update t (path k m) (some (k, v))) := by
  intro i k' v' hi
  by_cases at_slot : i = path k m
  · subst at_slot
    rw [Function.update_self] at hi
    cases hi
    exact ⟨m, landing_set h v, rfl⟩
  · rw [Function.update_of_ne at_slot] at hi
    obtain ⟨m', hm', rfl⟩ := wp i k' v' hi
    refine ⟨m', landing_eq_some.mpr ⟨(landing_eq_some.mp hm').1, ?_, ?_⟩, rfl⟩
    · rw [stops, Function.update_of_ne at_slot, ← stops]
      exact (landing_eq_some.mp hm').2.1
    · intro l hl
      have passes := (landing_eq_some.mp hm').2.2 l hl
      by_cases beyond : path k' l = path k m
      · -- Probing for `k'` passes over the slot, so it already held a key: `k` itself.
        obtain ⟨k'', v'', holds, other⟩ := exists_of_lt_landing hm' hl
        rw [beyond] at holds
        rcases stops_iff.mp (landing_eq_some.mp h).2.1 with empty | ⟨v₀, holds'⟩
        · rw [empty] at holds
          cases holds
        · rw [holds] at holds'
          cases holds'
          simp [stops, beyond, other]
      · rwa [stops, Function.update_of_ne beyond, ← stops]

/-- Writing a key to its landing slot updates the map at that key. -/
theorem lookup_set (wp : WellPlaced path n t) (h : landing path n t k = some m) (v : V) :
    lookup path n (Function.update t (path k m) (some (k, v)))
      = Function.update (lookup path n t) k (some v) := by
  funext k'
  have wp' := wp.set h v
  by_cases same : k' = k
  · subst same
    rw [Function.update_self]
    exact wp'.lookup_eq_some_iff.mpr ⟨_, Function.update_self _ _ _⟩
  · rw [Function.update_of_ne same]
    refine Option.ext fun v' => ?_
    rw [wp'.lookup_eq_some_iff, wp.lookup_eq_some_iff]
    constructor
    · rintro ⟨i, hi⟩
      by_cases at_slot : i = path k m
      · subst at_slot
        rw [Function.update_self] at hi
        cases hi
        exact absurd rfl same
      · rw [Function.update_of_ne at_slot] at hi
        exact ⟨i, hi⟩
    -- The slot that was written was empty or held `k`, so no other key lost its place.
    · rintro ⟨i, hi⟩
      refine ⟨i, ?_⟩
      rw [Function.update_of_ne, hi]
      rintro rfl
      rcases stops_iff.mp (landing_eq_some.mp h).2.1 with empty | ⟨v₀, holds⟩
      · rw [empty] at hi
        cases hi
      · rw [hi] at holds
        cases holds
        exact same rfl

/-- Emptying the slot of a key keeps the table well placed if the slot shields no other
key. -/
theorem clear (wp : WellPlaced path n t) {v : V} {i : ι} (hi : t i = some (k, v))
    (unshielding : ¬ Shields path n t k i) : WellPlaced path n (Function.update t i none) := by
  intro j k' v' hj
  have elsewhere : j ≠ i := by
    rintro rfl
    rw [Function.update_self] at hj
    cases hj
  rw [Function.update_of_ne elsewhere] at hj
  have other : k' ≠ k := by
    rintro rfl
    exact elsewhere (wp.unique hj hi)
  obtain ⟨m, hm, rfl⟩ := wp j k' v' hj
  refine ⟨m, landing_eq_some.mpr ⟨(landing_eq_some.mp hm).1, ?_, ?_⟩, rfl⟩
  · rw [stops, Function.update_of_ne elsewhere, ← stops]
    exact (landing_eq_some.mp hm).2.1
  -- A slot on the way of another key is not the one that was emptied: it would shield that key.
  · intro l hl
    have around : path k' l ≠ i :=
      fun beyond => unshielding ⟨_, k', v', m, l, hj, other, hm, hl, beyond⟩
    rw [stops, Function.update_of_ne around, ← stops]
    exact (landing_eq_some.mp hm).2.2 l hl

/-- Then the map loses that key and nothing else: emptying is the deletion of the abstract map. -/
theorem lookup_clear (wp : WellPlaced path n t) {v : V} {i : ι} (hi : t i = some (k, v))
    (unshielding : ¬ Shields path n t k i) :
    lookup path n (Function.update t i none) = Function.update (lookup path n t) k none := by
  funext k'
  have wp' := wp.clear hi unshielding
  refine Option.ext fun v' => ?_
  rw [wp'.lookup_eq_some_iff]
  -- the cleared key is nowhere else, and the other keys are where they were
  by_cases same : k' = k
  · subst same
    rw [Function.update_self]
    constructor
    · rintro ⟨j, hj⟩
      by_cases at_slot : j = i
      · subst at_slot
        rw [Function.update_self] at hj
        cases hj
      · rw [Function.update_of_ne at_slot] at hj
        exact absurd (wp.unique hj hi) at_slot
    · intro h
      cases h
  · rw [Function.update_of_ne same, wp.lookup_eq_some_iff]
    constructor
    · rintro ⟨j, hj⟩
      refine ⟨j, ?_⟩
      rwa [Function.update_of_ne] at hj
      rintro rfl
      rw [Function.update_self] at hj
      cases hj
    · rintro ⟨j, hj⟩
      refine ⟨j, ?_⟩
      rw [Function.update_of_ne, hj]
      rintro rfl
      rw [hi] at hj
      cases hj
      exact same rfl

/-- If the emptied slot shields another key, that key is lost: it was found before and is not found
afterwards, although no one deleted it. -/
theorem exists_lost (wp : WellPlaced path n t) {i : ι} (shields : Shields path n t k i) :
    ∃ k' v, k' ≠ k ∧ lookup path n t k' = some v ∧
      lookup path n (Function.update t i none) k' = none := by
  obtain ⟨j, k', v, m, l, hj, other, hm, hl, beyond⟩ := shields
  refine ⟨k', v, other, wp.lookup_eq_some_iff.mpr ⟨j, hj⟩, ?_⟩
  rcases hlost : lookup path n (Function.update t i none) k' with _ | v'
  · rfl
  exfalso
  -- Probing now stops at step `l` at the latest, short of the old landing.
  unfold lookup at hlost
  rcases hland : landing path n (Function.update t i none) k' with _ | m'
  · simp [hland] at hlost
  · have early : m' ≤ l := by
      by_contra late
      have passes := (landing_eq_some.mp hland).2.2 l (by omega)
      simp [stops, beyond] at passes
    simp only [hland, Option.bind_some, Option.map_eq_some_iff] at hlost
    obtain ⟨⟨k'', v''⟩, hslot, -⟩ := hlost
    have around : path k' m' ≠ i := by
      intro here
      rw [here, Function.update_self] at hslot
      cases hslot
    have stop := (landing_eq_some.mp hland).2.1
    rw [stops, Function.update_of_ne around, ← stops] at stop
    rw [(landing_eq_some.mp hm).2.2 m' (by omega)] at stop
    cases stop

end WellPlaced

end Probe
