import Mathlib.Algebra.BigOperators.Group.Finset.Basic
import Mathlib.Algebra.BigOperators.Group.List.Basic
import Mathlib.Data.List.AList
import Mathlib.Tactic.Ring

/-!
# Finite maps with a total weight

A hash map is modelled by Mathlib's association lists without duplicate keys (`AList`).  Only what a
program can observe of a map is used: lookups, insertions, removals, and sums over the live entries.
The order of the list is an artefact and no statement depends on it; where two maps are compared, it
is by their lookups.

## Weights

`weight f m` is the sum of `f` over the values of `m`; the number of entries is the weight of the
constant one (`size_eq_weight`), so counts and sizes in bytes need one set of lemmas.  Inserting
under a fresh key adds the value's weight, removing a present key takes it away, and replacing a
value by one of equal weight changes nothing, which is all an accounting invariant over a map needs.
`weight_eq_sum` and `le_weight` bound one entry by the whole.

## Maps with an index

`Indexes key index m` says that a second map leads from the key of every value back to the place of
the value.  A program that keeps two maps in step, one by each of two names of an entry, keeps this
relation as long as both maps are updated together; from it follows that the second name is unique
(`Indexes.injective`), which the first map alone does not say.
-/

namespace AssocMap

universe u v

variable {K : Type u} {V : Type v}

/-- The number of entries of a map, `HashMap::len`. -/
def size (m : AList (fun _ : K => V)) : ℕ := m.entries.length

/-- The sum of `f` over the values of a map.  A counter that a program maintains beside the map is
compared with it. -/
def weight (f : V → ℕ) (m : AList (fun _ : K => V)) : ℕ :=
  (m.entries.map fun entry => f entry.2).sum

/-- The number of entries is the weight of one. -/
theorem size_eq_weight (m : AList (fun _ : K => V)) : size m = weight (fun _ => 1) m := by
  simp [size, weight]

variable [DecidableEq K]

/-- A lookup in a map after an insertion. -/
theorem lookup_insert_eq_ite (m : AList (fun _ : K => V)) (k k' : K) (v : V) :
    (m.insert k v).lookup k' = if k' = k then some v else m.lookup k' := by
  by_cases h : k' = k
  · subst h
    rw [AList.lookup_insert, if_pos rfl]
  · rw [AList.lookup_insert_ne h, if_neg h]

/-- A lookup in a map after a removal. -/
theorem lookup_erase_eq_ite (m : AList (fun _ : K => V)) (k k' : K) :
    (m.erase k).lookup k' = if k' = k then none else m.lookup k' := by
  by_cases h : k' = k
  · subst h
    rw [AList.lookup_erase, if_pos rfl]
  · rw [AList.lookup_erase_ne h, if_neg h]

/-- What holds of the new value and of all old ones holds after an insertion. -/
theorem forall_insert {P : K → V → Prop} {m : AList (fun _ : K => V)} {k : K} {v : V} (new : P k v)
    (old : ∀ l e, m.lookup l = some e → P l e) :
    ∀ l e, (m.insert k v).lookup l = some e → P l e := by
  intro l e found
  rw [lookup_insert_eq_ite] at found
  split_ifs at found with here
  · cases found
    rw [here]
    exact new
  · exact old l e found

/-- What holds of all values holds after a removal. -/
theorem forall_erase {P : K → V → Prop} {m : AList (fun _ : K => V)} {k : K}
    (old : ∀ l e, m.lookup l = some e → P l e) :
    ∀ l e, (m.erase k).lookup l = some e → P l e := by
  intro l e found
  rw [lookup_erase_eq_ite] at found
  split_ifs at found
  exact old l e found

/-- Maps with the same keys have the same number of entries, whatever their values and their
order. -/
theorem size_congr {m m' : AList (fun _ : K => V)}
    (same : ∀ k, (m.lookup k).isSome = (m'.lookup k).isSome) : size m = size m' := by
  have keys : m.keys.Perm m'.keys := by
    refine (List.perm_ext_iff_of_nodup m.keys_nodup m'.keys_nodup).mpr fun k => ?_
    show k ∈ m ↔ k ∈ m'
    rw [← AList.lookup_isSome, ← AList.lookup_isSome, same k]
  simpa [AList.keys, List.keys, size] using keys.length_eq

/-- Removing a present key takes the weight of its value away. -/
theorem weight_erase (f : V → ℕ) {m : AList (fun _ : K => V)} {k : K} {v : V}
    (h : m.lookup k = some v) : weight f m = f v + weight f (m.erase k) := by
  have hmem : (⟨k, v⟩ : Sigma fun _ : K => V) ∈ m.entries := AList.mem_lookup_iff.mp h
  obtain ⟨w, before, after, _, hentries, herase⟩ :=
    List.exists_of_kerase (List.mem_keys_of_mem hmem)
  have hw : w = v := by
    have hlookup : m.lookup k = some w := AList.mem_lookup_iff.mpr (by simp [hentries])
    exact Option.some.inj (hlookup.symm.trans h)
  have hkept : (m.erase k).entries = before ++ after := herase
  rw [weight, weight, hentries, hkept, hw]
  simp only [List.map_append, List.map_cons, List.sum_append, List.sum_cons]
  omega

/-- Inserting under a fresh key adds the weight of the value. -/
theorem weight_insert_of_fresh (f : V → ℕ) {m : AList (fun _ : K => V)} {k : K} (v : V)
    (h : m.lookup k = none) : weight f (m.insert k v) = f v + weight f m := by
  rw [weight, AList.entries_insert_of_notMem (AList.lookup_eq_none.mp h)]
  simp [weight]

/-- Replacing a value by one of the same weight keeps the total. -/
theorem weight_insert_of_lookup (f : V → ℕ) {m : AList (fun _ : K => V)} {k : K} {v w : V}
    (h : m.lookup k = some v) (hw : f w = f v) : weight f (m.insert k w) = weight f m := by
  rw [weight_erase f h, weight, AList.entries_insert, List.map_cons, List.sum_cons, hw]
  rfl

theorem size_erase {m : AList (fun _ : K => V)} {k : K} {v : V} (h : m.lookup k = some v) :
    size m = 1 + size (m.erase k) := by
  rw [size_eq_weight, weight_erase _ h, ← size_eq_weight]

theorem size_insert_of_fresh {m : AList (fun _ : K => V)} {k : K} (v : V) (h : m.lookup k = none) :
    size (m.insert k v) = 1 + size m := by
  rw [size_eq_weight, weight_insert_of_fresh _ v h, ← size_eq_weight]

theorem size_insert_of_lookup {m : AList (fun _ : K => V)} {k : K} {v : V} (w : V)
    (h : m.lookup k = some v) : size (m.insert k w) = size m := by
  rw [size_eq_weight, size_eq_weight]
  exact weight_insert_of_lookup _ h rfl

/-- The weight of a map as a sum over its keys, which brings it within reach of the lemmas on finite
sums. -/
theorem weight_eq_sum (f : V → ℕ) (m : AList (fun _ : K => V)) :
    weight f m = ∑ k ∈ m.keys.toFinset, (m.lookup k).elim 0 f := by
  rw [List.sum_toFinset _ m.keys_nodup, AList.keys, List.keys, List.map_map, weight]
  refine congrArg List.sum (List.map_congr_left fun entry mem => ?_)
  show f entry.2 = (m.lookup entry.1).elim 0 f
  rw [AList.mem_lookup_iff.mpr mem]
  rfl

/-- One value weighs at most as much as the whole map. -/
theorem le_weight (f : V → ℕ) {m : AList (fun _ : K => V)} {k : K} {v : V}
    (h : m.lookup k = some v) : f v ≤ weight f m := by
  rw [weight_erase f h]
  exact Nat.le_add_right _ _

/-! ### A map and its index -/

section Indexes

variable {I : Type*} [DecidableEq I] {key : V → I} {index : AList (fun _ : I => K)}
  {m : AList (fun _ : K => V)} {k : K} {v w : V}

/-- The index leads from a key `r` to the place of the value with this key, and from nothing else to
anywhere. -/
def Indexes (key : V → I) (index : AList (fun _ : I => K)) (m : AList (fun _ : K => V)) : Prop :=
  ∀ r l, index.lookup r = some l ↔ ∃ e, m.lookup l = some e ∧ key e = r

/-- No two values have the same key: the index can lead to one place only. -/
theorem Indexes.injective (indexes : Indexes key index m) {l : K} (here : m.lookup k = some v)
    (there : m.lookup l = some w) (same : key v = key w) : k = l := by
  have leads := (indexes (key v) k).mpr ⟨v, here, rfl⟩
  rw [(indexes (key v) l).mpr ⟨w, there, same.symm⟩] at leads
  exact (Option.some.inj leads).symm

/-- A new value under a new key goes into both maps.  Both conditions are needed: a place in use
would lose its old value, and a key in use would be led to two places. -/
theorem Indexes.insert (indexes : Indexes key index m) (free : m.lookup k = none)
    (fresh : ∀ l e, m.lookup l = some e → key e ≠ key v) :
    Indexes key (index.insert (key v) k) (m.insert k v) := by
  intro r l
  rw [lookup_insert_eq_ite, lookup_insert_eq_ite]
  -- under the new key there is the new entry only, by freshness; the other keys are as they were
  by_cases new : r = key v
  · rw [if_pos new]
    constructor
    · intro here
      cases here
      rw [if_pos rfl]
      exact ⟨v, rfl, new.symm⟩
    · rintro ⟨e, found, same⟩
      split_ifs at found with here
      · rw [here]
      · exact absurd (same.trans new) (fresh l e found)
  · rw [if_neg new, indexes]
    by_cases here : l = k
    · subst here
      rw [if_pos rfl, free]
      constructor
      · rintro ⟨e, found, -⟩
        cases found
      · rintro ⟨e, found, same⟩
        cases found
        exact absurd same.symm new
    · rw [if_neg here]

/-- A value is taken out together with its key. -/
theorem Indexes.erase (indexes : Indexes key index m) (found : m.lookup k = some v) :
    Indexes key (index.erase (key v)) (m.erase k) := by
  intro r l
  rw [lookup_erase_eq_ite, lookup_erase_eq_ite]
  by_cases old : r = key v
  · rw [if_pos old]
    constructor
    · intro here
      cases here
    · rintro ⟨e, there, same⟩
      split_ifs at there with here
      -- another entry with the erased key would be the erased one
      exact absurd (indexes.injective there found (same.trans old)) here
  · rw [if_neg old, indexes]
    by_cases here : l = k
    · subst here
      rw [if_pos rfl, found]
      constructor
      · rintro ⟨e, there, same⟩
        cases there
        exact absurd same.symm old
      · rintro ⟨e, there, -⟩
        cases there
    · rw [if_neg here]

/-- A value is replaced by one with the same key. -/
theorem Indexes.replace (indexes : Indexes key index m) (found : m.lookup k = some v)
    (same : key w = key v) : Indexes key index (m.insert k w) := by
  intro r l
  rw [lookup_insert_eq_ite, indexes]
  by_cases here : l = k
  · subst here
    rw [if_pos rfl, found]
    simp [same]
  · rw [if_neg here]

end Indexes

end AssocMap
