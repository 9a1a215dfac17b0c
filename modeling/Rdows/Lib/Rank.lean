import Mathlib.Data.List.Basic

/-!
# Positions in a filtered list

The entries of a list that satisfy a predicate, taken by themselves, have other positions.  `rank`
is the position that an entry gets: the number of such entries before it.  Looking an entry up and
replacing it then mean the same in both lists, and entries that do not satisfy the predicate do not
matter.

## What it is for

A component that serves many clients keeps one list of them, and refers to each by its position. To
compare it with a component that serves only some of these clients, the list has to be filtered and
the positions have to be renamed.  `rank` is the renaming, and the lemmas here are what a simulation
between the two needs: what is found at an old position is found at the new one (`getElem?_filter`),
different positions stay different (`rank_lt`, `rank_inj`), an update here is an update there
(`filter_set`) or none at all (`filter_set_of_not`), and a new entry at the end disturbs no earlier
position (`rank_append`).
-/

namespace Filtered

universe u

variable {α : Type u} {p : α → Bool}

/-- The number of entries before the position that satisfy the predicate.  For an entry that
satisfies it, this is its position among them. -/
def rank (p : α → Bool) (l : List α) (i : ℕ) : ℕ := (l.take i).countP p

@[simp] theorem rank_zero (l : List α) : rank p l 0 = 0 := rfl

theorem rank_cons_succ (a : α) (l : List α) (i : ℕ) :
    rank p (a :: l) (i + 1) = rank p l i + if p a then 1 else 0 := by
  rw [rank, List.take_succ_cons, List.countP_cons]
  rfl

theorem rank_length (l : List α) : rank p l l.length = (l.filter p).length := by
  rw [rank, List.take_length, List.countP_eq_length_filter]

theorem rank_append {l : List α} {i : ℕ} (within : i ≤ l.length) (l' : List α) :
    rank p (l ++ l') i = rank p l i := by
  rw [rank, List.take_append_of_le_length within]
  rfl

/-- An entry is found at its rank, in the list of the entries that satisfy the predicate. -/
theorem getElem?_filter {l : List α} {i : ℕ} {a : α} (here : l[i]? = some a) (holds : p a = true) :
    (l.filter p)[rank p l i]? = some a := by
  induction l generalizing i with
  | nil => cases here
  | cons b l ih =>
      cases i with
      | zero =>
          cases here
          rw [List.filter_cons_of_pos holds]
          rfl
      | succ i =>
          have later := ih (i := i) here
          rw [rank_cons_succ]
          by_cases first : p b = true
          · rw [List.filter_cons_of_pos first, if_pos first]
            exact later
          · rw [List.filter_cons_of_neg first, if_neg first]
            exact later

/-- Different entries have different ranks: the order of the entries is kept. -/
theorem rank_lt {l : List α} {i j : ℕ} {a : α} (here : l[i]? = some a) (holds : p a = true)
    (before : i < j) : rank p l i < rank p l j := by
  induction l generalizing i j with
  | nil => cases here
  | cons b l ih =>
      obtain ⟨j, rfl⟩ := Nat.exists_eq_succ_of_ne_zero (Nat.ne_zero_of_lt before)
      cases i with
      | zero =>
          cases here
          rw [rank_zero, rank_cons_succ, if_pos holds]
          exact Nat.succ_pos _
      | succ i =>
          have later := ih (i := i) (j := j) here (Nat.lt_of_succ_lt_succ before)
          rw [rank_cons_succ, rank_cons_succ]
          exact Nat.add_lt_add_right later _

theorem rank_inj {l : List α} {i j : ℕ} {a b : α} (here : l[i]? = some a) (there : l[j]? = some b)
    (holds : p a = true) (holds' : p b = true) (same : rank p l i = rank p l j) : i = j := by
  rcases Nat.lt_trichotomy i j with before | equal | behind
  · exact absurd same (Nat.ne_of_lt (rank_lt here holds before))
  · exact equal
  · exact absurd same (Nat.ne_of_gt (rank_lt there holds' behind))

section Set

variable {l : List α} {i : ℕ} {a b : α} (here : l[i]? = some a) (alike : p b = p a)
include here alike

/-- An entry that is replaced by one that is alike, in satisfying the predicate or not, keeps all
ranks. -/
theorem rank_set (j : ℕ) : rank p (l.set i b) j = rank p l j := by
  induction l generalizing i j with
  | nil => rfl
  | cons c l ih =>
      cases j with
      | zero => rfl
      | succ j =>
          cases i with
          | zero =>
              cases here
              rw [List.set_cons_zero, rank_cons_succ, rank_cons_succ, alike]
          | succ i =>
              rw [List.set_cons_succ, rank_cons_succ, rank_cons_succ, ih (i := i) here]

/-- It is replaced at its rank: the update of the whole list is one update of the filtered list. -/
theorem filter_set (holds : p a = true) :
    (l.set i b).filter p = (l.filter p).set (rank p l i) b := by
  induction l generalizing i with
  | nil => rfl
  | cons c l ih =>
      cases i with
      | zero =>
          cases here
          rw [List.set_cons_zero, List.filter_cons_of_pos (alike.trans holds),
            List.filter_cons_of_pos holds]
          rfl
      | succ i =>
          have later := ih (i := i) here
          rw [List.set_cons_succ, rank_cons_succ]
          by_cases first : p c = true
          · rw [List.filter_cons_of_pos first, List.filter_cons_of_pos first, if_pos first,
              List.set_cons_succ, later]
          · rw [List.filter_cons_of_neg first, List.filter_cons_of_neg first, if_neg first,
              later]
            rfl

/-- An entry that does not satisfy the predicate does not matter: its update is invisible in the
filtered list. -/
theorem filter_set_of_not (fails : ¬ p a = true) : (l.set i b).filter p = l.filter p := by
  induction l generalizing i with
  | nil => rfl
  | cons c l ih =>
      cases i with
      | zero =>
          cases here
          rw [List.set_cons_zero, List.filter_cons_of_neg fails,
            List.filter_cons_of_neg (by rw [alike]; exact fails)]
      | succ i =>
          have later := ih (i := i) here
          rw [List.set_cons_succ]
          by_cases first : p c = true
          · rw [List.filter_cons_of_pos first, List.filter_cons_of_pos first, later]
          · rw [List.filter_cons_of_neg first, List.filter_cons_of_neg first, later]

end Set

end Filtered
