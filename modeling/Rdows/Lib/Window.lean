import Mathlib.Data.List.Basic
import Mathlib.Tactic.Ring

/-!
# Fixed-window rate limiters

A limiter lets at most `limit` requests pass in a window.  A window begins with the first request
that comes `width` or more after the begin of the last one, so windows lie on no grid.

## What such a limiter promises

Not that every interval of one `width` sees at most `limit` passes: a burst at the end of one window
and another at the begin of the next fall into one such interval.  The promise is about the number
of windows that an interval can meet.  An interval of `k` widths meets at most `k + 1` of them, so
it sees at most `(k + 1) * limit` passes (`Accounts.interval_le`), and a request is refused only if
the current window is full (`Accounts.since_of_refused`).

## The invariant

`Accounts` relates the state of a limiter to the times at which requests have passed, with the most
recent first: the count is the number of passes since the begin of the window, and the passes since
any earlier moment are at most those of the current window plus `limit` for every `width` that it
reaches back.  Every request keeps the accounts (`Accounts.refresh`, `Accounts.pass`).  `Limited`
adds the bound on all intervals of the past, which the accounts alone only give for recent ones.

Time is a natural number and must not run backwards; that is a condition of the rules, met by a
monotonic clock.
-/

namespace FixedWindow

/-- The begin of the current window and the number of requests that passed since.  Nothing older is
remembered. -/
@[ext]
structure State where
  start : ℕ
  count : ℕ

variable (width limit : ℕ)

/-- Begin a new window if the last one has ended.  The new window begins at the time of the request,
not at the end of the old one. -/
def refresh (s : State) (t : ℕ) : State := if width ≤ t - s.start then ⟨t, 0⟩ else s

/-- The request at time `t`: whether it passes, and the state that is left. -/
def request (s : State) (t : ℕ) : Bool × State :=
  if limit ≤ (refresh width s t).count then (false, refresh width s t)
  else (true, { refresh width s t with count := (refresh width s t).count + 1 })

/-- The number of passes from time `a` on, among the times that were recorded. -/
def since (passed : List ℕ) (a : ℕ) : ℕ := passed.countP (a ≤ ·)

/-- The number of passes in an interval, its begin included and its end excluded. -/
def between (passed : List ℕ) (a b : ℕ) : ℕ := passed.countP fun t => a ≤ t ∧ t < b

variable {width limit} {s : State} {passed : List ℕ} {t : ℕ}

theorem since_cons (passed : List ℕ) (t a : ℕ) :
    since (t :: passed) a = since passed a + if a ≤ t then 1 else 0 := by
  simp [since, List.countP_cons]

theorem between_cons (passed : List ℕ) (t a b : ℕ) :
    between (t :: passed) a b = between passed a b + if a ≤ t ∧ t < b then 1 else 0 := by
  simp [between, List.countP_cons]

theorem between_le_since (passed : List ℕ) (a b : ℕ) : between passed a b ≤ since passed a :=
  List.countP_mono_left fun _ _ inside => by simp_all

/-- A window begins `width` or more after the last one. -/
theorem refresh_start (wide : 0 < width) (s : State) (t : ℕ) :
    (refresh width s t).start = s.start ∨
      (refresh width s t).start = t ∧ s.start + width ≤ (refresh width s t).start := by
  unfold refresh
  split_ifs with ended
  · refine .inr ⟨rfl, ?_⟩
    show s.start + width ≤ t
    omega
  · exact .inl rfl

/-- The current window began less than `width` ago. -/
theorem lt_refresh_start (wide : 0 < width) (s : State) (t : ℕ) :
    t < (refresh width s t).start + width := by
  unfold refresh
  split_ifs with ended
  · exact Nat.lt_add_of_pos_right wide
  · omega

/-- It has begun, if the clock does not run backwards. -/
theorem refresh_start_le {s : State} {t : ℕ} (begun : s.start ≤ t) :
    (refresh width s t).start ≤ t := by
  unfold refresh
  split_ifs with ended
  · exact Nat.le_refl t
  · exact begun

@[simp] theorem request_start (s : State) (t : ℕ) :
    (request width limit s t).2.start = (refresh width s t).start := by
  unfold request
  split_ifs <;> rfl

/-- The state of a limiter agrees with the times at which requests have passed. -/
structure Accounts (width limit : ℕ) (passed : List ℕ) (s : State) : Prop where
  count_le : s.count ≤ limit
  /-- Requests pass in the current window or in earlier ones, never later. -/
  recent : ∀ t ∈ passed, t < s.start + width
  count_eq : since passed s.start = s.count
  /-- `k` widths before the begin of the window there are at most `k` further windows. -/
  since_le : ∀ a k, s.start ≤ a + k * width → since passed a ≤ s.count + k * limit

theorem Accounts.start (t : ℕ) : Accounts width limit [] ⟨t, 0⟩ where
  count_le := Nat.zero_le _
  recent _ none := absurd none List.not_mem_nil
  count_eq := rfl
  since_le _ _ _ := Nat.zero_le _

/-- A new window pushes what came before one width back, and the passes of the window that ended are
within the limit. -/
theorem Accounts.refresh (wide : 0 < width) (accounts : Accounts width limit passed s) (t : ℕ) :
    Accounts width limit passed (refresh width s t) := by
  unfold FixedWindow.refresh
  split_ifs with ended
  swap
  · exact accounts
  have late : s.start + width ≤ t := by omega
  -- Nothing passed since the end of the last window.
  have none : ∀ a, t ≤ a → since passed a = 0 := by
    intro a after
    refine List.countP_eq_zero.mpr fun t' mem => ?_
    have := accounts.recent t' mem
    simp only [decide_eq_true_eq]
    omega
  refine ⟨Nat.zero_le _, ?_, none t (Nat.le_refl t), ?_⟩
  · intro t' mem
    have := accounts.recent t' mem
    show t' < t + width
    omega
  · intro a k reach
    cases k with
    | zero =>
        rw [none a (by simpa using reach)]
        exact Nat.zero_le _
    | succ k =>
        have before : since passed a ≤ s.count + k * limit := by
          refine accounts.since_le a k ?_
          rw [Nat.succ_mul] at reach
          dsimp only at reach
          omega
        have := accounts.count_le
        show since passed a ≤ 0 + (k + 1) * limit
        rw [Nat.succ_mul]
        omega

/-- A request that passes in the current window. -/
theorem Accounts.pass (accounts : Accounts width limit passed s) (begun : s.start ≤ t)
    (current : t < s.start + width) (room : ¬ limit ≤ s.count) :
    Accounts width limit (t :: passed) { s with count := s.count + 1 } where
  count_le := Nat.lt_of_not_le room
  recent t' mem := by
    rcases List.mem_cons.mp mem with rfl | earlier
    · exact current
    · exact accounts.recent t' earlier
  count_eq := by rw [since_cons, if_pos begun, accounts.count_eq]
  since_le a k reach := by
    have := accounts.since_le a k reach
    rw [since_cons]
    dsimp only
    split_ifs <;> omega

/-- The passes in an interval of `k` widths that has not ended before the current window began. -/
theorem Accounts.interval_le (accounts : Accounts width limit passed s) {a k : ℕ}
    (begun : s.start ≤ a + k * width) : between passed a (a + k * width) ≤ (k + 1) * limit := by
  calc between passed a (a + k * width)
      ≤ since passed a := between_le_since ..
    _ ≤ s.count + k * limit := accounts.since_le a k begun
    _ ≤ limit + k * limit := Nat.add_le_add_right accounts.count_le _
    _ = (k + 1) * limit := by rw [Nat.succ_mul, Nat.add_comm]

/-- The accounts are in order, and no interval has seen too many passes, however long ago it was. -/
structure Limited (width limit : ℕ) (passed : List ℕ) (s : State) : Prop
    extends Accounts width limit passed s where
  interval : ∀ a k, between passed a (a + k * width) ≤ (k + 1) * limit

theorem Limited.start (t : ℕ) : Limited width limit [] ⟨t, 0⟩ where
  toAccounts := .start t
  interval _ _ := Nat.zero_le _

/-- The times of the passes after a request: one more if it passed, the same if it was refused. -/
def record (passed : List ℕ) (t : ℕ) : Bool → List ℕ
  | true => t :: passed
  | false => passed

/-- **Requests keep a limiter limited**, as long as the clock does not run backwards. -/
theorem Limited.request (wide : 0 < width) (limited : Limited width limit passed s)
    (begun : s.start ≤ t) :
    Limited width limit (record passed t (request width limit s t).1)
      (request width limit s t).2 := by
  have accounts := limited.toAccounts.refresh wide t
  have begun' : (refresh width s t).start ≤ t := refresh_start_le begun
  unfold FixedWindow.request
  split_ifs with full
  · exact ⟨accounts, limited.interval⟩
  have passes := accounts.pass begun' (lt_refresh_start wide s t) full
  refine ⟨passes, fun a k => ?_⟩
  by_cases inside : t < a + k * width
  · exact passes.interval_le (Nat.le_of_lt (Nat.lt_of_le_of_lt begun' inside))
  · rw [record, between_cons, if_neg fun both => inside both.2]
    exact limited.interval a k

/-- **A request is refused only if the window is full**: so many requests have passed since it
began. -/
theorem Accounts.since_of_refused (wide : 0 < width) (accounts : Accounts width limit passed s)
    (refused : (FixedWindow.request width limit s t).1 = false) :
    since passed (FixedWindow.refresh width s t).start = limit := by
  have after := accounts.refresh wide t
  unfold FixedWindow.request at refused
  split_ifs at refused with full
  rw [after.count_eq]
  exact Nat.le_antisymm after.count_le full

end FixedWindow
