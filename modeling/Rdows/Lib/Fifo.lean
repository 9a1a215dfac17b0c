import Rdows.Lib.Run

/-!
# Bounded queues

A queue that holds at most `capacity` elements.  A push puts an element in at the end, or refuses it
if the queue is full; a poll takes out the elements at the front, at most as many as it is asked
for.

Queues of this kind stand between parties that do not wait for each other: one side stores what it
has finished, the other collects it later.  Two questions matter.  Is what comes out what went in,
once each and in order?  And can something be lost because the queue was full when it came?  The
first has an answer for every run, the second needs a condition on the run.

* `account`: whatever is pushed and polled, the elements taken out followed by those still in the
  queue are those that were stored, in their order.  Nothing is duplicated, reordered or invented.
* `length_exec_le`: the queue never holds more than its capacity.
* `stored_of_roomy`: if there is room whenever an element is pushed, none is refused, so that what
  was stored is all that was offered.

A refused push leaves the queue as it was and is visible in the history, so `stored` reads off the
answers and not off the operations alone.
-/

namespace Fifo

universe u

variable {α : Type u}

/-- An operation on a queue: push one element, or poll for up to a number of them. -/
inductive Op (α : Type u) where
  | push (a : α)
  | poll (max : ℕ)

/-- What an operation returns: whether the push was stored, or what the poll took out. -/
inductive Answer (α : Type u) where
  | pushed (stored : Bool)
  | polled (taken : List α)

/-- One operation: a push stores its element at the end or finds the queue full, and a poll takes
elements from the front. -/
def step (capacity : ℕ) (queue : List α) : Op α → Answer α × List α
  | .push a =>
      if capacity ≤ queue.length then (.pushed false, queue) else (.pushed true, queue ++ [a])
  | .poll max => (.polled (queue.take max), queue.drop max)

/-! ### What a history tells

Histories are those of `Machine.history`, with the most recent operation first. -/

/-- The elements that were stored, in their order.  Those that were pushed and refused are not among
them. -/
def stored : List (Op α × Answer α) → List α
  | [] => []
  | (.push a, .pushed true) :: earlier => stored earlier ++ [a]
  | _ :: earlier => stored earlier

/-- The elements that were taken out, in their order. -/
def taken : List (Op α × Answer α) → List α
  | [] => []
  | (.poll _, .polled elements) :: earlier => taken earlier ++ elements
  | _ :: earlier => taken earlier

/-- The elements that are pushed, in their order. -/
def offered : List (Op α) → List α
  | [] => []
  | .push a :: later => a :: offered later
  | .poll _ :: later => offered later

/-- There is room for the element, if the operation is a push.  As a condition on a run it says that
the elements are collected fast enough. -/
def Roomy (capacity : ℕ) (queue : List α) : Op α → Prop
  | .push _ => queue.length < capacity
  | .poll _ => True

variable {capacity : ℕ} {queue : List α}

/-- **First in, first out.** What was taken out, followed by what is still in the queue, is what was
there at first, followed by what was stored since. -/
theorem account (capacity : ℕ) (queue : List α) (ops : List (Op α)) :
    taken (Machine.history (step capacity) queue ops) ++ Machine.exec (step capacity) queue ops
      = queue ++ stored (Machine.history (step capacity) queue ops) := by
  refine Machine.run_induction (P := fun seen now => taken seen ++ now = queue ++ stored seen)
    (List.append_nil _).symm ?_ ops
  intro seen now op ih
  cases op with
  | push a =>
      by_cases full : capacity ≤ now.length
      · rw [step, if_pos full]
        exact ih
      · rw [step, if_neg full]
        show taken seen ++ (now ++ [a]) = queue ++ (stored seen ++ [a])
        rw [← List.append_assoc, ih, List.append_assoc]
  | poll max =>
      show taken seen ++ now.take max ++ now.drop max = queue ++ stored seen
      rw [List.append_assoc, List.take_append_drop, ih]

/-- **The bound.** A queue that starts within its capacity stays within it, since a push is refused
at the limit. -/
theorem length_exec_le (fits : queue.length ≤ capacity) (ops : List (Op α)) :
    (Machine.exec (step capacity) queue ops).length ≤ capacity := by
  refine Machine.exec_induction (P := fun now : List α => now.length ≤ capacity) fits ?_ ops
  intro now op bound
  cases op with
  | push a =>
      by_cases full : capacity ≤ now.length
      · rw [step, if_pos full]
        exact bound
      · rw [step, if_neg full, List.length_append, List.length_singleton]
        exact Nat.lt_of_not_le full
  | poll max => exact Nat.le_trans (List.drop_sublist max now).length_le bound

theorem offered_append (ops later : List (Op α)) :
    offered (ops ++ later) = offered ops ++ offered later := by
  induction ops with
  | nil => rfl
  | cons op ops ih =>
      cases op with
      | push a => exact congrArg (a :: ·) ih
      | poll max => exact ih

theorem taken_append (seen earlier : List (Op α × Answer α)) :
    taken (seen ++ earlier) = taken earlier ++ taken seen := by
  induction seen with
  | nil => exact (List.append_nil _).symm
  | cons turn seen ih =>
      obtain ⟨op, answer⟩ := turn
      rcases op with a | max
      · exact ih
      · rcases answer with kept | elements
        · exact ih
        · show taken (seen ++ earlier) ++ elements = taken earlier ++ (taken seen ++ elements)
          rw [ih, List.append_assoc]

/-- **No element is refused** if each is pushed while there is room. -/
theorem stored_of_roomy {ops : List (Op α)}
    (roomy : Machine.Always (step capacity) (Roomy capacity) queue ops) :
    stored (Machine.history (step capacity) queue ops) = offered ops ∧
      ∀ a kept, (.push a, .pushed kept) ∈ Machine.history (step capacity) queue ops →
        kept = true := by
  induction ops using List.reverseRecOn with
  | nil => exact ⟨rfl, fun a kept none => nomatch none⟩
  | append_singleton ops op ih =>
      obtain ⟨earlier, room⟩ := (Machine.always_concat (step capacity)).mp roomy
      obtain ⟨all, kept⟩ := ih earlier
      rw [Machine.history_concat, offered_append]
      cases op with
      | push a =>
          rw [step, if_neg (Nat.not_le.mpr room)]
          refine ⟨congrArg (· ++ [a]) all, fun b stays seen => ?_⟩
          rcases List.mem_cons.mp seen with now | before
          · cases now
            rfl
          · exact kept b stays before
      | poll max =>
          refine ⟨all.trans (List.append_nil _).symm, fun b stays seen => ?_⟩
          rcases List.mem_cons.mp seen with now | before
          · cases now
          · exact kept b stays before

end Fifo
