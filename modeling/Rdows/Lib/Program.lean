import Rdows.Lib.Outcome

/-!
# Programs that make calls

A `Program` makes calls, one after the other, and each next call may depend on what the earlier ones
returned.  It does not say who serves the calls: `Program.run` plays it against a component given by
its `serve` function.  A call that panics ends the program.

## Comparing two components

`Program.Meets` puts a condition on every call of a run, and `Program.run_simulates` says that two
components cannot be told apart by a program whose calls meet a condition under which they do the
same.  `Program.Runs` is a run against a relation that says which results are allowed, and
`Program.run_refines` finds one for every run of a component that only does what is allowed.  With
these two rules a statement about all programs is proved from what a single call does, so an
abstract component may stand in for a concrete one wherever a program uses it.  `Program.Yields` is
the run of a program that ends, call by call.

## Methods whose bodies make calls

A `Caller` is a fallible method whose body makes such calls: the receiver is its own state, the
component that serves the calls is another.  `Caller.Implements` compares it with a plain `Method`
on an abstract receiver: from related states it makes its calls without a panic on the other side,
ends with the same outcome, and leaves related states.

The relation carries a budget that the calls use up, for counters that must not run over.  A method
is given the number of steps it may cost; the rules add the costs along the body, so that the budget
of an operation is read off its proof and a run of operations needs the sum.
-/

namespace Rust

/-- A program that makes calls `ι`; each returns an `ο` or fails with a `δ`, and the program goes on
with either. -/
inductive Program (ι δ ο α : Type) where
  | done (a : α)
  | call (i : ι) (next : Except δ ο → Program ι δ ο α)

namespace Program

variable {ι δ ο α β τ : Type}

/-- Go on with the result of a program. -/
def bind : Program ι δ ο α → (α → Program ι δ ο β) → Program ι δ ο β
  | done a, k => k a
  | call i next, k => call i fun o => (next o).bind k

/-- Run a program against a component that serves its calls.  The component keeps its state between
the calls; a panic ends the run and is its result. -/
def run (serve : τ → ι → Outcome δ ο × τ) : Program ι δ ο α → τ → Except Panic α × τ
  | done a, t => (.ok a, t)
  | call i next, t =>
      match serve t i with
      | (.ok a, t') => (next (.ok a)).run serve t'
      | (.err e, t') => (next (.error e)).run serve t'
      | (.panic p, t') => (.error p, t')

variable {serve : τ → ι → Outcome δ ο × τ}

/-- Every call of the run meets a condition on the state and the input.  The calls of a program are
only known along a run, so the condition is about one. -/
def Meets (serve : τ → ι → Outcome δ ο × τ) (C : τ → ι → Prop) : Program ι δ ο α → τ → Prop
  | done _, _ => True
  | call i next, t => C t i ∧
      match serve t i with
      | (.ok a, t') => (next (.ok a)).Meets serve C t'
      | (.err e, t') => (next (.error e)).Meets serve C t'
      | (.panic _, _) => True

/-- **Simulation.** Two components that return the same to every call of a program, and keep their
states related, run it alike.  They need to agree only on calls that meet the condition. -/
theorem run_simulates {σ : Type} {serve' : σ → ι → Outcome δ ο × σ} {R : σ → τ → Prop}
    {C : τ → ι → Prop}
    (step : ∀ s t i, R s t → C t i →
      (serve' s i).1 = (serve t i).1 ∧ R (serve' s i).2 (serve t i).2)
    (program : Program ι δ ο α) {s : σ} {t : τ} (related : R s t)
    (meets : program.Meets serve C t) :
    (program.run serve' s).1 = (program.run serve t).1 ∧
      R (program.run serve' s).2 (program.run serve t).2 := by
  induction program generalizing s t with
  | done a => exact ⟨rfl, related⟩
  | call i next ih =>
      rw [Meets] at meets
      obtain ⟨condition, later⟩ := meets
      obtain ⟨same, related⟩ := step s t i related condition
      rw [run, run]
      rcases left : serve' s i with ⟨result, s'⟩
      rcases right : serve t i with ⟨_ | _ | _, t'⟩ <;> rw [left, right] at same related <;>
        rw [right] at later <;> cases same
      · exact ih _ related later
      · exact ih _ related later
      · exact ⟨rfl, related⟩

/-- **A run against a specification**, which may allow several results of a call. -/
inductive Runs {υ : Type} (allows : υ → ι → Outcome δ ο → υ → Prop) :
    Program ι δ ο α → υ → Except Panic α → υ → Prop
  | done (a : α) (u : υ) : Runs allows (done a) u (.ok a) u
  | call {i : ι} {next : Except δ ο → Program ι δ ο α} {result : Except δ ο} {u u' u'' : υ}
      {out : Except Panic α} (step : allows u i (.ofExcept result) u')
      (rest : Runs allows (next result) u' out u'') : Runs allows (call i next) u out u''
  | panic {i : ι} {next : Except δ ο → Program ι δ ο α} {p : Panic} {u u' : υ}
      (step : allows u i (.panic p) u') : Runs allows (call i next) u (.error p) u'

/-- **Refinement.**  A component whose every call is allowed, in the view of its state, runs every
program as the specification allows. -/
theorem run_refines {υ : Type} {allows : υ → ι → Outcome δ ο → υ → Prop} {view : τ → υ}
    {inv : τ → Prop}
    (step : ∀ t i, inv t → allows (view t) i (serve t i).1 (view (serve t i).2) ∧ inv (serve t i).2)
    (program : Program ι δ ο α) {t : τ} (holds : inv t) :
    program.Runs allows (view t) (program.run serve t).1 (view (program.run serve t).2) := by
  induction program generalizing t with
  | done a => exact .done a _
  | call i next ih =>
      have first := step t i holds
      rw [run]
      rcases served : serve t i with ⟨a | e | p, t'⟩ <;> rw [served] at first
      · exact .call (show allows _ i (.ofExcept (.ok a)) _ from first.1) (ih _ first.2)
      · exact .call (show allows _ i (.ofExcept (.error e)) _ from first.1) (ih _ first.2)
      · exact .panic first.1

/-- **The program ends** with a value, after calls that return or fail and meet a condition. -/
inductive Yields (serve : τ → ι → Outcome δ ο × τ) (C : τ → ι → Prop) :
    Program ι δ ο α → τ → α → τ → Prop
  | done (a : α) (t : τ) : Yields serve C (done a) t a t
  | call {i : ι} {next : Except δ ο → Program ι δ ο α} {result : Except δ ο} {t t' t'' : τ} {a : α}
      (meets : C t i) (served : serve t i = (.ofExcept result, t'))
      (rest : Yields serve C (next result) t' a t'') : Yields serve C (call i next) t a t''

namespace Yields

variable {C : τ → ι → Prop} {x : Program ι δ ο α} {a : α} {t t' : τ}

theorem run (h : Yields serve C x t a t') : x.run serve t = (.ok a, t') := by
  induction h with
  | done a t => rfl
  | @call i next result t t' t'' a _ served _ ih =>
      rw [Program.run, served]
      cases result <;> exact ih

theorem meets (h : Yields serve C x t a t') : x.Meets serve C t := by
  induction h with
  | done a t => trivial
  | @call i next result t t' t'' a meets served _ ih =>
      rw [Meets, served]
      cases result <;> exact ⟨meets, ih⟩

/-- What comes after a program that ended. -/
theorem bind (h : Yields serve C x t a t') {k : α → Program ι δ ο β} {b : β} {t'' : τ}
    (rest : Yields serve C (k a) t' b t'') : Yields serve C (x.bind k) t b t'' := by
  induction h with
  | done a t => exact rest
  | call meets served _ ih => exact .call meets served (ih rest)

end Yields

end Program

/-- A method that makes calls: it is played on its own receiver `σ`, and leaves the serving of the
calls open. -/
def Caller (ι δ ο σ ε α : Type) := σ → Program ι δ ο (Outcome ε α × σ)

namespace Caller

variable {ι δ ο σ ε α β τ υ : Type}

/-- Start the method on a receiver. -/
def start (x : Caller ι δ ο σ ε α) (s : σ) : Program ι δ ο (Outcome ε α × σ) := x s

/-- Sequencing; an error or a panic ends the whole. -/
protected def bind (x : Caller ι δ ο σ ε α) (f : α → Caller ι δ ο σ ε β) : Caller ι δ ο σ ε β :=
  fun s => (x s).bind fun
    | (.ok a, t) => f a t
    | (.err e, t) => .done (.err e, t)
    | (.panic p, t) => .done (.panic p, t)

instance : Monad (Caller ι δ ο σ ε) where
  pure a := fun s => .done (.ok a, s)
  bind := Caller.bind

/-- A method that makes no calls. -/
def ofMethod (x : Method σ ε α) : Caller ι δ ο σ ε α := fun s => .done (x.run s)

/-- Read the receiver. -/
def get : Caller ι δ ο σ ε σ := ofMethod Method.get

/-- `return Err(e)`. -/
def throw (e : ε) : Caller ι δ ο σ ε α := ofMethod (Method.throw e)

/-- A computation that does not touch the receiver (`?` on its result). -/
def lift (o : Outcome ε α) : Caller ι δ ο σ ε α := ofMethod (Method.lift o)

/-- Make a call and match on the result: an error of the component is a value here. -/
def call (i : ι) : Caller ι δ ο σ ε (Except δ ο) := fun s => .call i fun o => .done (.ok o, s)

/-- Make a call; `?` converts its error and returns it, so what follows is not done then. -/
def invoke (wrap : δ → ε) (i : ι) : Caller ι δ ο σ ε ο := do
  match ← call i with
  | .ok a => return a
  | .error e => throw (wrap e)

/-- Match on the result of a method: an error is handed over as a value, a panic still ends the
caller. -/
def caught {ε' : Type} (x : Caller ι δ ο σ ε α) : Caller ι δ ο σ ε' (Except ε α) := fun s =>
  (x s).bind fun
    | (.ok a, t) => .done (.ok (.ok a), t)
    | (.err e, t) => .done (.ok (.error e), t)
    | (.panic p, t) => .done (.panic p, t)

section Yields

variable {serve : τ → ι → Outcome δ ο × τ} {C : τ → ι → Prop} {s s' s'' : σ} {t t' t'' : τ}

/-- A method whose first part returned. -/
theorem yields_bind {x : Caller ι δ ο σ ε α} {f : α → Caller ι δ ο σ ε β} {a : α}
    {out : Outcome ε β} (first : (x.start s).Yields serve C t (.ok a, s') t')
    (rest : ((f a).start s').Yields serve C t' (out, s'') t'') :
    ((x >>= f).start s).Yields serve C t (out, s'') t'' :=
  first.bind rest

theorem yields_ofMethod {x : Method σ ε α} {out : Outcome ε α} (run : x.run s = (out, s')) (t : τ) :
    ((ofMethod x : Caller ι δ ο σ ε α).start s).Yields serve C t (out, s') t := by
  rw [← run]
  exact .done _ _

theorem yields_get (s : σ) (t : τ) :
    ((get : Caller ι δ ο σ ε σ).start s).Yields serve C t (.ok s, s) t :=
  yields_ofMethod rfl t

/-- A call that returned. -/
theorem yields_invoke {wrap : δ → ε} {i : ι} {a : ο} (meets : C t i)
    (served : serve t i = (.ok a, t')) (s : σ) :
    ((invoke wrap i : Caller ι δ ο σ ε ο).start s).Yields serve C t (.ok a, s) t' :=
  yields_bind (.call meets (show serve t i = (.ofExcept (.ok a), t') from served) (.done _ _))
    (.done _ _)

end Yields

/-! ### Refinement with a budget -/

/-- **Implementation.**  From related states and with a budget for it, `x` makes its calls, all of
which meet the condition, and ends with the outcome of `y`, in states that are related to what `y`
leaves. -/
def Implements (serve : τ → ι → Outcome δ ο × τ) (C : τ → ι → Prop) (R : ℕ → σ → τ → υ → Prop)
    (cost : ℕ) (x : Caller ι δ ο σ ε α) (y : Method υ ε α) : Prop :=
  ∀ n s t u, R (n + cost) s t u → ∃ s' t',
    (x.start s).Yields serve C t ((y.run u).1, s') t' ∧ R n s' t' (y.run u).2

namespace Implements

variable {serve : τ → ι → Outcome δ ο × τ} {C : τ → ι → Prop} {R : ℕ → σ → τ → υ → Prop}
  {cost cost' : ℕ}

theorem lift (o : Outcome ε α) :
    Implements serve C R 0 (Caller.lift o) (Method.lift o : Method υ ε α) :=
  fun _ s t _ related => ⟨s, t, .done _ _, related⟩

theorem pure (a : α) :
    Implements serve C R 0 (Pure.pure a : Caller ι δ ο σ ε α) (Pure.pure a : Method υ ε α) :=
  fun _ s t _ related => ⟨s, t, .done _ _, related⟩

theorem throw (e : ε) :
    Implements serve C R 0 (Caller.throw e : Caller ι δ ο σ ε α) (Method.throw e : Method υ ε α) :=
  fun _ s t _ related => ⟨s, t, .done _ _, related⟩

/-- A larger budget does no harm: what a method does not use up is left to its caller. -/
theorem mono (spare : ∀ n s t u, R (n + 1) s t u → R n s t u) {x : Caller ι δ ο σ ε α}
    {y : Method υ ε α} (h : Implements serve C R cost x y) (more : cost ≤ cost') :
    Implements serve C R cost' x y := by
  intro n s t u related
  obtain ⟨extra, rfl⟩ := Nat.exists_eq_add_of_le more
  refine h n s t u ?_
  clear more
  induction extra with
  | zero => exact related
  | succ extra ih => exact ih (spare _ s t u related)

/-- **Sequencing adds the budgets.** The second half is started with what the first has left
over. -/
theorem bind (spare : ∀ n s t u, R (n + 1) s t u → R n s t u) {x : Caller ι δ ο σ ε α}
    {y : Method υ ε α} {f : α → Caller ι δ ο σ ε β} {g : α → Method υ ε β}
    (first : Implements serve C R cost x y) (second : ∀ a, Implements serve C R cost' (f a) (g a)) :
    Implements serve C R (cost + cost') (x >>= f) (y >>= g) := by
  intro n s t u related
  obtain ⟨s₁, t₁, yields, related⟩ := first (n + cost') s t u
    (by rw [Nat.add_assoc, Nat.add_comm cost']; exact related)
  rw [Method.run_bind]
  rcases result : y.run u with ⟨a | e | p, u₁⟩ <;> rw [result] at yields related
  · obtain ⟨s₂, t₂, rest, related⟩ := second a n s₁ t₁ u₁ related
    exact ⟨s₂, t₂, yields.bind rest, related⟩
  -- A first half that did not return leaves the budget of the second one unused.
  · obtain ⟨s₂, t₂, rest, related⟩ := (throw e).mono spare (Nat.zero_le cost') n s₁ t₁ u₁ related
    exact ⟨s₂, t₂, yields.bind rest, related⟩
  · obtain ⟨s₂, t₂, rest, related⟩ :=
      (lift (.panic p)).mono spare (Nat.zero_le cost') n s₁ t₁ u₁ related
    exact ⟨s₂, t₂, yields.bind rest, related⟩

/-- The value that is returned may be put into a form. -/
theorem map (spare : ∀ n s t u, R (n + 1) s t u → R n s t u) {x : Caller ι δ ο σ ε α}
    {y : Method υ ε α} (h : Implements serve C R cost x y) (f : α → β) :
    Implements serve C R cost (do return f (← x)) (do return f (← y)) :=
  h.bind spare fun a => pure (f a)

/-- A computation without calls, and what comes after it if it returns. -/
theorem lift_bind {o : Outcome ε α} {f : α → Caller ι δ ο σ ε β} {g : α → Method υ ε β}
    (spare : ∀ n s t u, R (n + 1) s t u → R n s t u)
    (rest : ∀ a, o = .ok a → Implements serve C R cost (f a) (g a)) :
    Implements serve C R cost (Caller.lift o >>= f) (Method.lift o >>= g) := by
  rcases o with a | e | p
  · exact rest a rfl
  · exact (throw e).mono spare (Nat.zero_le cost)
  · exact (lift (.panic p)).mono spare (Nat.zero_le cost)

theorem caught {ε' : Type} {x : Caller ι δ ο σ ε α} {y : Method υ ε α}
    (h : Implements serve C R cost x y) :
    Implements serve C R cost (x.caught : Caller ι δ ο σ ε' (Except ε α))
      (y.onPart id fun u _ => u) := by
  intro n s t u related
  obtain ⟨s', t', yields, related⟩ := h n s t u related
  rw [Method.run_onPart, id]
  rcases result : y.run u with ⟨a | e | p, u'⟩ <;> rw [result] at yields related
  · exact ⟨s', t', yields.bind (.done _ _), related⟩
  · exact ⟨s', t', yields.bind (.done _ _), related⟩
  · exact ⟨s', t', yields.bind (.done _ _), related⟩

theorem ite {c : Prop} [Decidable c] {x x' : Caller ι δ ο σ ε α} {y y' : Method υ ε α}
    (yes : c → Implements serve C R cost x y) (no : ¬ c → Implements serve C R cost x' y') :
    Implements serve C R cost (if c then x else x') (if c then y else y') := by
  split
  · exact yes ‹_›
  · exact no ‹_›

end Implements

end Caller

end Rust
