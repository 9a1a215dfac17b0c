import Mathlib.Data.List.Induction

/-!
# Runs of a machine

A component is a *machine*: a function `step` that takes a state and an input to an output and a
next state.  `exec` runs it over a list of inputs, and `history` is what an observer has seen on the
way: the inputs with their outputs, most recent first.

## Histories, most recent first

A property of a whole past is proved by induction over the run, and the step of that induction adds
one event.  With the most recent event in front this is a `cons`, so recursive functions over
histories (what was stored, what was acknowledged, which key was written last) unfold by `simp` in
the step.  `exec_append` and `history_append` cut a run in two, so that "at some point of the run"
is a split of the list of inputs, and needs no index into it.

## Conditions on a run

`Always P` says that every step of a run meets the condition `P`, which may look at the state the
step starts in.  It is how an assumption on the environment enters a theorem: not as a bound on the
whole run but as what each single step may find.

## The rules

* `always_induction` is the one induction over runs.  It proves a property of the history and the
  state together, which is what statements about a whole past need.
* `run_induction` is its special case without a condition, and `exec_induction` the one for state
  invariants.
* `kept_induction` is for two machines of which the second takes only part of the inputs of the
  first, as `kept` selects and translates them.
* `run_of_simulates` moves a run along a function that commutes with the step.
-/

namespace Machine

universe u v w

variable {σ : Type u} {ι : Type v} {ο : Type w} (step : σ → ι → ο × σ)

/-- The state after a list of inputs.  Outputs are dropped here; `history` keeps them. -/
def exec (s : σ) : List ι → σ
  | [] => s
  | i :: rest => exec (step s i).2 rest

/-- What was seen while running over a list of inputs, put before what was seen
earlier; most recent first. -/
def historyFrom (s : σ) (seen : List (ι × ο)) : List ι → List (ι × ο)
  | [] => seen
  | i :: rest => historyFrom (step s i).2 ((i, (step s i).1) :: seen) rest

/-- What was seen while running over a list of inputs, most recent first. -/
def history (s : σ) (inputs : List ι) : List (ι × ο) := historyFrom step s [] inputs

@[simp] theorem exec_nil (s : σ) : exec step s [] = s := rfl

@[simp] theorem exec_cons (s : σ) (i : ι) (rest : List ι) :
    exec step s (i :: rest) = exec step (step s i).2 rest := rfl

theorem exec_append (s : σ) (front back : List ι) :
    exec step s (front ++ back) = exec step (exec step s front) back := by
  induction front generalizing s with
  | nil => rfl
  | cons i front ih => exact ih (step s i).2

theorem historyFrom_eq (s : σ) (seen : List (ι × ο)) (inputs : List ι) :
    historyFrom step s seen inputs = history step s inputs ++ seen := by
  induction inputs generalizing s seen with
  | nil => rfl
  | cons i rest ih =>
      rw [history, historyFrom, historyFrom, ih, ih (step s i).2 [(i, (step s i).1)],
        List.append_assoc, List.singleton_append]

theorem history_cons (s : σ) (i : ι) (rest : List ι) :
    history step s (i :: rest) = history step (step s i).2 rest ++ [(i, (step s i).1)] :=
  historyFrom_eq step (step s i).2 [(i, (step s i).1)] rest

theorem history_append (s : σ) (front back : List ι) :
    history step s (front ++ back)
      = history step (exec step s front) back ++ history step s front := by
  induction front generalizing s with
  | nil => exact (List.append_nil _).symm
  | cons i front ih =>
      rw [List.cons_append, history_cons, history_cons, ih, exec_cons, List.append_assoc]

theorem exec_concat (s : σ) (inputs : List ι) (i : ι) :
    exec step s (inputs ++ [i]) = (step (exec step s inputs) i).2 :=
  exec_append step s inputs [i]

theorem history_concat (s : σ) (inputs : List ι) (i : ι) :
    history step s (inputs ++ [i])
      = (i, (step (exec step s inputs) i).1) :: history step s inputs :=
  history_append step s inputs [i]

/-- The outputs of a run, in their order.  Unlike `history` it does not say which input an output
belongs to. -/
def outputs (s : σ) : List ι → List ο
  | [] => []
  | i :: rest => (step s i).1 :: outputs (step s i).2 rest

/-- What `note` records of the steps of a run, most recent first.  It looks at the state and the
input, so it can record what no output shows. -/
def notes {α : Type*} (note : σ → ι → Option α) (s : σ) : List ι → List α
  | [] => []
  | i :: rest => notes note (step s i).2 rest ++ (note s i).toList

theorem notes_append {α : Type*} (note : σ → ι → Option α) (s : σ) (front back : List ι) :
    notes step note s (front ++ back)
      = notes step note (exec step s front) back ++ notes step note s front := by
  induction front generalizing s with
  | nil => exact (List.append_nil _).symm
  | cons i front ih => rw [List.cons_append, notes, notes, ih, List.append_assoc, exec_cons]

theorem notes_concat {α : Type*} (note : σ → ι → Option α) (s : σ) (inputs : List ι) (i : ι) :
    notes step note s (inputs ++ [i])
      = (note (exec step s inputs) i).toList ++ notes step note s inputs :=
  notes_append step note s inputs [i]

/-- What `project` keeps of the inputs of a run, in their order.  What is kept of an input may
depend on the state that takes it. -/
def kept {κ : Type*} (project : σ → ι → Option κ) (s : σ) : List ι → List κ
  | [] => []
  | i :: rest => (project s i).toList ++ kept project (step s i).2 rest

theorem kept_concat {κ : Type*} (project : σ → ι → Option κ) (s : σ) (inputs : List ι) (i : ι) :
    kept step project s (inputs ++ [i])
      = kept step project s inputs ++ (project (exec step s inputs) i).toList := by
  induction inputs generalizing s with
  | nil => exact List.append_nil _
  | cons j rest ih => rw [List.cons_append, kept, kept, ih, List.append_assoc, exec_cons]

/-- Every step of the run starts in a state and takes an input related by `P`.  An empty run meets
every condition. -/
def Always (P : σ → ι → Prop) (s : σ) : List ι → Prop
  | [] => True
  | i :: rest => P s i ∧ Always P (step s i).2 rest

instance decidableAlways (P : σ → ι → Prop) [∀ s i, Decidable (P s i)] :
    (s : σ) → (inputs : List ι) → Decidable (Always step P s inputs)
  | _, [] => .isTrue trivial
  | s, i :: rest =>
      have := decidableAlways P (step s i).2 rest
      inferInstanceAs (Decidable (P s i ∧ Always step P (step s i).2 rest))

theorem always_append {P : σ → ι → Prop} {s : σ} {front back : List ι} :
    Always step P s (front ++ back) ↔
      Always step P s front ∧ Always step P (exec step s front) back := by
  induction front generalizing s with
  | nil => simp [Always]
  | cons i front ih => simp [Always, ih, and_assoc]

theorem always_concat {P : σ → ι → Prop} {s : σ} {inputs : List ι} {i : ι} :
    Always step P s (inputs ++ [i]) ↔ Always step P s inputs ∧ P (exec step s inputs) i := by
  simp [always_append, Always]

variable {step}

/-- A condition that holds of every state and input is met by every run. -/
theorem always_of_forall {P : σ → ι → Prop} (h : ∀ s i, P s i) (s : σ) (inputs : List ι) :
    Always step P s inputs := by
  induction inputs generalizing s with
  | nil => trivial
  | cons i rest ih => exact ⟨h s i, ih (step s i).2⟩

/-- Under an invariant one condition may imply another; then it does so along every run. -/
theorem Always.imp_of_invariant {C D : σ → ι → Prop} {I : σ → Prop}
    (keeps : ∀ s i, I s → I (step s i).2) (implies : ∀ s i, I s → C s i → D s i) {s : σ}
    {inputs : List ι} (invariant : I s) (meets : Always step C s inputs) :
    Always step D s inputs := by
  induction inputs generalizing s with
  | nil => trivial
  | cons i rest ih =>
      exact ⟨implies s i invariant meets.1, ih (keeps s i invariant) meets.2⟩

/-- **Induction over conditioned runs.**  A property of history and state that holds at the
start and survives every step that meets the condition holds after every run whose steps all
meet it. -/
theorem always_induction {C : σ → ι → Prop} {P : List (ι × ο) → σ → Prop} {s : σ}
    (start : P [] s)
    (next : ∀ seen t i, C t i → P seen t → P ((i, (step t i).1) :: seen) (step t i).2)
    {inputs : List ι} (meets : Always step C s inputs) :
    P (history step s inputs) (exec step s inputs) := by
  induction inputs using List.reverseRecOn with
  | nil => exact start
  | append_singleton inputs i ih =>
      obtain ⟨earlier, last⟩ := (always_concat step).mp meets
      rw [history_concat, exec_concat]
      exact next _ _ i last (ih earlier)

/-- **Induction over runs.**  A property of history and state that holds at the start
and survives every step holds after every list of inputs. -/
theorem run_induction {P : List (ι × ο) → σ → Prop} {s : σ} (start : P [] s)
    (next : ∀ seen t i, P seen t → P ((i, (step t i).1) :: seen) (step t i).2)
    (inputs : List ι) : P (history step s inputs) (exec step s inputs) :=
  always_induction (C := fun _ _ => True) start (fun seen t i _ => next seen t i)
    (always_of_forall (fun _ _ => trivial) s inputs)

/-- **Induction over a run and its projection.**  A second machine takes the inputs that `project`
keeps of a run of the first.  What relates histories and states at the start, survives a step whose
input is dropped and survives a step that both machines take, relates them after every run. -/
theorem kept_induction {τ κ ο' : Type*} {other : τ → κ → ο' × τ} {project : σ → ι → Option κ}
    {P : List (ι × ο) → σ → List (κ × ο') → τ → Prop} {s : σ} {t : τ} (start : P [] s [] t)
    (dropped : ∀ seen s seen' t i, project s i = none → P seen s seen' t →
      P ((i, (step s i).1) :: seen) (step s i).2 seen' t)
    (matched : ∀ seen s seen' t i k, project s i = some k → P seen s seen' t →
      P ((i, (step s i).1) :: seen) (step s i).2 ((k, (other t k).1) :: seen') (other t k).2)
    (inputs : List ι) :
    P (history step s inputs) (exec step s inputs)
      (history other t (kept step project s inputs))
      (exec other t (kept step project s inputs)) := by
  induction inputs using List.reverseRecOn with
  | nil => exact start
  | append_singleton inputs i ih =>
      rw [history_concat, exec_concat, kept_concat]
      rcases keeps : project (exec step s inputs) i with _ | k
      · rw [Option.toList_none, List.append_nil]
        exact dropped _ _ _ _ i keeps ih
      · rw [Option.toList_some, history_concat, exec_concat]
        exact matched _ _ _ _ i k keeps ih

section Simulation

variable {τ : Type*} {other : τ → ι → ο × τ} {f : σ → τ}
  (simulates : ∀ s i, other (f s) i = ((step s i).1, f (step s i).2))
include simulates

/-- **Simulation.**  A machine that does on the image of every state what another one does on the
state itself runs alike. -/
theorem run_of_simulates (s : σ) (inputs : List ι) :
    exec other (f s) inputs = f (exec step s inputs) ∧
      history other (f s) inputs = history step s inputs := by
  induction inputs using List.reverseRecOn with
  | nil => exact ⟨rfl, rfl⟩
  | append_singleton inputs i ih =>
      rw [exec_concat, exec_concat, history_concat, history_concat, ih.1, ih.2, simulates]
      exact ⟨rfl, rfl⟩

theorem always_of_simulates {P : τ → ι → Prop} {s : σ} {inputs : List ι} :
    Always other P (f s) inputs ↔ Always step (fun s i => P (f s) i) s inputs := by
  induction inputs generalizing s with
  | nil => exact Iff.rfl
  | cons i rest ih =>
      rw [Always, Always, simulates]
      exact and_congr_right fun _ => ih

end Simulation

/-- **Invariants.** What holds of a state and survives every step holds after every list of inputs.
This is the rule for a property that does not look at the past. -/
theorem exec_induction {P : σ → Prop} {s : σ} (start : P s)
    (next : ∀ t i, P t → P (step t i).2) (inputs : List ι) : P (exec step s inputs) :=
  run_induction (P := fun _ t => P t) start (fun _ t i h => next t i h) inputs

end Machine
