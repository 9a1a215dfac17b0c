import Mathlib.Logic.Relation
import Mathlib.Tactic.Common

/-!
# Runs whose order does not matter

A system of several parties takes one step at a time, and which party goes next is not determined.
If two different steps from a state can always be completed by *one* step each to a common state
(`Diamond`), then the order is immaterial in a strong sense: as soon as one run ends, every run
does, after the same number of steps and in the same state.

## Termination is not assumed

`Settles.of_steps` takes it from a single run, so that it is enough to exhibit the run that is
easiest to follow, such as the one in which every message is delivered as soon as it is sent.
(`Relation.church_rosser` only joins two runs; it says nothing about their length, and nothing about
a run that might not end.) The argument is `Steps.strip`: any first step can be put in front of the
run that is known to end, at the cost of one step of that run.

## Two parties

`diamond_of_commute` is the case that arises for a client and a server connected by queues: each
party has at most one step in every state, and the steps of the two commute, because one only
appends to the queue from which the other takes.
-/

namespace Confluence

universe u

variable {σ : Type u}

/-- Two different steps from one state are completed by one step each to a common state.  Steps to
the same state need no completion. -/
def Diamond (step : σ → σ → Prop) : Prop :=
  ∀ ⦃a b c⦄, step a b → step a c → b = c ∨ ∃ d, step b d ∧ step c d

/-- No step is possible: every party has ended or waits for a message that is not there. -/
def Final (step : σ → σ → Prop) (a : σ) : Prop := ∀ b, ¬ step a b

/-- A run of `n` steps.  The number is kept because the result says that all runs have the same
length. -/
inductive Steps (step : σ → σ → Prop) : ℕ → σ → σ → Prop
  | refl (a : σ) : Steps step 0 a a
  | head {n : ℕ} {a b c : σ} (first : step a b) (rest : Steps step n b c) : Steps step (n + 1) a c

namespace Steps

variable {step : σ → σ → Prop} {a b c : σ} {m n : ℕ}

theorem single (h : step a b) : Steps step 1 a b := .head h (.refl b)

theorem trans (first : Steps step m a b) (second : Steps step n b c) :
    Steps step (m + n) a c := by
  induction first with
  | refl a =>
      rw [Nat.zero_add]
      exact second
  | @head m a a' b h _ ih =>
      rw [Nat.add_right_comm]
      exact .head h (ih second)

/-- **The first step is immaterial.**  A run to a final state can be taken up behind any other
first step, and is one step shorter from there. -/
theorem strip (diamond : Diamond step) (final : Final step c) (run : Steps step n a c)
    (h : step a b) : ∃ m, n = m + 1 ∧ Steps step m b c := by
  induction run generalizing b with
  | refl a => exact absurd h (final b)
  | @head n a a' c first rest ih =>
      rcases diamond first h with rfl | ⟨d, fromFirst, fromOther⟩
      · exact ⟨n, rfl, rest⟩
      · -- The rest of the run is stripped of the step to `d` in turn.
        obtain ⟨m, rfl, shorter⟩ := ih final fromFirst
        exact ⟨m + 1, rfl, .head fromOther shorter⟩

/-- **Every run can be completed** to the final state that one of them has reached, and in the
same number of steps altogether. -/
theorem completes (diamond : Diamond step) (final : Final step c) (run : Steps step n a c)
    {k : ℕ} (other : Steps step k a b) : k ≤ n ∧ Steps step (n - k) b c := by
  induction other generalizing n with
  | refl a => exact ⟨Nat.zero_le n, run⟩
  | @head k a a' b first _ ih =>
      obtain ⟨m, rfl, shorter⟩ := run.strip diamond final first
      obtain ⟨within, completed⟩ := ih shorter
      refine ⟨Nat.succ_le_succ within, ?_⟩
      rw [Nat.add_sub_add_right]
      exact completed

end Steps

/-- **Every run ends in one state**, with a given property: there is a number of steps within which
every run stays and can be completed to that state. -/
def Settles (step : σ → σ → Prop) (a : σ) (P : σ → Prop) : Prop :=
  ∃ n final, Final step final ∧ P final ∧
    ∀ k b, Steps step k a b → k ≤ n ∧ Steps step (n - k) b final

/-- It is enough to follow one run to its end: with the diamond, every other run can be completed to
that end. -/
theorem Settles.of_steps {step : σ → σ → Prop} {P : σ → Prop} {a c : σ} {n : ℕ}
    (diamond : Diamond step) (run : Steps step n a c) (final : Final step c) (holds : P c) :
    Settles step a P :=
  ⟨n, c, final, holds, fun _ _ other => run.completes diamond final other⟩

/-- **Two parties.** Each of them has at most one step, and the steps of different parties commute.
Two different steps from one state are then steps of different parties. -/
theorem diamond_of_commute {first second : σ → Option σ}
    (commute : ∀ a b c, first a = some b → second a = some c →
      ∃ d, second b = some d ∧ first c = some d) :
    Diamond fun a b => first a = some b ∨ second a = some b := by
  rintro a b c (hb | hb) (hc | hc)
  · exact .inl (Option.some.inj (hb.symm.trans hc))
  · obtain ⟨d, left, right⟩ := commute a b c hb hc
    exact .inr ⟨d, .inr left, .inl right⟩
  · obtain ⟨d, left, right⟩ := commute a c b hc hb
    exact .inr ⟨d, .inl right, .inr left⟩
  · exact .inl (Option.some.inj (hb.symm.trans hc))

end Confluence
