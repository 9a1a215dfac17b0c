import Mathlib.Data.List.Forall2
import Rdows.Lib.Outcome

/-!
# Scripts: handlers in closed form

A handler that serves one request changes its state, sends some replies under consecutive numbers,
and ends.  Once all its decisions are taken, what is left is a `Script`: the replies in order, the
state it is in at each of them, and how it ends.

## Why a closed form

A transport may refuse any send, so a handler with several replies has as many ways to be cut short.
Reasoning about the handler itself would repeat the case of a failed send at every reply and for
every property.  A script is data: properties of all its replies and of all the states in which it
can be left are recursive predicates over it, and the failing transport is dealt with once, in the
lemmas about `Script.run`.

`Script.run` plays a script over a transport that may refuse a send.  A send that is refused ends
the script there, with the number taken and the message not sent.

## The rules

* `run_eq_of_isOk`: a script that was played to its end sent all its replies.
* `run_upholds`: what holds wherever the script can be cut short or end holds when it was played,
  whatever was refused.
* `run_sent`: what was sent is an initial part of what the script says; with `Each.emits`, what
  holds of every reply of the script holds of every message.
* `Twin`: two scripts with the same replies and related states.  They are played alike (`Twin.run`),
  from related numbers on.
-/

namespace Rust

/-- What a handler does from now on: it ends in one of three ways, or it sends a reply and goes on
if that was sent.  Every node carries the state the handler is in. -/
inductive Script (σ ε ρ : Type) where
  | done (s : σ)
  | fail (e : ε) (s : σ)
  | crash (p : Panic) (s : σ)
  | reply (s : σ) (r : ρ) (next : Script σ ε ρ)

/-- How replies are numbered: the state with another next number, and the message that a reply
becomes under a number.  Numbers wrap around as the counter of the source does. -/
structure Numbering (σ ρ μ : Type) where
  renumber : σ → UInt32 → σ
  stamp : σ → UInt32 → ρ → μ

namespace Script

variable {σ ε ρ μ : Type}

/-- Reply once and return. -/
def answer (s : σ) (r : ρ) : Script σ ε ρ := .reply s r (.done s)

/-- Play the script.  `refuses` says which sends fail; `n` is the next number and `sent` what was
sent before. -/
def run (num : Numbering σ ρ μ) (refuses : ℕ → Option ε) :
    Script σ ε ρ → UInt32 → List μ → Outcome ε Unit × σ × List μ
  | done s, n, sent => (.ok (), num.renumber s n, sent)
  | fail e s, n, sent => (.err e, num.renumber s n, sent)
  | crash p s, n, sent => (.panic p, num.renumber s n, sent)
  | reply s r next, n, sent =>
      match refuses sent.length with
      | none => next.run num refuses (n + 1) (sent ++ [num.stamp s n r])
      | some e => (.err e, num.renumber s (n + 1), sent)

/-- The messages that the replies become from the number `n` on, if none is refused. -/
def emits (num : Numbering σ ρ μ) : Script σ ε ρ → UInt32 → List μ
  | done _, _ => []
  | fail _ _, _ => []
  | crash _ _, _ => []
  | reply s r next, n => num.stamp s n r :: next.emits num (n + 1)

/-- The state at the end of the script, before its number is put in. -/
def final : Script σ ε ρ → σ
  | done s => s
  | fail _ s => s
  | crash _ s => s
  | reply _ _ next => next.final

/-- How the script ends when every send succeeds. -/
def ending : Script σ ε ρ → Outcome ε Unit
  | done _ => .ok ()
  | fail e _ => .err e
  | crash p _ => .panic p
  | reply _ _ next => next.ending

/-- Where the script is cut short by a send that fails, `cut` holds of the messages sent by then and
of the state; where it ends, `ends` holds of the outcome, the messages and the state. -/
def Upholds (num : Numbering σ ρ μ) : (List μ → σ → Prop) →
    (Outcome ε Unit → List μ → σ → Prop) → Script σ ε ρ → UInt32 → Prop
  | _, ends, done s, _ => ends (.ok ()) [] s
  | _, ends, fail e s, _ => ends (.err e) [] s
  | _, ends, crash p s, _ => ends (.panic p) [] s
  | cut, ends, reply s r next, n =>
      cut [] s ∧ next.Upholds num (fun sent t => cut (num.stamp s n r :: sent) t)
        (fun o sent t => ends o (num.stamp s n r :: sent) t) (n + 1)

/-- Wherever the script is cut short or ends, `P` holds of the messages sent by then and of the
state. -/
abbrev Throughout (num : Numbering σ ρ μ) (P : List μ → σ → Prop) (p : Script σ ε ρ)
    (n : UInt32) : Prop :=
  p.Upholds num P (fun _ => P) n

section Run

variable {num : Numbering σ ρ μ} {refuses : ℕ → Option ε}

/-- **What a script leaves behind**: it was played to its end, and what it upholds there is true; or
a reply was refused, and what it upholds at that reply is. -/
theorem run_upholds (refuses : ℕ → Option ε) {cut : List μ → σ → Prop}
    {ends : Outcome ε Unit → List μ → σ → Prop}
    (cutNumbers : ∀ sent s n, cut sent s → cut sent (num.renumber s n))
    (endNumbers : ∀ o sent s n, ends o sent s → ends o sent (num.renumber s n))
    {p : Script σ ε ρ} {n : UInt32} (upholds : p.Upholds num cut ends n) (sent : List μ) :
    ∃ front, (p.run num refuses n sent).2.2 = sent ++ front ∧
      (ends (p.run num refuses n sent).1 front (p.run num refuses n sent).2.1 ∨
        cut front (p.run num refuses n sent).2.1 ∧
          ∃ i e, refuses i = some e ∧ (p.run num refuses n sent).1 = .err e) := by
  induction p generalizing cut ends n sent with
  | done s => exact ⟨[], (List.append_nil _).symm, .inl (endNumbers _ _ s n upholds)⟩
  | fail e s => exact ⟨[], (List.append_nil _).symm, .inl (endNumbers _ _ s n upholds)⟩
  | crash c s => exact ⟨[], (List.append_nil _).symm, .inl (endNumbers _ _ s n upholds)⟩
  | reply s r next ih =>
      unfold run
      rcases refused : refuses sent.length with _ | e
      · obtain ⟨front, sends, holds⟩ := ih (fun later t => cutNumbers (_ :: later) t)
          (fun o later t => endNumbers o (_ :: later) t) upholds.2 (sent ++ [num.stamp s n r])
        refine ⟨num.stamp s n r :: front, ?_, holds⟩
        exact sends.trans (by rw [List.append_assoc, List.singleton_append])
      · exact ⟨[], (List.append_nil _).symm,
          .inr ⟨cutNumbers _ s _ upholds.1, sent.length, e, refused, rfl⟩⟩

/-- **What is sent** is an initial part of what the script says: a transport can withhold messages
but not change or reorder them. -/
theorem run_sent (p : Script σ ε ρ) (n : UInt32) (sent : List μ) :
    ∃ front, front <+: p.emits num n ∧ (p.run num refuses n sent).2.2 = sent ++ front := by
  induction p generalizing n sent with
  | done s => exact ⟨[], List.nil_prefix, (List.append_nil _).symm⟩
  | fail e s => exact ⟨[], List.nil_prefix, (List.append_nil _).symm⟩
  | crash c s => exact ⟨[], List.nil_prefix, (List.append_nil _).symm⟩
  | reply s r next ih =>
      unfold run
      rcases refuses sent.length with _ | e
      · obtain ⟨front, initial, later⟩ := ih (n + 1) (sent ++ [num.stamp s n r])
        refine ⟨num.stamp s n r :: front, List.cons_prefix_cons.mpr ⟨rfl, initial⟩, ?_⟩
        exact later.trans (by rw [List.append_assoc, List.singleton_append])
      · exact ⟨[], List.nil_prefix, (List.append_nil _).symm⟩

/-- The number after the last reply. -/
def nextNumber : Script σ ε ρ → UInt32 → UInt32
  | done _, n => n
  | fail _ _, n => n
  | crash _ _, n => n
  | reply _ _ next, n => next.nextNumber (n + 1)

/-- **A script that returned was played to its end**, so all its replies were sent.  A reply that is
refused makes the script fail. -/
theorem run_eq_of_isOk {p : Script σ ε ρ} {n : UInt32} {sent : List μ}
    (ok : (p.run num refuses n sent).1.IsOk) :
    p.ending = .ok () ∧ p.run num refuses n sent
      = (.ok (), num.renumber p.final (p.nextNumber n), sent ++ p.emits num n) := by
  induction p generalizing n sent with
  | done s => exact ⟨rfl, by rw [emits, List.append_nil]; rfl⟩
  | fail e s => exact absurd ok id
  | crash c s => exact absurd ok id
  | reply s r next ih =>
      unfold run at ok ⊢
      rcases refused : refuses sent.length with _ | e <;> rw [refused] at ok
      · obtain ⟨ends, played⟩ := ih ok
        refine ⟨ends, ?_⟩
        dsimp only
        rw [played, emits, List.append_assoc, List.singleton_append]
        rfl
      · exact absurd ok id

/-- **A transport that accepts everything** lets the script be played to its end, so nothing but the
script decides what is sent and how it ends. -/
theorem run_of_accepts (accepts : ∀ i, refuses i = none) (p : Script σ ε ρ) (n : UInt32)
    (sent : List μ) :
    p.run num refuses n sent
      = (p.ending, num.renumber p.final (p.nextNumber n), sent ++ p.emits num n) := by
  induction p generalizing n sent with
  | done s => rw [emits, List.append_nil]; rfl
  | fail e s => rw [emits, List.append_nil]; rfl
  | crash c s => rw [emits, List.append_nil]; rfl
  | reply s r next ih =>
      unfold run
      rw [accepts]
      dsimp only
      rw [ih, emits, List.append_assoc, List.singleton_append]
      rfl

/-- Every reply of the script satisfies `P`, together with the state in which it is sent.  How the
script ends does not matter. -/
def Each (P : σ → ρ → Prop) : Script σ ε ρ → Prop
  | done _ => True
  | fail _ _ => True
  | crash _ _ => True
  | reply s r next => P s r ∧ next.Each P

theorem Each.mono {P Q : σ → ρ → Prop} (weaker : ∀ s r, P s r → Q s r) {p : Script σ ε ρ}
    (each : p.Each P) : p.Each Q := by
  induction p with
  | done s => trivial
  | fail e s => trivial
  | crash c s => trivial
  | reply s r next ih => exact ⟨weaker s r each.1, ih each.2⟩

theorem Each.and {P Q : σ → ρ → Prop} {p : Script σ ε ρ} (first : p.Each P) (second : p.Each Q) :
    p.Each fun s r => P s r ∧ Q s r := by
  induction p with
  | done s => trivial
  | fail e s => trivial
  | crash c s => trivial
  | reply s r next ih => exact ⟨⟨first.1, second.1⟩, ih first.2 second.2⟩

/-- What holds wherever a script can be cut short holds of the state of each reply. -/
theorem Throughout.each {P : σ → Prop} {p : Script σ ε ρ} {n : UInt32}
    (holds : p.Throughout num (fun _ => P) n) : p.Each fun s _ => P s := by
  induction p generalizing n with
  | done s => trivial
  | fail e s => trivial
  | crash c s => trivial
  | reply s r next ih => exact ⟨holds.1, ih holds.2⟩

theorem Throughout.final {P : σ → Prop} {p : Script σ ε ρ} {n : UInt32}
    (holds : p.Throughout num (fun _ => P) n) : P p.final := by
  induction p generalizing n with
  | done s => exact holds
  | fail e s => exact holds
  | crash c s => exact holds
  | reply s r next ih => exact ih holds.2

/-- What holds of each reply is known of each message that is sent. -/
theorem Each.emits {P : σ → ρ → Prop} {p : Script σ ε ρ} (each : p.Each P) (n : UInt32) :
    ∀ m ∈ p.emits num n, ∃ s k r, P s r ∧ m = num.stamp s k r := by
  induction p generalizing n with
  | done s => simp [Script.emits]
  | fail e s => simp [Script.emits]
  | crash c s => simp [Script.emits]
  | reply s r next ih =>
      intro m sent
      rcases List.mem_cons.mp sent with rfl | later
      · exact ⟨s, n, r, each.1, rfl⟩
      · exact ih each.2 (n + 1) m later

end Run

/-! ### Two scripts side by side -/

/-- The same replies and the same ending, in related states.  Nothing is asked of the numbers: those
come in when the scripts are played. -/
inductive Twin (S : σ → σ → Prop) : Script σ ε ρ → Script σ ε ρ → Prop
  | done {s t : σ} (related : S s t) : Twin S (.done s) (.done t)
  | fail {s t : σ} (e : ε) (related : S s t) : Twin S (.fail e s) (.fail e t)
  | crash {s t : σ} (p : Panic) (related : S s t) : Twin S (.crash p s) (.crash p t)
  | reply {s t : σ} {p q : Script σ ε ρ} (r : ρ) (related : S s t) (next : Twin S p q) :
      Twin S (.reply s r p) (.reply t r q)

theorem Twin.answer {S : σ → σ → Prop} {s t : σ} (r : ρ) (related : S s t) :
    Twin S (Script.answer s r : Script σ ε ρ) (Script.answer t r) :=
  .reply r related (.done related)

/-- **Twins are played alike.**  The numbers may be related by any `N` that counting keeps; the
messages are then related by `M`. -/
theorem Twin.run {S : σ → σ → Prop} {N : UInt32 → UInt32 → Prop} {M : μ → μ → Prop}
    (num : Numbering σ ρ μ) (refuses : ℕ → Option ε)
    (counts : ∀ n n', N n n' → N (n + 1) (n' + 1))
    (stamps : ∀ s t n n' r, S s t → N n n' → M (num.stamp s n r) (num.stamp t n' r))
    {p q : Script σ ε ρ} (twin : Twin S p q) {n n' : UInt32} (numbers : N n n')
    {sent sent' : List μ} (before : List.Forall₂ M sent sent') :
    (p.run num refuses n sent).1 = (q.run num refuses n' sent').1 ∧
      List.Forall₂ M (p.run num refuses n sent).2.2 (q.run num refuses n' sent').2.2 ∧
      ∃ s t k k', S s t ∧ N k k' ∧ (p.run num refuses n sent).2.1 = num.renumber s k ∧
        (q.run num refuses n' sent').2.1 = num.renumber t k' := by
  induction twin generalizing n n' sent sent' with
  | done related => exact ⟨rfl, before, _, _, _, _, related, numbers, rfl, rfl⟩
  | fail e related => exact ⟨rfl, before, _, _, _, _, related, numbers, rfl, rfl⟩
  | crash p related => exact ⟨rfl, before, _, _, _, _, related, numbers, rfl, rfl⟩
  | reply r related next ih =>
      unfold Script.run
      rw [List.Forall₂.length_eq before]
      rcases refuses sent'.length with _ | e
      · exact ih (counts _ _ numbers)
          (List.rel_append before (.cons (stamps _ _ _ _ r related numbers) .nil))
      · exact ⟨rfl, before, _, _, _, _, related, counts _ _ numbers, rfl, rfl⟩

end Script

end Rust
