import Mathlib.Tactic.Ring

/-!
# Methods that return, fail or panic

A fallible Rust method on `&mut self` can end in three ways: it returns a value, it returns an
error, or it panics.  In all three the receiver keeps the writes made so far, so an early return
between two updates leaves the first of them behind.  `Method σ ε α` is exactly that: a function
from the receiver's state to an `Outcome ε α` *and* the state it leaves, whatever the outcome.

## Why not `StateT` over `Except`

`StateT σ (Except ε)` forgets the state at the first error, and `ExceptT ε (StateM σ)` has no place
for a panic that a caller cannot handle.  Both would hide what a partially executed method has done,
and that is where a store or a session can break its invariant.  Keeping the state in every outcome
makes "a failed request leaves the state unchanged" a theorem that can be false.

## Arithmetic

Arithmetic follows the development profile (`overflow-checks` on): an addition or subtraction that
leaves the type's range is a panic, never a wrapped value.  Where a program asks for wrapping
arithmetic it says so, and the model uses the fixed-width `+` of the type.

## How a method is reasoned about

* `Method.run_bind` executes one bind; the other `run_` lemmas execute the primitives, so that a
  straight-line method is run by `simp`.
* `Method.run_bind_eq_ok` inverts a bind that returned, which is how the spec lemma of a method is
  peeled apart without unfolding its callees.
* `Method.Keeps` and its rules prove a relation between the receiver before and after a method, in
  every outcome at once; `Method.Respects` compares two runs of one method on related receivers; and
  `Method.FailsWith` bounds the errors it can return.
-/

namespace Rust

universe u v w

/-- What went wrong in a panic.  Only the kinds that the modelled code can run into are listed, so
that a theorem may say *which* panic a call ends in. -/
inductive Panic where
  /-- An addition, subtraction or multiplication left the range of its type. -/
  | arithmeticOverflow
  /-- An allocation asked for more than `isize::MAX` bytes. -/
  | capacityOverflow
  /-- A slice index was past the end, or the two slices of a copy differ in length. -/
  | sliceOutOfRange
  /-- A cursor was asked for more bytes than it has left. -/
  | bufferUnderrun
  deriving DecidableEq, Repr

/-- The three ways a method can end.  An error is a value of the caller and may be handled; a panic
unwinds through every caller. -/
inductive Outcome (ε : Type u) (α : Type v) where
  | ok (value : α)
  | err (error : ε)
  | panic (cause : Panic)
  deriving DecidableEq, Repr

namespace Outcome

variable {ε : Type u} {α : Type v} {β : Type w}

/-- The method ended in a panic. -/
def IsPanic : Outcome ε α → Prop
  | ok _ => False
  | err _ => False
  | panic _ => True

/-- The method returned a value. -/
def IsOk : Outcome ε α → Prop
  | ok _ => True
  | err _ => False
  | panic _ => False

/-- The method returned an error. -/
def IsErr : Outcome ε α → Prop
  | ok _ => False
  | err _ => True
  | panic _ => False

instance decidableIsPanic : (o : Outcome ε α) → Decidable o.IsPanic
  | ok _ => .isFalse id
  | err _ => .isFalse id
  | panic _ => .isTrue trivial

instance decidableIsOk : (o : Outcome ε α) → Decidable o.IsOk
  | ok _ => .isTrue trivial
  | err _ => .isFalse id
  | panic _ => .isFalse id

instance decidableIsErr : (o : Outcome ε α) → Decidable o.IsErr
  | ok _ => .isFalse id
  | err _ => .isTrue trivial
  | panic _ => .isFalse id

@[simp] theorem isPanic_ok (a : α) : (ok a : Outcome ε α).IsPanic ↔ False := Iff.rfl

@[simp] theorem isPanic_err (e : ε) : (err e : Outcome ε α).IsPanic ↔ False := Iff.rfl

@[simp] theorem isPanic_panic (p : Panic) : (panic p : Outcome ε α).IsPanic ↔ True := Iff.rfl

@[simp] theorem isOk_ok (a : α) : (ok a : Outcome ε α).IsOk ↔ True := Iff.rfl

@[simp] theorem isOk_err (e : ε) : (err e : Outcome ε α).IsOk ↔ False := Iff.rfl

@[simp] theorem isOk_panic (p : Panic) : (panic p : Outcome ε α).IsOk ↔ False := Iff.rfl

@[simp] theorem isErr_ok (a : α) : (ok a : Outcome ε α).IsErr ↔ False := Iff.rfl

@[simp] theorem isErr_err (e : ε) : (err e : Outcome ε α).IsErr ↔ True := Iff.rfl

@[simp] theorem isErr_panic (p : Panic) : (panic p : Outcome ε α).IsErr ↔ False := Iff.rfl

theorem IsOk.not_isErr {o : Outcome ε α} (ok : o.IsOk) : ¬ o.IsErr := by
  rcases o with a | e | p
  · exact id
  · exact ok.elim
  · exact id

/-- `Result::map`. -/
def map (f : α → β) : Outcome ε α → Outcome ε β
  | ok a => ok (f a)
  | err e => err e
  | panic p => panic p

theorem IsOk.map {o : Outcome ε α} (ok : o.IsOk) (f : α → β) : (o.map f).IsOk := by
  rcases o with a | e | p
  · trivial
  · exact ok
  · exact ok

/-- Sequencing without a receiver: the second computation is only started if the first returned. -/
def bind (o : Outcome ε α) (f : α → Outcome ε β) : Outcome ε β :=
  match o with
  | ok a => f a
  | err e => err e
  | panic p => panic p

instance : Monad (Outcome ε) where
  pure := ok
  bind := bind

@[simp] theorem pure_eq (a : α) : (pure a : Outcome ε α) = ok a := rfl

@[simp] theorem ok_bind {α β : Type v} (a : α) (f : α → Outcome ε β) :
    ((ok a : Outcome ε α) >>= f) = f a := rfl

@[simp] theorem err_bind {α β : Type v} (e : ε) (f : α → Outcome ε β) :
    ((err e : Outcome ε α) >>= f) = err e := rfl

@[simp] theorem panic_bind {α β : Type v} (p : Panic) (f : α → Outcome ε β) :
    ((panic p : Outcome ε α) >>= f) = panic p := rfl

/-- A sequence fails where its first half fails, or where its second half does. -/
theorem bind_eq_err {α β : Type v} {x : Outcome ε α} {f : α → Outcome ε β} {e : ε} :
    (x >>= f) = err e ↔ x = err e ∨ ∃ a, x = ok a ∧ f a = err e := by
  rcases x with a | e' | p <;> simp

theorem bind_eq_ok {α β : Type v} {x : Outcome ε α} {f : α → Outcome ε β} {b : β} :
    (x >>= f) = ok b ↔ ∃ a, x = ok a ∧ f a = ok b := by
  rcases x with a | e | p <;> simp

/-- `Option::ok_or`: a missing value becomes an error that the caller sees. -/
def okOr (e : ε) : Option α → Outcome ε α
  | some a => ok a
  | none => err e

/-- A checked operation whose failure is a panic, such as an addition under `overflow-checks` or an
index out of bounds. -/
def orPanic (p : Panic) : Option α → Outcome ε α
  | some a => ok a
  | none => panic p

/-- A result without a panic. -/
def ofExcept : Except ε α → Outcome ε α
  | .ok a => ok a
  | .error e => err e

@[simp] theorem okOr_some (e : ε) (a : α) : okOr e (some a) = ok a := rfl

@[simp] theorem okOr_none (e : ε) : okOr e (none : Option α) = err e := rfl

@[simp] theorem orPanic_some (p : Panic) (a : α) :
    (orPanic p (some a) : Outcome ε α) = ok a := rfl

@[simp] theorem orPanic_none (p : Panic) :
    (orPanic p (none : Option α) : Outcome ε α) = panic p := rfl

end Outcome

/-- A method on a receiver of type `σ`: the outcome, and the receiver it leaves behind in every
outcome, also in an error or a panic. -/
def Method (σ : Type u) (ε : Type v) (α : Type w) := σ → Outcome ε α × σ

namespace Method

variable {σ : Type u} {ε : Type v} {α β : Type w}

/-- Call the method on a receiver. -/
def run (x : Method σ ε α) (s : σ) : Outcome ε α × σ := x s

/-- Run the first method; if it returned, run the second on its value and on the
receiver it left.  An error or a panic ends the whole. -/
protected def bind (x : Method σ ε α) (f : α → Method σ ε β) : Method σ ε β := fun s =>
  match x s with
  | (.ok a, t) => f a t
  | (.err e, t) => (.err e, t)
  | (.panic p, t) => (.panic p, t)

instance : Monad (Method σ ε) where
  pure a := fun s => (.ok a, s)
  bind := Method.bind

/-- Read the receiver. -/
def get : Method σ ε σ := fun s => (.ok s, s)

/-- Write to the receiver. -/
def modify (f : σ → σ) : Method σ ε PUnit := fun s => (.ok ⟨⟩, f s)

/-- `return Err(e)`. -/
def throw (e : ε) : Method σ ε α := fun s => (.err e, s)

/-- A computation that does not touch the receiver.  In a `do` block it is the `?` operator applied
to the result. -/
def lift (o : Outcome ε α) : Method σ ε α := fun s => (o, s)

/-- Apply a function to the value that is returned. -/
def mapValue (f : α → β) (x : Method σ ε α) : Method σ ε β := fun s => ((x s).1.map f, (x s).2)

/-- Run a method and go on with its result as a value, which is a `match` on a `Result`.  A panic is
not a result and still ends the caller. -/
def attempt (x : Method σ ε α) : Method σ ε (Outcome ε α) := fun s =>
  match x s with
  | (.panic p, t) => (.panic p, t)
  | (o, t) => (.ok o, t)

/-- Call a method on a part of the receiver and match on its result: an error is handed
over as a value, a panic still ends the caller. -/
def onPart {τ : Type u} {ε' : Type v} (part : τ → σ) (put : σ → τ → τ) (x : Method σ ε α) :
    Method τ ε' (Except ε α) := fun t =>
  match x (part t) with
  | (.ok a, s) => (.ok (.ok a), put s t)
  | (.err e, s) => (.ok (.error e), put s t)
  | (.panic p, s) => (.panic p, put s t)

@[simp] theorem run_pure (a : α) (s : σ) :
    (pure a : Method σ ε α).run s = (.ok a, s) := rfl

@[simp] theorem run_get (s : σ) : (get : Method σ ε σ).run s = (.ok s, s) := rfl

@[simp] theorem run_modify (f : σ → σ) (s : σ) :
    (modify f : Method σ ε PUnit).run s = (.ok ⟨⟩, f s) := rfl

@[simp] theorem run_throw (e : ε) (s : σ) :
    (throw e : Method σ ε α).run s = (.err e, s) := rfl

@[simp] theorem run_lift (o : Outcome ε α) (s : σ) :
    (lift o : Method σ ε α).run s = (o, s) := rfl

@[simp] theorem run_bind (x : Method σ ε α) (f : α → Method σ ε β) (s : σ) :
    (x >>= f).run s =
      match x.run s with
      | (.ok a, t) => (f a).run t
      | (.err e, t) => (.err e, t)
      | (.panic p, t) => (.panic p, t) := rfl

@[simp] theorem run_ite (c : Prop) [Decidable c] (x y : Method σ ε α) (s : σ) :
    (if c then x else y).run s = if c then x.run s else y.run s := by
  split <;> rfl

/-- A bind that returned: the first part returned, and then the second did.  This is the rule for
reading a spec lemma off a method that is known to have succeeded. -/
theorem run_bind_eq_ok {x : Method σ ε α} {f : α → Method σ ε β} {s t : σ} {b : β} :
    (x >>= f).run s = (.ok b, t) ↔
      ∃ a r, x.run s = (.ok a, r) ∧ (f a).run r = (.ok b, t) := by
  rw [run_bind]
  rcases hx : x.run s with ⟨_ | _ | _, r⟩ <;> simp

/-- The same, for a first part that does not touch the receiver. -/
theorem run_lift_bind_eq_ok {o : Outcome ε α} {f : α → Method σ ε β} {s t : σ} {b : β} :
    (lift o >>= f).run s = (.ok b, t) ↔ ∃ a, o = .ok a ∧ (f a).run s = (.ok b, t) := by
  rw [run_bind, run_lift]
  rcases o with a | e | p <;> simp

/-- Running a bind whose first part returned. -/
theorem run_bind_of_ok {x : Method σ ε α} {f : α → Method σ ε β} {s r : σ} {a : α}
    (h : x.run s = (.ok a, r)) : (x >>= f).run s = (f a).run r := by
  rw [run_bind, h]

theorem run_mapValue (f : α → β) (x : Method σ ε α) (s : σ) :
    (x.mapValue f).run s = ((x.run s).1.map f, (x.run s).2) := rfl

/-- A mapped method returned exactly if the method did, in the same state and with a value that is
mapped there. -/
theorem run_mapValue_eq_ok {f : α → β} {x : Method σ ε α} {s t : σ} {b : β} :
    (x.mapValue f).run s = (.ok b, t) ↔ ∃ a, x.run s = (.ok a, t) ∧ f a = b := by
  rw [run_mapValue]
  rcases x.run s with ⟨a | e | p, r⟩ <;> simp [Outcome.map, and_comm]

/-- Looking at the result of a method that returned. -/
theorem run_attempt_of_ok {x : Method σ ε α} {s r : σ} {a : α} (h : x.run s = (.ok a, r)) :
    x.attempt.run s = (.ok (.ok a), r) := by
  rw [run] at h
  rw [run, attempt, h]

/-- Looking at the result of a method that failed. -/
theorem run_attempt_of_err {x : Method σ ε α} {s r : σ} {e : ε} (h : x.run s = (.err e, r)) :
    x.attempt.run s = (.ok (.err e), r) := by
  rw [run] at h
  rw [run, attempt, h]

theorem run_onPart {τ : Type u} {ε' : Type v} (part : τ → σ) (put : σ → τ → τ) (x : Method σ ε α)
    (t : τ) : (x.onPart part put : Method τ ε' (Except ε α)).run t =
      match x.run (part t) with
      | (.ok a, s) => (.ok (.ok a), put s t)
      | (.err e, s) => (.ok (.error e), put s t)
      | (.panic p, s) => (.panic p, put s t) := by
  rw [run, run, onPart]

/-- Matching on the result of a method that did not panic. -/
theorem run_onPart_of_ofExcept {ε' : Type v} {x : Method σ ε α} {s r : σ} (result : Except ε α)
    (h : x.run s = (.ofExcept result, r)) :
    (x.onPart id (fun s _ => s) : Method σ ε' (Except ε α)).run s = (.ok result, r) := by
  rw [run_onPart, id, h]
  cases result <;> rfl

/-- A sequence does not panic if its first half does not, and its second half does not from wherever
the first returned.  An error of the first half is harmless: the second is not started then. -/
theorem not_isPanic_bind {x : Method σ ε α} {f : α → Method σ ε β} {s : σ}
    (hx : ¬ (x.run s).1.IsPanic)
    (hf : ∀ a t, x.run s = (.ok a, t) → ¬ ((f a).run t).1.IsPanic) :
    ¬ ((x >>= f).run s).1.IsPanic := by
  rw [run_bind]
  rcases hrun : x.run s with ⟨a | e | p, t⟩
  · exact hf a t hrun
  · simp
  · rw [hrun] at hx
    exact absurd trivial hx

/-! ### Properties of the receiver along a method -/

/-- Every outcome of `x` leaves the receiver related to the one it started from.  There is no
exception for errors and panics, so the rule for sequences needs `R` to be transitive and not
more. -/
def Keeps (R : σ → σ → Prop) (x : Method σ ε α) : Prop := ∀ s, R s (x.run s).2

section Keeps

variable {R : σ → σ → Prop}

theorem Keeps.pure (refl : ∀ s, R s s) (a : α) : Keeps R (pure a : Method σ ε α) :=
  fun s => refl s

theorem Keeps.lift (refl : ∀ s, R s s) (o : Outcome ε α) : Keeps R (lift o : Method σ ε α) :=
  fun s => refl s

theorem Keeps.get (refl : ∀ s, R s s) : Keeps R (get : Method σ ε σ) := fun s => refl s

/-- A transitive relation kept by both halves is kept by their sequence, also when the
first half did not return.  The second half may use how the first one returned. -/
theorem Keeps.bind (trans : ∀ a b c, R a b → R b c → R a c) {x : Method σ ε α}
    {f : α → Method σ ε β} (hx : Keeps R x)
    (hf : ∀ s a t, x.run s = (.ok a, t) → R t ((f a).run t).2) : Keeps R (x >>= f) := by
  intro s
  have first := hx s
  rw [run_bind]
  rcases hrun : x.run s with ⟨a | e | p, t⟩
  · rw [hrun] at first
    exact trans _ _ _ first (hf s a t hrun)
  · rw [hrun] at first
    exact first
  · rw [hrun] at first
    exact first

theorem Keeps.ite {c : Prop} [Decidable c] {x y : Method σ ε α} (hx : Keeps R x)
    (hy : Keeps R y) : Keeps R (if c then x else y) := by
  split
  · exact hx
  · exact hy

end Keeps

/-- Related receivers give the same result, and related receivers again: `x` looks only at what they
have in common.  This is what makes two runs of a program indistinguishable to its peer. -/
def Respects (R : σ → σ → Prop) (x : Method σ ε α) : Prop :=
  ∀ s t, R s t → (x.run s).1 = (x.run t).1 ∧ R (x.run s).2 (x.run t).2

section Respects

variable {R : σ → σ → Prop}

/-- The two runs written out: one result for both, and the receivers that they leave. -/
theorem Respects.runs {x : Method σ ε α} (hx : Respects R x) {s t : σ} (related : R s t) :
    ∃ result s' t', x.run s = (result, s') ∧ x.run t = (result, t') ∧ R s' t' := by
  obtain ⟨same, related'⟩ := hx s t related
  exact ⟨(x.run s).1, (x.run s).2, (x.run t).2, rfl, by rw [same], related'⟩

theorem Respects.lift (o : Outcome ε α) : Respects R (lift o : Method σ ε α) :=
  fun _ _ related => ⟨rfl, related⟩

theorem Respects.modify {f : σ → σ} (keeps : ∀ s t, R s t → R (f s) (f t)) :
    Respects R (modify f : Method σ ε PUnit) :=
  fun s t related => ⟨rfl, keeps s t related⟩

theorem Respects.bind {x : Method σ ε α} {f : α → Method σ ε β} (hx : Respects R x)
    (hf : ∀ a, Respects R (f a)) : Respects R (x >>= f) := by
  intro s t related
  obtain ⟨result, s', t', left, right, related'⟩ := hx.runs related
  rw [run_bind, run_bind, left, right]
  rcases result with a | e | p
  · exact hf a s' t' related'
  · exact ⟨rfl, related'⟩
  · exact ⟨rfl, related'⟩

/-- A method that looks at its receiver, but only at what related receivers have in common. -/
theorem Respects.get_bind {α : Type u} {f : σ → Method σ ε α} (common : ∀ s t, R s t → f s = f t)
    (hf : ∀ s, Respects R (f s)) : Respects R (get >>= f) := by
  intro s t related
  rw [run_bind_of_ok (run_get s), run_bind_of_ok (run_get t), ← common s t related]
  exact hf s s t related

theorem Respects.mapValue {x : Method σ ε α} (hx : Respects R x) (f : α → β) :
    Respects R (x.mapValue f) := by
  intro s t related
  obtain ⟨result, related'⟩ := hx s t related
  exact ⟨congrArg (Outcome.map f) result, related'⟩

theorem Respects.ite {c : Prop} [Decidable c] {x y : Method σ ε α} (hx : Respects R x)
    (hy : Respects R y) : Respects R (if c then x else y) := by
  split
  · exact hx
  · exact hy

end Respects

/-! ### The errors of a method -/

/-- Every error of `x` has the property `Q`, from whatever receiver it is started.  The rules below
follow the body of a method, so the errors of a caller are those of its parts. -/
def FailsWith (Q : ε → Prop) (x : Method σ ε α) : Prop :=
  ∀ s e t, x.run s = (.err e, t) → Q e

section FailsWith

variable {Q : ε → Prop}

theorem FailsWith.get : FailsWith Q (get : Method σ ε σ) := by
  intro s e t h
  cases h

theorem FailsWith.modify (f : σ → σ) : FailsWith Q (modify f : Method σ ε PUnit) := by
  intro s e t h
  cases h

theorem FailsWith.pure (a : α) : FailsWith Q (pure a : Method σ ε α) := by
  intro s e t h
  cases h

theorem FailsWith.throw {e : ε} (he : Q e) : FailsWith Q (throw e : Method σ ε α) := by
  intro s e' t h
  cases h
  exact he

theorem FailsWith.lift {o : Outcome ε α} (ho : ∀ e, o = .err e → Q e) :
    FailsWith Q (lift o : Method σ ε α) := by
  intro s e t h
  cases h
  exact ho e rfl

theorem FailsWith.bind {x : Method σ ε α} {f : α → Method σ ε β} (hx : FailsWith Q x)
    (hf : ∀ a, FailsWith Q (f a)) : FailsWith Q (x >>= f) := by
  intro s e t h
  rw [run_bind] at h
  rcases hrun : x.run s with ⟨a | e' | p, r⟩ <;> rw [hrun] at h
  · exact hf a r e t h
  · cases h
    exact hx s _ _ hrun
  · cases h

theorem FailsWith.ite {c : Prop} [Decidable c] {x y : Method σ ε α} (hx : FailsWith Q x)
    (hy : FailsWith Q y) : FailsWith Q (if c then x else y) := by
  split
  · exact hx
  · exact hy

end FailsWith

end Method

/-! ### Machine integers of the development profile -/

/-- The number of values of a 64-bit `usize`.  Lengths and offsets are naturals in the model; this
bound is where they would stop fitting. -/
def usizeBound : ℕ := 2 ^ 64

/-- `isize::MAX`, the largest allocation in bytes: `Vec` refuses a capacity beyond it with a
panic. -/
def isizeMax : ℕ := 2 ^ 63 - 1

/-- `usize::checked_add`: the sum, unless it does not fit. -/
def checkedAddUsize (a b : ℕ) : Option ℕ :=
  if a + b < usizeBound then some (a + b) else none

/-- `usize` subtraction with overflow checks: the difference, unless it would be negative. -/
def checkedSubUsize (a b : ℕ) : Option ℕ :=
  if b ≤ a then some (a - b) else none

/-- `u64` addition with overflow checks. -/
def checkedAdd64 (a b : UInt64) : Option UInt64 :=
  if a.toNat + b.toNat < 2 ^ 64 then some (a + b) else none

/-- `u64` subtraction with overflow checks. -/
def checkedSub64 (a b : UInt64) : Option UInt64 :=
  if b.toNat ≤ a.toNat then some (a - b) else none

/-- `u32` addition with overflow checks. -/
def checkedAdd32 (a b : UInt32) : Option UInt32 :=
  if a.toNat + b.toNat < 2 ^ 32 then some (a + b) else none

/-- `u32` subtraction with overflow checks. -/
def checkedSub32 (a b : UInt32) : Option UInt32 :=
  if b.toNat ≤ a.toNat then some (a - b) else none

/-- An addition that stays in range is the addition of the naturals. -/
theorem toNat_add64 {a b : UInt64} (h : a.toNat + b.toNat < 2 ^ 64) :
    (a + b).toNat = a.toNat + b.toNat := by
  rw [UInt64.toNat_add, Nat.mod_eq_of_lt h]

/-- A subtraction that stays in range is the subtraction of the naturals. -/
theorem toNat_sub64 {a b : UInt64} (h : b.toNat ≤ a.toNat) :
    (a - b).toNat = a.toNat - b.toNat :=
  UInt64.toNat_sub_of_le _ _ (UInt64.le_iff_toNat_le.mpr h)

theorem toNat_add32 {a b : UInt32} (h : a.toNat + b.toNat < 2 ^ 32) :
    (a + b).toNat = a.toNat + b.toNat := by
  rw [UInt32.toNat_add, Nat.mod_eq_of_lt h]

theorem toNat_sub32 {a b : UInt32} (h : b.toNat ≤ a.toNat) :
    (a - b).toNat = a.toNat - b.toNat :=
  UInt32.toNat_sub_of_le _ _ (UInt32.le_iff_toNat_le.mpr h)

end Rust
