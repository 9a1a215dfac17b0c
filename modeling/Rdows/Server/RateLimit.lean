import Rdows.Lib.Window
import Rdows.Server.Bookkeeping

/-!
# The rate limit of MR_REG

`handle_mr_reg` counts the registrations of a session in a window of one second.  The window begins
again with the first MR_REG that comes a second or more after the begin of the last one, so it is a
`FixedWindow` limiter that only the MR_REGs drive (`limiter_step`).  Its accounts bound the requests
that pass in any interval, over every run in which the clock does not run backwards
(`registrations_limited`).

## What is bounded

A fixed window is not a sliding one: the full limit may pass at the end of a window and again at the
begin of the next.  So within `T` seconds `T + 1` times the limit can pass, and no less is promised.
In the other direction a request is refused only if the full limit has passed since the current
window began, which is less than a second ago; a peer that keeps to the limit is never refused.

Refused requests are not counted.  A request that passes is counted before the store has seen it, so
registrations that the store refuses use up the limit as well.

## The clock

The source reads a monotonic clock, so `ClockRuns` is no restriction there.  It speaks only of the
readings that the limiter makes: the other handlers do not look at the clock.  Without it the bound
would be false, since a window that began late would admit requests that come early.
-/

namespace Rdows

open Rust

/-- A window has a length. -/
theorem Handler.mrRegWindow_pos : 0 < mrRegWindow := by decide

namespace Session

open Handler (mrRegWindow)

variable {s : Session} {now : ℕ} {draws : ℕ → UInt32} {msg : RdowsMessage} {n : UInt32}

/-- The limiter of a session: the begin of its window and how many requests have passed in it. -/
def limiter (s : Session) : FixedWindow.State := ⟨s.mrRegWindowStart, s.mrRegCount.toNat⟩

/-- The verdict of the limiter on an MR_REG at time `now`, and what it leaves. -/
abbrev limit (s : Session) (now : ℕ) : Bool × FixedWindow.State :=
  FixedWindow.request mrRegWindow s.mrRegRateLimit.toNat s.limiter now

/-- Bringing the window up to date is what the library's limiter does before it decides. -/
theorem limiter_refreshed (s : Session) (now : ℕ) :
    (s.refreshed now).limiter = FixedWindow.refresh mrRegWindow s.limiter now ∧
      (s.refreshed now).mrRegRateLimit = s.mrRegRateLimit := by
  unfold refreshed FixedWindow.refresh
  split_ifs with ended ended' ended'
  · exact ⟨rfl, rfl⟩
  · exact absurd ended ended'
  · exact absurd ended' ended
  · exact ⟨rfl, rfl⟩

/-- A refused MR_REG leaves the limiter as the window was brought up to date. -/
theorem limit_of_full (full : (s.refreshed now).mrRegRateLimit ≤ (s.refreshed now).mrRegCount) :
    s.limit now = (false, (s.refreshed now).limiter) := by
  obtain ⟨same, rate⟩ := s.limiter_refreshed now
  rw [limit, FixedWindow.request, ← same, if_pos]
  rw [rate] at full
  exact UInt32.le_iff_toNat_le.mp full

/-- An MR_REG that passes is counted. -/
theorem limit_of_room (room : ¬ (s.refreshed now).mrRegRateLimit ≤ (s.refreshed now).mrRegCount) :
    s.limit now = (true, limiter
      { s.refreshed now with mrRegCount := (s.refreshed now).mrRegCount + 1 }) := by
  obtain ⟨same, rate⟩ := s.limiter_refreshed now
  have below : (s.refreshed now).mrRegCount.toNat < (s.refreshed now).mrRegRateLimit.toNat :=
    UInt32.lt_iff_toNat_lt.mp (UInt32.not_le.mp room)
  have counted : ((s.refreshed now).mrRegCount + 1).toNat
      = (s.refreshed now).mrRegCount.toNat + 1 :=
    toNat_add32 (Nat.lt_of_le_of_lt below (UInt32.toNat_lt _))
  rw [limit, FixedWindow.request, ← same, if_neg (by rw [← rate]; exact Nat.not_le.mpr below)]
  exact congrArg (fun count => (true, FixedWindow.State.mk _ count)) counted.symm

/-- The verdict is the comparison that `handle_mr_reg` makes. -/
theorem limit_fst (s : Session) (now : ℕ) : (s.limit now).1
    = decide (¬ (s.refreshed now).mrRegRateLimit ≤ (s.refreshed now).mrRegCount) := by
  by_cases full : (s.refreshed now).mrRegRateLimit ≤ (s.refreshed now).mrRegCount
  · rw [limit_of_full full, decide_eq_false (not_not.mpr full)]
  · rw [limit_of_room full, decide_eq_true full]

/-- What a message leaves of the limiter: an MR_REG drives it, other messages leave it alone. -/
def limitedBy (s : Session) (now : ℕ) : RdowsMessage → FixedWindow.State
  | .mrReg _ _ => (s.limit now).2
  | _ => s.limiter

/-- Wherever the handling of a message ends, it has driven the limiter as it should. -/
theorem Leaves.limiter_eq {t : Session} (leaves : s.Leaves now draws msg t) :
    t.limiter = s.limitedBy now msg := by
  cases leaves with
  | refuses header payload full =>
      rw [limitedBy, limit_of_full full]
      rfl
  | registers header payload room =>
      rw [limitedBy, limit_of_room room]
      rfl
  | stays other => cases msg <;> first | rfl | cases other
  | _ => rfl

/-- The store after an MR_REG: that after `register` if the request passes, and the old one if
not. -/
theorem Leaves.store_mrReg {t : Session} {header : RdowsHeader} {payload : MrRegPayload}
    (leaves : s.Leaves now draws (.mrReg header payload) t) :
    t.memoryStore = if (s.limit now).1 then
      ((MemoryStore.register draws payload.pd payload.accessFlags payload.regionLen).run
        s.memoryStore).2
    else s.memoryStore := by
  cases leaves with
  | refuses _ _ full =>
      rw [limit_of_full full]
      exact s.memoryStore_refreshed now
  | registers _ _ room =>
      rw [limit_of_room room]
      rfl
  | stays noMrReg => cases noMrReg

end Session

namespace ServerRun

open Handler (mrRegWindow mrRegWindow_pos)

variable {r : ServerRun} {input : Env × WsMessage}

/-- What the limiter says to the frame: nothing unless it is an MR_REG that is dispatched, and else
whether the request passes. -/
def verdict (r : ServerRun) (input : Env × WsMessage) : Option Bool :=
  match (r.step input).1.dispatched with
  | some (.mrReg _ _) => some (decide (¬ (r.session.refreshed input.1.now).mrRegRateLimit
      ≤ (r.session.refreshed input.1.now).mrRegCount))
  | _ => none

/-- The times at which requests passed in a run, most recent first. -/
def passTimes (r : ServerRun) (inputs : List (Env × WsMessage)) : List ℕ :=
  Machine.notes step (fun r input => if r.verdict input = some true then some input.1.now else none)
    r inputs

/-- **The MR_REGs drive the limiter.** A turn of the loop without a verdict leaves the limiter
alone; with one, it is a request to the limiter at the time of the turn. -/
theorem limiter_step (r : ServerRun) (input : Env × WsMessage) :
    r.verdict input = none ∧ (r.step input).2.session.limiter = r.session.limiter ∨
    r.verdict input = some (r.session.limit input.1.now).1 ∧
      (r.step input).2.session.limiter = (r.session.limit input.1.now).2 := by
  rcases r.step_leaves input with
    ⟨none, state, id, pd, size, seq, expected, stays⟩ | ⟨msg, -, dispatched, leaves⟩
  · refine .inl ⟨?_, by rw [stays]; rfl⟩
    rw [verdict, none]
  · rw [leaves.limiter_eq, verdict, dispatched]
    cases msg with
    | mrReg header payload =>
        rw [Session.limit_fst]
        exact .inr ⟨rfl, rfl⟩
    | _ => exact .inl ⟨rfl, rfl⟩

/-- A request that passes reaches `MemoryStore::register`; one that is refused does not. -/
theorem store_of_verdict {passes : Bool} (decided : r.verdict input = some passes) :
    ∃ header payload, (r.step input).1.dispatched = some (.mrReg header payload) ∧
      (r.step input).2.session.memoryStore = if passes then
        ((MemoryStore.register input.1.draws payload.pd payload.accessFlags payload.regionLen).run
          r.session.memoryStore).2
      else r.session.memoryStore := by
  unfold verdict at decided
  split at decided
  swap
  · cases decided
  rename_i header payload dispatched
  cases decided
  refine ⟨header, payload, dispatched, ?_⟩
  rcases r.step_leaves input with ⟨none, -⟩ | ⟨msg, -, dispatched', leaves⟩
  · cases none.symm.trans dispatched
  · cases dispatched'.symm.trans dispatched
    rw [← Session.limit_fst]
    exact leaves.store_mrReg

/-- The times that the limiter has read in a run of a session that began at time `now`, most recent
first. -/
def readings (config : ServerConfig) (now : ℕ) (inputs : List (Env × WsMessage)) : List ℕ :=
  Machine.notes step (fun r input => (r.verdict input).map fun _ => input.1.now)
    (new config now) inputs ++ [now]

/-- The clock does not run backwards: of two readings, the later one is not smaller.  Only the
readings of the limiter count. -/
def ClockRuns (config : ServerConfig) (now : ℕ) (inputs : List (Env × WsMessage)) : Prop :=
  (readings config now inputs).Pairwise (· ≥ ·)

/-- A frame adds a reading if the limiter has a verdict on it. -/
theorem readings_concat (config : ServerConfig) (now : ℕ) (inputs : List (Env × WsMessage))
    (input : Env × WsMessage) :
    readings config now (inputs ++ [input])
      = ((((new config now).after inputs).verdict input).map fun _ => input.1.now).toList
        ++ readings config now inputs := by
  rw [readings, Machine.notes_concat, List.append_assoc, readings]

/-- The clock runs in a part of a run if it does in the whole. -/
theorem ClockRuns.front {config : ServerConfig} {now : ℕ} {front back : List (Env × WsMessage)}
    (clock : ClockRuns config now (front ++ back)) : ClockRuns config now front := by
  rw [ClockRuns, readings, Machine.notes_append, List.append_assoc] at clock
  exact (List.pairwise_append.mp clock).2.1

/-- A reading is not before an earlier one. -/
theorem ClockRuns.latest {config : ServerConfig} {now : ℕ} {inputs : List (Env × WsMessage)}
    {input : Env × WsMessage} (clock : ClockRuns config now (inputs ++ [input])) {passes : Bool}
    (decided : ((new config now).after inputs).verdict input = some passes) :
    ∀ t ∈ readings config now inputs, t ≤ input.1.now := by
  rw [ClockRuns, readings_concat, decided] at clock
  exact (List.pairwise_cons.mp clock).1

/-- The limit is the one that was configured, at every point of a run. -/
theorem mrRegRateLimit_after (config : ServerConfig) (now : ℕ) (inputs : List (Env × WsMessage)) :
    ((new config now).after inputs).session.mrRegRateLimit = config.mrRegRateLimit :=
  congrArg (fun limits => limits.2.2) (bookkept_after config now inputs).limits

/-- The limiter is limited after every run, and its window began at a time that was read. -/
theorem limited_after (config : ServerConfig) (now : ℕ) {inputs : List (Env × WsMessage)}
    (clock : ClockRuns config now inputs) :
    FixedWindow.Limited mrRegWindow config.mrRegRateLimit.toNat
        (passTimes (new config now) inputs) ((new config now).after inputs).session.limiter ∧
      ((new config now).after inputs).session.limiter.start ∈ readings config now inputs := by
  -- Runs grow at their end, where the clock is read; the readings are in reverse order.
  induction inputs using List.reverseRecOn with
  | nil => exact ⟨.start now, List.mem_singleton_self now⟩
  | append_singleton inputs input ih =>
      obtain ⟨limited, read⟩ := ih clock.front
      have rate := mrRegRateLimit_after config now inputs
      rw [passTimes, Machine.notes_concat, ← passTimes, after_concat, readings_concat]
      rcases limiter_step ((new config now).after inputs) input with
        ⟨silent, same⟩ | ⟨decided, moves⟩
      · rw [silent, same]
        exact ⟨limited, read⟩
      -- The window began at an earlier reading, hence not after this one.
      · have begun := clock.latest decided _ read
        rw [decided, moves, Session.limit, rate, FixedWindow.request_start]
        have recorded (passes : Bool) :
            (if some passes = some true then some input.1.now else none).toList
                ++ passTimes (new config now) inputs
              = FixedWindow.record (passTimes (new config now) inputs) input.1.now passes := by
          cases passes <;> rfl
        rw [recorded]
        refine ⟨limited.request mrRegWindow_pos begun, ?_⟩
        rcases FixedWindow.refresh_start mrRegWindow_pos
          ((new config now).after inputs).session.limiter input.1.now with same | ⟨begins, -⟩
        · rw [same]
          exact List.mem_cons_of_mem _ read
        · rw [begins]
          exact List.mem_cons_self

/-- Windows begin a second or more after each other. -/
theorem windowStart_after (r : ServerRun) (later : List (Env × WsMessage)) :
    (r.after later).session.mrRegWindowStart = r.session.mrRegWindowStart ∨
      r.session.mrRegWindowStart + mrRegWindow ≤ (r.after later).session.mrRegWindowStart := by
  refine Machine.exec_induction (P := fun t : ServerRun =>
    t.session.mrRegWindowStart = r.session.mrRegWindowStart ∨
      r.session.mrRegWindowStart + mrRegWindow ≤ t.session.mrRegWindowStart) (.inl rfl) ?_ later
  intro t input apart
  have moves : (t.step input).2.session.limiter.start = t.session.limiter.start ∨
      t.session.limiter.start + mrRegWindow ≤ (t.step input).2.session.limiter.start := by
    rcases t.limiter_step input with ⟨-, same⟩ | ⟨-, moves⟩
    · exact .inl (congrArg FixedWindow.State.start same)
    · rw [moves, Session.limit, FixedWindow.request_start]
      exact (FixedWindow.refresh_start mrRegWindow_pos _ _).imp_right And.right
  dsimp only [Session.limiter] at moves
  omega

/-- **The rate limit of MR_REG.** Over every run in which the clock does not run backwards: a
request reaches `MemoryStore::register` if and only if it passes the limiter; in any `T` seconds at
most `T + 1` times the limit pass; windows begin a second or more after each other; and a request is
refused only if the full limit has passed since the current window began, which is less than a
second ago.

The monotonic clock of the source meets the condition.  The bound on intervals and the account of a
refusal rest on it; the other two parts hold for any clock. -/
theorem registrations_limited (config : ServerConfig) (now : ℕ) (inputs : List (Env × WsMessage))
    (clock : ClockRuns config now inputs) :
    (∀ front input back, inputs = front ++ input :: back → ∀ passes,
      ((new config now).after front).verdict input = some passes →
      ∃ header payload, (((new config now).after front).step input).1.dispatched
          = some (.mrReg header payload) ∧
        (((new config now).after front).step input).2.session.memoryStore = if passes then
          ((MemoryStore.register input.1.draws payload.pd payload.accessFlags
            payload.regionLen).run ((new config now).after front).session.memoryStore).2
        else ((new config now).after front).session.memoryStore) ∧
    (∀ a T, FixedWindow.between (passTimes (new config now) inputs) a (a + T * mrRegWindow)
      ≤ (T + 1) * config.mrRegRateLimit.toNat) ∧
    (∀ front later, inputs = front ++ later →
      ((new config now).after inputs).session.mrRegWindowStart
          = ((new config now).after front).session.mrRegWindowStart ∨
        ((new config now).after front).session.mrRegWindowStart + mrRegWindow
          ≤ ((new config now).after inputs).session.mrRegWindowStart) ∧
    ∀ front input back, inputs = front ++ input :: back →
      ((new config now).after front).verdict input = some false →
      ∃ start, start = (((new config now).after front).session.refreshed
          input.1.now).mrRegWindowStart ∧
        FixedWindow.since (passTimes (new config now) front) start
          = config.mrRegRateLimit.toNat ∧
        start ≤ input.1.now ∧ input.1.now < start + mrRegWindow := by
  refine ⟨fun front input back _ passes => store_of_verdict,
    (limited_after config now clock).1.interval, ?_, ?_⟩
  · rintro front later rfl
    rw [after, Machine.exec_append]
    exact windowStart_after _ later
  · rintro front input back rfl refused
    rw [← List.singleton_append, ← List.append_assoc] at clock
    obtain ⟨limited, read⟩ := limited_after config now clock.front.front
    have rate := mrRegRateLimit_after config now front
    have start : (((new config now).after front).session.refreshed
        input.1.now).mrRegWindowStart = (FixedWindow.refresh mrRegWindow
          ((new config now).after front).session.limiter input.1.now).start :=
      congrArg FixedWindow.State.start (Session.limiter_refreshed _ _).1
    rcases limiter_step ((new config now).after front) input with ⟨silent, -⟩ | ⟨decided, -⟩
    · rw [silent] at refused
      cases refused
    -- the window began at a reading, and the clock has not gone back since
    · have begun := clock.front.latest decided _ read
      rw [decided, Session.limit, rate] at refused
      refine ⟨_, start.symm, ?_, ?_, ?_⟩
      · exact limited.since_of_refused mrRegWindow_pos (Option.some.inj refused)
      · exact FixedWindow.refresh_start_le begun
      · exact FixedWindow.lt_refresh_start mrRegWindow_pos _ _

/-- A frame that comes at a time, over a transport that refuses nothing. -/
def arriving (now : ℕ) (msg : RdowsMessage) : Env × WsMessage :=
  ({ (delivered msg).1 with now }, .binary msg.encode)

/-- A registration of eight bytes. -/
def registration (sequence : UInt32) : RdowsMessage :=
  .mrReg (.new .mrReg 7 sequence 0) ⟨⟨1⟩, .remoteWrite, 8, none⟩

/-- With one registration a second, three requests at 0.5 s, 1.2 s and 1.4 s.  The second one begins
a new window, since the first window began with the session, so two pass within a second; the third
comes too early and finds the window full. -/
theorem registrations_limited_one :
    let config : ServerConfig := { mrRegRateLimit := 1 }
    let front := [arriving 0 (sampleConnect 1024), arriving 500000000 (registration 1)]
    let early := arriving 1400000000 (registration 3)
    FixedWindow.between (passTimes (new config 0)
        (front ++ [arriving 1200000000 (registration 2), early])) 500000000
      (500000000 + 1 * mrRegWindow) ≤ 2 ∧
    FixedWindow.since (passTimes (new config 0) (front ++ [arriving 1200000000 (registration 2)]))
      1200000000 = 1 := by
  obtain ⟨-, bound, -, refusals⟩ := registrations_limited { mrRegRateLimit := 1 } 0
    [arriving 0 (sampleConnect 1024), arriving 500000000 (registration 1),
      arriving 1200000000 (registration 2), arriving 1400000000 (registration 3)]
    (by unfold ClockRuns; decide +kernel)
  obtain ⟨start, begins, full, -⟩ := refusals [arriving 0 (sampleConnect 1024),
    arriving 500000000 (registration 1), arriving 1200000000 (registration 2)] _ [] rfl
    (by decide +kernel)
  have begun : start = 1200000000 := by
    rw [begins]
    decide +kernel
  rw [begun] at full
  exact ⟨bound 500000000 1, full⟩

end ServerRun

end Rdows
