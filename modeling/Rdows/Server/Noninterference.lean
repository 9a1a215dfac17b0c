import Rdows.Server.SessionRuns

/-!
# Two sessions side by side

Two sessions that differ in their memory stores and in their next numbers only take the same
decisions, as long as the stores answer alike.  `StoreCongr E` says when a relation `E` between
stores is of that kind, and `Session.plan_twin` carries it through all handlers at once: the two
sessions play twin scripts.

* With equality of the stores, the next number is all that may differ, and no decision depends on
  it.
* `SameExcept l` lets the stores differ in the bytes of the region under the L_Key `l`, which may be
  neither read nor updated atomically.  It is of that kind too, hence nothing that the server ever
  sends depends on those bytes (`ServerRun.noninterference`).

## Why these two rights

A read returns the bytes, and an atomic operation returns the word that was there, so a region with
either right can be told from another.  A write tells nothing: it is accepted or refused by the key,
the right and the range, and what it overwrites is not looked at.  So a region that may be written
only is confidential towards the peer that writes it, and stays so after the write: the hidden bytes
may differ still, where nothing was written, and the relation is kept either way.

## What the relation keeps

The lengths of the hidden bytes agree, since the range of an access is compared with them, and so do
the keys, the rights and the counters.  The relation is kept by every call, the deregistration of
the hidden region included, after which the stores are equal.
-/

namespace Rdows

open Rust

/-! ### Stores that answer alike -/

/-- The two calls ended alike and left related stores. -/
def Alike {α : Type} (E : MemoryStore → MemoryStore → Prop)
    (a b : Outcome ErrorCode α × MemoryStore) : Prop :=
  a.1 = b.1 ∧ E a.2 b.2

/-- Related stores answer every call of a session alike, and are related again afterwards.  These
are the calls that the handlers make, and no others. -/
structure StoreCongr (E : MemoryStore → MemoryStore → Prop) : Prop where
  validate : ∀ {s t : MemoryStore}, E s t → ∀ rkey,
    (s.validateRkey rkey .remoteWrite).map (fun _ => ())
      = (t.validateRkey rkey .remoteWrite).map (fun _ => ())
  read : ∀ {s t : MemoryStore}, E s t → ∀ rkey offset len,
    s.readRegion rkey offset len = t.readRegion rkey offset len
  register : ∀ {s t : MemoryStore}, E s t → ∀ draws pd flags len,
    Alike E ((MemoryStore.register draws pd flags len).run s)
      ((MemoryStore.register draws pd flags len).run t)
  deregister : ∀ {s t : MemoryStore}, E s t → ∀ pd lkey,
    Alike E ((MemoryStore.deregister pd lkey).run s) ((MemoryStore.deregister pd lkey).run t)
  write : ∀ {s t : MemoryStore}, E s t → ∀ rkey offset data,
    Alike E ((MemoryStore.writeRegion rkey offset data).run s)
      ((MemoryStore.writeRegion rkey offset data).run t)
  atomic : ∀ {s t : MemoryStore}, E s t → ∀ rkey va ty operand1 operand2,
    Alike E ((MemoryStore.atomicOp rkey va ty operand1 operand2).run s)
      ((MemoryStore.atomicOp rkey va ty operand1 operand2).run t)

/-- Equal stores answer alike. -/
theorem storeCongr_eq : StoreCongr (· = ·) where
  validate same rkey := by rw [same]
  read same rkey offset len := by rw [same]
  register same draws pd flags len := by rw [same]; exact ⟨rfl, rfl⟩
  deregister same pd lkey := by rw [same]; exact ⟨rfl, rfl⟩
  write same rkey offset data := by rw [same]; exact ⟨rfl, rfl⟩
  atomic same rkey va ty operand1 operand2 := by rw [same]; exact ⟨rfl, rfl⟩

/-! ### Sessions that act alike -/

namespace Session

/-- The session with another store and another next number. -/
abbrev swap (s : Session) (store : MemoryStore) (n : UInt32) : Session :=
  { s with memoryStore := store, nextSeq := n }

/-- The sessions agree but for the next number and the stores, which are related. -/
structure Beside (E : MemoryStore → MemoryStore → Prop) (s t : Session) : Prop where
  rest : t = s.swap t.memoryStore t.nextSeq
  stores : E s.memoryStore t.memoryStore

section Twins

variable {E : MemoryStore → MemoryStore → Prop} {s : Session} {store : MemoryStore} {n : UInt32}

/-- Twin plans with related sessions. -/
abbrev TwinPlans (E : MemoryStore → MemoryStore → Prop) : Plan → Plan → Prop :=
  Script.Twin (Beside E)

/-- Both sides decide alike, since the condition is the same. -/
theorem twin_ite {c : Prop} [Decidable c] {p p' q q' : Plan} (yes : TwinPlans E p q)
    (no : TwinPlans E p' q') : TwinPlans E (if c then p else p') (if c then q else q') := by
  split
  · exact yes
  · exact no

/-- The store is called on both sides. -/
theorem twin_calling {α : Type} {x : Method MemoryStore ErrorCode α}
    {next : Except ErrorCode α → Session → Plan}
    (alike : Alike E (x.run s.memoryStore) (x.run store))
    (goesOn : ∀ result left right, E left right →
      TwinPlans E (next result { s with memoryStore := left })
        (next result { s.swap store n with memoryStore := right })) :
    TwinPlans E (s.calling x next) ((s.swap store n).calling x next) := by
  obtain ⟨same, related⟩ := alike
  unfold calling
  dsimp only
  rcases ran : x.run s.memoryStore with ⟨a | code | p, left⟩ <;>
    rcases ran' : x.run store with ⟨a' | code' | p', right⟩ <;>
    rw [ran, ran'] at same related <;> cases same
  · exact goesOn _ left right related
  · exact goesOn _ left right related
  · exact .crash p ⟨rfl, related⟩

variable (congr : StoreCongr E) (related : E s.memoryStore store)
include congr related

/-- MR_REG: the limiter is part of what agrees, so both sides pass or are refused. -/
theorem twin_planMrReg (now : ℕ) (draws : ℕ → UInt32) (wrid : UInt64) (payload : MrRegPayload) :
    TwinPlans E (s.planMrReg now draws wrid payload)
      ((s.swap store n).planMrReg now draws wrid payload) := by
  have refreshed : (s.swap store n).refreshed now = (s.refreshed now).swap store n := by
    unfold Session.refreshed
    dsimp only
    split <;> rfl
  have fresh : E (s.refreshed now).memoryStore store := by
    unfold Session.refreshed
    split <;> exact related
  unfold planMrReg
  rw [refreshed]
  refine twin_ite (.answer _ ⟨rfl, fresh⟩) ?_
  exact twin_calling (s := { s.refreshed now with mrRegCount := (s.refreshed now).mrRegCount + 1 })
    (congr.register fresh ..) fun result left right related => .answer _ ⟨rfl, related⟩

theorem twin_planDispatch (now : ℕ) (draws : ℕ → UInt32) (msg : RdowsMessage) :
    TwinPlans E (s.planDispatch now draws msg) ((s.swap store n).planDispatch now draws msg) := by
  cases msg with
  | mrReg header payload => exact twin_planMrReg congr related ..
  | mrDereg header payload =>
      unfold planDispatch planMrDereg
      refine twin_calling (congr.deregister related ..) ?_
      intro result left right related
      exact .answer _ ⟨rfl, related⟩
  | send header payload =>
      exact twin_ite (.reply _ ⟨rfl, related⟩ (.done ⟨rfl, related⟩)) (.done ⟨rfl, related⟩)
  | sendData header payload =>
      unfold planDispatch planSendData
      dsimp only
      rcases s.pendingOp with _ | wrid | _ | _
      · exact .answer _ ⟨rfl, related⟩
      · refine .reply _ ⟨rfl, related⟩ ?_
        unfold planCredits
        dsimp only
        rcases checkedAdd32 s.sendsSinceLastCredit 1 with _ | sends
        · exact .crash _ ⟨rfl, related⟩
        · exact twin_ite (.reply _ ⟨rfl, related⟩ (.done ⟨rfl, related⟩)) (.done ⟨rfl, related⟩)
      · exact .answer _ ⟨rfl, related⟩
      · exact .done ⟨rfl, related⟩
  | write header payload =>
      have same := congr.validate related payload.rkey
      unfold planDispatch planWrite
      dsimp only
      -- The entry that was found may differ in its bytes; only the kind of the outcome is used.
      rcases left : s.memoryStore.validateRkey payload.rkey .remoteWrite with e | code | p <;>
        rcases right : store.validateRkey payload.rkey .remoteWrite with e' | code' | p' <;>
        rw [left, right] at same <;> cases same
      · exact .done ⟨rfl, related⟩
      · exact .answer _ ⟨rfl, related⟩
      · exact .crash _ ⟨rfl, related⟩
  | writeData header payload =>
      unfold planDispatch planWriteData
      dsimp only
      rcases s.pendingOp with _ | _ | ⟨wrid, rkey, va, _⟩ | _
      · exact .answer _ ⟨rfl, related⟩
      · exact .answer _ ⟨rfl, related⟩
      · refine twin_calling (s := { s with pendingOp := .none }) (congr.write related ..) ?_
        intro result left right related
        rcases result with code | _
        · exact .answer _ ⟨rfl, related⟩
        · exact .answer _ ⟨rfl, related⟩
      · exact .answer _ ⟨rfl, related⟩
  | readReq header payload =>
      have same := congr.read related payload.rkey payload.remoteVa payload.readLen
      refine twin_ite (.answer _ ⟨rfl, related⟩) ?_
      dsimp only
      rw [← same]
      rcases s.memoryStore.readRegion payload.rkey payload.remoteVa payload.readLen
        with data | code | p
      · exact .answer _ ⟨rfl, related⟩
      · exact .answer _ ⟨rfl, related⟩
      · exact .crash _ ⟨rfl, related⟩
  | atomicReq header payload =>
      refine twin_ite (.answer _ ⟨rfl, related⟩) ?_
      refine twin_calling (congr.atomic related ..) ?_
      intro result left right related
      rcases result with code | _
      · exact .answer _ ⟨rfl, related⟩
      · exact .answer _ ⟨rfl, related⟩
  | ack header => exact .done ⟨rfl, related⟩
  | _ => exact .answer _ ⟨rfl, related⟩

omit congr in
/-- CONNECT does not look at the store. -/
theorem twin_planConnect (msg : RdowsMessage) :
    TwinPlans E (s.planConnect msg) ((s.swap store n).planConnect msg) := by
  cases msg with
  | connect header payload =>
      exact twin_ite (.reply _ ⟨rfl, related⟩ (.done ⟨rfl, related⟩))
        (.reply _ ⟨rfl, related⟩ (.done ⟨rfl, related⟩))
  | _ => exact .fail _ ⟨rfl, related⟩

/-- Messages to a Ready session. -/
theorem twin_planReady (now : ℕ) (draws : ℕ → UInt32) (msg : RdowsMessage) :
    TwinPlans E (s.planReady now draws msg) ((s.swap store n).planReady now draws msg) := by
  by_cases control : isControl msg = false
  · rw [planReady_eq_planDispatch control, planReady_eq_planDispatch control]
    exact twin_planDispatch congr related now draws msg
  · cases msg with
    | disconnect header => exact .done ⟨rfl, related⟩
    | creditUpdate header payload => exact .done ⟨rfl, related⟩
    | _ => exact absurd rfl control

end Twins

/-- **Sessions side by side act alike**, whatever the message: they play twin plans, so they send
the same replies but for the numbers, and are side by side again wherever they end. -/
theorem plan_twin {E : MemoryStore → MemoryStore → Prop} (congr : StoreCongr E) {s t : Session}
    (beside : Beside E s t) (now : ℕ) (draws : ℕ → UInt32) (msg : RdowsMessage) :
    TwinPlans E (s.plan now draws msg) (t.plan now draws msg) := by
  obtain ⟨rest, related⟩ := beside
  rw [rest]
  generalize t.memoryStore = store at related
  generalize t.nextSeq = n
  have accepted : TwinPlans E ((s.accepting msg).planReady now draws msg)
      (((s.swap store n).accepting msg).planReady now draws msg) :=
    twin_planReady (s := s.accepting msg) congr related now draws msg
  refine twin_ite (.answer _ ⟨rfl, related⟩) ?_
  dsimp only
  rcases s.state with _ | _ | _
  · exact twin_planConnect related msg
  · unfold planNumbered
    dsimp only
    rcases s.expectedRemoteSeq with _ | expected
    · exact accepted
    · exact twin_ite (.answer _ ⟨rfl, related⟩) accepted
  · exact .done ⟨rfl, related⟩

end Session

/-! ### The bytes of one region -/

namespace MemoryStore

/-- The bytes of a region and other bytes of the same length, which no remote access can tell
apart: the region may be neither read nor updated atomically. -/
structure Hidden (e : MemoryRegionEntry) (data : Bytes) : Prop where
  sameLength : data.length = e.data.length
  unreadable : e.accessFlags.contains .remoteRead = false
  noAtomics : e.accessFlags.contains .remoteAtomic = false

/-- The regions agree except possibly for the bytes of the one under `l`, which are hidden. -/
structure RegionsExcept (l : UInt32) (m m' : AList fun _ : UInt32 => MemoryRegionEntry) :
    Prop where
  others : ∀ k ≠ l, m'.lookup k = m.lookup k
  region : m'.lookup l = m.lookup l ∨
    ∃ e data, m.lookup l = some e ∧ m'.lookup l = some { e with data } ∧ Hidden e data

/-- The stores agree except possibly for the bytes of the region under `l`, which are hidden. -/
structure SameExcept (l : UInt32) (s t : MemoryStore) : Prop where
  rest : t = { s with regions := t.regions }
  regions : RegionsExcept l s.regions t.regions

section RegionsExcept

variable {l : UInt32} {m m' : AList fun _ : UInt32 => MemoryRegionEntry}

/-- What is found under an L_Key is the same on both sides, or it is the hidden region. -/
theorem RegionsExcept.lookup (except : RegionsExcept l m m') (k : UInt32) :
    m'.lookup k = m.lookup k ∨
      k = l ∧ ∃ e data, m.lookup k = some e ∧ m'.lookup k = some { e with data } ∧
        Hidden e data := by
  by_cases same : k = l
  · subst same
    exact except.region.imp_right fun hidden => ⟨rfl, hidden⟩
  · exact .inl (except.others k same)

/-- The same region is added on both sides; under the L_Key of the hidden one, there is nothing
hidden any more. -/
theorem RegionsExcept.insert (except : RegionsExcept l m m') (k : UInt32) (e : MemoryRegionEntry) :
    RegionsExcept l (m.insert k e) (m'.insert k e) where
  others k' other := by
    rw [AssocMap.lookup_insert_eq_ite, AssocMap.lookup_insert_eq_ite, except.others k' other]
  region := by
    rw [AssocMap.lookup_insert_eq_ite, AssocMap.lookup_insert_eq_ite]
    split
    · exact .inl rfl
    · exact except.region

/-- The hidden region gets other bytes on each side. -/
theorem RegionsExcept.insert_hidden (except : RegionsExcept l m m') {e e' : MemoryRegionEntry}
    (same : e' = { e with data := e'.data }) (hidden : Hidden e e'.data) :
    RegionsExcept l (m.insert l e) (m'.insert l e') where
  others k other := by
    rw [AList.lookup_insert_ne other, AList.lookup_insert_ne other, except.others k other]
  region := .inr ⟨e, e'.data, AList.lookup_insert _, by rw [AList.lookup_insert, ← same], hidden⟩

/-- A region is removed on both sides. -/
theorem RegionsExcept.erase (except : RegionsExcept l m m') (k : UInt32) :
    RegionsExcept l (m.erase k) (m'.erase k) where
  others k' other := by
    rw [AssocMap.lookup_erase_eq_ite, AssocMap.lookup_erase_eq_ite, except.others k' other]
  region := by
    rw [AssocMap.lookup_erase_eq_ite, AssocMap.lookup_erase_eq_ite]
    split
    · exact .inl rfl
    · exact except.region

/-- There are as many regions on both sides. -/
theorem RegionsExcept.size_eq (except : RegionsExcept l m m') :
    AssocMap.size m' = AssocMap.size m := by
  refine AssocMap.size_congr fun k => ?_
  rcases except.lookup k with same | ⟨-, e, data, here, there, -⟩
  · rw [same]
  · rw [here, there]
    rfl

end RegionsExcept

section Congruence

variable {l : UInt32} {s : MemoryStore} {m : AList fun _ : UInt32 => MemoryRegionEntry}

/-- The store with other regions. -/
abbrev withRegions (s : MemoryStore) (m : AList fun _ : UInt32 => MemoryRegionEntry) :
    MemoryStore :=
  { s with regions := m }

/-- Drawing a key does not look at the regions. -/
theorem generateRkeyFrom_withRegions (draws : ℕ → UInt32) (s : MemoryStore) (i left : ℕ) :
    (generateRkeyFrom draws i left).run (s.withRegions m)
      = (((generateRkeyFrom draws i left).run s).1,
          ((generateRkeyFrom draws i left).run s).2.withRegions m) := by
  induction left generalizing i with
  | zero => rfl
  | succ left ih =>
      simp only [generateRkeyFrom, Method.run_bind, Method.run_get, Method.run_ite]
      split
      · rfl
      · exact ih (i + 1)

variable (except : RegionsExcept l s.regions m)
include except

/-- An access finds the same region in both stores, or it finds the hidden one. -/
theorem entryFor_withRegions (rkey : RKey) (required : AccessFlags) :
    (s.withRegions m).entryFor rkey required = s.entryFor rkey required ∨
      ∃ e data, s.entryFor rkey required = .ok (l, e) ∧
        (s.withRegions m).entryFor rkey required = .ok (l, { e with data }) ∧ Hidden e data := by
  unfold entryFor
  rcases s.rkeyToLkey.lookup rkey.value with _ | k
  · exact .inl rfl
  simp only [Outcome.okOr_some, Outcome.ok_bind]
  rcases except.lookup k with same | ⟨rfl, e, data, here, there, hidden⟩
  · rw [same]
    exact .inl rfl
  · rw [here, there]
    simp only [Outcome.okOr_some, Outcome.ok_bind]
    split
    · exact .inl rfl
    · exact .inr ⟨e, data, rfl, rfl, hidden⟩

/-- An access that needs a right which the hidden region lacks finds the same in both stores. -/
theorem entryFor_withRegions_of_lacking (rkey : RKey) {required : AccessFlags}
    (lacks : ∀ e data, Hidden e data → e.accessFlags.contains required = false) :
    (s.withRegions m).entryFor rkey required = s.entryFor rkey required := by
  rcases entryFor_withRegions except rkey required with same | ⟨e, data, here, -, hidden⟩
  · exact same
  · have has := (entryFor_eq_ok.mp here).2.2
    rw [lacks e data hidden] at has
    cases has

theorem register_withRegions (draws : ℕ → UInt32) (pd : ProtectionDomain) (flags : AccessFlags)
    (len : UInt64) :
    Alike (SameExcept l) ((register draws pd flags len).run s)
      ((register draws pd flags len).run (s.withRegions m)) := by
  unfold register
  rw [Method.run_bind_of_ok (Method.run_get _), Method.run_bind_of_ok (Method.run_get _),
    Method.run_ite, Method.run_ite]
  dsimp only
  -- of the regions a registration looks at their number only
  rw [except.size_eq]
  by_cases full : s.maxRegions ≤ AssocMap.size s.regions
  · rw [if_pos full, if_pos full]
    exact ⟨rfl, rfl, except⟩
  rw [if_neg full, if_neg full]
  rcases checkedAdd64 s.totalRegisteredBytes len with _ | wanted
  · exact ⟨rfl, rfl, except⟩
  simp only [Outcome.orPanic_some, Method.run_bind_of_ok (Method.run_lift _ _), Method.run_ite]
  by_cases quota : s.maxTotalBytes < wanted
  · rw [if_pos quota, if_pos quota]
    exact ⟨rfl, rfl, except⟩
  rw [if_neg quota, if_neg quota]
  rcases checkedAdd32 s.nextLkey 1 with _ | next
  · exact ⟨rfl, rfl, except⟩
  simp only [Outcome.orPanic_some, Method.run_bind_of_ok (Method.run_lift _ _),
    Method.run_bind_of_ok (Method.run_modify _ _)]
  have right := generateRkeyFrom_withRegions (m := m) draws { s with nextLkey := next } 0 1000
  obtain left | ⟨val, -, -, left⟩ := generateRkey_spec draws { s with nextLkey := next } <;>
    rw [generateRkey] at left <;> rw [left] at right
  · rw [Method.run_bind, Method.run_bind, generateRkey, left, right]
    exact ⟨rfl, rfl, except⟩
  rw [generateRkey, Method.run_bind_of_ok left, Method.run_bind_of_ok right]
  rcases (zeroed len.toNat : Outcome ErrorCode Bytes) with data | code | p
  · simp only [Method.run_bind_of_ok (Method.run_lift _ _),
      Method.run_bind_of_ok (Method.run_modify _ _), Method.run_bind_of_ok (Method.run_get _)]
    rcases checkedAdd64 s.totalRegisteredBytes len with _ | total
    · exact ⟨rfl, rfl, except.insert _ _⟩
    · exact ⟨rfl, rfl, except.insert _ _⟩
  · exact ⟨rfl, rfl, except⟩
  · exact ⟨rfl, rfl, except⟩

theorem deregister_withRegions (pd : ProtectionDomain) (lkey : LKey) :
    Alike (SameExcept l) ((deregister pd lkey).run s)
      ((deregister pd lkey).run (s.withRegions m)) := by
  unfold deregister
  rw [Method.run_bind_of_ok (Method.run_get _), Method.run_bind_of_ok (Method.run_get _)]
  dsimp only
  -- What is read of the two entries is the same, hidden or not.
  obtain ⟨here, there⟩ | ⟨e, data, here, there, sameLength⟩ :
      (s.regions.lookup lkey.value = none ∧ m.lookup lkey.value = none) ∨
      ∃ e data, s.regions.lookup lkey.value = some e ∧ m.lookup lkey.value = some { e with data } ∧
        data.length = e.data.length := by
    rcases except.lookup lkey.value with same | ⟨-, e, data, here, there, hidden⟩
    · rw [same]
      rcases s.regions.lookup lkey.value with _ | e
      · exact .inl ⟨rfl, rfl⟩
      · exact .inr ⟨e, e.data, rfl, rfl, rfl⟩
    · exact .inr ⟨e, data, here, there, hidden.sameLength⟩
  · rw [here, there]
    exact ⟨rfl, rfl, except⟩
  · rw [here, there]
    simp only [Outcome.okOr_some, Method.run_bind_of_ok (Method.run_lift _ _), Method.run_ite]
    split
    · exact ⟨rfl, rfl, except⟩
    · simp only [Method.run_bind_of_ok (Method.run_modify _ _),
        Method.run_bind_of_ok (Method.run_get _), sameLength]
      rcases checkedSub64 s.totalRegisteredBytes (UInt64.ofNat e.data.length) with _ | total
      · exact ⟨rfl, rfl, except.erase _⟩
      · exact ⟨rfl, rfl, except.erase _⟩

theorem writeRegion_withRegions (rkey : RKey) (offset : UInt64) (data : Bytes) :
    Alike (SameExcept l) ((writeRegion rkey offset data).run s)
      ((writeRegion rkey offset data).run (s.withRegions m)) := by
  rcases entryFor_withRegions except rkey .remoteWrite with same | ⟨e, other, here, there, hidden⟩
  · rcases access : s.entryFor rkey .remoteWrite with ⟨k, e⟩ | code | p
    · rw [access] at same
      rw [writeRegion_run_granted access, writeRegion_run_granted same]
      split
      · exact ⟨rfl, rfl, except.insert _ _⟩
      · exact ⟨rfl, rfl, except⟩
    · rw [access] at same
      rw [writeRegion_run_refused access, writeRegion_run_refused same]
      exact ⟨rfl, rfl, except⟩
    · exact absurd access (entryFor_ne_panic _ _ _ _)
  · rw [writeRegion_run_granted here, writeRegion_run_granted there]
    dsimp only
    -- the range is compared with the same length on both sides
    rw [hidden.sameLength]
    split
    · rename_i range
      refine ⟨rfl, rfl, except.insert_hidden rfl ⟨?_, hidden.unreadable, hidden.noAtomics⟩⟩
      show (splice other _ _).length = (splice e.data _ _).length
      rw [length_splice range.2, length_splice (hidden.sameLength ▸ range.2), hidden.sameLength]
    · exact ⟨rfl, rfl, except⟩

/-- Where the accesses find the same region, `atomic_op` does the same. -/
theorem atomicOp_withRegions (rkey : RKey) (va : UInt64) (ty : UInt8)
    (operand1 operand2 : UInt64) :
    Alike (SameExcept l) ((atomicOp rkey va ty operand1 operand2).run s)
      ((atomicOp rkey va ty operand1 operand2).run (s.withRegions m)) := by
  have same := entryFor_withRegions_of_lacking except rkey fun e data (hidden : Hidden e data) =>
    hidden.noAtomics
  rcases access : s.entryFor rkey .remoteAtomic with ⟨k, e⟩ | code | p
  · rw [access] at same
    rw [atomicOp_run_granted access, atomicOp_run_granted same]
    split_ifs
    · exact ⟨rfl, rfl, except⟩
    · split
      · exact ⟨rfl, rfl, except.insert _ _⟩
      · exact ⟨rfl, rfl, except⟩
    · exact ⟨rfl, rfl, except⟩
  · rw [access] at same
    rw [atomicOp_run_refused access, atomicOp_run_refused same]
    exact ⟨rfl, rfl, except⟩
  · exact absurd access (entryFor_ne_panic _ _ _ _)

theorem readRegion_withRegions (rkey : RKey) (offset len : UInt64) :
    s.readRegion rkey offset len = (s.withRegions m).readRegion rkey offset len := by
  have same := entryFor_withRegions_of_lacking except rkey fun e data (hidden : Hidden e data) =>
    hidden.unreadable
  unfold readRegion
  rw [same]

theorem validateRkey_withRegions (rkey : RKey) :
    (s.validateRkey rkey .remoteWrite).map (fun _ => ())
      = ((s.withRegions m).validateRkey rkey .remoteWrite).map (fun _ => ()) := by
  unfold validateRkey
  rcases entryFor_withRegions except rkey .remoteWrite with same | ⟨e, data, here, there, -⟩
  · rw [same]
  · rw [here, there]
    rfl

end Congruence

/-- No call of a session tells stores apart that agree but for hidden bytes. -/
theorem storeCongr_sameExcept (l : UInt32) : StoreCongr (SameExcept l) := by
  have shape {s t : MemoryStore} (same : SameExcept l s t) :
      ∃ m, t = s.withRegions m ∧ RegionsExcept l s.regions m :=
    ⟨t.regions, same.rest, same.regions⟩
  refine ⟨?_, ?_, ?_, ?_, ?_, ?_⟩
  all_goals
    intro s t same
    obtain ⟨m, rfl, except⟩ := shape same
  · exact validateRkey_withRegions except
  · exact readRegion_withRegions except
  · exact register_withRegions except
  · exact deregister_withRegions except
  · exact writeRegion_withRegions except
  · exact atomicOp_withRegions except

end MemoryStore

/-! ### Whole runs -/

namespace Session

theorem Beside.renumber {E : MemoryStore → MemoryStore → Prop} {s t : Session}
    (beside : Beside E s t) (n n' : UInt32) : Beside E (s.renumber n) (t.renumber n') := by
  obtain ⟨rest, stores⟩ := beside
  refine ⟨?_, stores⟩
  rw [rest]
  rfl

theorem Beside.sessionId {E : MemoryStore → MemoryStore → Prop} {s t : Session}
    (beside : Beside E s t) : t.sessionId = s.sessionId := by
  rw [beside.rest]

theorem Beside.state {E : MemoryStore → MemoryStore → Prop} {s t : Session}
    (beside : Beside E s t) : t.state = s.state := by
  rw [beside.rest]

end Session

namespace ServerRun

open Session

variable {E : MemoryStore → MemoryStore → Prop}

/-- One message, handled by two sessions side by side.  `N` relates the next numbers and `M` the
replies. -/
theorem handle_beside (congr : StoreCongr E) {N : UInt32 → UInt32 → Prop}
    {M : RdowsMessage → RdowsMessage → Prop} (counts : ∀ n n', N n n' → N (n + 1) (n' + 1))
    (stamps : ∀ (reply : Reply) id n n', N n n' → M (reply.under id n) (reply.under id n'))
    {r q : ServerRun} (beside : Beside E r.session q.session)
    (numbers : N r.session.nextSeq q.session.nextSeq) (env : Env) (msg : RdowsMessage) :
    (r.handle env msg).1.dispatched = (q.handle env msg).1.dispatched ∧
      List.Forall₂ M (r.handle env msg).1.replies (q.handle env msg).1.replies ∧
      (r.handle env msg).2.running = (q.handle env msg).2.running ∧
      Beside E (r.handle env msg).2.session (q.handle env msg).2.session ∧
      N (r.handle env msg).2.session.nextSeq (q.handle env msg).2.session.nextSeq := by
  obtain ⟨outcome, replies, s, t, k, k', related, numbers, left, right⟩ :=
    (plan_twin congr beside env.now env.draws msg).run (M := M) numbering env.refuses
      counts (fun s t n n' reply related numbers => by
        show M (reply.under s.sessionId n) (reply.under t.sessionId n')
        rw [related.sessionId]
        exact stamps reply _ n n' numbers) numbers .nil
  have sessions := related.renumber k k'
  have reaches : q.session.ReachesDispatch msg ↔ r.session.ReachesDispatch msg := by
    rw [beside.rest]
    exact Iff.rfl
  rw [handle_eq_played, handle_eq_played]
  refine ⟨?_, replies, ?_, ?_⟩
  · simp only [reaches]
  · show decide (_ ∧ _) = decide (_ ∧ _)
    rw [outcome, left, right]
    exact congrArg (fun state => decide (_ ∧ state ≠ SessionState.closed)) sessions.state.symm
  · show Beside E (played r env msg).2.1 (played q env msg).2.1 ∧ N (played r env msg).2.1.nextSeq _
    rw [left, right]
    exact ⟨sessions, numbers⟩

/-- A turn of the loop on two sides that run or have both ended. -/
theorem step_both {r q : ServerRun} (runs : r.running = q.running) (input : Env × WsMessage)
    {P : Served × ServerRun → Served × ServerRun → Prop}
    (stays : ∀ goesOn, P (⟨none, []⟩, ⟨r.session, goesOn⟩) (⟨none, []⟩, ⟨q.session, goesOn⟩))
    (handles : ∀ msg, r.running = true → input.2.carried = some msg →
      P (r.handle input.1 msg) (q.handle input.1 msg)) : P (r.step input) (q.step input) := by
  -- the sessions are left alone by everything but a message that decodes
  have idle : P (⟨none, []⟩, r) (⟨none, []⟩, q) := by
    obtain ⟨session, running⟩ := q
    subst runs
    exact stays r.running
  by_cases running : r.running = true
  · have running' := runs ▸ running
    obtain ⟨env, ws⟩ := input
    unfold step
    rw [if_pos running, if_pos running']
    rcases ws with data | _ | _ | _
    · rcases decoded : RdowsMessage.decode data with msg | e | p
      · have same := handles msg running (by simp [WsMessage.carried, decoded])
        simpa [decoded] using same
      · simpa [decoded] using stays false
      · simpa [decoded] using stays false
    · exact stays false
    · exact idle
    · exact stays false
  · rw [step_stopped (Bool.eq_false_iff.mpr running),
      step_stopped (Bool.eq_false_iff.mpr (runs ▸ running))]
    exact idle

/-- The sessions agree except possibly for the bytes of the region under `l`, which may be neither
read nor updated atomically.  Unlike in `Beside`, their next numbers agree. -/
structure DiffersIn (l : UInt32) (s t : Session) : Prop where
  rest : t = { s with memoryStore := t.memoryStore }
  stores : MemoryStore.SameExcept l s.memoryStore t.memoryStore

theorem DiffersIn.beside {l : UInt32} {s t : Session} (differs : DiffersIn l s t) :
    Beside (MemoryStore.SameExcept l) s t where
  rest := by
    rw [differs.rest]
  stores := differs.stores

/-- One turn of the loop on both sides. -/
theorem DiffersIn.step {l : UInt32} {r q : ServerRun} (differs : DiffersIn l r.session q.session)
    (runs : r.running = q.running) (input : Env × WsMessage) :
    (r.step input).1 = (q.step input).1 ∧ (r.step input).2.running = (q.step input).2.running ∧
      DiffersIn l (r.step input).2.session (q.step input).2.session := by
  refine step_both (P := fun a b => a.1 = b.1 ∧ a.2.running = b.2.running ∧
    DiffersIn l a.2.session b.2.session) runs input (fun _ => ⟨rfl, rfl, differs⟩) ?_
  intro msg _ _
  have numbers : q.session.nextSeq = r.session.nextSeq := by rw [differs.rest]
  obtain ⟨dispatched, replies, running, beside, next⟩ :=
    handle_beside (MemoryStore.storeCongr_sameExcept l) (N := (· = ·)) (M := (· = ·))
      (fun _ _ same => congrArg (· + 1) same) (fun _ _ _ _ same => by rw [same]) differs.beside
      numbers.symm input.1 msg
  refine ⟨?_, running, ⟨?_, beside.stores⟩⟩
  · rw [List.forall₂_eq_eq_eq] at replies
    exact congrArg₂ Served.mk dispatched replies
  · rw [beside.rest, ← next]

/-- **Confidentiality.** Two sessions that agree but for the bytes of a region which may be neither
read nor updated atomically send the same replies to the same frames, clock readings, draws and send
failures, and still agree in that way after every frame.  So a peer learns nothing about those
bytes, by any sequence of frames. -/
theorem noninterference (l : UInt32) (s t : Session) (differs : DiffersIn l s t)
    (inputs : List (Env × WsMessage)) :
    seen ⟨s, true⟩ inputs = seen ⟨t, true⟩ inputs ∧
      DiffersIn l (after ⟨s, true⟩ inputs).session (after ⟨t, true⟩ inputs).session := by
  suffices both : seen ⟨s, true⟩ inputs = seen ⟨t, true⟩ inputs ∧
      (after ⟨s, true⟩ inputs).running = (after ⟨t, true⟩ inputs).running ∧
      DiffersIn l (after ⟨s, true⟩ inputs).session (after ⟨t, true⟩ inputs).session from
    ⟨both.1, both.2.2⟩
  induction inputs using List.reverseRecOn with
  | nil => exact ⟨rfl, rfl, differs⟩
  | append_singleton inputs input ih =>
      obtain ⟨seen, runs, differs⟩ := ih
      obtain ⟨served, step⟩ := differs.step runs input
      rw [seen_concat, seen_concat, after_concat, after_concat, seen, served]
      exact ⟨rfl, step⟩

/-- A Ready session with one region of eight bytes `b`, which may only be written. -/
def sampleSecret (b : UInt8) : Session :=
  { Session.new {} 0 with
    state := .ready
    memoryStore := ((MemoryStore.new 4 64).withRegion ⟨1⟩ .remoteWrite 8 5).setData 1
      ⟨⟨1⟩, ⟨1⟩, ⟨5⟩, .remoteWrite, []⟩ (List.replicate 8 b) }

/-- A READ_REQ for the region of `sampleSecret`. -/
def sampleRead : RdowsMessage := .readReq (.new .readReq 7 1 3) ⟨⟨5⟩, 0, 8, ⟨1⟩, 0⟩

/-- Two sessions whose only region is filled with 0 in the one and with 1 in the other.  A READ_REQ
for the whole region gets the same reply in both. -/
theorem noninterference_sampleSecret : DiffersIn 1 (sampleSecret 0) (sampleSecret 1) ∧
    seen ⟨sampleSecret 0, true⟩ (binaries [delivered sampleRead])
      = seen ⟨sampleSecret 1, true⟩ (binaries [delivered sampleRead]) := by
  have differs : DiffersIn 1 (sampleSecret 0) (sampleSecret 1) := by
    refine ⟨rfl, rfl, ?_, .inr ⟨_, List.replicate 8 1, AList.lookup_insert _,
      AList.lookup_insert _, rfl, rfl, rfl⟩⟩
    intro k other
    exact (AList.lookup_insert_ne other).trans (AList.lookup_insert_ne other).symm
  exact ⟨differs, (noninterference 1 _ _ differs _).1⟩

end ServerRun

end Rdows
