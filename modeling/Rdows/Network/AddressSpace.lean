import Rdows.Network.Basic
import Rdows.Server.StoreRefinement

/-!
# The memory that a program works with

`AddressSpace` is what the verbs are for: regions of bytes at the server, named by R_Keys, buffers
of bytes at the client, named by L_Keys, and a queue of completions.  It is one memory that is
accessed by one call at a time, with no maps that must fit together and nothing on its way.

## Calls

* `AddressSpace.perform` says what a verb other than a registration does.  Every failure is
  explained by the memory itself: an unknown key, a missing right, a range that is too long, a full
  queue, no receive left.  A call that fails leaves the memory as it was, but for its completion.
* A call that finds no server fails without effect, with an error of the transport.  Which one is
  not up to the memory, so that `perform` is given it.

## Registrations

`AddressSpace.Allows` adds registrations, which the memory does not determine.

* Which keys are given out is left open, but they are not in use, and so no other region or buffer
  is touched.
* A refusal has a reason (`Refuses`): too many regions, too many bytes, or too many registrations in
  too short a time.  One reason is not in the memory: the server may fail to draw an unused R_Key.
* A registration can also break the server (`Breaks`), which then serves no call any more.

## Machine words

They show in two places.  The client computes the end of a range in 64 bits and panics if it does
not fit (`load`).  The server panics at a registration that makes the bytes overflow 64 bits, the
L_Keys 32 bits, or the allocation its limit.  Everything else is natural numbers.
-/

namespace Rdows

open Rust

/-- What limits registrations, and what has been used of it.  It is part of the memory because a
refusal has to be explained by it. -/
structure Allowance where
  /-- The number of regions there may be. -/
  regions : ℕ
  /-- The number of bytes there may be in all regions. -/
  bytes : ℕ
  /-- The number of registrations there may be in a window of time. -/
  rate : ℕ
  /-- The number of registrations in the current window. -/
  recent : ℕ
  nextLkey : ℕ

/-- A registration was asked for: it is counted, or a new window has begun, and an L_Key may be
spent. -/
structure Allowance.Moves (a a' : Allowance) : Prop where
  regions : a'.regions = a.regions
  bytes : a'.bytes = a.bytes
  rate : a'.rate = a.rate
  recent : a'.recent ≤ a.recent + 1
  nextLkey : a.nextLkey ≤ a'.nextLkey ∧ a'.nextLkey ≤ a.nextLkey + 1

/-- The memory of a connection, on both sides: regions by R_Key, buffers by L_Key, the completions
that wait to be polled, and what is left of receives and registrations. -/
structure AddressSpace where
  /-- The regions, by their R_Keys. -/
  remote : Memory
  /-- The R_Keys of the regions, by their L_Keys. -/
  owner : LKey → Option RKey
  /-- The local buffers, by their L_Keys. -/
  buffers : LKey → Option Bytes
  queue : CompletionQueue
  sessionId : UInt32
  /-- The number of receives that are posted. -/
  receives : ℕ
  /-- The number of reads that may be outstanding. -/
  reads : ℕ
  allowance : Allowance
  /-- The server is there. -/
  serving : Bool

namespace AddressSpace

variable {α β : Type}

/-! ### The client's side -/

/-- What the client does with the memory. -/
abbrev Operation := Method AddressSpace RdowsError

/-- The bytes `[start, start + len)` of a buffer.  The end is computed in 64 bits, without a check,
so a range that leaves them panics rather than being refused. -/
def load (m : AddressSpace) (lkey : LKey) (start len : ℕ) : Outcome RdowsError Bytes :=
  match m.buffers lkey with
  | none => .err (.protocol .errInvalidLkey)
  | some buffer =>
      if usizeBound ≤ start + len then .panic .arithmeticOverflow
      else if start + len ≤ buffer.length then .ok ((buffer.drop start).take len)
      else .err (.protocol .errBounds)

/-- The bytes of all entries, in their order.  The first entry that cannot be loaded decides. -/
def gather (m : AddressSpace) : List ScatterGatherEntry → Outcome RdowsError Bytes
  | [] => return []
  | sg :: rest => do
      let data ← m.load sg.lkey sg.offset.toNat sg.length.toNat
      return data ++ (← m.gather rest)

/-- Overwrite bytes of a buffer that can be loaded.  A refused store changes nothing. -/
def store (lkey : LKey) (start : ℕ) (data : Bytes) : Operation Unit := do
  let m ← Method.get
  let _ ← Method.lift (m.load lkey start data.length)
  Method.modify fun m => { m with
    buffers := Function.update m.buffers lkey
      ((m.buffers lkey).map fun buffer => splice buffer start data) }

/-- Report a completion. -/
def report (wrid : UInt64) (status : UInt16) (opcode : Opcode) (byteCount : UInt32) :
    Operation Unit :=
  Method.modify fun m => { m with
    queue := (m.queue.push
      { wrid, status, opcode, vendorError := 0, byteCount, qpNumber := m.sessionId }).2 }

/-- A work request that has been served leaves one completion: with the number of bytes if it
succeeded, with the code if it failed.  Only then is what was done delivered. -/
def completes (wrid : UInt64) (opcode : Opcode) (byteCount : α → UInt32)
    (deliver : α → Operation VerbValue) : Except ErrorCode α → Operation VerbValue
  | .ok a => do
      let value ← deliver a
      report wrid 0 opcode (byteCount a)
      return value
  | .error code => do
      report wrid code.toU16 opcode 0
      Method.throw (.protocol code)

/-- A deregistration also removes the buffer. -/
def released (lkey : LKey) : Except ErrorCode Unit → Operation VerbValue
  | .ok _ => do
      Method.modify fun m => { m with buffers := Function.update m.buffers lkey none }
      return .unit
  | .error code => Method.throw (.protocol code)

/-- Take completions from the queue. -/
def polled (max : ℕ) : Operation VerbValue := do
  let m ← Method.get
  Method.modify fun m => { m with queue := (m.queue.pollCq max).2 }
  return .completions (m.queue.pollCq max).1

/-! ### The server's side -/

/-- What the server does with the memory. -/
abbrev Access (α : Type) := AddressSpace → Except ErrorCode α × AddressSpace

/-- Remove the region with this L_Key; there has to be one. -/
def remove (lkey : LKey) : Access Unit := fun m =>
  match m.owner lkey with
  | none => (.error .errInvalidLkey, m)
  | some rkey => (.ok (), { m with
      remote := m.remote.set rkey none
      owner := Function.update m.owner lkey none })

/-- Use up a posted receive; there has to be one. -/
def receive : Access Unit := fun m =>
  if m.receives = 0 then (.error .errRnr, m) else (.ok (), { m with receives := m.receives - 1 })

/-- Write to a region: the key, the right to write and the range are checked in this order. -/
def write (rkey : RKey) (remoteVa : ℕ) (data : Bytes) : Access Unit := fun m =>
  ((m.remote.write rkey remoteVa data).1,
    { m with remote := (m.remote.write rkey remoteVa data).2 })

/-- Read from a region, unless no read may be outstanding at all; the key, the right to read and the
range are then checked in this order. -/
def read (rkey : RKey) (remoteVa readLen : ℕ) : Access Bytes := fun m =>
  if m.reads = 0 then (.error .errRnr, m) else (m.remote.read rkey remoteVa readLen, m)

/-- Replace eight bytes of a region by what the operation makes of them, and return what they were.
Only the two operations of the protocol are known. -/
def atomic (rkey : RKey) (remoteVa : ℕ) (atomicType : UInt8) (operand1 operand2 : UInt64) :
    Access UInt64 := fun m =>
  let out := m.remote.atomic rkey remoteVa atomicType operand1.toNat operand2.toNat
  (out.1.map UInt64.ofNat, { m with remote := out.2 })

/-! ### The verbs -/

/-- An access, and what the client makes of its result; without a server, the error `lost` and no
change. -/
def request (lost : RdowsError) (m : AddressSpace) (access : Access α)
    (finish : Except ErrorCode α → Operation VerbValue) :
    Outcome RdowsError VerbValue × AddressSpace :=
  if m.serving then (finish (access m).1).run (access m).2 else (.err lost, m)

/-- A work request needs room for its completion, and its data. -/
def working (m : AddressSpace) (gathered : Outcome RdowsError α)
    (next : α → Outcome RdowsError VerbValue × AddressSpace) :
    Outcome RdowsError VerbValue × AddressSpace :=
  if m.queue.isFull then (.err (.protocol .errCqOverflow), m)
  else match gathered with
    | .ok a => next a
    | .err e => (.err e, m)
    | .panic p => (.panic p, m)

/-- What a verb does.  The memory does not determine how a registration ends. -/
def perform (lost : RdowsError) (m : AddressSpace) :
    Verb → Option (Outcome RdowsError VerbValue × AddressSpace)
  | .regMr _ _ => if m.serving then none else some (.err lost, m)
  | .deregMr lkey => some (request lost m (remove lkey) (released lkey))
  | .postSend wrid sgList => some <| m.working (m.gather sgList) fun data =>
      request lost m receive
        (completes wrid .send (fun _ => UInt32.ofNat data.length) fun _ => return .unit)
  | .rdmaWrite wrid rkey remoteVa sgList => some <| m.working (m.gather sgList) fun data =>
      request lost m (write rkey remoteVa.toNat data)
        (completes wrid .write (fun _ => (UInt64.ofNat data.length).toUInt32) fun _ => return .unit)
  | .rdmaRead wrid rkey remoteVa readLen localLkey localVa => some <| m.working (.ok ()) fun _ =>
      request lost m (read rkey remoteVa.toNat readLen.toNat)
        (completes wrid .readReq (fun data => UInt32.ofNat data.length) fun data => do
          store localLkey localVa.toNat data
          return .unit)
  | .atomicCas wrid rkey remoteVa compare swap => some <| m.working (.ok ()) fun _ =>
      request lost m (atomic rkey remoteVa.toNat atomicTypeCas compare swap)
        (completes wrid .atomicReq (fun _ => 8) fun original => return .original original)
  | .atomicFaa wrid rkey remoteVa addend => some <| m.working (.ok ()) fun _ =>
      request lost m (atomic rkey remoteVa.toNat atomicTypeFaa addend 0)
        (completes wrid .atomicReq (fun _ => 8) fun original => return .original original)
  | .pollCq max => some ((polled max).run m)
  | .writeLocalMr lkey offset data =>
      some (((store lkey offset data).mapValue fun _ => VerbValue.unit).run m)
  | .readLocalMr lkey offset len => some ((m.load lkey offset len).map .bytes, m)

/-- The memory with a new region of zeros and a buffer for it. -/
def withRegion (m : AddressSpace) (accessFlags : AccessFlags) (len : ℕ) (lkey : LKey)
    (rkey : RKey) : AddressSpace :=
  { m with
    remote := m.remote.set rkey (some ⟨accessFlags, List.replicate len 0⟩)
    owner := Function.update m.owner lkey (some rkey)
    buffers := Function.update m.buffers lkey (some (List.replicate len 0)) }

/-- Why a registration is refused, and with which code. -/
inductive Refuses (m : AddressSpace) (len : ℕ) : ErrorCode → Prop
  | rate (full : m.allowance.rate ≤ m.allowance.recent) : Refuses m len .errInternal
  | regions (full : m.allowance.regions ≤ m.remote.count) : Refuses m len .errInternal
  | bytes (beyond : m.allowance.bytes < m.remote.bytes + len) : Refuses m len .errBounds
  /-- All numbers that the server drew were zero or had been R_Keys before. -/
  | draws : Refuses m len .errInternal

/-- Why a registration breaks the server. -/
inductive Breaks (m : AddressSpace) (len : ℕ) : Prop
  | bytes (beyond : 2 ^ 64 ≤ m.remote.bytes + len)
  | lkeys (beyond : 2 ^ 32 ≤ m.allowance.nextLkey + 1)
  | size (large : isizeMax < len)

/-- **What a call may return and do.** Registrations may have several results; every other verb has
the one of `perform`. -/
inductive Allows (m : AddressSpace) : Verb → Outcome RdowsError VerbValue → AddressSpace → Prop
  | performs {verb : Verb} {out : Outcome RdowsError VerbValue × AddressSpace} {lost : RdowsError}
      (ofTransport : lost.OfTransport) (does : perform lost m verb = some out) :
      Allows m verb out.1 out.2
  /-- A registration within the limits gives out keys that are not in use. -/
  | registers (accessFlags : AccessFlags) (len : UInt64) (lkey : LKey) (rkey : RKey)
      (allowance : Allowance) (free : m.remote rkey = none) (unowned : m.owner lkey = none)
      (unused : m.buffers lkey = none) (room : m.remote.count < m.allowance.regions)
      (quota : m.remote.bytes + len.toNat ≤ m.allowance.bytes)
      (moves : m.allowance.Moves allowance) :
      Allows m (.regMr accessFlags len)
        (.ok (.handle { lkey, rkey, len, localBuf := List.replicate len.toNat 0 }))
        { m.withRegion accessFlags len.toNat lkey rkey with allowance }
  | refuses (accessFlags : AccessFlags) (len : UInt64) (code : ErrorCode) (allowance : Allowance)
      (reason : m.Refuses len.toNat code) (moves : m.allowance.Moves allowance) :
      Allows m (.regMr accessFlags len) (.err (.protocol code)) { m with allowance }
  /-- The server does not survive the registration. -/
  | loses (accessFlags : AccessFlags) (len : UInt64) (lost : RdowsError)
      (reason : m.Breaks len.toNat) (ofTransport : lost.OfTransport) :
      Allows m (.regMr accessFlags len) (.err lost) { m with serving := false }

/-! ### Buffers belong to regions -/

/-- Every buffer belongs to a region.  Whether every region has a buffer is not asked here. -/
def Linked (m : AddressSpace) : Prop := ∀ lkey, m.owner lkey = none → m.buffers lkey = none

/-- The same keys are in use.  Everything but registrations and deregistrations keeps them. -/
def SameKeys (m m' : AddressSpace) : Prop :=
  m'.owner = m.owner ∧ ∀ lkey, m.buffers lkey = none → m'.buffers lkey = none

namespace SameKeys

theorem refl (m : AddressSpace) : SameKeys m m := ⟨rfl, fun _ none => none⟩

theorem trans (m₁ m₂ m₃ : AddressSpace) (first : SameKeys m₁ m₂) (second : SameKeys m₂ m₃) :
    SameKeys m₁ m₃ :=
  ⟨second.1.trans first.1, fun lkey none => second.2 lkey (first.2 lkey none)⟩

theorem linked {m m' : AddressSpace} (same : SameKeys m m') (linked : m.Linked) : m'.Linked := by
  intro lkey unowned
  rw [same.1] at unowned
  exact same.2 lkey (linked lkey unowned)

theorem bind {x : Operation α} {f : α → Operation β} (first : x.Keeps SameKeys)
    (second : ∀ a, (f a).Keeps SameKeys) : (x >>= f).Keeps SameKeys :=
  Method.Keeps.bind trans first fun _ a t _ => second a t

theorem report (wrid : UInt64) (status : UInt16) (opcode : Opcode) (byteCount : UInt32) :
    (AddressSpace.report wrid status opcode byteCount).Keeps SameKeys :=
  fun _ => ⟨rfl, fun _ none => none⟩

theorem store (lkey : LKey) (start : ℕ) (data : Bytes) :
    (AddressSpace.store lkey start data).Keeps SameKeys := by
  refine bind (.get refl) fun _ => bind (.lift refl _) fun _ m => ⟨rfl, fun other none => ?_⟩
  show Function.update _ _ _ other = _
  by_cases same : other = lkey
  · rw [same] at none ⊢
    rw [Function.update_self, none, Option.map_none]
  · rw [Function.update_of_ne same, none]

theorem completes {wrid : UInt64} {opcode : Opcode} {byteCount : α → UInt32}
    {deliver : α → Operation VerbValue} (delivers : ∀ a, (deliver a).Keeps SameKeys)
    (result : Except ErrorCode α) :
    (AddressSpace.completes wrid opcode byteCount deliver result).Keeps SameKeys := by
  rcases result with code | a
  · exact bind (report _ _ _ _) fun _ => .lift refl _
  · exact bind (delivers a) fun _ => bind (report _ _ _ _) fun _ => .pure refl _

theorem request {access : Access α} {finish : Except ErrorCode α → Operation VerbValue}
    {m : AddressSpace} {lost : RdowsError} (accesses : SameKeys m (access m).2)
    (finishes : ∀ result, (finish result).Keeps SameKeys) :
    SameKeys m (AddressSpace.request lost m access finish).2 := by
  rw [AddressSpace.request]
  split
  · exact trans _ _ _ accesses (finishes _ _)
  · exact refl m

theorem working {m : AddressSpace} {gathered : Outcome RdowsError α}
    {next : α → Outcome RdowsError VerbValue × AddressSpace}
    (same : ∀ a, SameKeys m (next a).2) : SameKeys m (m.working gathered next).2 := by
  unfold AddressSpace.working
  split
  · exact refl m
  · rcases gathered with a | e | p
    · exact same a
    · exact refl m
    · exact refl m

end SameKeys

/-- A deregistration removes the region and the buffer. -/
theorem Linked.deregMr {m : AddressSpace} (linked : m.Linked) (lost : RdowsError) (lkey : LKey) :
    (request lost m (remove lkey) (released lkey)).2.Linked := by
  rw [request]
  split
  · rw [remove]
    rcases m.owner lkey with _ | rkey
    · exact linked
    · intro other unowned
      show Function.update m.buffers lkey none other = none
      by_cases same : other = lkey
      · rw [same, Function.update_self]
      · have before : m.owner other = none := (Function.update_of_ne same _ _).symm.trans unowned
        rw [Function.update_of_ne same, linked other before]
  · exact linked

/-- A registration adds both. -/
theorem Linked.withRegion {m : AddressSpace} (linked : m.Linked) (accessFlags : AccessFlags)
    (len : ℕ) (lkey : LKey) (rkey : RKey) : (m.withRegion accessFlags len lkey rkey).Linked := by
  intro other unowned
  show Function.update m.buffers lkey _ other = none
  by_cases same : other = lkey
  · have owned : (m.withRegion accessFlags len lkey rkey).owner other = some rkey := by
      rw [same]
      exact Function.update_self lkey (some rkey) m.owner
    cases owned.symm.trans unowned
  · have before : m.owner other = none := (Function.update_of_ne same _ _).symm.trans unowned
    rw [Function.update_of_ne same, linked other before]

theorem Linked.perform {m : AddressSpace} (linked : m.Linked) {verb : Verb} {lost : RdowsError}
    {out : Outcome RdowsError VerbValue × AddressSpace}
    (does : AddressSpace.perform lost m verb = some out) : out.2.Linked := by
  have unchanged : SameKeys m (receive m).2 := by
    rw [receive]
    split <;> exact .refl m
  have unread (rkey : RKey) (va len : ℕ) : SameKeys m (read rkey va len m).2 := by
    rw [read]
    split <;> exact .refl m
  have returns (value : VerbValue) : (Pure.pure value : Operation VerbValue).Keeps SameKeys :=
    .pure SameKeys.refl value
  -- apart from a deregistration no verb changes which keys are live or to which region they lead
  cases verb with
  | regMr accessFlags len =>
      rw [AddressSpace.perform] at does
      split at does
      · cases does
      · cases does
        exact linked
  | deregMr lkey =>
      cases does
      exact linked.deregMr lost lkey
  | postSend wrid sgList =>
      cases does
      exact (SameKeys.working fun _ => .request unchanged
        (.completes fun _ => returns _)).linked linked
  | rdmaWrite wrid rkey remoteVa sgList =>
      cases does
      exact (SameKeys.working fun _ => .request ⟨rfl, fun _ none => none⟩
        (.completes fun _ => returns _)).linked linked
  | rdmaRead wrid rkey remoteVa readLen localLkey localVa =>
      cases does
      exact (SameKeys.working fun _ => .request (unread _ _ _)
        (.completes fun data => SameKeys.bind (SameKeys.store _ _ data) fun _ =>
          returns _)).linked linked
  | atomicCas wrid rkey remoteVa compare swap =>
      cases does
      exact (SameKeys.working fun _ => .request ⟨rfl, fun _ none => none⟩
        (.completes fun _ => returns _)).linked linked
  | atomicFaa wrid rkey remoteVa addend =>
      cases does
      exact (SameKeys.working fun _ => .request ⟨rfl, fun _ none => none⟩
        (.completes fun _ => returns _)).linked linked
  | pollCq max =>
      cases does
      exact linked
  | writeLocalMr lkey offset data =>
      cases does
      exact (SameKeys.store lkey offset data m).linked linked
  | readLocalMr lkey offset len =>
      cases does
      exact linked

end AddressSpace

end Rdows
