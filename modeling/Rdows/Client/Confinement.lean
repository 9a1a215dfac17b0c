import Rdows.Client.Completions
import Rdows.Lib.AssocMap

/-!
# Local memory against any server

The bytes of a local buffer belong to the application.  What a server can learn of them, and what it
can do to them, is bounded by the calls that the application makes, whatever the server sends:
frames out of order, frames that do not decode, answers to other requests, and data of any length.

## Confidentiality

`local_memory_confidential`: two connections that differ only in the bytes of one buffer cannot be
told apart by a server that reacts to all it is sent, as long as no call names the buffer as a
source.  Reading *into* the buffer is allowed.  The server is a function of everything that was put
on the wire so far, so it may use what it learned from earlier frames.

The relation is `Beside`, and the proof goes through the bodies of the verbs: every local method
`Respects` it, so the talks of the two connections are `Paired`, and paired talks take the same
answers from the same server.  Sizes and keys are the same on both sides; only bytes differ.

## Integrity

`local_memory_framed`: a byte of a buffer changes only if a call asks for it.  The exact condition
is `Exchange.Touches`.  It says what the server decides: the end of the range of an `rdma_read`,
which is not compared with the length that was asked for, and the L_Key of a new region, which
replaces a region that has it already.  The first of these is a real overrun: a READ of no bytes may
be answered with one, and the byte lands (`local_memory_framed_overlong`).
-/

namespace Rdows

open Rust

/-- The call takes bytes out of the buffer: it gathers from it, or it is a local read of it. -/
def Verb.Reads (lkey : LKey) : Verb → Prop
  | postSend _ sgList | rdmaWrite _ _ _ sgList => ∃ sg ∈ sgList, sg.lkey = lkey
  | readLocalMr source .. => source = lkey
  | _ => False

/-- What a region is, without its bytes. -/
def MemoryRegionHandle.outline (mr : MemoryRegionHandle) : LKey × RKey × UInt64 × ℕ :=
  (mr.lkey, mr.rkey, mr.len, mr.localBuf.length)

namespace RdowsConnection

/-- The connections differ at most in the bytes of one local buffer.  That the buffer is there, its
keys and its size are common to both. -/
structure Beside (lkey : LKey) (c d : RdowsConnection) : Prop where
  rest : d = { c with localMrs := d.localMrs }
  others : ∀ key, key ≠ lkey.value → c.localMrs.lookup key = d.localMrs.lookup key
  own : (c.localMrs.lookup lkey.value).map MemoryRegionHandle.outline
    = (d.localMrs.lookup lkey.value).map MemoryRegionHandle.outline

namespace Beside

variable {lkey : LKey} {c d : RdowsConnection}

theorem cases (beside : Beside lkey c d) : ∃ mrs, d = { c with localMrs := mrs } :=
  ⟨d.localMrs, beside.rest⟩

/-- A change that has nothing to do with the regions. -/
theorem of_commutes (beside : Beside lkey c d) {f : RdowsConnection → RdowsConnection}
    (commutes : ∀ c mrs, f { c with localMrs := mrs } = { f c with localMrs := mrs }) :
    Beside lkey (f c) (f d) := by
  have same (c : RdowsConnection) : (f c).localMrs = c.localMrs := by
    have kept := congrArg RdowsConnection.localMrs (commutes c c.localMrs)
    exact kept
  constructor
  · rw [same]
    exact (congrArg f beside.rest).trans (commutes c d.localMrs)
  · rw [same, same]
    exact beside.others
  · rw [same, same]
    exact beside.own

theorem adjusts {f : RdowsConnection → RdowsConnection}
    (commutes : ∀ c mrs, f { c with localMrs := mrs } = { f c with localMrs := mrs }) :
    (Method.modify f : Local PUnit).Respects (Beside lkey) :=
  .modify fun _ _ beside => beside.of_commutes commutes

/-- A region is put in, and only the bytes of the one buffer may differ.  This is what a copy into a
buffer does on both sides. -/
theorem insert (beside : Beside lkey c d) {key : UInt32} {mr mr' : MemoryRegionHandle}
    (same : key ≠ lkey.value → mr = mr') (outline : mr.outline = mr'.outline) :
    Beside lkey { c with localMrs := c.localMrs.insert key mr }
      { d with localMrs := d.localMrs.insert key mr' } := by
  constructor
  · exact congrArg (fun e : RdowsConnection => { e with localMrs := d.localMrs.insert key mr' })
      beside.rest
  · intro other apart
    dsimp only
    rw [AssocMap.lookup_insert_eq_ite, AssocMap.lookup_insert_eq_ite, beside.others other apart]
    split
    next here =>
      subst here
      rw [same apart]
    next => rfl
  · dsimp only
    rw [AssocMap.lookup_insert_eq_ite, AssocMap.lookup_insert_eq_ite]
    split
    · exact congrArg some outline
    · exact beside.own

theorem erase (beside : Beside lkey c d) (key : UInt32) :
    Beside lkey { c with localMrs := c.localMrs.erase key }
      { d with localMrs := d.localMrs.erase key } := by
  constructor
  · exact congrArg (fun e : RdowsConnection => { e with localMrs := d.localMrs.erase key })
      beside.rest
  · intro other apart
    dsimp only
    rw [AssocMap.lookup_erase_eq_ite, AssocMap.lookup_erase_eq_ite, beside.others other apart]
  · dsimp only
    rw [AssocMap.lookup_erase_eq_ite, AssocMap.lookup_erase_eq_ite]
    split
    · rfl
    · exact beside.own

/-! ### Reading -/

theorem localMr_eq (beside : Beside lkey c d) {other : LKey} (apart : other ≠ lkey) :
    c.localMr other = d.localMr other := by
  have differ : other.value ≠ lkey.value := fun same => apart (congrArg LKey.mk same)
  rw [localMr, localMr, beside.others _ differ]

theorem readLocalMr_eq (beside : Beside lkey c d) {other : LKey} (apart : other ≠ lkey)
    (offset len : ℕ) : c.readLocalMr other offset len = d.readLocalMr other offset len := by
  rw [readLocalMr, readLocalMr, beside.localMr_eq apart]

theorem gatherSgData_eq (beside : Beside lkey c d) {sgList : List ScatterGatherEntry}
    (apart : ¬ ∃ sg ∈ sgList, sg.lkey = lkey) : c.gatherSgData sgList = d.gatherSgData sgList := by
  induction sgList with
  | nil => rfl
  | cons sg rest ih =>
      have here : sg.lkey ≠ lkey := fun same => apart ⟨sg, List.mem_cons_self, same⟩
      have later : ¬ ∃ sg ∈ rest, sg.lkey = lkey := by
        rintro ⟨sg, mem, same⟩
        exact apart ⟨sg, List.mem_cons_of_mem _ mem, same⟩
      rw [gatherSgData_cons, gatherSgData_cons, beside.readLocalMr_eq here, ih later]

/-! ### Writing -/

/-- The check of a range looks at the size of the buffer only. -/
theorem checkRange_eq {mr mr' : MemoryRegionHandle}
    (outline : mr.outline = mr'.outline) (start len : ℕ) :
    checkRange mr start len = checkRange mr' start len := by
  have length : mr.localBuf.length = mr'.localBuf.length := congrArg (·.2.2.2) outline
  rw [checkRange, checkRange, length]

/-- The same region, or two that differ in their bytes. -/
theorem lookup_cases (beside : Beside lkey c d) (key : UInt32) :
    (c.localMrs.lookup key = none ∧ d.localMrs.lookup key = none) ∨
    ∃ mr mr', c.localMrs.lookup key = some mr ∧ d.localMrs.lookup key = some mr' ∧
      mr.outline = mr'.outline ∧ (key ≠ lkey.value → mr = mr') := by
  by_cases here : key = lkey.value
  · subst here
    have own := beside.own
    generalize c.localMrs.lookup lkey.value = left, d.localMrs.lookup lkey.value = right at own ⊢
    rcases left with _ | mr <;> rcases right with _ | mr'
    · exact .inl ⟨rfl, rfl⟩
    · cases own
    · cases own
    · exact .inr ⟨mr, mr', rfl, rfl, Option.some.inj own, fun apart => absurd rfl apart⟩
  · rw [← beside.others key here]
    rcases c.localMrs.lookup key with _ | mr
    · exact .inl ⟨rfl, rfl⟩
    · exact .inr ⟨mr, mr, rfl, rfl, rfl, fun _ => rfl⟩

theorem copyToLocalMr (target : LKey) (start : ℕ) (data : Bytes) :
    (copyToLocalMr target start data).Respects (Beside lkey) := by
  intro c d beside
  rw [RdowsConnection.copyToLocalMr, Method.run_bind_of_ok (Method.run_get c),
    Method.run_bind_of_ok (Method.run_get d), localMr, localMr]
  rcases beside.lookup_cases target.value with ⟨left, right⟩ |
    ⟨mr, mr', left, right, outline, same⟩ <;> rw [left, right]
  · exact ⟨rfl, beside⟩
  · rw [Outcome.okOr_some, Outcome.okOr_some, Method.run_bind_of_ok (Method.run_lift _ c),
      Method.run_bind_of_ok (Method.run_lift _ d), ← checkRange_eq outline]
    rcases checked : checkRange mr start data.length with stop | e | p
    · obtain ⟨rfl, inside, -⟩ := checkRange_eq_ok.mp checked
      have inside' : start + data.length ≤ mr'.localBuf.length :=
        (congrArg (·.2.2.2) outline : mr.localBuf.length = mr'.localBuf.length) ▸ inside
      rw [Method.run_bind_of_ok (Method.run_lift _ c), Method.run_bind_of_ok (Method.run_lift _ d),
        copyFromSlice_eq_ok inside, copyFromSlice_eq_ok inside',
        Method.run_bind_of_ok (Method.run_lift _ c), Method.run_bind_of_ok (Method.run_lift _ d)]
      refine ⟨rfl, beside.insert (fun apart => by rw [same apart]) ?_⟩
      -- A copy keeps the size of the buffer, and everything else.
      simp only [MemoryRegionHandle.outline, Prod.mk.injEq, length_splice inside,
        length_splice inside'] at outline ⊢
      exact outline
    · exact ⟨rfl, beside⟩
    · exact ⟨rfl, beside⟩

/-! ### What a call makes of its answer -/

theorem pushCqe (wrid : UInt64) (status : UInt16) (opcode : Opcode) (byteCount : UInt32) :
    (pushCqe wrid status opcode byteCount).Respects (Beside lkey) :=
  adjusts fun _ _ => rfl

theorem notCompleted {α : Type} (wrid : UInt64) (opcode : Opcode) (expected : String)
    (m : RdowsMessage) :
    (notCompleted wrid opcode expected m : Local α).Respects (Beside lkey) := by
  cases m with
  | error header err => exact .bind (pushCqe _ _ _ _) fun _ => .lift _
  | _ => exact .lift _

theorem onMrRegAck (regionLen : UInt64) (m : RdowsMessage) :
    (onMrRegAck regionLen m).Respects (Beside lkey) := by
  cases m with
  | mrRegAck header ack =>
      refine .ite (.lift _) (.bind (.lift _) fun localBuf => .bind ?_ fun _ => ?_)
      · exact .modify fun _ _ beside => beside.insert (fun _ => rfl) rfl
      · exact .bind (.lift _) fun copy => .lift _
  | _ => exact .lift _

theorem onMrDeregAck (released : LKey) (m : RdowsMessage) :
    (onMrDeregAck released m).Respects (Beside lkey) := by
  cases m with
  | mrDeregAck header ack =>
      exact .ite (.lift _) (.modify fun _ _ beside => beside.erase released.value)
  | _ => exact .lift _

theorem onRecvComp (wrid : UInt64) (totalLen : UInt32) (m : RdowsMessage) :
    (onRecvComp wrid totalLen m).Respects (Beside lkey) := by
  cases m with
  | recvComp header =>
      refine .get_bind (fun c d beside => ?_) fun c => .bind (.lift _) fun credits => ?_
      · obtain ⟨mrs, rfl⟩ := beside.cases
        rfl
      · exact .bind (adjusts fun _ _ => rfl) fun _ => pushCqe _ _ _ _
  | _ => exact notCompleted _ _ _ _

theorem onWriteComp (wrid totalLen : UInt64) (m : RdowsMessage) :
    (onWriteComp wrid totalLen m).Respects (Beside lkey) := by
  cases m with
  | writeComp header => exact pushCqe _ _ _ _
  | _ => exact notCompleted _ _ _ _

theorem onReadResp (wrid : UInt64) (localLkey : LKey) (localVa : UInt64) (m : RdowsMessage) :
    (onReadResp wrid localLkey localVa m).Respects (Beside lkey) := by
  cases m with
  | readResp header payload => exact .bind (copyToLocalMr _ _ _) fun _ => pushCqe _ _ _ _
  | _ => exact notCompleted _ _ _ _

theorem onAtomicResp (wrid : UInt64) (m : RdowsMessage) :
    (onAtomicResp wrid m).Respects (Beside lkey) := by
  cases m with
  | atomicResp header payload => exact .bind (pushCqe _ _ _ _) fun _ => .lift _
  | _ => exact notCompleted _ _ _ _

theorem pollCq (max : ℕ) : (pollCq max).Respects (Beside lkey) := by
  refine .get_bind (fun c d beside => ?_) fun c => .bind (adjusts fun _ _ => rfl) fun _ => .lift _
  obtain ⟨mrs, rfl⟩ := beside.cases
  rfl

/-! ### Waiting -/

theorem validateRemoteSeq (m : RdowsMessage) :
    (validateRemoteSeq m).Respects (Beside lkey) := by
  have advances (next : Option UInt32) :
      (Method.modify fun c => { c with expectedRemoteSeq := next } : Local PUnit).Respects
        (Beside lkey) :=
    adjusts fun _ _ => rfl
  refine .get_bind (fun c d beside => ?_) fun c => ?_
  · obtain ⟨mrs, rfl⟩ := beside.cases
    rfl
  · dsimp only
    rcases c.expectedRemoteSeq with _ | expected
    · exact advances _
    · exact .ite (.lift _) (advances _)

theorem recvTurn (item : Option StreamItem) : (recvTurn item).Respects (Beside lkey) := by
  rcases item with _ | reason | data
  · exact .lift _
  · exact .lift _
  refine .bind (.lift _) fun m => .bind (validateRemoteSeq m) fun _ => ?_
  cases m with
  | creditUpdate header payload =>
      refine .get_bind (fun c d beside => ?_) fun c => .bind (.lift _) fun credits => ?_
      · obtain ⟨mrs, rfl⟩ := beside.cases
        rfl
      · exact .bind (adjusts fun _ _ => rfl) fun _ => .lift _
  | _ => exact .lift _

/-- The whole loop takes the same message, and leaves the same frames. -/
theorem hear (incoming : List StreamItem) (beside : Beside lkey c d) :
    (hear incoming c).1 = (hear incoming d).1 ∧
      Beside lkey (hear incoming c).2.1 (hear incoming d).2.1 ∧
      (hear incoming c).2.2 = (hear incoming d).2.2 := by
  induction incoming generalizing c d with
  | nil => exact ⟨rfl, beside, rfl⟩
  | cons data rest ih =>
      have turn := recvTurn (some data) c d beside
      rw [RdowsConnection.hear, RdowsConnection.hear]
      generalize (RdowsConnection.recvTurn (some data)).run c = left,
        (RdowsConnection.recvTurn (some data)).run d = right at turn
      obtain ⟨result, c'⟩ := left
      obtain ⟨result', d'⟩ := right
      obtain ⟨same, after⟩ := turn
      dsimp only at same
      subst same
      rcases result with (_ | m) | e | p
      · exact ih after
      · exact ⟨rfl, after, rfl⟩
      · exact ⟨rfl, after, rfl⟩
      · exact ⟨rfl, after, rfl⟩

/-- Talks that cannot be told apart take the same answer and end alike. -/
theorem converse {x y : Talk RdowsConnection RdowsError Bytes RdowsMessage VerbValue}
    (paired : Talk.Paired (Beside lkey) x y) (incoming : List StreamItem) :
    (converse x incoming).1 = (converse y incoming).1 ∧
      (converse x incoming).2.1 = (converse y incoming).2.1 ∧
      Beside lkey (converse x incoming).2.2 (converse y incoming).2.2 := by
  induction paired generalizing incoming with
  | done result beside => exact ⟨rfl, rfl, beside⟩
  | send frame later ih => exact ih incoming
  | @receive c d next next' beside later ih =>
      have heard := hear incoming beside
      rw [RdowsConnection.converse, RdowsConnection.converse]
      generalize RdowsConnection.hear incoming c = left,
        RdowsConnection.hear incoming d = right at heard
      obtain ⟨result, c', rest⟩ := left
      obtain ⟨result', d', rest'⟩ := right
      obtain ⟨same, after, left⟩ := heard
      dsimp only at same left
      subst same left
      rcases result with m | e | p
      · exact ⟨rfl, (ih m c' d' after rest).2⟩
      · exact ⟨rfl, rfl, after⟩
      · exact ⟨rfl, rfl, after⟩

/-! ### The calls -/

theorem bump (beside : Beside lkey c d) : Beside lkey c.bump d.bump :=
  beside.of_commutes fun _ _ => rfl

theorem postSend (beside : Beside lkey c d) (wrid : UInt64) {sgList : List ScatterGatherEntry}
    (apart : ¬ ∃ sg ∈ sgList, sg.lkey = lkey) :
    Talk.Paired (Beside lkey) ((postSend wrid sgList).start c)
      ((postSend wrid sgList).start d) := by
  have gathered := beside.gatherSgData_eq apart
  have bumped := beside.bump.bump
  obtain ⟨mrs, rfl⟩ := beside.cases
  rw [postSend_start, postSend_start, ← gathered]
  show Talk.Paired _ (if c.cq.isFull = true then _ else if c.sendCredits = 0 then _ else _)
    (if c.cq.isFull = true then _ else if c.sendCredits = 0 then _ else _)
  split_ifs
  · exact .done _ beside
  · exact .done _ beside
  · rcases c.gatherSgData sgList with data | e | p
    · exact .request _ bumped fun m => onRecvComp _ _ m
    · exact .done _ beside
    · exact .done _ beside

theorem rdmaWrite (beside : Beside lkey c d) (wrid : UInt64) (rkey : RKey) (remoteVa : UInt64)
    {sgList : List ScatterGatherEntry} (apart : ¬ ∃ sg ∈ sgList, sg.lkey = lkey) :
    Talk.Paired (Beside lkey) ((rdmaWrite wrid rkey remoteVa sgList).start c)
      ((rdmaWrite wrid rkey remoteVa sgList).start d) := by
  have gathered := beside.gatherSgData_eq apart
  have bumped := beside.bump.bump
  obtain ⟨mrs, rfl⟩ := beside.cases
  rw [rdmaWrite_start, rdmaWrite_start, ← gathered]
  show Talk.Paired _ (if c.cq.isFull = true then _ else _) (if c.cq.isFull = true then _ else _)
  split_ifs
  · exact .done _ beside
  · rcases c.gatherSgData sgList with data | e | p
    · exact .request _ bumped fun m => onWriteComp _ _ m
    · exact .done _ beside
    · exact .done _ beside

theorem rdmaRead (beside : Beside lkey c d) (wrid : UInt64) (rkey : RKey)
    (remoteVa readLen : UInt64) (localLkey : LKey) (localVa : UInt64) :
    Talk.Paired (Beside lkey)
      ((rdmaRead wrid rkey remoteVa readLen localLkey localVa).start c)
      ((rdmaRead wrid rkey remoteVa readLen localLkey localVa).start d) := by
  have bumped := beside.bump
  obtain ⟨mrs, rfl⟩ := beside.cases
  rw [rdmaRead_start, rdmaRead_start]
  show Talk.Paired _ (if c.cq.isFull = true then _ else _) (if c.cq.isFull = true then _ else _)
  split_ifs
  · exact .done _ beside
  · exact .request _ bumped fun m => onReadResp _ _ _ m

theorem postAtomic (beside : Beside lkey c d) (wrid : UInt64) (rkey : RKey) (remoteVa : UInt64)
    (atomicType : UInt8) (operand1 operand2 : UInt64) :
    Talk.Paired (Beside lkey)
      ((postAtomic wrid rkey remoteVa atomicType operand1 operand2).start c)
      ((postAtomic wrid rkey remoteVa atomicType operand1 operand2).start d) := by
  have bumped := beside.bump
  obtain ⟨mrs, rfl⟩ := beside.cases
  rw [postAtomic_start, postAtomic_start]
  show Talk.Paired _ (if c.cq.isFull = true then _ else _) (if c.cq.isFull = true then _ else _)
  split_ifs
  · exact .done _ beside
  · exact .request _ bumped fun m => onAtomicResp _ m

/-- **A call that does not read the buffer** looks the same, whatever the buffer holds: the same
frames, and related connections whatever the answer is. -/
theorem start (beside : Beside lkey c d) {verb : Verb} (blind : ¬ verb.Reads lkey) :
    Talk.Paired (Beside lkey) (verb.start.start c) (verb.start.start d) := by
  cases verb with
  -- requests without local data build the same frames on both sides
  | regMr accessFlags regionLen =>
      have bumped := beside.bump
      obtain ⟨mrs, rfl⟩ := beside.cases
      rw [Verb.start_regMr, Verb.start_regMr]
      exact .request _ bumped fun m => (onMrRegAck _ m).mapValue _
  | deregMr released =>
      have bumped := beside.bump
      have started (c : RdowsConnection) : (Verb.deregMr released).start.start c = .request
          [(RdowsMessage.mrDereg (c.headerFor .mrDereg 0)
            { pd := c.pd, lkey := released }).encode] c.bump
          fun m => (RdowsConnection.onMrDeregAck released m).mapValue fun _ => .unit := rfl
      obtain ⟨mrs, rfl⟩ := beside.cases
      rw [started, started]
      exact .request _ bumped fun m => (onMrDeregAck _ m).mapValue _
  -- the verbs that gather do not gather from the hidden region
  | postSend wrid sgList => exact (beside.postSend wrid blind).map _
  | rdmaWrite wrid rkey remoteVa sgList => exact (beside.rdmaWrite wrid rkey remoteVa blind).map _
  | rdmaRead wrid rkey remoteVa readLen localLkey localVa =>
      exact (beside.rdmaRead wrid rkey remoteVa readLen localLkey localVa).map _
  | atomicCas wrid rkey remoteVa compare swap =>
      exact (beside.postAtomic wrid rkey remoteVa atomicTypeCas compare swap).map _
  | atomicFaa wrid rkey remoteVa addend =>
      exact (beside.postAtomic wrid rkey remoteVa atomicTypeFaa addend 0).map _
  | pollCq max => exact .of_respects ((pollCq max).mapValue _) beside
  | writeLocalMr target offset data =>
      exact .of_respects ((copyToLocalMr target offset data).mapValue _) beside
  | readLocalMr source offset len =>
      have same := beside.readLocalMr_eq blind offset len
      show Talk.Paired _ (.done ((c.readLocalMr source offset len).map VerbValue.bytes) c)
        (.done ((d.readLocalMr source offset len).map VerbValue.bytes) d)
      rw [same]
      exact .done _ beside

end Beside

end RdowsConnection

/-- What the outside sees of a call: its frames, the message it took as its answer, and what it
returns to the application. -/
def Exchange.visible (x : Exchange) :
    List Bytes × Option RdowsMessage × Outcome RdowsError VerbValue :=
  (x.sent, x.consumed, x.result)

namespace RdowsConnection

/-- A call against a server that reacts to all it has been sent so far.  The frames of earlier calls
are part of the state, so that the server may depend on them. -/
def face (server : List Bytes → List StreamItem) (s : RdowsConnection × List Bytes) (verb : Verb) :
    Exchange × RdowsConnection × List Bytes :=
  let told := s.2 ++ (verb.start.start s.1).frames
  ((s.1.exchange (verb, server told)).1, (s.1.exchange (verb, server told)).2, told)

theorem Beside.exchange {lkey : LKey} {c d : RdowsConnection} (beside : Beside lkey c d)
    {verb : Verb} (blind : ¬ verb.Reads lkey) (incoming : List StreamItem) :
    (c.exchange (verb, incoming)).1.visible = (d.exchange (verb, incoming)).1.visible ∧
      Beside lkey (c.exchange (verb, incoming)).2 (d.exchange (verb, incoming)).2 := by
  have paired := beside.start blind
  obtain ⟨consumed, result, after⟩ := Beside.converse paired incoming
  exact ⟨Prod.ext paired.frames_eq (Prod.ext consumed result), after⟩

/-- **Local memory is confidential.**  Take two connections that differ only in the bytes of one
local buffer, and calls that do not read it.  Against any server, however it reacts to what it is
sent, both put the same frames on the wire, take the same answers and return the same results; and
in the end they still differ in those bytes only. -/
theorem local_memory_confidential (server : List Bytes → List StreamItem) (told : List Bytes)
    {lkey : LKey} {c d : RdowsConnection} (beside : Beside lkey c d) (verbs : List Verb)
    (blind : ∀ verb ∈ verbs, ¬ verb.Reads lkey) :
    (Machine.outputs (face server) (c, told) verbs).map Exchange.visible
        = (Machine.outputs (face server) (d, told) verbs).map Exchange.visible ∧
      Beside lkey (Machine.exec (face server) (c, told) verbs).1
        (Machine.exec (face server) (d, told) verbs).1 := by
  induction verbs generalizing c d told with
  | nil => exact ⟨rfl, beside⟩
  | cons verb rest ih =>
      have here := blind verb List.mem_cons_self
      have frames := (beside.start here).frames_eq
      obtain ⟨visible, after⟩ := beside.exchange here
        (server (told ++ (verb.start.start c).frames))
      obtain ⟨later, final⟩ := ih (told ++ (verb.start.start c).frames) after
        fun verb mem => blind verb (List.mem_cons_of_mem _ mem)
      -- The server was told the same by both, so that it also sends the same.
      have same : face server (d, told) verb
          = ((d.exchange (verb, server (told ++ (verb.start.start c).frames))).1,
            (d.exchange (verb, server (told ++ (verb.start.start c).frames))).2,
            told ++ (verb.start.start c).frames) := by
        rw [face, ← frames]
      rw [Machine.outputs, Machine.outputs, List.map_cons, List.map_cons, Machine.exec_cons,
        Machine.exec_cons, same]
      exact ⟨congrArg₂ List.cons visible later, final⟩

/-- The connection with one more region. -/
def holding (c : RdowsConnection) (mr : MemoryRegionHandle) : RdowsConnection :=
  { c with localMrs := c.localMrs.insert mr.lkey.value mr }

/-- A connection with a secret under its first L_Key and one byte under its second.  Two secrets
give two connections to tell apart. -/
def keeping (secret : Bytes) : RdowsConnection :=
  (established.holding ⟨⟨1⟩, ⟨11⟩, 2, secret⟩).holding ⟨⟨2⟩, ⟨12⟩, 1, [5]⟩

/-- A run with two different secrets of two bytes: one byte is read into the buffer that holds the
secret, and another buffer is sent.  Both connections are seen to do the same. -/
theorem local_memory_confidential_keeping :
    (Machine.outputs (face fun _ => [.ok oneByteRead.encode]) (keeping [1, 2], [])
        [.rdmaRead 5 ⟨9⟩ 0 1 ⟨1⟩ 0, .postSend 6 [⟨⟨2⟩, 0, 1⟩]]).map Exchange.visible
      = (Machine.outputs (face fun _ => [.ok oneByteRead.encode]) (keeping [3, 4], [])
        [.rdmaRead 5 ⟨9⟩ 0 1 ⟨1⟩ 0, .postSend 6 [⟨⟨2⟩, 0, 1⟩]]).map Exchange.visible := by
  have same : Beside ⟨1⟩ established established := ⟨rfl, fun _ _ => rfl, rfl⟩
  have secrets : Beside ⟨1⟩ (established.holding ⟨⟨1⟩, ⟨11⟩, 2, [1, 2]⟩)
      (established.holding ⟨⟨1⟩, ⟨11⟩, 2, [3, 4]⟩) :=
    same.insert (fun apart => absurd rfl apart) rfl
  have beside : Beside ⟨1⟩ (keeping [1, 2]) (keeping [3, 4]) := secrets.insert (fun _ => rfl) rfl
  exact (local_memory_confidential _ [] beside _ (by simp [Verb.Reads])).1

end RdowsConnection

/-! ### Changes of local memory -/

/-- The call changes a byte of a buffer: it registers a region and the server gives it the L_Key of
the buffer, it releases the region, it reads into it and the data that arrives reaches the byte, or
it writes the byte locally. -/
def Exchange.Touches (x : Exchange) (lkey : LKey) (k : ℕ) : Prop :=
  match x.verb with
  | .regMr .. => ∃ handle, x.result = .ok (.handle handle) ∧ handle.lkey = lkey
  | .deregMr released => x.result = .ok .unit ∧ released = lkey
  | .rdmaRead _ _ _ _ localLkey localVa => localLkey = lkey ∧
      ∃ header payload, x.consumed = some (.readResp header payload) ∧
        localVa.toNat ≤ k ∧ k < localVa.toNat + payload.data.length
  | .writeLocalMr target offset data => target = lkey ∧ offset ≤ k ∧ k < offset + data.length
  | _ => False

namespace RdowsConnection

variable {lkey : LKey} {k : ℕ} {c d : RdowsConnection}

/-- The byte of a local buffer, if the buffer is there and long enough. -/
def byteOf (c : RdowsConnection) (lkey : LKey) (k : ℕ) : Option UInt8 := (c.localBytes lkey)[k]?

theorem byteOf_congr (same : d.localMrs.lookup lkey.value = c.localMrs.lookup lkey.value) :
    d.byteOf lkey k = c.byteOf lkey k := by
  rw [byteOf, byteOf, localBytes, localBytes, same]

/-- What becomes of the regions of others is of no concern. -/
theorem byteOf_insert {other : LKey} (apart : other ≠ lkey) (mr : MemoryRegionHandle) :
    byteOf { c with localMrs := c.localMrs.insert other.value mr } lkey k = c.byteOf lkey k := by
  refine byteOf_congr (AList.lookup_insert_ne fun same => apart ?_)
  exact congrArg LKey.mk same.symm

theorem byteOf_copyToLocalMr {target : LKey} {start : ℕ} {data : Bytes}
    (apart : ¬ (target = lkey ∧ start ≤ k ∧ k < start + data.length)) (c : RdowsConnection) :
    ((copyToLocalMr target start data).run c).2.byteOf lkey k = c.byteOf lkey k := by
  rw [copyToLocalMr, Method.run_bind_of_ok (Method.run_get c), localMr]
  rcases found : c.localMrs.lookup target.value with _ | mr
  · rfl
  rw [Outcome.okOr_some, Method.run_bind_of_ok (Method.run_lift _ c)]
  rcases checked : checkRange mr start data.length with stop | e | p
  · obtain ⟨rfl, inside, -⟩ := checkRange_eq_ok.mp checked
    rw [Method.run_bind_of_ok (Method.run_lift _ c), copyFromSlice_eq_ok inside,
      Method.run_bind_of_ok (Method.run_lift _ c), Method.run_modify]
    by_cases here : target = lkey
    · subst here
      rw [byteOf, byteOf, localBytes, localBytes, AList.lookup_insert, found]
      dsimp only
      rw [getElem?_splice inside, if_neg fun within => apart ⟨rfl, within⟩]
    · exact byteOf_insert here _
  · rfl
  · rfl

/-- **What a remote call does to the regions** is done by its end, on the answer: sending and
waiting leave them alone. -/
theorem exchange_remote (c : RdowsConnection) {verb : Verb} (remote : verb.isRemote = true)
    (incoming : List StreamItem) :
    let x := (c.exchange (verb, incoming)).1
    x.after.localMrs = c.localMrs ∨
      ∃ messages finish m d, verb.Requests c messages finish ∧ d.localMrs = c.localMrs ∧
        x.consumed = some m ∧ (x.result, x.after) = (finish m).run d := by
  intro x
  have out : (x.consumed, x.result, x.after) = converse (verb.start.start c) incoming := rfl
  rcases verb.start_remote c remote with ⟨result, ended, -⟩ |
    ⟨messages, next, finish, started, requests, -, -⟩
  · rw [ended] at out
    exact .inl (congrArg (fun out => out.2.2.localMrs) out)
  · rw [started] at out
    rcases converse_request (messages.map RdowsMessage.encode) { c with nextSeq := next } finish
      incoming with ⟨m, d, waits, answered⟩ | ⟨result, d, waits, unanswered⟩
    · rw [answered] at out
      obtain ⟨consumed, ends⟩ := Prod.mk.inj out
      exact .inr ⟨messages, finish, m, d, requests, waits.localMrs, consumed, ends⟩
    · rw [unanswered] at out
      exact .inl ((congrArg (fun out => out.2.2.localMrs) out).trans waits.localMrs)

/-! ### What each end does to the regions -/

theorem localMrs_notCompleted {α : Type} (wrid : UInt64) (opcode : Opcode) (expected : String)
    (m : RdowsMessage) (c : RdowsConnection) :
    ((notCompleted wrid opcode expected m : Local α).run c).2.localMrs = c.localMrs := by
  cases m <;> rfl

theorem localMrs_onRecvComp (wrid : UInt64) (totalLen : UInt32) (m : RdowsMessage)
    (c : RdowsConnection) : ((onRecvComp wrid totalLen m).run c).2.localMrs = c.localMrs := by
  cases m with
  | recvComp header =>
      rw [onRecvComp, Method.run_bind_of_ok (Method.run_get c)]
      rcases checkedSub32 c.sendCredits 1 with _ | credits <;> rfl
  | _ => exact localMrs_notCompleted ..

theorem localMrs_onWriteComp (wrid totalLen : UInt64) (m : RdowsMessage) (c : RdowsConnection) :
    ((onWriteComp wrid totalLen m).run c).2.localMrs = c.localMrs := by
  cases m with
  | writeComp header => rfl
  | _ => exact localMrs_notCompleted ..

theorem localMrs_onAtomicResp (wrid : UInt64) (m : RdowsMessage) (c : RdowsConnection) :
    ((onAtomicResp wrid m).run c).2.localMrs = c.localMrs := by
  cases m with
  | atomicResp header payload => rfl
  | _ => exact localMrs_notCompleted ..

theorem byteOf_onReadResp (wrid : UInt64) {localLkey : LKey} {localVa : UInt64} {m : RdowsMessage}
    (apart : ∀ header payload, m = .readResp header payload →
      ¬ (localLkey = lkey ∧ localVa.toNat ≤ k ∧ k < localVa.toNat + payload.data.length))
    (c : RdowsConnection) :
    ((onReadResp wrid localLkey localVa m).run c).2.byteOf lkey k = c.byteOf lkey k := by
  cases m with
  | readResp header payload =>
      have copied := byteOf_copyToLocalMr (apart header payload rfl) c
      rw [onReadResp, Method.run_bind]
      generalize (copyToLocalMr localLkey localVa.toNat payload.data).run c = out at copied ⊢
      obtain ⟨_ | e | p, d⟩ := out
      · exact (byteOf_congr rfl).trans copied
      · exact copied
      · exact copied
  | _ => exact byteOf_congr (congrArg _ (localMrs_notCompleted ..))

theorem byteOf_onMrRegAck {regionLen : UInt64} {m : RdowsMessage}
    (apart : ∀ handle, ((onMrRegAck regionLen m).run c).1 = .ok handle → handle.lkey ≠ lkey) :
    ((onMrRegAck regionLen m).run c).2.byteOf lkey k = c.byteOf lkey k := by
  cases m with
  | mrRegAck header ack =>
      rw [onMrRegAck, Method.run_ite] at apart ⊢
      split_ifs at apart ⊢ with failed
      · rfl
      · rw [zeroed] at apart ⊢
        split_ifs at apart ⊢ with fits
        · exact byteOf_insert (apart _ rfl) _
        · rfl
  | _ => rfl

theorem byteOf_onMrDeregAck {released : LKey} {m : RdowsMessage}
    (apart : ((onMrDeregAck released m).run c).1 = .ok () → released ≠ lkey) :
    ((onMrDeregAck released m).run c).2.byteOf lkey k = c.byteOf lkey k := by
  cases m with
  | mrDeregAck header ack =>
      rw [onMrDeregAck, Method.run_ite] at apart ⊢
      split_ifs at apart ⊢ with failed
      · rfl
      · refine byteOf_congr (AList.lookup_erase_ne fun same => apart rfl ?_)
        exact congrArg LKey.mk same.symm
  | _ => rfl

/-- **One call** changes a byte only if it touches it.  Calls that fail are covered too, since a
refused copy changes nothing. -/
theorem byteOf_exchange {call : Verb × List StreamItem}
    (apart : ¬ (c.exchange call).1.Touches lkey k) :
    (c.exchange call).2.byteOf lkey k = c.byteOf lkey k := by
  obtain ⟨verb, incoming⟩ := call
  by_cases remote : verb.isRemote = true
  · rcases exchange_remote c remote incoming with kept |
      ⟨messages, finish, m, d, requests, before, consumed, ends⟩
    · exact byteOf_congr (congrArg _ kept)
    obtain ⟨result, after⟩ := Prod.mk.inj ends
    have unchanged : d.byteOf lkey k = c.byteOf lkey k := byteOf_congr (congrArg _ before)
    rw [← unchanged]
    refine (congrArg (fun e : RdowsConnection => e.byteOf lkey k) after).trans ?_
    -- only three answers can write to a local buffer: those of `reg_mr`, `dereg_mr` and `rdma_read`
    cases requests with
    | regMr accessFlags regionLen =>
        refine byteOf_onMrRegAck fun handle ok same => apart ⟨handle, ?_, same⟩
        exact result.trans (congrArg (Outcome.map _) ok)
    | deregMr released =>
        refine byteOf_onMrDeregAck fun ok same => apart ⟨?_, same⟩
        exact result.trans (congrArg (Outcome.map _) ok)
    | postSend wrid sgList data gathered =>
        exact byteOf_congr (congrArg _ (localMrs_onRecvComp ..))
    | rdmaWrite wrid rkey remoteVa sgList data gathered =>
        exact byteOf_congr (congrArg _ (localMrs_onWriteComp ..))
    | rdmaRead wrid rkey remoteVa readLen localLkey localVa =>
        refine byteOf_onReadResp wrid ?_ d
        rintro header payload rfl ⟨same, within⟩
        exact apart ⟨same, header, payload, consumed, within⟩
    | atomicCas wrid rkey remoteVa compare swap =>
        exact byteOf_congr (congrArg _ (localMrs_onAtomicResp ..))
    | atomicFaa wrid rkey remoteVa addend =>
        exact byteOf_congr (congrArg _ (localMrs_onAtomicResp ..))
  · cases verb with
    | pollCq max => rfl
    | writeLocalMr target offset data => exact byteOf_copyToLocalMr apart c
    | readLocalMr source offset len => rfl
    | _ => exact absurd rfl remote

/-- **Local memory is framed.**  In every run of calls, with whatever frames arrive, a byte of a
local buffer is in the end what it was at the start, unless a call of the run touches it. -/
theorem local_memory_framed (c : RdowsConnection) (calls : List (Verb × List StreamItem))
    (lkey : LKey) (k : ℕ) (apart : ∀ x ∈ c.exchanges calls, ¬ x.Touches lkey k) :
    (Machine.exec exchange c calls).byteOf lkey k = c.byteOf lkey k := by
  induction calls generalizing c with
  | nil => rfl
  | cons call rest ih =>
      rw [exchanges_cons] at apart
      have here := byteOf_exchange (apart _ List.mem_cons_self)
      have later := ih (c.exchange call).2 fun x mem => apart x (List.mem_cons_of_mem _ mem)
      rw [Machine.exec_cons, later, here]

/-- A READ of no bytes that is answered with one: the byte lands behind the first one, which no call
of the run touches and which is therefore kept. -/
theorem local_memory_framed_overlong :
    let calls : List (Verb × List StreamItem) :=
      [(.rdmaRead 5 ⟨9⟩ 0 0 ⟨1⟩ 1, [.ok oneByteRead.encode])]
    (Machine.exec exchange (keeping [1, 2]) calls).byteOf ⟨1⟩ 0 = some 1 ∧
      (Machine.exec exchange (keeping [1, 2]) calls).byteOf ⟨1⟩ 1 = some 42 := by
  intro calls
  have apart : ∀ x ∈ (keeping [1, 2]).exchanges calls, ¬ x.Touches ⟨1⟩ 0 := by
    intro x mem
    rw [exchanges_cons] at mem
    obtain rfl := List.mem_singleton.mp mem
    rintro ⟨-, header, payload, -, within, -⟩
    exact absurd within (by decide)
  exact ⟨(local_memory_framed _ calls ⟨1⟩ 0 apart).trans (by decide +kernel), by decide +kernel⟩

end RdowsConnection

end Rdows
