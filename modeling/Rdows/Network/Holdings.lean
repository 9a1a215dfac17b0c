import Rdows.Network.Unread

/-!
# What a client holds

The credits and the local regions of a connection, and what a call does to them.

## Three moments of a call

* Before the answer arrives a call does nothing to them: if it ends without a frame on the wire
  (`Verb.holdings_of_done`), and if it becomes a request (`Verb.holdings_of_request`).
* While it waits, CREDIT_UPDATEs add credits; that is left to the module on credits.
* The answer takes a credit if it is a RECV_COMP, and changes the regions as it tells
  (`Verb.Requests.holdings_of_answer`); in an admitted run, what a call reads is such an answer
  (`Known.gains`).

`SameHoldings` is the relation of everything that touches neither, and it is kept by most of the
client's methods: pushing a completion, storing data, reporting an error.  The bytes in a buffer may
change under it; that a buffer is there, and how long it is, may not.  `Gains` is what is left, and
it is stated with what the answer *tells* (`Verb.settle`), so that the server's view of the regions
can be compared with the same function.

Two invariants are built on this: that credits are conserved, and that client and server agree on
the regions.
-/

namespace Rdows

open Rust ServerRun

namespace RdowsConnection

/-- The local regions by their keys, without their bytes: what the server has to agree with. -/
def handles (c : RdowsConnection) : Handles := fun lkey =>
  (c.localMrs.lookup lkey).map fun mr => (mr.lkey, mr.rkey, mr.len.toNat)

/-- Every local buffer is as long as its region.  `onMrRegAck` allocates it that way, and copies
keep its length. -/
def Buffered (c : RdowsConnection) : Prop :=
  ∀ lkey mr, c.localMrs.lookup lkey = some mr → mr.localBuf.length = mr.len.toNat

/-- The same credits and the same regions; the bytes in the buffers may differ. -/
structure SameHoldings (c d : RdowsConnection) : Prop where
  credits : d.sendCredits = c.sendCredits
  regions : d.handles = c.handles
  buffered : c.Buffered → d.Buffered

namespace SameHoldings

theorem refl (c : RdowsConnection) : c.SameHoldings c := ⟨rfl, rfl, id⟩

theorem trans (a b c : RdowsConnection) (hab : a.SameHoldings b) (hbc : b.SameHoldings c) :
    a.SameHoldings c :=
  ⟨hbc.credits.trans hab.credits, hbc.regions.trans hab.regions,
    fun buffered => hbc.buffered (hab.buffered buffered)⟩

variable {α β : Type}

theorem bind {x : Local α} {f : α → Local β} (hx : x.Keeps SameHoldings)
    (hf : ∀ a, (f a).Keeps SameHoldings) : (x >>= f).Keeps SameHoldings :=
  Method.Keeps.bind trans hx fun _ a t _ => hf a t

theorem pushCqe (wrid : UInt64) (status : UInt16) (opcode : Opcode) (byteCount : UInt32) :
    (pushCqe wrid status opcode byteCount).Keeps SameHoldings := fun _ => ⟨rfl, rfl, id⟩

/-- Copying replaces the bytes of one buffer. -/
theorem copyToLocalMr (lkey : LKey) (start : ℕ) (data : Bytes) :
    (copyToLocalMr lkey start data).Keeps SameHoldings := by
  intro c
  rw [RdowsConnection.copyToLocalMr, Method.run_bind_of_ok (Method.run_get _), localMr]
  rcases found : c.localMrs.lookup lkey.value with _ | mr
  · exact .refl c
  rw [Outcome.okOr_some, Method.run_bind_of_ok (Method.run_lift _ _)]
  rcases checked : checkRange mr start data.length with stop | e | p
  · obtain ⟨rfl, inside, -⟩ := checkRange_eq_ok.mp checked
    rw [Method.run_bind_of_ok (Method.run_lift _ _), copyFromSlice_eq_ok inside,
      Method.run_bind_of_ok (Method.run_lift _ _)]
    -- the bytes of one buffer are others, its handle and its length are the same
    refine ⟨rfl, ?_, ?_⟩
    · funext other
      show ((c.localMrs.insert lkey.value _).lookup other).map _ = (c.localMrs.lookup other).map _
      rw [AssocMap.lookup_insert_eq_ite]
      split
      · rename_i same
        rw [same, found]
        rfl
      · rfl
    · intro buffered other mr' stored
      change (c.localMrs.insert lkey.value _).lookup other = some mr' at stored
      rw [AssocMap.lookup_insert_eq_ite] at stored
      split at stored
      · cases stored
        exact (length_splice inside).trans (buffered _ _ found)
      · exact buffered other mr' stored
  · exact .refl c
  · exact .refl c

theorem notCompleted (wrid : UInt64) (opcode : Opcode) (expected : String) (m : RdowsMessage) :
    (notCompleted wrid opcode expected m : Local α).Keeps SameHoldings := by
  cases m with
  | error header err => exact bind (pushCqe _ _ _ _) fun _ => .lift refl _
  | _ => exact .lift refl _

theorem onWriteComp (wrid totalLen : UInt64) (m : RdowsMessage) :
    (onWriteComp wrid totalLen m).Keeps SameHoldings := by
  cases m with
  | writeComp header => exact pushCqe _ _ _ _
  | _ => exact notCompleted _ _ _ _

theorem onReadResp (wrid : UInt64) (localLkey : LKey) (localVa : UInt64) (m : RdowsMessage) :
    (onReadResp wrid localLkey localVa m).Keeps SameHoldings := by
  cases m with
  | readResp header payload => exact bind (copyToLocalMr _ _ _) fun _ => pushCqe _ _ _ _
  | _ => exact notCompleted _ _ _ _

theorem onAtomicResp (wrid : UInt64) (m : RdowsMessage) :
    (onAtomicResp wrid m).Keeps SameHoldings := by
  cases m with
  | atomicResp header payload => exact bind (pushCqe _ _ _ _) fun _ => .pure refl _
  | _ => exact notCompleted _ _ _ _

end SameHoldings

/-! ### The answers that change what is held -/

/-- What an answer to the call does: it takes as many credits as it has RECV_COMPs, and changes the
regions as it tells. -/
structure Gains (v : Verb) (m : RdowsMessage) (d e : RdowsConnection) : Prop where
  credits : e.sendCredits.toNat + recvComps [m] = d.sendCredits.toNat
  regions : e.handles = v.settle m d.handles
  buffered : d.Buffered → e.Buffered

/-- An answer that takes no credit and tells nothing. -/
theorem SameHoldings.gains {v : Verb} {m : RdowsMessage} {d e : RdowsConnection}
    (same : d.SameHoldings e) (noComp : recvComps [m] = 0)
    (tells : v.settle m d.handles = d.handles) : Gains v m d e where
  credits := by rw [noComp, same.credits, Nat.add_zero]
  regions := same.regions.trans tells.symm
  buffered := same.buffered

/-- The answer to MR_REG: the region is added with a buffer of its length. -/
theorem gains_onMrRegAck {flags : AccessFlags} {regionLen : UInt64} {m : RdowsMessage}
    {d : RdowsConnection} (suits : m.variantOpcode ∈ Opcode.mrReg.answers)
    (returned : ¬ ((onMrRegAck regionLen m).run d).1.IsPanic) :
    Gains (.regMr flags regionLen) m d ((onMrRegAck regionLen m).run d).2 := by
  cases m with
  | error header err => exact (SameHoldings.refl d).gains rfl rfl
  | mrRegAck header ack =>
      rw [onMrRegAck, Method.run_ite] at returned ⊢
      by_cases status : ack.status = 0
      · rw [if_neg (not_not.mpr status)] at returned ⊢
        -- the client allocates a buffer of the same length; one that no `Vec` can hold panics
        by_cases small : regionLen.toNat ≤ isizeMax
        · have zeros : (zeroed regionLen.toNat : Outcome RdowsError Bytes)
              = .ok (List.replicate regionLen.toNat 0) := if_pos small
          rw [zeros, Method.run_bind_of_ok (Method.run_lift _ _)]
          refine ⟨rfl, ?_, ?_⟩
          · funext lkey
            show ((d.localMrs.insert ack.lkey.value _).lookup lkey).map _
              = (d.handles.acknowledge regionLen ack) lkey
            rw [AssocMap.lookup_insert_eq_ite, Handles.acknowledge, if_pos status,
              Function.update_apply]
            split
            · rfl
            · rfl
          · intro buffered lkey mr stored
            change (d.localMrs.insert ack.lkey.value _).lookup lkey = some mr at stored
            rw [AssocMap.lookup_insert_eq_ite] at stored
            split at stored
            · cases stored
              exact List.length_replicate
            · exact buffered lkey mr stored
        · have fails : (zeroed regionLen.toNat : Outcome RdowsError Bytes)
              = .panic .capacityOverflow := if_neg small
          rw [fails] at returned
          exact absurd trivial returned
      · rw [if_pos status]
        exact (SameHoldings.refl d).gains rfl (if_neg status)
  | _ => simp [RdowsMessage.variantOpcode, Opcode.answers] at suits

/-- The answer to MR_DEREG: the region is gone. -/
theorem gains_onMrDeregAck {lkey : LKey} {m : RdowsMessage} {d : RdowsConnection}
    (suits : m.variantOpcode ∈ Opcode.mrDereg.answers) :
    Gains (.deregMr lkey) m d ((onMrDeregAck lkey m).run d).2 := by
  cases m with
  | error header err => exact (SameHoldings.refl d).gains rfl rfl
  | mrDeregAck header ack =>
      rw [onMrDeregAck, Method.run_ite]
      by_cases status : ack.status = 0
      · rw [if_neg (not_not.mpr status)]
        refine ⟨rfl, ?_, ?_⟩
        · funext other
          show ((d.localMrs.erase lkey.value).lookup other).map _
            = (d.handles.release lkey ack) other
          rw [AssocMap.lookup_erase_eq_ite, Handles.release, if_pos status, Function.update_apply]
          split
          · rfl
          · rfl
        · intro buffered other mr stored
          change (d.localMrs.erase lkey.value).lookup other = some mr at stored
          rw [AssocMap.lookup_erase_eq_ite] at stored
          split at stored
          · cases stored
          · exact buffered other mr stored
      · rw [if_pos status]
        exact (SameHoldings.refl d).gains rfl (if_neg status)
  | _ => simp [RdowsMessage.variantOpcode, Opcode.answers] at suits

/-- The answer to a SEND: a RECV_COMP takes a credit.  A call that panics at the subtraction is
excluded, since it leaves no connection. -/
theorem gains_onRecvComp {wrid : UInt64} {sgList : List ScatterGatherEntry} {totalLen : UInt32}
    {m : RdowsMessage} {d : RdowsConnection} (suits : m.variantOpcode ∈ Opcode.sendData.answers)
    (returned : ¬ ((onRecvComp wrid totalLen m).run d).1.IsPanic) :
    Gains (.postSend wrid sgList) m d ((onRecvComp wrid totalLen m).run d).2 := by
  cases m with
  | error header err =>
      exact (SameHoldings.notCompleted wrid .send "RECV_COMP" (.error header err) d).gains rfl rfl
  | recvComp header =>
      rw [onRecvComp, Method.run_bind_of_ok (Method.run_get _)] at returned ⊢
      by_cases positive : (1 : UInt32).toNat ≤ d.sendCredits.toNat
      · rw [checkedSub32, if_pos positive, Outcome.orPanic_some,
          Method.run_bind_of_ok (Method.run_lift _ _),
          Method.run_bind_of_ok (Method.run_modify _ _)]
        refine ⟨?_, rfl, id⟩
        show (d.sendCredits - 1).toNat + 1 = _
        rw [toNat_sub32 positive]
        exact Nat.sub_add_cancel positive
      · rw [checkedSub32, if_neg positive] at returned
        exact absurd trivial returned
  | _ => simp [RdowsMessage.variantOpcode, Opcode.answers] at suits

end RdowsConnection

/-! ### Calls -/

namespace Verb

open RdowsConnection

variable {v : Verb} {c c' d : RdowsConnection}

/-- A call that puts nothing on the wire leaves credits and regions alone. -/
theorem holdings_of_done {result : Outcome RdowsError VerbValue}
    (started : v.start.start c = .done result c') : c.SameHoldings c' := by
  by_cases remote : v.isRemote = true
  · rcases v.start_remote c remote with ⟨out, ended, -⟩ | ⟨messages, next, finish, asked, -⟩
    · obtain ⟨-, rfl⟩ := Talk.done.inj (ended.symm.trans started)
      exact .refl c
    · have frames := congrArg Talk.frames (asked.symm.trans started)
      rw [Talk.frames_request] at frames
      rw [show messages.map RdowsMessage.encode = [] from frames] at asked
      cases asked.symm.trans started
  · cases v with
    | pollCq max =>
        obtain ⟨-, rfl⟩ := Talk.done.inj started
        exact ⟨rfl, rfl, id⟩
    | writeLocalMr lkey offset data =>
        obtain ⟨-, rfl⟩ := Talk.done.inj started
        exact SameHoldings.copyToLocalMr lkey offset data c
    | readLocalMr lkey offset len =>
        obtain ⟨-, rfl⟩ := Talk.done.inj started
        exact .refl c
    | _ => exact absurd rfl remote

/-- Nor does a call that becomes a request. -/
theorem holdings_of_request {frames : List Bytes} {finish : RdowsMessage → Local VerbValue}
    (started : v.start.start c = .request frames c' finish) : c.SameHoldings c' := by
  have ends {result : Outcome RdowsError VerbValue} {e : RdowsConnection}
      (ended : v.start.start c = .done result e) : c.SameHoldings c' := by
    rw [ended] at started
    rcases frames with _ | ⟨frame, frames⟩ <;> cases started
  by_cases remote : v.isRemote = true
  · rcases v.start_remote c remote with ⟨out, ended, -⟩ | ⟨messages, next, finish', asked, -⟩
    · exact ends ended
    · obtain ⟨-, rfl, -⟩ := Talk.request_inj (asked.symm.trans started)
      exact ⟨rfl, rfl, id⟩
  · cases v with
    | pollCq max => exact ends rfl
    | writeLocalMr lkey offset data => exact ends rfl
    | readLocalMr lkey offset len => exact ends rfl
    | _ => exact absurd rfl remote

/-- **What an answer does** to the credits and the regions of the client: it spends a credit for a
RECV_COMP, and settles what the answer tells about the regions.  It must not panic:
a client that does is gone. -/
theorem Requests.holdings_of_answer {messages : List RdowsMessage}
    {finish : RdowsMessage → Local VerbValue} {m : RdowsMessage}
    (requests : v.Requests c messages finish) (suits : m.variantOpcode ∈ v.answers)
    (returned : ¬ ((finish m).run d).1.IsPanic) : Gains v m d ((finish m).run d).2 := by
  have mapped {α : Type} {x : Local α} {f : α → VerbValue}
      (returned : ¬ ((x.mapValue f).run d).1.IsPanic) : ¬ (x.run d).1.IsPanic := by
    rw [Method.run_mapValue] at returned
    intro panics
    rcases run : x.run d with ⟨a | e | p, t⟩ <;> rw [run] at panics returned
    · exact panics
    · exact panics
    · exact returned trivial
  -- the answers of the other verbs complete work and touch no handle
  have same {α : Type} {x : Local α} {f : α → VerbValue} (keeps : x.Keeps SameHoldings)
      (noComp : recvComps [m] = 0) (tells : v.settle m d.handles = d.handles) :
      Gains v m d ((x.mapValue f).run d).2 := by
    rw [Method.run_mapValue]
    exact (keeps d).gains noComp tells
  cases requests with
  | regMr accessFlags regionLen =>
      rw [Method.run_mapValue]
      exact gains_onMrRegAck suits (mapped returned)
  | deregMr lkey =>
      rw [Method.run_mapValue]
      exact gains_onMrDeregAck suits
  | postSend wrid sgList data gathered =>
      rw [Method.run_mapValue]
      exact gains_onRecvComp suits (mapped returned)
  | rdmaWrite wrid rkey remoteVa sgList data gathered =>
      cases m with
      | error header err => exact same (SameHoldings.onWriteComp _ _ _) rfl rfl
      | writeComp header => exact same (SameHoldings.onWriteComp _ _ _) rfl rfl
      | _ => simp [RdowsMessage.variantOpcode, answers, Opcode.answers] at suits
  | rdmaRead wrid rkey remoteVa readLen localLkey localVa =>
      cases m with
      | error header err => exact same (SameHoldings.onReadResp _ _ _ _) rfl rfl
      | readResp header payload => exact same (SameHoldings.onReadResp _ _ _ _) rfl rfl
      | _ => simp [RdowsMessage.variantOpcode, answers, Opcode.answers] at suits
  | atomicCas wrid rkey remoteVa compare swap =>
      cases m with
      | error header err => exact same (SameHoldings.onAtomicResp _ _) rfl rfl
      | atomicResp header payload => exact same (SameHoldings.onAtomicResp _ _) rfl rfl
      | _ => simp [RdowsMessage.variantOpcode, answers, Opcode.answers] at suits
  | atomicFaa wrid rkey remoteVa addend =>
      cases m with
      | error header err => exact same (SameHoldings.onAtomicResp _ _) rfl rfl
      | atomicResp header payload => exact same (SameHoldings.onAtomicResp _ _) rfl rfl
      | _ => simp [RdowsMessage.variantOpcode, answers, Opcode.answers] at suits

end Verb

namespace Network

open RdowsConnection

/-- **A call that has read its answer** holds what the answer says.  That the message is an answer
to this call comes from the coherence of the run. -/
theorem Known.gains {config : ServerConfig} {now : ℕ} {seen : List (Move × Event)} {net : Network}
    (known : Known config now seen net) {verb : Verb} {before conn conn' : RdowsConnection}
    {messages : List RdowsMessage} {finish : RdowsMessage → Local VerbValue} {m : RdowsMessage}
    (phase : net.client = .inCall verb before none (.request [] conn finish))
    (requests : verb.Requests before messages finish) (unread : m ∈ net.unread)
    (isAnswer : m.isCreditUpdate = false)
    (held : (Talk.done ((finish m).run (counted conn m)).1 ((finish m).run (counted conn m)).2 :
      Talk _ _ Bytes RdowsMessage _).receiver = some conn') : Gains verb m conn conn' := by
  have waits := Phase.connection_of_request phase
  have suits : m.variantOpcode ∈ verb.answers := by
    rcases known.attuned.suits conn verb before waits (by rw [phase]; rfl) m unread with
      notice | suits
    · rw [isAnswer] at notice
      cases notice
    · exact suits
  have returned : ¬ ((finish m).run (counted conn m)).1.IsPanic := by
    intro panics
    rcases run : (finish m).run (counted conn m) with ⟨a | e | p, d⟩ <;> rw [run] at panics held
    · exact panics
    · exact panics
    · cases held
  obtain ⟨credits, regions, buffered⟩ := requests.holdings_of_answer suits returned
  obtain rfl := Talk.receiver_done held
  exact ⟨credits, regions, buffered⟩

end Network

end Rdows
