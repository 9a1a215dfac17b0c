import Rdows.Kv.Remote

/-!
# The HTTP interface

The handlers of `api.rs` on top of the store over the wire.  All of them hold the lock of the store
from beginning to end, so that the requests are served one after the other, in the order in which
they get the lock: a `List Request`.

## What is kept of HTTP

A request is what a handler is given, and a response is a status code with the value that is
serialised.  Routing and the text of the JSON documents are left out; every text of an error is
kept, since a client may show it.  Errors of the store that a user can cause have status codes of
their own (507 for a full table, 413 for a key or a value that is too long); everything else is an
internal error with the `Display` of the error.

## Down to the region

`handle` runs a handler with calls on the connection; `onRegion` is the same request on the region
itself.  `performs` connects them for one request and `performs_all` for a list: the answers are the
same, and the calls use up at most one work request for each slot and one more, which is the budget
of `Caller.Implements`.  `step_sound` then says that on a well-formed region no request is answered
with an internal error, and that the region stays well-formed.

`main` is the whole program from the connection on: it registers the two regions, makes the store,
and serves the requests.
-/

namespace Rdows

open Rust

/-! ### Errors as text -/

/-- `Display` for `ErrorCode`. -/
def ErrorCode.display : ErrorCode → String
  | .success => "SUCCESS"
  | .errProtoVersion => "ERR_PROTO_VERSION"
  | .errUnknownOpcode => "ERR_UNKNOWN_OPCODE"
  | .errInvalidPd => "ERR_INVALID_PD"
  | .errInvalidLkey => "ERR_INVALID_LKEY"
  | .errInvalidMkey => "ERR_INVALID_MKEY"
  | .errAccessDenied => "ERR_ACCESS_DENIED"
  | .errBounds => "ERR_BOUNDS"
  | .errAlignment => "ERR_ALIGNMENT"
  | .errPayloadSize => "ERR_PAYLOAD_SIZE"
  | .errRnr => "ERR_RNR"
  | .errCqOverflow => "ERR_CQ_OVERFLOW"
  | .errSeqGap => "ERR_SEQ_GAP"
  | .errTimeout => "ERR_TIMEOUT"
  | .errInternal => "ERR_INTERNAL"

/-- `Debug` for `Opcode`. -/
def Opcode.debug : Opcode → String
  | .connect => "Connect"
  | .connectAck => "ConnectAck"
  | .disconnect => "Disconnect"
  | .mrReg => "MrReg"
  | .mrRegAck => "MrRegAck"
  | .mrDereg => "MrDereg"
  | .mrDeregAck => "MrDeregAck"
  | .send => "Send"
  | .sendData => "SendData"
  | .recvComp => "RecvComp"
  | .write => "Write"
  | .writeData => "WriteData"
  | .writeComp => "WriteComp"
  | .readReq => "ReadReq"
  | .readResp => "ReadResp"
  | .atomicReq => "AtomicReq"
  | .atomicResp => "AtomicResp"
  | .ack => "Ack"
  | .creditUpdate => "CreditUpdate"
  | .error => "Error"

namespace Kv

/-- `Display` for `RdowsError`. -/
def displayRdows : RdowsError → String
  | .invalidVersion version => "invalid protocol version: 0x" ++ hexPad 2 version.toNat
  | .invalidOpcode opcode => "invalid opcode: 0x" ++ hexPad 2 opcode.toNat
  | .payloadTooShort expected got =>
      s!"payload too short: expected at least {expected} bytes, got {got}"
  | .headerTooShort got => s!"header too short: need 24 bytes, got {got}"
  | .protocol code => "protocol error: " ++ code.display
  | .sessionClosed => "session closed"
  | .sendCreditsExhausted => "send credits exhausted"
  | .unexpectedMessage expected got =>
      "unexpected message: expected " ++ expected ++ ", got " ++ got.debug
  | .webSocket reason => "websocket error: " ++ reason

/-- `Display` for `KvError`. -/
def KvError.display : KvError → String
  | .rdma e => "RDMA error: " ++ displayRdows e
  | .tableFull => "hash table full"
  | .keyTooLong => s!"key exceeds {maxKeyLen} bytes"
  | .valueTooLong => s!"value exceeds {maxValueLen} bytes"

namespace Api

/-! ### Requests and responses -/

/-- The requests that are routed to a handler of the store, with what was parsed from the path and
the body. -/
inductive Request where
  | putKey (key value : String)
  | getKey (key : String)
  | deleteKey (key : String)
  | getSlots
  | getStats
  deriving DecidableEq

/-- The status codes in use. -/
inductive StatusCode where
  | ok
  | notFound
  | payloadTooLarge
  | internalServerError
  | insufficientStorage
  deriving DecidableEq

/-- The document of a response, before it is serialised. -/
inductive Body where
  | put (result : PutResult)
  | get (result : GetResult)
  | delete (result : DeleteResult)
  | slots (slots : List SlotInfo)
  | stats (sessionId rkey : String) (mrSize slotCount slotSize : ℕ)
  | error (message : String) (key : Option String)
  deriving DecidableEq

/-- A response: its status code and its document. -/
structure Response where
  status : StatusCode
  body : Body
  deriving DecidableEq

/-- `put_key`, once the store has answered.  The limits in the texts are literals of the source, not
the constants. -/
def putResponse : Except KvError PutResult → Response
  | .ok result => ⟨.ok, .put result⟩
  | .error .tableFull => ⟨.insufficientStorage, .error "hash table full" none⟩
  | .error .keyTooLong => ⟨.payloadTooLarge, .error "key too long (max 255 bytes)" none⟩
  | .error .valueTooLong => ⟨.payloadTooLarge, .error "value too long (max 764 bytes)" none⟩
  | .error e => ⟨.internalServerError, .error e.display none⟩

/-- `get_key`, once the store has answered. -/
def getResponse (key : String) : Except KvError (Option GetResult) → Response
  | .ok (some result) => ⟨.ok, .get result⟩
  | .ok none => ⟨.notFound, .error "key not found" (some key)⟩
  | .error e => ⟨.internalServerError, .error e.display none⟩

/-- `delete_key`, once the store has answered.  A key that was not there is a 404, although the
store does not treat it as an error. -/
def deleteResponse (key : String) : Except KvError DeleteResult → Response
  | .ok result =>
      if result.found then ⟨.ok, .delete result⟩
      else ⟨.notFound, .error "key not found" (some key)⟩
  | .error e => ⟨.internalServerError, .error e.display none⟩

/-- `get_slots`, once the store has answered. -/
def slotsResponse : Except KvError (List SlotInfo) → Response
  | .ok slots => ⟨.ok, .slots slots⟩
  | .error e => ⟨.internalServerError, .error e.display none⟩

/-- `get_stats`: the sizes of the table and the numbers of the session and the region, none of which
change. -/
def statsResponse (kv : KvStore) : Response :=
  ⟨.ok, .stats ("0x" ++ hexPad 8 kv.sessionId.toNat) ("0x" ++ hexPad 8 kv.remoteRkeyValue.toNat)
    mrSize slotCount slotSize⟩

/-- A handler, while it holds the lock of the store.  It has no error of its own: every error of the
store becomes a response. -/
abbrev Handler := Caller Verb RdowsError VerbValue KvStore Empty

/-- `put_key`, `get_key`, `delete_key`, `get_slots` and `get_stats`. -/
def handle : Request → Handler Response
  | .putKey key value => do return putResponse (← (Remote.put key value).caught)
  | .getKey key => do return getResponse key (← (Remote.get key).caught)
  | .deleteKey key => do return deleteResponse key (← (Remote.delete key).caught)
  | .getSlots => do return slotsResponse (← Remote.dumpSlots.caught)
  | .getStats => do return statsResponse (← Caller.get)

/-- The requests in the order in which they get the lock.  A panic ends the service; there is no
response to it. -/
def handleAll : List Request → Handler (List Response)
  | [] => return []
  | request :: rest => do return (← handle request) :: (← handleAll rest)

/-- `main` from the connection on: it makes the store and serves requests.  It fails if one of the
two registrations does. -/
def main (sessionId : UInt32) (requests : List Request) :
    App (Outcome RdowsError (List Response)) :=
  ((Remote.create sessionId).start ()).bind fun
    | (.ok kv, _) => ((handleAll requests).start kv).bind fun
        | (.ok responses, _) => .done (.ok responses)
        | (.err e, _) => e.elim
        | (.panic p, _) => .done (.panic p)
    | (.err e, _) => .done (.err e)
    | (.panic p, _) => .done (.panic p)

/-! ### The same on the region -/

/-- What a request does to the region, and how it is answered, with the store's methods on the
region in place of those over the wire. -/
def onRegion (kv : KvStore) : Request → Method Bytes Empty Response
  | .putKey key value => do return putResponse (← (put key value).onPart id fun region _ => region)
  | .getKey key => do return getResponse key (← (get key).onPart id fun region _ => region)
  | .deleteKey key => do return deleteResponse key (← (delete key).onPart id fun region _ => region)
  | .getSlots => do return slotsResponse (← dumpSlots.onPart id fun region _ => region)
  | .getStats => return statsResponse kv

/-- One request. -/
def step (kv : KvStore) (region : Bytes) (request : Request) : Outcome Empty Response × Bytes :=
  (onRegion kv request).run region

/-! ### One request -/

section Request

variable {readings : Readings} {kv₀ kv : KvStore} {region : Bytes}

/-- **A request over the wire** is answered as on the region, within the budget of one full probe
and a write. -/
theorem performs (request : Request) :
    Caller.Implements (Direct.call readings) Direct.Admits (Attached kv₀) (slotCount + 1)
      (handle request) (onRegion kv₀ request) := by
  cases request with
  | putKey key value => exact (Attached.put key value).caught.map Attached.spare _
  | getKey key => exact (Attached.get key).caught.map Attached.spare _
  | deleteKey key => exact (Attached.delete key).caught.map Attached.spare _
  | getSlots =>
      exact (Attached.dumpSlots.caught.map Attached.spare _).mono Attached.spare (Nat.le_succ _)
  | getStats =>
      suffices Caller.Implements (Direct.call readings) Direct.Admits (Attached kv₀) 0 _ _ from
        this.mono Attached.spare (Nat.zero_le _)
      intro n kv d region attached
      have same : statsResponse kv₀ = statsResponse kv := by
        rw [← attached.identity]
        rfl
      have ends : ((pure (statsResponse kv) : Handler Response).start kv).Yields
          (Direct.call readings) Direct.Admits d (.ok (statsResponse kv₀), kv) d := by
        rw [same]
        exact .done _ _
      exact ⟨kv, d, Caller.yields_bind (Caller.yields_get kv d) ends, attached⟩

section Step

variable {key value : String} {region' : Bytes}

theorem step_put (result : Except KvError PutResult)
    (run : (put key value).run region = (.ofExcept result, region')) (kv : KvStore) :
    step kv region (.putKey key value) = (.ok (putResponse result), region') :=
  Method.run_bind_of_ok (Method.run_onPart_of_ofExcept result run)

theorem step_get (result : Option GetResult)
    (run : (get key).run region = (.ok result, region')) (kv : KvStore) :
    step kv region (.getKey key) = (.ok (getResponse key (.ok result)), region') :=
  Method.run_bind_of_ok (Method.run_onPart_of_ofExcept (.ok result) run)

theorem step_delete (result : DeleteResult)
    (run : (delete key).run region = (.ok result, region')) (kv : KvStore) :
    step kv region (.deleteKey key) = (.ok (deleteResponse key (.ok result)), region') :=
  Method.run_bind_of_ok (Method.run_onPart_of_ofExcept (.ok result) run)

theorem step_slots (result : List SlotInfo)
    (run : dumpSlots.run region = (.ok result, region')) (kv : KvStore) :
    step kv region .getSlots = (.ok (slotsResponse (.ok result)), region') :=
  Method.run_bind_of_ok (Method.run_onPart_of_ofExcept (.ok result) run)

end Step

/-- On a well-formed region a request is answered, not with an internal error, and the region stays
well-formed. -/
def Sound (out : Outcome Empty Response × Bytes) : Prop :=
  (∃ response, out.1 = .ok response ∧ response.status ≠ .internalServerError) ∧ WellFormed out.2

theorem step_sound (wf : WellFormed region) (kv : KvStore) (request : Request) :
    Sound (step kv region request) := by
  cases request with
  | putKey key value =>
      by_cases longKey : (utf8Bytes key).length > maxKeyLen
      · rw [step_put (.error .keyTooLong) (by rw [put, if_pos longKey, Method.run_throw]; rfl) kv]
        exact ⟨⟨_, rfl, by decide⟩, wf⟩
      by_cases longValue : (utf8Bytes value).length > maxValueLen
      · rw [step_put (.error .valueTooLong)
          (by rw [put, if_neg longKey, if_pos longValue, Method.run_throw]; rfl) kv]
        exact ⟨⟨_, rfl, by decide⟩, wf⟩
      -- the store refuses a key only if its probe sequence is full of others
      rcases land : landing region key with _ | m
      · rw [step_put (.error .tableFull)
          (run_put_full wf (Nat.not_lt.mp longKey) (Nat.not_lt.mp longValue) land) kv]
        exact ⟨⟨_, rfl, by decide⟩, wf⟩
      · obtain ⟨region', run, wf', -⟩ :=
          run_put wf (Nat.not_lt.mp longKey) (Nat.not_lt.mp longValue) land
        rw [step_put (.ok _) run kv]
        exact ⟨⟨_, rfl, by simp [putResponse]⟩, wf'⟩
  | getKey key =>
      obtain ⟨result, run, -⟩ := run_get wf key
      rw [step_get result run kv]
      exact ⟨⟨_, rfl, by cases result <;> simp [getResponse]⟩, wf⟩
  | deleteKey key =>
      rcases found : lookup region key with _ | v
      · obtain ⟨result, run, absent⟩ := run_delete_absent wf found
        rw [step_delete result run kv]
        exact ⟨⟨_, rfl, by simp [deleteResponse, absent]⟩, wf⟩
      · obtain ⟨m, land, slot⟩ := Probe.landing_of_lookup found
        obtain ⟨region', run, wf', -⟩ := run_delete_found wf land slot
        rw [step_delete _ run kv]
        exact ⟨⟨_, rfl, by simp [deleteResponse]⟩, wf'⟩
  | getSlots =>
      rw [step_slots _ (run_dumpSlots wf) kv]
      exact ⟨⟨_, rfl, by simp [slotsResponse]⟩, wf⟩
  | getStats => exact ⟨⟨_, rfl, by simp [statsResponse]⟩, wf⟩

/-- **Requests over the wire**, one after the other, are answered as on the region, and leave the
store attached to the region that they lead to.  A request costs at most one work request for each
slot and one for a write, which the numbers must leave room for. -/
theorem performs_all (readings : Readings) (requests : List Request) {n : ℕ} {d : Direct}
    (wf : WellFormed region)
    (attached : Attached kv₀ (n + (slotCount + 1) * requests.length) kv d region) :
    ∃ responses kv' d',
      ((handleAll requests).start kv).Yields (Direct.call readings) Direct.Admits d
        (.ok responses, kv') d' ∧
      Attached kv₀ n kv' d' (Machine.exec (step kv₀) region requests) ∧
      responses.map .ok = Machine.outputs (step kv₀) region requests ∧
      ∀ response ∈ responses, response.status ≠ .internalServerError := by
  induction requests generalizing kv d region with
  | nil => exact ⟨[], kv, d, .done _ _, attached, rfl, fun _ mem => absurd mem List.not_mem_nil⟩
  | cons request rest ih =>
      have budget : n + (slotCount + 1) * (request :: rest).length
          = n + (slotCount + 1) * rest.length + (slotCount + 1) := by
        rw [List.length_cons, Nat.mul_succ, Nat.add_assoc]
      rw [budget] at attached
      obtain ⟨kv₁, d₁, yields, attached₁⟩ := performs request _ kv d region attached
      obtain ⟨⟨response, answered, served⟩, wf₁⟩ := step_sound wf kv₀ request
      rw [show ((onRegion kv₀ request).run region).1 = .ok response from answered] at yields
      obtain ⟨responses, kv₂, d₂, later, attached₂, outputs, all⟩ := ih wf₁ attached₁
      refine ⟨response :: responses, kv₂, d₂, ?_, attached₂, ?_, ?_⟩
      · exact Caller.yields_bind yields (Caller.yields_bind later (.done _ _))
      · rw [List.map_cons, outputs, Machine.outputs, answered]
      · exact List.forall_mem_cons.mpr ⟨served, all⟩

end Request

end Api

end Kv

end Rdows
