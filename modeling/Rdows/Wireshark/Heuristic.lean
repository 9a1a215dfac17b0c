import Rdows.Core.DecodeSafety
import Rdows.Wireshark.Dissector

/-!
# The heuristic dissector

On a WebSocket connection that did not negotiate the subprotocol, Wireshark offers every frame to
`rdows_heuristic`, which declines it or hands it to the dissector.

## Two tests for one header

The heuristic is written independently of the Rust header decoder, with a table of opcodes of its
own: it asks for 24 bytes, for the version in the first of them and for a name of the second.  The
decoder asks for the same length and version and for an opcode its `TryFrom` knows.  A table that is
kept twice can drift apart: an opcode that is missing in the script would hide valid frames, and one
that is missing in the decoder would show frames that no peer accepts.

* `opcodeNames_ne_none_iff`: the opcodes the script has a name for are those of the protocol.
* `run_rdowsHeuristic_of_known` and `run_rdowsHeuristic_of_unknown` say what the heuristic does with
  a frame, by the bytes it starts with.
* `rdowsHeuristic_agrees_decode` puts them together with the specification of the header decoder:
  the two tests are the same, on every byte string.

The agreement is about the header.  A frame whose header is accepted and whose payload is not is
handed to the dissector, which shows what it can of it.
-/

namespace Rdows.Wireshark

open Rust

/-- `opcode_names[opcode]`, which is `nil` for an opcode the script does not know.  The table is
that of `opName`; the text `opName` falls back to has three parts, and so is not a single string. -/
def opcodeNames (opcode : ℕ) : Option String :=
  match opName opcode with
  | [.str name] => some name
  | _ => none

/-- `rdows_heuristic`: whether the frame is one of the protocol, and the dissector if it is.  The
two bytes are read after the length has been checked, so this function itself never raises a range
error. -/
def rdowsHeuristic [TextDecoding] (b : Bytes) : Script Bool := do
  if b.length < 24 then
    return false
  else
    let version ← uint b 0 1
    let opcode ← uint b 1 1
    if version ≠ 0x01 then
      return false
    else if opcodeNames opcode = none then
      return false
    else
      dissector b
      return true

/-- The opcodes the script has a name for are those of the protocol: neither table has an entry the
other one lacks. -/
theorem opcodeNames_ne_none_iff (value : UInt8) :
    opcodeNames value.toNat ≠ none ↔ ∃ op : Opcode, value = op.toU8 := by
  constructor
  · intro named
    -- the converse is found by trying all bytes: the table is a function of numbers, not of opcodes
    have known : ∀ n < 256, opcodeNames n ≠ none →
        (Opcode.tryFrom (UInt8.ofNat n)).toOption ≠ none := by
      decide +kernel
    have accepted := known value.toNat value.toNat_lt named
    rw [UInt8.ofNat_toNat] at accepted
    cases hop : Opcode.tryFrom value with
    | error _ => exact absurd (by rw [hop]; rfl) accepted
    | ok op => exact ⟨op, (Opcode.toU8_of_tryFrom hop).symm⟩
  · rintro ⟨op, rfl⟩
    cases op <;> decide

/-- Reading the one byte that stands at an offset: its value, with the display as it was. -/
theorem run_uint_one {b : Bytes} {offset : ℕ} {value : UInt8} (stands : b[offset]? = some value)
    (d : Display) : (uint b offset 1).run d = (.ok value.toNat, d) := by
  obtain ⟨inside, rfl⟩ := List.getElem?_eq_some_iff.mp stands
  have byte : (b.drop offset).take 1 = [b[offset]] := by
    rw [List.drop_eq_getElem_cons inside]
    rfl
  rw [uint, range, if_pos (Nat.succ_le_of_lt inside), byte]
  simp [ofBE]

variable [TextDecoding]

/-- The heuristic hands a frame over that is long enough and starts with the version and a known
opcode; what is displayed then is up to the dissector. -/
theorem run_rdowsHeuristic_of_known {b : Bytes} {op : Opcode} (long : 24 ≤ b.length)
    (version : b[0]? = some 0x01) (opcode : b[1]? = some op.toU8) (d : Display) :
    (rdowsHeuristic b).run d = (do dissector b; return true : Script Bool).run d := by
  have named : opcodeNames op.toU8.toNat ≠ none := (opcodeNames_ne_none_iff _).mpr ⟨op, rfl⟩
  rw [rdowsHeuristic, if_neg (Nat.not_lt.mpr long), Method.run_bind_of_ok (run_uint_one version d),
    Method.run_bind_of_ok (run_uint_one opcode d), if_neg (by decide), if_neg named]

/-- The heuristic declines every other frame, and shows nothing of it. -/
theorem run_rdowsHeuristic_of_unknown {b : Bytes}
    (unknown : ¬ (24 ≤ b.length ∧ b[0]? = some 0x01 ∧ ∃ op : Opcode, b[1]? = some op.toU8))
    (d : Display) : (rdowsHeuristic b).run d = (.ok false, d) := by
  rw [rdowsHeuristic]
  by_cases short : b.length < 24
  · rw [if_pos short, Method.run_pure]
  · have long : 24 ≤ b.length := Nat.not_lt.mp short
    have first : b[0]? = some b[0] := List.getElem?_eq_getElem (by omega)
    have second : b[1]? = some b[1] := List.getElem?_eq_getElem (by omega)
    rw [if_neg short, Method.run_bind_of_ok (run_uint_one first d),
      Method.run_bind_of_ok (run_uint_one second d)]
    by_cases version : b[0].toNat = 0x01
    · have unnamed : opcodeNames b[1].toNat = none := by
        by_contra named
        obtain ⟨op, same⟩ := (opcodeNames_ne_none_iff _).mp named
        have one : b[0] = 0x01 := UInt8.toNat_inj.mp version
        exact unknown ⟨long, by rw [first, one], op, by rw [second, same]⟩
      rw [if_neg (not_not.mpr version), if_pos unnamed, Method.run_pure]
    · rw [if_pos version, Method.run_pure]

/-- **The heuristic agrees with the decoder.**  On every byte string, the heuristic hands the frame
to the dissector if `RdowsHeader::decode` accepts its header, and declines it otherwise, with the
display as it was.  So it declines no frame that decodes as a message. -/
theorem rdowsHeuristic_agrees_decode (b : Bytes) (d : Display) :
    (rdowsHeuristic b).run d =
        (if (RdowsHeader.decode.run b).1.IsOk then
          (do dissector b; return true : Script Bool).run d
        else (.ok false, d)) ∧
      ((RdowsMessage.decode b).IsOk → ((rdowsHeuristic b).run d).1 ≠ .ok false) := by
  -- the decoder fails exactly if one of the three things the heuristic asks for is missing
  rcases run_decode_header b with ⟨e, left, run, unknown⟩ | ⟨h, run, long, version, opcode, -⟩
  · have failed : RdowsMessage.decode b = .err e := by
      rw [RdowsMessage.decode, Method.run_bind, run]
    rw [run, run_rdowsHeuristic_of_unknown unknown, failed]
    exact ⟨rfl, False.elim⟩
  · rw [run, run_rdowsHeuristic_of_known long version opcode]
    refine ⟨rfl, fun _ declined => ?_⟩
    -- after the dissector the script only returns `true`
    rw [Method.run_bind] at declined
    cases shown : (dissector b).run d with
    | mk result d' => cases result <;> rw [shown] at declined <;> cases declined

end Rdows.Wireshark
