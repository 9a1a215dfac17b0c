import Rdows.Core.Basic
import Rdows.Lib.Utf8

/-!
# The slots of the key-value store

The layout of one slot of the hash table (`kv.rs`): a status byte, the lengths of key and value, and
the two texts at fixed offsets, in 1024 bytes.

## Encoding

`encodeSlot` is written as the source has it, as copies into a zeroed buffer, each of which would
panic if its range did not fit.  `encodeSlot_eq_layout` says area by area what comes out: every text
is followed by zeros up to the end of its area.  The limits on keys and values are not checked here
but in `put`, so the round trip `decodeSlot_encodeSlot` has them as hypotheses.

## Decoding

`decodeSlot` believes the bytes it is given: the lengths come from the slot, and a slot with a
length that leads outside makes the slice panic.  The status byte is only compared with zero, and
the texts are decoded with replacement characters.  That none of this happens is a property of the
slots that were written (see `Kv.Representation`).  A slot of zeros is an empty one
(`decodeSlot_zeros`), which is how `delete` clears it and how a fresh region starts.

## Dumps

`slotHexLines` is the dump shown with a lookup; it never fails on a whole slot, since it clips the
ranges it shows.
-/

namespace Rdows

open Rust

namespace Kv

/-- `SLOT_COUNT`: the table has no other capacity, and never grows. -/
def slotCount : ℕ := 64

/-- `SLOT_SIZE`, in bytes.  One RDMA operation moves one slot. -/
def slotSize : ℕ := 1024

/-- `MR_SIZE`: the region is the slots and nothing else. -/
def mrSize : ℕ := slotCount * slotSize

/-- `MAX_KEY_LEN`, in bytes of UTF-8: the room between `OFF_KEY` and `OFF_VALUE`. -/
def maxKeyLen : ℕ := 255

/-- `MAX_VALUE_LEN`, in bytes of UTF-8: the room behind `OFF_VALUE`. -/
def maxValueLen : ℕ := 764

/-- `OFF_STATUS`. -/
def offStatus : ℕ := 0

/-- `OFF_KEY_LEN`. -/
def offKeyLen : ℕ := 1

/-- `OFF_VAL_LEN`. -/
def offValLen : ℕ := 3

/-- `OFF_KEY`. -/
def offKey : ℕ := 5

/-- `OFF_VALUE`. -/
def offValue : ℕ := 260

/-- `KvError`.  An error of the connection is passed on as it is. -/
inductive KvError where
  | rdma (error : RdowsError)
  | tableFull
  | keyTooLong
  | valueTooLong
  deriving DecidableEq, Repr

/-- `hash_key`: FNV-1a on 32 bits, reduced to a slot index.  The multiplication wraps, as
`wrapping_mul` does. -/
def hashKey (key : Bytes) : ℕ :=
  (key.foldl (fun hash b => (hash ^^^ b.toUInt32) * 16777619) (2166136261 : UInt32)).toNat
    % slotCount

/-- `encode_slot`: copies into a zeroed buffer.  A key that is too long would spill into the area of
the value, and a value that is too long would panic; `put` lets neither through. -/
def encodeSlot (key value : String) : Outcome KvError Bytes := do
  let slot := List.replicate slotSize 0
  let slot ← copyFromSlice slot offStatus (offStatus + 1) [0x01]
  let slot ← copyFromSlice slot offKeyLen (offKeyLen + 2)
    (putU16 (UInt16.ofNat (utf8Bytes key).length))
  let slot ← copyFromSlice slot offValLen (offValLen + 2)
    (putU16 (UInt16.ofNat (utf8Bytes value).length))
  let slot ← copyFromSlice slot offKey (offKey + (utf8Bytes key).length) (utf8Bytes key)
  copyFromSlice slot offValue (offValue + (utf8Bytes value).length) (utf8Bytes value)

/-- `u16::from_be_bytes([data[pos], data[pos + 1]]) as usize`. -/
def lengthAt (data : Bytes) (pos : ℕ) : Outcome KvError ℕ := do
  return (UInt16.ofNat (ofBE (← slice data pos (pos + 2)))).toNat

/-- `decode_slot`.  Any status but zero means that the slot is occupied, and the lengths are taken
from the slot. -/
def decodeSlot (data : Bytes) : Outcome KvError (Option (String × String)) := do
  let status ← byteAt data offStatus
  if status = 0x00 then return none
  else do
    let keyLen ← lengthAt data offKeyLen
    let valLen ← lengthAt data offValLen
    let key ← slice data offKey (offKey + keyLen)
    let value ← slice data offValue (offValue + valLen)
    return some (fromUtf8Lossy key, fromUtf8Lossy value)

/-! ### Dumps -/

/-- Upper-case hexadecimal with at least `width` digits (`{:0widthX}`). -/
def hexPad (width n : ℕ) : String :=
  String.ofList (((Nat.toDigits 16 n).map Char.toUpper).leftpad width '0')

/-- `hex_dump_region`: lines of sixteen bytes with their offset, in hexadecimal and as text. -/
def hexDumpRegion (data : Bytes) (baseOffset maxLines : ℕ) : List String :=
  ((data.toChunks 16).take maxLines).zipIdx.map fun (chunk, i) =>
    let hex := " ".intercalate (chunk.map fun b => hexPad 2 b.toNat)
    let ascii := String.ofList (chunk.map fun b =>
      if 0x20 ≤ b ∧ b ≤ 0x7E then Char.ofNat b.toNat else '.')
    hexPad 4 (baseOffset + i * 16) ++ "  " ++
      String.ofList (hex.toList.rightpad 48 ' ') ++ "  " ++ ascii

/-- `usize::div_ceil`. -/
def divCeil (a b : ℕ) : ℕ := (a + b - 1) / b

/-- `slot_hex_lines`.  The lengths in the headings are those of the slot; the ranges that are shown
are rounded up to whole lines and clipped. -/
def slotHexLines (data : Bytes) : Outcome KvError (List String) := do
  let header ← slice data 0 offKey
  let keyLen ← lengthAt data offKeyLen
  let keyShow := divCeil keyLen 16 + 1
  let key ← slice data offKey (offKey + min keyShow 16 * 16)
  let valLen ← lengthAt data offValLen
  let valShow := divCeil valLen 16 + 1
  let valEnd := min (offValue + valShow * 16) slotSize
  let value ← slice data offValue valEnd
  return ["--- header (status, key_len, val_len) ---"] ++ hexDumpRegion header 0 1 ++
    [s!"--- key data ({keyLen} bytes) ---"] ++ hexDumpRegion key offKey (min keyShow 16) ++
    [s!"--- value data ({valLen} bytes) ---"] ++ hexDumpRegion value offValue (min valShow 48)

/-! ### Reading back a slot -/

section Slots

variable {data : Bytes}

theorem lengthAt_eq_ok {pos : ℕ} (h : pos + 2 ≤ data.length) :
    lengthAt data pos = .ok (UInt16.ofNat (ofBE ((data.drop pos).take 2))).toNat := by
  rw [lengthAt, slice_eq_ok (Nat.le_add_right _ _) h, Nat.add_sub_cancel_left]
  rfl

/-- The dump of a whole slot does not fail. -/
theorem slotHexLines_eq_ok (h : data.length = slotSize) :
    ∃ lines, slotHexLines data = .ok lines := by
  have size : data.length = 1024 := h
  have key (n : ℕ) : offKey + min n 16 * 16 ≤ data.length := by
    rw [size, offKey]
    omega
  have valueStart (n : ℕ) : offValue ≤ min (offValue + n * 16) slotSize := by
    rw [slotSize, offValue]
    omega
  have valueEnd (n : ℕ) : min (offValue + n * 16) slotSize ≤ data.length := by
    rw [h]
    exact Nat.min_le_right _ _
  have header : offKey ≤ data.length := by
    rw [size, offKey]
    omega
  have keyLen : offKeyLen + 2 ≤ data.length := by
    rw [size, offKeyLen]
    omega
  have valLen : offValLen + 2 ≤ data.length := by
    rw [size, offValLen]
    omega
  -- every slice of the dump lies inside the slot
  simp only [slotHexLines, slice_eq_ok (Nat.zero_le _) header, lengthAt_eq_ok keyLen,
    lengthAt_eq_ok valLen, slice_eq_ok (Nat.le_add_right _ _) (key _),
    slice_eq_ok (valueStart _) (valueEnd _), Outcome.ok_bind, Outcome.pure_eq]
  exact ⟨_, rfl⟩

/-- A slot of zeros is empty. -/
theorem decodeSlot_zeros : decodeSlot (List.replicate slotSize 0) = .ok none := rfl

/-- A length below `2 ^ 16` survives its two bytes.  The limits of keys and values are far below. -/
theorem ofBE_putU16 {len : ℕ} (h : len < 2 ^ 16) :
    (UInt16.ofNat (ofBE (putU16 (UInt16.ofNat len)))).toNat = len := by
  rw [putU16, ofBE_toBE, UInt16.toNat_ofNat', UInt16.toNat_ofNat']
  omega

/-- An occupied slot is decoded from its five fields. -/
theorem decodeSlot_eq_some {key value : Bytes} (size : data.length = slotSize)
    (hkey : key.length ≤ maxKeyLen) (hvalue : value.length ≤ maxValueLen)
    (status : (data.drop offStatus).take 1 = [0x01])
    (keyLen : (data.drop offKeyLen).take 2 = putU16 (UInt16.ofNat key.length))
    (valLen : (data.drop offValLen).take 2 = putU16 (UInt16.ofNat value.length))
    (keyBytes : (data.drop offKey).take key.length = key)
    (valueBytes : (data.drop offValue).take value.length = value) :
    decodeSlot data = .ok (some (fromUtf8Lossy key, fromUtf8Lossy value)) := by
  have size' : data.length = 1024 := size
  have hkey' : key.length ≤ 255 := hkey
  have hvalue' : value.length ≤ 764 := hvalue
  have first : data[0]? = some 0x01 := by
    have := congrArg (·[0]?) status
    simpa [offStatus] using this
  -- the two lengths fit into 16 bits, so what is read back is what was written
  have k : lengthAt data offKeyLen = .ok key.length := by
    rw [lengthAt_eq_ok (by rw [size', offKeyLen]; omega), keyLen, ofBE_putU16 (by omega)]
  have v : lengthAt data offValLen = .ok value.length := by
    rw [lengthAt_eq_ok (by rw [size', offValLen]; omega), valLen, ofBE_putU16 (by omega)]
  have keySlice : (slice data offKey (offKey + key.length) : Outcome KvError Bytes) = .ok key := by
    rw [slice_eq_ok (Nat.le_add_right _ _) (by rw [size', offKey]; omega),
      Nat.add_sub_cancel_left, keyBytes]
  have valueSlice : (slice data offValue (offValue + value.length) : Outcome KvError Bytes)
      = .ok value := by
    rw [slice_eq_ok (Nat.le_add_right _ _) (by rw [size', offValue]; omega),
      Nat.add_sub_cancel_left, valueBytes]
  simp only [decodeSlot, byteAt, offStatus, first, k, v, keySlice, valueSlice, Outcome.orPanic,
    Outcome.ok_bind, Outcome.pure_eq]
  rfl

/-- The bytes of an occupied slot: status, lengths, key and value, each text followed by zeros up to
the end of its area. -/
def slotLayout (key value : Bytes) : Bytes :=
  [0x01] ++ (putU16 (UInt16.ofNat key.length) ++ (putU16 (UInt16.ofNat value.length) ++
    (key ++ (List.replicate (maxKeyLen - key.length) 0 ++
      (value ++ List.replicate (maxValueLen - value.length) 0)))))

theorem length_slotLayout {key value : Bytes} (hkey : key.length ≤ maxKeyLen)
    (hvalue : value.length ≤ maxValueLen) : (slotLayout key value).length = slotSize := by
  have hkey : key.length ≤ 255 := hkey
  have hvalue : value.length ≤ 764 := hvalue
  simp only [slotLayout, List.length_append, List.length_singleton, length_putU16,
    List.length_replicate, maxKeyLen, maxValueLen, slotSize]
  omega

/-- What `encode_slot` writes, area by area. -/
theorem encodeSlot_eq_layout {key value : String} (hkey : (utf8Bytes key).length ≤ maxKeyLen)
    (hvalue : (utf8Bytes value).length ≤ maxValueLen) :
    encodeSlot key value = .ok (slotLayout (utf8Bytes key) (utf8Bytes value)) := by
  have short : (utf8Bytes key).length ≤ 255 := hkey
  -- Four writes fill the slot up to the end of the key; the area of the key ends where the fifth
  -- one starts.
  have gap : (List.replicate (slotSize - [(0x01 : UInt8)].length
        - (putU16 (UInt16.ofNat (utf8Bytes key).length)).length
        - (putU16 (UInt16.ofNat (utf8Bytes value).length)).length
        - (utf8Bytes key).length) 0 : Bytes)
      = List.replicate (maxKeyLen - (utf8Bytes key).length) 0 ++ List.replicate maxValueLen 0 := by
    rw [List.replicate_append_replicate, length_putU16, length_putU16, List.length_singleton,
      slotSize, maxKeyLen, maxValueLen]
    congr 1
    omega
  unfold encodeSlot
  dsimp only
  rw [← List.nil_append (List.replicate slotSize (0 : UInt8)),
    copyFromSlice_zeros (by rfl) (by rfl) (by decide), Outcome.ok_bind,
    copyFromSlice_zeros (by rfl) (by rw [length_putU16]) (by rw [length_putU16]; decide),
    Outcome.ok_bind,
    copyFromSlice_zeros (by simp [offValLen]) (by rw [length_putU16])
      (by rw [length_putU16, length_putU16]; decide), Outcome.ok_bind,
    copyFromSlice_zeros (by simp [offKey]) (by rfl) (by simp [slotSize]; omega), Outcome.ok_bind,
    gap, ← List.append_assoc,
    copyFromSlice_zeros (by simp [offValue, maxKeyLen]; omega) (by rfl) hvalue]
  simp only [slotLayout, List.nil_append, List.append_assoc]

/-- **The slot round trip.**  A key and a value that fit are encoded into a whole slot, and
decoded back from it. -/
theorem decodeSlot_encodeSlot {key value : String} (hkey : (utf8Bytes key).length ≤ maxKeyLen)
    (hvalue : (utf8Bytes value).length ≤ maxValueLen) :
    ∃ slot, encodeSlot key value = .ok slot ∧ slot.length = slotSize ∧
      decodeSlot slot = .ok (some (key, value)) := by
  have short : (utf8Bytes key).length ≤ 255 := hkey
  refine ⟨_, encodeSlot_eq_layout hkey hvalue, length_slotLayout hkey hvalue, ?_⟩
  rw [decodeSlot_eq_some (length_slotLayout hkey hvalue) hkey hvalue, fromUtf8Lossy_utf8Bytes,
    fromUtf8Lossy_utf8Bytes]
  · rfl
  · exact segment_append (by rfl) (length_putU16 _)
  · rw [slotLayout, ← List.append_assoc]
    exact segment_append (by rw [List.length_append, length_putU16]; rfl) (length_putU16 _)
  · rw [slotLayout, ← List.append_assoc, ← List.append_assoc]
    exact segment_append (by simp [offKey]) rfl
  · rw [slotLayout, ← List.append_assoc, ← List.append_assoc, ← List.append_assoc,
      ← List.append_assoc]
    exact segment_append (by simp [offValue, maxKeyLen]; omega) rfl

end Slots

end Kv

end Rdows
