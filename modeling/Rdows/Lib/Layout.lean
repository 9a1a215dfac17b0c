import Rdows.Lib.Bytes

/-!
# Layouts: the named parts of a record

A record on the wire is a sequence of pieces: big-endian numbers and blocks of bytes under a name,
flags that are bits of the number before them, and reserved bytes.  `layoutBytes` is what is
written, `placed` says where each piece comes to stand, and `HoldsAt b o pieces` is what a reader of
the byte string `b` may use: at offset `o` stand the bytes of the pieces, one after the other.

## Two readers of one record

A layout is given once, by the names of the fields in their order, and serves everyone who has to
agree on it: an encoder writes `layoutBytes`, a decoder reads the pieces with cursors, and a
dissector looks at fixed offsets.  `holdsAt_layoutBytes` turns what was written into what stands
where, and `HoldsAt.append` walks through the pieces, so that an offset in the dissector is compared
with the sum of the widths before it and not with another table of offsets.

A flag takes no bytes of its own.  It names a bit of the number that precedes it, which is how a
dissector presents it.
-/

namespace Rust

universe u

/-- A part of a record, with the name `F` of the field it belongs to.  Reserved bytes have no name:
they are written as zeros and not looked at. -/
inductive Piece (F : Type u) where
  /-- A big-endian number. -/
  | number (name : F) (width value : ℕ) (fits : value < 256 ^ width)
  /-- A bit of the `width` bytes just before; it has no bytes of its own. -/
  | flag (name : F) (width : ℕ) (set : Bool)
  /-- A block of bytes. -/
  | block (name : F) (bytes : Bytes)
  /-- Zero bytes without a meaning. -/
  | reserved (width : ℕ)

namespace Piece

variable {F : Type u}

/-- A `u8`. -/
def u8 (name : F) (v : UInt8) : Piece F := .number name 1 v.toNat v.toNat_lt

/-- A `u16`. -/
def u16 (name : F) (v : UInt16) : Piece F := .number name 2 v.toNat v.toNat_lt

/-- A `u32`. -/
def u32 (name : F) (v : UInt32) : Piece F := .number name 4 v.toNat v.toNat_lt

/-- A `u64`. -/
def u64 (name : F) (v : UInt64) : Piece F := .number name 8 v.toNat v.toNat_lt

/-- How many bytes the piece takes.  A flag takes none; its bit is part of the number before it. -/
def width : Piece F → ℕ
  | number _ width _ _ => width
  | flag _ _ _ => 0
  | block _ bytes => bytes.length
  | reserved width => width

/-- The bytes of the piece. -/
def bytes : Piece F → Bytes
  | number _ width value _ => toBE width value
  | flag _ _ _ => []
  | block _ bytes => bytes
  | reserved width => putZeros width

@[simp] theorem length_bytes (s : Piece F) : s.bytes.length = s.width := by
  cases s with
  | number _ _ _ _ => exact length_toBE _ _
  | flag _ _ _ => rfl
  | block _ _ => rfl
  | reserved _ => exact length_putZeros _

@[simp] theorem bytes_u8 (name : F) (v : UInt8) : (u8 name v).bytes = putU8 v := by
  simp [u8, bytes, putU8, toBE]

@[simp] theorem bytes_u16 (name : F) (v : UInt16) : (u16 name v).bytes = putU16 v := rfl

@[simp] theorem bytes_u32 (name : F) (v : UInt32) : (u32 name v).bytes = putU32 v := rfl

@[simp] theorem bytes_u64 (name : F) (v : UInt64) : (u64 name v).bytes = putU64 v := rfl

@[simp] theorem bytes_flag (name : F) (width : ℕ) (set : Bool) : (flag name width set).bytes = [] :=
  rfl

@[simp] theorem bytes_block (name : F) (b : Bytes) : (block name b).bytes = b := rfl

@[simp] theorem bytes_reserved (width : ℕ) :
    (reserved width : Piece F).bytes = putZeros width := rfl

theorem putU16_zero : putU16 0 = putZeros 2 := rfl

theorem putU32_zero : putU32 0 = putZeros 4 := rfl

end Piece

section Layout

variable {F : Type u}

/-- The bytes of the pieces, one after the other. -/
def layoutBytes (pieces : List (Piece F)) : Bytes := pieces.flatMap Piece.bytes

@[simp] theorem layoutBytes_nil : layoutBytes ([] : List (Piece F)) = [] := rfl

@[simp] theorem layoutBytes_cons (s : Piece F) (rest : List (Piece F)) :
    layoutBytes (s :: rest) = s.bytes ++ layoutBytes rest := rfl

@[simp] theorem layoutBytes_append (front back : List (Piece F)) :
    layoutBytes (front ++ back) = layoutBytes front ++ layoutBytes back := List.flatMap_append

/-- The pieces with their offsets, the first one at offset `o`.  Each offset is the one before plus
the width there. -/
def placed : ℕ → List (Piece F) → List (ℕ × Piece F)
  | _, [] => []
  | o, s :: rest => (o, s) :: placed (o + s.width) rest

theorem placed_append (o : ℕ) (front back : List (Piece F)) :
    placed o (front ++ back) = placed o front ++ placed (o + (layoutBytes front).length) back := by
  induction front generalizing o with
  | nil => rfl
  | cons s front ih =>
      rw [List.cons_append, placed, placed, ih, layoutBytes_cons, List.length_append,
        Piece.length_bytes, Nat.add_assoc, List.cons_append]

/-- The bytes of the piece stand at offset `o` of `b`. -/
def Piece.StandsAt (b : Bytes) (o : ℕ) (s : Piece F) : Prop :=
  o + s.width ≤ b.length ∧ (b.drop o).take s.width = s.bytes

/-- The bytes of the pieces stand one after the other from offset `o` on.  Nothing is said of what
comes before or behind. -/
def HoldsAt (b : Bytes) : ℕ → List (Piece F) → Prop
  | _, [] => True
  | o, s :: rest => s.StandsAt b o ∧ HoldsAt b (o + s.width) rest

/-- A byte string holds a layout that was written into it, at the offset where it was written. -/
theorem holdsAt_layoutBytes (front back : Bytes) (pieces : List (Piece F)) :
    HoldsAt (front ++ (layoutBytes pieces ++ back)) front.length pieces := by
  induction pieces generalizing front with
  | nil => exact trivial
  | cons s rest ih =>
      refine ⟨⟨?_, ?_⟩, ?_⟩
      · rw [layoutBytes_cons, List.length_append, List.length_append, List.length_append,
          Piece.length_bytes]
        omega
      · rw [List.drop_left, layoutBytes_cons, List.append_assoc,
          List.take_left' (Piece.length_bytes s)]
      · have later := ih (front ++ s.bytes)
        rwa [List.length_append, Piece.length_bytes, List.append_assoc, ← List.append_assoc s.bytes,
          ← layoutBytes_cons] at later

theorem HoldsAt.append {b : Bytes} {o : ℕ} {front back : List (Piece F)}
    (holds : HoldsAt b o (front ++ back)) :
    HoldsAt b o front ∧ HoldsAt b (o + (layoutBytes front).length) back := by
  induction front generalizing o with
  | nil => exact ⟨trivial, holds⟩
  | cons s front ih =>
      obtain ⟨inFront, behind⟩ := ih holds.2
      refine ⟨⟨holds.1, inFront⟩, ?_⟩
      rwa [layoutBytes_cons, List.length_append, Piece.length_bytes, ← Nat.add_assoc]

end Layout

end Rust
