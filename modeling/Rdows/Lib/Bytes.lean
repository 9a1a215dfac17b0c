import Mathlib.Tactic.Ring
import Rdows.Lib.Outcome

/-!
# Byte strings: big-endian numbers, cursors and slices

Bytes are `List UInt8`: lists are what the proofs take apart.  Three groups of operations live here,
each with the lemmas that let a caller forget its definition.

## Numbers

`toBE width n` writes the low `width` bytes of `n`, most significant first, and `ofBE` reads them
back (`ofBE_toBE`).  The `put` functions are `toBE` at the widths of the machine integers, so that
one lemma about `toBE` serves all of them.

## Cursors

A read cursor is a `Method` whose receiver is the unread bytes.  A read past the end is a panic, as
it is for the `bytes` crate's `Buf`; a decoder has to ask `remaining` first.  What is known of a
reader is said by a few predicates:

* `Takes n x`: `x` consumes exactly `n` bytes, cannot fail when they are there, and looks at no
  others;
* `Reads n x`: the first two of these, for readers of which no one asks more;
* `Settles n x`: the first `n` bytes decide between an error and a value, so that checks are covered
  too;
* `Leads n x f`: `x` goes on as the reader `f` behind the first `n` bytes, at an argument that they
  determine.

They compose along binds by adding widths, so the fixed part of a record is safe as soon as its
total width has been checked.

## Slices

`slice` and `copyFromSlice` are indexing by a range and `copy_from_slice`, with their panics;
`splice` is the total function behind the second one.  `getElem?_splice` says byte by byte what it
changes, and the `segment_` lemmas say the same of whole slices, which is the form in which a memory
is read back.
-/

namespace Rust

universe u v w

/-- A string of bytes. -/
abbrev Bytes := List UInt8

/-! ### Big-endian numbers -/

/-- The low `width` bytes of `n`, most significant byte first.  Higher bytes of `n` are dropped, as
a cast to a narrower integer does. -/
def toBE : ℕ → ℕ → Bytes
  | 0, _ => []
  | width + 1, n => UInt8.ofNat (n / 256 ^ width) :: toBE width n

/-- The number that bytes spell, most significant byte first. -/
def ofBE : Bytes → ℕ
  | [] => 0
  | b :: rest => b.toNat * 256 ^ rest.length + ofBE rest

@[simp] theorem length_toBE (width n : ℕ) : (toBE width n).length = width := by
  induction width with
  | zero => rfl
  | succ width ih => simp [toBE, ih]

/-- Bytes spell a number below `256 ^ length`. -/
theorem ofBE_lt (bytes : Bytes) : ofBE bytes < 256 ^ bytes.length := by
  induction bytes with
  | nil => simp [ofBE]
  | cons b rest ih =>
      have hb : b.toNat + 1 ≤ 256 := b.toNat_lt
      calc ofBE (b :: rest) < b.toNat * 256 ^ rest.length + 256 ^ rest.length := by
            simpa [ofBE] using ih
        _ = (b.toNat + 1) * 256 ^ rest.length := by ring
        _ ≤ 256 * 256 ^ rest.length := Nat.mul_le_mul_right _ hb
        _ = 256 ^ (b :: rest).length := by rw [List.length_cons, pow_succ, Nat.mul_comm]

/-- Reading back what was written gives the number, reduced to the width.  With a number that fits,
this is a round trip. -/
theorem ofBE_toBE (width n : ℕ) : ofBE (toBE width n) = n % 256 ^ width := by
  induction width with
  | zero => simp [toBE, ofBE, Nat.mod_one]
  | succ width ih =>
      rw [toBE, ofBE, length_toBE, ih, Nat.mod_pow_succ, UInt8.toNat_ofNat']
      ring

/-- A wide number is its high half followed by its low half. -/
theorem toBE_add (high low n : ℕ) :
    toBE (high + low) n = toBE high (n / 256 ^ low) ++ toBE low n := by
  induction high with
  | zero => rw [Nat.zero_add]; rfl
  | succ high ih =>
      rw [Nat.succ_add, toBE, toBE, ih, List.cons_append, Nat.div_div_eq_div_mul, ← pow_add,
        Nat.add_comm low high]

/-- Only the low bytes are written. -/
theorem toBE_mod {width k : ℕ} (h : width ≤ k) (n : ℕ) :
    toBE width (n % 256 ^ k) = toBE width n := by
  induction width with
  | zero => rfl
  | succ width ih =>
      obtain ⟨j, rfl⟩ := Nat.exists_eq_add_of_le h
      have digit :
          UInt8.ofNat (n / 256 ^ width % 256 ^ (1 + j)) = UInt8.ofNat (n / 256 ^ width) := by
        apply UInt8.toNat_inj.mp
        rw [UInt8.toNat_ofNat', UInt8.toNat_ofNat']
        exact Nat.mod_mod_of_dvd _ (dvd_pow_self 256 (by omega))
      rw [toBE, toBE, ih (by omega), Nat.add_assoc, pow_add, Nat.mod_mul_right_div_self, digit]

/-- `put_u8`. -/
def putU8 (v : UInt8) : Bytes := [v]

/-- `put_u16`. -/
def putU16 (v : UInt16) : Bytes := toBE 2 v.toNat

/-- `put_u32`. -/
def putU32 (v : UInt32) : Bytes := toBE 4 v.toNat

/-- `put_u64`. -/
def putU64 (v : UInt64) : Bytes := toBE 8 v.toNat

/-- `put_bytes(0, n)`. -/
def putZeros (n : ℕ) : Bytes := List.replicate n 0

@[simp] theorem length_putU8 (v : UInt8) : (putU8 v).length = 1 := rfl

@[simp] theorem length_putU16 (v : UInt16) : (putU16 v).length = 2 := length_toBE _ _

@[simp] theorem length_putU32 (v : UInt32) : (putU32 v).length = 4 := length_toBE _ _

@[simp] theorem length_putU64 (v : UInt64) : (putU64 v).length = 8 := length_toBE _ _

@[simp] theorem length_putZeros (n : ℕ) : (putZeros n).length = n := List.length_replicate

/-! ### Cursors -/

/-- A reader: a method on the unread bytes.  The state it leaves is what is still to be read. -/
abbrev Reader (ε : Type u) (α : Type v) := Method Bytes ε α

namespace Reader

variable {ε : Type u} {α β : Type v}

/-- `Buf::remaining`. -/
def remaining : Reader ε ℕ := fun buf => (.ok buf.length, buf)

/-- Read a `width`-byte big-endian number.  The cursor has to hold that many bytes, or the read
panics. -/
def getBE (width : ℕ) : Reader ε ℕ := fun buf =>
  if width ≤ buf.length then (.ok (ofBE (buf.take width)), buf.drop width)
  else (.panic .bufferUnderrun, buf)

/-- `Buf::get_u8`. -/
def getU8 : Reader ε UInt8 := do return UInt8.ofNat (← getBE 1)

/-- `Buf::get_u16`. -/
def getU16 : Reader ε UInt16 := do return UInt16.ofNat (← getBE 2)

/-- `Buf::get_u32`. -/
def getU32 : Reader ε UInt32 := do return UInt32.ofNat (← getBE 4)

/-- `Buf::get_u64`. -/
def getU64 : Reader ε UInt64 := do return UInt64.ofNat (← getBE 8)

/-- `Buf::copy_to_bytes`: hand over the next `n` bytes, with a panic if there are fewer. -/
def copyToBytes (n : ℕ) : Reader ε Bytes := fun buf =>
  if n ≤ buf.length then (.ok (buf.take n), buf.drop n) else (.panic .bufferUnderrun, buf)

/-- `Buf::advance`: skip `n` bytes without looking at them, with a panic if there are fewer. -/
def advance (n : ℕ) : Reader ε PUnit := fun buf =>
  if n ≤ buf.length then (.ok ⟨⟩, buf.drop n) else (.panic .bufferUnderrun, buf)

@[simp] theorem run_remaining (buf : Bytes) :
    (remaining : Reader ε ℕ).run buf = (.ok buf.length, buf) := rfl

/-- Reading a number right after it was written gives it back. -/
theorem run_getBE_append (width n : ℕ) (rest : Bytes) (h : n < 256 ^ width) :
    (getBE width : Reader ε ℕ).run (toBE width n ++ rest) = (.ok n, rest) := by
  have htake : (toBE width n ++ rest).take width = toBE width n :=
    List.take_left' (length_toBE width n)
  have hdrop : (toBE width n ++ rest).drop width = rest :=
    List.drop_left' (length_toBE width n)
  have hle : width ≤ (toBE width n ++ rest).length := by simp
  rw [Method.run, getBE, if_pos hle, htake, hdrop, ofBE_toBE, Nat.mod_eq_of_lt h]

@[simp] theorem run_getU8_append (v : UInt8) (rest : Bytes) :
    (getU8 : Reader ε UInt8).run (putU8 v ++ rest) = (.ok v, rest) := by
  have hv : v.toNat < 256 ^ 1 := v.toNat_lt
  have hput : putU8 v = toBE 1 v.toNat := by simp [putU8, toBE]
  rw [getU8, hput, Method.run_bind_of_ok (run_getBE_append 1 _ rest hv)]
  simp

@[simp] theorem run_getU16_append (v : UInt16) (rest : Bytes) :
    (getU16 : Reader ε UInt16).run (putU16 v ++ rest) = (.ok v, rest) := by
  rw [getU16, putU16, Method.run_bind_of_ok (run_getBE_append 2 _ rest v.toNat_lt)]
  simp

@[simp] theorem run_getU32_append (v : UInt32) (rest : Bytes) :
    (getU32 : Reader ε UInt32).run (putU32 v ++ rest) = (.ok v, rest) := by
  rw [getU32, putU32, Method.run_bind_of_ok (run_getBE_append 4 _ rest v.toNat_lt)]
  simp

@[simp] theorem run_getU64_append (v : UInt64) (rest : Bytes) :
    (getU64 : Reader ε UInt64).run (putU64 v ++ rest) = (.ok v, rest) := by
  rw [getU64, putU64, Method.run_bind_of_ok (run_getBE_append 8 _ rest v.toNat_lt)]
  simp

@[simp] theorem run_copyToBytes_append (data rest : Bytes) :
    (copyToBytes data.length : Reader ε Bytes).run (data ++ rest) = (.ok data, rest) := by
  simp [copyToBytes, Method.run]

@[simp] theorem run_advance_append (n : ℕ) (rest : Bytes) :
    (advance n : Reader ε PUnit).run (putZeros n ++ rest) = (.ok ⟨⟩, rest) := by
  simp [advance, Method.run, putZeros]

/-- `x` reads exactly `n` bytes, and cannot fail when they are there. -/
def Reads (n : ℕ) (x : Reader ε α) : Prop :=
  ∀ buf : Bytes, n ≤ buf.length → ∃ a, x.run buf = (.ok a, buf.drop n)

/-- `x` takes the first `n` bytes: it cannot fail when they are there, and it looks at no others.
What it returns is therefore a function of those bytes, and what follows them is left for the next
reader. -/
def Takes (n : ℕ) (x : Reader ε α) : Prop :=
  ∀ front : Bytes, front.length = n → ∃ a, ∀ rest, x.run (front ++ rest) = (.ok a, rest)

/-- A byte string of at least `n` bytes, cut behind them. -/
theorem exists_append_of_le {n : ℕ} {buf : Bytes} (h : n ≤ buf.length) :
    ∃ front rest : Bytes, front.length = n ∧ front ++ rest = buf :=
  ⟨buf.take n, buf.drop n, List.length_take_of_le h, List.take_append_drop n buf⟩

theorem Takes.reads {n : ℕ} {x : Reader ε α} (takes : Takes n x) : Reads n x := by
  intro buf h
  obtain ⟨front, rest, full, rfl⟩ := exists_append_of_le h
  obtain ⟨a, run⟩ := takes front full
  exact ⟨a, by rw [run, List.drop_left' full]⟩

/-- Cutting off what it does not look at changes nothing.  This is why a dissector that is given a
longer buffer than the decoder still agrees with it. -/
theorem Takes.run_take {k n : ℕ} {x : Reader ε α} (takes : Takes n x) (short : n ≤ k) {buf : Bytes}
    (inside : k ≤ buf.length) : (x.run buf).1 = (x.run (buf.take k)).1 := by
  obtain ⟨front, rest, full, rfl⟩ := exists_append_of_le (Nat.le_trans short inside)
  obtain ⟨a, run⟩ := takes front full
  rw [run, List.take_append, List.take_of_length_le (by omega), run]

theorem Takes.pure (a : α) : Takes 0 (pure a : Reader ε α) := by
  intro front empty
  obtain rfl := List.eq_nil_of_length_eq_zero empty
  exact ⟨a, fun rest => rfl⟩

/-- A reader that goes on with what comes behind the bytes of the first one. -/
theorem Takes.run_bind {m n : ℕ} {γ : Type v} {x : Reader ε γ} (takes : Takes m x)
    {front : Bytes} (full : front.length = m + n) :
    ∃ a later, later.length = n ∧ ∀ (f : γ → Reader ε β) (rest : Bytes),
      (x >>= f).run (front ++ rest) = (f a).run (later ++ rest) := by
  obtain ⟨first, later, short, rfl⟩ := exists_append_of_le (show m ≤ front.length by omega)
  obtain ⟨a, run⟩ := takes first short
  refine ⟨a, later, by rw [List.length_append] at full; omega, fun f rest => ?_⟩
  rw [List.append_assoc, Method.run_bind_of_ok (run _)]

/-- The widths of two readers in sequence add up. -/
theorem Takes.bind {m n : ℕ} {γ : Type v} {x : Reader ε γ} {f : γ → Reader ε β}
    (hx : Takes m x) (hf : ∀ a, Takes n (f a)) : Takes (m + n) (x >>= f) := by
  intro front full
  obtain ⟨a, later, short, run⟩ := hx.run_bind full
  obtain ⟨b, last⟩ := hf a later short
  exact ⟨b, fun rest => (run f rest).trans (last rest)⟩

theorem takes_getBE (width : ℕ) : Takes width (getBE width : Reader ε ℕ) := by
  intro front full
  refine ⟨ofBE front, fun rest => ?_⟩
  rw [Method.run, getBE, if_pos (by rw [List.length_append]; omega), List.take_left' full,
    List.drop_left' full]

theorem takes_getU8 : Takes 1 (getU8 : Reader ε UInt8) :=
  (takes_getBE 1).bind fun _ => Takes.pure _

theorem takes_getU16 : Takes 2 (getU16 : Reader ε UInt16) :=
  (takes_getBE 2).bind fun _ => Takes.pure _

theorem takes_getU32 : Takes 4 (getU32 : Reader ε UInt32) :=
  (takes_getBE 4).bind fun _ => Takes.pure _

theorem takes_getU64 : Takes 8 (getU64 : Reader ε UInt64) :=
  (takes_getBE 8).bind fun _ => Takes.pure _

theorem takes_copyToBytes (n : ℕ) : Takes n (copyToBytes n : Reader ε Bytes) := by
  rintro front rfl
  exact ⟨front, fun rest => run_copyToBytes_append front rest⟩

theorem takes_advance (n : ℕ) : Takes n (advance n : Reader ε PUnit) := by
  intro front full
  refine ⟨⟨⟩, fun rest => ?_⟩
  rw [Method.run, advance, if_pos (by rw [List.length_append]; omega), List.drop_left' full]

/-- `x` takes the first `n` bytes and goes on as `f` behind them, at some argument that they
determine.  It is how the part of a decoder behind a fixed header is reached. -/
def Leads {γ : Type v} (n : ℕ) (x : Reader ε β) (f : γ → Reader ε β) : Prop :=
  ∀ front : Bytes, front.length = n → ∃ a, ∀ rest, x.run (front ++ rest) = (f a).run rest

theorem Leads.here {γ : Type v} (f : γ → Reader ε β) (a : γ) : Leads 0 (f a) f := by
  intro front empty
  obtain rfl := List.eq_nil_of_length_eq_zero empty
  exact ⟨a, fun rest => rfl⟩

theorem Takes.leads {m n : ℕ} {γ δ : Type v} {x : Reader ε γ} {g : γ → Reader ε β}
    {f : δ → Reader ε β} (takes : Takes m x) (leads : ∀ a, Leads n (g a) f) :
    Leads (m + n) (x >>= g) f := by
  intro front full
  obtain ⟨a, later, short, run⟩ := takes.run_bind full
  obtain ⟨b, last⟩ := leads a later short
  exact ⟨b, fun rest => (run g rest).trans (last rest)⟩

/-- The first `n` bytes settle whether `x` fails and what it returns.  Unlike `Takes` it allows an
error, so it also covers the checks of a decoder. -/
def Settles (n : ℕ) (x : Reader ε α) : Prop :=
  ∀ front : Bytes, front.length = n →
    (∃ e, ∀ rest, (x.run (front ++ rest)).1 = .err e) ∨
      ∃ a, ∀ rest, x.run (front ++ rest) = (.ok a, rest)

theorem Takes.settles {n : ℕ} {x : Reader ε α} (takes : Takes n x) : Settles n x :=
  fun front full => .inr (takes front full)

theorem settles_throw (n : ℕ) (e : ε) : Settles n (Method.throw e : Reader ε α) :=
  fun _ _ => .inl ⟨e, fun _ => rfl⟩

theorem Takes.settles_bind {m n : ℕ} {γ : Type v} {x : Reader ε γ} {f : γ → Reader ε β}
    (takes : Takes m x) (settles : ∀ a, Settles n (f a)) : Settles (m + n) (x >>= f) := by
  intro front full
  obtain ⟨a, later, short, run⟩ := takes.run_bind full
  refine (settles a later short).imp ?_ ?_
  · rintro ⟨e, fails⟩
    exact ⟨e, fun rest => by rw [run f rest, fails rest]⟩
  · rintro ⟨b, last⟩
    exact ⟨b, fun rest => (run f rest).trans (last rest)⟩

/-- A reader of known width does not panic when the bytes are there. -/
theorem Reads.not_isPanic {n : ℕ} {x : Reader ε α} (h : Reads n x) {buf : Bytes}
    (hlen : n ≤ buf.length) : ¬ (x.run buf).1.IsPanic := by
  obtain ⟨a, ha⟩ := h buf hlen
  simp [ha]

theorem run_getBE_of_le {width : ℕ} {buf : Bytes} (h : width ≤ buf.length) :
    (getBE width : Reader ε ℕ).run buf = (.ok (ofBE (buf.take width)), buf.drop width) := by
  rw [Method.run, getBE, if_pos h]

theorem run_getU8_of_le {buf : Bytes} (h : 1 ≤ buf.length) :
    (getU8 : Reader ε UInt8).run buf = (.ok (UInt8.ofNat (ofBE (buf.take 1))), buf.drop 1) := by
  rw [getU8, Method.run_bind_of_ok (run_getBE_of_le h), Method.run_pure]

theorem run_getU16_of_le {buf : Bytes} (h : 2 ≤ buf.length) :
    (getU16 : Reader ε UInt16).run buf
      = (.ok (UInt16.ofNat (ofBE (buf.take 2))), buf.drop 2) := by
  rw [getU16, Method.run_bind_of_ok (run_getBE_of_le h), Method.run_pure]

theorem run_getU32_of_le {buf : Bytes} (h : 4 ≤ buf.length) :
    (getU32 : Reader ε UInt32).run buf
      = (.ok (UInt32.ofNat (ofBE (buf.take 4))), buf.drop 4) := by
  rw [getU32, Method.run_bind_of_ok (run_getBE_of_le h), Method.run_pure]

theorem run_getU64_of_le {buf : Bytes} (h : 8 ≤ buf.length) :
    (getU64 : Reader ε UInt64).run buf
      = (.ok (UInt64.ofNat (ofBE (buf.take 8))), buf.drop 8) := by
  rw [getU64, Method.run_bind_of_ok (run_getBE_of_le h), Method.run_pure]

end Reader

/-! ### Slices and buffers -/

section Slices

variable {ε : Type u}

/-- `&b[start..stop]`, with a panic if the range is reversed or leaves the bytes. -/
def slice (b : Bytes) (start stop : ℕ) : Outcome ε Bytes :=
  if start ≤ stop ∧ stop ≤ b.length then .ok ((b.drop start).take (stop - start))
  else .panic .sliceOutOfRange

/-- `b[i]`. -/
def byteAt (b : Bytes) (i : ℕ) : Outcome ε UInt8 := .orPanic .sliceOutOfRange b[i]?

/-- The bytes `b` with those from `start` on replaced by `src`.  It is only used where `src` fits;
the length is then unchanged. -/
def splice (b : Bytes) (start : ℕ) (src : Bytes) : Bytes :=
  b.take start ++ (src ++ b.drop (start + src.length))

/-- `b[start..stop].copy_from_slice(src)`: the range has to lie within `b` and to be as long as
`src`, or the call panics. -/
def copyFromSlice (b : Bytes) (start stop : ℕ) (src : Bytes) : Outcome ε Bytes :=
  if start ≤ stop ∧ stop ≤ b.length ∧ src.length = stop - start then .ok (splice b start src)
  else .panic .sliceOutOfRange

/-- `vec![0u8; n]`, which panics with a capacity overflow beyond `isize::MAX` bytes. -/
def zeroed (n : ℕ) : Outcome ε Bytes :=
  if n ≤ isizeMax then .ok (List.replicate n 0) else .panic .capacityOverflow

/-- `Vec::with_capacity(count)` for elements of `size` bytes.  The vector itself is empty; what
matters is that the request can panic. -/
def withCapacity (count size : ℕ) : Outcome ε PUnit :=
  if count * size ≤ isizeMax then .ok ⟨⟩ else .panic .capacityOverflow

theorem slice_eq_ok {b : Bytes} {start stop : ℕ} (h₁ : start ≤ stop) (h₂ : stop ≤ b.length) :
    (slice b start stop : Outcome ε Bytes) = .ok ((b.drop start).take (stop - start)) :=
  if_pos ⟨h₁, h₂⟩

theorem copyFromSlice_eq_ok {b src : Bytes} {start : ℕ} (h : start + src.length ≤ b.length) :
    (copyFromSlice b start (start + src.length) src : Outcome ε Bytes)
      = .ok (splice b start src) :=
  if_pos ⟨by omega, h, by omega⟩

@[simp] theorem length_splice {b src : Bytes} {start : ℕ} (h : start + src.length ≤ b.length) :
    (splice b start src).length = b.length := by
  simp only [splice, List.length_append, List.length_take, List.length_drop]
  omega

/-- A splice changes exactly the bytes of its range: inside it the new bytes are read, outside the
old ones. -/
theorem getElem?_splice {b src : Bytes} {start : ℕ} (h : start + src.length ≤ b.length) (i : ℕ) :
    (splice b start src)[i]? =
      if start ≤ i ∧ i < start + src.length then src[i - start]? else b[i]? := by
  have hstart : (b.take start).length = start := by rw [List.length_take]; omega
  rw [splice]
  by_cases before : i < start
  · rw [List.getElem?_append_left (by omega), List.getElem?_take_of_lt before,
      if_neg (by omega)]
  · rw [List.getElem?_append_right (by omega), hstart]
    by_cases inside : i < start + src.length
    · rw [List.getElem?_append_left (by omega), if_pos ⟨by omega, inside⟩]
    · rw [List.getElem?_append_right (by omega), List.getElem?_drop, if_neg (by omega)]
      congr 1
      omega

/-- The bytes of a slice. -/
theorem getElem?_drop_take (b : Bytes) (start len i : ℕ) :
    ((b.drop start).take len)[i]? = if i < len then b[start + i]? else none := by
  by_cases h : i < len
  · rw [List.getElem?_take_of_lt h, List.getElem?_drop, if_pos h]
  · rw [List.getElem?_eq_none (by rw [List.length_take]; omega), if_neg h]

/-- A slice of exactly the spliced range is what was spliced in: a write is read back. -/
theorem segment_splice_self {b src : Bytes} {start : ℕ} (h : start + src.length ≤ b.length) :
    ((splice b start src).drop start).take src.length = src := by
  refine List.ext_getElem? fun i => ?_
  rw [getElem?_drop_take, getElem?_splice h]
  by_cases hi : i < src.length
  · rw [if_pos hi, if_pos ⟨by omega, by omega⟩, Nat.add_sub_cancel_left]
  · rw [if_neg hi, List.getElem?_eq_none (by omega)]

/-- A slice that does not meet the spliced range is unchanged: the frame condition of a write. -/
theorem segment_splice_of_disjoint {b src : Bytes} {start pos len : ℕ}
    (h : start + src.length ≤ b.length) (apart : pos + len ≤ start ∨ start + src.length ≤ pos) :
    ((splice b start src).drop pos).take len = (b.drop pos).take len := by
  refine List.ext_getElem? fun i => ?_
  rw [getElem?_drop_take, getElem?_drop_take, getElem?_splice h]
  by_cases hi : i < len
  · rw [if_pos hi, if_pos hi, if_neg (by omega)]
  · rw [if_neg hi, if_neg hi]

/-- Copying to the end of the part of a zeroed buffer that is already filled.  This is the step of a
loop that gathers pieces into one buffer. -/
theorem copyFromSlice_zeros {front src : Bytes} {start stop n : ℕ} (filled : front.length = start)
    (len : start + src.length = stop) (fits : src.length ≤ n) :
    (copyFromSlice (front ++ List.replicate n 0) start stop src : Outcome ε Bytes)
      = .ok (front ++ src ++ List.replicate (n - src.length) 0) := by
  subst filled len
  rw [copyFromSlice_eq_ok (by rw [List.length_append, List.length_replicate]; omega), splice,
    List.take_left, List.drop_length_add_append, List.drop_replicate, List.append_assoc]

/-- A copy that fills a fresh buffer. -/
theorem copyFromSlice_replicate {src : Bytes} {n : ℕ} (whole : src.length = n) :
    (copyFromSlice (List.replicate n 0) 0 n src : Outcome ε Bytes) = .ok src := by
  have filled := @copyFromSlice_zeros ε [] src 0 src.length n rfl (Nat.zero_add _) whole.le
  rw [whole, Nat.sub_self, List.replicate_zero, List.append_nil, List.nil_append,
    List.nil_append] at filled
  exact filled

/-- A slice of exactly the middle part. -/
theorem segment_append {front mid rest : Bytes} {start len : ℕ} (before : front.length = start)
    (size : mid.length = len) : ((front ++ (mid ++ rest)).drop start).take len = mid := by
  rw [List.drop_left' before, List.take_left' size]

end Slices

end Rust
