import Mathlib.Data.Nat.Digits.Defs
import Rdows.Lib.Bytes

/-!
# Lossy UTF-8 decoding

`String::from_utf8_lossy` decodes a byte string, putting U+FFFD for every maximal ill-formed
subpart.  A well-formed character is recognised by the decoder of Lean's own `String`, whose values
are UTF-8 byte arrays like Rust's; `invalidLength` says how many bytes the replacement character
stands for.

## What is proved

`fromUtf8Lossy_utf8Bytes` is what decoders need: on the bytes of a string the decoding is the
identity.  The converse direction fails, since different ill-formed byte strings are decoded alike;
what is left of it is that nothing but the empty byte string is decoded to the empty text
(`fromUtf8Lossy_eq_empty_iff`), so a field that was there does not vanish.

The rest bounds the number of bytes of a text that is put together (`utf8Bytes_append`,
`length_utf8Bytes_repr_le`).  A frame carries its texts with a length field of fixed width, and a
text with numbers in it fits because the numbers do.
-/

namespace Rust

/-- `str::as_bytes`: the UTF-8 encoding of the characters, one after the other. -/
def utf8Bytes (s : String) : Bytes := s.toByteArray.data.toList

/-- A UTF-8 continuation byte, `10xxxxxx`: it never begins a character. -/
def isContinuation (b : UInt8) : Bool := 0x80 ≤ b && b ≤ 0xBF

/-- The first two bytes of a three-byte character.  Overlong forms and surrogates are excluded by
the range of the second byte. -/
def threeByteLead (b₀ b₁ : UInt8) : Bool :=
  (b₀ == 0xE0 && 0xA0 ≤ b₁ && b₁ ≤ 0xBF) ||
  (0xE1 ≤ b₀ && b₀ ≤ 0xEC && isContinuation b₁) ||
  (b₀ == 0xED && 0x80 ≤ b₁ && b₁ ≤ 0x9F) ||
  (0xEE ≤ b₀ && b₀ ≤ 0xEF && isContinuation b₁)

/-- The first two bytes of a four-byte character.  Overlong forms and values beyond U+10FFFF are
excluded by the range of the second byte. -/
def fourByteLead (b₀ b₁ : UInt8) : Bool :=
  (b₀ == 0xF0 && 0x90 ≤ b₁ && b₁ ≤ 0xBF) ||
  (0xF1 ≤ b₀ && b₀ ≤ 0xF3 && isContinuation b₁) ||
  (b₀ == 0xF4 && 0x80 ≤ b₁ && b₁ ≤ 0x8F)

/-- The length of the ill-formed subpart at the head of bytes that do not start
with a character: the longest proper beginning of one, and at least one byte. -/
def invalidLength : Bytes → ℕ
  | b₀ :: b₁ :: rest =>
      if threeByteLead b₀ b₁ then 2
      else if fourByteLead b₀ b₁ then
        match rest with
        | b₂ :: _ => if isContinuation b₂ then 3 else 2
        | [] => 2
      else 1
  | _ => 1

/-- Decode at most `fuel` characters.  Every character and every replacement takes at least one
byte, so a string of `fuel` bytes has no more. -/
def lossyChars : ℕ → Bytes → List Char
  | 0, _ => []
  | _ + 1, [] => []
  | fuel + 1, b :: rest =>
      match (b :: rest).toByteArray.utf8DecodeChar? 0 with
      | some c => c :: lossyChars fuel ((b :: rest).drop c.utf8Size)
      | none => '�' :: lossyChars fuel ((b :: rest).drop (invalidLength (b :: rest)))

/-- `String::from_utf8_lossy(b).into_owned()`. -/
def fromUtf8Lossy (b : Bytes) : String := String.ofList (lossyChars b.length b)

/-- On the encoding of a list of characters the decoder gives the characters back. -/
theorem lossyChars_flatMap (chars : List Char) :
    ∀ fuel, (chars.flatMap String.utf8EncodeChar).length ≤ fuel →
      lossyChars fuel (chars.flatMap String.utf8EncodeChar) = chars := by
  induction chars with
  | nil => intro fuel _; cases fuel <;> rfl
  | cons c chars ih =>
      intro fuel hfuel
      have hsize : (String.utf8EncodeChar c).length = c.utf8Size := String.length_utf8EncodeChar c
      have hpos : 0 < c.utf8Size := c.utf8Size_pos
      rw [List.flatMap_cons, List.length_append, hsize] at hfuel
      obtain ⟨fuel, rfl⟩ : ∃ k, fuel = k + 1 := ⟨fuel - 1, by omega⟩
      have hdecode : ((c :: chars).flatMap String.utf8EncodeChar).toByteArray.utf8DecodeChar? 0
          = some c := List.utf8DecodeChar?_utf8Encode_cons
      have hdrop : ((c :: chars).flatMap String.utf8EncodeChar).drop c.utf8Size
          = chars.flatMap String.utf8EncodeChar := by
        rw [List.flatMap_cons]
        exact List.drop_left' hsize
      -- the encoding is not empty, so the decoder takes its recursive branch
      cases hbytes : (c :: chars).flatMap String.utf8EncodeChar with
      | nil =>
          have hlen := congrArg List.length hbytes
          rw [List.flatMap_cons, List.length_append, hsize, List.length_nil] at hlen
          omega
      | cons b rest =>
          rw [hbytes] at hdecode hdrop
          rw [lossyChars, hdecode]
          simp only [hdrop]
          rw [ih fuel (by omega)]

/-- The bytes of a string are the encodings of its characters. -/
theorem utf8Bytes_eq_flatMap (s : String) :
    utf8Bytes s = s.toList.flatMap String.utf8EncodeChar := by
  have h := String.utf8Encode_toList (b := s)
  rw [utf8Bytes, ← h, List.utf8Encode]
  simp

/-- **`from_utf8_lossy` is the identity on valid UTF-8**: what was a string is decoded to the same
string, character by character. -/
theorem fromUtf8Lossy_utf8Bytes (s : String) : fromUtf8Lossy (utf8Bytes s) = s := by
  rw [fromUtf8Lossy, utf8Bytes_eq_flatMap, lossyChars_flatMap _ _ le_rfl, String.ofList_toList]

/-- A string is determined by its bytes. -/
theorem utf8Bytes_injective : Function.Injective utf8Bytes :=
  Function.LeftInverse.injective fromUtf8Lossy_utf8Bytes

/-- The empty string is the one with no bytes. -/
theorem utf8Bytes_eq_nil_iff {s : String} : utf8Bytes s = [] ↔ s = "" := by
  constructor
  · intro h
    exact utf8Bytes_injective (h.trans rfl)
  · rintro rfl
    rfl

/-- Decoding loses no text altogether: only no bytes give the empty string, because ill-formed bytes
leave a replacement character. -/
theorem fromUtf8Lossy_eq_empty_iff {b : Bytes} : fromUtf8Lossy b = "" ↔ b = [] := by
  constructor
  · intro h
    have chars : lossyChars b.length b = [] := by
      have := congrArg String.toList h
      rwa [fromUtf8Lossy, String.toList_ofList] at this
    cases b with
    | nil => rfl
    | cons first rest =>
        rw [List.length_cons, lossyChars] at chars
        split at chars <;> cases chars
  · rintro rfl
    rfl

theorem utf8Bytes_append (s t : String) : utf8Bytes (s ++ t) = utf8Bytes s ++ utf8Bytes t := by
  simp [utf8Bytes]

/-- A number below `10 ^ e` is written in at most `e` bytes, one for each decimal digit. -/
theorem length_utf8Bytes_repr_le {n e : ℕ} (digits : 0 < e) (small : n < 10 ^ e) :
    (utf8Bytes n.repr).length ≤ e := by
  have ascii : ∀ c ∈ n.repr.toList, (String.utf8EncodeChar c).length = 1 := by
    intro c mem
    have isDigit : c.isDigit = true :=
      Nat.isDigit_of_mem_toDigits (by decide : 0 < 10) le_rfl (by simpa [Nat.repr] using mem)
    rw [String.length_utf8EncodeChar, Char.utf8Size_eq_one_iff]
    simp only [Char.isDigit, Bool.and_eq_true, decide_eq_true_eq] at isDigit
    exact UInt32.le_trans isDigit.2 (by decide)
  rw [utf8Bytes_eq_flatMap, List.length_flatMap, List.map_congr_left ascii, List.map_const',
    List.sum_replicate_nat, Nat.mul_one, String.length_toList]
  exact Nat.repr_length n e digits small

end Rust
