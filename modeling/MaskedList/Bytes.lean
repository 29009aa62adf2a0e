/-!
# Bytes, big-endian numbers and UTF-8

Everything that travels between a client and a store is a list of bytes.
Numbers go with the most significant byte first in a fixed width, texts as
their UTF-8.  The laws below say that a number is read back from its own bytes
and that the bytes of a number are the only ones of their width that name it.
-/

namespace MaskedList

/-- A sequence of bytes, first byte first. -/
abbrev Bytes := List UInt8

namespace Bytes

/-- How many numbers `width` bytes can write. -/
def bound : (width : Nat) → Nat
  | 0 => 1
  | width + 1 => bound width * 256

/-- The `width` low bytes of `n`, most significant byte first. -/
def ofNat : (width : Nat) → (n : Nat) → Bytes
  | 0, _ => []
  | width + 1, n => UInt8.ofNat (n / bound width) :: ofNat width n

/-- The number whose base-256 digits are the bytes, most significant first. -/
def toNat (bytes : Bytes) : Nat :=
  bytes.foldl (fun n byte => n * 256 + byte.toNat) 0

theorem bound_pos (width : Nat) : 0 < bound width := by
  induction width with
  | zero => exact Nat.one_pos
  | succ width ih => exact Nat.mul_pos ih (by decide)

@[simp]
theorem length_ofNat (width n : Nat) : (ofNat width n).length = width := by
  induction width with
  | zero => rfl
  | succ width ih => simp [ofNat, ih]

/-- Digits in front of others count for a factor of 256 more each. -/
theorem foldl_digits (bytes : Bytes) (start : Nat) :
    bytes.foldl (fun n byte => n * 256 + byte.toNat) start =
      start * bound bytes.length + bytes.toNat := by
  induction bytes generalizing start with
  | nil => simp [toNat, bound]
  | cons byte rest ih =>
    simp only [toNat, List.foldl_cons, List.length_cons, bound]
    rw [ih, ih (0 * 256 + byte.toNat)]
    rw [Nat.add_mul, Nat.zero_mul, Nat.zero_add, Nat.mul_assoc,
      Nat.mul_comm 256 (bound rest.length), Nat.add_assoc]

@[simp]
theorem toNat_nil : toNat [] = 0 := rfl

theorem toNat_cons (byte : UInt8) (rest : Bytes) :
    toNat (byte :: rest) = byte.toNat * bound rest.length + toNat rest := by
  have h := foldl_digits rest (0 * 256 + byte.toNat)
  simpa [toNat] using h

/-- Bytes of a given width name a number below that width's bound. -/
theorem toNat_lt (bytes : Bytes) : bytes.toNat < bound bytes.length := by
  induction bytes with
  | nil => simp [bound]
  | cons byte rest ih =>
    rw [toNat_cons, List.length_cons, bound]
    have hbyte : byte.toNat + 1 ≤ 256 := byte.toNat_lt
    have hmul := Nat.mul_le_mul_right (bound rest.length) hbyte
    rw [Nat.add_mul, Nat.one_mul] at hmul
    rw [Nat.mul_comm (bound rest.length) 256]
    omega

/-- Writing keeps the number modulo the width's bound. -/
theorem toNat_ofNat (width n : Nat) : toNat (ofNat width n) = n % bound width := by
  induction width with
  | zero => simp [ofNat, bound, Nat.mod_one]
  | succ width ih =>
    rw [ofNat, toNat_cons, ih, length_ofNat, UInt8.toNat_ofNat', bound, Nat.mod_mul,
      Nat.add_comm, Nat.mul_comm (bound width)]

/-- Reading a fixed width and writing it again gives the same bytes. -/
theorem ofNat_toNat (bytes : Bytes) : ofNat bytes.length bytes.toNat = bytes := by
  have hlow : ∀ (low : Bytes) (high : Nat),
      ofNat low.length (high * bound low.length + toNat low) = low := by
    intro low
    induction low with
    | nil => intro high; rfl
    | cons byte tail ih =>
      intro high
      rw [List.length_cons, ofNat, toNat_cons, bound]
      have hsplit : high * (bound tail.length * 256) +
          (byte.toNat * bound tail.length + toNat tail) =
          (high * 256 + byte.toNat) * bound tail.length + toNat tail := by
        rw [Nat.add_mul, Nat.mul_assoc, Nat.mul_comm 256 (bound tail.length),
          Nat.add_assoc]
      have hdigit : ((high * 256 + byte.toNat) * bound tail.length + toNat tail) /
          bound tail.length = high * 256 + byte.toNat := by
        rw [Nat.mul_comm, Nat.mul_add_div (bound_pos tail.length),
          Nat.div_eq_of_lt (toNat_lt tail), Nat.add_zero]
      rw [hsplit, hdigit, ih]
      congr 1
      apply UInt8.toNat_inj.mp
      rw [UInt8.toNat_ofNat']
      have hbyte := byte.toNat_lt
      omega
  simpa using hlow bytes 0

/-- The UTF-8 of a text. -/
def ofText (text : String) : Bytes :=
  text.toUTF8.data.toList

/-- The text that the bytes are the UTF-8 of, if they are valid UTF-8. -/
def toText? (bytes : Bytes) : Option String :=
  String.fromUTF8? bytes.toByteArray

/-- A text is read back from its own UTF-8. -/
@[simp]
theorem toText?_ofText (text : String) : (ofText text).toText? = some text := by
  have hbytes : (ofText text).toByteArray = text.toByteArray := by
    apply ByteArray.ext
    simp [ofText, List.data_toByteArray]
  rw [toText?, String.fromUTF8?, hbytes, dif_pos text.isValidUTF8]
  rfl

/-- Valid UTF-8 has no other spelling of the text it names. -/
theorem ofText_of_toText? {bytes : Bytes} {text : String}
    (h : bytes.toText? = some text) : ofText text = bytes := by
  unfold toText? String.fromUTF8? at h
  split at h
  · cases h
    simp [ofText, String.fromUTF8, List.data_toByteArray]
  · cases h

/-- One byte in two lower-case hexadecimal digits. -/
def hex (byte : UInt8) : String :=
  let digit (n : Nat) : Char := Nat.digitChar (n % 16)
  String.ofList [digit (byte.toNat / 16), digit byte.toNat]

end Bytes

end MaskedList
