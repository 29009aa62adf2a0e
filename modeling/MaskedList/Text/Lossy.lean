import MaskedList.Bytes

/-!
# Reading bytes as text, whatever they hold

Stored values are opaque bytes, but they are shown as text.  Valid UTF-8 is
kept; every maximal piece of bytes that starts a character and cannot finish it
is shown as one replacement character.  Main facts: reading a character always
takes at least one byte, and the loop that collects characters only puts new
ones after those it already holds.
-/

namespace MaskedList
namespace Bytes

/-- The character shown for bytes that are not UTF-8. -/
def replacement : Char := '\uFFFD'

/-- A byte that can only stand after the first byte of a character. -/
def isContinuation (byte : UInt8) : Bool :=
  0x80 ≤ byte && byte ≤ 0xBF

/-- Whether `second` may follow `lead` in a character of three bytes.  Shorter
spellings and the halves of surrogate pairs are ruled out here. -/
def isSecondOfThree (lead second : UInt8) : Bool :=
  if lead = 0xE0 then 0xA0 ≤ second && second ≤ 0xBF
  else if lead = 0xED then 0x80 ≤ second && second ≤ 0x9F
  else isContinuation second

/-- Whether `second` may follow `lead` in a character of four bytes.  Shorter
spellings and code points past the last one are ruled out here. -/
def isSecondOfFour (lead second : UInt8) : Bool :=
  if lead = 0xF0 then 0x90 ≤ second && second ≤ 0xBF
  else if lead = 0xF4 then 0x80 ≤ second && second ≤ 0x8F
  else isContinuation second

/-- The six payload bits of a continuation byte below the bits read so far. -/
def addContinuation (bits : Nat) (byte : UInt8) : Nat :=
  bits * 64 + byte.toNat % 64

/-- The character that starts with `lead`, and the bytes after it. -/
def takeChar (lead : UInt8) (rest : Bytes) : Char × Bytes :=
  if lead < 0x80 then (Char.ofNat lead.toNat, rest)
  else if 0xC2 ≤ lead && lead ≤ 0xDF then
    match rest with
    | second :: rest =>
      if isContinuation second then
        (Char.ofNat (addContinuation (lead.toNat % 32) second), rest)
      else (replacement, second :: rest)
    | [] => (replacement, [])
  else if 0xE0 ≤ lead && lead ≤ 0xEF then
    match rest with
    | second :: rest =>
      if isSecondOfThree lead second then
        match rest with
        | third :: rest =>
          if isContinuation third then
            let bits := addContinuation (lead.toNat % 16) second
            (Char.ofNat (addContinuation bits third), rest)
          else (replacement, third :: rest)
        | [] => (replacement, [])
      else (replacement, second :: rest)
    | [] => (replacement, [])
  else if 0xF0 ≤ lead && lead ≤ 0xF4 then
    match rest with
    | second :: rest =>
      if isSecondOfFour lead second then
        match rest with
        | third :: rest =>
          if isContinuation third then
            match rest with
            | fourth :: rest =>
              if isContinuation fourth then
                let bits := addContinuation (lead.toNat % 8) second
                (Char.ofNat (addContinuation (addContinuation bits third) fourth), rest)
              else (replacement, fourth :: rest)
            | [] => (replacement, [])
          else (replacement, third :: rest)
        | [] => (replacement, [])
      else (replacement, second :: rest)
    | [] => (replacement, [])
  else (replacement, rest)

/-- What follows a character is never longer than what followed its first byte. -/
theorem takeChar_length_le (lead : UInt8) (rest : Bytes) :
    (takeChar lead rest).2.length ≤ rest.length := by
  unfold takeChar
  split
  · exact Nat.le_refl _
  · repeat' split
    all_goals simp_all
    all_goals omega

/-- Collects the characters of `bytes` behind those in `shown`, last one first. -/
def lossyChars : (bytes : Bytes) → (shown : List Char) → List Char
  | [], shown => shown
  | lead :: rest, shown =>
    lossyChars (takeChar lead rest).2 ((takeChar lead rest).1 :: shown)
termination_by bytes => bytes.length
decreasing_by
  have := takeChar_length_le lead rest
  simp only [List.length_cons]
  omega

/-- The bytes as text, with a replacement character for each invalid piece. -/
def toTextLossy (bytes : Bytes) : String :=
  String.ofList (lossyChars bytes []).reverse

end Bytes
end MaskedList
