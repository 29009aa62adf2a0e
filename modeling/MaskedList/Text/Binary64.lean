import MaskedList.Text.Integer

/-!
# Decimal fractions in text, rounded to 64-bit floating point

A number is read exactly, as a quotient of two naturals, and then rounded to
the nearest 64-bit floating-point number, ties to the even one.  A rounded
number is held as its place in the order of all such numbers: its magnitude's
bit pattern, negated below zero.  So both zeros have place 0, and numbers
compare as their places do.
-/

namespace MaskedList
namespace Text

/-- What a text means as a 64-bit floating-point number. -/
inductive Binary64 where
  /-- Not a number: it compares with nothing. -/
  | undefined
  /-- The place among the finite numbers and the two infinities. -/
  | place (index : Int)
  deriving DecidableEq, Repr

namespace Binary64

/-- The place of infinity, just past the largest finite number. -/
def infinity : Nat := 0x7FF0000000000000

/-- `numerator / denominator` rounded to a natural, a half going to the even one. -/
def roundDiv (numerator denominator : Nat) : Nat :=
  let floor := numerator / denominator
  let twice := 2 * (numerator % denominator)
  if twice < denominator then floor
  else if denominator < twice then floor + 1
  else floor + floor % 2

/-- The exponent `e` with `2 ^ e ≤ numerator / denominator < 2 ^ (e + 1)`. -/
def binaryExponent (numerator denominator : Nat) : Int :=
  let guess : Int := numerator.log2 - denominator.log2
  let reached :=
    if 0 ≤ guess then denominator <<< guess.toNat ≤ numerator
    else denominator ≤ numerator <<< (-guess).toNat
  if reached then guess else guess - 1

/-- The place of the floating-point number nearest to `numerator / denominator`.

The last kept bit has the weight `2 ^ q`.  Numbers that share `q` are
consecutive multiples of it, and a carry out of the top bit lands on the next
block, so the place is a base for the block plus the rounded multiple. -/
def nearest (numerator denominator : Nat) : Nat :=
  if numerator = 0 then 0
  else
    let q : Int := max (binaryExponent numerator denominator - 52) (-1074)
    let multiple :=
      if 0 ≤ q then roundDiv numerator (denominator <<< q.toNat)
      else roundDiv (numerator <<< (-q).toNat) denominator
    min (((q + 1074).toNat <<< 52) + multiple) infinity

/-- The place of `digits * 10 ^ exponent`, where `digits` has `size` decimal
digits.  Far outside the range of the format the answer is zero or infinity,
whatever the digits are exactly. -/
def ofDecimal (digits size : Nat) (exponent : Int) : Nat :=
  if digits = 0 then 0
  else if 400 < exponent + size then infinity
  else if exponent + size < -400 then 0
  else if 0 ≤ exponent then nearest (digits * Nat.pow 10 exponent.toNat) 1
  else nearest digits (Nat.pow 10 (-exponent).toNat)

/-- The exponent's digits as a number.  Digits after the number has passed
65535 no longer count, which no exponent within the format's range needs. -/
def readExponentDigits (cs : List Char) : Option Nat :=
  if cs = [] then none
  else if cs.all Char.isDigit then
    some (cs.foldl
      (fun n c => if n < 65536 then n * 10 + (c.toNat - '0'.toNat) else n) 0)
  else none

/-- The exponent after the mark `e` or `E`, zero where there is no mark. -/
def readExponent : List Char → Option Int
  | [] => some 0
  | mark :: cs =>
    if mark = 'e' ∨ mark = 'E' then
      match cs with
      | '-' :: cs => (readExponentDigits cs).map fun n => -(n : Int)
      | '+' :: cs => (readExponentDigits cs).map Int.ofNat
      | cs => (readExponentDigits cs).map Int.ofNat
    else none

/-- The place of an unsigned number: digits with at most one point among them,
at least one digit, and perhaps an exponent. -/
def readMagnitude (cs : List Char) : Option Nat :=
  let whole := cs.takeWhile Char.isDigit
  let afterWhole := cs.dropWhile Char.isDigit
  let (fraction, rest) :=
    match afterWhole with
    | '.' :: cs => (cs.takeWhile Char.isDigit, cs.dropWhile Char.isDigit)
    | cs => ([], cs)
  let size := ((whole ++ fraction).dropWhile (· = '0')).length
  match readDigits (whole ++ fraction), readExponent rest with
  | some digits, some exponent =>
    some (ofDecimal digits size (exponent - fraction.length))
  | _, _ => none

/-- A signless text: a word for infinity or for no number, in any case of its
letters, or digits. -/
def readUnsigned (cs : List Char) : Option (Option Nat) :=
  let word := String.ofList (cs.map Char.toLower)
  if word = "inf" ∨ word = "infinity" then some (some infinity)
  else if word = "nan" then some none
  else (readMagnitude cs).map some

/-- The number that a text writes, if it writes one. -/
def read (cs : List Char) : Option Binary64 :=
  let signed (sign : Int) (magnitude : Option Nat) : Binary64 :=
    match magnitude with
    | some index => .place (sign * index)
    | none => .undefined
  match cs with
  | '-' :: cs => (readUnsigned cs).map (signed (-1))
  | '+' :: cs => (readUnsigned cs).map (signed 1)
  | cs => (readUnsigned cs).map (signed 1)

end Binary64
end Text
end MaskedList
