/-!
# Decimal integers in text

An integer is written as an optional sign and at least one digit, with nothing
around or between.  Only integers within given bounds are read.
-/

namespace MaskedList
namespace Text

/-- The number that a list of digits writes; anything else is refused, and so
is no digit at all. -/
def readDigits (cs : List Char) : Option Nat :=
  if cs = [] then none
  else if cs.all Char.isDigit then
    some (cs.foldl (fun n c => n * 10 + (c.toNat - '0'.toNat)) 0)
  else none

/-- The integer that the characters write, whatever its size. -/
def readSigned : List Char → Option Int
  | '-' :: cs => (readDigits cs).map fun n => -(n : Int)
  | '+' :: cs => (readDigits cs).map Int.ofNat
  | cs => (readDigits cs).map Int.ofNat

/-- The integer that the characters write, if it is at least `-bound` and below
`bound`. -/
def readInt (bound : Nat) (cs : List Char) : Option Int :=
  (readSigned cs).filter fun n => -(bound : Int) ≤ n && n < bound

/-- The number that the characters write, with or without a plus sign, if it is
below `bound`. -/
def readNat (bound : Nat) : List Char → Option Nat
  | '+' :: cs => (readDigits cs).filter (· < bound)
  | cs => (readDigits cs).filter (· < bound)

end Text
end MaskedList
