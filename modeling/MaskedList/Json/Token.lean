import MaskedList.Text.Integer

/-!
# Tokens of JSON text

A JSON text is a sequence of tokens with blanks between them.  A string may
escape halves of a surrogate pair; halves that do not form a pair name no
character, and the token of such a string says so.
-/

namespace MaskedList
namespace Json

/-- The smallest pieces of JSON that carry a meaning. -/
inductive Token where
  | openArray
  | closeArray
  | openObject
  | closeObject
  | comma
  | colon
  | null
  | bool (value : Bool)
  /-- A number written with digits only. -/
  | natural (value : Nat)
  /-- A number with a minus sign, a fraction or an exponent. -/
  | number
  /-- A string, or nothing if it escapes half of a pair alone. -/
  | string (text : Option String)
  deriving DecidableEq, Repr

/-- The four blanks that may stand between tokens. -/
def isBlank (c : Char) : Bool :=
  c = ' ' || c = '\t' || c = '\n' || c = '\r'

/-! ## Strings -/

/-- What one step inside a string gives. -/
inductive Piece where
  | char (c : Char)
  /-- A 16-bit unit that was escaped by its number. -/
  | unit (code : Nat)
  deriving DecidableEq, Repr

/-- The value of a hexadecimal digit in either case. -/
def hexDigit? (c : Char) : Option Nat :=
  if '0' ≤ c ∧ c ≤ '9' then some (c.toNat - '0'.toNat)
  else if 'a' ≤ c ∧ c ≤ 'f' then some (c.toNat - 'a'.toNat + 10)
  else if 'A' ≤ c ∧ c ≤ 'F' then some (c.toNat - 'A'.toNat + 10)
  else none

/-- The unit that four hexadecimal digits at the front name. -/
def readUnit : List Char → Option (Piece × List Char)
  | a :: b :: c :: d :: rest => do
    let a ← hexDigit? a
    let b ← hexDigit? b
    let c ← hexDigit? c
    let d ← hexDigit? d
    return (.unit (((a * 16 + b) * 16 + c) * 16 + d), rest)
  | _ => none

/-- The character that a letter stands for after a backslash. -/
def escaped? : Char → Option Char
  | '"' => some '"'
  | '\\' => some '\\'
  | '/' => some '/'
  | 'b' => some '\x08'
  | 'f' => some '\x0c'
  | 'n' => some '\n'
  | 'r' => some '\r'
  | 't' => some '\t'
  | _ => none

/-- What follows a backslash. -/
def readEscape : List Char → Option (Piece × List Char)
  | [] => none
  | c :: rest =>
    if c = 'u' then readUnit rest
    else (escaped? c).map fun named => (.char named, rest)

theorem readUnit_shorter {cs rest : List Char} {piece : Piece}
    (h : readUnit cs = some (piece, rest)) : rest.length < cs.length := by
  match cs with
  | [] => simp [readUnit] at h
  | [_] => simp [readUnit] at h
  | [_, _] => simp [readUnit] at h
  | [_, _, _] => simp [readUnit] at h
  | a :: b :: c :: d :: tail =>
    simp only [readUnit, bind, Option.bind_eq_some_iff, pure, Option.some.injEq,
      Prod.mk.injEq] at h
    obtain ⟨_, _, _, _, _, _, _, _, _, rfl⟩ := h
    simp only [List.length_cons]
    omega

theorem readEscape_shorter {cs rest : List Char} {piece : Piece}
    (h : readEscape cs = some (piece, rest)) : rest.length < cs.length := by
  cases cs with
  | nil => simp [readEscape] at h
  | cons c tail =>
    rw [readEscape] at h
    split at h
    · exact Nat.lt_succ_of_lt (readUnit_shorter h)
    · simp only [Option.map_eq_some_iff, Prod.mk.injEq] at h
      obtain ⟨_, _, _, rfl⟩ := h
      simp

/-- The pieces up to the closing quote and what follows it, after the pieces
already read, which are given last first.  Control characters have to be
escaped. -/
def readPieces (done : List Piece) (cs : List Char) : Option (List Piece × List Char) :=
  match cs with
  | [] => none
  | c :: tail =>
    if c = '"' then some (done.reverse, tail)
    else if c = '\\' then
      match h : readEscape tail with
      | none => none
      | some (piece, rest) =>
        have : rest.length < (c :: tail).length :=
          Nat.lt_succ_of_lt (readEscape_shorter h)
        readPieces (piece :: done) rest
    else if c.toNat < 0x20 then none
    else readPieces (.char c :: done) tail
termination_by cs.length
decreasing_by
  · assumption
  · exact Nat.lt_succ_self _

theorem readPieces_shorter {done pieces : List Piece} {cs rest : List Char}
    (h : readPieces done cs = some (pieces, rest)) : rest.length < cs.length := by
  fun_induction readPieces done cs with
  | case1 => simp at h
  | case2 =>
    simp only [Option.some.injEq, Prod.mk.injEq] at h
    simp [← h.2]
  | case3 => simp at h
  | case4 _ _ _ _ _ _ hshorter ih => exact Nat.lt_trans (ih h) hshorter
  | case5 => simp at h
  | case6 _ _ _ _ _ _ ih => exact Nat.lt_succ_of_lt (ih h)

def isHighHalf (code : Nat) : Bool :=
  0xD800 ≤ code && code < 0xDC00

def isLowHalf (code : Nat) : Bool :=
  0xDC00 ≤ code && code < 0xE000

/-- The characters that the pieces stand for: two halves side by side are one
character, and a half alone is none. -/
def joinPieces : List Piece → Option (List Char)
  | [] => some []
  | .char c :: rest => (joinPieces rest).map (c :: ·)
  | .unit high :: .unit low :: rest =>
    if isHighHalf high then
      if isLowHalf low then
        (joinPieces rest).map
          (Char.ofNat (0x10000 + (high - 0xD800) * 0x400 + (low - 0xDC00)) :: ·)
      else none
    else if isLowHalf high then none
    else (joinPieces (.unit low :: rest)).map (Char.ofNat high :: ·)
  | .unit code :: rest =>
    if isHighHalf code || isLowHalf code then none
    else (joinPieces rest).map (Char.ofNat code :: ·)

/-! ## Numbers -/

/-- The rest after a fraction, if one starts here, and whether one does. -/
def readFraction : List Char → Option (Bool × List Char)
  | '.' :: rest =>
    if (rest.takeWhile Char.isDigit).isEmpty then none
    else some (true, rest.dropWhile Char.isDigit)
  | cs => some (false, cs)

def dropSign : List Char → List Char
  | '+' :: rest => rest
  | '-' :: rest => rest
  | cs => cs

/-- The rest after an exponent, if one starts here, and whether one does. -/
def readExponent : List Char → Option (Bool × List Char)
  | [] => some (false, [])
  | c :: rest =>
    if c = 'e' ∨ c = 'E' then
      if ((dropSign rest).takeWhile Char.isDigit).isEmpty then none
      else some (true, (dropSign rest).dropWhile Char.isDigit)
    else some (false, c :: rest)

/-- The digits before a fraction; only the number zero starts with a zero. -/
def readWhole : List Char → Option (Nat × List Char)
  | [] => none
  | c :: rest =>
    if c = '0' then some (0, rest)
    else
      (Text.readDigits ((c :: rest).takeWhile Char.isDigit)).map
        fun n => (n, (c :: rest).dropWhile Char.isDigit)

/-- A number without its sign, and the rest. -/
def readUnsigned (cs : List Char) : Option (Token × List Char) := do
  let (n, rest) ← readWhole cs
  let (fraction, rest) ← readFraction rest
  let (exponent, rest) ← readExponent rest
  return (if fraction || exponent then .number else .natural n, rest)

/-- A number, and the rest. -/
def readNumber : List Char → Option (Token × List Char)
  | '-' :: rest => (readUnsigned rest).map fun (_, rest) => (.number, rest)
  | cs => readUnsigned cs

theorem length_dropWhile_le (p : Char → Bool) (cs : List Char) :
    (cs.dropWhile p).length ≤ cs.length :=
  (List.dropWhile_suffix p).length_le

theorem length_dropSign_le (cs : List Char) : (dropSign cs).length ≤ cs.length := by
  unfold dropSign
  split <;> simp

theorem readFraction_le {cs rest : List Char} {found : Bool}
    (h : readFraction cs = some (found, rest)) : rest.length ≤ cs.length := by
  unfold readFraction at h
  split at h
  · split at h
    · simp at h
    · simp only [Option.some.injEq, Prod.mk.injEq] at h
      rw [← h.2, List.length_cons]
      exact Nat.le_succ_of_le (length_dropWhile_le _ _)
  · simp only [Option.some.injEq, Prod.mk.injEq] at h
    simp [← h.2]

theorem readExponent_le {cs rest : List Char} {found : Bool}
    (h : readExponent cs = some (found, rest)) : rest.length ≤ cs.length := by
  unfold readExponent at h
  split at h
  · simp only [Option.some.injEq, Prod.mk.injEq] at h
    simp [← h.2]
  · split at h
    · split at h
      · simp at h
      · simp only [Option.some.injEq, Prod.mk.injEq] at h
        rw [← h.2, List.length_cons]
        exact Nat.le_succ_of_le
          (Nat.le_trans (length_dropWhile_le _ _) (length_dropSign_le _))
    · simp only [Option.some.injEq, Prod.mk.injEq] at h
      simp [← h.2]

theorem readWhole_shorter {cs rest : List Char} {n : Nat}
    (h : readWhole cs = some (n, rest)) : rest.length < cs.length := by
  unfold readWhole at h
  split at h
  · simp at h
  · next c tail =>
    split at h
    · simp only [Option.some.injEq, Prod.mk.injEq] at h
      simp [← h.2]
    · simp only [Option.map_eq_some_iff, Prod.mk.injEq] at h
      obtain ⟨_, hdigits, _, rfl⟩ := h
      by_cases hc : c.isDigit
      · rw [List.dropWhile_cons_of_pos hc, List.length_cons]
        exact Nat.lt_succ_of_le (length_dropWhile_le _ _)
      · simp [Text.readDigits, hc] at hdigits

theorem readUnsigned_shorter {cs rest : List Char} {token : Token}
    (h : readUnsigned cs = some (token, rest)) : rest.length < cs.length := by
  simp only [readUnsigned, bind, Option.bind_eq_some_iff, Prod.exists, pure,
    Option.some.injEq, Prod.mk.injEq] at h
  obtain ⟨_, _, hwhole, _, _, hfraction, _, _, hexponent, _, rfl⟩ := h
  exact Nat.lt_of_le_of_lt (readExponent_le hexponent)
    (Nat.lt_of_le_of_lt (readFraction_le hfraction) (readWhole_shorter hwhole))

theorem readNumber_shorter {cs rest : List Char} {token : Token}
    (h : readNumber cs = some (token, rest)) : rest.length < cs.length := by
  unfold readNumber at h
  split at h
  · simp only [Option.map_eq_some_iff, Prod.exists, Prod.mk.injEq] at h
    obtain ⟨_, _, hread, _, rfl⟩ := h
    exact Nat.lt_succ_of_lt (readUnsigned_shorter hread)
  · exact readUnsigned_shorter h

/-! ## All tokens -/

/-- The rest after a word that the characters have to start with. -/
def dropWord (word : String) (cs : List Char) : Option (List Char) :=
  if word.toList.isPrefixOf cs then some (cs.drop word.length) else none

/-- The token at the front of a text that starts with none of the blanks. -/
def readToken (c : Char) (rest : List Char) : Option (Token × List Char) :=
  match c with
  | '[' => some (.openArray, rest)
  | ']' => some (.closeArray, rest)
  | '{' => some (.openObject, rest)
  | '}' => some (.closeObject, rest)
  | ',' => some (.comma, rest)
  | ':' => some (.colon, rest)
  | '"' => (readPieces [] rest).map fun (pieces, rest) =>
      (.string ((joinPieces pieces).map String.ofList), rest)
  | 'n' => (dropWord "ull" rest).map fun rest => (.null, rest)
  | 't' => (dropWord "rue" rest).map fun rest => (.bool true, rest)
  | 'f' => (dropWord "alse" rest).map fun rest => (.bool false, rest)
  | _ => readNumber (c :: rest)

theorem dropWord_le {word : String} {cs rest : List Char}
    (h : dropWord word cs = some rest) : rest.length ≤ cs.length := by
  unfold dropWord at h
  split at h
  · simp only [Option.some.injEq] at h
    simp [← h]
  · simp at h

theorem readToken_le {c : Char} {cs rest : List Char} {token : Token}
    (h : readToken c cs = some (token, rest)) : rest.length ≤ cs.length := by
  unfold readToken at h
  split at h
  case h_7 =>
    simp only [Option.map_eq_some_iff, Prod.exists, Prod.mk.injEq] at h
    obtain ⟨_, _, hread, _, rfl⟩ := h
    exact Nat.le_of_lt (readPieces_shorter hread)
  case h_11 => exact Nat.le_of_lt_succ (readNumber_shorter h)
  case h_8 | h_9 | h_10 =>
    simp only [Option.map_eq_some_iff, Prod.mk.injEq] at h
    obtain ⟨_, hword, _, rfl⟩ := h
    exact dropWord_le hword
  all_goals
    simp only [Option.some.injEq, Prod.mk.injEq] at h
    simp [← h.2]

/-- The tokens of a text, after those already read, which are given last
first. -/
def readTokens (done : List Token) (cs : List Char) : Option (List Token) :=
  match cs with
  | [] => some done.reverse
  | c :: tail =>
    if isBlank c then readTokens done tail
    else
      match h : readToken c tail with
      | none => none
      | some (token, rest) =>
        have : rest.length < (c :: tail).length := Nat.lt_succ_of_le (readToken_le h)
        readTokens (token :: done) rest
termination_by cs.length
decreasing_by
  · exact Nat.lt_succ_self _
  · assumption

/-- The tokens of a text, or nothing if some part of it is no token. -/
def tokens (text : String) : Option (List Token) :=
  readTokens [] text.toList

end Json
end MaskedList
