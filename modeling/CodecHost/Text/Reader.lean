/-! A reader takes characters off the front of a text and may refuse. -/
namespace CodecHost

abbrev Reader := StateT (List Char) Option

namespace Reader

variable {α : Type}

def fail : Reader α := fun _ => none

/-- The next character. -/
def next : Reader Char
  | [] => none
  | c :: rest => some (c, rest)

/-- The next character, left in place. -/
def peek? : Reader (Option Char) := fun text => some (text.head?, text)

/-- Takes the next character when it satisfies `p`. -/
def accept (p : Char → Bool) : Reader Bool
  | [] => some (false, [])
  | c :: rest => if p c then some (true, rest) else some (false, c :: rest)

/-- A character that has to be there. -/
def expect (c : Char) : Reader Unit
  | [] => none
  | d :: rest => if d = c then some ((), rest) else none

/-- A word that has to be there. -/
def expectWord (word : List Char) : Reader Unit := fun text =>
  if word.isPrefixOf text then some ((), text.drop word.length) else none

/-- Takes a word when it is there. -/
def acceptWord (word : List Char) : Reader Bool := fun text =>
  if word.isPrefixOf text then some (true, text.drop word.length) else some (false, text)

/-- The characters up to the first that does not satisfy `p`. -/
def takeWhile (p : Char → Bool) : Reader (List Char) := fun text =>
  some (text.takeWhile p, text.dropWhile p)

/-- As `takeWhile`, with at least one character. -/
def takeWhile1 (p : Char → Bool) : Reader (List Char) := do
  let taken ← takeWhile p
  if taken.isEmpty then fail else pure taken

/-- Exactly `n` characters that satisfy `p`. -/
def takeExactly (p : Char → Bool) : Nat → Reader (List Char)
  | 0 => pure []
  | n + 1 => do
    let c ← next
    if p c then
      let rest ← takeExactly p n
      pure (c :: rest)
    else fail

/-- The answer of the first reader that does not refuse. -/
def orElse (a b : Reader α) : Reader α := fun text =>
  match a text with
  | some answer => some answer
  | none => b text

/-- An answer, or nothing taken. -/
def optional (a : Reader α) : Reader (Option α) := fun text =>
  match a text with
  | some (x, rest) => some (some x, rest)
  | none => some (none, text)

/-- What a reader makes of a whole text. -/
def whole (a : Reader α) (text : List Char) : Option α :=
  match a text with
  | some (x, []) => some x
  | _ => none

end Reader

/-- Decimal digits. -/
def isDecimal (c : Char) : Bool := '0' ≤ c && c ≤ '9'

/-- The value of a hexadecimal digit. -/
def hexDigit? (c : Char) : Option Nat :=
  if '0' ≤ c ∧ c ≤ '9' then some (c.toNat - '0'.toNat)
  else if 'a' ≤ c ∧ c ≤ 'f' then some (c.toNat - 'a'.toNat + 10)
  else if 'A' ≤ c ∧ c ≤ 'F' then some (c.toNat - 'A'.toNat + 10)
  else none

def isHexDigit (c : Char) : Bool := (hexDigit? c).isSome

/-- The number that digits spell in a base; characters without a value count zero. -/
def numberOf (base : Nat) (digits : List Char) : Nat :=
  digits.foldl (fun n c => n * base + (hexDigit? c).getD 0) 0

/-- The character of a code point that has one. -/
def charOfCode? (code : Nat) : Option Char :=
  if code.isValidChar then some (Char.ofNat code) else none

end CodecHost
