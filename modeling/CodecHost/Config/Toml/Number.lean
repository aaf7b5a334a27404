import CodecHost.Text.Reader

/-! Numbers, dates and truth values in TOML. Settings have no use for their values,
so all that is settled here is which of them are well formed. -/
namespace CodecHost.Toml

/-- Digits with single underscores between them. -/
def digitsWith (p : Char → Bool) : Nat → Reader (List Char)
  | 0 => Reader.fail
  | fuel + 1 => do
    let c ← Reader.next
    if p c then
      let underscore ← Reader.accept (· = '_')
      match ← Reader.peek? with
      | some d =>
        if underscore || p d then
          let rest ← digitsWith p fuel
          pure (c :: rest)
        else pure [c]
      | none => if underscore then Reader.fail else pure [c]
    else Reader.fail

/-- Decimal digits with single underscores between them. -/
def decimalDigits : Reader (List Char) := fun text => digitsWith isDecimal (text.length + 1) text

def sign : Reader (Option Char) := do
  match ← Reader.peek? with
  | some '+' =>
    let _ ← Reader.next
    pure (some '+')
  | some '-' =>
    let _ ← Reader.next
    pure (some '-')
  | _ => pure none

/-- A decimal integer. No digit follows a leading zero. -/
def decimal : Reader (Option Char × List Char) := do
  let s ← sign
  match ← Reader.peek? with
  | some '0' =>
    let _ ← Reader.next
    pure (s, ['0'])
  | _ =>
    let digits ← decimalDigits
    pure (s, digits)

/-- The magnitude that signed integers of 64 bits reach on the negative side only. -/
def integerBound : Nat := 0x8000000000000000

/-- Whether a decimal integer fits into 64 bits. -/
def fitsInteger (s : Option Char) (n : Nat) : Bool :=
  if s = some '-' then n ≤ integerBound else n < integerBound

/-- An integer in a base that its start names. -/
def basedInteger (isDigit : Char → Bool) (base : Nat) : Reader Unit := fun text => do
  let (digits, rest) ← digitsWith isDigit (text.length + 1) text
  if numberOf base digits < integerBound then some ((), rest) else none

def integer : Reader Unit := do
  if ← Reader.acceptWord ['0', 'x'] then basedInteger isHexDigit 16
  else if ← Reader.acceptWord ['0', 'o'] then basedInteger (fun c => '0' ≤ c && c ≤ '7') 8
  else if ← Reader.acceptWord ['0', 'b'] then basedInteger (fun c => c = '0' || c = '1') 2
  else
    let (s, digits) ← decimal
    if fitsInteger s (numberOf 10 digits) then pure () else Reader.fail

/-- The least magnitude that no 64-bit float is near enough to. -/
def floatBound : Nat := Nat.pow 2 1024 - Nat.pow 2 970

/-- Whether a number of decimal digits, taken `scale` places up, is too large for a
float. Far from the bound the number of digits decides. -/
def overflows (digits : List Char) (scale : Int) : Bool :=
  let n := numberOf 10 digits
  if n = 0 then false
  else
    let length := ((digits.dropWhile (· = '0')).length : Int) + scale
    if 310 < length then true
    else if length < 300 then false
    else if 0 ≤ scale then floatBound ≤ n * Nat.pow 10 scale.toNat
    else floatBound * Nat.pow 10 (-scale).toNat ≤ n

/-- The digits behind a decimal point, if there is one. -/
def fraction : Reader (Option (List Char)) := do
  if ← Reader.accept (· = '.') then some <$> decimalDigits else pure none

/-- An exponent, if there is one. -/
def exponent : Reader (Option Int) := do
  if ← Reader.accept (fun c => c = 'e' || c = 'E') then
    let s ← sign
    let digits ← decimalDigits
    let n : Int := numberOf 10 digits
    pure (some (if s = some '-' then -n else n))
  else pure none

/-- A float has a fraction, an exponent or both. A positive one that is too large is
an error, a negative one is not. -/
def float : Reader Unit := do
  let (s, whole) ← decimal
  match ← fraction, ← exponent with
  | none, none => Reader.fail
  | f, e =>
    let places := f.getD []
    if s ≠ some '-' && overflows (whole ++ places) (e.getD 0 - places.length) then Reader.fail
    else pure ()

/-- Infinity, or what is not a number. -/
def specialFloat : Reader Unit := do
  let _ ← sign
  Reader.orElse (Reader.expectWord ['i', 'n', 'f']) (Reader.expectWord ['n', 'a', 'n'])

/-- A number of exactly so many digits within bounds. -/
def field (length low high : Nat) : Reader Nat := do
  let digits ← Reader.takeExactly isDecimal length
  let n := numberOf 10 digits
  if low ≤ n ∧ n ≤ high then pure n else Reader.fail

def isLeapYear (year : Nat) : Bool :=
  year % 4 = 0 && (year % 100 ≠ 0 || year % 400 = 0)

def daysIn (year month : Nat) : Nat :=
  if month = 2 then (if isLeapYear year then 29 else 28)
  else if month = 4 ∨ month = 6 ∨ month = 9 ∨ month = 11 then 30
  else 31

def date : Reader Unit := do
  let year ← field 4 0 9999
  Reader.expect '-'
  let month ← field 2 1 12
  Reader.expect '-'
  let _ ← field 2 1 (daysIn year month)

/-- A time of day. A minute may have a leap second. -/
def time : Reader Unit := do
  let _ ← field 2 0 23
  Reader.expect ':'
  let _ ← field 2 0 59
  Reader.expect ':'
  let _ ← field 2 0 60
  let _ ← Reader.optional (do
    Reader.expect '.'
    Reader.takeWhile1 isDecimal)

/-- The distance from universal time. -/
def offset : Reader Unit := do
  match ← Reader.next with
  | 'Z' | 'z' => pure ()
  | '+' | '-' =>
    let _ ← field 2 0 23
    Reader.expect ':'
    let _ ← field 2 0 59
  | _ => Reader.fail

/-- A date, with a time behind it or not, or a time alone. -/
def dateTime : Reader Unit :=
  Reader.orElse
    (do
      date
      let _ ← Reader.optional (do
        match ← Reader.next with
        | 'T' | 't' | ' ' => pure ()
        | _ => Reader.fail
        time
        let _ ← Reader.optional offset))
    time

/-- A value that starts with a sign or a digit. -/
def numeric : Reader Unit :=
  Reader.orElse dateTime (Reader.orElse float (Reader.orElse specialFloat integer))

/-- A value that starts with a letter. -/
def named : Reader Unit := do
  match ← Reader.peek? with
  | some 't' => Reader.expectWord ['t', 'r', 'u', 'e']
  | some 'f' => Reader.expectWord ['f', 'a', 'l', 's', 'e']
  | some 'i' => Reader.expectWord ['i', 'n', 'f']
  | some 'n' => Reader.expectWord ['n', 'a', 'n']
  | _ => Reader.fail

end CodecHost.Toml
