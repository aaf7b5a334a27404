import CodecHost.Bytes

/-! Names and files are bytes; messages are text. Reading bytes as UTF-8 splits
them into characters and broken parts, where a broken part is the longest start
of a character that the next byte does not continue. Strict reading refuses a
broken part, lossy reading shows one replacement character for each. -/
namespace CodecHost.Utf8

/-- A character under way: the bytes read so far, the value of their payload
bits, the range its next byte has to lie in, and how many bytes are missing. -/
structure Pending where
  held : Bytes
  value : Nat
  low : UInt8
  high : UInt8
  missing : Nat

/-- A piece of decoded text. -/
inductive Piece where
  | char (c : Char)
  | broken (bytes : Bytes)
  deriving DecidableEq

/-- What a byte means where a character may start. -/
inductive Start where
  | char (c : Char)
  | pending (p : Pending)
  | broken (byte : UInt8)

/-- Lead bytes that could only start an overlong form, a surrogate or a value
past the last code point narrow the range of the byte behind them. -/
def start (b : UInt8) : Start :=
  if b < 0x80 then .char (Char.ofNat b.toNat)
  else if b < 0xC2 then .broken b
  else if b < 0xE0 then .pending ⟨[b], b.toNat - 0xC0, 0x80, 0xBF, 1⟩
  else if b = 0xE0 then .pending ⟨[b], 0, 0xA0, 0xBF, 2⟩
  else if b = 0xED then .pending ⟨[b], 13, 0x80, 0x9F, 2⟩
  else if b < 0xF0 then .pending ⟨[b], b.toNat - 0xE0, 0x80, 0xBF, 2⟩
  else if b = 0xF0 then .pending ⟨[b], 0, 0x90, 0xBF, 3⟩
  else if b < 0xF4 then .pending ⟨[b], b.toNat - 0xF0, 0x80, 0xBF, 3⟩
  else if b = 0xF4 then .pending ⟨[b], 4, 0x80, 0x8F, 3⟩
  else .broken b

/-- The pending character with one more byte in place. -/
def Pending.extend (p : Pending) (b : UInt8) : Pending :=
  { held := p.held ++ [b]
    value := p.value * 64 + (b.toNat - 0x80)
    low := 0x80
    high := 0xBF
    missing := p.missing - 1 }

/-- Whether the byte continues the pending character. -/
def Pending.accepts (p : Pending) (b : UInt8) : Bool :=
  p.low ≤ b && b ≤ p.high

/-- The pieces of `bytes`, read after the pending character `p`. -/
def piecesFrom : Option Pending → Bytes → List Piece
  | none, [] => []
  | some p, [] => [.broken p.held]
  | none, b :: rest =>
    match start b with
    | .char c => .char c :: piecesFrom none rest
    | .pending p => piecesFrom (some p) rest
    | .broken bad => .broken [bad] :: piecesFrom none rest
  | some p, b :: rest =>
    if p.accepts b then
      let q := p.extend b
      if q.missing = 0 then .char (Char.ofNat q.value) :: piecesFrom none rest
      else piecesFrom (some q) rest
    else
      .broken p.held ::
        match start b with
        | .char c => .char c :: piecesFrom none rest
        | .pending q => piecesFrom (some q) rest
        | .broken bad => .broken [bad] :: piecesFrom none rest

/-- Every byte belongs to exactly one piece. -/
def pieces (bytes : Bytes) : List Piece := piecesFrom none bytes

/-- The character of a piece, if it is one. -/
def Piece.char? : Piece → Option Char
  | .char c => some c
  | .broken _ => none

/-- The text of well-formed bytes. -/
def decode? (bytes : Bytes) : Option String :=
  ((pieces bytes).mapM Piece.char?).map String.ofList

/-- The character shown for a piece: a broken part becomes U+FFFD. -/
def Piece.shown : Piece → Char
  | .char c => c
  | .broken _ => '\uFFFD'

/-- Bytes as they are shown in messages. -/
def lossy (bytes : Bytes) : String :=
  String.ofList ((pieces bytes).map Piece.shown)

/-- The bytes of a text. -/
def encode (text : String) : Bytes := text.toUTF8.toList

end CodecHost.Utf8
