import CodecHost.Text.Unprintable

/-! Diagnostics quote a text so that every character of it can be seen. Quotes and
backslashes get a backslash, the common control characters their short names,
and every other character without a visible shape of its own is shown by its
code point. Bytes that are not text are shown one by one. -/
namespace CodecHost.Quoted

/-- The code point of a character in hexadecimal. -/
def codePoint (c : Char) : List Char :=
  ['\\', 'u', '\x7b'] ++ Nat.toDigits 16 c.toNat ++ ['\x7d']

/-- A character as it stands between quotes. -/
def char (c : Char) : List Char :=
  match c with
  | '\x00' => ['\\', '0']
  | '\t' => ['\\', 't']
  | '\r' => ['\\', 'r']
  | '\n' => ['\\', 'n']
  | '\\' => ['\\', '\\']
  | '"' => ['\\', '"']
  | c => if Unprintable.attaches c || Unprintable.contains c then codePoint c else [c]

/-- A byte that is not part of a text, by its two digits. -/
def byte (b : UInt8) : List Char :=
  let digit (n : Nat) : Char := (Nat.digitChar n).toUpper
  ['\\', 'x', digit (b.toNat / 16), digit (b.toNat % 16)]

def text (s : String) : String :=
  String.ofList (['"'] ++ s.toList.flatMap char ++ ['"'])

def piece : Utf8.Piece → List Char
  | .char c => char c
  | .broken bytes => bytes.flatMap byte

/-- Bytes that are text in the main. -/
def bytes (bs : Bytes) : String :=
  String.ofList (['"'] ++ (Utf8.pieces bs).flatMap piece ++ ['"'])

end CodecHost.Quoted
