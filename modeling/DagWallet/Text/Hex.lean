import DagWallet.Text.Escape

namespace DagWallet

/-- Why a text is not a run of hexadecimal byte pairs. -/
inductive HexError where
  | oddLength
  | invalidChar (c : Char) (position : Nat)
deriving DecidableEq, Repr

namespace HexError

def message : HexError → String
  | .oddLength => "Odd number of digits"
  | .invalidChar c i => s!"Invalid character {Escape.quoteChar c} at position {i}"

end HexError

namespace Hex

/-- The value of one hexadecimal digit, in either case. -/
def digitValue (b : UInt8) : Option UInt8 :=
  if 48 ≤ b ∧ b ≤ 57 then some (b - 48)
  else if 97 ≤ b ∧ b ≤ 102 then some (b - 87)
  else if 65 ≤ b ∧ b ≤ 70 then some (b - 55)
  else none

/-- The lowercase digit of a value below sixteen. -/
def digit (n : Nat) : Char :=
  if n < 10 then Char.ofNat (48 + n) else Char.ofNat (87 + n)

/-- Two lowercase digits per byte, high half first. -/
def encode (bytes : List UInt8) : String :=
  String.ofList (bytes.flatMap fun b => [digit (b.toNat / 16), digit (b.toNat % 16)])

/-- The error for a byte of the text that is no digit: the byte read as a character. -/
def badByte (b : UInt8) (position : Nat) : HexError :=
  .invalidChar (Char.ofNat b.toNat) position

/-- Pairs of digits from byte position `i` on; the high digit of a pair is checked first. -/
def decodePairs (i : Nat) : List UInt8 → Except HexError (List UInt8)
  | [] => .ok []
  | [_] => .error .oddLength
  | a :: b :: rest =>
    match digitValue a, digitValue b with
    | none, _ => .error (badByte a i)
    | some _, none => .error (badByte b (i + 1))
    | some hi, some lo => (decodePairs (i + 2) rest).map fun bs => (hi * 16 + lo) :: bs

/-- Reads the bytes of a text of hexadecimal digits. An odd number of text bytes is refused
before any digit is looked at; otherwise the first byte that is no digit is reported. -/
def decodeBytes (text : List UInt8) : Except HexError (List UInt8) :=
  if text.length % 2 = 1 then .error .oddLength else decodePairs 0 text

/-- Reads a string of hexadecimal digits, positions counted in UTF-8 bytes. -/
def decode (s : String) : Except HexError (List UInt8) :=
  decodeBytes s.toUTF8.toList

end Hex

end DagWallet
