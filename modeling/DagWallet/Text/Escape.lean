import DagWallet.Text.Printable
import DagWallet.Text.GraphemeExtend

namespace DagWallet

namespace Escape

/-- Lowercase hexadecimal digits of a number, without leading zeros. -/
def hexNat (n : Nat) : String :=
  String.ofList ((Nat.toDigits 16 n).map Char.toLower)

/-- Characters shown by their code point: those that extend a grapheme, which would join the
quote or escape before them, and those that are not printable. -/
def hidden (c : Char) : Bool :=
  Unicode.extendsGrapheme c || !Unicode.printable c

/-- The escaped form of one character inside single quotes. -/
def charBody (c : Char) : String :=
  match c with
  | '\x00' => "\\0"
  | '\t' => "\\t"
  | '\r' => "\\r"
  | '\n' => "\\n"
  | '\'' => "\\'"
  | '\\' => "\\\\"
  | _ => if hidden c then "\\u\x7b" ++ hexNat c.toNat ++ "\x7d" else c.toString

/-- A character between single quotes, escaped. -/
def quoteChar (c : Char) : String :=
  "'" ++ charBody c ++ "'"

/-- The escaped form of one character inside double quotes. -/
def stringChar (c : Char) : String :=
  match c with
  | '\x00' => "\\0"
  | '\t' => "\\t"
  | '\r' => "\\r"
  | '\n' => "\\n"
  | '"' => "\\\""
  | '\\' => "\\\\"
  | _ => if hidden c then "\\u\x7b" ++ hexNat c.toNat ++ "\x7d" else c.toString

/-- A string between double quotes, escaped character by character. -/
def quoteString (s : String) : String :=
  "\"" ++ String.join (s.toList.map stringChar) ++ "\""

end Escape

end DagWallet
