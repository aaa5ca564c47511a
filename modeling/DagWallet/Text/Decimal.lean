namespace DagWallet

/-- Why a text is not an unsigned decimal number of a given width. -/
inductive DecimalError where
  | empty
  | invalidDigit
  | tooLarge
deriving DecidableEq, Repr

namespace DecimalError

def message : DecimalError → String
  | .empty => "cannot parse integer from empty string"
  | .invalidDigit => "invalid digit found in string"
  | .tooLarge => "number too large to fit in target type"

end DecimalError

namespace Decimal

/-- Digits read left to right onto `acc`; a character that is no ASCII digit stops the
reading before the value is checked against `bound`. -/
def digitsBelow (bound : Nat) (acc : Nat) : List Char → Except DecimalError Nat
  | [] => .ok acc
  | c :: cs =>
    if c.isDigit then
      let v := acc * 10 + (c.toNat - 48)
      if v < bound then digitsBelow bound v cs else .error .tooLarge
    else .error .invalidDigit

/-- Reads a number below `bound` from an optional plus sign and ASCII decimal digits. Leading
zeros are allowed; blanks and a minus sign are not. -/
def parseBelow (bound : Nat) (s : String) : Except DecimalError Nat :=
  match s.toList with
  | [] => .error .empty
  | ['+'] => .error .invalidDigit
  | '+' :: rest => digitsBelow bound 0 rest
  | cs => digitsBelow bound 0 cs

/-- A 16-bit unsigned number. -/
def parseU16 (s : String) : Except DecimalError Nat := parseBelow (Nat.pow 2 16) s

/-- A 32-bit unsigned number. -/
def parseU32 (s : String) : Except DecimalError Nat := parseBelow (Nat.pow 2 32) s

/-- A 64-bit unsigned number, also the width of a machine index. -/
def parseU64 (s : String) : Except DecimalError Nat := parseBelow (Nat.pow 2 64) s

end Decimal

end DagWallet
