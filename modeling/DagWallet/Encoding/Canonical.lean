namespace DagWallet

/-!
The canonical byte encoding that identifiers are hashed over. Integers are little-endian at
their full width, a sequence is its length as eight bytes followed by its elements, an
optional value is a tag byte (0 absent, 1 present) followed by the value, an alternative is
its position as four bytes followed by its fields, and a fixed-size array is its bytes alone.
-/

namespace Canonical

/-- The `n` low bytes of a number, least significant first. -/
def littleEndian (n : Nat) (x : Nat) : List UInt8 :=
  (List.range n).map fun i => (x >>> (8 * i)).toUInt8

def u8 (x : UInt8) : List UInt8 := [x]

def u16 (x : UInt16) : List UInt8 := littleEndian 2 x.toNat

def u32 (x : UInt32) : List UInt8 := littleEndian 4 x.toNat

def u64 (x : UInt64) : List UInt8 := littleEndian 8 x.toNat

/-- The eight-byte length that opens a sequence. -/
def length (n : Nat) : List UInt8 := littleEndian 8 n

/-- A sequence: its length, then each element. -/
def seq {α : Type} (f : α → List UInt8) (xs : List α) : List UInt8 :=
  length xs.length ++ xs.flatMap f

/-- A byte string: its length, then its bytes. -/
def bytes (bs : List UInt8) : List UInt8 := length bs.length ++ bs

/-- An optional value: a tag byte, then the value if present. -/
def option {α : Type} (f : α → List UInt8) : Option α → List UInt8
  | none => [0]
  | some a => 1 :: f a

/-- The position of an alternative among its type's alternatives. -/
def variant (i : Nat) : List UInt8 := littleEndian 4 i

end Canonical

end DagWallet
