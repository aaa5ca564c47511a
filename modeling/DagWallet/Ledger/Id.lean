import DagWallet.Hash.Blake3
import DagWallet.Text.Hex
import DagWallet.Text.Decimal

namespace DagWallet

/-- Thirty-two bytes: the width of every identifier of the ledger. -/
structure Digest where
  bytes : Vector UInt8 32
deriving DecidableEq

namespace Digest

def toList (d : Digest) : List UInt8 := d.bytes.toList

/-- The digest of a byte string. -/
def ofBytes (data : List UInt8) : Digest := ⟨Blake3.hash data⟩

/-- Identifiers are ordered by their bytes, first byte first. -/
instance : Ord Digest := ⟨fun a b => compare a.toList b.toList⟩

/-- Written as 0x and 64 lowercase hexadecimal digits. -/
def toHex (d : Digest) : String := "0x" ++ Hex.encode d.toList

/-- The digest made of exactly 32 bytes. -/
def ofList? (bytes : List UInt8) : Option Digest :=
  if h : bytes.toArray.size = 32 then some ⟨⟨bytes.toArray, h⟩⟩ else none

end Digest

/-- What kind of identifier a text was read as. -/
inductive IdKind where
  | block
  | transaction
  | address
  | output
deriving DecidableEq, Repr

/-- The type name under which an identifier is reported. -/
def IdKind.name : IdKind → String
  | .block => "BlockId"
  | .transaction => "TransactionId"
  | .address => "Address"
  | .output => "OutputId"

/-- Why a text is no identifier. -/
inductive IdError where
  | hex (e : HexError)
  | length (n : Nat)
  | missingIndex
  | index (e : DecimalError)
deriving DecidableEq, Repr

def IdError.message : IdError → String
  | .hex e => e.message
  | .length n => s!"expected 32 bytes, got {n}"
  | .missingIndex => "missing index"
  | .index e => e.message

/-- A text that was refused as an identifier of some kind, and why. -/
structure BadId where
  kind : IdKind
  text : String
  reason : IdError
deriving DecidableEq, Repr

def BadId.message (e : BadId) : String :=
  s!"{e.kind.name} '{e.text}': {e.reason.message}"

namespace Digest

/-- Reads an optional lowercase 0x prefix and 64 hexadecimal digits of either case. -/
def parse (s : String) : Except IdError Digest :=
  let raw := if s.startsWith "0x" then s.drop 2 else s
  match Hex.decode raw.copy with
  | .error e => .error (.hex e)
  | .ok bytes =>
    match ofList? bytes with
    | some d => .ok d
    | none => .error (.length bytes.length)

end Digest

/-- The identifier of a block: the hash of its canonical encoding. -/
structure BlockId where
  digest : Digest
deriving DecidableEq

/-- The identifier of a transaction: the hash of its canonical encoding. -/
structure TransactionId where
  digest : Digest
deriving DecidableEq

/-- An address: the hash of a public key. -/
structure Address where
  digest : Digest
deriving DecidableEq

/-- One output of a transaction, by the transaction and the output's position in it. -/
structure OutputId where
  transactionId : TransactionId
  index : UInt16
deriving DecidableEq

instance : Ord BlockId := ⟨fun a b => compare a.digest b.digest⟩
instance : Ord TransactionId := ⟨fun a b => compare a.digest b.digest⟩
instance : Ord Address := ⟨fun a b => compare a.digest b.digest⟩

/-- Output identifiers are ordered by transaction, then by position. -/
instance : Ord OutputId :=
  ⟨fun a b => (compare a.transactionId b.transactionId).then (compare a.index b.index)⟩

instance : ToString BlockId := ⟨fun i => i.digest.toHex⟩
instance : ToString TransactionId := ⟨fun i => i.digest.toHex⟩
instance : ToString Address := ⟨fun i => i.digest.toHex⟩
instance : ToString OutputId := ⟨fun o => s!"{o.transactionId}:{o.index.toNat}"⟩

namespace BlockId

def ofBytes (data : List UInt8) : BlockId := ⟨Digest.ofBytes data⟩

def parse (s : String) : Except BadId BlockId :=
  match Digest.parse s with
  | .ok d => .ok ⟨d⟩
  | .error e => .error ⟨.block, s, e⟩

end BlockId

namespace TransactionId

def ofBytes (data : List UInt8) : TransactionId := ⟨Digest.ofBytes data⟩

def parse (s : String) : Except BadId TransactionId :=
  match Digest.parse s with
  | .ok d => .ok ⟨d⟩
  | .error e => .error ⟨.transaction, s, e⟩

end TransactionId

namespace Address

def ofBytes (data : List UInt8) : Address := ⟨Digest.ofBytes data⟩

def parse (s : String) : Except BadId Address :=
  match Digest.parse s with
  | .ok d => .ok ⟨d⟩
  | .error e => .error ⟨.address, s, e⟩

end Address

namespace OutputId

/-- The text split at its last colon, if it has one. -/
def splitIndex (s : String) : Option (String × String) :=
  match s.toList.reverse.span (· ≠ ':') with
  | (_, []) => none
  | (index, _ :: tx) => some (String.ofList tx.reverse, String.ofList index.reverse)

/-- Reads a transaction identifier and a 16-bit index joined by the last colon. The index is
checked before the transaction. -/
def parse (s : String) : Except BadId OutputId :=
  match splitIndex s with
  | none => .error ⟨.output, s, .missingIndex⟩
  | some (tx, index) =>
    match Decimal.parseU16 index with
    | .error e => .error ⟨.output, s, .index e⟩
    | .ok i => (TransactionId.parse tx).map fun t => ⟨t, i.toUInt16⟩

end OutputId

end DagWallet
