import DagWallet.Ledger.Output

namespace DagWallet

/-- What a transaction does: the outputs it consumes and the outputs it creates, on one
network. -/
structure Essence where
  networkId : UInt64
  inputs : List OutputId
  outputs : List Output
deriving DecidableEq

/-- The proof that an input may be spent: a signature, or a pointer to an earlier unlock of
the same owner. -/
inductive Unlock where
  | signature (publicKey : Vector UInt8 32) (signature : List UInt8)
  | reference (position : UInt16)
deriving DecidableEq

/-- An essence with one unlock per input. -/
structure Transaction where
  essence : Essence
  unlocks : List Unlock
deriving DecidableEq

/-- What a block carries besides its parents. -/
inductive Payload where
  | transaction (tx : Transaction)
  | taggedData (tag : List UInt8) (data : List UInt8)
deriving DecidableEq

/-- Adds an amount to a running total, refusing a total of 2^64 or more. -/
def addAmount? (total a : UInt64) : Option UInt64 :=
  if total.toNat + a.toNat < Nat.pow 2 64 then some (total + a) else none

/-- Sums amounts from the left, stopping at the first running total of 2^64 or more. -/
def sumAmounts? (amounts : List UInt64) : Option UInt64 := amounts.foldlM addAmount? 0

namespace OutputId

def encode (o : OutputId) : List UInt8 :=
  o.transactionId.digest.toList ++ Canonical.u16 o.index

end OutputId

namespace Essence

def encode (e : Essence) : List UInt8 :=
  Canonical.u64 e.networkId ++ Canonical.seq OutputId.encode e.inputs ++
    Canonical.seq Output.encode e.outputs

/-- The hash that signatures commit to. -/
def hash (e : Essence) : Vector UInt8 32 := Blake3.hash e.encode

/-- The total amount created, if it fits in 64 bits. -/
def outputAmount? (e : Essence) : Option UInt64 := sumAmounts? (e.outputs.map (·.amount))

end Essence

namespace Unlock

def encode : Unlock → List UInt8
  | .signature pk s => Canonical.variant 0 ++ pk.toList ++ Canonical.bytes s
  | .reference i => Canonical.variant 1 ++ Canonical.u16 i

end Unlock

namespace Transaction

def encode (t : Transaction) : List UInt8 :=
  t.essence.encode ++ Canonical.seq Unlock.encode t.unlocks

def id (t : Transaction) : TransactionId := TransactionId.ofBytes t.encode

end Transaction

namespace Payload

def encode : Payload → List UInt8
  | .transaction t => Canonical.variant 0 ++ t.encode
  | .taggedData tag data => Canonical.variant 1 ++ Canonical.bytes tag ++ Canonical.bytes data

def transaction? : Payload → Option Transaction
  | .transaction t => some t
  | .taggedData .. => none

end Payload

end DagWallet
