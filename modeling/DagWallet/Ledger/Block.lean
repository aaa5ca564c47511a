import DagWallet.Ledger.Transaction

namespace DagWallet

/-- The protocol version that new blocks carry. -/
def currentVersion : UInt8 := 2

/-- The most parents a block may reference. -/
def maxParents : Nat := 8

/-- A vertex of the ledger's graph: the blocks it approves and an optional payload. -/
structure Block where
  protocolVersion : UInt8
  parents : List BlockId
  payload : Option Payload
  nonce : UInt64
deriving DecidableEq

/-- Inserts an identifier into an increasing list, dropping it if present. -/
def insertId (x : BlockId) : List BlockId → List BlockId
  | [] => [x]
  | y :: ys =>
    match compare x y with
    | .lt => x :: y :: ys
    | .eq => y :: ys
    | .gt => y :: insertId x ys

/-- The identifiers in increasing order, each once. -/
def sortIds (xs : List BlockId) : List BlockId := xs.foldr insertId []

namespace Block

/-- A new block: its parents as an increasing list without repeats, current version, nonce 0. -/
def make (parents : List BlockId) (payload : Option Payload) : Block :=
  ⟨currentVersion, sortIds parents, payload, 0⟩

def encode (b : Block) : List UInt8 :=
  Canonical.u8 b.protocolVersion ++ Canonical.seq (fun p => p.digest.toList) b.parents ++
    Canonical.option Payload.encode b.payload ++ Canonical.u64 b.nonce

def id (b : Block) : BlockId := BlockId.ofBytes b.encode

def transaction? (b : Block) : Option Transaction := b.payload.bind Payload.transaction?

/-- The first block of every ledger: no parents, no payload. -/
def genesis : Block := make [] none

end Block

/-- The verdict of the milestone that referenced a block. -/
inductive Inclusion where
  | included
  | conflicting
  | noTransaction
deriving DecidableEq, Repr

def Inclusion.name : Inclusion → String
  | .included => "Included"
  | .conflicting => "Conflicting"
  | .noTransaction => "NoTransaction"

/-- What a node knows about a block: its place in the graph, the milestone that referenced
it, and hints for a block that is not referenced yet. -/
structure BlockMetadata where
  blockId : BlockId
  parents : List BlockId
  referencedBy : Option Nat := none
  inclusion : Option Inclusion := none
  shouldPromote : Option Bool := none
  shouldReattach : Option Bool := none
deriving DecidableEq

namespace BlockMetadata

def isReferenced (m : BlockMetadata) : Bool := m.referencedBy.isSome

/-- A referenced block counts as included when its payload took effect or it had none. -/
def isIncluded (m : BlockMetadata) : Bool :=
  m.inclusion == some .included || m.inclusion == some .noTransaction

def isConflicting (m : BlockMetadata) : Bool := m.inclusion == some .conflicting

def isPromotable (m : BlockMetadata) : Bool := m.shouldPromote.getD false

def isReattachable (m : BlockMetadata) : Bool := m.shouldReattach.getD false

end BlockMetadata

end DagWallet
