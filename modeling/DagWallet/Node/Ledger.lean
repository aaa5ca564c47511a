import DagWallet.Node.Api

namespace DagWallet

/-- What a node says about blocks that no milestone has referenced yet. -/
inductive PendingHint where
  | wait
  | promote
  | reattach
deriving DecidableEq, Repr

/-- A block as a node keeps it, with what the node knows about it. -/
structure StoredBlock where
  block : Block
  metadata : BlockMetadata
deriving DecidableEq

/-- A node that keeps the whole ledger in memory. Besides the ledger it holds the knobs that
make it misbehave on purpose: it can be unreachable, refuse requests after a number of them,
and fail for chosen addresses and outputs. -/
structure LedgerNode where
  name : String
  blocks : List (BlockId × StoredBlock)
  /-- Every output the node knows, in increasing order of identifier. -/
  outputs : List OutputResponse
  /-- Each included transaction with the block that included it. -/
  included : List (TransactionId × BlockId)
  tips : List BlockId
  genesis : BlockId
  milestone : Nat
  pageSize : Nat
  autoConfirm : Bool
  hint : PendingHint
  unreachable : Bool
  requestLimit : Option Nat
  failingAddresses : List Address
  failingOutputs : List OutputId
  submissions : List BlockId
  synthetic : Nat
  requests : Nat

/-- Inserts a response into a list ordered by output identifier, replacing one with the same
identifier. -/
def insertOutput (r : OutputResponse) : List OutputResponse → List OutputResponse
  | [] => [r]
  | x :: xs =>
    match compare r.outputId x.outputId with
    | .lt => r :: x :: xs
    | .eq => r :: xs
    | .gt => x :: insertOutput r xs

/-- Inserts responses whose identifiers increase into a list ordered by output identifier, in one
pass, as inserting them one after the other does: each goes before the first response whose
identifier is not smaller, in place of one with the same identifier. -/
def insertRun : List OutputResponse → List OutputResponse → List OutputResponse
  | rs, [] => rs
  | rs, x :: xs =>
    match rs.span fun r => compare r.outputId x.outputId == .lt with
    | (before, r :: rest) =>
      if compare r.outputId x.outputId == .eq then before ++ r :: insertRun rest xs
      else before ++ x :: insertRun (r :: rest) xs
    | (before, []) => before ++ x :: xs

namespace LedgerNode

/-- A fresh node: only the genesis block, referenced by milestone 0 and carrying nothing. -/
def new (name : String) : LedgerNode :=
  let g := Block.genesis
  let gid := g.id
  let md : BlockMetadata :=
    { blockId := gid, parents := [], referencedBy := some 0, inclusion := some .noTransaction }
  { name := name
    blocks := [(gid, ⟨g, md⟩)]
    outputs := []
    included := []
    tips := [gid]
    genesis := gid
    milestone := 0
    pageSize := 100
    autoConfirm := true
    hint := .wait
    unreachable := false
    requestLimit := none
    failingAddresses := []
    failingOutputs := []
    submissions := []
    synthetic := 0
    requests := 0 }

def blockOf? (n : LedgerNode) (id : BlockId) : Option StoredBlock := n.blocks.lookup id

def outputOf? (n : LedgerNode) (id : OutputId) : Option OutputResponse :=
  n.outputs.find? (·.outputId == id)

def setPageSize (size : Nat) (n : LedgerNode) : LedgerNode := { n with pageSize := max size 1 }

def failAddress (a : Address) (n : LedgerNode) : LedgerNode :=
  { n with failingAddresses := a :: n.failingAddresses }

def failOutput (o : OutputId) (n : LedgerNode) : LedgerNode :=
  { n with failingOutputs := o :: n.failingOutputs }

/-- Books a fresh output as the only output of the next synthetic transaction, whose
identifier is the hash of its number as eight little-endian bytes. -/
def addOutput (o : Output) (n : LedgerNode) : OutputId × LedgerNode :=
  let k := n.synthetic + 1
  let id : OutputId := ⟨TransactionId.ofBytes (Canonical.littleEndian 8 k), 0⟩
  let r : OutputResponse := ⟨id, o, ⟨n.genesis, false, n.milestone⟩⟩
  (id, { n with synthetic := k, outputs := insertOutput r n.outputs })

def pruneOutput (id : OutputId) (n : LedgerNode) : LedgerNode :=
  { n with outputs := n.outputs.filter (·.outputId != id) }

/-- The sum of the unspent outputs that `a` owns; a sum past 64 bits is an overflow fault. -/
def balance (a : Address) (n : LedgerNode) : Except Fault UInt64 :=
  ((n.outputs.filter fun r => !r.metadata.isSpent && r.output.owner? == some a).foldlM
    (fun s r => checkedAdd 64 s r.output.amount.toNat) 0).map Nat.toUInt64

/-- The metadata of a stored block, changed by `f`. -/
def updateMetadata (id : BlockId) (f : BlockMetadata → BlockMetadata) (n : LedgerNode) :
    LedgerNode :=
  { n with blocks := n.blocks.map fun (k, sb) =>
      if k = id then (k, { sb with metadata := f sb.metadata }) else (k, sb) }

def isUnspent (n : LedgerNode) (id : OutputId) : Bool :=
  match n.outputOf? id with
  | some r => !r.metadata.isSpent
  | none => false

/-- The ledger effect of including `tx` in block `b` at milestone `m`: its inputs become
spent, its outputs are booked, and the transaction is recorded as included by `b`. -/
def book (tx : Transaction) (b : BlockId) (m : Nat) (n : LedgerNode) : LedgerNode :=
  let txid := tx.id
  let spent := n.outputs.map fun r =>
    if tx.essence.inputs.contains r.outputId then
      { r with metadata := { r.metadata with isSpent := true } }
    else r
  let created := tx.essence.outputs.zipIdx.map fun (o, i) =>
    (⟨⟨txid, i.toUInt16⟩, o, ⟨b, false, m⟩⟩ : OutputResponse)
  -- The first 65536 positions increase and go in in one pass. A position is a 16-bit word, so
  -- past them it wraps around, and a later output takes the place of an earlier one.
  let outputs := (created.drop 65536).foldl (fun acc r => insertOutput r acc)
    (insertRun (created.take 65536) spent)
  { n with outputs := outputs, included := n.included ++ [(txid, b)] }

/-- The verdict on a block's payload against the current ledger, and the ledger after it. -/
def judge (id : BlockId) (block : Block) (m : Nat) (n : LedgerNode) : Inclusion × LedgerNode :=
  match block.transaction? with
  | none => (.noTransaction, n)
  | some tx =>
    if (n.included.lookup tx.id).isSome || !tx.essence.inputs.all n.isUnspent then
      (.conflicting, n)
    else (.included, n.book tx id m)

/-- A milestone references a stored block: the counter moves on, the payload is judged, and
the block carries the new index and the verdict. -/
def confirm (id : BlockId) (n : LedgerNode) : Except NodeError Inclusion × LedgerNode :=
  match n.blockOf? id with
  | none => (.error (.notFound (.block id)), n)
  | some sb =>
    let m := n.milestone + 1
    let (verdict, n) := judge id sb.block m { n with milestone := m }
    (.ok verdict, n.updateMetadata id fun md =>
      { md with referencedBy := some m, inclusion := some verdict })

/-- A milestone references a block as conflicting. The counter moves on before the block is
looked up, so it moves on even when the block is unknown. -/
def conflict (id : BlockId) (n : LedgerNode) : Except NodeError Unit × LedgerNode :=
  let m := n.milestone + 1
  let n := { n with milestone := m }
  match n.blockOf? id with
  | none => (.error (.notFound (.block id)), n)
  | some _ =>
    (.ok (), n.updateMetadata id fun md =>
      { md with referencedBy := some m, inclusion := some .conflicting })

end LedgerNode

end DagWallet
