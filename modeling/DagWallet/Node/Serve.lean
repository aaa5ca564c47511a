import DagWallet.Node.Ledger

namespace DagWallet

namespace LedgerNode

/-- Every request is counted on arrival, also one that then fails. A node refuses when it is
unreachable or when as many requests as its limit arrived before this one. -/
def enter (op : String) (n : LedgerNode) : Except NodeError Unit × LedgerNode :=
  let served := n.requests
  let n := { n with requests := served + 1 }
  let refused := n.unreachable || match n.requestLimit with
    | some limit => decide (limit ≤ served)
    | none => false
  if refused then (.error (.transport n.name s!"{op}: connection refused"), n) else (.ok (), n)

/-- Stores a new block with pending metadata and makes it a tip in place of its parents. -/
def store (id : BlockId) (b : Block) (n : LedgerNode) : LedgerNode :=
  { n with
    blocks := n.blocks ++ [(id, ⟨b, { blockId := id, parents := b.parents }⟩)]
    tips := n.tips.filter (fun t => !b.parents.contains t) ++ [id]
    submissions := n.submissions ++ [id] }

/-- Accepts a block: one whose outputs overflow or whose parents are unknown is refused, a
known one is answered with its identifier and changes nothing, and a new one is stored and,
when the node confirms on its own, referenced at once. -/
def accept (b : Block) (n : LedgerNode) : Except NodeError BlockId × LedgerNode :=
  let id := b.id
  let overflows := match b.transaction? with
    | some tx => tx.essence.outputAmount?.isNone
    | none => false
  if overflows then
    (.error (.invalidResponse s!"block {id} creates outputs whose amounts overflow"), n)
  else if (n.blockOf? id).isSome then (.ok id, n)
  else
    match b.parents.find? fun p => (n.blockOf? p).isNone with
    | some p => (.error (.invalidResponse s!"block {id} references unknown parent {p}"), n)
    | none =>
      let n := n.store id b
      if n.autoConfirm then (.ok id, (n.confirm id).2) else (.ok id, n)

/-- Metadata as served: a block that is not referenced yet carries the node's hint. -/
def metadataOf (n : LedgerNode) (md : BlockMetadata) : BlockMetadata :=
  if md.isReferenced then md
  else { md with shouldPromote := some (n.hint == .promote),
                 shouldReattach := some (n.hint == .reattach) }

/-- The unspent outputs owned by `a` that `f` accepts, in order of identifier. -/
def listing (n : LedgerNode) (a : Address) (f : OutputFilter) : List OutputResponse :=
  n.outputs.filter fun r => !r.metadata.isSpent && r.output.owner? == some a && f.accepts r.output

/-- The page of a listing that starts at `offset`. Its end, `offset + pageSize`, must fit in a
64-bit word, or the node faults. -/
def page (pageSize : Nat) (offset : Nat) (all : List OutputResponse) : Except Fault OutputPage := do
  let stop := min (← checkedAdd 64 offset pageSize) all.length
  let items := if offset ≤ stop then (all.drop offset).take (stop - offset) else []
  pure ⟨items, if stop < all.length then some (toString stop) else none⟩

/-- The answer to a request, once it has been let in. -/
def answer (n : LedgerNode) : (r : Request) → Except Fault (Except NodeError r.Answer × LedgerNode)
  | .tips => pure (.ok n.tips, n)
  | .submit b => pure (n.accept b)
  | .block id =>
    match n.blockOf? id with
    | some sb => pure (.ok sb.block, n)
    | none => pure (.error (.notFound (.block id)), n)
  | .metadata id =>
    match n.blockOf? id with
    | some sb => pure (.ok (n.metadataOf sb.metadata), n)
    | none => pure (.error (.notFound (.block id)), n)
  | .output id =>
    if n.failingOutputs.contains id then
      pure (.error (.transport n.name s!"get_output {id}: internal server error"), n)
    else
      match n.outputOf? id with
      | some r => pure (.ok r, n)
      | none => pure (.error (.notFound (.output id)), n)
  | .outputsOf a f cursor =>
    if n.failingAddresses.contains a then
      pure (.error (.transport n.name s!"outputs of {a}: internal server error"), n)
    else
      match cursor with
      | none => return (.ok (← page n.pageSize 0 (n.listing a f)), n)
      | some c =>
        match Decimal.parseU64 c with
        | .ok offset => return (.ok (← page n.pageSize offset (n.listing a f)), n)
        | .error _ => pure (.error (.invalidResponse s!"invalid cursor '{c}'"), n)
  | .includedBlock tx =>
    match (n.included.lookup tx).bind n.blockOf? with
    | some sb => pure (.ok sb.block, n)
    | none => pure (.error (.notFound (.includedBlock tx)), n)

/-- Serves a request: counted and let in first, then answered. -/
def serve (r : Request) (n : LedgerNode) : Except Fault (Except NodeError r.Answer × LedgerNode) :=
  match n.enter r.operation with
  | (.error e, n) => pure (.error e, n)
  | (.ok (), n) => n.answer r

end LedgerNode

end DagWallet
