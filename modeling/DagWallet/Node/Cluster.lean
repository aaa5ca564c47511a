import DagWallet.Node.Serve

namespace DagWallet

/-- Ledger nodes side by side, with the executor of the client that talks to them. -/
structure Cluster where
  nodes : List LedgerNode
  executor : Executor

namespace Cluster

/-- Fresh nodes of the given names and a fresh executor. -/
def ofNames (names : List String) : Cluster := ⟨names.map LedgerNode.new, {}⟩

/-- Changes node `i` and hands back what the change reports; nothing for a missing node. -/
def withNode {α : Type} (i : Nat) (f : LedgerNode → α × LedgerNode) (c : Cluster) :
    Option α × Cluster :=
  match c.nodes[i]? with
  | some n =>
    let (a, n) := f n
    (some a, { c with nodes := c.nodes.set i n })
  | none => (none, c)

/-- Node `i` serves a request. -/
def serve (i : Nat) (r : Request) (c : Cluster) : Except Fault (Except NodeError r.Answer × Cluster) :=
  match c.nodes[i]? with
  | some n => (LedgerNode.serve r n).map fun (res, n) => (res, { c with nodes := c.nodes.set i n })
  | none => pure (.error .noNodes, c)

/-- The cluster as a network of its nodes. -/
def network (c : Cluster) : Network Cluster :=
  ⟨c.nodes.length, serve, Cluster.executor, fun e c => { c with executor := e }⟩

end Cluster

end DagWallet
