import DagWallet.Ledger.Block

namespace DagWallet

/-- Something a node was asked for and does not have. -/
inductive Missing where
  | block (id : BlockId)
  | output (id : OutputId)
  | includedBlock (tx : TransactionId)
deriving DecidableEq

def Missing.describe : Missing → String
  | .block id => s!"block {id}"
  | .output id => s!"output {id}"
  | .includedBlock tx => s!"included block of transaction {tx}"

/-- Why a request to a node, or the setup of a pool of nodes, failed. -/
inductive NodeError where
  | notFound (what : Missing)
  | transport (node : String) (message : String)
  | invalidResponse (message : String)
  | invalidId (e : BadId)
  | noNodes
  | config (message : String)
deriving DecidableEq

namespace NodeError

def message : NodeError → String
  | .notFound w => s!"Not found: {w.describe}"
  | .transport node msg => s!"Transport error from node {node}: {msg}"
  | .invalidResponse msg => s!"Invalid response: {msg}"
  | .invalidId e => s!"Invalid identifier: {e.message}"
  | .noNodes => "No nodes configured"
  | .config msg => s!"Configuration error: {msg}"

/-- Errors worth asking the same node again for: the node could not be reached. -/
def isTransient : NodeError → Bool
  | .transport .. => true
  | _ => false

def isNotFound : NodeError → Bool
  | .notFound _ => true
  | _ => false

end NodeError

/-- An arithmetic overflow: it stops the whole program, whatever was going on. -/
inductive Fault where
  | addOverflow
deriving DecidableEq

def Fault.message : Fault → String
  | .addOverflow => "attempt to add with overflow"

/-- The sum of two words of `bits` bits, or the overflow fault when it does not fit. -/
def checkedAdd (bits a b : Nat) : Except Fault Nat :=
  if a + b < Nat.pow 2 bits then .ok (a + b) else .error .addOverflow

end DagWallet
