import DagWallet.Node.Error
import DagWallet.Node.Executor

namespace DagWallet

/-- Where an output was booked and whether it has been spent. -/
structure OutputMetadata where
  blockId : BlockId
  isSpent : Bool
  bookedAt : Nat
deriving DecidableEq

/-- An output as a node reports it. -/
structure OutputResponse where
  outputId : OutputId
  output : Output
  metadata : OutputMetadata
deriving DecidableEq

/-- One page of a listing, and the cursor of the next page if there is one. -/
structure OutputPage where
  items : List OutputResponse
  cursor : Option String
deriving DecidableEq

/-- The requests that a node serves. -/
inductive Request where
  | tips
  | submit (block : Block)
  | block (id : BlockId)
  | metadata (id : BlockId)
  | output (id : OutputId)
  | outputsOf (address : Address) (filter : OutputFilter) (cursor : Option String)
  | includedBlock (tx : TransactionId)

namespace Request

/-- What a successful answer to each request holds. -/
def Answer : Request → Type
  | .tips => List BlockId
  | .submit _ => BlockId
  | .block _ => Block
  | .metadata _ => BlockMetadata
  | .output _ => OutputResponse
  | .outputsOf .. => OutputPage
  | .includedBlock _ => Block

/-- The name of the operation, as a node reports it when refusing a connection. -/
def operation : Request → String
  | .tips => "get_tips"
  | .submit _ => "submit_block"
  | .block _ => "get_block"
  | .metadata _ => "get_block_metadata"
  | .output _ => "get_output"
  | .outputsOf .. => "find_outputs_by_address"
  | .includedBlock _ => "get_included_block"

end Request

/-- Several nodes and the executor of the client seen through one state `σ`: node `i` answers
request `r`, or stops everything with a fault. -/
structure Network (σ : Type) where
  size : Nat
  serve : Nat → (r : Request) → σ → Except Fault (Except NodeError r.Answer × σ)
  executor : σ → Executor
  setExecutor : Executor → σ → σ

/-- A computation against a network: it moves the state on and may fail with `ε`; a fault
ends it and everything around it. -/
abbrev Session (σ ε α : Type) := ExceptT ε (StateT σ (Except Fault)) α

namespace Session

variable {σ ε α : Type}

/-- Stops everything with a fault. -/
def halt (f : Fault) : Session σ ε α := ExceptT.lift (StateT.lift (Except.error f))

/-- Runs a computation and hands over its outcome instead of failing. -/
def result {ε' : Type} (x : Session σ ε α) : Session σ ε' (Except ε α) :=
  ExceptT.mk (Except.ok <$> x.run)

end Session

namespace Network

variable {σ : Type}

/-- Node `i` answers one request. -/
def ask (net : Network σ) (i : Nat) (r : Request) : Session σ NodeError r.Answer :=
  ExceptT.mk (StateT.mk fun s => net.serve i r s)

/-- The state with its executor changed by `f`. -/
def onExecutor (net : Network σ) (f : Executor → Executor) (s : σ) : σ :=
  net.setExecutor (f (net.executor s)) s

/-- The client waits `d` milliseconds. -/
def wait {ε : Type} (net : Network σ) (d : Nat) : Session σ ε Unit :=
  modify (net.onExecutor (·.wait d))

/-- The client waits `d` milliseconds unless told to stop, and says whether it was. -/
def waitOrStop {ε : Type} (net : Network σ) (d : Nat) : Session σ ε Bool := do
  let (e, stop) := (net.executor (← get)).waitOrStop d
  modify (net.setExecutor e)
  pure stop

/-- Whether the client has been told to stop. -/
def isStopped {ε : Type} (net : Network σ) : Session σ ε Bool := do
  pure (net.executor (← get)).stopped

end Network

end DagWallet
