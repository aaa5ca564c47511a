import DagWallet.Node.Api

namespace DagWallet

/-- Why a signer refused. -/
inductive SignerError where
  | addressMismatch (output : OutputId) (account : UInt32) (index : UInt32)
  | inputMismatch (entries : Nat) (inputs : Nat)
  | backend (message : String)
deriving DecidableEq

def SignerError.message : SignerError → String
  | .addressMismatch o a i => s!"Input {o} is not owned by account {a} index {i}"
  | .inputMismatch k n =>
    s!"Signing data does not match the essence: {k} signing entries for {n} inputs"
  | .backend msg => s!"Signer backend error: {msg}"

/-- An address whose search failed, with the error's message. -/
structure QueryFailure where
  address : Address
  message : String
deriving DecidableEq

/-- What one attempt of the confirmation loop did. -/
inductive AttemptAction where
  | waited
  | promoted (promotion : BlockId)
  | reattached (attachment : BlockId)
  | included (block : BlockId)
deriving DecidableEq

/-- One attempt of the confirmation loop: its number from 1, the latest attachment when it
ran, and what it did. -/
structure AttemptRecord where
  attempt : Nat
  blockId : BlockId
  action : AttemptAction
deriving DecidableEq

/-- Funds of one address moved to the target in one confirmed block. -/
structure Transfer where
  addressIndex : UInt32
  source : Address
  inputs : Nat
  amount : UInt64
  blockId : BlockId
deriving DecidableEq

/-- Why a guarded promotion or reattachment declined to write. -/
inductive Refusal where
  | conflicting
  | notLagging
  | alreadyIncluded
  | noReattachHint
deriving DecidableEq

def Refusal.reason : Refusal → String
  | .conflicting => "block is conflicting"
  | .notLagging => "block is not lagging behind"
  | .alreadyIncluded => "block is already included"
  | .noReattachHint => "node does not suggest a reattachment"

/-- Why an operation of the wallet failed. -/
inductive WalletError where
  | node (e : NodeError)
  | partialResult (found : List OutputResponse) (failures : List QueryFailure)
  | pageLimitExceeded (address : Address) (pages : Nat)
  | insufficientFunds (available : UInt64) (required : UInt64)
  | inputLimitExceeded (maxInputs : Nat) (selected : UInt64) (required : UInt64)
  | notPromotable (blockId : BlockId) (why : Refusal)
  | notReattachable (blockId : BlockId) (why : Refusal)
  | promotionUnnecessary (blockId : BlockId)
  | alreadyIncluded (blockId : BlockId)
  | notIncluded (blockId : BlockId) (attempts : List AttemptRecord)
  | cancelled (blockId : BlockId) (attempts : List AttemptRecord)
  | signing (e : SignerError)
  | consolidationAborted (target : Address) (completed : List Transfer) (addressIndex : UInt32)
      (failedAddress : Option Address) (source : WalletError)
  | consolidationCancelled
  | config (message : String)

namespace WalletError

def message : WalletError → String
  | .node e => s!"Node error: {e.message}"
  | .partialResult found failures =>
    s!"Partial result: {found.length} output(s) found, {failures.length} query(ies) failed"
  | .pageLimitExceeded a pages => s!"Outputs of {a} exceed {pages} page(s)"
  | .insufficientFunds available required =>
    s!"Insufficient funds: {available} available, {required} required"
  | .inputLimitExceeded maxInputs selected required =>
    s!"Input limit exceeded: {maxInputs} inputs cover {selected}, {required} required"
  | .notPromotable b why => s!"Block {b} is not promotable: {why.reason}"
  | .notReattachable b why => s!"Block {b} is not reattachable: {why.reason}"
  | .promotionUnnecessary b => s!"Promotion of block {b} is unnecessary"
  | .alreadyIncluded b => s!"Block {b} is already included"
  | .notIncluded b attempts => s!"Block {b} not included after {attempts.length} attempt(s)"
  | .cancelled b attempts =>
    s!"Cancelled while waiting for block {b} after {attempts.length} attempt(s)"
  | .signing e => s!"Signing error: {e.message}"
  | .consolidationAborted target completed index _ source =>
    s!"Consolidation into {target} aborted at index {index} after {completed.length} transfer(s): {source.message}"
  | .consolidationCancelled => "Consolidation cancelled"
  | .config msg => s!"Configuration error: {msg}"

/-- A guard refused a write; checking again later may succeed. -/
def isGuardRejection : WalletError → Bool
  | .notPromotable .. | .notReattachable .. | .promotionUnnecessary _ | .alreadyIncluded _ => true
  | _ => false

end WalletError

namespace Session

variable {σ ε ε' α : Type}

/-- The same computation with its error turned into another. -/
def mapError (f : ε → ε') (x : Session σ ε α) : Session σ ε' α :=
  ExceptT.mk (Except.mapError f <$> x.run)

end Session

/-- A node request inside a wallet operation. -/
def Session.ofNode {σ α : Type} (x : Session σ NodeError α) : Session σ WalletError α :=
  x.mapError .node

end DagWallet
