import DagWallet.Pool.Config
import DagWallet.Wallet.Error

namespace DagWallet

/-- How long and how often the confirmation loop polls. -/
structure RetryConfig where
  intervalSecs : UInt64 := 5
  maxAttempts : UInt32 := 40
deriving DecidableEq, Repr

/-- Limits of an output search. -/
structure SearchConfig where
  maxPagesPerAddress : UInt64 := 1000
  maxConcurrentRequests : UInt64 := 16
deriving DecidableEq, Repr

/-- The most inputs one transaction may consume. -/
def maxTransactionInputs : Nat := 128

/-- Limits of input selection. -/
structure SelectionConfig where
  maxInputs : UInt64 := 128
deriving DecidableEq, Repr

/-- Everything a wallet needs to know besides its nodes. -/
structure Config where
  pool : PoolConfig := {}
  retry : RetryConfig := {}
  search : SearchConfig := {}
  selection : SelectionConfig := {}
  networkId : UInt64 := 0
deriving DecidableEq, Repr

namespace Config

/-- Why a configuration is refused; the pool's own problems come first. -/
def problem? (c : Config) : Option String :=
  match c.pool.problem? with
  | some msg => some s!"Configuration error: {msg}"
  | none =>
    if c.retry.maxAttempts = 0 then some "retry.max_attempts must be positive"
    else if c.search.maxConcurrentRequests = 0 || c.search.maxPagesPerAddress = 0 then
      some "search limits must be positive"
    else if c.selection.maxInputs = 0 || c.selection.maxInputs.toNat > maxTransactionInputs then
      some s!"selection.max_inputs must be within 1..={maxTransactionInputs}"
    else none

def validate (c : Config) : Except WalletError Unit :=
  match c.problem? with
  | some msg => .error (.config msg)
  | none => .ok ()

/-- The default polling interval in milliseconds. -/
def intervalMs (c : Config) : Nat := c.retry.intervalSecs.toNat * 1000

end Config

end DagWallet
