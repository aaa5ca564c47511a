import DagWallet.Pool.Basic
import DagWallet.Wallet.Config

namespace DagWallet

/-- A wallet: a pool of nodes and the configuration that drives its searches, selections
and confirmations. -/
structure Wallet (σ : Type) where
  pool : Pool σ
  config : Config

namespace Wallet

variable {σ : Type}

/-- A wallet over a network: the pool is checked first, then the whole configuration. -/
def make (net : Network σ) (config : Config) : Except WalletError (Wallet σ) :=
  match Pool.make net config.pool with
  | .error e => .error (.node e)
  | .ok pool => config.validate.map fun _ => ⟨pool, config⟩

/-- Pages of one address that a search follows at most. -/
def maxPages (w : Wallet σ) : Nat := max 1 w.config.search.maxPagesPerAddress.toNat

/-- Lookups that run side by side at most. -/
def width (w : Wallet σ) : Nat := max 1 w.config.search.maxConcurrentRequests.toNat

/-- Inputs that one transaction consumes at most. -/
def maxInputs (w : Wallet σ) : Nat := max 1 w.config.selection.maxInputs.toNat

/-- The overflow error of a sum of amounts. -/
def amountOverflow : WalletError := .node (.invalidResponse "output amounts overflow u64")

/-- Sums amounts, failing on a total that does not fit in 64 bits. -/
def checkedSum (amounts : List UInt64) : Except WalletError UInt64 :=
  match sumAmounts? amounts with
  | some s => .ok s
  | none => .error amountOverflow

end Wallet

end DagWallet
