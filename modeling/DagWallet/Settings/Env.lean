import DagWallet.Wallet.Config
import DagWallet.Text.Decimal

namespace DagWallet

namespace Settings

/-- A setting read from the environment: the variable's name, the width of its number, and
where the number goes. -/
structure EnvSetting where
  name : String
  bits : Nat
  set : Nat → Config → Config

/-- The variables, in the order they are read. -/
def envSettings : List EnvSetting :=
  [⟨"LEDGER_CLIENT_REQUEST_TIMEOUT_MS", 64,
      fun n c => { c with pool.requestTimeoutMs := n.toUInt64 }⟩,
   ⟨"LEDGER_CLIENT_TRANSPORT_RETRIES", 32,
      fun n c => { c with pool.transportRetries := n.toUInt32 }⟩,
   ⟨"LEDGER_CLIENT_RETRY_INTERVAL_SECS", 64,
      fun n c => { c with retry.intervalSecs := n.toUInt64 }⟩,
   ⟨"LEDGER_CLIENT_RETRY_MAX_ATTEMPTS", 32,
      fun n c => { c with retry.maxAttempts := n.toUInt32 }⟩,
   ⟨"LEDGER_CLIENT_MAX_CONCURRENT_REQUESTS", 64,
      fun n c => { c with search.maxConcurrentRequests := n.toUInt64 }⟩,
   ⟨"LEDGER_CLIENT_MAX_INPUTS", 64,
      fun n c => { c with selection.maxInputs := n.toUInt64 }⟩,
   ⟨"LEDGER_CLIENT_NETWORK_ID", 64,
      fun n c => { c with networkId := n.toUInt64 }⟩]

/-- The default configuration changed by the variables that are set; the first value that
is no number of its width is refused, then the result is validated. -/
def configOfEnv (lookup : String → Option String) : Except WalletError Config := do
  let c ← envSettings.foldlM (fun c e =>
    match lookup e.name with
    | none => pure c
    | some v =>
      match Decimal.parseBelow (Nat.pow 2 e.bits) v with
      | .ok n => pure (e.set n c)
      | .error _ => throw (.config s!"{e.name}: invalid value '{v}'")) ({} : Config)
  c.validate
  pure c

end Settings

end DagWallet
