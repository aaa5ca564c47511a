import DagWallet.Node.Error

namespace DagWallet

/-- How a pool talks to its nodes. -/
structure PoolConfig where
  requestTimeoutMs : UInt64 := 30000
  transportRetries : UInt32 := 3
  initialRetryDelayMs : UInt64 := 100
  maxRetryDelayMs : UInt64 := 2000
deriving DecidableEq, Repr

namespace PoolConfig

/-- Why a pool configuration is refused. -/
def problem? (c : PoolConfig) : Option String :=
  if c.requestTimeoutMs = 0 then some "request_timeout_ms must be positive"
  else if c.initialRetryDelayMs > c.maxRetryDelayMs then
    some s!"initial_retry_delay_ms ({c.initialRetryDelayMs}) exceeds max_retry_delay_ms ({c.maxRetryDelayMs})"
  else none

def validate (c : PoolConfig) : Except NodeError Unit :=
  match c.problem? with
  | some msg => .error (.config msg)
  | none => .ok ()

/-- The wait before retry `k`, counted from zero, in microseconds: the first delay, then half
as long again each time, until it would pass the longest delay, which then stays. -/
def delayMicros (c : PoolConfig) : Nat → Nat
  | 0 => c.initialRetryDelayMs.toNat * 1000
  | k + 1 =>
    let d := c.delayMicros k
    if d * 3 ≥ c.maxRetryDelayMs.toNat * 2000 then c.maxRetryDelayMs.toNat * 1000 else d * 3 / 2

/-- The wait before retry `k` in whole milliseconds, rounded up. A client spreads its delays at
random around these, so only whether a wait is zero is certain: it is zero exactly when the
first delay is. -/
def backoff (c : PoolConfig) (k : Nat) : Nat := (c.delayMicros k + 999) / 1000

/-- How often one node is asked for one read: the first try and the retries, counted on a
32-bit word, so that the largest retry count overflows. -/
def attempts (c : PoolConfig) : Except Fault Nat := checkedAdd 32 c.transportRetries.toNat 1

end PoolConfig

end DagWallet
