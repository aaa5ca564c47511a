import DagWallet.Pool.Config
import DagWallet.Node.Schedule

namespace DagWallet

/-- Several nodes used as one: reads fail over from node to node, writes go to the first. -/
structure Pool (σ : Type) where
  net : Network σ
  config : PoolConfig

namespace Pool

variable {σ : Type}

/-- A pool over at least one node with a valid configuration. -/
def make (net : Network σ) (config : PoolConfig) : Except NodeError (Pool σ) :=
  if net.size = 0 then .error .noNodes
  else (config.validate).map fun _ => ⟨net, config⟩

/-- Asks node `i`, having retried `k` times; after a transient error it waits and asks again
while `retries` remain. -/
def retrying (c : PoolConfig) (i : Nat) (r : Request) (k : Nat) : Nat → Job NodeError r.Answer
  | 0 => Job.request i r
  | retries + 1 =>
    tryCatch (Job.request i r) fun e =>
      if e.isTransient then .wait (c.backoff k) (retrying c i r (k + 1) retries) else throw e

/-- One read from node `i`, asked as many times as the configuration allows. -/
def readOnce (p : Pool σ) (i : Nat) (r : Request) : Job NodeError r.Answer := do
  let n ← Job.ofFault p.config.attempts
  retrying p.config i r 0 (n - 1)

/-- Tries the nodes `start + k` (modulo the pool's size) for the offsets `k` in order; the index
`start + k` must fit in a 64-bit word. The first success wins; when all fail, the last error
other than not-found is reported, else the last not-found. -/
def failover (p : Pool σ) (r : Request) (start : Nat) :
    List Nat → Option NodeError → Option NodeError → Job NodeError (Nat × r.Answer)
  | [], last, notFound => throw ((last <|> notFound).getD .noNodes)
  | k :: rest, last, notFound => do
    let i := (← Job.ofFault (checkedAdd 64 start k)) % p.net.size
    tryCatch ((fun a => (i, a)) <$> p.readOnce i r) fun e =>
      if e.isNotFound then p.failover r start rest last (some e)
      else p.failover r start rest (some e) notFound

/-- A read that starts at node `start`, with the index of the node that answered. -/
def readIndexed (p : Pool σ) (start : Nat) (r : Request) : Job NodeError (Nat × r.Answer) :=
  p.failover r start (List.range p.net.size) none none

/-- A read from the first node on. -/
def read (p : Pool σ) (r : Request) : Job NodeError r.Answer :=
  Prod.snd <$> p.readIndexed 0 r

/-- A read pinned to one node, retried there but never moved to another. -/
def readOn (p : Pool σ) (index : Nat) (r : Request) : Job NodeError r.Answer :=
  p.readOnce (index % p.net.size) r

/-- How often one read waits at most: before each retry on each node. -/
def waitsPerRead (p : Pool σ) : Nat := p.net.size * (p.config.transportRetries.toNat + 1)

/-- A write: the first node only, once. -/
def submit (p : Pool σ) (b : Block) : Session σ NodeError BlockId :=
  p.net.ask 0 (.submit b)

def tips (p : Pool σ) : Session σ NodeError (List BlockId) := (p.read .tips).run p.net

def block (p : Pool σ) (id : BlockId) : Session σ NodeError Block := (p.read (.block id)).run p.net

def metadata (p : Pool σ) (id : BlockId) : Session σ NodeError BlockMetadata :=
  (p.read (.metadata id)).run p.net

def includedBlock (p : Pool σ) (tx : TransactionId) : Session σ NodeError Block :=
  (p.read (.includedBlock tx)).run p.net

/-- The pool answering a request as a single node would: a block is written to the first
node, anything else is read with failover. -/
def ask (p : Pool σ) : (r : Request) → Session σ NodeError r.Answer
  | .submit b => p.submit b
  | r => (p.read r).run p.net

end Pool

end DagWallet
