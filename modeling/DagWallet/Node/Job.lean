import DagWallet.Node.Api

/-!
Jobs: computations against the nodes of a network that may wait between two requests, as a
client does when it backs off before asking again. A job is data, so it has two meanings: run
on its own, where a wait is the client's, or side by side with other jobs, where a wait lets
the others go on.
-/

namespace DagWallet

/-- A computation against the nodes of a network: it ends with a result or an error of type
`ε`, asks node `node` and goes on with the answer, waits some milliseconds, or stops everything
with a fault. -/
inductive Job (ε α : Type) where
  | done (result : Except ε α)
  | ask (node : Nat) (r : Request) (next : Except NodeError r.Answer → Job ε α)
  | wait (ms : Nat) (next : Job ε α)
  | halt (fault : Fault)

namespace Job

variable {ε ε' α β σ : Type}

def bind : Job ε α → (α → Job ε β) → Job ε β
  | .done (.ok a), f => f a
  | .done (.error e), _ => .done (.error e)
  | .ask i r k, f => .ask i r fun x => (k x).bind f
  | .wait d j, f => .wait d (j.bind f)
  | .halt x, _ => .halt x

instance : Monad (Job ε) where
  pure a := .done (.ok a)
  bind := Job.bind

/-- Handles the error that a job ends with. -/
def tryCatch : Job ε α → (ε → Job ε α) → Job ε α
  | .done (.error e), h => h e
  | .done (.ok a), _ => .done (.ok a)
  | .ask i r k, h => .ask i r fun x => (k x).tryCatch h
  | .wait d j, h => .wait d (j.tryCatch h)
  | .halt x, _ => .halt x

instance : MonadExceptOf ε (Job ε) where
  throw e := .done (.error e)
  tryCatch := Job.tryCatch

/-- The job with its error turned into another. -/
def mapError (f : ε → ε') : Job ε α → Job ε' α
  | .done r => .done (r.mapError f)
  | .ask i r k => .ask i r fun x => (k x).mapError f
  | .wait d j => .wait d (j.mapError f)
  | .halt x => .halt x

/-- The job that hands over its outcome instead of failing. -/
def result : Job ε α → Job ε' (Except ε α)
  | .done r => .done (.ok r)
  | .ask i r k => .ask i r fun x => (k x).result
  | .wait d j => .wait d j.result
  | .halt x => .halt x

/-- Asks node `i` once. -/
def request (i : Nat) (r : Request) : Job NodeError r.Answer := .ask i r .done

/-- The job that stops everything with the fault, or goes on with the value. -/
def ofFault : Except Fault α → Job ε α
  | .ok a => pure a
  | .error x => .halt x

/-- Runs a job on its own: its waits are the client's. -/
def run (net : Network σ) : Job ε α → Session σ ε α
  | .done r => ExceptT.mk (pure r)
  | .ask i r k => do
    let x ← (net.ask i r).result
    (k x).run net
  | .wait d j => do
    net.wait d
    j.run net
  | .halt x => Session.halt x

end Job

end DagWallet
