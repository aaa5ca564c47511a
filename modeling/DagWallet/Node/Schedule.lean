import DagWallet.Node.Job

/-!
Jobs side by side on one network, as a client runs them when it keeps a bounded number of
lookups going at once and hands their results on in the order of the jobs.

The jobs share the client's turns (see the executor). A round polls the ready jobs in the order
in which they became ready; a polled job runs until it ends or waits. A job that ends hands its
result over at once. The round stops when a job ends, when every job in progress has been
polled once, or when none is ready; in the last two cases the client yields. A job whose wait
found the turn's budget spent is ready again when the client yields; a job whose wait has
begun is ready again once its time has come, and time moves only when no job is ready.

Results are handed on in the order of the jobs, and a job starts only when fewer than the
allowed number of jobs are started and not yet handed on.
-/

namespace DagWallet

namespace Job

variable {ε α σ : Type}

/-- A started job: its index, what is left of it, and the moment its current wait is over once
the wait has begun. -/
structure Lane (ε α : Type) where
  index : Nat
  job : Job ε α
  due : Option Nat

/-- What polling a job comes to: its result, a wait that has begun, or a wait that found the
turn's budget spent. -/
inductive Polled (ε α : Type) where
  | finished (result : Except ε α)
  | sleeping (lane : Lane ε α)
  | held (lane : Lane ε α)

/-- Polls job `index`: it asks its nodes and finishes the waits that it can within the turn. -/
def poll (net : Network σ) (index : Nat) : Option Nat → Job ε α → σ → Except Fault (Polled ε α × σ)
  | _, .done r, s => .ok (.finished r, s)
  | _, .halt x, _ => .error x
  | _, .ask i r k, s => do
    let (x, s) ← net.serve i r s
    poll net index none (k x) s
  | due, .wait d k, s =>
    let e := net.executor s
    if e.budget = 0 then .ok (.held ⟨index, .wait d k, due⟩, s)
    else
      match due with
      | some t =>
        if t ≤ e.now then poll net index none k (net.setExecutor e.spend s)
        else .ok (.sleeping ⟨index, .wait d k, due⟩, s)
      | none =>
        if d = 0 then poll net index none k (net.setExecutor e.spend s)
        else .ok (.sleeping ⟨index, .wait d k, some (e.deadline d)⟩, s)

/-- Jobs in progress: those ready, in the order they will be polled, those whose wait has
begun, in the order their waits began, those that found the budget spent, results not handed
on yet with the index of their job, the results handed on, and how many jobs were started. -/
structure Lanes (ε α : Type) where
  ready : List (Lane ε α)
  sleeping : List (Lane ε α)
  held : List (Lane ε α)
  finished : List (Nat × Except ε α)
  delivered : List (Except ε α)
  started : Nat

/-- Nothing started yet. -/
def Lanes.empty : Lanes ε α := ⟨[], [], [], [], [], 0⟩

/-- How many jobs are started and not handed on. -/
def Lanes.inFlight (l : Lanes ε α) : Nat :=
  l.ready.length + l.sleeping.length + l.held.length + l.finished.length

/-- The first moment at which a waiting job is due. -/
def Lanes.nextDue? (l : Lanes ε α) : Option Nat :=
  (l.sleeping.filterMap (·.due)).min?

/-- The client is woken at `now`: the jobs whose waits are over are ready, in the order their
waits began, and after them those that found the budget spent. -/
def Lanes.wake (l : Lanes ε α) (now : Nat) : Lanes ε α :=
  let due := l.sleeping.filter fun c => c.due.any (· ≤ now)
  let still := l.sleeping.filter fun c => !c.due.any (· ≤ now)
  { l with ready := l.ready ++ due ++ l.held, sleeping := still, held := [] }

/-- The jobs that fit start, in order, while fewer than `width` are started and not handed on. -/
def Lanes.start (width : Nat) (jobs : Array (Job ε α)) (l : Lanes ε α) : Lanes ε α :=
  let upTo := min jobs.size (l.started + (width - l.inFlight))
  let fresh := (List.range' l.started (upTo - l.started)).filterMap fun i =>
    (jobs[i]?).map fun j => (⟨i, j, none⟩ : Lane ε α)
  { l with ready := l.ready ++ fresh, started := max l.started upTo }

/-- How a round of polls ends: a job ends, every job in progress was polled once, or no job
is ready. -/
inductive RoundEnd (ε α : Type) where
  | result (index : Nat) (r : Except ε α)
  | yielded
  | idle

/-- Polls the jobs of `ready` in order until one ends, `left` of them have been polled without
ending, or none is left. -/
def round (net : Network σ) : List (Lane ε α) → Nat → Lanes ε α → σ →
    Except Fault (RoundEnd ε α × Lanes ε α × σ)
  | [], _, l, s => .ok (.idle, { l with ready := [] }, s)
  | c :: rest, left, l, s => do
    let (p, s) ← poll net c.index c.due c.job s
    match p with
    | .finished r => pure (.result c.index r, { l with ready := rest }, s)
    | .sleeping c =>
      let l := { l with sleeping := l.sleeping ++ [c] }
      if left ≤ 1 then pure (.yielded, { l with ready := rest }, s) else round net rest (left - 1) l s
    | .held c =>
      let l := { l with held := l.held ++ [c] }
      if left ≤ 1 then pure (.yielded, { l with ready := rest }, s) else round net rest (left - 1) l s

/-- Runs `jobs` side by side, at most `width` started and not handed on, for at most `fuel`
steps. With `stopOnError` the first error handed on ends the whole, and jobs not started by
then never start. The results handed on come back in the order of the jobs. -/
def interleave (net : Network σ) (width : Nat) (jobs : Array (Job ε α)) (stopOnError : Bool) :
    Nat → Lanes ε α → σ → Except Fault (List (Except ε α) × σ)
  | 0, l, s => .ok (l.delivered, s)
  | fuel + 1, l, s =>
    let l := l.start width jobs
    let next := l.delivered.length
    let deliver := fun (r : Except ε α) (l : Lanes ε α) (s : σ) =>
      let l := { l with delivered := l.delivered ++ [r] }
      if (stopOnError && r matches .error _) || l.delivered.length = jobs.size then .ok (l.delivered, s)
      else interleave net width jobs stopOnError fuel l s
    match l.finished.lookup next with
    | some r => deliver r { l with finished := l.finished.filter (·.1 != next) } s
    | none =>
      let inSet := l.ready.length + l.sleeping.length + l.held.length
      match round net l.ready inSet l s with
      | .error x => .error x
      | .ok (.result i r, l, s) =>
        if i = next then deliver r l s
        else interleave net width jobs stopOnError fuel { l with finished := l.finished ++ [(i, r)] } s
      | .ok (.yielded, l, s) =>
        let s := net.onExecutor Executor.yieldNow s
        interleave net width jobs stopOnError fuel (l.wake (net.executor s).now) s
      | .ok (.idle, l, s) =>
        if !l.held.isEmpty then
          let s := net.onExecutor Executor.yieldNow s
          interleave net width jobs stopOnError fuel (l.wake (net.executor s).now) s
        else
          match l.nextDue? with
          | some t =>
            let s := net.onExecutor (fun e => (e.runTasks.advanceTo t).resume) s
            interleave net width jobs stopOnError fuel (l.wake t) s
          | none => .ok (l.delivered, s)

/-- Runs jobs side by side as a computation, each job waiting at most `waits` times. -/
def interleaved {ε' : Type} (net : Network σ) (width : Nat) (jobs : List (Job ε α))
    (stopOnError : Bool) (waits : Nat) : Session σ ε' (List (Except ε α)) :=
  ExceptT.lift (StateT.mk fun s =>
    interleave net width jobs.toArray stopOnError (jobs.length * (8 * waits + 8) + 8) .empty s)

end Job

end DagWallet
