/-!
The executor that a client's operation runs on: one thread, a clock in milliseconds that moves
only while every task waits, and a budget of waits per turn.

The operation runs in turns. A turn ends when the operation yields, and only then do other
tasks run. Each wait that finishes within a turn uses one unit of the turn's budget; a wait
that finds the budget spent yields at once and finishes in the next turn, which starts with a
fresh budget. A wait of zero milliseconds finishes at once when budget remains, so it yields
only when the budget is spent. A longer wait yields until its time has come, and no wait is
longer than thirty years.

Besides the operation, one task may be told to stop it after a delay. That task first runs
when the operation first yields; then it starts its own wait, and when the wait is over and
the operation yields again, it raises the stop. When the operation and the stopping task are
both due at the same moment, the operation goes first.
-/

namespace DagWallet

/-- When an operation is told to stop: never, before it starts, or by a task that first waits
the given number of milliseconds. -/
inductive Cancel where
  | never
  | before
  | after (ms : Nat)
deriving DecidableEq, Repr

/-- The task that stops the operation: none, spawned and not run yet with its delay, or
waiting for the moment at which it stops. -/
inductive Stopper where
  | none
  | spawned (delay : Nat)
  | waiting (deadline : Nat)
deriving DecidableEq, Repr

/-- How many waits may finish in one turn. -/
def turnBudget : Nat := 128

/-- The longest wait, thirty years of 365 days, in milliseconds. -/
def longestWait : Nat := 30 * 365 * 86400 * 1000

/-- The clock, the budget left in the current turn, the stopping task and whether the stop has
been raised. -/
structure Executor where
  now : Nat := 0
  budget : Nat := turnBudget
  stopper : Stopper := .none
  stopped : Bool := false
deriving DecidableEq, Repr

namespace Executor

/-- The moment at which a wait of `d` milliseconds that starts now is over. -/
def deadline (e : Executor) (d : Nat) : Nat := e.now + min d longestWait

/-- A wait finishes within the turn. -/
def spend (e : Executor) : Executor := { e with budget := e.budget - 1 }

/-- The operation is polled again: a new turn with a fresh budget. -/
def resume (e : Executor) : Executor := { e with budget := turnBudget }

/-- The operation yields and the stopping task runs if it can: on its first run it starts its
wait, stopping at once if the delay is zero; once the wait is over, it stops. -/
def runTasks (e : Executor) : Executor :=
  match e.stopper with
  | .none => e
  | .spawned d =>
    if d = 0 then { e with stopper := .none, stopped := true }
    else { e with stopper := .waiting (e.deadline d) }
  | .waiting t =>
    if t ≤ e.now then { e with stopper := .none, stopped := true } else e

/-- The operation yields and is woken at once: other tasks run, no time passes, and a new
turn starts. -/
def yieldNow (e : Executor) : Executor := e.runTasks.resume

/-- The moment at which the stopping task is due, if it waits. -/
def stopperDue? (e : Executor) : Option Nat :=
  match e.stopper with
  | .waiting t => some t
  | _ => none

/-- The clock moves to `t`, the first moment at which the operation is due. A stopping task
due before then runs on the way and raises the stop; one due at `t` too runs only when the
operation next yields. -/
def advanceTo (e : Executor) (t : Nat) : Executor :=
  match e.stopperDue? with
  | some s =>
    if s < t then { e with now := max e.now t, stopper := .none, stopped := true }
    else { e with now := max e.now t }
  | none => { e with now := max e.now t }

/-- The operation waits `d` milliseconds. -/
def wait (e : Executor) (d : Nat) : Executor :=
  let e := if e.budget = 0 then e.yieldNow else e
  if d = 0 then e.spend
  else
    let e := e.runTasks
    (e.advanceTo (e.deadline d)).resume.spend

/-- The operation waits `d` milliseconds unless the stop is raised first, and says whether it
was. A stop already raised ends the wait before it starts. -/
def waitOrStop (e : Executor) (d : Nat) : Executor × Bool :=
  if e.stopped then (e, true)
  else
    let e := if e.budget = 0 then e.yieldNow else e
    if e.stopped then (e, true)
    else if d = 0 then (e.spend, false)
    else
      let e := e.runTasks
      if e.stopped then (e.resume, true)
      else
        match e.stopperDue? with
        | some s =>
          if s < e.deadline d then ({ e with now := s, stopper := .none, stopped := true }.resume, true)
          else ({ e with now := e.deadline d }.resume.spend, false)
        | none => ({ e with now := e.deadline d }.resume.spend, false)

/-- A new operation with its stop request; the clock and the budget go on. -/
def arm (e : Executor) : Cancel → Executor
  | .never => { e with stopper := .none, stopped := false }
  | .before => { e with stopper := .none, stopped := true }
  | .after ms => { e with stopper := .spawned ms, stopped := false }

end Executor

end DagWallet
