import DagWallet.Node.Job
import DagWallet.Proofs.Session

/-!
A job run on its own. Running a job turns each way jobs are built into the same way of
building computations against the network: a bound job runs as the bound runs, a guarded job
as the guarded run, and so on. A run of a job is then taken apart with the rules for
computations, step by step.
-/

namespace DagWallet

namespace Session

variable {σ ε ε' α β γ : Type}

theorem result_bind_tryCatch (x : Session σ ε' γ) (f : Except ε' γ → Session σ ε α)
    (h : ε → Session σ ε α) :
    MonadExcept.tryCatch ((x.result : Session σ ε (Except ε' γ)) >>= f) h =
      (x.result : Session σ ε (Except ε' γ)) >>= fun a => MonadExcept.tryCatch (f a) h := by
  apply ExceptT.ext
  apply StateT.ext
  intro s
  show (MonadExcept.tryCatch (x.result >>= f) h).run.run s =
    ((x.result : Session σ ε (Except ε' γ)) >>= fun a => MonadExcept.tryCatch (f a) h).run.run s
  cases hx : x.run.run s with
  | error fault =>
    rw [run_tryCatch, run_bind_fault _ (run_result_fault hx), run_bind_fault _ (run_result_fault hx)]
    rfl
  | ok p =>
    have hres : (x.result : Session σ ε (Except ε' γ)).run.run s = .ok (.ok p.1, p.2) := by
      rw [run_result, hx]
      rfl
    rw [run_tryCatch, run_bind_ok _ hres, run_bind_ok _ hres, run_tryCatch]

theorem run_ask_result_bind (net : Network σ) (i : Nat) (r : Request)
    (f : Except NodeError r.Answer → Session σ ε α) (s : σ) :
    ((net.ask i r).result >>= f).run.run s =
      (net.serve i r s).bind fun p => (f p.1).run.run p.2 := by
  cases hx : net.serve i r s with
  | error fault =>
    have hask : (net.ask i r).run.run s = .error fault := hx
    exact run_bind_fault _ (run_result_fault hask)
  | ok p =>
    have hres : ((net.ask i r).result : Session σ ε _).run.run s = .ok (.ok p.1, p.2) := by
      rw [run_result]
      show (net.serve i r s).map _ = _
      rw [hx]
      rfl
    exact run_bind_ok _ hres

theorem run_wait_bind (net : Network σ) (d : Nat) (f : Unit → Session σ ε α) (s : σ) :
    (net.wait d >>= f).run.run s = (f ()).run.run (net.onExecutor (·.wait d) s) := rfl

end Session

namespace Job

variable {σ ε ε' α β : Type} (net : Network σ)

theorem run_bind (j : Job ε α) (f : α → Job ε β) :
    (j >>= f).run net = j.run net >>= fun a => (f a).run net := by
  show (j.bind f).run net = _
  induction j with
  | done r =>
    cases r with
    | ok a =>
      show (f a).run net = (pure a : Session σ ε α) >>= fun a => (f a).run net
      rw [pure_bind]
    | error e => rfl
  | ask i r k ih =>
    show (net.ask i r).result >>= (fun x => ((k x).bind f).run net) =
      ((net.ask i r).result >>= fun x => (k x).run net) >>= _
    rw [bind_assoc]
    simp only [ih]
  | wait d j ih =>
    show (net.wait d >>= fun _ => (j.bind f).run net) = (net.wait d >>= fun _ => j.run net) >>= _
    rw [bind_assoc, ih]
  | halt x => rfl

theorem run_map (g : α → β) (j : Job ε α) : (g <$> j).run net = g <$> j.run net := by
  show (j >>= fun a => pure (g a)).run net = _
  rw [run_bind, map_eq_pure_bind]
  rfl

theorem run_tryCatch (j : Job ε α) (h : ε → Job ε α) :
    (j.tryCatch h).run net = MonadExcept.tryCatch (j.run net) fun e => (h e).run net := by
  induction j with
  | done r =>
    cases r with
    | ok a => rfl
    | error e => rfl
  | ask i r k ih =>
    show (net.ask i r).result >>= (fun x => ((k x).tryCatch h).run net) =
      MonadExcept.tryCatch ((net.ask i r).result >>= fun x => (k x).run net) _
    rw [Session.result_bind_tryCatch]
    simp only [ih]
  | wait d j ih =>
    show (net.wait d >>= fun _ => (j.tryCatch h).run net) =
      MonadExcept.tryCatch (net.wait d >>= fun _ => j.run net) _
    rw [ih]
    rfl
  | halt x => rfl

theorem run_mapError (g : ε → ε') (j : Job ε α) :
    (j.mapError g).run net = (j.run net).mapError g := by
  induction j with
  | done r => rfl
  | ask i r k ih =>
    apply ExceptT.ext
    apply StateT.ext
    intro s
    show ((net.ask i r).result >>= fun x => ((k x).mapError g).run net).run.run s =
      (Session.mapError g ((net.ask i r).result >>= fun x => (k x).run net)).run.run s
    simp only [ih, Session.run_mapError, Session.run_ask_result_bind]
    cases net.serve i r s <;> rfl
  | wait d j ih =>
    apply ExceptT.ext
    apply StateT.ext
    intro s
    show (net.wait d >>= fun _ => (j.mapError g).run net).run.run s =
      (Session.mapError g (net.wait d >>= fun _ => j.run net)).run.run s
    rw [ih, Session.run_mapError, Session.run_wait_bind, Session.run_wait_bind,
      Session.run_mapError]
  | halt x => rfl

theorem run_mapError_eq_ok {g : ε → ε'} {j : Job ε α} {r : Except ε' α} {s s' : σ}
    (h : ((j.mapError g).run net).run.run s = .ok (r, s')) :
    ∃ r₀, (j.run net).run.run s = .ok (r₀, s') ∧ r = r₀.mapError g := by
  rw [run_mapError] at h
  exact Session.run_mapError_eq_ok h

theorem run_mapError_of_ok (g : ε → ε') {j : Job ε α} {a : α} {s s' : σ}
    (h : (j.run net).run.run s = .ok (.ok a, s')) :
    ((j.mapError g).run net).run.run s = .ok (.ok a, s') := by
  rw [run_mapError, Session.run_mapError, h]
  rfl

theorem run_result (j : Job ε α) : (j.result : Job ε' (Except ε α)).run net = (j.run net).result := by
  induction j with
  | done r => rfl
  | ask i r k ih =>
    apply ExceptT.ext
    apply StateT.ext
    intro s
    show ((net.ask i r).result >>= fun x => ((k x).result : Job ε' _).run net).run.run s =
      (Session.result ((net.ask i r).result >>= fun x => (k x).run net) : Session σ ε' _).run.run s
    simp only [ih, Session.run_result, Session.run_ask_result_bind]
    cases net.serve i r s <;> rfl
  | wait d j ih =>
    apply ExceptT.ext
    apply StateT.ext
    intro s
    show (net.wait d >>= fun _ => (j.result : Job ε' _).run net).run.run s =
      (Session.result (net.wait d >>= fun _ => j.run net) : Session σ ε' _).run.run s
    rw [ih, Session.run_result, Session.run_wait_bind, Session.run_wait_bind, Session.run_result]
  | halt x => rfl

theorem run_ofFault_bind (x : Except Fault α) (f : α → Job ε β) (s : σ) :
    ((Job.ofFault x >>= f).run net).run.run s = match x with
      | .ok a => ((f a).run net).run.run s
      | .error e => .error e := by
  cases x <;> rfl

theorem run_request (i : Nat) (r : Request) (s : σ) :
    ((Job.request i r).run net).run.run s = net.serve i r s := by
  show ((net.ask i r).result >>= fun x => (Job.done x).run net).run.run s = _
  rw [Session.run_ask_result_bind]
  cases net.serve i r s <;> rfl

end Job

end DagWallet
