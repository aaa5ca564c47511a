import DagWallet.Proofs.Node.Interleave
import DagWallet.Proofs.Node.Solo

/-!
Jobs that never wait, run side by side, run in turn. A poll runs such a job to its end at once,
so the scheduler polls the first job not handed on, hands its result on, starts the next job
and polls again: the requests go out job after job, in the order of the jobs, as when each job
is run on its own after the one before it. Neither the width nor the fuel matters then, as long
as there is one step of fuel for each job.
-/

namespace DagWallet

theorem Session.run_lift {σ ε β : Type} (f : σ → Except Fault (β × σ)) (s : σ) :
    (ExceptT.lift (StateT.mk f) : Session σ ε β).run.run s = (f s).map fun p => (.ok p.1, p.2) := by
  show (f s >>= fun p => pure (Except.ok p.1, p.2) : Except Fault (Except ε β × σ)) = _
  cases f s <;> rfl

namespace Job

variable {ε ε' α β σ : Type} {net : Network σ}

/-- Jobs run on their own one after another, each outcome handed over; with `stop`, the first
error ends the run. -/
def inTurn (net : Network σ) (stop : Bool) :
    List (Job ε α) → σ → Except Fault (List (Except ε α) × σ)
  | [], s => .ok ([], s)
  | j :: js, s => do
    let (r, s) ← (j.run net).run.run s
    if stop && !r.isOk then pure ([r], s)
    else
      let (rs, s) ← inTurn net stop js s
      pure (r :: rs, s)

theorem inTurn_cons_fault {stop : Bool} {j : Job ε α} {js : List (Job ε α)} {s : σ} {x : Fault}
    (h : (j.run net).run.run s = .error x) : inTurn net stop (j :: js) s = .error x := by
  simp only [inTurn, h]
  rfl

theorem inTurn_cons_ok {stop : Bool} {j : Job ε α} {js : List (Job ε α)} {s s' : σ}
    {r : Except ε α} (h : (j.run net).run.run s = .ok (r, s')) :
    inTurn net stop (j :: js) s =
      if stop && !r.isOk then .ok ([r], s')
      else (inTurn net stop js s').map fun p => (r :: p.1, p.2) := by
  rw [inTurn, h]
  show (if (stop && !r.isOk) = true then _ else _) = _
  split
  · rfl
  · cases inTurn net stop js s' <;> rfl

theorem poll_of_waitsAtMost_zero (index : Nat) :
    ∀ {j : Job ε α} (due : Option Nat) (s : σ), WaitsAtMost 0 j →
      poll net index due j s = ((j.run net).run.run s).map fun p => (.finished p.1, p.2)
  | .done _, _, _, _ => rfl
  | .halt _, _, _, _ => rfl
  | .wait _ _, _, _, h => nomatch h
  | .ask i r k, _, s, h => by
    have hrun : ((Job.ask i r k).run net).run.run s =
        (net.serve i r s).bind fun p => ((k p.1).run net).run.run p.2 :=
      Session.run_ask_result_bind net i r _ s
    rw [hrun, poll]
    cases hs : net.serve i r s with
    | error x => rfl
    | ok p => exact poll_of_waitsAtMost_zero index none p.2 (h.of_ask p.1)

theorem round_of_finished {c : Lane ε α} {rest : List (Lane ε α)} {left : Nat} {l : Lanes ε α}
    {s s' : σ} {r : Except ε α} (hp : poll net c.index c.due c.job s = .ok (.finished r, s')) :
    round net (c :: rest) left l s = .ok (.result c.index r, { l with ready := rest }, s') := by
  rw [round, hp]
  rfl

theorem round_of_fault {c : Lane ε α} {rest : List (Lane ε α)} {left : Nat} {l : Lanes ε α}
    {s : σ} {x : Fault} (hp : poll net c.index c.due c.job s = .error x) :
    round net (c :: rest) left l s = .error x := by
  rw [round, hp]
  rfl

/-! ### Lanes of jobs run in turn -/

/-- The jobs from `d` up to `e`, started and not yet polled. -/
def pending (jobs : Array (Job ε α)) (d e : Nat) : List (Lane ε α) :=
  (List.range' d (e - d)).filterMap fun i => (jobs[i]?).map fun j => ⟨i, j, none⟩

/-- The lanes while jobs run in turn: the jobs from `d` up to `e` started, none polled, the
results of the jobs before `d` handed on. -/
def turnLanes (jobs : Array (Job ε α)) (d e : Nat) (handed : List (Except ε α)) : Lanes ε α :=
  ⟨pending jobs d e, [], [], [], handed, e⟩

variable {jobs : Array (Job ε α)} {d e u : Nat}

theorem pending_self : pending jobs d d = [] := by
  simp [pending]

theorem pending_succ (hde : d < e) (he : e ≤ jobs.size) :
    pending jobs d e = ⟨d, jobs[d], none⟩ :: pending jobs (d + 1) e := by
  have hrange : List.range' d (e - d) = d :: List.range' (d + 1) (e - (d + 1)) := by
    rw [show e - d = e - (d + 1) + 1 by omega, List.range'_succ]
  rw [pending, hrange, List.filterMap_cons, Array.getElem?_eq_getElem (by omega)]
  rfl

theorem length_pending (he : e ≤ jobs.size) : (pending jobs d e).length = e - d := by
  induction h : e - d generalizing d with
  | zero =>
    rw [pending, h]
    rfl
  | succ k ih =>
    rw [pending_succ (by omega) he, List.length_cons, ih (by omega)]

theorem pending_append (hde : d ≤ e) (heu : e ≤ u) :
    pending jobs d e ++ pending jobs e u = pending jobs d u := by
  obtain ⟨m, rfl⟩ := Nat.exists_eq_add_of_le hde
  obtain ⟨n, rfl⟩ := Nat.exists_eq_add_of_le heu
  have hm : d + m - d = m := by omega
  have hn : d + m + n - (d + m) = n := by omega
  have hmn : d + m + n - d = m + n := by omega
  unfold pending
  rw [← List.filterMap_append, hm, hn, hmn, List.range'_append_1]

theorem start_turnLanes {width : Nat} {handed : List (Except ε α)} (hde : d ≤ e)
    (he : e ≤ jobs.size) (hew : e ≤ d + width) :
    (turnLanes jobs d e handed).start width jobs =
      turnLanes jobs d (min jobs.size (d + width)) handed := by
  have hup : min jobs.size (e + (width - (e - d))) = min jobs.size (d + width) := by omega
  simp only [Lanes.start, Lanes.inFlight, turnLanes, length_pending he, List.length_nil,
    Nat.add_zero, hup]
  rw [← pending_append (u := min jobs.size (d + width)) hde (by omega),
    Nat.max_eq_right (by omega)]
  rfl

theorem interleave_turnLanes {width : Nat} (stop : Bool) (hw : 0 < width)
    (hjobs : ∀ j ∈ jobs, WaitsAtMost 0 j) :
    ∀ (fuel d e : Nat) (handed : List (Except ε α)) (s : σ), d ≤ e → e ≤ jobs.size →
      e ≤ d + width → handed.length = d → jobs.size - d < fuel →
      interleave net width jobs stop fuel (turnLanes jobs d e handed) s =
        (inTurn net stop (jobs.toList.drop d) s).map fun p => (handed ++ p.1, p.2)
  | 0, _, _, _, _, _, _, _, _, hfuel => absurd hfuel (Nat.not_lt_zero _)
  | fuel + 1, d, e, handed, s, hde, he, hew, hlen, hfuel => by
    rw [interleave, start_turnLanes hde he hew]
    by_cases hd : d < jobs.size
    · have hj : WaitsAtMost 0 jobs[d] := hjobs _ (Array.getElem_mem hd)
      have hdrop : jobs.toList.drop d = jobs[d] :: jobs.toList.drop (d + 1) := by
        rw [List.drop_eq_getElem_cons (by simpa using hd), Array.getElem_toList]
      have hu : d < min jobs.size (d + width) := by omega
      rw [turnLanes, pending_succ hu (Nat.min_le_left _ _), hdrop]
      dsimp only [List.lookup]
      cases hr : (jobs[d].run net).run.run s with
      | error x =>
        have hp : poll net d none jobs[d] s = .error x := by
          rw [poll_of_waitsAtMost_zero d none s hj, hr]
          rfl
        rw [round_of_fault (c := ⟨d, jobs[d], none⟩) hp, inTurn_cons_fault hr]
        rfl
      | ok p =>
        obtain ⟨r, s'⟩ := p
        have hp : poll net d none jobs[d] s = .ok (.finished r, s') := by
          rw [poll_of_waitsAtMost_zero d none s hj, hr]
          rfl
        rw [round_of_finished (c := ⟨d, jobs[d], none⟩) hp, inTurn_cons_ok hr]
        dsimp only
        rw [if_pos hlen.symm]
        have hnext := interleave_turnLanes stop hw hjobs fuel (d + 1) (min jobs.size (d + width))
          (handed ++ [r]) s' (by omega) (Nat.min_le_left _ _) (by omega) (by simp [hlen]) (by omega)
        have hlength : (handed ++ [r]).length = d + 1 := by simp [hlen]
        -- Unless it stops on this error, the scheduler goes on after every job but the last.
        have hgo : (stop && !r.isOk) = false →
            (if decide ((handed ++ [r]).length = jobs.size) = true then Except.ok (handed ++ [r], s')
              else interleave net width jobs stop fuel
                (turnLanes jobs (d + 1) (min jobs.size (d + width)) (handed ++ [r])) s') =
            Except.map (fun p => (handed ++ p.1, p.2))
              (if (stop && !r.isOk) = true then Except.ok ([r], s')
                else (inTurn net stop (jobs.toList.drop (d + 1)) s').map fun p => (r :: p.1, p.2)) := by
          intro hs
          rw [if_neg (show ¬(stop && !r.isOk) = true by simp [hs])]
          by_cases hlast : d + 1 = jobs.size
          · rw [if_pos (show decide ((handed ++ [r]).length = jobs.size) = true by
              simp [hlength, hlast]), List.drop_eq_nil_of_le (by simp; omega)]
            rfl
          · rw [if_neg (show ¬decide ((handed ++ [r]).length = jobs.size) = true by
              simp [hlength, hlast]), hnext]
            cases inTurn net stop (jobs.toList.drop (d + 1)) s' with
            | error x => rfl
            | ok q => simp [Except.map]
        split
        · next err =>
          cases stop
          · exact hgo rfl
          · rfl
        · next hok =>
          have hs : (stop && !r.isOk) = false := by
            cases r with
            | error err => exact absurd rfl (hok err)
            | ok a => cases stop <;> rfl
          simp only [Bool.and_false, Bool.false_or]
          exact hgo hs
    · have hmin : min jobs.size (d + width) = d := by omega
      have hdrop : jobs.toList.drop d = [] := List.drop_eq_nil_of_le (by simp; omega)
      rw [hmin, turnLanes, pending_self, hdrop]
      show _ = Except.ok (handed ++ [], s)
      rw [List.append_nil]
      rfl

/-! ### Side by side is in turn -/

section Lists

variable {js : List (Job ε α)}

theorem interleaved_eq_inTurn {width waits : Nat} (stop : Bool) (hw : 0 < width)
    (hjs : ∀ j ∈ js, WaitsAtMost 0 j) :
    (interleaved net width js stop waits : Session σ ε' (List (Except ε α))) =
      ExceptT.lift (StateT.mk (inTurn net stop js)) := by
  have hjobs : ∀ j ∈ js.toArray, WaitsAtMost 0 j := fun j hj => hjs j (by simpa using hj)
  have hfuel : js.length ≤ js.length * (8 * waits + 8) := Nat.le_mul_of_pos_right _ (by omega)
  unfold interleaved
  congr 2
  funext s
  rw [show (Lanes.empty : Lanes ε α) = turnLanes js.toArray 0 0 [] from rfl,
    interleave_turnLanes stop hw hjobs _ 0 0 [] s (Nat.le_refl 0) (Nat.zero_le _) (Nat.zero_le _)
      rfl (by simp; omega), List.toList_toArray, List.drop_zero]
  cases inTurn net stop js s <;> rfl

theorem run_mapM_result (s : σ) :
    ((js.mapM fun j => (j.run net).result : Session σ ε' (List (Except ε α)))).run.run s =
      (inTurn net false js s).map fun p => (.ok p.1, p.2) := by
  induction js generalizing s with
  | nil => rfl
  | cons j js ih =>
    rw [List.mapM_cons]
    cases hr : (j.run net).run.run s with
    | error x =>
      rw [Session.run_bind_fault _ (Session.run_result_fault hr), inTurn_cons_fault hr]
      rfl
    | ok p =>
      obtain ⟨r, s'⟩ := p
      have hres : ((j.run net).result : Session σ ε' (Except ε α)).run.run s = .ok (.ok r, s') := by
        rw [Session.run_result, hr]
        rfl
      rw [Session.run_bind_ok _ hres, bind_pure_comp, Session.run_map, ih, inTurn_cons_ok hr]
      cases inTurn net false js s' <;> rfl

theorem mapM_id_ok_cons (a : α) (rs : List (Except ε α)) :
    (Except.ok a :: rs).mapM id = (rs.mapM id).map (a :: ·) := by
  rw [List.mapM_cons]
  cases rs.mapM id <;> rfl

theorem run_mapM_run (s : σ) :
    ((js.mapM fun j => j.run net : Session σ ε (List α))).run.run s =
      (inTurn net true js s).map fun p => (p.1.mapM id, p.2) := by
  induction js generalizing s with
  | nil => rfl
  | cons j js ih =>
    rw [List.mapM_cons]
    cases hr : (j.run net).run.run s with
    | error x =>
      rw [Session.run_bind_fault _ hr, inTurn_cons_fault hr]
      rfl
    | ok p =>
      obtain ⟨r, s'⟩ := p
      cases r with
      | error e =>
        rw [Session.run_bind_error _ hr, inTurn_cons_ok hr]
        rfl
      | ok a =>
        have hgo : ¬(true && !(Except.ok a : Except ε α).isOk) = true := Bool.false_ne_true
        rw [Session.run_bind_ok _ hr, bind_pure_comp, Session.run_map, ih, inTurn_cons_ok hr,
          if_neg hgo]
        cases inTurn net true js s' with
        | error x => rfl
        | ok q =>
          show Except.ok ((q.1.mapM id).map (a :: ·), q.2) =
            Except.ok ((Except.ok a :: q.1).mapM id, q.2)
          rw [mapM_id_ok_cons]

end Lists

end Job

end DagWallet
