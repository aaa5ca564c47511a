import DagWallet.Proofs.Node.Jobs
import DagWallet.Proofs.Session

/-!
Jobs run side by side hand on every result, in the order of the jobs, before their fuel runs
out. The fuel allowed is eight steps per wait and per job, and the proof is a potential that
every step of the scheduler lowers: three for each wait a lane may still make and one more for
each phase of the wait at hand (before it begins, asleep, due), three for each job not started,
one for each result not handed on, and one while the turn's budget is spent.

This holds when the executor is the client's own: what is set is what is read back, and no
node's answer moves it.
-/

namespace DagWallet

/-- The executor of a network is the client's: setting it is seen, and answers leave it. -/
structure Network.Lawful {σ : Type} (net : Network σ) : Prop where
  executor_set : ∀ e s, net.executor (net.setExecutor e s) = e
  serve_executor : ∀ {i r s x s'}, net.serve i r s = .ok (x, s') → net.executor s' = net.executor s

namespace Executor

theorem runTasks_now (e : Executor) : e.runTasks.now = e.now := by
  unfold runTasks
  split
  · rfl
  · split <;> rfl
  · split <;> rfl

theorem yieldNow_now (e : Executor) : e.yieldNow.now = e.now := runTasks_now e

theorem yieldNow_budget (e : Executor) : e.yieldNow.budget ≠ 0 := by
  simp [yieldNow, resume, turnBudget]

theorem advanceTo_now (e : Executor) (t : Nat) : (e.advanceTo t).now = max e.now t := by
  unfold advanceTo
  split
  · split <;> rfl
  · rfl

theorem sleepUntil_now (e : Executor) (t : Nat) :
    (e.runTasks.advanceTo t).resume.now = max e.now t := by
  rw [← runTasks_now e]
  exact advanceTo_now _ t

end Executor

theorem Network.Lawful.executor_onExecutor {σ : Type} {net : Network σ} (hlaw : net.Lawful)
    (f : Executor → Executor) (s : σ) : net.executor (net.onExecutor f s) = f (net.executor s) :=
  hlaw.executor_set _ s

namespace Job

variable {ε α σ : Type} {net : Network σ}

namespace Lane

/-- The potential of a lane that is ready or held: a due wait has one phase left, a wait not
begun three. -/
noncomputable def awakePot (c : Lane ε α) : Nat :=
  3 * waitBound c.job + if c.due.isSome then 1 else 3

/-- The potential of a lane whose wait has begun. -/
noncomputable def asleepPot (c : Lane ε α) : Nat := 3 * waitBound c.job + 2

/-- A ready or held lane: a wait that has begun is due by `now`. -/
def Due (now : Nat) (c : Lane ε α) : Prop :=
  ∀ t, c.due = some t → t ≤ now ∧ c.job.IsWait

/-- A lane runs what is left of its own job. -/
def Fits (net : Network σ) (jobs : Array (Job ε α)) (c : Lane ε α) : Prop :=
  ∃ j, jobs[c.index]? = some j ∧ Leads net j c.job

theorem Fits.bounded {jobs : Array (Job ε α)} {W : Nat} {c : Lane ε α} (h : c.Fits net jobs)
    (hjobs : ∀ j ∈ jobs, WaitsAtMost W j) : WaitsAtMost W c.job := by
  obtain ⟨j, hj, hl⟩ := h
  exact (hjobs j (Array.mem_of_getElem? hj)).leads hl

theorem Fits.leads {jobs : Array (Job ε α)} {c c' : Lane ε α} (h : c.Fits net jobs)
    (hidx : c'.index = c.index) (hl : Leads net c.job c'.job) : c'.Fits net jobs := by
  obtain ⟨j, hj, hl₀⟩ := h
  exact ⟨j, hidx ▸ hj, hl₀.trans hl⟩

theorem Due.mono {now now' : Nat} {c : Lane ε α} (h : c.Due now) (hle : now ≤ now') :
    c.Due now' :=
  fun t ht => ⟨Nat.le_trans (h t ht).1 hle, (h t ht).2⟩

theorem three_le_awakePot {now w : Nat} {c : Lane ε α} (hdue : c.Due now)
    (hb : WaitsAtMost w c.job) : 3 ≤ c.awakePot := by
  unfold awakePot
  cases hd : c.due with
  | none => simp
  | some t =>
    have := one_le_waitBound (hdue t hd).2 hb
    simp only [Option.isSome_some, if_true]
    omega

end Lane

/-- What polling lane `c` can come to, when the executor was `e` before and is `e'` after: a
result its job yields, a lane asleep at least one phase further on, or a lane held, further on
unless the budget was already spent. -/
def PollEnds (net : Network σ) (c : Lane ε α) (e e' : Executor) : Polled ε α → Prop
  | .finished r => Yields net c.job r
  | .sleeping c' =>
    c'.index = c.index ∧ Leads net c.job c'.job ∧ c'.due.isSome ∧ c'.job.IsWait ∧
      c'.asleepPot + 1 ≤ c.awakePot
  | .held c' =>
    c'.index = c.index ∧ Leads net c.job c'.job ∧ c'.Due e.now ∧ e'.budget = 0 ∧
      c'.awakePot + (if e.budget = 0 then 0 else 1) ≤ c.awakePot

theorem PollEnds.lift {c c₀ : Lane ε α} {e e₀ e' : Executor} {p : Polled ε α}
    (h : PollEnds net c₀ e₀ e' p) (hidx : c₀.index = c.index)
    (hlead : Leads net c.job c₀.job) (hnow : e₀.now = e.now)
    (hpot : c₀.awakePot + (if e.budget = 0 then 0 else 1) ≤
      c.awakePot + (if e₀.budget = 0 then 0 else 1))
    (hle : c₀.awakePot ≤ c.awakePot) : PollEnds net c e e' p := by
  cases p with
  | finished r => exact hlead.trans h
  | sleeping c' =>
    obtain ⟨hi, hl, hs, hw, hp⟩ := h
    exact ⟨hi.trans hidx, hlead.trans hl, hs, hw, Nat.le_trans hp hle⟩
  | held c' =>
    obtain ⟨hi, hl, hd, hb, hp⟩ := h
    refine ⟨hi.trans hidx, hlead.trans hl, hnow ▸ hd, hb, ?_⟩
    split at hp <;> split at hpot <;> split <;> omega

theorem poll_spec (hlaw : net.Lawful) (index : Nat) :
    ∀ (j : Job ε α) (due : Option Nat) (s : σ) (p : Polled ε α) (s' : σ) {w : Nat},
      WaitsAtMost w j → Lane.Due (net.executor s).now ⟨index, j, due⟩ →
      poll net index due j s = .ok (p, s') →
      (net.executor s').now = (net.executor s).now ∧
        (net.executor s').budget ≤ (net.executor s).budget ∧
        PollEnds net ⟨index, j, due⟩ (net.executor s) (net.executor s') p
  | .done r, _, s, p, s', _, _, _, h => by
    cases h
    exact ⟨rfl, Nat.le_refl _, .refl _⟩
  | .halt x, _, _, _, _, _, _, _, h => nomatch h
  | .ask i r k, due, s, p, s', w, hb, hdue, h => by
    -- A lane with a due wait is a wait, so this one has none.
    have hnone : due = none := by
      cases due with
      | none => rfl
      | some t => exact ((hdue t rfl).2).elim
    subst hnone
    rw [poll] at h
    cases hs : net.serve i r s with
    | error fault =>
      rw [hs] at h
      nomatch h
    | ok q =>
      obtain ⟨x, s₁⟩ := q
      rw [hs] at h
      have he₁ := hlaw.serve_executor hs
      have hb₁ := hb.of_ask x
      obtain ⟨hnow, hbud, hend⟩ := poll_spec hlaw index (k x) none s₁ p s' hb₁
        (fun _ ht => nomatch ht) h
      rw [he₁] at hnow hbud hend
      have hwb := waitBound_leads hb (.ask (k := k) hs (.refl _))
      have hle : (⟨index, k x, none⟩ : Lane ε α).awakePot ≤
          (⟨index, .ask i r k, none⟩ : Lane ε α).awakePot := by
        simp only [Lane.awakePot, Option.isSome_none]
        omega
      exact ⟨hnow, hbud, hend.lift rfl (.ask hs (.refl _)) rfl (by omega) hle⟩
  | .wait d k, due, s, p, s', w, hb, hdue, h => by
    rw [poll.eq_def] at h
    dsimp only at h
    have hk := hb.of_wait.2
    have hwb := waitBound_wait hb
    by_cases hb0 : (net.executor s).budget = 0
    · -- The turn's budget is spent: the lane is held as it is.
      rw [if_pos hb0] at h
      cases h
      refine ⟨rfl, Nat.le_refl _, rfl, .refl _, hdue, hb0, ?_⟩
      simp [hb0]
    rw [if_neg hb0] at h
    -- The wait finishes within the turn, and the rest of the job is polled.
    have hfinish : poll net index none k (net.setExecutor (net.executor s).spend s) = .ok (p, s') →
        (net.executor s').now = (net.executor s).now ∧
          (net.executor s').budget ≤ (net.executor s).budget ∧
          PollEnds net ⟨index, .wait d k, due⟩ (net.executor s) (net.executor s') p := by
      intro h'
      obtain ⟨hnow, hbud, hend⟩ := poll_spec hlaw index k none _ p s' hk (fun _ ht => nomatch ht) h'
      rw [hlaw.executor_set] at hnow hbud hend
      have hle : (⟨index, k, none⟩ : Lane ε α).awakePot + 1 ≤
          (⟨index, .wait d k, due⟩ : Lane ε α).awakePot := by
        cases due <;> simp [Lane.awakePot] <;> omega
      refine ⟨hnow, Nat.le_trans hbud (Nat.sub_le _ _), hend.lift rfl (.wait (.refl _)) rfl ?_
        (by omega)⟩
      rw [if_neg hb0]
      exact Nat.le_trans hle (Nat.le_add_right _ _)
    cases due with
    | some t =>
      dsimp only at h
      rw [if_pos (hdue t rfl).1] at h
      exact hfinish h
    | none =>
      dsimp only at h
      by_cases hd : d = 0
      · rw [if_pos hd] at h
        exact hfinish h
      · rw [if_neg hd] at h
        cases h
        refine ⟨rfl, Nat.le_refl _, rfl, .refl _, rfl, trivial, ?_⟩
        simp [Lane.awakePot, Lane.asleepPot]

namespace RoundEnd

/-- What a round's end removes from the potential: a lane that ended. -/
def gain : RoundEnd ε α → Nat
  | .result .. => 3
  | _ => 0

/-- The index of the lane that ended, if one did. -/
def ended : RoundEnd ε α → List Nat
  | .result i _ => [i]
  | _ => []

end RoundEnd

namespace Lanes

/-- The potential of the lanes `cs` polled in a round and of the sleeping and held lanes. -/
noncomputable def lanePot (cs : List (Lane ε α)) (l : Lanes ε α) : Nat :=
  (cs.map Lane.awakePot).sum + (l.sleeping.map Lane.asleepPot).sum +
    (l.held.map Lane.awakePot).sum

/-- The indices of the lanes `cs` polled in a round and of the sleeping and held lanes. -/
def laneIndices (cs : List (Lane ε α)) (l : Lanes ε α) : List Nat :=
  (cs ++ l.sleeping ++ l.held).map (·.index)

end Lanes

open Lanes

/-- What a round leaves, apart from how it ended: the clock, the results and the started jobs
as they were, the lanes not polled, the lanes polled one phase further on, asleep or held,
and a potential no larger, smaller when the budget allowed a lane polled to move on. -/
structure RoundFrame (net : Network σ) (jobs : Array (Job ε α)) (cs : List (Lane ε α))
    (l : Lanes ε α) (e : Executor) (r : RoundEnd ε α) (l' : Lanes ε α) (e' : Executor) :
    Prop where
  now_eq : e'.now = e.now
  budget_le : e'.budget ≤ e.budget
  finished_eq : l'.finished = l.finished
  delivered_eq : l'.delivered = l.delivered
  started_eq : l'.started = l.started
  ready_suffix : l'.ready <:+ cs
  sleeping_mem : ∀ c ∈ l'.sleeping, c ∈ l.sleeping ∨ (c.Fits net jobs ∧ c.due.isSome ∧ c.job.IsWait)
  held_mem : ∀ c ∈ l'.held, c ∈ l.held ∨ (c.Fits net jobs ∧ c.Due e.now)
  held_new : l'.held ≠ [] → l.held ≠ [] ∨ (e'.budget = 0 ∧ l'.ready.length < cs.length)
  indices_perm : (laneIndices l'.ready l' ++ r.ended).Perm (laneIndices cs l)
  pot_le : lanePot l'.ready l' + r.gain ≤ lanePot cs l
  pot_lt : r.gain = 0 → e.budget ≠ 0 → l'.ready.length < cs.length →
    lanePot l'.ready l' + 1 ≤ lanePot cs l

theorem RoundFrame.stop (jobs : Array (Job ε α)) (cs : List (Lane ε α)) (l : Lanes ε α)
    (e : Executor) {r : RoundEnd ε α} (hg : r.gain = 0) (he : r.ended = []) :
    RoundFrame net jobs cs l e r { l with ready := cs } e where
  now_eq := rfl
  budget_le := Nat.le_refl _
  finished_eq := rfl
  delivered_eq := rfl
  started_eq := rfl
  ready_suffix := List.suffix_refl _
  sleeping_mem := fun c hc => .inl hc
  held_mem := fun c hc => .inl hc
  held_new := fun h => .inl h
  indices_perm := by simp [laneIndices, he]
  pot_le := by simp [lanePot, hg]
  pot_lt := fun _ _ h => absurd h (Nat.lt_irrefl _)

theorem RoundFrame.cons {jobs : Array (Job ε α)} {c : Lane ε α} {rest : List (Lane ε α)}
    {l l₁ l' : Lanes ε α} {e e₁ e' : Executor} {r : RoundEnd ε α}
    (h : RoundFrame net jobs rest l₁ e₁ r l' e') (hnow : e₁.now = e.now)
    (hbud : e₁.budget ≤ e.budget) (hfin : l₁.finished = l.finished)
    (hdel : l₁.delivered = l.delivered) (hst : l₁.started = l.started)
    (hsl : ∀ c ∈ l₁.sleeping, c ∈ l.sleeping ∨ (c.Fits net jobs ∧ c.due.isSome ∧ c.job.IsWait))
    (hhe : ∀ c ∈ l₁.held, c ∈ l.held ∨ (c.Fits net jobs ∧ c.Due e.now))
    (hnew : l₁.held ≠ [] → l.held ≠ [] ∨ e₁.budget = 0)
    (hperm : (laneIndices rest l₁).Perm (laneIndices (c :: rest) l))
    (hpot : lanePot rest l₁ + (if e.budget = 0 then 0 else 1) ≤ lanePot (c :: rest) l) :
    RoundFrame net jobs (c :: rest) l e r l' e' where
  now_eq := h.now_eq.trans hnow
  budget_le := Nat.le_trans h.budget_le hbud
  finished_eq := h.finished_eq.trans hfin
  delivered_eq := h.delivered_eq.trans hdel
  started_eq := h.started_eq.trans hst
  ready_suffix := h.ready_suffix.trans (List.suffix_cons _ _)
  sleeping_mem := fun c' hc' => (h.sleeping_mem c' hc').elim (hsl c') .inr
  held_mem := fun c' hc' => (h.held_mem c' hc').elim (hhe c') fun hc => .inr ⟨hc.1, hnow ▸ hc.2⟩
  held_new := by
    intro hne
    have hlen := h.ready_suffix.length_le
    rcases h.held_new hne with h₁ | ⟨hb, hlt⟩
    · rcases hnew h₁ with h₂ | hb₁
      · exact .inl h₂
      · exact .inr ⟨Nat.le_zero.mp (hb₁ ▸ h.budget_le), by simp; omega⟩
    · exact .inr ⟨hb, by simp; omega⟩
  indices_perm := h.indices_perm.trans hperm
  pot_le := Nat.le_trans h.pot_le (Nat.le_trans (Nat.le_add_right _ _) hpot)
  pot_lt := by
    intro hg hb _
    have := h.pot_le
    rw [hg, if_neg hb] at *
    omega

namespace RoundEnd

/-- How a round's end shows: a result its job yields, a lane polled before yielding, or no
ready lane left. -/
def Ends (net : Network σ) (jobs : Array (Job ε α)) (cs : List (Lane ε α)) (l' : Lanes ε α) :
    RoundEnd ε α → Prop
  | .result i x => ∃ j, jobs[i]? = some j ∧ Yields net j x
  | .yielded => l'.ready.length < cs.length
  | .idle => l'.ready = []

theorem Ends.cons {jobs : Array (Job ε α)} {c : Lane ε α} {rest : List (Lane ε α)}
    {l' : Lanes ε α} {r : RoundEnd ε α} (h : r.Ends net jobs rest l') :
    r.Ends net jobs (c :: rest) l' := by
  cases r with
  | result i x => exact h
  | yielded => exact Nat.lt_succ_of_lt h
  | idle => exact h

end RoundEnd

theorem lanePot_cons (c : Lane ε α) (cs : List (Lane ε α)) (l : Lanes ε α) :
    lanePot (c :: cs) l = c.awakePot + lanePot cs l := by
  simp only [lanePot, List.map_cons, List.sum_cons]
  omega

theorem laneIndices_cons (c : Lane ε α) (cs : List (Lane ε α)) (l : Lanes ε α) :
    laneIndices (c :: cs) l = c.index :: laneIndices cs l := rfl

theorem lanePot_sleeping (cs : List (Lane ε α)) (l : Lanes ε α) (c : Lane ε α) :
    lanePot cs { l with sleeping := l.sleeping ++ [c] } = lanePot cs l + c.asleepPot := by
  simp only [lanePot, List.map_append, List.map_cons, List.map_nil, List.sum_append,
    List.sum_cons, List.sum_nil]
  omega

theorem lanePot_held (cs : List (Lane ε α)) (l : Lanes ε α) (c : Lane ε α) :
    lanePot cs { l with held := l.held ++ [c] } = lanePot cs l + c.awakePot := by
  simp only [lanePot, List.map_append, List.map_cons, List.map_nil, List.sum_append,
    List.sum_cons, List.sum_nil]
  omega

theorem laneIndices_sleeping (cs : List (Lane ε α)) (l : Lanes ε α) (c : Lane ε α) :
    (laneIndices cs { l with sleeping := l.sleeping ++ [c] }).Perm (c.index :: laneIndices cs l) := by
  have h := @List.perm_middle _ c.index (cs.map (·.index) ++ l.sleeping.map (·.index))
    (l.held.map (·.index))
  simpa [laneIndices] using h

theorem laneIndices_held (cs : List (Lane ε α)) (l : Lanes ε α) (c : Lane ε α) :
    (laneIndices cs { l with held := l.held ++ [c] }).Perm (c.index :: laneIndices cs l) := by
  have h := @List.perm_middle _ c.index (cs.map (·.index) ++ l.sleeping.map (·.index) ++
    l.held.map (·.index)) []
  simpa [laneIndices] using h

theorem round_spec (hlaw : net.Lawful) {jobs : Array (Job ε α)} {W : Nat}
    (hjobs : ∀ j ∈ jobs, WaitsAtMost W j) :
    ∀ (cs : List (Lane ε α)) (left : Nat) (l : Lanes ε α) (s : σ) (r : RoundEnd ε α)
      (l' : Lanes ε α) (s' : σ),
      (∀ c ∈ cs, c.Fits net jobs ∧ c.Due (net.executor s).now) →
      round net cs left l s = .ok (r, l', s') →
      RoundFrame net jobs cs l (net.executor s) r l' (net.executor s') ∧ r.Ends net jobs cs l'
  | [], _, l, s, r, l', s', _, h => by
    cases h
    exact ⟨RoundFrame.stop jobs [] l _ rfl rfl, rfl⟩
  | c :: rest, left, l, s, r, l', s', hcs, h => by
    rw [round] at h
    cases hp : poll net c.index c.due c.job s with
    | error fault =>
      rw [hp] at h
      nomatch h
    | ok q =>
      obtain ⟨p, s₁⟩ := q
      rw [hp, except_ok_bind] at h
      obtain ⟨hfit, hdue⟩ := hcs c (List.mem_cons_self ..)
      obtain ⟨hnow, hbud, hend⟩ :=
        poll_spec hlaw c.index c.job c.due s p s₁ (hfit.bounded hjobs) hdue hp
      replace hend : PollEnds net c (net.executor s) (net.executor s₁) p := hend
      have hrest : ∀ c' ∈ rest, c'.Fits net jobs ∧ c'.Due (net.executor s₁).now := fun c' hc' => by
        rw [hnow]
        exact hcs c' (List.mem_cons_of_mem _ hc')
      cases p with
      | finished x =>
        cases h
        refine ⟨⟨hnow, hbud, rfl, rfl, rfl, List.suffix_cons _ _, fun c hc => .inl hc,
          fun c hc => .inl hc, fun hne => .inl hne, ?_, ?_, fun hg => nomatch hg⟩, ?_⟩
        · rw [laneIndices_cons]
          exact List.perm_append_singleton _ _
        · have := Lane.three_le_awakePot hdue (hfit.bounded hjobs)
          rw [lanePot_cons]
          simp only [lanePot, RoundEnd.gain]
          omega
        · obtain ⟨j, hj, hl⟩ := hfit
          exact ⟨j, hj, hl.trans hend⟩
      | sleeping c' =>
        obtain ⟨hi, hl, hsome, hwait, hpot⟩ := hend
        dsimp only at h
        -- The lane is asleep one phase on; the round stops or polls the rest.
        have hstep : ∀ {r' l'' s''}, RoundFrame net jobs rest
            { l with sleeping := l.sleeping ++ [c'] } (net.executor s₁) r' l'' (net.executor s'') →
            RoundFrame net jobs (c :: rest) l (net.executor s) r' l'' (net.executor s'') := by
          intro r' l'' s'' hf
          refine hf.cons hnow hbud rfl rfl rfl ?_ (fun c hc => .inl hc) (fun hne => .inl hne) ?_ ?_
          · intro c₁ hc₁
            rcases List.mem_append.mp hc₁ with hc₁ | hc₁
            · exact .inl hc₁
            · rw [List.mem_singleton.mp hc₁]
              exact .inr ⟨hfit.leads hi hl, hsome, hwait⟩
          · rw [laneIndices_cons, ← hi]
            exact laneIndices_sleeping rest l c'
          · rw [lanePot_cons, lanePot_sleeping]
            split <;> omega
        split at h
        · cases h
          exact ⟨hstep (RoundFrame.stop jobs rest _ _ rfl rfl), Nat.lt_succ_self _⟩
        · obtain ⟨hf, he⟩ := round_spec hlaw hjobs rest (left - 1) _ s₁ r l' s' hrest h
          exact ⟨hstep hf, he.cons⟩
      | held c' =>
        obtain ⟨hi, hl, hd, hb₀, hpot⟩ := hend
        dsimp only at h
        -- The lane is held on a spent budget; the round stops or polls the rest.
        have hstep : ∀ {r' l'' s''}, RoundFrame net jobs rest
            { l with held := l.held ++ [c'] } (net.executor s₁) r' l'' (net.executor s'') →
            RoundFrame net jobs (c :: rest) l (net.executor s) r' l'' (net.executor s'') := by
          intro r' l'' s'' hf
          refine hf.cons hnow hbud rfl rfl rfl (fun c hc => .inl hc) ?_ (fun _ => .inr hb₀) ?_ ?_
          · intro c₁ hc₁
            rcases List.mem_append.mp hc₁ with hc₁ | hc₁
            · exact .inl hc₁
            · rw [List.mem_singleton.mp hc₁]
              exact .inr ⟨hfit.leads hi hl, hd⟩
          · rw [laneIndices_cons, ← hi]
            exact laneIndices_held rest l c'
          · rw [lanePot_cons, lanePot_held]
            omega
        split at h
        · cases h
          exact ⟨hstep (RoundFrame.stop jobs rest _ _ rfl rfl), Nat.lt_succ_self _⟩
        · obtain ⟨hf, he⟩ := round_spec hlaw hjobs rest (left - 1) _ s₁ r l' s' hrest h
          exact ⟨hstep hf, he.cons⟩

namespace Lanes

/-- The potential of the scheduler's state for `size` jobs that each wait at most `W` times. -/
noncomputable def pot (W size : Nat) (l : Lanes ε α) : Nat :=
  (size - l.started) * (3 * W + 3) + lanePot l.ready l + l.finished.length

/-- The potential, and one more while the turn's budget is spent. -/
noncomputable def measure (W size : Nat) (l : Lanes ε α) (e : Executor) : Nat :=
  l.pot W size + (1 - e.budget)

/-- The lanes run what is left of their jobs, a ready or held lane's wait is due once begun,
a sleeping lane's wait has begun, and lanes are held only while the budget is spent. -/
structure LanesOk (net : Network σ) (jobs : Array (Job ε α)) (e : Executor) (l : Lanes ε α) :
    Prop where
  fits : ∀ c ∈ l.ready ++ l.sleeping ++ l.held, c.Fits net jobs
  ready_due : ∀ c ∈ l.ready, c.Due e.now
  held_due : ∀ c ∈ l.held, c.Due e.now
  sleeping_due : ∀ c ∈ l.sleeping, c.due.isSome ∧ c.job.IsWait
  held_budget : l.held ≠ [] → e.budget = 0

/-- Every job started and not handed on is in exactly one lane or finished, and every result
finished or handed on is one its job yields, handed on in the order of the jobs. -/
structure Books (net : Network σ) (jobs : Array (Job ε α)) (l : Lanes ε α) : Prop where
  started_le : l.started ≤ jobs.size
  delivered_le : l.delivered.length ≤ l.started
  indices_perm : (laneIndices l.ready l ++ l.finished.map (·.1)).Perm
    (List.range' l.delivered.length (l.started - l.delivered.length))
  finished_yield : ∀ p ∈ l.finished, ∃ j, jobs[p.1]? = some j ∧ Yields net j p.2
  delivered_yield : ∀ (k : Nat) (x : Except ε α), l.delivered[k]? = some x →
    ∃ j, jobs[k]? = some j ∧ Yields net j x

theorem books_empty (net : Network σ) (jobs : Array (Job ε α)) : Books net jobs .empty where
  started_le := Nat.zero_le _
  delivered_le := Nat.le_refl _
  indices_perm := by simp [laneIndices, Lanes.empty]
  finished_yield := fun _ h => nomatch h
  delivered_yield := fun _ _ h => by simp [Lanes.empty] at h

theorem lanesOk_empty (net : Network σ) (jobs : Array (Job ε α)) (e : Executor) :
    LanesOk net jobs e .empty where
  fits := fun _ h => by simp [Lanes.empty] at h
  ready_due := fun _ h => nomatch h
  held_due := fun _ h => nomatch h
  sleeping_due := fun _ h => nomatch h
  held_budget := fun h => absurd rfl h

section Start

variable {width : Nat} {jobs : Array (Job ε α)} {l : Lanes ε α}

theorem mem_start_ready {c : Lane ε α} (hc : c ∈ (l.start width jobs).ready) :
    c ∈ l.ready ∨ (jobs[c.index]? = some c.job ∧ c.due = none) := by
  simp only [Lanes.start, List.mem_append, List.mem_filterMap, Option.map_eq_some_iff] at hc
  rcases hc with hc | ⟨i, _, j, hj, rfl⟩
  · exact .inl hc
  · exact .inr ⟨hj, rfl⟩

variable (width jobs l) in
theorem start_indices :
    (l.start width jobs).ready.map (·.index) = l.ready.map (·.index) ++
      List.range' l.started (min jobs.size (l.started + (width - l.inFlight)) - l.started) := by
  simp only [Lanes.start, List.map_append, List.map_filterMap]
  congr 1
  refine (List.filterMap_congr fun i hi => ?_).trans List.filterMap_some
  have hi' : i < jobs.size := by
    rw [List.mem_range'_1] at hi
    omega
  simp [Array.getElem?_eq_getElem hi']

variable (width jobs l) in
theorem start_ready_length :
    (l.start width jobs).ready.length = l.ready.length +
      (min jobs.size (l.started + (width - l.inFlight)) - l.started) := by
  have h := congrArg List.length (start_indices width jobs l)
  simpa using h

variable (width jobs l) in
theorem start_ready_split : ∃ fresh, (l.start width jobs).ready = l.ready ++ fresh ∧
    ∀ c ∈ fresh, jobs[c.index]? = some c.job ∧ c.due = none := by
  refine ⟨_, rfl, fun c hc => ?_⟩
  simp only [List.mem_filterMap, Option.map_eq_some_iff] at hc
  obtain ⟨i, _, j, hj, rfl⟩ := hc
  exact ⟨hj, rfl⟩

variable (width) in
theorem Books.start (hb : Books net jobs l) : Books net jobs (l.start width jobs) where
  started_le := max_le hb.started_le (Nat.min_le_left _ _)
  delivered_le := Nat.le_trans hb.delivered_le (Nat.le_max_left _ _)
  indices_perm := by
    have hd := hb.delivered_le
    -- The started jobs join the books at the end of the range.
    have hperm : (laneIndices (l.start width jobs).ready (l.start width jobs) ++
        (l.start width jobs).finished.map (·.1)).Perm
        ((laneIndices l.ready l ++ l.finished.map (·.1)) ++
          List.range' l.started (min jobs.size (l.started + (width - l.inFlight)) - l.started)) := by
      simp only [laneIndices, List.map_append, start_indices, List.append_assoc]
      refine List.Perm.append_left _ (List.perm_append_comm.trans (.of_eq ?_))
      simp [Lanes.start]
    refine hperm.trans ((hb.indices_perm.append_right _).trans (.of_eq ?_))
    have hsplit := List.range'_append_1 (s := l.delivered.length)
      (m := l.started - l.delivered.length)
      (n := min jobs.size (l.started + (width - l.inFlight)) - l.started)
    rw [Nat.add_sub_cancel' hd] at hsplit
    rw [hsplit]
    simp only [Lanes.start]
    congr 1
    omega
  finished_yield := hb.finished_yield
  delivered_yield := hb.delivered_yield

variable (width) in
theorem LanesOk.start {e : Executor} (ho : LanesOk net jobs e l) :
    LanesOk net jobs e (l.start width jobs) where
  fits := by
    intro c hc
    rcases List.mem_append.mp hc with hc | hc
    · rcases List.mem_append.mp hc with hc | hc
      · rcases mem_start_ready hc with hc | ⟨hj, _⟩
        · exact ho.fits c (List.mem_append_left _ (List.mem_append_left _ hc))
        · exact ⟨c.job, hj, .refl _⟩
      · exact ho.fits c (List.mem_append_left _ (List.mem_append_right _ hc))
    · exact ho.fits c (List.mem_append_right _ hc)
  ready_due := by
    intro c hc t ht
    rcases mem_start_ready hc with hc | ⟨_, hnone⟩
    · exact ho.ready_due c hc t ht
    · rw [hnone] at ht
      nomatch ht
  held_due := ho.held_due
  sleeping_due := ho.sleeping_due
  held_budget := ho.held_budget

variable (width) in
theorem pot_start {W : Nat} (hjobs : ∀ j ∈ jobs, WaitsAtMost W j) (hb : Books net jobs l) :
    (l.start width jobs).pot W jobs.size ≤ l.pot W jobs.size := by
  obtain ⟨fresh, hready, hfresh⟩ := start_ready_split width jobs l
  have hlen := start_ready_length width jobs l
  rw [hready, List.length_append] at hlen
  have hsum : (fresh.map Lane.awakePot).sum ≤ fresh.length * (3 * W + 3) := by
    have h := List.sum_le_card_nsmul (fresh.map Lane.awakePot) (3 * W + 3) fun x hx => by
      obtain ⟨c, hc, rfl⟩ := List.mem_map.mp hx
      obtain ⟨hj, hnone⟩ := hfresh c hc
      have := waitBound_le (hjobs c.job (Array.mem_of_getElem? hj))
      simp only [Lane.awakePot, hnone, Option.isSome_none, Bool.false_eq_true, if_false]
      omega
    simpa using h
  have hst := hb.started_le
  have hcount : jobs.size - (l.start width jobs).started + fresh.length = jobs.size - l.started := by
    simp only [Lanes.start]
    omega
  unfold pot lanePot
  rw [hready, List.map_append, List.sum_append]
  simp only [Lanes.start]
  have hmul := congrArg (· * (3 * W + 3)) hcount
  simp only [Nat.add_mul] at hmul
  simp only [Lanes.start] at hmul
  omega

variable (jobs l) in
theorem start_all (hw : 0 < width) (hready : (l.start width jobs).ready = [])
    (hs : l.sleeping = []) (hh : l.held = []) (hf : l.finished = []) :
    jobs.size ≤ (l.start width jobs).started := by
  have hlen := start_ready_length width jobs l
  rw [hready, List.length_nil] at hlen
  have hr : l.ready.length = 0 := by omega
  have hflight : l.inFlight = 0 := by
    simp only [Lanes.inFlight, hs, hh, hf, List.length_nil, hr]
  rw [hflight, Nat.sub_zero] at hlen
  simp only [Lanes.start, hflight, Nat.sub_zero]
  omega

end Start

section Deliver

variable {jobs : Array (Job ε α)}

theorem range'_succ_filter (d m : Nat) :
    (List.range' d (m + 1)).filter (· != d) = List.range' (d + 1) m := by
  rw [List.range'_succ, List.filter_cons, bne_self_eq_false, if_neg Bool.false_ne_true,
    List.filter_eq_self]
  intro a ha
  rw [List.mem_range'_1] at ha
  simp only [bne_iff_ne, ne_eq]
  omega

theorem books_deliver {l : Lanes ε α} {x : Except ε α} (hst : l.started ≤ jobs.size)
    (hlt : l.delivered.length < l.started)
    (hperm : (laneIndices l.ready l ++ l.finished.map (·.1)).Perm
      (List.range' (l.delivered.length + 1) (l.started - (l.delivered.length + 1))))
    (hfin : ∀ p ∈ l.finished, ∃ j, jobs[p.1]? = some j ∧ Yields net j p.2)
    (hdel : ∀ (k : Nat) (y : Except ε α), l.delivered[k]? = some y →
      ∃ j, jobs[k]? = some j ∧ Yields net j y)
    (hx : ∃ j, jobs[l.delivered.length]? = some j ∧ Yields net j x) :
    Books net jobs { l with delivered := l.delivered ++ [x] } where
  started_le := hst
  delivered_le := by simp only [List.length_append, List.length_singleton]; omega
  indices_perm := by
    simp only [List.length_append, List.length_singleton]
    exact hperm
  finished_yield := hfin
  delivered_yield := by
    intro k y hk
    simp only at hk
    rcases Nat.lt_or_ge k l.delivered.length with hk' | hk'
    · rw [List.getElem?_append_left hk'] at hk
      exact hdel k y hk
    · rw [List.getElem?_append_right hk'] at hk
      rcases Nat.lt_or_ge (k - l.delivered.length) 1 with h₁ | h₁
      · have hk₀ : k = l.delivered.length := by omega
        subst hk₀
        simp only [Nat.sub_self, List.getElem?_cons_zero, Option.some.injEq] at hk
        subst hk
        exact hx
      · rw [List.getElem?_eq_none (by simp only [List.length_singleton]; omega)] at hk
        nomatch hk

theorem Books.deliver_finished {l : Lanes ε α} {x : Except ε α} (hb : Books net jobs l)
    (hlook : l.finished.lookup l.delivered.length = some x) :
    Books net jobs
      { l with
        finished := l.finished.filter (·.1 != l.delivered.length)
        delivered := l.delivered ++ [x] } := by
  obtain ⟨f₁, f₂, hsplit, _⟩ := List.lookup_eq_some_iff.mp hlook
  have hmem : (l.delivered.length, x) ∈ l.finished := by simp [hsplit]
  have hnodup := hb.indices_perm.nodup_iff.mpr List.nodup_range'
  have hin : l.delivered.length ∈ List.range' l.delivered.length (l.started - l.delivered.length) :=
    hb.indices_perm.subset (List.mem_append_right _ (List.mem_map_of_mem hmem))
  have hlt : l.delivered.length < l.started := by
    rw [List.mem_range'_1] at hin
    omega
  -- The next index is finished, so no lane has it; dropping it leaves the range after it.
  have hlanes : ∀ i ∈ laneIndices l.ready l, i ≠ l.delivered.length := by
    intro i hi heq
    rw [List.nodup_append] at hnodup
    exact hnodup.2.2 i hi i (heq ▸ List.mem_map_of_mem hmem) rfl
  obtain ⟨m, hm⟩ : ∃ m, l.started - l.delivered.length = m + 1 := ⟨_, (Nat.succ_pred_eq_of_pos
    (by omega)).symm⟩
  have hperm := hb.indices_perm.filter (· != l.delivered.length)
  rw [hm, range'_succ_filter, List.filter_append,
    List.filter_eq_self.mpr (fun i hi => by simpa using hlanes i hi), List.filter_map] at hperm
  refine books_deliver (l := { l with finished := l.finished.filter (·.1 != l.delivered.length) })
    hb.started_le hlt ?_ ?_ hb.delivered_yield ?_
  · have hm' : l.started - (l.delivered.length + 1) = m := by omega
    rw [hm']
    exact hperm
  · exact fun p hp => hb.finished_yield p (List.mem_of_mem_filter hp)
  · exact hb.finished_yield _ hmem

end Deliver

section Round

variable {jobs : Array (Job ε α)} {l l' : Lanes ε α} {e e' : Executor} {r : RoundEnd ε α}

theorem LanesOk.round (ho : LanesOk net jobs e l) (hf : RoundFrame net jobs l.ready l e r l' e') :
    LanesOk net jobs e' l' where
  fits := by
    intro c hc
    simp only [List.mem_append] at hc
    rcases hc with (hc | hc) | hc
    · exact ho.fits c (by simp [hf.ready_suffix.subset hc])
    · rcases hf.sleeping_mem c hc with hc | ⟨hfit, _⟩
      · exact ho.fits c (by simp [hc])
      · exact hfit
    · rcases hf.held_mem c hc with hc | ⟨hfit, _⟩
      · exact ho.fits c (by simp [hc])
      · exact hfit
  ready_due := fun c hc => hf.now_eq ▸ ho.ready_due c (hf.ready_suffix.subset hc)
  held_due := by
    intro c hc
    rw [hf.now_eq]
    rcases hf.held_mem c hc with hc | ⟨_, hdue⟩
    · exact ho.held_due c hc
    · exact hdue
  sleeping_due := by
    intro c hc
    rcases hf.sleeping_mem c hc with hc | ⟨_, hdue⟩
    · exact ho.sleeping_due c hc
    · exact hdue
  held_budget := by
    intro hne
    rcases hf.held_new hne with hold | ⟨hb, _⟩
    · exact Nat.le_zero.mp (ho.held_budget hold ▸ hf.budget_le)
    · exact hb

theorem LanesOk.results (ho : LanesOk net jobs e l) (f : List (Nat × Except ε α))
    (d : List (Except ε α)) : LanesOk net jobs e { l with finished := f, delivered := d } :=
  ⟨ho.fits, ho.ready_due, ho.held_due, ho.sleeping_due, ho.held_budget⟩

theorem pot_le_of_round (W size : Nat) (hf : RoundFrame net jobs l.ready l e r l' e') :
    l'.pot W size + r.gain ≤ l.pot W size := by
  have := hf.pot_le
  unfold pot
  rw [hf.started_eq, hf.finished_eq]
  omega

theorem pot_lt_of_round (W size : Nat) (hf : RoundFrame net jobs l.ready l e r l' e')
    (hg : r.gain = 0) (hb : e.budget ≠ 0) (hlen : l'.ready.length < l.ready.length) :
    l'.pot W size + 1 ≤ l.pot W size := by
  have := hf.pot_lt hg hb hlen
  unfold pot
  rw [hf.started_eq, hf.finished_eq]
  omega

theorem pot_add_one_le_of_round (W size : Nat) (hf : RoundFrame net jobs l.ready l e r l' e')
    (hg : r.gain = 0) (hlen : l'.ready.length < l.ready.length) :
    l'.pot W size + 1 ≤ l.pot W size + (1 - e.budget) := by
  rcases Nat.eq_zero_or_pos e.budget with h₀ | h₀
  · have := pot_le_of_round W size hf
    rw [hg] at this
    omega
  · have := pot_lt_of_round W size hf hg (by omega) hlen
    omega

theorem Books.round (hb : Books net jobs l) (hf : RoundFrame net jobs l.ready l e r l' e')
    (hr : r.ended = []) : Books net jobs l' where
  started_le := hf.started_eq ▸ hb.started_le
  delivered_le := hf.started_eq ▸ hf.delivered_eq ▸ hb.delivered_le
  indices_perm := by
    have hperm := hf.indices_perm
    rw [hr, List.append_nil] at hperm
    rw [hf.finished_eq, hf.delivered_eq, hf.started_eq]
    exact (hperm.append_right _).trans hb.indices_perm
  finished_yield := hf.finished_eq ▸ hb.finished_yield
  delivered_yield := hf.delivered_eq ▸ hb.delivered_yield

theorem Books.finish {i : Nat} {x : Except ε α} (hb : Books net jobs l)
    (hf : RoundFrame net jobs l.ready l e (.result i x) l' e')
    (hx : ∃ j, jobs[i]? = some j ∧ Yields net j x) :
    Books net jobs { l' with finished := l'.finished ++ [(i, x)] } where
  started_le := hf.started_eq ▸ hb.started_le
  delivered_le := hf.started_eq ▸ hf.delivered_eq ▸ hb.delivered_le
  indices_perm := by
    have hperm : (laneIndices l'.ready l' ++ (l'.finished ++ [(i, x)]).map (·.1)).Perm
        (laneIndices l'.ready l' ++ [i] ++ l'.finished.map (·.1)) := by
      simp only [List.map_append, List.map_cons, List.map_nil, List.append_assoc]
      exact List.Perm.append_left _ List.perm_append_comm
    refine hperm.trans ?_
    rw [hf.finished_eq, hf.delivered_eq, hf.started_eq]
    exact (hf.indices_perm.append_right _).trans hb.indices_perm
  finished_yield := by
    intro p hp
    rcases List.mem_append.mp hp with hp | hp
    · exact hb.finished_yield p (by rw [← hf.finished_eq]; exact hp)
    · rw [List.mem_singleton.mp hp]
      exact hx
  delivered_yield := hf.delivered_eq ▸ hb.delivered_yield

theorem Books.deliver_result {x : Except ε α} (hb : Books net jobs l)
    (hf : RoundFrame net jobs l.ready l e (.result l.delivered.length x) l' e')
    (hx : ∃ j, jobs[l.delivered.length]? = some j ∧ Yields net j x) :
    Books net jobs { l' with delivered := l'.delivered ++ [x] } := by
  have h₁ := (hf.indices_perm.append_right (l.finished.map (·.1))).trans hb.indices_perm
  simp only [RoundEnd.ended, List.append_assoc, List.singleton_append] at h₁
  -- The next index was the lane that ended; without it the range starts one later.
  have h₂ := List.perm_middle.symm.trans h₁
  have hlen := h₂.length_eq
  simp only [List.length_cons, List.length_range'] at hlen
  obtain ⟨m, hm⟩ : ∃ m, l.started - l.delivered.length = m + 1 :=
    ⟨l.started - l.delivered.length - 1, by omega⟩
  rw [hm, List.range'_succ] at h₂
  have hrest := h₂.cons_inv
  refine books_deliver (l := l') (hf.started_eq ▸ hb.started_le) ?_ ?_
    (by rw [hf.finished_eq]; exact hb.finished_yield)
    (by rw [hf.delivered_eq]; exact hb.delivered_yield) (by rw [hf.delivered_eq]; exact hx)
  · rw [hf.delivered_eq, hf.started_eq]
    omega
  · rw [hf.finished_eq, hf.delivered_eq, hf.started_eq,
      show l.started - (l.delivered.length + 1) = m by omega]
    exact hrest

end Round

section Wake

variable {jobs : Array (Job ε α)} {l : Lanes ε α}

theorem sum_awakePot_add_length :
    ∀ cs : List (Lane ε α), (∀ c ∈ cs, c.due.isSome) →
      (cs.map Lane.awakePot).sum + cs.length = (cs.map Lane.asleepPot).sum
  | [], _ => rfl
  | c :: cs, h => by
    have hc := h c (List.mem_cons_self ..)
    have ih := sum_awakePot_add_length cs fun c' hc' => h c' (List.mem_cons_of_mem _ hc')
    simp only [List.map_cons, List.sum_cons, List.length_cons, Lane.awakePot, Lane.asleepPot, hc,
      if_true] at ih ⊢
    omega

theorem lanePot_wake (hs : ∀ c ∈ l.sleeping, c.due.isSome) (now : Nat) :
    lanePot (l.wake now).ready (l.wake now) +
      (l.sleeping.filter fun c => c.due.any (· ≤ now)).length = lanePot l.ready l := by
  have hperm := List.filter_append_perm (fun c : Lane ε α => c.due.any (· ≤ now)) l.sleeping
  have hsum := (hperm.map Lane.asleepPot).sum_eq
  have hdue := sum_awakePot_add_length (l.sleeping.filter fun c => c.due.any (· ≤ now))
    fun c hc => hs c (List.mem_of_mem_filter hc)
  simp only [List.map_append, List.sum_append] at hsum
  simp only [lanePot, Lanes.wake, List.map_append, List.sum_append, List.map_nil, List.sum_nil]
  omega

theorem laneIndices_wake (now : Nat) :
    (laneIndices (l.wake now).ready (l.wake now)).Perm (laneIndices l.ready l) := by
  have hperm := (List.filter_append_perm (fun c : Lane ε α => c.due.any (· ≤ now))
    l.sleeping).map (·.index)
  simp only [laneIndices, Lanes.wake, List.map_append, List.append_nil, List.append_assoc]
    at hperm ⊢
  refine List.Perm.append_left _ ?_
  refine (List.Perm.append_left _ List.perm_append_comm).trans ?_
  rw [← List.append_assoc]
  exact hperm.append_right _

theorem Books.wake (hb : Books net jobs l) (now : Nat) : Books net jobs (l.wake now) where
  started_le := hb.started_le
  delivered_le := hb.delivered_le
  indices_perm := ((laneIndices_wake now).append_right _).trans hb.indices_perm
  finished_yield := hb.finished_yield
  delivered_yield := hb.delivered_yield

theorem LanesOk.wake {e e' : Executor} {now : Nat} (ho : LanesOk net jobs e l)
    (hnow : e.now ≤ e'.now) (ht : now ≤ e'.now) : LanesOk net jobs e' (l.wake now) where
  fits := by
    intro c hc
    simp only [Lanes.wake, List.mem_append, List.append_nil] at hc
    refine ho.fits c ?_
    simp only [List.mem_append]
    rcases hc with ((hc | hc) | hc) | hc
    · exact .inl (.inl hc)
    · exact .inl (.inr (List.mem_of_mem_filter hc))
    · exact .inr hc
    · exact .inl (.inr (List.mem_of_mem_filter hc))
  ready_due := by
    intro c hc
    simp only [Lanes.wake, List.mem_append] at hc
    rcases hc with (hc | hc) | hc
    · exact (ho.ready_due c hc).mono hnow
    · -- A lane woken here is due by `now`.
      have hwait := (ho.sleeping_due c (List.mem_of_mem_filter hc)).2
      have hany := (List.mem_filter.mp hc).2
      intro t hct
      rw [hct] at hany
      exact ⟨Nat.le_trans (by simpa using hany) ht, hwait⟩
    · exact (ho.held_due c hc).mono hnow
  held_due := fun _ hc => nomatch hc
  sleeping_due := fun c hc => ho.sleeping_due c (List.mem_of_mem_filter hc)
  held_budget := fun h => absurd rfl h

theorem LanesOk.pot_wake {e : Executor} (ho : LanesOk net jobs e l) (W size now : Nat) :
    (l.wake now).pot W size + (l.sleeping.filter fun c => c.due.any (· ≤ now)).length =
      l.pot W size := by
  have := lanePot_wake (fun c hc => (ho.sleeping_due c hc).1) now
  unfold pot
  simp only [Lanes.wake] at this ⊢
  omega

theorem wake_nextDue {t : Nat} (h : l.nextDue? = some t) :
    (l.sleeping.filter fun c => c.due.any (· ≤ t)) ≠ [] := by
  obtain ⟨c, hc, hct⟩ := List.mem_filterMap.mp (List.min?_mem h)
  intro hnil
  have := List.filter_eq_nil_iff.mp hnil c hc
  simp [hct] at this

theorem sleeping_eq_nil (h : l.nextDue? = none) (hs : ∀ c ∈ l.sleeping, c.due.isSome) :
    l.sleeping = [] := by
  rw [Lanes.nextDue?, List.min?_eq_none_iff, List.filterMap_eq_nil_iff] at h
  rcases hsl : l.sleeping with _ | ⟨c, _⟩
  · rfl
  · have hc := hs c (by simp [hsl])
    have := h c (by simp [hsl])
    simp [this] at hc

end Wake

theorem length_laneIndices_le (cs : List (Lane ε α)) (l : Lanes ε α) :
    (laneIndices cs l).length ≤ lanePot cs l := by
  have h₁ := List.length_le_sum_of_one_le (cs.map Lane.awakePot) fun i hi => by
    obtain ⟨c, _, rfl⟩ := List.mem_map.mp hi
    unfold Lane.awakePot
    split <;> omega
  have h₂ := List.length_le_sum_of_one_le (l.sleeping.map Lane.asleepPot) fun i hi => by
    obtain ⟨c, _, rfl⟩ := List.mem_map.mp hi
    unfold Lane.asleepPot
    omega
  have h₃ := List.length_le_sum_of_one_le (l.held.map Lane.awakePot) fun i hi => by
    obtain ⟨c, _, rfl⟩ := List.mem_map.mp hi
    unfold Lane.awakePot
    split <;> omega
  simp only [List.length_map] at h₁ h₂ h₃
  simp only [laneIndices, lanePot, List.length_map, List.length_append]
  omega

end Lanes

/-- One result for each job, in the order of the jobs, each one its job yields. -/
def Delivered (net : Network σ) (jobs : Array (Job ε α)) (rs : List (Except ε α)) : Prop :=
  rs.length = jobs.size ∧
    ∀ (k : Nat) (x : Except ε α), rs[k]? = some x → ∃ j, jobs[k]? = some j ∧ Yields net j x

namespace Lanes

theorem Books.complete {jobs : Array (Job ε α)} {l : Lanes ε α} (hb : Books net jobs l)
    (hlen : l.delivered.length = jobs.size) : Delivered net jobs l.delivered :=
  ⟨hlen, hb.delivered_yield⟩

theorem Books.finished_nil {jobs : Array (Job ε α)} {l : Lanes ε α} (hb : Books net jobs l)
    (hlanes : laneIndices l.ready l = []) (hlook : l.finished.lookup l.delivered.length = none) :
    l.finished = [] := by
  have hperm := hb.indices_perm
  rw [hlanes, List.nil_append] at hperm
  rcases hfin : l.finished with _ | ⟨p, rest⟩
  · rfl
  · exfalso
    have hlen := hperm.length_eq
    simp only [hfin, List.map_cons, List.length_cons, List.length_range'] at hlen
    have hin : l.delivered.length ∈ l.finished.map (·.1) :=
      hperm.symm.subset (List.mem_range'_1.mpr ⟨Nat.le_refl _, by omega⟩)
    obtain ⟨q, hq, hq₁⟩ := List.mem_map.mp hin
    have hne := List.lookup_eq_none_iff.mp hlook q hq
    simp [hq₁] at hne

theorem Books.deliver {jobs : Array (Job ε α)} {l : Lanes ε α} {width fuel : Nat} {s s' : σ}
    {rs : List (Except ε α)} {m : Bool} (hb : Books net jobs l)
    (hnext : interleave net width jobs false fuel l s = .ok (rs, s') → Delivered net jobs rs)
    (h : (if ((false && m) || decide (l.delivered.length = jobs.size)) = true then
        Except.ok (l.delivered, s) else interleave net width jobs false fuel l s) = .ok (rs, s')) :
    Delivered net jobs rs := by
  rw [Bool.false_and, Bool.false_or] at h
  split at h
  · cases h
    exact hb.complete (of_decide_eq_true ‹_›)
  · exact hnext h

theorem Books.delivered_eq {jobs : Array (Job ε α)} {l : Lanes ε α} (hb : Books net jobs l)
    (hlanes : laneIndices l.ready l = []) (hfin : l.finished = []) :
    l.delivered.length = l.started := by
  have hperm := hb.indices_perm
  rw [hlanes, hfin, List.map_nil, List.append_nil] at hperm
  have := hperm.length_eq
  simp only [List.length_nil, List.length_range'] at this
  have := hb.delivered_le
  omega

end Lanes

open Lanes in
theorem interleave_delivers (hlaw : net.Lawful) {width W : Nat} (hwidth : 0 < width)
    {jobs : Array (Job ε α)} (hjobs : ∀ j ∈ jobs, WaitsAtMost W j) :
    ∀ (fuel : Nat) (l : Lanes ε α) (s : σ) (rs : List (Except ε α)) (s' : σ),
      LanesOk net jobs (net.executor s) l → Books net jobs l →
      l.measure W jobs.size (net.executor s) ≤ fuel →
      interleave net width jobs false fuel l s = .ok (rs, s') → Delivered net jobs rs
  | 0, l, s, rs, s', _, hb, hm, h => by
    rw [interleave] at h
    cases h
    -- No potential is left: every job has started and been handed on.
    have hlanes := length_laneIndices_le l.ready l
    have hst := hb.started_le
    simp only [Lanes.measure, pot] at hm
    have hstarted : jobs.size ≤ l.started := by
      rcases Nat.eq_zero_or_pos (jobs.size - l.started) with h₀ | h₀
      · omega
      · have := Nat.le_mul_of_pos_left (3 * W + 3) h₀
        omega
    have hnil : laneIndices l.ready l = [] := List.eq_nil_of_length_eq_zero (by omega)
    have hfin : l.finished = [] := List.eq_nil_of_length_eq_zero (by omega)
    exact hb.complete (by have := hb.delivered_eq hnil hfin; omega)
  | fuel + 1, l, s, rs, s', ho, hb, hm, h => by
    rw [interleave] at h
    dsimp only at h
    have hb₁ := hb.start width
    have ho₁ := ho.start width
    have hpot₁ := pot_start width hjobs hb
    generalize hl₁ : l.start width jobs = l₁ at h hb₁ ho₁ hpot₁
    have hpot : l₁.pot W jobs.size + (1 - (net.executor s).budget) ≤ fuel + 1 := by
      unfold Lanes.measure at hm
      omega
    have next := interleave_delivers hlaw hwidth hjobs fuel
    -- A round that ends no lane is followed by a yield: the lanes wake with a fresh budget.
    have yielded : ∀ l' s₁, LanesOk net jobs (net.executor s₁) l' → Books net jobs l' →
        l'.pot W jobs.size ≤ fuel →
        interleave net width jobs false fuel
          (l'.wake (net.executor (net.onExecutor Executor.yieldNow s₁)).now)
          (net.onExecutor Executor.yieldNow s₁) = .ok (rs, s') → Delivered net jobs rs := by
      intro l' s₁ ho' hb' hpot' h
      have he := hlaw.executor_onExecutor Executor.yieldNow s₁
      refine next _ _ rs s' (ho'.wake (by rw [he, Executor.yieldNow_now]) (Nat.le_refl _))
        (hb'.wake _) ?_ h
      have hwake := ho'.pot_wake W jobs.size
        (net.executor (net.onExecutor Executor.yieldNow s₁)).now
      have hbudget := Executor.yieldNow_budget (net.executor s₁)
      rw [← he] at hbudget
      unfold Lanes.measure
      omega
    match hlook : l₁.finished.lookup l₁.delivered.length, h with
    | some x, h =>
      -- The next result had finished already: it is handed on.
      have hb₂ := hb₁.deliver_finished hlook
      refine hb₂.deliver (next _ s rs s' (ho₁.results _ _) hb₂ ?_) h
      obtain ⟨f₁, f₂, hsplit, _⟩ := List.lookup_eq_some_iff.mp hlook
      have hshort : (l₁.finished.filter (·.1 != l₁.delivered.length)).length <
          l₁.finished.length :=
        List.length_filter_lt_length_iff_exists.mpr ⟨(l₁.delivered.length, x), by simp [hsplit],
          by simp⟩
      simp only [Lanes.measure, pot, lanePot] at hpot ⊢
      omega
    | none, h =>
      have hready : ∀ c ∈ l₁.ready, c.Fits net jobs ∧ c.Due (net.executor s).now :=
        fun c hc => ⟨ho₁.fits c (by simp [hc]), ho₁.ready_due c hc⟩
      match hround : round net l₁.ready (l₁.ready.length + l₁.sleeping.length + l₁.held.length)
          l₁ s, h with
      | .error x, h => nomatch h
      | .ok (.result i x, l', s₁), h =>
        obtain ⟨hf, hx⟩ := round_spec hlaw hjobs _ _ _ _ _ _ _ hready hround
        have ho₂ := ho₁.round hf
        have hpot₂ := pot_le_of_round W jobs.size hf
        dsimp only at h
        split at h
        · -- The lane of the next job ended: its result is handed on.
          subst i
          have hb₂ := hb₁.deliver_result hf hx
          refine hb₂.deliver (next _ s₁ rs s' (ho₂.results _ _) hb₂ ?_) h
          simp only [Lanes.measure, pot, lanePot, RoundEnd.gain] at hpot hpot₂ ⊢
          omega
        · -- Another lane ended: its result waits among the finished ones.
          have hb₂ := hb₁.finish hf hx
          refine next _ s₁ rs s' (ho₂.results _ _) hb₂ ?_ h
          simp only [Lanes.measure, pot, lanePot, RoundEnd.gain, List.length_append,
            List.length_singleton] at hpot hpot₂ ⊢
          omega
      | .ok (.yielded, l', s₁), h =>
        obtain ⟨hf, hlen⟩ := round_spec hlaw hjobs _ _ _ _ _ _ _ hready hround
        refine yielded l' s₁ (ho₁.round hf) (hb₁.round hf rfl) ?_ h
        have := pot_add_one_le_of_round W jobs.size hf rfl hlen
        omega
      | .ok (.idle, l', s₁), h =>
        obtain ⟨hf, hidle⟩ := round_spec hlaw hjobs _ _ _ _ _ _ _ hready hround
        have ho₂ := ho₁.round hf
        have hb₂ := hb₁.round hf rfl
        dsimp only at h
        split at h
        · -- Lanes found the budget spent: the client yields.
          rename_i hheld
          refine yielded l' s₁ ho₂ hb₂ ?_ h
          have hne : l'.held ≠ [] := by simpa using hheld
          rcases hf.held_new hne with hold | ⟨_, hlen⟩
          · -- A lane held from before: the budget was spent when the round began.
            have := ho₁.held_budget hold
            have := pot_le_of_round W jobs.size hf
            simp only [RoundEnd.gain] at this
            omega
          · have := pot_add_one_le_of_round W jobs.size hf rfl hlen
            omega
        · rename_i hheld
          have hheld : l'.held = [] := by simpa using hheld
          match hdue : l'.nextDue?, h with
          | some t, h =>
            -- The client sleeps until the first wait is over and wakes at least that lane.
            have he := hlaw.executor_onExecutor (fun e => (e.runTasks.advanceTo t).resume) s₁
            have hnow := Executor.sleepUntil_now (net.executor s₁) t
            refine next _ _ rs s' (ho₂.wake (by rw [he, hnow]; omega) (by rw [he, hnow]; omega))
              (hb₂.wake t) ?_ h
            have hwake := ho₂.pot_wake W jobs.size t
            have hsome := List.length_pos_iff.mpr (wake_nextDue hdue)
            have := pot_le_of_round W jobs.size hf
            simp only [RoundEnd.gain] at this
            unfold Lanes.measure
            rw [he]
            simp only [Executor.resume, turnBudget]
            omega
          | none, h =>
            -- Nothing is in flight and nothing starts: every job has been handed on.
            cases h
            have hsl := sleeping_eq_nil hdue fun c hc => (ho₂.sleeping_due c hc).1
            have hperm := hf.indices_perm
            replace hidle : l'.ready = [] := hidle
            simp only [laneIndices, hidle, hsl, hheld, RoundEnd.ended, List.append_nil,
              List.map_nil, List.nil_perm, List.map_eq_nil_iff, List.append_eq_nil_iff] at hperm
            obtain ⟨⟨hr₁, hs₁⟩, hh₁⟩ := hperm
            have hlanes : laneIndices l₁.ready l₁ = [] := by simp [laneIndices, hr₁, hs₁, hh₁]
            have hfin := hb₁.finished_nil hlanes hlook
            have hall := start_all jobs l hwidth
              (by rw [hl₁]; exact hr₁) (by rw [← hs₁, ← hl₁]; rfl) (by rw [← hh₁, ← hl₁]; rfl)
              (by rw [← hfin, ← hl₁]; rfl)
            rw [hl₁] at hall
            rw [hf.delivered_eq]
            exact hb₁.complete (by have := hb₁.delivered_eq hlanes hfin; have := hb₁.started_le; omega)

theorem interleaved_run {ε' : Type} (width : Nat) (jobs : List (Job ε α)) (stop : Bool)
    (waits : Nat) (s : σ) :
    (interleaved net width jobs stop waits : Session σ ε' (List (Except ε α))).run.run s =
      interleave net width jobs.toArray stop (jobs.length * (8 * waits + 8) + 8) .empty s >>=
        fun p => pure (.ok p.1, p.2) := rfl

open Lanes in
theorem interleaved_delivers {ε' : Type} (hlaw : net.Lawful) {width waits : Nat}
    (hwidth : 0 < width) {jobs : List (Job ε α)} (hjobs : ∀ j ∈ jobs, WaitsAtMost waits j) :
    (interleaved net width jobs false waits : Session σ ε' (List (Except ε α))).Always
      fun r => ∃ rs, r = .ok rs ∧ Delivered net jobs.toArray rs := by
  intro s r s' hr
  rw [interleaved_run] at hr
  cases h : interleave net width jobs.toArray false (jobs.length * (8 * waits + 8) + 8) .empty s
    with
  | error fault =>
    rw [h] at hr
    cases hr
  | ok p =>
    rw [h] at hr
    cases hr
    refine ⟨p.1, rfl, interleave_delivers hlaw hwidth (fun j hj => hjobs j (by simpa using hj))
      _ _ s p.1 p.2 (lanesOk_empty ..) (books_empty ..) ?_ h⟩
    -- The fuel covers the potential of jobs none of which has started.
    have hmul := Nat.mul_le_mul_left jobs.length (show 3 * waits + 3 ≤ 8 * waits + 8 by omega)
    simp only [Lanes.measure, pot, lanePot, Lanes.empty, List.size_toArray, Nat.sub_zero,
      List.map_nil, List.sum_nil, List.length_nil]
    omega

end Job

end DagWallet
