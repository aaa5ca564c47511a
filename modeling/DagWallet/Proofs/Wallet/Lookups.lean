import DagWallet.Proofs.Node.InTurn
import DagWallet.Wallet.Resolve
import DagWallet.Node.Cluster

/-!
Lookups of many identifiers at once. A pool that never retries never waits, so the lookups that
a wallet runs side by side go out in turn: each distinct identifier is looked up once, in order
of first occurrence, as by a loop over the identifiers. The laws of such a loop follow: the
lookups of two lists with no identifier in common are those of the first list, then those of
the second, and the outcomes are put together in that order.

Where a read may wait before a retry, the lookups interleave: another lookup goes out during
the wait, and against a node whose answers depend on how many requests it has seen, the outcome
is not that of the loop.
-/

namespace DagWallet

namespace Session

variable {σ ε ε' α β : Type}

theorem ext_run {x y : Session σ ε α} (h : ∀ s, x.run.run s = y.run.run s) : x = y :=
  ExceptT.ext (StateT.ext h)

theorem mapError_bind (g : ε → ε') (x : Session σ ε α) (f : α → Session σ ε β) :
    (x >>= f).mapError g = x.mapError g >>= fun a => (f a).mapError g := by
  apply ext_run
  intro s
  cases hx : x.run.run s with
  | error fault =>
    rw [run_mapError_fault g (run_bind_fault f hx), run_bind_fault _ (run_mapError_fault g hx)]
  | ok p =>
    obtain ⟨r, s'⟩ := p
    cases r with
    | error e =>
      have hg : (x.mapError g).run.run s = .ok (.error (g e), s') := by
        rw [run_mapError, hx]
        rfl
      rw [run_mapError, run_bind_error f hx, run_bind_error _ hg]
      rfl
    | ok a =>
      have hg : (x.mapError g).run.run s = .ok (.ok a, s') := by
        rw [run_mapError, hx]
        rfl
      rw [run_mapError, run_bind_ok f hx, run_bind_ok _ hg, run_mapError]

theorem result_lift_bind (f : σ → Except Fault (β × σ)) (F : β → Except ε α) :
    ((ExceptT.lift (StateT.mk f) >>= fun v => liftExcept (F v) : Session σ ε α).result :
        Session σ ε' (Except ε α)) =
      ExceptT.lift (StateT.mk f) >>= fun v => pure (F v) := by
  apply ext_run
  intro s
  cases hf : f s with
  | error fault =>
    have hlift : (ExceptT.lift (StateT.mk f) : Session σ ε β).run.run s = .error fault := by
      rw [run_lift, hf]
      rfl
    rw [run_result_fault (run_bind_fault _ hlift), run_bind_fault _ (by rw [run_lift, hf]; rfl)]
  | ok p =>
    have hlift : (ExceptT.lift (StateT.mk f) : Session σ ε β).run.run s = .ok (.ok p.1, p.2) := by
      rw [run_lift, hf]
      rfl
    rw [run_result, run_bind_ok _ hlift, run_liftExcept, run_bind_ok _ (by rw [run_lift, hf]; rfl)]
    rfl

end Session

theorem eraseDups_append_of_disjoint {α : Type} [BEq α] [LawfulBEq α] {A B : List α}
    (h : ∀ x ∈ A, x ∉ B) : (A ++ B).eraseDups = A.eraseDups ++ B.eraseDups := by
  rw [List.eraseDups_append]
  congr
  apply List.filter_eq_self.mpr
  intro b hb
  simpa using fun ha => h b ha hb

namespace Pool

variable {σ : Type} (p : Pool σ)

theorem read_waitsAtMost_zero (h0 : p.config.transportRetries = 0) (r : Request) :
    Job.WaitsAtMost 0 (p.read r) := by
  have h := p.readIndexed_waits 0 r
  rw [h0, show (0 : UInt32).toNat = 0 from rfl, Nat.mul_zero] at h
  exact h.map Prod.snd

end Pool

namespace Wallet

open Job

variable {σ : Type} (w : Wallet σ)

theorem width_pos : 0 < w.width := Nat.lt_of_lt_of_le Nat.one_pos (Nat.le_max_left _ _)

/-- The lookup of each distinct identifier, in order of first occurrence. -/
def outputLookups (ids : List OutputId) : List (Job NodeError OutputResponse) :=
  ids.eraseDups.map fun id => w.pool.read (.output id)

/-- The lookup of one output, run on its own, its outcome handed over. -/
def lookupOutput (id : OutputId) : Session σ WalletError (Except NodeError OutputResponse) :=
  ((w.pool.read (.output id)).run w.pool.net).result

section InTurn

variable {w} (h0 : w.pool.config.transportRetries = 0)
include h0

theorem lookupAll_eq_lift (ids : List OutputId) :
    w.lookupAll ids = ExceptT.lift (StateT.mk (inTurn w.pool.net false (w.outputLookups ids))) :=
  interleaved_eq_inTurn false w.width_pos fun _ hj => by
    obtain ⟨id, -, rfl⟩ := List.mem_map.mp hj
    exact w.pool.read_waitsAtMost_zero h0 _

theorem lookupAll_in_turn (ids : List OutputId) :
    w.lookupAll ids = ids.eraseDups.mapM w.lookupOutput := by
  apply Session.ext_run
  intro s
  rw [lookupAll_eq_lift h0, Session.run_lift, ← run_mapM_result, outputLookups]
  exact congrArg (fun x : Session σ WalletError (List (Except NodeError OutputResponse)) =>
    x.run.run s) List.mapM_map

theorem lookupAll_append {A B : List OutputId} (hAB : ∀ x ∈ A, x ∉ B) :
    w.lookupAll (A ++ B) = (do
      let fa ← w.lookupAll A
      let fb ← w.lookupAll B
      pure (fa ++ fb)) := by
  rw [lookupAll_in_turn h0, lookupAll_in_turn h0, lookupAll_in_turn h0,
    eraseDups_append_of_disjoint hAB, List.mapM_append]

end InTurn

/-- The outputs of looked-up identifiers, or the first failure among them, as a node error of the
wallet. -/
def collected (found : List (Except NodeError OutputResponse)) :
    Except WalletError (List OutputResponse) :=
  (found.mapM id).mapError .node

theorem getOutputs_eq_bind (ids : List OutputId) :
    w.getOutputs ids = w.lookupAll ids >>= fun found => liftExcept (collected found) := by
  unfold getOutputs
  congr 1
  funext found
  unfold collected
  cases found.mapM id <;> rfl

theorem collected_append (fa fb : List (Except NodeError OutputResponse)) :
    collected (fa ++ fb) = (do
      let a ← collected fa
      let b ← collected fb
      pure (a ++ b)) := by
  unfold collected
  rw [List.mapM_append]
  cases fa.mapM id with
  | error e => rfl
  | ok a => cases fb.mapM id <;> rfl

theorem tryGetOutputs_eq_bind (ids : List OutputId) :
    w.tryGetOutputs ids = w.lookupAll ids >>= fun found =>
      pure (found.filterMap Except.toOption) := by
  unfold tryGetOutputs
  congr 1
  funext found
  congr 2
  funext r
  cases r <;> rfl

theorem findBlocks_in_turn (h0 : w.pool.config.transportRetries = 0) (ids : List BlockId) :
    w.findBlocks ids = Session.ofNode (ids.eraseDups.mapM w.pool.block) := by
  have hjs : ∀ j ∈ ids.eraseDups.map (fun id => w.pool.read (.block id)), WaitsAtMost 0 j := by
    intro j hj
    obtain ⟨id, -, rfl⟩ := List.mem_map.mp hj
    exact w.pool.read_waitsAtMost_zero h0 _
  apply Session.ext_run
  intro s
  unfold findBlocks Session.ofNode
  have hmap : (ids.eraseDups.map fun id => (w.pool.read (.block id) : Job NodeError Block)).mapM
      (fun j : Job NodeError Block => j.run w.pool.net) = ids.eraseDups.mapM w.pool.block :=
    List.mapM_map
  rw [interleaved_eq_inTurn true w.width_pos hjs, Session.run_mapError, ← hmap, run_mapM_run]
  cases hq : inTurn w.pool.net true (ids.eraseDups.map fun id => w.pool.read (.block id)) s with
  | error fault =>
    rw [Session.run_bind_fault _ (by rw [Session.run_lift, hq]; rfl)]
    rfl
  | ok q =>
    rw [Session.run_bind_ok _ (by rw [Session.run_lift, hq]; rfl)]
    show _ = Except.ok ((q.1.mapM id).mapError WalletError.node, q.2)
    cases q.1.mapM id <;> rfl

section Merge

variable {w} (h0 : w.pool.config.transportRetries = 0)
include h0

theorem getOutputs_in_turn (ids : List OutputId) :
    w.getOutputs ids = (do
      let found ← ids.eraseDups.mapM w.lookupOutput
      liftExcept (collected found)) := by
  rw [getOutputs_eq_bind, lookupAll_in_turn h0]

theorem tryGetOutputs_in_turn (ids : List OutputId) :
    w.tryGetOutputs ids = (do
      let found ← ids.eraseDups.mapM w.lookupOutput
      pure (found.filterMap Except.toOption)) := by
  rw [tryGetOutputs_eq_bind, lookupAll_in_turn h0]

variable {A B : List OutputId} (hAB : ∀ x ∈ A, x ∉ B)
include hAB

theorem getOutputs_append :
    w.getOutputs (A ++ B) = (do
      let ra ← (w.getOutputs A).result
      let rb ← (w.getOutputs B).result
      liftExcept (do
        let a ← ra
        let b ← rb
        pure (a ++ b))) := by
  rw [getOutputs_eq_bind, getOutputs_eq_bind, getOutputs_eq_bind, lookupAll_append h0 hAB,
    lookupAll_eq_lift h0 A, lookupAll_eq_lift h0 B, Session.result_lift_bind,
    Session.result_lift_bind]
  simp only [bind_assoc, pure_bind, collected_append]

theorem tryGetOutputs_append :
    w.tryGetOutputs (A ++ B) = (do
      let a ← w.tryGetOutputs A
      let b ← w.tryGetOutputs B
      pure (a ++ b)) := by
  rw [tryGetOutputs_eq_bind, tryGetOutputs_eq_bind, tryGetOutputs_eq_bind, lookupAll_append h0 hAB]
  simp only [bind_assoc, pure_bind, List.filterMap_append]

end Merge

theorem findBlocks_append (h0 : w.pool.config.transportRetries = 0) {A B : List BlockId}
    (hAB : ∀ x ∈ A, x ∉ B) :
    w.findBlocks (A ++ B) = (do
      let a ← w.findBlocks A
      let b ← w.findBlocks B
      pure (a ++ b)) := by
  rw [findBlocks_in_turn w h0, findBlocks_in_turn w h0, findBlocks_in_turn w h0,
    eraseDups_append_of_disjoint hAB, List.mapM_append]
  unfold Session.ofNode
  rw [Session.mapError_bind]
  congr 1
  funext a
  rw [Session.mapError_bind]
  rfl

end Wallet

end DagWallet
