import DagWallet.Proofs.Wallet.Distinct
import DagWallet.Proofs.Wallet.Search
import DagWallet.Proofs.Wallet.Lookups
import DagWallet.Proofs.Node.Paging
import DagWallet.Wallet.Client

/-!
Outputs looked up by identifier, joined with the basic outputs of addresses. The lookups come
first: a failing one ends the call with its error, and no address is searched. Then the search:
its error, a partial result among them, ends the call. Otherwise the outputs of the identifiers
come first, in the order in which the caller first named them, and after them the outputs of the
search whose identifiers are not among them.

Three passes keep identifiers apart: the lookups ask each distinct identifier once, and a node
answers a lookup with the output it names; a search keeps the first output of each identifier;
and the join drops what the lookups already found. So no identifier comes twice.
-/

namespace DagWallet

open Session Job

namespace LedgerNode

theorem serve_output_ok {n n' : LedgerNode} {id : OutputId} {x : OutputResponse}
    (h : n.serve (.output id) = .ok (.ok x, n')) : x.outputId = id := by
  rcases he : n.enter (Request.output id).operation with ⟨res, n₁⟩
  rw [serve, he] at h
  cases res with
  | error e => cases h
  | ok _ =>
    simp only [answer] at h
    split at h
    · cases h
    · split at h
      · rename_i r hr
        cases h
        unfold outputOf? at hr
        have hid := List.find?_some hr
        exact beq_iff_eq.mp hid
      · cases h

end LedgerNode

namespace Cluster

theorem output_answer {c₀ c c' : Cluster} {i : Nat} {id : OutputId} {x : OutputResponse}
    (h : c₀.network.serve i (.output id) c = .ok (.ok x, c')) : x.outputId = id := by
  change c.serve i (.output id) = _ at h
  cases hn : c.nodes[i]? with
  | none =>
    rw [serve, hn] at h
    cases h
  | some n =>
    rw [serve_of_getElem? hn] at h
    cases hs : n.serve (.output id) with
    | error fault =>
      rw [hs] at h
      cases h
    | ok p =>
      obtain ⟨res, n'⟩ := p
      rw [hs] at h
      simp only [Except.map, Except.ok.injEq, Prod.mk.injEq] at h
      obtain ⟨rfl, -⟩ := h
      exact LedgerNode.serve_output_ok hs

end Cluster

namespace Wallet

variable {σ : Type} (w : Wallet σ)

/-! ### A search keeps the first output of each identifier -/

section Search

theorem nodup_firstById (rs : List OutputResponse) : ((firstById rs).map (·.outputId)).Nodup := by
  induction rs with
  | nil => exact .nil
  | cons r rs ih =>
    rw [firstById, List.map_cons, List.nodup_cons]
    refine ⟨fun hr => ?_, (ih.sublist ((List.filter_sublist).map _))⟩
    obtain ⟨y, hy, hyr⟩ := List.mem_map.mp hr
    have := (List.mem_filter.mp hy).2
    simp [hyr] at this

theorem firstById_of_nodup {rs : List OutputResponse} (h : (rs.map (·.outputId)).Nodup) :
    firstById rs = rs := by
  induction rs with
  | nil => rfl
  | cons r rs ih =>
    rw [List.map_cons, List.nodup_cons] at h
    rw [firstById, ih h.2, List.filter_eq_self.mpr fun y hy => ?_]
    have hne : y.outputId ≠ r.outputId := fun he => h.1 (he ▸ List.mem_map_of_mem hy)
    simp [hne]

theorem searchAnswer_ok {results : List (Address × Except WalletError (List OutputResponse))}
    {bs : List OutputResponse} (h : searchAnswer results = .ok bs) :
    bs = firstById (results.filterMap (·.2.toOption)).flatten := by
  unfold searchAnswer at h
  split at h
  · exact (Except.ok.inj h).symm
  · cases h
  · cases h

theorem findOutputs_nodup {f : OutputFilter} {addresses : List Address} {s s' : σ}
    {bs : List OutputResponse} (h : (w.findOutputs f addresses).run.run s = .ok (.ok bs, s')) :
    (bs.map (·.outputId)).Nodup := by
  unfold findOutputs at h
  dsimp only at h
  split at h
  · cases h
    exact .nil
  · rcases run_bind_eq_ok h with ⟨e, -, he⟩ | ⟨results, s₁, -, h⟩
    · cases he
    · rw [run_liftExcept] at h
      have hm : merge (addresses.eraseDups.zip results) = .ok bs := (Prod.mk.inj (Except.ok.inj h)).1
      rw [merge_eq_searchAnswer] at hm
      rw [searchAnswer_ok hm]
      exact nodup_firstById _

theorem appendNew_of_nodup {os bs : List OutputResponse} (h : (bs.map (·.outputId)).Nodup) :
    appendNew os bs = os ++ bs.filter fun r => r.outputId ∉ os.map (·.outputId) := by
  rw [appendNew_eq, firstById_of_nodup h]
  congr 1
  refine List.filter_congr fun r _ => ?_
  rw [Bool.eq_iff_iff, Bool.not_eq_true', List.any_eq_false, decide_eq_true_iff, List.mem_map]
  simp only [beq_iff_eq, not_exists, not_and]

end Search

/-! ### The lookups answer the identifiers in order -/

section Lookups

theorem mapM_id_eq_ok {ε α : Type} :
    ∀ {found : List (Except ε α)} {os : List α}, found.mapM id = .ok os → found = os.map .ok
  | [], os, h => by
    cases h
    rfl
  | x :: found, os, h => by
    rw [List.mapM_cons] at h
    cases x with
    | error e => cases h
    | ok a =>
      cases hrest : found.mapM id with
      | error e =>
        rw [hrest] at h
        cases h
      | ok rest =>
        rw [hrest] at h
        cases h
        rw [mapM_id_eq_ok hrest]
        rfl

theorem read_waits (r : Request) : WaitsAtMost w.pool.waitsPerRead (w.pool.read r) :=
  ((w.pool.readIndexed_waits 0 r).map Prod.snd).mono (Nat.mul_le_mul_left _ (Nat.le_succ _))

theorem getOutputs_ids (hlaw : w.pool.net.Lawful)
    (hgive : ∀ i id s x s', w.pool.net.serve i (.output id) s = .ok (.ok x, s') → x.outputId = id)
    {ids : List OutputId} {s s' : σ} {os : List OutputResponse}
    (h : (w.getOutputs ids).run.run s = .ok (.ok os, s')) :
    os.map (·.outputId) = dedupOrdered ids := by
  rw [getOutputs_eq_bind] at h
  rcases run_bind_eq_ok h with ⟨e, -, he⟩ | ⟨found, s₁, hfound, h⟩
  · cases he
  rw [run_liftExcept] at h
  have hcol : collected found = .ok os := (Prod.mk.inj (Except.ok.inj h)).1
  have hfo : found = os.map .ok := by
    unfold collected at hcol
    cases hm : found.mapM id with
    | error e =>
      rw [hm] at hcol
      cases hcol
    | ok os' =>
      rw [hm] at hcol
      cases hcol
      exact mapM_id_eq_ok hm
  have hjobs : ∀ j ∈ ids.eraseDups.map (fun id => w.pool.read (.output id)),
      WaitsAtMost w.pool.waitsPerRead j := by
    intro j hj
    obtain ⟨id, -, rfl⟩ := List.mem_map.mp hj
    exact w.read_waits _
  obtain ⟨rs, hrs, hlen, hyield⟩ := interleaved_delivers hlaw w.width_pos hjobs s _ s₁ hfound
  cases hrs
  -- the lookups as the scheduler holds them, one for each distinct identifier
  have hmap : ∀ k, (List.map (β := Job NodeError OutputResponse)
      (fun id => w.pool.read (Request.output id)) ids.eraseDups)[k]? =
      Option.map (β := Job NodeError OutputResponse) (fun id => w.pool.read (Request.output id))
        ids.eraseDups[k]? := fun _ => List.getElem?_map
  have hlen' : os.length = ids.eraseDups.length := by
    have hl : (List.map (β := Job NodeError OutputResponse)
        (fun id => w.pool.read (Request.output id)) ids.eraseDups).length = ids.eraseDups.length :=
      List.length_map ..
    rw [List.size_toArray, hl, hfo, List.length_map] at hlen
    exact hlen
  rw [dedupOrdered_eq_eraseDups]
  apply List.ext_getElem?
  intro k
  rw [List.getElem?_map]
  cases hk : os[k]? with
  | none =>
    -- past the outputs, past the identifiers: one output for each
    rw [List.getElem?_eq_none_iff] at hk
    rw [Option.map_none, eq_comm, List.getElem?_eq_none_iff]
    omega
  | some o =>
    have hfk : found[k]? = some (.ok o) := by rw [hfo, List.getElem?_map, hk]; rfl
    obtain ⟨j, hj, hy⟩ := hyield k _ hfk
    rw [List.getElem?_toArray, hmap] at hj
    cases hid : ids.eraseDups[k]? with
    | none =>
      rw [hid] at hj
      cases hj
    | some id =>
      rw [hid] at hj
      cases hj
      obtain ⟨i, s₂, s₃, hserve⟩ := w.pool.read_yields hy
      exact congrArg some (hgive i id s₂ o s₃ hserve)

end Lookups

/-! ### The join -/

section Join

variable {ids : List OutputId} {addresses : List Address} {s s₁ : σ}

theorem findAll_of_lookup_error {e : WalletError} (h : (w.getOutputs ids).run.run s = .ok (.error e, s₁)) :
    (w.findAll ids addresses).run.run s = .ok (.error e, s₁) :=
  run_bind_error _ h

variable {os : List OutputResponse} (hos : (w.getOutputs ids).run.run s = .ok (.ok os, s₁))
include hos

theorem findAll_of_search_error {e : WalletError} {s₂ : σ}
    (h : (w.findOutputs .basic addresses).run.run s₁ = .ok (.error e, s₂)) :
    (w.findAll ids addresses).run.run s = .ok (.error e, s₂) := by
  rw [findAll, run_bind_ok _ hos, run_bind_error _ h]

theorem findAll_of_found {bs : List OutputResponse} {s₂ : σ}
    (h : (w.findOutputs .basic addresses).run.run s₁ = .ok (.ok bs, s₂)) :
    (w.findAll ids addresses).run.run s = .ok (.ok (appendNew os bs), s₂) := by
  rw [findAll, run_bind_ok _ hos, run_bind_ok _ h]
  rfl

end Join

/-- Outputs by identifier joined with the basic outputs of addresses, in a cluster of nodes in
any state. A failing lookup ends the call with its error where the lookups left the nodes, with
no address searched; a failing search, a partial result among them, ends it with the search's
error. Otherwise the outputs of the identifiers come first, one for each identifier in the order
the caller first named them, then the outputs of the search whose identifiers are not among them;
no identifier comes twice. -/
theorem findAll_joins (c₀ : Cluster) (config : PoolConfig) (settings : Config)
    (ids : List OutputId) (addresses : List Address) (c : Cluster) :
    let w : Wallet Cluster := ⟨⟨c₀.network, config⟩, settings⟩
    (∀ e c₁, (w.getOutputs ids).run.run c = .ok (.error e, c₁) →
      (w.findAll ids addresses).run.run c = .ok (.error e, c₁)) ∧
    ∀ os c₁, (w.getOutputs ids).run.run c = .ok (.ok os, c₁) →
      os.map (·.outputId) = dedupOrdered ids ∧
      (∀ e c₂, (w.findOutputs .basic addresses).run.run c₁ = .ok (.error e, c₂) →
        (w.findAll ids addresses).run.run c = .ok (.error e, c₂)) ∧
      ∀ bs c₂, (w.findOutputs .basic addresses).run.run c₁ = .ok (.ok bs, c₂) →
        (w.findAll ids addresses).run.run c =
            .ok (.ok (os ++ bs.filter fun r => r.outputId ∉ os.map (·.outputId)), c₂) ∧
          ((os ++ bs.filter fun r => r.outputId ∉ os.map (·.outputId)).map (·.outputId)).Nodup := by
  intro w
  refine ⟨fun e c₁ h => w.findAll_of_lookup_error h, fun os c₁ hos => ?_⟩
  have hids : os.map (·.outputId) = dedupOrdered ids :=
    w.getOutputs_ids (Cluster.network_lawful c₀) (fun _ _ _ _ _ h => Cluster.output_answer h) hos
  refine ⟨hids, fun e c₂ h => w.findAll_of_search_error hos h, fun bs c₂ h => ?_⟩
  have hbs := w.findOutputs_nodup h
  refine ⟨by rw [w.findAll_of_found hos h, appendNew_of_nodup hbs], ?_⟩
  -- the identifiers found first are distinct, and so are the new ones, none of them found first
  rw [List.map_append, List.nodup_append]
  refine ⟨hids ▸ nodup_dedupOrdered ids, hbs.sublist ((List.filter_sublist).map _), ?_⟩
  intro a ha b hb hab
  obtain ⟨r, hr, rfl⟩ := List.mem_map.mp hb
  exact (by simpa using (List.mem_filter.mp hr).2 : r.outputId ∉ os.map (·.outputId)) (hab ▸ ha)

end Wallet

end DagWallet
