import DagWallet.Proofs.Node.Interleave
import DagWallet.Wallet.Search
import DagWallet.Node.Cluster

/-!
A search over several addresses lists each distinct address in full on one node, the listings
side by side, and joins their outcomes in address order: everything found, each output once
under the first of its identifier, when all listings succeeded; the first error when all
failed; what was found together with what failed otherwise. A failure never reads as a
shorter success.
-/

namespace DagWallet

namespace Wallet

open Job

variable {σ : Type} (w : Wallet σ)

section Waits

theorem follow_waits (node : Nat) (a : Address) (f : OutputFilter) :
    ∀ k acc page, WaitsAtMost (k * w.pool.config.transportRetries.toNat)
      (w.follow node a f k acc page)
  | 0, acc, page => by
    rw [follow.eq_def]
    dsimp only
    cases page.cursor <;> exact .done _ _
  | k + 1, acc, page => by
    rw [follow.eq_def]
    dsimp only
    cases page.cursor with
    | none => exact .done _ _
    | some c =>
      -- One pinned read, then the pages after it.
      rw [Nat.succ_mul, Nat.add_comm]
      exact WaitsAtMost.bind ((w.pool.readOn_waits node _).mapError _)
        fun next => follow_waits node a f k (acc ++ page.items) next

theorem pinned_waits (start : Nat) (a : Address) (f : OutputFilter) :
    WaitsAtMost (w.pool.net.size * w.pool.config.transportRetries.toNat +
      (w.maxPages - 1) * w.pool.config.transportRetries.toNat) (w.pinned start a f) :=
  WaitsAtMost.bind ((w.pool.readIndexed_waits start _).mapError _) fun p =>
    w.follow_waits p.1 a f (w.maxPages - 1) [] p.2

theorem queryFrom_waits (a : Address) (f : OutputFilter) :
    ∀ restarts start, WaitsAtMost (restarts * (w.pool.net.size *
      w.pool.config.transportRetries.toNat + (w.maxPages - 1) * w.pool.config.transportRetries.toNat))
      (w.queryFrom a f restarts start)
  | 0, _ => .done _ _
  | restarts + 1, start => by
    rw [queryFrom, Nat.succ_mul, Nat.add_comm]
    refine WaitsAtMost.bind (w.pinned_waits start a f).result fun r => ?_
    have ih := fun start => queryFrom_waits a f restarts start
    -- Only a listing that failed on a later page starts over, on the next node.
    split
    · exact .done _ _
    · split
      · exact .done _ _
      · exact ih _
    · exact .done _ _

theorem queryAddress_waits (i : Nat) (a : Address) (f : OutputFilter) :
    WaitsAtMost w.waitsPerQuery (w.queryAddress i a f) := by
  refine (w.queryFrom_waits a f _ _).mono ?_
  unfold waitsPerQuery Pool.waitsPerRead
  generalize w.pool.net.size = n
  generalize w.pool.config.transportRetries.toNat = R
  generalize w.maxPages = m
  rcases Nat.eq_zero_or_pos n with rfl | hn
  · simp
  · -- A restart reads one page from each node at most and each later page once.
    have hread : R ≤ n * (R + 1) := Nat.le_trans (Nat.le_succ R) (Nat.le_mul_of_pos_left _ hn)
    have hfirst : n * R ≤ n * (R + 1) := Nat.mul_le_mul_left n (Nat.le_succ R)
    have hlater : (m - 1) * R ≤ m * (n * (R + 1)) :=
      Nat.mul_le_mul (Nat.sub_le m 1) hread
    calc n * (n * R + (m - 1) * R)
        ≤ n * (n * (R + 1) + m * (n * (R + 1))) :=
          Nat.mul_le_mul_left n (Nat.add_le_add hfirst hlater)
      _ = n * (m + 1) * (n * (R + 1)) := by
          rw [Nat.mul_assoc, Nat.add_mul, Nat.one_mul, Nat.add_comm (n * (R + 1))]

end Waits

/-- The outputs in order, each dropped when an earlier one has its identifier. -/
def firstById : List OutputResponse → List OutputResponse
  | [] => []
  | r :: rs => r :: (firstById rs).filter (·.outputId != r.outputId)

/-- The error of a listing that failed. -/
def errorOf? : Except WalletError (List OutputResponse) → Option WalletError
  | .ok _ => none
  | .error e => some e

/-- What a search answers, given each address with the outcome of its listing, in order. -/
def searchAnswer (results : List (Address × Except WalletError (List OutputResponse))) :
    Except WalletError (List OutputResponse) :=
  let found := firstById (results.filterMap (·.2.toOption)).flatten
  let failures := results.filterMap fun p => (errorOf? p.2).map fun e => ⟨p.1, e.message⟩
  match results.filterMap (errorOf? ·.2), results.filterMap (·.2.toOption) with
  | [], _ => .ok found
  | e :: _, [] => .error e
  | _ :: _, _ :: _ => .error (.partialResult found failures)

section Merge

theorem appendNew_eq (acc more : List OutputResponse) :
    appendNew acc more =
      acc ++ (firstById more).filter fun r => !acc.any (·.outputId == r.outputId) := by
  induction more generalizing acc with
  | nil => simp [appendNew, firstById]
  | cons r more ih =>
    have hstep : appendNew acc (r :: more) = appendNew
        (if acc.any (·.outputId == r.outputId) then acc else acc ++ [r]) more := rfl
    rw [hstep]
    by_cases hr : acc.any (·.outputId == r.outputId) = true
    · -- The identifier of r is seen already, and so is each one that the filter by it drops.
      rw [if_pos hr, ih, firstById, List.filter_cons_of_neg (by simp [hr]), List.filter_filter]
      congr 1
      refine List.filter_congr fun x _ => ?_
      by_cases hx : x.outputId = r.outputId
      · simp [hx, hr]
      · simp [hx]
    · rw [if_neg hr, ih, firstById, List.filter_cons_of_pos (by simpa using hr), List.filter_filter,
        List.append_assoc, List.singleton_append]
      congr 2
      refine List.filter_congr fun x _ => ?_
      simp only [List.any_append, List.any_cons, List.any_nil, Bool.or_false, Bool.not_or]
      congr 1
      rw [bne_comm]
      rfl

theorem appendNew_nil (more : List OutputResponse) : appendNew [] more = firstById more := by
  simp [appendNew_eq]

theorem appendNew_append (acc xs ys : List OutputResponse) :
    appendNew acc (xs ++ ys) = appendNew (appendNew acc xs) ys :=
  List.foldl_append

theorem foldl_found
    (g : List OutputResponse → Address × Except WalletError (List OutputResponse) →
      List OutputResponse)
    (hg : ∀ acc a r, g acc (a, r) = appendNew acc (r.toOption.getD [])) :
    ∀ (results : List (Address × Except WalletError (List OutputResponse))) acc,
      results.foldl g acc = appendNew acc (results.filterMap (·.2.toOption)).flatten
  | [], _ => rfl
  | (a, r) :: rest, acc => by
    rw [List.foldl_cons, hg, foldl_found g hg rest, ← appendNew_append]
    cases r <;> rfl

theorem failures_length_eq (results : List (Address × Except WalletError (List OutputResponse))) :
    (results.filterMap fun p => (errorOf? p.2).map fun e => (⟨p.1, e.message⟩ : QueryFailure)).length
      = results.length ↔ results.filterMap (·.2.toOption) = [] := by
  rw [List.filterMap_length_eq_length, List.filterMap_eq_nil_iff]
  refine forall₂_congr fun p _ => ?_
  cases p.2 <;> simp [errorOf?, Except.toOption]

theorem merge_eq_searchAnswer
    (results : List (Address × Except WalletError (List OutputResponse))) :
    merge results = searchAnswer results := by
  unfold merge searchAnswer
  dsimp only
  rw [foldl_found _ ?found, appendNew_nil, ← List.head?_filterMap,
    List.filterMap_congr (g := fun p => errorOf? p.2) ?errors,
    List.filterMap_congr (g := fun p => (errorOf? p.2).map fun e => (⟨p.1, e.message⟩ : QueryFailure))
      ?failures]
  · cases herr : results.filterMap (fun p => errorOf? p.2) with
    | nil => rfl
    | cons e es =>
      simp only [List.head?_cons]
      -- All failed exactly when nothing succeeded.
      by_cases hok : results.filterMap (·.2.toOption) = []
      · rw [if_pos ((failures_length_eq results).mpr hok), hok]
      · rw [if_neg (mt (failures_length_eq results).mp hok)]
        obtain ⟨o, os, hos⟩ := List.exists_cons_of_ne_nil hok
        rw [hos]
  case failures => rintro ⟨a, _ | o⟩ _ <;> rfl
  case errors => rintro ⟨a, _ | o⟩ _ <;> rfl
  case found =>
    intro acc a r
    cases r <;> rfl

end Merge

/-- What a search of `addresses` may answer: one outcome for each distinct address, in order,
each one that the address's listing reaches along some course of answers of the nodes, joined
as `searchAnswer` says. -/
def Answers (f : OutputFilter) (addresses : List Address)
    (res : Except WalletError (List OutputResponse)) : Prop :=
  ∃ rs : List (Except WalletError (List OutputResponse)),
    rs.length = addresses.eraseDups.length ∧
    (∀ i r, rs[i]? = some r → ∃ a, addresses.eraseDups[i]? = some a ∧
      Yields w.pool.net (w.queryAddress i a f) r) ∧
    res = searchAnswer (addresses.eraseDups.zip rs)

theorem listings_getElem? (f : OutputFilter) (D : List Address) (k : Nat) :
    (D.zipIdx.map fun (a, i) => w.queryAddress i a f).toArray[k]? =
      D[k]?.map fun a => w.queryAddress k a f := by
  simp [List.getElem?_zipIdx, Function.comp_def]

/-- On a network whose nodes leave the client's clock alone, a search answers what its listings
reach, joined in address order; a search of no address asks no node. -/
theorem findOutputs_answers (hlaw : w.pool.net.Lawful) (f : OutputFilter)
    (addresses : List Address) :
    (w.findOutputs f addresses).Always (w.Answers f addresses) ∧
      ∀ s, (w.findOutputs f []).run.run s = .ok (.ok [], s) := by
  refine ⟨?_, fun s => rfl⟩
  unfold findOutputs
  dsimp only
  refine Session.always_ite (fun hnone => Session.always_pure ⟨[], ?_, ?_, ?_⟩) (fun _ => ?_)
  · rw [List.isEmpty_iff.mp hnone]
    rfl
  · intro i r hr
    nomatch hr
  · rw [List.isEmpty_iff.mp hnone]
    rfl
  · have hwidth : 0 < w.width := Nat.lt_of_lt_of_le Nat.one_pos (Nat.le_max_left _ _)
    have hjobs : ∀ j ∈ addresses.eraseDups.zipIdx.map (fun (a, i) => w.queryAddress i a f),
        WaitsAtMost w.waitsPerQuery j := by
      intro j hj
      obtain ⟨⟨a, i⟩, _, rfl⟩ := List.mem_map.mp hj
      exact w.queryAddress_waits i a f
    refine Session.always_bind ((interleaved_delivers hlaw hwidth hjobs).mono fun r hr => ?_)
    obtain ⟨rs, rfl, hlen, hyield⟩ := hr
    refine Session.always_liftExcept ⟨rs, ?_, fun i r hr => ?_, merge_eq_searchAnswer _⟩
    · simpa using hlen
    · obtain ⟨j, hj, hjr⟩ := hyield i r hr
      rw [listings_getElem?] at hj
      obtain ⟨a, ha, rfl⟩ := Option.map_eq_some_iff.mp hj
      exact ⟨a, ha, hjr⟩

end Wallet

namespace Cluster

theorem network_lawful (c : Cluster) : c.network.Lawful where
  executor_set _ _ := rfl
  serve_executor := by
    intro i r s x s' h
    simp only [network, serve] at h
    split at h
    · cases hs : LedgerNode.serve r _ with
      | error fault =>
        rw [hs] at h
        cases h
      | ok p =>
        rw [hs] at h
        cases h
        rfl
    · cases h
      rfl

end Cluster

/-- A search of one address named twice over a cluster of one node. -/
theorem cluster_search_answers :
    (Cluster.ofNames ["node0"]).network.Lawful ∧
      ((⟨⟨(Cluster.ofNames ["node0"]).network, {}⟩, {}⟩ : Wallet Cluster).findOutputs {}
        [⟨⟨Vector.replicate 32 1⟩⟩, ⟨⟨Vector.replicate 32 1⟩⟩]).Always
        ((⟨⟨(Cluster.ofNames ["node0"]).network, {}⟩, {}⟩ : Wallet Cluster).Answers {}
          [⟨⟨Vector.replicate 32 1⟩⟩, ⟨⟨Vector.replicate 32 1⟩⟩]) :=
  have hlaw := Cluster.network_lawful (Cluster.ofNames ["node0"])
  ⟨hlaw, (Wallet.findOutputs_answers _ hlaw {} _).1⟩

end DagWallet
