import DagWallet.Wallet.Search
import DagWallet.Proofs.Node.Paging

/-!
The listing of one address in a cluster of nodes that keep their outputs. A sub-query reads
the first page from the first node that answers and follows that node's own cursors, so
whatever it returns is one node's whole listing; it stops with a page-limit error, naming the
address and the limit, only when a node's listing is longer than that many pages. When the node
the sub-query starts on is up, the listing comes from it alone, one request per page.
-/

namespace DagWallet

namespace Wallet

open Session Cluster LedgerNode

/-- What a listing of `a` may end with in the cluster `c`: the whole listing of one of its
nodes, which fits in the limit of pages, or a page-limit error that names `a` and the limit when
one of its nodes holds more than that many pages, or another error. -/
structure Listed (c : Cluster) (a : Address) (f : OutputFilter) (maxPages : Nat)
    (res : Except WalletError (List OutputResponse)) : Prop where
  whole : ∀ L, res = .ok L → ∃ n ∈ c.nodes, L = n.listing a f ∧ L.length ≤ maxPages * n.pageSize
  pageLimit : ∀ a' p, res = .error (.pageLimitExceeded a' p) →
    a' = a ∧ p = maxPages ∧ ∃ n ∈ c.nodes, maxPages * n.pageSize < (n.listing a f).length

theorem listed_node {c : Cluster} {a : Address} {f : OutputFilter} {m : Nat} (e : NodeError) :
    Listed c a f m (.error (.node e)) :=
  ⟨fun _ h => (nomatch h), fun _ _ h => (nomatch h)⟩

/-! ### Every run -/

section Sound

variable {c₀ : Cluster} {w : Wallet Cluster} {a : Address} {f : OutputFilter}

theorem outputsOf_read (cur : Option String) : ∀ b, Request.outputsOf a f cur ≠ .submit b :=
  fun _ h => nomatch h

theorem follow_run {j : Nat} {n : LedgerNode} (hn : c₀.nodes[j]? = some n)
    (hj : j < w.pool.net.size) :
    ∀ (d o : Nat) (P : OutputPage) {c c' : Cluster}
      {res : Except PinnedError (List OutputResponse)},
      SameOutputs c₀ c → o ≤ (n.listing a f).length →
      page n.pageSize o (n.listing a f) = .ok P →
      o + (d + 1) * n.pageSize = w.maxPages * n.pageSize →
      ((w.follow j a f d ((n.listing a f).take o) P).run c₀.network).run.run c = .ok (res, c') →
      SameOutputs c₀ c' ∧ Listed c₀ a f w.maxPages (res.mapError Prod.snd)
  | d, o, P, c, c', res, hR, ho, hP, hcount, h => by
    have hmem : n ∈ c₀.nodes := List.mem_of_getElem? hn
    have htake := take_append_items hP ho
    rw [follow.eq_def] at h
    dsimp only at h
    split at h
    · -- the last page: the listing is whole
      rename_i hnone
      cases h
      have hend := cursor_eq_none hP hnone
      rw [Nat.min_eq_right hend, List.take_length] at htake
      refine ⟨hR, ⟨fun L hL => ?_, fun a' p hp => (by cases hp)⟩⟩
      cases hL
      exact ⟨n, hmem, htake, by rw [htake, ← hcount, Nat.succ_mul]; omega⟩
    · -- a cursor with no page left: the listing is longer than the limit
      rename_i cur hsome
      cases h
      have hlong := (cursor_eq_some hP hsome).1
      refine ⟨hR, ⟨fun L hL => (by cases hL), fun a' p hp => ?_⟩⟩
      cases hp
      exact ⟨rfl, rfl, n, hmem, by omega⟩
    · -- the next page, from the same node, at the offset the cursor names
      rename_i cur k hsome
      obtain ⟨hlong, rfl⟩ := cursor_eq_some hP hsome
      rw [Job.run_bind] at h
      rcases run_bind_eq_ok h with ⟨e, he, rfl⟩ | ⟨next, c₁, hnext, h⟩
      · -- the page failed on its node
        obtain ⟨res₀, hread, hres₀⟩ := Job.run_mapError_eq_ok _ he
        have hR₁ := (Pool.readOn_run (network_keeps c₀) (outputsOf_read _) w.pool j hread).1
        refine ⟨(network_keeps c₀).trans hR hR₁, ?_⟩
        cases res₀ with
        | ok _ => cases hres₀
        | error e₀ =>
          cases hres₀
          exact listed_node e₀
      obtain ⟨res₀, hread, hres₀⟩ := Job.run_mapError_eq_ok _ hnext
      obtain ⟨hR₁, hans⟩ := Pool.readOn_run (network_keeps c₀) (outputsOf_read _) w.pool j hread
      rcases res₀ with e | next'
      · cases hres₀
      cases hres₀
      rw [Nat.mod_eq_of_lt hj] at hans
      obtain ⟨n', hn', o', ho', hpage⟩ :=
        answered_outputsOf ((hans next rfl).before (network_keeps c₀) hR)
      rw [hn] at hn'
      cases hn'
      -- the cursor names the end of the page before
      have hnextAt : o' = o + n.pageSize :=
        ho'.unique (cursorAt_toString (lt_of_page_eq_ok hP))
      subst hnextAt
      rw [Nat.min_eq_left (Nat.le_of_lt hlong)] at htake
      rw [htake] at h
      exact follow_run hn hj k (o + n.pageSize) next ((network_keeps c₀).trans hR hR₁)
        (Nat.le_of_lt hlong) hpage (by rw [Nat.succ_mul] at hcount; omega) h

theorem maxPages_pos (w : Wallet Cluster) : 1 ≤ w.maxPages := Nat.le_max_left _ _

theorem pinned_run (start : Nat) {c c' : Cluster} {res : Except PinnedError (List OutputResponse)}
    (hR : SameOutputs c₀ c)
    (h : ((w.pinned start a f).run c₀.network).run.run c = .ok (res, c')) :
    SameOutputs c₀ c' ∧ Listed c₀ a f w.maxPages (res.mapError Prod.snd) := by
  rw [pinned, Job.run_bind] at h
  rcases run_bind_eq_ok h with ⟨e, he, rfl⟩ | ⟨⟨node, P⟩, c₁, hfirst, h⟩
  · -- no node gave the first page
    obtain ⟨res₀, hread, hres₀⟩ := Job.run_mapError_eq_ok _ he
    have hR₁ := (Pool.readIndexed_run (network_keeps c₀) (outputsOf_read _) w.pool start hread).1
    refine ⟨(network_keeps c₀).trans hR hR₁, ?_⟩
    rcases res₀ with e₀ | x
    · cases hres₀
      exact listed_node e₀
    · cases hres₀
  obtain ⟨res₀, hread, hres₀⟩ := Job.run_mapError_eq_ok _ hfirst
  rcases res₀ with e | x
  · cases hres₀
  cases hres₀
  obtain ⟨hR₁, hans⟩ := Pool.readIndexed_run (network_keeps c₀) (outputsOf_read _) w.pool start hread
  obtain ⟨hnode, hanswer⟩ := hans node P rfl
  obtain ⟨n, hn, o, ho, hpage⟩ := answered_outputsOf (hanswer.before (network_keeps c₀) hR)
  cases ho
  have hcount : 0 + (w.maxPages - 1 + 1) * n.pageSize = w.maxPages * n.pageSize := by
    rw [Nat.zero_add, Nat.sub_add_cancel (maxPages_pos w)]
  exact follow_run hn hnode (w.maxPages - 1) 0 P ((network_keeps c₀).trans hR hR₁)
    (Nat.zero_le _) hpage hcount h

theorem queryFrom_run :
    ∀ (restarts start : Nat) {c c' : Cluster} {res : Except WalletError (List OutputResponse)},
      SameOutputs c₀ c →
      ((w.queryFrom a f restarts start).run c₀.network).run.run c = .ok (res, c') →
      SameOutputs c₀ c' ∧ Listed c₀ a f w.maxPages res
  | 0, start, c, c', res, hR, h => by
    cases h
    exact ⟨hR, listed_node _⟩
  | restarts + 1, start, c, c', res, hR, h => by
    rw [queryFrom, Job.run_bind] at h
    rcases run_bind_eq_ok h with ⟨e, he, rfl⟩ | ⟨x, c₁, hx, h⟩
    · rw [Job.run_result] at he
      obtain ⟨_, -, hr⟩ := run_result_eq_ok he
      cases hr
    rw [Job.run_result] at hx
    obtain ⟨r₀, hpass, hr₀⟩ := run_result_eq_ok hx
    cases hr₀
    obtain ⟨hR₁, hlisted⟩ := pinned_run start hR hpass
    split at h
    · cases h
      exact ⟨hR₁, hlisted⟩
    · -- a later page failed on its node
      split at h
      · cases h
        exact ⟨hR₁, hlisted⟩
      · exact queryFrom_run _ _ hR₁ h
    · cases h
      exact ⟨hR₁, hlisted⟩

end Sound

/-! ### A node that is up -/

section Exact

variable {c : Cluster} {w : Wallet Cluster} {a : Address} {f : OutputFilter} {j : Nat}
  {n : LedgerNode} (hn : c.nodes[j]? = some n) (hj : j < w.pool.net.size)
  (hup : n.unreachable = false) (hlimit : n.requestLimit = none)
  (ha : a ∉ n.failingAddresses)
  (hfit : (n.listing a f).length + n.pageSize < 2 ^ 64)
  (hretries : w.pool.config.transportRetries.toNat + 1 < 2 ^ 32)

include hn hj hup hlimit ha hfit hretries

theorem follow_exact :
    ∀ (d o k : Nat) (P : OutputPage), o ≤ (n.listing a f).length →
      page n.pageSize o (n.listing a f) = .ok P →
      o + (d + 1) * n.pageSize = w.maxPages * n.pageSize →
      ∃ t, ((w.follow j a f d ((n.listing a f).take o) P).run c.network).run.run
          (c.counted j n k) =
        .ok (if (n.listing a f).length ≤ w.maxPages * n.pageSize then .ok (n.listing a f)
          else .error (none, .pageLimitExceeded a w.maxPages), c.counted j n (k + t)) ∧
        ((n.listing a f).length ≤ w.maxPages * n.pageSize →
          (n.listing a f).length ≤ o + (t + 1) * n.pageSize ∧
          (t = 0 ∨ o + t * n.pageSize < (n.listing a f).length)) ∧
        (w.maxPages * n.pageSize < (n.listing a f).length → t = d)
  | d, o, k, P, ho, hP, hcount => by
    have htake := take_append_items hP ho
    rw [follow.eq_def]
    dsimp only
    split
    · -- the last page
      rename_i hnone
      have hend := cursor_eq_none hP hnone
      have hfits : (n.listing a f).length ≤ w.maxPages * n.pageSize := by
        rw [← hcount, Nat.succ_mul]
        omega
      rw [Nat.min_eq_right hend, List.take_length] at htake
      refine ⟨0, ?_, fun _ => ⟨by omega, .inl rfl⟩, fun hlong => absurd hfits (by omega)⟩
      rw [if_pos hfits, htake]
      rfl
    · -- a cursor with no page left
      rename_i cur hsome
      have hlong := (cursor_eq_some hP hsome).1
      have hover : w.maxPages * n.pageSize < (n.listing a f).length := by omega
      refine ⟨0, ?_, fun hfits => absurd hfits (by omega), fun _ => rfl⟩
      rw [if_neg (by omega)]
      rfl
    · -- the next page, at once from the same node
      rename_i cur d' hsome
      obtain ⟨hlong, rfl⟩ := cursor_eq_some hP hsome
      obtain ⟨P', hP'⟩ : ∃ P', page n.pageSize (o + n.pageSize) (n.listing a f) = .ok P' :=
        ⟨_, page_of_lt (by omega)⟩
      have hserve := serve_counted hn hup hlimit ha (cursorAt_toString (by omega)) hP' k
      have hmapped : ((Job.mapError (fun e => ((some j, .node e) : PinnedError))
          (w.pool.readOn j (.outputsOf a f (some (toString (o + n.pageSize))))) :
            Job PinnedError OutputPage).run c.network).run.run (c.counted j n k) =
          .ok (.ok P', c.counted j n (k + 1)) :=
        Job.run_mapError_of_ok _ _
          (Pool.readOn_of_answer hretries (by rw [Nat.mod_eq_of_lt hj]; exact hserve))
      rw [Job.run_bind, run_bind_ok _ hmapped]
      rw [Nat.min_eq_left (Nat.le_of_lt hlong)] at htake
      rw [htake]
      obtain ⟨t, hrun, hfits, hover⟩ := follow_exact d' (o + n.pageSize) (k + 1) P'
        (Nat.le_of_lt hlong) hP' (by rw [Nat.succ_mul] at hcount; omega)
      refine ⟨t + 1, ?_, fun h => ?_, fun h => by rw [hover h]⟩
      · rw [hrun, Nat.add_assoc, Nat.add_comm 1 t]
      · obtain ⟨hle, ht⟩ := hfits h
        refine ⟨by rw [Nat.succ_mul]; rw [Nat.succ_mul] at hle; omega, .inr ?_⟩
        rcases ht with rfl | ht
        · omega
        · rw [Nat.succ_mul]
          omega

theorem pinned_exact {start : Nat} (hstart : start < 2 ^ 64) (hsj : start % w.pool.net.size = j) :
    ∃ t, ((w.pinned start a f).run c.network).run.run c =
        .ok (if (n.listing a f).length ≤ w.maxPages * n.pageSize then .ok (n.listing a f)
          else .error (none, .pageLimitExceeded a w.maxPages), c.counted j n (1 + t)) ∧
      ((n.listing a f).length ≤ w.maxPages * n.pageSize →
        (n.listing a f).length ≤ (t + 1) * n.pageSize ∧ (t = 0 ∨ t * n.pageSize < (n.listing a f).length)) ∧
      (w.maxPages * n.pageSize < (n.listing a f).length → t = w.maxPages - 1) := by
  obtain ⟨P, hP⟩ : ∃ P, page n.pageSize 0 (n.listing a f) = .ok P := ⟨_, page_of_lt (by omega)⟩
  have hserve := serve_counted hn hup hlimit ha (show CursorAt none 0 from rfl) hP 0
  rw [counted_zero hn] at hserve
  have hmapped : ((Job.mapError (fun e => ((none, .node e) : PinnedError))
      (w.pool.readIndexed start (.outputsOf a f none)) :
        Job PinnedError (Nat × OutputPage)).run c.network).run.run c =
      .ok (.ok (start % w.pool.net.size, P), c.counted j n 1) :=
    Job.run_mapError_of_ok _ _ (Pool.readIndexed_of_answer hretries
      (Nat.lt_of_le_of_lt (Nat.zero_le j) hj) hstart (by rw [hsj]; exact hserve))
  rw [hsj] at hmapped
  rw [pinned, Job.run_bind, run_bind_ok _ hmapped]
  have hcount : 0 + (w.maxPages - 1 + 1) * n.pageSize = w.maxPages * n.pageSize := by
    rw [Nat.zero_add, Nat.sub_add_cancel (maxPages_pos w)]
  obtain ⟨t, hrun, hfits, hover⟩ :=
    follow_exact hn hj hup hlimit ha hfit hretries (w.maxPages - 1) 0 1 P (Nat.zero_le _) hP hcount
  refine ⟨t, hrun, fun h => ?_, hover⟩
  obtain ⟨hle, ht⟩ := hfits h
  exact ⟨by omega, by omega⟩

theorem queryFrom_exact (restarts : Nat) {start : Nat} (hstart : start < 2 ^ 64)
    (hsj : start % w.pool.net.size = j) :
    ∃ t, ((w.queryFrom a f (restarts + 1) start).run c.network).run.run c =
        .ok (if (n.listing a f).length ≤ w.maxPages * n.pageSize then .ok (n.listing a f)
          else .error (.pageLimitExceeded a w.maxPages), c.counted j n (1 + t)) ∧
      ((n.listing a f).length ≤ w.maxPages * n.pageSize →
        (n.listing a f).length ≤ (t + 1) * n.pageSize ∧ (t = 0 ∨ t * n.pageSize < (n.listing a f).length)) ∧
      (w.maxPages * n.pageSize < (n.listing a f).length → t = w.maxPages - 1) := by
  obtain ⟨t, hrun, hfits, hover⟩ := pinned_exact hn hj hup hlimit ha hfit hretries hstart hsj
  have hres : ((Job.result (w.pinned start a f) : Job WalletError _).run c.network).run.run c =
      .ok (.ok (if (n.listing a f).length ≤ w.maxPages * n.pageSize then .ok (n.listing a f)
        else .error (none, .pageLimitExceeded a w.maxPages)), c.counted j n (1 + t)) := by
    rw [Job.run_result, Session.run_result, hrun]
    rfl
  refine ⟨t, ?_, hfits, hover⟩
  rw [queryFrom, Job.run_bind, run_bind_ok _ hres]
  by_cases h : (n.listing a f).length ≤ w.maxPages * n.pageSize
  · rw [if_pos h, if_pos h]
    rfl
  · rw [if_neg h, if_neg h]
    rfl

end Exact

theorem pages_eq {len ps t : Nat} (hle : len ≤ (t + 1) * ps) (ht : t = 0 ∨ t * ps < len) :
    1 + t = max 1 ((len + ps - 1) / ps) := by
  rcases Nat.eq_zero_or_pos ps with rfl | hps
  · -- pages that hold nothing: only an empty listing fits, in one page
    have hlen : len = 0 := by simpa using hle
    subst hlen
    rcases ht with rfl | ht
    · rfl
    · simp at ht
  rcases Nat.eq_zero_or_pos len with rfl | hlen
  · rcases ht with rfl | ht
    · rw [Nat.div_eq_of_lt (by omega)]
      rfl
    · omega
  have hdiv : (len + ps - 1) / ps = t + 1 := by
    apply Nat.div_eq_of_lt_le
    · rw [Nat.succ_mul]
      rcases ht with rfl | ht <;> omega
    · rw [Nat.succ_mul]
      omega
  rw [hdiv]
  omega

/-- A node whose listing of one owner takes two pages of two. -/
def pagedNode : LedgerNode :=
  let owner : Address := ⟨⟨Vector.replicate 32 1⟩⟩
  let r : OutputResponse :=
    ⟨⟨⟨⟨Vector.replicate 32 2⟩⟩, 0⟩, Output.basic 5 owner, ⟨⟨⟨Vector.replicate 32 0⟩⟩, false, 0⟩⟩
  { LedgerNode.new "node0" with outputs := [r, r, r], pageSize := 2 }

end Wallet

end DagWallet
