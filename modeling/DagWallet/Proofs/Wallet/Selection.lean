import DagWallet.Wallet.Selection
import DagWallet.Proofs.Session
import DagWallet.Proofs.Node.Views
import DagWallet.Proofs.Ledger.Amounts
import DagWallet.Node.Cluster

/-!
Input selection against its reference rule. The candidates are the outputs found, grouped by
address in the order the addresses first appear and, inside a group, by amount from the largest,
then by identifier. Selection sums all candidates first, then takes the shortest prefix that
covers the amount, refusing a prefix longer than the input limit.
-/

namespace DagWallet

-- Output identifiers compare their transaction's bytes, then their index: a total order.
instance : Std.TransCmp (compare : OutputId → OutputId → Ordering) :=
  inferInstanceAs (Std.TransCmp (compareLex
    (compareOn fun o : OutputId => o.transactionId.digest.toList) (compareOn fun o : OutputId => o.index)))

instance : Std.OrientedCmp (compare : OutputId → OutputId → Ordering) :=
  inferInstanceAs (Std.OrientedCmp (compareLex
    (compareOn fun o : OutputId => o.transactionId.digest.toList) (compareOn fun o : OutputId => o.index)))

instance : Std.LawfulEqCmp (compare : OutputId → OutputId → Ordering) where
  eq_of_compare := OutputId.compare_eq_iff.mp

namespace Wallet

/-! ### Sums of amounts -/

/-- The amounts of the candidates added up as numbers. -/
def amountTotal (C : List SelectedInput) : Nat := (C.map fun c => c.amount.toNat).sum

theorem amountTotal_take_le (C : List SelectedInput) (k : Nat) :
    amountTotal (C.take k) ≤ amountTotal C := by
  have hsplit : amountTotal C = amountTotal (C.take k) + amountTotal (C.drop k) := by
    rw [amountTotal, amountTotal, amountTotal, ← List.sum_append, ← List.map_append,
      List.take_append_drop]
  omega

theorem amountTotal_take_add_one {C : List SelectedInput} {i : Nat} (hi : i < C.length) :
    amountTotal (C.take (i + 1)) = amountTotal (C.take i) + C[i].amount.toNat := by
  rw [List.take_add_one, List.getElem?_eq_getElem hi]
  simp only [amountTotal, Option.toList_some, List.map_append, List.sum_append, List.map_cons,
    List.map_nil, List.sum_cons, List.sum_nil, Nat.add_zero]

/-! ### The reference rule -/

/-- The reference rule on the candidates `C`: a total past 64 bits is refused, then a total
short of the amount; otherwise the shortest prefix that covers the amount is taken, unless it
is longer than `maxInputs`. -/
def reference (maxInputs : Nat) (amount : UInt64) (C : List SelectedInput) :
    Except WalletError InputSet :=
  if 2 ^ 64 ≤ amountTotal C then .error amountOverflow
  else if h : amountTotal C < amount.toNat then
    .error (.insufficientFunds (amountTotal C).toUInt64 amount)
  else
    have hcover : ∃ k, amount.toNat ≤ amountTotal (C.take k) :=
      ⟨C.length, by rw [List.take_length]; omega⟩
    if Nat.find hcover ≤ maxInputs then
      .ok ⟨C.take (Nat.find hcover), (amountTotal (C.take (Nat.find hcover))).toUInt64⟩
    else .error (.inputLimitExceeded maxInputs (amountTotal (C.take maxInputs)).toUInt64 amount)

theorem greedy_cover {maxInputs : Nat} {amount : UInt64} {C : List SelectedInput}
    (hfit : amountTotal C < 2 ^ 64) {k : Nat} (hk : amount.toNat ≤ amountTotal (C.take k))
    (hmin : ∀ j < k, amountTotal (C.take j) < amount.toNat) (i : Nat) (hik : i ≤ k)
    (him : i ≤ maxInputs) :
    greedy maxInputs amount ⟨C.take i, (amountTotal (C.take i)).toUInt64⟩ (C.drop i) =
      if k ≤ maxInputs then .ok ⟨C.take k, (amountTotal (C.take k)).toUInt64⟩
      else .error (.inputLimitExceeded maxInputs (amountTotal (C.take maxInputs)).toUInt64 amount) := by
  have htoNat : ∀ j, (amountTotal (C.take j)).toUInt64.toNat = amountTotal (C.take j) :=
    fun j => UInt64.toNat_ofNat_of_lt' (Nat.lt_of_le_of_lt (amountTotal_take_le C j) hfit)
  obtain ⟨d, hd⟩ := Nat.exists_eq_add_of_le hik
  induction d generalizing i with
  | zero =>
    rw [Nat.add_zero] at hd
    subst hd
    rw [if_pos him]
    cases hdrop : C.drop k with
    | nil => rfl
    | cons c rest =>
      have hcovered : (amountTotal (C.take k)).toUInt64 ≥ amount := by
        rw [ge_iff_le, UInt64.le_iff_toNat_le, htoNat]
        exact hk
      rw [greedy, if_pos hcovered]
  | succ d ih =>
    have hshort := hmin i (by omega)
    -- a prefix that falls short is not all of the candidates
    have hi : i < C.length := by
      by_contra hge
      rw [List.take_of_length_le (by omega)] at hshort
      have hall := amountTotal_take_le C k
      omega
    have hlen : (C.take i).length = i := by rw [List.length_take]; omega
    have hshort' : ¬ (amountTotal (C.take i)).toUInt64 ≥ amount := by
      rw [ge_iff_le, UInt64.le_iff_toNat_le, htoNat]
      omega
    rw [List.drop_eq_getElem_cons hi, greedy, if_neg hshort', hlen]
    by_cases hlimit : i = maxInputs
    · subst hlimit
      rw [if_pos rfl, if_neg (by omega)]
    · rw [if_neg hlimit]
      have hnext := amountTotal_take_add_one hi
      have hsum : checkedSum [(amountTotal (C.take i)).toUInt64, C[i].amount] =
          .ok (amountTotal (C.take (i + 1))).toUInt64 := by
        rw [checkedSum_eq]
        simp only [List.map_cons, List.map_nil, List.sum_cons, List.sum_nil, Nat.add_zero, htoNat]
        rw [← hnext, if_pos (Nat.lt_of_le_of_lt (amountTotal_take_le C (i + 1)) hfit)]
      rw [hsum]
      dsimp only
      have htake : C.take i ++ [C[i]] = C.take (i + 1) := by
        rw [List.take_add_one, List.getElem?_eq_getElem hi, Option.toList_some]
      rw [htake, ih (i + 1) (by omega) (by omega) (by omega)]

theorem reference_eq_greedy (maxInputs : Nat) (amount : UInt64) (C : List SelectedInput) :
    reference maxInputs amount C =
      (checkedSum (C.map (·.amount))).bind fun available =>
        if available < amount then .error (.insufficientFunds available amount)
        else greedy maxInputs amount ⟨[], 0⟩ C := by
  have hsum : ((C.map (·.amount)).map UInt64.toNat).sum = amountTotal C := by
    rw [List.map_map]
    rfl
  rw [checkedSum_eq, hsum]
  unfold reference
  by_cases hover : 2 ^ 64 ≤ amountTotal C
  · rw [if_pos hover, if_neg (by omega)]
    rfl
  · rw [if_neg hover, if_pos (by omega)]
    have hfit : amountTotal C < 2 ^ 64 := by omega
    have hav : (amountTotal C).toUInt64 < amount ↔ amountTotal C < amount.toNat := by
      rw [UInt64.lt_iff_toNat_lt, UInt64.toNat_ofNat_of_lt' hfit]
    show _ = if _ then _ else _
    by_cases hshort : amountTotal C < amount.toNat
    · rw [dif_pos hshort, if_pos (hav.mpr hshort)]
    · rw [dif_neg hshort, if_neg (mt hav.mp hshort)]
      have hcover : ∃ k, amount.toNat ≤ amountTotal (C.take k) :=
        ⟨C.length, by rw [List.take_length]; omega⟩
      -- the greedy walk starts from the empty prefix, below the shortest covering one
      have h := @greedy_cover maxInputs amount C hfit _ (Nat.find_spec hcover)
        (fun j hj => Nat.lt_of_not_le (Nat.find_min hcover hj)) 0 (Nat.zero_le _) (Nat.zero_le _)
      rw [List.take_zero, List.drop_zero] at h
      exact h.symm

/-! ### Grouping by address -/

/-- Among the outputs of one address, `x` comes before `y`: the larger amount first, and of
equal amounts the smaller identifier. -/
def Precedes (x y : SelectedInput) : Prop :=
  y.amount < x.amount ∨ (x.amount = y.amount ∧ compare x.outputId y.outputId = .lt)

/-- The outputs of `O` owned by `a`, as inputs found under `a`, in the order of `O`. -/
def owned (O : List OutputResponse) (a : Address) : List SelectedInput :=
  (O.filter fun r => r.output.owner? == some a).map fun r =>
    ⟨r.outputId, a, r.output.amount, r.output⟩

/-- `C` is `O` grouped by the addresses `A` in the order they first appear, each group holding
the outputs its address owns, ordered by `Precedes`. -/
def Grouped (A : List Address) (O : List OutputResponse) (C : List SelectedInput) : Prop :=
  ∃ G : Address → List SelectedInput, C = A.eraseDups.flatMap G ∧
    ∀ a ∈ A, (G a).Perm (owned O a) ∧ (G a).Pairwise Precedes

theorem precedes_asymm {x y : SelectedInput} (hxy : Precedes x y) : ¬ Precedes y x := by
  rintro (hyx | ⟨hyx, hcyx⟩) <;> rcases hxy with hxy | ⟨hxy, hcxy⟩
  · exact absurd (UInt64.lt_trans hxy hyx) (UInt64.lt_irrefl _)
  · rw [hxy] at hyx
    exact UInt64.lt_irrefl _ hyx
  · rw [hyx] at hxy
    exact UInt64.lt_irrefl _ hxy
  · have hgt := Std.OrientedCmp.gt_iff_lt.mpr hcyx
    rw [hcxy] at hgt
    cases hgt

theorem before_trans (x y z : SelectedInput) (hxy : before x y) (hyz : before y z) :
    before x z := by
  simp only [before, Bool.or_eq_true, decide_eq_true_eq, Bool.and_eq_true, beq_iff_eq,
    bne_iff_ne, ne_eq] at *
  rcases hxy with hxy | ⟨hxy, hcxy⟩ <;> rcases hyz with hyz | ⟨hyz, hcyz⟩
  · exact Or.inl (UInt64.lt_trans hyz hxy)
  · rw [← hyz]
    exact Or.inl hxy
  · rw [hxy]
    exact Or.inl hyz
  · exact Or.inr ⟨hxy.trans hyz, Std.TransCmp.le_trans hcxy hcyz⟩

theorem before_total (x y : SelectedInput) : (before x y || before y x) = true := by
  simp only [before, Bool.or_eq_true, decide_eq_true_eq, Bool.and_eq_true, beq_iff_eq,
    bne_iff_ne, ne_eq]
  have horder : x.amount < y.amount ∨ x.amount = y.amount ∨ y.amount < x.amount := by
    rw [UInt64.lt_iff_toNat_lt, UInt64.lt_iff_toNat_lt, ← UInt64.toNat_inj]
    omega
  rcases horder with hlt | heq | hgt
  · exact Or.inr (Or.inl hlt)
  · by_cases hc : compare x.outputId y.outputId = .gt
    · rw [Std.OrientedCmp.gt_iff_lt] at hc
      exact Or.inr (Or.inr ⟨heq.symm, by rw [hc]; decide⟩)
    · exact Or.inl (Or.inr ⟨heq, hc⟩)
  · exact Or.inl (Or.inl hgt)

theorem precedes_of_before {x y : SelectedInput} (h : before x y)
    (hne : x.outputId ≠ y.outputId) : Precedes x y := by
  simp only [before, Bool.or_eq_true, decide_eq_true_eq, Bool.and_eq_true, beq_iff_eq,
    bne_iff_ne, ne_eq] at h
  rcases h with hlt | ⟨heq, hc⟩
  · exact Or.inl hlt
  · refine Or.inr ⟨heq, ?_⟩
    cases hcmp : compare x.outputId y.outputId with
    | lt => rfl
    | eq => exact absurd (Std.LawfulEqCmp.eq_of_compare hcmp) hne
    | gt => exact absurd hcmp hc

theorem owned_ids_pairwise {O : List OutputResponse} (hnodup : (O.map (·.outputId)).Nodup)
    (a : Address) : (owned O a).Pairwise fun x y => x.outputId ≠ y.outputId := by
  unfold owned
  rw [List.pairwise_map]
  exact (List.pairwise_map.mp hnodup).sublist List.filter_sublist

theorem grouped_candidates (A : List Address) {O : List OutputResponse}
    (hnodup : (O.map (·.outputId)).Nodup) : Grouped A O (candidates A O) := by
  refine ⟨fun a => (owned O a).mergeSort before, rfl, fun a _ => ⟨List.mergeSort_perm _ _, ?_⟩⟩
  have hsorted := List.pairwise_mergeSort before_trans before_total (owned O a)
  have hdistinct := (owned_ids_pairwise hnodup a).perm (List.mergeSort_perm _ before).symm
    fun h => Ne.symm h
  exact (hsorted.and hdistinct).imp fun h => precedes_of_before h.1 h.2

theorem Grouped.unique {A : List Address} {O : List OutputResponse} {C₁ C₂ : List SelectedInput}
    (h₁ : Grouped A O C₁) (h₂ : Grouped A O C₂) : C₁ = C₂ := by
  obtain ⟨G₁, rfl, hG₁⟩ := h₁
  obtain ⟨G₂, rfl, hG₂⟩ := h₂
  have hgroups : ∀ a ∈ A.eraseDups, G₁ a = G₂ a := by
    intro a ha
    obtain ⟨hperm₁, hsorted₁⟩ := hG₁ a (List.mem_eraseDups.mp ha)
    obtain ⟨hperm₂, hsorted₂⟩ := hG₂ a (List.mem_eraseDups.mp ha)
    exact List.Perm.eq_of_pairwise (fun _ _ _ _ hxy hyx => absurd hyx (precedes_asymm hxy))
      hsorted₁ hsorted₂ (hperm₁.trans hperm₂.symm)
  rw [List.flatMap_def, List.flatMap_def, List.map_congr_left hgroups]

theorem Grouped.perm {A : List Address} {O O' : List OutputResponse} {C : List SelectedInput}
    (hO : O.Perm O') (h : Grouped A O C) : Grouped A O' C := by
  obtain ⟨G, hC, hG⟩ := h
  refine ⟨G, hC, fun a ha => ⟨(hG a ha).1.trans ?_, (hG a ha).2⟩⟩
  exact (hO.filter _).map _

/-! ### Selection as a computation -/

variable {σ : Type}

theorem findInputs_zero (w : Wallet σ) (A : List Address) : w.findInputs A 0 = pure ⟨[], 0⟩ :=
  rfl

theorem run_findInputs (w : Wallet σ) (A : List Address) {amount : UInt64} (hamount : amount ≠ 0)
    (s : σ) :
    (w.findInputs A amount).run.run s =
      ((w.findOutputs .basic A).run.run s).map fun p =>
        (p.1.bind fun O => reference w.maxInputs amount (candidates A O), p.2) := by
  unfold findInputs
  rw [if_neg hamount]
  cases hsearch : (w.findOutputs .basic A).run.run s with
  | error f => exact Session.run_bind_fault _ hsearch
  | ok p =>
    obtain ⟨r, s'⟩ := p
    cases r with
    | error e => exact Session.run_bind_error _ hsearch
    | ok O =>
      rw [Session.run_bind_ok _ hsearch]
      show _ = Except.ok (reference w.maxInputs amount (candidates A O), s')
      rw [reference_eq_greedy]
      dsimp only
      cases hsum : checkedSum ((candidates A O).map (·.amount)) with
      | error e =>
        rw [Session.run_bind_error _ (Session.run_liftExcept _ s')]
        rfl
      | ok available =>
        rw [Session.run_bind_ok _ (Session.run_liftExcept _ s')]
        show _ = Except.ok (ite _ _ _, s')
        by_cases hshort : available < amount
        · rw [if_pos hshort, if_pos hshort]
          rfl
        · rw [if_neg hshort, if_neg hshort]
          exact Session.run_liftExcept _ s'

/-- Selection described without its algorithm. No amount asks nothing of the network. For a
positive amount, a fault or an error of the output search ends the selection unchanged, and
outputs found with distinct identifiers are selected by the reference rule on their grouping by
address. -/
theorem findInputs_reference (w : Wallet σ) (A : List Address) (amount : UInt64) (s : σ) :
    w.findInputs A 0 = pure ⟨[], 0⟩ ∧
      (amount ≠ 0 →
        (∀ f, (w.findOutputs .basic A).run.run s = .error f →
          (w.findInputs A amount).run.run s = .error f) ∧
        (∀ e s', (w.findOutputs .basic A).run.run s = .ok (.error e, s') →
          (w.findInputs A amount).run.run s = .ok (.error e, s')) ∧
        (∀ O s', (w.findOutputs .basic A).run.run s = .ok (.ok O, s') →
          (O.map (·.outputId)).Nodup → ∀ C, Grouped A O C →
          (w.findInputs A amount).run.run s = .ok (reference w.maxInputs amount C, s'))) := by
  refine ⟨findInputs_zero w A, fun hamount => ⟨fun f hf => ?_, fun e s' he => ?_, ?_⟩⟩
  · rw [run_findInputs w A hamount, hf]
    rfl
  · rw [run_findInputs w A hamount, he]
    rfl
  · intro O s' hfound hnodup C hC
    rw [run_findInputs w A hamount, hfound, ← (grouped_candidates A hnodup).unique hC]
    rfl

/-- A wallet of no address has nothing to spend. -/
theorem empty_search_lacks_funds :
    ((⟨⟨(Cluster.ofNames ["node0"]).network, {}⟩, {}⟩ : Wallet Cluster).findInputs [] 5).run.run
        (Cluster.ofNames ["node0"]) =
      .ok (.error (.insufficientFunds 0 5), Cluster.ofNames ["node0"]) := by
  rw [((findInputs_reference _ [] 5 _).2 (by decide)).2.2 [] _ rfl List.nodup_nil []
    ⟨fun _ => [], rfl, fun _ ha => nomatch ha⟩]
  rfl

end Wallet

end DagWallet
