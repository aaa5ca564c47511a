import Mathlib
import DagWallet.Wallet.Basic

/-!
Checked sums of amounts. A sum of amounts adds from the left and stops at the first running
total of 2^64 or more. Running totals of naturals only grow, so that happens exactly when the
whole sum is past 64 bits, and otherwise the total is the sum itself. The main statement,
`amount_sums_exact`, says this of the wallet's sum, which fails with the overflow error, and of
the amount an essence creates, which is then nothing.
-/

namespace DagWallet

theorem foldlM_addAmount? (l : List UInt64) (t : UInt64) :
    l.foldlM addAmount? t =
      if t.toNat + (l.map UInt64.toNat).sum < 2 ^ 64 then
        some (t.toNat + (l.map UInt64.toNat).sum).toUInt64
      else none := by
  induction l generalizing t with
  | nil =>
    rw [List.foldlM_nil, List.map_nil, List.sum_nil, Nat.add_zero, if_pos t.toNat_lt,
      Nat.toUInt64_eq, UInt64.ofNat_toNat]
    rfl
  | cons a rest ih =>
    rw [List.foldlM_cons, List.map_cons, List.sum_cons, addAmount?, Nat.pow_eq]
    by_cases hfit : t.toNat + a.toNat < 2 ^ 64
    · -- the running total `t + a` is exact
      have hta : (t + a).toNat = t.toNat + a.toNat := by
        rw [UInt64.toNat_add, Nat.mod_eq_of_lt hfit]
      rw [if_pos hfit, Option.bind_eq_bind, Option.bind_some, ih, hta, Nat.add_assoc]
    · -- the first running total past 64 bits ends the fold, and the whole sum is larger still
      rw [if_neg hfit, if_neg (by omega)]
      rfl

theorem sumAmounts?_eq (l : List UInt64) :
    sumAmounts? l =
      if (l.map UInt64.toNat).sum < 2 ^ 64 then some (l.map UInt64.toNat).sum.toUInt64 else none := by
  rw [sumAmounts?, foldlM_addAmount?, UInt64.toNat_zero, Nat.zero_add]

theorem sumAmounts?_eq_some_iff {l : List UInt64} {s : UInt64} :
    sumAmounts? l = some s ↔
      s.toNat = (l.map UInt64.toNat).sum ∧ (l.map UInt64.toNat).sum ≤ 2 ^ 64 - 1 := by
  rw [sumAmounts?_eq]
  by_cases h : (l.map UInt64.toNat).sum < 2 ^ 64
  · rw [if_pos h, Option.some.injEq]
    constructor
    · rintro rfl
      exact ⟨UInt64.toNat_ofNat_of_lt' h, by omega⟩
    · rintro ⟨hs, -⟩
      rw [← hs, Nat.toUInt64_eq, UInt64.ofNat_toNat]
  · rw [if_neg h]
    exact iff_of_false (Option.some_ne_none s).symm (by omega)

theorem sumAmounts?_eq_none_iff {l : List UInt64} :
    sumAmounts? l = none ↔ 2 ^ 64 - 1 < (l.map UInt64.toNat).sum := by
  rw [sumAmounts?_eq]
  by_cases h : (l.map UInt64.toNat).sum < 2 ^ 64
  · rw [if_pos h]
    exact iff_of_false (Option.some_ne_none _) (by omega)
  · rw [if_neg h]
    exact iff_of_true rfl (by omega)

namespace Wallet

theorem checkedSum_eq (l : List UInt64) :
    checkedSum l =
      if (l.map UInt64.toNat).sum < 2 ^ 64 then .ok (l.map UInt64.toNat).sum.toUInt64
      else .error amountOverflow := by
  unfold checkedSum
  rw [sumAmounts?_eq]
  by_cases h : (l.map UInt64.toNat).sum < 2 ^ 64 <;> simp only [h, ↓reduceIte]

theorem checkedSum_eq_ok_iff {l : List UInt64} {s : UInt64} :
    checkedSum l = .ok s ↔ sumAmounts? l = some s := by
  unfold checkedSum
  cases sumAmounts? l <;> simp only [reduceCtorEq, Except.ok.injEq, Option.some.injEq]

theorem checkedSum_eq_error_iff {l : List UInt64} {e : WalletError} :
    checkedSum l = .error e ↔ e = amountOverflow ∧ sumAmounts? l = none := by
  unfold checkedSum
  cases sumAmounts? l <;> simp only [eq_comm, Except.error.injEq, reduceCtorEq, and_true, and_false]

end Wallet

/-- Checked sums of amounts are exact. The wallet's sum of a list of amounts succeeds with a
total whose value is the sum of the amounts exactly when that sum fits in 64 bits, and fails
with the overflow error otherwise; the amount an essence creates is, in the same way, the sum
of its outputs' amounts when that fits and nothing otherwise. -/
theorem amount_sums_exact (xs : List UInt64) (e : Essence) :
    ((∀ s, Wallet.checkedSum xs = .ok s ↔
        s.toNat = (xs.map UInt64.toNat).sum ∧ (xs.map UInt64.toNat).sum ≤ 2 ^ 64 - 1) ∧
      (Wallet.checkedSum xs = .error (.node (.invalidResponse "output amounts overflow u64")) ↔
        2 ^ 64 - 1 < (xs.map UInt64.toNat).sum)) ∧
    ((∀ s, e.outputAmount? = some s ↔
        s.toNat = (e.outputs.map fun o => o.amount.toNat).sum ∧
          (e.outputs.map fun o => o.amount.toNat).sum ≤ 2 ^ 64 - 1) ∧
      (e.outputAmount? = none ↔ 2 ^ 64 - 1 < (e.outputs.map fun o => o.amount.toNat).sum)) := by
  have hout : (e.outputs.map (·.amount)).map UInt64.toNat = e.outputs.map fun o => o.amount.toNat :=
    List.map_map
  refine ⟨⟨fun s => ?_, ?_⟩, fun s => ?_, ?_⟩
  · rw [Wallet.checkedSum_eq_ok_iff, sumAmounts?_eq_some_iff]
  · rw [Wallet.checkedSum_eq_error_iff, sumAmounts?_eq_none_iff]
    exact and_iff_right rfl
  · rw [Essence.outputAmount?, sumAmounts?_eq_some_iff, hout]
  · rw [Essence.outputAmount?, sumAmounts?_eq_none_iff, hout]

example : Wallet.checkedSum [3, 4] = .ok 7 ∧ Wallet.checkedSum [] = .ok 0 ∧
    Wallet.checkedSum [0xFFFFFFFFFFFFFFFF, 1] = .error Wallet.amountOverflow :=
  ⟨rfl, rfl, rfl⟩

end DagWallet
