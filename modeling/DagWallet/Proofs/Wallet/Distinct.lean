import Mathlib
import DagWallet.Wallet.Resolve

/-!
Distinct values in first-occurrence order. One pass over the values keeps a value when it is not
among those seen so far, and from then on it is seen. What the pass has seen is always what it
started with together with what it has gone over, so the pass keeps exactly the values it has
not seen, each at its first occurrence. Over a concatenation it goes on with what it saw of the
first part; this gives the laws of the distinct values of a list: no value twice, the values of
the list, a value after the list comes out after them unless the list holds it, a second pass
changes nothing, and lists with no value in common are taken apart.
-/

namespace DagWallet

variable {α : Type} [DecidableEq α] {seen s t xs ys : List α} {x : α}

section Unseen

@[simp] theorem keepUnseen_nil : keepUnseen seen [] = [] := rfl

theorem keepUnseen_cons (v : α) (vs : List α) :
    keepUnseen seen (v :: vs) =
      if v ∈ seen then keepUnseen seen vs else v :: keepUnseen (v :: seen) vs := by
  simp only [keepUnseen, List.contains_iff_mem]

theorem keepUnseen_of_mem {v : α} (vs : List α) (hv : v ∈ seen) :
    keepUnseen seen (v :: vs) = keepUnseen seen vs := by
  rw [keepUnseen_cons, if_pos hv]

theorem keepUnseen_of_not_mem {v : α} (vs : List α) (hv : v ∉ seen) :
    keepUnseen seen (v :: vs) = v :: keepUnseen (v :: seen) vs := by
  rw [keepUnseen_cons, if_neg hv]

/-- The pass keeps the values of the list that it has not seen. -/
@[simp] theorem mem_keepUnseen : x ∈ keepUnseen seen xs ↔ x ∈ xs ∧ x ∉ seen := by
  induction xs generalizing seen with
  | nil => simp
  | cons v vs ih =>
    by_cases hv : v ∈ seen
    · rw [keepUnseen_of_mem vs hv, ih, List.mem_cons]
      constructor
      · exact fun ⟨hx, hs⟩ => ⟨.inr hx, hs⟩
      · rintro ⟨rfl | hx, hs⟩
        · exact absurd hv hs
        · exact ⟨hx, hs⟩
    · rw [keepUnseen_of_not_mem vs hv, List.mem_cons, ih, List.mem_cons, List.mem_cons]
      by_cases hx : x = v
      · subst hx
        simp [hv]
      · simp [hx]

theorem keepUnseen_sublist : (keepUnseen seen xs).Sublist xs := by
  induction xs generalizing seen with
  | nil => exact .slnil
  | cons v vs ih =>
    by_cases hv : v ∈ seen
    · rw [keepUnseen_of_mem vs hv]
      exact ih.cons v
    · rw [keepUnseen_of_not_mem vs hv]
      exact ih.cons_cons v

theorem nodup_keepUnseen : (keepUnseen seen xs).Nodup := by
  induction xs generalizing seen with
  | nil => exact .nil
  | cons v vs ih =>
    by_cases hv : v ∈ seen
    · rw [keepUnseen_of_mem vs hv]
      exact ih
    · rw [keepUnseen_of_not_mem vs hv]
      exact List.nodup_cons.mpr ⟨fun hmem => (mem_keepUnseen.mp hmem).2 List.mem_cons_self, ih⟩

theorem keepUnseen_congr (h : ∀ x, x ∈ s ↔ x ∈ t) : keepUnseen s xs = keepUnseen t xs := by
  induction xs generalizing s t with
  | nil => rfl
  | cons v vs ih =>
    by_cases hv : v ∈ s
    · rw [keepUnseen_of_mem vs hv, keepUnseen_of_mem vs ((h v).mp hv), ih h]
    · rw [keepUnseen_of_not_mem vs hv, keepUnseen_of_not_mem vs (mt (h v).mpr hv)]
      exact congrArg (v :: ·) (ih fun x => by simp [h x])

theorem keepUnseen_append :
    keepUnseen seen (xs ++ ys) = keepUnseen seen xs ++ keepUnseen (xs ++ seen) ys := by
  induction xs generalizing seen with
  | nil => rfl
  | cons v vs ih =>
    by_cases hv : v ∈ seen
    · -- `v` was seen already, so going over it adds nothing
      have hseen : ∀ x, x ∈ vs ++ seen ↔ x ∈ v :: vs ++ seen := fun x => by
        by_cases hx : x = v
        · subst hx
          simp [hv]
        · simp [hx]
      rw [List.cons_append, keepUnseen_of_mem _ hv, keepUnseen_of_mem _ hv, ih,
        keepUnseen_congr hseen]
    · rw [List.cons_append, keepUnseen_of_not_mem _ hv, keepUnseen_of_not_mem _ hv, ih,
        keepUnseen_congr fun x => List.perm_middle.mem_iff]
      rfl

theorem keepUnseen_of_nodup (hxs : xs.Nodup) (h : ∀ x ∈ xs, x ∉ seen) : keepUnseen seen xs = xs := by
  induction xs generalizing seen with
  | nil => rfl
  | cons v vs ih =>
    obtain ⟨hv, hvs⟩ := List.nodup_cons.mp hxs
    rw [keepUnseen_of_not_mem vs (h v List.mem_cons_self)]
    refine congrArg (v :: ·) (ih hvs fun x hx hmem => ?_)
    rcases List.mem_cons.mp hmem with rfl | hmem
    · exact hv hx
    · exact h x (List.mem_cons_of_mem v hx) hmem

theorem keepUnseen_of_disjoint (h : ∀ x ∈ xs, x ∉ s) : keepUnseen (s ++ t) xs = keepUnseen t xs := by
  induction xs generalizing t with
  | nil => rfl
  | cons v vs ih =>
    have hs : v ∉ s := h v List.mem_cons_self
    have hrest : ∀ x ∈ vs, x ∉ s := fun x hx => h x (List.mem_cons_of_mem v hx)
    by_cases hv : v ∈ t
    · rw [keepUnseen_of_mem vs (List.mem_append_right s hv), keepUnseen_of_mem vs hv, ih hrest]
    · have hst : v ∉ s ++ t := by simp [hs, hv]
      rw [keepUnseen_of_not_mem vs hst, keepUnseen_of_not_mem vs hv,
        keepUnseen_congr (t := s ++ v :: t) fun x => List.perm_middle.mem_iff.symm, ih hrest]

theorem keepUnseen_eq_eraseDups : keepUnseen seen xs = (xs.filter (· ∉ seen)).eraseDups := by
  induction xs generalizing seen with
  | nil => rfl
  | cons v vs ih =>
    by_cases hv : v ∈ seen
    · rw [keepUnseen_of_mem vs hv, ih, List.filter_cons_of_neg (by simpa using hv)]
    · rw [keepUnseen_of_not_mem vs hv, ih, List.filter_cons_of_pos (by simpa using hv),
        List.eraseDups_cons, List.filter_filter]
      refine congrArg (fun l => v :: List.eraseDups l) (List.filter_congr fun x _ => ?_)
      by_cases hx : x = v <;> simp [hx]

end Unseen

section Ordered

@[simp] theorem mem_dedupOrdered : x ∈ dedupOrdered xs ↔ x ∈ xs := by
  simp [dedupOrdered]

theorem nodup_dedupOrdered (xs : List α) : (dedupOrdered xs).Nodup := nodup_keepUnseen

theorem dedupOrdered_sublist (xs : List α) : (dedupOrdered xs).Sublist xs := keepUnseen_sublist

theorem dedupOrdered_append (xs ys : List α) :
    dedupOrdered (xs ++ ys) = dedupOrdered xs ++ keepUnseen xs ys := by
  rw [dedupOrdered, keepUnseen_append, List.append_nil]
  rfl

theorem dedupOrdered_concat (xs : List α) (x : α) :
    dedupOrdered (xs ++ [x]) = dedupOrdered xs ++ if x ∈ xs then [] else [x] := by
  rw [dedupOrdered_append, keepUnseen_cons]
  split <;> rfl

theorem dedupOrdered_of_nodup (hxs : xs.Nodup) : dedupOrdered xs = xs :=
  keepUnseen_of_nodup hxs fun _ _ h => absurd h List.not_mem_nil

theorem dedupOrdered_idem (xs : List α) : dedupOrdered (dedupOrdered xs) = dedupOrdered xs :=
  dedupOrdered_of_nodup (nodup_dedupOrdered xs)

theorem dedupOrdered_append_of_disjoint (h : ∀ x ∈ xs, x ∉ ys) :
    dedupOrdered (xs ++ ys) = dedupOrdered xs ++ dedupOrdered ys := by
  rw [dedupOrdered_append, ← List.append_nil xs, keepUnseen_of_disjoint fun y hy hx => h y hx hy,
    List.append_nil]
  rfl

theorem dedupOrdered_eq_eraseDups (xs : List α) : dedupOrdered xs = xs.eraseDups := by
  rw [dedupOrdered, keepUnseen_eq_eraseDups, List.filter_eq_self.mpr fun _ _ => by simp]

/-- The distinct values of a list in first-occurrence order: none comes twice, they are the
values of the list, in the list's order; a value after the list joins them at the end unless the
list holds it, so each value stands where it first occurs; a second pass changes nothing; the
distinct values of two lists with no value in common are those of the first and then those of
the second; and the library's `List.eraseDups` is the same list. -/
theorem dedupOrdered_laws (xs ys : List α) :
    (dedupOrdered xs).Nodup ∧ (∀ x, x ∈ dedupOrdered xs ↔ x ∈ xs) ∧
      (dedupOrdered xs).Sublist xs ∧
      (∀ x, dedupOrdered (xs ++ [x]) = dedupOrdered xs ++ if x ∈ xs then [] else [x]) ∧
      dedupOrdered (dedupOrdered xs) = dedupOrdered xs ∧
      ((∀ x ∈ xs, x ∉ ys) → dedupOrdered (xs ++ ys) = dedupOrdered xs ++ dedupOrdered ys) ∧
      dedupOrdered xs = xs.eraseDups :=
  ⟨nodup_dedupOrdered xs, fun _ => mem_dedupOrdered, dedupOrdered_sublist xs,
    dedupOrdered_concat xs, dedupOrdered_idem xs, dedupOrdered_append_of_disjoint,
    dedupOrdered_eq_eraseDups xs⟩

example : dedupOrdered [3, 0, 3, 4] = [3, 0, 4] := by decide

end Ordered

end DagWallet
