import Mathlib
import DagWallet.Ledger.Block

/-!
The parents of a new block form a set. `Block.make` keeps them as a list in strictly increasing
order of their bytes, so the list is fixed by the set of identifiers it was given: two blocks
made on the same parents, in any order and with any repeats, are the same block with the same
identifier, and a block made again from its own parents and payload is the block itself.
-/

namespace DagWallet

namespace BlockId

theorem compare_eq_iff {a b : BlockId} : compare a b = .eq ↔ a = b := by
  change compare a.digest.bytes.toList b.digest.bytes.toList = .eq ↔ a = b
  rw [Std.compare_eq_iff_eq, Vector.toList_inj]
  constructor
  · intro h
    obtain ⟨⟨_⟩⟩ := a
    obtain ⟨⟨_⟩⟩ := b
    cases h
    rfl
  · rintro rfl
    rfl

-- Block identifiers compare their bytes, first byte first: a total order.
instance : Std.TransCmp (compare : BlockId → BlockId → Ordering) :=
  inferInstanceAs (Std.TransCmp (compareOn fun b : BlockId => b.digest.toList))

instance : Std.LawfulEqCmp (compare : BlockId → BlockId → Ordering) where
  eq_of_compare := compare_eq_iff.mp

/-- One identifier comes before another when its bytes do. -/
instance : LT BlockId := ⟨fun a b => compare a b = .lt⟩

theorem lt_iff {a b : BlockId} : a < b ↔ compare a b = .lt := Iff.rfl

theorem lt_trans {a b c : BlockId} (h₁ : a < b) (h₂ : b < c) : a < c :=
  Std.TransCmp.lt_trans h₁ h₂

theorem lt_of_compare_gt {a b : BlockId} (h : compare a b = .gt) : b < a :=
  Std.OrientedCmp.gt_iff_lt.mp h

instance : Std.Irrefl (· < · : BlockId → BlockId → Prop) where
  irrefl a h := by
    rw [lt_iff, compare_eq_iff.mpr rfl] at h
    cases h

instance : Std.Antisymm (· < · : BlockId → BlockId → Prop) where
  antisymm a b h₁ h₂ := by
    rw [lt_iff, ← Std.OrientedCmp.gt_iff_lt] at h₂
    rw [lt_iff, h₂] at h₁
    cases h₁

end BlockId

/-! ### Insertion without repeats -/

@[simp] theorem mem_insertId {x y : BlockId} {l : List BlockId} :
    y ∈ insertId x l ↔ y = x ∨ y ∈ l := by
  induction l with
  | nil => simp [insertId]
  | cons z zs ih =>
    unfold insertId
    cases hc : compare x z with
    | lt => simp
    | eq =>
      rw [BlockId.compare_eq_iff.mp hc]
      simp
    | gt =>
      simp only [List.mem_cons, ih]
      tauto

theorem pairwise_insertId {x : BlockId} {l : List BlockId} (h : l.Pairwise (· < ·)) :
    (insertId x l).Pairwise (· < ·) := by
  induction l with
  | nil => simp [insertId]
  | cons y ys ih =>
    rw [List.pairwise_cons] at h
    unfold insertId
    cases hc : compare x y with
    | lt =>
      refine List.pairwise_cons.mpr ⟨fun z hz => ?_, List.pairwise_cons.mpr h⟩
      rcases List.mem_cons.mp hz with rfl | hz
      · exact hc
      · exact BlockId.lt_trans hc (h.1 z hz)
    | eq => exact List.pairwise_cons.mpr h
    | gt =>
      refine List.pairwise_cons.mpr ⟨fun z hz => ?_, ih h.2⟩
      rcases mem_insertId.mp hz with rfl | hz
      · exact BlockId.lt_of_compare_gt hc
      · exact h.1 z hz

@[simp] theorem mem_sortIds {x : BlockId} {xs : List BlockId} : x ∈ sortIds xs ↔ x ∈ xs := by
  induction xs with
  | nil => simp [sortIds]
  | cons y ys ih =>
    change x ∈ insertId y (sortIds ys) ↔ _
    rw [mem_insertId, ih, List.mem_cons]

theorem pairwise_sortIds (xs : List BlockId) : (sortIds xs).Pairwise (· < ·) := by
  induction xs with
  | nil => exact List.Pairwise.nil
  | cons y ys ih => exact pairwise_insertId ih

theorem sortIds_eq_iff {xs ys : List BlockId} :
    sortIds xs = sortIds ys ↔ ∀ x, x ∈ xs ↔ x ∈ ys := by
  constructor
  · intro h x
    rw [← mem_sortIds, h, mem_sortIds]
  · intro h
    exact (pairwise_sortIds xs).eq_of_mem_iff (pairwise_sortIds ys) fun x => by
      rw [mem_sortIds, mem_sortIds, h]

theorem sortIds_of_pairwise {l : List BlockId} (h : l.Pairwise (· < ·)) : sortIds l = l :=
  (pairwise_sortIds l).eq_of_mem_iff h fun _ => mem_sortIds

namespace Block

variable {xs ys : List BlockId} {p : Option Payload}

@[simp] theorem make_parents : (make xs p).parents = sortIds xs := rfl

@[simp] theorem make_payload : (make xs p).payload = p := rfl

theorem make_eq_make_iff : make xs p = make ys p ↔ ∀ x, x ∈ xs ↔ x ∈ ys := by
  rw [← sortIds_eq_iff]
  constructor
  · intro h
    simpa using congrArg Block.parents h
  · intro h
    simp only [make, h]

theorem make_remake : make (make xs p).parents (make xs p).payload = make xs p := by
  rw [make_parents, make_payload, make_eq_make_iff]
  exact fun _ => mem_sortIds

/-- A new block's parents are strictly increasing and are the identifiers it was made on; two
blocks are made alike exactly when made on the same set of parents, so their identifiers agree
then; and a new block made again from its own parents and payload is itself. -/
theorem make_parents_set :
    (∀ xs p, (make xs p).parents.Pairwise (· < ·) ∧ ∀ x, x ∈ (make xs p).parents ↔ x ∈ xs) ∧
      (∀ xs ys p, make xs p = make ys p ↔ ∀ x, x ∈ xs ↔ x ∈ ys) ∧
      (∀ xs ys p, (∀ x, x ∈ xs ↔ x ∈ ys) → (make xs p).id = (make ys p).id) ∧
      ∀ xs p, make (make xs p).parents (make xs p).payload = make xs p :=
  ⟨fun xs _ => ⟨pairwise_sortIds xs, fun _ => mem_sortIds⟩, fun _ _ _ => make_eq_make_iff,
    fun _ _ _ h => congrArg Block.id (make_eq_make_iff.mpr h), fun _ _ => make_remake⟩

/-- Two identifiers of repeated bytes, the second after the first. -/
def twoParents : BlockId × BlockId := (⟨⟨Vector.replicate 32 1⟩⟩, ⟨⟨Vector.replicate 32 2⟩⟩)

example : (make [twoParents.2, twoParents.1, twoParents.2] none).parents =
    [twoParents.1, twoParents.2] := by decide

theorem make_id_reordered :
    (∀ x, x ∈ [twoParents.2, twoParents.1, twoParents.2] ↔ x ∈ [twoParents.1, twoParents.2]) ∧
      (make [twoParents.2, twoParents.1, twoParents.2] none).id =
        (make [twoParents.1, twoParents.2] none).id := by
  have h : ∀ x, x ∈ [twoParents.2, twoParents.1, twoParents.2] ↔
      x ∈ [twoParents.1, twoParents.2] := by
    intro x
    simp only [List.mem_cons, List.not_mem_nil, or_false]
    tauto
  exact ⟨h, make_parents_set.2.2.1 _ _ _ h⟩

end Block

end DagWallet
