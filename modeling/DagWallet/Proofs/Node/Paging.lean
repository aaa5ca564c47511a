import DagWallet.Node.Cluster
import DagWallet.Proofs.Node.Views
import DagWallet.Proofs.Pool.Reads

/-!
Paging of a node's listings. A node cuts the listing of an address into pages of its page size
and hands out, with each page but the last, a cursor that is the decimal offset of the next
page. Reading the cursor back gives that offset, so following a node's own cursors from the
first page walks its listing from the start, one page size at a time.

In a cluster of nodes, reads only count requests; the outputs and page sizes of every node stay
as they are, so every page a read returns is a page of one node's listing as the listing was
when the read began.
-/

namespace DagWallet

/-! ### Cursors -/

namespace Decimal

theorem digitsBelow_eq_ofDigitChars {bound : Nat} :
    ∀ {cs : List Char} {acc : Nat}, (∀ c ∈ cs, c.isDigit) →
      Nat.ofDigitChars 10 cs acc < bound → digitsBelow bound acc cs = .ok (Nat.ofDigitChars 10 cs acc)
  | [], acc, _, _ => rfl
  | c :: cs, acc, hd, hlt => by
    have hzero : '0'.toNat = 48 := rfl
    rw [Nat.ofDigitChars_cons, hzero] at hlt ⊢
    have hle : 10 * acc + (c.toNat - 48) ≤ Nat.ofDigitChars 10 cs (10 * acc + (c.toNat - 48)) := by
      rw [Nat.ofDigitChars_eq_ofDigitChars_zero]
      exact Nat.le_add_right_of_le (Nat.le_mul_of_pos_left _ (Nat.pow_pos (by decide)))
    rw [digitsBelow, if_pos (hd c List.mem_cons_self)]
    dsimp only
    rw [Nat.mul_comm acc 10, if_pos (by omega)]
    exact digitsBelow_eq_ofDigitChars (fun c' h => hd c' (List.mem_cons_of_mem c h)) hlt

theorem parseBelow_toString {bound n : Nat} (h : n < bound) : parseBelow bound (toString n) = .ok n := by
  have hdig : ∀ c ∈ Nat.toDigits 10 n, c.isDigit := fun c hc =>
    Nat.isDigit_of_mem_toDigits (by decide) (by decide) hc
  have hread : digitsBelow bound 0 (Nat.toDigits 10 n) = .ok n := by
    have := digitsBelow_eq_ofDigitChars hdig (by rw [Nat.ofDigitChars_ten_toDigits]; exact h)
    rwa [Nat.ofDigitChars_ten_toDigits] at this
  obtain ⟨c, cs, hcs⟩ := List.exists_cons_of_ne_nil (Nat.toDigits_ne_nil (n := n) (b := 10))
  -- the text starts with a digit, so it has no sign
  have hc : c ≠ '+' := by
    intro hc
    have := hdig c (by rw [hcs]; exact List.mem_cons_self)
    rw [hc] at this
    exact absurd this (by decide)
  rw [parseBelow, Nat.toString_eq_repr, Nat.toList_repr, hcs]
  rw [hcs] at hread
  split
  · cases ‹c :: cs = []›
  · cases ‹c :: cs = ['+']›
    exact absurd rfl hc
  · cases ‹c :: cs = '+' :: _›
    exact absurd rfl hc
  · exact hread

theorem parseU64_toString {n : Nat} (h : n < 2 ^ 64) : parseU64 (toString n) = .ok n :=
  parseBelow_toString h

end Decimal

/-! ### Pages -/

namespace LedgerNode

section Page

variable {ps o : Nat} {L : List OutputResponse} {P : OutputPage}

theorem page_of_lt (h : o + ps < 2 ^ 64) : page ps o L = .ok
    ⟨if o ≤ min (o + ps) L.length then (L.drop o).take (min (o + ps) L.length - o) else [],
      if min (o + ps) L.length < L.length then some (toString (min (o + ps) L.length)) else none⟩ := by
  rw [page, checkedAdd_of_lt h]
  rfl

theorem lt_of_page_eq_ok (h : page ps o L = .ok P) : o + ps < 2 ^ 64 := by
  by_cases hlt : o + ps < 2 ^ 64
  · exact hlt
  · rw [page, checkedAdd, Nat.pow_eq, if_neg hlt] at h
    cases h

theorem take_append_items (h : page ps o L = .ok P) (ho : o ≤ L.length) :
    L.take o ++ P.items = L.take (min (o + ps) L.length) := by
  rw [page_of_lt (lt_of_page_eq_ok h)] at h
  cases h
  rw [if_pos (by omega), ← List.take_add, Nat.add_sub_cancel' (by omega)]

theorem cursor_eq (h : page ps o L = .ok P) :
    P.cursor = if o + ps < L.length then some (toString (o + ps)) else none := by
  rw [page_of_lt (lt_of_page_eq_ok h)] at h
  cases h
  dsimp only
  by_cases hlt : o + ps < L.length
  · rw [Nat.min_eq_left (Nat.le_of_lt hlt)]
  · rw [if_neg (by omega), if_neg hlt]

theorem cursor_eq_some {cur : String} (h : page ps o L = .ok P) (hcur : P.cursor = some cur) :
    o + ps < L.length ∧ cur = toString (o + ps) := by
  rw [cursor_eq h] at hcur
  by_cases hlt : o + ps < L.length
  · rw [if_pos hlt] at hcur
    cases hcur
    exact ⟨hlt, rfl⟩
  · rw [if_neg hlt] at hcur
    cases hcur

theorem cursor_eq_none (h : page ps o L = .ok P) (hcur : P.cursor = none) :
    L.length ≤ o + ps := by
  rw [cursor_eq h] at hcur
  by_cases hlt : o + ps < L.length
  · rw [if_pos hlt] at hcur
    cases hcur
  · omega

end Page

/-- The cursor `cur` names the offset `o`: no cursor is the start, a cursor is a decimal
offset. -/
def CursorAt : Option String → Nat → Prop
  | none, o => o = 0
  | some c, o => Decimal.parseU64 c = .ok o

theorem cursorAt_toString {o : Nat} (h : o < 2 ^ 64) : CursorAt (some (toString o)) o :=
  Decimal.parseU64_toString h

theorem CursorAt.unique {cur : Option String} {o o' : Nat} (h : CursorAt cur o)
    (h' : CursorAt cur o') : o = o' := by
  cases cur with
  | none => exact h.trans h'.symm
  | some c =>
    have := h.symm.trans h'
    cases this
    rfl

variable {n n' : LedgerNode} {a : Address} {f : OutputFilter} {cur : Option String}
  {P : OutputPage}

theorem answer_outputsOf_ok (h : n.answer (.outputsOf a f cur) = .ok (.ok P, n')) :
    ∃ o, CursorAt cur o ∧ page n.pageSize o (n.listing a f) = .ok P := by
  simp only [answer] at h
  split at h
  · cases h
  · cases cur with
    | none =>
      cases hp : page n.pageSize 0 (n.listing a f) with
      | error x => rw [hp] at h; cases h
      | ok P' =>
        rw [hp] at h
        cases h
        exact ⟨0, rfl, hp⟩
    | some c =>
      dsimp only at h
      split at h
      · rename_i o ho
        cases hp : page n.pageSize o (n.listing a f) with
        | error x => rw [hp] at h; cases h
        | ok P' =>
          rw [hp] at h
          cases h
          exact ⟨o, ho, hp⟩
      · cases h

theorem serve_outputsOf_ok (h : n.serve (.outputsOf a f cur) = .ok (.ok P, n')) :
    ∃ o, CursorAt cur o ∧ page n.pageSize o (n.listing a f) = .ok P := by
  rcases he : n.enter (Request.outputsOf a f cur).operation with ⟨res, n₁⟩
  have hn₁ : n₁ = { n with requests := n.requests + 1 } := by
    rw [← enter_snd _ n, he]
  have hps : n₁.pageSize = n.pageSize := by rw [hn₁]
  have hlisting : n₁.listing a f = n.listing a f := by rw [hn₁]; rfl
  rw [serve, he] at h
  cases res with
  | error e => cases h
  | ok _ =>
    rw [← hps, ← hlisting]
    exact answer_outputsOf_ok h

theorem answer_outputsOf {o : Nat} (ha : a ∉ n.failingAddresses) (hcur : CursorAt cur o)
    (hP : page n.pageSize o (n.listing a f) = .ok P) :
    n.answer (.outputsOf a f cur) = .ok (.ok P, n) := by
  simp only [answer]
  rw [if_neg (by simpa using ha)]
  cases cur with
  | none =>
    cases hcur
    rw [hP]
    rfl
  | some c =>
    dsimp only
    rw [show Decimal.parseU64 c = .ok o from hcur]
    dsimp only
    rw [hP]
    rfl

theorem serve_outputsOf {o : Nat} (hup : n.unreachable = false) (hlimit : n.requestLimit = none)
    (ha : a ∉ n.failingAddresses) (hcur : CursorAt cur o)
    (hP : page n.pageSize o (n.listing a f) = .ok P) :
    n.serve (.outputsOf a f cur) = .ok (.ok P, { n with requests := n.requests + 1 }) := by
  have henter : n.enter (Request.outputsOf a f cur).operation =
      (.ok (), { n with requests := n.requests + 1 }) := by
    simp [enter, hup, hlimit]
  rw [serve, henter]
  exact answer_outputsOf ha hcur hP

end LedgerNode

/-! ### Clusters -/

namespace Cluster

variable {c c' : Cluster} {i : Nat} {n : LedgerNode}

theorem serve_of_getElem? (hn : c.nodes[i]? = some n) (r : Request) :
    c.serve i r = (n.serve r).map fun p => (p.1, { c with nodes := c.nodes.set i p.2 }) := by
  rw [serve, hn]

/-- What a cluster's nodes store for listing outputs: the outputs and the page size of each. -/
def stock (n : LedgerNode) : List OutputResponse × Nat := (n.outputs, n.pageSize)

/-- Every node holds the outputs and the page size it held before. -/
def SameOutputs (c c' : Cluster) : Prop := c'.nodes.map stock = c.nodes.map stock

theorem SameOutputs.getElem? (h : SameOutputs c c') {j : Nat} {n' : LedgerNode}
    (hn' : c'.nodes[j]? = some n') :
    ∃ n, c.nodes[j]? = some n ∧ n'.outputs = n.outputs ∧ n'.pageSize = n.pageSize := by
  have hj := congrArg (·[j]?) h
  simp only [List.getElem?_map, hn'] at hj
  cases hn : c.nodes[j]? with
  | none => rw [hn] at hj; cases hj
  | some n =>
    rw [hn] at hj
    simp only [Option.map_some, Option.some.injEq, stock, Prod.mk.injEq] at hj
    exact ⟨n, rfl, hj.1, hj.2⟩

theorem sameOutputs_serve {r : Request} (hr : ∀ b, r ≠ .submit b) {x : Except NodeError r.Answer}
    (h : c.serve i r = .ok (x, c')) : SameOutputs c c' := by
  cases hn : c.nodes[i]? with
  | none =>
    rw [serve, hn] at h
    cases h
    rfl
  | some n =>
    rw [serve_of_getElem? hn] at h
    cases hs : n.serve r with
    | error x => rw [hs] at h; cases h
    | ok p =>
      rw [hs] at h
      cases h
      have hp : p.2 = { n with requests := n.requests + 1 } := by
        rcases LedgerNode.serve_cases hs with hp | ⟨b, rfl, -⟩
        · exact hp
        · exact absurd rfl (hr b)
      obtain ⟨hi, hget⟩ := List.getElem?_eq_some_iff.1 hn
      calc (c.nodes.set i p.2).map stock = (c.nodes.set i n).map stock := by
            rw [List.map_set, List.map_set, hp]
            rfl
        _ = c.nodes.map stock := by rw [← hget, List.set_getElem_self]

theorem network_keeps (c₀ : Cluster) :
    c₀.network.Keeps (fun r => ∀ b, r ≠ .submit b) SameOutputs where
  refl _ := rfl
  trans h₁ h₂ := h₂.trans h₁
  serve hr h := sameOutputs_serve hr h
  wait _ _ := rfl

theorem answered_outputsOf {c₀ : Cluster} {j : Nat} {a : Address} {f : OutputFilter}
    {cur : Option String} {P : OutputPage}
    (h : c₀.network.Answered SameOutputs j (.outputsOf a f cur) P c c') :
    ∃ n, c.nodes[j]? = some n ∧ ∃ o, LedgerNode.CursorAt cur o ∧
      LedgerNode.page n.pageSize o (n.listing a f) = .ok P := by
  obtain ⟨c₁, c₂, h₁, hserve, -⟩ := h
  change c₁.serve j _ = _ at hserve
  cases hn₁ : c₁.nodes[j]? with
  | none =>
    rw [serve, hn₁] at hserve
    cases hserve
  | some n₁ =>
    rw [serve_of_getElem? hn₁] at hserve
    cases hs : n₁.serve (.outputsOf a f cur) with
    | error x => rw [hs] at hserve; cases hserve
    | ok p =>
      obtain ⟨res, n₁'⟩ := p
      rw [hs] at hserve
      simp only [Except.map, Except.ok.injEq, Prod.mk.injEq] at hserve
      obtain ⟨rfl, -⟩ := hserve
      obtain ⟨o, ho, hpage⟩ := LedgerNode.serve_outputsOf_ok hs
      obtain ⟨n, hn, hout, hps⟩ := h₁.getElem? hn₁
      have hlisting : n₁.listing a f = n.listing a f := by
        simp only [LedgerNode.listing, hout]
      exact ⟨n, hn, o, ho, by rwa [← hps, ← hlisting]⟩

/-- The cluster after node `j`, which was `n`, counted `k` more requests. -/
def counted (c : Cluster) (j : Nat) (n : LedgerNode) (k : Nat) : Cluster :=
  { c with nodes := c.nodes.set j { n with requests := n.requests + k } }

theorem counted_zero (hn : c.nodes[i]? = some n) : c.counted i n 0 = c := by
  obtain ⟨hi, hget⟩ := List.getElem?_eq_some_iff.1 hn
  simp only [counted, Nat.add_zero]
  rw [← hget, List.set_getElem_self]

theorem serve_counted {a : Address} {f : OutputFilter} {cur : Option String} {o : Nat}
    {P : OutputPage} (hn : c.nodes[i]? = some n) (hup : n.unreachable = false)
    (hlimit : n.requestLimit = none) (ha : a ∉ n.failingAddresses)
    (hcur : LedgerNode.CursorAt cur o) (hP : LedgerNode.page n.pageSize o (n.listing a f) = .ok P)
    (k : Nat) :
    (c.counted i n k).serve i (.outputsOf a f cur) = .ok (.ok P, c.counted i n (k + 1)) := by
  have hi : i < c.nodes.length := (List.getElem?_eq_some_iff.1 hn).1
  have hk : (c.counted i n k).nodes[i]? = some { n with requests := n.requests + k } := by
    simp [counted, hi]
  rw [serve_of_getElem? hk,
    LedgerNode.serve_outputsOf (n := { n with requests := n.requests + k }) hup hlimit ha hcur hP]
  simp only [Except.map, counted, List.set_set, Nat.add_assoc]

end Cluster

end DagWallet
