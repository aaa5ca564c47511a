import DagWallet.Proofs.Node.Paging

/-!
Following a node's cursors. A node that lets a request in answers a cursor that reads as an
offset with the window of its listing that starts there, one page size long, and with the
cursor of the next window when the listing goes on past this one; a cursor that does not read
as an offset is an invalid response. The end of a window, offset plus page size, is a machine
word: a window that would end at `2 ^ 64` or later stops the node with an overflow.

Main statements: every chain of pages a node hands out from the first cursor joins up to the
whole listing, in pages of at most the page size, as many as the page size divides into the
listing rounded up and at least one; and a node that lets the requests in hands out that chain.
-/

namespace DagWallet

namespace LedgerNode

variable {n : LedgerNode} {a : Address} {f : OutputFilter} {cur : Option String} {o : Nat}

/-- The node lets in its next `k` requests: it is reachable, and its request limit, if it has
one, leaves room for them. -/
def Lets (n : LedgerNode) (k : Nat) : Prop :=
  n.unreachable = false ∧ ∀ l, n.requestLimit = some l → n.requests + k ≤ l

/-- The node after it counted `k` more requests. -/
def counted (n : LedgerNode) (k : Nat) : LedgerNode := { n with requests := n.requests + k }

@[simp] theorem counted_listing (k : Nat) : (n.counted k).listing a f = n.listing a f := rfl

@[simp] theorem counted_pageSize (k : Nat) : (n.counted k).pageSize = n.pageSize := rfl

@[simp] theorem counted_failingAddresses (k : Nat) :
    (n.counted k).failingAddresses = n.failingAddresses := rfl

theorem counted_counted (j k : Nat) : (n.counted j).counted k = n.counted (j + k) := by
  simp only [counted, Nat.add_assoc]

theorem Lets.mono {j k : Nat} (h : n.Lets k) (hjk : j ≤ k) : n.Lets j :=
  ⟨h.1, fun l hl => Nat.le_trans (Nat.add_le_add_left hjk _) (h.2 l hl)⟩

theorem Lets.counted {k : Nat} (h : n.Lets (k + 1)) : (n.counted 1).Lets k :=
  ⟨h.1, fun l hl => by
    have := h.2 l hl
    simp only [LedgerNode.counted]
    omega⟩

theorem Lets.serve {k : Nat} (h : n.Lets (k + 1)) (r : Request) :
    n.serve r = (n.counted 1).answer r := by
  have henter : n.enter r.operation = (.ok (), n.counted 1) := by
    unfold enter
    dsimp only
    split
    · -- a node that is reachable and below its limit does not refuse
      rename_i hrefused
      simp only [h.1, Bool.false_or] at hrefused
      cases hl : n.requestLimit with
      | none => simp [hl] at hrefused
      | some l =>
        have := h.2 l hl
        simp only [hl, decide_eq_true_eq] at hrefused
        omega
    · rfl
  simp only [LedgerNode.serve, henter]

/-! ### One page -/

/-- The window of `L` that starts at `o`, `p` long: the outputs from position `o` up to
`min (o + p) L.length`, none when `o` is past the end, with the cursor of the next window
exactly when `L` goes on past this one. -/
def window (p o : Nat) (L : List OutputResponse) : OutputPage :=
  ⟨(L.drop o).take p, if o + p < L.length then some (toString (o + p)) else none⟩

theorem window_items_eq_nil {p : Nat} {L : List OutputResponse} (h : L.length ≤ o) :
    (window p o L).items = [] := by
  simp [window, List.drop_eq_nil_of_le h]

theorem page_eq_window {p : Nat} {L : List OutputResponse} (h : o + p < 2 ^ 64) :
    page p o L = .ok (window p o L) := by
  rw [page_of_lt h, window]
  congr 2
  · by_cases hle : o ≤ L.length
    · rw [if_pos (by omega)]
      by_cases hfull : o + p ≤ L.length
      · rw [Nat.min_eq_left hfull, Nat.add_sub_cancel_left]
      · -- the window is cut at the end of the listing, where the rest is shorter than `p`
        rw [Nat.min_eq_right (by omega), List.take_of_length_le (by simp),
          List.take_of_length_le (by simp; omega)]
    · rw [List.drop_eq_nil_of_le (by omega)]
      simp
  · by_cases hlt : o + p < L.length
    · rw [Nat.min_eq_left (Nat.le_of_lt hlt)]
    · rw [if_neg (by omega), if_neg hlt]

theorem page_of_le {p : Nat} {L : List OutputResponse} (h : 2 ^ 64 ≤ o + p) :
    page p o L = .error .addOverflow := by
  rw [page, checkedAdd, Nat.pow_eq, if_neg (by omega)]
  rfl

theorem answer_outputsOf_eq (ha : a ∉ n.failingAddresses) (hcur : CursorAt cur o) :
    n.answer (.outputsOf a f cur) = (page n.pageSize o (n.listing a f)).map fun P => (.ok P, n) := by
  simp only [answer]
  rw [if_neg (by simpa using ha)]
  cases cur with
  | none =>
    cases hcur
    cases page n.pageSize 0 (n.listing a f) <;> rfl
  | some c =>
    dsimp only
    rw [show Decimal.parseU64 c = .ok o from hcur]
    dsimp only
    cases page n.pageSize o (n.listing a f) <;> rfl

theorem serve_window (hlet : n.Lets 1) (ha : a ∉ n.failingAddresses) (hcur : CursorAt cur o)
    (hfit : o + n.pageSize < 2 ^ 64) :
    n.serve (.outputsOf a f cur) = .ok (.ok (window n.pageSize o (n.listing a f)), n.counted 1) := by
  rw [hlet.serve, answer_outputsOf_eq (n := n.counted 1) ha hcur, counted_pageSize, counted_listing,
    page_eq_window hfit]
  rfl

theorem serve_halts (hlet : n.Lets 1) (ha : a ∉ n.failingAddresses) (hcur : CursorAt cur o)
    (hover : 2 ^ 64 ≤ o + n.pageSize) : n.serve (.outputsOf a f cur) = .error .addOverflow := by
  rw [hlet.serve, answer_outputsOf_eq (n := n.counted 1) ha hcur, counted_pageSize, counted_listing, page_of_le hover]
  rfl

theorem serve_invalid_cursor (hlet : n.Lets 1) (ha : a ∉ n.failingAddresses) {c : String}
    {e : DecimalError} (hc : Decimal.parseU64 c = .error e) :
    n.serve (.outputsOf a f (some c)) =
      .ok (.error (.invalidResponse s!"invalid cursor '{c}'"), n.counted 1) := by
  rw [hlet.serve]
  simp only [answer]
  rw [if_neg (by simpa using ha)]
  simp only [hc]
  rfl

theorem serve_outputsOf_window {P : OutputPage} {n' : LedgerNode}
    (h : n.serve (.outputsOf a f cur) = .ok (.ok P, n')) :
    ∃ o, CursorAt cur o ∧ o + n.pageSize < 2 ^ 64 ∧ P = window n.pageSize o (n.listing a f) ∧
      n' = n.counted 1 := by
  obtain ⟨o, ho, hpage⟩ := serve_outputsOf_ok h
  have hfit := lt_of_page_eq_ok hpage
  rw [page_eq_window hfit] at hpage
  have hn' : n' = n.counted 1 := by
    rcases serve_cases h with rfl | ⟨b, hb, -⟩
    · rfl
    · cases hb
  exact ⟨o, ho, hfit, (Except.ok.inj hpage).symm, hn'⟩

/-! ### Chains of pages -/

/-- Following a node's cursors for the outputs of `a` that `f` accepts: from cursor `cur` the
node `n` hands out the pages `Ps`, the last of them without a cursor, and ends as `n'`. -/
inductive Follows (a : Address) (f : OutputFilter) :
    LedgerNode → Option String → List OutputPage → LedgerNode → Prop
  | last {n n' : LedgerNode} {cur : Option String} {P : OutputPage} :
    n.serve (.outputsOf a f cur) = .ok (.ok P, n') → P.cursor = none → Follows a f n cur [P] n'
  | next {n n₁ n' : LedgerNode} {cur : Option String} {c : String} {P : OutputPage}
    {Ps : List OutputPage} :
    n.serve (.outputsOf a f cur) = .ok (.ok P, n₁) → P.cursor = some c →
    Follows a f n₁ (some c) Ps n' → Follows a f n cur (P :: Ps) n'

theorem pageCount_of_le {d p : Nat} (hp : 0 < p) (h : d ≤ p) : max 1 ((d + p - 1) / p) = 1 := by
  have : (d + p - 1) / p < 2 := Nat.div_lt_of_lt_mul (by omega)
  omega

theorem pageCount_of_lt {d p : Nat} (hp : 0 < p) (h : p < d) :
    max 1 ((d + p - 1) / p) = max 1 ((d - p + p - 1) / p) + 1 := by
  have hd : d + p - 1 = (d - 1) + p := by omega
  have hd' : d - p + p - 1 = d - 1 := by omega
  have hone : 1 ≤ (d - 1) / p := (Nat.le_div_iff_mul_le hp).mpr (by omega)
  rw [hd, hd', Nat.add_div_right _ hp]
  omega

theorem Follows.pages {n n' : LedgerNode} {Ps : List OutputPage} (h : Follows a f n cur Ps n')
    (hp : 0 < n.pageSize) : ∀ o, CursorAt cur o → o ≤ (n.listing a f).length →
      Ps.flatMap OutputPage.items = (n.listing a f).drop o ∧
      (∀ P ∈ Ps, P.items.length ≤ n.pageSize) ∧
      Ps.length = max 1 (((n.listing a f).length - o + n.pageSize - 1) / n.pageSize) ∧
      n' = n.counted Ps.length := by
  induction h with
  | @last m m' cur P hs hnone =>
    intro o hcur hle
    obtain ⟨o', ho', -, rfl, rfl⟩ := serve_outputsOf_window hs
    cases ho'.unique hcur
    have hend : (m.listing a f).length ≤ o + m.pageSize := by
      by_cases hlt : o + m.pageSize < (m.listing a f).length
      · simp [window, hlt] at hnone
      · omega
    refine ⟨?_, ?_, ?_, rfl⟩
    · simp only [List.flatMap_cons, List.flatMap_nil, List.append_nil, window]
      exact List.take_of_length_le (by simp; omega)
    · intro P hP
      rw [List.mem_singleton.mp hP]
      exact List.length_take_le _ _
    · rw [pageCount_of_le hp (by omega)]
      rfl
  | @next m m₁ m' cur c P Ps hs hc _ ih =>
    intro o hcur hle
    obtain ⟨o', ho', hfit, rfl, rfl⟩ := serve_outputsOf_window hs
    cases ho'.unique hcur
    -- the cursor is handed out only while the listing goes on, and names the next offset
    have hmore : o + m.pageSize < (m.listing a f).length := by
      by_cases hlt : o + m.pageSize < (m.listing a f).length
      · exact hlt
      · simp [window, hlt] at hc
    have hnext : c = toString (o + m.pageSize) := by
      simp only [window, if_pos hmore, Option.some.injEq] at hc
      exact hc.symm
    obtain ⟨hflat, hsize, hlen, hend⟩ := ih (by simpa using hp) (o + m.pageSize)
      (hnext ▸ cursorAt_toString hfit) (by simp; omega)
    simp only [counted_listing, counted_pageSize] at hflat hsize hlen
    refine ⟨?_, ?_, ?_, ?_⟩
    · rw [List.flatMap_cons, hflat, window, ← List.drop_drop, List.take_append_drop]
    · intro P hP
      rcases List.mem_cons.mp hP with rfl | hP
      · exact List.length_take_le _ _
      · exact hsize P hP
    · rw [List.length_cons, hlen, pageCount_of_lt hp (d := (m.listing a f).length - o) (by omega),
        Nat.sub_sub]
    · rw [hend, counted_counted, List.length_cons, Nat.add_comm]

theorem exists_follows {n : LedgerNode} {o : Nat} {cur : Option String} (hp : 0 < n.pageSize)
    (ha : a ∉ n.failingAddresses) (hmem : (n.listing a f).length ≤ 2 ^ 63)
    (hcur : CursorAt cur o) (hfit : o + n.pageSize < 2 ^ 64)
    (hlet : n.Lets (max 1 (((n.listing a f).length - o + n.pageSize - 1) / n.pageSize))) :
    ∃ Ps, Follows a f n cur Ps
      (n.counted (max 1 (((n.listing a f).length - o + n.pageSize - 1) / n.pageSize))) := by
  have hs := serve_window (f := f) (hlet.mono (Nat.le_max_left _ _)) ha hcur hfit
  by_cases hmore : o + n.pageSize < (n.listing a f).length
  · -- One window with a cursor, then the chain from the offset it names.
    have hcount := pageCount_of_lt hp (show n.pageSize < (n.listing a f).length - o by omega)
    rw [Nat.sub_sub] at hcount
    rw [hcount] at hlet ⊢
    obtain ⟨Ps, hPs⟩ := exists_follows (n := n.counted 1) (o := o + n.pageSize) hp ha hmem
      (cursorAt_toString (by omega)) (by simp; omega) (by simpa using hlet.counted)
    refine ⟨_ :: Ps, .next (c := toString (o + n.pageSize)) hs (by simp [window, hmore]) ?_⟩
    simpa only [counted_counted, counted_listing, counted_pageSize, Nat.add_comm 1] using hPs
  · rw [pageCount_of_le hp (by omega)]
    exact ⟨_, .last hs (by simp [window, hmore])⟩
termination_by (n.listing a f).length - o
decreasing_by simp only [counted_listing]; omega

/-- Cursor paging of a node that does not fail the address, for its listing of the address
under the filter. A cursor that reads as offset `o` is answered, by a node that lets the
request in, with the window of the listing at `o`, one page size long, and the cursor of the
next window when the listing goes on past it, as long as `o` plus the page size fits in a
machine word; a cursor that does not read as an offset is an invalid response. Every chain of
pages from the first cursor joins up to the whole listing in pages of at most the page size,
as many as the page size divides into the listing rounded up and at least one, and counts one
request for each page. A node whose page size is a machine word, whose listing has at most
`2 ^ 63` outputs and which lets that many requests in hands out that chain. -/
theorem cursor_paging (n : LedgerNode) (a : Address) (f : OutputFilter) (hp : 0 < n.pageSize)
    (ha : a ∉ n.failingAddresses) :
    (∀ c o, Decimal.parseU64 c = .ok o → o + n.pageSize < 2 ^ 64 → n.Lets 1 →
      n.serve (.outputsOf a f (some c)) =
        .ok (.ok (window n.pageSize o (n.listing a f)), n.counted 1)) ∧
    (∀ c e, Decimal.parseU64 c = .error e → n.Lets 1 →
      n.serve (.outputsOf a f (some c)) =
        .ok (.error (.invalidResponse s!"invalid cursor '{c}'"), n.counted 1)) ∧
    (∀ Ps n', Follows a f n none Ps n' →
      Ps.flatMap OutputPage.items = n.listing a f ∧ (∀ P ∈ Ps, P.items.length ≤ n.pageSize) ∧
      Ps.length = max 1 (((n.listing a f).length + n.pageSize - 1) / n.pageSize) ∧
      n' = n.counted Ps.length) ∧
    (n.pageSize < 2 ^ 64 → (n.listing a f).length ≤ 2 ^ 63 →
      n.Lets (max 1 (((n.listing a f).length + n.pageSize - 1) / n.pageSize)) →
      ∃ Ps, Follows a f n none Ps
        (n.counted (max 1 (((n.listing a f).length + n.pageSize - 1) / n.pageSize)))) := by
  refine ⟨fun c o hc hfit hlet => serve_window hlet ha hc hfit,
    fun c e hc hlet => serve_invalid_cursor hlet ha hc, fun Ps n' h => ?_,
    fun hword hmem hlet => ?_⟩
  · obtain ⟨hflat, hsize, hlen, hend⟩ := h.pages hp 0 rfl (Nat.zero_le _)
    exact ⟨hflat, hsize, by simpa using hlen, hend⟩
  · simpa using exists_follows (o := 0) hp ha hmem (show CursorAt none 0 from rfl)
      (by simpa using hword)
      (by simpa using hlet)

/-- A node holding three outputs of one owner, two to a page. -/
def threeOutputs : LedgerNode :=
  let r (i : UInt16) : OutputResponse := ⟨⟨⟨⟨Vector.replicate 32 2⟩⟩, i⟩,
    Output.basic 5 ⟨⟨Vector.replicate 32 1⟩⟩, ⟨⟨⟨Vector.replicate 32 0⟩⟩, false, 0⟩⟩
  { new "node0" with outputs := [r 0, r 1, r 2], pageSize := 2 }

/-- Following the cursors of that node from the first page gives its three outputs in two
pages, for two requests. -/
theorem three_outputs_follow_in_two_pages :
    0 < threeOutputs.pageSize ∧ ⟨⟨Vector.replicate 32 1⟩⟩ ∉ threeOutputs.failingAddresses ∧
      ∃ Ps, Follows ⟨⟨Vector.replicate 32 1⟩⟩ {} threeOutputs none Ps (threeOutputs.counted 2) ∧
        Ps.flatMap OutputPage.items = threeOutputs.outputs := by
  have hpaging := cursor_paging threeOutputs ⟨⟨Vector.replicate 32 1⟩⟩ {} (by decide)
    List.not_mem_nil
  have hlisting : threeOutputs.listing ⟨⟨Vector.replicate 32 1⟩⟩ {} = threeOutputs.outputs := by
    decide
  have hcount : max 1 ((threeOutputs.outputs.length + threeOutputs.pageSize - 1) /
      threeOutputs.pageSize) = 2 := rfl
  rw [hlisting, hcount] at hpaging
  obtain ⟨Ps, hPs⟩ := hpaging.2.2.2 (by decide) (by decide) ⟨rfl, fun _ h => nomatch h⟩
  exact ⟨by decide, List.not_mem_nil, Ps, hPs, (hpaging.2.2.1 Ps _ hPs).1⟩

/-- A fresh node asked for the page at the last offset a machine word holds stops with an
overflow: the end of that window does not fit. -/
theorem listing_halts_at_last_offset :
    (new "node0").serve (.outputsOf ⟨⟨Vector.replicate 32 0xab⟩⟩ {} (some "18446744073709551615")) =
      .error .addOverflow :=
  serve_halts ⟨rfl, fun _ h => nomatch h⟩ List.not_mem_nil (o := 2 ^ 64 - 1) rfl (by decide)

end LedgerNode

end DagWallet
