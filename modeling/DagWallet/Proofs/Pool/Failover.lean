import DagWallet.Pool.Basic
import DagWallet.Node.Cluster
import DagWallet.Proofs.Node.Course

/-!
Failover and retries of a pool's reads, along every behaviour of its nodes. A read asks one
node after another, starting at a given one and going round the pool once; it stays on a node
only while the node fails for want of a connection and retries are left, and it ends with the
first node that answers. When every node fails it reports the last failure other than a
missing resource, or else the last missing resource. A write goes to the first node once.

The read counts its attempts on a 32-bit word and its node positions on a 64-bit word, so the
statements hold for the retry counts and starting nodes for which neither overflows; past them
the read stops everything with an overflow fault.
-/

namespace DagWallet

namespace Pool

open Job

variable {A : Type}

/-- One read from node `i` with `n` retries left: the node is asked again only after a transient
error and while retries are left, and the read ends with the last answer. -/
inductive Retries (i : Nat) : Nat → List (Nat × Except NodeError A) → Except NodeError A → Prop
  | last {n : Nat} {x : Except NodeError A} :
    (∀ e, x = .error e → e.isTransient = true → n = 0) → Retries i n [(i, x)] x
  | again {n : Nat} {e : NodeError} {t : List (Nat × Except NodeError A)} {y : Except NodeError A} :
    e.isTransient = true → Retries i n t y → Retries i (n + 1) ((i, .error e) :: t) y

/-- Reads from the nodes of `nodes` in turn, each with `retries` retries, until one succeeds:
the node that answered and its value, or the errors of all of them in order. -/
inductive Failover (retries : Nat) :
    List Nat → List (Nat × Except NodeError A) → Except (List NodeError) (Nat × A) → Prop
  | found {i : Nat} {rest : List Nat} {t : List (Nat × Except NodeError A)} {a : A} :
    Retries i retries t (.ok a) → Failover retries (i :: rest) t (.ok (i, a))
  | next {i : Nat} {rest : List Nat} {t t' : List (Nat × Except NodeError A)} {e : NodeError}
    {res : Except (List NodeError) (Nat × A)} :
    Retries i retries t (.error e) → Failover retries rest t' res →
      Failover retries (i :: rest) (t ++ t') (res.mapError (e :: ·))
  | exhausted : Failover retries [] [] (.error [])

/-- The error reported when every node failed: the last one that is not a missing resource,
else the last missing resource; `noNodes` only when there was no node at all. -/
def reported (errors : List NodeError) : NodeError :=
  (((errors.filter (!·.isNotFound)).getLast?).or (errors.filter (·.isNotFound)).getLast?).getD
    .noNodes

/-! ### The specification's own laws -/

section Spec

variable {i n : Nat} {t : List (Nat × Except NodeError A)} {y : Except NodeError A}

theorem retries_zero_iff : Retries i 0 t y ↔ t = [(i, y)] := by
  constructor
  · rintro ⟨⟩
    rfl
  · rintro rfl
    exact .last fun _ _ _ => rfl

theorem retries_succ_iff : Retries i (n + 1) t y ↔
    (t = [(i, y)] ∧ ∀ e, y = .error e → e.isTransient = false) ∨
    ∃ e t', e.isTransient = true ∧ t = (i, .error e) :: t' ∧ Retries i n t' y := by
  constructor
  · intro h
    cases h with
    | last hx =>
      refine .inl ⟨rfl, fun e he => ?_⟩
      cases ht : e.isTransient
      · rfl
      · exact absurd (hx e he ht) (Nat.succ_ne_zero n)
    | again he h => exact .inr ⟨_, _, he, rfl, h⟩
  · rintro (⟨rfl, hy⟩ | ⟨e, t', he, rfl, h⟩)
    · exact .last fun e he ht => by rw [hy e he] at ht; cases ht
    · exact .again he h

theorem Retries.length_le (h : Retries i n t y) : t.length ≤ n + 1 := by
  induction h with
  | last => simp
  | again _ _ ih => simp only [List.length_cons]; omega

theorem failover_nil_iff {retries : Nat} {res : Except (List NodeError) (Nat × A)} :
    Failover retries [] t res ↔ t = [] ∧ res = .error [] := by
  constructor
  · rintro ⟨⟩
    exact ⟨rfl, rfl⟩
  · rintro ⟨rfl, rfl⟩
    exact .exhausted

theorem failover_cons_iff {retries : Nat} {rest : List Nat}
    {res : Except (List NodeError) (Nat × A)} :
    Failover retries (i :: rest) t res ↔
      (∃ a, Retries i retries t (.ok a) ∧ res = .ok (i, a)) ∨
      ∃ t₁ t₂ e res', t = t₁ ++ t₂ ∧ Retries i retries t₁ (.error e) ∧
        Failover retries rest t₂ res' ∧ res = res'.mapError (e :: ·) := by
  constructor
  · intro h
    cases h with
    | found h => exact .inl ⟨_, h, rfl⟩
    | next h₁ h₂ => exact .inr ⟨_, _, _, _, rfl, h₁, h₂, rfl⟩
  · rintro (⟨a, h, rfl⟩ | ⟨t₁, t₂, e, res', rfl, h₁, h₂, rfl⟩)
    · exact .found h
    · exact .next h₁ h₂

theorem Failover.length_errors {retries : Nat} {nodes : List Nat} {es : List NodeError}
    (h : Failover retries nodes t (.error es)) : es.length = nodes.length := by
  generalize hres : (Except.error es : Except (List NodeError) (Nat × A)) = res at h
  induction h generalizing es with
  | found => cases hres
  | next _ _ ih =>
    rename_i res _ _
    cases res with
    | ok v => cases hres
    | error es' =>
      cases hres
      simp [ih rfl]
  | exhausted =>
    cases hres
    rfl

theorem reported_mem {es : List NodeError} (hne : es ≠ []) : reported es ∈ es := by
  unfold reported
  cases h₁ : (es.filter (!·.isNotFound)).getLast? with
  | some e => exact (List.mem_filter.1 (List.mem_of_getLast? h₁)).1
  | none =>
    cases h₂ : (es.filter (·.isNotFound)).getLast? with
    | some e => exact (List.mem_filter.1 (List.mem_of_getLast? h₂)).1
    | none =>
      -- every error is found in one of the two filters, so both cannot be empty
      obtain ⟨e, he⟩ := List.exists_mem_of_ne_nil es hne
      rw [List.getLast?_eq_none_iff, List.filter_eq_nil_iff] at h₁ h₂
      have h₁' := h₁ e he
      have h₂' := h₂ e he
      simp_all

theorem reported_isNotFound_iff {es : List NodeError} (hne : es ≠ []) :
    (reported es).isNotFound = true ↔ ∀ e ∈ es, e.isNotFound = true := by
  unfold reported
  cases h₁ : (es.filter (!·.isNotFound)).getLast? with
  | some e =>
    have he := List.mem_filter.1 (List.mem_of_getLast? h₁)
    simp only [Option.some_or, Option.getD_some]
    constructor
    · intro h
      simp [h] at he
    · intro h
      exact h e he.1
  | none =>
    rw [List.getLast?_eq_none_iff, List.filter_eq_nil_iff] at h₁
    have hall : ∀ e ∈ es, e.isNotFound = true := fun e he => by simpa using h₁ e he
    refine ⟨fun _ => hall, fun _ => ?_⟩
    have hmem := reported_mem hne
    unfold reported at hmem
    rw [List.getLast?_eq_none_iff.2 (List.filter_eq_nil_iff.2 h₁)] at hmem
    exact hall _ hmem

end Spec

/-! ### The code meets the specification -/

section Code

variable {σ : Type} (p : Pool σ) (r : Request)

theorem retrying_course (i : Nat) :
    ∀ (n k : Nat) {t : Asks r} {o : Except Fault (Except NodeError r.Answer)},
      Course r (retrying p.config i r k n) t o ↔ ∃ y, Retries i n t y ∧ o = .ok y
  | 0, k, t, o => by
    simp only [retrying, Job.request, course_ask, course_done, retries_zero_iff]
    constructor
    · rintro ⟨x, t', rfl, rfl, rfl⟩
      exact ⟨x, rfl, rfl⟩
    · rintro ⟨y, rfl, rfl⟩
      exact ⟨y, [], rfl, rfl, rfl⟩
  | n + 1, k, t, o => by
    show Course r (.ask i r fun x => (Job.done x).tryCatch _) t o ↔ _
    rw [course_ask]
    constructor
    · rintro ⟨x, t', rfl, h⟩
      cases x with
      | ok a =>
        obtain ⟨rfl, rfl⟩ := course_done.1 h
        exact ⟨.ok a, retries_succ_iff.2 (.inl ⟨rfl, fun e he => by cases he⟩), rfl⟩
      | error e =>
        change Course r (if e.isTransient then .wait _ _ else throw e) t' o at h
        cases he : e.isTransient
        · rw [he] at h
          obtain ⟨rfl, rfl⟩ := course_done.1 h
          exact ⟨.error e, retries_succ_iff.2 (.inl ⟨rfl, fun e' he' => by cases he'; exact he⟩),
            rfl⟩
        · rw [he, if_pos rfl, course_wait, retrying_course i n (k + 1)] at h
          obtain ⟨y, hy, rfl⟩ := h
          exact ⟨y, retries_succ_iff.2 (.inr ⟨e, t', he, rfl, hy⟩), rfl⟩
    · rintro ⟨y, hy, rfl⟩
      rcases retries_succ_iff.1 hy with ⟨rfl, hfinal⟩ | ⟨e, t', he, rfl, hy'⟩
      · refine ⟨y, [], rfl, ?_⟩
        cases y with
        | ok a => exact .done _
        | error e =>
          change Course r (if e.isTransient then .wait _ _ else throw e) [] _
          rw [hfinal e rfl]
          exact .done _
      · refine ⟨.error e, t', rfl, ?_⟩
        change Course r (if e.isTransient then .wait _ _ else throw e) t' _
        rw [he, if_pos rfl, course_wait, retrying_course i n (k + 1)]
        exact ⟨y, hy', rfl⟩

variable {p}

theorem readOnce_course (hretries : p.config.transportRetries.toNat + 1 < 2 ^ 32) (i : Nat)
    {t : Asks r} {o : Except Fault (Except NodeError r.Answer)} :
    Course r (p.readOnce i r) t o ↔
      ∃ y, Retries i p.config.transportRetries.toNat t y ∧ o = .ok y := by
  have hattempts : p.config.attempts = .ok (p.config.transportRetries.toNat + 1) := by
    rw [PoolConfig.attempts, checkedAdd, Nat.pow_eq, if_pos hretries]
  simp only [readOnce, hattempts, course_ofFault_bind, Nat.add_sub_cancel]
  exact retrying_course p r i _ 0

theorem failover_course (hretries : p.config.transportRetries.toNat + 1 < 2 ^ 32) (start : Nat) :
    ∀ (ks : List Nat) (seen : List NodeError), (∀ k ∈ ks, start + k < 2 ^ 64) →
      ∀ {t : Asks r} {o : Except Fault (Except NodeError (Nat × r.Answer))},
        Course r (p.failover r start ks ((seen.filter (!·.isNotFound)).getLast?)
            ((seen.filter (·.isNotFound)).getLast?)) t o ↔
          ∃ res, Failover p.config.transportRetries.toNat
            (ks.map fun k => (start + k) % p.net.size) t res ∧
            o = .ok (res.mapError fun es => reported (seen ++ es))
  | [], seen, _, t, o => by
    show Course r (.done (.error _)) t o ↔ _
    simp only [course_done, List.map_nil, failover_nil_iff, Option.orElse_eq_orElse,
      Option.orElse_eq_or]
    constructor
    · rintro ⟨rfl, rfl⟩
      exact ⟨.error [], ⟨rfl, rfl⟩, by simp only [Except.mapError, List.append_nil]; rfl⟩
    · rintro ⟨res, ⟨rfl, rfl⟩, rfl⟩
      exact ⟨rfl, by simp only [Except.mapError, List.append_nil]; rfl⟩
  | k :: ks, seen, hks, t, o => by
    have hk : checkedAdd 64 start k = .ok (start + k) := by
      rw [checkedAdd, Nat.pow_eq, if_pos (hks k List.mem_cons_self)]
    have hrest : ∀ k ∈ ks, start + k < 2 ^ 64 := fun k' hk' => hks k' (List.mem_cons_of_mem k hk')
    -- the accumulators after one more error are those of the errors seen so far and it
    have hnext : ∀ e : NodeError,
        (if e.isNotFound then p.failover r start ks ((seen.filter (!·.isNotFound)).getLast?)
            (some e)
          else p.failover r start ks (some e) ((seen.filter (·.isNotFound)).getLast?)) =
        p.failover r start ks (((seen ++ [e]).filter (!·.isNotFound)).getLast?)
          (((seen ++ [e]).filter (·.isNotFound)).getLast?) := by
      intro e
      cases he : e.isNotFound <;> simp [List.filter_append, he]
    unfold failover
    rw [hk, course_ofFault_bind]
    dsimp only
    rw [monad_tryCatch, course_tryCatch]
    simp only [course_map, readOnce_course r hretries, List.map_cons, failover_cons_iff]
    constructor
    · rintro ⟨t₁, t₂, o₁, rfl, ⟨o₀, ⟨y, hy, rfl⟩, rfl⟩, hnext₁⟩
      cases y with
      | ok a =>
        obtain ⟨rfl, rfl⟩ := hnext₁
        exact ⟨.ok ((start + k) % p.net.size, a), .inl ⟨a, by rwa [List.append_nil], rfl⟩, rfl⟩
      | error e =>
        change Course r (if e.isNotFound then _ else _) t₂ o at hnext₁
        rw [hnext e, failover_course hretries start ks (seen ++ [e]) hrest] at hnext₁
        obtain ⟨res, hres, rfl⟩ := hnext₁
        refine ⟨res.mapError (e :: ·), .inr ⟨t₁, t₂, e, res, rfl, hy, hres, rfl⟩, ?_⟩
        cases res <;> simp [Except.mapError]
    · rintro ⟨res, ⟨a, hy, rfl⟩ | ⟨t₁, t₂, e, res', rfl, hy, hres, rfl⟩, rfl⟩
      · exact ⟨t, [], _, by rw [List.append_nil], ⟨_, ⟨.ok a, hy, rfl⟩, rfl⟩, And.intro rfl rfl⟩
      · refine ⟨t₁, t₂, _, rfl, ⟨_, ⟨.error e, hy, rfl⟩, rfl⟩, ?_⟩
        change Course r (if e.isNotFound then _ else _) t₂ _
        rw [hnext e, failover_course hretries start ks (seen ++ [e]) hrest]
        exact ⟨res', hres, by cases res' <;> simp [Except.mapError]⟩

theorem visits_nodup (start size : Nat) :
    ((List.range size).map fun k => (start + k) % size).Nodup := by
  refine List.Nodup.map_on (fun a ha b hb he => ?_) List.nodup_range
  rw [List.mem_range] at ha hb
  -- two offsets below the pool's size that land on the same node are equal
  rcases Nat.le_total a b with hab | hab
  · have h := Nat.sub_mod_eq_zero_of_mod_eq he.symm
    rw [show start + b - (start + a) = b - a by omega, Nat.mod_eq_of_lt (by omega)] at h
    omega
  · have h := Nat.sub_mod_eq_zero_of_mod_eq he
    rw [show start + a - (start + b) = a - b by omega, Nat.mod_eq_of_lt (by omega)] at h
    omega

theorem mem_visits {start size i : Nat} (hsize : 0 < size) :
    i ∈ (List.range size).map (fun k => (start + k) % size) ↔ i < size := by
  constructor
  · rintro h
    obtain ⟨k, -, rfl⟩ := List.mem_map.1 h
    exact Nat.mod_lt _ hsize
  · intro hi
    -- node `i` is reached after going round from `start` to it
    refine List.mem_map.2 ⟨(i + size - start % size) % size, List.mem_range.2 (Nat.mod_lt _ hsize), ?_⟩
    have hs := Nat.mod_lt start hsize
    have hdiv := Nat.mod_add_div start size
    rw [Nat.add_mod_mod, show start + (i + size - start % size) = i + size + size * (start / size)
      by omega, Nat.add_mul_mod_self_left, Nat.add_mod_right, Nat.mod_eq_of_lt hi]

end Code

/-- Reads with neither retries nor waits. -/
def quickConfig : PoolConfig :=
  { transportRetries := 0, initialRetryDelayMs := 0, maxRetryDelayMs := 0 }

end Pool

end DagWallet
