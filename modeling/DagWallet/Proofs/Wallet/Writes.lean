import DagWallet.Proofs.Wallet.Inclusion
import DagWallet.Proofs.Pool.Reads

/-!
The writes of the confirmation driver. The network is arbitrary; a view of its state keeps the
requests its nodes answered, in order, each with its answer. A guarded promotion, reattachment
or retry asks for the metadata of its block and decides on what a node answered: an included
block is refused first, then a conflicting one, and a retry promotes before it reattaches. A
refusal asks nothing more, so it writes nothing and reads neither tips nor blocks; a success
writes exactly one block, the one it returns. The confirmation loop, when it finds an
inclusion, runs out of attempts or is cancelled, has written one block per promotion or
reattachment it records, in order, and nothing else.
-/

namespace DagWallet

open Session

/-- A request a node answered: the node, the request and the answer. -/
structure Exchange where
  node : Nat
  request : Request
  answer : Except NodeError request.Answer

/-- The block written and the node's answer, when the exchange is a write. -/
def Exchange.write? : Exchange → Option (Block × Except NodeError BlockId)
  | ⟨_, .submit b, a⟩ => some (b, a)
  | _ => none

/-- The writes among exchanges, in order. -/
def writesOf (xs : List Exchange) : List (Block × Except NodeError BlockId) :=
  xs.filterMap Exchange.write?

@[simp] theorem writesOf_nil : writesOf [] = [] := rfl

@[simp] theorem writesOf_append (xs ys : List Exchange) :
    writesOf (xs ++ ys) = writesOf xs ++ writesOf ys :=
  List.filterMap_append

@[simp] theorem writesOf_submit (i : Nat) (b : Block) (a : Except NodeError BlockId) :
    writesOf [⟨i, .submit b, a⟩] = [(b, a)] := rfl

theorem writesOf_eq_nil {xs : List Exchange} (h : ∀ x ∈ xs, ∀ b, x.request ≠ .submit b) :
    writesOf xs = [] := by
  refine List.filterMap_eq_nil_iff.mpr fun ⟨i, q, a⟩ hx => ?_
  cases q with
  | submit b => exact absurd rfl (h _ hx b)
  | _ => rfl

theorem writesOf_of_requests {xs : List Exchange} {r : Request} (hr : ∀ b, r ≠ .submit b)
    (h : ∀ x ∈ xs, x.request = r) : writesOf xs = [] :=
  writesOf_eq_nil fun x hx b => by
    rw [h x hx]
    exact hr b

variable {σ : Type}

theorem log_trans {log : σ → List Exchange} {s₁ s₂ s₃ : σ} {n₁ n₂ : List Exchange}
    (h₁ : log s₂ = log s₁ ++ n₁) (h₂ : log s₃ = log s₂ ++ n₂) : log s₃ = log s₁ ++ (n₁ ++ n₂) := by
  rw [h₂, h₁, List.append_assoc]

namespace Network

/-- `log` reads off a state the exchanges of the nodes so far, in order: an answer adds its
exchange at the end, and the client's clock leaves the log alone. -/
structure Logs (net : Network σ) (log : σ → List Exchange) : Prop where
  serve : ∀ {i r s x s'}, net.serve i r s = .ok (x, s') → log s' = log s ++ [⟨i, r, x⟩]
  setExecutor : ∀ e s, log (net.setExecutor e s) = log s

/-- The network with the exchanges of its nodes kept beside its state. -/
def logged (net : Network σ) : Network (σ × List Exchange) where
  size := net.size
  serve i r s := (net.serve i r s.1).map fun p => (p.1, p.2, s.2 ++ [⟨i, r, p.1⟩])
  executor s := net.executor s.1
  setExecutor e s := (net.setExecutor e s.1, s.2)

theorem logs_logged (net : Network σ) : net.logged.Logs Prod.snd where
  serve {i r s x s'} h := by
    change (net.serve i r s.1).map _ = _ at h
    cases hs : net.serve i r s.1 with
    | error f =>
      rw [hs] at h
      cases h
    | ok p =>
      rw [hs] at h
      cases h
      rfl
  setExecutor _ _ := rfl

/-- The log of `s'` is the log of `s` and then exchanges that `P` admits. -/
def Extends (log : σ → List Exchange) (P : Exchange → Prop) (s s' : σ) : Prop :=
  ∃ new, log s' = log s ++ new ∧ ∀ x ∈ new, P x

theorem extends_nil {log : σ → List Exchange} {P : Exchange → Prop} {s s' : σ}
    (h : log s' = log s) : Extends log P s s' :=
  ⟨[], by rw [h, List.append_nil], fun _ hx => absurd hx List.not_mem_nil⟩

theorem Logs.keeps {net : Network σ} {log : σ → List Exchange} (hlog : net.Logs log)
    (r : Request) : net.Keeps (· = r) (Extends log (·.request = r)) where
  refl _ := extends_nil rfl
  trans := by
    rintro _ _ _ ⟨n₁, h₁, hall₁⟩ ⟨n₂, h₂, hall₂⟩
    refine ⟨n₁ ++ n₂, log_trans h₁ h₂, fun x hx => ?_⟩
    rcases List.mem_append.mp hx with hx | hx
    · exact hall₁ x hx
    · exact hall₂ x hx
  serve {i r' s x s'} hr hs := by
    refine ⟨[⟨i, r', x⟩], hlog.serve hs, fun y hy => ?_⟩
    rw [List.mem_singleton.mp hy]
    exact hr
  wait _ _ := extends_nil (hlog.setExecutor _ _)

theorem Logs.waitOrStop {ε : Type} {net : Network σ} {log : σ → List Exchange}
    (hlog : net.Logs log) (d : Nat) {s s' : σ} {r : Except ε Bool}
    (h : (net.waitOrStop d : Session σ ε Bool).run.run s = .ok (r, s')) :
    log s' = log s ∧ ∃ stop, r = .ok stop := by
  cases h
  exact ⟨hlog.setExecutor _ _, _, rfl⟩

end Network

namespace Pool

variable {p : Pool σ} {log : σ → List Exchange} (hlog : p.net.Logs log)
include hlog

theorem read_log {r : Request} {s s' : σ} {res : Except NodeError r.Answer}
    (h : ((p.read r).run p.net).run.run s = .ok (res, s')) :
    ∃ new, log s' = log s ++ new ∧ (∀ x ∈ new, x.request = r) ∧
      ∀ a, res = .ok a → ∃ i, (⟨i, r, .ok a⟩ : Exchange) ∈ new := by
  rw [read, Job.run_map] at h
  obtain ⟨res₀, h₀, rfl⟩ := run_map_eq_ok h
  obtain ⟨⟨new, hnew, hall⟩, hans⟩ := readIndexed_run (hlog.keeps r) rfl p 0 h₀
  refine ⟨new, hnew, hall, fun a ha => ?_⟩
  cases res₀ with
  | error e => cases ha
  | ok ia =>
    obtain ⟨i, a'⟩ := ia
    cases ha
    obtain ⟨-, s₁, s₂, ⟨n₁, h₁, -⟩, hserve, ⟨n₂, h₂, -⟩⟩ := hans i a' rfl
    -- the answer sits between what came before it and what came after
    have hsplit : log s ++ new = log s ++ (n₁ ++ [⟨i, r, .ok a'⟩] ++ n₂) := by
      rw [← hnew, h₂, hlog.serve hserve, h₁]
      simp only [List.append_assoc]
    refine ⟨i, ?_⟩
    rw [List.append_cancel_left hsplit]
    simp

theorem read_writes {r : Request} (hr : ∀ b, r ≠ .submit b) {s s' : σ}
    {res : Except NodeError r.Answer} (h : ((p.read r).run p.net).run.run s = .ok (res, s')) :
    ∃ new, log s' = log s ++ new ∧ writesOf new = [] := by
  obtain ⟨new, hnew, hall, -⟩ := read_log hlog h
  exact ⟨new, hnew, writesOf_of_requests hr hall⟩

theorem submit_log {b : Block} {s s' : σ} {res : Except NodeError BlockId}
    (h : (p.submit b).run.run s = .ok (res, s')) : log s' = log s ++ [⟨0, .submit b, res⟩] :=
  hlog.serve h

end Pool

/-! ### Unchecked writes -/

/-- What an unchecked write asked and how it ended: reads of requests that `P` admits, and then
one write of the block it returns, answered with the identifier it returns; or, on a node's
error, at most one write, refused. -/
def WriteLog (P : Request → Prop) (new : List Exchange) : Except WalletError (BlockId × Block) → Prop
  | .ok (id, blk) => ∃ reads, new = reads ++ [⟨0, .submit blk, .ok id⟩] ∧ ∀ x ∈ reads, P x.request
  | .error e => (∃ e', e = .node e') ∧ ∃ reads, (∀ x ∈ reads, P x.request) ∧
      (new = reads ∨ ∃ blk e', new = reads ++ [⟨0, .submit blk, .error e'⟩])

namespace WriteLog

variable {P : Request → Prop} {new : List Exchange}

theorem writes_of_ok (hP : ∀ q, P q → ∀ b, q ≠ .submit b) {q : BlockId × Block}
    (h : WriteLog P new (.ok q)) : writesOf new = [(q.2, .ok q.1)] := by
  obtain ⟨reads, rfl, hall⟩ := h
  rw [writesOf_append, writesOf_eq_nil fun x hx => hP _ (hall x hx)]
  rfl

theorem node_of_error {e : WalletError} (h : WriteLog P new (.error e)) : ∃ e', e = .node e' :=
  h.1

theorem mono {Q : Request → Prop} (hPQ : ∀ q, P q → Q q) :
    ∀ {r}, WriteLog P new r → WriteLog Q new r
  | .ok _, ⟨reads, hnew, hall⟩ => ⟨reads, hnew, fun x hx => hPQ _ (hall x hx)⟩
  | .error _, ⟨hnode, reads, hall, hnew⟩ => ⟨hnode, reads, fun x hx => hPQ _ (hall x hx), hnew⟩

theorem prepend {n₀ : List Exchange} (hall₀ : ∀ x ∈ n₀, P x.request) :
    ∀ {r}, WriteLog P new r → WriteLog P (n₀ ++ new) r
  | .ok _, ⟨reads, hnew, hall⟩ => by
    refine ⟨n₀ ++ reads, by rw [hnew, List.append_assoc], fun x hx => ?_⟩
    rcases List.mem_append.mp hx with hx | hx
    · exact hall₀ x hx
    · exact hall x hx
  | .error _, ⟨hnode, reads, hall, hnew⟩ => by
    refine ⟨hnode, n₀ ++ reads, fun x hx => ?_, ?_⟩
    · rcases List.mem_append.mp hx with hx | hx
      · exact hall₀ x hx
      · exact hall x hx
    · rcases hnew with rfl | ⟨blk, e', rfl⟩
      · exact .inl rfl
      · exact .inr ⟨blk, e', by rw [List.append_assoc]⟩

end WriteLog

namespace Wallet

variable (w : Wallet σ) {log : σ → List Exchange} (hlog : w.pool.net.Logs log)
include hlog

theorem read_failed_log {P : Request → Prop} {q : Request} (hq : P q) {s s' : σ}
    {e : WalletError}
    (h : (((w.pool.read q).run w.pool.net).mapError .node).run.run s = .ok (.error e, s')) :
    ∃ new, log s' = log s ++ new ∧ WriteLog P new (.error e) := by
  obtain ⟨r₀, hr₀, hr⟩ := run_mapError_eq_ok h
  obtain ⟨new, hnew, hall, -⟩ := w.pool.read_log hlog hr₀
  cases r₀ with
  | ok _ => cases hr
  | error e' =>
    cases hr
    exact ⟨new, hnew, ⟨e', rfl⟩, new, fun x hx => (hall x hx).symm ▸ hq, .inl rfl⟩

theorem writeOnTips_log (mk : List BlockId → Block) {s s' : σ}
    {r : Except WalletError (BlockId × Block)}
    (h : (do
      let tips ← w.pool.tips.mapError .node
      let id ← (w.pool.submit (mk tips)).mapError .node
      pure (id, mk tips) : Session σ WalletError (BlockId × Block)).run.run s = .ok (r, s')) :
    ∃ new, log s' = log s ++ new ∧ WriteLog (· = .tips) new r := by
  rcases run_bind_eq_ok h with ⟨e, he, rfl⟩ | ⟨tips, s₁, htips, h⟩
  · exact w.read_failed_log hlog (P := (· = .tips)) rfl he
  obtain ⟨n₁, h₁, hall, -⟩ := w.pool.read_log hlog (run_of_mapError_ok htips)
  rcases run_bind_eq_ok h with ⟨e, he, rfl⟩ | ⟨id, s₂, hid, h⟩
  · -- the write was refused
    obtain ⟨r₀, hr₀, hr⟩ := run_mapError_eq_ok he
    have hw := w.pool.submit_log hlog hr₀
    cases r₀ with
    | ok _ => cases hr
    | error e' =>
      cases hr
      exact ⟨n₁ ++ _, log_trans h₁ hw, ⟨e', rfl⟩, n₁, hall, .inr ⟨_, e', rfl⟩⟩
  cases h
  have hw := w.pool.submit_log hlog (run_of_mapError_ok hid)
  exact ⟨n₁ ++ _, log_trans h₁ hw, n₁, rfl, hall⟩

theorem promoteUnchecked_log (b : BlockId) {s s' : σ} {r : Except WalletError (BlockId × Block)}
    (h : (w.promoteUnchecked b).run.run s = .ok (r, s')) :
    ∃ new, log s' = log s ++ new ∧ WriteLog (· = .tips) new r :=
  w.writeOnTips_log hlog _ h

theorem reattachUnchecked_log (b : BlockId) {s s' : σ}
    {r : Except WalletError (BlockId × Block)}
    (h : (w.reattachUnchecked b).run.run s = .ok (r, s')) :
    ∃ new, log s' = log s ++ new ∧ WriteLog (fun q => q = .block b ∨ q = .tips) new r := by
  unfold reattachUnchecked at h
  rcases run_bind_eq_ok h with ⟨e, he, rfl⟩ | ⟨source, s₁, hsource, h⟩
  · exact w.read_failed_log hlog (.inl rfl) he
  obtain ⟨n₁, h₁, hall₁, -⟩ := w.pool.read_log hlog (run_of_mapError_ok hsource)
  obtain ⟨n₂, h₂, hw⟩ := w.writeOnTips_log hlog _ h
  refine ⟨n₁ ++ n₂, log_trans h₁ h₂, ?_⟩
  exact (hw.mono fun _ => .inr).prepend fun x hx => .inl (hall₁ x hx)

end Wallet

/-! ### Guarded writes -/

/-- A refusal with `e`: nothing is asked after the metadata. -/
def Refused {α : Type} (e : WalletError) (rest : List Exchange) (r : Except WalletError α) :
    Prop :=
  r = .error e ∧ rest = []

/-- What a guarded write of `b` asked and how it ended: reads of the metadata of `b`, then, once
a node answered `md`, what `Decides md` allows of the rest and the result; or a node's error
with nothing asked after the reads. -/
def Guarded {α : Type} (b : BlockId)
    (Decides : BlockMetadata → List Exchange → Except WalletError α → Prop)
    (new : List Exchange) (r : Except WalletError α) : Prop :=
  ∃ reads rest, new = reads ++ rest ∧ (∀ x ∈ reads, x.request = .metadata b) ∧
    ((∃ e, r = .error (.node e) ∧ rest = []) ∨
      ∃ i md, (⟨i, .metadata b, .ok md⟩ : Exchange) ∈ reads ∧ Decides md rest r)

/-- The decision of a promotion: an included block is refused, then a conflicting one, then one
the node does not ask to promote; any other is promoted. -/
def PromoteDecides (b : BlockId) (md : BlockMetadata) (rest : List Exchange)
    (r : Except WalletError (BlockId × Block)) : Prop :=
  if md.isIncluded then Refused (.alreadyIncluded b) rest r
  else if md.isConflicting then Refused (.notPromotable b .conflicting) rest r
  else if md.isPromotable then WriteLog (· = .tips) rest r
  else Refused (.promotionUnnecessary b) rest r

/-- The decision of a reattachment: an included block is refused, then a conflicting one, then
one the node does not ask to reattach; any other is reattached. -/
def ReattachDecides (b : BlockId) (md : BlockMetadata) (rest : List Exchange)
    (r : Except WalletError (BlockId × Block)) : Prop :=
  if md.isIncluded then Refused (.notReattachable b .alreadyIncluded) rest r
  else if md.isConflicting then Refused (.notReattachable b .conflicting) rest r
  else if md.isReattachable then WriteLog (fun q => q = .block b ∨ q = .tips) rest r
  else Refused (.notReattachable b .noReattachHint) rest r

/-- The decision of a retry: an included block is refused, then a conflicting one; a block the
node asks to promote is promoted, before one it asks to reattach is reattached; any other is
refused. -/
def RetryDecides (b : BlockId) (md : BlockMetadata) (rest : List Exchange)
    (r : Except WalletError RetryOutcome) : Prop :=
  if md.isIncluded then Refused (.alreadyIncluded b) rest r
  else if md.isConflicting then Refused (.notReattachable b .conflicting) rest r
  else if md.isPromotable then
    ∃ r₀, WriteLog (· = .tips) rest r₀ ∧ r = r₀.map fun q => .promoted q.1 q.2
  else if md.isReattachable then
    ∃ r₀, WriteLog (fun q => q = .block b ∨ q = .tips) rest r₀ ∧
      r = r₀.map fun q => .reattached q.1 q.2
  else Refused (.notPromotable b .notLagging) rest r

/-- The writes a guarded write of `b` made, by its result: a guard's refusal asked for the
metadata of `b` and nothing else, so it wrote nothing and read neither tips nor blocks; a
success wrote exactly once. -/
def Counted {α : Type} (b : BlockId) (new : List Exchange) (r : Except WalletError α) : Prop :=
  (∀ e, r = .error e → e.isGuardRejection → ∀ x ∈ new, x.request = .metadata b) ∧
    ∀ a, r = .ok a → (writesOf new).length = 1

/-- What each decision allows after the metadata: a refusal, or an unchecked write whose reads
are not writes, its result passed on. -/
def RefusesOrWrites {α : Type} (rest : List Exchange) (r : Except WalletError α) : Prop :=
  (∃ e, Refused e rest r) ∨
    ∃ (P : Request → Prop) (r₀ : Except WalletError (BlockId × Block)) (f : BlockId × Block → α),
      (∀ q, P q → ∀ b, q ≠ .submit b) ∧ WriteLog P rest r₀ ∧ r = r₀.map f

theorem tips_not_submit : ∀ q, q = Request.tips → ∀ b, q ≠ .submit b := by
  rintro _ rfl b h
  cases h

theorem blockOrTips_not_submit (b : BlockId) :
    ∀ q, (q = Request.block b ∨ q = .tips) → ∀ b', q ≠ .submit b' := by
  rintro _ (rfl | rfl) b' h <;> cases h

theorem PromoteDecides.refusesOrWrites {b : BlockId} {md : BlockMetadata} {rest : List Exchange}
    {r : Except WalletError (BlockId × Block)} (h : PromoteDecides b md rest r) :
    RefusesOrWrites rest r := by
  unfold PromoteDecides at h
  split at h
  · exact .inl ⟨_, h⟩
  split at h
  · exact .inl ⟨_, h⟩
  split at h
  · exact .inr ⟨_, r, id, tips_not_submit, h, by cases r <;> rfl⟩
  · exact .inl ⟨_, h⟩

theorem ReattachDecides.refusesOrWrites {b : BlockId} {md : BlockMetadata}
    {rest : List Exchange} {r : Except WalletError (BlockId × Block)}
    (h : ReattachDecides b md rest r) : RefusesOrWrites rest r := by
  unfold ReattachDecides at h
  split at h
  · exact .inl ⟨_, h⟩
  split at h
  · exact .inl ⟨_, h⟩
  split at h
  · exact .inr ⟨_, r, id, blockOrTips_not_submit b, h, by cases r <;> rfl⟩
  · exact .inl ⟨_, h⟩

theorem RetryDecides.refusesOrWrites {b : BlockId} {md : BlockMetadata} {rest : List Exchange}
    {r : Except WalletError RetryOutcome} (h : RetryDecides b md rest r) :
    RefusesOrWrites rest r := by
  unfold RetryDecides at h
  split at h
  · exact .inl ⟨_, h⟩
  split at h
  · exact .inl ⟨_, h⟩
  split at h
  · obtain ⟨r₀, hw, hr⟩ := h
    exact .inr ⟨_, r₀, _, tips_not_submit, hw, hr⟩
  split at h
  · obtain ⟨r₀, hw, hr⟩ := h
    exact .inr ⟨_, r₀, _, blockOrTips_not_submit b, hw, hr⟩
  · exact .inl ⟨_, h⟩

theorem Guarded.counted {α : Type} {b : BlockId}
    {Decides : BlockMetadata → List Exchange → Except WalletError α → Prop}
    (hD : ∀ md rest r, Decides md rest r → RefusesOrWrites rest r) {new : List Exchange}
    {r : Except WalletError α} (h : Guarded b Decides new r) : Counted b new r := by
  obtain ⟨reads, rest, rfl, hall, hrest⟩ := h
  have hreads : writesOf reads = [] := writesOf_of_requests (r := .metadata b) (fun _ h => nomatch h) hall
  constructor
  · rintro e rfl hrej
    -- a refusal asked nothing after the metadata; a write failed only with a node's error
    have hnil : rest = [] := by
      rcases hrest with ⟨e', -, hnil⟩ | ⟨i, md, -, hdec⟩
      · exact hnil
      rcases hD md rest _ hdec with ⟨e', -, hnil⟩ | ⟨P, r₀, f, -, hw, hr⟩
      · exact hnil
      cases r₀ with
      | ok _ => cases hr
      | error e' =>
        cases hr
        obtain ⟨e'', rfl⟩ := hw.node_of_error
        cases hrej
    rw [hnil, List.append_nil]
    exact hall
  · rintro a rfl
    rcases hrest with ⟨e', he', -⟩ | ⟨i, md, -, hdec⟩
    · cases he'
    rcases hD md rest _ hdec with ⟨e', he', -⟩ | ⟨P, r₀, f, hP, hw, hr⟩
    · cases he'
    cases r₀ with
    | error _ => cases hr
    | ok q =>
      rw [writesOf_append, hreads, hw.writes_of_ok hP]
      rfl

theorem refused_of_throw {β : Type} {e : WalletError} {log : σ → List Exchange} {s s' : σ}
    {r : Except WalletError β} (h : (throw e : Session σ WalletError β).run.run s = .ok (r, s')) :
    ∃ rest, log s' = log s ++ rest ∧ Refused e rest r := by
  cases h
  exact ⟨[], (List.append_nil _).symm, rfl, rfl⟩

namespace Wallet

variable (w : Wallet σ) {log : σ → List Exchange} (hlog : w.pool.net.Logs log)
include hlog

variable {α : Type} {b : BlockId} {Decides : BlockMetadata → List Exchange → Except WalletError α → Prop}

theorem guarded_of_failed_read {s s' : σ} {e : WalletError}
    (h : ((w.pool.metadata b).mapError .node).run.run s = .ok (.error e, s')) :
    ∃ new, log s' = log s ++ new ∧ Guarded b Decides new (.error e) := by
  obtain ⟨r₀, hr₀, hr⟩ := run_mapError_eq_ok h
  obtain ⟨new, hnew, hall, -⟩ := w.pool.read_log hlog hr₀
  cases r₀ with
  | ok _ => cases hr
  | error e' =>
    cases hr
    exact ⟨new, hnew, new, [], (List.append_nil _).symm, hall, .inl ⟨e', rfl, rfl⟩⟩

theorem guarded_of_read {s s₁ s' : σ} {md : BlockMetadata} {r : Except WalletError α}
    (h : ((w.pool.metadata b).mapError WalletError.node).run.run s = .ok (.ok md, s₁))
    (hrest : ∃ rest, log s' = log s₁ ++ rest ∧ Decides md rest r) :
    ∃ new, log s' = log s ++ new ∧ Guarded b Decides new r := by
  obtain ⟨n₁, h₁, hall, hans⟩ := w.pool.read_log hlog (run_of_mapError_ok h)
  obtain ⟨i, hi⟩ := hans md rfl
  obtain ⟨rest, h₂, hD⟩ := hrest
  exact ⟨n₁ ++ rest, log_trans h₁ h₂, n₁, rest, rfl, hall, .inr ⟨i, md, hi, hD⟩⟩

theorem promote_log (b : BlockId) {s s' : σ} {r : Except WalletError (BlockId × Block)}
    (h : (w.promote b).run.run s = .ok (r, s')) :
    ∃ new, log s' = log s ++ new ∧ Guarded b (PromoteDecides b) new r := by
  unfold promote at h
  rcases run_bind_eq_ok h with ⟨e, he, rfl⟩ | ⟨md, s₁, hmd, h⟩
  · exact w.guarded_of_failed_read hlog he
  refine w.guarded_of_read hlog hmd ?_
  dsimp only at h
  unfold PromoteDecides
  split at h
  next hinc =>
    simp only [hinc, ↓reduceIte]
    exact refused_of_throw h
  next hinc =>
    split at h
    next hconf =>
      simp only [hinc, hconf, ↓reduceIte]
      exact refused_of_throw h
    next hconf =>
      split at h
      next hprom =>
        have hprom : md.isPromotable = false := by simpa using hprom
        simp only [hinc, hconf, hprom]
        exact refused_of_throw h
      next hprom =>
        have hprom : md.isPromotable = true := by simpa using hprom
        simp only [hinc, hconf, hprom, ↓reduceIte]
        exact w.promoteUnchecked_log hlog b h

theorem reattach_log (b : BlockId) {s s' : σ} {r : Except WalletError (BlockId × Block)}
    (h : (w.reattach b).run.run s = .ok (r, s')) :
    ∃ new, log s' = log s ++ new ∧ Guarded b (ReattachDecides b) new r := by
  unfold reattach at h
  rcases run_bind_eq_ok h with ⟨e, he, rfl⟩ | ⟨md, s₁, hmd, h⟩
  · exact w.guarded_of_failed_read hlog he
  refine w.guarded_of_read hlog hmd ?_
  dsimp only at h
  unfold ReattachDecides
  split at h
  next hinc =>
    simp only [hinc, ↓reduceIte]
    exact refused_of_throw h
  next hinc =>
    split at h
    next hconf =>
      simp only [hinc, hconf, ↓reduceIte]
      exact refused_of_throw h
    next hconf =>
      split at h
      next hre =>
        have hre : md.isReattachable = false := by simpa using hre
        simp only [hinc, hconf, hre]
        exact refused_of_throw h
      next hre =>
        have hre : md.isReattachable = true := by simpa using hre
        simp only [hinc, hconf, hre, ↓reduceIte]
        exact w.reattachUnchecked_log hlog b h

theorem retry_log (b : BlockId) {s s' : σ} {r : Except WalletError RetryOutcome}
    (h : (w.retry b).run.run s = .ok (r, s')) :
    ∃ new, log s' = log s ++ new ∧ Guarded b (RetryDecides b) new r := by
  unfold retry at h
  rcases run_bind_eq_ok h with ⟨e, he, rfl⟩ | ⟨md, s₁, hmd, h⟩
  · exact w.guarded_of_failed_read hlog he
  refine w.guarded_of_read hlog hmd ?_
  dsimp only at h
  unfold RetryDecides
  split at h
  next hinc =>
    simp only [hinc, ↓reduceIte]
    exact refused_of_throw h
  next hinc =>
    split at h
    next hconf =>
      simp only [hinc, hconf, ↓reduceIte]
      exact refused_of_throw h
    next hconf =>
      split at h
      next hprom =>
        simp only [hinc, hconf, hprom, ↓reduceIte]
        obtain ⟨r₀, h₀, rfl⟩ := run_map_eq_ok h
        obtain ⟨rest, hrest, hw⟩ := w.promoteUnchecked_log hlog b h₀
        exact ⟨rest, hrest, r₀, hw, rfl⟩
      next hprom =>
        split at h
        next hre =>
          simp only [hinc, hconf, hprom, hre, ↓reduceIte]
          obtain ⟨r₀, h₀, rfl⟩ := run_map_eq_ok h
          obtain ⟨rest, hrest, hw⟩ := w.reattachUnchecked_log hlog b h₀
          exact ⟨rest, hrest, r₀, hw, rfl⟩
        next hre =>
          simp only [hinc, hconf, hprom, hre]
          exact refused_of_throw h

end Wallet

/-! ### Writes of the confirmation loop -/

namespace AttemptAction

/-- The block an attempt wrote, by the identifier the node gave it. -/
def written? : AttemptAction → Option BlockId
  | .promoted id | .reattached id => some id
  | _ => none

end AttemptAction

/-- The blocks the attempts wrote, in order. -/
def writtenIds (rs : List AttemptRecord) : List BlockId :=
  rs.filterMap (·.action.written?)

@[simp] theorem writtenIds_nil : writtenIds [] = [] := rfl

@[simp] theorem writtenIds_append (rs rs' : List AttemptRecord) :
    writtenIds (rs ++ rs') = writtenIds rs ++ writtenIds rs' :=
  List.filterMap_append

/-- The records that take `p` to `p'` account for the writes among `new`: one accepted write
per promotion or reattachment they record, in order, and no other write. -/
def Recorded (p p' : Progress) (new : List Exchange) : Prop :=
  ∃ rs, p'.records = p.records ++ rs ∧ (writesOf new).map Prod.snd = (writtenIds rs).map .ok

/-- How the writes of the loop from `p` are accounted for by the progress it ends with; the
loop fails only with a node's error, and then accounts for nothing. -/
def LoopLog (p : Progress) (new : List Exchange) : Except LoopExit Progress → Prop
  | .ok p' | .error (.included _ p') | .error (.cancelled p') => Recorded p p' new
  | .error (.failed e) => ∃ e', e = .node e'

theorem recorded_self (p : Progress) {new : List Exchange} (h : writesOf new = []) :
    Recorded p p new :=
  ⟨[], (List.append_nil _).symm, by rw [h]; rfl⟩

theorem recorded_record {p p' : Progress} {new : List Exchange} {k : Nat} {a : AttemptAction}
    (hp' : p'.records = p.records ++ [⟨k, p.latest, a⟩])
    (hw : (writesOf new).map Prod.snd = a.written?.toList.map .ok) : Recorded p p' new := by
  refine ⟨_, hp', ?_⟩
  rw [hw]
  cases h : a.written? <;> simp [writtenIds, h]

theorem Recorded.append {p₁ p₂ p₃ : Progress} {n₁ n₂ : List Exchange}
    (h₁ : Recorded p₁ p₂ n₁) (h₂ : Recorded p₂ p₃ n₂) : Recorded p₁ p₃ (n₁ ++ n₂) := by
  obtain ⟨rs₁, hp₂, hw₁⟩ := h₁
  obtain ⟨rs₂, hp₃, hw₂⟩ := h₂
  refine ⟨rs₁ ++ rs₂, by rw [hp₃, hp₂, List.append_assoc], ?_⟩
  simp only [writesOf_append, writtenIds_append, List.map_append, hw₁, hw₂]

theorem LoopLog.after {p₁ p₂ : Progress} {n₁ n₂ : List Exchange} (h₁ : Recorded p₁ p₂ n₁) :
    ∀ {r}, LoopLog p₂ n₂ r → LoopLog p₁ (n₁ ++ n₂) r
  | .ok _, h | .error (.included _ _), h | .error (.cancelled _), h => h₁.append h
  | .error (.failed _), h => h

theorem LoopLog.after_reads {p : Progress} {n₁ n₂ : List Exchange} (hw : writesOf n₁ = [])
    {r : Except LoopExit Progress} (h : LoopLog p n₂ r) : LoopLog p (n₁ ++ n₂) r :=
  LoopLog.after (recorded_self p hw) h

/-- The writes of the confirmation loop, by how it ended: when it found an inclusion, ran out of
attempts or was cancelled, one accepted write per promotion or reattachment among the attempts
it reports, in order, and no other. -/
def LoopWrites (new : List Exchange) : Except WalletError Confirmation → Prop
  | .ok c => (writesOf new).map Prod.snd = (writtenIds c.attempts).map .ok
  | .error (.notIncluded _ rs) | .error (.cancelled _ rs) =>
    (writesOf new).map Prod.snd = (writtenIds rs).map .ok
  | .error _ => True

theorem Recorded.from_start {b : BlockId} {p : Progress} {new : List Exchange}
    (h : Recorded ⟨[b], [], [], b⟩ p new) :
    (writesOf new).map Prod.snd = (writtenIds p.records).map .ok := by
  obtain ⟨rs, hp, hw⟩ := h
  rw [hp]
  exact hw

theorem Wallet.loopWrite_log {log : σ → List Exchange} {P : Request → Prop} (hP : ∀ q, P q → ∀ b, q ≠ .submit b)
    {x : Session σ WalletError (BlockId × Block)}
    (hx : ∀ {s s' r}, x.run.run s = .ok (r, s') → ∃ new, log s' = log s ++ new ∧ WriteLog P new r)
    {p : Progress} {k : Nat} {g : BlockId × Block → Session σ LoopExit Progress}
    (hg : ∀ id blk, ∃ p' a, g (id, blk) = pure p' ∧ a.written? = some id ∧
      p'.records = p.records ++ [⟨k, p.latest, a⟩])
    {s s' : σ} {r : Except LoopExit Progress} (h : (loopRun x >>= g).run.run s = .ok (r, s')) :
    ∃ new, log s' = log s ++ new ∧ LoopLog p new r := by
  rcases run_bind_eq_ok h with ⟨e, he, rfl⟩ | ⟨⟨id, blk⟩, s₁, hq, h⟩
  · obtain ⟨r₀, h₀, hr₀⟩ := run_mapError_eq_ok he
    obtain ⟨new, hnew, hwl⟩ := hx h₀
    cases r₀ with
    | ok _ => cases hr₀
    | error _ =>
      cases hr₀
      exact ⟨new, hnew, hwl.node_of_error⟩
  obtain ⟨p', a, hgp, ha, hrec⟩ := hg id blk
  rw [hgp] at h
  cases h
  obtain ⟨new, hnew, hwl⟩ := hx (run_of_mapError_ok hq)
  refine ⟨new, hnew, recorded_record hrec ?_⟩
  rw [hwl.writes_of_ok hP, ha]
  rfl

namespace Wallet

variable (w : Wallet σ) {log : σ → List Exchange} (hlog : w.pool.net.Logs log)
include hlog

theorem loopAsk_read_writes {q : Request} {s s' : σ} {r : Except LoopExit q.Answer}
    (h : (loopAsk ((w.pool.read q).run w.pool.net)).run.run s = .ok (r, s'))
    (hq : ∀ b, q ≠ .submit b) :
    ∃ new, log s' = log s ++ new ∧ writesOf new = [] := by
  obtain ⟨r₀, hr₀, -⟩ := run_mapError_eq_ok h
  exact w.pool.read_writes hlog hq hr₀

theorem attachmentBlock_writes (p : Progress) (a : BlockId) {s s' : σ}
    {r : Except LoopExit (BlockId × Block)} (h : (w.attachmentBlock p a).run.run s = .ok (r, s')) :
    ∃ new, log s' = log s ++ new ∧ writesOf new = [] := by
  unfold attachmentBlock at h
  split at h
  next =>
    cases h
    exact ⟨[], (List.append_nil _).symm, rfl⟩
  next =>
    rcases run_bind_eq_ok h with ⟨e, he, rfl⟩ | ⟨blk, s₁, hblk, h⟩
    · exact w.loopAsk_read_writes hlog he fun _ h => nomatch h
    cases h
    exact w.loopAsk_read_writes hlog hblk fun _ h => nomatch h

theorem scan_writes (k : Nat) (p : Progress) :
    ∀ (as : List BlockId) (c : Bool) (last : Option BlockMetadata) {s s' : σ}
      {r : Except LoopExit (Bool × Option BlockMetadata)},
      (w.scan k p as c last).run.run s = .ok (r, s') →
      ∃ new, log s' = log s ++ new ∧ writesOf new = []
  | [], _, _, _, _, _, h => by
    cases h
    exact ⟨[], (List.append_nil _).symm, rfl⟩
  | a :: rest, c, _, s, s', r, h => by
    rw [scan] at h
    rcases run_bind_eq_ok h with ⟨e, he, rfl⟩ | ⟨md, s₁, hmd, h⟩
    · exact w.loopAsk_read_writes hlog he fun _ h => Request.noConfusion h
    obtain ⟨n₁, h₁, hw₁⟩ := w.loopAsk_read_writes hlog hmd fun _ h => Request.noConfusion h
    obtain ⟨n₂, h₂, hw₂⟩ : ∃ n₂, log s' = log s₁ ++ n₂ ∧ writesOf n₂ = [] := by
      split at h
      next =>
        rcases run_bind_eq_ok h with ⟨e, he, rfl⟩ | ⟨found, s₂, hfound, h⟩
        · exact w.attachmentBlock_writes hlog p a he
        cases h
        exact w.attachmentBlock_writes hlog p a hfound
      next => exact scan_writes k p rest _ _ h
    exact ⟨n₁ ++ n₂, log_trans h₁ h₂, by rw [writesOf_append, hw₁, hw₂]; rfl⟩

theorem attempt_log (initial : BlockId) (k : Nat) (p : Progress) {s s' : σ}
    {r : Except LoopExit Progress} (h : (w.attempt initial k p).run.run s = .ok (r, s')) :
    ∃ new, log s' = log s ++ new ∧ LoopLog p new r := by
  unfold attempt at h
  rcases run_bind_eq_ok h with ⟨e, hscan, rfl⟩ | ⟨⟨conflicting, last⟩, s₁, hscan, h⟩
  · -- the scan stopped the attempt, with an inclusion it records or a failure
    obtain ⟨new, hnew, hw⟩ := w.scan_writes hlog k p _ _ _ hscan
    refine ⟨new, hnew, ?_⟩
    have hstop := w.scan_always k p _ _ _ s _ s' hscan
    cases e with
    | included q p' =>
      cases hstop
      exact recorded_record rfl (by rw [hw]; rfl)
    | cancelled _ => exact hstop.elim
    | failed _ => exact hstop
  obtain ⟨n₁, h₁, hw₁⟩ := w.scan_writes hlog k p _ _ _ hscan
  dsimp -zeta only at h
  extract_lets lagging act at h
  -- the promotion step, from wherever the attempt got to
  have hact : ∀ u {s₂ r s'}, (act u).run.run s₂ = .ok (r, s') →
      ∃ new, log s' = log s₂ ++ new ∧ LoopLog p new r := by
    intro u s₂ r s' hj
    simp only [act] at hj
    cases last with
    | none =>
      cases hj
      exact ⟨[], (List.append_nil _).symm, recorded_record rfl rfl⟩
    | some md =>
      dsimp only at hj
      split at hj
      · exact loopWrite_log tips_not_submit (w.promoteUnchecked_log hlog _)
          (fun id _ => ⟨_, .promoted id, rfl, rfl, rfl⟩) hj
      · split at hj
        · exact loopWrite_log (blockOrTips_not_submit _) (w.reattachUnchecked_log hlog _)
            (fun id _ => ⟨_, .reattached id, rfl, rfl, rfl⟩) hj
        · cases hj
          exact ⟨[], (List.append_nil _).symm, recorded_record rfl rfl⟩
  obtain ⟨n₂, h₂, hlog₂⟩ : ∃ n₂, log s' = log s₁ ++ n₂ ∧ LoopLog p n₂ r := by
    split at h
    next hconf =>
      -- a conflicting attachment: the transaction of the first block is looked up
      rcases run_bind_eq_ok h with ⟨e, he, rfl⟩ | ⟨first, s₂, hfirst, h⟩
      · obtain ⟨new, hnew, -⟩ := w.loopAsk_read_writes hlog he fun _ h => nomatch h
        obtain ⟨e', rfl⟩ := loopAsk_error he
        exact ⟨new, hnew, e', rfl⟩
      obtain ⟨n₃, h₃, hw₃⟩ := w.loopAsk_read_writes hlog hfirst fun _ h => nomatch h
      obtain ⟨n₄, h₄, hlog₄⟩ : ∃ n₄, log s' = log s₂ ++ n₄ ∧ LoopLog p n₄ r := by
        split at h
        next tx htx =>
          rcases run_bind_eq_ok h with ⟨e, he, rfl⟩ | ⟨blk, s₃, hblk, h⟩
          · obtain ⟨new, hnew, -⟩ := w.loopAsk_read_writes hlog he fun _ h => nomatch h
            obtain ⟨e', rfl⟩ := loopAsk_error he
            exact ⟨new, hnew, e', rfl⟩
          obtain ⟨new, hnew, hw⟩ := w.loopAsk_read_writes hlog hblk fun _ h => nomatch h
          rcases run_bind_eq_ok h with ⟨e, he, rfl⟩ | ⟨_, _, hthrow, -⟩
          · cases he
            exact ⟨new, hnew, recorded_record rfl (by rw [hw]; rfl)⟩
          · cases hthrow
        next => exact hact () h
      exact ⟨n₃ ++ n₄, log_trans h₃ h₄, hlog₄.after_reads hw₃⟩
    next => exact hact () h
  exact ⟨n₁ ++ n₂, log_trans h₁ h₂, hlog₂.after_reads hw₁⟩

theorem attempts_log (initial : BlockId) (interval : Nat) :
    ∀ (left k : Nat) (p : Progress) {s s' : σ} {r : Except LoopExit Progress},
      (w.attempts initial interval k left p).run.run s = .ok (r, s') →
      ∃ new, log s' = log s ++ new ∧ LoopLog p new r
  | 0, k, p, s, s', r, h => by
    rw [attempts] at h
    cases h
    exact ⟨[], (List.append_nil _).symm, recorded_self p rfl⟩
  | left + 1, k, p, s, s', r, h => by
    rw [attempts, run_bind_ok _ (w.pool.net.run_isStopped s)] at h
    dsimp only at h
    split at h
    · -- cancelled before the attempt
      cases h
      exact ⟨[], (List.append_nil _).symm, recorded_self p rfl⟩
    rcases run_bind_eq_ok h with ⟨e, he, rfl⟩ | ⟨p₁, s₁, h₁, h⟩
    · exact w.attempt_log hlog initial k p he
    obtain ⟨n₁, hn₁, hl₁⟩ := w.attempt_log hlog initial k p h₁
    obtain ⟨n₂, hn₂, hl₂⟩ : ∃ n₂, log s' = log s₁ ++ n₂ ∧ LoopLog p₁ n₂ r := by
      split at h
      · rcases run_bind_eq_ok h with ⟨e, he, rfl⟩ | ⟨stop, s₂, hwait, h⟩
        · obtain ⟨-, _, hstop⟩ := hlog.waitOrStop interval he
          cases hstop
        have hs₂ := (hlog.waitOrStop interval hwait).1
        split at h
        · -- cancelled while waiting
          cases h
          exact ⟨[], by rw [hs₂, List.append_nil], recorded_self p₁ rfl⟩
        obtain ⟨n, hn, hl⟩ := attempts_log initial interval left (k + 1) p₁ h
        exact ⟨n, by rw [hn, hs₂], hl⟩
      · exact attempts_log initial interval left (k + 1) p₁ h
    exact ⟨n₁ ++ n₂, log_trans hn₁ hn₂, hl₂.after hl₁⟩

theorem retryUntilIncluded_log (b : BlockId) (interval m : Nat) {s s' : σ}
    {r : Except WalletError Confirmation}
    (h : (w.retryUntilIncluded b interval m).run.run s = .ok (r, s')) :
    ∃ new, log s' = log s ++ new ∧ LoopWrites new r := by
  unfold retryUntilIncluded at h
  rcases run_bind_eq_ok h with ⟨e, he, rfl⟩ | ⟨res, s₁, hres, h⟩
  · obtain ⟨r₀, -, hr₀⟩ := run_result_eq_ok he
    cases hr₀
  obtain ⟨r₀, h₀, hr₀⟩ := run_result_eq_ok hres
  cases hr₀
  obtain ⟨new, hnew, hl⟩ := w.attempts_log hlog b interval m 1 _ h₀
  rcases res with (⟨q, p⟩ | p | e) | p
  · -- an inclusion
    cases h
    exact ⟨new, hnew, hl.from_start⟩
  · -- cancelled
    cases h
    exact ⟨new, hnew, hl.from_start⟩
  · -- a node's error
    obtain ⟨e', rfl⟩ := hl
    cases h
    exact ⟨new, hnew, trivial⟩
  · -- every attempt spent
    cases h
    exact ⟨new, hnew, hl.from_start⟩

end Wallet

/-! ### The writes of the confirmation driver -/

/-- A run from `s` to `s'` with `r` added to the log exchanges that `Spec` allows with `r`. -/
def Logged {ε α : Type} (log : σ → List Exchange) (Spec : List Exchange → Except ε α → Prop)
    (s : σ) (r : Except ε α) (s' : σ) : Prop :=
  ∃ new, log s' = log s ++ new ∧ Spec new r

theorem Guarded.ends {α : Type} {x : Session σ WalletError α} {log : σ → List Exchange}
    {b : BlockId} {Decides : BlockMetadata → List Exchange → Except WalletError α → Prop}
    (hD : ∀ md rest r, Decides md rest r → RefusesOrWrites rest r)
    (hx : x.Ends (Logged log (Guarded b Decides))) :
    x.Ends (Logged log fun new r => Guarded b Decides new r ∧ Counted b new r) := by
  intro s r s' h
  obtain ⟨new, hnew, hg⟩ := hx s r s' h
  exact ⟨new, hnew, hg, hg.counted hD⟩

/-- The writes of the confirmation driver, for every pool and block. A guarded promotion,
reattachment or retry reads the metadata of the block, and once a node answers it decides in
order: an included block is refused, then a conflicting one, and a retry promotes before it
reattaches. A guard's refusal asks for nothing but that metadata, so it writes no block and
reads neither tips nor blocks; a success writes exactly one block. The confirmation loop, when
it finds an inclusion, runs out of attempts or is cancelled, has written exactly one block per
promotion or reattachment it reports, each accepted under the identifier it records, in order,
and no other. -/
theorem confirmation_writes (w : Wallet σ) {log : σ → List Exchange} (hlog : w.pool.net.Logs log)
    (b : BlockId) :
    (w.promote b).Ends
        (Logged log fun new r => Guarded b (PromoteDecides b) new r ∧ Counted b new r) ∧
      (w.reattach b).Ends
        (Logged log fun new r => Guarded b (ReattachDecides b) new r ∧ Counted b new r) ∧
      (w.retry b).Ends
        (Logged log fun new r => Guarded b (RetryDecides b) new r ∧ Counted b new r) ∧
      ∀ interval m, (w.retryUntilIncluded b interval m).Ends (Logged log LoopWrites) :=
  ⟨Guarded.ends (fun _ _ _ => PromoteDecides.refusesOrWrites) fun _ _ _ => w.promote_log hlog b,
    Guarded.ends (fun _ _ _ => ReattachDecides.refusesOrWrites) fun _ _ _ => w.reattach_log hlog b,
    Guarded.ends (fun _ _ _ => RetryDecides.refusesOrWrites) fun _ _ _ => w.retry_log hlog b,
    fun interval m _ _ _ => w.retryUntilIncluded_log hlog b interval m⟩

/-- One node that asks for every block to be promoted, has the genesis block as its only tip
and accepts every write. -/
def promotingNode : Network Unit where
  size := 1
  serve _ r s := match r with
    | .metadata b => .ok (.ok { blockId := b, parents := [], shouldPromote := some true }, s)
    | .tips => .ok (.ok [Block.genesis.id], s)
    | .submit _ => .ok (.ok Block.genesis.id, s)
    | _ => .ok (.error .noNodes, s)
  executor _ := {}
  setExecutor _ s := s

/-- The wallet over `promotingNode`, its exchanges kept beside its state. -/
def promotingWallet : Wallet (Unit × List Exchange) := ⟨⟨promotingNode.logged, {}⟩, {}⟩

theorem promotingWallet_writes :
    promotingWallet.pool.net.Logs Prod.snd ∧
      (promotingWallet.promote Block.genesis.id).Ends (Logged Prod.snd fun new r =>
        Guarded Block.genesis.id (PromoteDecides Block.genesis.id) new r ∧
          Counted Block.genesis.id new r) ∧
      (promotingWallet.reattach Block.genesis.id).Ends (Logged Prod.snd fun new r =>
        Guarded Block.genesis.id (ReattachDecides Block.genesis.id) new r ∧
          Counted Block.genesis.id new r) ∧
      (promotingWallet.retry Block.genesis.id).Ends (Logged Prod.snd fun new r =>
        Guarded Block.genesis.id (RetryDecides Block.genesis.id) new r ∧
          Counted Block.genesis.id new r) ∧
      ∀ interval m, (promotingWallet.retryUntilIncluded Block.genesis.id interval m).Ends
        (Logged Prod.snd LoopWrites) :=
  ⟨Network.logs_logged promotingNode,
    confirmation_writes promotingWallet (Network.logs_logged promotingNode) Block.genesis.id⟩

end DagWallet
