import Mathlib
import DagWallet.Node.Job

/-!
Courses of a job. A job is a tree of requests, waits and outcomes; whoever answers its
requests picks one path through it. A course records that path for a job that asks one kind
of request: the nodes it asks, in order, each with the answer it got, and what the job ends
with, a fault standing for the end of everything. Any answers at all may come back, so a
statement about every course of a job is a statement about every behaviour of the nodes.
-/

namespace DagWallet

namespace Job

variable {ε α β : Type} (r : Request)

/-- The asks of a course, each with the node asked and its answer. -/
abbrev Asks (r : Request) := List (Nat × Except NodeError r.Answer)

/-- A course of a job whose requests are all `r`. -/
inductive Course : Job ε α → Asks r → Except Fault (Except ε α) → Prop
  | done (res : Except ε α) : Course (.done res) [] (.ok res)
  | halt (x : Fault) : Course (.halt x) [] (.error x)
  | wait {d : Nat} {j : Job ε α} {t : Asks r} {o : Except Fault (Except ε α)} :
    Course j t o → Course (.wait d j) t o
  | ask {i : Nat} {k : Except NodeError r.Answer → Job ε α} (x : Except NodeError r.Answer)
    {t : Asks r} {o : Except Fault (Except ε α)} :
    Course (k x) t o → Course (.ask i r k) ((i, x) :: t) o

variable {r} {t : Asks r} {o : Except Fault (Except ε α)}

@[simp] theorem course_done {res : Except ε α} : Course r (.done res) t o ↔ t = [] ∧ o = .ok res := by
  constructor
  · rintro ⟨⟩
    exact ⟨rfl, rfl⟩
  · rintro ⟨rfl, rfl⟩
    exact .done res

@[simp] theorem course_halt {x : Fault} :
    Course r (.halt x : Job ε α) t o ↔ t = [] ∧ o = .error x := by
  constructor
  · rintro ⟨⟩
    exact ⟨rfl, rfl⟩
  · rintro ⟨rfl, rfl⟩
    exact .halt x

@[simp] theorem course_wait {d : Nat} {j : Job ε α} : Course r (.wait d j) t o ↔ Course r j t o :=
  ⟨fun h => by cases h; assumption, .wait⟩

@[simp] theorem course_ask {i : Nat} {k : Except NodeError r.Answer → Job ε α} :
    Course r (.ask i r k) t o ↔ ∃ x t', t = (i, x) :: t' ∧ Course r (k x) t' o := by
  constructor
  · rintro ⟨⟩
    exact ⟨_, _, rfl, ‹_›⟩
  · rintro ⟨x, t', rfl, h⟩
    exact .ask x h

/-- What a bound job does once its first part ended with `o₁`: go on to `f` with a value, or
end as the first part did. -/
def BindNext (r : Request) (f : α → Job ε β) : Except Fault (Except ε α) → Asks r →
    Except Fault (Except ε β) → Prop
  | .ok (.ok a), t, o => Course r (f a) t o
  | .ok (.error e), t, o => t = [] ∧ o = .ok (.error e)
  | .error x, t, o => t = [] ∧ o = .error x

/-- What a guarded job does once its first part ended with `o₁`: hand an error to `h`, or end
as the first part did. -/
def CatchNext (r : Request) (h : ε → Job ε α) : Except Fault (Except ε α) → Asks r →
    Except Fault (Except ε α) → Prop
  | .ok (.error e), t, o => Course r (h e) t o
  | .ok (.ok a), t, o => t = [] ∧ o = .ok (.ok a)
  | .error x, t, o => t = [] ∧ o = .error x

theorem course_bind {j : Job ε α} {f : α → Job ε β} {t : Asks r} {o : Except Fault (Except ε β)} :
    Course r (j.bind f) t o ↔ ∃ t₁ t₂ o₁, t = t₁ ++ t₂ ∧ Course r j t₁ o₁ ∧ BindNext r f o₁ t₂ o := by
  induction j generalizing t with
  | done res =>
    cases res with
    | ok a => exact ⟨fun h => ⟨[], t, _, rfl, .done _, h⟩, fun ⟨t₁, t₂, o₁, ht, h₁, h₂⟩ => by
        obtain ⟨rfl, rfl⟩ := course_done.1 h₁
        exact ht ▸ h₂⟩
    | error e =>
      change Course r (.done (.error e)) t o ↔ _
      refine ⟨fun h => ?_, ?_⟩
      · obtain ⟨rfl, rfl⟩ := course_done.1 h
        exact ⟨[], [], _, rfl, .done _, rfl, rfl⟩
      rintro ⟨t₁, t₂, o₁, rfl, h₁, h₂⟩
      obtain ⟨rfl, rfl⟩ := course_done.1 h₁
      obtain ⟨rfl, rfl⟩ := h₂
      exact .done _
  | halt x =>
    change Course r (.halt x) t o ↔ _
    refine ⟨fun h => ?_, ?_⟩
    · obtain ⟨rfl, rfl⟩ := course_halt.1 h
      exact ⟨[], [], _, rfl, .halt _, rfl, rfl⟩
    rintro ⟨t₁, t₂, o₁, rfl, h₁, h₂⟩
    obtain ⟨rfl, rfl⟩ := course_halt.1 h₁
    obtain ⟨rfl, rfl⟩ := h₂
    exact .halt _
  | wait d j ih =>
    show Course r (.wait d (j.bind f)) t o ↔ _
    simp only [course_wait, ih]
  | ask i r' k ih =>
    show Course r (.ask i r' fun x => (k x).bind f) t o ↔ _
    constructor
    · intro h
      cases h with
      | ask x h =>
        obtain ⟨t₁, t₂, o₁, rfl, h₁, h₂⟩ := (ih x).1 h
        exact ⟨_, t₂, o₁, rfl, .ask x h₁, h₂⟩
    · rintro ⟨t₁, t₂, o₁, rfl, h₁, h₂⟩
      cases h₁ with
      | ask x h₁ => exact .ask x ((ih x).2 ⟨_, t₂, o₁, rfl, h₁, h₂⟩)

theorem course_tryCatch {j : Job ε α} {h : ε → Job ε α} :
    Course r (j.tryCatch h) t o ↔ ∃ t₁ t₂ o₁, t = t₁ ++ t₂ ∧ Course r j t₁ o₁ ∧ CatchNext r h o₁ t₂ o := by
  induction j generalizing t with
  | done res =>
    cases res with
    | error e => exact ⟨fun hc => ⟨[], t, _, rfl, .done _, hc⟩, fun ⟨t₁, t₂, o₁, ht, h₁, h₂⟩ => by
        obtain ⟨rfl, rfl⟩ := course_done.1 h₁
        exact ht ▸ h₂⟩
    | ok a =>
      change Course r (.done (.ok a)) t o ↔ _
      refine ⟨fun hc => ?_, ?_⟩
      · obtain ⟨rfl, rfl⟩ := course_done.1 hc
        exact ⟨[], [], _, rfl, .done _, rfl, rfl⟩
      rintro ⟨t₁, t₂, o₁, rfl, h₁, h₂⟩
      obtain ⟨rfl, rfl⟩ := course_done.1 h₁
      obtain ⟨rfl, rfl⟩ := h₂
      exact .done _
  | halt x =>
    change Course r (.halt x) t o ↔ _
    refine ⟨fun hc => ?_, ?_⟩
    · obtain ⟨rfl, rfl⟩ := course_halt.1 hc
      exact ⟨[], [], _, rfl, .halt _, rfl, rfl⟩
    rintro ⟨t₁, t₂, o₁, rfl, h₁, h₂⟩
    obtain ⟨rfl, rfl⟩ := course_halt.1 h₁
    obtain ⟨rfl, rfl⟩ := h₂
    exact .halt _
  | wait d j ih =>
    show Course r (.wait d (j.tryCatch h)) t o ↔ _
    simp only [course_wait, ih]
  | ask i r' k ih =>
    show Course r (.ask i r' fun x => (k x).tryCatch h) t o ↔ _
    constructor
    · intro hc
      cases hc with
      | ask x hc =>
        obtain ⟨t₁, t₂, o₁, rfl, h₁, h₂⟩ := (ih x).1 hc
        exact ⟨_, t₂, o₁, rfl, .ask x h₁, h₂⟩
    · rintro ⟨t₁, t₂, o₁, rfl, h₁, h₂⟩
      cases h₁ with
      | ask x h₁ => exact .ask x ((ih x).2 ⟨_, t₂, o₁, rfl, h₁, h₂⟩)

/-- The guarded job of the monad's notation is the job's own. -/
@[simp] theorem monad_tryCatch {j : Job ε α} {h : ε → Job ε α} :
    (MonadExcept.tryCatch j h : Job ε α) = j.tryCatch h := rfl

theorem course_map {j : Job ε α} {g : α → β} {o : Except Fault (Except ε β)} :
    Course r (g <$> j) t o ↔ ∃ o₀, Course r j t o₀ ∧ o = o₀.map (·.map g) := by
  show Course r (j.bind fun a => .done (.ok (g a))) t o ↔ _
  rw [course_bind]
  constructor
  · rintro ⟨t₁, t₂, o₁, rfl, h₁, h₂⟩
    refine ⟨o₁, ?_⟩
    rcases o₁ with x | e | a
    · obtain ⟨rfl, rfl⟩ := h₂
      exact ⟨by simpa using h₁, rfl⟩
    · obtain ⟨rfl, rfl⟩ := h₂
      exact ⟨by simpa using h₁, rfl⟩
    · obtain ⟨rfl, rfl⟩ := course_done.1 h₂
      exact ⟨by simpa using h₁, rfl⟩
  · rintro ⟨o₀, h₀, rfl⟩
    refine ⟨t, [], o₀, by simp, h₀, ?_⟩
    match o₀ with
    | .ok (.ok a) => exact .done _
    | .ok (.error e) => exact ⟨rfl, rfl⟩
    | .error x => exact ⟨rfl, rfl⟩

@[simp] theorem course_ofFault_bind {x : Except Fault α} {f : α → Job ε β}
    {o : Except Fault (Except ε β)} :
    Course r (Job.ofFault x >>= f) t o ↔ match x with
      | .ok a => Course r (f a) t o
      | .error e => t = [] ∧ o = .error e := by
  cases x with
  | ok a => rfl
  | error e => exact course_halt

end Job

end DagWallet
