import Mathlib.Data.Nat.Init
import Mathlib.Logic.Function.Basic
import Mathlib.Order.Nat
import OpPolicy.Package.Cache

set_option autoImplicit false

/-!
Many reads of one cache at a time. Each step is one access to a shared cell, or the beginning or
the end of a listing, and a run is any order of steps: of any number of reads, of invalidations, and
of inventories that are offered. An acquisition of the rebuild lock waits until the lock is free.
Whatever a listing comes to is possible.

A statement about every read is shown by what its own steps do to it and what the steps of
everybody else leave of it (`Run.reads_induction`).
-/

namespace OpPolicy

/-- The cache with an inventory bound, unless one was bound before. -/
def Cache.offer {ι : Type} (c : Cache ι) (i : ι) : Cache ι :=
  { c with bound := c.bound.or (some i) }

theorem Cache.offer_of_bound {ι : Type} {c : Cache ι} {i j : ι} (h : c.bound = some j) :
    c.offer i = c := by
  unfold offer
  rw [h, Option.some_or, ← h]

theorem Cache.play_start_value {ι σ : Type} (c : Cache ι) (i : ι)
    (answer : ι → σ → Listing.Report × σ) (w : σ) :
    ((c.start i).play answer w).value = c.offer i := by
  cases h : c.bound with
  | none => simp [start, offer, h, Dialogue.play]
  | some j => simp [start, offer_of_bound h, h, Dialogue.play]

/-- The cache and where each read of it stands. `ρ` names reads, one name for each call. -/
structure Shared (ρ ι : Type) where
  cache : Cache ι := {}
  reads : ρ → Option (Point ι) := fun _ => none

inductive Event (ρ ι : Type) where
  | idle
  | start (i : ι)
  | invalidate
  | enter (r : ρ)
  /-- A read takes its next step, from where it stands. -/
  | step (r : ρ) (p : Point ι)
  | report (r : ρ) (i : ι) (generation : Nat) (outcome : Except Error (List App))

def Event.reader? {ρ ι : Type} : Event ρ ι → Option ρ
  | enter r | step r _ | report r _ _ _ => some r
  | _ => none

theorem Event.reader?_eq_some {ρ ι : Type} {e : Event ρ ι} {r : ρ} (h : e.reader? = some r) :
    e = .enter r ∨ (∃ p, e = .step r p) ∨ ∃ i g o, e = .report r i g o := by
  cases e with
  | idle | start | invalidate => simp [reader?] at h
  | enter q =>
    obtain rfl : q = r := by simpa [reader?] using h
    exact .inl rfl
  | step q p =>
    obtain rfl : q = r := by simpa [reader?] using h
    exact .inr (.inl ⟨p, rfl⟩)
  | report q i g o =>
    obtain rfl : q = r := by simpa [reader?] using h
    exact .inr (.inr ⟨i, g, o, rfl⟩)

namespace Shared
variable {ρ ι : Type}

def Allows (s : Shared ρ ι) : Event ρ ι → Prop
  | .enter r => s.reads r = none
  | .step r p =>
    s.reads r = some p ∧ p.status = .runs ∧ ∀ seen, p = .waiting seen → s.cache.held = false
  | .report r i g _ => s.reads r = some (.listing i g)
  | _ => True

variable [DecidableEq ρ]

def put (s : Shared ρ ι) (r : ρ) (p : Point ι) : Shared ρ ι :=
  { s with reads := Function.update s.reads r (some p) }

def after (s : Shared ρ ι) : Event ρ ι → Shared ρ ι
  | .idle => s
  | .start i => { s with cache := s.cache.offer i }
  | .invalidate => { s with cache := s.cache.invalidate }
  | .enter r => s.put r .entered
  | .step r p => { s with cache := (p.next s.cache).1 }.put r (p.next s.cache).2
  | .report r _ g o => s.put r (Point.listed g o)

def Step (s : Shared ρ ι) (e : Event ρ ι) (t : Shared ρ ι) : Prop := s.Allows e ∧ t = s.after e

@[simp] theorem put_cache (s : Shared ρ ι) (r : ρ) (p : Point ι) : (s.put r p).cache = s.cache :=
  rfl

@[simp] theorem put_self (s : Shared ρ ι) (r : ρ) (p : Point ι) :
    (s.put r p).reads r = some p := Function.update_self ..

theorem put_of_ne (s : Shared ρ ι) {r q : ρ} (p : Point ι) (h : q ≠ r) :
    (s.put r p).reads q = s.reads q := Function.update_of_ne h ..

theorem after_reads_of_ne (s : Shared ρ ι) {e : Event ρ ι} {r : ρ} (h : e.reader? ≠ some r) :
    (s.after e).reads r = s.reads r := by
  cases e with
  | idle | start | invalidate => rfl
  | enter q | step q p | report q i g o =>
    have other : r ≠ q := fun eq => h (by rw [eq]; rfl)
    exact put_of_ne _ _ other

end Shared

/-- A run, from a new cache on: `event k` takes `state k` to `state (k + 1)`. A run that is over
goes on idle. -/
structure Run (ρ ι : Type) [DecidableEq ρ] where
  state : Nat → Shared ρ ι
  event : Nat → Event ρ ι
  first : state 0 = {}
  steps : ∀ k, (state k).Step (event k) (state (k + 1))

namespace Run
variable {ρ ι : Type} [DecidableEq ρ] (w : Run ρ ι)

def cache (k : Nat) : Cache ι := (w.state k).cache

def reads (k : Nat) : ρ → Option (Point ι) := (w.state k).reads

theorem state_succ (k : Nat) : w.state (k + 1) = (w.state k).after (w.event k) := (w.steps k).2

@[simp] theorem cache_zero : w.cache 0 = {} := by simp only [cache, w.first]

@[simp] theorem reads_zero (r : ρ) : w.reads 0 r = none := by simp only [reads, w.first]

section Allowed
variable {w} {k : Nat} {r : ρ}

theorem reads_of_enter (h : w.event k = .enter r) : w.reads k r = none := by
  have allowed := (w.steps k).1
  rwa [h] at allowed

theorem reads_of_step {p : Point ι} (h : w.event k = .step r p) : w.reads k r = some p := by
  have allowed := (w.steps k).1
  rw [h] at allowed
  exact allowed.1

theorem runs_of_step {p : Point ι} (h : w.event k = .step r p) : p.status = .runs := by
  have allowed := (w.steps k).1
  rw [h] at allowed
  exact allowed.2.1

theorem free_of_step {seen : Nat} (h : w.event k = .step r (.waiting seen)) :
    (w.cache k).held = false := by
  have allowed := (w.steps k).1
  rw [h] at allowed
  exact allowed.2.2 seen rfl

theorem reads_of_report {i : ι} {g : Nat} {o : Except Error (List App)}
    (h : w.event k = .report r i g o) : w.reads k r = some (.listing i g) := by
  have allowed := (w.steps k).1
  rwa [h] at allowed

theorem reads_succ_of_enter (h : w.event k = .enter r) : w.reads (k + 1) r = some .entered := by
  simp [reads, w.state_succ, h, Shared.after]

theorem reads_succ_of_step {p : Point ι} (h : w.event k = .step r p) :
    w.reads (k + 1) r = some (p.next (w.cache k)).2 := by
  simp [reads, cache, w.state_succ, h, Shared.after]

theorem reads_succ_of_report {i : ι} {g : Nat} {o : Except Error (List App)}
    (h : w.event k = .report r i g o) : w.reads (k + 1) r = some (Point.listed g o) := by
  simp [reads, w.state_succ, h, Shared.after]

theorem reads_succ_of_ne (h : (w.event k).reader? ≠ some r) : w.reads (k + 1) r = w.reads k r := by
  simp only [reads, w.state_succ]
  exact Shared.after_reads_of_ne _ h

theorem cache_succ_of_step {p : Point ι} (h : w.event k = .step r p) :
    w.cache (k + 1) = (p.next (w.cache k)).1 := by
  simp [cache, w.state_succ, h, Shared.after]

theorem cache_succ_of_invalidate (h : w.event k = .invalidate) :
    w.cache (k + 1) = (w.cache k).invalidate := by
  simp [cache, w.state_succ, h, Shared.after]

end Allowed

theorem reads_succ_cases {k : Nat} {r : ρ} {p : Point ι} (h : w.reads (k + 1) r = some p) :
    (w.event k = .enter r ∧ p = .entered) ∨
    (∃ q, w.event k = .step r q ∧ p = (q.next (w.cache k)).2) ∨
    (∃ i g o, w.event k = .report r i g o ∧ p = Point.listed g o) ∨
    ((w.event k).reader? ≠ some r ∧ w.reads k r = some p) := by
  by_cases own : (w.event k).reader? = some r
  · rcases Event.reader?_eq_some own with he | ⟨q, he⟩ | ⟨i, g, o, he⟩
    · rw [reads_succ_of_enter he] at h
      exact .inl ⟨he, (Option.some.inj h).symm⟩
    · rw [reads_succ_of_step he] at h
      exact .inr (.inl ⟨q, he, (Option.some.inj h).symm⟩)
    · rw [reads_succ_of_report he] at h
      exact .inr (.inr (.inl ⟨i, g, o, he, (Option.some.inj h).symm⟩))
  · exact .inr (.inr (.inr ⟨own, by rwa [reads_succ_of_ne own] at h⟩))

/-- What holds of a read that enters, is kept by its own steps and by those of everybody else,
holds of every read at every moment. -/
theorem reads_induction {P : Nat → ρ → Point ι → Prop}
    (enter : ∀ k r, w.event k = .enter r → P (k + 1) r .entered)
    (step : ∀ k r p, w.event k = .step r p → P k r p → P (k + 1) r (p.next (w.cache k)).2)
    (report : ∀ k r i g o, w.event k = .report r i g o → P k r (.listing i g) →
      P (k + 1) r (Point.listed g o))
    (others : ∀ k r p, (w.event k).reader? ≠ some r → w.reads k r = some p → P k r p →
      P (k + 1) r p)
    {k : Nat} {r : ρ} {p : Point ι} (h : w.reads k r = some p) : P k r p := by
  induction k generalizing r p with
  | zero => simp at h
  | succ k ih =>
    rcases w.reads_succ_cases h with
      ⟨he, rfl⟩ | ⟨q, he, rfl⟩ | ⟨i, g, o, he, rfl⟩ | ⟨other, before⟩
    · exact enter k r he
    · exact step k r q he (ih (reads_of_step he))
    · exact report k r i g o he (ih (reads_of_report he))
    · exact others k r p other before (ih before)

/-- What is true of a read has come true by an event of its own. -/
theorem exists_earlier {r : ρ} {Q : Point ι → Prop} {E : Nat → Prop}
    (enter : ∀ k, w.event k = .enter r → Q .entered → E k)
    (step : ∀ k p, w.event k = .step r p → Q (p.next (w.cache k)).2 → Q p ∨ ∃ j ≤ k, E j)
    (report : ∀ k i g o, w.event k = .report r i g o → Q (Point.listed g o) →
      Q (.listing i g) ∨ E k)
    {k : Nat} {p : Point ι} (h : w.reads k r = some p) (hp : Q p) : ∃ j < k, E j := by
  induction k generalizing p with
  | zero => simp at h
  | succ k ih =>
    have later : (∃ j < k, E j) → ∃ j < k + 1, E j := fun ⟨j, jk, hj⟩ =>
      ⟨j, jk.trans k.lt_succ_self, hj⟩
    rcases w.reads_succ_cases h with
      ⟨he, rfl⟩ | ⟨q, he, rfl⟩ | ⟨i, g, o, he, rfl⟩ | ⟨-, before⟩
    · exact ⟨k, k.lt_succ_self, enter k he hp⟩
    · rcases step k q he hp with true' | ⟨j, jk, hj⟩
      · exact later (ih (reads_of_step he) true')
      · exact ⟨j, Nat.lt_succ_of_le jk, hj⟩
    · rcases report k i g o he hp with true' | hk
      · exact later (ih (reads_of_report he) true')
      · exact ⟨k, k.lt_succ_self, hk⟩
    · exact later (ih before hp)

/-- What a read's own steps keep stays true of it. -/
theorem reads_stay {Q : Point ι → Prop}
    (next : ∀ (c : Cache ι) p, p.status = .runs → Q p → Q (p.next c).2)
    (listed : ∀ i g o, Q (.listing i g) → Q (Point.listed g o))
    {j k : Nat} {r : ρ} {p : Point ι} (h : w.reads j r = some p) (hp : Q p) (le : j ≤ k) :
    ∃ p', w.reads k r = some p' ∧ Q p' := by
  induction k, le using Nat.le_induction with
  | base => exact ⟨p, h, hp⟩
  | succ k _ ih =>
    obtain ⟨p', at', hp'⟩ := ih
    by_cases own : (w.event k).reader? = some r
    · rcases Event.reader?_eq_some own with he | ⟨q, he⟩ | ⟨i, g, o, he⟩
      · simp [reads_of_enter he] at at'
      · obtain rfl : q = p' := Option.some.inj ((reads_of_step he).symm.trans at')
        exact ⟨_, reads_succ_of_step he, next _ _ (runs_of_step he) hp'⟩
      · obtain rfl := Option.some.inj ((reads_of_report he).symm.trans at')
        exact ⟨_, reads_succ_of_report he, listed i g o hp'⟩
    · exact ⟨p', by rwa [reads_succ_of_ne own], hp'⟩

/-- All events after moment `j` and before moment `k` are of a kind. -/
def Between (Q : Event ρ ι → Prop) (j k : Nat) : Prop := ∀ n, j < n → n < k → Q (w.event n)

variable {w} in
theorem Between.succ {Q : Event ρ ι → Prop} {j k : Nat} (h : w.Between Q j k)
    (last : Q (w.event k)) : w.Between Q j (k + 1) := by
  intro n jn nk
  rcases Nat.lt_succ_iff_lt_or_eq.mp nk with lt | rfl
  · exact h n jn lt
  · exact last

theorem between_succ_self (Q : Event ρ ι → Prop) (k : Nat) : w.Between Q k (k + 1) :=
  fun n kn nk => by omega

/-- A read never goes back. -/
theorem rank_le {j k : Nat} {r : ρ} {p p' : Point ι} (h : w.reads j r = some p)
    (h' : w.reads k r = some p') (le : j ≤ k) : p'.rank ≤ p.rank := by
  have next (c : Cache ι) (q : Point ι) (runs : q.status = .runs) (hq : q.rank ≤ p.rank) :
      (q.next c).2.rank ≤ p.rank := (Point.rank_next_lt runs c).le.trans hq
  have listed (i : ι) (g : Nat) (o : Except Error (List App))
      (hq : (Point.listing i g).rank ≤ p.rank) : (Point.listed g o : Point ι).rank ≤ p.rank :=
    (Point.rank_listed_lt (p := Point.listing i g) rfl o).le.trans hq
  obtain ⟨p₁, at₁, hp₁⟩ := w.reads_stay next listed h le_rfl le
  obtain rfl := Option.some.inj (at₁.symm.trans h')
  exact hp₁

theorem lt_of_rank_lt {j k : Nat} {r : ρ} {p p' : Point ι} (h : w.reads j r = some p)
    (h' : w.reads k r = some p') (lt : p'.rank < p.rank) : j < k := by
  by_contra not
  have := w.rank_le h' h (Nat.le_of_not_lt not)
  omega

theorem exists_reads {j k : Nat} {r : ρ} {p : Point ι} (h : w.reads j r = some p) (le : j ≤ k) :
    ∃ p', w.reads k r = some p' := by
  obtain ⟨p', at', -⟩ := w.reads_stay (Q := fun _ => True) (fun _ _ _ _ => trivial)
    (fun _ _ _ _ => trivial) h trivial le
  exact ⟨p', at'⟩

theorem exists_reads_between {j n k : Nat} {r : ρ} {p p' : Point ι} (h : w.reads j r = some p)
    (h' : w.reads k r = some p') (jn : j ≤ n) (nk : n ≤ k) :
    ∃ q, w.reads n r = some q ∧ p'.rank ≤ q.rank ∧ q.rank ≤ p.rank := by
  obtain ⟨q, at'⟩ := w.exists_reads h jn
  exact ⟨q, at', w.rank_le at' h' nk, w.rank_le h at' jn⟩

theorem exists_enter {k : Nat} {r : ρ} {p : Point ι} (h : w.reads k r = some p) :
    ∃ a < k, w.event a = .enter r := by
  refine w.exists_earlier (Q := fun _ => True) ?_ ?_ ?_ h trivial
  · exact fun _ he _ => he
  · exact fun _ _ _ _ => .inl trivial
  · exact fun _ _ _ _ _ _ => .inl trivial

theorem lt_of_enter {a k : Nat} {r : ρ} {p : Point ι} (ha : w.event a = .enter r)
    (h : w.reads k r = some p) : a < k := by
  by_contra not
  obtain ⟨p', at'⟩ := w.exists_reads h (Nat.le_of_not_lt not)
  cases (reads_of_enter ha).symm.trans at'

end Run

/-- A turn in a schedule. -/
inductive Turn (ρ ι : Type) where
  | pass
  | start (i : ι)
  | invalidate
  /-- Read `r` goes on. A listing that it waits for comes to `outcome`. -/
  | goOn (r : ρ) (outcome : Except Error (List App))

namespace Shared
variable {ρ ι : Type}

/-- What happens in a turn. A read that cannot go on misses it. -/
def event (s : Shared ρ ι) : Turn ρ ι → Event ρ ι
  | .pass => .idle
  | .start i => .start i
  | .invalidate => .invalidate
  | .goOn r o =>
    match s.reads r with
    | none => .enter r
    | some (.finished _) => .idle
    | some (.listing i g) => .report r i g o
    | some (.waiting seen) => if s.cache.held then .idle else .step r (.waiting seen)
    | some p => .step r p

theorem allows_event (s : Shared ρ ι) (t : Turn ρ ι) : s.Allows (s.event t) := by
  cases t with
  | pass | start | invalidate => trivial
  | goOn r o =>
    cases at' : s.reads r with
    | none => simp [event, at', Allows]
    | some p =>
      cases p with
      | waiting seen => cases held : s.cache.held <;> simp [event, at', held, Allows, Point.status]
      | _ => simp [event, at', Allows, Point.status]

variable [DecidableEq ρ]

/-- The state before turn `k` of a schedule. A schedule that is over passes. -/
def scheduled (turns : List (Turn ρ ι)) : Nat → Shared ρ ι
  | 0 => {}
  | k + 1 => (scheduled turns k).after ((scheduled turns k).event (turns.getD k .pass))

end Shared

/-- Every schedule makes a run. -/
def Run.scheduled {ρ ι : Type} [DecidableEq ρ] (turns : List (Turn ρ ι)) : Run ρ ι where
  state := Shared.scheduled turns
  event k := (Shared.scheduled turns k).event (turns.getD k .pass)
  first := rfl
  steps _ := ⟨Shared.allows_event _ _, rfl⟩

end OpPolicy
