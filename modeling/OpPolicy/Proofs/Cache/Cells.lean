import OpPolicy.Proofs.Cache.Interleaving

set_option autoImplicit false

/-!
What becomes of the shared cells. Every cell but the generation counter and the bound inventory is
written by the holder of the rebuild lock only, each from a place of its own, so places are told
apart by what they are about to write.
-/

namespace OpPolicy

namespace Point
variable {ι : Type}

def holds : Point ι → Bool
  | entered | comparing _ | sampling | waiting _ | finished _ => false
  | _ => true

/-- Whether a read stands between the two counts of a rebuild. -/
def rebuilds : Point ι → Bool
  | asking .. | listing .. | failed _ | built _ | completing _ => true
  | _ => false

/-- Whether a read's listing has just ended. -/
def reported : Point ι → Bool
  | failed _ | built _ => true
  | _ => false

/-- The snapshot that the next step publishes. -/
def publishes? : Point ι → Option Snapshot
  | built s => some s
  | _ => none

/-- How the rebuild went that the next step counts as completed: its message, if it failed. -/
def verdict? : Point ι → Option (Option String)
  | failed message => some (some message)
  | completing _ => some none
  | _ => none

theorem holds_of_rebuilds {p : Point ι} (h : p.rebuilds = true) : p.holds = true := by
  cases p <;> simp_all [rebuilds, holds]

theorem holds_iff_rank {p : Point ι} : p.holds = true ↔ 0 < p.rank ∧ p.rank < 13 := by
  cases p <;> simp [holds, rank]

theorem publishes?_eq_none {p : Point ι} (h : p.holds = false) : p.publishes? = none := by
  cases p <;> simp_all [holds, publishes?]

theorem verdict?_eq_none {p : Point ι} (h : p.holds = false) : p.verdict? = none := by
  cases p <;> simp_all [holds, verdict?]

variable (c : Cache ι) (p : Point ι)

@[simp] theorem next_generation : (p.next c).1.generation = c.generation := by
  cases p <;> simp only [next] <;> (repeat' split) <;> rfl

theorem next_published : (p.next c).1.published = p.publishes?.or c.published := by
  cases p <;> simp only [next] <;> (repeat' split) <;> rfl

theorem next_completed :
    (p.next c).1.completed = c.completed + if p.verdict?.isSome then 1 else 0 := by
  cases p <;> simp only [next] <;> (repeat' split) <;> simp_all [verdict?]

theorem next_lastFailure : (p.next c).1.lastFailure = p.verdict?.getD c.lastFailure := by
  cases p <;> simp only [next] <;> (repeat' split) <;> rfl

variable {c p}

theorem next_held (wait : ∀ seen, p ≠ waiting seen) (release : ∀ r, p ≠ releasing r) :
    (p.next c).1.held = c.held := by
  cases p <;> simp only [next] <;> (repeat' split) <;> simp_all

theorem next_attempts (count : ∀ i g, p ≠ counting i g) :
    (p.next c).1.attempts = c.attempts := by
  cases p <;> simp only [next] <;> (repeat' split) <;> simp_all

theorem holds_of_next (runs : p.status = .runs) (h : (p.next c).2.holds = true) :
    p.holds = true ∨ ∃ seen, p = waiting seen := by
  cases p <;> simp only [next] at h <;> (try split at h) <;> simp_all [holds, status]

theorem eq_asking_of_next {i : ι} {g : Nat} (runs : p.status = .runs)
    (h : (p.next c).2 = listing i g) : p = asking i g := by
  cases p <;> simp only [next] at h <;> (repeat' split at h) <;> simp_all [status]

theorem next_reported : (p.next c).2.reported = false := by
  cases p <;> simp only [next] <;> (repeat' split) <;> rfl

/-- A rebuild begins with its count and ends with its verdict. -/
theorem rebuilds_next (runs : p.status = .runs) (count : ∀ i g, p ≠ counting i g)
    (verdict : p.verdict? = none) : (p.next c).2.rebuilds = p.rebuilds := by
  cases p <;> simp only [next] <;> (repeat' split) <;> simp_all [rebuilds, verdict?, status]

theorem rebuilds_of_verdict? {v : Option String} (h : p.verdict? = some v) :
    p.rebuilds = true ∧ (p.next c).2.rebuilds = false := by
  cases p <;> simp_all [rebuilds, verdict?, next]

@[simp] theorem listed_rebuilds (g : Nat) (o : Except Error (List App)) :
    (listed g o : Point ι).rebuilds = true := by
  cases o <;> rfl

end Point

def Event.publishes? {ρ ι : Type} : Event ρ ι → Option Snapshot
  | step _ p => p.publishes?
  | _ => none

def Event.verdict? {ρ ι : Type} : Event ρ ι → Option (Option String)
  | step _ p => p.verdict?
  | _ => none

@[simp] theorem Event.publishes?_step {ρ ι : Type} (r : ρ) (p : Point ι) :
    (Event.step r p).publishes? = p.publishes? := rfl

@[simp] theorem Event.verdict?_step {ρ ι : Type} (r : ρ) (p : Point ι) :
    (Event.step r p).verdict? = p.verdict? := rfl

theorem Event.publishes?_eq_some {ρ ι : Type} {e : Event ρ ι} {s : Snapshot} :
    e.publishes? = some s ↔ ∃ r, e = .step r (.built s) := by
  cases e with
  | step r p => cases p <;> simp [publishes?, Point.publishes?]
  | _ => simp [publishes?]

theorem Event.step_of_verdict? {ρ ι : Type} {e : Event ρ ι} {v : Option String}
    (h : e.verdict? = some v) : ∃ r p, e = .step r p ∧ p.verdict? = some v := by
  cases e with
  | step r p => exact ⟨r, p, rfl, h⟩
  | _ => simp [verdict?] at h

theorem Event.verdict?_eq_failed {ρ ι : Type} {e : Event ρ ι} {message : String} :
    e.verdict? = some (some message) ↔ ∃ r, e = .step r (.failed message) := by
  cases e with
  | step r p => cases p <;> simp [verdict?, Point.verdict?]
  | _ => simp [verdict?]

namespace Run
variable {ρ ι : Type} [DecidableEq ρ] (w : Run ρ ι)

theorem generation_succ_of_ne {k : Nat} (h : w.event k ≠ .invalidate) :
    (w.cache (k + 1)).generation = (w.cache k).generation := by
  cases he : w.event k with
  | invalidate => exact absurd he h
  | step r p => rw [cache_succ_of_step he, Point.next_generation]
  | idle | start | enter | report => simp [cache, state_succ, he, Shared.after, Cache.offer]

theorem generation_succ {k : Nat} (h : w.event k = .invalidate) :
    (w.cache (k + 1)).generation = (w.cache k).generation + 1 := by
  rw [cache_succ_of_invalidate h]
  rfl

def invalidations : Nat → Nat
  | 0 => 0
  | k + 1 => match w.event k with
    | .invalidate => invalidations k + 1
    | _ => invalidations k

theorem generation_eq_invalidations (k : Nat) : (w.cache k).generation = w.invalidations k := by
  induction k with
  | zero => simp [invalidations]
  | succ k ih =>
    cases he : w.event k with
    | invalidate => rw [w.generation_succ he, invalidations, he, ih]
    | _ => rw [w.generation_succ_of_ne (by simp [he]), invalidations, he, ih]

theorem generation_mono {j k : Nat} (le : j ≤ k) :
    (w.cache j).generation ≤ (w.cache k).generation := by
  induction k, le using Nat.le_induction with
  | base => exact le_rfl
  | succ k _ ih =>
    by_cases he : w.event k = .invalidate
    · rw [w.generation_succ he]
      omega
    · rwa [w.generation_succ_of_ne he]

theorem generation_lt {j n k : Nat} (he : w.event n = .invalidate) (jn : j ≤ n) (nk : n < k) :
    (w.cache j).generation < (w.cache k).generation := by
  have before := w.generation_mono jn
  have after := w.generation_mono (Nat.succ_le_of_lt nk)
  rw [w.generation_succ he] at after
  omega

/-- A cell that no event of a stretch changes is at its end what it was at its beginning. -/
theorem cell_eq {α : Type} (cell : Cache ι → α) {j k : Nat} (le : j ≤ k)
    (keeps : ∀ n, j ≤ n → n < k → cell (w.cache (n + 1)) = cell (w.cache n)) :
    cell (w.cache k) = cell (w.cache j) := by
  induction k, le using Nat.le_induction with
  | base => rfl
  | succ k le ih =>
    rw [keeps k le k.lt_succ_self]
    exact ih fun n jn nk => keeps n jn (nk.trans k.lt_succ_self)

theorem generation_eq {j k : Nat} (le : j ≤ k)
    (quiet : ∀ n, j ≤ n → n < k → w.event n ≠ .invalidate) :
    (w.cache k).generation = (w.cache j).generation :=
  w.cell_eq (·.generation) le fun n jn nk => w.generation_succ_of_ne (quiet n jn nk)

theorem published_succ (k : Nat) :
    (w.cache (k + 1)).published = (w.event k).publishes?.or (w.cache k).published := by
  cases he : w.event k with
  | step r p => rw [cache_succ_of_step he, Point.next_published, Event.publishes?]
  | idle | start | invalidate | enter | report =>
    simp [cache, state_succ, he, Shared.after, Event.publishes?, Cache.offer, Cache.invalidate]

theorem published_eq {j k : Nat} (le : j ≤ k)
    (quiet : ∀ n, j ≤ n → n < k → (w.event n).publishes? = none) :
    (w.cache k).published = (w.cache j).published :=
  w.cell_eq (·.published) le fun n jn nk => by
    rw [w.published_succ, quiet n jn nk, Option.none_or]

theorem completed_succ (k : Nat) :
    (w.cache (k + 1)).completed =
      (w.cache k).completed + if (w.event k).verdict?.isSome then 1 else 0 := by
  cases he : w.event k with
  | step r p => rw [cache_succ_of_step he, Point.next_completed, Event.verdict?]
  | idle | start | invalidate | enter | report =>
    simp [cache, state_succ, he, Shared.after, Event.verdict?, Cache.offer, Cache.invalidate]

theorem completed_eq {j k : Nat} (le : j ≤ k)
    (quiet : ∀ n, j ≤ n → n < k → (w.event n).verdict? = none) :
    (w.cache k).completed = (w.cache j).completed :=
  w.cell_eq (·.completed) le fun n jn nk => by
    rw [w.completed_succ, quiet n jn nk]
    rfl

theorem lastFailure_succ (k : Nat) :
    (w.cache (k + 1)).lastFailure = (w.event k).verdict?.getD (w.cache k).lastFailure := by
  cases he : w.event k with
  | step r p => rw [cache_succ_of_step he, Point.next_lastFailure, Event.verdict?]
  | idle | start | invalidate | enter | report =>
    simp [cache, state_succ, he, Shared.after, Event.verdict?, Cache.offer, Cache.invalidate]

theorem held_succ_of_ne {k : Nat} (h : ∀ r p, w.event k ≠ .step r p) :
    (w.cache (k + 1)).held = (w.cache k).held := by
  cases he : w.event k with
  | step r p => exact absurd he (h r p)
  | idle | start | invalidate | enter | report =>
    simp [cache, state_succ, he, Shared.after, Cache.offer, Cache.invalidate]

theorem attempts_succ_of_ne {k : Nat} (h : ∀ r i g, w.event k ≠ .step r (.counting i g)) :
    (w.cache (k + 1)).attempts = (w.cache k).attempts := by
  cases he : w.event k with
  | step r p =>
    rw [cache_succ_of_step he]
    exact Point.next_attempts fun i g eq => h r i g (by rw [he, eq])
  | idle | start | invalidate | enter | report =>
    simp [cache, state_succ, he, Shared.after, Cache.offer, Cache.invalidate]

end Run

end OpPolicy
