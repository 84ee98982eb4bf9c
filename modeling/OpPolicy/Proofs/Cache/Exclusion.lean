import OpPolicy.Proofs.Cache.Cells

set_option autoImplicit false

/-!
One rebuild at a time. At most one read holds the rebuild lock (`Run.alone`), so nobody else writes
what its holder reads, at most one listing goes on, and the two counts of rebuilds differ by the
rebuild that goes on (`Run.attempts_eq`).
-/

namespace OpPolicy

structure Shared.Exclusive {ρ ι : Type} (s : Shared ρ ι) : Prop where
  held : ∀ {r p}, s.reads r = some p → p.holds = true → s.cache.held = true
  alone : ∀ {q r p p'}, s.reads q = some p → p.holds = true → s.reads r = some p' →
    p'.holds = true → q = r

/-- Some read is between the two counts of its rebuild. -/
def Shared.Rebuilding {ρ ι : Type} (s : Shared ρ ι) : Prop :=
  ∃ r p, s.reads r = some p ∧ p.rebuilds = true

namespace Run
variable {ρ ι : Type} [DecidableEq ρ] (w : Run ρ ι)

theorem holds_succ_cases {k : Nat} {r : ρ} {p : Point ι} (h : w.reads (k + 1) r = some p)
    (hp : p.holds = true) :
    (∃ seen, w.event k = .step r (.waiting seen)) ∨
      ((∀ x, w.event k ≠ .step r (.releasing x)) ∧
        ∃ p₀, w.reads k r = some p₀ ∧ p₀.holds = true) := by
  rcases w.reads_succ_cases h with
    ⟨-, rfl⟩ | ⟨q, he, rfl⟩ | ⟨i, g, o, he, rfl⟩ | ⟨other, before⟩
  · simp [Point.holds] at hp
  · rcases Point.holds_of_next (runs_of_step he) hp with hq | ⟨seen, rfl⟩
    · refine .inr ⟨fun x eq => ?_, q, reads_of_step he, hq⟩
      obtain rfl : q = .releasing x := by simpa [he] using eq
      simp [Point.next, Point.holds] at hp
    · exact .inl ⟨seen, he⟩
  · exact .inr ⟨fun x eq => by simp [he] at eq, _, reads_of_report he, rfl⟩
  · exact .inr ⟨fun x eq => other (by rw [eq]; rfl), p, before, hp⟩

theorem not_taken {k : Nat} {q r : ρ} {seen : Nat} {p : Point ι} (ih : (w.state k).Exclusive)
    (h : w.reads k r = some p) (hp : p.holds = true) : w.event k ≠ .step q (.waiting seen) := by
  intro taken
  have free := free_of_step taken
  rw [show (w.cache k).held = true from ih.held h hp] at free
  cases free

theorem held_succ {k : Nat} {r : ρ} {p : Point ι} (ih : (w.state k).Exclusive)
    (h : w.reads k r = some p) (hp : p.holds = true)
    (kept : ∀ x, w.event k ≠ .step r (.releasing x)) : (w.cache (k + 1)).held = true := by
  have held : (w.cache k).held = true := ih.held h hp
  by_cases stepped : ∃ q p₁, w.event k = .step q p₁
  · obtain ⟨q, p₁, he⟩ := stepped
    rw [cache_succ_of_step he, Point.next_held, held]
    · rintro seen rfl
      exact w.not_taken ih h hp he
    -- a release would be that of `r` itself, since nobody else has the lock
    · rintro x rfl
      obtain rfl := ih.alone (reads_of_step he) rfl h hp
      exact kept x he
  · rw [w.held_succ_of_ne fun q p₁ he => stepped ⟨q, p₁, he⟩, held]

theorem exclusive (k : Nat) : (w.state k).Exclusive := by
  induction k with
  | zero => constructor <;> simp [w.first]
  | succ k ih =>
    constructor
    · intro r p h hp
      rcases w.holds_succ_cases h hp with ⟨seen, taken⟩ | ⟨kept, p₀, before, hp₀⟩
      · show (w.cache (k + 1)).held = true
        rw [cache_succ_of_step taken]
        rfl
      · exact w.held_succ ih before hp₀ kept
    · intro q r p p' hq hp hr hp'
      rcases w.holds_succ_cases hq hp with ⟨seen, taken⟩ | ⟨-, p₀, before, hp₀⟩
      · rcases w.holds_succ_cases hr hp' with ⟨seen', taken'⟩ | ⟨-, p₁, before', hp₁⟩
        · rw [taken] at taken'
          exact (Event.step.inj taken').1
        · exact (w.not_taken ih before' hp₁ taken).elim
      · rcases w.holds_succ_cases hr hp' with ⟨seen', taken'⟩ | ⟨-, p₁, before', hp₁⟩
        · exact (w.not_taken ih before hp₀ taken').elim
        · exact ih.alone before hp₀ before' hp₁

section Alone
variable {w} {k : Nat} {q r : ρ} {p p' : Point ι}

theorem alone (hq : w.reads k q = some p) (hp : p.holds = true) (hr : w.reads k r = some p')
    (hp' : p'.holds = true) : q = r := (w.exclusive k).alone hq hp hr hp'

/-- While a read holds the lock, the steps of everybody else are made without it. -/
theorem holds_of_other (hr : w.reads k r = some p) (hp : p.holds = true)
    (other : (w.event k).reader? ≠ some r) (he : w.event k = .step q p') : p'.holds = false := by
  by_contra holds
  obtain rfl := alone (reads_of_step he) (by simpa using holds) hr hp
  exact other (by rw [he]; rfl)

theorem published_of_other (hr : w.reads k r = some p) (hp : p.holds = true)
    (other : (w.event k).reader? ≠ some r) : (w.event k).publishes? = none := by
  cases he : w.event k with
  | step q p' => exact Point.publishes?_eq_none (holds_of_other hr hp other he)
  | _ => rfl

theorem verdict_of_other (hr : w.reads k r = some p) (hp : p.holds = true)
    (other : (w.event k).reader? ≠ some r) : (w.event k).verdict? = none := by
  cases he : w.event k with
  | step q p' => exact Point.verdict?_eq_none (holds_of_other hr hp other he)
  | _ => rfl

end Alone

theorem rebuilding_succ_cases {k : Nat} {r : ρ} {p : Point ι} (h : w.reads (k + 1) r = some p)
    (hp : p.rebuilds = true) :
    (∃ i g, w.event k = .step r (.counting i g)) ∨
      ∃ p₀, w.reads k r = some p₀ ∧ p₀.rebuilds = true := by
  rcases w.reads_succ_cases h with
    ⟨-, rfl⟩ | ⟨q, he, rfl⟩ | ⟨i, g, o, he, rfl⟩ | ⟨-, before⟩
  · simp [Point.rebuilds] at hp
  · by_cases count : ∃ i g, q = .counting i g
    · obtain ⟨i, g, rfl⟩ := count
      exact .inl ⟨i, g, he⟩
    · refine .inr ⟨q, reads_of_step he, ?_⟩
      cases verdict : q.verdict? with
      | none =>
        have kept := Point.rebuilds_next (c := w.cache k) (runs_of_step he)
          (fun i g eq => count ⟨i, g, eq⟩) verdict
        rwa [kept] at hp
      | some v => exact (Point.rebuilds_of_verdict? (c := w.cache k) verdict).1
  · exact .inr ⟨_, reads_of_report he, rfl⟩
  · exact .inr ⟨p, before, hp⟩

theorem rebuilding_succ {k : Nat} (count : ∀ r i g, w.event k ≠ .step r (.counting i g))
    (verdict : (w.event k).verdict? = none) :
    (w.state (k + 1)).Rebuilding ↔ (w.state k).Rebuilding := by
  constructor
  · rintro ⟨r, p, h, hp⟩
    rcases w.rebuilding_succ_cases h hp with ⟨i, g, he⟩ | ⟨p₀, before, hp₀⟩
    · exact (count r i g he).elim
    · exact ⟨r, p₀, before, hp₀⟩
  · rintro ⟨r, p, h, hp⟩
    by_cases own : (w.event k).reader? = some r
    · rcases Event.reader?_eq_some own with he | ⟨q, he⟩ | ⟨i, g, o, he⟩
      · exact absurd (reads_of_enter he) (by rw [reads, h]; simp)
      · obtain rfl : q = p := Option.some.inj ((reads_of_step he).symm.trans h)
        refine ⟨r, _, reads_succ_of_step he, ?_⟩
        rwa [Point.rebuilds_next (runs_of_step he) (fun i g eq => count r i g (by rw [he, eq]))]
        simpa [he] using verdict
      · exact ⟨r, _, reads_succ_of_report he, Point.listed_rebuilds g o⟩
    · exact ⟨r, p, (reads_succ_of_ne own).trans h, hp⟩

theorem rebuilding_of_count {k : Nat} {r : ρ} {i : ι} {g : Nat}
    (he : w.event k = .step r (.counting i g)) :
    ¬ (w.state k).Rebuilding ∧ (w.state (k + 1)).Rebuilding := by
  constructor
  · rintro ⟨q, p, h, hp⟩
    obtain rfl := alone h (Point.holds_of_rebuilds hp) (reads_of_step he) rfl
    obtain rfl := Option.some.inj (h.symm.trans (reads_of_step he))
    cases hp
  · exact ⟨r, _, reads_succ_of_step he, rfl⟩

theorem rebuilding_of_verdict {k : Nat} {v : Option String} (h : (w.event k).verdict? = some v) :
    (w.state k).Rebuilding ∧ ¬ (w.state (k + 1)).Rebuilding := by
  obtain ⟨r, p, he, hp⟩ := Event.step_of_verdict? h
  obtain ⟨before, after⟩ := Point.rebuilds_of_verdict? (c := w.cache k) hp
  refine ⟨⟨r, p, reads_of_step he, before⟩, ?_⟩
  rintro ⟨q, p₁, h₁, hp₁⟩
  rcases w.rebuilding_succ_cases h₁ hp₁ with ⟨i, g, he'⟩ | ⟨p₀, h₀, hp₀⟩
  · rw [he'] at h
    cases h
  · obtain rfl := alone h₀ (Point.holds_of_rebuilds hp₀) (reads_of_step he)
      (Point.holds_of_rebuilds before)
    obtain rfl := Option.some.inj (h₁.symm.trans (reads_succ_of_step he))
    rw [after] at hp₁
    cases hp₁

/-- The rebuilds that were begun are those that were completed and the one that goes on. -/
theorem attempts_eq (k : Nat) :
    ((w.state k).Rebuilding → (w.cache k).attempts = (w.cache k).completed + 1) ∧
      (¬ (w.state k).Rebuilding → (w.cache k).attempts = (w.cache k).completed) := by
  induction k with
  | zero => simp [Shared.Rebuilding, w.first]
  | succ k ih =>
    by_cases count : ∃ r i g, w.event k = .step r (.counting i g)
    · obtain ⟨r, i, g, he⟩ := count
      obtain ⟨idle, busy⟩ := w.rebuilding_of_count he
      have counts := ih.2 idle
      rw [cache_succ_of_step he]
      exact ⟨fun _ => by simp [Point.next, counts], fun not => (not busy).elim⟩
    · have same : (w.cache (k + 1)).attempts = (w.cache k).attempts :=
        w.attempts_succ_of_ne fun r i g he => count ⟨r, i, g, he⟩
      have completed := w.completed_succ k
      cases verdict : (w.event k).verdict? with
      | none =>
        rw [verdict] at completed
        rw [w.rebuilding_succ (fun r i g he => count ⟨r, i, g, he⟩) verdict, same, completed]
        exact ih
      | some v =>
        obtain ⟨busy, idle⟩ := w.rebuilding_of_verdict verdict
        have counts := ih.1 busy
        rw [verdict] at completed
        exact ⟨fun busy => (idle busy).elim, fun _ => by rw [same, completed, counts]; rfl⟩

end Run

end OpPolicy
