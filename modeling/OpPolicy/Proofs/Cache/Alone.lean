import OpPolicy.Package.Cache

set_option autoImplicit false

/-!
A read with nobody else around. Its steps come to one of three things: the fresh snapshot, the
missing inventory, or a single listing that decides (`Cache.read_of_fresh`, `read_of_unbound`,
`read_of_bound`). It never takes over an earlier failure, since no rebuild ends while it runs.
-/

namespace OpPolicy

/-- What a rebuild for generation `g` answers whose listing came to this. -/
def Listing.Report.result (l : Listing.Report) (g : Nat) : Except Error Snapshot :=
  match l.outcome with
  | .error e => .error (.provider e.providerDetail)
  | .ok apps => .ok (Snapshot.build g apps)

namespace Cache
variable {ι : Type}

/-- What a rebuild leaves whose listing came to this. -/
def rebuilt (c : Cache ι) (l : Listing.Report) : Cache ι :=
  { c with
    generation := c.generation + l.invalidations
    published :=
      match l.outcome with
      | .error _ => c.published
      | .ok apps => some (Snapshot.build c.generation apps)
    lastFailure :=
      match l.outcome with
      | .error e => some e.providerDetail
      | .ok _ => none
    attempts := c.attempts + 1
    completed := c.completed + 1 }

def rebuild (c : Cache ι) (i : ι) : Reading ι (Except Error Snapshot × Cache ι) :=
  (Dialogue.sayAll (Point.notes (.counting i c.generation))).bind fun _ =>
    .ask i fun l =>
      (Dialogue.sayAll (c.invalidateByNotes l.invalidations ++
        Point.listedNotes c.generation l.outcome)).bind fun _ =>
          .done (l.result c.generation, c.rebuilt l)

theorem invalidateByNotes_congr {c d : Cache ι} (h : c.generation = d.generation) (n : Nat) :
    c.invalidateByNotes n = d.invalidateByNotes n := by
  induction n generalizing c d with
  | zero => rfl
  | succ n ih =>
    rw [invalidateByNotes, invalidateByNotes, invalidateNote, invalidateNote, h]
    exact congrArg _ (ih (congrArg (· + 1) h))

theorem invalidateBy_eq (c : Cache ι) (n : Nat) :
    c.invalidateBy n = { c with generation := c.generation + n } := by
  induction n generalizing c with
  | zero => rfl
  | succ n ih =>
    rw [invalidateBy, ih]
    simp only [invalidate, Nat.add_assoc, Nat.add_comm 1 n]

theorem fresh?_eq_some {c : Cache ι} {s : Snapshot} :
    c.fresh? = some s ↔ c.published = some s ∧ s.generation = c.generation := by
  simp [fresh?, Option.filter_eq_some_iff]

theorem fresh?_eq_none {c : Cache ι} :
    c.fresh? = none ↔ ∀ s, c.published = some s → s.generation ≠ c.generation := by
  simp [fresh?, Option.filter_eq_none_iff]

variable (c : Cache ι)

theorem resume_finished (r : Except Error Snapshot) : c.resume (.finished r) = .done (r, c) := by
  rw [resume]
  rfl

theorem resume_listing (i : ι) (g : Nat) :
    c.resume (.listing i g) = .ask i fun l =>
      (Dialogue.sayAll (c.invalidateByNotes l.invalidations ++
        Point.listedNotes g l.outcome)).bind fun _ =>
          (c.invalidateBy l.invalidations).resume (Point.listed g l.outcome) := by
  rw [resume]
  rfl

theorem resume_of_runs {p : Point ι} (h : p.status = .runs) :
    c.resume p =
      (Dialogue.sayAll p.notes).bind fun _ => (p.next c).1.resume (p.next c).2 := by
  rw [resume]
  split <;> simp_all

theorem resume_of_silent {p : Point ι} (h : p.status = .runs) (silent : p.notes = []) :
    c.resume p = (p.next c).1.resume (p.next c).2 := by
  rw [resume_of_runs c h, silent]
  rfl

theorem resume_releasing (r : Except Error Snapshot) :
    c.resume (.releasing r) = .done (r, { c with held := false }) := by
  rw [resume_of_silent c rfl rfl]
  exact resume_finished _ r

theorem resume_failed (message : String) :
    c.resume (.failed message) = .done (.error (.provider message),
      { c with held := false, lastFailure := some message, completed := c.completed + 1 }) := by
  rw [resume_of_silent c rfl rfl]
  exact resume_releasing _ _

theorem resume_built (s : Snapshot) :
    c.resume (.built s) = .done (.ok s,
      { c with
        published := some s
        held := false
        lastFailure := none
        completed := c.completed + 1 }) := by
  rw [resume_of_silent c rfl rfl, resume_of_silent _ rfl rfl]
  exact resume_releasing _ _

theorem resume_asking (i : ι) (g : Nat) : c.resume (.asking i g) = c.resume (.listing i g) :=
  resume_of_silent c rfl rfl

theorem resume_listed (l : Listing.Report) :
    ({ c with attempts := c.attempts + 1 }.invalidateBy l.invalidations).resume
        (Point.listed c.generation l.outcome) =
      .done (l.result c.generation, { c with held := false }.rebuilt l) := by
  rw [invalidateBy_eq]
  obtain ⟨outcome, invalidations⟩ := l
  cases outcome with
  | error e => exact resume_failed _ _
  | ok apps => exact resume_built _ _

theorem resume_counting (i : ι) :
    c.resume (.counting i c.generation) = { c with held := false }.rebuild i := by
  have counted : c.resume (.counting i c.generation) =
      (Dialogue.sayAll (Point.notes (.counting i c.generation))).bind fun _ =>
        { c with attempts := c.attempts + 1 }.resume (.asking i c.generation) :=
    resume_of_runs c rfl
  rw [counted, rebuild]
  refine congrArg (Dialogue.bind _) (funext fun _ => ?_)
  rw [resume_asking, resume_listing]
  refine congrArg (Dialogue.ask i) (funext fun l => ?_)
  have notes : { c with attempts := c.attempts + 1 }.invalidateByNotes l.invalidations =
      { c with held := false }.invalidateByNotes l.invalidations := by
    apply invalidateByNotes_congr
    rfl
  rw [resume_listed, notes]

theorem resume_loading (i : ι) : c.resume (.loading i) = { c with held := false }.rebuild i :=
  (resume_of_silent c rfl rfl).trans (resume_counting c i)

theorem resume_seeking_of_unbound (unbound : c.bound = none) :
    c.resume .seeking = .done (.error Point.unbound, { c with held := false }) := by
  have next : Point.next c .seeking = (c, .releasing (.error Point.unbound)) := by
    simp [Point.next, unbound]
  rw [resume_of_silent c rfl rfl, next]
  exact resume_releasing c _

theorem resume_seeking_of_bound {i : ι} (bound : c.bound = some i) :
    c.resume .seeking = { c with held := false }.rebuild i := by
  have next : Point.next c .seeking = (c, .loading i) := by simp [Point.next, bound]
  rw [resume_of_silent c rfl rfl, next]
  exact resume_loading c i

theorem resume_locked_of_stale (stale : c.fresh? = none) (seen : Nat) :
    c.resume (.locked seen) = c.resume (.recounting seen) := by
  rw [resume_of_silent c rfl rfl]
  cases published : c.published with
  | none => simp only [Point.next, published]
  | some s =>
    have older := fresh?_eq_none.mp stale s published
    simp only [Point.next, published]
    rw [resume_of_silent c rfl rfl]
    simp only [Point.next, older, if_false]

theorem resume_recounting_self : c.resume (.recounting c.completed) = c.resume .seeking := by
  rw [resume_of_silent c rfl rfl]
  simp only [Point.next, ne_eq, not_true_eq_false, if_false]

theorem read_eq_arrive : c.read = c.resume c.arrive := by
  rw [read, resume_of_silent c rfl rfl, arrive]
  cases fresh : c.fresh? with
  | some s =>
    obtain ⟨published, same⟩ := fresh?_eq_some.mp fresh
    simp only [Point.next, published]
    rw [resume_of_silent c rfl rfl]
    simp only [Point.next, same, if_true]
  | none =>
    cases published : c.published with
    | none =>
      simp only [Point.next, published]
      exact resume_of_silent c rfl rfl
    | some s =>
      have older := fresh?_eq_none.mp fresh s published
      simp only [Point.next, published]
      rw [resume_of_silent c rfl rfl]
      simp only [Point.next, older, if_false]
      exact resume_of_silent c rfl rfl

variable {c}

theorem read_of_fresh {s : Snapshot} (fresh : c.fresh? = some s) : c.read = .done (.ok s, c) := by
  rw [read_eq_arrive, arrive, fresh]
  exact resume_finished c _

/-- A read that has to wait for nobody finds the cache under the lock as it was before. -/
theorem read_of_stale (stale : c.fresh? = none) :
    c.read = { c with held := true }.resume .seeking := by
  have locked : c.resume (.waiting c.completed) =
      { c with held := true }.resume (.locked c.completed) := resume_of_silent c rfl rfl
  rw [read_eq_arrive, arrive, stale]
  refine locked.trans ((resume_locked_of_stale { c with held := true } stale _).trans ?_)
  exact resume_recounting_self { c with held := true }

theorem read_of_unbound (free : c.held = false) (stale : c.fresh? = none)
    (unbound : c.bound = none) : c.read = .done (.error Point.unbound, c) := by
  rw [read_of_stale stale, resume_seeking_of_unbound { c with held := true } unbound, ← free]

theorem read_of_bound {i : ι} (free : c.held = false) (stale : c.fresh? = none)
    (bound : c.bound = some i) : c.read = c.rebuild i := by
  rw [read_of_stale stale, resume_seeking_of_bound { c with held := true } bound, ← free]

end Cache

end OpPolicy
