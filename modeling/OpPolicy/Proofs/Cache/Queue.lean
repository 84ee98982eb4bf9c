import OpPolicy.Proofs.Cache.InTurn

set_option autoImplicit false

/-!
Readers that wait for the lock of a stale cache while others of them rebuild it. However their steps
interleave, each of them comes to what it would come to if they ran one after another in the order
in which they get the lock (`Run.Queue.stage`, `Run.Queue.answered`). So as many listings are made
as it takes to settle the matter, and everybody after the last of them shares what it came to
(`Run.queue_accounts`).
-/

namespace OpPolicy

namespace Point
variable {ι : Type} {c : Cache ι} {p : Point ι}

@[simp] theorem next_bound : (p.next c).1.bound = c.bound := by
  cases p <;> simp only [next] <;> (repeat' split) <;> rfl

theorem next_of_not_holds (outside : p.holds = false) (wait : ∀ seen, p ≠ waiting seen) :
    (p.next c).1 = c := by
  cases p <;> simp only [next] <;> (repeat' split) <;> simp_all [holds]

theorem holds_next (holds : p.holds = true) (release : ∀ x, p ≠ releasing x) :
    (p.next c).2.holds = true := by
  cases p <;> simp only [next] <;> (repeat' split) <;> simp_all [Point.holds]

theorem holds_listed (g : Nat) (o : Except Error (List App)) :
    (listed g o : Point ι).holds = true := by
  cases o <;> rfl

end Point

namespace Event
variable {ρ ι : Type}

/-- A read takes the rebuild lock. -/
def acquires : Event ρ ι → Bool
  | step _ (.waiting _) => true
  | _ => false

/-- A listing ends. -/
def reports : Event ρ ι → Bool
  | report .. => true
  | _ => false

def invalidates : Event ρ ι → Bool
  | invalidate => true
  | _ => false

theorem acquires_eq_true_iff {e : Event ρ ι} :
    e.acquires = true ↔ ∃ r seen, e = .step r (.waiting seen) := by
  cases e with
  | step r p => cases p <;> simp [acquires]
  | _ => simp [acquires]

theorem acquires_step_of_holds {r : ρ} {p : Point ι} (holds : p.holds = true) :
    (step r p).acquires = false := by
  cases p <;> first | rfl | cases holds

end Event

namespace Run
variable {ρ ι : Type} [DecidableEq ρ] (w : Run ρ ι)

/-- How many events of a kind there are from moment `a` on and before moment `k`. -/
def tally (Q : Event ρ ι → Bool) (a k : Nat) : Nat :=
  (List.range' a (k - a)).countP fun m => Q (w.event m)

@[simp] theorem tally_self (Q : Event ρ ι → Bool) (a : Nat) : w.tally Q a a = 0 := by
  simp [tally]

theorem tally_succ (Q : Event ρ ι → Bool) {a k : Nat} (le : a ≤ k) :
    w.tally Q a (k + 1) = w.tally Q a k + if Q (w.event k) then 1 else 0 := by
  rw [tally, Nat.succ_sub le, List.range'_concat, List.countP_append]
  simp [tally, Nat.add_sub_cancel' le]

section Tally
variable {w} {Q : Event ρ ι → Bool} {a k : Nat} {e : Event ρ ι}

theorem tally_succ_of (le : a ≤ k) (he : w.event k = e) (own : Q e = true) :
    w.tally Q a (k + 1) = w.tally Q a k + 1 := by
  rw [w.tally_succ Q le, he, own]
  rfl

theorem tally_succ_of_not (le : a ≤ k) (he : w.event k = e) (other : Q e = false) :
    w.tally Q a (k + 1) = w.tally Q a k := by
  rw [w.tally_succ Q le, he, other]
  rfl

end Tally

theorem tally_mono (Q : Event ρ ι → Bool) {a j k : Nat} (aj : a ≤ j) (jk : j ≤ k) :
    w.tally Q a j ≤ w.tally Q a k := by
  induction k, jk using Nat.le_induction with
  | base => exact le_rfl
  | succ k jk ih => exact ih.trans (w.tally_succ Q (aj.trans jk) ▸ Nat.le_add_right _ _)

section Places
variable {w} {j k : Nat} {r : ρ} {p p' : Point ι}

/-- A read that has not got further stands where it stood. -/
theorem eq_of_rank_eq (h : w.reads j r = some p) (h' : w.reads k r = some p') (le : j ≤ k)
    (same : p'.rank = p.rank) : p' = p := by
  obtain ⟨p₁, at₁, stays⟩ := w.reads_stay (Q := fun q => q = p ∨ q.rank < p.rank)
    (by
      rintro c q runs (rfl | lt)
      · exact .inr (Point.rank_next_lt runs c)
      · exact .inr ((Point.rank_next_lt runs c).trans lt))
    (by
      rintro i g o (rfl | lt)
      · exact .inr (Point.rank_listed_lt (p := .listing i g) rfl o)
      · exact .inr ((Point.rank_listed_lt (p := .listing i g) rfl o).trans lt))
    h (.inl rfl) le
  obtain rfl := Option.some.inj (at₁.symm.trans h')
  rcases stays with rfl | lt
  · rfl
  · omega

/-- A read takes a step of each kind once. -/
theorem step_once (h : w.event j = .step r p) (h' : w.event k = .step r p')
    (same : p.rank = p'.rank) : j = k := by
  have first {m n : Nat} {q q' : Point ι} (hm : w.event m = .step r q)
      (hn : w.event n = .step r q') (same : q.rank = q'.rank) : n ≤ m := by
    have further : (q.next (w.cache m)).2.rank < q.rank := Point.rank_next_lt (runs_of_step hm) _
    exact Nat.le_of_lt_succ (w.lt_of_rank_lt (reads_of_step hn) (reads_succ_of_step hm) (by omega))
  exact Nat.le_antisymm (first h' h same.symm) (first h h' same)

theorem bound_succ {i : ι} (bound : (w.cache k).bound = some i) :
    (w.cache (k + 1)).bound = some i := by
  cases he : w.event k with
  | step q p => rw [cache_succ_of_step he, Point.next_bound, bound]
  | start j =>
    have offered : w.cache (k + 1) = (w.cache k).offer j := by
      simp [cache, w.state_succ, he, Shared.after]
    rw [offered, Cache.offer_of_bound bound, bound]
  | idle | invalidate | enter | report =>
    rw [← bound]
    simp [cache, state_succ, he, Shared.after, Cache.invalidate]

theorem started_mono {a : Nat} (started : (w.cache a).isStarted = true) (le : a ≤ k) :
    (w.cache k).isStarted = true := by
  induction k, le using Nat.le_induction with
  | base => exact started
  | succ k _ ih =>
    obtain ⟨i, bound⟩ := Option.isSome_iff_exists.mp ih
    exact Option.isSome_iff_exists.mpr ⟨i, bound_succ bound⟩

theorem not_holds_of_free (free : (w.cache k).held = false) (h : w.reads k r = some p) :
    p.holds = false := by
  by_contra holds
  have held : (w.cache k).held = true := (w.exclusive k).held h (by simpa using holds)
  rw [free] at held
  cases held

/-- Nobody but the holder of the lock is somewhere where it is held. -/
theorem holder_eq {q : ρ} (hq : w.reads k q = some p) (hp : p.holds = true)
    (hr : w.reads k r = some p') (hp' : p'.holds = true) : q = r ∧ p = p' := by
  obtain rfl := alone hq hp hr hp'
  exact ⟨rfl, Option.some.inj (hq.symm.trans hr)⟩

/-- The cells are changed by invalidations, by who holds the lock and by who takes it. -/
theorem cache_succ_of_other {e : Event ρ ι} (started : (w.cache k).isStarted = true)
    (he : w.event k = e) (quiet : e.invalidates = false) (untaken : e.acquires = false)
    (outside : ∀ q p, e = .step q p → p.holds = false) : w.cache (k + 1) = w.cache k := by
  cases e with
  | step q p =>
    rw [cache_succ_of_step he, Point.next_of_not_holds (outside q p rfl)]
    rintro seen rfl
    cases untaken
  | start j =>
    obtain ⟨i, bound⟩ := Option.isSome_iff_exists.mp started
    have offered : w.cache (k + 1) = (w.cache k).offer j := by
      simp [cache, w.state_succ, he, Shared.after]
    rw [offered, Cache.offer_of_bound bound]
  | invalidate => cases quiet
  | idle | enter | report => simp [cache, state_succ, he, Shared.after]

end Places

/-- From moment `a` on, when the cache is stale and the lock free, until moment `b`, when the lock
is free again, reads take the lock one after another that have all sampled the count of rebuilds
since moment `a` and before any of them took it. Nothing is invalidated but while somebody lists,
and the listings come to what `O` says in the order in which they end. -/
structure Queue (a b : Nat) (O : Nat → Listing.Report) : Prop where
  le : a ≤ b
  started : (w.cache a).isStarted = true
  stale : (w.cache a).isValid = false
  free : (w.cache a).held = false
  freed : (w.cache b).held = false
  sampled : ∀ k r seen, a ≤ k → k < b → w.event k = .step r (.waiting seen) →
    ∃ j, a ≤ j ∧ w.event j = .step r .sampling ∧ w.tally Event.acquires a j = 0
  quiet : ∀ k, a ≤ k → k < b → w.event k = .invalidate →
    ∃ r i g, w.reads k r = some (.listing i g)
  listings : ∀ j k r i g o, a ≤ k → k < b → w.Lists j k r i g o →
    O (w.tally Event.reports a k) = ⟨o, w.tally Event.invalidates j k⟩

/-- How far a queue has come at moment `k`. What the read comes to that has its turn is settled by
what is left of it. -/
inductive Stage (a : Nat) (O : Nat → Listing.Report) (k : Nat) : Prop
  | between (free : (w.cache k).held = false)
      (queued : (w.cache a).queued O (w.tally Event.acquires a k) =
        (w.cache k, w.tally Event.reports a k))
  | working {r p i} (at' : w.reads k r = some p) (holds : p.holds = true)
      (busy : ∀ i g, p ≠ .listing i g) (turn : w.tally Event.acquires a k = i + 1)
      (comes : (w.cache k).outcome O p (w.tally Event.reports a k) = (w.cache a).inQueue O i)
  | listing {r i g n j} {c : Cache ι} (at' : w.reads k r = some (.listing i g)) (begun : j < k)
      (asked : w.event j = .step r (.asking i g))
      (cache : w.cache k = c.invalidateBy (w.tally Event.invalidates j k))
      (turn : w.tally Event.acquires a k = n + 1)
      (comes : c.outcome O (.listing i g) (w.tally Event.reports a k) = (w.cache a).inQueue O n)

namespace Stage
variable {w} {a k : Nat} {O : Nat → Listing.Report}

/-- An event that changes nothing for the queue. -/
theorem skip {e : Event ρ ι} (stage : w.Stage a O k) (le : a ≤ k)
    (started : (w.cache a).isStarted = true) (he : w.event k = e) (untaken : e.acquires = false)
    (unreported : e.reports = false) (quiet : e.invalidates = false)
    (outside : ∀ q p, e = .step q p → p.holds = false)
    (others : ∀ q p, w.reads k q = some p → p.holds = true → e.reader? ≠ some q) :
    w.Stage a O (k + 1) := by
  have same : w.cache (k + 1) = w.cache k :=
    cache_succ_of_other (started_mono started le) he quiet untaken outside
  have turns := tally_succ_of_not le he untaken
  have reports := tally_succ_of_not le he unreported
  have stays {r : ρ} {p : Point ι} (at' : w.reads k r = some p) (holds : p.holds = true) :
      w.reads (k + 1) r = some p := by
    rw [reads_succ_of_ne (he ▸ others r p at' holds), at']
  cases stage with
  | between free queued => exact .between (same ▸ free) (by rw [turns, reports, same, queued])
  | working at' holds busy turn comes =>
    exact .working (stays at' holds) holds busy (turns.trans turn) (by rw [same, reports, comes])
  | listing at' begun asked cache turn comes =>
    refine .listing (stays at' rfl) (begun.trans k.lt_succ_self) asked ?_ (turns.trans turn)
      (by rw [reports, comes])
    rw [same, tally_succ_of_not begun.le he quiet, cache]

theorem acquire {r : ρ} {seen : Nat} (stage : w.Stage a O k) (le : a ≤ k)
    (he : w.event k = .step r (.waiting seen)) (own : seen = (w.cache a).completed) :
    w.Stage a O (k + 1) := by
  have free := free_of_step he
  have turns : w.tally Event.acquires a (k + 1) = w.tally Event.acquires a k + 1 :=
    tally_succ_of le he rfl
  have reports : w.tally Event.reports a (k + 1) = w.tally Event.reports a k :=
    tally_succ_of_not le he rfl
  cases stage with
  | between _ queued =>
    refine .working (reads_succ_of_step he) rfl (by simp [Point.next]) turns ?_
    rw [cache_succ_of_step he, reports, Cache.outcome_next O (w.cache k) rfl, own, Cache.inQueue,
      queued]
  | working at' holds => cases holds.symm.trans (not_holds_of_free free at')
  | listing at' => cases not_holds_of_free free at'

/-- An invalidation while somebody lists. -/
theorem invalidate (stage : w.Stage a O k) (le : a ≤ k) (he : w.event k = .invalidate) {r : ρ}
    {i : ι} {g : Nat} (lists : w.reads k r = some (.listing i g)) : w.Stage a O (k + 1) := by
  have turns : w.tally Event.acquires a (k + 1) = w.tally Event.acquires a k :=
    tally_succ_of_not le he rfl
  have reports : w.tally Event.reports a (k + 1) = w.tally Event.reports a k :=
    tally_succ_of_not le he rfl
  cases stage with
  | between free => cases not_holds_of_free free lists
  | working at' holds busy =>
    obtain ⟨rfl, rfl⟩ := holder_eq lists rfl at' holds
    exact absurd rfl (busy i g)
  | @listing q i' g' n j c at' begun asked cache turn comes =>
    refine .listing ((reads_succ_of_ne (by simp [he, Event.reader?])).trans at')
      (begun.trans k.lt_succ_self) asked ?_ (turns.trans turn) (by rw [reports, comes])
    rw [cache_succ_of_invalidate he, cache, tally_succ_of begun.le he rfl, Cache.invalidateBy_eq,
      Cache.invalidateBy_eq]
    rfl

/-- A step of the read that has its turn. -/
theorem goOn {r : ρ} {p : Point ι} (stage : w.Stage a O k) (le : a ≤ k)
    (he : w.event k = .step r p) (holds : p.holds = true) : w.Stage a O (k + 1) := by
  have runs := runs_of_step he
  have turns : w.tally Event.acquires a (k + 1) = w.tally Event.acquires a k :=
    tally_succ_of_not le he (Event.acquires_step_of_holds holds)
  have reports : w.tally Event.reports a (k + 1) = w.tally Event.reports a k :=
    tally_succ_of_not le he rfl
  cases stage with
  | between free => cases holds.symm.trans (not_holds_of_free free (reads_of_step he))
  | listing at' =>
    obtain ⟨rfl, rfl⟩ := holder_eq at' rfl (reads_of_step he) holds
    cases runs
  | @working q p' i at' holds' busy turn comes =>
    obtain ⟨rfl, rfl⟩ := holder_eq at' holds' (reads_of_step he) holds
    have next : w.reads (k + 1) q = some (p'.next (w.cache k)).2 := reads_succ_of_step he
    have comes' : (w.cache (k + 1)).outcome O (p'.next (w.cache k)).2
        (w.tally Event.reports a (k + 1)) = (w.cache a).inQueue O i := by
      rw [cache_succ_of_step he, reports, Cache.outcome_next O _ runs, comes]
    by_cases release : ∃ x, p' = .releasing x
    · obtain ⟨x, rfl⟩ := release
      refine .between (by rw [cache_succ_of_step he]; rfl) ?_
      rw [turns, turn, Cache.queued, ← Cache.inQueue, ← comes']
      exact congrArg Prod.snd (Cache.outcome_of_done O _ (Cache.resume_finished _ x))
    have holds'' : (p'.next (w.cache k)).2.holds = true :=
      Point.holds_next holds fun x eq => release ⟨x, eq⟩
    by_cases asks : ∃ i g, p' = .asking i g
    · obtain ⟨i', g, rfl⟩ := asks
      refine .listing next k.lt_succ_self he ?_ (turns.trans turn) comes'
      rw [tally_succ_of_not le_rfl he rfl, tally_self]
      rfl
    · refine .working next holds'' (fun i g eq => ?_) (turns.trans turn) comes'
      exact asks ⟨i, g, Point.eq_asking_of_next runs eq⟩

/-- The end of a listing. -/
theorem report {r : ρ} {i : ι} {g : Nat} {o : Except Error (List App)} (stage : w.Stage a O k)
    (le : a ≤ k) (he : w.event k = .report r i g o)
    (own : ∀ j, w.Lists j k r i g o →
      O (w.tally Event.reports a k) = ⟨o, w.tally Event.invalidates j k⟩) :
    w.Stage a O (k + 1) := by
  have lists := reads_of_report he
  have turns : w.tally Event.acquires a (k + 1) = w.tally Event.acquires a k :=
    tally_succ_of_not le he rfl
  have reports : w.tally Event.reports a (k + 1) = w.tally Event.reports a k + 1 :=
    tally_succ_of le he rfl
  have same : w.cache (k + 1) = w.cache k := by simp [cache, w.state_succ, he, Shared.after]
  cases stage with
  | between free => cases not_holds_of_free free lists
  | working at' holds busy =>
    obtain ⟨rfl, rfl⟩ := holder_eq lists rfl at' holds
    exact absurd rfl (busy i g)
  | @listing q i' g' n j c at' begun asked cache turn comes =>
    obtain ⟨rfl, same'⟩ := holder_eq at' rfl lists rfl
    obtain ⟨rfl, rfl⟩ := Point.listing.inj same'
    obtain ⟨j', listed⟩ := w.lists_of_report he
    obtain rfl := step_once asked listed.begins rfl
    refine .working (reads_succ_of_report he) (Point.holds_listed g' o)
      (by cases o <;> simp [Point.listed]) (turns.trans turn) ?_
    rw [same, reports, cache, ← comes, Cache.outcome_listing, own j listed]

end Stage

namespace Queue
variable {w} {a b k : Nat} {O : Nat → Listing.Report} (queue : w.Queue a b O)

include queue

/-- Before anybody has taken the lock the count is what it was, so everybody sampled the same. -/
theorem seen_eq (stages : ∀ m, a ≤ m → m ≤ k → w.Stage a O m) (ak : a ≤ k) (kb : k < b) {r : ρ}
    {seen : Nat} (he : w.event k = .step r (.waiting seen)) : seen = (w.cache a).completed := by
  obtain ⟨j, aj, samples, untaken⟩ := queue.sampled k r seen ak kb he
  have jk : j < k :=
    w.lt_of_rank_lt (reads_of_step samples) (reads_of_step he) (by simp [Point.rank])
  have waits : w.reads (j + 1) r = some (.waiting (w.cache j).completed) :=
    reads_succ_of_step samples
  have same := eq_of_rank_eq waits (reads_of_step he) jk rfl
  obtain rfl := Point.waiting.inj same
  cases stages j aj jk.le with
  | between _ queued =>
    rw [untaken] at queued
    exact congrArg (·.1.completed) queued.symm
  | working _ _ _ turn | listing _ _ _ _ turn =>
    rw [untaken] at turn
    cases turn

theorem stage_succ (stages : ∀ m, a ≤ m → m ≤ k → w.Stage a O m) (ak : a ≤ k) (kb : k < b) :
    w.Stage a O (k + 1) := by
  have stage := stages k ak le_rfl
  cases he : w.event k with
  | invalidate =>
    obtain ⟨r, i, g, lists⟩ := queue.quiet k ak kb he
    exact stage.invalidate ak he lists
  | report r i g o => exact stage.report ak he fun j => queue.listings j k r i g o ak kb
  | step r p =>
    by_cases wait : ∃ seen, p = .waiting seen
    · obtain ⟨seen, rfl⟩ := wait
      exact stage.acquire ak he (queue.seen_eq stages ak kb he)
    cases holds : p.holds with
    | true => exact stage.goOn ak he holds
    | false =>
      have untaken : (Event.step r p).acquires = false := by
        cases p <;> first | rfl | exact absurd ⟨_, rfl⟩ wait
      refine stage.skip ak queue.started he untaken rfl rfl ?_ ?_
      · rintro q p' ⟨⟩
        exact holds
      · rintro q p' at' holds' ⟨⟩
        obtain rfl := Option.some.inj (at'.symm.trans (reads_of_step he))
        cases holds.symm.trans holds'
  | enter r =>
    refine stage.skip ak queue.started he rfl rfl rfl (fun _ _ => nofun) ?_
    rintro q p' at' - ⟨⟩
    cases at'.symm.trans (reads_of_enter he)
  | idle | start =>
    exact stage.skip ak queue.started he rfl rfl rfl (fun _ _ => nofun) fun _ _ _ _ => nofun

theorem stage (ak : a ≤ k) (kb : k ≤ b) : w.Stage a O k := by
  induction k using Nat.strong_induction_on with
  | _ k ih =>
    rcases Nat.lt_or_eq_of_le ak with lt | rfl
    · obtain ⟨k, rfl⟩ : ∃ m, k = m + 1 := ⟨k - 1, by omega⟩
      exact queue.stage_succ (fun m am mk => ih m (by omega) am (by omega)) (by omega) (by omega)
    · refine .between queue.free ?_
      rw [tally_self, tally_self]
      rfl

/-- The turn ends with what the read comes to. -/
theorem released {r : ρ} {x : Except Error Snapshot} {n : Nat} (ak : a ≤ k) (kb : k ≤ b)
    (he : w.event k = .step r (.releasing x)) (turn : w.tally Event.acquires a k = n + 1) :
    ((w.cache a).inQueue O n).1 = x := by
  have at' := reads_of_step he
  cases queue.stage ak kb with
  | between free => cases not_holds_of_free free at'
  | listing lists =>
    cases (holder_eq lists rfl at' rfl).2
  | working works holds _ turn' comes =>
    obtain ⟨rfl, rfl⟩ := holder_eq works holds at' rfl
    obtain rfl := Nat.succ.inj (turn'.symm.trans turn)
    rw [← comes, Cache.outcome_of_done O _ (Cache.resume_releasing _ x)]

/-- Who has taken the lock has its turn until it is answered as if the turns came one by one. -/
theorem answered {j : Nat} {r : ρ} {seen : Nat} (aj : a ≤ j)
    (taken : w.event j = .step r (.waiting seen)) (jk : j < k) (kb : k ≤ b) :
    (∃ p, w.reads k r = some p ∧ p.holds = true ∧
      w.tally Event.acquires a k = w.tally Event.acquires a j + 1) ∨
    w.reads k r =
      some (.finished ((w.cache a).inQueue O (w.tally Event.acquires a j)).1) := by
  induction k, jk using Nat.le_induction with
  | base =>
    exact .inl ⟨_, reads_succ_of_step taken, rfl, tally_succ_of aj taken rfl⟩
  | succ k jk ih =>
    have ak : a ≤ k := aj.trans (Nat.le_of_succ_le jk)
    rcases ih (Nat.le_of_succ_le kb) with ⟨p, at', holds, turn⟩ | finished
    · have untaken : (w.event k).acquires = false := by
        by_contra acquires
        obtain ⟨q, seen', he⟩ := Event.acquires_eq_true_iff.mp (by simpa using acquires)
        cases holds.symm.trans (not_holds_of_free (free_of_step he) at')
      have turn' := (tally_succ_of_not ak rfl untaken).trans turn
      by_cases own : (w.event k).reader? = some r
      · rcases Event.reader?_eq_some own with he | ⟨q, he⟩ | ⟨i, g, o, he⟩
        · cases at'.symm.trans (reads_of_enter he)
        · obtain rfl := Option.some.inj (at'.symm.trans (reads_of_step he))
          by_cases release : ∃ x, p = .releasing x
          · obtain ⟨x, rfl⟩ := release
            rw [queue.released ak (Nat.le_of_succ_le kb) he turn]
            exact .inr (reads_succ_of_step he)
          · refine .inl ⟨_, reads_succ_of_step he, ?_, turn'⟩
            exact Point.holds_next holds fun x eq => release ⟨x, eq⟩
        · exact .inl ⟨_, reads_succ_of_report he, Point.holds_listed g o, turn'⟩
      · exact .inl ⟨p, (reads_succ_of_ne own).trans at', holds, turn'⟩
    · obtain ⟨p, at'⟩ := w.exists_reads finished k.le_succ
      have last : p.rank = 0 := Nat.le_zero.mp (w.rank_le finished at' k.le_succ)
      obtain rfl := eq_of_rank_eq finished at' k.le_succ last
      exact .inr at'

theorem pending : (w.cache a).Pending (w.cache a).completed where
  free := queue.free
  started := queue.started
  behind := by
    have stale : (w.cache a).fresh? = none := by
      have invalid := queue.stale
      rwa [Cache.isValid, Option.isSome_eq_false_iff, Option.isNone_iff_eq_none] at invalid
    exact Cache.behind_of_stale stale (w.coherent a).bounded
  own := .inl rfl

/-- When all have had their turns the cache is as if these had come one by one. -/
theorem ended : (w.cache a).queued O (w.tally Event.acquires a b) =
    (w.cache b, w.tally Event.reports a b) := by
  cases queue.stage queue.le le_rfl with
  | between _ queued => exact queued
  | working at' holds => cases holds.symm.trans (not_holds_of_free queue.freed at')
  | listing at' => cases not_holds_of_free queue.freed at'

end Queue

/-- Of the listings that the readers of a queue may make one decides: the first that fails or that
no invalidation comes into, else the last. So many are made and no more. Who takes the lock before
gets what its own listing came to, and everybody after gets what the one came to that decides, which
alone decides whether the cache is valid. -/
theorem queue_accounts {a b n : Nat} {O : Nat → Listing.Report} (queue : w.Queue a b O)
    (pos : 0 < n) (readers : w.tally Event.acquires a b = n) :
    ∃ last, Listing.Report.Decides O n last ∧
      (∀ last', Listing.Report.Decides O n last' → last' = last) ∧
      (w.cache b).attempts = (w.cache a).attempts + (last + 1) ∧
      w.tally Event.reports a b = last + 1 ∧
      (∀ k r seen, a ≤ k → k < b → w.event k = .step r (.waiting seen) →
        w.reads b r = some (.finished
          (Listing.answer O (w.cache a).generation (min (w.tally Event.acquires a k) last)))) ∧
      ((w.cache b).isValid = true ↔ (O last).Renews) := by
  obtain ⟨last, decides⟩ := Listing.Report.exists_decides O pos
  have ended := queue.ended
  have all : min n (last + 1) = last + 1 := Nat.min_eq_right (Nat.succ_le_of_lt decides.lt)
  rw [readers, Cache.queued_eq queue.pending decides le_rfl, all, Prod.mk.injEq] at ended
  obtain ⟨cache, listings⟩ := ended
  refine ⟨last, decides, fun _ other => other.unique decides, ?_, listings.symm, ?_, ?_⟩
  · rw [← cache, Cache.attempts_rebuiltBy]
  · intro k r seen ak kb taken
    have lt : w.tally Event.acquires a k < n := by
      have next : w.tally Event.acquires a (k + 1) = w.tally Event.acquires a k + 1 :=
        tally_succ_of ak taken rfl
      have upTo : w.tally Event.acquires a (k + 1) ≤ w.tally Event.acquires a b :=
        w.tally_mono Event.acquires (ak.trans k.le_succ) (Nat.succ_le_of_lt kb)
      omega
    rw [← Cache.inQueue_eq queue.pending decides lt]
    rcases queue.answered ak taken kb le_rfl with ⟨p, at', holds, -⟩ | finished
    · cases holds.symm.trans (not_holds_of_free queue.freed at')
    · exact finished
  · have own := Cache.pending_rebuiltBy queue.pending decides.before
    rw [← cache, Cache.rebuiltBy, Cache.isValid_rebuilt_iff own.behind]

/-- Three readers wait. An invalidation comes into the first listing, and the second fails. -/
def contended : Run Nat Unit :=
  .scheduled ([.start ()] ++ ([0, 1, 2].flatMap fun r => List.replicate 3 (.goOn r (.ok []))) ++
    List.replicate 7 (.goOn 0 (.ok [])) ++ [.invalidate] ++ List.replicate 4 (.goOn 0 (.ok [])) ++
    List.replicate 11 (.goOn 1 (.error (.provider "gone"))) ++
    List.replicate 5 (.goOn 2 (.ok [])))

def contendedReports (j : Nat) : Listing.Report :=
  if j = 0 then ⟨.ok [], 1⟩ else ⟨.error (.provider "gone"), 0⟩

theorem contended_queue : contended.Queue 1 38 contendedReports where
  le := by decide
  started := rfl
  stale := rfl
  free := rfl
  freed := rfl
  sampled k r seen _ kb he := by
    have turns : ∀ k < 38, (contended.event k).acquires = true → k = 10 ∨ k = 22 ∨ k = 33 := by
      decide
    have first : contended.event 10 = .step 0 (.waiting 0) := rfl
    have second : contended.event 22 = .step 1 (.waiting 0) := rfl
    have third : contended.event 33 = .step 2 (.waiting 0) := rfl
    rcases turns k kb (by rw [he]; rfl) with rfl | rfl | rfl
    · obtain ⟨rfl, -⟩ := Event.step.inj (first.symm.trans he)
      exact ⟨3, by decide, rfl, rfl⟩
    · obtain ⟨rfl, -⟩ := Event.step.inj (second.symm.trans he)
      exact ⟨6, by decide, rfl, rfl⟩
    · obtain ⟨rfl, -⟩ := Event.step.inj (third.symm.trans he)
      exact ⟨9, by decide, rfl, rfl⟩
  quiet k _ kb he := by
    have once : ∀ k < 38, (contended.event k).invalidates = true → k = 17 := by decide
    obtain rfl := once k kb (by rw [he]; rfl)
    exact ⟨0, (), 0, rfl⟩
  listings j k r i g o _ kb lists := by
    have ends : ∀ k < 38, (contended.event k).reports = true → k = 18 ∨ k = 30 := by decide
    have first : contended.event 18 = .report 0 () 0 (.ok []) := rfl
    have second : contended.event 30 = .report 1 () 1 (.error (.provider "gone")) := rfl
    rcases ends k kb (by rw [lists.ends]; rfl) with rfl | rfl
    · obtain ⟨rfl, -, rfl, rfl⟩ := Event.report.inj (first.symm.trans lists.ends)
      have begins : contended.event 16 = .step 0 (.asking () 0) := rfl
      obtain rfl := step_once lists.begins begins rfl
      rfl
    · obtain ⟨rfl, -, rfl, rfl⟩ := Event.report.inj (second.symm.trans lists.ends)
      have begins : contended.event 29 = .step 1 (.asking () 1) := rfl
      obtain rfl := step_once lists.begins begins rfl
      rfl

theorem contended_queue_accounts :
    contended.Queue 1 38 contendedReports ∧ contended.tally Event.acquires 1 38 = 3 ∧
    contended.reads 38 0 = some (.finished (.ok (Snapshot.build 0 []))) ∧
    contended.reads 38 1 = some (.finished (.error (.provider "gone"))) ∧
    ∃ last, Listing.Report.Decides contendedReports 3 last ∧
      (contended.cache 38).attempts = (contended.cache 1).attempts + (last + 1) ∧
      contended.reads 38 2 = some (.finished (Listing.answer contendedReports 0 (min 2 last))) ∧
      ((contended.cache 38).isValid = true ↔ (contendedReports last).Renews) := by
  obtain ⟨last, decides, -, attempts, -, answers, valid⟩ :=
    contended.queue_accounts contended_queue (by decide) rfl
  have third := answers 33 2 0 (by decide) (by decide) rfl
  exact ⟨contended_queue, rfl, rfl, rfl, last, decides, attempts, third, valid⟩

end Run

end OpPolicy
