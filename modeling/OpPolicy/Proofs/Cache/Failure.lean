import OpPolicy.Proofs.Cache.Freshness

set_option autoImplicit false

/-!
What becomes of failed rebuilds. A rebuild that fails publishes nothing, and the snapshot that it
leaves is stale until the next publication (`Run.behind_of_failed`). A read that fails does so for
one of three causes (`Run.Cause`), and when it takes another rebuild's message that rebuild ended
during the read, as the last one before the read had the lock.
-/

namespace OpPolicy

/-- What `isValid` answers that looks at the snapshot in `c` and later at the counter in `d`. -/
def Cache.isValidAcross {ι : Type} (c d : Cache ι) : Bool :=
  c.published.any (·.generation = d.generation)

theorem Cache.isValidAcross_self {ι : Type} (c : Cache ι) : c.isValidAcross c = c.isValid := by
  unfold Cache.isValidAcross Cache.isValid Cache.fresh?
  cases c.published with
  | none => rfl
  | some s => by_cases fresh : s.generation = c.generation <;> simp [fresh, Option.filter]

namespace Point
variable {ι : Type}

/-- The error that a read is going to fail with. -/
def refusal? : Point ι → Option Error
  | releasing (.error e) | finished (.error e) => some e
  | _ => none

theorem refusal?_next {c : Cache ι} {p : Point ι} {e : Error}
    (h : (p.next c).2.refusal? = some e) :
    p.refusal? = some e ∨
    (∃ seen message, p = recounting seen ∧ c.completed ≠ seen ∧ c.lastFailure = some message ∧
      e = .provider message) ∨
    (p = seeking ∧ c.bound = none ∧ e = unbound) ∨
    ∃ message, p = failed message ∧ e = .provider message := by
  cases p with
  | releasing r => exact .inl (by cases r <;> exact h)
  | recounting seen =>
    simp only [next] at h
    (repeat' split at h) <;> simp_all [refusal?]
  | seeking =>
    simp only [next] at h
    split at h <;> simp_all [refusal?]
  | failed message => exact .inr (.inr (.inr ⟨message, rfl, (Option.some.inj h).symm⟩))
  | _ => simp only [next] at h; (repeat' split at h) <;> simp_all [refusal?]

@[simp] theorem listed_refusal? (g : Nat) (o : Except Error (List App)) :
    (listed g o : Point ι).refusal? = none := by
  cases o <;> rfl

/-- The count of completed rebuilds that a read sampled before it took the lock. -/
def sampled? : Point ι → Option Nat
  | waiting seen | locked seen | recomparing seen _ | recounting seen => some seen
  | _ => none

theorem sampled?_next {c : Cache ι} {p : Point ι} {seen : Nat}
    (h : (p.next c).2.sampled? = some seen) :
    p.sampled? = some seen ∨ p = sampling ∧ seen = c.completed := by
  cases p <;> simp only [next] at h <;> (repeat' split at h) <;> simp_all [sampled?]

@[simp] theorem listed_sampled? (g : Nat) (o : Except Error (List App)) :
    (listed g o : Point ι).sampled? = none := by
  cases o <;> rfl

end Point

namespace Run
variable {ρ ι : Type} [DecidableEq ρ] (w : Run ρ ι)

/-- Why read `r` fails with a message, if it began at moment `a` and has failed by moment `l`. -/
inductive Cause (r : ρ) (a l : Nat) : Error → Prop
  /-- No inventory was bound when the read looked for one. -/
  | unbound {k} (begun : a < k) (ended : k < l) (looks : w.event k = .step r .seeking)
      (missing : (w.cache k).bound = none) : Cause r a l Point.unbound
  /-- The read's own rebuild failed. -/
  | own {k message} (begun : a < k) (ended : k < l)
      (fails : w.event k = .step r (.failed message)) : Cause r a l (.provider message)
  /-- The last rebuild that ended before the read took the lock failed, and it ended during the
  read. The read has nothing listed itself. -/
  | shared {k n q seen message} (begun : a < k)
      (fails : w.event k = .step q (.failed message)) (before : k < n)
      (locks : w.event n = .step r (.waiting seen)) (ended : n < l)
      (last : w.Between (·.verdict? = none) k n)
      (silent : ∀ m i g, w.event m ≠ .step r (.asking i g)) : Cause r a l (.provider message)

variable {w} in
theorem Cause.mono {r : ρ} {a k l : Nat} {e : Error} (h : w.Cause r a k e) (le : k ≤ l) :
    w.Cause r a l e := by
  cases h with
  | unbound begun ended looks missing => exact .unbound begun (ended.trans_le le) looks missing
  | own begun ended fails => exact .own begun (ended.trans_le le) fails
  | shared begun fails before locks ended last silent =>
    exact .shared begun fails before locks (ended.trans_le le) last silent

theorem failed_of_lastFailure {k : Nat} {message : String}
    (h : (w.cache k).lastFailure = some message) :
    ∃ j < k, (∃ q, w.event j = .step q (.failed message)) ∧
      w.Between (·.verdict? = none) j k := by
  induction k with
  | zero => simp at h
  | succ k ih =>
    rw [w.lastFailure_succ] at h
    cases verdict : (w.event k).verdict? with
    | none =>
      rw [verdict] at h
      obtain ⟨j, jk, fails, last⟩ := ih h
      exact ⟨j, jk.trans k.lt_succ_self, fails, last.succ verdict⟩
    | some v =>
      obtain rfl : v = some message := by simpa [verdict] using h
      exact ⟨k, k.lt_succ_self, Event.verdict?_eq_failed.mp verdict, w.between_succ_self _ k⟩

theorem sampled_during {k : Nat} {r : ρ} {p : Point ι} {seen : Nat} (h : w.reads k r = some p)
    (hp : p.sampled? = some seen) :
    ∃ j < k, seen = (w.cache j).completed ∧ ∀ a, w.event a = .enter r → a < j := by
  refine w.exists_earlier (Q := fun p => p.sampled? = some seen) ?_ ?_ ?_ h hp
  · intro k _ hp
    cases hp
  · intro k p he hp
    rcases Point.sampled?_next hp with before | ⟨rfl, rfl⟩
    · exact .inl before
    · exact .inr ⟨k, le_rfl, rfl, fun a ha => w.lt_of_enter ha (reads_of_step he)⟩
  · intro k i g o _ hp
    simp at hp

/-- No rebuild ends between the moment a read takes the lock and the moment it counts again. -/
theorem locked_since {k : Nat} {r : ρ} {seen : Nat} (h : w.reads k r = some (.recounting seen)) :
    ∃ n < k, w.event n = .step r (.waiting seen) ∧ w.Between (·.verdict? = none) n k := by
  refine w.reads_induction (P := fun k r p => p.holds = true → p.sampled? = some seen →
    ∃ n < k, w.event n = .step r (.waiting seen) ∧ w.Between (·.verdict? = none) n k)
    ?_ ?_ ?_ ?_ h rfl rfl
  · intro k r _ hp
    cases hp
  · intro k r p he ih holds sampled
    rcases Point.holds_of_next (runs_of_step he) holds with held | ⟨seen', rfl⟩
    · rcases Point.sampled?_next sampled with before | ⟨rfl, -⟩
      · obtain ⟨n, nk, locks, since⟩ := ih held before
        refine ⟨n, nk.trans k.lt_succ_self, locks, since.succ ?_⟩
        rw [he, Event.verdict?_step]
        cases p <;> simp_all [Point.verdict?, Point.sampled?]
      · cases held
    · obtain rfl : seen' = seen := Option.some.inj sampled
      exact ⟨k, k.lt_succ_self, he, w.between_succ_self _ k⟩
  · intro k r i g o _ _ _ sampled
    simp at sampled
  · intro k r p other at' ih holds sampled
    obtain ⟨n, nk, locks, since⟩ := ih holds sampled
    exact ⟨n, nk.trans k.lt_succ_self, locks, since.succ (verdict_of_other at' holds other)⟩

theorem not_asking_of_recounting {k : Nat} {r : ρ} {seen : Nat} {x : Except Error Snapshot}
    (h : w.reads k r = some (.recounting seen)) (h' : w.reads (k + 1) r = some (.releasing x))
    (m : Nat) (i : ι) (g : Nat) : w.event m ≠ .step r (.asking i g) := by
  intro asks
  have listing : w.reads (m + 1) r = some (.listing i g) := reads_succ_of_step asks
  have km : k < m + 1 := w.lt_of_rank_lt h listing (by simp [Point.rank])
  have mk : m < k + 1 := w.lt_of_rank_lt (reads_of_step asks) h' (by simp [Point.rank])
  obtain rfl : k = m := by omega
  cases h.symm.trans (reads_of_step asks)

/-- A failure that a read finds recorded, and has not counted before, ended during the read. -/
theorem cause_of_recounting {a k : Nat} {r : ρ} {seen : Nat} {message : String}
    (entered : w.event a = .enter r) (he : w.event k = .step r (.recounting seen))
    (other : (w.cache k).completed ≠ seen) (last : (w.cache k).lastFailure = some message) :
    w.Cause r a (k + 1) (.provider message) := by
  have at' := reads_of_step he
  obtain ⟨j, jk, ⟨q, fails⟩, quiet⟩ := w.failed_of_lastFailure last
  obtain ⟨n, nk, locks, since⟩ := w.locked_since at'
  obtain ⟨b, bk, counted, during⟩ := w.sampled_during at' rfl
  -- the count has changed since it was sampled, so the failed rebuild ended after that
  have bj : b ≤ j := by
    by_contra not
    refine other (counted ▸ w.completed_eq bk.le fun m bm mk => ?_)
    exact quiet m (Nat.lt_of_lt_of_le (Nat.lt_of_not_le not) bm) mk
  have jn : j < n := by
    by_contra not
    rcases Nat.lt_or_eq_of_le (Nat.le_of_not_lt not) with nj | rfl
    · have none := since j nj jk
      simp [fails, Point.verdict?] at none
    · simp [locks] at fails
  have next : w.reads (k + 1) r = some (.releasing (.error (.provider message))) := by
    rw [reads_succ_of_step he]
    simp [Point.next, other, last]
  exact .shared (Nat.lt_of_lt_of_le (during a entered) bj) fails jn locks
    (nk.trans k.lt_succ_self) (fun m jm mn => quiet m jm (mn.trans nk))
    (w.not_asking_of_recounting at' next)

theorem cause_of_refusal {a k : Nat} {r : ρ} {p : Point ι} {e : Error}
    (entered : w.event a = .enter r) (h : w.reads k r = some p) (hp : p.refusal? = some e) :
    w.Cause r a k e := by
  obtain ⟨j, jk, cause⟩ : ∃ j < k, w.Cause r a (j + 1) e := by
    refine w.exists_earlier (Q := fun p => p.refusal? = some e) ?_ ?_ ?_ h hp
    · intro k _ hp
      cases hp
    · intro k p he hp
      have ak : a < k := w.lt_of_enter entered (reads_of_step he)
      rcases Point.refusal?_next hp with
        before | ⟨seen, message, rfl, other, last, rfl⟩ | ⟨rfl, missing, rfl⟩ |
          ⟨message, rfl, rfl⟩
      · exact .inl before
      · exact .inr ⟨k, le_rfl, w.cause_of_recounting entered he other last⟩
      · exact .inr ⟨k, le_rfl, .unbound ak k.lt_succ_self he missing⟩
      · exact .inr ⟨k, le_rfl, .own ak k.lt_succ_self he⟩
    · intro k i g o _ hp
      simp at hp
  exact cause.mono (Nat.succ_le_of_lt jk)

theorem published_of_failed {j k : Nat} {q : ρ} {seen : Nat} {message : String}
    (locks : w.event j = .step q (.waiting seen)) (fails : w.event k = .step q (.failed message)) :
    (w.cache (k + 1)).published = (w.cache j).published := by
  have locked : w.reads (j + 1) q = some (.locked seen) := reads_succ_of_step locks
  have failed : w.reads k q = some (.failed message) := reads_of_step fails
  have jk : j + 1 < k := w.lt_of_rank_lt locked failed (by simp [Point.rank])
  refine w.published_eq (by omega) fun n jn nk => ?_
  rcases Nat.lt_or_eq_of_le jn with lt | rfl
  · obtain ⟨p, at', above, below⟩ : ∃ p, w.reads n q = some p ∧ 4 ≤ p.rank ∧ p.rank ≤ 12 :=
      w.exists_reads_between locked failed lt (Nat.le_of_lt_succ nk)
    by_cases own : (w.event n).reader? = some q
    -- where it would publish, the read is past the place where it fails
    · rcases Event.reader?_eq_some own with he | ⟨p', he⟩ | ⟨i, g, o, he⟩
      · rw [he]; rfl
      · obtain rfl := Option.some.inj (at'.symm.trans (reads_of_step he))
        rw [he]
        cases p <;> simp_all [Point.rank, Point.publishes?]
      · rw [he]; rfl
    · have holds : p.holds = true := Point.holds_iff_rank.mpr (by omega)
      exact published_of_other at' holds own
  · rw [locks]; rfl

/-- After a failed rebuild the published snapshot is stale until the next publication. -/
theorem behind_of_failed {k b : Nat} {q : ρ} {message : String}
    (fails : w.event k = .step q (.failed message)) (kb : k < b)
    (quiet : w.Between (·.publishes? = none) k b) :
    (w.cache b).published = (w.cache k).published ∧
      ∀ s, (w.cache k).published = some s → s.generation < (w.cache k).generation := by
  refine ⟨w.published_eq kb.le fun n kn nb => ?_, w.sound (reads_of_step fails)⟩
  rcases Nat.lt_or_eq_of_le kn with lt | rfl
  · exact quiet n lt nb
  · rw [fails]; rfl

theorem not_valid_of_failed {k a b : Nat} {q : ρ} {message : String}
    (fails : w.event k = .step q (.failed message)) (ka : k < a) (ab : a ≤ b)
    (quiet : w.Between (·.publishes? = none) k a) :
    (w.cache a).isValidAcross (w.cache b) = false := by
  obtain ⟨same, stale⟩ := w.behind_of_failed fails ka quiet
  have later := w.generation_mono (ka.le.trans ab)
  unfold Cache.isValidAcross
  rw [same]
  cases published : (w.cache k).published with
  | none => rfl
  | some s =>
    have older := stale s published
    simp
    omega

theorem lists_of_failed {k : Nat} {r : ρ} {message : String}
    (h : w.reads k r = some (.failed message)) :
    ∃ j n i g e, n < k ∧ w.Lists j n r i g (.error e) ∧ message = e.providerDetail := by
  obtain ⟨n, nk, j, i, g, o, lists, eq⟩ := w.lists_of_reported h rfl
  cases o with
  | ok apps => cases eq
  | error e => exact ⟨j, n, i, g, e, nk, lists, Point.failed.inj eq⟩

theorem finished_of_failed {k l : Nat} {q : ρ} {message : String} {x : Except Error Snapshot}
    (fails : w.event k = .step q (.failed message)) (h : w.reads l q = some (.finished x)) :
    x = .error (.provider message) := by
  have kl : k < l := w.lt_of_rank_lt (reads_of_step fails) h (by simp [Point.rank])
  obtain ⟨p, at', refused⟩ := w.reads_stay
    (Q := fun p => p = .releasing (.error (.provider message)) ∨
      p = .finished (.error (.provider message)))
    (by rintro c p - (rfl | rfl) <;> exact .inr rfl) (by simp) (reads_succ_of_step fails)
    (.inl rfl) kl
  obtain rfl := Option.some.inj (at'.symm.trans h)
  simpa using refused

/-- Failed rebuilds publish nothing and leave nothing fresh, and their messages are passed on in
time: to the read itself, and to reads that waited for the lock while it failed. -/
theorem failures_in_time :
    (∀ k q message, w.event k = .step q (.failed message) →
      (∀ j seen, w.event j = .step q (.waiting seen) →
        (w.cache (k + 1)).published = (w.cache j).published) ∧
      (∀ a b, k < a → a ≤ b → w.Between (·.publishes? = none) k a →
        (w.cache a).isValidAcross (w.cache b) = false) ∧
      (∀ a l r s, k < a → w.Between (·.publishes? = none) k a → w.event a = .enter r →
        w.reads l r = some (.finished (.ok s)) →
        ∀ n q' t, n < a → w.event n = .step q' (.built t) → t.generation < s.generation) ∧
      (∃ j n i g e, n < k ∧ w.Lists j n q i g (.error e) ∧
        (∀ detail, e = .provider detail → message = detail) ∧
        (e.isProvider = false → message = e.message)) ∧
      ∀ l x, w.reads l q = some (.finished x) → x = .error (.provider message)) ∧
    ∀ l r e, w.reads l r = some (.finished (.error e)) →
      e.isProvider = true ∧ ∃ a < l, w.event a = .enter r ∧ w.Cause r a l e := by
  refine ⟨fun k q message fails => ⟨?_, ?_, ?_, ?_, ?_⟩, ?_⟩
  · exact fun j seen locks => w.published_of_failed locks fails
  · exact fun a b ka ab quiet => w.not_valid_of_failed fails ka ab quiet
  · intro a l r s ka quiet entered finished n q' t na built
    obtain ⟨same, stale⟩ := w.behind_of_failed fails ka quiet
    obtain ⟨u, published, le⟩ := w.published_of_built na built
    have older := stale u (same.symm.trans published)
    have fresh : (w.cache a).generation ≤ s.generation := w.carried_ge entered finished rfl
    have later := w.generation_mono ka.le
    omega
  · obtain ⟨j, n, i, g, e, nk, lists, rfl⟩ := w.lists_of_failed (reads_of_step fails)
    refine ⟨j, n, i, g, e, nk, lists, ?_, ?_⟩
    · rintro detail rfl
      rfl
    · intro other
      cases e <;> first | rfl | cases other
  · exact fun l x finished => w.finished_of_failed fails finished
  · intro l r e finished
    obtain ⟨a, al, entered⟩ := w.exists_enter finished
    have cause := w.cause_of_refusal entered finished rfl
    refine ⟨?_, a, al, entered, cause⟩
    cases cause <;> rfl

/-- Read `1` waits for the lock while read `0` fails. -/
def refused : Run Nat Unit :=
  .scheduled ([.start ()] ++ List.replicate 10 (.goOn 0 (.ok [])) ++
    List.replicate 3 (.goOn 1 (.ok [])) ++ List.replicate 3 (.goOn 0 (.error (.provider "gone"))) ++
    List.replicate 4 (.goOn 1 (.ok [])))

theorem refused_failures_in_time :
    refused.event 15 = .step 0 (.failed "gone") ∧
    refused.reads 21 1 = some (.finished (.error (.provider "gone"))) ∧
    (refused.cache 16).isValidAcross (refused.cache 16) = false ∧
    ∃ a < 21, refused.event a = .enter 1 ∧ refused.Cause 1 a 21 (.provider "gone") := by
  have fails : refused.event 15 = .step 0 (.failed "gone") := rfl
  have answered : refused.reads 21 1 = some (.finished (.error (.provider "gone"))) := rfl
  obtain ⟨failed, caused⟩ := refused.failures_in_time
  obtain ⟨-, notValid, -⟩ := failed 15 0 "gone" fails
  exact ⟨fails, answered, notValid 16 16 (by decide) le_rfl (refused.between_succ_self _ 15),
    (caused 21 1 _ answered).2⟩

end Run

end OpPolicy
