import OpPolicy.Proofs.Cache.Freshness

set_option autoImplicit false

/-!
No rebuild is made twice. Once the published snapshot is as new as the counter and no read is on its
way to another one, that stays so until the next invalidation (`Run.settled_succ`): reads that still
wait for the lock find the snapshot fresh, one after another.
-/

namespace OpPolicy

namespace Point
variable {ι : Type}

/-- Whether a read has found the snapshot stale under the lock and has not replaced it yet. -/
def searches : Point ι → Bool
  | recounting _ | seeking | loading _ | counting .. | asking .. | listing .. => true
  | failed _ | built _ => true
  | _ => false

theorem holds_of_searches {p : Point ι} (h : p.searches = true) : p.holds = true := by
  cases p <;> simp_all [searches, holds]

/-- Only a stale or missing snapshot sends a read on its way to another one. -/
theorem searches_of_next {c : Cache ι} {p : Point ι} (h : (p.next c).2.searches = true) :
    p.searches = true ∨ c.published = none ∨
      ∃ seen s, p = recomparing seen s ∧ s.generation ≠ c.generation := by
  cases p with
  | locked seen =>
    cases published : c.published with
    | none => exact .inr (.inl rfl)
    | some s => simp [next, published, searches] at h
  | recomparing seen s =>
    by_cases fresh : s.generation = c.generation
    · simp [next, fresh, searches] at h
    · exact .inr (.inr ⟨seen, s, rfl, fresh⟩)
  | _ => simp only [next] at h; (repeat' split at h) <;> simp_all [searches]

/-- Generation `g`, and no other, is loaded for the read's rebuild. -/
def Loaded (g : Nat) (p : Point ι) : Prop :=
  p.rank < 8 ∧ ∀ g', p.carried? = some g' → g' = g

theorem Loaded.next {g : Nat} {p : Point ι} (h : p.Loaded g) (c : Cache ι)
    (runs : p.status = .runs) : (p.next c).2.Loaded g := by
  constructor
  · exact (rank_next_lt runs c).trans h.1
  · intro g' carried
    rcases carried?_next c p with same | ⟨early, -⟩
    · exact h.2 g' (same ▸ carried)
    · exact absurd h.1 (Nat.not_lt.mpr early)

theorem Loaded.listed {i : ι} {g g₀ : Nat} (h : (listing i g₀).Loaded g)
    (o : Except Error (List App)) : (listed g₀ o : Point ι).Loaded g := by
  constructor
  · exact (rank_listed_lt (p := listing i g₀) rfl o).trans h.1
  · intro g' carried
    obtain rfl := carried?_listed carried
    exact h.2 g₀ rfl

end Point

/-- The published snapshot is fresh, and no read is on its way to another one. -/
structure Shared.Settled {ρ ι : Type} (s : Shared ρ ι) : Prop where
  fresh : ∃ t, s.cache.published = some t ∧ t.generation = s.cache.generation
  idle : ∀ {r p}, s.reads r = some p → p.searches = false

namespace Run
variable {ρ ι : Type} [DecidableEq ρ] (w : Run ρ ι)

theorem settled_succ {k : Nat} (settled : (w.state k).Settled) (quiet : w.event k ≠ .invalidate) :
    (w.state (k + 1)).Settled := by
  obtain ⟨t, published, fresh⟩ := settled.fresh
  constructor
  · refine ⟨t, ?_, fresh.trans (w.generation_succ_of_ne quiet).symm⟩
    cases he : (w.event k).publishes? with
    | none =>
      have same := w.published_succ k
      rw [he, Option.none_or] at same
      exact same.trans published
    | some u =>
      obtain ⟨r, built⟩ := Event.publishes?_eq_some.mp he
      cases settled.idle (reads_of_step built)
  · intro r p h
    by_contra searching
    rcases w.reads_succ_cases h with
      ⟨-, rfl⟩ | ⟨q, he, rfl⟩ | ⟨i, g, o, he, rfl⟩ | ⟨-, before⟩
    · exact searching rfl
    · rcases Point.searches_of_next (by simpa using searching) with
        before | missing | ⟨seen, s, rfl, stale⟩
      · rw [settled.idle (reads_of_step he)] at before
        cases before
      · cases missing.symm.trans published
      · have read : (w.cache k).published = some s := w.sound (reads_of_step he)
        obtain rfl := Option.some.inj (read.symm.trans published)
        exact stale fresh
    · cases settled.idle (reads_of_report he)
    · exact searching (settled.idle before)

theorem settled {k n : Nat} (settled : (w.state k).Settled) (le : k ≤ n)
    (quiet : ∀ m, k ≤ m → m < n → w.event m ≠ .invalidate) : (w.state n).Settled := by
  induction n, le using Nat.le_induction with
  | base => exact settled
  | succ n le ih =>
    exact w.settled_succ (ih fun m km mn => quiet m km (mn.trans n.lt_succ_self))
      (quiet n le n.lt_succ_self)

/-- The publication of a fresh snapshot leaves no read on its way to another one. -/
theorem settled_of_built {k : Nat} {q : ρ} {s : Snapshot} (h : w.event k = .step q (.built s))
    (fresh : s.generation = (w.cache k).generation) : (w.state (k + 1)).Settled := by
  have published : (w.cache (k + 1)).published = some s := by
    rw [w.published_succ, h]
    rfl
  constructor
  · refine ⟨s, published, fresh.trans (w.generation_succ_of_ne ?_).symm⟩
    simp [h]
  · intro r p at'
    by_cases eq : q = r
    · subst eq
      obtain rfl := Option.some.inj (at'.symm.trans (reads_succ_of_step h))
      rfl
    · by_contra searching
      have before : w.reads k r = some p := by
        rw [← at']
        exact (reads_succ_of_ne (by simpa [h, Event.reader?] using eq)).symm
      have holds := Point.holds_of_searches (by simpa using searching)
      exact eq (alone (reads_of_step h) rfl before holds)

theorem loading_lt_built {j k : Nat} {q : ρ} {i : ι} {s : Snapshot}
    (loads : w.event j = .step q (.loading i)) (built : w.event k = .step q (.built s)) : j < k :=
  w.lt_of_rank_lt (reads_of_step loads) (reads_of_step built) (by simp [Point.rank])

theorem generation_of_built {j k : Nat} {q : ρ} {i : ι} {s : Snapshot}
    (loads : w.event j = .step q (.loading i)) (built : w.event k = .step q (.built s)) :
    s.generation = (w.cache j).generation := by
  have first : (Point.counting i (w.cache j).generation : Point ι).Loaded (w.cache j).generation :=
    ⟨by simp [Point.rank], by simp [Point.carried?]⟩
  obtain ⟨p, at', -, carried⟩ := w.reads_stay (fun c _ runs h => h.next c runs)
    (fun _ _ o h => h.listed o) (reads_succ_of_step loads) first (w.loading_lt_built loads built)
  obtain rfl := Option.some.inj (at'.symm.trans (reads_of_step built))
  exact carried _ rfl

/-- At most one listing goes on, the two counts differ by the rebuild that goes on, what is
published is ever newer, and a snapshot for which no invalidation came too late is the last one
that anybody lists for. -/
theorem rebuilds_once :
    (∀ k q r i j g h, w.reads k q = some (.listing i g) → w.reads k r = some (.listing j h) →
      q = r) ∧
    (∀ k, ((w.state k).Rebuilding → (w.cache k).attempts = (w.cache k).completed + 1) ∧
      (¬ (w.state k).Rebuilding → (w.cache k).attempts = (w.cache k).completed)) ∧
    (∀ j k q r s t, j < k → w.event j = .step q (.built s) → w.event k = .step r (.built t) →
      s.generation < t.generation) ∧
    ∀ j k n q i s, w.event j = .step q (.loading i) → w.event k = .step q (.built s) →
      (∀ m, j ≤ m → m < n → w.event m ≠ .invalidate) → k < n →
      ∀ r i g, w.event n ≠ .step r (.asking i g) := by
  refine ⟨fun k q r i j g h hq hr => alone hq rfl hr rfl, w.attempts_eq,
    fun j k q r s t lt hs ht => w.publishes_lt lt hs ht, ?_⟩
  intro j k n q i s loads built quiet kn r i' g asks
  have jk := w.loading_lt_built loads built
  have unchanged : (w.cache k).generation = (w.cache j).generation :=
    w.generation_eq jk.le fun m jm mk => quiet m jm (mk.trans kn)
  have fresh : s.generation = (w.cache k).generation :=
    (w.generation_of_built loads built).trans unchanged.symm
  have settled : (w.state n).Settled := w.settled (w.settled_of_built built fresh) kn
    fun m km mn => quiet m (jk.le.trans (Nat.le_of_succ_le km)) mn
  cases settled.idle (reads_of_step asks)

end Run

end OpPolicy
