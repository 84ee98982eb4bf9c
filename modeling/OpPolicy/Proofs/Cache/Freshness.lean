import OpPolicy.Proofs.Cache.Exclusion

set_option autoImplicit false

/-!
No read is answered from a listing older than an invalidation that came before the read. The
published snapshot never is newer than the generation counter, and while a read holds the lock and
has found the snapshot stale it stays older than the generation that the read is about to rebuild
for (`Point.Sound`). So every publication is newer than the one before (`Run.publishes_lt`), every
read is answered with a generation not older than the counter at its beginning (`Run.carried_ge`),
and every snapshot is what one listing came to (`Run.read_of_one_listing`).
-/

namespace OpPolicy

/-- Nothing as new as `g` is published. -/
def Cache.Behind {ι : Type} (c : Cache ι) (g : Nat) : Prop :=
  ∀ s, c.published = some s → s.generation < g

namespace Point
variable {ι : Type} {c : Cache ι} {p : Point ι}

/-- What a read knows of the cache where it stands. Only the holder of the lock knows anything. -/
def Sound (c : Cache ι) : Point ι → Prop
  | recomparing _ s | completing s => c.published = some s
  | recounting _ | seeking | loading _ | failed _ => c.Behind c.generation
  | counting _ g | asking _ g | listing _ g => c.Behind g ∧ g ≤ c.generation
  | built s => c.Behind s.generation ∧ s.generation ≤ c.generation
  | _ => True

theorem sound_of_not_holds (h : p.holds = false) : p.Sound c := by
  cases p <;> simp_all [holds, Sound]

theorem Sound.mono {d : Cache ι} (h : p.Sound c) (published : d.published = c.published)
    (generation : c.generation ≤ d.generation) : p.Sound d := by
  have behind {g g' : Nat} (hg : c.Behind g) (le : g ≤ g') : d.Behind g' := fun s hs =>
    Nat.lt_of_lt_of_le (hg s (published ▸ hs)) le
  cases p with
  | recomparing _ s | completing s => exact published.trans h
  | recounting | seeking | loading | failed => exact behind h generation
  | counting _ g | asking _ g | listing _ g => exact ⟨behind h.1 le_rfl, h.2.trans generation⟩
  | built s => exact ⟨behind h.1 le_rfl, h.2.trans generation⟩
  | _ => trivial

theorem Sound.next (h : p.Sound c) (bounded : c.Behind (c.generation + 1)) :
    (p.next c).2.Sound (p.next c).1 := by
  cases p with
  | locked seen =>
    cases published : c.published with
    | none => simp [Point.next, published, Sound, Cache.Behind]
    | some s => simp [Point.next, published, Sound]
  | recomparing seen s =>
    by_cases fresh : s.generation = c.generation
    · simp [Point.next, fresh, Sound]
    · have stale : c.Behind c.generation := by
        intro t ht
        obtain rfl : s = t := Option.some.inj (h.symm.trans ht)
        have := bounded s ht
        omega
      simpa [Point.next, fresh, Sound] using stale
  | recounting seen =>
    simp only [Point.next]
    (repeat' split) <;> first | exact h | trivial
  | seeking =>
    simp only [Point.next]
    split
    · exact h
    · trivial
  | loading i => exact ⟨h, le_rfl⟩
  | counting i g | asking i g | listing i g => exact h
  | built s => rfl
  | entered | comparing =>
    simp only [Point.next]
    split <;> trivial
  | sampling | waiting | failed | completing | releasing | finished => trivial

theorem Sound.listed {i : ι} {g : Nat} (h : (listing i g).Sound c)
    (o : Except Error (List App)) : (listed g o).Sound c := by
  cases o with
  | error e => exact fun s hs => Nat.lt_of_lt_of_le (h.1 s hs) h.2
  | ok apps => simpa [Point.listed, Sound] using h

/-- The generation that a read is going to be answered with. -/
def carried? : Point ι → Option Nat
  | counting _ g | asking _ g | listing _ g => some g
  | built s | completing s | releasing (.ok s) | finished (.ok s) => some s.generation
  | _ => none

/-- A generation is taken from the counter, and is settled once a rebuild has loaded it. -/
theorem carried?_next (c : Cache ι) (p : Point ι) :
    (p.next c).2.carried? = p.carried? ∨
      8 ≤ p.rank ∧ (p.next c).2.carried? = some c.generation := by
  cases p with
  | releasing r => cases r <;> exact .inl rfl
  | comparing s | recomparing _ s =>
    simp only [next]
    split
    · next fresh => exact .inr ⟨by simp [rank], congrArg some fresh⟩
    · exact .inl rfl
  | loading => exact .inr ⟨by simp [rank], rfl⟩
  | entered | locked | recounting | seeking =>
    simp only [next]
    (repeat' split) <;> exact .inl rfl
  | _ => exact .inl rfl

theorem carried?_listed {g g' : Nat} {o : Except Error (List App)}
    (h : (listed g o : Point ι).carried? = some g') : g = g' := by
  cases o <;> simp_all [listed, carried?]

end Point

structure Shared.Coherent {ρ ι : Type} (s : Shared ρ ι) : Prop where
  bounded : s.cache.Behind (s.cache.generation + 1)
  sound : ∀ {r p}, s.reads r = some p → p.Sound s.cache

namespace Run
variable {ρ ι : Type} [DecidableEq ρ] (w : Run ρ ι)

theorem coherent (k : Nat) : (w.state k).Coherent := by
  induction k with
  | zero => constructor <;> simp [w.first, Cache.Behind]
  | succ k ih =>
    have later : (w.cache k).generation ≤ (w.cache (k + 1)).generation :=
      w.generation_mono k.le_succ
    constructor
    · intro s hs
      change (w.cache (k + 1)).published = some s at hs
      change s.generation < (w.cache (k + 1)).generation + 1
      rw [w.published_succ] at hs
      cases he : (w.event k).publishes? with
      | none =>
        rw [he, Option.none_or] at hs
        exact Nat.lt_of_lt_of_le (ih.bounded s hs) (Nat.succ_le_succ later)
      | some t =>
        obtain ⟨r, built⟩ := Event.publishes?_eq_some.mp he
        have sound := ih.sound (reads_of_step built)
        obtain rfl : t = s := by simpa [he] using hs
        exact Nat.lt_succ_of_le (sound.2.trans later)
    · intro r p h
      rcases w.reads_succ_cases h with
        ⟨-, rfl⟩ | ⟨q, he, rfl⟩ | ⟨i, g, o, he, rfl⟩ | ⟨other, before⟩
      · trivial
      · have sound := (ih.sound (reads_of_step he)).next ih.bounded
        rwa [← cache, ← cache_succ_of_step he] at sound
      · have sound := (ih.sound (reads_of_report he)).listed o
        have same : w.cache (k + 1) = w.cache k := by
          simp [cache, w.state_succ, he, Shared.after]
        rwa [← cache, ← same] at sound
      -- the step of somebody else: it publishes nothing while `r` holds the lock
      · cases hp : p.holds with
        | false => exact Point.sound_of_not_holds hp
        | true =>
          refine (ih.sound before).mono ?_ later
          have published := w.published_succ k
          rwa [published_of_other before hp other, Option.none_or] at published

theorem sound {k : Nat} {r : ρ} {p : Point ι} (h : w.reads k r = some p) :
    p.Sound (w.cache k) := (w.coherent k).sound h

theorem published_mono {j k : Nat} (le : j ≤ k) {s : Snapshot}
    (h : (w.cache j).published = some s) :
    ∃ t, (w.cache k).published = some t ∧ s.generation ≤ t.generation := by
  induction k, le using Nat.le_induction with
  | base => exact ⟨s, h, le_rfl⟩
  | succ k _ ih =>
    obtain ⟨t, ht, le⟩ := ih
    have published := w.published_succ k
    cases he : (w.event k).publishes? with
    | none => exact ⟨t, by rw [published, he, Option.none_or, ht], le⟩
    | some u =>
      obtain ⟨r, built⟩ := Event.publishes?_eq_some.mp he
      have behind := (w.sound (reads_of_step built)).1 t ht
      exact ⟨u, by rw [published, he, Option.some_or], le.trans behind.le⟩

theorem published_of_built {j k : Nat} (lt : j < k) {r : ρ} {s : Snapshot}
    (h : w.event j = .step r (.built s)) :
    ∃ t, (w.cache k).published = some t ∧ s.generation ≤ t.generation := by
  refine w.published_mono (Nat.succ_le_of_lt lt) ?_
  rw [w.published_succ, h]
  rfl

/-- Every publication is newer than those before. -/
theorem publishes_lt {j k : Nat} (lt : j < k) {q r : ρ} {s t : Snapshot}
    (hs : w.event j = .step q (.built s)) (ht : w.event k = .step r (.built t)) :
    s.generation < t.generation := by
  obtain ⟨u, hu, le⟩ := w.published_of_built lt hs
  exact Nat.lt_of_le_of_lt le ((w.sound (reads_of_step ht)).1 u hu)

/-- A read is answered with nothing older than its beginning. -/
theorem carried_ge {a k : Nat} {r : ρ} {p : Point ι} {g : Nat} (ha : w.event a = .enter r)
    (h : w.reads k r = some p) (hg : p.carried? = some g) : (w.cache a).generation ≤ g := by
  suffices all : ∀ a g, w.event a = .enter r → p.carried? = some g →
      (w.cache a).generation ≤ g from all a g ha hg
  refine w.reads_induction (P := fun _ r p => ∀ a g, w.event a = .enter r →
    p.carried? = some g → (w.cache a).generation ≤ g) ?_ ?_ ?_ ?_ h
  · intro k r _ a g _ hg
    cases hg
  · intro k r p he ih a g ha hg
    rcases Point.carried?_next (w.cache k) p with same | ⟨-, loaded⟩
    · exact ih a g ha (same ▸ hg)
    · obtain rfl := Option.some.inj (loaded.symm.trans hg)
      exact w.generation_mono (w.lt_of_enter ha (reads_of_step he)).le
  · intro k r i g o _ ih a g' ha hg
    obtain rfl := Point.carried?_listed hg
    exact ih a g ha rfl
  · exact fun _ _ _ _ _ ih => ih

/-- Read `q` has inventory `i` listed from moment `j` to moment `k`, for generation `g`, and the
listing comes to `o`. -/
structure Lists (j k : Nat) (q : ρ) (i : ι) (g : Nat) (o : Except Error (List App)) : Prop where
  lt : j < k
  begins : w.event j = .step q (.asking i g)
  ends : w.event k = .report q i g o
  /-- It is one listing: the read does nothing else meanwhile. -/
  apart : w.Between (·.reader? ≠ some q) j k

theorem exists_asking {k : Nat} {r : ρ} {i : ι} {g : Nat} (h : w.reads k r = some (.listing i g)) :
    ∃ j < k, w.event j = .step r (.asking i g) ∧ w.Between (·.reader? ≠ some r) j k := by
  refine w.reads_induction (P := fun k r p => ∀ i g, p = .listing i g →
    ∃ j < k, w.event j = .step r (.asking i g) ∧ w.Between (·.reader? ≠ some r) j k)
    ?_ ?_ ?_ ?_ h i g rfl
  · intro k r _ i g eq
    cases eq
  · intro k r p he _ i g eq
    obtain rfl := Point.eq_asking_of_next (runs_of_step he) eq
    exact ⟨k, k.lt_succ_self, he, w.between_succ_self _ k⟩
  · intro k r i g o _ _ i' g' eq
    cases o <;> cases eq
  · intro k r p other _ ih i g eq
    obtain ⟨j, jk, asked, apart⟩ := ih i g eq
    exact ⟨j, jk.trans k.lt_succ_self, asked, apart.succ other⟩

theorem lists_of_report {k : Nat} {q : ρ} {i : ι} {g : Nat} {o : Except Error (List App)}
    (h : w.event k = .report q i g o) : ∃ j, w.Lists j k q i g o := by
  obtain ⟨j, jk, asked, apart⟩ := w.exists_asking (reads_of_report h)
  exact ⟨j, jk, asked, h, apart⟩

/-- Rebuilds fail with their listings alone, and snapshots are built from them alone. -/
theorem lists_of_reported {k : Nat} {r : ρ} {p : Point ι} (h : w.reads k r = some p)
    (hp : p.reported = true) :
    ∃ n < k, ∃ j i g o, w.Lists j n r i g o ∧ p = Point.listed g o := by
  refine w.exists_earlier (Q := (· = p)) ?_ ?_ ?_ h rfl
  · rintro k - rfl
    cases hp
  · rintro k q - rfl
    rw [Point.next_reported] at hp
    cases hp
  · rintro k i g o he rfl
    obtain ⟨j, lists⟩ := w.lists_of_report he
    exact .inr ⟨j, i, g, o, lists, rfl⟩

theorem lists_of_built {k : Nat} {r : ρ} {s : Snapshot} (h : w.reads k r = some (.built s)) :
    ∃ j n i apps, n < k ∧ w.Lists j n r i s.generation (.ok apps) ∧
      s = Snapshot.build s.generation apps := by
  obtain ⟨n, nk, j, i, g, o, lists, eq⟩ := w.lists_of_reported h rfl
  cases o with
  | error e => cases eq
  | ok apps =>
    obtain rfl : s = Snapshot.build g apps := Point.built.inj eq
    refine ⟨j, n, i, apps, nk, ?_, ?_⟩ <;> rw [Snapshot.generation_build]
    exact lists

theorem built_of_published {k : Nat} {s : Snapshot} (h : (w.cache k).published = some s) :
    ∃ j < k, ∃ q, w.event j = .step q (.built s) := by
  induction k with
  | zero => simp at h
  | succ k ih =>
    rw [w.published_succ] at h
    cases he : (w.event k).publishes? with
    | none =>
      rw [he, Option.none_or] at h
      obtain ⟨j, jk, built⟩ := ih h
      exact ⟨j, jk.trans k.lt_succ_self, built⟩
    | some t =>
      obtain rfl : t = s := by simpa [he] using h
      exact ⟨k, k.lt_succ_self, Event.publishes?_eq_some.mp he⟩

end Run

namespace Point
variable {ι : Type}

/-- The published snapshot that a read has seen. -/
def seen? : Point ι → Option Snapshot
  | comparing s | recomparing _ s | completing s | releasing (.ok s) | finished (.ok s) => some s
  | _ => none

theorem seen?_next {c : Cache ι} {p : Point ι} {s : Snapshot} (h : (p.next c).2.seen? = some s) :
    p.seen? = some s ∨ c.published = some s ∨ p = .built s := by
  cases p with
  | releasing r => exact .inl (by cases r <;> exact h)
  | _ => simp only [next] at h; (repeat' split at h) <;> simp_all [seen?]

@[simp] theorem listed_seen? (g : Nat) (o : Except Error (List App)) :
    (listed g o : Point ι).seen? = none := by
  cases o <;> rfl

end Point

namespace Run
variable {ρ ι : Type} [DecidableEq ρ] (w : Run ρ ι)

theorem built_of_seen {k : Nat} {r : ρ} {p : Point ι} {s : Snapshot} (h : w.reads k r = some p)
    (hs : p.seen? = some s) : ∃ j < k, ∃ q, w.event j = .step q (.built s) := by
  refine w.exists_earlier (Q := fun p => p.seen? = some s) ?_ ?_ ?_ h hs
  · intro k _ hs
    cases hs
  · intro k p he hs
    rcases Point.seen?_next hs with before | published | rfl
    · exact .inl before
    · obtain ⟨j, jk, built⟩ := w.built_of_published published
      exact .inr ⟨j, jk.le, built⟩
    · exact .inr ⟨k, le_rfl, r, he⟩
  · intro k i g o _ hs
    simp at hs

/-- Words of 64 bits are wide enough: with fewer invalidations than that, a read that compares
words finds a snapshot fresh exactly if its generation is the counter's. -/
theorem word_eq_iff {k : Nat} {r : ρ} {p : Point ι} {s : Snapshot}
    (few : w.invalidations k < UInt64.size) (h : w.reads k r = some p) (hs : p.seen? = some s) :
    UInt64.ofNat s.generation = UInt64.ofNat (w.cache k).generation ↔
      s.generation = (w.cache k).generation := by
  obtain ⟨j, jk, q, built⟩ := w.built_of_seen h hs
  have le : s.generation ≤ (w.cache k).generation :=
    (w.sound (reads_of_step built)).2.trans (w.generation_mono jk.le)
  rw [← w.generation_eq_invalidations] at few
  rw [← UInt64.toNat_inj, UInt64.toNat_ofNat_of_lt' few,
    UInt64.toNat_ofNat_of_lt' (Nat.lt_of_le_of_lt le few)]

theorem Lists.generation_le {j k : Nat} {q : ρ} {i : ι} {g : Nat} {o : Except Error (List App)}
    (lists : w.Lists j k q i g o) : g ≤ (w.cache j).generation :=
  (w.sound (reads_of_step lists.begins)).2

/-- A read that is answered is answered from one listing, which came to a success and began after
every invalidation that came before the read. -/
theorem read_of_one_listing {l : Nat} {r : ρ} {s : Snapshot}
    (h : w.reads l r = some (.finished (.ok s))) :
    ∃ a < l, w.event a = .enter r ∧ (w.cache a).generation ≤ s.generation ∧
      ∃ j k q i apps, k < l ∧ w.Lists j k q i s.generation (.ok apps) ∧
        s = Snapshot.build s.generation apps ∧
        ∀ n < a, w.event n = .invalidate → n < j := by
  obtain ⟨a, al, entered⟩ := w.exists_enter h
  have fresh : (w.cache a).generation ≤ s.generation := w.carried_ge entered h rfl
  obtain ⟨m, ml, q, built⟩ := w.built_of_seen h rfl
  obtain ⟨j, k, i, apps, km, lists, eq⟩ := w.lists_of_built (reads_of_step built)
  refine ⟨a, al, entered, fresh, j, k, q, i, apps, km.trans ml, lists, eq, ?_⟩
  intro n na invalidated
  by_contra not
  have older := w.generation_lt invalidated (Nat.le_of_not_lt not) na
  have begun := lists.generation_le
  omega

/-- An invalidation comes while read `0` lists, and read `1` begins after it. -/
def overtaken : Run Nat Unit :=
  .scheduled ([.start ()] ++ List.replicate 10 (.goOn 0 (.ok [])) ++
    [.invalidate, .goOn 1 (.ok [])] ++ List.replicate 4 (.goOn 0 (.ok [])) ++
    List.replicate 15 (.goOn 1 (.ok [])))

theorem overtaken_read_of_one_listing :
    overtaken.reads 32 0 = some (.finished (.ok (Snapshot.build 0 []))) ∧
    overtaken.reads 32 1 = some (.finished (.ok (Snapshot.build 1 []))) ∧
    ∃ a < 32, overtaken.event a = .enter 1 ∧ (overtaken.cache a).generation ≤ 1 ∧
      ∃ j k q i apps, k < 32 ∧ overtaken.Lists j k q i 1 (.ok apps) ∧
        Snapshot.build 1 [] = Snapshot.build 1 apps ∧
        ∀ n < a, overtaken.event n = .invalidate → n < j :=
  ⟨rfl, rfl, overtaken.read_of_one_listing (r := 1) (s := Snapshot.build 1 []) rfl⟩

end Run

end OpPolicy
