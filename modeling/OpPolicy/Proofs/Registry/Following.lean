import Mathlib.Tactic.IntervalCases
import OpPolicy.Proofs.Cache.Freshness
import OpPolicy.Proofs.Registry.Interleaving
import OpPolicy.Proofs.Snapshot

set_option autoImplicit false

/-!
Which package events a registry hears of while it becomes ready. From its registration on, its
listener stays with the monitor as long as nobody else takes the subscription
(`Service.Run.follows`), and a dispatch that finds it there invalidates the cache before it returns
(`Service.Run.invalidates_of_dispatch`). An event from before the invalidation is not missed either
(`Service.Run.hears_events`). What is missed is an event between the two, if the cache is read there
as well (`Service.Run.overlooks_event`).
-/

namespace OpPolicy

/-- A read is answered from one listing, which began after any moment at which the cache was
invalidated before the read. -/
theorem Run.lists_of_answered {ρ ι : Type} [DecidableEq ρ] (w : Run ρ ι) {n a k : Nat} {r : ρ}
    {s : Snapshot} (invalidated : w.event n = .invalidate) (na : n < a)
    (entered : w.event a = .enter r) (answered : w.reads k r = some (.finished (.ok s))) :
    ∃ j m q i apps, n < j ∧ m < k ∧ w.Lists j m q i s.generation (.ok apps) ∧
      s = Snapshot.build s.generation apps := by
  have fresh : (w.cache a).generation ≤ s.generation := w.carried_ge entered answered rfl
  obtain ⟨l, lk, q, built⟩ := w.built_of_seen answered rfl
  obtain ⟨j, m, i, apps, ml, lists, eq⟩ := w.lists_of_built (reads_of_step built)
  refine ⟨j, m, q, i, apps, ?_, ml.trans lk, lists, eq⟩
  by_contra not
  have older := w.generation_lt invalidated (Nat.le_of_not_lt not) na
  have begun := lists.generation_le
  omega

namespace Monitors
variable {ms : Monitors} {m k : Nat} {l l' : Listener}

theorem mem_register (h : l ∈ ms m) : l ∈ ms.register k l' m := by
  unfold register
  split
  · exact List.mem_append_left _ h
  · exact h

theorem mem_unregister (h : l ∈ ms m) (other : ¬ (k = m ∧ l' = l)) :
    l ∈ ms.unregister k l' m := by
  unfold unregister
  split
  · next here =>
    have ne : l ≠ l' := fun eq => other ⟨here.symm, eq.symm⟩
    simpa [ne] using h
  · exact h

end Monitors

namespace Registry.Call
variable {ι : Type} {r : Registry ι} {p : Call} {l : Listener} {m : Nat}

/-- The listener that a call has of its own or has to drop. -/
def listener? : Call → Option Listener
  | storing _ l | dropping _ l => some l
  | _ => none

/-- Whether the next step takes the subscription. -/
def takes : Call → Bool
  | storing _ _ | stopping => true
  | _ => false

/-- Whether all that may be left to do is to drop a listener. -/
def ending : Call → Bool
  | dropping _ _ | returned => true
  | _ => false

theorem ending_dropped (o : Option (Nat × Listener)) : (dropped o).ending = true := by
  cases o <;> rfl

theorem ending_next (h : p.ending = true) : (p.next r).ending = true := by
  cases p <;> simp_all [ending, next]

theorem serial_le_act (r : Registry ι) (p : Call) : r.serial ≤ (p.act r).serial := by
  cases p with
  | registering m => exact r.serial.le_succ
  | telling e ls => cases ls <;> simp [act]
  | _ => exact le_rfl

theorem subscription_act_of_not_takes (h : p.takes = false) :
    (p.act r).subscription = r.subscription := by
  cases p with
  | storing m l | stopping => cases h
  | telling e ls => cases ls <;> simp [act]
  | _ => rfl

theorem subscription_act (h : (p.act r).subscription = some (m, l)) :
    r.subscription = some (m, l) ∨ p.listener? = some l := by
  cases p with
  | storing k l' =>
    obtain ⟨-, rfl⟩ : k = m ∧ l' = l := by simpa [act] using h
    exact .inr rfl
  | stopping => cases h
  | _ => exact .inl ((subscription_act_of_not_takes rfl).symm.trans h)

theorem next_eq_dropping (h : p.next r = dropping m l) :
    p.takes = true ∧ r.subscription = some (m, l) := by
  cases p with
  | storing k l' | stopping =>
    cases before : r.subscription with
    | none => simp [next, dropped, before] at h
    | some old => simpa [takes, next, dropped, before, Prod.ext_iff] using h
  | telling e ls => cases ls <;> cases h
  | _ => cases h

theorem listener?_next (h : (p.next r).listener? = some l) :
    (l = .own r.serial ∧ ∃ k, p = registering k) ∨ ∃ k, r.subscription = some (k, l) := by
  cases p with
  | registering k => exact .inl ⟨(Option.some.inj h).symm, k, rfl⟩
  | storing k l' | stopping =>
    cases before : r.subscription with
    | none => simp [next, dropped, before, listener?] at h
    | some old =>
      obtain rfl : old.2 = l := by simpa [next, dropped, before, listener?] using h
      exact .inr ⟨old.1, rfl⟩
  | telling e ls => cases ls <;> cases h
  | _ => cases h

theorem mem_monitors_act (h : l ∈ r.monitors m) (kept : p ≠ dropping m l) :
    l ∈ (p.act r).monitors m := by
  cases p with
  | registering k => exact Monitors.mem_register h
  | dropping k l' => exact Monitors.mem_unregister h fun eq => kept (by rw [eq.1, eq.2])
  | telling e ls => cases ls <;> simpa [act] using h
  | _ => exact h

end Registry.Call

namespace Service
variable {ρ κ ι : Type}

/-- The listeners that a registry has made are older than the next one. -/
structure Fresh (s : Service ρ κ ι) : Prop where
  subscribed : ∀ {m n}, s.registry.subscription = some (m, .own n) → n < s.registry.serial
  carried : ∀ {c p n}, s.calls c = some p → p.listener? = some (.own n) → n < s.registry.serial

/-- Call `c` has registered listener `l` with monitor `m`, and nobody is about to drop it. -/
structure Follows (s : Service ρ κ ι) (c : κ) (m : Nat) (l : Listener) : Prop where
  registered : l ∈ s.registry.monitors m
  kept : ∀ d k, s.calls d ≠ some (.dropping k l)
  place : (s.calls c = some (.storing m l) ∧ ∀ k, s.registry.subscription ≠ some (k, l)) ∨
    ∃ p, s.calls c = some p ∧ p.ending = true

variable [DecidableEq ρ] [DecidableEq κ] {s : Service ρ κ ι} {e : Event ρ κ ι}

theorem Fresh.after (h : s.Fresh) (allowed : s.Allows e) : (s.after e).Fresh := by
  cases e with
  | cache e => exact ⟨h.subscribed, h.carried⟩
  | register m l => exact ⟨h.subscribed, h.carried⟩
  | unregister m l => exact ⟨h.subscribed, h.carried⟩
  | begin c p =>
    refine ⟨h.subscribed, fun {d q n} at' own => ?_⟩
    by_cases eq : d = c
    · subst eq
      obtain rfl : p = q := by simpa [Service.after] using at'
      have begins := allowed.2
      cases p <;> simp_all [Registry.Call.begins, Registry.Call.listener?]
    · exact h.carried (by simpa [Service.after, eq] using at') own
  | go c p =>
    have later : s.registry.serial ≤ (p.act s.registry).serial := p.serial_le_act s.registry
    refine ⟨fun {m n} subscribed => ?_, fun {d q n} at' own => ?_⟩
    · rcases Registry.Call.subscription_act subscribed with before | held
      · exact (h.subscribed before).trans_le later
      · exact (h.carried allowed.1 held).trans_le later
    · by_cases eq : d = c
      · subst eq
        obtain rfl : p.next s.registry = q := by simpa [Service.after] using at'
        rcases Registry.Call.listener?_next own with ⟨made, m, rfl⟩ | ⟨m, before⟩
        · obtain rfl := Listener.own.inj made
          exact s.registry.serial.lt_succ_self
        · exact (h.subscribed before).trans_le later
      · exact (h.carried (by simpa [Service.after, eq] using at') own).trans_le later

theorem Fresh.follows (h : s.Fresh) (c : κ) (m : Nat) :
    (s.after (.go c (.registering m))).Follows c m (.own s.registry.serial) := by
  constructor
  · simp [Service.after, Registry.Call.act, Registry.register]
  · intro d k at'
    by_cases eq : d = c
    · simp [Service.after, eq, Registry.Call.next] at at'
    · exact (h.carried (by simpa [Service.after, eq] using at') rfl).false
  · refine .inl ⟨by simp [Service.after, Registry.Call.next], fun k subscribed => ?_⟩
    exact (h.subscribed subscribed).false

section Follows
variable {c d : κ} {m : Nat} {l : Listener} {p : Registry.Call}

omit [DecidableEq ρ] [DecidableEq κ] in
/-- Only a call that takes the subscription has its listener to drop, and that is not `l`. -/
theorem Follows.next_ne_dropping (h : s.Follows c m l) (at' : s.calls d = some p)
    (quiet : d ≠ c → p.takes = false) (k : Nat) : p.next s.registry ≠ .dropping k l := by
  intro eq
  obtain ⟨takes, subscribed⟩ := Registry.Call.next_eq_dropping eq
  by_cases own : d = c
  · subst own
    rcases h.place with ⟨-, unsubscribed⟩ | ⟨q, before, ending⟩
    · exact unsubscribed k subscribed
    · obtain rfl := Option.some.inj (at'.symm.trans before)
      cases p <;> simp_all [Registry.Call.takes, Registry.Call.ending]
  · cases (quiet own).symm.trans takes

omit [DecidableEq ρ] [DecidableEq κ] in
theorem Follows.ending_next (h : s.Follows c m l) (at' : s.calls c = some p) :
    (p.next s.registry).ending = true := by
  rcases h.place with ⟨before, -⟩ | ⟨q, before, ending⟩
  · obtain rfl := Option.some.inj (at'.symm.trans before)
    exact Registry.Call.ending_dropped _
  · obtain rfl := Option.some.inj (at'.symm.trans before)
    exact Registry.Call.ending_next ending

theorem Follows.begin (h : s.Follows c m l) (unknown : s.calls d = none)
    (begins : p.begins = true) : (s.after (.begin d p)).Follows c m l := by
  have other : d ≠ c := by
    rintro rfl
    rcases h.place with ⟨before, -⟩ | ⟨q, before, -⟩ <;> cases unknown.symm.trans before
  refine ⟨h.registered, fun d' k at' => ?_, ?_⟩
  · by_cases eq : d' = d
    · obtain rfl : p = .dropping k l := by simpa [Service.after, eq] using at'
      cases begins
    · exact h.kept d' k (by simpa [Service.after, eq] using at')
  · simpa [Service.after, Function.update_of_ne other.symm] using h.place

theorem Follows.go (h : s.Follows c m l) (at' : s.calls d = some p)
    (quiet : d ≠ c → p.takes = false) : (s.after (.go d p)).Follows c m l := by
  constructor
  · exact Registry.Call.mem_monitors_act h.registered fun eq => h.kept d m (eq ▸ at')
  · intro d' k dropping
    by_cases eq : d' = d
    · exact h.next_ne_dropping at' quiet k (by simpa [Service.after, eq] using dropping)
    · exact h.kept d' k (by simpa [Service.after, eq] using dropping)
  · by_cases own : d = c
    · subst own
      exact .inr ⟨p.next s.registry, by simp [Service.after], h.ending_next at'⟩
    · have subscription : (p.act s.registry).subscription = s.registry.subscription :=
        Registry.Call.subscription_act_of_not_takes (quiet own)
      simpa [Service.after, Function.update_of_ne (Ne.symm own), subscription] using h.place

theorem Follows.after (h : s.Follows c m l) (own : l.isOwn = true) (allowed : s.Allows e)
    (quiet : ∀ d p, e = .go d p → d ≠ c → p.takes = false) : (s.after e).Follows c m l := by
  cases e with
  | cache e => exact ⟨h.registered, h.kept, h.place⟩
  | begin d p => exact h.begin allowed.1 allowed.2
  | go d p => exact h.go allowed.1 (quiet d p rfl)
  | register k l' => exact ⟨Monitors.mem_register h.registered, h.kept, h.place⟩
  | unregister k l' =>
    refine ⟨Monitors.mem_unregister h.registered fun eq => ?_, h.kept, h.place⟩
    have other : l'.isOwn = false := allowed
    rw [eq.2, own] at other
    cases other

end Follows

namespace Run
variable (w : Run ρ κ ι)

theorem fresh (k : Nat) : (w.state k).Fresh := by
  induction k with
  | zero => constructor <;> simp [w.first]
  | succ k ih =>
    rw [w.state_succ]
    exact ih.after (w.steps k).1

/-- Between moments `j` and `k` no call but `c` takes the subscription. -/
def Undisturbed (c : κ) (j k : Nat) : Prop :=
  ∀ n, j < n → n < k → ∀ d p, w.event n = .go d p → d ≠ c → p.takes = false

/-- What is registered stays registered. -/
theorem follows {j k : Nat} {c : κ} {m : Nat} (h : w.event j = .go c (.registering m))
    (undisturbed : w.Undisturbed c j k) (lt : j < k) :
    (w.state k).Follows c m (.own (w.registry j).serial) := by
  induction k, lt using Nat.le_induction with
  | base =>
    rw [w.state_succ, h]
    exact (w.fresh j).follows c m
  | succ k le ih =>
    have before := ih fun n jn nk => undisturbed n jn (nk.trans k.lt_succ_self)
    rw [w.state_succ]
    exact before.after rfl (w.steps k).1 (undisturbed k le k.lt_succ_self)

/-- A dispatch goes on to tell a listener of its event until it has told it. -/
theorem telling_or_invalidated {j k : Nat} {d : κ} {e : PackageEvent} {ls : List Listener}
    {l : Listener} (h : w.calls j d = some (.telling e ls)) (mem : l ∈ ls)
    (hears : l.observer? = none) (le : j ≤ k) :
    (∃ ls, w.calls k d = some (.telling e ls) ∧ l ∈ ls) ∨
      ∃ n, j ≤ n ∧ n < k ∧ (w.event n).onCache = .invalidate := by
  induction k, le using Nat.le_induction with
  | base => exact .inl ⟨ls, h, mem⟩
  | succ k jk ih =>
    rcases ih with ⟨ls, at', mem⟩ | ⟨n, jn, nk, invalidated⟩
    · by_cases own : (w.event k).caller? = some d
      · rcases Event.caller?_eq_some own with ⟨p, he⟩ | ⟨p, he⟩
        · cases (calls_of_begin he).1.symm.trans at'
        · obtain rfl := Option.some.inj ((calls_of_go he).symm.trans at')
          cases mem with
          | head rest =>
            refine .inr ⟨k, jk, k.lt_succ_self, ?_⟩
            simp [he, Event.onCache, Registry.Call.invalidates, hears]
          | tail first mem => exact .inl ⟨_, calls_succ_of_go he, mem⟩
      · exact .inl ⟨ls, by rwa [calls_succ_of_ne own], mem⟩
    · exact .inr ⟨n, jn, nk.trans k.lt_succ_self, invalidated⟩

/-- A dispatch that finds a listener of the registry's own invalidates the cache. -/
theorem invalidates_of_dispatch {t x : Nat} {d : κ} {m : Nat} {e : PackageEvent} {l : Listener}
    (took : w.event t = .go d (.dispatching m e)) (mem : l ∈ (w.registry t).monitors m)
    (own : l.isOwn = true) (ended : w.calls x d = some .returned) :
    ∃ n, t < n ∧ n < x ∧ (w.event n).onCache = .invalidate := by
  have tx : t < x := w.lt_of_returned took ended
  rcases w.telling_or_invalidated (calls_succ_of_go took) mem (Listener.observer?_of_isOwn own) tx
    with ⟨ls, at', -⟩ | invalidated
  · cases at'.symm.trans ended
  · exact invalidated

/-- An event is heard if its dispatch begins before the registry invalidates its cache to become
ready, or looks for listeners once the registry has registered: what is read after both have
returned was listed after the dispatch began. -/
theorem hears_events {c d : κ} {m : Nat} {e : PackageEvent} {i g b t x a k : Nat} {r : ρ}
    {s : Snapshot} (invalidated : w.event i = .go c (.readying m))
    (registered : w.event g = .go c (.registering m))
    (began : w.event b = .begin d (.dispatching m e))
    (took : w.event t = .go d (.dispatching m e))
    (timely : b < i ∨ g < t ∧ w.Undisturbed c g t)
    (ready : w.calls x c = some .returned) (told : w.calls x d = some .returned)
    (entered : w.event a = .cache (.enter r)) (later : x ≤ a)
    (answered : w.reading.reads k r = some (.finished (.ok s))) :
    ∃ j n q i apps, b < j ∧ n < k ∧ w.reading.Lists j n q i s.generation (.ok apps) ∧
      s = Snapshot.build s.generation apps := by
  obtain ⟨n, bn, nx, stale⟩ : ∃ n, b ≤ n ∧ n < x ∧ (w.event n).onCache = .invalidate := by
    rcases timely with before | ⟨after, undisturbed⟩
    · refine ⟨i, before.le, w.lt_of_returned invalidated ready, ?_⟩
      simp [invalidated, Event.onCache, Registry.Call.invalidates]
    · have follows := w.follows registered undisturbed after
      obtain ⟨n, tn, nx, stale⟩ := w.invalidates_of_dispatch took follows.registered rfl told
      exact ⟨n, (w.lt_of_begin began (calls_of_go took)).le.trans tn.le, nx, stale⟩
  have entered' : w.reading.event a = .enter r := by simp [reading, entered, Event.onCache]
  obtain ⟨j, n', q, i, apps, nj, rest⟩ :=
    w.reading.lists_of_answered stale (nx.trans_le later) entered' answered
  exact ⟨j, n', q, i, apps, bn.trans_lt nj, rest⟩

omit w in
theorem event_scheduled_of_le {turns : List (Turn ρ κ ι)} {k : Nat} (ended : turns.length ≤ k) :
    (scheduled turns).event k = .cache .idle := by
  simp [scheduled, List.getElem?_eq_none ended, Service.event, Shared.event]

/-- What an inventory lists at first. -/
def oneApp : List App := [.plain "a" 1 (.single .user)]

/-- What it lists once a second package was added. -/
def bothApps : List App := oneApp ++ [.plain "b" 2 (.single .user)]

/-- A dispatch begins while the registry becomes ready, and finds its listener. -/
def heeding : Run Nat Nat Unit :=
  .scheduled ([.cache (.start ()), .call 0 (.readying 0), .call 0 .returned,
    .call 1 (.dispatching 0 (.added "b" 2)), .call 0 .returned] ++
    List.replicate 3 (.call 1 .returned) ++ [.call 0 .returned] ++
    List.replicate 14 (.cache (.goOn 0 (.ok bothApps))))

theorem heeding_hears_event :
    heeding.reading.reads 23 0 = some (.finished (.ok (Snapshot.build 2 bothApps))) ∧
    ∃ j n q i apps, 3 < j ∧ n < 23 ∧ heeding.reading.Lists j n q i 2 (.ok apps) ∧
      Snapshot.build 2 bothApps = Snapshot.build 2 apps := by
  have answered : heeding.reading.reads 23 0 =
      some (.finished (.ok (Snapshot.build 2 bothApps))) := rfl
  refine ⟨answered, ?_⟩
  have undisturbed : heeding.Undisturbed 0 4 5 := fun n after before => by omega
  have heard := heeding.hears_events (c := 0) (d := 1) (m := 0) (e := .added "b" 2) (i := 2)
    (g := 4) (b := 3) (t := 5) (x := 9) (a := 9) rfl rfl rfl rfl (.inr ⟨by decide, undisturbed⟩)
    rfl rfl rfl le_rfl answered
  rwa [Snapshot.generation_build] at heard

/-- The cache is read between its invalidation and the registration, and an event comes then. From
the event on, the inventory would list the package that was added. -/
def overlooking : Run Nat Nat Unit :=
  .scheduled ([.cache (.start ()), .call 0 (.readying 0), .call 0 .returned] ++
    List.replicate 14 (.cache (.goOn 0 (.ok oneApp))) ++
    List.replicate 3 (.call 1 (.dispatching 0 (.added "b" 2))) ++
    List.replicate 2 (.call 0 .returned) ++ List.replicate 3 (.cache (.goOn 1 (.ok bothApps))))

/-- The read that comes after all of it is answered from what was listed before the event, without
the package that was added. -/
theorem overlooks_event :
    overlooking.event 1 = .begin 0 (.readying 0) ∧
    overlooking.event 17 = .begin 1 (.dispatching 0 (.added "b" 2)) ∧
    overlooking.calls 22 0 = some .returned ∧ overlooking.calls 22 1 = some .returned ∧
    (∀ k c, overlooking.event k ≠ .begin c .stopping) ∧
    overlooking.event 22 = .cache (.enter 1) ∧
    overlooking.reading.reads 25 1 = some (.finished (.ok (Snapshot.build 1 oneApp))) ∧
    (Snapshot.build 1 oneApp).apps.toList.map (·.name) = ["a"] ∧
    bothApps.map (·.name) = ["a", "b"] ∧
    ∀ j q i g, 17 < j → overlooking.reading.event j ≠ .step q (.asking i g) := by
  refine ⟨rfl, rfl, rfl, rfl, ?_, rfl, ?_, ?_, rfl, ?_⟩
  · intro k c begun
    by_cases lt : k < 25
    · interval_cases k <;> cases begun
    · rw [overlooking, event_scheduled_of_le (Nat.le_of_not_lt lt)] at begun
      cases begun
  · -- the generation of the snapshot does not come out by computing, so the last step is opened
    have compares : overlooking.reading.event 24 =
        .step 1 (.comparing (Snapshot.build 1 oneApp)) := rfl
    have current : (overlooking.reading.cache 24).generation = 1 := rfl
    rw [Run.reads_succ_of_step compares, Point.next, Snapshot.generation_build, current]
    rfl
  · rw [Snapshot.toList_apps_build]
    rfl
  · intro j q i g after lists
    by_cases lt : j < 25
    · interval_cases j <;> cases lists
    · have passes : overlooking.event j = .cache .idle :=
        event_scheduled_of_le (Nat.le_of_not_lt lt)
      simp [reading, passes, Event.onCache] at lists

end Run

end Service

end OpPolicy
