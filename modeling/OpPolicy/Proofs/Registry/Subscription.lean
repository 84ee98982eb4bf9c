import OpPolicy.Proofs.Cache.Reference
import OpPolicy.Proofs.Registry.Interleaving

set_option autoImplicit false

/-!
The subscription of a registry through its whole life, one deed after another. The deeds alone tell
who listens where (`Ledger`), and every deed keeps the monitors in step with that (`Keeps.perform`):
a subscription that is given up takes exactly the registry's own listener away, because no other of
its own is left anywhere (`Keeps.monitors_unregister`). So a dispatch tells whom the deeds say
(`Registry.subscription_tracked`).
-/

namespace OpPolicy

namespace Listener

/-- The listener, unless a registry made it. -/
def stranger? : Listener → Option Listener
  | own _ => none
  | l => some l

theorem stranger?_of_not_isOwn {l : Listener} (h : l.isOwn = false) : l.stranger? = some l := by
  cases l with
  | own serial => cases h
  | _ => rfl

theorem stranger?_eq_some_iff {l l' : Listener} (h : l.isOwn = false) :
    l'.stranger? = some l ↔ l' = l := by
  cases l' with
  | own serial =>
    refine ⟨nofun, ?_⟩
    rintro rfl
    cases h
  | _ => exact Option.some_inj

theorem isSome_stranger? (l : Listener) : l.stranger?.isSome = !l.isOwn := by
  cases l <;> rfl

theorem observer?_eq_none_iff {l : Listener} :
    l.observer? = none ↔ l.isOwn = true ∨ ∃ key, l = .invalidator key := by
  cases l <;> simp [observer?, isOwn]

end Listener

namespace Monitors
variable {ms : Monitors} {m k : Nat} {l l' : Listener}

/-- The listeners that no registry made. -/
def strangers (ms : Monitors) : Monitors := fun k => (ms k).filter (!·.isOwn)

theorem unregister_register (ne : l ≠ l') :
    (ms.register m l).unregister k l' = (ms.unregister k l').register m l := by
  funext j
  unfold register unregister
  by_cases here : j = m
  · subst here
    by_cases there : j = k <;> simp [there, ne]
  · simp [here]

theorem filter_register (p : Listener → Bool) :
    (ms.register m l k).filter p = (ms k).filter p ++ if k = m ∧ p l = true then [l] else [] := by
  by_cases here : k = m
  · subst here
    rw [register_self, List.filter_append, List.filter_cons, List.filter_nil]
    simp
  · rw [register_of_ne _ _ here, if_neg fun h => here h.1, List.append_nil]

theorem map_register {α : Type} (f : Listener → α) :
    (ms.register m l k).map f = (ms k).map f ++ if k = m then [f l] else [] := by
  by_cases here : k = m
  · subst here
    simp
  · simp [register_of_ne _ _ here, here]

theorem filter_unregister (p : Listener → Bool) : (ms.unregister m l k).filter p =
    if k = m then ((ms k).filter p).filter (· ≠ l) else (ms k).filter p := by
  by_cases here : k = m
  · subst here
    rw [unregister_self, if_pos rfl, List.filter_filter, List.filter_filter]
    exact List.filter_congr fun _ _ => Bool.and_comm ..
  · rw [unregister_of_ne _ _ here, if_neg here]

theorem map_stranger?_unregister (stranger : l.isOwn = false) :
    (ms.unregister m l k).map Listener.stranger? =
      if k = m then ((ms k).map Listener.stranger?).filter (· ≠ some l)
      else (ms k).map Listener.stranger? := by
  by_cases here : k = m
  · subst here
    rw [unregister_self, if_pos rfl, List.filter_map]
    congr 1
    apply List.filter_congr
    intro l' _
    simp [Listener.stranger?_eq_some_iff stranger]
  · rw [unregister_of_ne _ _ here, if_neg here]

theorem filter_isOwn_strangers (ms : Monitors) (k : Nat) :
    (ms.strangers k).filter (·.isOwn) = [] := by
  simp [strangers, List.filter_filter]

end Monitors

/-- What can be done to a registry and around it. The listeners that come and go are those of
others. Being dropped, a registry shuts down. -/
inductive Registry.Deed (ι : Type) where
  | start (i : ι)
  | ready (m : Nat)
  | shutdown
  | drop
  | register (m : Nat) (l : { l : Listener // l.isOwn = false })
  | unregister (m : Nat) (l : { l : Listener // l.isOwn = false })
  | event (m : Nat) (e : PackageEvent)
  | invalidate
  | query (q : Query)
  | hostUid

namespace Registry
variable {ι : Type}

def query (r : Registry ι) : (q : Query) → Reading ι (Except Error q.Reply × Registry ι)
  | .namesForUid uid => r.answer (·.namesForUid? uid)
  | .uidFor name => r.answer (·.uidFor? name)
  | .installed f => r.installed f
  | .app name => r.answer (·.app? name)
  | .apps => r.answer (·.apps.toList)
  | .whitelist => r.answer (·.whitelist)
  | .isWhitelisted name => r.answer (·.isWhitelisted name)

def perform (r : Registry ι) : Deed ι → Reading ι (Registry ι)
  | .start i => r.start i
  | .ready m => r.ready m
  | .shutdown | .drop => .done r.shutdown
  | .register m l => .done (r.register m l)
  | .unregister m l => .done (r.unregister m l)
  | .event m e => (r.dispatch m e).bind fun (_, r) => .done r
  | .invalidate => r.invalidate
  | .query q => (r.query q).bind fun (_, r) => .done r
  | .hostUid => r.hostUid.bind fun (_, r) => .done r

/-- Do one deed after another. -/
def live (r : Registry ι) : List (Deed ι) → Reading ι (Registry ι)
  | [] => .done r
  | d :: ds => (r.perform d).bind fun r => r.live ds

theorem query_eq (r : Registry ι) (q : Query) :
    r.query q = (r.cache.query q).bind fun (a, c) => .done (a, { r with cache := c }) := by
  cases q <;> rfl

theorem hostUid_eq (r : Registry ι) : r.hostUid =
    match r.hostPackage with
    | none => .done (.ok none, r)
    | some name => r.query (.uidFor name) := by
  unfold hostUid
  cases r.hostPackage <;> rfl

end Registry

/-- Who listens, as far as deeds tell: on which monitor the registry was last made ready without
having been shut down since, which listeners of others are on each monitor, and all registrations in
the order in which they were made. A registration without a listener is the registry's own. -/
structure Ledger where
  standing : Option Nat := none
  others : Nat → List Listener := fun _ => []
  all : List (Nat × Option Listener) := []

namespace Ledger
variable {ι : Type}

/-- The registrations without the registry's own. -/
def foreign (all : List (Nat × Option Listener)) : List (Nat × Option Listener) :=
  all.filter (·.2.isSome)

def after (b : Ledger) : Registry.Deed ι → Ledger
  | .ready m => { b with standing := some m, all := foreign b.all ++ [(m, none)] }
  | .shutdown | .drop => { b with standing := none, all := foreign b.all }
  | .register m l =>
    { b with
      others := fun k => if k = m then b.others k ++ [l.1] else b.others k
      all := b.all ++ [(m, some l.1)] }
  | .unregister m l =>
    { b with
      others := fun k => if k = m then (b.others k).filter (· ≠ l.1) else b.others k
      all := b.all.filter (· ≠ (m, some l.1)) }
  | _ => b

/-- The registrations with one monitor. -/
def slots (all : List (Nat × Option Listener)) (k : Nat) : List (Option Listener) :=
  (all.filter (·.1 = k)).map (·.2)

variable (all : List (Nat × Option Listener)) (m k : Nat) (x : Option Listener)

theorem slots_concat : slots (all ++ [(m, x)]) k = slots all k ++ if k = m then [x] else [] := by
  unfold slots
  by_cases here : k = m
  · simp [here]
  · simp [here, Ne.symm here]

theorem slots_foreign : slots (foreign all) k = (slots all k).filter (·.isSome) := by
  unfold slots foreign
  rw [List.filter_map, List.filter_filter, List.filter_filter]
  congr 1
  exact List.filter_congr fun _ _ => Bool.and_comm ..

theorem slots_remove : slots (all.filter (· ≠ (m, x))) k =
    if k = m then (slots all k).filter (· ≠ x) else slots all k := by
  unfold slots
  rw [List.filter_filter]
  by_cases here : k = m
  · subst here
    rw [if_pos rfl, List.filter_map, List.filter_filter]
    congr 1
    apply List.filter_congr
    rintro ⟨j, y⟩ -
    by_cases same : j = k <;> simp [same]
  · rw [if_neg here]
    congr 1
    apply List.filter_congr
    rintro ⟨j, y⟩ -
    by_cases same : j = k <;> simp [same, here]

end Ledger

namespace Registry
variable {ι : Type} {r : Registry ι} {b : Ledger}

/-- The registry's own listener is where it subscribed and nowhere else, and the others are where
the ledger says. -/
structure Keeps (r : Registry ι) (b : Ledger) : Prop where
  cache : ∃ m, r.cache.Implements m
  standing : r.subscription.map (·.1) = b.standing
  made : ∀ {k l}, r.subscription = some (k, l) → ∃ n < r.serial, l = .own n
  own : ∀ k, (r.monitors k).filter (·.isOwn) = (r.subscription.toList.filter (·.1 = k)).map (·.2)
  others : ∀ k, (r.monitors k).filter (!·.isOwn) = b.others k
  all : ∀ k, (r.monitors k).map Listener.stranger? = Ledger.slots b.all k

theorem keeps_new (hostPackage : Option String) :
    ({ hostPackage } : Registry ι).Keeps {} where
  cache := ⟨{}, .new⟩
  standing := rfl
  made := nofun
  own _ := rfl
  others _ := rfl
  all _ := rfl

namespace Keeps

theorem with_cache (h : r.Keeps b) {c : Cache ι} (implements : ∃ m, c.Implements m) :
    ({ r with cache := c } : Registry ι).Keeps b :=
  ⟨implements, h.standing, h.made, h.own, h.others, h.all⟩

theorem isOwn_of_subscription (h : r.Keeps b) {k : Nat} {l : Listener}
    (subscribed : r.subscription = some (k, l)) : l.isOwn = true := by
  obtain ⟨n, -, rfl⟩ := h.made subscribed
  rfl

/-- The only listener of its own that a registry has is the one it subscribed by. -/
theorem subscription_of_mem (h : r.Keeps b) {k : Nat} {l : Listener} (mem : l ∈ r.monitors k)
    (own : l.isOwn = true) : r.subscription = some (k, l) := by
  have mem : l ∈ (r.monitors k).filter (·.isOwn) := List.mem_filter.mpr ⟨mem, own⟩
  rw [h.own k] at mem
  simpa using mem

theorem monitors_of_unsubscribed (h : r.Keeps b) (unsubscribed : r.subscription = none) :
    r.monitors = r.monitors.strangers := by
  funext k
  refine (List.filter_eq_self.mpr fun l mem => ?_).symm
  by_contra own
  have subscribed := h.subscription_of_mem mem (by simpa using own)
  cases unsubscribed.symm.trans subscribed

theorem monitors_unregister (h : r.Keeps b) {k : Nat} {l : Listener}
    (subscribed : r.subscription = some (k, l)) :
    r.monitors.unregister k l = r.monitors.strangers := by
  have only {j : Nat} {l' : Listener} (mem : l' ∈ r.monitors j) (own : l'.isOwn = true) :
      j = k ∧ l' = l := by
    have same := (h.subscription_of_mem mem own).symm.trans subscribed
    simpa using same
  funext j
  by_cases here : j = k
  · subst here
    rw [Monitors.unregister_self, Monitors.strangers]
    apply List.filter_congr
    intro l' mem
    by_cases own : l'.isOwn = true
    · obtain ⟨-, rfl⟩ := only mem own
      simp [own]
    · have ne : l' ≠ l := by
        rintro rfl
        exact own (h.isOwn_of_subscription subscribed)
      simp [own, ne]
  · rw [Monitors.unregister_of_ne _ _ here, Monitors.strangers]
    refine (List.filter_eq_self.mpr fun l' mem => ?_).symm
    by_contra own
    exact here (only mem (by simpa using own)).1

section Strangers
variable (h : r.Keeps b) (k : Nat)
include h

theorem others_strangers : (r.monitors.strangers k).filter (!·.isOwn) = b.others k := by
  rw [← h.others k]
  simp [Monitors.strangers, List.filter_filter]

theorem all_strangers : (r.monitors.strangers k).map Listener.stranger? =
    Ledger.slots (Ledger.foreign b.all) k := by
  rw [Ledger.slots_foreign, ← h.all k, List.filter_map, Monitors.strangers]
  congr 1
  exact List.filter_congr fun l _ => l.isSome_stranger?.symm

end Strangers

theorem shutdown (h : r.Keeps b) : r.shutdown.Keeps (b.after (.shutdown : Deed ι)) := by
  have left : r.shutdown = { r with monitors := r.monitors.strangers, subscription := none } := by
    unfold Registry.shutdown
    cases subscribed : r.subscription with
    | none => simp only [← h.monitors_of_unsubscribed subscribed, ← subscribed]
    | some old => simp only [unregister, h.monitors_unregister subscribed]
  rw [left]
  exact ⟨h.cache, rfl, nofun, r.monitors.filter_isOwn_strangers, h.others_strangers,
    h.all_strangers⟩

theorem ready (h : r.Keeps b) (m : Nat) {σ : Type} (answer : ι → σ → Listing.Report × σ) (w : σ) :
    ((r.ready m).play answer w).value.Keeps (b.after (.ready m : Deed ι)) := by
  have left : ((r.ready m).play answer w).value =
      { r with
        cache := r.cache.invalidate
        monitors := r.monitors.strangers.register m (.own r.serial)
        subscription := some (m, .own r.serial)
        serial := r.serial + 1 } := by
    unfold Registry.ready
    cases subscribed : r.subscription with
    | none =>
      simp only [invalidate, Dialogue.note_bind, Dialogue.done_bind, Dialogue.play, subscribe,
        register, ← h.monitors_of_unsubscribed subscribed]
    | some old =>
      obtain ⟨k, l⟩ := old
      -- the new listener comes before the old one goes, maybe on the same monitor
      have ne : Listener.own r.serial ≠ l := by
        obtain ⟨n, older, rfl⟩ := h.made subscribed
        intro same
        exact older.ne (Listener.own.inj same).symm
      simp only [invalidate, Dialogue.note_bind, Dialogue.done_bind, Dialogue.play, subscribe,
        register, unregister, Monitors.unregister_register ne, h.monitors_unregister subscribed]
  rw [left]
  obtain ⟨reference, implements⟩ := h.cache
  refine ⟨⟨_, implements.invalidate⟩, rfl, ?_, fun k => ?_, fun k => ?_, fun k => ?_⟩
  · intro k l subscribed
    cases subscribed
    exact ⟨r.serial, r.serial.lt_succ_self, rfl⟩
  · rw [Monitors.filter_register, Monitors.filter_isOwn_strangers]
    by_cases here : k = m
    · simp [here, Listener.isOwn]
    · simp [here, Ne.symm here]
  · rw [Monitors.filter_register, h.others_strangers k, Ledger.after]
    simp [Listener.isOwn]
  · rw [Ledger.after, Ledger.slots_concat, ← h.all_strangers k, Monitors.map_register,
      Listener.stranger?]

theorem register (h : r.Keeps b) (m : Nat) (l : { l : Listener // l.isOwn = false }) :
    (r.register m l).Keeps (b.after (.register m l : Deed ι)) := by
  obtain ⟨l, stranger⟩ := l
  refine ⟨h.cache, h.standing, h.made, fun k => ?_, fun k => ?_, fun k => ?_⟩
  · rw [Registry.register, Monitors.filter_register, h.own k]
    simp [stranger]
  · rw [Registry.register, Monitors.filter_register, h.others k, Ledger.after]
    by_cases here : k = m <;> simp [here, stranger]
  · rw [Registry.register, Monitors.map_register, h.all k, Ledger.after, Ledger.slots_concat,
      Listener.stranger?_of_not_isOwn stranger]

theorem unregister (h : r.Keeps b) (m : Nat) (l : { l : Listener // l.isOwn = false }) :
    (r.unregister m l).Keeps (b.after (.unregister m l : Deed ι)) := by
  obtain ⟨l, stranger⟩ := l
  refine ⟨h.cache, h.standing, h.made, fun k => ?_, fun k => ?_, fun k => ?_⟩
  · have others : ((r.monitors k).filter (·.isOwn)).filter (· ≠ l) =
        (r.monitors k).filter (·.isOwn) := by
      apply List.filter_eq_self.mpr
      intro l' mem
      have own := (List.mem_filter.mp mem).2
      apply decide_eq_true
      rintro rfl
      cases own.symm.trans stranger
    rw [Registry.unregister, Monitors.filter_unregister, others, ite_self, h.own k]
  · rw [Registry.unregister, Monitors.filter_unregister, h.others k, Ledger.after]
  · rw [Registry.unregister, Monitors.map_stranger?_unregister stranger, h.all k, Ledger.after,
      Ledger.slots_remove]

end Keeps

section Dispatch
variable {σ : Type} (answer : ι → σ → Listing.Report × σ) (w : σ) (e : PackageEvent)

/-- An event reaches the observers among the listeners, in order, and each of the others invalidates
the cache once. -/
theorem value_tellAll (r : Registry ι) (ls : List Listener) :
    ((r.tellAll e ls).play answer w).value = (ls.filterMap Listener.observer?,
      { r with cache := r.cache.invalidateBy (ls.countP (·.observer?.isNone)) }) := by
  induction ls generalizing r w with
  | nil => rfl
  | cons l ls ih =>
    rw [tellAll, Dialogue.play_bind]
    cases known : l.observer? with
    | some key =>
      simp only [tell, known, Dialogue.play]
      rw [Dialogue.play_bind]
      simp [ih, known, Dialogue.play]
    | none =>
      simp only [tell, known, invalidate, Dialogue.note_bind, Dialogue.done_bind, Dialogue.play]
      rw [Dialogue.play_bind]
      simp [ih, known, Dialogue.play, Cache.invalidateBy]

theorem value_dispatch (r : Registry ι) (m : Nat) :
    ((r.dispatch m e).play answer w).value = ((r.monitors m).filterMap Listener.observer?,
      { r with
        cache := r.cache.invalidateBy ((r.monitors m).countP (·.observer?.isNone)) }) :=
  value_tellAll answer w e r (r.monitors m)

end Dispatch

namespace Call

/-- The listener that the next step tells of an event. -/
def addressee? : Call → Option Listener
  | telling _ (l :: _) => some l
  | _ => none

/-- A call that goes on alone tells these listeners, one after another, and ends with registry
`r'`. -/
inductive Tells : Registry ι → Call → List Listener → Registry ι → Prop
  | returned {r : Registry ι} : Tells r returned [] r
  | step {r r' : Registry ι} {p : Call} {ls : List Listener} (going : p ≠ returned)
      (rest : Tells (p.act r) (p.next r) ls r') : Tells r p (p.addressee?.toList ++ ls) r'

theorem tells_returned_iff {r r' : Registry ι} {ls : List Listener} :
    Tells r returned ls r' ↔ ls = [] ∧ r' = r := by
  constructor
  · intro tells
    cases tells with
    | returned => exact ⟨rfl, rfl⟩
    | step going _ => exact absurd rfl going
  · rintro ⟨rfl, rfl⟩
    exact .returned

theorem tells_iff {r r' : Registry ι} {p : Call} {ls : List Listener} (going : p ≠ returned) :
    Tells r p ls r' ↔
      ∃ ls', ls = p.addressee?.toList ++ ls' ∧ Tells (p.act r) (p.next r) ls' r' := by
  constructor
  · intro tells
    cases tells with
    | returned => exact absurd rfl going
    | step _ rest => exact ⟨_, rfl, rest⟩
  · rintro ⟨ls', rfl, rest⟩
    exact .step going rest

variable {σ : Type} (answer : ι → σ → Listing.Report × σ) (w : σ) (e : PackageEvent)

theorem tells_telling_iff {r r' : Registry ι} {ls told : List Listener} :
    Tells r (telling e ls) told r' ↔
      told = ls ∧ r' = ((r.tellAll e ls).play answer w).value.2 := by
  induction ls generalizing r told with
  | nil =>
    rw [tells_iff (p := telling e []) (by simp)]
    change (∃ ls', told = ls' ∧ Tells r returned ls' r') ↔ _
    simp [tells_returned_iff, tellAll, Dialogue.play]
  | cons l ls ih =>
    have value : (((Call.told r l).tellAll e ls).play answer w).value.2 =
        ((r.tellAll e (l :: ls)).play answer w).value.2 := by
      cases known : l.observer? <;>
        simp [value_tellAll, Call.told, known, Cache.invalidateBy]
    rw [tells_iff (p := telling e (l :: ls)) (by simp)]
    change (∃ ls', told = l :: ls' ∧ Tells (Call.told r l) (telling e ls) ls' r') ↔ _
    simp only [ih, value]
    constructor
    · rintro ⟨ls', rfl, rfl, eq⟩
      exact ⟨rfl, eq⟩
    · rintro ⟨rfl, eq⟩
      exact ⟨ls, rfl, rfl, eq⟩

/-- A dispatch tells the listeners that are registered when it begins, each as often as it is
registered and in that order. -/
theorem tells_dispatching_iff {r r' : Registry ι} {m : Nat} {told : List Listener} :
    Tells r (dispatching m e) told r' ↔
      told = r.monitors m ∧ r' = ((r.dispatch m e).play answer w).value.2 := by
  rw [tells_iff (p := dispatching m e) (by simp)]
  change (∃ ls', told = ls' ∧ Tells r (telling e (r.monitors m)) ls' r') ↔ _
  simp [tells_telling_iff answer w, dispatch]

end Call

end Registry

namespace Cache
variable {ι : Type} {c : Cache ι} {m : Reference ι}

theorem Implements.invalidateBy (h : c.Implements m) (n : Nat) :
    (c.invalidateBy n).Implements { m with valid := if n = 0 then m.valid else none } := by
  induction n generalizing c m with
  | zero => exact h
  | succ n ih => simpa [Cache.invalidateBy] using ih h.invalidate

end Cache

namespace Registry
variable {ι : Type} {r : Registry ι} {b : Ledger} {σ : Type}
  (answer : ι → σ → Listing.Report × σ) (w : σ)

namespace Keeps

theorem query (h : r.Keeps b) (q : Query) : ((r.query q).play answer w).value.2.Keeps b := by
  obtain ⟨m, implements⟩ := h.cache
  obtain ⟨-, after⟩ := ((Cache.follows_query implements q).play answer w).1
  rw [query_eq, Dialogue.play_bind]
  exact h.with_cache ⟨_, after⟩

/-- Every deed keeps the registry in step with the ledger. -/
theorem perform (h : r.Keeps b) (d : Deed ι) :
    ((r.perform d).play answer w).value.Keeps (b.after d) := by
  obtain ⟨m, implements⟩ := h.cache
  cases d with
  | start i =>
    have after := ((Cache.follows_start implements i).play answer w).1
    rw [Registry.perform, start, Dialogue.play_bind]
    exact h.with_cache ⟨_, after⟩
  | ready m => exact h.ready m answer w
  | shutdown | drop => exact h.shutdown
  | register m l => exact h.register m l
  | unregister m l => exact h.unregister m l
  | event m e =>
    rw [Registry.perform, Dialogue.play_bind]
    simp only [value_dispatch, Dialogue.play]
    exact h.with_cache ⟨_, implements.invalidateBy _⟩
  | invalidate => exact h.with_cache ⟨_, implements.invalidate⟩
  | query q =>
    rw [Registry.perform, Dialogue.play_bind]
    exact h.query answer w q
  | hostUid =>
    rw [Registry.perform, Dialogue.play_bind, hostUid_eq]
    cases r.hostPackage with
    | none => exact h
    | some name => exact h.query answer w (.uidFor name)

theorem live (h : r.Keeps b) (ds : List (Deed ι)) :
    ((r.live ds).play answer w).value.Keeps (ds.foldl Ledger.after b) := by
  induction ds generalizing r b w with
  | nil => exact h
  | cons d ds ih =>
    rw [Registry.live, Dialogue.play_bind]
    exact ih _ (h.perform answer w d)

/-- The registry's own listeners hold one slot where it stands, and none elsewhere. -/
theorem countP_isOwn (h : r.Keeps b) (k : Nat) :
    (r.monitors k).countP (·.isOwn) = if b.standing = some k then 1 else 0 := by
  rw [List.countP_eq_length_filter, h.own k, ← h.standing]
  cases r.subscription with
  | none => rfl
  | some old => by_cases here : old.1 = k <;> simp [here]

/-- Who listens on a monitor so that the cache is invalidated: the registry, or an invalidator of
somebody else's. -/
theorem exists_invalidating_iff (h : r.Keeps b) (m : Nat) :
    (∃ l ∈ r.monitors m, l.observer? = none) ↔
      b.standing = some m ∨ ∃ key, .invalidator key ∈ r.monitors m := by
  have own : (∃ l ∈ r.monitors m, l.isOwn = true) ↔ b.standing = some m := by
    rw [← List.countP_pos_iff, h.countP_isOwn m]
    split <;> simp_all
  simp only [Listener.observer?_eq_none_iff, and_or_left, exists_or, own]
  constructor
  · rintro (standing | ⟨l, mem, key, rfl⟩)
    · exact .inl standing
    · exact .inr ⟨key, mem⟩
  · rintro (standing | ⟨key, mem⟩)
    · exact .inl standing
    · exact .inr ⟨_, mem, key, rfl⟩

theorem isValid_dispatch (h : r.Keeps b) (m : Nat) (e : PackageEvent) :
    ((r.dispatch m e).play answer w).value.2.cache.isValid =
      if (r.monitors m).countP (·.observer?.isNone) = 0 then r.cache.isValid else false := by
  obtain ⟨reference, implements⟩ := h.cache
  rw [value_dispatch, (implements.invalidateBy _).valid, implements.valid]
  split <;> rfl

end Keeps

/-- In every state that deeds lead to, the registry's own listeners hold one slot if it was made
ready and neither shut down nor dropped since, on the monitor that it was made ready on, and no slot
otherwise; the listeners of others are where the deeds put them. An event is told to the slots of
its monitor, to each once and in the order of registration; it invalidates the cache if the registry
or another invalidator listens there, and leaves the cache as it was otherwise. -/
theorem subscription_tracked (hostPackage : Option String) (deeds : List (Deed ι)) :
    let r := (({ hostPackage } : Registry ι).live deeds |>.play answer w).value
    let b := deeds.foldl Ledger.after {}
    (∀ k, (r.monitors k).countP (·.isOwn) = if b.standing = some k then 1 else 0) ∧
    (∀ k, (r.monitors k).filter (!·.isOwn) = b.others k) ∧
    (∀ k, (r.monitors k).map Listener.stranger? = Ledger.slots b.all k) ∧
    ∀ m e v, let d := ((r.dispatch m e).play answer v).value
      (∀ told r', Call.Tells r (.dispatching m e) told r' ↔ told = r.monitors m ∧ r' = d.2) ∧
      d.1 = (r.monitors m).filterMap Listener.observer? ∧
      d.2.cache.attempts = r.cache.attempts ∧
      ((b.standing = some m ∨ ∃ key, .invalidator key ∈ r.monitors m) →
        d.2.cache.isValid = false) ∧
      (¬ (b.standing = some m ∨ ∃ key, .invalidator key ∈ r.monitors m) →
        d.2.cache.isValid = r.cache.isValid) := by
  intro r b
  have h : r.Keeps b := (keeps_new hostPackage).live answer w deeds
  refine ⟨h.countP_isOwn, h.others, h.all, ?_⟩
  intro m e v d
  have valid := h.isValid_dispatch answer v m e
  refine ⟨fun _ _ => Call.tells_dispatching_iff answer v e, ?_, ?_, ?_, ?_⟩
  · exact congrArg Prod.fst (value_dispatch answer v e r m)
  · change ((r.dispatch m e).play answer v).value.2.cache.attempts = _
    rw [value_dispatch, Cache.invalidateBy_eq]
  · intro listens
    obtain ⟨l, mem, known⟩ := (h.exists_invalidating_iff m).mpr listens
    have some : (r.monitors m).countP (·.observer?.isNone) ≠ 0 := by
      refine Nat.ne_of_gt (List.countP_pos_iff.mpr ⟨l, mem, ?_⟩)
      rw [known]
      rfl
    rwa [if_neg some] at valid
  · intro silent
    have none : (r.monitors m).countP (·.observer?.isNone) = 0 := by
      rw [List.countP_eq_zero]
      intro l mem known
      exact silent ((h.exists_invalidating_iff m).mp ⟨l, mem, Option.isNone_iff_eq_none.mp known⟩)
    rwa [if_pos none] at valid

end Registry

end OpPolicy
