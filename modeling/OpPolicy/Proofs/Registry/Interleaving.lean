import OpPolicy.Proofs.Cache.Interleaving
import OpPolicy.Proofs.Registry.Calls

set_option autoImplicit false

/-!
A registry that is read and called from many sides at a time. A run is any order of the steps of
reads and calls, with listeners of others that come and go. The lock that a shutdown holds until it
has unregistered only rules some orders out, and is left aside. What the cache goes through in a
run is a run of the cache (`Service.Run.reading`).
-/

namespace OpPolicy

/-- Whether a registry made the listener, so that nobody else knows it. -/
def Listener.isOwn : Listener → Bool
  | own _ => true
  | _ => false

theorem Listener.observer?_of_isOwn {l : Listener} (h : l.isOwn = true) : l.observer? = none := by
  cases l <;> simp_all [isOwn, observer?]

/-- A registry, and where each read of its cache and each call stands. `ρ` names reads, `κ` names
calls. -/
structure Service (ρ κ ι : Type) where
  registry : Registry ι
  reads : ρ → Option (Point ι) := fun _ => none
  calls : κ → Option Registry.Call := fun _ => none

namespace Service
variable {ρ κ ι : Type}

inductive Event (ρ κ ι : Type) where
  /-- A read goes on, or somebody else turns to the cache. -/
  | cache (e : OpPolicy.Event ρ ι)
  | begin (c : κ) (p : Registry.Call)
  /-- A call takes its next step, from where it stands. -/
  | go (c : κ) (p : Registry.Call)
  | register (m : Nat) (l : Listener)
  | unregister (m : Nat) (l : Listener)

def Event.caller? : Event ρ κ ι → Option κ
  | begin c _ | go c _ => some c
  | _ => none

theorem Event.caller?_eq_some {e : Event ρ κ ι} {c : κ} (h : e.caller? = some c) :
    (∃ p, e = .begin c p) ∨ ∃ p, e = .go c p := by
  cases e with
  | begin d p =>
    obtain rfl : d = c := by simpa [caller?] using h
    exact .inl ⟨p, rfl⟩
  | go d p =>
    obtain rfl : d = c := by simpa [caller?] using h
    exact .inr ⟨p, rfl⟩
  | _ => simp [caller?] at h

/-- What an event is to the cache. -/
def Event.onCache : Event ρ κ ι → OpPolicy.Event ρ ι
  | cache e => e
  | go _ p => if p.invalidates then .invalidate else .idle
  | _ => .idle

/-- The part of a service that its cache is. -/
def shared (s : Service ρ κ ι) : Shared ρ ι := ⟨s.registry.cache, s.reads⟩

def Allows (s : Service ρ κ ι) : Event ρ κ ι → Prop
  | .cache e => s.shared.Allows e
  | .begin c p => s.calls c = none ∧ p.begins = true
  | .go c p => s.calls c = some p ∧ p ≠ .returned
  | .register _ l | .unregister _ l => l.isOwn = false

variable [DecidableEq ρ] [DecidableEq κ]

def after (s : Service ρ κ ι) : Event ρ κ ι → Service ρ κ ι
  | .cache e =>
    { s with
      registry := { s.registry with cache := (s.shared.after e).cache }
      reads := (s.shared.after e).reads }
  | .begin c p => { s with calls := Function.update s.calls c (some p) }
  | .go c p =>
    { s with
      registry := p.act s.registry
      calls := Function.update s.calls c (some (p.next s.registry)) }
  | .register m l => { s with registry := s.registry.register m l }
  | .unregister m l => { s with registry := s.registry.unregister m l }

def Step (s : Service ρ κ ι) (e : Event ρ κ ι) (t : Service ρ κ ι) : Prop :=
  s.Allows e ∧ t = s.after e

omit [DecidableEq ρ] [DecidableEq κ] in
theorem Allows.shared {s : Service ρ κ ι} {e : Event ρ κ ι} (h : s.Allows e) :
    s.shared.Allows e.onCache := by
  cases e with
  | cache e => exact h
  | go c p => cases told : p.invalidates <;> simp [Event.onCache, told, Shared.Allows]
  | _ => trivial

theorem shared_after (s : Service ρ κ ι) (e : Event ρ κ ι) :
    (s.after e).shared = s.shared.after e.onCache := by
  cases e with
  | go c p =>
    cases told : p.invalidates <;>
      simp [after, Service.shared, Event.onCache, Registry.Call.cache_act, told, Shared.after]
  | _ => rfl

theorem after_calls_of_ne (s : Service ρ κ ι) {e : Event ρ κ ι} {c : κ}
    (h : e.caller? ≠ some c) : (s.after e).calls c = s.calls c := by
  cases e with
  | begin d p | go d p =>
    have other : c ≠ d := fun eq => h (by rw [eq]; rfl)
    exact Function.update_of_ne other ..
  | _ => rfl

/-- A run, from a new registry on. -/
structure Run (ρ κ ι : Type) [DecidableEq ρ] [DecidableEq κ] where
  state : Nat → Service ρ κ ι
  event : Nat → Event ρ κ ι
  hostPackage : Option String
  first : state 0 = { registry := { hostPackage } }
  steps : ∀ k, (state k).Step (event k) (state (k + 1))

namespace Run
variable (w : Run ρ κ ι)

def registry (k : Nat) : Registry ι := (w.state k).registry

def calls (k : Nat) : κ → Option Registry.Call := (w.state k).calls

theorem state_succ (k : Nat) : w.state (k + 1) = (w.state k).after (w.event k) := (w.steps k).2

/-- What the cache goes through. -/
def reading : OpPolicy.Run ρ ι where
  state k := (w.state k).shared
  event k := (w.event k).onCache
  first := by rw [w.first]; rfl
  steps k := ⟨(w.steps k).1.shared, by rw [w.state_succ, shared_after]⟩

section Allowed
variable {w} {k : Nat} {c : κ} {p : Registry.Call}

theorem calls_of_begin (h : w.event k = .begin c p) : w.calls k c = none ∧ p.begins = true := by
  have allowed := (w.steps k).1
  rwa [h] at allowed

theorem calls_of_go (h : w.event k = .go c p) : w.calls k c = some p := by
  have allowed := (w.steps k).1
  rw [h] at allowed
  exact allowed.1

theorem ne_returned_of_go (h : w.event k = .go c p) : p ≠ .returned := by
  have allowed := (w.steps k).1
  rw [h] at allowed
  exact allowed.2

theorem calls_succ_of_go (h : w.event k = .go c p) :
    w.calls (k + 1) c = some (p.next (w.registry k)) := by
  simp [calls, registry, w.state_succ, h, after]

theorem calls_succ_of_ne (h : (w.event k).caller? ≠ some c) :
    w.calls (k + 1) c = w.calls k c := by
  simp only [calls, w.state_succ]
  exact after_calls_of_ne _ h

end Allowed

/-- What a call's own steps keep stays true of it. -/
theorem calls_stay {c : κ} {Q : Registry.Call → Prop}
    (next : ∀ k p, w.event k = .go c p → Q p → Q (p.next (w.registry k)))
    {j k : Nat} {p : Registry.Call} (h : w.calls j c = some p) (hp : Q p) (le : j ≤ k) :
    ∃ p', w.calls k c = some p' ∧ Q p' := by
  induction k, le using Nat.le_induction with
  | base => exact ⟨p, h, hp⟩
  | succ k _ ih =>
    obtain ⟨p', at', hp'⟩ := ih
    by_cases own : (w.event k).caller? = some c
    · rcases Event.caller?_eq_some own with ⟨q, he⟩ | ⟨q, he⟩
      · cases (calls_of_begin he).1.symm.trans at'
      · obtain rfl : q = p' := Option.some.inj ((calls_of_go he).symm.trans at')
        exact ⟨_, calls_succ_of_go he, next k q he hp'⟩
    · exact ⟨p', by rwa [calls_succ_of_ne own], hp'⟩

theorem lt_of_begin {j k : Nat} {c : κ} {p q : Registry.Call} (h : w.event j = .begin c p)
    (at' : w.calls k c = some q) : j < k := by
  by_contra not
  obtain ⟨p', before, -⟩ := w.calls_stay (Q := fun _ => True) (fun _ _ _ _ => trivial) at' trivial
    (Nat.le_of_not_lt not)
  cases (calls_of_begin h).1.symm.trans before

theorem lt_of_returned {j k : Nat} {c : κ} {p : Registry.Call} (h : w.event j = .go c p)
    (ended : w.calls k c = some .returned) : j < k := by
  by_contra not
  have next (k : Nat) (q : Registry.Call) (_ : w.event k = .go c q) (eq : q = .returned) :
      q.next (w.registry k) = .returned := by rw [eq]; rfl
  obtain ⟨p', before, rfl⟩ := w.calls_stay next ended rfl (Nat.le_of_not_lt not)
  exact ne_returned_of_go h (Option.some.inj ((calls_of_go h).symm.trans before))

end Run

/-- A turn in a schedule. -/
inductive Turn (ρ κ ι : Type) where
  | cache (t : OpPolicy.Turn ρ ι)
  /-- Call `c` goes on, or begins at `p` if it has not begun. -/
  | call (c : κ) (p : Registry.Call)

/-- What happens in a turn. A call that has returned misses it. -/
def event (s : Service ρ κ ι) : Turn ρ κ ι → Event ρ κ ι
  | .cache t => .cache (s.shared.event t)
  | .call c p =>
    match s.calls c with
    | none => if p.begins then .begin c p else .cache .idle
    | some q => if q = .returned then .cache .idle else .go c q

omit [DecidableEq ρ] [DecidableEq κ] in
theorem allows_event (s : Service ρ κ ι) (t : Turn ρ κ ι) : s.Allows (s.event t) := by
  cases t with
  | cache t => exact s.shared.allows_event t
  | call c p =>
    simp only [event]
    split
    · next unknown =>
      split
      · next begins => exact ⟨unknown, begins⟩
      · trivial
    · next q at' =>
      split
      · trivial
      · next going => exact ⟨at', going⟩

/-- The state before turn `k` of a schedule. A schedule that is over passes. -/
def scheduled (turns : List (Turn ρ κ ι)) : Nat → Service ρ κ ι
  | 0 => { registry := { hostPackage := none } }
  | k + 1 => (scheduled turns k).after ((scheduled turns k).event (turns.getD k (.cache .pass)))

/-- Every schedule makes a run. -/
def Run.scheduled (turns : List (Turn ρ κ ι)) : Run ρ κ ι where
  state := Service.scheduled turns
  event k := (Service.scheduled turns k).event (turns.getD k (.cache .pass))
  hostPackage := none
  first := rfl
  steps _ := ⟨allows_event _ _, rfl⟩

end Service

end OpPolicy
