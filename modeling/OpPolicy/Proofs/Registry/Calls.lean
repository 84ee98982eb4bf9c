import OpPolicy.Package.Registry

set_option autoImplicit false

/-!
The calls that change a registry, step by step: becoming ready on a monitor, shutting down, and the
dispatch of an event. A step is one access to what calls share, which is the cache, the listeners of
a monitor, or the subscription. A call that runs alone does what the registry's functions say
(`Call.ends_ready`, `Call.ends_shutdown`, `Call.ends_dispatch`).
-/

namespace OpPolicy.Registry

/-- Where a call stands. -/
inductive Call where
  /-- About to become ready on monitor `m`. -/
  | readying (m : Nat)
  | registering (m : Nat)
  | storing (m : Nat) (l : Listener)
  | dropping (m : Nat) (l : Listener)
  | stopping
  | dispatching (m : Nat) (e : PackageEvent)
  | telling (e : PackageEvent) (ls : List Listener)
  | returned
  deriving DecidableEq

namespace Call
variable {ι : Type}

def begins : Call → Bool
  | readying _ | stopping | dispatching _ _ => true
  | _ => false

/-- Give up a subscription that was just replaced or taken away. -/
def dropped : Option (Nat × Listener) → Call
  | none => returned
  | some (m, l) => dropping m l

/-- Whether the next step invalidates the cache. -/
def invalidates : Call → Bool
  | readying _ => true
  | telling _ (l :: _) => l.observer?.isNone
  | _ => false

/-- The registry after one of a monitor's listeners was told of an event. -/
def told (r : Registry ι) (l : Listener) : Registry ι :=
  if l.observer?.isNone then { r with cache := r.cache.invalidate } else r

@[simp] theorem told_monitors (r : Registry ι) (l : Listener) :
    (told r l).monitors = r.monitors := by
  unfold told; split <;> rfl

@[simp] theorem told_subscription (r : Registry ι) (l : Listener) :
    (told r l).subscription = r.subscription := by
  unfold told; split <;> rfl

@[simp] theorem told_serial (r : Registry ι) (l : Listener) : (told r l).serial = r.serial := by
  unfold told; split <;> rfl

/-- The registry after the next step. -/
def act (r : Registry ι) : Call → Registry ι
  | readying _ => { r with cache := r.cache.invalidate }
  | registering m => { r.register m (.own r.serial) with serial := r.serial + 1 }
  | storing m l => { r with subscription := some (m, l) }
  | dropping m l => r.unregister m l
  | stopping => { r with subscription := none }
  | telling _ (l :: _) => told r l
  | _ => r

/-- Where the next step leads. The listener that a registry makes is one of its own. -/
def next (r : Registry ι) : Call → Call
  | readying m => registering m
  | registering m => storing m (.own r.serial)
  | storing _ _ | stopping => dropped r.subscription
  | dispatching m e => telling e (r.monitors m)
  | telling e (_ :: ls) => telling e ls
  | _ => returned

theorem cache_act (r : Registry ι) (p : Call) :
    (p.act r).cache = if p.invalidates then r.cache.invalidate else r.cache := by
  cases p with
  | telling e ls =>
    cases ls with
    | nil => rfl
    | cons l ls => cases known : l.observer?.isNone <;> simp [act, told, invalidates, known]
  | _ => rfl

/-- A call that goes on alone ends with registry `r'`. -/
inductive Ends : Registry ι → Call → Registry ι → Prop
  | returned {r : Registry ι} : Ends r returned r
  | step {r r' : Registry ι} {p : Call} (rest : Ends (p.act r) (p.next r) r') : Ends r p r'

section Alone
variable {σ : Type} (answer : ι → σ → Listing.Report × σ) (w : σ)

theorem ends_ready (r : Registry ι) (m : Nat) :
    Ends r (readying m) ((r.ready m).play answer w).value := by
  refine .step (.step (.step ?_))
  change Ends _ (dropped r.subscription) _
  cases before : r.subscription with
  | none =>
    simp only [ready, invalidate, before, Dialogue.note_bind, Dialogue.done_bind, Dialogue.play]
    exact .returned
  | some old =>
    simp only [ready, invalidate, before, Dialogue.note_bind, Dialogue.done_bind, Dialogue.play]
    exact .step .returned

theorem ends_shutdown (r : Registry ι) : Ends r stopping r.shutdown := by
  refine .step ?_
  change Ends _ (dropped r.subscription) _
  rw [shutdown]
  cases before : r.subscription with
  | none =>
    have same : stopping.act r = r := by rw [act, ← before]
    rw [same]
    exact .returned
  | some old => exact .step .returned

theorem ends_telling (e : PackageEvent) (ls : List Listener) (r : Registry ι) (w : σ) :
    Ends r (telling e ls) ((r.tellAll e ls).play answer w).value.2 := by
  induction ls generalizing r w with
  | nil => exact .step .returned
  | cons l ls ih =>
    refine .step ?_
    have first : ((r.tell e l).play answer w).value.2 = (telling e (l :: ls)).act r := by
      cases known : l.observer? <;>
        simp [tell, known, act, told, invalidate, Dialogue.play]
    have value : ((r.tellAll e (l :: ls)).play answer w).value.2 =
        ((((telling e (l :: ls)).act r).tellAll e ls).play answer
          ((r.tell e l).play answer w).world).value.2 := by
      simp [tellAll, Dialogue.play_bind, first, Dialogue.play]
    rw [value]
    exact ih _ _

theorem ends_dispatch (r : Registry ι) (m : Nat) (e : PackageEvent) :
    Ends r (dispatching m e) ((r.dispatch m e).play answer w).value.2 :=
  .step (ends_telling answer e (r.monitors m) r w)

end Alone

end Call

end OpPolicy.Registry
