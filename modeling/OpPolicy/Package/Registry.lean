import OpPolicy.Package.Cache
import OpPolicy.Package.Monitor

set_option autoImplicit false

/-!
The registry of installed packages: its cache, the host's own package, and its subscription to
package events. It holds at most one subscription, with the monitor it was last made ready on, and
every event it hears of makes the next reader ask the inventory again.
-/

namespace OpPolicy

structure Registry (ι : Type) where
  hostPackage : Option String
  cache : Cache ι := {}
  monitors : Monitors := fun _ => []
  /-- Where the registry listens, and by which listener. -/
  subscription : Option (Nat × Listener) := none
  /-- How many listeners the registry made so far. -/
  serial : Nat := 0

namespace Registry
variable {ι : Type} {α : Type}

def start (r : Registry ι) (i : ι) : Reading ι (Registry ι) :=
  (r.cache.start i).bind fun c => .done { r with cache := c }

def invalidate (r : Registry ι) : Reading ι (Registry ι) :=
  .note r.cache.invalidateNote (.done { r with cache := r.cache.invalidate })

def register (r : Registry ι) (m : Nat) (l : Listener) : Registry ι :=
  { r with monitors := r.monitors.register m l }

def unregister (r : Registry ι) (m : Nat) (l : Listener) : Registry ι :=
  { r with monitors := r.monitors.unregister m l }

/-- Subscribe to a monitor with a listener of its own. -/
def subscribe (r : Registry ι) (m : Nat) : Registry ι :=
  { r.register m (.own r.serial) with
    subscription := some (m, .own r.serial)
    serial := r.serial + 1 }

/-- Follow the events of a monitor from now on. What was read before is read again. -/
def ready (r : Registry ι) (m : Nat) : Reading ι (Registry ι) :=
  r.invalidate.bind fun r' =>
    match r.subscription with
    | none => .done (r'.subscribe m)
    | some (k, l) =>
      .note ⟨.warn, .service, "system_ready called twice, dropping the previous monitor"⟩
        (.done ((r'.subscribe m).unregister k l))

/-- Give up the subscription. -/
def shutdown (r : Registry ι) : Registry ι :=
  match r.subscription with
  | none => r
  | some (k, l) => { r.unregister k l with subscription := none }

/-- Tell one listener of an event. The answer names an observer that took it down. -/
def tell (r : Registry ι) (e : PackageEvent) (l : Listener) :
    Reading ι (Option String × Registry ι) :=
  match l.observer? with
  | some key => .done (some key, r)
  | none =>
    .note ⟨.debug, .monitor, s!"package event for {e.name}, invalidating"⟩
      (r.invalidate.bind fun r => .done (none, r))

def tellAll (r : Registry ι) (e : PackageEvent) : List Listener →
    Reading ι (List String × Registry ι)
  | [] => .done ([], r)
  | l :: ls =>
    (r.tell e l).bind fun (key, r) =>
      (r.tellAll e ls).bind fun (keys, r) => .done (key.toList ++ keys, r)

/-- Pass an event of monitor `m` on. The answer names the observers that took it down. -/
def dispatch (r : Registry ι) (m : Nat) (e : PackageEvent) : Reading ι (List String × Registry ι) :=
  r.tellAll e (r.monitors m)

/-- Answer a question from the cache. -/
def answer (r : Registry ι) (f : Snapshot → α) : Reading ι (Except Error α × Registry ι) :=
  (r.cache.answer f).bind fun (a, c) => .done (a, { r with cache := c })

def installed (r : Registry ι) (f : Flags) : Reading ι (Except Error (List App) × Registry ι) :=
  (r.cache.installed f).bind fun (a, c) => .done (a, { r with cache := c })

/-- The uid of the host's own package, if one is configured and installed. -/
def hostUid (r : Registry ι) : Reading ι (Except Error (Option Uid) × Registry ι) :=
  match r.hostPackage with
  | none => .done (.ok none, r)
  | some name => r.answer (·.uidFor? name)

end Registry

end OpPolicy
