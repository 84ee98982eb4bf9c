import OpPolicy.Op.Basic

set_option autoImplicit false

/-!
Package events and the monitors that pass them on. A monitor calls its listeners in the order of
their registration; a listener that registered several times is called as often, and unregistering
removes all its registrations.
-/

namespace OpPolicy

inductive PackageEvent where
  | added (name : String) (uid : Uid)
  | removed (name : String) (uid : Uid)
  | changed (name : String) (uid : Uid) (components : List String)
  deriving DecidableEq, Repr

def PackageEvent.name : PackageEvent → String
  | added name _ => name
  | removed name _ => name
  | changed name _ _ => name

inductive Listener where
  /-- The listener that a registry made when it became ready for the `serial`-th time. -/
  | own (serial : Nat)
  /-- Invalidates the registry's cache on every event. -/
  | invalidator (key : String)
  /-- Only records what it is told. -/
  | observer (key : String)
  deriving DecidableEq, Repr

/-- The key of a listener that records events; the others invalidate the cache. -/
def Listener.observer? : Listener → Option String
  | observer key => some key
  | _ => none

/-- The listeners of every monitor, in the order of their registration. -/
abbrev Monitors := Nat → List Listener

namespace Monitors

def register (ms : Monitors) (m : Nat) (l : Listener) : Monitors :=
  fun k => if k = m then ms k ++ [l] else ms k

def unregister (ms : Monitors) (m : Nat) (l : Listener) : Monitors :=
  fun k => if k = m then (ms k).filter (· ≠ l) else ms k

@[simp] theorem register_self (ms : Monitors) (m : Nat) (l : Listener) :
    ms.register m l m = ms m ++ [l] := if_pos rfl

theorem register_of_ne (ms : Monitors) {m k : Nat} (l : Listener) (h : k ≠ m) :
    ms.register m l k = ms k := if_neg h

@[simp] theorem unregister_self (ms : Monitors) (m : Nat) (l : Listener) :
    ms.unregister m l m = (ms m).filter (· ≠ l) := if_pos rfl

theorem unregister_of_ne (ms : Monitors) {m k : Nat} (l : Listener) (h : k ≠ m) :
    ms.unregister m l k = ms k := if_neg h

end Monitors

end OpPolicy
