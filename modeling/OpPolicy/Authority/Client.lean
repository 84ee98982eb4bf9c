import OpPolicy.Authority.Call
import OpPolicy.Dialogue

set_option autoImplicit false

/-!
The client of the authority. It passes every call on once, caches nothing and never tries again; a
failure comes back as a failure of the authority.
-/

namespace OpPolicy

/-- A program that calls an authority. -/
abbrev Calling := Dialogue Call fun c => Except Error c.Answer

namespace Client

def call (c : Call) : Calling (Except Error c.Answer) :=
  .note ⟨.trace, .client, s!"forwarding {c.name}"⟩ <| .ask c fun
    | .ok a => .done (.ok a)
    | .error e =>
      .note ⟨.debug, .client, s!"{c.name} failed: {e.message}"⟩ (.done (.error e.intoRemote))

/-- Only the camera and the microphone can be reminded about. -/
def isRemindable (op : OpId) : Bool := op = 26 ∨ op = 27

end Client

end OpPolicy
