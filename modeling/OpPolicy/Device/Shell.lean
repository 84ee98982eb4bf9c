import OpPolicy.Device.Output
import OpPolicy.Dialogue

set_option autoImplicit false

/-!
Programs that send commands to the device's shell.
-/

namespace OpPolicy

abbrev Shell := Dialogue String fun _ => Reply

namespace Shell

def checkedReply : Reply → Except Error Output
  | .error e => .error (.io e)
  | .ok o => o.checkedByAdb

theorem checkedReply_eq_ok_iff {r : Reply} {o : Output} :
    checkedReply r = .ok o ↔ r = .ok o ∧ o.exit = .code 0 := by
  cases r with
  | error e => simp [checkedReply]
  | ok own =>
    simp only [checkedReply, Output.checkedByAdb, Output.ok, decide_eq_true_eq]
    by_cases succeeded : own.exit = .code 0
    · simp only [succeeded, if_true, Except.ok.injEq]
      exact ⟨fun same => ⟨same, same ▸ succeeded⟩, And.left⟩
    · rw [if_neg succeeded]
      constructor
      · intro failed
        split at failed
        · cases failed
        · split at failed <;> cases failed
      · rintro ⟨same, exit⟩
        cases same
        exact absurd exit succeeded

/-- Send a command that has to succeed. -/
def checked (cmd : String) : Shell (Except Error Output) := .ask cmd fun r => .done (checkedReply r)

end Shell

end OpPolicy
