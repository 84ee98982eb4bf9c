import OpPolicy.Authority.Shell

set_option autoImplicit false

/-!
The one command of a run, and what its reply amounts to (`ShellAuthority.play_run`): the text that
was printed, if the command succeeded and was not refused.
-/

namespace OpPolicy

namespace ShellAuthority

/-- What a command printed, unless it failed or was refused. -/
def printed (r : Reply) : Except Error (List Char) :=
  match Shell.checkedReply r with
  | .error e => .error e
  | .ok o =>
    match (Text.lines (Utf8.lossy o.stdout)).find? isRefusal with
    | some line => .error (.remoteAuthority (String.ofList (Text.trim line)))
    | none => .ok (Utf8.lossy o.stdout)

theorem printed_of_succeeded {r : Reply} {o : Output} (replied : r = .ok o)
    (succeeded : o.exit = .code 0) :
    printed r =
      match (Text.lines (Utf8.lossy o.stdout)).find? isRefusal with
      | some line => .error (.remoteAuthority (String.ofList (Text.trim line)))
      | none => .ok (Utf8.lossy o.stdout) := by
  rw [printed, Shell.checkedReply_eq_ok_iff.mpr ⟨replied, succeeded⟩]

section Runs
variable {σ : Type} (device : String → σ → Reply × σ) (w : σ) (cmd : String)

theorem play_run :
    (run cmd).play device w = ⟨printed (device cmd w).1, (device cmd w).2,
      [⟨.debug, .shell, s!"appops shell: {cmd}"⟩], [cmd]⟩ := by
  simp only [run, Shell.checked, Dialogue.ask_bind, Dialogue.done_bind, Dialogue.play, printed,
    Output.stdoutText]
  cases Shell.checkedReply (device cmd w).1 with
  | error e => rfl
  | ok o =>
    dsimp only
    cases (Text.lines (Utf8.lossy o.stdout)).find? isRefusal <;> rfl

theorem play_order :
    (order cmd).play device w = ⟨(printed (device cmd w).1).map fun _ => (), (device cmd w).2,
      [⟨.debug, .shell, s!"appops shell: {cmd}"⟩], [cmd]⟩ := by
  rw [order, Dialogue.play_bind, play_run]
  rfl

end Runs

end ShellAuthority

end OpPolicy
