import OpPolicy.Proofs.Dialogue
import OpPolicy.Proofs.Shell.Report

set_option autoImplicit false

/-!
What becomes of a call at the shell authority, whatever the device does. A call has a command, which
depends on the call and the table alone (`command?`), or it fails without asking the device
anything; the command is sent once, and what the call comes to is read off the reply to it
(`printed`, `settled_answer`). The lookup of an op's default mode needs no check of its own: it is
made for ops of the table only (`answerByLookup_eq`).
-/

namespace OpPolicy

namespace Call

/-- The calls that the device's shell can express. -/
def isSupported : Call → Bool
  | checkOperation .. | setUidMode .. | setMode .. | resetAllModes .. => true
  | _ => false

/-- The op of a supported call on one op. -/
def op? : Call → Option OpId
  | checkOperation op .. | setUidMode op .. | setMode op .. => some op
  | _ => none

end Call

namespace ShellAuthority

/-- The command of a call, for a call that has one. -/
def command? (t : OpTable) : Call → Option String
  | .checkOperation op uid package =>
    (t.row? op).map fun row => getCommand uid package row.outerName
  | .setUidMode op uid mode => (t.row? op).map fun row => setUidCommand uid row.outerName mode
  | .setMode op uid package mode =>
    (t.row? op).map fun row => setCommand uid package row.outerName mode
  | .resetAllModes user package => some (resetCommand user package)
  | _ => none

section Printed

/-- A line that says that the command was refused. -/
def Refuses (line : List Char) : Prop := "Error".toList <+: Text.trim line

/-- The command ran, exited successfully and printed no refusal. -/
def Accepted (r : Reply) : Prop :=
  ∃ o, r = .ok o ∧ o.exit = .code 0 ∧ ∀ line ∈ Text.lines (Utf8.lossy o.stdout), ¬ Refuses line

theorem find?_isRefusal_eq_none_iff {lines : List (List Char)} :
    lines.find? isRefusal = none ↔ ∀ line ∈ lines, ¬ Refuses line := by
  rw [List.find?_eq_none]
  exact forall₂_congr fun line _ => not_congr isRefusal_iff

theorem printed_isOk_iff {r : Reply} : (∃ text, printed r = .ok text) ↔ Accepted r := by
  constructor
  · rintro ⟨text, ok⟩
    unfold printed at ok
    split at ok
    · cases ok
    · rename_i o checked
      obtain ⟨replied, succeeded⟩ := Shell.checkedReply_eq_ok_iff.mp checked
      refine ⟨o, replied, succeeded, ?_⟩
      split at ok
      · cases ok
      · rename_i unrefused
        exact find?_isRefusal_eq_none_iff.mp unrefused
  · rintro ⟨o, replied, succeeded, unrefused⟩
    refine ⟨Utf8.lossy o.stdout, ?_⟩
    rw [printed_of_succeeded replied succeeded, find?_isRefusal_eq_none_iff.mpr unrefused]

/-- The first refusal is the one reported. -/
theorem printed_refused {r : Reply} {o : Output} (replied : r = .ok o)
    (succeeded : o.exit = .code 0) {before after : List (List Char)} {line : List Char}
    (lines : Text.lines (Utf8.lossy o.stdout) = before ++ line :: after)
    (fresh : ∀ earlier ∈ before, ¬ Refuses earlier) (refuses : Refuses line) :
    printed r = .error (.remoteAuthority (String.ofList (Text.trim line))) := by
  have found : (Text.lines (Utf8.lossy o.stdout)).find? isRefusal = some line := by
    rw [lines, List.find?_append, find?_isRefusal_eq_none_iff.mpr fresh, Option.none_or,
      List.find?_cons_of_pos (isRefusal_iff.mpr refuses)]
  rw [printed_of_succeeded replied succeeded, found]

end Printed

section Answers
variable {σ : Type} (device : String → σ → Reply × σ) (w : σ) {t : OpTable} {c : Call}

theorem withRow_of_known {α : Type} {op : OpId} {row : OpRow} (known : t.row? op = some row)
    (f : OpRow → Shell (Except Error α)) : withRow t op f = f row := by
  rw [withRow, known]

theorem withRow_of_unknown {α : Type} {op : OpId} (unknown : t.row? op = none)
    (f : OpRow → Shell (Except Error α)) :
    withRow t op f = .done (.error (.notFound s!"op id {op}")) := by
  rw [withRow, unknown]

/-- A call reads its answer off what its one command prints. -/
theorem play_answer_of_command {cmd : String} (command : command? t c = some cmd) :
    ∃ read : List Char → c.Answer,
      let p := (answer t c).play device w
      p.value = (printed (device cmd w).1).map read ∧ p.world = (device cmd w).2 ∧
        p.asked = [cmd] := by
  cases c with
  | checkOperation op uid package =>
    obtain ⟨row, known, rfl⟩ := Option.map_eq_some_iff.mp command
    refine ⟨fun text => (readReport row.name text).mode row.defaultMode, ?_⟩
    rw [answer, withRow_of_known known, Dialogue.play_bind, play_run]
    cases printed (device (getCommand uid package row.outerName) w).1 with
    | error e => exact ⟨rfl, rfl, rfl⟩
    | ok text =>
      dsimp only
      rw [Dialogue.play_bind, Dialogue.play_sayAll]
      exact ⟨rfl, rfl, rfl⟩
  | setUidMode op uid mode =>
    obtain ⟨row, known, rfl⟩ := Option.map_eq_some_iff.mp command
    rw [answer, withRow_of_known known, play_order]
    exact ⟨_, rfl, rfl, rfl⟩
  | setMode op uid package mode =>
    obtain ⟨row, known, rfl⟩ := Option.map_eq_some_iff.mp command
    rw [answer, withRow_of_known known, play_order]
    exact ⟨_, rfl, rfl, rfl⟩
  | resetAllModes user package =>
    obtain rfl := Option.some.inj command
    rw [answer, play_order]
    exact ⟨_, rfl, rfl, rfl⟩
  | _ => cases command

theorem answer_of_unsupported (refused : c.isSupported = false) : answer t c = unsupported c := by
  cases c <;> first | rfl | cases refused

theorem answer_of_unknown {op : OpId} (on : c.op? = some op) (unknown : t.row? op = none) :
    answer t c = .done (.error (.notFound s!"op id {op}")) := by
  cases c <;> cases on <;> exact withRow_of_unknown unknown _

theorem exists_command (supported : c.isSupported = true)
    (known : ∀ op, c.op? = some op → (t.row? op).isSome) : ∃ cmd, command? t c = some cmd := by
  cases c with
  | resetAllModes user package => exact ⟨_, rfl⟩
  | checkOperation op _ _ | setUidMode op _ _ | setMode op _ _ _ =>
    obtain ⟨row, found⟩ := Option.isSome_iff_exists.mp (known op rfl)
    exact ⟨_, congrArg (Option.map _) found⟩
  | _ => cases supported

theorem command?_of_unsupported (refused : c.isSupported = false) : command? t c = none := by
  cases c <;> first | rfl | cases refused

theorem command?_of_unknown {op : OpId} (on : c.op? = some op) (unknown : t.row? op = none) :
    command? t c = none := by
  cases c <;> cases on <;> simp only [command?, unknown, Option.map_none]

/-- How a call ends on the authority: as a play from the surroundings `w`. -/
structure Settled (t : OpTable) (c : Call) (p : Play String (Except Error c.Answer) σ) : Prop where
  unsupported : c.isSupported = false →
    p.asked = [] ∧
      p.value = .error (.unsupported s!"{c.name} is not available through the appops shell")
  unknown : ∀ op, c.op? = some op → t.row? op = none →
    p.asked = [] ∧ p.value = .error (.notFound s!"op id {op}")
  sent : c.isSupported = true → (∀ op, c.op? = some op → (t.row? op).isSome) →
    ∃ cmd, p.asked = [cmd] ∧ ((∃ a, p.value = .ok a) ↔ Accepted (device cmd w).1) ∧
      ∀ o before line after, (device cmd w).1 = .ok o → o.exit = .code 0 →
        Text.lines (Utf8.lossy o.stdout) = before ++ line :: after →
        (∀ earlier ∈ before, ¬ Refuses earlier) → Refuses line →
        p.value = .error (.remoteAuthority (String.ofList (Text.trim line)))

theorem settled_answer (t : OpTable) (c : Call) :
    Settled device w t c ((answer t c).play device w) where
  unsupported refused := by
    rw [answer_of_unsupported refused]
    exact ⟨rfl, rfl⟩
  unknown op on unknown := by
    rw [answer_of_unknown on unknown]
    exact ⟨rfl, rfl⟩
  sent supported known := by
    obtain ⟨cmd, command⟩ := exists_command supported known
    obtain ⟨read, value, _, asked⟩ := play_answer_of_command device w command
    refine ⟨cmd, asked, ?_, ?_⟩
    · rw [value, ← printed_isOk_iff]
      cases printed (device cmd w).1 <;> simp [Except.map]
    · intro o before line after replied succeeded lines fresh refuses
      rw [value, printed_refused replied succeeded lines fresh refuses]
      rfl

theorem asked_answer (t : OpTable) (c : Call) :
    ((answer t c).play device w).asked = (command? t c).toList := by
  by_cases supported : c.isSupported = true
  · by_cases known : ∀ op, c.op? = some op → (t.row? op).isSome
    · obtain ⟨cmd, command⟩ := exists_command supported known
      obtain ⟨_, _, _, asked⟩ := play_answer_of_command device w command
      rw [asked, command, Option.toList_some]
    · push Not at known
      obtain ⟨op, on, missing⟩ := known
      have unknown : t.row? op = none := Option.isNone_iff_eq_none.mp (by simpa using missing)
      rw [answer_of_unknown on unknown, command?_of_unknown on unknown]
      rfl
  · have refused := Bool.eq_false_iff.mpr supported
    rw [answer_of_unsupported refused, command?_of_unsupported refused]
    rfl

end Answers

section Lookups

/-- The name that the device's shell knows an op by. -/
def shellName (t : OpTable) (op : OpId) : Except Error String :=
  match t.row? op with
  | none => .error (.notFound s!"op id {op}")
  | some row => .ok row.outerName

/-- A check that looks up the op's name and its default mode when they are needed. The default mode
is there for ops of the table only: for any other, the check comes to nothing at all. -/
def checkByLookup (t : OpTable) (op : OpId) (uid : Uid) (package : String) :
    Shell (Option (Except Error Mode)) :=
  match shellName t op with
  | .error e => .done (some (.error e))
  | .ok name =>
    (run (getCommand uid package name)).bind fun
      | .error e => .done (some (.error e))
      | .ok text =>
        (Dialogue.sayAll (reportNotes (t.nameFor (some op)) text)).bind fun _ =>
          let r := readReport (t.nameFor (some op)) text
          match r.uidMode.filter (· ≠ .default), r.packageMode with
          | some mode, _ => .done (some (.ok mode))
          | none, some mode => .done (some (.ok mode))
          | none, none => .done ((t.defaultModeFor? op).map .ok)

def answerByLookup (t : OpTable) : (c : Call) → Shell (Option (Except Error c.Answer))
  | .checkOperation op uid package => checkByLookup t op uid package
  | c => (answer t c).bind fun r => .done (some r)

/-- No lookup is made in vain. -/
theorem answerByLookup_eq (t : OpTable) (c : Call) :
    answerByLookup t c = (answer t c).bind fun r => .done (some r) := by
  cases c with
  | checkOperation op uid package =>
    change checkByLookup t op uid package = _
    rw [answer, checkByLookup, shellName]
    cases known : t.row? op with
    | none =>
      rw [withRow_of_unknown known]
      rfl
    | some row =>
      have name : t.nameFor (some op) = row.name := by simp only [OpTable.nameFor, known]
      have fallback : t.defaultModeFor? op = some row.defaultMode := by
        rw [OpTable.defaultModeFor?, known, Option.map_some]
      simp only [withRow_of_known known, Dialogue.bind_assoc, name, fallback]
      congr 1
      funext r
      cases r with
      | error e => rfl
      | ok text =>
        simp only [Dialogue.bind_assoc, OpReport.mode]
        congr 1
        funext _
        cases (readReport row.name text).uidMode.filter (· ≠ .default) with
        | some mode => rfl
        | none => cases (readReport row.name text).packageMode <;> rfl
  | _ => rfl

end Lookups

end ShellAuthority

end OpPolicy
