import Mathlib
import OpPolicy.Device.Adb
import OpPolicy.Host.Machine
import OpPolicy.Host.Session
import OpPolicy.Proofs.Config.Typing

set_option autoImplicit false

/-!
What a project file that forbids adb comes to. If every other key of the file is well typed, nobody
connects. A mistake in any of them makes the whole file unreadable, the prohibition with it, and the
environment decides (`Adb.connect_forbidden`).
-/

namespace OpPolicy

section Project
variable {σ : Type} {answer : (q : Host.Question) → σ → q.Answer × σ} {w : σ} {dir : String}
  {table : Toml.Table} {s : Session}

def Setting.configPath (dir : String) : String := Host.Path.join dir configName

/-- The project's directory has a file that spells a table. To look at them changes nothing. -/
structure HasProject (answer : (q : Host.Question) → σ → q.Answer × σ) (w : σ) (dir : String)
    (table : Toml.Table) : Prop where
  home : answer (.environment Setting.homeVariable) w = (some dir, w)
  directory : answer (.look dir) w = (some .directory, w)
  file : ∃ entry, answer (.look (Setting.configPath dir)) w = (some entry, w)
  content : ∃ bytes text, answer (.readFile (Setting.configPath dir)) w = (.ok bytes, w) ∧
    Utf8.strict? bytes = some text ∧ Toml.read text = some table

namespace Config.Project

/-- What the project file in a directory says. -/
def ofTable (dir : String) (table : Toml.Table) : Except Error Project :=
  ofSection ⟨Setting.configPath dir, [], table⟩

/-- A session that has read the project read this file. -/
def KeptBy (s : Session) (dir : String) (table : Toml.Table) : Prop :=
  ∀ project, s.project = some project → ofTable dir table = .ok project

theorem keptBy_new (dir : String) (table : Toml.Table) : KeptBy {} dir table := by
  intro project kept
  cases kept

theorem ofTable_of_typed (typed : Typed table) (no : table.lookup "can-adb" = some (.bool false)) :
    ∃ project, ofTable dir table = .ok project ∧ project.canAdb = false := by
  obtain ⟨project, read⟩ := (ofSection_succeeds_iff ⟨Setting.configPath dir, [], table⟩).mpr typed
  refine ⟨project, read, ?_⟩
  rw [canAdb_of_ofSection _ read, Section.boolOr, no]
  rfl

theorem ofTable_of_not_typed (untyped : ¬ Typed table) :
    ∃ e, ofTable dir table = .error e := by
  cases read : ofTable dir table with
  | error e => exact ⟨e, rfl⟩
  | ok project => exact absurd ((ofSection_succeeds_iff _).mp ⟨project, read⟩) untyped

end Config.Project

theorem HasProject.play_loadProject (h : HasProject answer w dir table) :
    (Session.loadProject.play answer w).value = Config.Project.ofTable dir table ∧
      (Session.loadProject.play answer w).world = w := by
  obtain ⟨entry, file⟩ := h.file
  obtain ⟨bytes, text, content, decoded, parsed⟩ := h.content
  rw [Setting.configPath] at file content
  simp [Session.loadProject, Dialogue.play, h.home, Setting.projectDirOf, Dialogue.andThen,
    h.directory, file, Host.readText, content, decoded, Config.parse, parsed, Except.bind,
    Config.Project.ofTable, Setting.configPath]

theorem HasProject.play_readProject (h : HasProject answer w dir table)
    (kept : Config.Project.KeptBy s dir table) {read : Except Error Config.Project}
    (outcome : Config.Project.ofTable dir table = read) :
    (s.readProject.play answer w).value = (read, { s with project := read.toOption }) ∧
      (s.readProject.play answer w).world = w := by
  obtain ⟨programs, project⟩ := s
  cases project with
  | some project =>
    obtain rfl : read = .ok project := outcome.symm.trans (kept project rfl)
    exact ⟨rfl, rfl⟩
  | none =>
    obtain ⟨value, world⟩ := h.play_loadProject
    simp only [Session.readProject, Dialogue.play_bind, value, world, outcome]
    cases read with
    | error e => exact ⟨rfl, rfl⟩
    | ok project => exact ⟨rfl, rfl⟩

end Project

namespace Adb

theorem run_connect (s : Session) :
    s.run connect = s.readProject.bind fun r =>
      match r.1 with
      | .ok project => r.2.run (ofProject project)
      | .error e =>
        .note ⟨.warn, .adb, s!"failed to load project config, using env for adb: {e.message}"⟩
          (r.2.run ofEnvironment) := by
  rw [Session.run, connect, Dialogue.serve_bind, Setting.project, Dialogue.put]
  simp only [Dialogue.serve, Dialogue.bind_assoc, Dialogue.done_bind, Session.answer]
  congr 1
  funext r
  cases r.1 <;> rfl

section Connect
variable {σ : Type} {answer : (q : Host.Question) → σ → q.Answer × σ} {w : σ} {dir : String}
  {table : Toml.Table} {s : Session}

theorem connect_of_ok (h : HasProject answer w dir table)
    (kept : Config.Project.KeptBy s dir table) {project : Config.Project}
    (outcome : Config.Project.ofTable dir table = .ok project) (no : project.canAdb = false) :
    ((s.run connect).play answer w).value.1 = .error .adbDisabled := by
  obtain ⟨value, world⟩ := h.play_readProject kept outcome
  simp only [run_connect, Dialogue.play_bind, value, world, ofProject, no]
  rfl

theorem connect_of_error (h : HasProject answer w dir table)
    (kept : Config.Project.KeptBy s dir table) {e : Error}
    (outcome : Config.Project.ofTable dir table = .error e) :
    ((s.run connect).play answer w).value = ((s.run ofEnvironment).play answer w).value := by
  have unread : s.project = none := by
    cases found : s.project with
    | none => rfl
    | some project => cases outcome.symm.trans (kept project found)
  obtain ⟨value, world⟩ := h.play_readProject kept outcome
  have same :
      { s with project := (Except.error e : Except Error Config.Project).toOption } = s := by
    rw [Except.toOption, ← unread]
  simp only [run_connect, Dialogue.play_bind, value, world, same]
  rfl

theorem ofEnvironment_ne_adbDisabled (s : Session) :
    ((s.run ofEnvironment).play answer w).value.1 ≠ .error .adbDisabled := by
  simp only [Session.run, ofEnvironment, Dialogue.andThen, Setting.requireProgram,
    Setting.program?, Dialogue.put, Dialogue.ask_bind, Dialogue.done_bind, Dialogue.serve,
    Session.answer, Dialogue.play_bind]
  cases ((s.findProgram "adb").play answer w).value.1 with
  | none => simp [Dialogue.serve, Dialogue.play]
  | some executable =>
    simp [Dialogue.serve, Dialogue.play, Setting.environment?, Dialogue.put, Session.answer]

/-- The prohibition is heeded if and only if the rest of the file is well typed. -/
theorem connect_forbidden (h : HasProject answer w dir table)
    (kept : Config.Project.KeptBy s dir table)
    (no : table.lookup "can-adb" = some (.bool false)) :
    (((s.run connect).play answer w).value.1 = .error .adbDisabled ↔
      Config.Project.Typed table) ∧
    (¬ Config.Project.Typed table →
      ((s.run connect).play answer w).value = ((s.run ofEnvironment).play answer w).value) := by
  have decided (untyped : ¬ Config.Project.Typed table) :
      ((s.run connect).play answer w).value = ((s.run ofEnvironment).play answer w).value := by
    obtain ⟨e, outcome⟩ := Config.Project.ofTable_of_not_typed untyped
    exact connect_of_error h kept outcome
  refine ⟨⟨fun disabled => ?_, fun typed => ?_⟩, decided⟩
  · by_contra untyped
    rw [decided untyped] at disabled
    exact ofEnvironment_ne_adbDisabled s disabled
  · obtain ⟨project, outcome, forbids⟩ := Config.Project.ofTable_of_typed typed no
    exact connect_of_ok h kept outcome forbids

end Connect

/-- A machine with an adb program and a project file. -/
def projectMachine (content : String) : Host.Machine where
  tree := .directory [
    ("bin", .directory [("adb", .player)]),
    ("project", .directory [("appops.toml", .file content.toUTF8.toList false)])]
  environment := [(Setting.homeVariable, "/project"), ("PATH", "/bin")]

section Machine
variable (content : String)

theorem hasProject_projectMachine {table : Toml.Table}
    (decoded : Utf8.strict? content.toUTF8.toList = some content.toList)
    (parsed : Toml.read content.toList = some table) :
    HasProject Host.Machine.answer (projectMachine content) "/project" table := by
  have file : (projectMachine content).resolve "/project/appops.toml" =
      .ok ["project", "appops.toml"] := Host.Machine.resolve_of_isAbsolute _ rfl rfl
  have directory : (projectMachine content).resolve "/project" = .ok ["project"] :=
    Host.Machine.resolve_of_isAbsolute _ rfl rfl
  have path : Setting.configPath "/project" = "/project/appops.toml" := rfl
  constructor
  · rfl
  · simp only [Host.Machine.answer, Host.Machine.at?, directory]
    rfl
  · simp only [path, Host.Machine.answer, Host.Machine.at?, file]
    exact ⟨.file false, rfl⟩
  · refine ⟨content.toUTF8.toList, content.toList, ?_, decoded, parsed⟩
    simp only [path, Host.Machine.answer, Host.Machine.readFile, file]
    rfl

theorem ofEnvironment_projectMachine :
    ((({} : Session).run ofEnvironment).play Host.Machine.answer
      (projectMachine content)).value.1 = .ok ⟨"/bin/adb", none⟩ := by
  have program : (projectMachine content).resolve "/bin/adb" = .ok ["bin", "adb"] :=
    Host.Machine.resolve_of_isAbsolute _ rfl rfl
  have bare : Host.Search.isLocated "adb" = false := rfl
  have places : Host.Search.places none "/bin" "adb" = ["/bin/adb"] := rfl
  have own : (projectMachine content).environment.lookup Host.Search.pathVariable = none := rfl
  have system : (projectMachine content).environment.lookup "PATH" = some "/bin" := rfl
  have home : (projectMachine content).environment.lookup "HOME" = none := rfl
  have serial : (projectMachine content).environment.lookup "ANDROID_SERIAL" = none := rfl
  have entry : ((projectMachine content).tree.get? ["bin", "adb"]) = some .player := rfl
  simp [Session.run, ofEnvironment, Dialogue.andThen, Setting.requireProgram, Setting.program?,
    Setting.environment?, Dialogue.put, Dialogue.serve, Session.answer, Session.findProgram,
    Host.Search.find, Host.Search.first?, Dialogue.play, Host.Machine.answer, Host.Machine.at?,
    bare, own, system, home, places, program, serial, entry, Except.toOption, Host.Tree.entry]

end Machine

theorem connect_forbidden_alone :
    let m := projectMachine "can-adb = false"
    HasProject Host.Machine.answer m "/project" [("can-adb", .bool false)] ∧
      ((({} : Session).run connect).play Host.Machine.answer m).value.1 =
        .error .adbDisabled := by
  intro m
  have project : HasProject Host.Machine.answer m "/project" [("can-adb", .bool false)] :=
    hasProject_projectMachine _ (by decide +kernel) (by cbv)
  have typed : Config.Project.Typed [("can-adb", .bool false)] := by
    constructor <;> (intro v found; cases found)
  exact ⟨project, (connect_forbidden project (Config.Project.keptBy_new _ _) rfl).1.mpr typed⟩

/-- One name that should be a list of names, and the prohibition goes unnoticed. -/
theorem connect_despite_prohibition :
    let content := "can-adb = false\n[packages]\nwhitelist = \"com.android.systemui\"\n"
    let table : Toml.Table := [("can-adb", .bool false),
      ("packages", .table [("whitelist", .string "com.android.systemui")])]
    let m := projectMachine content
    HasProject Host.Machine.answer m "/project" table ∧
      table.lookup "can-adb" = some (.bool false) ∧
      ((({} : Session).run connect).play Host.Machine.answer m).value.1 =
        .ok ⟨"/bin/adb", none⟩ := by
  have parsed : Toml.read
      "can-adb = false\n[packages]\nwhitelist = \"com.android.systemui\"\n".toList =
        some [("can-adb", .bool false),
          ("packages", .table [("whitelist", .string "com.android.systemui")])] := by cbv
  intro content table m
  have project : HasProject Host.Machine.answer m "/project" table :=
    hasProject_projectMachine _ (by decide +kernel) parsed
  have untyped : ¬ Config.Project.Typed table := by
    rintro ⟨-, packages⟩
    obtain ⟨inner, same, -, whitelist, -⟩ := packages _ rfl
    obtain rfl := Toml.Value.table.inj same
    cases whitelist _ rfl
  obtain ⟨e, outcome⟩ := Config.Project.ofTable_of_not_typed untyped
  refine ⟨project, rfl, ?_⟩
  rw [connect_of_error project (Config.Project.keptBy_new _ _) outcome]
  exact ofEnvironment_projectMachine _

end Adb
end OpPolicy
