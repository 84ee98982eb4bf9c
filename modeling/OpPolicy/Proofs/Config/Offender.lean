import OpPolicy.Config.Project
import OpPolicy.Proofs.Config.Way

set_option autoImplicit false

/-!
Which mistake in a project file is reported. The keys that a project knows are looked at in one
order, each below a table that was found before, and the first that holds something of another kind
than it should is named by the whole way that leads to it; if there is none, a project says what the
file says (`Project.checks_ofSection`).
-/

namespace OpPolicy.Config

/-- The keys of adb. -/
def AdbAccess.keys : List Key :=
  [⟨["device-access", "adb", "executable"], .string⟩, ⟨["device-access", "adb", "serial"], .string⟩]

/-- The keys of the packages. -/
def Packages.keys : List Key :=
  [⟨["packages", "host-package"], .string⟩, ⟨["packages", "whitelist"], .strings⟩,
    ⟨["packages", "whitelist-file"], .string⟩, ⟨["packages", "web-view-providers"], .strings⟩]

/-- The keys of a project, in the order in which they are looked at. -/
def Project.keys : List Key :=
  ⟨["device-access"], .table⟩ :: ⟨["device-access", "adb"], .table⟩ :: AdbAccess.keys ++
    ⟨["packages"], .table⟩ :: Packages.keys

/-- How adb is reached is what the file says. -/
structure AdbAccess.Says (table : Toml.Table) (a : AdbAccess) : Prop where
  executable : valueAt ["device-access", "adb", "executable"] (.table table) =
    a.executable.map .string
  serial : valueAt ["device-access", "adb", "serial"] (.table table) = a.serial.map .string

/-- What is said of the packages is what the file says, or the default for what it does not. -/
structure Packages.Says (table : Toml.Table) (p : Packages) : Prop where
  hostPackage : valueAt ["packages", "host-package"] (.table table) = p.hostPackage.map .string
  whitelist : ∃ written : Option (List String),
    valueAt ["packages", "whitelist"] (.table table) = written.map spellStrings ∧
      p.whitelist = written.getD []
  whitelistFile : valueAt ["packages", "whitelist-file"] (.table table) =
    p.whitelistFile.map .string
  webViewProviders : ∃ written : Option (List String),
    valueAt ["packages", "web-view-providers"] (.table table) = written.map spellStrings ∧
      p.webViewProviders = written.getD defaultWebViewProviders

/-- The project is what the file says, and adb is allowed unless the file says no. -/
structure Project.Says (table : Toml.Table) (p : Project) : Prop where
  canAdb : p.canAdb = false ↔ valueAt ["can-adb"] (.table table) = some (.bool false)
  adb : p.adb.Says table
  packages : p.packages.Says table

section Fields
variable {file : String} {table : Toml.Table} {s : Section}

/-- The keys of a part offend only if the part is there. -/
theorem Reached.checks_part {α : Type} {way : List String} {keys : List Key} {P : α → Prop}
    {fallback : α} {read : Section → Except Error α} {s? : Option Section}
    (reached : Reached file table way s?) (below : ∀ k ∈ keys, way <+: k.way)
    (absent : valueAt way (.table table) = none → P fallback)
    (present : ∀ s, Located file table way s → Checks file table keys (read s) P) :
    Checks file table keys (part fallback read s?) P := by
  cases s? with
  | some s => exact present s reached
  | none =>
    have none : keys.find? (·.offends table) = none := by
      rw [List.find?_eq_none]
      intro k mem
      rw [Key.offends, valueAt_below reached (below k mem)]
      exact Bool.false_ne_true
    rw [part]
    refine ⟨?_, fun _ => ⟨fallback, rfl, absent reached⟩⟩
    intro k offender
    rw [none] at offender
    cases offender

theorem AdbAccess.checks_ofSection (here : Located file table ["device-access", "adb"] s) :
    Checks file table AdbAccess.keys (AdbAccess.ofSection s) (AdbAccess.Says table) := by
  refine (here.checks_string "executable").bind fun executable first => ?_
  refine (here.checks_string "serial").bind_pure fun serial second => ?_
  exact ⟨first, second⟩

theorem Packages.checks_ofSection (here : Located file table ["packages"] s) :
    Checks file table Packages.keys (Packages.ofSection s) (Packages.Says table) := by
  refine (here.checks_string "host-package").bind fun hostPackage first => ?_
  refine (here.checks_strings "whitelist").bind fun whitelist second => ?_
  refine (here.checks_string "whitelist-file").bind fun whitelistFile third => ?_
  refine (here.checks_strings "web-view-providers").bind_pure fun providers fourth => ?_
  exact ⟨first, ⟨whitelist, second, rfl⟩, third, ⟨providers, fourth, rfl⟩⟩

theorem Packages.says_of_absent (absent : valueAt ["packages"] (.table table) = none) :
    Packages.Says table {} where
  hostPackage := valueAt_below absent (List.prefix_append _ ["host-package"])
  whitelist := ⟨none, valueAt_below absent (List.prefix_append _ ["whitelist"]), rfl⟩
  whitelistFile := valueAt_below absent (List.prefix_append _ ["whitelist-file"])
  webViewProviders :=
    ⟨none, valueAt_below absent (List.prefix_append _ ["web-view-providers"]), rfl⟩

/-- Nothing is said of adb if either of the tables that lead there is absent. -/
theorem AdbAccess.says_of_absent {way : List String}
    (absent : valueAt way (.table table) = none) (above : way <+: ["device-access", "adb"]) :
    AdbAccess.Says table {} where
  executable := valueAt_below absent (above.trans (List.prefix_append _ ["executable"]))
  serial := valueAt_below absent (above.trans (List.prefix_append _ ["serial"]))

theorem not_boolOr_iff (key : String) :
    Section.boolOr ⟨file, [], table⟩ key true = false ↔
      valueAt [key] (.table table) = some (.bool false) := by
  rw [valueAt_key, Section.boolOr]
  cases table.lookup key with
  | none => exact iff_of_false Bool.noConfusion nofun
  | some v => cases v <;> simp [Toml.Value.bool?]

theorem Project.checks_ofSection (file : String) (table : Toml.Table) :
    Checks file table Project.keys (Project.ofSection ⟨file, [], table⟩) (Project.Says table) := by
  have order : Project.keys = [⟨["device-access"], .table⟩] ++
      (([⟨["device-access", "adb"], .table⟩] ++ AdbAccess.keys) ++
        ([⟨["packages"], .table⟩] ++ Packages.keys)) := rfl
  have root := located_root file table
  rw [order]
  refine (root.checks_subsection "device-access").bind fun access? reached => ?_
  have adb : Checks file table ([⟨["device-access", "adb"], .table⟩] ++ AdbAccess.keys)
      (part {} (fun access => do part {} AdbAccess.ofSection (← access.typedSubsection "adb"))
        access?) (AdbAccess.Says table) := by
    refine reached.checks_part (by decide) (fun absent => ?_) fun access there => ?_
    · exact AdbAccess.says_of_absent absent (List.prefix_append _ ["adb"])
    · refine (there.checks_subsection "adb").bind fun adb? reached => ?_
      refine reached.checks_part (by decide) (fun absent => ?_) fun adb there => ?_
      · exact AdbAccess.says_of_absent absent List.prefix_rfl
      · exact AdbAccess.checks_ofSection there
  refine adb.bind fun adb saysAdb => ?_
  refine (root.checks_subsection "packages").bind fun packages? reached => ?_
  have packages : Checks file table Packages.keys (part {} Packages.ofSection packages?)
      (Packages.Says table) :=
    reached.checks_part (by decide) Packages.says_of_absent fun _ => Packages.checks_ofSection
  refine packages.bind_pure fun packages saysPackages => ?_
  exact ⟨not_boolOr_iff "can-adb", saysAdb, saysPackages⟩

example :
    Project.ofSection ⟨"appops.toml", [], [("packages", .table [("whitelist", .string "a")])]⟩ =
      .error (.invalidConfig "appops.toml"
        "invalid value for key: packages.whitelist (expected type: array of strings)") := by
  decide

end Fields

/-- A project cannot be read if and only if a key offends, and then the first that does is named, by
the whole way to it and by what it should hold; else the project says what the file says. Below any
way that is followed from the root, a typed key is named by that way and itself. -/
theorem Project.first_offender_reported (file : String) (table : Toml.Table) :
    (∀ e, Project.ofSection ⟨file, [], table⟩ = .error e ↔
      ∃ key, Project.keys.find? (·.offends table) = some key ∧ e = key.fault file) ∧
    (Project.keys.find? (·.offends table) = none →
      ∃ p, Project.ofSection ⟨file, [], table⟩ = .ok p ∧ p.Says table) ∧
    ∀ way,
      (Section.follow ⟨file, [], table⟩ way = .error .wrongType ↔
        ∃ w, w <+: way ∧ Key.offends table ⟨w, .table⟩ = true) ∧
      (Section.follow ⟨file, [], table⟩ way = .error .missing ↔
        valueAt way (.table table) = none ∧
          ∀ w, w <+: way → Key.offends table ⟨w, .table⟩ = false) ∧
      ∀ s, (Section.follow ⟨file, [], table⟩ way = .ok s ↔ Located file table way s) ∧
        (Section.follow ⟨file, [], table⟩ way = .ok s → ∀ key,
          Checks file table [⟨way ++ [key], .string⟩] (s.typedString key)
            (fun text => valueAt (way ++ [key]) (.table table) = text.map .string) ∧
          Checks file table [⟨way ++ [key], .strings⟩] (s.typedStrings key)
            (fun items => valueAt (way ++ [key]) (.table table) = items.map spellStrings) ∧
          Checks file table [⟨way ++ [key], .table⟩] (s.typedSubsection key)
            (Reached file table (way ++ [key]))) := by
  have checks := checks_ofSection file table
  refine ⟨checks.eq_error_iff, checks.reads, ?_⟩
  intro way
  refine ⟨follow_eq_wrongType_iff, follow_eq_missing_iff, ?_⟩
  intro s
  refine ⟨follow_eq_ok_iff_located, ?_⟩
  intro followed key
  have here := follow_eq_ok_iff_located.mp followed
  exact ⟨here.checks_string key, here.checks_strings key, here.checks_subsection key⟩

end OpPolicy.Config
