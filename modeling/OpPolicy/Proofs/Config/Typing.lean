import OpPolicy.Config.Project
import OpPolicy.Proofs.Outcome

set_option autoImplicit false

/-!
When a project file is well typed: every key that the project knows is absent or has a value of its
type, and nothing is said of other keys, nor of `can-adb`, which is taken as written only if it is a
Boolean. These are the files that a configuration can be read from
(`Project.ofSection_succeeds_iff`).
-/

namespace OpPolicy.Config

section Succeeds
variable {α β : Type}

def Succeeds (x : Except Error α) : Prop := ∃ a, x = .ok a

@[simp] theorem succeeds_ok (a : α) : Succeeds (.ok a) := ⟨a, rfl⟩

@[simp] theorem not_succeeds_error (e : Error) : ¬ Succeeds (.error e : Except Error α) := nofun

@[simp] theorem succeeds_pure (a : α) : Succeeds (pure a) := ⟨a, rfl⟩

theorem succeeds_bind {x : Except Error α} {f : α → Except Error β} :
    Succeeds (x >>= f) ↔ ∃ a, x = .ok a ∧ Succeeds (f a) := by
  simp only [Succeeds, bind_eq_ok]
  exact ⟨fun ⟨b, a, xa, fb⟩ => ⟨a, xa, b, fb⟩, fun ⟨a, xa, b, fb⟩ => ⟨b, a, xa, fb⟩⟩

@[simp] theorem mapError_ok {ε δ : Type} (f : ε → δ) (a : α) :
    (Except.ok a : Except ε α).mapError f = .ok a := rfl

@[simp] theorem mapError_error {ε δ : Type} (f : ε → δ) (e : ε) :
    (Except.error e : Except ε α).mapError f = .error (f e) := rfl

/-- Whether the rest succeeds does not depend on what comes before. -/
theorem succeeds_bind_const {x : Except Error α} {f : α → Except Error β} {P : Prop}
    (rest : ∀ a, Succeeds (f a) ↔ P) : Succeeds (x >>= f) ↔ Succeeds x ∧ P := by
  rw [succeeds_bind, Succeeds, ← exists_and_right]
  exact exists_congr fun a => and_congr_right fun _ => rest a

theorem succeeds_bind_pure {x : Except Error α} {f : α → β} :
    Succeeds (x >>= fun a => pure (f a)) ↔ Succeeds x :=
  (succeeds_bind_const fun a => iff_true_intro (succeeds_pure (f a))).trans (and_iff_left trivial)

end Succeeds

/-- A key is absent, or its value can be read. -/
def Fits {α : Type} (table : Toml.Table) (key : String) (read : Toml.Value → Option α) : Prop :=
  ∀ v, table.lookup key = some v → (read v).isSome = true

/-- A key is absent, or it holds a table that is as it has to be. -/
def FitsWithin (table : Toml.Table) (key : String) (P : Toml.Table → Prop) : Prop :=
  ∀ v, table.lookup key = some v → ∃ inner, v = .table inner ∧ P inner

def AdbAccess.Typed (table : Toml.Table) : Prop :=
  Fits table "executable" Toml.Value.string? ∧ Fits table "serial" Toml.Value.string?

def Packages.Typed (table : Toml.Table) : Prop :=
  Fits table "host-package" Toml.Value.string? ∧ Fits table "whitelist" Section.strings? ∧
    Fits table "whitelist-file" Toml.Value.string? ∧
    Fits table "web-view-providers" Section.strings?

def Project.Typed (table : Toml.Table) : Prop :=
  FitsWithin table "device-access" (FitsWithin · "adb" AdbAccess.Typed) ∧
    FitsWithin table "packages" Packages.Typed

section Section
variable (s : Section)

theorem typed_succeeds_iff {α : Type} (key expected : String) (read : Toml.Value → Option α) :
    Succeeds (s.typed key expected read) ↔ Fits s.table key read := by
  unfold Section.typed Section.optional Fits
  cases found : s.table.lookup key with
  | none => simp
  | some v => cases value : read v <;> simp [value]

theorem part_succeeds_iff {α : Type} {fallback : α} {read : Section → Except Error α}
    {P : Toml.Table → Prop} (reads : ∀ t, Succeeds (read t) ↔ P t.table) (key : String) :
    Succeeds (s.typedSubsection key >>= part fallback read) ↔ FitsWithin s.table key P := by
  unfold Section.typedSubsection Section.typed Section.optional Section.inner? FitsWithin
  cases found : s.table.lookup key with
  | none => simp [part, bind, Except.bind]
  | some v => cases v <;> simp [part, bind, Except.bind, Toml.Value.table?, reads]

theorem typedString_succeeds_iff (key : String) :
    Succeeds (s.typedString key) ↔ Fits s.table key Toml.Value.string? :=
  typed_succeeds_iff s key _ _

theorem typedStrings_succeeds_iff (key : String) :
    Succeeds (s.typedStrings key) ↔ Fits s.table key Section.strings? :=
  typed_succeeds_iff s key _ _

theorem AdbAccess.ofSection_succeeds_iff :
    Succeeds (AdbAccess.ofSection s) ↔ AdbAccess.Typed s.table := by
  simp only [AdbAccess.Typed, ← typedString_succeeds_iff]
  refine succeeds_bind_const fun executable => ?_
  exact succeeds_bind_pure

theorem Packages.ofSection_succeeds_iff :
    Succeeds (Packages.ofSection s) ↔ Packages.Typed s.table := by
  simp only [Packages.Typed, ← typedString_succeeds_iff, ← typedStrings_succeeds_iff]
  refine succeeds_bind_const fun hostPackage => ?_
  refine succeeds_bind_const fun whitelist => ?_
  refine succeeds_bind_const fun whitelistFile => ?_
  exact succeeds_bind_pure

/-- A project can be read from exactly the well typed files. -/
theorem Project.ofSection_succeeds_iff :
    Succeeds (Project.ofSection s) ↔ Project.Typed s.table := by
  have access : Succeeds (s.typedSubsection "device-access" >>= part ({} : AdbAccess) fun access =>
      access.typedSubsection "adb" >>= part {} AdbAccess.ofSection) ↔
        FitsWithin s.table "device-access" (FitsWithin · "adb" AdbAccess.Typed) :=
    part_succeeds_iff s (part_succeeds_iff · AdbAccess.ofSection_succeeds_iff "adb") "device-access"
  have packages : Succeeds (s.typedSubsection "packages" >>= part {} Packages.ofSection) ↔
      FitsWithin s.table "packages" Packages.Typed :=
    part_succeeds_iff s Packages.ofSection_succeeds_iff "packages"
  rw [Project.Typed, ← access, ← packages, Project.ofSection, ← bind_assoc]
  refine succeeds_bind_const fun adb => ?_
  rw [← bind_assoc]
  exact succeeds_bind_pure

theorem Project.canAdb_of_ofSection {p : Project} (h : Project.ofSection s = .ok p) :
    p.canAdb = s.boolOr "can-adb" true := by
  simp only [Project.ofSection, bind_eq_ok] at h
  obtain ⟨access, -, adb, -, found, -, packages, -, built⟩ := h
  obtain rfl := Except.ok.inj built
  rfl

end Section

end OpPolicy.Config
