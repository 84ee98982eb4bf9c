import OpPolicy.Device.Shell
import OpPolicy.Package.Allowlist
import OpPolicy.Package.App
import OpPolicy.Text.Numeral

set_option autoImplicit false

/-!
The package manager's listings. A line of the full listing names a package's install path, its name
and its uid; paths may hold every delimiter themselves, so the last one counts. A line that does not
fit is reported and left out.
-/

namespace OpPolicy.Listing

/-- What a line of the full listing says. -/
structure Entry where
  path : List Char
  name : List Char
  uid : Uid
  deriving DecidableEq, Repr

/-- What is wrong with a line, in the order in which it is looked at. -/
inductive Fault where
  | noUid
  | badUid
  | noPackage
  | noEquals
  | noName
  deriving DecidableEq, Repr

def Fault.record (line : List Char) : Fault → Record
  | .noUid => ⟨.error, .inventory,
      s!"invalid output for list packages (no uid): {String.ofList line}"⟩
  | .badUid => ⟨.error, .inventory, s!"invalid uid in list packages line: {String.ofList line}"⟩
  | .noPackage => ⟨.error, .inventory,
      s!"invalid output for list packages (no `package:`): {String.ofList line}"⟩
  | .noEquals => ⟨.error, .inventory,
      s!"invalid output for list packages (no `=`): {String.ofList line}"⟩
  | .noName => ⟨.warn, .inventory, s!"package missing name for line: {String.ofList line}"⟩

def Entry.ofLine (line : List Char) : Except Fault Entry :=
  match Text.splitLast? " uid:".toList line with
  | none => .error .noUid
  | some (front, uid) =>
    match Numeral.uint32? (String.ofList (Text.trim uid)) with
    | none => .error .badUid
    | some uid =>
      match "package:".toList.isPrefixOf? front with
      | none => .error .noPackage
      | some front =>
        match Text.splitLast? ['='] front with
        | none => .error .noEquals
        | some (path, name) => if name = [] then .error .noName else .ok ⟨path, name, uid⟩

/-- The trimmed lines of a listing that are not blank. -/
def filled (text : List Char) : List (List Char) :=
  ((Text.lines text).map Text.trim).filter (· ≠ [])

def entries (text : List Char) : List Entry :=
  (filled text).filterMap fun line => (Entry.ofLine line).toOption

def faults (text : List Char) : List Record :=
  (filled text).filterMap fun line =>
    match Entry.ofLine line with
    | .ok _ => none
    | .error f => some (f.record line)

/-- The names of the listing of system packages. -/
def systemNames (text : List Char) : List String :=
  (Text.lines text).filterMap fun line =>
    match "package:".toList.isPrefixOf? (Text.trim line) with
    | none => none
    | some name => if name = [] then none else some (String.ofList name)

/-- The category that a uid alone decides. -/
def uidFlags (uid : Uid) : Flags :=
  if uid = 1000 then .single .systemUid
  else if uid = 1001 then .single .systemPhone
  else if uid = 1013 then .single .systemMedia
  else .empty

/-- What the categories of a package depend on beside the listing itself. -/
structure Lists where
  webViewProviders : Allowlist
  whitelist : Allowlist

def classify (lists : Lists) (system : List String) (name : String) (uid : Uid) : Flags :=
  (if system.contains name then Flags.single .system else .single .user) ∪ uidFlags uid ∪
    (if lists.webViewProviders.allows name then .single .webViewProvider else .empty) ∪
    (if lists.whitelist.allows name then .single .whitelisted else .empty)

def Entry.app (lists : Lists) (system : List String) (e : Entry) : App :=
  let name := String.ofList e.name
  .plain name e.uid (classify lists system name e.uid)

/-- Ask the package manager for the system packages, then for every package. -/
def fetch (lists : Lists) : Shell (Except Error (List App)) := do
  match ← Shell.checked "pm list packages -s" with
  | .error e => return .error e.intoProvider
  | .ok system =>
    match ← Shell.checked "pm list packages -f -U" with
    | .error e => return .error e.intoProvider
    | .ok full =>
      let apps := (entries full.stdoutText).map (Entry.app lists (systemNames system.stdoutText))
      Dialogue.sayAll (faults full.stdoutText)
      Dialogue.say .debug .inventory s!"pm listed {apps.length} packages"
      return .ok apps

end OpPolicy.Listing
