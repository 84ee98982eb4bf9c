import OpPolicy.Authority.Client
import OpPolicy.Authority.Shell
import OpPolicy.Cli.Journal
import OpPolicy.Cli.Row
import OpPolicy.Host.Session
import OpPolicy.Json.Record
import OpPolicy.Package.Setup

set_option autoImplicit false

/-!
The tool as a program: it reads its command line, opens its journal, answers the request and ends
with a status, which is 0 after a success, 1 after a failure and 2 if the command line is misused. A
journal without a name for its file breaks the tool off, which is neither.
-/

namespace OpPolicy.Cli

def releaseNumber : String := "0.3.0"

/-- Why a request is not answered. -/
inductive Failure where
  | error (e : Error)
  | journal (fault : JournalFault)
  | noPackages (uid : Uid)
  | notInstalled (package : String)
  deriving DecidableEq, Repr

def Failure.message : Failure → String
  | error e => e.message
  | journal (.filter text) => s!"parsing log spec {text}"
  | journal .file => "creating filespec"
  | journal .directory => "starting logger"
  | journal .nameless => "the path of the log file ends in no name"
  | noPackages uid => s!"no packages for uid {uid}"
  | notInstalled package => s!"{package} is not installed"

/-- What is printed in answer to a request. -/
abbrev Outcome := Except Failure String

def table : OpTable := OpTable.builtin

def outcome (r : Except Error String) : Outcome := r.mapError .error

/-- Ask the registry of installed packages. -/
def askPackages {α : Type}
    (ask : Registry Unit → Reading Unit (Except Error α × Registry Unit))
    (report : α → Outcome) : Setting Outcome :=
  (Dialogue.andThen Adb.connect fun adb =>
    Dialogue.andThen Listing.Lists.configured fun lists =>
      Dialogue.andThen Registry.configured fun registry =>
        (Setting.ofHost (adb.listFor lists ((registry.start ()).bind ask))).bind fun r =>
          .done r.1).bind fun
    | .error e => .done (.error (.error e))
    | .ok a => .done (report a)

/-- Pass a call on to the authority of the device. -/
def callAuthority (c : Call) (text : c.Answer → String) : Setting Outcome :=
  (Dialogue.andThen Adb.connect fun adb =>
    Setting.ofHost (adb.send ((Client.call c).through (ShellAuthority.answer table)))).bind
      fun r => .done (outcome (r.map text))

def showApps (json : Bool) (apps : List App) : String :=
  if json then String.ofList (Json.array (apps.map App.toJson)).render else lines (apps.map appRow)

def showOps (json : Bool) (rows : List OpRow) : String :=
  if json then String.ofList (Json.array (rows.map OpRow.toJson)).render
  else lines (rows.map opRow)

def showOp (json : Bool) (row : OpRow) : String :=
  if json then String.ofList row.toJson.render else lines [opRow row]

def answer : Request → Setting Outcome
  | .version => .done (.ok (lines [releaseNumber]))
  | .listOps json => .done (.ok (showOps json table.rows.toList))
  | .showOp op json => .done (.ok (((table.row? op).map (showOp json)).getD ""))
  | .opForPermission permission =>
    .done (.ok (lines [table.nameFor (table.opForPermission? permission)]))
  | .modeName number => .done (.ok (lines [Mode.nameOf number]))
  | .listPackages (some categories) json =>
    askPackages (·.installed categories) fun apps => .ok (showApps json apps)
  | .listPackages none json =>
    askPackages (·.answer (·.apps.toList)) fun apps => .ok (showApps json apps)
  | .packagesOfUid uid =>
    askPackages (·.answer (·.namesForUid? uid)) fun
      | some names => .ok (lines ["\n".intercalate names])
      | none => .error (.noPackages uid)
  | .uidOfPackage package =>
    askPackages (·.answer (·.uidFor? package)) fun
      | some uid => .ok (lines [toString uid])
      | none => .error (.notInstalled package)
  | .whitelist => askPackages (·.answer (·.whitelist)) fun names => .ok (lines names)
  | .checkMode op uid package =>
    callAuthority (.checkOperation op uid package) fun mode => lines [mode.name]
  | .setMode op uid package mode => callAuthority (.setMode op uid package mode) fun _ => ""
  | .setUidMode op uid mode => callAuthority (.setUidMode op uid mode) fun _ => ""
  | .resetModes user package => callAuthority (.resetAllModes user package) fun _ => ""

def print (text : String) : Host Unit := .put (Host.Question.print text)

def complain (text : String) : Host Unit := .put (Host.Question.complain text)

def usage : String := s!"Usage: {programName} [OPTIONS] <COMMAND>\n"

/-- End without a request. -/
def halt : Stop → Host Nat
  | .help => (print usage).bind fun _ => .done 0
  | .version => (print s!"{programName} {releaseNumber}\n").bind fun _ => .done 0
  | .usage => (complain usage).bind fun _ => .done 2
  | .misuse m => (complain m.message).bind fun _ => .done 2

/-- The status of a tool that was broken off. -/
def brokenOff : Nat := 101

def finish : Outcome → Host Nat
  | .ok text => (print text).bind fun _ => .done 0
  | .error f =>
    if f = .journal .nameless then (complain s!"{f.message}\n").bind fun _ => .done brokenOff
    else (complain s!"Error: {f.message}\n").bind fun _ => .done 1

/-- Answer a request with the journal open. -/
def serve (g : Given) (r : Request) : Host Nat :=
  (Session.run (Journal.start g) {}).bind fun
    | (.error fault, _) => finish (.error (.journal fault))
    | (.ok journal, session) =>
      ((Session.run (answer r) session).noting journal.write).bind fun (o, _) => finish o

/-- Run the tool on the arguments of its command line. -/
def run (arguments : List String) : Host Nat :=
  match read arguments with
  | .error stop => halt stop
  | .ok (_, .version) => (print (lines [releaseNumber])).bind fun _ => .done 0
  | .ok (g, r) => serve g r

end OpPolicy.Cli
