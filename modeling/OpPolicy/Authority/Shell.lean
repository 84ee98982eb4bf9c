import OpPolicy.Authority.Client
import OpPolicy.Device.Shell
import OpPolicy.Op.Table
import OpPolicy.Text.Quoted

set_option autoImplicit false

/-!
The authority behind the device's `appops` shell command. Four calls have a command, the others
are not supported. The mode of an op is read from the printed report: the entry of the whole uid
wins unless it is `default`, then the package's own entry, then the op's default mode.
-/

namespace OpPolicy.ShellAuthority

/-- How many uids each device user has. -/
def uidsPerUser : UInt32 := 100000

def userOf (uid : Uid) : UserId := uid / uidsPerUser

def getCommand (uid : Uid) (package opName : String) : String :=
  s!"appops get --user {userOf uid} {Text.quote package} {opName}"

def setUidCommand (uid : Uid) (opName : String) (mode : Mode) : String :=
  s!"appops set {uid} {opName} {mode.name}"

def setCommand (uid : Uid) (package opName : String) (mode : Mode) : String :=
  s!"appops set --user {userOf uid} {Text.quote package} {opName} {mode.name}"

def resetCommand (user : Option UserId) (package : Option String) : String :=
  "appops reset" ++ (user.map fun u => s!" --user {u}").getD "" ++
    (package.map fun p => " " ++ Text.quote p).getD ""

/-- A line that reports a refused command. -/
def isRefusal (line : List Char) : Bool := "Error".toList.isPrefixOf (Text.trimStart line)

/-- Send a command; a printed refusal counts as failure whatever the exit status. -/
def run (cmd : String) : Shell (Except Error (List Char)) :=
  .note ⟨.debug, .shell, s!"appops shell: {cmd}"⟩ <|
    (Shell.checked cmd).bind fun
      | .error e => .done (.error e)
      | .ok o =>
        match (Text.lines o.stdoutText).find? isRefusal with
        | some line => .done (.error (.remoteAuthority (String.ofList (Text.trim line))))
        | none => .done (.ok o.stdoutText)

/-- A printed op name or an op's own, without the `OP_` that either may carry. -/
def bareName (s : List Char) : List Char := ("OP_".toList.isPrefixOf? s).getD s

/-- What a line of the report says about an op. -/
inductive Said where
  | nothing
  | uidMode (mode : Mode)
  | packageMode (mode : Mode)
  /-- A mode that is not known, and the text it stood in. -/
  | unknown (word line : List Char)
  deriving DecidableEq, Repr

/-- The word that a mode is written as: up to a semicolon or a blank. -/
def modeWord (s : List Char) : List Char :=
  (Text.trim s).takeWhile fun c => !(c == ';' || Text.isBlank c)

def readLine (opName : List Char) (line : List Char) : Said :=
  let line := Text.trim line
  let (forUid, line) :=
    match "Uid mode:".toList.isPrefixOf? line with
    | some rest => (true, Text.trim rest)
    | none => (false, line)
  match Text.splitFirst? [':'] line with
  | none => .nothing
  | some (name, rest) =>
    if bareName (Text.trim name) = bareName opName then
      let word := modeWord rest
      match Mode.ofName? (String.ofList word) with
      | none => .unknown word line
      | some mode => if forUid then .uidMode mode else .packageMode mode
    else .nothing

structure OpReport where
  uidMode : Option Mode := none
  packageMode : Option Mode := none
  deriving DecidableEq, Repr

/-- A later entry replaces an earlier one. -/
def OpReport.add (r : OpReport) : Said → OpReport
  | .uidMode mode => { r with uidMode := some mode }
  | .packageMode mode => { r with packageMode := some mode }
  | .nothing | .unknown .. => r

def readReport (opName : String) (text : List Char) : OpReport :=
  ((Text.lines text).map (readLine opName.toList)).foldl OpReport.add {}

def reportNotes (opName : String) (text : List Char) : List Record :=
  (Text.lines text).filterMap fun line =>
    match readLine opName.toList line with
    | .unknown word line => some ⟨.warn, .shell,
        s!"unknown mode `{String.ofList word}` in appops output line: {String.ofList line}"⟩
    | _ => none

/-- The mode in effect, given the op's default mode. -/
def OpReport.mode (r : OpReport) (fallback : Mode) : Mode :=
  match r.uidMode.filter (· ≠ .default) with
  | some mode => mode
  | none => r.packageMode.getD fallback

/-- Go on with the row of an op of the table. -/
def withRow {α : Type} (t : OpTable) (op : OpId) (f : OpRow → Shell (Except Error α)) :
    Shell (Except Error α) :=
  match t.row? op with
  | none => .done (.error (.notFound s!"op id {op}"))
  | some row => f row

/-- Send a command and drop what it prints. -/
def order (cmd : String) : Shell (Except Error Unit) :=
  (run cmd).bind fun r => .done (r.map fun _ => ())

def unsupported {α : Type} (c : Call) : Shell (Except Error α) :=
  .done (.error (.unsupported s!"{c.name} is not available through the appops shell"))

def answer (t : OpTable) : (c : Call) → Shell (Except Error c.Answer)
  | .checkOperation op uid package =>
    withRow t op fun row =>
      (run (getCommand uid package row.outerName)).bind fun
        | .error e => .done (.error e)
        | .ok text =>
          (Dialogue.sayAll (reportNotes row.name text)).bind fun _ =>
            .done (.ok ((readReport row.name text).mode row.defaultMode))
  | .setUidMode op uid mode =>
    withRow t op fun row => order (setUidCommand uid row.outerName mode)
  | .setMode op uid package mode =>
    withRow t op fun row => order (setCommand uid package row.outerName mode)
  | .resetAllModes user package => order (resetCommand user package)
  | .checkPackage uid package => unsupported (.checkPackage uid package)
  | .getPackagesForOps ops => unsupported (.getPackagesForOps ops)
  | .getOpsForPackage uid package ops => unsupported (.getOpsForPackage uid package ops)
  | .getUidOps uid ops => unsupported (.getUidOps uid ops)
  | .setUserRestrictions restrictions token user =>
    unsupported (.setUserRestrictions restrictions token user)
  | .setUserRestriction op restricted token user exceptions =>
    unsupported (.setUserRestriction op restricted token user exceptions)
  | .removeUser user => unsupported (.removeUser user)
  | .isOpsEnabled => unsupported .isOpsEnabled
  | .setOpsEnabled enabled => unsupported (.setOpsEnabled enabled)
  | .onStartOp token op uid package => unsupported (.onStartOp token op uid package)
  | .onFinishOp token op uid package => unsupported (.onFinishOp token op uid package)
  | .setOpRemindEnable op enable => unsupported (.setOpRemindEnable op enable)
  | .isOpRemindEnabled op => unsupported (.isOpRemindEnabled op)

end OpPolicy.ShellAuthority
