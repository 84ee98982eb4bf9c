import OpPolicy.Cli.Grammar

set_option autoImplicit false

/-!
The tool's own command line: what can be asked of it, and the grammar in which it is asked.
-/

namespace OpPolicy.Cli

inductive Request where
  | version
  | listOps (json : Bool)
  | showOp (op : OpId) (json : Bool)
  | opForPermission (permission : String)
  | modeName (number : Int)
  | listPackages (categories : Option Flags) (json : Bool)
  | packagesOfUid (uid : Uid)
  | uidOfPackage (package : String)
  | whitelist
  | checkMode (op : OpId) (uid : Uid) (package : String)
  | setMode (op : OpId) (uid : Uid) (package : String) (mode : Mode)
  | setUidMode (op : OpId) (uid : Uid) (mode : Mode)
  | resetModes (user : Option UserId) (package : Option String)
  deriving DecidableEq, Repr

/-- What a command line has given so far. -/
structure Given where
  logToStderr : Bool := false
  logFile : Option String := none
  logFilter : Option String := none
  verbosity : Nat := 0
  json : Bool := false
  op : Option OpId := none
  mode : Option Mode := none
  number : Option Int := none
  uid : Option Uid := none
  user : Option UserId := none
  package : Option String := none
  permission : Option String := none
  categories : Option Flags := none
  deriving DecidableEq, Repr

/-- A value that is read on its own and then kept. -/
def keep {α : Type} (read : String → Except ValueFault α) (f : α → Given → Given) :
    Effect Given :=
  .accept fun s g => (read s).map fun a => f a g

/-- A value of any text. -/
def keepText (f : String → Given → Given) : Effect Given := keep .ok f

def bytesOf (s : String) : List UInt8 := s.toUTF8.toList

def int32Value (s : String) : Except ValueFault Int :=
  numberValue (-(Numeral.maxInt32 + 1)) Numeral.maxInt32 s

def wordValue (s : String) : Except ValueFault UInt32 :=
  (numberValue 0 Numeral.maxUInt32 s).map UInt32.ofInt

def pathValue (s : String) : Except ValueFault String := filledText (bytesOf s)

namespace Operand

def op : Operand Given where
  label := "<OP>"
  effect := keep (fun s => opValue OpTable.builtin (bytesOf s)) fun op g => { g with op := some op }

def mode : Operand Given where
  label := "<MODE>"
  effect := keep (fun s => modeValue (bytesOf s)) fun mode g => { g with mode := some mode }

def modeNumber : Operand Given where
  label := "<MODE>"
  effect := keep int32Value fun n g => { g with number := some n }
  negative := true

def uid : Operand Given where
  label := "<UID>"
  effect := keep wordValue fun uid g => { g with uid := some uid }

def package : Operand Given where
  label := "<PACKAGE>"
  effect := keepText fun s g => { g with package := some s }

def anyPackage : Operand Given where
  label := "[PACKAGE]"
  effect := keepText fun s g => { g with package := some s }
  required := false

def permission : Operand Given where
  label := "<PERMISSION>"
  effect := keepText fun s g => { g with permission := some s }

end Operand

namespace Named

def json : Named Given where
  label := "--json"
  effect := .mark fun g => { g with json := true }
  short := some 'j'
  long := "json"

def categories : Named Given where
  label := "--flags <FLAGS>"
  effect := keep (fun s => flagsValue (bytesOf s)) fun f g => { g with categories := some f }
  short := some 'f'
  long := "flags"

def user : Named Given where
  label := "--user <USER>"
  effect := keep wordValue fun user g => { g with user := some user }
  short := some 'u'
  long := "user"

def logToStderr : Named Given where
  label := "--log-stderr"
  effect := .mark fun g => { g with logToStderr := true }
  short := some 'e'
  long := "log-stderr"

def logFile : Named Given where
  label := "--log-file <LOG_FILE>"
  effect := keep pathValue fun path g => { g with logFile := some path }
  short := some 'f'
  long := "log-file"

def logFilter : Named Given where
  label := "--log-spec <LOG_SPEC>"
  effect := keepText fun s g => { g with logFilter := some s }
  short := some 's'
  long := "log-spec"

def verbosity : Named Given where
  label := "--log-level <LOG_LEVEL>"
  effect := keep (numberValue 0 255) fun n g => { g with verbosity := n.toNat }
  short := some 'l'
  long := "log-level"

def version : Named Given where
  label := "--version"
  effect := .version
  short := some 'V'
  long := "version"

end Named

abbrev Grammar := Command Given Request

def opCommands : List Grammar :=
  [.leaf "list" [.json] [] fun g => some (.listOps g.json),
    .leaf "show" [.json] [.op] fun g => do return .showOp (← g.op) g.json,
    .leaf "for-permission" [] [.permission] fun g => do return .opForPermission (← g.permission),
    .leaf "mode-name" [] [.modeNumber] fun g => do return .modeName (← g.number)]

def packageCommands : List Grammar :=
  [.leaf "list" [.categories, .json] [] fun g => some (.listPackages g.categories g.json),
    .leaf "for-uid" [] [.uid] fun g => do return .packagesOfUid (← g.uid),
    .leaf "uid" [] [.package] fun g => do return .uidOfPackage (← g.package),
    .leaf "whitelist" [] [] fun _ => some .whitelist]

def modeCommands : List Grammar :=
  [.leaf "check" [] [.op, .uid, .package] fun g => do
      return .checkMode (← g.op) (← g.uid) (← g.package),
    .leaf "set" [] [.op, .uid, .package, .mode] fun g => do
      return .setMode (← g.op) (← g.uid) (← g.package) (← g.mode),
    .leaf "set-uid" [] [.op, .uid, .mode] fun g => do
      return .setUidMode (← g.op) (← g.uid) (← g.mode),
    .leaf "reset" [.user] [.anyPackage] fun g => some (.resetModes g.user g.package)]

def programName : String := "appops"

def grammar : Grammar :=
  .group programName [.logToStderr, .logFile, .logFilter, .verbosity, .version]
    [.leaf "version" [] [] fun _ => some .version,
      .group "ops" [] opCommands,
      .group "pkgs" [] packageCommands,
      .group "modes" [] modeCommands]

/-- Read a command line, less the program's own name. -/
def read (arguments : List String) : Except Stop (Given × Request) :=
  grammar.read (grammar.start {}) arguments

end OpPolicy.Cli
