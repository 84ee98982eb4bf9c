import OpPolicy.Op.Basic

set_option autoImplicit false

/-!
The calls that the authority over op modes understands, and what each is answered with.
-/

namespace OpPolicy

/-- What is recorded of one op of a package. -/
structure OpEntry where
  op : OpId
  mode : Mode
  time : Int64
  rejectTime : Int64
  duration : Int64
  deriving DecidableEq

structure PackageOps where
  packageName : String
  uid : Uid
  ops : List OpEntry
  deriving DecidableEq

inductive Call where
  | checkOperation (op : OpId) (uid : Uid) (package : String)
  | checkPackage (uid : Uid) (package : String)
  | getPackagesForOps (ops : List OpId)
  | getOpsForPackage (uid : Uid) (package : String) (ops : List OpId)
  | getUidOps (uid : Uid) (ops : List OpId)
  | setUidMode (op : OpId) (uid : Uid) (mode : Mode)
  | setMode (op : OpId) (uid : Uid) (package : String) (mode : Mode)
  /-- Reset every resettable op, of one user or package if given. -/
  | resetAllModes (user : Option UserId) (package : Option String)
  | setUserRestrictions (restrictions : List (String × Bool)) (token : String) (user : UserId)
  | setUserRestriction (op : OpId) (restricted : Bool) (token : String) (user : UserId)
      (exceptions : List String)
  | removeUser (user : UserId)
  | isOpsEnabled
  | setOpsEnabled (enabled : Bool)
  | onStartOp (token : String) (op : OpId) (uid : Uid) (package : String)
  | onFinishOp (token : String) (op : OpId) (uid : Uid) (package : String)
  | setOpRemindEnable (op : OpId) (enable : Bool)
  | isOpRemindEnabled (op : OpId)
  deriving DecidableEq

namespace Call

def name : Call → String
  | checkOperation .. => "checkOperation"
  | checkPackage .. => "checkPackage"
  | getPackagesForOps .. => "getPackagesForOps"
  | getOpsForPackage .. => "getOpsForPackage"
  | getUidOps .. => "getUidOps"
  | setUidMode .. => "setUidMode"
  | setMode .. => "setMode"
  | resetAllModes .. => "resetAllModes"
  | setUserRestrictions .. => "setUserRestrictions"
  | setUserRestriction .. => "setUserRestriction"
  | removeUser .. => "removeUser"
  | isOpsEnabled => "isOpsEnabled"
  | setOpsEnabled .. => "setOpsEnabled"
  | onStartOp .. => "onStartOp"
  | onFinishOp .. => "onFinishOp"
  | setOpRemindEnable .. => "setOpRemindEnable"
  | isOpRemindEnabled .. => "isOpRemindEnabled"

abbrev Answer : Call → Type
  | checkOperation .. | checkPackage .. => Mode
  | getPackagesForOps .. | getOpsForPackage .. | getUidOps .. => List PackageOps
  | isOpsEnabled | isOpRemindEnabled .. => Bool
  | setUidMode .. | setMode .. | resetAllModes .. | setUserRestrictions ..
  | setUserRestriction .. | removeUser .. | setOpsEnabled .. | onStartOp .. | onFinishOp ..
  | setOpRemindEnable .. => Unit

end Call

end OpPolicy
