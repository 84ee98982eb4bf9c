import OpPolicy.Op.Basic
import OpPolicy.Package.Category

set_option autoImplicit false

namespace OpPolicy

/-- An installed app as the package inventory reports it. -/
structure App where
  name : String
  uid : Uid
  flags : Flags
  label : String
  deriving DecidableEq, Repr

namespace App

/-- An app labelled by its own name. -/
def plain (name : String) (uid : Uid) (flags : Flags) : App := ⟨name, uid, flags, name⟩

/-- Whether the app is in one of the categories of `f`. -/
def isA (app : App) (f : Flags) : Bool := app.flags.meets f

end App

end OpPolicy
