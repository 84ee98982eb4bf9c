set_option autoImplicit false

/-!
Log records: a level, the component that speaks, and a text.
-/

namespace OpPolicy

inductive Level where
  | error
  | warn
  | info
  | debug
  | trace
  deriving DecidableEq, Repr

namespace Level

def name : Level → String
  | error => "ERROR"
  | warn => "WARN"
  | info => "INFO"
  | debug => "DEBUG"
  | trace => "TRACE"

/-- How much a level lets through: an error is rank 1, a trace rank 5. -/
def rank : Level → Nat
  | error => 1
  | warn => 2
  | info => 3
  | debug => 4
  | trace => 5

end Level

inductive Component where
  | adb
  | client
  | shell
  | inventory
  | cache
  | monitor
  | service
  | context
  | command
  deriving DecidableEq, Repr

/-- The path by which a log specification selects a component. -/
def Component.path : Component → String
  | .adb => "appops::adb"
  | .client => "appops::ops::client"
  | .shell => "appops::ops::shell"
  | .inventory => "appops::pm::inventory"
  | .cache => "appops::pm::cache"
  | .monitor => "appops::pm::monitor"
  | .service => "appops::pm::service"
  | .context => "appops::context"
  | .command => "appops::command"

structure Record where
  level : Level
  component : Component
  text : String
  deriving DecidableEq, Repr

end OpPolicy
