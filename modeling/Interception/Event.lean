import Interception.Json.Basic

/-!
# Events

What the library reports about its work, beside what it does. Events are only ever appended to a
journal, and nothing depends on them.
-/

namespace Interception

inductive Level where
  | trace
  | debug
  | info
  | warn
  | error
  deriving DecidableEq, Repr

namespace Level

def name : Level → String
  | .trace => "TRACE"
  | .debug => "DEBUG"
  | .info => "INFO"
  | .warn => "WARN"
  | .error => "ERROR"

end Level

structure Event where
  level : Level
  message : String
  fields : List (String × Json)

end Interception
