/-!
# What can be wrong with a pattern
-/

namespace Interception

/-- Why a path could not be matched against a pattern. -/
inductive PatternError where
  | unclosedVariable (pattern : String)
  | invalidRegex (pattern reason : String)
  | rejected (pattern reason : String)
  | noMatch (pattern path : String)
  deriving DecidableEq, Repr

namespace PatternError

def message : PatternError → String
  | .unclosedVariable pattern => "unclosed URI template variable in pattern `" ++ pattern ++ "`"
  | .invalidRegex pattern reason =>
    "invalid regular expression in pattern `" ++ pattern ++ "`: " ++ reason
  | .rejected pattern reason => "pattern `" ++ pattern ++ "` rejected: " ++ reason
  | .noMatch pattern path => "path `" ++ path ++ "` does not match pattern `" ++ pattern ++ "`"

end PatternError

end Interception
