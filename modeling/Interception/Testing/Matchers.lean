import Interception.PathMatcher
import Interception.Text

/-!
# Matchers for tests
-/

namespace Interception.Testing

/-- What a matcher says whatever it is asked. -/
inductive FixedAnswer where
  | always
  | never
  | failing
  deriving DecidableEq, Repr

namespace FixedAnswer

def result : FixedAnswer → Except PatternError Bool
  | .always => .ok true
  | .never => .ok false
  | .failing => .error (.rejected "*" "fixed failure")

def matcher (answer : FixedAnswer) : PathMatcher := .ofFunction fun _ _ => answer.result

end FixedAnswer

/-- A path matches if it begins with the pattern without the asterisks at its end. -/
def prefixMatcher : PathMatcher := .ofFunction fun pattern path =>
  let start := Text.dropEndWhile (· == '*') pattern.toList
  .ok (Text.after? start path.toList).isSome

/-- Only the pattern itself matches. -/
def exactMatcher : PathMatcher := .ofFunction fun pattern path => .ok (pattern == path)

end Interception.Testing
