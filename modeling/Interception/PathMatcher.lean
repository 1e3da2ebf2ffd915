import Interception.PatternError

/-!
# Path matchers

A path matcher decides whether a path matches a pattern, or finds the pattern at fault.
-/

namespace Interception

structure PathMatcher where
  isPattern : String → Bool
  isMatch : String → String → Except PatternError Bool

namespace PathMatcher

/-- Whether a text has a sign that stands for other text in most kinds of patterns. -/
def looksLikePattern (path : String) : Bool :=
  path.toList.any fun c => c == '*' || c == '?' || c == '\x7b'

/-- The matcher that a function makes. -/
def ofFunction (isMatch : String → String → Except PatternError Bool) : PathMatcher :=
  ⟨looksLikePattern, isMatch⟩

@[simp] theorem ofFunction_isMatch (f : String → String → Except PatternError Bool) :
    (ofFunction f).isMatch = f := rfl

end PathMatcher

end Interception
