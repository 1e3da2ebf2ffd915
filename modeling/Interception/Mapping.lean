import Interception.Interceptor.Basic
import Interception.PathMatcher

/-!
# Interceptors for some paths

A mapping scopes an interceptor to paths. It applies to a path that no exclude pattern matches and
that some include pattern matches, or that no exclude pattern matches if there is no list of
includes. Patterns are tried in order, excludes first, until one decides; a pattern at fault
before that makes the answer an error. The mapping's own matcher is used if it has one.
-/

namespace Interception

structure Mapping (σ : Type) where
  interceptor : Interceptor σ
  includes : Option (List String)
  excludes : Option (List String)
  matcher : Option PathMatcher

namespace PathMatcher

/-- Whether one of the patterns matches, where a fault before the first match is an error. -/
def matchesAny (m : PathMatcher) (path : String) : List String → Except PatternError Bool
  | [] => .ok false
  | pattern :: patterns => do
    if ← m.isMatch pattern path then return true else matchesAny m path patterns

/-- The patterns that are tried before it is clear whether one of them matches. -/
def triedBy (m : PathMatcher) (path : String) : List String → List String
  | [] => []
  | pattern :: patterns =>
    match m.isMatch pattern path with
    | .ok false => pattern :: triedBy m path patterns
    | _ => [pattern]

end PathMatcher

namespace Mapping

variable {σ : Type}

/-- The mapping of an interceptor to every path. -/
def everywhere (interceptor : Interceptor σ) : Mapping σ := ⟨interceptor, none, none, none⟩

/-- The mapping as an interceptor. Its patterns have a say in whether it is selected, and none in
what it does when it is called. -/
def toInterceptor (m : Mapping σ) : Interceptor σ := m.interceptor.forward

/-- Adds include patterns. An empty list of them still makes the mapping apply to no path. -/
def withIncludes (m : Mapping σ) (patterns : List String) : Mapping σ :=
  { m with includes := some (m.includes.getD [] ++ patterns) }

/-- Adds exclude patterns. -/
def withExcludes (m : Mapping σ) (patterns : List String) : Mapping σ :=
  { m with excludes := some (m.excludes.getD [] ++ patterns) }

/-- The matcher that decides: the mapping's own one, or else the given one. -/
def decider (m : Mapping σ) (fallback : PathMatcher) : PathMatcher := m.matcher.getD fallback

/-- Whether the mapping applies to a path. -/
def applies (m : Mapping σ) (fallback : PathMatcher) (path : String) :
    Except PatternError Bool := do
  let matcher := m.decider fallback
  if ← matcher.matchesAny path (m.excludes.getD []) then return false
  else
    match m.includes with
    | none => return true
    | some includes => matcher.matchesAny path includes

/-- The patterns that are tried to find out whether the mapping applies. -/
def tried (m : Mapping σ) (fallback : PathMatcher) (path : String) : List String :=
  let matcher := m.decider fallback
  let excludes := m.excludes.getD []
  match matcher.matchesAny path excludes with
  | .ok false => matcher.triedBy path excludes ++ matcher.triedBy path (m.includes.getD [])
  | _ => matcher.triedBy path excludes

/-- A list of patterns that may be absent, for people. -/
def patternsText (patterns : Option (List String)) : String :=
  Text.optional (patterns.map Text.quotedList)

/-- The mapping for people. -/
def description (m : Mapping σ) : String :=
  "MappedInterceptor \x7b include_patterns: " ++ patternsText m.includes ++
    ", exclude_patterns: " ++ patternsText m.excludes ++
    ", path_matcher: " ++ (if m.matcher.isSome then "true" else "false") ++ ", .. \x7d"

end Mapping

end Interception
