import Interception.Ant.Matcher

/-!
# An Ant matcher with a cache

Compiling a token is the costly part of matching, so a matcher that is used often keeps the
segments of the tokens it has met. A token is compiled when a path token is first tried against it.
Only tokens that compile are kept, under the token's text alone: that is enough because what a token
compiles to depends on nothing else but the case flag, and a change of the flag empties the cache.
What is wrong with a token is named in the pattern at hand and not kept.
-/

namespace Interception.Ant

/-- The largest number of segments that are kept. -/
def cacheCapacity : Nat := 65536

/-- The segments met so far, by the text of their tokens. -/
abbrev Cache := List (List Char × Segment)

/-- How a cache takes up a new segment. It may drop any entries, and the new one as well, but it
makes up none. -/
structure CachePolicy where
  store : Cache → List Char → Segment → Cache
  of_mem_store : ∀ cache token segment, ∀ entry ∈ store cache token segment,
    entry = (token, segment) ∨ entry ∈ cache

namespace CachePolicy

/-- Keeps every segment for as long as there is room. -/
def whileRoom : CachePolicy where
  store cache token segment :=
    if cache.length < cacheCapacity then (token, segment) :: cache else cache
  of_mem_store := by
    intro cache token segment entry mem
    split at mem
    · exact List.mem_cons.mp mem
    · exact .inr mem

end CachePolicy

/-- What is found out with the help of a cache, which remains after an error, too. -/
abbrev Cached := ExceptT PatternError (StateM Cache)

namespace Cached

/-- The segment of a token of the pattern, from the cache or compiled. -/
def compile (policy : CachePolicy) (m : AntMatcher) (pattern token : List Char) :
    Cached Segment := do
  match (← getThe Cache).lookup token with
  | some segment => return segment
  | none =>
    match m.compile token with
    | .ok segment =>
      modifyThe Cache fun cache => policy.store cache token segment
      return segment
    | .error fault => throw (m.faultIn pattern fault)

end Cached

end Interception.Ant

namespace Interception

open Ant

/-- A matcher and the segments that it has met. -/
structure CachingAntMatcher where
  matcher : AntMatcher
  cache : Cache

namespace CachingAntMatcher

def new (matcher : AntMatcher) : CachingAntMatcher := ⟨matcher, []⟩

def withSeparator (m : CachingAntMatcher) (separator : Char) : CachingAntMatcher :=
  ⟨{ m.matcher with separator }, []⟩

def withCaseSensitive (m : CachingAntMatcher) (caseSensitive : Bool) : CachingAntMatcher :=
  ⟨{ m.matcher with caseSensitive }, []⟩

/-- Trimming changes the tokens, not what a token compiles to, so the cache stays. -/
def withTrimTokens (m : CachingAntMatcher) (trimTokens : Bool) : CachingAntMatcher :=
  { m with matcher := { m.matcher with trimTokens } }

/-- Whether the pattern matches the path, with what its variables capture. -/
def matchCapturing (policy : CachePolicy) (m : AntMatcher) (pattern path : List Char) :
    Cached (Bool × Captures) :=
  (m.matchCapturing (Cached.compile policy m pattern) pattern path).run []

/-- Finds something out with the matcher's cache, and gives the matcher after it, too. -/
def use {α : Type} (m : CachingAntMatcher) (x : Cached α) :
    Except PatternError α × CachingAntMatcher :=
  let (result, cache) := x m.cache
  (result, { m with cache })

def isMatchWith (policy : CachePolicy) (m : CachingAntMatcher) (pattern path : List Char) :
    Except PatternError Bool × CachingAntMatcher :=
  m.use (Prod.fst <$> matchCapturing policy m.matcher pattern path)

def extractWith (policy : CachePolicy) (m : CachingAntMatcher) (pattern path : List Char) :
    Except PatternError (Dict String) × CachingAntMatcher :=
  m.use do
    let found ← matchCapturing policy m.matcher pattern path
    MonadExcept.ofExcept (AntMatcher.bindings pattern path found)

def isMatch (m : CachingAntMatcher) (pattern path : List Char) :
    Except PatternError Bool × CachingAntMatcher :=
  m.isMatchWith .whileRoom pattern path

def extract (m : CachingAntMatcher) (pattern path : List Char) :
    Except PatternError (Dict String) × CachingAntMatcher :=
  m.extractWith .whileRoom pattern path

end CachingAntMatcher

end Interception
