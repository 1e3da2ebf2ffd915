import Interception.Ant.Cache
import Mathlib.Data.List.Basic
import Mathlib.Tactic.SplitIfs

/-!
# The cache does not show

A cache is current if every segment in it is what its token compiles to. With a current cache
everything is found out that would be found out without one, errors included, and the cache is
current again afterwards, also after an error on the way. It does not matter which segments are
kept. Whatever is done with a matcher, its cache stays current: a change of the case flag, on which
compiling depends, empties it.
-/

namespace Interception.Ant

variable {policy : CachePolicy} {ignoreCase : Bool} {pattern token : List Char} {ending : Ending}
variable {m : AntMatcher} {α β : Type}

theorem named_bind (x : Except Fault α) (f : α → Except Fault β) :
    m.named pattern (x >>= f) = m.named pattern x >>= fun a => m.named pattern (f a) := by
  cases x <;> rfl

/-! ## Current caches -/

/-- Every segment in the cache is what its token compiles to. -/
def Cache.IsCurrent (ignoreCase : Bool) (cache : Cache) : Prop :=
  ∀ entry ∈ cache, Segment.compile ignoreCase entry.1 = .ok entry.2

theorem Cache.IsCurrent.compile_of_lookup {cache : Cache} {segment : Segment}
    (h : cache.IsCurrent ignoreCase) (found : cache.lookup token = some segment) :
    Segment.compile ignoreCase token = .ok segment := by
  obtain ⟨before, after, rfl, _⟩ := List.lookup_eq_some_iff.mp found
  exact h (token, segment) (List.mem_append_right before List.mem_cons_self)

theorem Cache.IsCurrent.store {cache : Cache} {segment : Segment} (h : cache.IsCurrent ignoreCase)
    (compiled : Segment.compile ignoreCase token = .ok segment) (policy : CachePolicy) :
    Cache.IsCurrent ignoreCase (policy.store cache token segment) := by
  intro entry mem
  obtain rfl | old := policy.of_mem_store cache token segment entry mem
  · exact compiled
  · exact h entry old

/-- From whatever current cache it starts, the computation has this result and leaves a current
cache. -/
def Cached.Finds (ignoreCase : Bool) (x : Cached α) (result : Except PatternError α) : Prop :=
  ∀ cache : Cache, cache.IsCurrent ignoreCase →
    (x cache).1 = result ∧ Cache.IsCurrent ignoreCase (x cache).2

theorem Cached.bind_apply (x : Cached α) (f : α → Cached β) (cache : Cache) :
    (x >>= f) cache = match x cache with
      | (.ok a, later) => f a later
      | (.error e, later) => (.error e, later) := by
  show (ExceptT.bindCont f (x cache).1) (x cache).2 = _
  rcases x cache with ⟨_ | _, later⟩ <;> rfl

namespace Cached.Finds

theorem pure (a : α) : Finds ignoreCase (pure a : Cached α) (.ok a) := by
  intro cache current
  exact ⟨rfl, current⟩

theorem ofExcept (result : Except PatternError α) :
    Finds ignoreCase (MonadExcept.ofExcept result : Cached α) result := by
  intro cache current
  cases result <;> exact ⟨rfl, current⟩

theorem bind {x : Cached α} {f : α → Cached β} {result : Except PatternError α}
    {next : α → Except PatternError β} (first : Finds ignoreCase x result)
    (rest : ∀ a, Finds ignoreCase (f a) (next a)) :
    Finds ignoreCase (x >>= f) (result >>= next) := by
  intro cache current
  obtain ⟨own, kept⟩ := first cache current
  rw [bind_apply, ← own]
  generalize x cache = found at kept
  obtain ⟨e | a, later⟩ := found
  · exact ⟨rfl, kept⟩
  · exact rest a later kept

theorem map {x : Cached α} {result : Except PatternError α} (h : Finds ignoreCase x result)
    (f : α → β) : Finds ignoreCase (f <$> x) (result.map f) := by
  have found := h.bind fun a => Finds.pure (f a)
  cases result <;> exact found

end Cached.Finds

/-! ## Compiling with a cache -/

namespace Cached

theorem getThe_apply (cache : Cache) :
    (getThe Cache : Cached Cache) cache = (.ok cache, cache) := rfl

theorem compile_of_lookup {cache : Cache} {segment : Segment}
    (found : cache.lookup token = some segment) :
    compile policy m pattern token cache = (.ok segment, cache) := by
  rw [compile, bind_apply, getThe_apply]
  simp only [found]
  rfl

theorem compile_of_lookup_none {cache : Cache} (unknown : cache.lookup token = none) :
    compile policy m pattern token cache =
      (m.named pattern (m.compile token),
        (m.compile token).toOption.elim cache (policy.store cache token)) := by
  rw [compile, bind_apply, getThe_apply]
  simp only [unknown]
  cases m.compile token <;> rfl

/-- A token compiles to what it does without the cache, and what is wrong with it is named in the
pattern at hand, whatever pattern it was met in before. -/
theorem compile_finds (policy : CachePolicy) (m : AntMatcher) (pattern token : List Char) :
    Finds (!m.caseSensitive) (compile policy m pattern token)
      (m.named pattern (m.compile token)) := by
  intro cache current
  cases found : cache.lookup token with
  | some segment =>
      rw [compile_of_lookup found, AntMatcher.compile, current.compile_of_lookup found]
      exact ⟨rfl, current⟩
  | none =>
      rw [compile_of_lookup_none found]
      cases compiled : m.compile token with
      | error fault => exact ⟨rfl, current⟩
      | ok segment => exact ⟨rfl, current.store compiled policy⟩

end Cached

/-! ## Matching with a cache -/

/-- From any list of captures on, the computation finds what another one does that compiles without
a cache, list of captures and fault included. -/
def Mirrors (m : AntMatcher) (pattern : List Char) (x : StateT Captures Cached α)
    (y : StateT Captures (Except Fault) α) : Prop :=
  ∀ vars, Cached.Finds (!m.caseSensitive) (x.run vars) (m.named pattern (y.run vars))

namespace Mirrors

variable {x : StateT Captures Cached α} {y : StateT Captures (Except Fault) α}

theorem pure (a : α) : Mirrors m pattern (pure a) (pure a) := fun vars => .pure (a, vars)

theorem bind {f : α → StateT Captures Cached β} {g : α → StateT Captures (Except Fault) β}
    (first : Mirrors m pattern x y) (rest : ∀ a, Mirrors m pattern (f a) (g a)) :
    Mirrors m pattern (x >>= f) (y >>= g) := by
  intro vars
  rw [StateT.run_bind, StateT.run_bind, named_bind]
  exact (first vars).bind fun (a, later) => rest a later

theorem get : Mirrors m pattern get get := fun vars => .pure (vars, vars)

theorem modify (f : Captures → Captures) : Mirrors m pattern (modify f) (modify f) :=
  fun vars => .pure ((), f vars)

theorem compile (policy : CachePolicy) (m : AntMatcher) (pattern token : List Char) :
    Mirrors m pattern (liftM (Cached.compile policy m pattern token)) (liftM (m.compile token)) := by
  intro vars
  have same : StateT.run (liftM (m.compile token)) vars = (m.compile token).map (·, vars) := by
    cases m.compile token <;> rfl
  have own : m.named pattern ((m.compile token).map (·, vars)) =
      (m.named pattern (m.compile token)).map (·, vars) := by
    cases m.compile token <;> rfl
  rw [same, own]
  exact (Cached.compile_finds policy m pattern token).map (·, vars)

theorem attempt {x : StateT Captures Cached Bool} {y : StateT Captures (Except Fault) Bool}
    (h : Mirrors m pattern x y) : Mirrors m pattern (attempt x) (attempt y) := by
  refine get.bind fun vars => h.bind fun answer => ?_
  cases answer with
  | true => exact .pure true
  | false => exact (modify _).bind fun _ => .pure false

theorem anyTail {f : List α → StateT Captures Cached Bool}
    {g : List α → StateT Captures (Except Fault) Bool} (h : ∀ tail, Mirrors m pattern (f tail) (g tail))
    (path : List α) : Mirrors m pattern (anyTail f path) (anyTail g path) := by
  induction path with
  | nil => exact h []
  | cons x path ih =>
      refine (h (x :: path)).bind fun answer => ?_
      cases answer with
      | true => exact .pure true
      | false => exact ih

theorem matchSegment (policy : CachePolicy) (m : AntMatcher) (pattern token text : List Char) :
    Mirrors m pattern
      (matchSegment (Cached.compile policy m pattern) (!m.caseSensitive) token text)
      (matchSegment m.compile (!m.caseSensitive) token text) := by
  refine (compile policy m pattern token).bind fun segment => ?_
  cases segment.capture? (!m.caseSensitive) text with
  | none => exact .pure false
  | some own => exact (modify _).bind fun _ => .pure true

theorem matchTokens (policy : CachePolicy) (m : AntMatcher) (pattern : List Char) (ending : Ending)
    (tokens path : List (List Char)) :
    Mirrors m pattern
      (matchTokens (Cached.compile policy m pattern) (!m.caseSensitive) ending tokens path)
      (matchTokens m.compile (!m.caseSensitive) ending tokens path) := by
  induction tokens generalizing path with
  | nil => exact .pure _
  | cons token rest ih =>
      unfold Ant.matchTokens
      split_ifs with spread
      · exact .anyTail (fun tail => (ih tail).attempt) path
      · cases path with
        | nil => exact .pure _
        | cons text path =>
            refine .attempt ((matchSegment policy m pattern token text).bind fun taken => ?_)
            cases taken with
            | true => exact ih path
            | false => exact .pure false

end Mirrors

end Interception.Ant

namespace Interception.CachingAntMatcher

open Ant

theorem matchCapturing_finds (policy : CachePolicy) (m : AntMatcher) (pattern path : List Char) :
    Cached.Finds (!m.caseSensitive) (matchCapturing policy m pattern path)
      (m.named pattern ((m.matchCapturing m.compile pattern path).run [])) := by
  have mirrors : Mirrors m pattern (m.matchCapturing (Cached.compile policy m pattern) pattern path)
      (m.matchCapturing m.compile pattern path) := by
    rw [AntMatcher.matchCapturing, AntMatcher.matchCapturing]
    split_ifs
    · exact .pure false
    · exact .matchTokens policy m pattern _ _ _
  exact mirrors []

/-! ## Using a matcher -/

/-- The matcher has this configuration, and its cache is current. -/
structure Holds (m : CachingAntMatcher) (config : AntMatcher) : Prop where
  matcher_eq : m.matcher = config
  current : m.cache.IsCurrent (!config.caseSensitive)

variable {m : CachingAntMatcher} {config : AntMatcher} {pattern path : List Char}

theorem holds_new (config : AntMatcher) : (new config).Holds config :=
  ⟨rfl, List.forall_mem_nil _⟩

namespace Holds

theorem use {α : Type} {x : Cached α} {result : Except PatternError α} (h : m.Holds config)
    (finds : Cached.Finds (!config.caseSensitive) x result) :
    (m.use x).1 = result ∧ (m.use x).2.Holds config := by
  obtain ⟨found, current⟩ := finds m.cache h.current
  exact ⟨found, h.matcher_eq, current⟩

theorem isMatch (h : m.Holds config) (policy : CachePolicy) (pattern path : List Char) :
    (m.isMatchWith policy pattern path).1 = config.isMatch pattern path ∧
      (m.isMatchWith policy pattern path).2.Holds config := by
  have own : config.isMatch pattern path = (config.named pattern
      ((config.matchCapturing config.compile pattern path).run [])).map Prod.fst := by
    rw [AntMatcher.isMatch, StateT.run'_eq]
    rcases (config.matchCapturing config.compile pattern path).run [] with _ | _ <;> rfl
  rw [own, isMatchWith, h.matcher_eq]
  apply h.use
  exact (matchCapturing_finds policy config pattern path).map Prod.fst

theorem extract (h : m.Holds config) (policy : CachePolicy) (pattern path : List Char) :
    (m.extractWith policy pattern path).1 = config.extract pattern path ∧
      (m.extractWith policy pattern path).2.Holds config := by
  rw [AntMatcher.extract, extractWith, h.matcher_eq]
  apply h.use
  apply (matchCapturing_finds policy config pattern path).bind
  intro found
  exact .ofExcept (AntMatcher.bindings pattern path found)

theorem withSeparator (h : m.Holds config) (separator : Char) :
    (m.withSeparator separator).Holds { config with separator } := by
  obtain ⟨rfl, current⟩ := h
  exact holds_new _

theorem withCaseSensitive (h : m.Holds config) (caseSensitive : Bool) :
    (m.withCaseSensitive caseSensitive).Holds { config with caseSensitive } := by
  obtain ⟨rfl, current⟩ := h
  exact holds_new _

/-- The cache stays: trimming is not seen by the compilation of a token. -/
theorem withTrimTokens (h : m.Holds config) (trimTokens : Bool) :
    (m.withTrimTokens trimTokens).Holds { config with trimTokens } := by
  obtain ⟨rfl, current⟩ := h
  exact ⟨rfl, current⟩

end Holds

/-- What can be done with a matcher: asking it something, or changing its configuration. -/
inductive Use where
  | isMatch (pattern path : List Char)
  | extract (pattern path : List Char)
  | withSeparator (separator : Char)
  | withCaseSensitive (caseSensitive : Bool)
  | withTrimTokens (trimTokens : Bool)

/-- What comes back from a matcher. -/
inductive Answer where
  | isMatch (result : Except PatternError Bool)
  | extract (result : Except PatternError (Dict String))
  | configured

namespace Use

/-- The answer of a matcher, and the matcher after it. -/
def run (policy : CachePolicy) (m : CachingAntMatcher) : Use → Answer × CachingAntMatcher
  | isMatch pattern path =>
    let (result, m) := m.isMatchWith policy pattern path
    (.isMatch result, m)
  | extract pattern path =>
    let (result, m) := m.extractWith policy pattern path
    (.extract result, m)
  | withSeparator separator => (.configured, m.withSeparator separator)
  | withCaseSensitive caseSensitive => (.configured, m.withCaseSensitive caseSensitive)
  | withTrimTokens trimTokens => (.configured, m.withTrimTokens trimTokens)

/-- The answer of a matcher without a cache. -/
def answer (config : AntMatcher) : Use → Answer
  | isMatch pattern path => .isMatch (config.isMatch pattern path)
  | extract pattern path => .extract (config.extract pattern path)
  | _ => .configured

/-- The configuration that is left behind. -/
def configure (config : AntMatcher) : Use → AntMatcher
  | withSeparator separator => { config with separator }
  | withCaseSensitive caseSensitive => { config with caseSensitive }
  | withTrimTokens trimTokens => { config with trimTokens }
  | _ => config

end Use

/-- One use: the answer is that without a cache, and the cache is current again afterwards. -/
theorem Holds.run (h : m.Holds config) (policy : CachePolicy) (use : Use) :
    (use.run policy m).1 = use.answer config ∧
      (use.run policy m).2.Holds (use.configure config) := by
  cases use with
  | isMatch pattern path =>
      obtain ⟨found, holds⟩ := h.isMatch policy pattern path
      exact ⟨congrArg Answer.isMatch found, holds⟩
  | extract pattern path =>
      obtain ⟨found, holds⟩ := h.extract policy pattern path
      exact ⟨congrArg Answer.extract found, holds⟩
  | withSeparator separator => exact ⟨rfl, h.withSeparator separator⟩
  | withCaseSensitive caseSensitive => exact ⟨rfl, h.withCaseSensitive caseSensitive⟩
  | withTrimTokens trimTokens => exact ⟨rfl, h.withTrimTokens trimTokens⟩

/-- The matcher after it was used, where the cache may take up segments each time in another way. -/
def after (m : CachingAntMatcher) : List (CachePolicy × Use) → CachingAntMatcher
  | [] => m
  | (policy, use) :: history => (use.run policy m).2.after history

/-- The configuration after the uses. -/
def configured (config : AntMatcher) : List Use → AntMatcher
  | [] => config
  | use :: uses => configured (use.configure config) uses

theorem Holds.after (h : m.Holds config) (history : List (CachePolicy × Use)) :
    (m.after history).Holds (configured config (history.map Prod.snd)) := by
  induction history generalizing m config with
  | nil => exact h
  | cons step history ih =>
      obtain ⟨policy, use⟩ := step
      obtain ⟨_, next⟩ := h.run policy use
      exact ih next

/-- Whatever a matcher was used for, and whichever segments it has kept, it answers like one that was
just made with the configuration that it has by now, and that one like a matcher without a cache. -/
theorem run_after_eq_run_new (config : AntMatcher) (history : List (CachePolicy × Use))
    (policy other : CachePolicy) (use : Use) :
    (use.run policy ((new config).after history)).1 =
        (use.run other (new (configured config (history.map Prod.snd)))).1 ∧
      (use.run other (new (configured config (history.map Prod.snd)))).1 =
        use.answer (configured config (history.map Prod.snd)) := by
  have used := (holds_new config).after history
  have fresh := holds_new (configured config (history.map Prod.snd))
  obtain ⟨answered, _⟩ := used.run policy use
  obtain ⟨expected, _⟩ := fresh.run other use
  exact ⟨answered.trans expected.symm, expected⟩

end Interception.CachingAntMatcher
