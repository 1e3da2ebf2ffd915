import Interception.Chain
import Interception.Mapping

/-!
# Registries of interceptors

A registry holds mappings in the order of their registration, and the matcher for those without
one of their own. For a path it selects the mappings that apply, in order; if one of them cannot
tell, nothing is selected.
-/

namespace Interception

structure Registry (σ : Type) where
  mappings : List (Mapping σ)
  matcher : PathMatcher

/-- The elements that a test accepts, in order, or the first error of the test. -/
def selectBy {α ε : Type} (test : α → Except ε Bool) : List α → Except ε (List α)
  | [] => .ok []
  | a :: as => do
    let accepted ← test a
    let others ← selectBy test as
    return if accepted then a :: others else others

namespace Registry

variable {σ : Type}

/-- The mappings that apply to a path, with their positions. -/
def select (r : Registry σ) (path : String) : Except PatternError (List (Mapping σ × Nat)) :=
  selectBy (fun entry => entry.1.applies r.matcher path) r.mappings.zipIdx

/-- The report on a selection of so many mappings. -/
def selected (r : Registry σ) (path : String) (count : Nat) : Event :=
  ⟨.trace, "selected interceptors",
    [("lookup_path", .str path), ("matched", .int count),
      ("registered", .int r.mappings.length)]⟩

/-- The mappings that apply to a path, and the report on them. -/
def matching (r : Registry σ) (path : String) :
    Except PatternError (List (Mapping σ × Nat) × Event) := do
  let entries ← r.select path
  return (entries, r.selected path entries.length)

/-- The chain of the interceptors that apply to a path, and the report on the selection. -/
def chainFor (r : Registry σ) (path : String) : Except PatternError (Chain σ × Event) := do
  let (entries, event) ← r.matching path
  return (Chain.ofList (entries.map fun entry => entry.1.interceptor), event)

/-- The registry for people. -/
def description (r : Registry σ) : String :=
  "InterceptorRegistry \x7b interceptors: [" ++
    String.intercalate ", " (r.mappings.map Mapping.description) ++ "], .. \x7d"

end Registry

end Interception
