import Interception.Path.Percent
import Interception.Text

/-!
# Lookup paths

Interceptors are selected by the lookup path of a request, a normal form of its raw path. Query and
fragment are cut off, parameters behind semicolons are dropped from every segment, percent-encoded
text is decoded, and empty, `.` and `..` segments are resolved. What the path of the application
itself is, its context, is then taken off the front.

Resolving comes after decoding, so that an encoded dot segment is resolved as well.
-/

namespace Interception

open Text

namespace Path

/-- The segments left after resolving: a step on a stack of segments, the last one first. -/
def resolveStep (stack : List (List Char)) (segment : List Char) : List (List Char) :=
  if segment = [] ∨ segment = ['.'] then stack
  else if segment = ['.', '.'] then stack.tail
  else segment :: stack

/-- The segments of a path: empty and `.` segments are dropped, and `..` takes back the segment
before it, if there is one. -/
def segments (path : List Char) : List (List Char) :=
  ((pieces '/' path).foldl resolveStep []).reverse

/-- The path with given segments, and a final slash or none. -/
def render (segments : List (List Char)) (slash : Bool) : List Char :=
  '/' :: joined '/' segments ++ if !segments.isEmpty && slash then ['/'] else []

/-- The normal form of a path: its segments between single slashes, with a final slash if there
are segments and the path had one. -/
def normalize (path : List Char) : List Char := render (segments path) (endsWith '/' path)

/-- Drops what follows the first semicolon of every segment. -/
def dropParameters (path : List Char) : List Char :=
  joined '/' ((pieces '/' path).map (before (· == ';')))

/-- What is left of a path after a context that ends at the end of a segment. -/
def stripContext? (context path : List Char) : Option (List Char) :=
  match after? context path with
  | some rest => if rest.isEmpty || startsWith '/' rest then some rest else none
  | none => none

end Path

/-- How raw paths are turned into lookup paths. -/
structure Lookup where
  context : Option (List Char)
  removeSemicolon : Bool
  decode : Bool
  deriving DecidableEq, Repr

namespace Lookup

open Interception.Path

/-- Without a context, with parameters removed and text decoded. -/
def default : Lookup := ⟨none, true, true⟩

instance : Inhabited Lookup := ⟨default⟩

/-- Sets the context: without slashes at its end, with one at its beginning, and absent if nothing
else is left. -/
def withContext (l : Lookup) (context : String) : Lookup :=
  let trimmed := dropEndWhile (· == '/') context.toList
  { l with
    context :=
      if trimmed.isEmpty then none
      else if startsWith '/' trimmed then some trimmed
      else some ('/' :: trimmed) }

/-- The raw path without query and fragment, without parameters, and decoded, as far as the
settings say so. Text that is not UTF-8 when decoded stays encoded. -/
def plainPath (l : Lookup) (raw : List Char) : List Char :=
  let path := before (fun c => c == '?' || c == '#') raw
  let path := if l.removeSemicolon then dropParameters path else path
  if l.decode then (Percent.decode? path).getD path else path

/-- The lookup path before the context is taken off. -/
def fullPath (l : Lookup) (raw : List Char) : List Char := normalize (l.plainPath raw)

/-- The lookup path of a raw path. -/
def lookupPath (l : Lookup) (raw : List Char) : List Char :=
  let path := l.fullPath raw
  match l.context.bind fun context => stripContext? context path with
  | some rest => normalize rest
  | none => path

end Lookup

end Interception
