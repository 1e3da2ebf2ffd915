import Interception.Ant.Source

/-!
# The elements of a token

A token is a row of elements: characters, `?`, `*`, and variables with or without a constraint. The
draft for a token is put together from left to right, with plain text gathered on the way and escaped
when something else follows. In the end it holds the texts for the elements of the token, one behind
the other between the signs for the beginning and the end, and the names of the variables.
-/

namespace Interception.Ant

inductive Element where
  | text (c : Char)
  | anyChar
  | anyRun
  | placeholder (name : List Char) (constraint : Option (List Char))
  deriving DecidableEq, Repr

namespace Element

/-- The variable with a given text between its braces. -/
def ofBody (body : List Char) : Element :=
  let (name, constraint) := splitColon body
  .placeholder name constraint

/-- Whether the element is a variable with a constraint. -/
def isConstrained : Element → Bool
  | .placeholder _ (some _) => true
  | _ => false

end Element

/-- The elements that a token writes, read from a place in it. -/
def readElements : Place → List Char → Except Fault (List Element)
  | .outside, [] => .ok []
  | .inside _ _, [] => .error .unclosedVariable
  | .outside, c :: rest =>
    match c with
    | '?' => (readElements .outside rest).map (.anyChar :: ·)
    | '*' => (readElements .outside rest).map (.anyRun :: ·)
    | '\x7b' => readElements (.inside 0 []) rest
    | c => (readElements .outside rest).map (.text c :: ·)
  | .inside depth body, c :: rest =>
    match c, depth with
    | '\x7b', depth => readElements (.inside (depth + 1) (c :: body)) rest
    | '\x7d', 0 => (readElements .outside rest).map (Element.ofBody body.reverse :: ·)
    | '\x7d', depth + 1 => readElements (.inside depth (c :: body)) rest
    | c, depth => readElements (.inside depth (c :: body)) rest

/-- The names of the variables, in order. -/
def variableNames : List Element → List (List Char)
  | [] => []
  | .placeholder name _ :: elements => name :: variableNames elements
  | _ :: elements => variableNames elements

/-- The text of a regular expression for a row of elements; `index` is the number of variables
before it. -/
def regexText (index : Nat) : List Element → List Char
  | [] => []
  | .text c :: elements => escaped c ++ regexText index elements
  | .anyChar :: elements => '.' :: regexText index elements
  | .anyRun :: elements => '.' :: '*' :: regexText index elements
  | .placeholder _ constraint :: elements =>
    "(?P<".toList ++ (groupName index).toList ++ '>' :: constraint.getD anyText ++
      ')' :: regexText (index + 1) elements

/-- The regular expression for a whole token. -/
def sourceText (elements : List Element) : List Char := '^' :: regexText 0 elements ++ ['$']

namespace Draft

variable {d d' : Draft} {elements others : List Element} {token : List Char}

/-- The draft when a row of elements has been put behind it. -/
def after (d : Draft) (elements : List Element) : Draft where
  source := d.source ++ (escape d.literal.toList ++ regexText d.names.size elements ++ ['$'])
  literal := #[]
  names := d.names ++ variableNames elements

theorem after_congr
    (source : d.source.toList ++ (escape d.literal.toList ++ regexText d.names.size elements) =
      d'.source.toList ++ (escape d'.literal.toList ++ regexText d'.names.size others))
    (names : d.names.toList ++ variableNames elements = d'.names.toList ++ variableNames others) :
    d.after elements = d'.after others := by
  have source := congrArg (· ++ ['$']) source
  simp only [List.append_assoc] at source
  simp only [after, mk.injEq, true_and, List.append_assoc]
  exact ⟨Array.ext' (by simpa using source), Array.ext' (by simpa using names)⟩

theorem flush_eq (d : Draft) :
    d.flush = { d with source := d.source ++ escape d.literal.toList, literal := #[] } := by
  rw [flush]
  split
  · next none =>
    obtain ⟨source, literal, names⟩ := d
    obtain rfl : literal = #[] := Array.isEmpty_iff.mp none
    simp [escape]
  · rfl

theorem after_nil (d : Draft) : d.after [] = d.finish := by
  rw [finish, flush_eq]
  simp only [after, write, mk.injEq, true_and]
  exact ⟨Array.ext' (by simp [regexText]), Array.ext' (by simp [variableNames])⟩

theorem after_text (d : Draft) (c : Char) (elements : List Element) :
    (d.gather c).after elements = d.after (.text c :: elements) :=
  after_congr (by simp [gather, regexText, escape]) (by simp [gather, variableNames])

theorem after_anyChar (d : Draft) (elements : List Element) :
    (d.flush.write ['.']).after elements = d.after (.anyChar :: elements) := by
  rw [flush_eq]
  exact after_congr (by simp [write, regexText, escape]) (by simp [write, variableNames])

theorem after_anyRun (d : Draft) (elements : List Element) :
    (d.flush.write anyText).after elements = d.after (.anyRun :: elements) := by
  rw [flush_eq]
  exact after_congr (by simp [write, regexText, escape, anyText]) (by simp [write, variableNames])

theorem after_flush (d : Draft) (elements : List Element) :
    d.flush.after elements = d.after elements := by
  rw [flush_eq]
  exact after_congr (by simp [escape]) rfl

/-- A variable is put behind a draft whose plain text is all in the source. -/
theorem after_ofBody (flushed : d.literal = #[]) (body : List Char) (elements : List Element) :
    (d.putVariable body).after elements = d.after (.ofBody body :: elements) :=
  after_congr (by simp [putVariable, write, flushed, Element.ofBody, regexText, escape])
    (by simp [putVariable, write, Element.ofBody, variableNames])

theorem map_map_after {element : Element} {rest : Except Fault (List Element)}
    (same : ∀ elements, d'.after elements = d.after (element :: elements)) :
    rest.map d'.after = (rest.map (element :: ·)).map d.after := by
  cases rest with
  | error fault => rfl
  | ok elements => exact congrArg Except.ok (same elements)

/-- What is read of a token is put behind the draft. -/
theorem read_eq (place : Place) (d : Draft) (token : List Char)
    (flushed : place ≠ .outside → d.literal = #[]) :
    d.read place token = (readElements place token).map d.after := by
  fun_induction readElements place token generalizing d with
  | case1 => exact congrArg Except.ok d.after_nil.symm
  | case2 => rfl
  | case3 rest ih => rw [read, ih _ (absurd rfl), map_map_after d.after_anyChar]
  | case4 rest ih => rw [read, ih _ (absurd rfl), map_map_after d.after_anyRun]
  | case5 rest ih =>
      rw [read, ih d.flush fun _ => by rw [flush_eq]]
      congr 1
      funext elements
      exact d.after_flush elements
  | case6 rest c mark star brace ih =>
      rw [read, ih _ (absurd rfl), map_map_after (d.after_text c)]
      all_goals assumption
  | case7 read' rest depth ih => rw [read, ih d fun _ => flushed nofun]
  | case8 body rest ih =>
      rw [read, ih _ (absurd rfl), map_map_after (after_ofBody (flushed nofun) _)]
  | case9 read' rest depth ih => rw [read, ih d fun _ => flushed nofun]
  | case10 read' rest c depth opens closes closes' ih =>
      rw [read, ih d fun _ => flushed nofun]
      all_goals assumption

/-- The draft for a token holds the text for its elements and the names of its variables. -/
theorem ofToken_eq (token : List Char) :
    ofToken token = (readElements .outside token).map fun elements =>
      ⟨(sourceText elements).toArray, #[], (variableNames elements).toArray⟩ := by
  rw [ofToken, read_eq .outside start token (absurd rfl)]
  congr 1
  funext elements
  simp [after, start, sourceText, escape]

end Draft

end Interception.Ant
