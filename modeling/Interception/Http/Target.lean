/-!
# Methods and targets of requests

A target is a path with an optional query, an asterisk, an authority, or a scheme and an authority
with an optional path and query. `Target.path?` is the path of a target, as it is written there;
an absolute target without a path has the root as its path, and a lone authority has none.
-/

namespace Interception

namespace Method

/-- The signs that may stand in a method beside letters and digits. -/
def signs : List Char := "!#$%&'*+-.^_\x60|~".toList

/-- Whether a text is a method: a token. Letters of both cases are allowed and distinct. -/
def isMethod (text : String) : Bool :=
  !text.isEmpty && text.toList.all fun c => c.isAlphanum || signs.contains c

end Method

namespace Target

/-- The largest target that is accepted, in bytes. -/
def maxLength : Nat := 65534

/-- The longest scheme that is accepted. -/
def maxSchemeLength : Nat := 64

/-- The most colons that an authority may have before a bracket or an at sign. -/
def maxColons : Nat := 8

def isPathChar (c : Char) : Bool :=
  let n := c.toNat
  n == 0x21 || (0x24 ≤ n && n ≤ 0x3B) || n == 0x3D || (0x40 ≤ n && n ≤ 0x5F) ||
    (0x61 ≤ n && n ≤ 0x7E) || 0x80 ≤ n || c == '"'

def isQueryChar (c : Char) : Bool :=
  let n := c.toNat
  n == 0x21 || (0x24 ≤ n && n ≤ 0x3B) || n == 0x3D || (0x3F ≤ n && n ≤ 0x7E) || 0x80 ≤ n

/-- The path of a text that is a path with a query and a fragment, or nothing where a character
is not allowed in its place. The fragment is not looked at. -/
def pathOf? (text : List Char) : Option (List Char) :=
  let path := text.takeWhile fun c => c != '?' && c != '#'
  if path.all isPathChar then
    match text.dropWhile fun c => c != '?' && c != '#' with
    | '?' :: query =>
      if (query.takeWhile (· != '#')).all isQueryChar then some path else none
    | _ => some path
  else none

/-! ## Authorities -/

/-- The signs that may stand in an authority as they are, beside letters and digits. -/
def authoritySigns : List Char := "!$&'()*+,-.;=_~".toList

/-- What has been seen of an authority: colons and percent signs since they last began to count,
brackets, and whether an at sign came last. -/
structure Authority where
  colons : Nat
  percent : Bool
  opened : Bool
  closed : Bool
  atLast : Bool

namespace Authority

/-- Takes a character of the authority. -/
def step? (a : Authority) (c : Char) : Option Authority :=
  match c with
  | ':' =>
    if maxColons ≤ a.colons then none else some { a with colons := a.colons + 1, atLast := false }
  | '[' => if a.percent || a.opened then none else some { a with opened := true, atLast := false }
  | ']' =>
    if !a.opened || a.closed then none
    else some ⟨0, false, true, true, false⟩
  -- What came before was a user's name and not a host.
  | '@' => some { a with colons := 0, percent := false, atLast := true }
  | '%' => some { a with percent := true, atLast := false }
  | c =>
    if c.isAlphanum || authoritySigns.contains c then some { a with atLast := false } else none

/-- Whether the authority may end here. -/
def complete (a : Authority) : Bool :=
  a.opened == a.closed && a.colons ≤ 1 && !a.atLast && !a.percent

/-- Whether a text is an authority. The empty text is one. -/
def isAuthority (text : List Char) : Bool :=
  match text.foldlM step? ⟨0, false, false, false, false⟩ with
  | some a => a.complete
  | none => false

end Authority

/-- Cuts a text where its authority ends, if it begins with an authority. -/
def splitAuthority? (text : List Char) : Option (List Char × List Char) :=
  let isEnd (c : Char) : Bool := c == '/' || c == '?' || c == '#'
  let authority := text.takeWhile (!isEnd ·)
  if Authority.isAuthority authority then some (authority, text.dropWhile (!isEnd ·)) else none

/-! ## Schemes -/

def isSchemeChar (c : Char) : Bool := c.isAlphanum || c == '+' || c == '-' || c == '.' || c == '~'

/-- Whether a text begins with a word, where case does not count. -/
def beginsWith (word : String) (text : List Char) : Bool :=
  (text.take word.length).map Char.toLower == word.toList

inductive SchemeResult where
  | absent
  | tooLong
  | present (rest : List Char)

/-- The scheme at the beginning of a text, and what follows its `://`. -/
def scheme (text : List Char) : SchemeResult :=
  if beginsWith "http://" text then .present (text.drop 7)
  else if beginsWith "https://" text then .present (text.drop 8)
  else if text.length ≤ 3 then .absent
  else
    match text.dropWhile isSchemeChar with
    | ':' :: '/' :: '/' :: rest =>
      if maxSchemeLength < (text.takeWhile isSchemeChar).length then .tooLong else .present rest
    | _ => .absent

/-- The path of a target with a scheme or with an authority alone. -/
def fullPath? (text : List Char) : Option (List Char) :=
  match scheme text with
  | .tooLong => none
  | .absent =>
    match splitAuthority? text with
    | some (_, []) => some []
    | _ => none
  | .present rest =>
    match splitAuthority? rest with
    | none | some ([], _) => none
    | some (_, rest) => (pathOf? rest).map fun path => if path.isEmpty then ['/'] else path

/-- The path of a target, if the text is one. -/
def path? (target : String) : Option String :=
  if maxLength < target.utf8ByteSize then none
  else
    match target.toList with
    | [] => none
    | ['*'] => some "*"
    | '/' :: rest => (pathOf? ('/' :: rest)).map String.ofList
    | text => (fullPath? text).map String.ofList

end Target

end Interception
