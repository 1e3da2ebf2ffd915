import Interception.Regex.Expr
import Interception.Unicode.Later

/-!
# Reading regular expressions

`Expr.parse? text` is the expression that `text` writes, or nothing when `text` writes none. There
is no looking around and no referring back to a group. In verbose mode blanks and comments between
the signs are skipped; the mode is switched by a flag and holds to the end of the group.

The readers are given the text that is left and return what they read with the rest. Where one
calls itself on a rest that is not simply the tail, a number that exceeds the length of the text
bounds the calls.
-/

namespace Interception.Regex

open Unicode

def isBlank (c : Char) : Bool := Property.whiteSpace.contains c

/-- Drops blanks and comments; a comment runs from a number sign to the end of the line. -/
def skipBlanks (inComment : Bool) : List Char → List Char
  | [] => []
  | c :: rest =>
    if inComment then skipBlanks (c != '\n') rest
    else if isBlank c then skipBlanks false rest
    else if c = '#' then skipBlanks true rest
    else c :: rest

/-- In verbose mode, drops blanks and comments. -/
def skip (verbose : Bool) (text : List Char) : List Char :=
  if verbose then skipBlanks false text else text

/-- The longest row of characters that satisfy `p`, with blanks skipped after each. -/
def gather (verbose : Bool) (p : Char → Bool) : Nat → List Char → List Char × List Char
  | fuel + 1, c :: rest =>
    if p c then
      let (taken, rest) := gather verbose p fuel (skip verbose rest)
      (c :: taken, rest)
    else ([], c :: rest)
  | _, rest => ([], rest)

def hexValue? (c : Char) : Option Nat :=
  if '0' ≤ c ∧ c ≤ '9' then some (c.toNat - '0'.toNat)
  else if 'a' ≤ c ∧ c ≤ 'f' then some (c.toNat - 'a'.toNat + 10)
  else if 'A' ≤ c ∧ c ≤ 'F' then some (c.toNat - 'A'.toNat + 10)
  else none

/-- The number that hexadecimal digits write. -/
def hexNumber? (digits : List Char) : Option Nat :=
  digits.foldlM (fun n c => (hexValue? c).map fun d => n * 16 + d) 0

/-- The character with a given code point, if it is one. -/
def char? (n : Nat) : Option Char :=
  if n < 0xD800 ∨ (0xDFFF < n ∧ n ≤ 0x10FFFF) then some (Char.ofNat n) else none

/-- A single sign, of those that stand outside of brackets. -/
inductive Atom where
  | literal (l : Literal)
  | dot
  | assertion (a : Assertion)
  | charClass (c : ClassExpr)

def Atom.toExpr : Atom → Expr
  | .literal l => .literal l
  | .dot => .dot
  | .assertion a => .assertion a
  | .charClass c => .charClass c

/-- The atom as an item between brackets, where there are no dots and assertions. -/
def Atom.toItem? : Atom → Option ClassExpr
  | .literal l => some (.literal l)
  | .charClass c => some c
  | _ => none

/-- The atom as an end of a range. -/
def Atom.toLiteral? : Atom → Option Literal
  | .literal l => some l
  | _ => none

/-- Takes exactly `count` characters, with blanks skipped after each. -/
def takeExactly (verbose : Bool) : Nat → List Char → Option (List Char × List Char)
  | 0, rest => some ([], rest)
  | _ + 1, [] => none
  | n + 1, c :: rest => do
    let (taken, rest) ← takeExactly verbose n (skip verbose rest)
    return (c :: taken, rest)

/-- A code point in hexadecimal, of `width` digits or between braces. -/
def readHex? (verbose : Bool) (width : Nat) (text : List Char) : Option (Literal × List Char) :=
  match skip verbose text with
  | '\x7b' :: rest => do
    let (digits, rest) := gather verbose (· != '\x7d') rest.length (skip verbose rest)
    let _ :: rest := rest | none
    if digits.isEmpty then none
    let c ← char? (← hexNumber? digits)
    return (⟨c, false⟩, skip verbose rest)
  | text => do
    let (digits, rest) ← takeExactly verbose width text
    let c ← char? (← hexNumber? digits)
    return (⟨c, width == 2⟩, rest)

/-- Cuts a text at the first place where `mark` stands, and leaves the mark out. -/
def cutAt? (mark : List Char) : List Char → Option (List Char × List Char)
  | [] => none
  | c :: rest =>
    if mark.isPrefixOf (c :: rest) then some ([], (c :: rest).drop mark.length)
    else (cutAt? mark rest).map fun (before, after) => (c :: before, after)

/-- A query between braces: `name`, or a name and a value with `!=`, `:` or `=` between them. -/
def queryOfText (text : List Char) : PropertyQuery :=
  match cutAt? ['!', '='] text with
  | some (name, value) => .valued name value true
  | none =>
    match cutAt? [':'] text <|> cutAt? ['='] text with
    | some (name, value) => .valued name value false
    | none => .named text

/-- The query for a property, after its letter. -/
def readProperty? (verbose : Bool) (text : List Char) : Option (PropertyQuery × List Char) :=
  match skip verbose text with
  | [] => none
  | '\x7b' :: rest =>
    match gather verbose (· != '\x7d') rest.length (skip verbose rest) with
    | (_, []) => none
    | (name, _ :: rest) => some (queryOfText name, rest)
  | c :: rest => if c = '\\' then none else some (.named [c], skip verbose rest)

/-- The signs that may always be escaped. -/
def isMeta (c : Char) : Bool := "\\.+*?()|[]\x7b\x7d^$#&-~".toList.contains c

/-- Signs of ASCII that are not letters or digits may be escaped without need. -/
def isEscapable (c : Char) : Bool :=
  isMeta c || (c.toNat < 128 && !c.isAlphanum && c != '<' && c != '>')

/-- The assertions that are written with a name in braces after `\b`. -/
def boundaryNamed? (name : List Char) : Option Assertion :=
  match String.ofList name with
  | "start" => some .wordStart
  | "end" => some .wordEnd
  | "start-half" => some .wordStartHalf
  | "end-half" => some .wordEndHalf
  | _ => none

/-- What follows `\b`: a name in braces chooses another assertion. Braces that begin otherwise
are left for a count. -/
def readBoundary? (verbose : Bool) : List Char → Option (Assertion × List Char)
  | '\x7b' :: rest =>
    let isNameSign (c : Char) : Bool := c.isAlpha || c == '-'
    match skip verbose rest with
    | [] => none
    | c :: inside =>
      if isNameSign c then
        match gather verbose isNameSign (rest.length + 1) (c :: inside) with
        | (name, '\x7d' :: rest) => (boundaryNamed? name).map (·, rest)
        | _ => none
      else some (.wordBoundary, '\x7b' :: rest)
  | rest => some (.wordBoundary, rest)

/-- What an escape means, after its backslash. -/
def readEscape? (verbose : Bool) : List Char → Option (Atom × List Char)
  | [] => none
  | c :: rest =>
    let char (x : Char) : Option (Atom × List Char) := some (.literal ⟨x, false⟩, rest)
    let perl (kind : PerlClass) (negated : Bool) : Option (Atom × List Char) :=
      some (.charClass (.perl kind negated), rest)
    let hex (width : Nat) : Option (Atom × List Char) := do
      let (l, rest) ← readHex? verbose width rest
      return (.literal l, rest)
    let property (negated : Bool) : Option (Atom × List Char) := do
      let (query, rest) ← readProperty? verbose rest
      return (.charClass (.property query negated), rest)
    match c with
    | 'x' => hex 2
    | 'u' => hex 4
    | 'U' => hex 8
    | 'p' => property false
    | 'P' => property true
    | 'd' => perl .digit false
    | 'D' => perl .digit true
    | 's' => perl .space false
    | 'S' => perl .space true
    | 'w' => perl .word false
    | 'W' => perl .word true
    | 'a' => char '\x07'
    | 'f' => char '\x0c'
    | 't' => char '\t'
    | 'n' => char '\n'
    | 'r' => char '\r'
    | 'v' => char '\x0b'
    | 'A' => some (.assertion .textStart, rest)
    | 'z' => some (.assertion .textEnd, rest)
    | 'b' => (readBoundary? verbose rest).map fun (a, rest) => (.assertion a, rest)
    | 'B' => some (.assertion .notWordBoundary, rest)
    | '<' => some (.assertion .wordStart, rest)
    | '>' => some (.assertion .wordEnd, rest)
    | c => if isEscapable c then char c else none

/-- A sign that is neither an operator nor a bracket. -/
def readAtom? (verbose : Bool) : List Char → Option (Atom × List Char)
  | [] => none
  | '\\' :: rest => readEscape? verbose rest
  | '.' :: rest => some (.dot, rest)
  | '^' :: rest => some (.assertion .lineStart, rest)
  | '$' :: rest => some (.assertion .lineEnd, rest)
  | c :: rest => some (.literal ⟨c, false⟩, rest)

/-! ## Sets in brackets -/

def posixNamed? (name : List Char) : Option PosixClass :=
  match String.ofList name with
  | "alnum" => some .alnum
  | "alpha" => some .alpha
  | "ascii" => some .ascii
  | "blank" => some .blank
  | "cntrl" => some .cntrl
  | "digit" => some .digit
  | "graph" => some .graph
  | "lower" => some .lower
  | "print" => some .print
  | "punct" => some .punct
  | "space" => some .space
  | "upper" => some .upper
  | "word" => some .word
  | "xdigit" => some .xdigit
  | _ => none

/-- A named class of ASCII characters, after its opening bracket. -/
def readPosix? : List Char → Option (ClassExpr × List Char)
  | ':' :: rest => do
    let (negated, rest) := match rest with
      | '^' :: rest => (true, rest)
      | rest => (false, rest)
    let name := rest.takeWhile (· != ':')
    let ':' :: ']' :: rest := rest.dropWhile (· != ':') | none
    let kind ← posixNamed? name
    return (.posix kind negated, rest)
  | _ => none

/-- The sign that decides whether a minus makes a range. In verbose mode blanks are skipped, and
of a comment only its number sign. -/
def signAhead? (verbose : Bool) (text : List Char) : Option Char :=
  if verbose then
    let ahead := match text.dropWhile isBlank with
      | '#' :: rest => rest.dropWhile isBlank
      | rest => rest
    ahead.head? <|> text.head?
  else text.head?

/-- A single character or class between brackets. -/
def readItem? (verbose : Bool) : List Char → Option (Atom × List Char)
  | [] => none
  | '\\' :: rest => readEscape? verbose rest
  | c :: rest => some (.literal ⟨c, false⟩, rest)

/-- A single item or a range between brackets. -/
def readRange? (verbose : Bool) (text : List Char) : Option (ClassExpr × List Char) := do
  let (low, rest) ← readItem? verbose text
  match skip verbose rest with
  | [] => none
  | '-' :: after =>
    match signAhead? verbose after with
    | some ']' | some '-' => return (← low.toItem?, '-' :: after)
    | _ =>
      let after := skip verbose after
      let (high, rest) ← readItem? verbose after
      let low ← low.toLiteral?
      let high ← high.toLiteral?
      if low.char ≤ high.char then return (.range low high, rest) else none
  | rest => return (← low.toItem?, rest)

/-- The minus signs with which a set may begin. -/
def openingMinuses (verbose : Bool) : Nat → List Char → Nat × List Char
  | fuel + 1, '-' :: rest =>
    let (n, rest) := openingMinuses verbose fuel (skip verbose rest)
    (n + 1, rest)
  | _, rest => (0, rest)

/-- What has been read of a set: the left side of an operation that waits for its right side, and
the items since then, the last one first. -/
structure OpenClass where
  waiting : Option (SetOperation × ClassExpr)
  items : List ClassExpr

namespace OpenClass

/-- The set that has been read, as if it ended here. -/
def body (o : OpenClass) : ClassExpr :=
  let last := ClassExpr.ofItems o.items.reverse
  match o.waiting with
  | some (kind, lhs) => .operation kind lhs last
  | none => last

def push (o : OpenClass) (item : ClassExpr) : OpenClass := { o with items := item :: o.items }

def operation (o : OpenClass) (kind : SetOperation) : OpenClass := ⟨some (kind, o.body), []⟩

end OpenClass

/-- How a set begins, after its bracket: a circumflex negates it, and minus signs or a closing
bracket that come first stand for themselves. -/
def readOpening? (verbose : Bool) (text : List Char) : Option (Bool × OpenClass × List Char) :=
  let minus : ClassExpr := .literal ⟨'-', false⟩
  let (negated, rest) := match skip verbose text with
    | '^' :: rest => (true, skip verbose rest)
    | rest => (false, rest)
  match openingMinuses verbose rest.length rest with
  | (_, []) => none
  | (0, ']' :: rest) =>
    match skip verbose rest with
    | [] => none
    | rest => some (negated, ⟨none, [.literal ⟨']', false⟩]⟩, rest)
  | (n, rest) => some (negated, ⟨none, List.replicate n minus⟩, rest)

mutual

/-- A set, after its opening bracket. -/
def readClass? (verbose : Bool) : Nat → List Char → Option (ClassExpr × List Char)
  | 0, _ => none
  | fuel + 1, text => do
    let (negated, start, rest) ← readOpening? verbose text
    let (body, rest) ← readItems? verbose fuel start rest
    return (.bracket negated body, rest)

/-- The items of a set, through its closing bracket. -/
def readItems? (verbose : Bool) : Nat → OpenClass → List Char → Option (ClassExpr × List Char)
  | 0, _, _ => none
  | fuel + 1, sofar, text =>
    match skip verbose text with
    | [] => none
    | '[' :: rest =>
      match readPosix? rest with
      | some (item, rest) => readItems? verbose fuel (sofar.push item) rest
      | none =>
        match readClass? verbose fuel rest with
        | some (item, rest) => readItems? verbose fuel (sofar.push item) rest
        | none => none
    | ']' :: rest => some (sofar.body, rest)
    | '&' :: '&' :: rest => readItems? verbose fuel (sofar.operation .inter) rest
    | '-' :: '-' :: rest => readItems? verbose fuel (sofar.operation .diff) rest
    | '~' :: '~' :: rest => readItems? verbose fuel (sofar.operation .symmDiff) rest
    | text =>
      match readRange? verbose text with
      | some (item, rest) => readItems? verbose fuel (sofar.push item) rest
      | none => none

end

/-! ## Groups and repetitions -/

/-- Whether `c` may stand in the name of a group, at its beginning or later. -/
def isNameChar (first : Bool) (c : Char) : Bool :=
  if c.toNat < 128 then
    c.isAlpha || c == '_' || (!first && (c.isDigit || c == '.' || c == '[' || c == ']'))
  else
    Later.alphabetic.contains c || (!first && Later.numeric.contains c)

/-- The name of a group, through the angle that closes it. -/
def readName? (text : List Char) : Option (String × List Char) :=
  match text.takeWhile (· != '>'), text.dropWhile (· != '>') with
  | c :: more, _ :: rest =>
    if isNameChar true c && more.all (isNameChar false) then some (String.ofList (c :: more), rest)
    else none
  | _, _ => none

def flagNamed? : Char → Option Flag
  | 'i' => some .ignoreCase
  | 'm' => some .multiLine
  | 's' => some .dotAll
  | 'U' => some .swapGreed
  | 'u' => some .unicode
  | 'R' => some .crlf
  | 'x' => some .verbose
  | _ => none

/-- A row of flags up to the sign that ends it. No flag comes twice, a negation comes once and
before some flag. -/
def readFlags? (items : List FlagItem) : List Char → Option (List FlagItem × List Char)
  | [] => none
  | c :: rest =>
    if c = ':' ∨ c = ')' then
      if items.getLast? = some .negation then none else some (items, c :: rest)
    else
      match (if c = '-' then some FlagItem.negation else (flagNamed? c).map .flag) with
      | none => none
      | some item => if items.contains item then none else readFlags? (items ++ [item]) rest

/-- How a group begins, after its parenthesis: as a group, or as flags for what follows. -/
inductive Opening where
  | group (kind : GroupKind)
  | flags (items : List FlagItem)

def readGroupOpening? (verbose : Bool) (text : List Char) : Option (Opening × List Char) :=
  match skip verbose text with
  | '?' :: '=' :: _ | '?' :: '!' :: _ | '?' :: '<' :: '=' :: _ | '?' :: '<' :: '!' :: _ => none
  | '?' :: 'P' :: '<' :: rest | '?' :: '<' :: rest => do
    let (name, rest) ← readName? rest
    return (.group (.named name), rest)
  | '?' :: rest => do
    match ← readFlags? [] rest with
    | ([], ')' :: _) => none
    | (items, ')' :: rest) => return (.flags items, rest)
    | (items, _ :: rest) => return (.group (.flagged items), rest)
    | _ => none
  | rest => some (.group .numbered, rest)

/-- A number below 2^32 with blanks around it. -/
def readCount? (verbose : Bool) (text : List Char) : Option (Nat × List Char) :=
  match gather verbose Char.isDigit text.length (text.dropWhile isBlank) with
  | ([], _) => none
  | (digits, rest) =>
    let n := digits.foldl (fun n c => n * 10 + (c.toNat - '0'.toNat)) 0
    if n < UInt32.size then some (n, (gather verbose isBlank rest.length rest).2) else none

/-- The bounds of a counted repetition, after the opening brace. -/
def readBounds? (verbose : Bool) (text : List Char) : Option (Nat × Option Nat × List Char) := do
  let (least, rest) ← readCount? verbose (skip verbose text)
  match rest with
  | ',' :: rest =>
    match skip verbose rest with
    | '\x7d' :: rest => return (least, none, rest)
    | rest =>
      let (most, rest) ← readCount? verbose rest
      let '\x7d' :: rest := rest | none
      if least ≤ most then return (least, some most, rest) else none
  | '\x7d' :: rest => return (least, some least, rest)
  | _ => none

/-- The last part that was read, with what was read before it, if it can be repeated. -/
def lastRepeatable? : List Expr → Option (Expr × List Expr)
  | [] | .empty :: _ | .flags _ :: _ => none
  | part :: parts => some (part, parts)

/-- A question mark after a repetition makes it prefer few rounds. -/
def readGreed : List Char → Bool × List Char
  | '?' :: rest => (false, rest)
  | rest => (true, rest)

/-- What has been read of a group: the parts of the present alternative and the alternatives
before it, each in reverse; the names of all groups so far; and the mode. -/
structure OpenGroup where
  parts : List Expr
  branches : List Expr
  names : List String
  verbose : Bool

namespace OpenGroup

def push (o : OpenGroup) (part : Expr) : OpenGroup := { o with parts := part :: o.parts }

/-- Begins another alternative. -/
def branch (o : OpenGroup) : OpenGroup :=
  { o with parts := [], branches := Expr.ofParts o.parts.reverse :: o.branches }

/-- The expression that has been read, as if it ended here. -/
def body (o : OpenGroup) : Expr := Expr.ofBranches o.branch.branches.reverse

/-- Repeats the last part. -/
def repeatLast? (o : OpenGroup) (least : Nat) (most : Option Nat) (greedy : Bool) :
    Option OpenGroup :=
  (lastRepeatable? o.parts).map fun (part, parts) =>
    { o with parts := .repetition part least most greedy :: parts }

end OpenGroup

/-- Reads up to a closing parenthesis that was not opened here, or to the end. -/
def readGroup? : Nat → OpenGroup → List Char → Option (OpenGroup × List Char)
  | 0, _, _ => none
  | fuel + 1, sofar, text =>
    let uncounted (least : Nat) (most : Option Nat) (rest : List Char) :=
      let (greedy, rest) := readGreed rest
      (sofar.repeatLast? least most greedy).bind fun o => readGroup? fuel o rest
    match skip sofar.verbose text with
    | [] => some (sofar, [])
    | ')' :: rest => some (sofar, ')' :: rest)
    | '|' :: rest => readGroup? fuel sofar.branch rest
    | '?' :: rest => uncounted 0 (some 1) rest
    | '*' :: rest => uncounted 0 none rest
    | '+' :: rest => uncounted 1 none rest
    | '\x7b' :: rest =>
      (readBounds? sofar.verbose rest).bind fun (least, most, rest) =>
        let (greedy, rest) := readGreed (skip sofar.verbose rest)
        (sofar.repeatLast? least most greedy).bind fun o => readGroup? fuel o rest
    | '[' :: rest =>
      (readClass? sofar.verbose (2 * rest.length + 2) rest).bind fun (c, rest) =>
        readGroup? fuel (sofar.push (.charClass c)) rest
    | '(' :: rest =>
      match readGroupOpening? sofar.verbose rest with
      | none => none
      | some (.flags items, rest) =>
        let verbose := (FlagItem.setting? .verbose items).getD sofar.verbose
        readGroup? fuel { sofar.push (.flags items) with verbose } rest
      | some (.group kind, rest) =>
        let (verbose, name) := match kind with
          | .flagged items => ((FlagItem.setting? .verbose items).getD sofar.verbose, none)
          | .named name => (sofar.verbose, some name)
          | .numbered => (sofar.verbose, none)
        if name.any sofar.names.contains then none
        else
          match readGroup? fuel ⟨[], [], name.toList ++ sofar.names, verbose⟩ rest with
          | some (inner, ')' :: rest) =>
            readGroup? fuel { sofar.push (.group kind inner.body) with names := inner.names } rest
          | _ => none
    | text =>
      (readAtom? sofar.verbose text).bind fun (atom, rest) =>
        readGroup? fuel (sofar.push atom.toExpr) rest

/-- The deepest nesting that is accepted. -/
def nestingLimit : Nat := 250

/-- The expression that `text` writes. -/
def Expr.parse? (text : List Char) : Option Expr :=
  match readGroup? (text.length + 1) ⟨[], [], [], false⟩ text with
  | some (whole, []) => if whole.body.depth ≤ nestingLimit then some whole.body else none
  | _ => none

end Interception.Regex
