/-!
# The written form of regular expressions

An `Expr` is a regular expression as it is written, before its flags take effect: a dot does not
yet know whether it takes line feeds, a letter does not yet know whether case counts.
-/

namespace Interception.Regex

/-- A character that stands for itself. `isByte` marks one written with two hexadecimal digits,
which outside Unicode mode is a byte rather than a character. -/
structure Literal where
  char : Char
  isByte : Bool
  deriving DecidableEq, Repr

inductive PerlClass where
  | digit
  | space
  | word
  deriving DecidableEq, Repr

/-- The named classes of ASCII characters that may stand in brackets. -/
inductive PosixClass where
  | alnum
  | alpha
  | ascii
  | blank
  | cntrl
  | digit
  | graph
  | lower
  | print
  | punct
  | space
  | upper
  | word
  | xdigit
  deriving DecidableEq, Repr

/-- How a Unicode property is asked for: by one letter or name, or by a property and a value that
it has, or, where `differs`, has not. -/
inductive PropertyQuery where
  | named (name : List Char)
  | valued (name value : List Char) (differs : Bool)
  deriving DecidableEq, Repr

inductive SetOperation where
  | inter
  | diff
  | symmDiff
  deriving DecidableEq, Repr

/-- A set of characters as it is written. -/
inductive ClassExpr where
  | empty
  | literal (l : Literal)
  | range (low high : Literal)
  | perl (kind : PerlClass) (negated : Bool)
  | posix (kind : PosixClass) (negated : Bool)
  | property (query : PropertyQuery) (negated : Bool)
  | bracket (negated : Bool) (body : ClassExpr)
  | union (items : List ClassExpr)
  | operation (kind : SetOperation) (lhs rhs : ClassExpr)
  deriving Repr

/-- Conditions on a place, before flags tell what a line or a word is. -/
inductive Assertion where
  | lineStart
  | lineEnd
  | textStart
  | textEnd
  | wordBoundary
  | notWordBoundary
  | wordStart
  | wordEnd
  | wordStartHalf
  | wordEndHalf
  deriving DecidableEq, Repr

inductive Flag where
  | ignoreCase
  | multiLine
  | dotAll
  | swapGreed
  | unicode
  | crlf
  | verbose
  deriving DecidableEq, Repr

/-- An item of a row of flags: the flags after a negation are switched off. -/
inductive FlagItem where
  | negation
  | flag (f : Flag)
  deriving DecidableEq, Repr

/-- What a group does beside grouping. -/
inductive GroupKind where
  | numbered
  | named (name : String)
  | flagged (flags : List FlagItem)
  deriving DecidableEq, Repr

inductive Expr where
  | empty
  | literal (l : Literal)
  | dot
  | assertion (a : Assertion)
  | charClass (c : ClassExpr)
  | flags (items : List FlagItem)
  | repetition (e : Expr) (least : Nat) (most : Option Nat) (greedy : Bool)
  | group (kind : GroupKind) (e : Expr)
  | concat (parts : List Expr)
  | alt (branches : List Expr)
  deriving Repr

namespace FlagItem

/-- The setting of `f` in a row of flags, if the row mentions `f`; `on` is what a flag at its
beginning is set to. -/
def settingFrom? (f : Flag) (on : Bool) : List FlagItem → Option Bool
  | [] => none
  | .negation :: items => settingFrom? f false items
  | .flag g :: items => if f = g then some on else settingFrom? f on items

/-- The setting of `f` that a row of flags makes, if it mentions `f`. -/
def setting? (f : Flag) (items : List FlagItem) : Option Bool := settingFrom? f true items

end FlagItem

namespace ClassExpr

/-- A row of items; an empty row and a single item are no row. -/
def ofItems : List ClassExpr → ClassExpr
  | [] => .empty
  | [item] => item
  | items => .union items

mutual

/-- How deeply brackets, rows of items and operations are nested. -/
def depth : ClassExpr → Nat
  | .bracket _ body => body.depth + 1
  | .union items => depths items + 1
  | .operation _ lhs rhs => max lhs.depth rhs.depth + 1
  | _ => 0

/-- The greatest depth in a row of items. -/
def depths : List ClassExpr → Nat
  | [] => 0
  | item :: items => max item.depth (depths items)

end

end ClassExpr

namespace Expr

/-- A row of parts; an empty row and a single part are no row. -/
def ofParts : List Expr → Expr
  | [] => .empty
  | [part] => part
  | parts => .concat parts

/-- A row of alternatives; a single one is no row. -/
def ofBranches : List Expr → Expr
  | [] => .empty
  | [branch] => branch
  | branches => .alt branches

mutual

/-- How deeply groups, rows, repetitions and sets are nested. -/
def depth : Expr → Nat
  | .charClass c => c.depth
  | .repetition e _ _ _ => e.depth + 1
  | .group _ e => e.depth + 1
  | .concat parts => depths parts + 1
  | .alt branches => depths branches + 1
  | _ => 0

/-- The greatest depth in a row of expressions. -/
def depths : List Expr → Nat
  | [] => 0
  | e :: es => max e.depth (depths es)

end

end Expr

end Interception.Regex
