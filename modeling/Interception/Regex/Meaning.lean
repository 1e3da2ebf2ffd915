import Interception.Regex.Footprint.Expression
import Interception.Regex.Parser
import Interception.Regex.PropertyName
import Interception.Unicode.Fold

/-!
# From the written form to the expression

Flags take effect here. They are set for the rest of their group, alternatives included. Groups are
numbered in the order in which they begin. Outside Unicode mode classes are those of ASCII, and
whatever could take part of a character is refused, so that matches always end between characters.
An expression that is too large is refused as well.
-/

namespace Interception

/-- The set after folding, where case does not count, and then after negation. -/
def CharSet.adjusted (ignoreCase negated : Bool) (s : CharSet) : CharSet :=
  let s := if ignoreCase then s.folded else s
  if negated then s.compl else s

namespace Regex

open Unicode

/-- The flags in force. -/
structure Mode where
  ignoreCase : Bool
  multiLine : Bool
  dotAll : Bool
  swapGreed : Bool
  crlf : Bool
  unicode : Bool
  deriving DecidableEq, Repr

namespace Mode

/-- The mode in which reading starts. -/
def initial (ignoreCase : Bool) : Mode := ⟨ignoreCase, false, false, false, false, true⟩

def set (mode : Mode) (items : List FlagItem) : Mode where
  ignoreCase := (FlagItem.setting? .ignoreCase items).getD mode.ignoreCase
  multiLine := (FlagItem.setting? .multiLine items).getD mode.multiLine
  dotAll := (FlagItem.setting? .dotAll items).getD mode.dotAll
  swapGreed := (FlagItem.setting? .swapGreed items).getD mode.swapGreed
  crlf := (FlagItem.setting? .crlf items).getD mode.crlf
  unicode := (FlagItem.setting? .unicode items).getD mode.unicode

end Mode

/-! ## Sets -/

namespace PerlClass

def toSet : PerlClass → CharSet
  | .digit => .digit
  | .space => .space
  | .word => .word

/-- The class within ASCII. -/
def toAscii : PerlClass → CharSet
  | .digit => .range '0' '9'
  | .space => .ranges [('\t', '\r'), (' ', ' ')]
  | .word => .asciiWord

end PerlClass

def PosixClass.toSet : PosixClass → CharSet
  | .alnum => .ranges [('0', '9'), ('A', 'Z'), ('a', 'z')]
  | .alpha => .ranges [('A', 'Z'), ('a', 'z')]
  | .ascii => .range '\x00' '\x7f'
  | .blank => .ranges [('\t', '\t'), (' ', ' ')]
  | .cntrl => .ranges [('\x00', '\x1f'), ('\x7f', '\x7f')]
  | .digit => .range '0' '9'
  | .graph => .range '!' '~'
  | .lower => .range 'a' 'z'
  | .print => .range ' ' '~'
  | .punct => .ranges [('!', '/'), (':', '@'), ('[', '\x60'), ('\x7b', '~')]
  | .space => .ranges [('\t', '\r'), (' ', ' ')]
  | .upper => .range 'A' 'Z'
  | .word => .asciiWord
  | .xdigit => .ranges [('0', '9'), ('A', 'F'), ('a', 'f')]

def SetOperation.apply (kind : SetOperation) (a b : CharSet) : CharSet :=
  match kind with
  | .inter => a.inter b
  | .diff => a.diff b
  | .symmDiff => a.symmDiff b

/-- A set of bytes. -/
abbrev ByteSet := Nat → Bool

namespace ByteSet

/-- The bytes of the ASCII characters in `s`. -/
def ofAscii (s : CharSet) : ByteSet := fun b => b < 128 && s.contains (Char.ofNat b)

/-- With each letter of ASCII, the same letter in the other case. -/
def folded (s : ByteSet) : ByteSet := fun b =>
  s b || ((Char.ofNat b).isAlpha && s (b ^^^ 32))

/-- The set after folding and negation, if only bytes of ASCII are left: any other byte is only
part of a character. -/
def adjusted? (ignoreCase negated : Bool) (s : ByteSet) : Option ByteSet :=
  let s := if ignoreCase then folded s else s
  let s : ByteSet := if negated then fun b => b < 256 && !s b else s
  if (List.range 128).any fun b => s (128 + b) then none else some s

def operate (kind : SetOperation) (a b : ByteSet) : ByteSet := fun x =>
  match kind with
  | .inter => a x && b x
  | .diff => a x && !b x
  | .symmDiff => a x != b x

def toSet (s : ByteSet) : CharSet :=
  .ofChars (((List.range 128).filter s).map Char.ofNat)

end ByteSet

/-- The byte that a literal stands for in a set of bytes. -/
def Literal.toByte? (l : Literal) : Option Nat :=
  if l.char.toNat < 128 then some l.char.toNat else none

namespace ClassExpr

mutual

/-- The set in Unicode mode. -/
def toSet? (ignoreCase : Bool) : ClassExpr → Option CharSet
  | .empty => some .empty
  | .literal l => some (.only l.char)
  | .range low high => some (.range low.char high.char)
  | .perl kind negated => some (kind.toSet.adjusted false negated)
  | .posix kind negated => some (kind.toSet.adjusted ignoreCase negated)
  | .property query negated => query.toSet?.map (·.adjusted ignoreCase (negated != query.differs))
  | .bracket negated body => (body.toSet? ignoreCase).map (·.adjusted ignoreCase negated)
  | .union items => (toSets? ignoreCase items).map .unions
  | .operation kind lhs rhs => do
    let lhs ← lhs.toSet? ignoreCase
    let rhs ← rhs.toSet? ignoreCase
    return kind.apply (lhs.adjusted ignoreCase false) (rhs.adjusted ignoreCase false)

/-- The sets of a row of items. -/
def toSets? (ignoreCase : Bool) : List ClassExpr → Option (List CharSet)
  | [] => some []
  | item :: items => do return (← item.toSet? ignoreCase) :: (← toSets? ignoreCase items)

end

mutual

/-- The set outside Unicode mode. Bytes beyond ASCII cannot be written there. -/
def toBytes? (ignoreCase : Bool) : ClassExpr → Option ByteSet
  | .empty => some fun _ => false
  | .literal l => l.toByte?.map fun x b => b == x
  | .range low high => do
    let low ← low.toByte?
    let high ← high.toByte?
    return fun b => low ≤ b && b ≤ high
  | .perl kind negated => (ByteSet.ofAscii kind.toAscii).adjusted? false negated
  | .posix kind negated => (ByteSet.ofAscii kind.toSet).adjusted? ignoreCase negated
  | .property _ _ => none
  | .bracket negated body =>
    (body.toBytes? ignoreCase).bind (ByteSet.adjusted? ignoreCase negated)
  | .union items => unionBytes? ignoreCase items
  | .operation kind lhs rhs => do
    let lhs ← lhs.toBytes? ignoreCase
    let rhs ← rhs.toBytes? ignoreCase
    let case (s : ByteSet) : ByteSet := if ignoreCase then s.folded else s
    return ByteSet.operate kind (case lhs) (case rhs)

/-- The bytes of a row of items. -/
def unionBytes? (ignoreCase : Bool) : List ClassExpr → Option ByteSet
  | [] => some fun _ => false
  | item :: items => do
    let first ← item.toBytes? ignoreCase
    let others ← unionBytes? ignoreCase items
    return fun b => first b || others b

end

end ClassExpr

/-! ## Expressions -/

/-- The characters that stand for `c`, where case counts or does not. -/
def letter (ignoreCase : Bool) (c : Char) : Regex :=
  if ignoreCase then ofSet (.ofChars (c :: orbit c)) else .literal [c]

namespace Mode

/-- What a literal stands for. A byte beyond ASCII stands for nothing. -/
def literal? (mode : Mode) (l : Literal) : Option Regex :=
  if mode.unicode then some (letter mode.ignoreCase l.char)
  else if l.char.toNat < 128 then
    some (if mode.ignoreCase ∧ l.char.isAlpha then
      .set (.ofChars [l.char, Char.ofNat (l.char.toNat ^^^ 32)])
    else .literal [l.char])
  else if l.isByte then none
  else some (.literal [l.char])

/-- The characters that a dot stands for. Outside Unicode mode it would be a byte. -/
def dot? (mode : Mode) : Option CharSet :=
  if !mode.unicode then none
  else if mode.dotAll then some .all
  else if mode.crlf then some (CharSet.ofChars ['\r', '\n']).compl
  else some .notLineFeed

def anchor (mode : Mode) : Assertion → Anchor
  | .lineStart => if mode.multiLine then .lineStart mode.crlf else .textStart
  | .lineEnd => if mode.multiLine then .lineEnd mode.crlf else .textEnd
  | .textStart => .textStart
  | .textEnd => .textEnd
  | .wordBoundary => .wordBoundary !mode.unicode
  | .notWordBoundary => .notWordBoundary !mode.unicode
  | .wordStart => .wordStart !mode.unicode
  | .wordEnd => .wordEnd !mode.unicode
  | .wordStartHalf => .wordStartHalf !mode.unicode
  | .wordEndHalf => .wordEndHalf !mode.unicode

/-- The set that is meant by a class. -/
def charClass? (mode : Mode) (c : ClassExpr) : Option CharSet :=
  if mode.unicode then c.toSet? mode.ignoreCase
  else (c.toBytes? mode.ignoreCase).map ByteSet.toSet

end Mode

/-- What has been read before a place: the mode in force there, and the number of groups that have
begun. -/
structure Scope where
  mode : Mode
  groups : Nat
  deriving DecidableEq, Repr

mutual

/-- The expression that is meant at a place, and the scope after it. -/
def Expr.meaning? (scope : Scope) : Expr → Option (Regex × Scope)
  | .empty => some (.empty, scope)
  | .literal l => (scope.mode.literal? l).map (·, scope)
  | .dot => scope.mode.dot?.map fun s => (ofSet s, scope)
  | .assertion a => some (.anchor (scope.mode.anchor a), scope)
  | .charClass c => (scope.mode.charClass? c).map fun s => (ofSet s, scope)
  | .flags items => some (.empty, { scope with mode := scope.mode.set items })
  | .repetition e least most greedy => do
    let (r, later) ← e.meaning? scope
    return (repetition r least most (greedy != later.mode.swapGreed), later)
  | .group (.flagged items) e => do
    let (r, inner) ← e.meaning? { scope with mode := scope.mode.set items }
    return (r, { inner with mode := scope.mode })
  | .group kind e => do
    let index := scope.groups + 1
    let (r, inner) ← e.meaning? { scope with groups := index }
    let name := match kind with
      | .named name => some name
      | _ => none
    return (.group index name r, { inner with mode := scope.mode })
  | .concat parts => do
    let (rs, scope) ← meanings? scope parts
    return (concat rs, scope)
  | .alt branches => do
    let (rs, scope) ← meanings? scope branches
    return (alternation rs, scope)

/-- The expressions that are meant by a row of written ones, and the scope after them. -/
def meanings? (scope : Scope) : List Expr → Option (List Regex × Scope)
  | [] => some ([], scope)
  | e :: es => do
    let (r, scope) ← e.meaning? scope
    let (rs, scope) ← meanings? scope es
    return (r :: rs, scope)

end

/-- The expression that `text` writes, if it writes one and that is not too large. -/
def compile? (ignoreCase : Bool) (text : List Char) : Option Regex := do
  let e ← Expr.parse? text
  let (r, _) ← e.meaning? ⟨.initial ignoreCase, 0⟩
  if r.fits then return r else none

end Regex

end Interception
