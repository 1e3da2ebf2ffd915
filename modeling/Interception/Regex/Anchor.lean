import Interception.Cursor
import Interception.Regex.CharClass

/-!
# Anchors

An anchor is a condition on a place: that it begins or ends the text, a line or a word. It looks at
the character on either side and at nothing else.
-/

namespace Interception.Regex

/-- Conditions on a place that take no character. Where words matter, `ascii` tells whether only
ASCII has letters. -/
inductive Anchor where
  | textStart
  | textEnd
  | lineStart (crlf : Bool)
  | lineEnd (crlf : Bool)
  | wordBoundary (ascii : Bool)
  | notWordBoundary (ascii : Bool)
  | wordStart (ascii : Bool)
  | wordEnd (ascii : Bool)
  | wordStartHalf (ascii : Bool)
  | wordEndHalf (ascii : Bool)
  deriving DecidableEq, Repr

namespace Anchor

def holds (anchor : Anchor) (cursor : Cursor) : Bool :=
  let previous := cursor.before
  let next := cursor.rest.head?
  let inWord (ascii : Bool) (c : Option Char) : Bool := c.any (CharSet.isWord ascii)
  match anchor with
  | .textStart => previous.isNone
  | .textEnd => next.isNone
  | .lineStart false => previous.isNone || previous == some '\n'
  | .lineStart true =>
    previous.isNone || previous == some '\n' || (previous == some '\r' && next != some '\n')
  | .lineEnd false => next.isNone || next == some '\n'
  | .lineEnd true =>
    next.isNone || next == some '\r' || (next == some '\n' && previous != some '\r')
  | .wordBoundary ascii => inWord ascii previous != inWord ascii next
  | .notWordBoundary ascii => inWord ascii previous == inWord ascii next
  | .wordStart ascii => !inWord ascii previous && inWord ascii next
  | .wordEnd ascii => inWord ascii previous && !inWord ascii next
  | .wordStartHalf ascii => !inWord ascii previous
  | .wordEndHalf ascii => !inWord ascii next

end Anchor

end Interception.Regex
