/-!
# Header values

A header value may hold every character that is not a control character, and tabs. It reads back
as text only where it is printable ASCII and tabs: characters beyond ASCII are bytes in a header.
-/

namespace Interception.Header

/-- Whether a text may be set as a value. -/
def isValue (text : String) : Bool :=
  text.toList.all fun c => c == '\t' || (32 ≤ c.toNat && c.toNat != 127)

/-- Whether a value reads back as text. -/
def isReadable (value : String) : Bool :=
  value.toList.all fun c => c == '\t' || (32 ≤ c.toNat && c.toNat < 127)

end Interception.Header
