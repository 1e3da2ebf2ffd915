import Interception.Failure
import Interception.Http.Header
import Interception.Http.Status

/-!
# Responses

A response has a status, a content type and a body of bytes. The body only grows. The content type
is kept as it was set; it is reported only where a header value reads back as text.
-/

namespace Interception

structure Response where
  status : Status
  contentTypeHeader : Option String
  /-- The body. -/
  bytes : ByteArray

namespace Response

/-- A response to which nothing has been done. -/
def fresh : Response := ⟨Status.ok, none, .empty⟩

/-- What setting a value fails with that no header can have. -/
def illegalHeader : Failure := .ofText "failed to parse header value"

def setStatus (r : Response) (status : Status) : Response := { r with status }

/-- Sets the content type; an illegal one is refused and changes nothing. -/
def setContentType (r : Response) (text : String) : Except Failure Unit × Response :=
  if Header.isValue text then (.ok (), { r with contentTypeHeader := some text })
  else (.error illegalHeader, r)

/-- The content type, if it is set and reads back as text. -/
def contentType? (r : Response) : Option String := r.contentTypeHeader.filter Header.isReadable

/-- Appends to the body. -/
def write (r : Response) (chunk : ByteArray) : Response := { r with bytes := r.bytes ++ chunk }

/-- The body as text. Nothing is shown of one that is not encoded in UTF-8. -/
def body (r : Response) : String := (String.fromUTF8? r.bytes).getD ""

@[simp] theorem setStatus_bytes (r : Response) (s : Status) : (r.setStatus s).bytes = r.bytes := rfl

@[simp] theorem setStatus_contentType (r : Response) (s : Status) :
    (r.setStatus s).contentType? = r.contentType? := rfl

@[simp] theorem write_status (r : Response) (chunk : ByteArray) :
    (r.write chunk).status = r.status := rfl

@[simp] theorem write_contentType (r : Response) (chunk : ByteArray) :
    (r.write chunk).contentType? = r.contentType? := rfl

end Response

end Interception
