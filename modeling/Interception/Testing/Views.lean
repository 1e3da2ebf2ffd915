import Interception.Testing.Bench

/-!
# Views for tests
-/

namespace Interception.Testing

/-- A view that writes down the models it renders, under a number, and writes how many entries they
have, or fails. -/
def recordingView (number : Nat) (contentType : Option String) (failing : Option String) :
    View Bench where
  contentType
  render model _ x :=
    let model := model.getD ∅
    let x := { x with world := x.world.addRender number model }
    match failing with
    | some message => (.error (.ofMessage message), x)
    | none => (.ok (), { x with response := x.response.write (toString model.size).toUTF8 })

/-- A view without a content type that always writes one text. -/
def plainView {σ : Type} (text : String) : View σ where
  contentType := none
  render _ _ x := (.ok (), { x with response := x.response.write text.toUTF8 })

/-- A view without a content type that always fails. -/
def brokenView {σ : Type} (error : RenderError) : View σ where
  contentType := none
  render _ _ x := (.error error, x)

end Interception.Testing
