import RefPages.Http.Status
import RefPages.Text.Utf8
import RefPages.Url.Basic

/-!
A network as what becomes of each request. Why a connection fails is for the network to say, from the
outside in, and so is how the bytes of a body are read as text.
-/

namespace RefPages.Http

structure Response where
  status : Nat
  location : Option Text := none
  contentType : Text := []
  body : Except (List Text) (List UInt8) := .ok []

def Response.notFound : Response where
  status := 404

inductive Reply where
  | response (r : Response)
  | lost (causes : List Text)
  | unreached (causes : List Text)

structure Network where
  answer : Url → Reply := fun _ => .response .notFound
  decode : (contentType : Text) → List UInt8 → Text := fun _ => Text.Utf8.decode

def Network.text (net : Network) (r : Response) : Except (List Text) Text :=
  (if Status.isBodiless r.status then .ok [] else r.body).map (net.decode r.contentType)

def openly (u : Url) : Url :=
  { u with username := [], password := [] }

def asked (u : Url) : Text :=
  (openly u.withoutFragment).text

end RefPages.Http
