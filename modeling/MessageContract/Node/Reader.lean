import MessageContract.Error
import MessageContract.Json.Reader
import MessageContract.Node.Wire

/-!
Reading content trees from text. The value is read to its end before its
matched nodes are looked at, so a fault in one of them has no place.
-/

namespace MessageContract.Node

def read (room : Nat) : Json.Scan Node := do
  match ofJson (← Json.Scan.value room) with
  | .ok node => return node
  | .error fault => Json.Scan.raise (.refused (Error.invalidMatcher fault).message)

/-- The content tree of a JSON text. -/
def ofText (text : String) : Except Json.Error Node :=
  Json.Scan.run read (Utf8.encode text)

end MessageContract.Node
