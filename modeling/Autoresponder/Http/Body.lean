import Autoresponder.Http.MediaType
import Autoresponder.Json.Beginning

/-!
# Bodies of requests

A body is read as a JSON document of a kind. Of two faults in a body the first one counts.
-/

namespace Autoresponder.Http

/-- Why a body is refused. -/
inductive BodyError where
  /-- It does not say that it is JSON. -/
  | mediaType
  | malformed
  /-- It is not what is wanted. -/
  | unwanted
  deriving DecidableEq, Repr

/-- The status of a refusal. -/
def BodyError.status : BodyError → Nat
  | mediaType => 415
  | malformed => 400
  | unwanted => 422

/-- Whether the name of a media type is there and is one of JSON. -/
def saysJson (contentType : Option String) : Bool :=
  ((contentType.bind MediaType.ofString?).map (·.isJson)).getD false

/-- Reads a body. The members of `sample` are those of a wanted document. -/
def readBody {α : Type} (contentType : Option String) (body : String) (decode : Json.Decoder α)
    (sample : List (String × Json)) : Except BodyError α :=
  if saysJson contentType then
    match (Json.parse body).bind decode with
    | some a => .ok a
    | none =>
      .error (if (Json.beginning body).wanted decode sample then .malformed else .unwanted)
  else .error .mediaType

end Autoresponder.Http
