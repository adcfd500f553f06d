import Autoresponder.Engine.Document
import Autoresponder.Engine.Resume
import Autoresponder.Http.Body

/-!
# The HTTP surface

Events and callbacks come in as requests. A request that is understood is answered with its
outcome, whatever that is; the status of a response only tells whether it was.
-/

namespace Autoresponder.Http

/-- A request. -/
structure Request where
  method : String
  path : String
  contentType : Option String
  body : String
  deriving DecidableEq, Repr

/-- A response. One without a document has an empty body or plain text. -/
structure Response where
  status : Nat
  body : Option Json

/-- Where a path leads. -/
inductive Route where
  | health
  | events
  | resume (state : String)
  | form (state : String)
  deriving DecidableEq, Repr

/-- The parts of a path between slashes, the first of which begins with `front`. -/
def segmentsFrom (front : List Char) : List Char → List (List Char)
  | [] => [front]
  | c :: rest =>
    if c == '/' then front :: segmentsFrom [] rest else segmentsFrom (front ++ [c]) rest

/-- The parts of a path between slashes. -/
def segments (path : String) : List (List Char) :=
  segmentsFrom [] (path.toList.takeWhile fun c => c != '?' && c != '#')

/-- The route of a path. -/
def Route.ofPath? (path : String) : Option Route :=
  match (segments path).map String.ofList with
  | ["", "health"] => some .health
  | ["", "api", "events"] => some .events
  | ["", "api", "states", id, "resume"] => if id.isEmpty then none else some (.resume id)
  | ["", "api", "states", id, "form"] => if id.isEmpty then none else some (.form id)
  | _ => none

/-- The methods that a route takes. -/
def Route.takes (method : String) : Route → Bool
  | health => method == "GET" || method == "HEAD"
  | _ => method == "POST"

/-- The bytes of a text in which `%` and two hexadecimal digits stand for a byte. -/
def decodedBytes : List Char → List UInt8
  | '%' :: a :: b :: rest =>
    match Json.hexValue? a, Json.hexValue? b with
    | some x, some y => .ofNat (x * 16 + y) :: decodedBytes rest
    | _, _ => '%'.toUInt8 :: decodedBytes (a :: b :: rest)
  | c :: rest => (String.singleton c).toUTF8.toList ++ decodedBytes rest
  | [] => []

/-- A part of a path with its escapes resolved. -/
def decoded? (part : String) : Option String :=
  String.fromUTF8? ⟨(decodedBytes part.toList).toArray⟩

/-- The fields of a form: any object. -/
def asFields : Json.Decoder (List (String × Json)) := fun j =>
  match j.canonical with
  | .obj members => some members
  | _ => none

/-- The response to a state that cannot be told from its identifier. -/
def invalidState : Response := ⟨400, some (.obj [("error", .str "Invalid state ID")])⟩

def refusal (status : Nat) : Response := ⟨status, none⟩

/-- An event as it may come in. -/
def sampleEvent : Event :=
  { workspace := "", account := "", conversation := "", phone := "", received := default }

def Response.ofOutcome (o : Outcome) : Response := ⟨200, some o.toJson⟩

/-- Answers a request that has come to a route. -/
def Route.answer (r : Request) : Route → Act Response
  | health =>
    return ⟨200, if r.method == "HEAD" then none
      else some (.obj [("status", .str "ok"), ("service", .str "autoflow")])⟩
  | events =>
    match readBody r.contentType r.body Event.fromJson sampleEvent.members with
    | .ok e => return .ofOutcome (← e.handle)
    | .error fault => return refusal fault.status
  | .resume part =>
    match decoded? part with
    | none => return refusal 400
    | some text =>
      match Uuid.ofString? text with
      | some id => return .ofOutcome (← Autoresponder.resume id)
      | none => return invalidState
  | form part =>
    match decoded? part with
    | none => return refusal 400
    | some text =>
      match readBody r.contentType r.body asFields [] with
      | .error fault => return refusal fault.status
      | .ok fields =>
        match Uuid.ofString? text with
        | some id => return .ofOutcome (← completeForm id fields)
        | none => return invalidState

/-- Answers a request. -/
def Request.answer (r : Request) : Act Response :=
  if r.method == "OPTIONS" then return ⟨200, none⟩
  else
    match Route.ofPath? r.path with
    | none => return refusal 404
    | some route => if route.takes r.method then route.answer r else return refusal 405

end Autoresponder.Http
