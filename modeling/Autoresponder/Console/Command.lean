import Autoresponder.Config.Basic
import Autoresponder.Http.Delivery
import Autoresponder.Http.Route
import Autoresponder.Json.Printer
import Autoresponder.Pattern.Reader
import Autoresponder.Time.ZoneTable

/-!
# Commands

A service that is spoken to line by line. A line is a JSON document that sets up an account, hands
in a request, or lets time pass; each line is answered by one. Messages go nowhere but into the
answers.
-/

namespace Autoresponder

open Json RecordReader

/-- What a line asks for. -/
inductive Command where
  | putFlow (flow : Flow)
  | putRule (rule : Rule)
  | putSettings (workspace account : String) (settings : AccountSettings)
  /-- A request that comes in at an instant. -/
  | request (time : Instant) (request : Http.Request)
  /-- Conversations that are due at an instant are resumed. -/
  | tick (time : Instant)

namespace Command

/-- The media type that a request has if it names none. -/
def usualType : String := "application/json"

def reader : String → RecordReader Command
  | "flow" => return .putFlow (← field "flow" Flow.fromJson)
  | "rule" => return .putRule (← field "rule" Rule.fromJson)
  | "settings" => do
    let workspace ← field "workspace" asString
    let account ← field "account" asString
    return .putSettings workspace account (← field "settings" AccountSettings.fromJson)
  | "request" => do
    let time ← field "at" Instant.fromJson
    let method ← field "method" asString
    let path ← field "path" asString
    let contentType ← nullableOr "content_type" asString
    let body ← nullableOr "body" some
    return .request time
      { method, path, contentType := contentType.getD usualType,
        body := (body.map Json.compact).getD "" }
  | "tick" => return .tick (← field "at" Instant.fromJson)
  | _ => failure

/-- Reads a command, whose member `do` says which one it is. -/
def fromJson : Decoder Command := asTagged "do" reader

end Command

/-- A service between two lines. -/
structure Service where
  policy : Policy
  /-- What new identifiers are counted up from. -/
  firstId : Nat
  world : World

namespace Service

/-- A service that has nothing stored. -/
def start (config : Config) (firstId : Nat) : Service := ⟨config.policy, firstId, .start {}⟩

/-- The circumstances at an instant. -/
def environment (s : Service) (now : Instant) : Environment where
  now
  clock := fun _ => now
  sender := fun earlier intent =>
    Http.logged (Uuid.ofNat (s.firstId + earlier.length)) intent
  knowledge := none
  responder := none
  zones := Zone.named?
  patterns := Pattern.reader
  policy := s.policy
  fault := fun _ _ => none
  freshId := fun n => Uuid.ofNat (s.firstId + n)

/-- The answer of something done, with the messages that went out meanwhile. -/
def respond {α : Type} (s : Service) (now : Instant) (act : Act α)
    (members : α → List (String × Json)) : Json × Service :=
  let (a, w) := act (s.environment now) s.world
  let fresh := (w.exchanges.take (w.exchanges.length - s.world.exchanges.length)).reverse
  let sent := (fresh.filter (·.accepted)).map (·.intent.toJson)
  (.obj (members a ++ [("sent", .arr sent)]), { s with world := w })

/-- The answer of a change to what is stored. -/
def change (s : Service) (step : Step StoreError Unit) : Json × Service :=
  s.respond default (Step.attempt step) fun
    | .ok _ => [("stored", .bool true)]
    | .error e => [("error", .str e.message)]

/-- Does what a command says. -/
def perform (s : Service) : Command → Json × Service
  | .putFlow f => s.change (Calls.putFlow f)
  | .putRule r => s.change (Calls.putRule r)
  | .putSettings workspace account settings =>
    s.change (Calls.putSettings workspace account settings)
  | .request time r => s.respond time r.answer fun response =>
    [("status", .int response.status), ("body", response.body.getD .null)]
  | .tick time => s.respond time Autoresponder.tick fun n => [("resumed", .int n)]

/-- Answers a line. -/
def answer (s : Service) (line : String) : String × Service :=
  match (Json.parse line).bind Command.fromJson with
  | none => ((Json.obj [("error", .str "not understood")]).compact, s)
  | some command =>
    let (j, s) := s.perform command
    (j.compact, s)

end Service

end Autoresponder
