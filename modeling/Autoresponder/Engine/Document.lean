import Autoresponder.Engine.Outcome

/-!
# Outcomes as documents

What came of a node, of a pass and of an event, and what is asked for a reply.
-/

namespace Autoresponder

namespace Stop

def members : Stop → List (String × Json)
  | waiting node => [("stop", .str "waiting"), ("node_id", .str node)]
  | delayed node resumeAt =>
    [("stop", .str "delayed"), ("node_id", .str node), ("resume_at", resumeAt.toJson)]
  | completed => [("stop", .str "completed")]
  | limitReached node => [("stop", .str "limit_reached"), ("node_id", .str node)]

end Stop

def Pass.toJson (p : Pass) : Json :=
  .obj (("executed", .int p.executed) :: ("messages_sent", .int p.sent) :: p.stop.members)

namespace Outcome

def members : Outcome → List (String × Json)
  | noMatch => []
  | ignored reason => [("reason", .str reason)]
  | rateLimited rule reason => [("rule_id", rule.toJson), ("reason", .str reason)]
  | windowClosed phone => [("phone_number", .str phone)]
  | responded rule messageId =>
    [("rule_id", rule.toJson), ("provider_message_id", Json.ofString? messageId)]
  | flowStarted flow state pass =>
    [("flow_id", flow.toJson), ("state_id", state.toJson), ("pass", pass.toJson)]
  | flowAdvanced flow state pass =>
    [("flow_id", flow.toJson), ("state_id", state.toJson), ("pass", pass.toJson)]
  | waiting state node => [("state_id", state.toJson), ("node_id", .str node)]
  | recovered state node => [("state_id", state.toJson), ("node_id", .str node)]
  | degraded kind reason => [("kind", .str kind), ("reason", .str reason)]

def toJson (o : Outcome) : Json := .obj (("outcome", .str o.tag) :: o.members)

end Outcome

def NodeResult.toJson (r : NodeResult) : Json := .obj
  [("next_node_id", Json.ofString? r.next),
   ("wait_for_input", .bool r.waits),
   ("resume_at", Instant.optionalJson r.resumeAt),
   ("terminal", .bool r.terminal),
   ("sent", .bool r.sent),
   ("provider_message_id", Json.ofString? r.messageId),
   ("already_advanced", .bool r.alreadyDone)]

def AiRequest.toJson (r : AiRequest) : Json := .obj
  [("workspace_id", .str r.workspace),
   ("account_id", .str r.account),
   ("phone_number", .str r.phone),
   ("message", .str r.message),
   ("instructions", Json.ofString? r.instructions)]

end Autoresponder
