import OpcUa.Description.Basic
import OpcUa.Simulation.Scenario

/-!
# Descriptions of scenarios

A step of a scenario is an object whose field `do` says what it does.
-/

namespace OpcUa.Description

open Simulation

/-! ## Servers -/

def itemResultOf (j : Json) : MonitoredItemResult :=
  ⟨statusField "status" j, u32 "id" j, floatOf (j.field "sampling"), u32 "queue" j⟩

def replyFieldsOf (j : Json) : ReplyFields where
  status := statusField "status" j
  sessionId := optional "session_id" nodeOf j
  token := optional "token" nodeOf j
  timeout := optional "timeout" floatOf j
  nonce := optional "nonce" bytesOf j
  certificate := optional "cert" bytesOf j
  maxRequestSize := u32 "max" j
  statuses := optional "results" (fun r => (listOf r).map statusOf) j
  values := optional "values" (fun r => (listOf r).map dataValueOf) j
  value := optional "value" dataValueOf j
  subscription := optional "id" u32Of j
  interval := optional "interval" floatOf j
  lifetime := optional "lifetime" u32Of j
  keepAlive := optional "keep_alive" u32Of j
  items := optional "results" (fun r => (listOf r).map itemResultOf) j
  publisher := u32 "sub" j
  message := messageOf j
  available := optional "available" (fun r => (listOf r).map u32Of) j
  more := boolOf (j.field "more")
  republished := optional "message" messageOf j

/-- A reply that is given now; it cannot be held once more. -/
def givenReplyOf (j : Json) : ScriptedReply :=
  match given? "fail" j, (given? "as" j).bind fun s => Service.ofName? (strOf s) with
  | some e, _ => .fail (errorOf e)
  | none, some s => .foreign s (statusField "status" j)
  | none, none => .respond (replyFieldsOf j)

def replyOf (j : Json) : ScriptedReply :=
  if (given? "hold" j).isSome then .hold else givenReplyOf j

def serviceOf (j : Json) : Service := (Service.ofName? (strOf j)).getD .read

def serviceField (j : Json) : Service := serviceOf (j.field "service")

def pickOf (j : Json) : ScriptedServer.Pick :=
  match j.field "pick" with
  | .str _ => .newest
  | .null => .oldest
  | p => .nth (natOf p)

def channelOf (j : Json) : Channel where
  endpoint := ((j.field? "endpoint").bind EndpointDescription.ofJson?).getD default
  policy := ((j.field? "policy").bind SecurityPolicy.ofJson?).getD .none
  certificate := optional "certificate" bytesOf j

/-! ## Calls -/

def targetOf (j : Json) : ReadValueId :=
  match j with
  | .str _ => .value (nodeOf j)
  | j => (ReadValueId.ofJson? j).getD (.value .null)

def writeOf (j : Json) : WriteValue :=
  let t := targetOf (j.field "node")
  ⟨t.node, t.attributeId, t.indexRange, dataValueOf (j.field "value")⟩

def timestampsOf (j : Json) : TimestampsToReturn := (TimestampsToReturn.ofJson? j).getD .both

def acknowledgementOf (j : Json) : Acknowledgement :=
  ⟨u32Of (element 0 j), u32Of (element 1 j)⟩

def registryStepOf? (j : Json) : Option RegistryStep :=
  let arg := element 1 j
  match strOf (element 0 j) with
  | "insert" => some (.insert (strOf arg))
  | "remove" => some (.remove (u32Of arg))
  | "get" => some (.get (u32Of arg))
  | "contains" => some (.contains (u32Of arg))
  | _ => none

def createStepOf (j : Json) : Operation :=
  match given? "params" j with
  | some p => .create (parametersOf p)
  | none => .createWithInterval (floatOf (j.field "interval"))

def modifyStepOf (j : Json) (k : SubscriptionKey) : Operation :=
  match given? "params" j with
  | some p => .modify k (parametersOf p)
  | none => .modifyInterval k (floatOf (j.field "interval"))

/-- The call that a step begins, if it begins one. -/
def callStepOf? (j : Json) : Option CallStep :=
  let node := targetOf (j.field "node")
  let sub := strField "sub" j
  match strField "do" j with
  | "send" => some (.job (.send (serviceField j) (u32 "handle" j) (optional "timeout" durationOf j)))
  | "session" => some (.job .session)
  | "close" => some (.job .close)
  | "disconnect" => some .disconnect
  | "create_sub" => some (.job (.operate (createStepOf j)))
  | "modify_sub" => some (.operate sub (modifyStepOf j))
  | "delete_sub" => some (.operate sub .delete)
  | "set_publishing" => some (.operate sub (.setPublishing · (boolOf (j.field "enabled"))))
  | "create_items" => some (.operate sub (.createItems · ((listField "items" j).map itemRequestOf)))
  | "delete_items" => some (.deleteItems sub ((listField "handles" j).map u32Of))
  | "read" => some (.job (.read ⟨floatOf (j.field "max_age"), timestampsOf (j.field "timestamps"),
      (listField "nodes" j).map targetOf⟩))
  | "read_value" => some (.job (.readValue node))
  | "read_attr" => some (.job (.readValue (.whole node.node node.attributeId)))
  | "write" => some (.job (.write ((listField "nodes" j).map writeOf)))
  | "write_attr" => some (.job (.writeValue
      ⟨node.node, node.attributeId, none, dataValueOf (j.field "value")⟩))
  | "republish" => some (.job (.republish (u32 "sub" j) (u32 "seq" j)))
  | "publish" => some (.job (.publish ((listField "acks" j).map acknowledgementOf)
      (durationOf (j.field "hint"))))
  | _ => none

/-! ## Steps -/

def eventStepOf (j : Json) : Step :=
  match strField "name" j with
  | "ActivateSessionSucceeded" => .activated (strField "session" j) (createdOf j) (activatedOf j)
  | _ => .event ((eventOf? j).getD .sessionRequested)

mutual

/-- A step; `path` is where it stands, which is its name unless it has another. Batches are read as
deep as the fuel allows. -/
def stepAt (fuel : Nat) (path : String) (j : Json) : Step :=
  let name := ((given? "as" j).map strOf).getD path
  match callStepOf? j with
  | some c => .call name c
  | none =>
    match strField "do" j with
    | "script" => .script (serviceField j) ((listField "replies" j).map replyOf)
    | "retain" => .retain (u32 "sub" j) (u32 "seq" j) (messageOf (j.field "message"))
    | "answer" => .answer (serviceField j) (pickOf j) (givenReplyOf (j.field "reply"))
    | "advance" => .advance (natField "ms" j)
    | "batch" =>
      match fuel with
      | 0 => .batch []
      | fuel + 1 => .batch (stepsAt fuel (path ++ ".") 0 (listField "steps" j))
    | "current" => .current name
    | "shutdown" => .shutdown
    | "event" => eventStepOf (j.field "event")
    | "invalidate" => .invalidate (strField "session" j) (sessionErrorOf (j.field "error"))
    | "header" => .header (strField "session" j) (durationOf (j.field "hint"))
    | "next_handle" => .nextHandle
    | "sub" => .subscription (strField "sub" j)
    | "lookup" => .lookup (u32 "id" j)
    | "item" => .item (u32 "handle" j)
    | "callback" =>
      .callback (u32 "handle" j) (.always (strField "mode" j) (strField "mode" j == "panic"))
    | "listener" => .listener (.steady (strField "label" j) (given? "plain" j).isNone)
    | "watch" => .watch name (u32 "handle" j)
    | "recv" => .receive (strField "watch" j)
    | "debug" => .diagnostics
    | "registry" => .registry ((listField "ops" j).filterMap registryStepOf?)
    | "drop" => .drop
    | _ => .idle

/-- Steps that stand one after the other from `index` on. -/
def stepsAt (fuel : Nat) (path : String) (index : Nat) : List Json → List Step
  | [] => []
  | j :: rest => stepAt fuel (path ++ toString index) j :: stepsAt fuel path (index + 1) rest

end

/-- The steps of a list. -/
def stepsOf (j : Json) : List Step := stepsAt j.depth "" 0 (listOf j)

end OpcUa.Description
