import OpcUa.Report.Scenario
import OpcUa.Simulation.Bench

/-!
# Reports on benches

What is to be seen of a client, its subscriptions and its server after every step of a bench.
-/

namespace OpcUa.Report

open Simulation

/-! ## Publications -/

/-- A value with its status; its times are not shown. -/
def readingJson (v : DataValue) : Json := .arr [encoded v.value.toJson, v.status.toJson]

def partJson : NotificationData → Json
  | .dataChange values =>
    .obj [("change", .ofList (fun (h, v) => .arr [.ofUInt32 h, readingJson v]) values)]
  | .events events =>
    .obj [("events", .ofList (fun (h, fields) =>
      .arr [.ofUInt32 h, .ofList (fun v => encoded v.toJson) fields]) events)]
  | .statusChange status => .obj [("status", status.toJson)]
  | .unknown type => .obj [("unknown", .str type.toText)]

/-- A good Publish response to a request without a handle. -/
def publicationJson (a : PublishAnswer) : Json :=
  .obj [("sub", .ofUInt32 a.subscription), ("handle", .nat 0), ("status", StatusCode.good.toJson),
    ("available", .ofList .ofUInt32 a.available), ("more", .bool a.moreNotifications),
    ("results", .ofList StatusCode.toJson a.results),
    ("seq", .ofUInt32 a.message.sequenceNumber), ("keep_alive", .bool a.message.isKeepAlive),
    ("data", .ofList partJson a.message.data)]

/-! ## Results -/

def int32sJson (values : List Variant) : Json :=
  .ofList (fun v => .int v.toInt) (Sample.int32s values)

def lenientJson : Outcome → Json
  | .session s valid => sessionJson s valid
  | .value v => readingJson v
  | .disconnected => .null
  | outcome => outcomeJson none outcome

/-- What a strict caller gets: everything without more ado, or nothing. -/
def strictJson (d : Bench.Done) : Json :=
  if d.isFull then
    match d.outcome with
    | .ok (.items outcomes) => .ofList monitoredItemJson (outcomes.filterMap Except.toOption)
    | .ok outcome => outcomeJson none outcome
    | .error e => errorJson e
  else .str "panic"

def benchDoneJson (d : Bench.Done) : Json :=
  if d.strict then strictJson d else result lenientJson d.outcome

mutual

def benchResultJson : BenchResult → Json
  | .none => .null
  | .started => .str "started"
  | .noSubscription => missingJson .subscription
  | .flag b => .bool b
  | .times session subscription =>
    let presence (b : Bool) : Json := if b then .bool true else .null
    .arr [presence session, presence subscription]
  | .batch results => .arr (benchResultsJson results)

def benchResultsJson : List BenchResult → List Json
  | [] => []
  | r :: rest => benchResultJson r :: benchResultsJson rest

end

/-! ## Looks -/

def itemViewJson (v : Bench.ItemView) : Json :=
  .obj [("ints", int32sJson v.values), ("len", .nat v.values.length),
    ("empty", .bool v.values.isEmpty), ("all", .ofList (fun x => encoded x.toJson) v.values),
    ("last", .ofOption readingJson v.last)]

def lookFields (v : Bench.Look) : List (String × Json) :=
  [("state", .str v.state.toText), ("fsm", sessionStatsJson v.sessions),
    ("manager", .ofOption managerJson v.manager), ("outstanding", .nat v.parked),
    ("max_outstanding", .nat v.mostParked),
    ("counts", .obj (v.counts.map fun (service, n) => (service.name, .nat n))),
    ("requests", .ofList (requestJson false) v.requests),
    ("handles", .ofList .ofUInt32 v.handles),
    ("acks", .ofList (.ofList ackJson) v.acknowledgements),
    ("republished", .ofList (fun (id, n) => .arr [.ofUInt32 id, .ofUInt32 n]) v.republished),
    ("listener", .obj (v.subscriptions.map fun s =>
      (toString s.id, .arr [.nat s.keepAlives, .ofList .ofUInt32 s.numbers]))),
    ("statuses", .ofList (fun (id, status) => .arr [.ofUInt32 id, status.toJson]) v.statuses),
    ("values", .obj (v.items.map fun i => (toString i.handle, itemViewJson i))),
    ("pending", .ofList .str v.pending),
    ("done", lastFields (v.done.map fun d => (d.name, benchDoneJson d)))]

/-- A run of a bench: the first look, and every other one with the result of its step. -/
def benchJson (first : Bench.Look) (rest : List (BenchResult × Bench.Look)) : Json :=
  .obj [("steps", .arr (.obj (lookFields first) :: rest.map fun (r, v) =>
    .obj (("result", benchResultJson r) :: lookFields v)))]

end OpcUa.Report
