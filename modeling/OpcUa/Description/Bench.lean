import OpcUa.Description.Scenario
import OpcUa.Simulation.Bench

/-!
# Descriptions of benches

A step of a bench is an object whose field `do` says what it does.
-/

namespace OpcUa.Description

open Simulation

/-! ## Samples -/

def policyOf (j : Json) : SecurityPolicy := (SecurityPolicy.ofJson? j).getD .none

def sampleConfigOf (j : Json) : ClientConfig :=
  match strField "kind" j with
  | "depth" => Sample.configOfDepth (u32 "n" j)
  | "backoff" => Sample.configOfBackoff (durationOf (j.field "n"))
  | _ => Sample.config

def sampleMessageOf (j : Json) : NotificationMessage :=
  let number := u32 "seq" j
  let value := Int32.ofInt (intOf (j.field "value"))
  match strField "fixture" j with
  | "data_change" => Sample.dataChange number [u32 "handle" j] value
  | "data_changes" => Sample.dataChange number ((listField "handles" j).map u32Of) value
  | "status_change" => Sample.statusChange number (statusField "status" j)
  | _ => Sample.keepAlive number

def publicationOf (j : Json) : PublishAnswer :=
  Sample.publication (u32 "sub" j) (sampleMessageOf (j.field "message"))
    (optional "available" (fun a => (listOf a).map u32Of) j)

/-! ## Servers -/

def recordingServerOf (j : Json) : RecordingServer :=
  let endpoint := match strField "kind" j with
    | "policy" => Sample.endpoint (policyOf (j.field "policy"))
    | "gateway" => Sample.gatewayEndpoint
    | _ => Sample.endpoint .none
  .ofEndpoint endpoint (!boolOf (j.field "no_certificate"))

def revisionOf (j : Json) : RevisedSubscription :=
  ⟨floatOf (j.field "interval"), u32 "lifetime" j, u32 "keep_alive" j⟩

def serverStepOf? (j : Json) : Option ServerStep :=
  let on := boolOf (j.field "on")
  match strField "do" j with
  | "fail_create" => some (.refuseCreate on)
  | "fail_activate" => some (.refuseActivate on)
  | "fail_reads" => some (.refuseReads on)
  | "hold_create" => some (.hold .createSession)
  | "release_create" => some (.release .createSession)
  | "hold_republish" => some (.hold .republish)
  | "release_republish" => some (.release .republish)
  | "revision" => some (.revise (revisionOf j))
  | "reject_node" => some (.rejectNode (nodeOf (j.field "node")))
  | "retain" =>
    let m := sampleMessageOf (j.field "message")
    some (.retain (u32 "sub" j) ((optional "requested" u32Of j).getD m.sequenceNumber) m)
  | "set_read" => some (.setValue (dataValueOf (j.field "value")))
  | "next_read" => some (.nextRead (statusField "status" j))
  | "respond" => some (.respond .good (publicationOf j))
  | "reject" => some (.respond (statusField "status" j) (Sample.publication 0 (Sample.keepAlive 0) none))
  | "fail" => some (.fail (errorOf (j.field "error")))
  | "fail_newest" => some (.failNewest (errorOf (j.field "error")))
  | _ => none

/-! ## Calls -/

/-- The nodes of a number of value items. -/
def valueNodes (count : Nat) : List NodeId :=
  (List.range count).map fun i => ⟨2, .numeric (UInt32.ofNat (1000 + i))⟩

/-- The call that a step begins, if it begins one, and whether it is strict. -/
def benchCallOf? (j : Json) : Option (Bool × BenchCall) :=
  let id := u32 "sub" j
  let node := nodeOf (j.field "node")
  let lenient (c : BenchCall) : Option (Bool × BenchCall) := some (false, c)
  match strField "do" j with
  | "session" => lenient (.job .session)
  | "close" => lenient (.job .close)
  | "disconnect" => lenient (.job (.disconnect true))
  | "subscription" => some (true, .job (.operate (.createWithInterval 1000.0)))
  | "create" => lenient (.job (.operate (.create (parametersOf (j.field "params")))))
  | "modify" => lenient (.operate id (.modifyInterval · (floatOf (j.field "interval"))))
  | "delete" => lenient (.operate id .delete)
  | "set_publishing" => lenient (.operate id (.setPublishing · (boolOf (j.field "on"))))
  | "value_items" =>
    let requests := (valueNodes (u32 "count" j).toNat).map MonitoredItemRequest.value
    some (true, .operate id (.createItems · requests))
  | "items" => lenient (.operate id (.createItems · ((listField "items" j).map itemRequestOf)))
  | "delete_items" => lenient (.deleteItems id ((listField "handles" j).map u32Of))
  | "read" => lenient (.job (.readValue (.value node)))
  | "write" =>
    lenient (.job (.writeValue ⟨node, .value, none, dataValueOf (j.field "value")⟩))
  | _ => none

/-! ## Steps -/

mutual

/-- A step; `path` is where it stands, which is its name unless it has another. Batches are read as
deep as the fuel allows. -/
def benchStepAt (fuel : Nat) (path : String) (j : Json) : BenchStep :=
  match serverStepOf? j, benchCallOf? j with
  | some step, _ => .server step
  | none, some (strict, c) => .call (((given? "as" j).map strOf).getD path) strict c
  | none, none =>
    match strField "do" j with
    | "advance" => .advance (natField "ms" j)
    | "settle" => .settle
    | "wait" => .await (natField "n" j)
    | "batch" =>
      match fuel with
      | 0 => .batch []
      | fuel + 1 => .batch (benchStepsAt fuel (path ++ ".") 0 (listField "steps" j))
    | "times" => .times (u32 "sub" j)
    | _ => .idle

/-- Steps that stand one after the other from `index` on. -/
def benchStepsAt (fuel : Nat) (path : String) (index : Nat) : List Json → List BenchStep
  | [] => []
  | j :: rest =>
    benchStepAt fuel (path ++ toString index) j :: benchStepsAt fuel path (index + 1) rest

end

def benchStepsOf (j : Json) : List BenchStep := benchStepsAt j.depth "" 0 (listOf j)

/-- A bench with a connected client; none if the client does not connect. -/
def benchOf? (j : Json) : Option Bench :=
  Bench.connect? (sampleConfigOf (j.field "config")) (recordingServerOf (j.field "server"))
    ((listField "setup" j).filterMap serverStepOf?)

end OpcUa.Description
