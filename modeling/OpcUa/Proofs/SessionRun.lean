import Mathlib.Data.List.Induction
import OpcUa.Proofs.Run

/-!
# Runs of a client, command by command

`Client.act` lets the session driver perform all that is in its queue. Other tasks may run between
two commands, and a caller may give up the call that it waits for, so the runs of this file are cut
finer: a turn of the driver performs one command.

* `Client.later`: the client after a list of happenings.
* `Client.exists_later_eq_after`: a run of actions is a run of happenings.
* `Client.IsNew`: the clients whose runs are looked at have just been made.
* `Client.tally`: how often something happens in a run.
* `Client.falters`: an exchange of the session driver ends without a report.
* `Client.reports`: a session is reported as lost.
-/

namespace OpcUa

/-- What may happen to a client. -/
inductive Happening where
  | act (a : Action)
  /-- A caller no longer waits for its call. -/
  | cancel (id : CallId)

namespace SessionEvent

/-- Whether the event tells how an exchange has ended. -/
def isCompletion : SessionEvent → Bool
  | createSucceeded _ | createFailed _ | activateSucceeded _ | activateFailed _
  | closeCompleted => true
  | sessionRequested | closeRequested | invalidated _ => false

end SessionEvent

/-- Whether the application itself puts the end of an exchange before the session driver. -/
def Happening.forges : Happening → Bool
  | .act (.inject e) => e.isCompletion
  | _ => false

/-- The session that is lost according to what has come of a call. -/
def ServiceClient.faulted? (s : Service) (phase : CallPhase) (c : ServiceClient) : Option Session :=
  match phase with
  | .session _ => none
  | .exchange session await =>
    match c.outcome? s await with
    | some (.error (.service fault)) => if fault.endsSession then some session else none
    | some _ | none => none

/-- Whether the next step of an exchange ends it without a report: there is no session whose timeout
is no duration. -/
def ServiceClient.falters (t : SessionTask) (c : ServiceClient) : Bool :=
  match t.exchange, t.await with
  | .activate created, some await =>
    match c.outcome? .activateSession await with
    | some (.ok _) => (Session.timeout? created.sessionTimeout).isNone
    | _ => false
  | _, _ => false

namespace Client

abbrev driver (c : Client) : SessionDriver := c.service.driver

/-! ## Runs -/

/-- The client after one happening. The session driver performs one command in a turn. -/
def undergo (h : Happening) (c : Client) : Client :=
  match h with
  | .act (.run .driver) => c.runCommands 1
  | .act a => (c.act a).1
  | .cancel id => { c with calls := c.calls.filter (·.1 != id) }

/-- The client after a run. -/
def later (hs : List Happening) (c : Client) : Client := hs.foldl (fun c h => c.undergo h) c

@[simp] theorem later_nil (c : Client) : c.later [] = c := rfl

@[simp] theorem later_cons (h : Happening) (hs : List Happening) (c : Client) :
    c.later (h :: hs) = (c.undergo h).later hs := rfl

theorem later_append (hs hs' : List Happening) (c : Client) :
    c.later (hs ++ hs') = (c.later hs).later hs' := List.foldl_append

theorem later_snoc (hs : List Happening) (h : Happening) (c : Client) :
    c.later (hs ++ [h]) = (c.later hs).undergo h := later_append hs [h] c

/-- A client that has just been made. -/
inductive IsNew : Client → Prop
  | alone (config : ClientConfig) (channel : Channel) : IsNew (fresh config channel)
  /-- It has a subscription manager. -/
  | managing (config : ClientConfig) (channel : Channel) : IsNew (fresh config channel).startManager
  /-- It opens a session, and starts a subscription manager on it. -/
  | connecting (config : ClientConfig) (channel : Channel) :
    IsNew ((fresh config channel).begin .connect).2

variable {c : Client}

theorem IsNew.driver_eq (hc : c.IsNew) : c.driver = .fresh := by cases hc <;> rfl

/-! ## The commands of one run of the driver -/

theorem runCommands_of_isEmpty (h : c.driver.commands.isEmpty = true) (n : Nat) :
    c.runCommands n = c := by
  cases n with
  | zero => rfl
  | succ n => rw [runCommands, if_pos h]

theorem runCommands_succ (n : Nat) (c : Client) :
    c.runCommands (n + 1) = (c.runCommands 1).runCommands n := by
  by_cases h : c.driver.commands.isEmpty = true
  · rw [runCommands_of_isEmpty h, runCommands_of_isEmpty h, runCommands_of_isEmpty h]
  · conv => lhs; rw [runCommands, if_neg h]
    conv => rhs; rw [runCommands, if_neg h]
    rfl

/-- The commands that the driver performs in one go are turns of their own. -/
theorem later_replicate_turn (n : Nat) (c : Client) :
    c.later (List.replicate n (.act (.run .driver))) = c.runCommands n := by
  induction n generalizing c with
  | zero => rfl
  | succ n ih => rw [List.replicate_succ, later_cons, ih, runCommands_succ n c]; rfl

theorem undergo_act {a : Action} (ha : a ≠ .run .driver) (c : Client) :
    c.undergo (.act a) = (c.act a).1 := by
  unfold undergo
  split
  · rename_i e
    cases e
    exact absurd rfl ha
  · rename_i e
    cases e
    rfl
  · rename_i e
    cases e

/-- A run of actions is a run of happenings. -/
theorem exists_later_eq_after (as : List Action) (c : Client) :
    ∃ hs, c.later hs = c.after as := by
  induction as generalizing c with
  | nil => exact ⟨[], rfl⟩
  | cons a as ih =>
    obtain ⟨hs, e⟩ := ih (c.act a).1
    by_cases ha : a = .run .driver
    · subst ha
      refine ⟨List.replicate (2 * c.driver.commands.length) (.act (.run .driver)) ++ hs, ?_⟩
      rw [later_append, later_replicate_turn]
      exact e
    · exact ⟨.act a :: hs, by rw [later_cons, undergo_act ha, e, after_cons]⟩

/-! ## What happens in a run -/

/-- How often something happens in a run. -/
def tally (p : Client → Happening → Bool) : List Happening → Client → Nat
  | [], _ => 0
  | h :: hs, c => (p c h).toNat + tally p hs (c.undergo h)

theorem tally_snoc (p : Client → Happening → Bool) (hs : List Happening) (h : Happening)
    (c : Client) : c.tally p (hs ++ [h]) = c.tally p hs + (p (c.later hs) h).toNat := by
  induction hs generalizing c with
  | nil => rw [List.nil_append, tally, tally, tally, later_nil, Nat.add_zero, Nat.zero_add]
  | cons h' hs ih => rw [List.cons_append, tally, tally, ih, later_cons, Nat.add_assoc]

theorem tally_le_append (p : Client → Happening → Bool) (hs hs' : List Happening) (c : Client) :
    c.tally p hs ≤ c.tally p (hs ++ hs') := by
  induction hs' using List.reverseRecOn with
  | nil => exact Nat.le_of_eq (congrArg (tally p · c) (List.append_nil hs).symm)
  | append_singleton hs' h ih =>
    rw [← List.append_assoc, tally_snoc]
    exact Nat.le_trans ih (Nat.le_add_right _ _)

/-- Whether the session driver enters a state. -/
def enters (c : Client) (h : Happening) : Bool :=
  (c.undergo h).driver.epoch != c.driver.epoch

/-- Whether an exchange of the session driver ends without a report. -/
def falters (c : Client) (h : Happening) : Bool :=
  match h with
  | .act (.run (.session id)) => (c.sessionTasks.lookup id).any c.service.falters
  | _ => false

/-- The session that a task finds to be lost when it goes on. -/
def faulted? (t : TaskId) (c : Client) : Option Session :=
  match t with
  | .call id => (c.calls.lookup id).bind fun call =>
    match call.stage with
    | .calling phase =>
      (call.job.serviceCall? c.service).bind fun j => c.service.faulted? j.service phase
    | .operating op phase => c.service.faulted? op.service phase
    | .fresh | .session _ | .closing | .sending _ => none
  | .attempt id answerFirst => c.manager.bind fun m => (m.attempt? id).bind fun a =>
    match a.stage with
    | .publishing phase =>
      if m.running || answerFirst then c.service.faulted? .publish phase else none
    | .armed | .backingOff _ => none
  | .recovery id => c.manager.bind fun m => (m.recovery? id).bind fun r =>
    match r.stage with
    | .republishing _ phase => phase.bind (c.service.faulted? .republish)
    | .reading _ _ phase => c.service.faulted? .read phase
  | .driver | .processing | .delivery | .session _ => none

/-- The session that is reported as lost, by the application or by a call that was told so. -/
def reports (c : Client) (h : Happening) : Option Session :=
  match h with
  | .act (.invalidate s _) => some s
  | .act (.run t) => c.faulted? t
  | _ => none

/-- Every exchange that ends in the run is reported. -/
def NeverFalters (hs : List Happening) (c : Client) : Prop := c.tally falters hs = 0

instance (hs : List Happening) (c : Client) : Decidable (c.NeverFalters hs) :=
  inferInstanceAs (Decidable (_ = _))

theorem neverFalters_snoc {hs : List Happening} {h : Happening} :
    c.NeverFalters (hs ++ [h]) ↔ c.NeverFalters hs ∧ (c.later hs).falters h = false := by
  rw [NeverFalters, NeverFalters, tally_snoc, Nat.add_eq_zero_iff, Bool.toNat_eq_zero]

/-! ## A sample -/

section

open Simulation

/-- A client without a session. -/
def newcomer : Client := fresh (Sample.configOfDepth 1) ⟨Sample.endpoint .none, .none, none⟩

theorem newcomer_isNew : newcomer.IsNew := .alone ..

theorem session_ne_connect : Job.session ≠ .connect := nofun

theorem close_ne_connect : Job.close ≠ .connect := nofun

theorem disconnect_ne_connect (managed : Bool) : Job.disconnect managed ≠ .connect := nofun

/-- The call `id` begins, and the driver does what it asks for. -/
def calling (id : CallId) (job : Job) (h : job ≠ .connect) : List Happening :=
  [.act (.call job h), .act (.run (.call id)), .act (.run .driver)]

/-- The exchange `id` of the driver brings a response, in the exchange `x`. -/
def exchanging (id : CallId) (x : ExchangeId) (reply : Reply) : List Happening :=
  [.act (.run (.session id)), .act (.reply x reply), .act (.run (.session id))]

/-- A session is opened by the call 0. -/
def opening : List Happening :=
  calling 0 .session session_ne_connect ++
    exchanging 1 0 (goodReply .createSession ⟨.null, .null, 60000.0, [], [], 0⟩) ++
    .act (.run .driver) :: exchanging 2 1 (goodReply .activateSession ⟨[], []⟩) ++
    [.act (.run .driver), .act (.run (.call 0))]

end

end Client

end OpcUa
