import Malink.DeploymentCoordinator

/-!
# Execution tracks

One release runs the Gateway, and another one may stand by. The state in the file says which one it is, and how far a
switch has come.
-/

namespace Malink.Tracks

open DurableProgram
open Deployment (isReleaseId isOpaqueId)

inductive Phase
  | steady
  | releasing
  | activating
  | attention
  deriving DecidableEq

structure GatewayExecutionTracksState where
  gatewayNodeId : JsString
  dataDirectory : JsString
  generation : ℕ
  activeRelease : JsString
  standbyRelease : Option JsString
  phase : Phase
  targetRelease : Option JsString
  forwardOnly : Bool
  backupPath : Option JsString
  targetWriteStarted : Bool
  error : Option JsString
  deriving DecidableEq

/-- What `gatewayExecutionTracksStateSchema` asks of the texts. -/
def GatewayExecutionTracksState.parses (state : GatewayExecutionTracksState) : Bool :=
  state.gatewayNodeId.truthy && state.dataDirectory.truthy && isReleaseId state.activeRelease &&
    state.standbyRelease.all isReleaseId && state.targetRelease.all isReleaseId && state.backupPath.all JsString.truthy

inductive Refused
  | state (state : GatewayExecutionTracksState)
  | release (releaseId : JsString)

inductive Request
  | validateForwardRelease (releaseId dataDirectory : JsString)
  | backupStoppedState (state : GatewayExecutionTracksState)
  | prepareForwardHost (state : GatewayExecutionTracksState)
  | validateRelease (releaseId dataDirectory : JsString)
  | ensureStandby (releaseId : JsString)
  | retireStandby (releaseId : JsString)
  | releaseExecution (releaseId : JsString)
  | activate (releaseId dataDirectory gatewayNodeId : JsString)
  | verifyActive (releaseId dataDirectory gatewayNodeId : JsString)

abbrev Request.Reply : Request → Type
  | backupStoppedState _ => JsString
  | prepareForwardHost _ => Bool
  | _ => Unit

/-- The optional methods that a host has: the three of an incompatible upgrade, and `retireStandby`. -/
structure Capabilities where
  forward : Bool
  retire : Bool
  deriving DecidableEq

abbrev Program (α : Type) := DurableProgram GatewayExecutionTracksState JsString Request Request.Reply α

namespace Host

def validateForwardRelease (releaseId dataDirectory : JsString) : Program Unit :=
  perform (Request.validateForwardRelease releaseId dataDirectory)

def backupStoppedState (state : GatewayExecutionTracksState) : Program JsString :=
  perform (Request.backupStoppedState state)

def prepareForwardHost (state : GatewayExecutionTracksState) : Program Bool :=
  perform (Request.prepareForwardHost state)

def validateRelease (releaseId dataDirectory : JsString) : Program Unit :=
  perform (Request.validateRelease releaseId dataDirectory)

def ensureStandby (releaseId : JsString) : Program Unit := perform (Request.ensureStandby releaseId)

def retireStandby (releaseId : JsString) : Program Unit := perform (Request.retireStandby releaseId)

def releaseExecution (releaseId : JsString) : Program Unit := perform (Request.releaseExecution releaseId)

def activate (releaseId dataDirectory gatewayNodeId : JsString) : Program Unit :=
  perform (Request.activate releaseId dataDirectory gatewayNodeId)

def verifyActive (releaseId dataDirectory gatewayNodeId : JsString) : Program Unit :=
  perform (Request.verifyActive releaseId dataDirectory gatewayNodeId)

end Host

def refuseUnless (condition : Bool) (error : JsString) : Program Unit := if condition then .pure () else .throw error

section

variable (schemaText : Refused → JsString) (initial : GatewayExecutionTracksState)

def check (state : GatewayExecutionTracksState) : Option JsString :=
  if state.parses = false then some (schemaText (.state state))
  else if state.gatewayNodeId ≠ initial.gatewayNodeId ∨ state.dataDirectory ≠ initial.dataDirectory then
    some ("Execution tracks cannot change Gateway identity or business data directory" : JsString)
  else if state.phase ≠ .steady ∧ state.targetRelease = none then
    some ("Execution handoff target is missing" : JsString)
  else if (state.backupPath.isSome ∨ state.targetWriteStarted) ∧ state.forwardOnly = false then
    some ("Forward-only recovery metadata cannot grant compatible rollback" : JsString)
  else none

def validate (state : GatewayExecutionTracksState) : Program Unit :=
  match check schemaText initial state with
  | none => .pure ()
  | some error => .throw error

def status : Program GatewayExecutionTracksState := do
  let state ← readState
  validate schemaText initial state
  return state

def save (next : GatewayExecutionTracksState) : Program Unit := do
  validate schemaText initial next
  let current ← status schemaText initial
  refuseUnless (current.generation = next.generation) "Execution handoff generation changed"
  writeState next

/-- The `catch` of a switch. -/
def recordFailure {α : Type} (state : GatewayExecutionTracksState) (error : JsString) : Program α := do
  save schemaText initial { state with phase := .attention, error := some error }
  .throw error

/-- One step of the `try` of a switch, with the state as it is in memory then. -/
def attempt {α β : Type} (state : GatewayExecutionTracksState) (step : Program α) (next : α → Program β) : Program β :=
  step.continue_ (onResult next (recordFailure schemaText initial state))

def unavailable (error : JsString) : JsString :=
  ("The default version is running, but the previous version is unavailable: " : JsString) ++ error

def prepareOptionalStandby (state : GatewayExecutionTracksState) : Program GatewayExecutionTracksState :=
  match state.standbyRelease with
  | none => return state
  | some standby =>
    (Host.ensureStandby standby).continue_ fun result => do
      let prepared := { state with error := onResult (fun _ => none) (fun error => some (unavailable error)) result }
      save schemaText initial prepared
      return prepared

def completed (state : GatewayExecutionTracksState) (target : JsString) : GatewayExecutionTracksState where
  gatewayNodeId := state.gatewayNodeId
  dataDirectory := state.dataDirectory
  generation := state.generation
  activeRelease := target
  standbyRelease :=
    if state.forwardOnly then none
    else if target ≠ state.activeRelease then some state.activeRelease
    else state.standbyRelease
  phase := .steady
  targetRelease := none
  forwardOnly := state.forwardOnly
  backupPath := if state.forwardOnly then state.backupPath else none
  targetWriteStarted := state.forwardOnly
  error := none

/-- The end of `complete`. -/
def activateTarget (state : GatewayExecutionTracksState) (target : JsString) : Program GatewayExecutionTracksState :=
  let state := { state with phase := .activating }
  attempt schemaText initial state (save schemaText initial state) fun _ =>
  attempt schemaText initial state (Host.activate target state.dataDirectory state.gatewayNodeId) fun _ =>
  attempt schemaText initial state (Host.verifyActive target state.dataDirectory state.gatewayNodeId) fun _ =>
  attempt schemaText initial state (save schemaText initial (completed state target)) fun _ =>
  attempt schemaText initial state (prepareOptionalStandby schemaText initial (completed state target)) .pure

/-- The host moves to the target before the target opens its data. -/
def startWriting (state : GatewayExecutionTracksState) (target : JsString) : Program GatewayExecutionTracksState :=
  attempt schemaText initial state (Host.prepareForwardHost state) fun ready =>
  if ready then
    let state := { state with targetWriteStarted := true, standbyRelease := none }
    attempt schemaText initial state (save schemaText initial state) fun _ =>
    activateTarget schemaText initial state target
  else return state

def backUp (state : GatewayExecutionTracksState) (target : JsString) : Program GatewayExecutionTracksState :=
  if state.backupPath.all (fun path => path.truthy = false) then
    if state.targetWriteStarted then
      recordFailure schemaText initial state "Original backup is missing; refusing to back up already-upgraded data"
    else
      attempt schemaText initial state (Host.backupStoppedState state) fun path =>
      let state := { state with backupPath := some path }
      attempt schemaText initial state (save schemaText initial state) fun _ =>
      startWriting schemaText initial state target
  else startWriting schemaText initial state target

/-- The check of a release that a switch begins with. -/
def admitTarget (capabilities : Capabilities) (state : GatewayExecutionTracksState) (target : JsString) : Program Unit :=
  if state.forwardOnly then do
    refuseUnless capabilities.forward "Incompatible upgrade requires a capable Host; use local recovery"
    Host.validateForwardRelease target state.dataDirectory
  else Host.validateRelease target state.dataDirectory

def complete (capabilities : Capabilities) (state : GatewayExecutionTracksState) :
    Program GatewayExecutionTracksState :=
  match state.targetRelease with
  | none => .throw "Execution handoff target is missing"
  | some target =>
    attempt schemaText initial state (admitTarget capabilities state target) fun _ =>
    attempt schemaText initial state (Host.releaseExecution state.activeRelease) fun _ =>
    attempt schemaText initial state (Host.releaseExecution target) fun _ =>
    if state.forwardOnly then backUp schemaText initial state target
    else activateTarget schemaText initial state target

def GatewayExecutionTracksState.intend (state : GatewayExecutionTracksState) (releaseId : JsString)
    (allowForwardOnly : Bool) : GatewayExecutionTracksState :=
  { state with
    generation := state.generation + 1
    activeRelease :=
      if state.phase = .attention ∧ releaseId = state.activeRelease then state.targetRelease.getD state.activeRelease
      else state.activeRelease
    targetRelease := some releaseId
    phase := .releasing
    forwardOnly := allowForwardOnly
    backupPath := none
    targetWriteStarted := false
    error := none }

/-- A standby that is not selected makes room for the one that is. -/
def retireOther (capabilities : Capabilities) (current : GatewayExecutionTracksState) (releaseId : JsString) :
    Program Unit :=
  match current.standbyRelease with
  | none => return ()
  | some standby =>
    if current.phase = .steady ∧ standby ≠ releaseId then do
      refuseUnless capabilities.retire "Host cannot safely replace the previous standby"
      Host.retireStandby standby
    else return ()

def admitSelected (capabilities : Capabilities) (current : GatewayExecutionTracksState) (releaseId : JsString)
    (allowForwardOnly : Bool) : Program Unit :=
  if allowForwardOnly then do
    refuseUnless capabilities.forward "This Host must be upgraded locally before it can perform an incompatible upgrade"
    Host.validateForwardRelease releaseId current.dataDirectory
  else Host.validateRelease releaseId current.dataDirectory

def switchTo (capabilities : Capabilities) (current : GatewayExecutionTracksState) (releaseId : JsString)
    (deferred allowForwardOnly : Bool) : Program GatewayExecutionTracksState := do
  admitSelected capabilities current releaseId allowForwardOnly
  retireOther capabilities current releaseId
  Host.ensureStandby releaseId
  let state ← status schemaText initial
  refuseUnless (state.generation = current.generation && state.phase = current.phase) "Execution handoff already changed"
  let intent := state.intend releaseId allowForwardOnly
  writeState intent
  if deferred then return intent else complete schemaText initial capabilities intent

def requestSelection (capabilities : Capabilities) (releaseId : JsString) (generation : ℕ)
    (deferred allowForwardOnly : Bool) : Program GatewayExecutionTracksState := do
  refuseUnless (isReleaseId releaseId) (schemaText (.release releaseId))
  let current ← status schemaText initial
  refuseUnless (current.generation = generation) "Version selection changed; refresh before selecting again"
  refuseUnless (current.phase = .steady || current.phase = .attention) "An execution handoff is still running"
  if current.phase = .attention ∧ current.forwardOnly then
    refuseUnless (some releaseId = current.targetRelease)
      "Incompatible upgrade cannot switch to an older reader; retry the target or use local backup recovery"
    if deferred then return current else complete schemaText initial capabilities current
  else
    refuseUnless (current.phase = .steady || releaseId = current.activeRelease || some releaseId =
      current.targetRelease ||
      some releaseId = current.standbyRelease) "Resolve the interrupted handoff before adding another version"
    if releaseId = current.activeRelease ∧ current.phase = .steady then return current
    else switchTo schemaText initial capabilities current releaseId deferred allowForwardOnly

def select (capabilities : Capabilities) (releaseId : JsString) (generation : ℕ) :
    Program GatewayExecutionTracksState :=
  requestSelection schemaText initial capabilities releaseId generation false false

def scheduleSelection (capabilities : Capabilities) (releaseId : JsString) (generation : ℕ) (allowForwardOnly : Bool) :
    Program GatewayExecutionTracksState :=
  requestSelection schemaText initial capabilities releaseId generation true allowForwardOnly

def resume (capabilities : Capabilities) : Program GatewayExecutionTracksState := do
  let state ← status schemaText initial
  if state.phase = .steady then return state else complete schemaText initial capabilities state

def activateDefault (state : GatewayExecutionTracksState) : Program GatewayExecutionTracksState :=
  let active := state.activeRelease
  let state := { state with phase := .activating, targetRelease := some active }
  let steady := { state with phase := .steady, targetRelease := none, error := none }
  do
    save schemaText initial state
    attempt schemaText initial state (Host.validateRelease active state.dataDirectory) fun _ =>
      attempt schemaText initial state (Host.ensureStandby active) fun _ =>
      attempt schemaText initial state (Host.activate active state.dataDirectory state.gatewayNodeId) fun _ =>
      attempt schemaText initial state (Host.verifyActive active state.dataDirectory state.gatewayNodeId) fun _ =>
      -- The handler puts the target back that `steady` has dropped.
      attempt schemaText initial state (save schemaText initial steady) fun _ =>
      prepareOptionalStandby schemaText initial steady

def startDefault (capabilities : Capabilities) : Program Unit := do
  let state ← status schemaText initial
  if state.phase = .steady then
    let _ ← activateDefault schemaText initial state
  else
    let _ ← complete schemaText initial capabilities state

inductive Call
  | select (releaseId : JsString) (generation : ℕ)
  | scheduleSelection (releaseId : JsString) (generation : ℕ) (allowForwardOnly : Bool)
  | resume
  | startDefault
  deriving DecidableEq

def Call.program : Capabilities × Call → Program Unit
  | (capabilities,.select releaseId generation) => do
    let _ ← Tracks.select schemaText initial capabilities releaseId generation
  | (capabilities,.scheduleSelection releaseId generation allowForwardOnly) => do
    let _ ← Tracks.scheduleSelection schemaText initial capabilities releaseId generation allowForwardOnly
  | (capabilities,.resume) => do
    let _ ← Tracks.resume schemaText initial capabilities
  | (capabilities,.startDefault) => Tracks.startDefault schemaText initial capabilities

end

end Malink.Tracks
