import Malink.ErrorTexts
import Malink.ExecutionStatus

/-!
# The activation of a release

The supervisor lets `current` name a new release, restarts the Gateway, and waits until it is healthy. A failure puts
the link back, unless the new release changes the state that the old one reads.
-/

namespace Malink.Supervisor

open DurableProgram
open Tracks (GatewayUpdatePhase ActivationMode)
open JsString (wrapped)

inductive StateClass
  | securityCritical
  | durableCommand
  | rebuildableProjection
  | ephemeralUi
  deriving DecidableEq

def StateClass.isProtected : StateClass → Bool
  | securityCritical | durableCommand => true
  | rebuildableProjection | ephemeralUi => false

structure StateEntry where
  id : JsString
  stateClass : StateClass
  schemaVersion : ℕ
  deriving DecidableEq

/-- `new Map(entries)`, where the last of two entries with one key counts. -/
def entryOf (entries : List StateEntry) (id : JsString) : Option StateEntry := entries.reverse.find? (·.id = id)

/-- What is new about one store that there is already. -/
def changeOf (target : List StateEntry) (current : StateEntry) : Except JsString (List JsString) :=
  match entryOf target current.id with
  | none => .error ("Gateway release omits persistent state " ++ current.id)
  | some next =>
    if next.stateClass ≠ current.stateClass then
      .error ("Gateway release changes the safety class of " ++ current.id)
    else if current.stateClass.isProtected ∧ next.schemaVersion ≠ current.schemaVersion then
      .ok [current.id ++ " schema " ++ JsString.ofNat current.schemaVersion ++ (" -> " : JsString) ++
        JsString.ofNat next.schemaVersion]
    else .ok []

def gatewayStateActivation (catalog target : List StateEntry) : Except JsString (ActivationMode × List JsString) := do
  let changed ← catalog.mapM (changeOf target)
  let added := target.filter fun next => (entryOf catalog next.id).isNone && next.stateClass.isProtected
  let changes := changed.flatten ++ added.map fun next => ("new protected store " : JsString) ++ next.id
  return (if changes.isEmpty then .rollbackSafe else .forwardOnly,changes)

/-- `staged.manifest` or `agentUpdate.update`, as far as an activation reads it. -/
structure Release where
  releaseId : JsString
  buildId : JsString
  stateCatalog : List StateEntry
  deriving DecidableEq

/-- The state of the supervisor, as far as an activation reads or writes it. The link is a directory here. -/
structure SupervisorState where
  phase : GatewayUpdatePhase
  statusMode : Option ActivationMode
  detail : Option JsString
  releaseId : Option JsString
  targetBuildId : Option JsString
  currentBuildId : Option JsString
  previousReleaseId : Option JsString
  target : Option Release
  previousTarget : Option JsString
  scheduledAt : Option ℕ
  activationMode : Option ActivationMode
  forwardOnlyBackupPath : Option JsString
  deriving DecidableEq

def activationModeForState (catalog : List StateEntry) (state : SupervisorState) : Except JsString ActivationMode := do
  let catalogMode ← match state.target with
    | none => pure none
    | some target => do
      let activation ← gatewayStateActivation catalog target.stateCatalog
      pure (some activation.1)
  if state.activationMode = some .forwardOnly ∨ state.statusMode = some .forwardOnly ∨
    catalogMode = some .forwardOnly then
    return .forwardOnly
  else return (((state.activationMode.or state.statusMode).or catalogMode).getD .rollbackSafe)

/-- Where in an activation a request is made. The host need not know. -/
inductive Place
  | preparation
  | hook
  /-- The unchanged Gateway starts again after the preparation has failed. -/
  | unchanged (error : JsString)
  | activation
  | cleanup
  | rollback
  | commit
  | report
  | recovery
  deriving DecidableEq

/-- What is found before anything changes: the directory of the link, and whether the launch agent must be reloaded. -/
structure Found where
  previousTarget : Option JsString
  reloadLaunchAgent : Bool
  deriving DecidableEq

inductive Request
  | inspect (place : Place) (releaseDirectory : JsString)
  | stop (place : Place)
  | backUp
  | writePlist (place : Place)
  | replaceSymlink (place : Place) (directory : JsString)
  | removeLink (place : Place)
  | restart (place : Place) (reloadLaunchAgent : Bool)
  | waitForHealth (place : Place) (expectedBuildId : Option JsString)
  | verifyProbation (place : Place) (expectedBuildId : Option JsString)
  /-- The state file is written. -/
  | persist (place : Place)

abbrev Request.Reply : Request → Type
  | inspect _ _ => Found
  | backUp => JsString
  | _ => Unit

abbrev Program (α : Type) := DurableProgram SupervisorState JsString Request Request.Reply α

/-- `writeState` -/
def writeStatus (place : Place) (change : SupervisorState → SupervisorState) : Program Unit := do
  perform (Request.persist place)
  let state ← readState
  writeState (change state)

structure ReleaseOptions where
  releaseDirectory : JsString
  expectedBuildId : Option JsString
  rollbackBuildId : Option JsString
  forwardOnly : Bool

def whenReload (reloadLaunchAgent : Bool) (program : Program Unit) : Program Unit :=
  if reloadLaunchAgent then program else return ()

def startTarget (at_ : Place → Place) (options : ReleaseOptions) (found : Found) (onActivated : Program Unit) :
    Program Unit := do
  perform (Request.restart (at_ .activation) found.reloadLaunchAgent)
  perform (Request.waitForHealth (at_ .activation) options.expectedBuildId)
  onActivated
  perform (Request.verifyProbation (at_ .activation) options.expectedBuildId)

def preparationFailed (error : JsString) : JsString :=
  wrapped "Gateway forward-only preparation failed before activation" error

def restartFailed (error : JsString) : JsString :=
  wrapped "Gateway forward-only preparation failed and the unchanged Gateway could not restart" error

def forwardOnlyFailed (error : JsString) (stopError : Option JsString) : JsString :=
  let text := wrapped "Matrix Gateway forward-only activation failed; automatic rollback is disabled" error
  match stopError with
  | none => text
  | some stopError => text ++ ((";" : JsString) ++ wrapped " stopping the target also failed" stopError)

def rollbackFailed (error : JsString) : JsString :=
  wrapped "Matrix Gateway activation failed and rollback also failed" error

def rolledBack (error : JsString) : JsString := wrapped "Matrix Gateway activation failed and was rolled back" error

/-- Without a way back: the Gateway stops before anything changes. -/
def activateForwardOnly (at_ : Place → Place) (options : ReleaseOptions) (found : Found)
    (onGatewayStopped onActivated : Program Unit) : Program Unit := do
  perform (Request.stop (at_ .preparation))
  onGatewayStopped.continue_ fun
    | .error error =>
      (perform (Request.restart (at_ (.unchanged error)) found.reloadLaunchAgent)).continue_ fun
        | .error restartError => .throw (restartFailed restartError)
        | .ok _ => .throw (preparationFailed error)
    | .ok _ => do
      whenReload found.reloadLaunchAgent (perform (Request.writePlist (at_ .preparation)))
      perform (Request.replaceSymlink (at_ .preparation) options.releaseDirectory)
      (startTarget at_ options found onActivated).handle fun activationError =>
        (perform (Request.stop (at_ .cleanup))).continue_ fun
          | .error stopError => .throw (forwardOnlyFailed activationError (some stopError))
          | .ok _ => .throw (forwardOnlyFailed activationError none)

def restoreLink (at_ : Place → Place) : Option JsString → Program Unit
  | some previousTarget => perform (Request.replaceSymlink (at_ .rollback) previousTarget)
  | none => perform (Request.removeLink (at_ .rollback))

def rollBack (at_ : Place → Place) (options : ReleaseOptions) (found : Found) : Program Unit := do
  restoreLink at_ found.previousTarget
  whenReload found.reloadLaunchAgent (perform (Request.writePlist (at_ .rollback)))
  perform (Request.restart (at_ .rollback) found.reloadLaunchAgent)
  perform (Request.waitForHealth (at_ .rollback) options.rollbackBuildId)

def activateAutomatic (at_ : Place → Place) (options : ReleaseOptions) (found : Found) (onActivated : Program Unit) :
    Program Unit := do
  whenReload found.reloadLaunchAgent (perform (Request.writePlist (at_ .preparation)))
  perform (Request.replaceSymlink (at_ .preparation) options.releaseDirectory)
  (startTarget at_ options found onActivated).handle fun activationError =>
    (rollBack at_ options found).continue_ fun
      | .error rollbackError => .throw (rollbackFailed rollbackError)
      | .ok _ => .throw (rolledBack activationError)

def activateMacosGatewayRelease (at_ : Place → Place) (options : ReleaseOptions)
    (onGatewayStopped onActivated : Program Unit) : Program Unit := do
  let found ← perform (Request.inspect (at_ .preparation) options.releaseDirectory)
  if options.forwardOnly then activateForwardOnly at_ options found onGatewayStopped onActivated
  else activateAutomatic at_ options found onActivated

section

variable (catalog : List StateEntry) (releasesRoot : JsString)

def releaseDirectory (releaseId : JsString) : JsString := releasesRoot ++ ("/" : JsString) ++ releaseId

/-- The hook that runs while the Gateway is stopped. -/
def backUpState (state : SupervisorState) : Program Unit := do
  if state.previousTarget = none then .throw "Forward-only activation has no previous release target"
  let backup ← perform Request.backUp
  writeStatus .hook fun current =>
    { current with
      forwardOnlyBackupPath := some backup
      detail := some "Protected Gateway state was backed up and verified; starting the forward-only target" }

def recordProbation : Program Unit := writeStatus .activation fun current => { current with phase := .probation }

/-- `statusDetail` -/
def statusDetail (error : JsString) : JsString :=
  if (error.take 4096).truthy then error.take 4096 else "Gateway update failed"

def committed (state : SupervisorState) (target : Release) (current : SupervisorState) : SupervisorState :=
  { current with
    scheduledAt := none
    previousTarget := none
    activationMode := none
    phase := .committed
    statusMode := none
    detail := none
    releaseId := some target.releaseId
    targetBuildId := some target.buildId
    currentBuildId := some target.buildId
    previousReleaseId := state.previousReleaseId }

def rolledBackPhrase : JsString := "rolled back"

def preparationPhrase : JsString := "forward-only preparation failed before activation"

/-- The `catch` of an activation, which reads the outcome off the text. -/
def reported (mode : ActivationMode) (error : JsString) (current : SupervisorState) : SupervisorState :=
  let rolledBack := error.mentions rolledBackPhrase
  let preparationFailed := mode = .forwardOnly && error.mentions preparationPhrase
  { current with
    scheduledAt := none
    previousTarget := if preparationFailed then none else current.previousTarget
    phase := if rolledBack then .rolledBack else if preparationFailed then .staged else .repairRequired
    detail := some (statusDetail error) }

def activate (mode : ActivationMode) (state : SupervisorState) (target : Release) : Program Unit := do
  activateMacosGatewayRelease id
    { releaseDirectory := releaseDirectory releasesRoot target.releaseId
      expectedBuildId := some target.buildId
      rollbackBuildId := state.currentBuildId
      forwardOnly := mode = .forwardOnly }
    (backUpState state) recordProbation
  writeStatus .commit (committed state target)

def activateScheduled : Program Unit := do
  let state ← readState
  if state.phase ≠ .scheduled then return ()
  else
    match state.target with
    | none => return ()
    | some target => do
      let mode ← ofExcept (activationModeForState catalog state)
      writeStatus .report fun current => { current with phase := .activating }
      (activate releasesRoot mode state target).handle fun error => do
        writeStatus .report (reported mode error)
        .throw error

def recoverInterruptedActivation (state : SupervisorState) : Program Unit := do
  let mode ← ofExcept (activationModeForState catalog state)
  if mode = .forwardOnly then
    writeStatus .recovery fun current =>
      { current with
        activationMode := some .forwardOnly
        statusMode := some .forwardOnly
        phase := .repairRequired
        detail := some "Forward-only activation was interrupted. Automatic rollback remains disabled; verify the target locally before acknowledging recovery." }
  else
    match state.previousTarget with
    | none =>
      writeStatus .recovery fun current =>
        { current with
          phase := .repairRequired
          detail := some "Supervisor restarted during activation without a previous release target" }
    | some previousTarget =>
      (do
        activateMacosGatewayRelease (fun _ => .recovery)
          { releaseDirectory := previousTarget
            expectedBuildId := state.currentBuildId
            rollbackBuildId := none
            forwardOnly := false }
          (.pure ()) (.pure ())
        writeStatus .recovery fun current =>
          { current with
            phase := .rolledBack
            detail := some "Supervisor restarted during activation and restored the previous release" }).handle
        fun error =>
          writeStatus .recovery fun current =>
            { current with
              phase := .repairRequired
              detail := some (statusDetail (wrapped "Interrupted activation recovery failed" error)) }

/-- The start of the supervisor. A scheduled activation waits for its time. -/
def initializeSupervisor : Program Unit := do
  let state ← readState
  if state.phase = .activating ∨ state.phase = .probation then
    recoverInterruptedActivation catalog state
  else return ()

inductive Call
  | activateScheduled
  | initializeSupervisor
  deriving DecidableEq

def Call.program : Call → Program Unit
  | .activateScheduled => Supervisor.activateScheduled catalog releasesRoot
  | .initializeSupervisor => Supervisor.initializeSupervisor catalog

end

end Malink.Supervisor
