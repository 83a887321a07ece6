import Malink.CheckedResults
import Malink.JsStrings
import Mathlib.Logic.Function.Basic

/-!
# Changes of the lifecycle of a session

The record of a session is changed in memory before it is written.
-/

namespace Malink.Gateway.Lifecycle

open Prod (fst snd)

inductive SessionLifecycle
  | active
  | archived
  | deleted
  deriving DecidableEq

inductive SessionScope
  | project
  | scratch
  deriving DecidableEq

structure PersistedMlp3SessionArchiveCleanup where
  commandId : JsString
  requestedAt : ℕ
  matrixThreadDeleted : Bool
  providerHistoryDeleted : Bool
  scratchDirectoryDeleted : Bool
  deriving DecidableEq

structure PersistedMlp3Session where
  scope : SessionScope
  title : JsString
  updatedAt : ℕ
  stateVersion : ℕ
  lifecycle : SessionLifecycle
  retainedArchive : Option Bool
  lifecycleCommandId : Option JsString
  providerSessionId : Option JsString
  /-- The room of the history. -/
  providerHistory : Option JsString
  archiveCleanup : Option PersistedMlp3SessionArchiveCleanup
  deriving DecidableEq

structure Mlp3SessionRuntime where
  conversationId : Option JsString
  activeTurn : Bool

structure V3ProjectRuntime where
  roomId : JsString
  name : JsString
  record : JsString → PersistedMlp3Session
  /-- `project.sessions`: the sessions whose records the project lists. -/
  listed : List JsString
  sessions : JsString → Option Mlp3SessionRuntime

structure Command where
  sessionId : Option JsString
  deviceId : JsString
  commandId : JsString
  state : SessionLifecycle

structure TrustedDevice where
  deviceId : JsString
  allowedRoomIds : List JsString
  allowedOperations : Option (List JsString)
  certificateExpiresAt : Option ℕ

/-- What an archived session leaves behind. -/
inductive Part
  | thread
  | history
  | scratch
  deriving DecidableEq

/-- Where an operation asks for its signal and then, but for `cleanup`, persists. -/
inductive Checkpoint
  | change
  | archive
  | cleanup
  | part (part : Part)
  | deletion

inductive Thrown
  | persist
  | other (message : JsString)
  deriving DecidableEq

/-- What an operation finds around it. The answers of one operation are at hand before it begins. -/
structure Host where
  gatewayNodeId : JsString
  now : ℕ
  /-- `forkingSessions.has`, before and after the device is known. -/
  forks : Bool → JsString → Bool
  devices : List TrustedDevice
  isTrustedDeviceActive : JsString → Bool
  /-- The state that the journal has of a session whose record is gone. -/
  archivedSessionEvent : JsString → Option SessionLifecycle
  assertMaintenanceSessionCanBeArchived : Except JsString Unit
  assertCommandExecutionActive : Checkpoint → Except JsString Unit
  persists : Checkpoint → Bool
  createSessionRuntime : PersistedMlp3Session → Mlp3SessionRuntime
  running : Bool
  cleanupTasks : List JsString
  cleanupAborted : Bool
  /-- `deleteRoomThread && retireRoom` -/
  deletes : Bool
  deletePart : Part → Except JsString Unit

/-- The event that an operation settles its command with. -/
structure Settled where
  state : SessionLifecycle
  alreadyApplied : Bool

section

variable (host : Host) (command : Command) (id : JsString) (project : V3ProjectRuntime)

def persist (point : Checkpoint) : Except Thrown Unit := if host.persists point then .ok () else .error .persist

def assign (record : PersistedMlp3Session) : V3ProjectRuntime :=
  { project with record := Function.update project.record id record }

def lifecyclePermission : SessionLifecycle → JsString
  | .active => "session.restore"
  | .deleted => "session.delete"
  | .archived => "session.archive"

def isAuthorized : Bool :=
  match host.devices.find? fun device => device.deviceId = command.deviceId with
  | none => false
  | some device =>
    device.allowedRoomIds.contains project.roomId && device.certificateExpiresAt.all (host.now < ·) &&
      device.allowedOperations.all (fun allowed =>
        allowed.contains "device.invite" || allowed.contains (lifecyclePermission command.state)) &&
      host.isTrustedDeviceActive command.deviceId

/-- What is left to do when the command passes its checks. -/
inductive Plan
  | settle (settled : Settled)
  | change (id : JsString)
  | archive (id : JsString)

def isRecoveryProject : Bool := project.name = JsString.ofString "Gateway recovery · " ++ host.gatewayNodeId

/-- `setSessionLifecycle` up to the first change of the record. -/
def prepareLifecycle : Except JsString Plan := do
  let some id := command.sessionId | .error "Lifecycle command is missing its session ID"
  refuseIf (host.forks true id) "Wait for conversation branching to finish before changing its lifecycle"
  refuseIf (¬ isAuthorized host command project) "Archive target is unavailable or not authorized"
  if id ∉ project.listed then
    let some state := if command.state = .active then none else host.archivedSessionEvent id
      | .error (JsString.ofString "Unknown Malink session " ++ id)
    return .settle ⟨state,true⟩
  refuseIf (host.forks false id) "Wait for conversation branching to finish before changing its lifecycle"
  let record := project.record id
  let retained := record.lifecycle = .archived ∧ record.retainedArchive = some true ∧ record.archiveCleanup = none
  refuseIf (command.state ≠ .deleted ∧ record.lifecycle ≠ .active ∧ ¬ retained)
    "Deleted sessions cannot be restored; continue them from Provider History"
  if command.state = .active ∨ command.state = .archived ∧ (record.lifecycle = .active ∨ retained) then
    if record.lifecycle = command.state then
      return .settle ⟨command.state,true⟩
    if command.state = .archived then
      refuseIf (isRecoveryProject host project)
        "This project retains the independent Gateway repair history until the next update replaces it"
      host.assertMaintenanceSessionCanBeArchived
      refuseIf ((project.sessions id).any (·.activeTurn)) "Stop the agent before archiving this session"
    host.assertCommandExecutionActive .change
    return .change id
  refuseIf (isRecoveryProject host project)
    "This project retains the independent Gateway repair history until the next update replaces it"
  host.assertMaintenanceSessionCanBeArchived
  host.assertCommandExecutionActive .change
  return .archive id

def conversationId : Option JsString :=
  match project.sessions id with
  | some runtime => runtime.conversationId
  | none => (project.record id).providerSessionId

/-- `Object.assign(record, previous)` undoes the change. -/
def changeLifecycle : V3ProjectRuntime × Except Thrown Settled :=
  let previous := project.record id
  let record := { previous with
    providerSessionId := conversationId id project
    lifecycle := command.state
    retainedArchive := some (command.state = .archived)
    lifecycleCommandId := some command.commandId
    updatedAt := host.now
    stateVersion := previous.stateVersion + 1 }
  let changed := assign id project record
  match persist host .change with
  | .error thrown => (assign id changed previous,.error thrown)
  | .ok () =>
    let runtime := if command.state = .archived then none else some (host.createSessionRuntime record)
    ({ changed with sessions := Function.update changed.sessions id runtime },.ok ⟨command.state,false⟩)

/-- The cleanup is scheduled when the command is settled. -/
def archiveSession : V3ProjectRuntime × Except Thrown Settled :=
  let previous := project.record id
  let record := { previous with
    providerSessionId := conversationId id project
    lifecycle := .archived
    retainedArchive := some false
    updatedAt := host.now
    stateVersion := previous.stateVersion + 1
    archiveCleanup := some (match previous.archiveCleanup with
      | some cleanup => { cleanup with commandId := command.commandId }
      | none => {
          commandId := command.commandId
          requestedAt := host.now
          matrixThreadDeleted := false
          providerHistoryDeleted := previous.providerHistory = none
          scratchDirectoryDeleted := previous.scope ≠ .scratch }) }
  let changed := assign id project record
  let restored := assign id changed { record with
    lifecycle := previous.lifecycle
    updatedAt := previous.updatedAt
    stateVersion := previous.stateVersion
    providerSessionId := previous.providerSessionId
    retainedArchive := previous.retainedArchive
    archiveCleanup := previous.archiveCleanup }
  match host.assertCommandExecutionActive .archive with
  | .error message => (restored,.error (.other message))
  | .ok () =>
    match persist host .archive with
    | .error thrown => (restored,.error thrown)
    | .ok () => ({ changed with sessions := Function.update changed.sessions id none },.ok ⟨.deleted,false⟩)

def setSessionLifecycle : V3ProjectRuntime × Except Thrown Settled :=
  match prepareLifecycle host command project with
  | .error message => (project,.error (.other message))
  | .ok (.settle settled) => (project,.ok settled)
  | .ok (.change id) => changeLifecycle host command id project
  | .ok (.archive id) => archiveSession host command id project

def PersistedMlp3SessionArchiveCleanup.isDeleted (cleanup : PersistedMlp3SessionArchiveCleanup) : Part → Bool
  | .thread => cleanup.matrixThreadDeleted
  | .history => cleanup.providerHistoryDeleted
  | .scratch => cleanup.scratchDirectoryDeleted

def PersistedMlp3SessionArchiveCleanup.delete (cleanup : PersistedMlp3SessionArchiveCleanup) :
    Part → PersistedMlp3SessionArchiveCleanup
  | .thread => { cleanup with matrixThreadDeleted := true }
  | .history => { cleanup with providerHistoryDeleted := true }
  | .scratch => { cleanup with scratchDirectoryDeleted := true }

/-- One of the three blocks of `cleanupArchivedSessionStorage`. -/
def deletePart (part : Part) : V3ProjectRuntime × Except Thrown Unit :=
  match (project.record id).archiveCleanup with
  | none =>
    (project,.error (.other
      (JsString.ofString "Session " ++ id ++ JsString.ofString " has no archive cleanup request")))
  | some cleanup =>
    if cleanup.isDeleted part then (project,.ok ())
    else
      match host.deletePart part, host.assertCommandExecutionActive (.part part) with
      | .error message, _ | .ok (), .error message => (project,.error (.other message))
      | .ok (), .ok () =>
        let record := project.record id
        (assign id project { record with
          providerHistory := if part = .history then none else record.providerHistory
          archiveCleanup := some (cleanup.delete part) },persist host (.part part))

/-- The rest of an operation, unless it has thrown. -/
def andThen (result : V3ProjectRuntime × Except Thrown Unit)
    (next : V3ProjectRuntime → V3ProjectRuntime × Except Thrown Unit) : V3ProjectRuntime × Except Thrown Unit :=
  match result.2 with
  | .error thrown => (result.1,.error thrown)
  | .ok () => next result.1

def cleanupArchivedSessionStorage : V3ProjectRuntime × Except Thrown Unit :=
  if host.deletes then
    andThen (deletePart host id project .thread) fun project =>
      andThen (deletePart host id project .history) fun project => deletePart host id project .scratch
  else (project,.error (.other "Matrix transport cannot delete archived session data"))

/-- The task that is scheduled, with the error that it logs before it is retried. -/
def scheduleArchivedSessionCleanup : V3ProjectRuntime × Except Thrown Unit :=
  if ¬ host.running ∨ (project.record id).lifecycle ≠ .archived ∨ (project.record id).archiveCleanup = none ∨
      id ∈ host.cleanupTasks ∨ host.cleanupAborted then (project,.ok ())
  else
    match host.assertCommandExecutionActive .cleanup with
    | .error message => (project,.error (.other message))
    | .ok () =>
      andThen (cleanupArchivedSessionStorage host id project) fun project =>
        match host.assertCommandExecutionActive .deletion with
        | .error message => (project,.error (.other message))
        | .ok () =>
          let record := project.record id
          ({ assign id project { record with
              lifecycle := .deleted
              updatedAt := host.now
              stateVersion := record.stateVersion + 1 } with
            listed := project.listed.filter (· ≠ id) },persist host .deletion)

end

inductive Operation
  | setSessionLifecycle (command : Command)
  | scheduleArchivedSessionCleanup (id : JsString)

def Operation.run (host : Host) (project : V3ProjectRuntime) : Operation → V3ProjectRuntime × Except Thrown Unit
  | .setSessionLifecycle command =>
    let result := Lifecycle.setSessionLifecycle host command project
    (result.1,result.2.map fun _ => ())
  | .scheduleArchivedSessionCleanup id => Lifecycle.scheduleArchivedSessionCleanup host id project

/-- The operation is a command, which undoes its change. -/
def Operation.isCommand : Operation → Bool
  | .setSessionLifecycle _ => true
  | .scheduleArchivedSessionCleanup _ => false

variable {host : Host} {command : Command} {id : JsString} {project project' : V3ProjectRuntime} {thrown : Thrown}

theorem assign_restored (record : PersistedMlp3Session) :
    assign id (assign id project record) (project.record id) = project := by
  simp only [assign,Function.update_idem,Function.update_eq_self]

theorem changeLifecycle_error (hrun : changeLifecycle host command id project = (project',.error thrown)) :
    project' = project := by
  unfold changeLifecycle at hrun
  cases hpersist : persist host .change with
  | error error =>
    rw [hpersist] at hrun
    exact (congrArg fst hrun).symm.trans (assign_restored _)
  | ok value =>
    rw [hpersist] at hrun
    cases congrArg snd hrun

theorem archiveSession_error (hrun : archiveSession host command id project = (project',.error thrown)) :
    project' = project := by
  unfold archiveSession at hrun
  cases hactive : host.assertCommandExecutionActive .archive with
  | error message =>
    rw [hactive] at hrun
    exact (congrArg fst hrun).symm.trans (assign_restored _)
  | ok value =>
    rw [hactive] at hrun
    cases hpersist : persist host .archive with
    | error error =>
      rw [hpersist] at hrun
      exact (congrArg fst hrun).symm.trans (assign_restored _)
    | ok value =>
      rw [hpersist] at hrun
      cases congrArg snd hrun

/-- A command that throws leaves the project as it was. -/
theorem setSessionLifecycle_error (hrun : setSessionLifecycle host command project = (project',.error thrown)) :
    project' = project := by
  unfold setSessionLifecycle at hrun
  split at hrun
  · exact (congrArg fst hrun).symm
  · cases congrArg snd hrun
  · exact changeLifecycle_error hrun
  · exact archiveSession_error hrun

def deletedParts (record : PersistedMlp3Session) : ℕ :=
  match record.archiveCleanup with
  | none => 0
  | some cleanup =>
    cleanup.matrixThreadDeleted.toNat + cleanup.providerHistoryDeleted.toNat + cleanup.scratchDirectoryDeleted.toNat

/-- A cleanup goes on: the lifecycle stays, and more parts are marked when a write has failed. -/
structure Proceeds (id : JsString) (project : V3ProjectRuntime) (result : V3ProjectRuntime × Except Thrown Unit) :
    Prop where
  lifecycle : (result.1.record id).lifecycle = (project.record id).lifecycle
  parts : deletedParts (project.record id) ≤ deletedParts (result.1.record id)
  marked : result.2 = .error .persist → deletedParts (project.record id) < deletedParts (result.1.record id)

theorem Proceeds.andThen {result : V3ProjectRuntime × Except Thrown Unit} (h : Proceeds id project result)
    {next : V3ProjectRuntime → V3ProjectRuntime × Except Thrown Unit}
    (hnext : ∀ project,Proceeds id project (next project)) : Proceeds id project (andThen result next) := by
  unfold Lifecycle.andThen
  cases hresult : result.2 with
  | error thrown => exact ⟨h.lifecycle,h.parts,fun heq => h.marked (hresult.trans heq)⟩
  | ok value =>
    have hrest := hnext result.1
    exact ⟨hrest.lifecycle.trans h.lifecycle,Nat.le_trans h.parts hrest.parts,
      fun heq => Nat.lt_of_le_of_lt h.parts (hrest.marked heq)⟩

theorem proceeds_deletePart (part : Part) : Proceeds id project (deletePart host id project part) := by
  have hsame {result : Except Thrown Unit} (hne : result ≠ .error .persist) : Proceeds id project (project,result) :=
    ⟨rfl,Nat.le_refl _,fun heq => absurd heq hne⟩
  unfold deletePart
  split
  · exact hsame fun heq => by cases heq
  next cleanup hcleanup =>
  split
  · exact hsame fun heq => by cases heq
  next hpart =>
  split
  · exact hsame fun heq => by cases heq
  · exact hsame fun heq => by cases heq
  · have hmore : deletedParts (project.record id) < deletedParts { project.record id with
        providerHistory := if part = .history then none else (project.record id).providerHistory
        archiveCleanup := some (cleanup.delete part) } := by
      cases part <;>
        simp_all [deletedParts,PersistedMlp3SessionArchiveCleanup.isDeleted,PersistedMlp3SessionArchiveCleanup.delete]
    refine ⟨?_,?_,fun _ => ?_⟩ <;> simp only [assign,Function.update_self]
    · exact Nat.le_of_lt hmore
    · exact hmore

theorem proceeds_cleanupArchivedSessionStorage :
    Proceeds id project (cleanupArchivedSessionStorage host id project) := by
  unfold cleanupArchivedSessionStorage
  split
  · exact (proceeds_deletePart .thread).andThen fun _ =>
      (proceeds_deletePart .history).andThen fun _ => proceeds_deletePart .scratch
  · exact ⟨rfl,Nat.le_refl _,fun heq => by cases heq⟩

/-- A cleanup whose write fails leaves a part marked or the session deleted. -/
theorem scheduleArchivedSessionCleanup_persist
    (hrun : scheduleArchivedSessionCleanup host id project = (project',.error .persist)) : project' ≠ project := by
  unfold scheduleArchivedSessionCleanup at hrun
  split at hrun
  · cases congrArg snd hrun
  next hguard =>
  have harchived : (project.record id).lifecycle = .archived := by
    by_contra hne
    exact hguard (.inr (.inl hne))
  have hproceeds : Proceeds id project (cleanupArchivedSessionStorage host id project) :=
    proceeds_cleanupArchivedSessionStorage
  rintro rfl
  split at hrun
  · cases congrArg snd hrun
  unfold andThen at hrun
  split at hrun
  · next thrown hthrown =>
    have hfirst := congrArg fst hrun
    have hsecond := congrArg snd hrun
    have hmarked := hproceeds.marked (hthrown.trans hsecond)
    rw [show (cleanupArchivedSessionStorage host id project').1 = project' from hfirst] at hmarked
    exact Nat.lt_irrefl _ hmarked
  · split at hrun
    · cases congrArg snd hrun
    · have hdeleted := congrArg (fun result => (result.1.record id).lifecycle) hrun
      simp only [assign,Function.update_self,harchived] at hdeleted
      cases hdeleted

/-- A failed write leaves the project as it was exactly when a command has made it. -/
theorem restored_iff {operation : Operation} (h : operation.run host project = (project',.error .persist)) :
    project' = project ↔ operation.isCommand = true := by
  cases operation with
  | setSessionLifecycle command =>
    refine ⟨fun _ => rfl,fun _ => ?_⟩
    have hfirst := congrArg fst h
    have hsecond := congrArg snd h
    cases hresult : (setSessionLifecycle host command project).2 with
    | error thrown => exact setSessionLifecycle_error (Prod.ext hfirst hresult)
    | ok settled =>
      simp only [Operation.run,hresult] at hsecond
      cases hsecond
  | scheduleArchivedSessionCleanup id =>
    exact ⟨fun heq => absurd heq (scheduleArchivedSessionCleanup_persist h),fun hcommand => by cases hcommand⟩

def archived : PersistedMlp3Session where
  scope := .project
  title := "session"
  updatedAt := 1
  stateVersion := 2
  lifecycle := .archived
  retainedArchive := some false
  lifecycleCommandId := none
  providerSessionId := none
  providerHistory := none
  archiveCleanup := some ⟨"delete",1,true,true,true⟩

def sampleProject : V3ProjectRuntime where
  roomId := "room"
  name := "project"
  record _ := archived
  listed := ["session"]
  sessions _ := none

/-- Every write fails. -/
def sampleHost : Host where
  gatewayNodeId := "node"
  now := 3
  forks _ _ := false
  devices := [⟨"device",["room"],none,none⟩]
  isTrustedDeviceActive _ := true
  archivedSessionEvent _ := none
  assertMaintenanceSessionCanBeArchived := .ok ()
  assertCommandExecutionActive _ := .ok ()
  persists _ := false
  createSessionRuntime _ := ⟨none,false⟩
  running := true
  cleanupTasks := []
  cleanupAborted := false
  deletes := true
  deletePart _ := .ok ()

def sampleCommand : Command := ⟨some "session","device","command",.deleted⟩

/-- The command puts back what it has changed, and the cleanup does not. -/
theorem restored_iff_sampleHost :
    ((Operation.run sampleHost sampleProject (.setSessionLifecycle sampleCommand)).1 = sampleProject ↔
      (Operation.setSessionLifecycle sampleCommand).isCommand = true) ∧
    ((Operation.run sampleHost sampleProject (.scheduleArchivedSessionCleanup "session")).1 = sampleProject ↔
      (Operation.scheduleArchivedSessionCleanup "session").isCommand = true) :=
  ⟨restored_iff (Prod.ext rfl rfl),restored_iff (Prod.ext rfl rfl)⟩

/-- The session is gone from memory after the failure, and the next attempt does nothing. -/
theorem failed_deletion_not_retried :
    let failed := Operation.run sampleHost sampleProject (.scheduleArchivedSessionCleanup "session")
    let retried := Operation.run sampleHost failed.1 (.scheduleArchivedSessionCleanup "session")
    failed.2 = .error .persist ∧ failed.1.listed = [] ∧ failed.1 ≠ sampleProject ∧
      retried.1.listed = [] ∧ retried.2 = .ok () := by
  refine ⟨rfl,rfl,fun h => ?_,rfl,rfl⟩
  cases congrArg V3ProjectRuntime.listed h

end Malink.Gateway.Lifecycle
