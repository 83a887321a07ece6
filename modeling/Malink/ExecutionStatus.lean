import Malink.ForwardBackups

/-!
# The status of the execution tracks

The supervisor shows the tracks in the status of an update.
-/

namespace Malink.Tracks

open DurableProgram Option
open Deployment (isReleaseId isOpaqueId maxDetail)
open JsString (truthy)

inductive GatewayUpdatePhase
  | idle
  | staging
  | agentRequired
  | agentRunning
  | agentValidating
  | staged
  | waitingForIdle
  | scheduled
  | activating
  | probation
  | committed
  | rolledBack
  | failed
  | repairRequired
  deriving DecidableEq

inductive ActivationMode
  | rollbackSafe
  | forwardOnly
  deriving DecidableEq

structure GatewayExecutionTracksStatus where
  generation : ℕ
  activeRelease : JsString
  standbyRelease : Option JsString
  phase : Phase
  targetRelease : Option JsString
  error : Option JsString
  controlProjectId : Option JsString
  deriving DecidableEq

structure GatewayUpdateStatus where
  phase : GatewayUpdatePhase
  updateId : Option JsString
  releaseId : Option JsString
  targetBuildId : Option JsString
  currentBuildId : Option JsString
  previousReleaseId : Option JsString
  executionTracks : Option GatewayExecutionTracksStatus
  supportedOperations : Option (List JsString)
  activationMode : Option ActivationMode
  detail : Option JsString
  maintenanceSessionId : Option JsString
  activeTurns : Option ℕ
  updatedAt : ℕ
  deriving DecidableEq

/-- `gatewayExecutionTracksStatusSchema` -/
def GatewayExecutionTracksStatus.isValid (status : GatewayExecutionTracksStatus) : Bool :=
  isReleaseId status.activeRelease && status.standbyRelease.all isReleaseId && status.targetRelease.all isReleaseId &&
    status.error.all (·.length ≤ 4096) && status.controlProjectId.all isOpaqueId

def isDetail (detail : JsString) : Bool := 1 ≤ detail.length && detail.length ≤ maxDetail

def areOperations (operations : List JsString) : Bool :=
  operations.length ≤ 128 && operations.all fun operation => 1 ≤ operation.length && operation.length ≤ 128

/-- `gatewayUpdateStatusSchema` -/
def GatewayUpdateStatus.isValid (status : GatewayUpdateStatus) : Bool :=
  status.updateId.all isOpaqueId && status.releaseId.all isReleaseId && status.targetBuildId.all isOpaqueId &&
    status.currentBuildId.all isOpaqueId && status.previousReleaseId.all isReleaseId &&
    status.executionTracks.all GatewayExecutionTracksStatus.isValid && status.supportedOperations.all areOperations &&
    status.detail.all isDetail && status.maintenanceSessionId.all isOpaqueId

section

variable (executionBuildId : JsString → Option JsString) (executionControlProjectId : Option JsString)
  (status : GatewayUpdateStatus) (state : GatewayExecutionTracksState) (writtenAt : Option ℕ)

/-- The supervisor prepares a release that is none of the tracks. -/
def preparingAnother : Bool :=
  state.phase = .steady && status.releaseId ≠ some state.activeRelease && status.releaseId ≠ state.standbyRelease &&
    (status.phase = .staging || status.phase = .agentRequired || status.phase = .agentRunning ||
      status.phase = .agentValidating || status.phase = .staged)

def Phase.shown : Phase → GatewayUpdatePhase
  | steady => .committed
  | attention => .repairRequired
  | releasing => .scheduled
  | activating => .activating

def defaultDetail : JsString :=
  if state.forwardOnly then
    if state.phase = .steady then
      "Incompatible upgrade complete. Previous versions cannot read the new data; a verified local backup is retained."
    else
      "Incompatible upgrade: stopping writes, verifying a local backup, and upgrading the Host. Agent connectivity may be interrupted; use local recovery if needed."
  else if state.phase = .steady then
    "Selected version is active; conversations and results use the same current state."
  else "Execution is transferring between the retained versions."

def tracksStatus : GatewayExecutionTracksStatus where
  generation := state.generation
  activeRelease := state.activeRelease
  standbyRelease := state.standbyRelease
  phase := state.phase
  targetRelease := state.targetRelease
  error := (state.error.filter truthy).map (·.take 4096)
  controlProjectId := executionControlProjectId.filter truthy

/-- The response before it is parsed. The tracks were written last at `writtenAt`. -/
def shown : GatewayUpdateStatus :=
  let release := state.targetRelease.getD state.activeRelease
  let current := { status with currentBuildId := (executionBuildId state.activeRelease).or status.currentBuildId }
  let selected :=
    if preparingAnother status state then current
    else
      { current with
        activationMode := some (if state.forwardOnly then .forwardOnly else .rollbackSafe)
        phase := state.phase.shown
        releaseId := some release
        targetBuildId := (executionBuildId release).or status.targetBuildId
        previousReleaseId := state.standbyRelease
        detail := some (state.error.getD (defaultDetail state)) }
  { selected with
    updatedAt := max (writtenAt.getD 0) status.updatedAt
    executionTracks := some (tracksStatus executionControlProjectId state) }

def statusWithTracks : Option GatewayUpdateStatus :=
  let response := shown executionBuildId executionControlProjectId status state writtenAt
  if response.isValid then some response else none

/-- The end of the route that applies a release, after the selection has been scheduled: the response, and whether the
timer is armed that resumes the selection. -/
def respond : Option GatewayUpdateStatus × Bool :=
  match statusWithTracks executionBuildId executionControlProjectId status state writtenAt with
  | some response => (some response,true)
  | none => (none,false)

theorem respond_response : (respond executionBuildId executionControlProjectId status state writtenAt).1 =
    statusWithTracks executionBuildId executionControlProjectId status state writtenAt := by
  unfold respond
  split
  · next hresponse => exact hresponse.symm
  · next hresponse => exact hresponse.symm

theorem respond_armed : (respond executionBuildId executionControlProjectId status state writtenAt).2 =
    (statusWithTracks executionBuildId executionControlProjectId status state writtenAt).isSome := by
  unfold respond
  split
  · next hresponse => rw [hresponse,isSome_some]
  · next hresponse => rw [hresponse,isSome_none]

/-- What the schema asks of the two texts that nothing else bounds. -/
def Renders : Prop :=
  (∀ projectId,executionControlProjectId = some projectId → projectId.length ≤ 256) ∧
    (preparingAnother status state ∨ ∀ error,state.error = some error → 1 ≤ error.length ∧ error.length ≤ 4096)

end

theorem isDetail_defaultDetail (state : GatewayExecutionTracksState) : isDetail (defaultDetail state) := by
  unfold defaultDetail
  split
  · split <;> decide +kernel
  · split <;> decide

section

variable {executionBuildId : JsString → Option JsString} {executionControlProjectId : Option JsString}
  {status : GatewayUpdateStatus} {state : GatewayExecutionTracksState} {writtenAt : Option ℕ}
  {initial : GatewayExecutionTracksState}

theorem parses_iff : state.parses ↔ state.gatewayNodeId.truthy ∧ state.dataDirectory.truthy ∧
    isReleaseId state.activeRelease ∧ state.standbyRelease.all isReleaseId ∧
      state.targetRelease.all isReleaseId ∧ state.backupPath.all truthy := by
  simp only [GatewayExecutionTracksState.parses,Bool.and_eq_true,and_assoc]

theorem all_opaque_filter : (executionControlProjectId.filter truthy).all isOpaqueId ↔
      ∀ projectId, executionControlProjectId = some projectId → projectId.length ≤ 256 := by
  cases executionControlProjectId with
  | none =>
    refine iff_of_true rfl fun projectId h => ?_
    cases h
  | some projectId =>
    have hlength : isOpaqueId projectId ↔ 1 ≤ projectId.length ∧ projectId.length ≤ 256 := by
      rw [isOpaqueId,Bool.and_eq_true,decide_eq_true_iff,decide_eq_true_iff]
    by_cases htruthy : projectId.truthy
    · rw [filter_some_pos htruthy,all_some,hlength]
      have hpos := JsString.truthy_iff.mp htruthy
      constructor
      · intro h found hfound
        exact some.inj hfound ▸ h.2
      · intro h
        exact ⟨hpos,h projectId rfl⟩
    · rw [filter_some_neg (Bool.eq_false_iff.mpr htruthy)]
      have hzero : projectId.length = 0 := Nat.eq_zero_of_not_pos fun hpos => htruthy (JsString.truthy_iff.mpr hpos)
      refine iff_of_true rfl fun found hfound => ?_
      rw [← some.inj hfound,hzero]
      exact Nat.zero_le _

theorem isValid_tracksStatus (hstate : state.parses) : (tracksStatus executionControlProjectId state).isValid ↔
      ∀ projectId, executionControlProjectId = some projectId → projectId.length ≤ 256 := by
  obtain ⟨-,-,hactive,hstandby,htarget,-⟩ := parses_iff.mp hstate
  have herror : ((state.error.filter truthy).map (·.take 4096)).all
      (fun error => decide (error.length ≤ 4096)) := by
    cases state.error.filter truthy with
    | none => rfl
    | some error => exact decide_eq_true (JsString.length_take_le error 4096)
  rw [← all_opaque_filter]
  simp only [GatewayExecutionTracksStatus.isValid,tracksStatus,hactive,hstandby,htarget,herror,Bool.and_eq_true,
    true_and]

theorem isReleaseId_getD (hstate : state.parses) : isReleaseId (state.targetRelease.getD state.activeRelease) := by
  obtain ⟨-,-,hactive,-,htarget,-⟩ := parses_iff.mp hstate
  cases hname : state.targetRelease with
  | none => exact hactive
  | some target =>
    rw [hname] at htarget
    exact htarget

theorem all_opaque_or {buildId : Option JsString}
    (hbuilds : ∀ releaseId buildId,executionBuildId releaseId = some buildId → isOpaqueId buildId)
    (h : buildId.all isOpaqueId) (releaseId : JsString) : ((executionBuildId releaseId).or buildId).all isOpaqueId := by
  cases hbuild : executionBuildId releaseId with
  | none => exact h
  | some found => exact hbuilds releaseId found hbuild

theorem isDetail_getD_iff : isDetail (state.error.getD (defaultDetail state)) ↔
      ∀ error, state.error = some error → 1 ≤ error.length ∧ error.length ≤ 4096 := by
  cases state.error with
  | none =>
    refine iff_of_true (isDetail_defaultDetail state) fun error h => ?_
    cases h
  | some error =>
    rw [getD_some,isDetail,Bool.and_eq_true,decide_eq_true_iff,decide_eq_true_iff]
    constructor
    · intro h found hfound
      exact some.inj hfound ▸ h
    · intro h
      exact h error rfl

theorem isSome_statusWithTracks (hstate : state.parses) (hstatus : status.isValid)
    (hbuilds : ∀ releaseId buildId,executionBuildId releaseId = some buildId → isOpaqueId buildId) :
    (statusWithTracks executionBuildId executionControlProjectId status state writtenAt).isSome ↔
      Renders executionControlProjectId status state := by
  have hsome : (statusWithTracks executionBuildId executionControlProjectId status state writtenAt).isSome ↔
      (shown executionBuildId executionControlProjectId status state writtenAt).isValid := by
    rw [statusWithTracks]
    split
    · next hvalid => exact iff_of_true rfl hvalid
    · next hnot => exact iff_of_false Bool.false_ne_true hnot
  rw [hsome,Renders,← isValid_tracksStatus hstate,← isDetail_getD_iff]
  have hparts := hstatus
  simp only [GatewayUpdateStatus.isValid,Bool.and_eq_true] at hparts
  obtain ⟨⟨⟨⟨⟨⟨⟨⟨hupdateId,hreleaseId⟩,htargetBuild⟩,hcurrentBuild⟩,hprevious⟩,-⟩,hoperations⟩,hdetail⟩,
    hmaintenance⟩ := hparts
  obtain ⟨-,-,hactive,hstandby,-,-⟩ := parses_iff.mp hstate
  have hcurrent := all_opaque_or hbuilds hcurrentBuild state.activeRelease
  have htarget := all_opaque_or hbuilds htargetBuild (state.targetRelease.getD state.activeRelease)
  have hrelease := isReleaseId_getD hstate
  by_cases hpreparing : preparingAnother status state
  · have hshown : shown executionBuildId executionControlProjectId status state writtenAt =
        { status with
          currentBuildId := (executionBuildId state.activeRelease).or status.currentBuildId
          updatedAt := max (writtenAt.getD 0) status.updatedAt
          executionTracks := some (tracksStatus executionControlProjectId state) } := by
      simp only [shown,if_pos hpreparing]
    rw [hshown]
    simp only [GatewayUpdateStatus.isValid,hupdateId,hreleaseId,htargetBuild,hcurrent,hprevious,hoperations,
      hdetail,hmaintenance,all_some,Bool.and_true,Bool.true_and,hpreparing,true_or,and_true]
  · have hshown : shown executionBuildId executionControlProjectId status state writtenAt =
        { status with
          currentBuildId := (executionBuildId state.activeRelease).or status.currentBuildId
          activationMode := some (if state.forwardOnly then .forwardOnly else .rollbackSafe)
          phase := state.phase.shown
          releaseId := some (state.targetRelease.getD state.activeRelease)
          targetBuildId := (executionBuildId (state.targetRelease.getD state.activeRelease)).or status.targetBuildId
          previousReleaseId := state.standbyRelease
          detail := some (state.error.getD (defaultDetail state))
          updatedAt := max (writtenAt.getD 0) status.updatedAt
          executionTracks := some (tracksStatus executionControlProjectId state) } := by
      simp only [shown,if_neg hpreparing]
    rw [hshown]
    simp only [GatewayUpdateStatus.isValid,hupdateId,hrelease,htarget,hcurrent,hstandby,hoperations,hmaintenance,
      all_some,Bool.and_true,Bool.true_and,Bool.and_eq_true,hpreparing,Bool.false_eq_true,false_or]

end

/-- A text that may be recorded where the host throws the texts: one of them, or one of the tracks' own. -/
def Recordable (texts : JsString → Prop) (error : JsString) : Prop :=
  ∃ text, (texts text ∨ text ∈ ownTexts) ∧ (error = text ∨ error = unavailable text)

section

variable {initial state state' : GatewayExecutionTracksState} {texts : JsString → Prop} {log : List Event}
  {selects : JsString → GatewayExecutionTracksState → List Event → Prop} {schemaText : Refused → JsString}
  {path target : JsString}

theorem recordable_change (h : ∀ error,state.error = some error → Recordable texts error)
    (hchange : Change selects (fun text => texts text ∨ text ∈ ownTexts) state log state') :
    ∀ error, state'.error = some error → Recordable texts error := by
  intro error herror
  cases hchange with
  | select | finish | finishDefault => cases herror
  | backup | write | activate | startDefault => exact h error herror
  | fail thrown _ hthrown => exact ⟨thrown,hthrown,.inl (some.inj herror).symm⟩
  | standby recorded _ hthrown =>
    obtain ⟨thrown,hmay,heq⟩ := hthrown error herror
    exact ⟨thrown,hmay,.inr heq⟩

theorem Reaches.recordable {place : Program Unit × GatewayExecutionTracksState × List Event} (hstart : Start initial log)
    (h : Reaches schemaText initial (fun _ _ _ => True) texts log place) :
    Sound initial place.2.1 ∧ ∀ error, place.2.1.error = some error → Recordable texts error := by
  have hmore : Reaches schemaText initial (fun _ _ _ => True) (fun text => texts text ∨ text ∈ ownTexts) log place :=
    Runs.mono (fun _ _ _ _ hstep => ⟨fun text htext => .inl (hstep.1 text htext),hstep.2⟩) h
  have hmoving : Moving (hostStep fun text => texts text ∨ text ∈ ownTexts)
      (Move initial (fun _ _ _ => True) fun text => texts text ∨ text ∈ ownTexts)
      (fun moment => Sound initial moment.1 ∧ ∀ error,moment.1.error = some error → Recordable texts error)
      (.pure (),initial,log) := by
    refine ⟨trivial,hstart.sound,fun error herror => ?_⟩
    rw [hstart.error] at herror
    cases herror
  refine (hmoving.runs ?_ ?_ hmore).2.ready
  · rintro call state log ⟨hsound,-⟩ -
    exact makes_call (fun _ => .inr) hsound fun _ _ _ => trivial
  · rintro moment moment' ⟨hsound,hrecorded⟩ hmove
    refine ⟨hsound.move hmove,?_⟩
    cases hmove with
    | write _ hchange => exact recordable_change hrecorded hchange
    | idle | release | activate | backUp => exact hrecorded

/-- The start of the supervisor completes the selection that the file has, once the host does what it is asked. -/
def ResumesAtStart (schemaText : Refused → JsString) (initial state : GatewayExecutionTracksState) (log : List Event) :
    Prop :=
  state.phase ≠ .steady → ∀ path : JsString, path.truthy → ∃ target finished log',
    state.targetRelease = some target ∧
      run (agreeing path) (startDefault schemaText initial ⟨true,true⟩) state log = (.ok (),finished,log') ∧
      finished.phase = .steady ∧ finished.activeRelease = target

theorem Sound.resumesAtStart (h : Sound initial state) : ResumesAtStart schemaText initial state log := by
  intro hphase path hpath
  obtain ⟨target,htarget⟩ := ne_none_iff_exists'.mp (h.target hphase)
  have hfinishes : Finishes path target (complete schemaText initial ⟨true,true⟩ state) state log :=
    finishes_complete h hpath htarget
  obtain ⟨finished,log',hrun,hsteady,hactive⟩ := hfinishes
  refine ⟨target,finished,log',htarget,?_,hsteady,hactive⟩
  refine (run_status h.toValid _).trans ?_
  rw [if_neg hphase]
  refine (run_continue _ _ _ _ _).trans ?_
  rw [hrun]
  rfl

end

/-- In every run, on a host that throws any of the texts: the status is shown, and the timer that resumes a selection
is armed, exactly when the error in the file fits the schema. That error is one of the texts, and a supervisor that
starts again resumes the selection in the file. -/
theorem status_renders (schemaText : Refused → JsString) (initial : GatewayExecutionTracksState) (log : List Event)
    (texts : JsString → Prop) (place : Program Unit × GatewayExecutionTracksState × List Event)
    (executionBuildId : JsString → Option JsString) (executionControlProjectId : Option JsString)
    (status : GatewayUpdateStatus) (writtenAt : Option ℕ) (hstart : Start initial log)
    (h : Reaches schemaText initial (fun _ _ _ => True) texts log place) (hstatus : status.isValid = true)
    (hbuilds : ∀ releaseId buildId,executionBuildId releaseId = some buildId → isOpaqueId buildId = true) :
    ((respond executionBuildId executionControlProjectId status place.2.1 writtenAt).1.isSome = true ↔
        Renders executionControlProjectId status place.2.1) ∧
      ((respond executionBuildId executionControlProjectId status place.2.1 writtenAt).2 = true ↔
        Renders executionControlProjectId status place.2.1) ∧
      (∀ error,place.2.1.error = some error → Recordable texts error) ∧
      ResumesAtStart schemaText initial place.2.1 place.2.2 := by
  obtain ⟨hsound,hrecordable⟩ := h.recordable hstart
  have hiff : (statusWithTracks executionBuildId executionControlProjectId status place.2.1 writtenAt).isSome ↔
      Renders executionControlProjectId status place.2.1 := isSome_statusWithTracks hsound.parses hstatus hbuilds
  refine ⟨?_,?_,hrecordable,hsound.resumesAtStart⟩
  · rw [respond_response]
    exact hiff
  · rw [respond_armed]
    exact hiff

def sampleStatus : GatewayUpdateStatus := ⟨.idle,none,none,none,none,none,none,none,none,none,none,none,0⟩

theorem status_renders_sample :
    (respond (fun _ => none) none sampleStatus (afterCall (.select "b" 0) (sampleInitial,sampleLog)).1 none).1.isSome =
      true := by
  have hstart : Reaches sampleText sampleInitial (fun _ _ _ => True) (fun _ => True) sampleLog
      (.pure (),sampleInitial,sampleLog) := .refl
  obtain ⟨rest,hfailed⟩ := runs_afterCall hstart (.select "b" 0) trivial
  have hbuilds : ∀ releaseId buildId : JsString,(fun _ : JsString => (none : Option JsString)) releaseId = some buildId →
      isOpaqueId buildId := fun _ _ hbuild => by cases hbuild
  refine (status_renders sampleText sampleInitial sampleLog _ _ (fun _ => none) none sampleStatus none start_sample
    hfailed
    rfl hbuilds).1.mpr ⟨?_,.inr ?_⟩
  · intro projectId hproject
    cases hproject
  have herror : (afterCall (.select "b" 0) (sampleInitial,sampleLog)).1.error = some ("timed out" : JsString) := by
    decide
  intro error hrecorded
  rw [← some.inj (herror.symm.trans hrecorded)]
  decide

def silentFailure : Request → Option JsString
  | .activate _ _ _ => some ("" : JsString)
  | _ => none

def silentSwitch : GatewayExecutionTracksState × List Event :=
  (run (hostAnswer silentFailure "/backup") (Call.program sampleText sampleInitial (capable,.select "b" 0)) sampleInitial
    sampleLog).2

/-- The file is left in a state that no status is shown of. -/
theorem silent_failure_hides_status : ∃ place, Start sampleInitial sampleLog ∧
    Reaches sampleText sampleInitial (fun _ _ _ => True) (fun _ => True) sampleLog place ∧
      sampleStatus.isValid = true ∧ respond (fun _ => none) none sampleStatus place.2.1 none = (none,false) := by
  have hstart : Reaches sampleText sampleInitial (fun _ _ _ => True) (fun _ => True) sampleLog
      (.pure (),sampleInitial,sampleLog) := .refl
  have hanswer : ∀ (log : List Event) (request : Request),hostStep (fun _ => True) log request
      (hostAnswer silentFailure "/backup" log request).1 (hostAnswer silentFailure "/backup" log request).2 :=
    hostStep_hostAnswer (fun _ _ _ => trivial) "/backup"
  have hreached := Runs.run hanswer hstart (capable,.select "b" 0) trivial
  have hhidden : respond (fun _ => none) none sampleStatus silentSwitch.1 none = (none,false) := by decide
  exact ⟨_,start_sample,hreached,by decide,hhidden⟩

end Malink.Tracks
