import Malink.MaintenanceEnds

/-!
# Restarts and activations exclude each other

The process either goes on or is at rest, and at rest nothing is pending.
-/

namespace Malink.Supervisor.Maintenance

open DurableProgram Option
open Tracks (GatewayUpdatePhase ActivationMode)

/-- At most one restart or activation is pending or goes on. -/
structure Exclusive (supervisor : GatewayUpdateSupervisor) : Prop where
  pending : ¬ (supervisor.disk.restartPending ∧ supervisor.disk.updatePending)
  restart : supervisor.restarts → supervisor.disk.restartPending
  activation : supervisor.process.live → supervisor.disk.updatePending
  one : supervisor.process.activations.length + supervisor.process.activationTimer.toNat ≤ 1

variable {catalog : List StateEntry} {releasesRoot : JsString} {executionTracksEnabled : Bool}
  {supervisor supervisor' : GatewayUpdateSupervisor}

theorem Sound.exclusive (h : Sound catalog executionTracksEnabled supervisor) : Exclusive supervisor where
  pending := h.behaves.consistent.exclusive
  restart hrestarts := by
    have hsame : ChainRelies (supervisor.disk,supervisor.process) (supervisor.disk,supervisor.process) :=
      ⟨rfl,fun _ => rfl,fun hlive => ⟨rfl,hlive⟩,id,id⟩
    rcases hrestarts with ⟨rest,hrunning⟩ | ⟨startedAt,rest,hrunning⟩
    · exact ((h.running _ hrunning).2 _ _ hsame).1
    · exact ((h.running _ hrunning).2 _ _ hsame).1
  activation := h.behaves.pending
  one := by
    cases harmed : supervisor.process.activationTimer with
    | true =>
      have hnone : supervisor.process.activations = [] := (h.behaves.timer harmed).2
      simp [hnone]
    | false =>
      obtain hnone | ⟨task,hone,-⟩ := h.behaves.activations
      · have hnone : supervisor.process.activations = [] := hnone
        simp [hnone]
      · have hone : supervisor.process.activations = [task] := hone
        simp [hone]

/-- At rest nothing is pending, unless the file could not be written. -/
theorem Sound.settled (h : Sound catalog false supervisor) (hrest : supervisor.AtRest)
    (hbroken : supervisor.process.broken = false) :
      ¬ supervisor.disk.restartPending ∧ ¬ supervisor.disk.updatePending := by
  obtain hbroken' | ⟨hscheduled,hrestarting,hupdate⟩ := h.idle hrest.running rfl
  · cases hbroken.symm.trans hbroken'
  have hdue : ¬ supervisor.process.restartDue := by
    simp [Process.restartDue,hrest.restartTimer,hrest.waiting]
  have hlive : ¬ supervisor.process.live := by
    simp [Process.live,hrest.activationTimer,hrest.activations]
  refine ⟨fun hpending => ?_,fun hpending => hlive (hupdate hpending)⟩
  cases hphase : supervisor.disk.restart.phase with
  | scheduled => exact hdue (hscheduled hphase)
  | restarting => exact hrestarting hphase
  | idle | waitingForIdle | ready | failed =>
    rw [MaintenanceState.restartPending,hphase] at hpending
    cases hpending

/-- At every moment of every run: one restart or activation at most, and the file changes by the law. What the process
does by itself ends, with nothing pending. -/
theorem maintenance_excludes (catalog : List StateEntry) (releasesRoot : JsString) (executionTracksEnabled : Bool)
    (supervisor : GatewayUpdateSupervisor) (h : Reached catalog releasesRoot executionTracksEnabled supervisor) :
    Exclusive supervisor ∧
      (∀ supervisor',Step catalog releasesRoot executionTracksEnabled supervisor supervisor' →
        Relation.ReflTransGen Lawful supervisor.disk supervisor'.disk) ∧
      Acc (fun later earlier => GoesOn catalog releasesRoot executionTracksEnabled earlier later) supervisor ∧
      (supervisor.serving = true → ¬ supervisor.AtRest →
        ∃ supervisor',GoesOn catalog releasesRoot executionTracksEnabled supervisor supervisor') ∧
      (executionTracksEnabled = false → supervisor.AtRest → supervisor.process.broken = false →
        ¬ supervisor.disk.restartPending ∧ ¬ supervisor.disk.updatePending) := by
  have hsound := h.sound
  refine ⟨hsound.exclusive,fun supervisor' hstep => (sound_step hsound hstep).2,goesOn_ends supervisor,
    exists_goesOn hsound,?_⟩
  rintro rfl hrest hbroken
  exact hsound.settled hrest hbroken

/-- What is done next. A request that fails is answered with an error. -/
inductive Action
  | request (call : MaintenanceCall)
  | next
  | answer (fails : Bool)
  | restartTimer
  | activationTimer
  | activation (fails : Bool)

def sampleReply (fails : Bool) : (request : MaintenanceRequest) → Except JsString (MaintenanceRequest.Reply request)
  | .inr (.armActivation _) | .inr (.armRestart _) => .ok ()
  | .inl (.inspect _ _) => if fails then .error "failed" else .ok ⟨some ("/releases/r1" : JsString),false⟩
  | .inl .backUp => if fails then .error "failed" else .ok ("/backup" : JsString)
  | .inr .readCurrentLink => if fails then .error "failed" else .ok (("/releases/r1" : JsString),("r1" : JsString))
  | .inr .installedBuildId => if fails then .error "failed" else .ok (some ("b1" : JsString))
  | .inl (.stop _) | .inl (.writePlist _) | .inl (.replaceSymlink _ _) | .inl (.removeLink _) | .inl (.restart _ _)
  | .inl (.waitForHealth _ _) | .inl (.verifyProbation _ _) | .inl (.persist _) | .inr .persist
  | .inr (.verifyStaged _) | .inr .restartGateway | .inr (.waitForRestartHealth _) =>
    if fails then .error "failed" else .ok ()

def answered (process : Process) (fails : Bool) : MaintenanceRequest → Process
  | .inr (.armActivation _) => { process with activationTimer := true }
  | .inr (.armRestart _) => { process with restartTimer := true }
  | .inr .persist | .inl (.persist _) => if fails then { process with broken := true } else process
  | _ => process

theorem answers_sampleReply (process : Process) (fails : Bool) (request : MaintenanceRequest) :
    answers process request (sampleReply fails request) (answered process fails request) := by
  cases request with
  | inl request => cases request <;> cases fails <;> rfl
  | inr request => cases request <;> cases fails <;> rfl

def play (catalog : List StateEntry) (releasesRoot : JsString) (executionTracksEnabled : Bool)
    (supervisor : GatewayUpdateSupervisor) : Action → Option GatewayUpdateSupervisor
  | .request call =>
    if supervisor.serving ∧ call.isRequest then
      some { supervisor with process := { supervisor.process with waiting := supervisor.process.waiting ++ [call] } }
    else none
  | .next =>
    match supervisor.running, supervisor.process.waiting with
    | none, call :: waiting =>
      if supervisor.serving then
        some ({ supervisor with process := { supervisor.process with waiting } }.goOn
          (call.program catalog executionTracksEnabled))
      else none
    | _, _ => none
  | .answer fails =>
    match supervisor.running with
    | some (.ask request rest) =>
      some ({ supervisor with process := answered supervisor.process fails request }.goOn
        (rest (sampleReply fails request)))
    | _ => none
  | .restartTimer =>
    if supervisor.process.restartTimer then
      some { supervisor with
        process := { supervisor.process with
          restartTimer := false
          waiting := supervisor.process.waiting ++ [.performScheduledRestart 0 0] } }
    else none
  | .activationTimer =>
    if supervisor.process.activationTimer then
      some { supervisor with
        disk := ((activationTask catalog releasesRoot).advance supervisor.disk).2
        process := { supervisor.process with
          activationTimer := false
          activations := supervisor.process.activations ++
            unfinished ((activationTask catalog releasesRoot).advance supervisor.disk).1 } }
    else none
  | .activation fails =>
    match supervisor.process.activations with
    | .ask request rest :: after =>
      some { supervisor with
        disk := ((rest (sampleReply fails request)).advance supervisor.disk).2
        process := { answered supervisor.process fails request with
          activations := [] ++ unfinished ((rest (sampleReply fails request)).advance supervisor.disk).1 ++ after } }
    | _ => none

theorem step_play {action : Action}
    (h : play catalog releasesRoot executionTracksEnabled supervisor action = some supervisor') :
    Step catalog releasesRoot executionTracksEnabled supervisor supervisor' := by
  cases action with
  | request call =>
    obtain ⟨⟨hserving,hrequest⟩,hsome⟩ := ite_none_right_eq_some.mp h
    obtain rfl := some.inj hsome
    exact .request call hserving hrequest
  | next =>
    simp only [play] at h
    split at h
    · next call waiting hidle hwaiting =>
      obtain ⟨hserving,hsome⟩ := ite_none_right_eq_some.mp h
      obtain rfl := some.inj hsome
      exact .goesOn (.next hidle hserving hwaiting)
    · cases h
  | answer fails =>
    simp only [play] at h
    split at h
    · next request rest hrunning =>
      obtain rfl := some.inj h
      exact .goesOn (.answer hrunning (answers_sampleReply _ _ _))
    · cases h
  | restartTimer =>
    obtain ⟨harmed,hsome⟩ := ite_none_right_eq_some.mp h
    obtain rfl := some.inj hsome
    exact .goesOn (.restartTimer 0 0 harmed)
  | activationTimer =>
    obtain ⟨harmed,hsome⟩ := ite_none_right_eq_some.mp h
    obtain rfl := some.inj hsome
    exact .goesOn (.activationTimer harmed)
  | activation fails =>
    simp only [play] at h
    split at h
    · next request rest after hactivations =>
      obtain rfl := some.inj h
      exact .goesOn (.activation hactivations (answers_sampleReply _ _ _))
    · cases h

def playAll (catalog : List StateEntry) (releasesRoot : JsString) (executionTracksEnabled : Bool)
    (supervisor : GatewayUpdateSupervisor) (actions : List Action) : Option GatewayUpdateSupervisor :=
  actions.foldlM (play catalog releasesRoot executionTracksEnabled) supervisor

theorem steps_playAll {actions : List Action}
    (h : playAll catalog releasesRoot executionTracksEnabled supervisor actions = some supervisor') :
    Relation.ReflTransGen (Step catalog releasesRoot executionTracksEnabled) supervisor supervisor' := by
  induction actions generalizing supervisor with
  | nil =>
    obtain rfl := some.inj h
    exact .refl
  | cons action actions ih =>
    obtain ⟨between,hplay,hrest⟩ := bind_eq_some_iff.mp h
    exact .head (step_play hplay) (ih hrest)

def stagedState : MaintenanceState where
  update :=
    { phase := .staged
      statusMode := some .forwardOnly
      detail := none
      releaseId := some ("r2" : JsString)
      targetBuildId := some ("b2" : JsString)
      currentBuildId := some ("b1" : JsString)
      previousReleaseId := none
      target := some ⟨"r2","b2",[]⟩
      previousTarget := none
      scheduledAt := none
      activationMode := none
      forwardOnlyBackupPath := none }
  installable := true
  restart := idleRestartStatus

def startedSupervisor : GatewayUpdateSupervisor :=
  GatewayUpdateSupervisor.goOn ⟨stagedState,startedProcess,false,none⟩ (startSupervisor [] false 0)

theorem consistent_stagedState : Consistent [] stagedState where
  exclusive h := absurd h.1 (by decide)
  fit := ⟨fun h => absurd h (by decide),fun h => absurd h (by decide),fun h => absurd h (by decide)⟩
  restartFit := ⟨fun h => absurd h (by decide),fun h => absurd h (by decide)⟩

theorem reached_startedSupervisor : Reached [] "/releases" false startedSupervisor := .start consistent_stagedState 0

/-- The release is scheduled, and then it is activated up to the moment before the backup. -/
def applyActions : List Action :=
  [.request (.scheduleApply "r2" true 0),.next,.answer false,.answer false,.answer false,.answer false,.answer false,
    .activationTimer,.activation false,.activation false,.activation false]

/-- The backup fails. The Gateway that has not changed starts again, and the outcome is written. -/
def backupFails : List Action := [.activation true,.activation false,.activation false]

def restartActions : List Action :=
  [.request (.scheduleRestart .force "restart" 0 5),.next,.answer false,.answer false,.restartTimer,.next,.answer false]

def restartEnds : List Action := [.answer false,.answer false,.answer false]

/-- What one sees of a supervisor: the two phases, and how much goes on. -/
def look (supervisor : GatewayUpdateSupervisor) : (GatewayUpdatePhase × GatewayRestartPhase) × ℕ × Bool :=
  ((supervisor.disk.update.phase,supervisor.disk.restart.phase),supervisor.process.activations.length,
    supervisor.running.isSome)

def twice (actions between : List Action) :
    Option (List ((GatewayUpdatePhase × GatewayRestartPhase) × ℕ × Bool)) := do
  let first ← playAll [] "/releases" false startedSupervisor actions
  let second ← playAll [] "/releases" false first between
  let third ← playAll [] "/releases" false second actions
  return [look first,look second,look third]

theorem reached_playAll {actions : List Action}
    (hreached : Reached catalog releasesRoot executionTracksEnabled supervisor)
    (h : playAll catalog releasesRoot executionTracksEnabled supervisor actions = some supervisor') :
    Reached catalog releasesRoot executionTracksEnabled supervisor' :=
  (steps_playAll h).head_induction_on (motive := fun earlier _ =>
    Reached catalog releasesRoot executionTracksEnabled earlier →
      Reached catalog releasesRoot executionTracksEnabled supervisor')
    id (fun hstep _ ih hearlier => ih (.step hearlier hstep)) hreached

/-- The activation and the restart after it, and the supervisor when both have ended. -/
theorem maintenance_excludes_sample : ∃ activating restarting rested : GatewayUpdateSupervisor,
    playAll [] "/releases" false startedSupervisor applyActions = some activating ∧
    playAll [] "/releases" false activating (backupFails ++ restartActions) = some restarting ∧
    playAll [] "/releases" false restarting restartEnds = some rested ∧
    look activating = ((.activating,.idle),1,false) ∧ Exclusive activating ∧
    look restarting = ((.staged,.restarting),0,true) ∧ Exclusive restarting ∧
    look rested = ((.staged,.ready),0,false) ∧ ¬ rested.disk.restartPending ∧ ¬ rested.disk.updatePending := by
  have hlooks : (do
      let activating ← playAll [] "/releases" false startedSupervisor applyActions
      let restarting ← playAll [] "/releases" false activating (backupFails ++ restartActions)
      let rested ← playAll [] "/releases" false restarting restartEnds
      return ([look activating,look restarting,look rested],rested.process.restartTimer,
        rested.process.activationTimer,rested.process.waiting.isEmpty,rested.process.broken)) =
    some ([((.activating,.idle),1,false),((.staged,.restarting),0,true),((.staged,.ready),0,false)],
      false,false,true,false) := by decide +kernel
  obtain ⟨activating,hactivating,hrest⟩ := bind_eq_some_iff.mp hlooks
  obtain ⟨restarting,hrestarting,hrest⟩ := bind_eq_some_iff.mp hrest
  obtain ⟨rested,hrested,hseen⟩ := bind_eq_some_iff.mp hrest
  obtain ⟨hlooks,hquiet⟩ := Prod.mk.inj (some.inj hseen)
  simp only [List.cons.injEq,and_true] at hlooks
  simp only [Prod.mk.injEq,List.isEmpty_iff] at hquiet
  obtain ⟨hfirst,hsecond,hthird⟩ := hlooks
  obtain ⟨hrestartTimer,hactivationTimer,hwaiting,hbroken⟩ := hquiet
  have hreached := reached_playAll reached_startedSupervisor hactivating
  have hreached' := reached_playAll hreached hrestarting
  have hended : rested.process.activations.length = 0 ∧ rested.running.isSome = false :=
    Prod.mk.inj (Prod.mk.inj hthird).2
  have hatRest : rested.AtRest :=
    { running := Option.isSome_eq_false_iff.mp hended.2 |> isNone_iff_eq_none.mp
      waiting := hwaiting
      activations := List.length_eq_zero_iff.mp hended.1
      activationTimer := hactivationTimer
      restartTimer := hrestartTimer }
  have hsettled := (maintenance_excludes _ _ _ _ (reached_playAll hreached' hrested)).2.2.2.2 rfl hatRest hbroken
  exact ⟨activating,restarting,rested,hactivating,hrestarting,hrested,hfirst,
    (maintenance_excludes _ _ _ _ hreached).1,hsecond,(maintenance_excludes _ _ _ _ hreached').1,hthird,hsettled⟩

theorem runs_of_twice {actions between : List Action}
    {seen amid seen' : (GatewayUpdatePhase × GatewayRestartPhase) × ℕ × Bool}
    (h : twice actions between = some [seen,amid,seen']) : ∃ first second third : GatewayUpdateSupervisor,
      Relation.ReflTransGen (Step [] "/releases" false) startedSupervisor first ∧
      Relation.ReflTransGen (Step [] "/releases" false) first second ∧
      Relation.ReflTransGen (Step [] "/releases" false) second third ∧
      playAll [] "/releases" false startedSupervisor actions = some first ∧
      playAll [] "/releases" false second actions = some third ∧
      look first = seen ∧ look second = amid ∧ look third = seen' := by
  obtain ⟨first,hfirst,hrest⟩ := bind_eq_some_iff.mp h
  obtain ⟨second,hsecond,hrest⟩ := bind_eq_some_iff.mp hrest
  obtain ⟨third,hthird,hseen⟩ := bind_eq_some_iff.mp hrest
  simp only [pure_def,some.injEq,List.cons.injEq,and_true] at hseen
  exact ⟨first,second,third,steps_playAll hfirst,steps_playAll hsecond,steps_playAll hthird,hfirst,hthird,hseen⟩

/-- The same request for an activation leads to a second one, after the first one has ended as `staged`, and the same
request for a restart to a second one, after the first one has ended as `ready`. -/
theorem repeated_requests_run_again : (∃ first second third : GatewayUpdateSupervisor,
      Relation.ReflTransGen (Step [] "/releases" false) first second ∧
      Relation.ReflTransGen (Step [] "/releases" false) second third ∧
      playAll [] "/releases" false startedSupervisor applyActions = some first ∧
      playAll [] "/releases" false second applyActions = some third ∧
      look first = ((.activating,.idle),1,false) ∧ look second = ((.staged,.idle),0,false) ∧
      look third = ((.activating,.idle),1,false)) ∧ (∃ first second third : GatewayUpdateSupervisor,
      Relation.ReflTransGen (Step [] "/releases" false) first second ∧
      Relation.ReflTransGen (Step [] "/releases" false) second third ∧
      playAll [] "/releases" false startedSupervisor restartActions = some first ∧
      playAll [] "/releases" false second restartActions = some third ∧
      look first = ((.staged,.restarting),0,true) ∧ look second = ((.staged,.ready),0,false) ∧
      look third = ((.staged,.restarting),0,true)) := by
  have happly : twice applyActions backupFails = some [((.activating,.idle),1,false),((.staged,.idle),0,false),
      ((.activating,.idle),1,false)] := by decide +kernel
  have hrestart : twice restartActions restartEnds = some [((.staged,.restarting),0,true),((.staged,.ready),0,false),
      ((.staged,.restarting),0,true)] := by decide
  constructor
  · obtain ⟨first,second,third,-,hruns⟩ := runs_of_twice happly
    exact ⟨first,second,third,hruns⟩
  · obtain ⟨first,second,third,-,hruns⟩ := runs_of_twice hrestart
    exact ⟨first,second,third,hruns⟩

end Malink.Supervisor.Maintenance
