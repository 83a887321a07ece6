import Malink.MaintenanceRequests

/-!
# What maintenance keeps

A restart and an activation are never pending at once, and one task is in charge of what is pending.
-/

namespace Malink.Supervisor.Maintenance

open DurableProgram
open Tracks (GatewayUpdatePhase ActivationMode)

def MaintenanceState.restartPending (state : MaintenanceState) : Prop := state.restart.phase.pending = true

def MaintenanceState.updatePending (state : MaintenanceState) : Prop :=
  Maintenance.updatePending state.update.phase = true

instance (state : MaintenanceState) : Decidable state.restartPending := inferInstanceAs (Decidable (_ = _))

instance (state : MaintenanceState) : Decidable state.updatePending := inferInstanceAs (Decidable (_ = _))

/-- An activation has ended. -/
def isOutcome : GatewayUpdatePhase → Bool
  | .committed | .rolledBack | .staged | .repairRequired => true
  | _ => false

theorem isOutcome_not_pending {phase : GatewayUpdatePhase} (h : isOutcome phase) : updatePending phase = false := by
  cases phase <;> first | rfl | cases h

def Process.live (process : Process) : Prop := process.activationTimer = true ∨ process.activations ≠ []

def Process.restartDue (process : Process) : Prop :=
  process.restartTimer = true ∨ ∃ startedAt completedAt, .performScheduledRestart startedAt completedAt ∈ process.waiting

section

variable (catalog : List StateEntry)

/-- An activation that is pending can be carried out. -/
structure Fit (update : SupervisorState) : Prop where
  target : Maintenance.updatePending update.phase → ∃ target, update.target = some target
  mode : Maintenance.updatePending update.phase → ∃ mode, activationModeForState catalog update = .ok mode
  scheduledAt : update.phase = .scheduled → ∃ scheduledAt, update.scheduledAt = some scheduledAt

/-- A restart that is scheduled can be carried out. -/
structure RestartFit (restart : GatewayRestartStatus) : Prop where
  restartId : restart.phase.pending → ∃ restartId, restart.restartId = some restartId
  scheduledAt : restart.phase = .scheduled → ∃ scheduledAt, restart.scheduledAt = some scheduledAt

structure Consistent (state : MaintenanceState) : Prop where
  exclusive : ¬ (state.restartPending ∧ state.updatePending)
  fit : Fit catalog state.update
  restartFit : RestartFit state.restart

/-- What one write of the state file may do. What is pending stays the same until it ends, and nothing new begins
before that. -/
structure Lawful (state state' : MaintenanceState) : Prop where
  restart : state.restartPending → state'.restart.restartId = state.restart.restartId ∧
    (state'.restartPending ∨ state'.restart.phase = .ready ∨ state'.restart.phase = .failed)
  update : state.updatePending →
    (state'.updatePending ∧ state'.update.releaseId = state.update.releaseId) ∨ isOutcome state'.update.phase
  newRestart : ¬ state.restartPending → state'.restartPending → ¬ state.updatePending
  newUpdate : ¬ state.updatePending → state'.updatePending → state.update.phase = .staged ∧ ¬ state.restartPending

theorem lawful_refl (state : MaintenanceState) : Lawful state state where
  restart h := ⟨rfl,.inl h⟩
  update h := .inl ⟨h,rfl⟩
  newRestart h h' := absurd h' h
  newUpdate h h' := absurd h' h

/-- An activation that has been started finds its part of the state as it has left it. -/
structure ActivationRelies (moment moment' : MaintenanceState × Process) : Prop where
  update : moment'.1.update = moment.1.update
  broken : moment.2.broken → moment'.2.broken

structure ActivationKeeps (moment moment' : MaintenanceState × Process) : Prop where
  pending : moment.1.updatePending
  restart : moment'.1.restart = moment.1.restart
  update : (moment'.1.updatePending ∧ moment'.1.update.releaseId = moment.1.update.releaseId) ∨
    isOutcome moment'.1.update.phase
  fit : Fit catalog moment.1.update → Fit catalog moment'.1.update
  activationTimer : moment'.2.activationTimer = moment.2.activationTimer
  restartTimer : moment'.2.restartTimer = moment.2.restartTimer
  waiting : moment'.2.waiting = moment.2.waiting
  activations : moment'.2.activations = moment.2.activations
  broken : moment.2.broken → moment'.2.broken

structure ChainRelies (moment moment' : MaintenanceState × Process) : Prop where
  restart : moment'.1.restart = moment.1.restart
  idle : ¬ moment.1.updatePending → moment'.1.update = moment.1.update
  notLive : ¬ moment.2.live → moment'.1.update = moment.1.update ∧ ¬ moment'.2.live
  restartDue : moment.2.restartDue → moment'.2.restartDue
  broken : moment.2.broken → moment'.2.broken

structure ChainKeeps (moment moment' : MaintenanceState × Process) : Prop where
  consistent : Consistent catalog moment.1 → Consistent catalog moment'.1
  lawful : Lawful moment.1 moment'.1
  live : moment.2.live → moment'.1.update = moment.1.update
  activationTimer : moment'.2.activationTimer → moment.2.activationTimer ∨
    ¬ moment.2.live ∧ moment'.1.update.phase = .scheduled
  timerStays : moment.2.activationTimer → moment'.2.activationTimer
  activations : moment'.2.activations = moment.2.activations
  broken : moment.2.broken → moment'.2.broken

/-- A restart of the Gateway is made, or waited for, only while it is recorded. -/
def restartAllowed : MaintenanceRequest → MaintenanceState → Process → Prop
  | .inr .restartGateway, state, _ | .inr (.waitForRestartHealth _), state, _ => state.restartPending
  | _, _, _ => True

/-- Somebody is in charge of what is pending, unless a write has thrown. -/
def Owed (state : MaintenanceState) (process : Process) : Prop :=
  process.broken = true ∨ ((state.restart.phase = .scheduled → process.restartDue) ∧
    state.restart.phase ≠ .restarting ∧ (state.updatePending → process.live))

/-- A task of an activation. At its end nothing is pending, unless a write has thrown. -/
abbrev Activates {α : Type} (post : Except JsString α → MaintenanceState → Process → Prop) :
    Task α → MaintenanceState → Process → Prop :=
  Guarded answers ActivationRelies (ActivationKeeps catalog) (fun _ state _ => state.updatePending) post

/-- A task of the chain. -/
abbrev Serves {α : Type} (post : Except JsString α → MaintenanceState → Process → Prop) :
    Task α → MaintenanceState → Process → Prop :=
  Guarded answers ChainRelies (ChainKeeps catalog) restartAllowed post

end

variable {catalog : List StateEntry} {moment moment' moment'' : MaintenanceState × Process}

theorem ActivationRelies.trans (h : ActivationRelies moment moment') (h' : ActivationRelies moment' moment'') :
    ActivationRelies moment moment'' :=
  ⟨h'.update.trans h.update,fun hbroken => h'.broken (h.broken hbroken)⟩

theorem ChainRelies.trans (h : ChainRelies moment moment') (h' : ChainRelies moment' moment'') :
    ChainRelies moment moment'' where
  restart := h'.restart.trans h.restart
  idle hidle := by
    have hupdate := h.idle hidle
    refine (h'.idle ?_).trans hupdate
    rwa [MaintenanceState.updatePending,hupdate]
  notLive hlive := by
    obtain ⟨hupdate,hlive'⟩ := h.notLive hlive
    obtain ⟨hupdate',hlive''⟩ := h'.notLive hlive'
    exact ⟨hupdate'.trans hupdate,hlive''⟩
  restartDue hdue := h'.restartDue (h.restartDue hdue)
  broken hbroken := h'.broken (h.broken hbroken)

variable {process : Process} {update : SupervisorState} {place : Place}
  {change : SupervisorState → SupervisorState} {state : MaintenanceState} {releasesRoot : JsString}

theorem answers_broken {process' : Process} {request : MaintenanceRequest}
    {reply : Except JsString (MaintenanceRequest.Reply request)} (h : answers process request reply process')
    (hbroken : process.broken) : process'.broken := by
  unfold answers at h
  split at h
  all_goals first | exact absurd h id | (subst h; first | exact hbroken | rfl)

structure Begun (catalog : List StateEntry) (update : SupervisorState) : Prop where
  phase : update.phase = .activating ∨ update.phase = .probation
  target : ∃ target, update.target = some target
  mode : ∃ mode, activationModeForState catalog update = .ok mode

theorem Begun.pending (h : Begun catalog update) : updatePending update.phase := by
  rcases h.phase with hphase | hphase
  · rw [hphase]
    rfl
  · rw [hphase]
    rfl

theorem Begun.fit (h : Begun catalog update) : Fit catalog update where
  target _ := h.target
  mode _ := h.mode
  scheduledAt hphase := by
    rcases h.phase with hphase' | hphase'
    · cases hphase.symm.trans hphase'
    · cases hphase.symm.trans hphase'

theorem fit_of_outcome (h : isOutcome update.phase) : Fit catalog update where
  target hpending := absurd hpending (by simp [isOutcome_not_pending h])
  mode hpending := absurd hpending (by simp [isOutcome_not_pending h])
  scheduledAt hphase := by
    rw [hphase] at h
    cases h

theorem isOutcome_reported (mode : ActivationMode) (error : JsString) (update : SupervisorState) :
    isOutcome (reported mode error update).phase := by
  unfold reported
  dsimp only
  split
  · rfl
  · split
    · rfl
    · rfl

/-- A task that may carry an activation on, as the invariant says. -/
structure Carries (catalog : List StateEntry)
    (rely guarantee : MaintenanceState × Process → MaintenanceState × Process → Prop)
    (allowed : MaintenanceRequest → MaintenanceState → Process → Prop)
    (invariant ended : MaintenanceState → Process → Prop) : Prop where
  begun : ∀ state process, invariant state process → Begun catalog state.update
  stable : ∀ state process state' process', invariant state process → rely (state,process) (state',process') →
    invariant state' process'
  allowed : ∀ state process (request : Request), invariant state process → allowed (.inl request) state process
  ask : ∀ state process (request : Request) reply process', invariant state process →
    answers process (.inl request) reply process' →
      guarantee (state,process) (state,process') ∧ invariant state process'
  write : ∀ state process update, invariant state process → Begun catalog update →
    update.releaseId = state.update.releaseId →
      guarantee (state,process) (state.putUpdate update,process) ∧ invariant (state.putUpdate update) process
  outcome : ∀ state process update, invariant state process → isOutcome update.phase →
    guarantee (state,process) (state.putUpdate update,process) ∧ ended (state.putUpdate update) process
  broken : ∀ state process, invariant state process → process.broken → ended state process

section

variable {rely guarantee : MaintenanceState × Process → MaintenanceState × Process → Prop}
  {allowed : MaintenanceRequest → MaintenanceState → Process → Prop}
  {invariant ended : MaintenanceState → Process → Prop} {α β : Type}

/-- A part of an activation that does not end it. -/
abbrev Harmless (rely guarantee : MaintenanceState × Process → MaintenanceState × Process → Prop)
    (allowed : MaintenanceRequest → MaintenanceState → Process → Prop) (invariant : MaintenanceState → Process → Prop)
    (program : Program α) : Prop :=
  Keeping answers rely guarantee allowed invariant (onUpdate program)

variable {program : Program α}

theorem harmless_continue {next : Except JsString α → Program β} (h : Harmless rely guarantee allowed invariant program)
    (hnext : ∀ result,Harmless rely guarantee allowed invariant (next result)) :
    Harmless rely guarantee allowed invariant (program.continue_ next) := by
  unfold Harmless onUpdate
  rw [embed_continue]
  exact keeping_continue h hnext

theorem harmless_bind {next : α → Program β} (h : Harmless rely guarantee allowed invariant program)
    (hnext : ∀ value,Harmless rely guarantee allowed invariant (next value)) :
    Harmless rely guarantee allowed invariant (program >>= next) := by
  unfold Harmless onUpdate
  rw [embed_bind]
  exact keeping_bind h hnext

theorem harmless_handle {handler : JsString → Program α} (h : Harmless rely guarantee allowed invariant program)
    (hhandler : ∀ error,Harmless rely guarantee allowed invariant (handler error)) :
    Harmless rely guarantee allowed invariant (program.handle handler) := by
  refine harmless_continue h fun result => ?_
  cases result with
  | ok value => exact keeping_pure value
  | error error => exact hhandler error

theorem harmless_whenReload {reloadLaunchAgent : Bool} {program : Program Unit}
    (hprogram : Harmless rely guarantee allowed invariant program) :
    Harmless rely guarantee allowed invariant (whenReload reloadLaunchAgent program) := by
  unfold whenReload
  split
  · exact hprogram
  · exact keeping_pure ()

variable (h : Carries catalog rely guarantee allowed invariant ended)

include h

theorem harmless_perform (request : Request) : Harmless rely guarantee allowed invariant (perform request) := by
  unfold Harmless onUpdate
  rw [embed_perform]
  intro state process hinvariant
  refine guarded_perform.mpr fun state' process' hrely => ?_
  have hinvariant' := h.stable _ _ _ _ hinvariant hrely
  exact ⟨h.allowed _ _ request hinvariant',fun reply process'' hanswer =>
    h.ask _ _ request reply _ hinvariant' hanswer⟩

theorem harmless_writeStatus (hchange : ∀ update,Begun catalog update → Begun catalog (change update) ∧
      (change update).releaseId = update.releaseId) :
    Harmless rely guarantee allowed invariant (writeStatus place change) := by
  refine harmless_bind (harmless_perform h _) fun _ state process hinvariant => ?_
  obtain ⟨hbegun,hrelease⟩ := hchange _ (h.begun _ _ hinvariant)
  exact h.write _ _ _ hinvariant hbegun hrelease

theorem harmless_backUpState (state : SupervisorState) :
    Harmless rely guarantee allowed invariant (backUpState state) := by
  unfold backUpState
  split
  · exact harmless_bind (keeping_throw _) fun _ => harmless_bind (harmless_perform h _) fun _ =>
      harmless_writeStatus h fun _ hbegun => ⟨⟨hbegun.phase,hbegun.target,hbegun.mode⟩,rfl⟩
  · exact harmless_bind (harmless_perform h _) fun _ =>
      harmless_writeStatus h fun _ hbegun => ⟨⟨hbegun.phase,hbegun.target,hbegun.mode⟩,rfl⟩

theorem harmless_recordProbation : Harmless rely guarantee allowed invariant recordProbation :=
  harmless_writeStatus h fun _ hbegun => ⟨⟨.inr rfl,hbegun.target,hbegun.mode⟩,rfl⟩

variable {at_ : Place → Place} {options : ReleaseOptions} {found : Found} {onGatewayStopped onActivated : Program Unit}

theorem harmless_startTarget (hactivated : Harmless rely guarantee allowed invariant onActivated) :
    Harmless rely guarantee allowed invariant (startTarget at_ options found onActivated) :=
  harmless_bind (harmless_perform h _) fun _ => harmless_bind (harmless_perform h _) fun _ =>
    harmless_bind hactivated fun _ => harmless_perform h _

theorem harmless_rollBack : Harmless rely guarantee allowed invariant (rollBack at_ options found) := by
  refine harmless_bind ?_ fun _ => harmless_bind (harmless_whenReload (harmless_perform h _)) fun _ =>
    harmless_bind (harmless_perform h _) fun _ => harmless_perform h _
  cases found.previousTarget with
  | none | some => exact harmless_perform h _

theorem harmless_activateForwardOnly (hstopped : Harmless rely guarantee allowed invariant onGatewayStopped)
    (hactivated : Harmless rely guarantee allowed invariant onActivated) :
    Harmless rely guarantee allowed invariant
      (activateForwardOnly at_ options found onGatewayStopped onActivated) := by
  refine harmless_bind (harmless_perform h _) fun _ => harmless_continue hstopped fun result => ?_
  cases result with
  | error error =>
    refine harmless_continue (harmless_perform h _) fun result => ?_
    cases result with
    | error | ok => exact keeping_throw _
  | ok value =>
    refine harmless_bind (harmless_whenReload (harmless_perform h _)) fun _ =>
      harmless_bind (harmless_perform h _) fun _ => ?_
    refine harmless_handle (harmless_startTarget h hactivated) fun activationError => ?_
    refine harmless_continue (harmless_perform h _) fun result => ?_
    cases result with
    | error | ok => exact keeping_throw _

theorem harmless_activateAutomatic (hactivated : Harmless rely guarantee allowed invariant onActivated) :
    Harmless rely guarantee allowed invariant (activateAutomatic at_ options found onActivated) := by
  refine harmless_bind (harmless_whenReload (harmless_perform h _)) fun _ =>
    harmless_bind (harmless_perform h _) fun _ => ?_
  refine harmless_handle (harmless_startTarget h hactivated) fun activationError => ?_
  refine harmless_continue (harmless_rollBack h) fun result => ?_
  cases result with
  | error | ok => exact keeping_throw _

theorem harmless_activateMacosGatewayRelease (hstopped : Harmless rely guarantee allowed invariant onGatewayStopped)
    (hactivated : Harmless rely guarantee allowed invariant onActivated) :
    Harmless rely guarantee allowed invariant
      (activateMacosGatewayRelease at_ options onGatewayStopped onActivated) := by
  refine harmless_bind (harmless_perform h _) fun found => ?_
  split
  · exact harmless_activateForwardOnly h hstopped hactivated
  · exact harmless_activateAutomatic h hactivated

section

variable (hinvariant : invariant state process)
include hinvariant

theorem guarded_writeOutcome (hchange : ∀ update,isOutcome (change update).phase) :
    Guarded answers rely guarantee allowed (fun result state process =>
        onResult (fun _ => ended state process) (fun _ => invariant state process ∧ process.broken) result)
      (onUpdate (writeStatus place change)) state process := by
  unfold onUpdate writeStatus
  rw [embed_bind,embed_perform]
  have hpersisted : Guarded answers rely guarantee allowed (fun result state process =>
      invariant state process ∧ onResult (fun _ => True) (fun _ => process.broken = true) result)
      (perform (Sum.inl (.persist place) : MaintenanceRequest)) state process := by
    refine guarded_perform.mpr fun state' process' hrely => ?_
    have hinvariant' := h.stable _ _ _ _ hinvariant hrely
    refine ⟨h.allowed _ _ _ hinvariant',fun reply process'' hanswer => ?_⟩
    obtain ⟨hguarantee,hinvariant''⟩ := h.ask _ _ _ _ _ hinvariant' hanswer
    refine ⟨hguarantee,hinvariant'',?_⟩
    cases reply with
    | ok value => trivial
    | error error =>
      obtain rfl := hanswer
      rfl
  refine hpersisted.bind ?_ ?_
  · rintro _ state process ⟨hinvariant,-⟩
    exact h.outcome _ _ _ hinvariant (hchange _)
  · rintro error state process ⟨hinvariant,hbroken⟩
    exact ⟨hinvariant,hbroken⟩

variable {mode : ActivationMode} {target : Release}

theorem guarded_activate : Guarded answers rely guarantee allowed (fun result state process =>
        onResult (fun _ => ended state process) (fun _ => invariant state process) result)
      (onUpdate (activate releasesRoot mode update target)) state process := by
  unfold onUpdate activate
  rw [embed_bind]
  refine Guarded.bind (harmless_activateMacosGatewayRelease h (harmless_backUpState h update)
    (harmless_recordProbation h) state process hinvariant) ?_ ?_
  · intro _ state process hinvariant
    refine (guarded_writeOutcome h hinvariant fun _ => rfl).mono ?_
    intro result state process hresult
    cases result with
    | ok value => exact hresult
    | error error => exact hresult.1
  · exact fun error state process hinvariant => hinvariant

theorem guarded_writeOutcome_ended (hchange : ∀ update,isOutcome (change update).phase) :
    Guarded answers rely guarantee allowed (fun _ state process => ended state process)
      (onUpdate (writeStatus place change)) state process := by
  refine (guarded_writeOutcome h hinvariant hchange).mono ?_
  intro result state process hresult
  cases result with
  | ok value => exact hresult
  | error error => exact h.broken _ _ hresult.1 hresult.2

theorem guarded_activate_ended : Guarded answers rely guarantee allowed (fun _ state process => ended state process)
      (onUpdate ((activate releasesRoot mode update target).handle fun error => do
        writeStatus .report (reported mode error)
        .throw error)) state process := by
  unfold onUpdate
  rw [embed_handle]
  refine (guarded_activate h hinvariant).handle _ ?_ ?_
  · exact fun _ _ _ hended => hended
  · intro error state process hinvariant
    rw [embed_bind]
    exact (guarded_writeOutcome_ended h hinvariant (isOutcome_reported mode error)).bind
      (fun _ _ _ hended => hended) (fun _ _ _ hended => hended)

theorem guarded_recoverInterruptedActivation (hmode : ∃ mode,activationModeForState catalog update = .ok mode) :
    Guarded answers rely guarantee allowed (fun _ state process => ended state process)
      (onUpdate (recoverInterruptedActivation catalog update)) state process := by
  obtain ⟨mode,hmode⟩ := hmode
  unfold recoverInterruptedActivation
  rw [hmode]
  change Guarded answers rely guarantee allowed (fun _ state process => ended state process)
    (onUpdate (ite (mode = .forwardOnly) _ _)) state process
  split
  · exact guarded_writeOutcome_ended h hinvariant fun _ => rfl
  · cases update.previousTarget with
    | none => exact guarded_writeOutcome_ended h hinvariant fun _ => rfl
    | some previousTarget =>
      unfold onUpdate
      dsimp only
      rw [embed_handle,embed_bind]
      refine Guarded.handle (fun result state process =>
        onResult (fun _ => ended state process) (fun _ => invariant state process) result) ?_ ?_ ?_
      · refine Guarded.bind (harmless_activateMacosGatewayRelease h (keeping_pure ()) (keeping_pure ()) state process
          hinvariant) ?_ ?_
        · intro _ state process hinvariant
          refine (guarded_writeOutcome h hinvariant fun _ => rfl).mono ?_
          intro result state process hresult
          cases result with
          | ok value => exact hresult
          | error error => exact hresult.1
        · exact fun error state process hinvariant => hinvariant
      · exact fun _ _ _ hended => hended
      · exact fun error state process hinvariant => guarded_writeOutcome_ended h hinvariant fun _ => rfl

end

end

/-- At the end of an activation nothing is pending, unless the supervisor could not write so. -/
def Ended (state : MaintenanceState) (process : Process) : Prop := process.broken = true ∨ ¬ state.updatePending

variable {state state' : MaintenanceState} {process process' : Process} {request : Request}
  {reply : Except JsString request.Reply}

theorem answers_inl (h : answers process (.inl request) reply process') :
    process' = process ∨ process' = { process with broken := true } := by
  cases request with
  | persist =>
    cases reply with
    | ok value => exact .inl h
    | error error => exact .inr h
  | inspect | stop | backUp | writePlist | replaceSymlink | removeLink | restart | waitForHealth | verifyProbation =>
    cases reply with
    | ok | error => exact .inl h

theorem activationKeeps_ask (hpending : state.updatePending) (h : answers process (.inl request) reply process') :
    ActivationKeeps catalog (state,process) (state,process') := by
  have hbroken := answers_broken h
  rcases answers_inl h with rfl | rfl
  · exact ⟨hpending,rfl,.inl ⟨hpending,rfl⟩,id,rfl,rfl,rfl,rfl,hbroken⟩
  · exact ⟨hpending,rfl,.inl ⟨hpending,rfl⟩,id,rfl,rfl,rfl,rfl,hbroken⟩

theorem activationKeeps_write (hpending : state.updatePending) (hfit : Fit catalog update)
    (hupdate : (updatePending update.phase ∧ update.releaseId = state.update.releaseId) ∨ isOutcome update.phase) :
    ActivationKeeps catalog (state,process) (state.putUpdate update,process) :=
  ⟨hpending,rfl,hupdate,fun _ => hfit,rfl,rfl,rfl,rfl,id⟩

theorem ended_of_outcome (h : isOutcome update.phase) : ¬ (state.putUpdate update).updatePending := by
  change ¬ (updatePending update.phase)
  rw [isOutcome_not_pending h]
  exact Bool.false_ne_true

theorem carries_activation : Carries catalog ActivationRelies (ActivationKeeps catalog)
    (fun _ state _ => state.updatePending) (fun state _ => Begun catalog state.update) Ended where
  begun _ _ := id
  stable _ _ _ _ hbegun hrely := by
    have hupdate := hrely.update
    dsimp only at hupdate
    rwa [hupdate]
  allowed _ _ _ hbegun := hbegun.pending
  ask _ _ _ _ _ hbegun hanswer := ⟨activationKeeps_ask hbegun.pending hanswer,hbegun⟩
  write _ _ _ hbegun hbegun' hrelease :=
    ⟨activationKeeps_write hbegun.pending hbegun'.fit (.inl ⟨hbegun'.pending,hrelease⟩),hbegun'⟩
  outcome _ _ _ hbegun houtcome :=
    ⟨activationKeeps_write hbegun.pending (fit_of_outcome houtcome) (.inr houtcome),.inr (ended_of_outcome houtcome)⟩
  broken _ _ _ hbroken := .inl hbroken

theorem activates_begin (hpending : state.updatePending) (hfit : Fit catalog state.update) :
    Activates catalog (fun result state process =>
        onResult (fun _ => Begun catalog state.update) (fun _ => process.broken = true) result)
      (onUpdate (writeStatus .report fun current => { current with phase := .activating })) state process := by
  have hstill (state' : MaintenanceState) (hupdate : state'.update = state.update) : state'.updatePending := by
    rw [MaintenanceState.updatePending,hupdate]
    exact hpending
  have hpersisted : Activates catalog (fun result state' process =>
      state'.update = state.update ∧ onResult (fun _ => True) (fun _ => process.broken = true) result)
      (perform (Sum.inl (.persist .report) : MaintenanceRequest)) state process := by
    refine guarded_perform.mpr fun state' process' hrely => ?_
    have hupdate : state'.update = state.update := hrely.update
    refine ⟨hstill state' hupdate,fun reply process'' hanswer => ?_⟩
    refine ⟨activationKeeps_ask (hstill state' hupdate) hanswer,hupdate,?_⟩
    cases reply with
    | ok value => trivial
    | error error =>
      obtain rfl := hanswer
      rfl
  unfold onUpdate writeStatus
  rw [embed_bind,embed_perform]
  refine hpersisted.bind ?_ ?_
  · rintro _ state' process' ⟨hupdate,-⟩
    have hbegun : Begun catalog { state'.update with phase := .activating } := by
      rw [hupdate]
      exact ⟨.inl rfl,hfit.target hpending,hfit.mode hpending⟩
    exact ⟨activationKeeps_write (hstill state' hupdate) hbegun.fit (.inl ⟨rfl,rfl⟩),hbegun⟩
  · rintro error state' process' ⟨-,hbroken⟩
    exact hbroken

theorem activates_activationTask (hphase : state.update.phase = .scheduled) (hfit : Fit catalog state.update) :
    Activates catalog (fun _ state process => Ended state process) (activationTask catalog releasesRoot) state
      process := by
  have hpending : state.updatePending := by
    rw [MaintenanceState.updatePending,hphase]
    rfl
  obtain ⟨target,htarget⟩ := hfit.target hpending
  obtain ⟨mode,hmode⟩ := hfit.mode hpending
  change Activates catalog (fun _ state process => Ended state process)
    (onUpdate (ite (state.update.phase ≠ .scheduled) _ _)) state process
  rw [if_neg (not_not.mpr hphase),htarget,hmode]
  change Activates catalog (fun _ state process => Ended state process) (onUpdate (writeStatus _ _ >>= _)) state process
  unfold onUpdate
  rw [embed_bind]
  refine (activates_begin hpending hfit).bind ?_ ?_
  · exact fun _ state process hbegun => guarded_activate_ended carries_activation hbegun
  · exact fun error state process hbroken => .inl hbroken

end Malink.Supervisor.Maintenance
