import Malink.MaintenanceInvariants

/-!
# The chain of requests

Every call of the chain, and the start of the supervisor, leaves somebody in charge of what is pending.
-/

namespace Malink.Supervisor.Maintenance

open DurableProgram
open Tracks (GatewayUpdatePhase ActivationMode)
open MaintenanceState (restartPending)

variable {catalog : List StateEntry} {state state' : MaintenanceState} {process process' : Process}

theorem live_of_sameTimers (htimer : process'.activationTimer = process.activationTimer)
    (hactivations : process'.activations = process.activations) : process'.live ↔ process.live := by
  rw [Process.live,Process.live,htimer,hactivations]

theorem chainKeeps_answer (hanswer : process' = process ∨ process' = { process with broken := true }) :
    ChainKeeps catalog (state,process) (state,process') := by
  rcases hanswer with rfl | rfl
  · exact ⟨id,lawful_refl _,fun _ => rfl,.inl,id,rfl,id⟩
  · exact ⟨id,lawful_refl _,fun _ => rfl,.inl,id,rfl,fun _ => rfl⟩

theorem chainKeeps_write (hconsistent : Consistent catalog state') (hlawful : Lawful state state')
    (hlive : process.live → state'.update = state.update) : ChainKeeps catalog (state,process) (state',process) :=
  ⟨fun _ => hconsistent,hlawful,hlive,.inl,id,rfl,id⟩

/-- What is recorded of restarts and activations is still the same. -/
structure Untouched (state state' : MaintenanceState) : Prop where
  restart : state'.restart = state.restart
  update : state'.update = state.update

theorem untouched_of_idle (hidle : ¬ state.updatePending) (h : ChainRelies (state,process) (state',process')) :
    Untouched state state' :=
  ⟨h.restart,h.idle hidle⟩

theorem untouched_of_not_live (hlive : ¬ process.live) (h : ChainRelies (state,process) (state',process')) :
    Untouched state state' :=
  ⟨h.restart,(h.notLive hlive).1⟩

theorem Untouched.trans {state'' : MaintenanceState} (h : Untouched state state') (h' : Untouched state' state'') :
    Untouched state state'' :=
  ⟨h'.restart.trans h.restart,h'.update.trans h.update⟩

theorem Untouched.idle (h : Untouched state state') (hidle : ¬ state.updatePending) : ¬ state'.updatePending := by
  rwa [MaintenanceState.updatePending,h.update]

theorem Untouched.consistent (h : Untouched state state') (hconsistent : Consistent catalog state) :
    Consistent catalog state' where
  exclusive := by
    rw [restartPending,MaintenanceState.updatePending,h.restart,h.update]
    exact hconsistent.exclusive
  fit := by
    rw [h.update]
    exact hconsistent.fit
  restartFit := by
    rw [h.restart]
    exact hconsistent.restartFit

def HostRequest.arms : HostRequest → Bool
  | armActivation _ | armRestart _ => true
  | _ => false

variable {request : HostRequest} {allowed : Prop} {releaseId : JsString} {resumedAt : ℕ}

theorem answers_inr {reply : Except JsString request.Reply} (harms : request.arms = false)
    (h : answers process (.inr request) reply process') :
    (process' = process ∨ process' = { process with broken := true }) ∧
      onResult (fun _ => True) (fun _ => request = .persist → process'.broken) reply := by
  cases request with
  | armActivation | armRestart => cases harms
  | persist =>
    cases reply with
    | ok value => exact ⟨.inl h,trivial⟩
    | error error =>
      obtain rfl := h
      exact ⟨.inr rfl,fun _ => rfl⟩
  | verifyStaged | readCurrentLink | installedBuildId | restartGateway | waitForRestartHealth =>
    cases reply with
    | ok value => exact ⟨.inl h,trivial⟩
    | error error => exact ⟨.inl h,fun hpersist => by cases hpersist⟩

/-- How a request ends that does not set a timer. -/
def Asked (state : MaintenanceState) (process : Process) (request : HostRequest) (reply : Except JsString request.Reply)
    (state' : MaintenanceState) (process' : Process) : Prop :=
  Untouched state state' ∧ (¬ process.live → ¬ process'.live) ∧
    onResult (fun _ => True) (fun _ => request = .persist → process'.broken) reply

theorem serves_ask (harms : request.arms = false) (hidle : ¬ state.updatePending)
    (hallowed : ∀ state' process',state'.restart = state.restart → restartAllowed (.inr request) state' process') :
    Serves catalog (Asked state process request) (ask request) state process := by
  refine guarded_perform.mpr fun state' process' hrely => ⟨hallowed _ _ hrely.restart,fun reply process'' hanswer => ?_⟩
  obtain ⟨hprocess,hbroken⟩ := answers_inr harms hanswer
  refine ⟨chainKeeps_answer hprocess,untouched_of_idle hidle hrely,fun hlive => ?_,hbroken⟩
  have hlive' := (hrely.notLive hlive).2
  rcases hprocess with rfl | rfl
  · exact hlive'
  · exact hlive'

variable {change : GatewayRestartStatus → GatewayRestartStatus} {restart : GatewayRestartStatus}
  {update : SupervisorState} {executionTracksEnabled : Bool}

theorem serves_writeRestartState (hidle : ¬ state.updatePending)
    (hconsistent : Consistent catalog state) (hfit : RestartFit (change state.restart))
    (hlawful : state.restartPending → (change state.restart).restartId = state.restart.restartId ∧
      ((change state.restart).phase.pending ∨ (change state.restart).phase = .ready ∨
        (change state.restart).phase = .failed)) :
    Serves catalog (fun result state' process' => state'.update = state.update ∧
        onResult (fun _ => state'.restart = change state.restart)
          (fun _ => state'.restart = state.restart ∧ process'.broken) result)
      (writeRestartState change) state process := by
  have hpersisted : Serves catalog (Asked state process .persist) (ask .persist) state process :=
    serves_ask rfl hidle fun _ _ _ => trivial
  refine hpersisted.bind ?_ ?_
  · rintro _ state' process' ⟨huntouched,-,-⟩
    have hsame := huntouched.restart
    refine ⟨chainKeeps_write ?_ ?_ fun _ => rfl,huntouched.update,congrArg change hsame⟩
    · have hconsistent' := huntouched.consistent hconsistent
      exact {
        exclusive := fun hboth => huntouched.idle hidle hboth.2
        fit := hconsistent'.fit
        restartFit := hsame ▸ hfit }
    · exact {
        restart := by
          rw [restartPending,restartPending,hsame]
          exact hlawful
        update := fun hpending => absurd hpending (huntouched.idle hidle)
        newRestart := fun _ _ => huntouched.idle hidle
        newUpdate := fun hnot hpending => absurd hpending hnot }
  · rintro error state' process' ⟨huntouched,-,hbroken⟩
    exact ⟨huntouched.update,huntouched.restart,hbroken rfl⟩

variable {scheduledAt : ℕ}

theorem serves_armRestart (hidle : ¬ state.updatePending) (hphase : state.restart.phase = .scheduled) :
    Serves catalog (fun _ state process => Owed state process) (ask (.armRestart scheduledAt)) state process := by
  refine guarded_perform.mpr fun state' process' hrely => ⟨trivial,fun reply process'' hanswer => ?_⟩
  cases reply with
  | error error => cases hanswer
  | ok value =>
    obtain rfl := hanswer
    have huntouched := untouched_of_idle hidle hrely
    refine ⟨⟨id,lawful_refl _,fun _ => rfl,.inl,id,rfl,id⟩,.inr ⟨fun _ => .inl rfl,?_,fun hpending => ?_⟩⟩
    · simp [huntouched.restart,hphase]
    · exact absurd hpending (huntouched.idle hidle)

theorem owed_of_settled (hrestart : ¬ state.restartPending) (hidle : ¬ state.updatePending) : Owed state process := by
  refine .inr ⟨fun hphase => ?_,fun hphase => ?_,fun hpending => absurd hpending hidle⟩
  · exact absurd (by rw [restartPending,hphase]; rfl) hrestart
  · exact absurd (by rw [restartPending,hphase]; rfl) hrestart

variable {restartId : JsString}

theorem serves_scheduleRestart {mode : GatewayRestartMode} {requestedAt scheduledAt : ℕ}
    (hconsistent : Consistent catalog state) (howed : allowed → Owed state process) :
    Serves catalog (fun _ state process => allowed → Owed state process)
      (scheduleRestart mode restartId requestedAt scheduledAt) state process := by
  change Serves catalog (fun _ state process => allowed → Owed state process)
    (ite (state.restart.phase.pending) _ (ite (updatePending state.update.phase) _ _)) state process
  split
  · exact howed
  · next hrestart =>
    split
    · exact howed
    · next hidle =>
      have hfit : RestartFit
          { phase := .scheduled, restartId := some restartId, mode := some mode, requestedAt := some requestedAt,
            scheduledAt := some scheduledAt, startedAt := none, completedAt := none,
            detail := some "Gateway restart is scheduled; waiting for the signed reply to leave the outbox" } :=
        ⟨fun _ => ⟨_,rfl⟩,fun _ => ⟨_,rfl⟩⟩
      refine (serves_writeRestartState hidle hconsistent hfit fun hpending => absurd hpending hrestart).bind ?_ ?_
      · rintro _ state' process' ⟨hupdate,hwritten⟩
        have hidle' : ¬ state'.updatePending := by rwa [MaintenanceState.updatePending,hupdate]
        refine (serves_armRestart hidle' (congrArg GatewayRestartStatus.phase hwritten)).mono ?_
        exact fun _ _ _ howed _ => howed
      · rintro error state' process' ⟨-,-,hbroken⟩ -
        exact .inl hbroken

/-- The Gateway restarts, and the file says so. -/
structure Restarting (catalog : List StateEntry) (restartId : JsString) (state : MaintenanceState) : Prop where
  phase : state.restart.phase = .restarting
  restartId : state.restart.restartId = some restartId
  idle : ¬ state.updatePending
  consistent : Consistent catalog state

theorem Restarting.untouched (h : Restarting catalog restartId state) (huntouched : Untouched state state') :
    Restarting catalog restartId state' := by
  refine ⟨?_,?_,huntouched.idle h.idle,huntouched.consistent h.consistent⟩
  · rw [huntouched.restart]
    exact h.phase
  · rw [huntouched.restart]
    exact h.restartId

theorem Restarting.pending (h : Restarting catalog restartId state) : state.restartPending := by
  rw [restartPending,h.phase]
  rfl

theorem consistent_of_idle (hconsistent : Consistent catalog state) (hidle : ¬ state.updatePending)
    (hupdate : state'.update = state.update) (hfit : RestartFit state'.restart) : Consistent catalog state' where
  exclusive hboth := by
    have hpending := hboth.2
    rw [MaintenanceState.updatePending,hupdate] at hpending
    exact hidle hpending
  fit := by
    rw [hupdate]
    exact hconsistent.fit
  restartFit := hfit

theorem restartFit_of_settled (h : restart.phase.pending = false) :
    RestartFit restart where
  restartId hpending := by
    rw [h] at hpending
    cases hpending
  scheduledAt hphase := by
    rw [hphase] at h
    cases h

theorem serves_endRestart (hchange : ∀ restart,(change restart).restartId = restart.restartId ∧
      ((change restart).phase = .ready ∨ (change restart).phase = .failed)) (h : Restarting catalog restartId state) :
    Serves catalog (fun result state process =>
        onResult (fun _ => Owed state process)
          (fun _ => Restarting catalog restartId state ∧ process.broken) result)
      (writeSameRestart restartId change) state process := by
  have hended : (if state.restart.restartId = some restartId then change state.restart else state.restart) =
      change state.restart := if_pos h.restartId
  obtain ⟨hid,hphase⟩ := hchange state.restart
  have hsettled : (change state.restart).phase.pending = false := by
    rcases hphase with heq | heq
    · rw [heq]
      rfl
    · rw [heq]
      rfl
  have hfit : RestartFit (change state.restart) := restartFit_of_settled hsettled
  refine Guarded.mono (serves_writeRestartState h.idle h.consistent (hended.symm ▸ hfit)
    fun _ => hended.symm ▸ ⟨hid,.inr hphase⟩) ?_
  intro result state' process' hresult
  cases result with
  | ok value =>
    obtain ⟨hupdate,hrestart⟩ := hresult
    refine owed_of_settled ?_ ?_
    · rw [restartPending,hrestart.trans hended,hsettled]
      exact Bool.false_ne_true
    · rw [MaintenanceState.updatePending,hupdate]
      exact h.idle
  | error error =>
    obtain ⟨hupdate,hrestart,hbroken⟩ := hresult
    exact ⟨h.untouched ⟨hrestart,hupdate⟩,hbroken⟩

theorem serves_whileRestarting (harms : request.arms = false) (h : Restarting catalog restartId state) :
    Serves catalog (fun _ state' _ => Restarting catalog restartId state') (ask request) state process := by
  have hallowed (state' : MaintenanceState) (process' : Process) (hrestart : state'.restart = state.restart) :
      restartAllowed (.inr request) state' process' := by
    unfold restartAllowed
    split
    · rw [restartPending,hrestart]
      exact h.pending
    · rw [restartPending,hrestart]
      exact h.pending
    · trivial
  refine (serves_ask harms h.idle hallowed).mono ?_
  rintro _ _ _ ⟨huntouched,-,-⟩
  exact h.untouched huntouched

variable {startedAt completedAt : ℕ}

theorem serves_performRestart (hid : state.restart.restartId = some restartId)
    (hphase : state.restart.phase = .scheduled) (hconsistent : Consistent catalog state) :
    Serves catalog (fun _ state process => allowed → Owed state process) (performRestart restartId startedAt completedAt)
      state process := by
  have hpending : state.restartPending := by
    rw [restartPending,hphase]
    rfl
  have hidle : ¬ state.updatePending := fun hupdate => hconsistent.exclusive ⟨hpending,hupdate⟩
  have hbegun : (if state.restart.restartId = some restartId then
      if state.restart.phase ≠ .scheduled then state.restart
      else
        { state.restart with
          phase := .restarting
          startedAt := some startedAt
          completedAt := none
          detail := some "Gateway process is restarting" }
      else state.restart) =
      { state.restart with
        phase := .restarting
        startedAt := some startedAt
        completedAt := none
        detail := some "Gateway process is restarting" } := by
    rw [if_pos hid,if_neg (not_not.mpr hphase)]
  have hfit : RestartFit
      { state.restart with
        phase := .restarting
        startedAt := some startedAt
        completedAt := none
        detail := some "Gateway process is restarting" } :=
    ⟨fun _ => ⟨restartId,hid⟩,fun heq => (by cases heq)⟩
  refine Guarded.bind (serves_writeRestartState hidle hconsistent ?_ fun _ => ?_) ?_ ?_
  · rw [hbegun]
    exact hfit
  · rw [hbegun]
    exact ⟨rfl,.inl rfl⟩
  · rintro _ state' process' ⟨hupdate,hwritten⟩
    have hrestart := hwritten.trans hbegun
    have hrestarting : Restarting catalog restartId state' := by
      refine ⟨by rw [hrestart],by rw [hrestart]; exact hid,?_,?_⟩
      · rwa [MaintenanceState.updatePending,hupdate]
      · refine consistent_of_idle hconsistent hidle hupdate ?_
        rw [hrestart]
        exact hfit
    refine Guarded.handle (fun result state process => onResult (fun _ => Owed state process)
      (fun _ => Restarting catalog restartId state) result) ?_ (fun _ _ _ howed _ => howed) ?_
    · refine (serves_whileRestarting rfl hrestarting).bind ?_ fun _ _ _ => id
      intro _ state process hrestarting
      refine (serves_whileRestarting rfl hrestarting).bind ?_ fun _ _ _ => id
      intro _ state process hrestarting
      refine (serves_endRestart ?_ hrestarting).mono ?_
      · exact fun restart => ⟨rfl,.inl rfl⟩
      · intro result state process hresult
        cases result with
        | ok value => exact hresult
        | error error => exact hresult.1
    · intro error state process hrestarting
      refine (serves_endRestart ?_ hrestarting).bind ?_ ?_
      · exact fun restart => ⟨rfl,.inr rfl⟩
      · exact fun _ _ _ howed _ => howed
      · exact fun _ _ _ hbroken _ => .inl hbroken.2
  · exact fun _ _ _ hbroken _ => .inl hbroken.2.2

theorem serves_performScheduledRestart (hconsistent : Consistent catalog state)
    (howed : allowed → process.broken ∨ (state.restart.phase ≠ .restarting ∧ (state.updatePending → process.live))) :
    Serves catalog (fun _ state process => allowed → Owed state process) (performScheduledRestart startedAt completedAt)
      state process := by
  have hearly (hphase : state.restart.phase ≠ .scheduled) (hallowed : allowed) : Owed state process :=
    (howed hallowed).imp_right fun h => ⟨fun heq => absurd heq hphase,h⟩
  refine guarded_readState.mpr ?_
  cases hid : state.restart.restartId with
  | none =>
    refine hearly fun hphase => ?_
    obtain ⟨restartId,hsome⟩ := hconsistent.restartFit.restartId (by rw [hphase]; rfl)
    cases hid.symm.trans hsome
  | some restartId =>
    by_cases hphase : state.restart.phase = .scheduled
    · refine (congrArg (fun task : Task Unit => Serves catalog (fun _ state process => allowed → Owed state process) task
        state process) (if_neg (not_not.mpr hphase))).mpr ?_
      exact serves_performRestart hid hphase hconsistent
    · refine (congrArg (fun task : Task Unit => Serves catalog (fun _ state process => allowed → Owed state process) task
        state process) (if_pos hphase)).mpr ?_
      exact hearly hphase

theorem activationMode_of_target {update' : SupervisorState}
    (h : ∃ mode,activationModeForState catalog update = .ok mode) (htarget : update'.target = update.target) :
    ∃ mode, activationModeForState catalog update' = .ok mode := by
  obtain ⟨mode,hmode⟩ := h
  unfold activationModeForState at hmode ⊢
  rw [htarget]
  have hends (condition : Prop) [Decidable condition] (first second : ActivationMode) :
      ∃ mode, (if condition then Except.ok first else Except.ok second : Except JsString ActivationMode) = .ok mode := by
    split
    · exact ⟨_,rfl⟩
    · exact ⟨_,rfl⟩
  cases hsome : update.target with
  | none => exact hends _ _ _
  | some target =>
    rw [hsome] at hmode
    cases hactivation : gatewayStateActivation catalog target.stateCatalog with
    | error error =>
      dsimp only at hmode
      rw [hactivation] at hmode
      cases hmode
    | ok activation =>
      dsimp only
      rw [hactivation]
      exact hends _ _ _

theorem serves_armActivation (hlive : ¬ process.live) (hphase : state.update.phase = .scheduled)
    (hrestart : ¬ state.restartPending) :
    Serves catalog (fun _ state' process' => Owed state' process' ∧ state'.restart = state.restart)
      (ask (.armActivation scheduledAt)) state process := by
  refine guarded_perform.mpr fun state' process' hrely => ⟨trivial,fun reply process'' hanswer => ?_⟩
  cases reply with
  | error error => cases hanswer
  | ok value =>
    obtain rfl := hanswer
    obtain ⟨hupdate,hlive'⟩ := hrely.notLive hlive
    have hscheduled : state'.update.phase = .scheduled := by rw [hupdate,hphase]
    have hnot : ¬ state'.restartPending := by
      rw [restartPending,show state'.restart = state.restart from hrely.restart]
      exact hrestart
    have hne (phase : GatewayRestartPhase) (hpending : phase.pending) : state'.restart.phase ≠ phase :=
      fun heq => hnot (by rwa [restartPending,heq])
    refine ⟨⟨id,lawful_refl _,fun _ => rfl,fun _ => .inr ⟨hlive',hscheduled⟩,fun _ => rfl,rfl,id⟩,.inr ?_,
      hrely.restart⟩
    exact ⟨fun heq => absurd heq (hne _ rfl),hne _ rfl,fun _ => .inl rfl⟩

theorem consistent_scheduled {targetBuildId currentBuildId : Option JsString}
    {mode : ActivationMode} {link : JsString × JsString} (hconsistent : Consistent catalog state)
    (hrestart : ¬ state.restartPending) (htarget : ∃ target,state.update.target = some target)
    (hmode : ∃ mode,activationModeForState catalog state.update = .ok mode) :
    Consistent catalog (state.putUpdate
      (scheduledUpdate releaseId targetBuildId mode link currentBuildId scheduledAt state.update)) where
  exclusive hboth := hrestart hboth.1
  fit := ⟨fun _ => htarget,fun _ => activationMode_of_target hmode rfl,fun _ => ⟨_,rfl⟩⟩
  restartFit := hconsistent.restartFit

theorem hasRelease_target (h : hasRelease releaseId state) : ∃ target, state.update.target = some target := by
  cases htarget : state.update.target with
  | none => simp [hasRelease,htarget] at h
  | some target => exact ⟨target,rfl⟩

/-- The chain waits for something else than a timer, while nothing is pending. -/
theorem serves_atRest (harms : request.arms = false) (hidle : ¬ state.updatePending)
    (hlive : ¬ process.live) (hallowed : ∀ state process,restartAllowed (.inr request) state process) :
    Serves catalog (fun _ state' process' => Untouched state state' ∧ ¬ process'.live) (ask request) state process := by
  refine (serves_ask harms hidle fun _ _ _ => hallowed _ _).mono ?_
  rintro _ _ _ ⟨huntouched,hstill,-⟩
  exact ⟨huntouched,hstill hlive⟩

theorem serves_scheduleApplyOnce {allowForwardOnly : Bool} (hconsistent : Consistent catalog state)
    (hlive : process.live → state.updatePending)
    (howed : allowed → Owed state process) :
    Serves catalog (fun _ state process => allowed → Owed state process)
      (scheduleApplyOnce catalog executionTracksEnabled releaseId allowForwardOnly scheduledAt) state process := by
  unfold scheduleApplyOnce
  split
  · exact howed
  split
  · exact howed
  refine guarded_readState.mpr ?_
  split
  · exact howed
  next hrestart =>
  split
  · exact howed
  split
  · exact howed
  split
  · exact howed
  next hphase =>
  have hphase := not_not.mp hphase
  have hidle : ¬ state.updatePending := by
    rw [MaintenanceState.updatePending,hphase]
    exact Bool.false_ne_true
  have hstill : ¬ process.live := fun h => hidle (hlive h)
  have hsettled {state' : MaintenanceState} {process' : Process} (huntouched : Untouched state state') :
      Owed state' process' := by
    refine owed_of_settled ?_ (huntouched.idle hidle)
    rwa [restartPending,huntouched.restart]
  cases hmode : activationModeForState catalog state.update with
  | error error => exact howed
  | ok mode =>
    change Serves catalog (fun _ state process => allowed → Owed state process)
      (ite (mode = .forwardOnly ∧ ¬ allowForwardOnly) _ _) state process
    split
    · exact howed
    refine (serves_atRest rfl hidle hstill (by exact fun _ _ => trivial)).bind ?_ fun _ _ _ h _ => hsettled h.1
    rintro - state₁ process₁ ⟨h₁,hstill₁⟩
    refine (serves_atRest rfl (h₁.idle hidle) hstill₁ (by exact fun _ _ => trivial)).bind ?_
      fun _ _ _ h _ => hsettled (h₁.trans h.1)
    rintro link state₂ process₂ ⟨h₂,hstill₂⟩
    have h₂ := h₁.trans h₂
    refine (serves_atRest rfl (h₂.idle hidle) hstill₂ (by exact fun _ _ => trivial)).bind ?_
      fun _ _ _ h _ => hsettled (h₂.trans h.1)
    rintro currentBuildId state₃ process₃ ⟨h₃,hstill₃⟩
    have h₃ := h₂.trans h₃
    refine (serves_atRest rfl (h₃.idle hidle) hstill₃ (by exact fun _ _ => trivial)).bind ?_
      fun _ _ _ h _ => hsettled (h₃.trans h.1)
    rintro - state₄ process₄ ⟨h₄,hstill₄⟩
    have h₄ := h₃.trans h₄
    refine guarded_readState.mpr ?_
    split
    · exact fun _ => hsettled h₄
    next hrelease =>
    split
    · exact fun _ => hsettled h₄
    have hnot : ¬ state₄.restartPending := by rwa [restartPending,h₄.restart]
    have hupdate := h₄.update
    have hmode₄ : ∃ mode,activationModeForState catalog state₄.update = .ok mode := ⟨mode,by rw [hupdate,hmode]⟩
    refine ⟨chainKeeps_write (consistent_scheduled (h₄.consistent hconsistent) hnot
      (hasRelease_target (not_not.mp hrelease)) hmode₄) ?_ fun hlive => absurd hlive hstill₄,?_⟩
    · exact {
        restart := fun hpending => absurd hpending hnot
        update := fun hpending => absurd hpending (h₄.idle hidle)
        newRestart := fun _ hpending => absurd hpending hnot
        newUpdate := fun _ _ => ⟨by rw [hupdate,hphase],hnot⟩ }
    · refine (serves_armActivation hstill₄ ?_ ?_).mono ?_
      · rfl
      · exact hnot
      · exact fun _ _ _ howed _ => howed.1

theorem carries_start : Carries catalog ChainRelies (ChainKeeps catalog) restartAllowed
    (fun state process => Begun catalog state.update ∧ ¬ process.live ∧ Consistent catalog state)
    (fun state process => Ended state process ∧ ¬ state.restartPending) where
  begun _ _ h := h.1
  stable _ _ _ _ h hrely := by
    obtain ⟨hbegun,hlive,hconsistent⟩ := h
    have huntouched := untouched_of_not_live hlive hrely
    refine ⟨?_,(hrely.notLive hlive).2,huntouched.consistent hconsistent⟩
    rw [huntouched.update]
    exact hbegun
  allowed _ _ _ _ := trivial
  ask state process request reply process' h hanswer := by
    have hprocess := answers_inl hanswer
    refine ⟨chainKeeps_answer hprocess,h.1,?_,h.2.2⟩
    rcases hprocess with rfl | rfl
    · exact h.2.1
    · exact h.2.1
  write state process update h hbegun hrelease := by
    have hrestart : ¬ state.restartPending := fun hpending => h.2.2.exclusive ⟨hpending,h.1.pending⟩
    have hconsistent : Consistent catalog (state.putUpdate update) :=
      ⟨fun hboth => hrestart hboth.1,hbegun.fit,h.2.2.restartFit⟩
    have hlawful : Lawful state (state.putUpdate update) :=
      ⟨fun hpending => absurd hpending hrestart,fun _ => .inl ⟨hbegun.pending,hrelease⟩,
        fun _ hpending => absurd hpending hrestart,fun hnot => absurd h.1.pending hnot⟩
    exact ⟨chainKeeps_write hconsistent hlawful fun hlive => absurd hlive h.2.1,hbegun,h.2.1,hconsistent⟩
  outcome state process update h houtcome := by
    have hrestart : ¬ state.restartPending := fun hpending => h.2.2.exclusive ⟨hpending,h.1.pending⟩
    have hconsistent : Consistent catalog (state.putUpdate update) :=
      ⟨fun hboth => hrestart hboth.1,fit_of_outcome houtcome,h.2.2.restartFit⟩
    have hlawful : Lawful state (state.putUpdate update) :=
      ⟨fun hpending => absurd hpending hrestart,fun _ => .inr houtcome,
        fun _ hpending => absurd hpending hrestart,fun hnot => absurd h.1.pending hnot⟩
    exact ⟨chainKeeps_write hconsistent hlawful fun hlive => absurd hlive h.2.1,.inr (ended_of_outcome houtcome),hrestart⟩
  broken state process h hbroken := ⟨.inl hbroken,fun hpending => h.2.2.exclusive ⟨hpending,h.1.pending⟩⟩

theorem owed_of_ended (h : Ended state process) (hrestart : ¬ state.restartPending) : Owed state process := by
  rcases h with hbroken | hidle
  · exact .inl hbroken
  · exact owed_of_settled hrestart hidle

theorem resumeRestart_settled (h : ¬ restart.phase.pending) : resumeRestart restart resumedAt = return () := by
  unfold resumeRestart
  split
  · next hphase _ => exact absurd (by rw [hphase]; rfl) h
  · next hphase => exact absurd (by rw [hphase]; rfl) h
  · rfl

theorem serves_resumeRestart (hconsistent : Consistent catalog state) (hidle : ¬ state.updatePending) :
    Serves catalog (fun _ state process => Owed state process) (resumeRestart state.restart resumedAt) state process := by
  unfold resumeRestart
  split
  · next hphase _ => exact serves_armRestart hidle hphase
  · next hphase =>
    have hpending : state.restart.phase.pending := by
      rw [hphase]
      rfl
    refine (serves_writeRestartState hidle hconsistent ?_ fun _ => ⟨rfl,.inl rfl⟩).bind ?_ ?_
    · exact ⟨fun _ => hconsistent.restartFit.restartId hpending,fun _ => ⟨_,rfl⟩⟩
    · rintro _ state' process' ⟨hupdate,hwritten⟩
      have hidle' : ¬ state'.updatePending := by rwa [MaintenanceState.updatePending,hupdate]
      exact serves_armRestart hidle' (congrArg GatewayRestartStatus.phase hwritten)
    · exact fun _ _ _ hbroken => .inl hbroken.2.2
  · next hrestarting hscheduled =>
    refine owed_of_settled (fun hpending => ?_) hidle
    cases hphase : state.restart.phase with
    | scheduled =>
      obtain ⟨scheduledAt,hat⟩ := hconsistent.restartFit.scheduledAt hphase
      exact hscheduled scheduledAt hphase hat
    | restarting => exact hrestarting hphase
    | idle | waitingForIdle | ready | failed =>
      rw [restartPending,hphase] at hpending
      cases hpending

theorem resumeActivation_settled (h : ¬ updatePending update.phase) : resumeActivation catalog update = return () := by
  unfold resumeActivation
  split
  · next hphase _ => exact absurd (by rw [hphase]; rfl) h
  · next hphase => exact absurd (by rw [hphase]; rfl) h
  · next hphase => exact absurd (by rw [hphase]; rfl) h
  · rfl

/-- The activation that was pending gets its timer, or ends. -/
theorem serves_resumeActivation (hconsistent : Consistent catalog state) (hlive : ¬ process.live)
    (hpending : state.updatePending) :
    Serves catalog (fun _ state process => Owed state process) (resumeActivation catalog state.update) state process := by
  have hrestart : ¬ state.restartPending := fun h => hconsistent.exclusive ⟨h,hpending⟩
  have hrecovers (hphase : state.update.phase = .activating ∨ state.update.phase = .probation) :
      Serves catalog (fun _ state process => Owed state process)
        (onUpdate (recoverInterruptedActivation catalog state.update)) state process := by
    have hbegun : Begun catalog state.update := ⟨hphase,hconsistent.fit.target hpending,hconsistent.fit.mode hpending⟩
    refine (guarded_recoverInterruptedActivation carries_start ⟨hbegun,hlive,hconsistent⟩ hbegun.mode).mono ?_
    exact fun _ _ _ hended => owed_of_ended hended.1 hended.2
  unfold resumeActivation
  split
  · next hphase _ =>
    refine (serves_armActivation hlive hphase hrestart).mono ?_
    exact fun _ _ _ howed => howed.1
  · next hphase => exact hrecovers (.inl hphase)
  · next hphase => exact hrecovers (.inr hphase)
  · next hactivating hprobation hscheduled =>
    cases hphase : state.update.phase with
    | scheduled =>
      obtain ⟨scheduledAt,hat⟩ := hconsistent.fit.scheduledAt hphase
      exact absurd hat (hscheduled scheduledAt hphase)
    | activating => exact absurd hphase hactivating
    | probation => exact absurd hphase hprobation
    | _ =>
      rw [MaintenanceState.updatePending,hphase] at hpending
      cases hpending

theorem serves_startSupervisor (hconsistent : Consistent catalog state) (hlive : ¬ process.live) :
    Serves catalog (fun _ state process => executionTracksEnabled = false → Owed state process)
      (startSupervisor catalog executionTracksEnabled resumedAt) state process := by
  refine guarded_readState.mpr ?_
  cases executionTracksEnabled with
  | true => exact fun htracks => by cases htracks
  | false =>
    suffices hstarts : Serves catalog (fun _ state process => Owed state process)
        (resumeActivation catalog state.update >>= fun _ => resumeRestart state.restart resumedAt) state process from
      hstarts.mono fun _ _ _ howed _ => howed
    by_cases hpending : state.updatePending
    · have hrestart : ¬ state.restartPending := fun h => hconsistent.exclusive ⟨h,hpending⟩
      rw [resumeRestart_settled hrestart]
      exact (serves_resumeActivation hconsistent hlive hpending).bind (fun _ _ _ howed => howed)
        fun _ _ _ howed => howed
    · rw [resumeActivation_settled hpending]
      exact serves_resumeRestart hconsistent hpending

end Malink.Supervisor.Maintenance
