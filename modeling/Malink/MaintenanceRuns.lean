import Malink.MaintenanceChain

/-!
# Runs of the supervisor

What holds after every step of every run: requests, timers, activations and the starts of the supervisor in any order.
-/

namespace Malink.Supervisor.Maintenance

open DurableProgram
open Tracks (GatewayUpdatePhase ActivationMode)
open GatewayUpdateSupervisor (goOn)

def Waits (task : Task Unit) : Prop := ∃ request rest, task = .ask request rest

section

variable (catalog : List StateEntry) (executionTracksEnabled : Bool)

/-- What holds of the file and the timers, whatever the chain does. -/
structure Behaves (moment : MaintenanceState × Process) : Prop where
  consistent : Consistent catalog moment.1
  timer : moment.2.activationTimer → moment.1.update.phase = .scheduled ∧ moment.2.activations = []
  activations : moment.2.activations = [] ∨ ∃ task, moment.2.activations = [task] ∧ Waits task ∧
    Activates catalog (fun _ state process => Ended state process) task moment.1 moment.2

structure Sound (supervisor : GatewayUpdateSupervisor) : Prop where
  behaves : Behaves catalog (supervisor.disk,supervisor.process)
  running : ∀ task, supervisor.running = some task → Waits task ∧
    Serves catalog (fun _ state process => executionTracksEnabled = false → Owed state process) task supervisor.disk
      supervisor.process
  idle : supervisor.running = none → executionTracksEnabled = false → Owed supervisor.disk supervisor.process

end

variable {catalog : List StateEntry} {releasesRoot : JsString} {executionTracksEnabled : Bool}
  {moment moment' : MaintenanceState × Process} {state state' : MaintenanceState} {process process' : Process}

variable {task : Task Unit}

theorem activation_pending (hwaits : Waits task)
    (h : Activates catalog (fun _ state process => Ended state process) task state process) : state.updatePending := by
  obtain ⟨request,rest,rfl⟩ := hwaits
  exact (h state process ⟨rfl,id⟩).1

theorem activation_waits (hwaits : Waits task)
    (h : Activates catalog (fun _ state process => Ended state process) task state process)
    (hrely : ActivationRelies (state,process) (state',process')) :
    Activates catalog (fun _ state process => Ended state process) task state' process' := by
  obtain ⟨request,rest,rfl⟩ := hwaits
  exact h.wait (fun _ _ _ => ActivationRelies.trans) hrely

theorem Behaves.pending (h : Behaves catalog moment) (hlive : moment.2.live) : moment.1.updatePending := by
  rcases hlive with htimer | hactivations
  · rw [MaintenanceState.updatePending,(h.timer htimer).1]
    rfl
  · obtain hnone | ⟨task,-,hwaits,hactivates⟩ := h.activations
    · exact absurd hnone hactivations
    · exact activation_pending hwaits hactivates

theorem Behaves.chain (h : Behaves catalog moment) (hkeeps : ChainKeeps catalog moment moment') :
    Behaves catalog moment' where
  consistent := hkeeps.consistent h.consistent
  timer htimer' := by
    rw [hkeeps.activations]
    rcases hkeeps.activationTimer htimer' with htimer | ⟨hlive,hphase⟩
    · rw [hkeeps.live (.inl htimer)]
      exact h.timer htimer
    · refine ⟨hphase,?_⟩
      by_contra hactivations
      exact hlive (.inr hactivations)
  activations := by
    rw [hkeeps.activations]
    obtain hnone | ⟨task,hone,hwaits,hactivates⟩ := h.activations
    · exact .inl hnone
    · have hlive : moment.2.live := .inr (by simp [hone])
      exact .inr ⟨task,hone,hwaits,activation_waits hwaits hactivates ⟨hkeeps.live hlive,hkeeps.broken⟩⟩

theorem Behaves.chain_run (h : Behaves catalog moment)
    (hkeeps : Relation.ReflTransGen (ChainKeeps catalog) moment moment') :
    Behaves catalog moment' ∧ Relation.ReflTransGen Lawful moment.1 moment'.1 := by
  induction hkeeps with
  | refl => exact ⟨h,.refl⟩
  | tail _ hkeep ih => exact ⟨ih.1.chain hkeep,ih.2.tail hkeep.lawful⟩

variable {supervisor : GatewayUpdateSupervisor}

theorem sound_goOn (h : Behaves catalog (supervisor.disk,supervisor.process))
    (hserves : Serves catalog (fun _ state process => executionTracksEnabled = false → Owed state process) task
      supervisor.disk supervisor.process) :
    Sound catalog executionTracksEnabled (supervisor.goOn task) ∧
      Relation.ReflTransGen Lawful supervisor.disk (supervisor.goOn task).disk := by
  obtain ⟨hmoves,hrest⟩ := hserves.advance
  obtain ⟨hbehaves,hlawful⟩ := h.chain_run hmoves
  have hends := advance_cases task supervisor.disk
  unfold goOn
  generalize task.advance supervisor.disk = advanced at hrest hbehaves hlawful hends
  obtain ⟨rest,disk⟩ := advanced
  obtain ⟨value,hend⟩ | ⟨error,hend⟩ | ⟨request,next,hend⟩ := hends
  · obtain rfl := hend
    exact ⟨⟨hbehaves,fun _ hsome => (by cases hsome),fun _ => hrest⟩,hlawful⟩
  · obtain rfl := hend
    exact ⟨⟨hbehaves,fun _ hsome => (by cases hsome),fun _ => hrest⟩,hlawful⟩
  · obtain rfl := hend
    refine ⟨⟨hbehaves,fun task hsome => ?_,fun hnone => (by cases hnone)⟩,hlawful⟩
    obtain rfl := Option.some.inj hsome
    exact ⟨⟨request,next,rfl⟩,hrest⟩

theorem lawful_of_activationKeeps (h : ActivationKeeps catalog moment moment') : Lawful moment.1 moment'.1 where
  restart hpending := by
    rw [MaintenanceState.restartPending,h.restart]
    exact ⟨rfl,.inl hpending⟩
  update _ := h.update
  newRestart hnot hpending := by
    rw [MaintenanceState.restartPending,h.restart] at hpending
    exact absurd hpending hnot
  newUpdate hnot := absurd h.pending hnot

theorem Consistent.activation (h : Consistent catalog moment.1) (hkeeps : ActivationKeeps catalog moment moment') :
    Consistent catalog moment'.1 where
  exclusive hboth := by
    have hpending := hboth.1
    rw [MaintenanceState.restartPending,hkeeps.restart] at hpending
    exact h.exclusive ⟨hpending,hkeeps.pending⟩
  fit := hkeeps.fit h.fit
  restartFit := by
    rw [hkeeps.restart]
    exact h.restartFit

theorem consistent_activation_run (h : Consistent catalog moment.1)
    (hkeeps : Relation.ReflTransGen (ActivationKeeps catalog) moment moment') :
    Consistent catalog moment'.1 ∧ moment'.1.restart = moment.1.restart ∧
      Relation.ReflTransGen Lawful moment.1 moment'.1 := by
  induction hkeeps with
  | refl => exact ⟨h,rfl,.refl⟩
  | tail _ hkeep ih =>
    obtain ⟨hconsistent,hrestart,hlawful⟩ := ih
    exact ⟨hconsistent.activation hkeep,hkeep.restart.trans hrestart,hlawful.tail (lawful_of_activationKeeps hkeep)⟩

theorem activation_goOn (hconsistent : Consistent catalog state) (htimer : process.activationTimer = false)
    (h : Activates catalog (fun _ state process => Ended state process) task state process) :
    Behaves catalog
        ((task.advance state).2,{ process with activations := unfinished (task.advance state).1 }) ∧
      (task.advance state).2.restart = state.restart ∧ Relation.ReflTransGen Lawful state (task.advance state).2 ∧
      (process.broken ∨ ((task.advance state).2.updatePending → unfinished (task.advance state).1 ≠ [])) := by
  obtain ⟨hmoves,hrest⟩ := h.advance
  obtain ⟨hconsistent',hrestart,hlawful⟩ := consistent_activation_run hconsistent hmoves
  have hends := advance_cases task state
  generalize task.advance state = advanced at hrest hconsistent' hrestart hlawful hends
  obtain ⟨rest,disk⟩ := advanced
  have hnotimer (activations : List (Task Unit)) (htimer' : process.activationTimer) :
      disk.update.phase = .scheduled ∧ activations = [] := by
    rw [htimer] at htimer'
    cases htimer'
  obtain ⟨value,hend⟩ | ⟨error,hend⟩ | ⟨request,next,hend⟩ := hends
  · obtain rfl := hend
    exact ⟨⟨hconsistent',hnotimer _,.inl rfl⟩,hrestart,hlawful,hrest.imp_right fun hidle hpending =>
      absurd hpending hidle⟩
  · obtain rfl := hend
    exact ⟨⟨hconsistent',hnotimer _,.inl rfl⟩,hrestart,hlawful,hrest.imp_right fun hidle hpending =>
      absurd hpending hidle⟩
  · obtain rfl := hend
    have hwaits : Waits (.ask request next) := ⟨request,next,rfl⟩
    refine ⟨⟨hconsistent',hnotimer _,.inr ⟨_,rfl,hwaits,?_⟩⟩,hrestart,hlawful,.inr fun _ => List.cons_ne_nil _ _⟩
    exact activation_waits hwaits hrest ⟨rfl,id⟩

section

variable (h : Sound catalog executionTracksEnabled supervisor)
include h

theorem sound_activation (hlive : supervisor.process.live)
    (hactivates : Activates catalog (fun _ state process => Ended state process) task supervisor.disk process)
    (htimer : process.activationTimer = false) (hrestartTimer : process.restartTimer = supervisor.process.restartTimer)
    (hwaiting : process.waiting = supervisor.process.waiting) (hbroken : supervisor.process.broken → process.broken) :
    Sound catalog executionTracksEnabled { supervisor with
        disk := (task.advance supervisor.disk).2
        process := { process with activations := unfinished (task.advance supervisor.disk).1 } } ∧
      Relation.ReflTransGen Lawful supervisor.disk (task.advance supervisor.disk).2 := by
  obtain ⟨hbehaves,hrestart,hlawful,hended⟩ := activation_goOn h.behaves.consistent htimer hactivates
  have hpending := h.behaves.pending hlive
  have hrely : ChainRelies (supervisor.disk,supervisor.process) ((task.advance supervisor.disk).2,
      { process with activations := unfinished (task.advance supervisor.disk).1 }) := by
    refine ⟨hrestart,fun hidle => absurd hpending hidle,fun hnot => absurd hlive hnot,fun hdue => ?_,hbroken⟩
    rw [Process.restartDue,hrestartTimer,hwaiting]
    exact hdue
  refine ⟨⟨hbehaves,fun rest hrunning => ?_,fun hidle htracks => ?_⟩,hlawful⟩
  · obtain ⟨⟨request,next,rfl⟩,hserves⟩ := h.running rest hrunning
    exact ⟨⟨request,next,rfl⟩,hserves.wait (fun _ _ _ => ChainRelies.trans) hrely⟩
  · rcases h.idle hidle htracks with hbroken' | ⟨hscheduled,hrestarting,-⟩
    · exact .inl (hbroken hbroken')
    · refine hended.imp_right fun hstill => ⟨fun hphase => ?_,?_,fun hpending => .inr (hstill hpending)⟩
      · rw [hrestart] at hphase
        exact hrely.restartDue (hscheduled hphase)
      · rw [hrestart]
        exact hrestarting

/-- Something comes to the end of the chain. -/
theorem sound_waiting (htimer : process.activationTimer = supervisor.process.activationTimer)
    (hactivations : process.activations = supervisor.process.activations)
    (hbroken : process.broken = supervisor.process.broken) (hdue : supervisor.process.restartDue → process.restartDue) :
    Sound catalog executionTracksEnabled { supervisor with process } := by
  have hlive : process.live ↔ supervisor.process.live := live_of_sameTimers htimer hactivations
  have hrely : ChainRelies (supervisor.disk,supervisor.process) (supervisor.disk,process) :=
    ⟨rfl,fun _ => rfl,fun hnot => ⟨rfl,fun h => hnot (hlive.mp h)⟩,hdue,fun h => hbroken.trans h⟩
  refine ⟨⟨h.behaves.consistent,?_,?_⟩,fun rest hrunning => ?_,fun hidle htracks => ?_⟩
  · rw [htimer,hactivations]
    exact h.behaves.timer
  · rw [hactivations]
    obtain hnone | ⟨task,hone,hwaits,hactivates⟩ := h.behaves.activations
    · exact .inl hnone
    · exact .inr ⟨task,hone,hwaits,activation_waits hwaits hactivates ⟨rfl,fun h => hbroken.trans h⟩⟩
  · obtain ⟨⟨request,next,rfl⟩,hserves⟩ := h.running rest hrunning
    exact ⟨⟨request,next,rfl⟩,hserves.wait (fun _ _ _ => ChainRelies.trans) hrely⟩
  · rcases h.idle hidle htracks with hbroken' | ⟨hscheduled,hrestarting,hpending⟩
    · exact .inl (hbroken.trans hbroken')
    · exact .inr ⟨fun hphase => hdue (hscheduled hphase),hrestarting,fun h => hlive.mpr (hpending h)⟩

theorem serves_call {call : MaintenanceCall} {waiting : List MaintenanceCall} (hidle : supervisor.running = none)
    (hwaiting : supervisor.process.waiting = call :: waiting) :
    Serves catalog (fun _ state process => executionTracksEnabled = false → Owed state process)
      (call.program catalog executionTracksEnabled) supervisor.disk { supervisor.process with waiting } := by
  have hsettled (htracks : executionTracksEnabled = false) : supervisor.process.broken ∨
      (supervisor.disk.restart.phase ≠ .restarting ∧ (supervisor.disk.updatePending → supervisor.process.live)) :=
    (h.idle hidle htracks).imp_right And.right
  have howed (hrequest : call.isRequest) (htracks : executionTracksEnabled = false) :
      Owed supervisor.disk { supervisor.process with waiting } := by
    refine (h.idle hidle htracks).imp_right fun ⟨hscheduled,hrest⟩ => ⟨fun hphase => ?_,hrest⟩
    rcases hscheduled hphase with htimer | ⟨startedAt,completedAt,hcall⟩
    · exact .inl htimer
    · rw [hwaiting] at hcall
      rcases List.mem_cons.mp hcall with rfl | hcall
      · cases hrequest
      · exact .inr ⟨startedAt,completedAt,hcall⟩
  cases call with
  | scheduleRestart mode restartId requestedAt scheduledAt =>
    exact serves_scheduleRestart h.behaves.consistent (howed rfl)
  | scheduleApply releaseId allowForwardOnly scheduledAt =>
    exact serves_scheduleApplyOnce h.behaves.consistent h.behaves.pending (howed rfl)
  | performScheduledRestart startedAt completedAt =>
    exact serves_performScheduledRestart h.behaves.consistent hsettled

end

theorem sound_started {disk : MaintenanceState} (h : Consistent catalog disk) (resumedAt : ℕ) :
    Sound catalog executionTracksEnabled (goOn ⟨disk,startedProcess,false,none⟩
      (startSupervisor catalog executionTracksEnabled resumedAt)) ∧
      Relation.ReflTransGen Lawful disk (goOn ⟨disk,startedProcess,false,none⟩
        (startSupervisor catalog executionTracksEnabled resumedAt)).disk := by
  have hbehaves : Behaves catalog (disk,startedProcess) := ⟨h,fun htimer => (by cases htimer),.inl rfl⟩
  have hlive : ¬ startedProcess.live := by simp [Process.live,startedProcess]
  exact sound_goOn hbehaves (serves_startSupervisor h hlive)

theorem sound_goesOn {supervisor supervisor' : GatewayUpdateSupervisor}
    (h : Sound catalog executionTracksEnabled supervisor)
    (hstep : GoesOn catalog releasesRoot executionTracksEnabled supervisor supervisor') :
    Sound catalog executionTracksEnabled supervisor' ∧
      Relation.ReflTransGen Lawful supervisor.disk supervisor'.disk := by
  cases hstep with
  | @next call waiting hidle hserving hwaiting =>
    have hkeeps : ChainKeeps catalog (supervisor.disk,supervisor.process)
        (supervisor.disk,{ supervisor.process with waiting }) :=
      ⟨id,lawful_refl _,fun _ => rfl,.inl,id,rfl,id⟩
    have hbehaves : Behaves catalog (supervisor.disk,{ supervisor.process with waiting }) := h.behaves.chain hkeeps
    have hserves := serves_call h hidle hwaiting
    exact sound_goOn hbehaves hserves
  | answer hrunning hanswer =>
    obtain ⟨-,hserves⟩ := h.running _ hrunning
    have hsame : ChainRelies (supervisor.disk,supervisor.process) (supervisor.disk,supervisor.process) :=
      ⟨rfl,fun _ => rfl,fun hlive => ⟨rfl,hlive⟩,id,id⟩
    obtain ⟨hkeeps,hserves'⟩ := (hserves _ _ hsame).2 _ _ hanswer
    exact sound_goOn (h.behaves.chain hkeeps) hserves'
  | restartTimer startedAt completedAt harmed =>
    refine ⟨sound_waiting h rfl rfl rfl fun _ => ?_,.refl⟩
    exact .inr ⟨startedAt,completedAt,List.mem_append_right _ List.mem_cons_self⟩
  | activationTimer harmed =>
    obtain ⟨hphase,hnone⟩ := h.behaves.timer harmed
    rw [hnone,List.nil_append]
    have hactivates : Activates catalog (fun _ state process => Ended state process) (activationTask catalog releasesRoot)
        supervisor.disk { supervisor.process with activationTimer := false } :=
      activates_activationTask hphase h.behaves.consistent.fit
    exact sound_activation h (.inl harmed) hactivates rfl rfl rfl id
  | @activation before after request rest reply process hactivations hanswer =>
    have hsome : supervisor.process.activations ≠ [] := by simp [hactivations]
    have hlive : supervisor.process.live := .inr hsome
    have htimer : supervisor.process.activationTimer = false :=
      Bool.eq_false_iff.mpr fun harmed => hsome (h.behaves.timer harmed).2
    obtain hnone | ⟨task,hone,-,hactivates⟩ := h.behaves.activations
    · exact absurd hnone hsome
    · obtain ⟨rfl,rfl,rfl⟩ : before = [] ∧ after = [] ∧ task = .ask request rest := by
        have heq := hone.symm.trans hactivations
        cases before with
        | nil =>
          obtain ⟨rfl,hafter⟩ := List.cons.inj heq
          exact ⟨rfl,hafter.symm,rfl⟩
        | cons first before => simp at heq
      obtain ⟨hkeeps,hactivates'⟩ := (hactivates _ _ ⟨rfl,id⟩).2 _ _ hanswer
      rw [List.nil_append,List.append_nil]
      exact sound_activation h hlive hactivates' (hkeeps.activationTimer.trans htimer) hkeeps.restartTimer hkeeps.waiting
        hkeeps.broken

theorem sound_step {supervisor supervisor' : GatewayUpdateSupervisor}
    (h : Sound catalog executionTracksEnabled supervisor)
    (hstep : Step catalog releasesRoot executionTracksEnabled supervisor supervisor') :
    Sound catalog executionTracksEnabled supervisor' ∧
      Relation.ReflTransGen Lawful supervisor.disk supervisor'.disk := by
  cases hstep with
  | goesOn hgoes => exact sound_goesOn h hgoes
  | request call hserving hrequest =>
    refine ⟨sound_waiting h rfl rfl rfl fun hdue => ?_,.refl⟩
    refine hdue.imp_right ?_
    rintro ⟨startedAt,completedAt,hcall⟩
    exact ⟨startedAt,completedAt,List.mem_append_left _ hcall⟩
  | crash resumedAt => exact sound_started h.behaves.consistent resumedAt

inductive Reached (catalog : List StateEntry) (releasesRoot : JsString) (executionTracksEnabled : Bool) :
    GatewayUpdateSupervisor → Prop
  | start {disk : MaintenanceState} (hconsistent : Consistent catalog disk) (resumedAt : ℕ) :
    Reached catalog releasesRoot executionTracksEnabled (goOn ⟨disk,startedProcess,false,none⟩
      (startSupervisor catalog executionTracksEnabled resumedAt))
  | step {supervisor supervisor' : GatewayUpdateSupervisor}
    (h : Reached catalog releasesRoot executionTracksEnabled supervisor)
    (hstep : Step catalog releasesRoot executionTracksEnabled supervisor supervisor') :
    Reached catalog releasesRoot executionTracksEnabled supervisor'

theorem Reached.sound (h : Reached catalog releasesRoot executionTracksEnabled supervisor) :
    Sound catalog executionTracksEnabled supervisor := by
  induction h with
  | start hconsistent resumedAt => exact (sound_started hconsistent resumedAt).1
  | step _ hstep ih => exact (sound_step ih hstep).1

def GatewayUpdateSupervisor.restarts (supervisor : GatewayUpdateSupervisor) : Prop :=
  (∃ rest,supervisor.running = some (.ask (.inr .restartGateway) rest)) ∨
    ∃ startedAt rest, supervisor.running = some (.ask (.inr (.waitForRestartHealth startedAt)) rest)

structure GatewayUpdateSupervisor.AtRest (supervisor : GatewayUpdateSupervisor) : Prop where
  running : supervisor.running = none
  waiting : supervisor.process.waiting = []
  activations : supervisor.process.activations = []
  activationTimer : supervisor.process.activationTimer = false
  restartTimer : supervisor.process.restartTimer = false

end Malink.Supervisor.Maintenance
