import Malink.MaintenanceRuns
import Mathlib.Logic.Hydra
import Mathlib.Tactic.Abel

/-!
# What the process does by itself ends

A call that is asked for leads to the task of the call, that task to a timer, and the timer to a task that sets no
timer.
-/

namespace Malink.Supervisor.Maintenance

open DurableProgram Multiset
open Tracks (GatewayUpdatePhase ActivationMode)

variable {catalog : List StateEntry} {releasesRoot : JsString} {executionTracksEnabled : Bool}
  {supervisor supervisor' : GatewayUpdateSupervisor} {process process' : Process}

def Timeless (request : MaintenanceRequest) : Prop :=
  match request with
  | .inl _ => True
  | .inr request => request.arms = false

theorem timeless_activationTask : AsksOnly Timeless (activationTask catalog releasesRoot) :=
  asksOnly_embed (fun _ => trivial) _

theorem timeless_writeSameRestart (restartId : JsString) (change : GatewayRestartStatus → GatewayRestartStatus) :
    AsksOnly Timeless (writeSameRestart restartId change) :=
  AsksOnly.bind (asksOnly_perform rfl) fun _ _ => trivial

theorem timeless_performRestart (restartId : JsString) (startedAt completedAt : ℕ) :
    AsksOnly Timeless (performRestart restartId startedAt completedAt) := by
  have hrestart : AsksOnly Timeless (ask .restartGateway) := asksOnly_perform rfl
  have hhealth : AsksOnly Timeless (ask (.waitForRestartHealth startedAt)) := asksOnly_perform rfl
  refine (timeless_writeSameRestart _ _).bind fun _ => AsksOnly.handle ?_ fun error => ?_
  · exact hrestart.bind fun _ => hhealth.bind fun _ => timeless_writeSameRestart _ _
  · exact (timeless_writeSameRestart _ _).bind fun _ => trivial

theorem timeless_performScheduledRestart (startedAt completedAt : ℕ) :
    AsksOnly Timeless (performScheduledRestart startedAt completedAt) := by
  refine asksOnly_readState.mpr fun state => ?_
  split
  · trivial
  · split
    · trivial
    · exact timeless_performRestart _ _ _

open Classical in
noncomputable def taskWeight (task : Task Unit) : ℕ × Task Unit := (if AsksOnly Timeless task then 0 else 3,task)

def timerWeight : ℕ × Task Unit := (2,.pure ())

def callWeight (call : MaintenanceCall) : ℕ × Task Unit := (if call.isRequest then 4 else 1,.pure ())

def timerWork (process : Process) : Multiset (ℕ × Task Unit) :=
  (if process.restartTimer then {timerWeight} else 0) + (if process.activationTimer then {timerWeight} else 0)

noncomputable def work (supervisor : GatewayUpdateSupervisor) : Multiset (ℕ × Task Unit) :=
  timerWork supervisor.process + (supervisor.process.waiting.map callWeight : List _) +
    (supervisor.running.toList.map taskWeight : List _) + (supervisor.process.activations.map taskWeight : List _)

/-- One weight is less than another. -/
def Lighter : ℕ × Task Unit → ℕ × Task Unit → Prop := Prod.Lex (· < ·) RestOf

theorem lighter_wellFounded : WellFounded Lighter := WellFounded.prod_lex wellFounded_lt restOf_wellFounded

theorem lighter_of_lt {first second : ℕ × Task Unit} (h : first.1 < second.1) : Lighter first second :=
  Prod.Lex.left _ _ h

theorem taskWeight_le (task : Task Unit) : (taskWeight task).1 ≤ 3 := by
  unfold taskWeight
  split
  · exact Nat.zero_le 3
  · exact le_refl 3

variable {task : Task Unit} {weight : ℕ × Task Unit}

theorem lighter_timeless (h : AsksOnly Timeless task) (hweight : 0 < weight.1) : Lighter (taskWeight task) weight := by
  refine lighter_of_lt ?_
  rw [taskWeight,if_pos h]
  exact hweight

variable {request : MaintenanceRequest} {rest : Except JsString (MaintenanceRequest.Reply request) → Task Unit}

theorem lighter_rest (reply : Except JsString (MaintenanceRequest.Reply request)) (state : MaintenanceState) :
    Lighter (taskWeight ((rest reply).advance state).1) (taskWeight (.ask request rest)) := by
  have hrest : RestOf ((rest reply).advance state).1 (.ask request rest) := ⟨request,rest,reply,state,rfl,rfl⟩
  by_cases h : AsksOnly Timeless (.ask request rest)
  · have hadvance := (h.2 reply).advance state
    rw [taskWeight,taskWeight,if_pos h,if_pos hadvance]
    exact Prod.Lex.right _ hrest
  · by_cases hadvance : AsksOnly Timeless ((rest reply).advance state).1
    · refine lighter_timeless hadvance ?_
      rw [taskWeight,if_neg h]
      exact Nat.zero_lt_succ 2
    · rw [taskWeight,taskWeight,if_neg h,if_neg hadvance]
      exact Prod.Lex.right _ hrest

theorem timerWork_same (h : process' = process ∨ process' = { process with broken := true }) :
    process'.waiting = process.waiting ∧ process'.activations = process.activations ∧
      timerWork process' = timerWork process := by
  rcases h with rfl | rfl
  · exact ⟨rfl,rfl,rfl⟩
  · exact ⟨rfl,rfl,rfl⟩

theorem timerWork_answers {reply : Except JsString (MaintenanceRequest.Reply request)}
    (h : answers process request reply process') : process'.waiting = process.waiting ∧
      process'.activations = process.activations ∧ ∃ timers : Multiset (ℕ × Task Unit),
        timerWork process' = timerWork process + timers ∧
          ∀ weight ∈ timers, weight = timerWeight ∧ ¬ Timeless request := by
  have hnone (hsame : process' = process ∨ process' = { process with broken := true }) :
      process'.waiting = process.waiting ∧ process'.activations = process.activations ∧
        ∃ timers : Multiset (ℕ × Task Unit), timerWork process' = timerWork process + timers ∧
          ∀ weight ∈ timers, weight = timerWeight ∧ ¬ Timeless request := by
    obtain ⟨hwaiting,hactivations,htimers⟩ := timerWork_same hsame
    exact ⟨hwaiting,hactivations,0,by rw [htimers,add_zero],fun _ hweight => absurd hweight (notMem_zero _)⟩
  have hone (htimeless : ¬ Timeless request) (weight : ℕ × Task Unit) (hweight : weight ∈ ({timerWeight} : Multiset _)) :
      weight = timerWeight ∧ ¬ Timeless request :=
    ⟨mem_singleton.mp hweight,htimeless⟩
  cases request with
  | inl request => exact hnone (answers_inl h)
  | inr request =>
    cases request with
    | armActivation =>
      cases reply with
      | error error => cases h
      | ok value =>
        obtain rfl := h
        cases harmed : process.activationTimer with
        | true => exact hnone (.inl (by rw [← harmed]))
        | false =>
          refine ⟨rfl,rfl,{timerWeight},?_,hone (by simp [Timeless,HostRequest.arms])⟩
          simp [timerWork,harmed]
    | armRestart =>
      cases reply with
      | error error => cases h
      | ok value =>
        obtain rfl := h
        cases harmed : process.restartTimer with
        | true => exact hnone (.inl (by rw [← harmed]))
        | false =>
          refine ⟨rfl,rfl,{timerWeight},?_,hone (by simp [Timeless,HostRequest.arms])⟩
          simp [timerWork,harmed,add_comm]
    | persist | verifyStaged | readCurrentLink | installedBuildId | restartGateway | waitForRestartHealth =>
      exact hnone (answers_inr rfl h).1

noncomputable def restWork (task : Task Unit) : Multiset (ℕ × Task Unit) := ((unfinished task).map taskWeight : List _)

theorem mem_restWork (h : weight ∈ restWork task) : weight = taskWeight task := by
  unfold restWork unfinished at h
  split at h
  · cases h
  · cases h
  · simpa using h

theorem work_goOn (task : Task Unit) :
    work (supervisor.goOn task) = timerWork supervisor.process + (supervisor.process.waiting.map callWeight : List _) +
      restWork (task.advance supervisor.disk).1 + (supervisor.process.activations.map taskWeight : List _) := by
  have hends := advance_cases task supervisor.disk
  unfold GatewayUpdateSupervisor.goOn
  generalize task.advance supervisor.disk = advanced at hends
  obtain ⟨rest,disk⟩ := advanced
  obtain ⟨value,hend⟩ | ⟨error,hend⟩ | ⟨request,next,hend⟩ := hends
  · obtain rfl := hend
    rfl
  · obtain rfl := hend
    rfl
  · obtain rfl := hend
    rfl

theorem lighter_of_timer (h : ¬ Timeless request) : Lighter timerWeight (taskWeight (.ask request rest)) := by
  refine lighter_of_lt ?_
  rw [taskWeight,if_neg fun hasks => h hasks.1]
  exact Nat.lt_succ_self 2

theorem lighter_call (call : MaintenanceCall) (state : MaintenanceState) :
    Lighter (taskWeight ((call.program catalog executionTracksEnabled).advance state).1) (callWeight call) := by
  have hrequest (hkind : call.isRequest) :
      Lighter (taskWeight ((call.program catalog executionTracksEnabled).advance state).1) (callWeight call) := by
    refine lighter_of_lt ?_
    rw [callWeight,if_pos hkind]
    exact Nat.lt_succ_of_le (taskWeight_le _)
  cases call with
  | scheduleRestart | scheduleApply => exact hrequest rfl
  | performScheduledRestart startedAt completedAt =>
    exact lighter_timeless ((timeless_performScheduledRestart startedAt completedAt).advance state) Nat.one_pos

theorem work_decreases (hstep : GoesOn catalog releasesRoot executionTracksEnabled supervisor supervisor') :
    Relation.CutExpand Lighter (work supervisor') (work supervisor) := by
  cases hstep with
  | @next call waiting hidle hserving hwaiting =>
    refine ⟨restWork ((call.program catalog executionTracksEnabled).advance supervisor.disk).1,callWeight call,?_,?_⟩
    · intro weight hweight
      rw [mem_restWork hweight]
      exact lighter_call call supervisor.disk
    · rw [work_goOn,work,hidle,hwaiting]
      simp only [timerWork,Option.toList_none,List.map_nil,List.map_cons,← cons_coe,coe_nil,← singleton_add]
      abel
  | @answer request rest reply process hrunning hanswer =>
    obtain ⟨hwaiting,hactivations,timers,htimers,hadded⟩ := timerWork_answers hanswer
    refine ⟨timers + restWork ((rest reply).advance supervisor.disk).1,taskWeight (.ask request rest),?_,?_⟩
    · intro weight hweight
      rcases mem_add.mp hweight with hweight | hweight
      · obtain ⟨rfl,htimeless⟩ := hadded weight hweight
        exact lighter_of_timer htimeless
      · rw [mem_restWork hweight]
        exact lighter_rest reply supervisor.disk
    · rw [work_goOn,work,hrunning,hwaiting,hactivations,htimers]
      simp only [Option.toList_some,List.map_nil,List.map_cons,coe_singleton]
      abel
  | restartTimer startedAt completedAt harmed =>
    refine ⟨{callWeight (.performScheduledRestart startedAt completedAt)},timerWeight,?_,?_⟩
    · intro weight hweight
      rw [mem_singleton.mp hweight]
      exact lighter_of_lt Nat.one_lt_two
    · simp only [work,timerWork,harmed,List.map_append,List.map_cons,List.map_nil,← coe_add,
        coe_singleton,if_true,Bool.false_eq_true,if_false]
      abel
  | activationTimer harmed =>
    refine ⟨restWork ((activationTask catalog releasesRoot).advance supervisor.disk).1,timerWeight,?_,?_⟩
    · intro weight hweight
      rw [mem_restWork hweight]
      exact lighter_timeless (timeless_activationTask.advance supervisor.disk) Nat.two_pos
    · simp only [work,timerWork,harmed,List.map_append,← coe_add,restWork,if_true,Bool.false_eq_true,if_false]
      abel
  | @activation before after request rest reply process hactivations hanswer =>
    obtain ⟨hwaiting,-,timers,htimers,hadded⟩ := timerWork_answers hanswer
    refine ⟨timers + restWork ((rest reply).advance supervisor.disk).1,taskWeight (.ask request rest),?_,?_⟩
    · intro weight hweight
      rcases mem_add.mp hweight with hweight | hweight
      · obtain ⟨rfl,htimeless⟩ := hadded weight hweight
        exact lighter_of_timer htimeless
      · rw [mem_restWork hweight]
        exact lighter_rest reply supervisor.disk
    · have hsame : timerWork
        { process with activations := before ++ unfinished ((rest reply).advance supervisor.disk).1 ++ after } =
          timerWork supervisor.process + timers := htimers
      rw [work,work,hactivations,hsame,← hwaiting]
      simp only [List.map_append,List.map_cons,← coe_add,restWork,← cons_coe,← singleton_add]
      abel

theorem goesOn_ends (supervisor : GatewayUpdateSupervisor) :
    Acc (fun later earlier => GoesOn catalog releasesRoot executionTracksEnabled earlier later) supervisor :=
  Subrelation.accessible (fun h => work_decreases h) (InvImage.accessible work (lighter_wellFounded.cutExpand.apply _))

theorem exists_answer (process : Process) (request : MaintenanceRequest) :
    ∃ reply process', answers process request reply process' := by
  cases request with
  | inl request =>
    cases request with
    | persist => exact ⟨.ok (),process,rfl⟩
    | inspect | stop | backUp | writePlist | replaceSymlink | removeLink | restart | waitForHealth | verifyProbation =>
      exact ⟨.error "",process,rfl⟩
  | inr request =>
    cases request with
    | armActivation | armRestart | persist => exact ⟨.ok (),_,rfl⟩
    | verifyStaged | readCurrentLink | installedBuildId | restartGateway | waitForRestartHealth =>
      exact ⟨.error "",process,rfl⟩

theorem exists_goesOn (h : Sound catalog executionTracksEnabled supervisor) (hserving : supervisor.serving)
    (hrest : ¬ supervisor.AtRest) :
      ∃ supervisor', GoesOn catalog releasesRoot executionTracksEnabled supervisor supervisor' := by
  by_contra hstuck
  have hrunning : supervisor.running = none := by
    cases hrunning : supervisor.running with
    | none => rfl
    | some task =>
      obtain ⟨⟨request,rest,rfl⟩,-⟩ := h.running task hrunning
      obtain ⟨reply,process,hanswer⟩ := exists_answer supervisor.process request
      exact absurd ⟨_,.answer hrunning hanswer⟩ hstuck
  refine hrest ⟨hrunning,?_,?_,?_,?_⟩
  · cases hwaiting : supervisor.process.waiting with
    | nil => rfl
    | cons call waiting => exact absurd ⟨_,.next hrunning hserving hwaiting⟩ hstuck
  · obtain hnone | ⟨task,hone,⟨request,rest,rfl⟩,-⟩ := h.behaves.activations
    · exact hnone
    · obtain ⟨reply,process,hanswer⟩ := exists_answer supervisor.process request
      have hactivations : supervisor.process.activations = [] ++ .ask request rest :: [] := hone
      exact absurd ⟨_,.activation hactivations hanswer⟩ hstuck
  · exact Bool.eq_false_iff.mpr fun harmed => hstuck ⟨_,.activationTimer harmed⟩
  · exact Bool.eq_false_iff.mpr fun harmed => hstuck ⟨_,.restartTimer 0 0 harmed⟩

end Malink.Supervisor.Maintenance
