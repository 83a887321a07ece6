import Malink.GatewaySteps

/-!
# Failed executions become terminal

What the catch of a task makes of an error. A check of its terminal against the event schema that fails is only
logged, so an error text outside the bounds of the schema leaves the command dispatched.
-/

namespace Malink.Gateway

open Mlp3 CommandJournal Option

def Action.now : Action → ℕ
  | settleFailure _ now => now
  | _ => 0

variable {task : Task}

namespace State

variable {host : Host} {s s' : State}

def Caught (task : Task) (error : Thrown) : Prop := task.phase = .failed error ∨ task.phase = .settling error

variable {error : Thrown}

theorem Caught.same {task' : Task} (h : Caught task error) (hs : SameTask task task') : Caught task' error := by
  rw [Caught,hs.phase]
  exact h

theorem Caught.phase_ne (h : Caught task error) (phase : TaskPhase) (hf : phase ≠ .failed error)
    (hs : phase ≠ .settling error) : task.phase ≠ phase := by
  rcases h with h | h <;> rw [h]
  · exact hf.symm
  · exact hs.symm

theorem task_finishTask {id : ℕ} (hid : task.id = id) : (s.finishTask host task).task id = none := by
  rw [State.task,List.find?_eq_none]
  intro t ht
  have hne := of_decide_eq_true (List.mem_filter.mp ht).2
  simpa [hid] using hne

/-- A task in its catch takes one of two steps of its own, and both are steps of the catch. -/
theorem caught_step {action : Action} {id : ℕ} (ht : s.task id = some task) (hc : Caught task error)
    (h : s.step host action = some s') (hr : action.isRestart = false) :
    (∃ task',s'.task id = some task' ∧ task'.command = task.command ∧ task'.roomId = task.roomId ∧
      Caught task' error) ∨ (s'.task id = none ∧ s'.journal = s.journal ∧
      ((formatError error).isNone ∨ leavesUnfinished task.command error)) ∨
    (∃ now project terminal,s'.task id = none ∧ action = .settleFailure id now ∧ s.project task.roomId = some project ∧
      failureTerminal host project task.command error now = some terminal ∧
      s'.journal = (s.settleAndDeliver host task.command terminal error.isExecutionTimeout now).journal) := by
  by_cases hid : action.taskId = some id
  · have own : ∀ {f : Task → Option State},(s.task id).bind f = some s' → f task = some s' := by
      intro f hf
      rwa [ht,bind_some] at hf
    cases action with
    | enter id' =>
      cases hid
      replace h := own h
      simp only [enter,hc.phase_ne .waiting (by simp) (by simp),ne_eq,not_false_eq_true,
        true_or,if_true] at h
      cases h
    | markDispatched id' now =>
      cases hid
      replace h := own h
      simp only [markTaskDispatched,hc.phase_ne .dispatching (by simp) (by simp),ne_eq,
        not_false_eq_true,if_true] at h
      cases h
    | execute id' =>
      cases hid
      replace h := own h
      simp only [execute,hc.phase_ne .dispatched (by simp) (by simp),ne_eq,
        not_false_eq_true,if_true] at h
      cases h
    | beginAgentDispatch id' =>
      cases hid
      replace h := own h
      simp only [beginAgentDispatch,hc.phase_ne .executing (by simp) (by simp),ne_eq,
        not_false_eq_true,true_or,if_true] at h
      cases h
    | complete id' =>
      cases hid
      replace h := own h
      simp only [complete,hc.phase_ne .executing (by simp) (by simp),if_false] at h
      cases h
    | throw id' error' =>
      cases hid
      replace h := own h
      simp only [throw,hc.phase_ne .executing (by simp) (by simp),
        hc.phase_ne .waiting (by simp) (by simp),
        hc.phase_ne .dispatched (by simp) (by simp),false_or,false_and,and_false,if_false] at h
      cases h
    | expire id' timeoutMs =>
      cases hid
      replace h := own h
      simp only [expire,hc.phase_ne .executing (by simp) (by simp),ne_eq,
        not_false_eq_true,true_or,if_true] at h
      cases h
    | fail id' now =>
      cases hid
      replace h := own h
      rcases hc with hc | hc
      · simp only [fail,hc] at h
        split at h
        · next hleave =>
          cases h
          exact .inr (.inl ⟨task_finishTask (id_of_task ht),rfl,hleave⟩)
        · obtain ⟨project,-,rfl⟩ := map_eq_some_iff.mp h
          refine .inl ⟨{ task with phase := .settling error },?_,rfl,rfl,.inr rfl⟩
          exact task_setPhase ht (.settling error)
      · simp only [fail,hc] at h
        cases h
    | settleFailure id' now =>
      cases hid
      replace h := own h
      rcases hc with hc | hc
      · simp only [settleFailure,hc] at h
        cases h
      · simp only [settleFailure,hc,bind_eq_some_iff,map_eq_some_iff] at h
        obtain ⟨project,hproject,terminal,hterminal,rfl⟩ := h
        exact .inr (.inr ⟨now,project,terminal,task_finishTask (id_of_task ht),rfl,hproject,hterminal,rfl⟩)
    | _ => cases hid
  · obtain ⟨task',ht',hs⟩ := (step_transition h hr).others id task ht hid
    exact .inl ⟨task',ht',hs.command,hs.roomId,hc.same hs⟩

/-- A run during which a task stays alive. -/
def Survives (host : Host) (id : ℕ) (s : State) : List Action → Prop
  | [] => True
  | action :: actions =>
    action.isRestart = false ∧ ∀ s' ∈ s.step host action, (s'.task id).isSome ∧
      Survives host id s' actions

def decidableSurvives (host : Host) (id : ℕ) (s : State) :
    (actions : List Action) → Decidable (Survives host id s actions)
  | [] => isTrue trivial
  | _ :: actions =>
    have : ∀ s',Decidable (Survives host id s' actions) := fun s' => decidableSurvives host id s' actions
    inferInstanceAs (Decidable (_ ∧ _))

instance (id : ℕ) (s : State) (actions : List Action) : Decidable (Survives host id s actions) :=
  decidableSurvives host id s actions

/-- An execution that has thrown, up to the step that ends its task. -/
structure FailedExecution (host : Host) (s : State) (task : Task) (error : Thrown) (actions : List Action)
    (last : Action) (m s' : State) : Prop where
  alive : s.task task.id = some task
  thrown : task.phase = .failed error
  run : s.run host actions = some m
  survives : Survives host task.id s actions
  step : m.step host last = some s'
  running : last.isRestart = false
  ended : s'.task task.id = none

theorem caught_run {actions : List Action} {id : ℕ} {m : State} (ht : s.task id = some task)
    (hc : Caught task error) (h : s.run host actions = some m) (hs : Survives host id s actions) :
    ∃ task', m.task id = some task' ∧ task'.command = task.command ∧ task'.roomId = task.roomId ∧
      Caught task' error := by
  induction actions generalizing s task with
  | nil =>
    cases h
    exact ⟨task,ht,rfl,rfl,hc⟩
  | cons action actions ih =>
    obtain ⟨s',hs',h⟩ := bind_eq_some_iff.mp h
    obtain ⟨hsome,hsurvive⟩ := hs.2 s' hs'
    rcases caught_step ht hc hs' hs.1 with ⟨task',ht',hcommand,hroom,hc'⟩ | ⟨hnone,-⟩ |
      ⟨now,project,terminal,hnone,-⟩
    · obtain ⟨task'',ht'',hcommand',hroom',hc''⟩ := ih ht' hc' h hsurvive
      exact ⟨task'',ht'',hcommand'.trans hcommand,hroom'.trans hroom,hc''⟩
    · rw [hnone] at hsome
      cases hsome
    · rw [hnone] at hsome
      cases hsome

/-- Whether an error can be reported at all: a text of 1 to 8192 units, a turn that can be shown, and no
expired execution of the same command that holds the report back. -/
def isReportable (host : Host) (s : State) (task : Task) (error : Thrown) (now : ℕ) : Bool :=
  (formatError error).any (JsString.within · 1 8192) && isTimestamp now &&
    (s.project task.roomId).all (isTurnReportable host · task.command) &&
    (decide (commandKey task.command ∉ s.expiredCommandExecutions) || error.isExecutionTimeout)

theorem settles_failureTerminal {now : ℕ} {project : ProjectRuntime} {terminal : Terminal}
    (hvalid : commandSchema host.schemas task.command) (hproject : s.project task.roomId = some project)
    (hterminal : failureTerminal host project task.command error now = some terminal) :
    s.Settles host task.command terminal error.isExecutionTimeout ↔
      isReportable host s task error now := by
  obtain ⟨message,hmessage,rfl⟩ := map_eq_some_iff.mp hterminal
  rw [Settles,isMlp3CommandTerminal_failure hvalid,isReportable,hmessage,hproject]
  simp only [any_some,all_some,Bool.and_eq_true,Bool.or_eq_true,decide_eq_true_eq]
  tauto

/-- A failed execution other than an interrupted batch ends with a terminal row exactly when the error can be
reported at its last step, or the row is terminal by then. -/
theorem failedExecution_terminal_iff {task : Task} {error : Thrown} {actions : List Action} {last : Action}
    {m : State} {row : CommandRecord} (h : FailedExecution host s task error actions last m s')
    (hvalid : commandSchema host.schemas task.command = true)
    (hrow : s.journal.row (mlp3CommandKey task.command) = some row) (hc : row.command = task.command)
    (hleave : leavesUnfinished task.command error = false) :
    s'.journal.status (mlp3CommandKey task.command) = some .terminal ↔
      m.journal.status (mlp3CommandKey task.command) = some .terminal ∨
        isReportable host m task error last.now = true := by
  obtain ⟨task',ht',hcommand,hroom,hcaught⟩ := caught_run h.alive (.inl h.thrown) h.run h.survives
  obtain ⟨row',hrow',hc',-⟩ := run_advances h.run _ row hrow
  rcases caught_step ht' hcaught h.step h.running with ⟨task'',ht'',-⟩ | ⟨-,hjournal,hend⟩ |
    ⟨now,project,terminal,-,rfl,hproject,hterminal,hjournal⟩
  · rw [h.ended] at ht''
    cases ht''
  · rw [hcommand,hleave] at hend
    have hnone : isReportable host m task error last.now = false := by
      have hformat : formatError error = none := by simpa using hend
      simp [isReportable,hformat]
    rw [hjournal,hnone]
    simp
  · rw [hcommand,hroom] at *
    rw [hjournal,status_settleAndDeliver_iff hrow' (hc'.trans hc),settles_failureTerminal hvalid hproject hterminal]
    rfl

end State

def renameUnderWay : List Action :=
  [.start sampleProjects,.receive (sampleIncoming "$1" renameFirst) 1,.handle 1,.enter 0,
    .markDispatched 0 1,.execute 0]

def renameThrew (error : Thrown) : State :=
  ((stoppedOver .empty [] []).run sampleHost (renameUnderWay ++ [.throw 0 error])).getD
    (stoppedOver .empty [] [])

def renameTask (error : Thrown) : Task :=
  { (stoppedOver .empty [] []).newTask sampleHost "!project:home" renameFirst with phase := .failed error }

def renameSettling (error : Thrown) : State :=
  ((renameThrew error).run sampleHost [.fail 0 2]).getD (stoppedOver .empty [] [])

def renameEnded (error : Thrown) : State :=
  ((renameSettling error).step sampleHost (.settleFailure 0 2)).getD (stoppedOver .empty [] [])

set_option maxRecDepth 100000 in
theorem failedExecution_terminal_iff_offline :
    (renameEnded (plainError "offline")).journal.status (mlp3CommandKey renameFirst) = some .terminal :=
  (@State.failedExecution_terminal_iff sampleHost (renameThrew (plainError "offline"))
    (renameEnded (plainError "offline")) (renameTask (plainError "offline")) (plainError "offline")
    [.fail 0 2] (.settleFailure 0 2) (renameSettling (plainError "offline"))
    (((renameThrew (plainError "offline")).journal.row (mlp3CommandKey renameFirst)).get (by decide))
    ⟨by decide,by decide,by decide,by decide,by decide,by decide,by decide⟩ (by decide)
    (by decide) (by decide) (by decide)).mpr (.inr (by decide))

set_option maxRecDepth 100000 in
/-- An error without a text: the task ends and the command stays dispatched. -/
theorem emptyError_not_terminal :
    ¬ ∀ (host : Host) (s s' m : State) (task : Task) (error : Thrown) (actions : List Action)
        (last : Action) (row : CommandRecord), State.FailedExecution host s task error actions last m s' →
      commandSchema host.schemas task.command = true →
      s.journal.row (mlp3CommandKey task.command) = some row → row.command = task.command →
      State.leavesUnfinished task.command error = false →
      s'.journal.status (mlp3CommandKey task.command) = some .terminal := by
  intro h
  have hend := h sampleHost (renameThrew (plainError "")) (renameEnded (plainError ""))
    (renameSettling (plainError "")) (renameTask (plainError "")) (plainError "") [.fail 0 2]
    (.settleFailure 0 2)
    (((renameThrew (plainError "")).journal.row (mlp3CommandKey renameFirst)).get (by decide))
    ⟨by decide,by decide,by decide,by decide,by decide,by decide,by decide⟩
    (by decide) (by decide) (by decide) (by decide)
  exact absurd hend (by decide)

end Malink.Gateway
