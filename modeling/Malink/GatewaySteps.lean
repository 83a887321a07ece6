import Malink.GatewayRuns

/-!
# What a step of the runner can do

Every action but the start and the end of a process is described once: what becomes of the tasks, of the journal and
of the records that the process holds.
-/

namespace Malink.Gateway

open Mlp3 CommandJournal Option List

def Action.isRestart : Action → Bool
  | start _ => true
  | crash => true
  | _ => false

def Action.taskId : Action → Option ℕ
  | enter id => some id
  | markDispatched id _ => some id
  | execute id => some id
  | beginAgentDispatch id => some id
  | complete id => some id
  | throw id _ => some id
  | expire id _ => some id
  | fail id _ => some id
  | settleFailure id _ => some id
  | _ => none

def Action.isRecovering : Action → Bool
  | readUnfinished => true
  | recoverNext _ => true
  | _ => false

variable {id now : ℕ} {task : Task} {tasks : List Task}

namespace State

variable {host : Host} {s s' : State}

structure SameTask (task task' : Task) : Prop where
  roomId : task'.roomId = task.roomId
  command : task'.command = task.command
  phase : task'.phase = task.phase

theorem SameTask.refl (task : Task) : SameTask task task := ⟨rfl,rfl,rfl⟩

theorem id_of_task (h : s.task id = some task) : task.id = id := by
  unfold State.task at h
  simpa using find?_some h

section

variable (h : tasks.find? (fun t => decide (t.id = id)) = some task)
include h

theorem find?_append_of_some (more : List Task) :
    (tasks ++ more).find? (fun t => decide (t.id = id)) = some task := by
  rw [find?_append,h,some_or]

theorem find?_filter_of_ne {id' : ℕ} (hne : id' ≠ id) :
    (tasks.filter (fun t => decide (t.id ≠ id'))).find? (fun t => decide (t.id = id)) = some task := by
  induction tasks with
  | nil => cases h
  | cons t tasks ih =>
    by_cases ht : t.id = id
    · simp only [find?_cons,ht,decide_true] at h
      have hkeep : t.id ≠ id' := fun hc => hne (hc.symm.trans ht)
      rw [filter_cons_of_pos (by simpa using hkeep),find?_cons_of_pos (by simpa using ht)]
      exact h
    · simp only [find?_cons,ht,decide_false] at h
      by_cases hkeep : t.id ≠ id'
      · rw [filter_cons_of_pos (by simpa using hkeep),find?_cons_of_neg (by simpa using ht)]
        exact ih h
      · rw [filter_cons_of_neg (by simpa using hkeep)]
        exact ih h

/-- Replacing a task keeps every task of another identifier, and the same task where little changes. -/
theorem find?_replace {old new : Task} (hid : new.id = old.id) (hsame : old.id = id → SameTask old new) :
    ∃ task', (tasks.map (fun t => if t = old then new else t)).find? (fun t => decide (t.id = id)) =
      some task' ∧ SameTask task task' := by
  induction tasks with
  | nil => cases h
  | cons t tasks ih =>
    by_cases ht : t.id = id
    · simp only [find?_cons,ht,decide_true,some.injEq] at h
      subst h
      by_cases ho : t = old
      · subst ho
        refine ⟨new,?_,hsame ht⟩
        simp [hid,ht]
      · exact ⟨t,by simp [ho,ht],.refl t⟩
    · simp only [find?_cons,ht,decide_false] at h
      obtain ⟨task',hfind,hs⟩ := ih h
      refine ⟨task',?_,hs⟩
      have hmap : (if t = old then new else t).id ≠ id := by
        split
        · next ho =>
          rw [hid,← ho]
          exact ht
        · exact ht
      rw [map_cons,find?_cons_of_neg (by simpa using hmap)]
      exact hfind

end

theorem task_finishTask_of_ne {ended : Task} (h : s.task id = some task) (hne : ended.id ≠ id) :
    (s.finishTask host ended).task id = some task :=
  find?_filter_of_ne h hne

theorem task_setPhase_of_ne {moved : Task} {phase : TaskPhase} (h : s.task id = some task)
    (hne : moved.id ≠ id) : ∃ task', (s.setPhase moved phase).task id = some task' ∧ SameTask task task' :=
  find?_replace h rfl (fun hc => absurd hc hne)

theorem find?_replace_self {new : Task}
    (h : tasks.find? (fun t => decide (t.id = id)) = some task) (hid : new.id = id) :
    (tasks.map (fun t => if t = task then new else t)).find? (fun t => decide (t.id = id)) = some new := by
  have htask : task.id = id := by simpa using find?_some h
  induction tasks with
  | nil => cases h
  | cons t tasks ih =>
    by_cases ht : t.id = id
    · simp only [find?_cons,ht,decide_true,some.injEq] at h
      subst h
      simp [hid]
    · simp only [find?_cons,ht,decide_false] at h
      have hne : t ≠ task := fun hc => ht (hc ▸ htask)
      simp only [map_cons,if_neg hne,find?_cons,ht,decide_false]
      exact ih h

theorem task_setPhase (h : s.task id = some task) (phase : TaskPhase) :
    (s.setPhase task phase).task id = some { task with phase } := by
  have hid : task.id = id := id_of_task h
  exact find?_replace_self h hid

theorem task_replacePrompt {moved : Task} (prompt : ScheduledPrompt) (h : s.task id = some task) :
    ∃ task', (s.replaceTask moved { moved with prompt }).task id = some task' ∧ SameTask task task' :=
  find?_replace h rfl (fun _ => ⟨rfl,rfl,rfl⟩)

/-- Nothing keeps a task from beginning any more. -/
def Ready (s : State) (task : Task) : Prop := task.phase ≠ .waiting ∨ ∀ id ∈ task.previous, ∀ t ∈ s.tasks, t.id ≠ id

/-- What the order of the sessions depends on. -/
structure SameTasks (s s' : State) : Prop where
  tasks : s'.tasks = s.tasks
  sessionChains : s'.sessionChains = s.sessionChains
  nextTask : s'.nextTask = s.nextTask

theorem SameTasks.refl (s : State) : SameTasks s s := ⟨rfl,rfl,rfl⟩

inductive TaskStep (host : Host) (s s' : State) : List CommandKey → Prop
  | keep (same : SameTasks s s') : TaskStep host s s' []
  | replace (task task' : Task) (mem : task ∈ s.tasks) (id : task'.id = task.id)
      (roomId : task'.roomId = task.roomId) (command : task'.command = task.command)
      (previous : task'.previous = task.previous) (ready : task'.phase = .waiting ∨ s.Ready task)
      (same : SameTasks (s.replaceTask task task') s') : TaskStep host s s' []
  | finish (task : Task) (mem : task ∈ s.tasks) (ready : s.Ready task)
      (same : SameTasks (s.finishTask host task) s') : TaskStep host s s' []
  | schedule (es : List (JsString × CommandRecord))
      (same : SameTasks (es.foldl (fun s e => s.scheduleExecution host e.1 e.2) s) s') :
      TaskStep host s s' (es.map (fun e => mlp3CommandKey e.2.command))

def KeepsAcceptances (journal journal' : CommandJournal) : Prop :=
  ∀ key row, journal.row key = some row → ∃ row', journal'.row key = some row' ∧
    row'.command = row.command ∧ row'.roomId = row.roomId ∧ row'.acceptedAt = row.acceptedAt

theorem KeepsAcceptances.refl (journal : CommandJournal) : KeepsAcceptances journal journal :=
  fun _ row h => ⟨row,h,rfl,rfl,rfl⟩

theorem KeepsAcceptances.trans {journal journal' journal'' : CommandJournal}
    (h : KeepsAcceptances journal journal') (h' : KeepsAcceptances journal' journal'') :
    KeepsAcceptances journal journal'' := by
  intro key row hrow
  obtain ⟨row',hrow',hc,hr,ha⟩ := h key row hrow
  obtain ⟨row'',hrow'',hc',hr',ha'⟩ := h' key row' hrow'
  exact ⟨row'',hrow'',hc'.trans hc,hr'.trans hr,ha'.trans ha⟩

theorem keepsAcceptances_of_progresses {journal journal' : CommandJournal} (h : Progresses journal journal') :
    KeepsAcceptances journal journal' := by
  intro key row hrow
  obtain ⟨progress,hrow',-⟩ := h key row hrow
  exact ⟨_,hrow',rfl,rfl,rfl⟩

def scheduledKeys (host : Host) (s : State) : Action → List CommandKey
  | .archiveItem id roomId sessionId itemCommandId now =>
    match s.executing id, s.registeredProject roomId with
    | some task, some project =>
      let child := archiveItemCommand task.command project.projectId sessionId itemCommandId
      match s.journal.claim child now none with
      | .ok (claim,_) =>
        if claim.record.status = .terminal ∨ s.activeCommands.has (commandKey child) then []
        else [mlp3CommandKey child]
      | .error _ => []
    | _, _ => []
  | action => (scheduledBy host s action).map (fun record => mlp3CommandKey record.command)

/-- What a step of one process does to the tasks, to what is accepted and to the rows in recovery. -/
structure Moves (host : Host) (s : State) (action : Action) (s' : State) : Prop where
  tasks : TaskStep host s s' (scheduledKeys host s action)
  journal : KeepsAcceptances s.journal s'.journal
  recovery : action.isRecovering = false → s'.recovery = s.recovery

theorem ready_of_previous (h : task.previous.any (fun id => (s.task id).isSome) = false) : s.Ready task := by
  refine .inr fun id hid t ht heq => ?_
  have hnone := any_eq_false.mp h id hid
  apply hnone
  unfold State.task
  rw [find?_isSome]
  exact ⟨t,ht,decide_eq_true heq⟩

/-- Every task but the one that the action moves along is as it was. -/
def KeepsOthers (action : Action) (s s' : State) : Prop :=
  ∀ id task, s.task id = some task → action.taskId ≠ some id →
    ∃ task', s'.task id = some task' ∧ SameTask task task'

variable {action : Action}

theorem keepsOthers_append {more : List Task} (h : s'.tasks = s.tasks ++ more) : KeepsOthers action s s' := by
  intro id task ht _
  refine ⟨task,?_,.refl task⟩
  rw [State.task,h]
  exact find?_append_of_some ht more

theorem keepsOthers_same (h : s'.tasks = s.tasks) : KeepsOthers action s s' :=
  keepsOthers_append (h.trans (append_nil _).symm)

/-- What a step of one process does. -/
structure Transition (host : Host) (s : State) (action : Action) (s' : State) : Prop where
  journal : Progresses s.journal s'.journal
  children : s.batchChildren ⊆ s'.batchChildren
  handler : action.isHandling = false → s'.handler = s.handler
  keyed : s.Keyed → s'.Keyed
  records : ∀ r ∈ s'.recoveryRecords, r ∈ s.recoveryRecords ∨ action = .readUnfinished ∧ r ∈ s.journal.unfinished
  recovery : action.isRecovering = false → s'.recovery = s.recovery
  work : Work host s action s'
  tasks : TaskStep host s s' (scheduledKeys host s action)
  others : KeepsOthers action s s'

/-- What the steps of the tasks leave alone. -/
structure Frame (s s' : State) : Prop where
  children : s'.batchChildren = s.batchChildren
  handler : s'.handler = s.handler
  deferred : s'.deferredUpdateCommands = s.deferredUpdateCommands
  recovery : s'.recovery = s.recovery

theorem keyed_of_eq (hhandler : s'.handler = s.handler) (hdeferred : s'.deferredUpdateCommands = s.deferredUpdateCommands)
    (h : s.Keyed) : s'.Keyed :=
  ⟨fun hc => h.claimed (hhandler ▸ hc),fun hc => h.deferred (hdeferred ▸ hc)⟩

theorem Frame.transition (frame : Frame s s') (journal : Progresses s.journal s'.journal) (work : Work host s action s')
    (tasks : TaskStep host s s' (scheduledKeys host s action)) (others : KeepsOthers action s s') :
    Transition host s action s' where
  journal := journal
  children := frame.children ▸ List.Subset.refl _
  handler := fun _ => frame.handler
  keyed := keyed_of_eq frame.handler frame.deferred
  records := by
    rw [recoveryRecords,recoveryRecords,frame.recovery]
    exact fun r hr => .inl hr
  recovery := fun _ => frame.recovery
  work := work
  tasks := tasks
  others := others

theorem transition_keep (hkeys : scheduledKeys host s action = []) (journal : Progresses s.journal s'.journal)
    (same : SameTasks s s') (frame : Frame s s') (ghosts : SameGhosts s s') : Transition host s action s' :=
  frame.transition journal (.quiet (same.tasks ▸ .refl _) ghosts) (hkeys ▸ .keep same) (keepsOthers_same same.tasks)

theorem transition_handling (hkeys : scheduledKeys host s action = []) (hhandling : action.isHandling)
    (journal : Progresses s.journal s'.journal) (keyed : s.Keyed → s'.Keyed) (same : SameTasks s s')
    (children : s'.batchChildren = s.batchChildren) (recovery : s'.recovery = s.recovery) (ghosts : SameGhosts s s') :
    Transition host s action s' where
  journal := journal
  children := children ▸ List.Subset.refl _
  handler := fun h => absurd (hhandling.symm.trans h) (by decide)
  keyed := keyed
  records := by
    rw [recoveryRecords,recoveryRecords,recovery]
    exact fun r hr => .inl hr
  recovery := fun _ => recovery
  work := .quiet (same.tasks ▸ .refl _) ghosts
  tasks := hkeys ▸ .keep same
  others := keepsOthers_same same.tasks

theorem transition_recovering (hkeys : scheduledKeys host s action = []) (hrecovering : action.isRecovering)
    (journal : Progresses s.journal s'.journal) (children : s'.batchChildren = s.batchChildren)
    (handler : s'.handler = s.handler) (deferred : s'.deferredUpdateCommands = s.deferredUpdateCommands)
    (records : ∀ r ∈ s'.recoveryRecords,r ∈ s.recoveryRecords ∨ action = .readUnfinished ∧ r ∈ s.journal.unfinished)
    (same : SameTasks s s') (work : Work host s action s') : Transition host s action s' where
  journal := journal
  children := children ▸ List.Subset.refl _
  handler := fun _ => handler
  keyed := keyed_of_eq handler deferred
  records := records
  recovery := fun h => absurd (hrecovering.symm.trans h) (by decide)
  work := work
  tasks := hkeys ▸ .keep same
  others := keepsOthers_same same.tasks

section Tasks

variable {id : ℕ} {task : Task} {phase : TaskPhase}

/-- A task that nothing holds back moves to another phase, no closer to the beginning of its body. -/
theorem transition_setPhase (hkeys : scheduledKeys host s action = []) (ht : s.task id = some task)
    (hid : action.taskId = some id) (hready : s.Ready task)
    (hp : phase.isPending → task.phase.isPending) (hd : phase ≠ .dispatched)
    (journal : s'.journal = s.journal) (same : SameTasks (s.setPhase task phase) s') (frame : Frame s s')
    (ghosts : SameGhosts s s') : Transition host s action s' := by
  have hm := mem_of_task ht
  refine frame.transition (journal ▸ .refl _) (.quiet ?_ ghosts)
    (hkeys ▸ .replace task { task with phase } hm rfl rfl rfl rfl (.inr hready) same) fun other kept hkept hne => ?_
  · rw [same.tasks]
    exact noNewWork_replace hm rfl hp (fun h => absurd h hd)
  · rw [State.task,same.tasks]
    exact task_setPhase_of_ne hkept fun heq => hne (by rw [hid,← heq,id_of_task ht])

theorem transition_prompt (hkeys : scheduledKeys host s action = []) (prompt : ScheduledPrompt) (hm : task ∈ s.tasks) :
    Transition host s action (s.replaceTask task { task with prompt }) := by
  refine Frame.transition ⟨rfl,rfl,rfl,rfl⟩ (.refl _) (.quiet (noNewWork_replace hm rfl id id) ⟨rfl,rfl,rfl⟩)
    (hkeys ▸ .replace task { task with prompt } hm rfl rfl rfl rfl ?_ (.refl _))
    fun _ _ hkept _ => task_replacePrompt prompt hkept
  by_cases hphase : task.phase = .waiting
  · exact .inl hphase
  · exact .inr (.inl hphase)

theorem transition_finish (hkeys : scheduledKeys host s action = []) (ht : s.task id = some task)
    (hid : action.taskId = some id) (hready : s.Ready task) (journal : Progresses s.journal s'.journal)
    (same : SameTasks (s.finishTask host task) s') (frame : Frame s s') (ghosts : SameGhosts s s') :
    Transition host s action s' := by
  refine frame.transition journal (.quiet ?_ ghosts) (hkeys ▸ .finish task (mem_of_task ht) hready same)
    fun other kept hkept hne => ⟨kept,?_,.refl kept⟩
  · rw [same.tasks]
    exact noNewWork_filter _ _
  · rw [State.task,same.tasks]
    exact task_finishTask_of_ne hkept fun heq => hne (by rw [hid,← heq,id_of_task ht])

end Tasks

theorem receive_transition {incoming : Incoming} (h : s.receive host incoming now = some s') :
    Transition host s (.receive incoming now) s' := by
  unfold receive at h
  split at h
  · cases h
  obtain ⟨project,-,h⟩ := bind_eq_some_iff.mp h
  split at h
  · cases h
  simp only at h
  split at h
  · cases h
    exact transition_handling rfl rfl (.refl _) id (.refl _) rfl rfl ⟨rfl,rfl,rfl⟩
  · next claim journal hclaim =>
    cases h
    refine transition_handling rfl rfl (claim_progresses hclaim) (fun h => ⟨fun hc => ?_,h.deferred⟩) ⟨rfl,rfl,rfl⟩
      rfl rfl ⟨rfl,rfl,rfl⟩
    cases hc
    exact (claim_eq_ok hclaim).1

theorem handle_transition (h : s.handle host now = some s') : Transition host s (.handle now) s' := by
  unfold handle at h
  split at h
  · next roomId command claim rejection hh =>
    obtain ⟨project,hp,h⟩ := map_eq_some_iff.mp h
    have hscheduled : scheduledBy host s (.handle now) =
        if s.decision project command claim.record rejection = .schedule then [claim.record] else [] := by
      simp [scheduledBy,hh,hp]
    have hkeys : scheduledKeys host s (.handle now) =
        (scheduledBy host s (.handle now)).map (fun record => mlp3CommandKey record.command) := rfl
    cases hd : s.decision project command claim.record rejection with
    | schedule =>
      simp only [hd] at h
      rw [hd,if_pos rfl] at hscheduled
      rw [hscheduled] at hkeys
      subst h
      exact {
        journal := .refl _
        children := List.Subset.refl _
        handler := fun h => by cases h
        keyed := fun h => ⟨fun hc => (by cases hc),h.deferred⟩
        records := fun r hr => .inl hr
        recovery := fun _ => rfl
        work := .schedule (fun key => by rw [hscheduled]; exact pendingCount_scheduleExecution roomId claim.record key)
          (noNewDispatched_scheduleExecution roomId claim.record) ⟨rfl,rfl,rfl⟩
        tasks := hkeys ▸ .schedule [(roomId,claim.record)] ⟨rfl,rfl,rfl⟩
        others := keepsOthers_append rfl }
    | _ =>
      simp only [hd] at h
      rw [hscheduled,hd] at hkeys
      subst h
      refine transition_handling hkeys rfl (.refl _) (fun h => ⟨fun hc => (by cases hc),fun he => ?_⟩) ⟨rfl,rfl,rfl⟩
        rfl rfl ⟨rfl,rfl,rfl⟩
      first
      | exact h.deferred he
      | rw [InsertionMap.get_set] at he
        split at he
        · next hk =>
          cases he
          rw [hk,h.claimed hh]
        · exact h.deferred he
  · cases h

theorem settleHandled_transition (h : s.settleHandled host now = some s') :
    Transition host s (.settleHandled now) s' := by
  have hsettle (command : Command) (terminal : Terminal)
      (hs : { s with handler := .idle }.settleAndDeliver host command terminal false now = s') :
      Transition host s (.settleHandled now) s' := by
    obtain ⟨journal,hj,he⟩ := settleAndDeliver_eq host { s with handler := .idle } command terminal false now
    rw [← hs,he]
    exact transition_handling rfl rfl hj (fun h => ⟨fun hc => (by cases hc),h.deferred⟩) ⟨rfl,rfl,rfl⟩ rfl rfl
      ⟨rfl,rfl,rfl⟩
  unfold settleHandled at h
  split at h
  · obtain ⟨project,-,h⟩ := bind_eq_some_iff.mp h
    obtain ⟨terminal,-,h⟩ := map_eq_some_iff.mp h
    exact hsettle _ terminal h
  · obtain ⟨project,-,h⟩ := map_eq_some_iff.mp h
    exact hsettle _ _ h
  · cases h

theorem recoverNext_transition (h : s.recoverNext host now = some s') : Transition host s (.recoverNext now) s' := by
  unfold recoverNext at h
  split at h
  · next hrecovery =>
    cases h
    exact transition_recovering (by simp [scheduledKeys,scheduledBy,hrecovery]) rfl (.refl _) rfl rfl rfl
      (fun r hr => by cases hr) ⟨rfl,rfl,rfl⟩ (.quiet (.refl _) ⟨rfl,rfl,rfl⟩)
  · next record records hrecovery =>
    have hmem : record ∈ s.recoveryRecords := by simp [recoveryRecords,hrecovery]
    have hrecords : ∀ r ∈ records,r ∈ s.recoveryRecords ∨
        Action.recoverNext now = .readUnfinished ∧ r ∈ s.journal.unfinished :=
      fun r hr => .inl (by simp [recoveryRecords,hrecovery,hr])
    have hdecision : { s with recovery := .recovering records }.recoveryDecision host record now =
        s.recoveryDecision host record now := rfl
    have hkeys : scheduledKeys host s (.recoverNext now) =
        (scheduledBy host s (.recoverNext now)).map (fun record => mlp3CommandKey record.command) := rfl
    cases h
    unfold recoverRecord
    rw [hdecision]
    cases hd : s.recoveryDecision host record now with
    | skip =>
      exact transition_recovering (by simp [hkeys,scheduledBy,hrecovery,hd]) rfl (.refl _) rfl rfl rfl hrecords
        ⟨rfl,rfl,rfl⟩ (.quiet (.refl _) ⟨rfl,rfl,rfl⟩)
    | schedule roomId =>
      have hscheduled : scheduledBy host s (.recoverNext now) = [record] := by simp [scheduledBy,hrecovery,hd]
      rw [hscheduled] at hkeys
      exact {
        journal := .refl _
        children := List.Subset.refl _
        handler := fun _ => rfl
        keyed := fun h => ⟨h.claimed,h.deferred⟩
        records := hrecords
        recovery := fun h => by cases h
        work := .schedule (fun key => by rw [hscheduled]; exact pendingCount_scheduleExecution roomId record key)
          (noNewDispatched_scheduleExecution roomId record) ⟨rfl,rfl,rfl⟩
        tasks := hkeys ▸ .schedule [(roomId,record)] ⟨rfl,rfl,rfl⟩
        others := keepsOthers_append rfl }
    | complete terminal caught =>
      obtain ⟨journal,hj,he⟩ := settleAndDeliver_eq host { s with recovery := .recovering records }
        record.command terminal false now
      have hnone : scheduledKeys host s (.recoverNext now) = [] := by simp [hkeys,scheduledBy,hrecovery,hd]
      simp only [he]
      split
      · exact transition_recovering hnone rfl hj rfl rfl rfl (fun r hr => by cases hr) ⟨rfl,rfl,rfl⟩
          (.quiet (.refl _) ⟨rfl,rfl,rfl⟩)
      · exact transition_recovering hnone rfl hj rfl rfl rfl hrecords ⟨rfl,rfl,rfl⟩ (.quiet (.refl _) ⟨rfl,rfl,rfl⟩)
    | interrupt terminal =>
      obtain ⟨journal,hj,he⟩ := settleAndDeliver_eq host { s with recovery := .recovering records }
        record.command terminal false now
      have hnone : scheduledKeys host s (.recoverNext now) = [] := by simp [hkeys,scheduledBy,hrecovery,hd]
      obtain ⟨hstatus,hoperation⟩ := recoveryDecision_interrupt hd
      simp only [he]
      refine transition_recovering hnone rfl hj rfl rfl rfl hrecords ⟨rfl,rfl,rfl⟩ ?_
      cases hnow : { s with recovery := .recovering records }.settlesNow host record.command terminal now with
      | false => exact .quiet (.refl _) ⟨rfl,rfl,rfl⟩
      | true =>
        simp only [settlesNow,he,Bool.and_eq_true,decide_eq_true_eq] at hnow
        exact .interrupt record hmem hstatus hoperation hnow.2 rfl rfl rfl rfl
  · cases h

section Bodies

variable {id : ℕ} {task : Task} {now : ℕ}

theorem enter_transition (ht : s.task id = some task) (h : s.enter host task = some s') :
    Transition host s (.enter id) s' := by
  unfold enter at h
  split at h
  · cases h
  · next hwaits =>
    have hready : s.Ready task := ready_of_previous (by simpa using fun hany => hwaits (.inr hany))
    have hphase : task.phase = .waiting := by
      by_contra hne
      exact hwaits (.inl hne)
    split at h
    · cases h
      exact transition_finish rfl ht rfl hready (.refl _) (.refl _) ⟨rfl,rfl,rfl,rfl⟩ ⟨rfl,rfl,rfl⟩
    · cases h
      exact transition_setPhase rfl ht rfl hready (fun _ => by rw [hphase]; rfl) (by decide) rfl (.refl _)
        ⟨rfl,rfl,rfl,rfl⟩ ⟨rfl,rfl,rfl⟩

theorem markTaskDispatched_transition (ht : s.task id = some task) (h : s.markTaskDispatched task now = some s') :
    Transition host s (.markDispatched id now) s' := by
  unfold markTaskDispatched at h
  split at h
  · cases h
  · next hphase =>
    have hready : s.Ready task := .inl (by rw [not_not.mp hphase]; simp)
    have hpending : task.phase.isPending := by rw [not_not.mp hphase]; rfl
    split at h
    · cases h
      exact transition_setPhase rfl ht rfl hready (fun hc => by cases hc) (by simp) rfl (.refl _) ⟨rfl,rfl,rfl,rfl⟩
        ⟨rfl,rfl,rfl⟩
    · next journal hmark =>
      cases h
      have hm := mem_of_task ht
      obtain ⟨row,hrow,hc,hj⟩ := markDispatched_eq_ok.mp hmark
      have hspent : ∃ row,journal.row (mlp3CommandKey task.command) = some row ∧ row.status ≠ .accepted := by
        split at hj
        · refine ⟨{ row with progress := .dispatched now },?_,fun hs => by cases hs⟩
          rw [hj,row_put,if_pos (by rw [hc])]
        · next hs => exact ⟨row,by rw [hj,hrow],hs⟩
      refine Frame.transition ⟨rfl,rfl,rfl,rfl⟩ (markDispatched_progresses hmark)
        (.mark task (pendingCount_map_replace_le rfl fun _ => hpending) ?_ hspent rfl rfl rfl)
        (.replace task { task with phase := .dispatched } hm rfl rfl rfl rfl (.inr hready) ⟨rfl,rfl,rfl⟩)
        fun other kept hkept hne => task_setPhase_of_ne hkept fun heq => hne ?_
      · intro t' ht' hp'
        obtain ⟨t,ht,rfl⟩ := mem_map.mp ht'
        by_cases he : t = task
        · rw [if_pos he]
          exact .inl rfl
        · rw [if_neg he] at hp' ⊢
          exact .inr ⟨t,ht,hp',rfl⟩
      · rw [← heq,id_of_task ht]
        rfl

theorem execute_transition (ht : s.task id = some task) (h : s.execute host task = some s') :
    Transition host s (.execute id) s' := by
  unfold execute at h
  split at h
  · cases h
  · next hphase =>
    have hp : task.phase = .dispatched := not_not.mp hphase
    have hready : s.Ready task := .inl (by rw [hp]; simp)
    split at h
    · cases h
      exact transition_finish rfl ht rfl hready (.refl _) (.refl _) ⟨rfl,rfl,rfl,rfl⟩ ⟨rfl,rfl,rfl⟩
    · cases h
      have hm := mem_of_task ht
      have hpending : task.phase.isPending := by rw [hp]; rfl
      have hnew : NoNewWork s.tasks (s.tasks.map (fun t => if t = task then { task with phase := .executing } else t)) :=
        noNewWork_replace hm rfl (fun hc => by cases hc) (fun hc => by cases hc)
      refine Frame.transition ⟨rfl,rfl,rfl,rfl⟩ (.refl _)
        (.begin task hm hp hnew.pending (pendingCount_replace_lt hm hpending rfl) hnew.dispatched rfl rfl rfl)
        (.replace task { task with phase := .executing } hm rfl rfl rfl rfl (.inr hready) ⟨rfl,rfl,rfl⟩)
        fun other kept hkept hne => task_setPhase_of_ne hkept fun heq => hne ?_
      rw [← heq,id_of_task ht]
      rfl

theorem archiveItem_transition {roomId sessionId itemCommandId : JsString} (hexecuting : s.executing id = some task)
    (h : s.archiveItem host task roomId sessionId itemCommandId now = some s') :
    Transition host s (.archiveItem id roomId sessionId itemCommandId now) s' := by
  unfold archiveItem at h
  split at h
  · cases h
  obtain ⟨project,hproject,h⟩ := bind_eq_some_iff.mp h
  split at h
  · cases h
  simp only at h
  split at h
  · cases h
  · next claim journal hclaim =>
    have hcommand := (claim_eq_ok hclaim).1
    split at h
    · next hactive =>
      cases h
      have hkeys : scheduledKeys host s (.archiveItem id roomId sessionId itemCommandId now) = [] := by
        simp only [scheduledKeys,hexecuting,hproject,hclaim,if_pos hactive]
      exact {
        journal := claim_progresses hclaim
        children := subset_cons_self _ _
        handler := fun _ => rfl
        keyed := fun h => ⟨h.claimed,h.deferred⟩
        records := fun r hr => .inl hr
        recovery := fun _ => rfl
        work := .quiet (.refl _) ⟨rfl,rfl,rfl⟩
        tasks := hkeys ▸ .keep ⟨rfl,rfl,rfl⟩
        others := keepsOthers_same rfl }
    · next hactive =>
      cases h
      have hkeys : scheduledKeys host s (.archiveItem id roomId sessionId itemCommandId now) =
          [mlp3CommandKey claim.record.command] := by
        simp only [scheduledKeys,hexecuting,hproject,hclaim,if_neg hactive,hcommand]
      refine {
        journal := claim_progresses hclaim
        children := subset_cons_self _ _
        handler := fun _ => rfl
        keyed := fun h => ⟨h.claimed,h.deferred⟩
        records := fun r hr => .inl hr
        recovery := fun _ => rfl
        work := .child _ (mem_cons_self ..) (fun key' hk => ?_)
          (noNewDispatched_scheduleExecution roomId claim.record) ⟨rfl,rfl,rfl⟩
        tasks := hkeys ▸ .schedule [(roomId,claim.record)] ⟨rfl,rfl,rfl⟩
        others := keepsOthers_append rfl }
      rw [pendingCount_scheduleExecution]
      simp only [recordCount,countP_singleton,hcommand,decide_eq_true_eq,hk.symm,if_false,Nat.add_zero]

theorem fail_transition (ht : s.task id = some task) (h : s.fail host task now = some s') :
    Transition host s (.fail id now) s' := by
  unfold fail at h
  split at h
  · next hphase =>
    have hready : s.Ready task := .inl (by rw [hphase]; simp)
    split at h
    · cases h
      exact transition_finish rfl ht rfl hready (.refl _) (.refl _) ⟨rfl,rfl,rfl,rfl⟩ ⟨rfl,rfl,rfl⟩
    · obtain ⟨project,-,rfl⟩ := map_eq_some_iff.mp h
      exact transition_setPhase rfl ht rfl hready (fun hc => by cases hc) (by simp) rfl ⟨rfl,rfl,rfl⟩
        ⟨rfl,rfl,rfl,rfl⟩ ⟨rfl,rfl,rfl⟩
  · cases h

end Bodies

variable (host) in
theorem foldl_scheduleExecution (es : List (JsString × CommandRecord)) (s : State) :
    ∃ s' : State, es.foldl (fun s e => s.scheduleExecution host e.1 e.2) s = s' ∧ s'.journal = s.journal ∧
      Frame s s' ∧ (∀ key,pendingCount s'.tasks key = pendingCount s.tasks key + recordCount (es.map Prod.snd) key) ∧
      NoNewDispatched s.tasks s'.tasks ∧ SameGhosts s s' ∧ (∃ more,s'.tasks = s.tasks ++ more) ∧
      ∀ t : State, SameTasks s t → SameTasks s' (es.foldl (fun s e => s.scheduleExecution host e.1 e.2) t) := by
  induction es generalizing s with
  | nil =>
    exact ⟨s,rfl,rfl,⟨rfl,rfl,rfl,rfl⟩,fun _ => rfl,(NoNewWork.refl _).dispatched,⟨rfl,rfl,rfl⟩,
      ⟨[],(append_nil _).symm⟩,fun _ h => h⟩
  | cons e es ih =>
    obtain ⟨s',he,hj,hf,hp,hn,hg,⟨more,hmore⟩,hs⟩ := ih (s.scheduleExecution host e.1 e.2)
    refine ⟨s',he,hj,⟨hf.children,hf.handler,hf.deferred,hf.recovery⟩,fun key => ?_,fun t' ht' hp' => ?_,
      ⟨hg.begun,hg.dispatchedHere,hg.interruptedHere⟩,⟨_,hmore.trans (append_assoc ..)⟩,
      fun t ht => hs _ ⟨?_,?_,?_⟩⟩
    · rw [hp,pendingCount_scheduleExecution,Nat.add_assoc]
      simp only [recordCount,map_cons,countP_cons,countP_nil,Nat.zero_add]
      omega
    · obtain ⟨t,ht,htp,htc⟩ := hn t' ht' hp'
      obtain ⟨u,hu,hup,huc⟩ := noNewDispatched_scheduleExecution e.1 e.2 t ht htp
      exact ⟨u,hu,hup,huc.trans htc⟩
    · simp only [scheduleExecution,newTask,previousTasks,ht.tasks,ht.sessionChains,ht.nextTask]
    · simp only [scheduleExecution,ht.sessionChains,ht.nextTask]
    · simp only [scheduleExecution,ht.nextTask]

theorem reopen_transition : Transition host s .reopen (s.reopen host) := by
  obtain ⟨s',he,hj,hf,hp,hn,hg,⟨more,hmore⟩,hs⟩ := foldl_scheduleExecution host
    s.deferredUpdateCommands.values { s with updateDrainState := .opened, deferredUpdateCommands := .empty }
  obtain ⟨t',ht,-,-,-,-,-,-,hsame⟩ := foldl_scheduleExecution host s.deferredUpdateCommands.values s
  have hkeys : scheduledKeys host s .reopen =
      s.deferredUpdateCommands.values.map (fun e => mlp3CommandKey e.2.command) := by
    simp only [scheduledKeys,scheduledBy,List.map_map]
    rfl
  have hreopened : s.reopen host = s' := he
  have htasks : SameTasks t' s' := by
    rw [← he]
    exact hsame _ ⟨rfl,rfl,rfl⟩
  rw [hreopened]
  exact {
    journal := hj ▸ .refl _
    children := hf.children ▸ List.Subset.refl _
    handler := fun _ => hf.handler
    keyed := fun h => ⟨fun hc => h.claimed (hf.handler ▸ hc),fun hc => by rw [hf.deferred] at hc; cases hc⟩
    records := by
      rw [recoveryRecords,hf.recovery]
      exact fun r hr => .inl hr
    recovery := fun _ => hf.recovery
    work := .schedule hp hn ⟨hg.begun,hg.dispatchedHere,hg.interruptedHere⟩
    tasks := hkeys ▸ .schedule s.deferredUpdateCommands.values (ht ▸ htasks)
    others := keepsOthers_append hmore }

/-- Every step but the start and the end of a process. -/
theorem step_transition (h : s.step host action = some s') (hr : action.isRestart = false) :
    Transition host s action s' := by
  cases action with
  | start | crash => cases hr
  | registerProject roomId project =>
    simp only [step] at h
    split at h
    · cases h
    · cases h
      exact transition_keep rfl (.refl _) ⟨rfl,rfl,rfl⟩ ⟨rfl,rfl,rfl,rfl⟩ ⟨rfl,rfl,rfl⟩
  | finalizeProjectDeletion | updateSessions =>
    obtain ⟨project,-,rfl⟩ := map_eq_some_iff.mp h
    exact transition_keep rfl (.refl _) ⟨rfl,rfl,rfl⟩ ⟨rfl,rfl,rfl,rfl⟩ ⟨rfl,rfl,rfl⟩
  | drain state =>
    cases h
    exact transition_keep rfl (.refl _) ⟨rfl,rfl,rfl⟩ ⟨rfl,rfl,rfl,rfl⟩ ⟨rfl,rfl,rfl⟩
  | reopen =>
    cases h
    exact reopen_transition
  | receive incoming now => exact receive_transition h
  | handle now => exact handle_transition h
  | settleHandled now => exact settleHandled_transition h
  | readUnfinished =>
    simp only [step] at h
    split at h
    · cases h
      exact transition_recovering rfl rfl (.refl _) rfl rfl rfl (fun r hr => .inr ⟨rfl,hr⟩) ⟨rfl,rfl,rfl⟩
        (.quiet (.refl _) ⟨rfl,rfl,rfl⟩)
    · cases h
  | recoverNext now => exact recoverNext_transition h
  | enter id =>
    obtain ⟨task,ht,h⟩ := bind_eq_some_iff.mp h
    exact enter_transition ht h
  | markDispatched id now =>
    obtain ⟨task,ht,h⟩ := bind_eq_some_iff.mp h
    exact markTaskDispatched_transition ht h
  | execute id =>
    obtain ⟨task,ht,h⟩ := bind_eq_some_iff.mp h
    exact execute_transition ht h
  | beginAgentDispatch id =>
    obtain ⟨task,ht,h⟩ := bind_eq_some_iff.mp h
    unfold beginAgentDispatch at h
    split at h
    · cases h
    · cases h
      exact transition_prompt rfl _ (mem_of_task ht)
  | cancelPrompt id promptKey =>
    obtain ⟨task,-,h⟩ := bind_eq_some_iff.mp h
    unfold cancelPrompt at h
    split at h
    · cases h
    · simp only [bind_eq_some_iff] at h
      obtain ⟨id,-,target,htarget,h⟩ := h
      split at h
      · cases h
      · cases h
        exact transition_prompt rfl _ (mem_of_task htarget)
  | settle id command terminal now =>
    obtain ⟨task,-,h⟩ := bind_eq_some_iff.mp h
    unfold settleExecuting at h
    split at h
    · obtain ⟨journal,hj,heq⟩ := settleAndDeliver_eq host s command terminal false now
      rw [heq] at h
      cases h
      exact transition_keep rfl hj ⟨rfl,rfl,rfl⟩ ⟨rfl,rfl,rfl,rfl⟩ ⟨rfl,rfl,rfl⟩
    · cases h
  | archiveItem id roomId sessionId itemCommandId now =>
    obtain ⟨task,ht,h⟩ := bind_eq_some_iff.mp h
    exact archiveItem_transition ht h
  | complete id =>
    obtain ⟨task,ht,h⟩ := bind_eq_some_iff.mp h
    unfold complete at h
    split at h
    · next hphase =>
      cases h
      exact transition_finish rfl ht rfl (.inl (by rw [hphase]; simp)) (.refl _) (.refl _) ⟨rfl,rfl,rfl,rfl⟩
        ⟨rfl,rfl,rfl⟩
    · cases h
  | throw id error =>
    obtain ⟨task,ht,h⟩ := bind_eq_some_iff.mp h
    unfold throw at h
    split at h
    · next hturn =>
      cases h
      have hready : s.Ready task := by
        rcases hturn with hphase | ⟨-,hphase | ⟨-,hprevious⟩⟩
        · exact .inl (by rw [hphase]; simp)
        · exact .inl (by rw [hphase]; simp)
        · exact ready_of_previous hprevious
      exact transition_setPhase rfl ht rfl hready (fun hc => by cases hc) (by simp) rfl (.refl _) ⟨rfl,rfl,rfl,rfl⟩
        ⟨rfl,rfl,rfl⟩
    · cases h
  | expire id timeoutMs =>
    obtain ⟨task,ht,h⟩ := bind_eq_some_iff.mp h
    unfold expire at h
    split at h
    · cases h
    · next hphase =>
      cases h
      rw [not_or,not_not] at hphase
      exact transition_setPhase rfl ht rfl (.inl (by rw [hphase.1]; simp)) (fun hc => by cases hc) (by simp) rfl
        ⟨rfl,rfl,rfl⟩ ⟨rfl,rfl,rfl,rfl⟩ ⟨rfl,rfl,rfl⟩
  | endLate id =>
    obtain ⟨task,-,rfl⟩ := map_eq_some_iff.mp h
    exact transition_keep rfl (.refl _) ⟨rfl,rfl,rfl⟩ ⟨rfl,rfl,rfl,rfl⟩ ⟨rfl,rfl,rfl⟩
  | fail id now =>
    obtain ⟨task,ht,h⟩ := bind_eq_some_iff.mp h
    exact fail_transition ht h
  | settleFailure id now =>
    obtain ⟨task,ht,h⟩ := bind_eq_some_iff.mp h
    unfold settleFailure at h
    split at h
    · next error hphase =>
      obtain ⟨project,-,h⟩ := bind_eq_some_iff.mp h
      obtain ⟨terminal,-,rfl⟩ := map_eq_some_iff.mp h
      obtain ⟨journal,hj,heq⟩ := settleAndDeliver_eq host s task.command terminal error.isExecutionTimeout now
      rw [heq]
      exact transition_finish rfl ht rfl (.inl (by rw [hphase]; simp)) hj ⟨rfl,rfl,rfl⟩ ⟨rfl,rfl,rfl,rfl⟩
        ⟨rfl,rfl,rfl⟩
    · cases h
  | lookUpDeletion =>
    simp only [step,lookUpDeletion] at h
    split at h
    · cases h
    · cases h
      exact transition_keep rfl (.refl _) ⟨rfl,rfl,rfl⟩ ⟨rfl,rfl,rfl,rfl⟩ ⟨rfl,rfl,rfl⟩
  | deliver command matrixEventId now =>
    simp only [step,deliver] at h
    split at h
    · next journal hdelivered =>
      cases h
      exact transition_keep rfl (markTerminalDelivered_progresses hdelivered) ⟨rfl,rfl,rfl⟩ ⟨rfl,rfl,rfl,rfl⟩
        ⟨rfl,rfl,rfl⟩
    · cases h

/-- A process that starts or ends keeps the journal and the bodies that began, and nothing else. -/
theorem restart_effect (journal : s'.journal = s.journal) (begun : s'.begun = s.begun)
    (children : s'.batchChildren = s.batchChildren) (tasks : s'.tasks = []) (handler : s'.handler = .idle)
    (keyed : s'.Keyed) (recovery : s'.recoveryRecords = []) (dispatchedHere : s'.dispatchedHere = [])
    (interruptedHere : s'.interruptedHere = []) : Effect host s action s' where
  journal := journal ▸ (Progresses.refl _).advances
  children := children ▸ List.Subset.refl _
  handler := fun _ => .inr handler
  keyed := fun _ => keyed
  recovery := fun r hr => by
    rw [recovery] at hr
    cases hr
  work := .restart tasks begun dispatchedHere interruptedHere

theorem step_effect (h : s.step host action = some s') : Effect host s action s' := by
  cases hr : action.isRestart with
  | false =>
    have ht := step_transition h hr
    exact ⟨ht.journal.advances,ht.children,fun hh => .inl (ht.handler hh),ht.keyed,ht.records,ht.work⟩
  | true =>
    cases action with
    | start projects =>
      replace h : s.start host projects = some s' := h
      unfold start at h
      split at h
      · cases h
      · cases h
        exact restart_effect rfl rfl rfl rfl rfl ⟨fun hc => (by cases hc),fun hc => (by cases hc)⟩ rfl rfl rfl
    | crash =>
      cases h
      exact restart_effect rfl rfl rfl rfl rfl ⟨fun hc => (by cases hc),fun hc => (by cases hc)⟩ rfl rfl rfl
    | _ => cases hr

theorem step_moves (h : s.step host action = some s') (hr : action.isRestart = false) : Moves host s action s' :=
  have ht := step_transition h hr
  ⟨ht.tasks,keepsAcceptances_of_progresses ht.journal,ht.recovery⟩

theorem run_advances {actions : List Action} (h : s.run host actions = some s') : Advances s.journal s'.journal := by
  induction actions generalizing s with
  | nil =>
    cases h
    exact (Progresses.refl _).advances
  | cons action actions ih =>
    obtain ⟨s'',hs,h⟩ := bind_eq_some_iff.mp h
    exact (step_effect hs).journal.trans (ih h)

end State

end Malink.Gateway
