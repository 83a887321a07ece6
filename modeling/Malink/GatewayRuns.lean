import Malink.GatewayRunner
import Malink.OnceLedgers

/-!
# What the runner does to its work

The journal only advances, the records that the process holds come out of the journal, and the tasks change in one
of a few ways.
-/

namespace Malink.Gateway

open Mlp3 CommandJournal List

def pendingCount (tasks : List Task) (key : CommandKey) : ℕ :=
  tasks.countP (fun t => t.phase.isPending && decide (mlp3CommandKey t.command = key))

/-- No new work: fewer pending tasks of every command, and no more of them past `markDispatched`. -/
structure NoNewWork (tasks tasks' : List Task) : Prop where
  pending : ∀ key, pendingCount tasks' key ≤ pendingCount tasks key
  dispatched : ∀ t' ∈ tasks', t'.phase = .dispatched →
    ∃ t ∈ tasks, t.phase = .dispatched ∧ t.command = t'.command

theorem NoNewWork.refl (tasks : List Task) : NoNewWork tasks tasks :=
  ⟨fun _ => le_refl _,fun t ht hp => ⟨t,ht,hp,rfl⟩⟩

theorem noNewWork_filter (tasks : List Task) (p : Task → Bool) : NoNewWork tasks (tasks.filter p) :=
  ⟨fun _ => filter_sublist.countP_le,fun t ht hp => ⟨t,(mem_filter.mp ht).1,hp,rfl⟩⟩

variable {tasks : List Task} {task task' : Task} {terminal : Terminal} {allowExpired : Bool}
  {row : CommandRecord}

theorem pendingCount_map_replace_le (hc : task'.command = task.command)
    (hp : task'.phase.isPending → task.phase.isPending) (key : CommandKey) :
    pendingCount (tasks.map (fun t => if t = task then task' else t)) key ≤ pendingCount tasks key := by
  rw [pendingCount,countP_map]
  apply countP_mono_left
  intro t _ ht
  simp only [Function.comp_apply] at ht
  split at ht
  · next he =>
    rw [he]
    rw [Bool.and_eq_true,hc] at ht
    rw [Bool.and_eq_true]
    exact ⟨hp ht.1,ht.2⟩
  · exact ht

theorem noNewWork_replace (hm : task ∈ tasks) (hc : task'.command = task.command)
    (hp : task'.phase.isPending → task.phase.isPending) (hd : task'.phase = .dispatched → task.phase = .dispatched) :
    NoNewWork tasks (tasks.map (fun t => if t = task then task' else t)) := by
  refine ⟨pendingCount_map_replace_le hc hp,?_⟩
  intro t' ht' hp'
  obtain ⟨t,ht,rfl⟩ := mem_map.mp ht'
  split at hp'
  · next he =>
    exact ⟨task,hm,hd hp',by rw [if_pos he,hc]⟩
  · next he => exact ⟨t,ht,hp',by rw [if_neg he]⟩

theorem pendingCount_replace_lt (hm : task ∈ tasks) (hp : task.phase.isPending) (hp' : task'.phase.isPending = false) :
    pendingCount (tasks.map (fun t => if t = task then task' else t)) (mlp3CommandKey task.command) <
      pendingCount tasks (mlp3CommandKey task.command) := by
  induction tasks with
  | nil => cases hm
  | cons t tasks ih =>
    simp only [pendingCount,map_cons,countP_cons] at ih ⊢
    have hle : (tasks.map (fun t => if t = task then task' else t)).countP
          (fun t => t.phase.isPending && decide (mlp3CommandKey t.command = mlp3CommandKey task.command)) ≤
        tasks.countP
          (fun t => t.phase.isPending && decide (mlp3CommandKey t.command = mlp3CommandKey task.command)) := by
      rw [countP_map]
      apply countP_mono_left
      intro t _ ht
      simp only [Function.comp_apply] at ht
      split at ht
      · simp [hp'] at ht
      · exact ht
    by_cases he : t = task
    · subst he
      simp only [if_true,hp',hp,Bool.false_and,Bool.false_eq_true,if_false,decide_true,Bool.and_true]
      omega
    · have hrest := ih ((mem_cons.mp hm).resolve_left (fun h => he h.symm))
      simp only [if_neg he]
      omega

theorem pendingCount_append (tasks : List Task) (task : Task) (key : CommandKey) :
    pendingCount (tasks ++ [task]) key = pendingCount tasks key +
      if task.phase.isPending ∧ mlp3CommandKey task.command = key then 1 else 0 := by
  simp [pendingCount,countP_append,countP_singleton]

theorem pendingCount_eq_zero {key : CommandKey}
    (h : ∀ t ∈ tasks,mlp3CommandKey t.command ≠ key) : pendingCount tasks key = 0 := by
  rw [pendingCount,countP_eq_zero]
  intro t ht
  simp [h t ht]

def Action.isHandling : Action → Bool
  | receive _ _ => true
  | handle _ => true
  | settleHandled _ => true
  | _ => false

namespace State

variable {host : Host} {s s' : State}

def recoveryRecords (s : State) : List CommandRecord :=
  match s.recovery with
  | .recovering records => records
  | _ => []

/-- The record of a claim is of the command that was claimed, and a deferred record is filed under its own
key. -/
structure Keyed (s : State) : Prop where
  claimed : ∀ {roomId : JsString} {command : Command} {claim : Claim} {rejection : Option Rejection},
    s.handler = .claimed roomId command claim rejection → claim.record.command = command
  deferred : ∀ {key : JsString} {e : JsString × CommandRecord},
    s.deferredUpdateCommands.get key = some e → commandKey e.2.command = key

/-- The records that an action schedules, but for the items of a batch archive. -/
def scheduledBy (host : Host) (s : State) : Action → List CommandRecord
  | .handle _ =>
    match s.handler with
    | .claimed roomId command claim rejection =>
      if (s.project roomId).any (fun project =>
          decide (s.decision project command claim.record rejection = .schedule)) then [claim.record] else []
    | _ => []
  | .recoverNext now =>
    match s.recovery with
    | .recovering (record :: _) =>
      match s.recoveryDecision host record now with
      | .schedule _ => [record]
      | _ => []
    | _ => []
  | .reopen => s.deferredUpdateCommands.values.map Prod.snd
  | _ => []

def recordCount (records : List CommandRecord) (key : CommandKey) : ℕ :=
  records.countP (fun r => decide (mlp3CommandKey r.command = key))

structure SameGhosts (s s' : State) : Prop where
  begun : s'.begun = s.begun
  dispatchedHere : s'.dispatchedHere = s.dispatchedHere
  interruptedHere : s'.interruptedHere = s.interruptedHere

def NoNewDispatched (tasks tasks' : List Task) : Prop :=
  ∀ t' ∈ tasks', t'.phase = .dispatched → ∃ t ∈ tasks, t.phase = .dispatched ∧ t.command = t'.command

/-- What a step does to the tasks, and to the commands that are begun, dispatched and interrupted. -/
inductive Work (host : Host) (s : State) (action : Action) (s' : State) : Prop
  | restart (tasks : s'.tasks = []) (begun : s'.begun = s.begun) (dispatchedHere : s'.dispatchedHere = [])
      (interruptedHere : s'.interruptedHere = [])
  | quiet (tasks : NoNewWork s.tasks s'.tasks) (ghosts : SameGhosts s s')
  | schedule (pending : ∀ key,pendingCount s'.tasks key =
        pendingCount s.tasks key + recordCount (scheduledBy host s action) key)
      (dispatched : NoNewDispatched s.tasks s'.tasks) (ghosts : SameGhosts s s')
  | child (key : CommandKey) (child : key ∈ s'.batchChildren)
      (pending : ∀ key',key' ≠ key → pendingCount s'.tasks key' = pendingCount s.tasks key')
      (dispatched : NoNewDispatched s.tasks s'.tasks) (ghosts : SameGhosts s s')
  | mark (task : Task) (pending : ∀ key,pendingCount s'.tasks key ≤ pendingCount s.tasks key)
      (dispatched : ∀ t' ∈ s'.tasks,t'.phase = .dispatched →
        t'.command = task.command ∨ ∃ t ∈ s.tasks,t.phase = .dispatched ∧ t.command = t'.command)
      (status : ∃ row,s'.journal.row (mlp3CommandKey task.command) = some row ∧ row.status ≠ .accepted)
      (begun : s'.begun = s.begun) (interruptedHere : s'.interruptedHere = s.interruptedHere)
      (dispatchedHere : s'.dispatchedHere = if s.journal.status (mlp3CommandKey task.command) = some .accepted then
          mlp3CommandKey task.command :: s.dispatchedHere else s.dispatchedHere)
  | begin (task : Task) (mem : task ∈ s.tasks) (phase : task.phase = .dispatched)
      (pending : ∀ key,pendingCount s'.tasks key ≤ pendingCount s.tasks key)
      (fewer : pendingCount s'.tasks (mlp3CommandKey task.command) < pendingCount s.tasks (mlp3CommandKey task.command))
      (dispatched : NoNewDispatched s.tasks s'.tasks)
      (begun : s'.begun = mlp3CommandKey task.command :: s.begun)
      (dispatchedHere : s'.dispatchedHere = s.dispatchedHere)
      (interruptedHere : s'.interruptedHere = s.interruptedHere)
  | interrupt (record : CommandRecord) (mem : record ∈ s.recoveryRecords)
      (snapshot : record.status ≠ .accepted) (operation : record.command.operation ≠ .sessionArchiveBatch)
      (status : s'.journal.status (mlp3CommandKey record.command) = some .terminal)
      (tasks : s'.tasks = s.tasks) (begun : s'.begun = s.begun)
      (dispatchedHere : s'.dispatchedHere = s.dispatchedHere)
      (interruptedHere : s'.interruptedHere = mlp3CommandKey record.command :: s.interruptedHere)

structure Effect (host : Host) (s : State) (action : Action) (s' : State) : Prop where
  journal : Advances s.journal s'.journal
  children : s.batchChildren ⊆ s'.batchChildren
  handler : action.isHandling = false → s'.handler = s.handler ∨ s'.handler = .idle
  keyed : s.Keyed → s'.Keyed
  recovery : ∀ r ∈ s'.recoveryRecords, r ∈ s.recoveryRecords ∨
    action = .readUnfinished ∧ r ∈ s.journal.unfinished
  work : Work host s action s'

theorem settleAndDeliver_eq (host : Host) (s : State) (command : Command) (terminal : Terminal) (allowExpired : Bool)
    (now : ℕ) : ∃ journal, Progresses s.journal journal ∧
      s.settleAndDeliver host command terminal allowExpired now = { s with journal } := by
  unfold settleAndDeliver
  split
  · exact ⟨s.journal,.refl _,rfl⟩
  · refine ⟨_,?_,rfl⟩
    unfold settled
    split
    · next h => exact settle_progresses host.schemas h
    · exact .refl _

/-- Whether `settleAndDeliver` hands a terminal to the journal that the journal accepts. -/
def Settles (host : Host) (s : State) (command : Command) (terminal : Terminal)
    (allowExpiredExecution : Bool) : Prop :=
  (commandKey command ∉ s.expiredCommandExecutions ∨ allowExpiredExecution) ∧
    isMlp3CommandTerminal host.schemas terminal

variable {command : Command} {now : ℕ}

/-- A terminal row stays as it is, and so does one whose terminal is held back or refused. -/
theorem row_settleAndDeliver (hrow : s.journal.row (mlp3CommandKey command) = some row)
    (hkeep : row.status = .terminal ∨ ¬ s.Settles host command terminal allowExpired) :
    (s.settleAndDeliver host command terminal allowExpired now).journal.row (mlp3CommandKey command) =
      some row := by
  unfold settleAndDeliver
  split
  · exact hrow
  · next hexpired =>
    show (s.settled host command terminal now).row _ = _
    unfold settled
    split
    · next journal hsettle =>
      obtain ⟨hvalid,row',hrow',-,rfl⟩ := settle_eq_ok host.schemas hsettle
      rw [hrow] at hrow'
      cases hrow'
      rw [if_pos (hkeep.resolve_right fun hn => hn ⟨?_,hvalid⟩)]
      · exact hrow
      · by_contra hc
        rw [not_or,not_not,Bool.not_eq_true] at hc
        exact hexpired hc
    · exact hrow

theorem status_settleAndDeliver (now : ℕ)
    (hrow : s.journal.row (mlp3CommandKey command) = some row) (hc : row.command = command)
    (hs : s.Settles host command terminal allowExpired) (hne : row.status ≠ .terminal) :
    (s.settleAndDeliver host command terminal allowExpired now).journal.status (mlp3CommandKey command) =
      some .terminal := by
  have hopen : ¬ (commandKey command ∈ s.expiredCommandExecutions ∧ allowExpired = false) := by
    rintro ⟨hexpired,hallow⟩
    rcases hs.1 with h | h
    · exact h hexpired
    · rw [hallow] at h
      cases h
  have hsettle := settle_of_valid host.schemas now hs.2 hrow hc hne
  rw [settleAndDeliver,if_neg hopen]
  show (s.settled host command terminal now).status _ = _
  rw [settled,hsettle]
  exact status_settle host.schemas hsettle

theorem status_settleAndDeliver_iff (hrow : s.journal.row (mlp3CommandKey command) = some row)
    (hc : row.command = command) :
    (s.settleAndDeliver host command terminal allowExpired now).journal.status (mlp3CommandKey command) =
        some .terminal ↔ s.journal.status (mlp3CommandKey command) = some .terminal ∨
        s.Settles host command terminal allowExpired := by
  have hstatus : s.journal.status (mlp3CommandKey command) = some row.status := by
    rw [status,hrow,Option.map_some]
  rw [hstatus,Option.some.injEq]
  constructor
  · intro h
    by_contra hn
    rw [not_or] at hn
    rw [status,row_settleAndDeliver hrow (.inr hn.2),Option.map_some] at h
    exact hn.1 (Option.some.inj h)
  · intro h
    by_cases ht : row.status = .terminal
    · rw [status,row_settleAndDeliver hrow (.inl ht),Option.map_some,ht]
    · exact status_settleAndDeliver now hrow hc (h.resolve_left ht) ht

theorem noNewDispatched_append (h : task.phase ≠ .dispatched) : NoNewDispatched tasks (tasks ++ [task]) := by
  intro t' ht' hp
  rcases mem_append.mp ht' with ht' | ht'
  · exact ⟨t',ht',hp,rfl⟩
  · rw [mem_singleton.mp ht'] at hp
    exact absurd hp h

theorem pendingCount_scheduleExecution (roomId : JsString) (record : CommandRecord) (key : CommandKey) :
    pendingCount (s.scheduleExecution host roomId record).tasks key =
      pendingCount s.tasks key + recordCount [record] key := by
  show pendingCount (s.tasks ++ [s.newTask host roomId record.command]) key = _
  rw [pendingCount_append]
  simp [newTask,TaskPhase.isPending,recordCount,countP_singleton]

theorem noNewDispatched_scheduleExecution (roomId : JsString) (record : CommandRecord) :
    NoNewDispatched s.tasks (s.scheduleExecution host roomId record).tasks :=
  noNewDispatched_append (by simp [newTask])

theorem mem_unfinished {journal : CommandJournal} {r : CommandRecord} :
    r ∈ journal.unfinished ↔ journal.row (mlp3CommandKey r.command) = some r ∧ r.status ≠ .terminal := by
  unfold unfinished
  rw [mem_insertionSort,mem_filter,InsertionMap.mem_values,decide_eq_true_iff]
  refine and_congr_left fun _ => ⟨?_,fun h => ⟨_,h⟩⟩
  rintro ⟨key,h⟩
  rw [journal.keyed h]
  exact h

theorem recoveryDecision_interrupt {record : CommandRecord}
    (h : s.recoveryDecision host record now = .interrupt terminal) :
    record.status ≠ .accepted ∧ record.command.operation ≠ .sessionArchiveBatch := by
  unfold recoveryDecision at h
  split at h
  · cases h
  · split at h
    · cases h
    · split at h
      · cases h
      · next hs => exact not_or.mp hs

theorem mem_of_task {id : ℕ} (h : s.task id = some task) : task ∈ s.tasks := mem_of_find?_eq_some h

end State

end Malink.Gateway
