import Malink.GatewaySteps
import Mathlib.Data.List.Chain

/-!
# Sessions run in order

The tasks of one session form a chain. A new task names the last one before it, so it cannot begin before
that one has ended, and a task that has begun is the first of its chain.
-/

namespace Malink.Gateway

open Mlp3 CommandJournal List

def chainOf (host : Host) (roomId : JsString) (command : Command) : Option JsString :=
  if bypassSessionQueue command then none else some (sessionKey host roomId command)

def Task.chain (host : Host) (task : Task) : Option JsString := chainOf host task.roomId task.command

variable {task : Task}

namespace State

variable {host : Host} {s s' : State}

/-- The tasks of one chain, in the order in which they were scheduled. -/
def chained (host : Host) (key : JsString) (tasks : List Task) : List Task :=
  tasks.filter (fun t => decide (t.chain host = some key))

def Follows (t t' : Task) : Prop := t.id ∈ t'.previous ∧ t'.phase = .waiting

structure Chained (host : Host) (s : State) : Prop where
  nodup : (s.tasks.map Task.id).Nodup
  fresh : ∀ t ∈ s.tasks, t.id < s.nextTask
  follows : ∀ key, (chained host key s.tasks).IsChain Follows
  last : ∀ key t, (chained host key s.tasks).getLast? = some t → s.sessionChains.get key = some t.id

section

variable (h : Chained host s)
include h

theorem Chained.same (hs : SameTasks s s') : Chained host s' where
  nodup := hs.tasks ▸ h.nodup
  fresh := by
    rw [hs.tasks,hs.nextTask]
    exact h.fresh
  follows := by
    rw [hs.tasks]
    exact h.follows
  last := by
    rw [hs.tasks,hs.sessionChains]
    exact h.last

omit h in
theorem mem_chained {key : JsString} {tasks : List Task} {t : Task} :
    t ∈ chained host key tasks ↔ t ∈ tasks ∧ t.chain host = some key := by
  rw [chained,mem_filter,decide_eq_true_iff]

/-- A task that nothing holds back is the first of its chain. -/
theorem Chained.head_of_ready (hm : task ∈ s.tasks) (hr : s.Ready task)
    {key : JsString} (hk : task.chain host = some key) : ∃ rest, chained host key s.tasks = task :: rest := by
  obtain ⟨before,rest,hsplit⟩ := append_of_mem (mem_chained.mpr ⟨hm,hk⟩)
  have hchain := h.follows key
  rw [hsplit] at hchain
  rcases eq_nil_or_concat before with rfl | ⟨front,p,rfl⟩
  · exact ⟨rest,hsplit⟩
  · exfalso
    have hfollows : Follows p task := by
      rw [concat_eq_append,append_assoc,singleton_append,isChain_append_cons_cons] at hchain
      exact hchain.2.1
    have hp : p ∈ s.tasks := by
      have hmem : p ∈ chained host key s.tasks := by
        rw [hsplit]
        simp
      exact (mem_chained.mp hmem).1
    rcases hr with hphase | hprevious
    · exact hphase hfollows.2
    · exact hprevious p.id hfollows.1 p hp rfl

theorem Chained.eq_of_id {t t' : Task} (ht : t ∈ s.tasks) (ht' : t' ∈ s.tasks) (hid : t.id = t'.id) : t = t' :=
  inj_on_of_nodup_map h.nodup ht ht' hid

theorem Chained.replace {task' : Task} (hm : task ∈ s.tasks)
    (hid : task'.id = task.id) (hroom : task'.roomId = task.roomId) (hcommand : task'.command = task.command)
    (hprevious : task'.previous = task.previous) (hready : task'.phase = .waiting ∨ s.Ready task) :
    Chained host (s.replaceTask task task') := by
  have hfield : ∀ t,(if t = task then task' else t).id = t.id ∧
      (if t = task then task' else t).chain host = t.chain host := by
    intro t
    split
    · next heq =>
      rw [heq]
      exact ⟨hid,by rw [Task.chain,Task.chain,hroom,hcommand]⟩
    · exact ⟨rfl,rfl⟩
  have hchained : ∀ key,chained host key (s.replaceTask task task').tasks =
      (chained host key s.tasks).map (fun t => if t = task then task' else t) := by
    intro key
    simp only [chained,replaceTask,filter_map]
    congr 1
    apply filter_congr
    intro t _
    simp only [Function.comp_apply,(hfield t).2]
  refine ⟨?_,fun t ht => ?_,fun key => ?_,fun key t ht => ?_⟩
  · have hids : (s.replaceTask task task').tasks.map Task.id = s.tasks.map Task.id := by
      simp only [replaceTask,map_map]
      exact map_congr_left fun t _ => (hfield t).1
    rw [hids]
    exact h.nodup
  · obtain ⟨u,hu,rfl⟩ := mem_map.mp ht
    rw [(hfield u).1]
    exact h.fresh u hu
  · rw [hchained,isChain_map]
    refine (h.follows key).imp_of_mem_tail_imp fun t t' _ ht' hf => ?_
    refine ⟨?_,?_⟩
    · rw [(hfield t).1]
      split
      · next heq =>
        rw [hprevious,← heq]
        exact hf.1
      · exact hf.1
    · split
      · next heq =>
        rcases hready with hwaiting | hready
        · exact hwaiting
        · -- A task behind another one is not the first of its chain.
          have hkey := (mem_chained.mp (mem_of_mem_tail ht')).2
          rw [heq] at hkey ht'
          obtain ⟨rest,hrest⟩ := h.head_of_ready hm hready hkey
          have hnodup : (chained host key s.tasks).Nodup := h.nodup.of_map.filter _
          rw [hrest] at hnodup ht'
          exact absurd ht' (nodup_cons.mp hnodup).1
      · exact hf.2
  · rw [hchained,getLast?_map] at ht
    obtain ⟨t,hlast,rfl⟩ := Option.map_eq_some_iff.mp ht
    rw [(hfield t).1]
    exact h.last key t hlast

theorem Chained.finish (hm : task ∈ s.tasks) (hready : s.Ready task) : Chained host (s.finishTask host task) := by
  have hchained : ∀ key,chained host key (s.finishTask host task).tasks =
      (chained host key s.tasks).filter (fun t => decide (t.id ≠ task.id)) := by
    intro key
    simp only [chained,finishTask,filter_filter,Bool.and_comm]
  have hother : ∀ {key},task.chain host ≠ some key →
      chained host key (s.finishTask host task).tasks = chained host key s.tasks := by
    intro key hkey
    rw [hchained,filter_eq_self]
    intro t ht
    rw [decide_eq_true_iff]
    intro hid
    rw [h.eq_of_id (mem_chained.mp ht).1 hm hid] at ht
    exact hkey (mem_chained.mp ht).2
  have hown : ∀ {key rest},chained host key s.tasks = task :: rest →
      chained host key (s.finishTask host task).tasks = rest := by
    intro key rest hrest
    have hids : ((task :: rest).map Task.id).Nodup := by
      rw [← hrest]
      exact h.nodup.sublist (filter_sublist.map _)
    rw [hchained,hrest,filter_cons_of_neg (by simp),filter_eq_self]
    intro t ht
    rw [decide_eq_true_iff]
    rintro hid
    exact (nodup_cons.mp hids).1 (hid ▸ mem_map_of_mem ht)
  refine ⟨h.nodup.sublist (filter_sublist.map _),fun t ht => h.fresh t (mem_filter.mp ht).1,
    fun key => ?_,fun key t ht => ?_⟩
  · by_cases hkey : task.chain host = some key
    · obtain ⟨rest,hrest⟩ := h.head_of_ready hm hready hkey
      have hfollows := h.follows key
      rw [hown hrest]
      rw [hrest] at hfollows
      exact hfollows.tail
    · rw [hother hkey]
      exact h.follows key
  · by_cases hkey : task.chain host = some key
    · obtain ⟨rest,hrest⟩ := h.head_of_ready hm hready hkey
      rw [hown hrest] at ht
      have hlast : (chained host key s.tasks).getLast? = some t := by
        rw [hrest,getLast?_cons,ht]
        rfl
      have hold := h.last key t hlast
      have hne : t.id ≠ task.id := by
        intro hid
        have hmem : t ∈ chained host key (s.finishTask host task).tasks := by
          rw [hown hrest]
          exact mem_of_getLast? ht
        rw [hchained,mem_filter,decide_eq_true_iff] at hmem
        exact hmem.2 hid
      simp only [finishTask]
      split
      · exact hold
      · unfold release
        split
        · next hreleased =>
          rw [InsertionMap.get_delete,if_neg]
          · exact hold
          · rintro rfl
            rw [hold,Option.some.injEq] at hreleased
            exact hne hreleased
        · exact hold
    · rw [hother hkey] at ht
      have hold := h.last key t ht
      simp only [finishTask]
      split
      · exact hold
      · next hqueues =>
        unfold release
        split
        · rw [InsertionMap.get_delete,if_neg]
          · exact hold
          · rintro rfl
            exact hkey (by rw [Task.chain,chainOf,if_neg hqueues])
        · exact hold

theorem Chained.schedule (roomId : JsString) (record : CommandRecord) :
    Chained host (s.scheduleExecution host roomId record) := by
  have hchain : (s.newTask host roomId record.command).chain host = chainOf host roomId record.command := rfl
  have hchained : ∀ key,chained host key (s.scheduleExecution host roomId record).tasks =
      chained host key s.tasks ++ if chainOf host roomId record.command = some key then
        [s.newTask host roomId record.command] else [] := by
    intro key
    simp only [chained,scheduleExecution,filter_append,filter_cons,hchain,filter_nil,decide_eq_true_eq]
  have hbypass : ∀ {key},chainOf host roomId record.command = some key →
      bypassSessionQueue record.command = false ∧ sessionKey host roomId record.command = key := by
    intro key hkey
    unfold chainOf at hkey
    split at hkey
    · cases hkey
    · next hq => exact ⟨by simpa using hq,Option.some.inj hkey⟩
  refine ⟨?_,fun t ht => ?_,fun key => ?_,fun key t ht => ?_⟩
  · simp only [scheduleExecution,map_append,map_cons,map_nil]
    rw [nodup_append]
    refine ⟨h.nodup,nodup_singleton _,fun id hid id' hid' => ?_⟩
    obtain ⟨t,ht,rfl⟩ := mem_map.mp hid
    rw [mem_singleton.mp hid']
    exact Nat.ne_of_lt (h.fresh t ht)
  · rcases mem_append.mp ht with ht | ht
    · exact Nat.lt_succ_of_lt (h.fresh t ht)
    · rw [mem_singleton.mp ht]
      exact Nat.lt_succ_self _
  · rw [hchained]
    split
    · next hkey =>
      obtain ⟨hq,hsession⟩ := hbypass hkey
      refine (h.follows key).append (isChain_singleton _) fun t ht t' ht' => ?_
      cases ht'
      refine ⟨?_,rfl⟩
      have hprevious : t.id ∈ (s.sessionChains.get key).toList := by
        rw [h.last key t ht]
        exact mem_singleton_self _
      simp only [newTask,previousTasks,hq,Bool.false_eq_true,if_false,hsession]
      split
      · exact mem_append_left _ hprevious
      · exact hprevious
    · rw [append_nil]
      exact h.follows key
  · rw [hchained] at ht
    split at ht
    · next hkey =>
      obtain ⟨hq,hsession⟩ := hbypass hkey
      rw [getLast?_concat] at ht
      cases ht
      simp only [scheduleExecution,hq,Bool.false_eq_true,if_false,hsession,InsertionMap.get_set_self]
      rfl
    · next hkey =>
      rw [append_nil] at ht
      have hold := h.last key t ht
      simp only [scheduleExecution]
      split
      · exact hold
      · next hq =>
        rw [InsertionMap.get_set_of_ne]
        · exact hold
        · rintro rfl
          exact hkey (by rw [chainOf,if_neg hq])

theorem Chained.taskStep {keys : List CommandKey} (hs : TaskStep host s s' keys) : Chained host s' := by
  cases hs with
  | keep same => exact h.same same
  | replace task task' mem id roomId command previous ready same =>
    exact (h.replace mem id roomId command previous ready).same same
  | finish task mem ready same => exact (h.finish mem ready).same same
  | schedule es same =>
    refine Chained.same ?_ same
    clear same
    induction es generalizing s with
    | nil => exact h
    | cons e es ih => exact ih (h.schedule e.1 e.2)

end

theorem chained_of_tasks_nil (h : s.tasks = []) : Chained host s := by
  refine ⟨?_,fun t ht => ?_,fun key => ?_,fun key t ht => ?_⟩
  · rw [h]
    exact nodup_nil
  · rw [h] at ht
    cases ht
  · rw [h]
    exact isChain_nil
  · rw [h] at ht
    cases ht

theorem Chained.step {action : Action} (hc : Chained host s) (h : s.step host action = some s') : Chained host s' := by
  cases hr : action.isRestart with
  | false => exact hc.taskStep (step_transition h hr).tasks
  | true =>
    cases action with
    | start projects =>
      replace h : s.start host projects = some s' := h
      unfold start at h
      split at h
      · cases h
      · cases h
        exact chained_of_tasks_nil rfl
    | crash =>
      cases h
      exact chained_of_tasks_nil rfl
    | _ => cases hr

theorem Chained.run {actions : List Action} (hc : Chained host s) (h : s.run host actions = some s') :
    Chained host s' := by
  induction actions generalizing s with
  | nil =>
    cases h
    exact hc
  | cons action actions ih =>
    obtain ⟨s'',hs,h⟩ := Option.bind_eq_some_iff.mp h
    exact ih (hc.step hs) h

theorem waiting_behind {tasks : List Task} (h : (task :: tasks).IsChain Follows) : ∀ t ∈ tasks, t.phase = .waiting := by
  induction tasks generalizing task with
  | nil => simp
  | cons t tasks ih =>
    rw [isChain_cons_cons] at h
    simp only [mem_cons,forall_eq_or_imp]
    exact ⟨h.1.2,ih h.2⟩

/-- In every run, a task that is past its waiting was scheduled before all others of its session, and these
wait. -/
theorem session_runs_in_turn {journal : CommandJournal} {begun batchChildren : List CommandKey}
    {actions : List Action} (h : (stoppedOver journal begun batchChildren).run host actions = some s)
    {key : JsString} (hm : task ∈ s.tasks) (hk : task.chain host = some key) (hp : task.phase ≠ .waiting) :
    ∃ rest, chained host key s.tasks = task :: rest ∧ ∀ t ∈ rest, t.phase = .waiting := by
  have hc : Chained host s := (chained_of_tasks_nil rfl).run h
  obtain ⟨rest,hrest⟩ := hc.head_of_ready hm (.inl hp) hk
  refine ⟨rest,hrest,?_⟩
  have hfollows := hc.follows key
  rw [hrest] at hfollows
  exact waiting_behind hfollows

end State

def renamesInTurn : List Action :=
  [.start sampleProjects,.receive (sampleIncoming "$1" renameFirst) 1,.handle 1,
    .receive (sampleIncoming "$2" { renameSecond with sessionId := some "session-1" }) 2,.handle 2,.enter 0]

set_option maxRecDepth 100000 in
theorem session_runs_in_turn_renames :
    ∃ s ∈ (stoppedOver .empty [] []).run sampleHost renamesInTurn, ∃ task ∈ s.tasks, ∃ rest,
      State.chained sampleHost (sessionKey sampleHost "!project:home" renameFirst) s.tasks = task :: rest ∧
        ∀ t ∈ rest, t.phase = .waiting := by
  have hrun := (Option.some_get (x := (stoppedOver .empty [] []).run sampleHost renamesInTurn) (by decide)).symm
  have hmem := getElem_mem (n := 0) (l := ((stoppedOver .empty [] []).run sampleHost renamesInTurn).get
    (by decide) |>.tasks) (by decide)
  exact ⟨_,hrun,_,hmem,State.session_runs_in_turn hrun hmem (by decide) (by decide)⟩

end Malink.Gateway
