import Malink.InsertionMaps
import Malink.JsStrings
import Mathlib.Data.Int.Notation

/-!
# Scheduled tasks

Each task of the scheduler has a timer that names it by its id. A task is out of the table while its callback runs,
and a recurring task comes back when the callback has returned.
-/

namespace Malink.Scheduling

open InsertionMap

structure ScheduledTask where
  id : JsString
  topicKey : JsString
  triggerAt : ℤ
  message : JsString
  context : Option JsString
  recurringMs : Option ℤ
  deriving DecidableEq

/-- A call of `setTimeout` that was not cleared and has not fired. -/
structure Timer where
  handle : ℕ
  taskId : JsString
  due : ℤ
  deriving DecidableEq

inductive Event
  | scheduled (task : ScheduledTask)
  | cancelled (ids : List JsString)
  | triggered (task : ScheduledTask) (time : ℤ)
  deriving DecidableEq

/-- The entries name the handles of their timers. The newest event comes first. -/
structure Scheduler where
  now : ℤ
  tasks : InsertionMap JsString (ScheduledTask × ℕ)
  timers : List Timer
  /-- The task whose callback runs. -/
  running : Option ScheduledTask
  /-- The set last passed to `onTasksChanged`. -/
  changed : Option (List ScheduledTask)
  /-- The tasks have changed since. -/
  silent : Bool
  handles : ℕ
  events : List Event

def TIMEOUT_MAX : ℤ := 2147483647

/-- A delay that is out of range counts as one millisecond. -/
def timeout (delay : ℤ) : ℤ := if 1 ≤ delay ∧ delay ≤ TIMEOUT_MAX then delay else 1

namespace Scheduler

def start (now : ℤ) : Scheduler := ⟨now,.empty,[],none,none,false,0,[]⟩

/-- The entry and the timer of a task, which replaces the entry of its id but not that entry's timer. -/
def put (s : Scheduler) (task : ScheduledTask) : Scheduler :=
  { s with
    tasks := s.tasks.set task.id (task,s.handles)
    timers := ⟨s.handles,task.id,s.now + timeout (max 0 (task.triggerAt - s.now))⟩ :: s.timers
    silent := true
    handles := s.handles + 1
    events := .scheduled task :: s.events }

def saveTasks (s : Scheduler) : List ScheduledTask := s.tasks.values.map Prod.fst

def notifyTasksChanged (s : Scheduler) : Scheduler := { s with changed := some s.saveTasks, silent := false }

def schedule (s : Scheduler) (task : ScheduledTask) : ScheduledTask × Scheduler :=
  (task,(s.put task).notifyTasksChanged)

def loadTasks (s : Scheduler) (saved : List ScheduledTask) : Scheduler := saved.foldl put s

def matching (s : Scheduler) (p : JsString → ScheduledTask → Bool) : InsertionMap JsString (ScheduledTask × ℕ) :=
  s.tasks.filter fun id entry => p id entry.1

/-- The tasks that match are taken off the table, and their timers are cleared. -/
def remove (s : Scheduler) (p : JsString → ScheduledTask → Bool) : Scheduler :=
  { s with
    tasks := s.tasks.filter fun id entry => !p id entry.1
    timers := s.timers.filter fun timer => timer.handle ∉ (s.matching p).values.map Prod.snd
    silent := true
    events := .cancelled (s.matching p).keys :: s.events }

def cancel (s : Scheduler) (taskId : JsString) : Bool × Scheduler :=
  if s.tasks.has taskId then (true,(s.remove fun id _ => id = taskId).notifyTasksChanged) else (false,s)

def cancelWhere (s : Scheduler) (predicate : ScheduledTask → Bool) : List ScheduledTask × Scheduler :=
  let cancelled := (s.matching fun _ => predicate).values.map Prod.fst
  (cancelled,if cancelled.length > 0 then (s.remove fun _ => predicate).notifyTasksChanged else s)

def stopAll (s : Scheduler) : Scheduler := s.remove fun _ _ => true

/-- Up to the call of `onTrigger`. -/
def triggerTask (s : Scheduler) (timer : Timer) : Scheduler :=
  let fired := { s with timers := s.timers.erase timer }
  match s.tasks.get timer.taskId with
  | none => fired
  | some (task,_) =>
    { fired with
      tasks := s.tasks.delete timer.taskId
      running := some task
      silent := true
      events := .triggered task s.now :: s.events }

def rescheduled (s : Scheduler) (task : ScheduledTask) : ScheduledTask :=
  { task with triggerAt := s.now + task.recurringMs.getD 0 }

/-- What `triggerTask` does after `onTrigger` has returned or thrown. -/
def finishTrigger (s : Scheduler) (task : ScheduledTask) : Scheduler :=
  let ended := { s with running := none }
  if task.recurringMs.getD 0 ≠ 0 then (ended.schedule (s.rescheduled task)).2 else ended.notifyTasksChanged

end Scheduler

inductive Action
  /-- The id that is used is the given one or a new UUID. -/
  | schedule (id : Option JsString) (randomUUID : JsString) (input : ScheduledTask)
  | cancel (taskId : JsString)
  | cancelWhere (predicate : ScheduledTask → Bool)
  | stopAll
  | loadTasks (saved : List ScheduledTask)
  | wait (now : ℤ)
  | fire (timer : Timer)
  /-- The callback may write the topic of its task. -/
  | retarget (topicKey : JsString)
  | finish

namespace Scheduler

/-- One step. All but a timer may also come from inside a callback. -/
def step (s : Scheduler) : Action → Option Scheduler
  | .schedule id randomUUID input => some (s.schedule { input with id := id.getD randomUUID }).2
  | .cancel taskId => some (s.cancel taskId).2
  | .cancelWhere predicate => some (s.cancelWhere predicate).2
  | .stopAll => some s.stopAll
  | .loadTasks saved => some (s.loadTasks saved)
  | .wait now => if s.now ≤ now then some { s with now } else none
  | .fire timer =>
    if timer ∈ s.timers ∧ timer.due ≤ s.now ∧ s.running = none then some (s.triggerTask timer) else none
  | .retarget topicKey => s.running.map fun task => { s with running := some { task with topicKey } }
  | .finish => s.running.map s.finishTrigger

def run (s : Scheduler) (actions : List Action) : Option Scheduler := actions.foldlM step s

/-- No timer that was started before for the id runs out before the task is due, and `setTimeout` takes the delay. -/
def InTime (s : Scheduler) (task : ScheduledTask) : Prop :=
  (∀ timer ∈ s.timers,timer.taskId = task.id → task.triggerAt ≤ timer.due) ∧ task.triggerAt - s.now ≤ TIMEOUT_MAX

def AllInTime (s : Scheduler) : List ScheduledTask → Prop
  | [] => True
  | task :: tasks => s.InTime task ∧ (s.put task).AllInTime tasks

def Meets (s : Scheduler) : Action → Prop
  | .schedule id randomUUID input => s.InTime { input with id := id.getD randomUUID }
  | .loadTasks saved => s.AllInTime saved
  | .finish => ∀ task ∈ s.running, task.recurringMs.getD 0 ≠ 0 → s.InTime (s.rescheduled task)
  | .cancel _ | .cancelWhere _ | .stopAll | .wait _ | .fire _ | .retarget _ => True

end Scheduler

/-- What the last scheduling of an id says, until it is cancelled or triggered. -/
def standing : List Event → JsString → Option ScheduledTask
  | [], _ => none
  | .scheduled task :: earlier, id => if task.id = id then some task else standing earlier id
  | .cancelled ids :: earlier, id => if id ∈ ids then none else standing earlier id
  | .triggered task _ :: earlier, id => if task.id = id then none else standing earlier id

/-- Every trigger is that of a task that stands, and does not come before its time. -/
def Justified : List Event → Prop
  | [] => True
  | .triggered task time :: earlier =>
    (standing earlier task.id = some task ∧ task.triggerAt ≤ time) ∧ Justified earlier
  | .scheduled _ :: earlier | .cancelled _ :: earlier => Justified earlier

variable {s : Scheduler} {events : List Event} {task : ScheduledTask} {id : JsString}

theorem standing_id (h : standing events id = some task) : task.id = id := by
  induction events with
  | nil => cases h
  | cons event earlier ih =>
    cases event with
    | scheduled =>
      rw [standing] at h
      split at h
      · next hid =>
        cases h
        exact hid
      · exact ih h
    | cancelled | triggered => exact ih (Option.ite_none_left_eq_some.mp h).2

structure Sound (s : Scheduler) : Prop where
  justified : Justified s.events
  entry : ∀ id entry, s.tasks.get id = some entry → standing s.events id = some entry.1
  timers : ∀ timer ∈ s.timers, ∀ entry, s.tasks.get timer.taskId = some entry → entry.1.triggerAt ≤ timer.due
  saved : s.silent = false → ∀ saved ∈ s.changed, saved = s.saveTasks

theorem le_timeout {now triggerAt : ℤ} (h : triggerAt - now ≤ TIMEOUT_MAX) :
    triggerAt ≤ now + timeout (max 0 (triggerAt - now)) := by
  unfold timeout
  split <;> omega

theorem Sound.put (hs : Sound s) (h : s.InTime task) : Sound (s.put task) where
  justified := hs.justified
  entry id entry hget := by
    rcases get_set_cases hget with ⟨rfl,rfl⟩ | ⟨hne,hget⟩
    · exact if_pos rfl
    · exact (if_neg hne.symm).trans (hs.entry id entry hget)
  timers timer hmem entry hget := by
    rcases get_set_cases hget with ⟨hid,rfl⟩ | ⟨hne,hget⟩
    · rcases List.mem_cons.mp hmem with rfl | hmem
      · exact le_timeout h.2
      · exact h.1 timer hmem hid
    · rcases List.mem_cons.mp hmem with rfl | hmem
      · exact absurd rfl hne
      · exact hs.timers timer hmem entry hget
  saved hsilent := by cases hsilent

theorem Sound.notifyTasksChanged (hs : Sound s) : Sound s.notifyTasksChanged :=
  { hs with saved := fun _ _ hsaved => (Option.mem_some_iff.mp hsaved).symm }

theorem Sound.remove (hs : Sound s) (p : JsString → ScheduledTask → Bool) : Sound (s.remove p) where
  justified := hs.justified
  entry id entry hget := by
    obtain ⟨hget,hp⟩ := get_filter.mp hget
    refine (if_neg fun hmem => ?_).trans (hs.entry id entry hget)
    obtain ⟨entry',hentry⟩ := has_iff.mp (has_iff_mem_keys.mpr hmem)
    obtain ⟨hget',hmatch⟩ := get_filter.mp hentry
    cases hget.symm.trans hget'
    simp [hmatch] at hp
  timers timer hmem entry hget := hs.timers timer (List.mem_filter.mp hmem).1 entry (get_filter.mp hget).1
  saved hsilent := by cases hsilent

theorem Sound.triggerTask {timer : Timer} (hs : Sound s) (hmem : timer ∈ s.timers) (hdue : timer.due ≤ s.now) :
    Sound (s.triggerTask timer) := by
  have htimers : ∀ other ∈ s.timers.erase timer,other ∈ s.timers := fun _ => List.mem_of_mem_erase
  unfold Scheduler.triggerTask
  split
  · exact { hs with timers := fun other hother => hs.timers other (htimers other hother) }
  · next task handle hget =>
    have hkept : ∀ id entry,(s.tasks.delete timer.taskId).get id = some entry →
        timer.taskId ≠ id ∧ s.tasks.get id = some entry := by
      intro id entry hget'
      rw [get_delete,Option.ite_none_left_eq_some] at hget'
      exact ⟨Ne.symm hget'.1,hget'.2⟩
    have hstanding : standing s.events timer.taskId = some task := hs.entry _ _ hget
    have hid := standing_id hstanding
    exact {
      justified := ⟨⟨hid ▸ hstanding,Int.le_trans (hs.timers timer hmem _ hget) hdue⟩,hs.justified⟩
      entry := by
        intro id entry hget'
        obtain ⟨hne,hget'⟩ := hkept id entry hget'
        exact (if_neg (hid ▸ hne)).trans (hs.entry id entry hget')
      timers := fun other hother entry hget' => hs.timers other (htimers other hother) entry (hkept _ _ hget').2
      saved := fun hsilent => by cases hsilent }

variable {saved : List ScheduledTask}

theorem Sound.loadTasks (hs : Sound s) (h : s.AllInTime saved) : Sound (s.loadTasks saved) := by
  induction saved generalizing s with
  | nil => exact hs
  | cons task saved ih => exact ih (hs.put h.1) h.2

theorem Sound.step {s' : Scheduler} {action : Action} (hs : Sound s) (hmeets : s.Meets action)
    (h : s.step action = some s') : Sound s' := by
  cases action with
  | schedule id randomUUID input =>
    cases h
    exact (hs.put hmeets).notifyTasksChanged
  | cancel taskId =>
    cases h
    unfold Scheduler.cancel
    split
    · exact (hs.remove _).notifyTasksChanged
    · exact hs
  | cancelWhere predicate =>
    cases h
    unfold Scheduler.cancelWhere
    dsimp only
    split
    · exact (hs.remove _).notifyTasksChanged
    · exact hs
  | stopAll =>
    cases h
    exact hs.remove _
  | loadTasks saved =>
    cases h
    exact hs.loadTasks hmeets
  | wait now =>
    obtain ⟨-,h⟩ := Option.ite_none_right_eq_some.mp h
    cases h
    exact { hs with }
  | fire timer =>
    obtain ⟨⟨hmem,hdue,-⟩,h⟩ := Option.ite_none_right_eq_some.mp h
    cases h
    exact hs.triggerTask hmem hdue
  | retarget topicKey =>
    obtain ⟨task,-,rfl⟩ := Option.map_eq_some_iff.mp h
    exact { hs with }
  | finish =>
    obtain ⟨task,hrunning,rfl⟩ := Option.map_eq_some_iff.mp h
    have hended : Sound { s with running := none } := { hs with }
    unfold Scheduler.finishTrigger
    dsimp only
    split
    · next hrecurring => exact (hended.put (hmeets task hrunning hrecurring)).notifyTasksChanged
    · exact hended.notifyTasksChanged

inductive Reachable (now : ℤ) : Scheduler → Prop
  | start : Reachable now (.start now)
  | step {s s' : Scheduler} (action : Action) : Reachable now s → s.Meets action → s.step action = some s' →
    Reachable now s'

theorem sound_of_reachable {now : ℤ} (h : Reachable now s) : Sound s := by
  induction h with
  | start =>
    exact {
      justified := trivial
      entry := fun _ _ hget => by cases hget
      timers := fun _ hmem => by cases hmem
      saved := fun _ _ hsaved => by cases hsaved }
  | step action _ hmeets hstep ih => exact ih.step hmeets hstep

end Malink.Scheduling
