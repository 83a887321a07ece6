import Malink.DeliveryWork

/-!
# The edit loop

The loop moves tasks out of the map and hands them to the channel one after another. No task gets lost on the way.
-/

namespace Malink.Delivery

open DeliveryOutbox List

variable {config : DeliveryOutboxConfig}

def Coherent (edits : InsertionMap JsString ProgressiveEditTask) : Prop := ∀ entry ∈ edits.entries, entry.2.key = entry.1

variable {edits : InsertionMap JsString ProgressiveEditTask}

theorem coherent_set (h : Coherent edits) (task : ProgressiveEditTask) : Coherent (edits.set task.key task) := by
  intro entry hentry
  rcases (InsertionMap.mem_setEntries edits.nodup_keys).mp hentry with rfl | ⟨hentry,-⟩
  · rfl
  · exact h entry hentry

theorem entries_deleteTasks (edits : InsertionMap JsString ProgressiveEditTask) (tasks : List ProgressiveEditTask) :
    (deleteTasks edits tasks).entries =
      edits.entries.filter fun entry => tasks.all fun task => !decide (entry.1 = task.key) := by
  induction tasks generalizing edits with
  | nil => exact (filter_eq_self.mpr fun _ _ => rfl).symm
  | cons task tasks ih =>
    have hcons : deleteTasks edits (task :: tasks) = deleteTasks (edits.delete task.key) tasks := rfl
    rw [hcons,ih,InsertionMap.delete,InsertionMap.filter,filter_filter]
    refine filter_congr fun entry _ => ?_
    rw [all_cons,Bool.and_comm]

theorem values_deleteTasks (h : Coherent edits) (taken : ProgressiveEditTask → Bool) :
    (deleteTasks edits (edits.values.filter taken)).values = edits.values.filter fun task => !taken task := by
  have hright : edits.values.filter (fun task => !taken task) =
      (edits.entries.filter fun entry => !taken entry.2).map Prod.snd := filter_map
  rw [hright,InsertionMap.values,entries_deleteTasks,InsertionMap.values]
  refine congrArg (List.map Prod.snd) (filter_congr fun entry hentry => ?_)
  rw [Bool.eq_iff_iff,all_eq_true,Bool.not_eq_true']
  constructor
  · intro hall
    by_contra htaken
    have hmem : entry.2 ∈ (edits.entries.map Prod.snd).filter taken :=
      mem_filter.mpr ⟨mem_map_of_mem hentry,by simpa using htaken⟩
    have hkey := hall entry.2 hmem
    rw [h entry hentry] at hkey
    simp at hkey
  · intro htaken task htask
    obtain ⟨hvalue,htask⟩ := mem_filter.mp htask
    obtain ⟨other,hother,rfl⟩ := mem_map.mp hvalue
    rw [Bool.not_eq_true',decide_eq_false_iff_not,h other hother]
    intro hkey
    have hsame : other = entry := inj_on_of_nodup_map edits.nodup_keys hother hentry hkey.symm
    rw [hsame,htaken] at htask
    cases htask

theorem coherent_deleteTasks (h : Coherent edits) (tasks : List ProgressiveEditTask) :
    Coherent (deleteTasks edits tasks) := by
  intro entry hentry
  rw [entries_deleteTasks] at hentry
  exact h entry (mem_of_mem_filter hentry)

/-- The ways in which the call of an edit ends. -/
theorem Outcome.kinds {motive : Outcome → Prop} (resolved : ∀ messageId thrown,motive (.resolved messageId thrown))
    (deferred : ∀ confirmation,motive (.rejected (.deferred confirmation)))
    (limited : ∀ message retryAfterMs network,motive (.rejected (.rejected message (some retryAfterMs) network)))
    (failed : ∀ message network,motive (.rejected (.rejected message none network))) (outcome : Outcome) :
    motive outcome := by
  cases outcome with
  | resolved messageId thrown => exact resolved messageId thrown
  | rejected error =>
    cases error with
    | deferred confirmation => exact deferred confirmation
    | rejected message retryAfterMs network =>
      cases retryAfterMs with
      | none => exact failed message network
      | some retryAfterMs => exact limited message retryAfterMs network

def EditLoop.tasks : EditLoop → List ProgressiveEditTask
  | .editing task rest | .sendingFallback task _ rest => task :: rest
  | .idle | .debouncing | .woken _ | .blocked _ | .closing => []

def DeliveryOutbox.tasks (outbox : DeliveryOutbox) : List ProgressiveEditTask :=
  outbox.progressiveEdits.values ++ outbox.progressiveEditLoop.tasks

/-- What the loop does when it goes on: it takes tasks or waits, and changes nothing else. -/
structure Continues (config : DeliveryOutboxConfig) (outbox : DeliveryOutbox) (rest : List ProgressiveEditTask)
    (overhead : ℕ) (outbox' : DeliveryOutbox) : Prop where
  frame : ∃ edits loop attempted, outbox' =
    { outbox with
      progressiveEdits := edits
      progressiveEditLoop := loop
      history := { outbox.history with attempted := attempted } }
  coherent : Coherent outbox'.progressiveEdits
  tasks : outbox'.tasks.Perm (outbox.progressiveEdits.values ++ rest)
  active : outbox'.progressiveEditLoop ≠ .idle
  work : outbox'.editsWork config ≤ tasksWork config (outbox.progressiveEdits.values ++ rest) + overhead

theorem tasksWork_append (tasks tasks' : List ProgressiveEditTask) :
    tasksWork config (tasks ++ tasks') = tasksWork config tasks + tasksWork config tasks' := by
  rw [tasksWork,map_append,sum_append]
  rfl

theorem tasksWork_perm {tasks tasks' : List ProgressiveEditTask} (h : tasks.Perm tasks') :
    tasksWork config tasks = tasksWork config tasks' := (h.map _).sum_eq

variable {outbox' : DeliveryOutbox} {rest : List ProgressiveEditTask} {overhead : ℕ}
  {task : ProgressiveEditTask}

theorem Continues.mono {outbox : DeliveryOutbox} {overhead' : ℕ}
    (h : Continues config outbox rest overhead outbox') (hle : overhead ≤ overhead') :
    Continues config outbox rest overhead' outbox' :=
  ⟨h.frame,h.coherent,h.tasks,h.active,Nat.le_trans h.work (Nat.add_le_add_left hle _)⟩

variable {outbox : DeliveryOutbox}

section

variable (h : Coherent outbox.progressiveEdits)
include h

theorem continues_waiting {loop : EditLoop} (htasks : loop.tasks = [])
    (hactive : loop ≠ .idle) (hwork : loop.work config (outbox.progressiveEdits.size ≠ 0) ≤ overhead) :
    Continues config outbox [] overhead { outbox with progressiveEditLoop := loop } where
  frame := ⟨_,_,_,rfl⟩
  coherent := h
  tasks := by
    rw [DeliveryOutbox.tasks,htasks]
  active := hactive
  work := by
    rw [append_nil]
    exact Nat.add_le_add_left hwork _

theorem startEdit_continues (task : ProgressiveEditTask)
    (rest : List ProgressiveEditTask) : Continues config outbox (task :: rest) 0 (outbox.startEdit task rest) where
  frame := ⟨_,_,_,rfl⟩
  coherent := h
  tasks := .refl _
  active := by simp [startEdit]
  work := by
    rw [tasksWork_append]
    exact Nat.le_refl _

theorem takeTasks_continues (terminalWake : Bool) :
    Continues config outbox [] (if terminalWake then 6 else 1) (outbox.takeTasks terminalWake) := by
  cases htasks : outbox.tasksToTake terminalWake with
  | nil =>
    rw [takeTasks,htasks]
    refine continues_waiting h ?_ ?_ ?_
    · split <;> rfl
    · split <;> simp
    · by_cases hsize : outbox.progressiveEdits.size = 0
      · rw [if_pos hsize,EditLoop.work]
        cases terminalWake <;> simp [hsize]
      · rw [if_neg hsize,EditLoop.work]
        cases terminalWake with
        | true => exact Nat.le_refl _
        | false =>
          -- Without a terminal wake every task is taken.
          have hall : outbox.tasksToTake false = outbox.progressiveEdits.values := filter_eq_self.mpr fun _ _ => rfl
          rw [hall] at htasks
          exact absurd (congrArg List.length (map_eq_nil_iff.mp htasks)) hsize
  | cons task tasks =>
    have htaken : outbox.progressiveEdits.values.filter (fun task => !terminalWake || task.terminal) = task :: tasks :=
      htasks
    have hperm := filter_append_perm (fun task : ProgressiveEditTask => !terminalWake || task.terminal)
      outbox.progressiveEdits.values
    have hvalues := values_deleteTasks h fun task => !terminalWake || task.terminal
    rw [htaken] at hperm hvalues
    rw [← hvalues] at hperm
    have hall : ((deleteTasks outbox.progressiveEdits (task :: tasks)).values ++ task :: tasks).Perm
        outbox.progressiveEdits.values := perm_append_comm.trans hperm
    have hcoherent := coherent_deleteTasks h (task :: tasks)
    have hstart : Continues config { outbox with progressiveEdits := deleteTasks outbox.progressiveEdits (task :: tasks) }
        (task :: tasks) 0 _ := startEdit_continues hcoherent task tasks
    rw [takeTasks,htasks]
    refine ⟨⟨_,_,_,rfl⟩,hcoherent,?_,hstart.active,?_⟩
    · rw [append_nil]
      exact hstart.tasks.trans hall
    · rw [append_nil,← tasksWork_perm hall]
      exact Nat.le_trans hstart.work (Nat.le_add_right _ _)

theorem afterDebounce_continues (terminalWake : Bool) :
    Continues config outbox [] (if terminalWake then 7 else 4) (outbox.afterDebounce terminalWake) := by
  rw [afterDebounce]
  by_cases hblocked : outbox.progressiveEditBlockedUntil > outbox.now
  · rw [if_pos hblocked]
    exact continues_waiting h rfl (by simp) (Nat.le_refl _)
  · rw [if_neg hblocked]
    exact (takeTasks_continues h terminalWake).mono (by cases terminalWake <;> simp)

theorem loopHead_continues : Continues config outbox [] 6 (outbox.loopHead config) := by
  rw [loopHead]
  by_cases hsize : outbox.progressiveEdits.size = 0
  · rw [if_pos hsize]
    exact continues_waiting h rfl (by simp) (by simp [EditLoop.work,hsize])
  · rw [if_neg hsize]
    by_cases hdebounce : outbox.progressiveEdits.values.all (·.terminal) = false ∧ config.progressiveEditDebounceMs > 0
    · rw [if_pos hdebounce]
      exact continues_waiting h rfl (by simp) (Nat.le_refl _)
    · rw [if_neg hdebounce]
      exact (afterDebounce_continues h false).mono (by simp)

theorem nextTask_continues (rest : List ProgressiveEditTask) :
    Continues config outbox rest 6 (outbox.nextTask config rest) := by
  cases rest with
  | nil => exact loopHead_continues h
  | cons task rest => exact (startEdit_continues h task rest).mono (Nat.zero_le _)

end

variable {before : DeliveryOutbox}

theorem Continues.work_lt {outbox : DeliveryOutbox} (h : Continues config outbox rest overhead outbox')
    (hlanes : outbox.control = before.control ∧ outbox.normal = before.normal)
    (hwork : tasksWork config (outbox.progressiveEdits.values ++ rest) + overhead < before.editsWork config) :
    outbox'.work config < before.work config := by
  obtain ⟨edits,loop,attempted,hframe⟩ := h.frame
  have hless := Nat.lt_of_le_of_lt h.work hwork
  rw [DeliveryOutbox.work,DeliveryOutbox.work]
  have hcontrol : outbox'.control = before.control := by
    rw [hframe]
    exact hlanes.1
  have hnormal : outbox'.normal = before.normal := by
    rw [hframe]
    exact hlanes.2
  rw [hcontrol,hnormal]
  omega

theorem tasksWork_set_le (edits : InsertionMap JsString ProgressiveEditTask) (task : ProgressiveEditTask) :
    tasksWork config (edits.set task.key task).values ≤ tasksWork config edits.values + task.work config := by
  have hentries (entries : List (JsString × ProgressiveEditTask)) :
      tasksWork config ((InsertionMap.setEntries task.key task entries).map Prod.snd) ≤
        tasksWork config (entries.map Prod.snd) + task.work config := by
    induction entries with
    | nil => simp [InsertionMap.setEntries,tasksWork]
    | cons entry entries ih =>
      rw [InsertionMap.setEntries]
      split
      · simp only [tasksWork,map_cons,sum_cons]
        omega
      · simp only [tasksWork,map_cons,sum_cons] at ih ⊢
        omega
  exact hentries edits.entries

theorem finishTask_continues (h : Coherent outbox.progressiveEdits) (task : ProgressiveEditTask)
    (rest : List ProgressiveEditTask) (change : DeliveryRecord → DeliveryRecord) :
    Continues config (outbox.updateRecord task.record fun record => (change record).settle) rest 6
      (outbox.finishTask config task rest change) := by
  have hcoherent : Coherent (outbox.updateRecord task.record fun record => (change record).settle).progressiveEdits := h
  exact nextTask_continues hcoherent rest

theorem finishTask_work (h : Coherent outbox.progressiveEdits) (change : DeliveryRecord → DeliveryRecord)
    (hlanes : outbox.control = before.control ∧ outbox.normal = before.normal)
    (hwork : tasksWork config (outbox.progressiveEdits.values ++ rest) + 6 < before.editsWork config) :
    (outbox.finishTask config task rest change).work config < before.work config :=
  (finishTask_continues h task rest change).work_lt hlanes hwork

theorem editsWork_editing (hloop : outbox.progressiveEditLoop = .editing task rest) :
    outbox.editsWork config = tasksWork config (outbox.progressiveEdits.values ++ rest) + task.work config := by
  rw [editsWork,hloop,EditLoop.work,tasksWork_append]
  omega

variable {attempt : Attempt}

theorem editsWork_sendingFallback (hloop : outbox.progressiveEditLoop = .sendingFallback task attempt rest) :
    outbox.editsWork config =
      tasksWork config (outbox.progressiveEdits.values ++ rest) + attempt.work config + 10 := by
  rw [editsWork,hloop,EditLoop.work,tasksWork_append]
  omega

theorem rateLimit_work (h : Coherent outbox.progressiveEdits) (hloop : outbox.progressiveEditLoop = .editing task rest)
    (error : DeliveryError)
    (retryAfterMs : ℕ) : (outbox.rateLimit config task rest error retryAfterMs).work config < outbox.work config := by
  have hedits : outbox.editsWork config = _ := editsWork_editing hloop
  have htask : fullWork config + 12 ≤ task.work config := task.le_work
  rw [rateLimit]
  by_cases hretry : task.terminal ∧ task.attempts < config.maxRateLimitRetries
  · rw [if_pos hretry]
    have hset : tasksWork config (outbox.progressiveEdits.set task.key task.again).values ≤
        tasksWork config outbox.progressiveEdits.values + task.again.work config := tasksWork_set_le _ task.again
    have hless : task.again.work config + 20 = task.work config := by
      have hattempts : task.again.attempts = task.attempts + 1 := rfl
      obtain ⟨-,hlimit⟩ := hretry
      rw [ProgressiveEditTask.work,ProgressiveEditTask.work,hattempts]
      omega
    have hwork : tasksWork config ((outbox.progressiveEdits.set task.key task.again).values ++ rest) + 6 <
        outbox.editsWork config := by
      rw [tasksWork_append] at hedits ⊢
      omega
    have hcoherent : Coherent (outbox.progressiveEdits.set task.key task.again) := coherent_set h task.again
    refine (nextTask_continues ?_ rest).work_lt ⟨rfl,rfl⟩ ?_
    · exact hcoherent
    · exact hwork
  · rw [if_neg hretry]
    have hwork : tasksWork config (outbox.progressiveEdits.values ++ rest) + 6 < outbox.editsWork config := by omega
    refine finishTask_work ?_ _ ⟨rfl,rfl⟩ ?_
    · exact h
    · exact hwork

theorem work_lt_of_edits (hlanes : outbox'.control = outbox.control ∧ outbox'.normal = outbox.normal)
    (hwork : outbox'.editsWork config < outbox.editsWork config) : outbox'.work config < outbox.work config := by
  rw [DeliveryOutbox.work,DeliveryOutbox.work,hlanes.1,hlanes.2]
  omega

theorem editSettles_work (h : Coherent outbox.progressiveEdits)
    (hloop : outbox.progressiveEditLoop = .editing task rest) (outcome : Outcome) :
    (outbox.editSettles config task rest outcome).work config < outbox.work config := by
  have hedits : outbox.editsWork config = _ := editsWork_editing hloop
  have htask : fullWork config + 12 ≤ task.work config := task.le_work
  have hfinish : tasksWork config (outbox.progressiveEdits.values ++ rest) + 6 < outbox.editsWork config := by omega
  cases outcome using Outcome.kinds with
  | resolved messageId thrown =>
    rw [editSettles]
    refine finishTask_work ?_ _ ⟨rfl,rfl⟩ ?_
    · exact h
    · exact hfinish
  | deferred confirmation =>
    rw [editSettles]
    exact finishTask_work h _ ⟨rfl,rfl⟩ hfinish
  | limited message retryAfterMs network => exact rateLimit_work h hloop _ _
  | failed message network =>
    rw [editSettles]
    by_cases hfallback : task.fallbackToSend
    · rw [if_pos hfallback]
      refine work_lt_of_edits ⟨rfl,rfl⟩ ?_
      rw [editsWork_sendingFallback rfl,hedits,Attempt.work_first]
      dsimp only [updateRecord]
      omega
    · rw [if_neg hfallback]
      exact finishTask_work h _ ⟨rfl,rfl⟩ hfinish

theorem fallbackSettles_work (h : Coherent outbox.progressiveEdits)
    (hloop : outbox.progressiveEditLoop = .sendingFallback task attempt rest) (hresting : attempt.resting = false)
    (outcome : Outcome) :
    (outbox.fallbackSettles config task attempt rest outcome).work config < outbox.work config := by
  have hedits : outbox.editsWork config = _ := editsWork_sendingFallback hloop
  have hpos : 0 < attempt.work config := attempt.work_pos
  have hfinish : tasksWork config (outbox.progressiveEdits.values ++ rest) + 6 < outbox.editsWork config := by omega
  cases outcome with
  | resolved messageId thrown => exact finishTask_work h _ ⟨rfl,rfl⟩ hfinish
  | rejected error =>
    rw [fallbackSettles]
    cases hafter : attempt.afterError config error with
    | none => exact finishTask_work h _ ⟨rfl,rfl⟩ hfinish
    | some attempt' =>
      have hless := Attempt.work_afterError hresting hafter
      refine work_lt_of_edits ⟨rfl,rfl⟩ ?_
      rw [editsWork_sendingFallback rfl,hedits]
      dsimp only
      omega

end Malink.Delivery
