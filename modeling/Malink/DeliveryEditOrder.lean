import Malink.DeliverySettling

/-!
# The order of progressive edits

Edits of one key are handed to the channel in the order in which they were enqueued.
-/

namespace Malink.Delivery

open DeliveryOutbox List
open DeliveryRecord (flags)

variable {config : DeliveryOutboxConfig} {outbox outbox' : DeliveryOutbox}

/-- Two deliveries of one key are in the order in which they were enqueued. -/
def InOrder (enqueued : List ProgressiveEditTask) (earlier later : ℕ) : Prop :=
  ∀ edit ∈ enqueued, ∀ edit' ∈ enqueued, edit.record = earlier → edit'.record = later → edit.key = edit'.key →
    earlier ≤ later

def TaskOf (enqueued : List ProgressiveEditTask) (task : ProgressiveEditTask) : Prop :=
  ∃ edit ∈ enqueued, edit.record = task.record ∧ edit.key = task.key ∧ edit.terminal = task.terminal

variable {edit task : ProgressiveEditTask} {rest : List ProgressiveEditTask}
  {records : List DeliveryRecord} {id : ℕ} {name : LaneName} {record : DeliveryRecord} {task' : ProgressiveEditTask}

section

variable {enqueued : List ProgressiveEditTask}

theorem inOrder_of_le {earlier later : ℕ} (h : earlier ≤ later) : InOrder enqueued earlier later :=
  fun _ _ _ _ _ _ _ => h

theorem eq_of_record_eq (hincreasing : enqueued.Pairwise (·.record < ·.record)) {edit' : ProgressiveEditTask}
    (hedit : edit ∈ enqueued) (hedit' : edit' ∈ enqueued) (h : edit.record = edit'.record) : edit = edit' := by
  have hrecords : (enqueued.map (·.record)).Nodup := (pairwise_map.mpr hincreasing).imp fun hlt => Nat.ne_of_lt hlt
  exact inj_on_of_nodup_map hrecords hedit hedit' h

theorem inOrder_of_key_ne (hincreasing : enqueued.Pairwise (·.record < ·.record)) (htask : TaskOf enqueued task)
    (htask' : TaskOf enqueued task') (h : task.key = task'.key → task.record ≤ task'.record) :
    InOrder enqueued task.record task'.record := by
  obtain ⟨found,hfound,hrecord,hkey,-⟩ := htask
  obtain ⟨found',hfound',hrecord',hkey',-⟩ := htask'
  intro edit hedit edit' hedit' hearlier hlater hsame
  refine h ?_
  rw [← hkey,← hkey',eq_of_record_eq hincreasing hfound hedit (hrecord.trans hearlier.symm),
    eq_of_record_eq hincreasing hfound' hedit' (hrecord'.trans hlater.symm)]
  exact hsame

theorem InOrder.append {earlier later bound : ℕ} (h : InOrder enqueued earlier later)
    (hedit : edit.record = bound) (hearlier : earlier < bound) : InOrder (enqueued ++ [edit]) earlier later := by
  intro found hfound found' hfound' hfirst hsecond hkey
  rcases mem_append.mp hfound' with hold' | hnew'
  · rcases mem_append.mp hfound with hold | hnew
    · exact h found hold found' hold' hfirst hsecond hkey
    · rw [mem_singleton.mp hnew,hedit] at hfirst
      exact absurd hfirst (Nat.ne_of_gt hearlier)
  · rw [mem_singleton.mp hnew',hedit] at hsecond
    exact hearlier.le.trans hsecond.le

theorem TaskOf.append (h : TaskOf enqueued task) (edit : ProgressiveEditTask) : TaskOf (enqueued ++ [edit]) task := by
  obtain ⟨found,hfound,hsame⟩ := h
  exact ⟨found,mem_append_left _ hfound,hsame⟩

end

/-- The promise of a delivery has not resolved, and no confirmation is awaited for it. -/
def Unsettled (records : List DeliveryRecord) (id : ℕ) : Prop :=
  ∀ record, records[id]? = some record → record.settled = false

def Unconfirmed (records : List DeliveryRecord) (id : ℕ) : Prop :=
  ∀ record, records[id]? = some record → record.confirmation = none

/-- An edit was tried, or still waits among the tasks, or was not terminal and gave way to a newer one of its key. -/
def Placed (outbox : DeliveryOutbox) (rest : List ProgressiveEditTask) (edit : ProgressiveEditTask) : Prop :=
  edit.record ∈ outbox.history.attempted ∨ Unconfirmed outbox.records edit.record ∧
    ((∃ task,(task ∈ rest ∨ task ∈ outbox.progressiveEdits.values) ∧ task.record = edit.record) ∧
        Unsettled outbox.records edit.record ∨
      edit.terminal = false ∧ ∃ newer ∈ outbox.history.enqueued,newer.key = edit.key ∧ edit.record < newer.record)

/-- The edits are in order, where the tasks of `rest` come next and those in the map after them. -/
structure Arranged (outbox : DeliveryOutbox) (rest : List ProgressiveEditTask) : Prop where
  increasing : outbox.history.enqueued.Pairwise (·.record < ·.record)
  known : ∀ edit ∈ outbox.history.enqueued, edit.record < outbox.records.length
  jobs : ∀ name, ∀ job ∈ (outbox.lane name).jobs, ∀ edit ∈ outbox.history.enqueued, edit.record ≠ job.record
  attempted : ∀ id ∈ outbox.history.attempted, ∃ edit ∈ outbox.history.enqueued, edit.record = id
  tasks : ∀ task, task ∈ rest ∨ task ∈ outbox.progressiveEdits.values → TaskOf outbox.history.enqueued task
  keys : (rest.map (·.key)).Nodup
  attempts : outbox.history.attempted.Pairwise (InOrder outbox.history.enqueued)
  waiting : ∀ id ∈ outbox.history.attempted, ∀ task, task ∈ rest ∨ task ∈ outbox.progressiveEdits.values →
    InOrder outbox.history.enqueued id task.record
  later : ∀ task ∈ rest, ∀ task' ∈ outbox.progressiveEdits.values, task.key = task'.key → task.record < task'.record
  again : ∀ task, task ∈ rest ∨ task ∈ outbox.progressiveEdits.values → task.record ∈ outbox.history.attempted →
    task.terminal
  placed : ∀ edit ∈ outbox.history.enqueued, Placed outbox rest edit

/-- The task that the channel is working on is the one that was tried last. -/
structure Current (outbox : DeliveryOutbox) (task : ProgressiveEditTask) (rest : List ProgressiveEditTask) : Prop where
  last : outbox.history.attempted.getLast? = some task.record
  taskOf : TaskOf outbox.history.enqueued task
  keys : task.key ∉ rest.map (·.key)
  later : ∀ task' ∈ outbox.progressiveEdits.values, task.key = task'.key → task.record < task'.record

theorem Arranged.key_eq (h : Arranged outbox rest) (htask : task ∈ rest ∨ task ∈ outbox.progressiveEdits.values)
    (htask' : task' ∈ rest ∨ task' ∈ outbox.progressiveEdits.values) (hrecord : task.record = task'.record) :
    task.key = task'.key := by
  obtain ⟨edit,hedit,hsame,hkey,-⟩ := h.tasks task htask
  obtain ⟨edit',hedit',hsame',hkey',-⟩ := h.tasks task' htask'
  rw [← hkey,← hkey',eq_of_record_eq h.increasing hedit hedit' (hsame.trans (hrecord.trans hsame'.symm))]

structure Ordered (outbox : DeliveryOutbox) : Prop where
  arranged : Arranged outbox outbox.progressiveEditLoop.tasks.tail
  current : ∀ task rest, outbox.progressiveEditLoop.tasks = task :: rest → Current outbox task rest

theorem ordered_fresh : Ordered fresh where
  arranged :=
    { increasing := .nil
      known := fun _ hedit => by cases hedit
      jobs := fun _ _ _ _ hedit => by cases hedit
      attempted := fun _ hid => by cases hid
      tasks := fun _ htask => by rcases htask with htask | htask <;> cases htask
      keys := nodup_nil
      attempts := .nil
      waiting := fun _ hid => by cases hid
      later := fun _ htask => by cases htask
      again := fun _ _ hid => by cases hid
      placed := fun _ hedit => by cases hedit }
  current := fun _ _ htasks => by cases htasks

variable {loop : EditLoop}

theorem Arranged.waits (h : Arranged outbox []) (htasks : loop.tasks = []) :
    Ordered { outbox with progressiveEditLoop := loop } where
  arranged := by
    have hloop : ({ outbox with progressiveEditLoop := loop } : DeliveryOutbox).progressiveEditLoop.tasks.tail = [] := by
      rw [htasks]
      rfl
    rw [hloop]
    exact { h with }
  current := by
    intro task rest hcons
    rw [htasks] at hcons
    cases hcons

theorem Ordered.sameTasks (h : Ordered outbox) (htasks : loop.tasks = outbox.progressiveEditLoop.tasks) :
    Ordered { outbox with progressiveEditLoop := loop } where
  arranged := by
    have hloop : ({ outbox with progressiveEditLoop := loop } : DeliveryOutbox).progressiveEditLoop.tasks.tail =
        outbox.progressiveEditLoop.tasks.tail := congrArg tail htasks
    rw [hloop]
    exact { h.arranged with }
  current := by
    intro task rest hcons
    exact { h.current task rest (htasks.symm.trans hcons) with }

theorem Arranged.startEdit (h : Arranged outbox (task :: rest)) : Ordered (outbox.startEdit task rest) := by
  have htask : TaskOf outbox.history.enqueued task := h.tasks task (.inl (mem_cons_self ..))
  have hkeys := nodup_cons.mp h.keys
  have hrest (other : ProgressiveEditTask) (hother : other ∈ rest ∨ other ∈ outbox.progressiveEdits.values) :
      other ∈ task :: rest ∨ other ∈ outbox.progressiveEdits.values := hother.imp_left (mem_cons_of_mem _)
  have hstrict (other : ProgressiveEditTask) (hother : other ∈ rest ∨ other ∈ outbox.progressiveEdits.values)
      (hkey : task.key = other.key) : task.record < other.record := by
    rcases hother with hother | hother
    · have hmem : task.key ∈ rest.map (·.key) := hkey ▸ mem_map_of_mem hother
      exact absurd hmem hkeys.1
    · exact h.later task (mem_cons_self ..) other hother hkey
  refine ⟨⟨h.increasing,h.known,fun name => ?_,fun id hid => ?_,fun other hother => h.tasks other (hrest other hother),
    hkeys.2,?_,fun id hid other hother => ?_,fun other hother => ?_,fun other hother hid => ?_,
    fun edit hedit => ?_⟩,fun found rest' hcons => ?_⟩
  · cases name with
    | control => exact h.jobs .control
    | normal => exact h.jobs .normal
  · rcases mem_append.mp hid with hid | hid
    · exact h.attempted id hid
    · obtain ⟨edit,hedit,hrecord,-⟩ := htask
      exact ⟨edit,hedit,hrecord.trans (mem_singleton.mp hid).symm⟩
  · refine pairwise_append.mpr ⟨h.attempts,pairwise_singleton _ _,fun id hid last hlast => ?_⟩
    rw [mem_singleton.mp hlast]
    exact h.waiting id hid task (.inl (mem_cons_self ..))
  · rcases mem_append.mp hid with hid | hid
    · exact h.waiting id hid other (hrest other hother)
    · rw [mem_singleton.mp hid]
      exact inOrder_of_key_ne h.increasing htask (h.tasks other (hrest other hother)) fun hkey =>
        (hstrict other hother hkey).le
  · exact h.later other (mem_cons_of_mem _ hother)
  · rcases mem_append.mp hid with hid | hid
    · exact h.again other (hrest other hother) hid
    · -- A task of the same record would be one of the same key, and come later.
      have hrecord : other.record = task.record := mem_singleton.mp hid
      have hless := hstrict other hother (h.key_eq (.inl (mem_cons_self ..)) (hrest other hother) hrecord.symm)
      exact absurd hrecord (Nat.ne_of_gt hless)
  · rcases h.placed edit hedit with hattempted | ⟨hunconfirmed,⟨⟨found,hfound,hrecord⟩,hunsettled⟩ | hnewer⟩
    · exact .inl (mem_append_left _ hattempted)
    · rcases hfound with hfound | hfound
      · rcases mem_cons.mp hfound with rfl | hfound
        · refine .inl (mem_append_right _ ?_)
          rw [← hrecord]
          exact mem_singleton_self _
        · exact .inr ⟨hunconfirmed,.inl ⟨⟨found,.inl hfound,hrecord⟩,hunsettled⟩⟩
      · exact .inr ⟨hunconfirmed,.inl ⟨⟨found,.inr hfound,hrecord⟩,hunsettled⟩⟩
    · exact .inr ⟨hunconfirmed,.inr hnewer⟩
  · obtain ⟨rfl,rfl⟩ := cons.inj hcons
    exact ⟨getLast?_concat,htask,hkeys.1,h.later task (mem_cons_self ..)⟩

section

variable (h : Arranged outbox []) (hcoherent : Coherent outbox.progressiveEdits)
include h hcoherent

theorem Arranged.take (taken : ProgressiveEditTask → Bool) :
    Arranged
      { outbox with
        progressiveEdits := deleteTasks outbox.progressiveEdits (outbox.progressiveEdits.values.filter taken) }
      (outbox.progressiveEdits.values.filter taken) := by
  have hvalues := values_deleteTasks hcoherent taken
  have hmem (task : ProgressiveEditTask) : (task ∈ outbox.progressiveEdits.values.filter taken ∨
      task ∈ (deleteTasks outbox.progressiveEdits (outbox.progressiveEdits.values.filter taken)).values) ↔
      task ∈ outbox.progressiveEdits.values := by
    rw [hvalues,mem_filter,mem_filter]
    cases taken task <;> simp
  have hkeys : (outbox.progressiveEdits.values.map (·.key)).Nodup := by
    have hsame : outbox.progressiveEdits.values.map (·.key) = outbox.progressiveEdits.keys := by
      rw [InsertionMap.values,InsertionMap.keys,map_map]
      exact map_congr_left hcoherent
    rw [hsame]
    exact outbox.progressiveEdits.nodup_keys
  refine ⟨h.increasing,h.known,h.jobs,h.attempted,fun task htask => h.tasks task (.inr ((hmem task).mp htask)),
    hkeys.sublist (filter_sublist.map _),h.attempts,
    fun id hid task htask => h.waiting id hid task (.inr ((hmem task).mp htask)),fun task htask task' htask' hkey => ?_,
    fun task htask => h.again task (.inr ((hmem task).mp htask)),fun edit hedit => ?_⟩
  · -- Two tasks of one key would be the same, and only one of them was taken.
    change task' ∈ (deleteTasks _ _).values at htask'
    rw [hvalues] at htask'
    obtain ⟨hvalue,htaken⟩ := mem_filter.mp htask
    obtain ⟨hvalue',hleft⟩ := mem_filter.mp htask'
    rw [inj_on_of_nodup_map hkeys hvalue hvalue' hkey] at htaken
    rw [htaken] at hleft
    cases hleft
  · rcases h.placed edit hedit with hattempted | ⟨hunconfirmed,⟨⟨found,hfound,hrecord⟩,hunsettled⟩ | hnewer⟩
    · exact .inl hattempted
    · rcases hfound with hfound | hfound
      · cases hfound
      · exact .inr ⟨hunconfirmed,.inl ⟨⟨found,(hmem found).mpr hfound,hrecord⟩,hunsettled⟩⟩
    · exact .inr ⟨hunconfirmed,.inr hnewer⟩

theorem takeTasks_ordered (terminalWake : Bool) : Ordered (outbox.takeTasks terminalWake) := by
  have htake := h.take hcoherent fun task => !terminalWake || task.terminal
  rw [takeTasks]
  cases htasks : outbox.tasksToTake terminalWake with
  | nil => exact h.waits (by split <;> rfl)
  | cons task tasks =>
    rw [tasksToTake] at htasks
    rw [htasks] at htake
    exact htake.startEdit

theorem afterDebounce_ordered (terminalWake : Bool) : Ordered (outbox.afterDebounce terminalWake) := by
  rw [afterDebounce]
  split
  · exact h.waits rfl
  · exact takeTasks_ordered h hcoherent terminalWake

theorem loopHead_ordered : Ordered (outbox.loopHead config) := by
  rw [loopHead]
  split
  · exact h.waits rfl
  · split
    · exact h.waits rfl
    · exact afterDebounce_ordered h hcoherent false

end

theorem nextTask_ordered (h : Arranged outbox rest)
    (hcoherent : Coherent outbox.progressiveEdits) : Ordered (outbox.nextTask config rest) := by
  cases rest with
  | nil => exact loopHead_ordered h hcoherent
  | cons task rest => exact h.startEdit

variable {records' : List DeliveryRecord}

theorem unsettled_of_flags (hflags : (records'[id]?).map flags = (records[id]?).map flags) (h : Unsettled records id) :
    Unsettled records' id := by
  intro record' hrecord'
  rw [hrecord'] at hflags
  obtain ⟨record,hrecord,hsame⟩ := Option.map_eq_some_iff.mp hflags.symm
  exact (congrArg Prod.fst hsame).symm.trans (h record hrecord)

theorem unconfirmed_of_flags (hflags : (records'[id]?).map flags = (records[id]?).map flags)
    (h : Unconfirmed records id) : Unconfirmed records' id := by
  intro record' hrecord'
  rw [hrecord'] at hflags
  obtain ⟨record,hrecord,hsame⟩ := Option.map_eq_some_iff.mp hflags.symm
  exact (congrArg Prod.snd hsame).symm.trans (h record hrecord)

section

variable (h : Ordered outbox) (hhistory : outbox'.history = outbox.history)
    (hedits : outbox'.progressiveEdits = outbox.progressiveEdits)
    (hloop : outbox'.progressiveEditLoop = outbox.progressiveEditLoop)
    (hlength : outbox.records.length ≤ outbox'.records.length)
    (hjobs : ∀ name,∀ job ∈ (outbox'.lane name).jobs,∀ edit ∈ outbox.history.enqueued,edit.record ≠ job.record)
    (hflags : ∀ edit ∈ outbox.history.enqueued,edit.record ∉ outbox.history.attempted →
      (outbox'.records[edit.record]?).map flags = (outbox.records[edit.record]?).map flags)
include hhistory hedits hlength hjobs hflags

theorem Arranged.frame (h : Arranged outbox rest) : Arranged outbox' rest := by
  obtain ⟨hincreasing,hknown,-,hattempted,htasks,hkeys,hattempts,hwaiting,hlater,hagain,hplaced⟩ := h
  rw [← hhistory] at hincreasing hknown hjobs hattempted htasks hattempts hwaiting hagain hplaced
  rw [← hedits] at htasks hwaiting hlater hagain
  refine ⟨hincreasing,fun edit hedit => (hknown edit hedit).trans_le hlength,hjobs,hattempted,htasks,hkeys,hattempts,
    hwaiting,hlater,hagain,fun edit hedit => ?_⟩
  rw [← hhistory] at hflags
  by_cases htried : edit.record ∈ outbox'.history.attempted
  · exact .inl htried
  · have hsame := hflags edit hedit htried
    have hplace := (hplaced edit hedit).resolve_left (by rw [← hhistory]; exact htried)
    rw [← hhistory,← hedits] at hplace
    refine .inr ⟨unconfirmed_of_flags hsame hplace.1,hplace.2.imp_left fun ⟨hwaits,hunsettled⟩ => ⟨hwaits,?_⟩⟩
    exact unsettled_of_flags hsame hunsettled

include h hloop in
theorem Ordered.frame : Ordered outbox' where
  arranged := by
    rw [hloop]
    exact h.arranged.frame hhistory hedits hlength hjobs hflags
  current := by
    intro task rest hcons
    rw [hloop] at hcons
    obtain ⟨hlast,htask,hkeys,hlater⟩ := h.current task rest hcons
    rw [← hhistory] at hlast htask
    rw [← hedits] at hlater
    exact ⟨hlast,htask,hkeys,hlater⟩

end

theorem ordered_setLane (h : Ordered outbox) {lane : Lane} (hlength : records.length = outbox.records.length)
    (hjobs : ∀ job ∈ lane.jobs,∃ old ∈ (outbox.lane name).jobs,job.record = old.record)
    (hid : ∃ old ∈ (outbox.lane name).jobs,old.record = id) (hothers : SameBut id outbox.records records) :
    Ordered (({ outbox with records := records } : DeliveryOutbox).setLane lane name) := by
  have hlane (name' : LaneName) : (({ outbox with records := records } : DeliveryOutbox).setLane lane name).lane name' =
      if name' = name then lane else outbox.lane name' := by
    cases name <;> cases name' <;> rfl
  refine h.frame ?_ ?_ ?_ ?_ (fun name' job hjob edit hedit => ?_) fun edit hedit _ => ?_
  · cases name <;> rfl
  · cases name <;> rfl
  · cases name <;> rfl
  · cases name <;> exact hlength.ge
  · rw [hlane] at hjob
    split at hjob
    · obtain ⟨old,hold,hrecord⟩ := hjobs job hjob
      rw [hrecord]
      exact h.arranged.jobs name old hold edit hedit
    · exact h.arranged.jobs name' job hjob edit hedit
  · obtain ⟨old,hold,hrecord⟩ := hid
    have hne : edit.record ≠ id := hrecord ▸ h.arranged.jobs name old hold edit hedit
    cases name <;> exact hothers edit.record hne

theorem LaneStep.ordered (hstep : LaneStep config name outbox outbox') (h : Ordered outbox) : Ordered outbox' := by
  obtain ⟨job,jobs,stepped,hjobs,hjob,rfl⟩ := hstep.step
  have hmem : job ∈ (outbox.lane name).jobs := by
    rw [hjobs]
    exact mem_cons_self ..
  refine ordered_setLane h hjob.kept.length_eq.symm (fun found hfound => ?_) ⟨job,hmem,rfl⟩ hjob.others
  rcases mem_cons.mp hfound with rfl | hfound
  · exact ⟨job,hmem,rfl⟩
  · refine ⟨found,?_,rfl⟩
    rw [hjobs]
    exact mem_cons_of_mem _ hfound

theorem ordered_endHead (hend : outbox.endHead name = some outbox') (h : Ordered outbox) : Ordered outbox' := by
  obtain ⟨job,jobs,hjobs,-,rfl⟩ := endHead_cases hend
  refine ordered_setLane h (length_modify _ _ _) (fun found hfound => ⟨found,?_,rfl⟩) ⟨job,?_,rfl⟩
    (sameBut_modify _ _ _)
  · rw [hjobs]
    exact mem_cons_of_mem _ hfound
  · rw [hjobs]
    exact mem_cons_self ..

theorem getElem?_append_flags (hid : id < records.length)
    (record : DeliveryRecord) : ((records ++ [record])[id]?).map flags = (records[id]?).map flags := by
  rw [getElem?_append_left hid]

theorem ordered_addRecord (h : Ordered outbox) (record : DeliveryRecord) : Ordered (outbox.addRecord record) := by
  have hlength : outbox.records.length ≤ (outbox.records ++ [record]).length := by
    rw [length_append]
    exact Nat.le_add_right _ _
  refine h.frame rfl rfl rfl hlength (fun name job hjob => ?_) fun edit hedit _ => ?_
  · have hlane : (outbox.addRecord record).lane name = outbox.lane name := by cases name <;> rfl
    rw [hlane] at hjob
    exact h.arranged.jobs name job hjob
  · exact getElem?_append_flags (h.arranged.known edit hedit) record

theorem ordered_enqueueReliable (h : Ordered outbox) (record : DeliveryRecord) (operation : Operation) :
    Ordered (outbox.enqueueReliable record operation) := by
  have hframe : (outbox.enqueueReliable record operation).history = outbox.history ∧
      (outbox.enqueueReliable record operation).progressiveEdits = outbox.progressiveEdits ∧
      (outbox.enqueueReliable record operation).progressiveEditLoop = outbox.progressiveEditLoop ∧
      (outbox.enqueueReliable record operation).records = outbox.records ++ [record] := by
    rw [enqueueReliable]
    cases laneName record.lane <;> exact ⟨rfl,rfl,rfl,rfl⟩
  obtain ⟨hhistory,hedits,hloop,hrecords⟩ := hframe
  refine h.frame hhistory hedits hloop ?_ (fun name job hjob edit hedit => ?_) fun edit hedit _ => ?_
  · rw [hrecords,length_append]
    exact Nat.le_add_right _ _
  · rw [enqueueReliable,lane_setLane] at hjob
    have hlane (name : LaneName) : (outbox.addRecord record).lane name = outbox.lane name := by cases name <;> rfl
    split at hjob
    · rcases mem_append.mp hjob with hold | hnew
      · exact h.arranged.jobs (laneName record.lane) job hold edit hedit
      · rw [mem_singleton.mp hnew]
        exact Nat.ne_of_lt (h.arranged.known edit hedit)
    · rw [hlane] at hjob
      exact h.arranged.jobs name job hjob edit hedit
  · rw [hrecords]
    exact getElem?_append_flags (h.arranged.known edit hedit) record

/-- The edit that is tried last comes after all that were tried before it. -/
theorem Ordered.inOrder_current (h : Ordered outbox) {task : ProgressiveEditTask} {rest : List ProgressiveEditTask}
    (hcurrent : Current outbox task rest) {id : ℕ} (hid : id ∈ outbox.history.attempted) :
    InOrder outbox.history.enqueued id task.record := by
  obtain ⟨before,hbefore⟩ := getLast?_eq_some_iff.mp hcurrent.last
  have hattempts := h.arranged.attempts
  rw [hbefore] at hid hattempts
  rcases mem_append.mp hid with hid | hid
  · exact (pairwise_append.mp hattempts).2.2 id hid task.record (mem_singleton_self _)
  · exact inOrder_of_le (mem_singleton.mp hid).le

theorem Current.attempted
    (h : Current outbox task rest) : task.record ∈ outbox.history.attempted := mem_of_getLast? h.last

section

variable (h : Ordered outbox)
include h

theorem Ordered.updateCurrent
    (htasks : outbox.progressiveEditLoop.tasks = task :: rest) (change : DeliveryRecord → DeliveryRecord) :
    Ordered (outbox.updateRecord task.record change) := by
  have hcurrent := h.current task rest htasks
  refine h.frame rfl rfl rfl (length_modify _ _ _).ge (fun name job hjob => ?_) fun edit hedit htried => ?_
  · have hlane : (outbox.updateRecord task.record change).lane name = outbox.lane name := by cases name <;> rfl
    rw [hlane] at hjob
    exact h.arranged.jobs name job hjob
  · have hne : edit.record ≠ task.record := fun hsame => htried (hsame ▸ hcurrent.attempted)
    exact sameBut_modify outbox.records task.record change edit.record hne

theorem Ordered.arranged_rest (htasks : outbox.progressiveEditLoop.tasks = task :: rest) : Arranged outbox rest := by
  have harranged := h.arranged
  rw [htasks] at harranged
  exact harranged

theorem ordered_finishTask (hcoherent : Coherent outbox.progressiveEdits)
    (htasks : outbox.progressiveEditLoop.tasks = task :: rest) (change : DeliveryRecord → DeliveryRecord) :
    Ordered (outbox.finishTask config task rest change) := by
  have hupdated : Arranged (outbox.updateRecord task.record fun record => (change record).settle) rest :=
    (h.updateCurrent htasks _).arranged_rest htasks
  exact nextTask_ordered hupdated hcoherent

/-- Other histories of what the channel has accepted, and another time, leave the order as it is. -/
theorem Ordered.applied (applied : List ℕ) (blockedUntil : ℕ) :
    Ordered { outbox with
      progressiveEditBlockedUntil := blockedUntil
      history := { outbox.history with applied := applied } } :=
  ⟨{ h.arranged with },fun task rest htasks => { h.current task rest htasks with }⟩

theorem Ordered.again (htasks : outbox.progressiveEditLoop.tasks = task :: rest) (hterminal : task.terminal)
    (hfree : outbox.progressiveEdits.get task.key = none) :
    Arranged { outbox with progressiveEdits := outbox.progressiveEdits.set task.key task.again } rest := by
  have hcurrent := h.current task rest htasks
  have harranged := h.arranged_rest htasks
  have hvalues := values_set_of_get_eq_none hfree task.again
  have hmem {other : ProgressiveEditTask}
      (hother : other ∈ rest ∨ other ∈ (outbox.progressiveEdits.set task.key task.again).values) :
      (other ∈ rest ∨ other ∈ outbox.progressiveEdits.values) ∨ other = task.again := by
    rw [hvalues,mem_append,mem_singleton,← or_assoc] at hother
    exact hother
  refine ⟨harranged.increasing,harranged.known,fun name => ?_,harranged.attempted,fun other hother => ?_,
    harranged.keys,harranged.attempts,fun id hid other hother => ?_,fun other hother other' hother' hkey => ?_,
    fun other hother hid => ?_,fun edit hedit => ?_⟩
  · cases name with
    | control => exact harranged.jobs .control
    | normal => exact harranged.jobs .normal
  · rcases hmem hother with hold | rfl
    · exact harranged.tasks other hold
    · exact hcurrent.taskOf
  · rcases hmem hother with hold | rfl
    · exact harranged.waiting id hid other hold
    · exact h.inOrder_current hcurrent hid
  · change other' ∈ (outbox.progressiveEdits.set task.key task.again).values at hother'
    rw [hvalues,mem_append,mem_singleton] at hother'
    rcases hother' with hold | rfl
    · exact harranged.later other hother other' hold hkey
    · have hkeys : task.key ∈ rest.map (·.key) := by
        rw [← show other.key = task.key from hkey]
        exact mem_map_of_mem hother
      exact absurd hkeys hcurrent.keys
  · rcases hmem hother with hold | rfl
    · exact harranged.again other hold hid
    · exact hterminal
  · refine (harranged.placed edit hedit).imp_right fun ⟨hunconfirmed,hplace⟩ => ⟨hunconfirmed,hplace.imp_left ?_⟩
    rintro ⟨⟨found,hfound,hrecord⟩,hunsettled⟩
    refine ⟨⟨found,hfound.imp_right fun hold => ?_,hrecord⟩,hunsettled⟩
    rw [hvalues]
    exact mem_append_left _ hold

section

variable (hcoherent : Coherent outbox.progressiveEdits)
include hcoherent

theorem ordered_rateLimit
    (htasks : outbox.progressiveEditLoop.tasks = task :: rest) (error : DeliveryError) (retryAfterMs : ℕ)
    (hfree : task.terminal → task.attempts < config.maxRateLimitRetries → outbox.progressiveEdits.get task.key = none) :
    Ordered (outbox.rateLimit config task rest error retryAfterMs) := by
  have hblocked := h.applied outbox.history.applied
    (max outbox.progressiveEditBlockedUntil (outbox.now + min retryAfterMs config.maxRateLimitDelayMs))
  rw [rateLimit]
  by_cases hretry : task.terminal ∧ task.attempts < config.maxRateLimitRetries
  · rw [if_pos hretry]
    have hset : Coherent (outbox.progressiveEdits.set task.key task.again) := coherent_set hcoherent task.again
    exact nextTask_ordered (hblocked.again htasks hretry.1 (hfree hretry.1 hretry.2)) hset
  · rw [if_neg hretry]
    exact ordered_finishTask hblocked hcoherent htasks _

theorem ordered_editSettles (hloop : outbox.progressiveEditLoop = .editing task rest) (outcome : Outcome)
    (hfree : ∀ message retryAfterMs network,outcome = .rejected (.rejected message (some retryAfterMs) network) →
      task.terminal → task.attempts < config.maxRateLimitRetries → outbox.progressiveEdits.get task.key = none) :
    Ordered (outbox.editSettles config task rest outcome) := by
  have htasks : outbox.progressiveEditLoop.tasks = task :: rest := by rw [hloop,EditLoop.tasks]
  cases outcome using Outcome.kinds with
  | resolved messageId thrown =>
    rw [editSettles]
    have happlied := h.applied (outbox.history.applied ++ [task.record]) outbox.progressiveEditBlockedUntil
    exact ordered_finishTask happlied hcoherent htasks _
  | deferred confirmation =>
    rw [editSettles]
    exact ordered_finishTask h hcoherent htasks _
  | limited message retryAfterMs network =>
    rw [editSettles]
    exact ordered_rateLimit h hcoherent htasks _ _ (hfree message retryAfterMs network rfl)
  | failed message network =>
    rw [editSettles]
    by_cases hfallback : task.fallbackToSend
    · rw [if_pos hfallback]
      have hupdated := h.updateCurrent htasks (.fail (.rejected message none network))
      exact hupdated.sameTasks (by change _ = outbox.progressiveEditLoop.tasks; rw [hloop]; rfl)
    · rw [if_neg hfallback]
      exact ordered_finishTask h hcoherent htasks _

theorem ordered_fallbackSettles {attempt : Attempt}
    (hloop : outbox.progressiveEditLoop = .sendingFallback task attempt rest) (outcome : Outcome) :
    Ordered (outbox.fallbackSettles config task attempt rest outcome) := by
  have htasks : outbox.progressiveEditLoop.tasks = task :: rest := by rw [hloop,EditLoop.tasks]
  cases outcome with
  | resolved messageId thrown => exact ordered_finishTask h hcoherent htasks _
  | rejected error =>
    rw [fallbackSettles]
    cases hafter : attempt.afterError config error with
    | none => exact ordered_finishTask h hcoherent htasks _
    | some attempt' => exact h.sameTasks (by rw [hloop]; rfl)

theorem ordered_closed (hloop : outbox.progressiveEditLoop = .closing) : Ordered (closed config outbox) := by
  have harranged := h.arranged
  rw [hloop] at harranged
  have hidle : Ordered { outbox with progressiveEditLoop := .idle } := harranged.waits rfl
  rw [closed]
  split
  · exact loopHead_ordered hidle.arranged hcoherent
  · exact hidle

end

end

theorem Unsettled.append (h : Unsettled records id)
    (hid : id < records.length) (record : DeliveryRecord) : Unsettled (records ++ [record]) id :=
  unsettled_of_flags (getElem?_append_flags hid record) h

theorem Unconfirmed.append (h : Unconfirmed records id)
    (hid : id < records.length) (record : DeliveryRecord) : Unconfirmed (records ++ [record]) id :=
  unconfirmed_of_flags (getElem?_append_flags hid record) h

theorem coalesce_records (outbox : DeliveryOutbox) (key : JsString) :
    ∃ records, outbox.coalesce key = { outbox with records := records } ∧ records.length = outbox.records.length ∧
      (∀ id,Unconfirmed outbox.records id → Unconfirmed records id) ∧
      ∀ id, (∀ existing,outbox.progressiveEdits.get key = some existing → existing.record ≠ id) →
        Unsettled outbox.records id → Unsettled records id := by
  rw [coalesce]
  split
  case h_1 => exact ⟨_,rfl,rfl,fun _ h => h,fun _ _ h => h⟩
  case h_2 existing hexisting =>
    split
    case isTrue => exact ⟨_,rfl,rfl,fun _ h => h,fun _ _ h => h⟩
    case isFalse =>
      refine ⟨_,rfl,length_modify _ _ _,fun id h record hrecord => ?_,fun id hother h => ?_⟩
      · rw [getElem?_modify] at hrecord
        obtain ⟨before,hbefore,rfl⟩ := Option.map_eq_some_iff.mp hrecord
        have hnone := h before hbefore
        split
        · exact hnone
        · exact hnone
      · exact unsettled_of_flags (sameBut_modify _ _ _ id (hother existing hexisting).symm) h

/-- Where an edit is after another one was enqueued. -/
theorem Arranged.placed_setTask (h : Arranged outbox rest)
    (hcoherent : Coherent outbox.progressiveEdits) (hrecord : task.record = outbox.records.length)
    (hfree : ∀ existing,outbox.progressiveEdits.get task.key = some existing → existing.terminal = false)
    (hedit : edit ∈ outbox.history.enqueued)
    (hunconfirmed : Unconfirmed outbox.records edit.record → Unconfirmed records edit.record)
    (hunsettled : (∀ existing,outbox.progressiveEdits.get task.key = some existing → existing.record ≠ edit.record) →
      Unsettled outbox.records edit.record → Unsettled records edit.record) :
    Placed (({ outbox with records := records } : DeliveryOutbox).setTask task) rest edit := by
  have hadded : task ∈ outbox.history.enqueued ++ [task] := mem_append_right _ (mem_singleton_self _)
  rcases h.placed edit hedit with hattempted | ⟨hnone,hplace⟩
  · exact .inl hattempted
  · refine .inr ⟨hunconfirmed hnone,?_⟩
    rcases hplace with ⟨⟨found,hfound,hsame⟩,hopen⟩ | ⟨hterminal,newer,hnewer,hkey,hless⟩
    · by_cases hgiven : found ∈ outbox.progressiveEdits.values ∧ found.key = task.key
      · -- This edit gives way to the new one.
        obtain ⟨edit',hedit',hrecord',hkey',hterminal'⟩ := h.tasks found (.inr hgiven.1)
        rw [eq_of_record_eq h.increasing hedit' hedit (hrecord'.trans hsame)] at hkey' hterminal'
        have hexisting := get_of_mem_values hcoherent hgiven.1
        rw [hgiven.2] at hexisting
        refine .inr ⟨hterminal'.trans (hfree found hexisting),task,hadded,hgiven.2.symm.trans hkey'.symm,?_⟩
        rw [hrecord]
        exact h.known edit hedit
      · refine .inl ⟨⟨found,?_,hsame⟩,hunsettled (fun existing hexisting hrecord' => ?_) hopen⟩
        · refine hfound.imp_right fun hold => (mem_values_set hcoherent task).mpr (.inr ⟨hold,fun hkey => ?_⟩)
          exact hgiven ⟨hold,hkey⟩
        · -- The edit that gives way has another delivery.
          have hvalue : existing ∈ outbox.progressiveEdits.values := InsertionMap.mem_values.mpr ⟨_,hexisting⟩
          have hexistingKey : existing.key = task.key := hcoherent _ (InsertionMap.get_eq_some.mp hexisting)
          have hkeys : found.key = existing.key := h.key_eq hfound (.inr hvalue) (hsame.trans hrecord'.symm)
          rcases hfound with hfound | hfound
          · have hlater := h.later found hfound existing hvalue hkeys
            exact absurd (hsame.trans hrecord'.symm) (Nat.ne_of_lt hlater)
          · exact hgiven ⟨hfound,hkeys.trans hexistingKey⟩
    · exact .inr ⟨hterminal,newer,mem_append_left _ hnewer,hkey,hless⟩

theorem arranged_setTask (h : Arranged outbox rest) (hcoherent : Coherent outbox.progressiveEdits)
    (hjobs : ∀ name,∀ job ∈ (outbox.lane name).jobs,job.record < outbox.records.length)
    (hnew : record.settled = false ∧ record.confirmation = none) (hrecord : task.record = outbox.records.length)
    (hfree : ∀ existing,outbox.progressiveEdits.get task.key = some existing → existing.terminal = false) :
    Arranged (((outbox.addRecord record).coalesce task.key).setTask task) rest := by
  obtain ⟨records,hmerged,hlength,hunconfirmed,hunsettled⟩ := coalesce_records (outbox.addRecord record) task.key
  rw [hmerged]
  have htotal : records.length = outbox.records.length + 1 := hlength.trans length_append
  have hvalues {other : ProgressiveEditTask} : other ∈ (outbox.progressiveEdits.set task.key task).values ↔
      other = task ∨ (other ∈ outbox.progressiveEdits.values ∧ other.key ≠ task.key) := mem_values_set hcoherent task
  have hmem {other : ProgressiveEditTask}
      (hother : other ∈ rest ∨ other ∈ (outbox.progressiveEdits.set task.key task).values) :
      (other ∈ rest ∨ other ∈ outbox.progressiveEdits.values) ∨ other = task := by
    rcases hother with hother | hother
    · exact .inl (.inl hother)
    · rcases hvalues.mp hother with rfl | ⟨hold,-⟩
      · exact .inr rfl
      · exact .inl (.inr hold)
  -- What has been tried, and what waits, is older than the new edit.
  have htried {id : ℕ} (hid : id ∈ outbox.history.attempted) : id < outbox.records.length := by
    obtain ⟨edit,hedit,hsame⟩ := h.attempted id hid
    exact hsame ▸ h.known edit hedit
  have hwaits {other : ProgressiveEditTask} (hother : other ∈ rest ∨ other ∈ outbox.progressiveEdits.values) :
      other.record < outbox.records.length := by
    obtain ⟨edit,hedit,hsame,-⟩ := h.tasks other hother
    exact hsame ▸ h.known edit hedit
  refine ⟨?_,fun edit hedit => ?_,fun name job hjob edit hedit => ?_,fun id hid => ?_,fun other hother => ?_,h.keys,?_,
    fun id hid other hother => ?_,fun other hother other' hother' hkey => ?_,fun other hother hid => ?_,
    fun edit hedit => ?_⟩
  · refine pairwise_append.mpr ⟨h.increasing,pairwise_singleton _ _,fun edit hedit other hother => ?_⟩
    rw [mem_singleton.mp hother,hrecord]
    exact h.known edit hedit
  · change edit.record < records.length
    rw [htotal]
    rcases mem_append.mp hedit with hold | hadded
    · exact Nat.lt_succ_of_lt (h.known edit hold)
    · rw [mem_singleton.mp hadded,hrecord]
      exact Nat.lt_succ_self _
  · have hold : job ∈ (outbox.lane name).jobs := by cases name <;> exact hjob
    rcases mem_append.mp hedit with hedit | hadded
    · exact h.jobs name job hold edit hedit
    · rw [mem_singleton.mp hadded,hrecord]
      exact Nat.ne_of_gt (hjobs name job hold)
  · obtain ⟨edit,hedit,hsame⟩ := h.attempted id hid
    exact ⟨edit,mem_append_left _ hedit,hsame⟩
  · rcases hmem hother with hold | rfl
    · exact (h.tasks other hold).append task
    · exact ⟨other,mem_append_right _ (mem_singleton_self _),rfl,rfl,rfl⟩
  · exact h.attempts.imp_of_mem fun hid _ horder => horder.append hrecord (htried hid)
  · rcases hmem hother with hold | rfl
    · exact (h.waiting id hid other hold).append hrecord (htried hid)
    · exact inOrder_of_le (hrecord ▸ (htried hid).le)
  · rcases hvalues.mp hother' with rfl | ⟨hold,-⟩
    · rw [hrecord]
      exact hwaits (.inl hother)
    · exact h.later other hother other' hold hkey
  · rcases hmem hother with hold | rfl
    · exact h.again other hold hid
    · exact absurd hrecord (Nat.ne_of_lt (htried hid))
  · rcases mem_append.mp hedit with hedit | hadded
    · have hknown := h.known edit hedit
      exact h.placed_setTask hcoherent hrecord hfree hedit (fun hnone => hunconfirmed _ (hnone.append hknown record))
        fun hother hopen => hunsettled _ hother (hopen.append hknown record)
    · rw [mem_singleton.mp hadded]
      have hget : (outbox.records ++ [record])[task.record]? = some record := by
        rw [hrecord]
        exact getElem?_concat_length
      refine .inr ⟨hunconfirmed _ fun found hfound => ?_,.inl ⟨⟨task,.inr (hvalues.mpr (.inl rfl)),rfl⟩,
        hunsettled _ (fun existing hexisting hsame => ?_) fun found hfound => ?_⟩⟩
      · rw [← Option.some.inj (hget.symm.trans hfound)]
        exact hnew.2
      · have hvalue : existing ∈ outbox.progressiveEdits.values := InsertionMap.mem_values.mpr ⟨_,hexisting⟩
        exact absurd (hsame.trans hrecord) (Nat.ne_of_lt (hwaits (.inr hvalue)))
      · rw [← Option.some.inj (hget.symm.trans hfound)]
        exact hnew.1

theorem ordered_ensure (h : Ordered outbox) (hcoherent : Coherent outbox.progressiveEdits) :
    Ordered (outbox.ensureProgressiveEditLoop config) := by
  rw [ensureProgressiveEditLoop]
  split
  case isTrue hidle =>
    have harranged := h.arranged
    rw [hidle] at harranged
    exact loopHead_ordered harranged hcoherent
  case isFalse => exact h

theorem ordered_enqueueProgressiveEdit (h : Ordered outbox) (hs : Sound outbox)
    (hnew : record.settled = false ∧ record.confirmation = none) (messageId : MessageId) (fallbackToSend : Bool)
    (hfree : ∀ existing,outbox.progressiveEdits.get (record.coalesceKey.getD messageId.toText) = some existing →
      existing.terminal = false) : Ordered (outbox.enqueueProgressiveEdit config record messageId fallbackToSend) := by
  rw [enqueueProgressiveEdit]
  generalize htask : outbox.newTask record messageId fallbackToSend = task
  have hrecord : task.record = outbox.records.length := by
    rw [← htask]
    rfl
  have hkey : task.key = record.coalesceKey.getD messageId.toText := by
    rw [← htask]
    rfl
  rw [← hkey] at hfree
  have harranged := arranged_setTask h.arranged hs.coherent hs.known hnew hrecord hfree
  obtain ⟨records,hmerged,-,-⟩ := coalesce_records (outbox.addRecord record) task.key
  rw [hmerged] at harranged ⊢
  have hset : Ordered (({ outbox.addRecord record with records := records } : DeliveryOutbox).setTask task) := by
    refine ⟨harranged,fun current rest htasks => ?_⟩
    obtain ⟨hlast,htaskOf,hkeys,hlater⟩ := h.current current rest htasks
    refine ⟨hlast,htaskOf.append task,hkeys,fun other hother hsame => ?_⟩
    rcases (mem_values_set hs.coherent task).mp hother with rfl | ⟨hold,-⟩
    · obtain ⟨edit,hedit,hedit_record,-⟩ := htaskOf
      rw [hrecord,← hedit_record]
      exact h.arranged.known edit hedit
    · exact hlater other hold hsame
  have hcoherent : Coherent (outbox.progressiveEdits.set task.key task) := coherent_set hs.coherent task
  split
  · obtain ⟨loop,hloop,htasks⟩ :=
      wake_tasks (({ outbox.addRecord record with records := records } : DeliveryOutbox).setTask task)
    rw [hloop]
    exact ordered_ensure (hset.sameTasks htasks) hcoherent
  · exact ordered_ensure hset hcoherent

theorem ordered_edit (h : Ordered outbox) (hs : Sound outbox) {messageId : Option MessageId} {message : ChannelMessage}
    {fallbackToSend : Bool} {options : DeliveryOptions}
    (hkeeps : ¬ Overwrites config (.call (.edit messageId message fallbackToSend options)) outbox) :
    Ordered (outbox.edit config messageId message fallbackToSend options) := by
  refine edit_cases hkeeps ?_ ?_ (fun found => ?_) fun found hfree => ?_
  · exact ordered_enqueueReliable h _ _
  · exact ordered_addRecord h _
  · exact ordered_enqueueReliable h _ _
  · exact ordered_enqueueProgressiveEdit h hs ⟨rfl,rfl⟩ found fallbackToSend hfree

theorem Ordered.attempted_of_confirmation (h : Ordered outbox) (hedit : edit ∈ outbox.history.enqueued)
    (hrecord : outbox.records[edit.record]? = some record) (hconfirmation : record.confirmation ≠ none) :
    edit.record ∈ outbox.history.attempted := by
  rcases h.arranged.placed edit hedit with htried | ⟨hnone,-⟩
  · exact htried
  · exact absurd (hnone record hrecord) hconfirmation

theorem ordered_confirm (h : Ordered outbox) {deliveryId : ℕ} {outcome : Outcome}
    (hnext : outbox.confirm deliveryId outcome = some outbox') : Ordered outbox' := by
  rw [confirm] at hnext
  split at hnext
  case h_1 => cases hnext
  case h_2 record hrecord =>
    split at hnext
    case h_1 => cases hnext
    case h_2 confirmation hconfirmation =>
      split at hnext
      case isFalse => cases hnext
      case isTrue =>
        rw [← Option.some.inj hnext]
        have hlane (change : DeliveryRecord → DeliveryRecord) (name : LaneName) :
            (outbox.updateRecord deliveryId change).lane name = outbox.lane name := by cases name <;> rfl
        have hother {edit : ProgressiveEditTask} (hedit : edit ∈ outbox.history.enqueued)
            (htried : edit.record ∉ outbox.history.attempted) : edit.record ≠ deliveryId := by
          rintro rfl
          refine htried (h.attempted_of_confirmation hedit hrecord ?_)
          rw [hconfirmation]
          exact Option.some_ne_none _
        have hupdated (change : DeliveryRecord → DeliveryRecord) : Ordered (outbox.updateRecord deliveryId change) := by
          refine h.frame rfl rfl rfl (length_modify _ _ _).ge (fun name job hjob => ?_) fun edit hedit htried => ?_
          · rw [hlane] at hjob
            exact h.arranged.jobs name job hjob
          · exact sameBut_modify outbox.records deliveryId change edit.record (hother hedit htried)
        cases outcome with
        | rejected error => exact hupdated _
        | resolved messageId thrown =>
          cases confirmation with
          | edited => exact (hupdated _).applied _ outbox.progressiveEditBlockedUntil
          | sent original =>
            have hsent := hupdated fun record =>
              { record with
                status := Confirmation.status (.sent original)
                error := none
                confirmation := none
                messageId := messageId }
            have hlength := (kept_resolveOriginal deliveryId original (outbox.updateRecord deliveryId fun record =>
              { record with
                status := Confirmation.status (.sent original)
                error := none
                confirmation := none
                messageId := messageId }).records).length_eq
            refine hsent.frame rfl rfl rfl hlength.le (fun name job hjob => ?_) fun edit _ _ => ?_
            · have hold : job ∈ (outbox.lane name).jobs := by cases name <;> exact hjob
              exact h.arranged.jobs name job hold
            · exact flags_resolveOriginal deliveryId original _ edit.record

theorem ordered_next {event : Event} (hkeeps : ¬ Overwrites config event outbox) (hs : Sound outbox)
    (h : Ordered outbox) (hnext : next config event outbox = some outbox') : Ordered outbox' := by
  cases step_of_next hnext with
  | call call =>
    cases call with
    | send | editDeferred => exact ordered_enqueueReliable h _ _
    | retry deliveryId options =>
      rw [perform,retry]
      split
      case h_1 => exact h
      case h_2 =>
        split
        case isTrue => exact h
        case isFalse => exact ordered_enqueueReliable h _ _
    | edit messageId message fallbackToSend options => exact ordered_edit h hs hkeeps
  | starts hlane | settles hlane | rested hlane => exact hlane.ordered h
  | ends hends => exact ordered_endHead hends h
  | debounced hloop => exact h.sameTasks (by rw [hloop]; rfl)
  | @resumes terminalWake hloop =>
    have harranged := h.arranged
    rw [hloop] at harranged
    exact afterDebounce_ordered harranged hs.coherent terminalWake
  | @unblocked terminalWake hloop =>
    have harranged := h.arranged
    rw [hloop] at harranged
    exact takeTasks_ordered harranged hs.coherent terminalWake
  | @editSettles task rest outcome hloop =>
    refine ordered_editSettles h hs.coherent hloop outcome
      fun message retryAfterMs network houtcome hterminal hattempts => ?_
    rw [houtcome] at hkeeps
    rw [← Option.not_isSome_iff_eq_none]
    exact fun hsome => hkeeps ⟨task,rest,hloop,hterminal,hattempts,hsome⟩
  | fallbackSettles outcome hloop => exact ordered_fallbackSettles h hs.coherent hloop outcome
  | fallbackRested hloop => exact h.sameTasks (by rw [hloop]; rfl)
  | closes hloop => exact ordered_closed h hs.coherent hloop
  | confirmed hconfirmed => exact ordered_confirm h hconfirmed
  | passes => exact ⟨{ h.arranged with },fun task rest htasks => { h.current task rest htasks with }⟩

end Malink.Delivery
