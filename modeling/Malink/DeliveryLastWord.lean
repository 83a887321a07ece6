import Malink.DeliveryEditOrder
import Malink.DeliveryRuns

/-!
# The last edit of a key

What the channel accepts for a key follows the order of the edits. Where every edit is accepted at last, the newest one
of a key is applied last.
-/

namespace Malink.Delivery

open DeliveryOutbox List Option

variable {config : DeliveryOutboxConfig} {outbox outbox' : DeliveryOutbox}

def EditHistory.appliedTo (history : EditHistory) (key : JsString) : List ℕ :=
  history.applied.filter fun id => history.enqueued.any fun edit => edit.record = id ∧ edit.key = key

/-- A confirmation comes late, after a newer edit of the key was tried. -/
def Outdated : Event → DeliveryOutbox → Prop
  | .confirmed deliveryId (.resolved _ _), outbox =>
    ∃ edit ∈ outbox.history.enqueued, ∃ newer ∈ outbox.history.enqueued, edit.record = deliveryId ∧
      newer.key = edit.key ∧ edit.record < newer.record ∧ newer.record ∈ outbox.history.attempted
  | _, _ => False

/-- The call of an edit ends otherwise than with its acceptance or another attempt. -/
def Drops (config : DeliveryOutboxConfig) : Event → DeliveryOutbox → Prop
  | .editSettles (.resolved _ _), _ => False
  | .editSettles (.rejected (.rejected _ (some _) _)), outbox =>
    ∃ task rest, outbox.progressiveEditLoop = .editing task rest ∧
      ¬ (task.terminal ∧ task.attempts < config.maxRateLimitRetries)
  | .editSettles (.rejected _), _ => True
  | _, _ => False

/-- What is tried next belongs to the tasks that the loop has taken, and no task gets lost. -/
structure Moves (outbox : DeliveryOutbox) (rest : List ProgressiveEditTask) (outbox' : DeliveryOutbox) : Prop where
  history : ∃ more, outbox'.history = { outbox.history with attempted := outbox.history.attempted ++ more } ∧
    ∀ id ∈ more, ∃ task ∈ outbox'.tasks, task.record = id
  tasks : ∀ task, task ∈ outbox.progressiveEdits.values ∨ task ∈ rest → task ∈ outbox'.tasks
  direct : ∀ task attempt rest', outbox'.progressiveEditLoop ≠ .sendingFallback task attempt rest'

theorem moves_waiting {loop : EditLoop} (hdirect : ∀ task attempt rest,loop ≠ .sendingFallback task attempt rest) :
    Moves outbox [] { outbox with progressiveEditLoop := loop } where
  history := ⟨[],by rw [append_nil],fun _ hid => by cases hid⟩
  tasks := by
    rintro task (htask | htask)
    · exact mem_append_left _ htask
    · cases htask
  direct := hdirect

theorem startEdit_moves (task : ProgressiveEditTask) (rest : List ProgressiveEditTask) :
    Moves outbox (task :: rest) (outbox.startEdit task rest) where
  history := by
    refine ⟨[task.record],rfl,fun id hid => ⟨task,?_,(mem_singleton.mp hid).symm⟩⟩
    exact mem_append_right _ (mem_cons_self ..)
  tasks := by
    rintro other (hother | hother)
    · exact mem_append_left _ hother
    · exact mem_append_right _ hother
  direct := by simp [startEdit]

section

variable (hcoherent : Coherent outbox.progressiveEdits)
include hcoherent

theorem takeTasks_moves (terminalWake : Bool) : Moves outbox [] (outbox.takeTasks terminalWake) := by
  have hcontinues : Continues ⟨true,0,0,0,0⟩ outbox [] _ (outbox.takeTasks terminalWake) :=
    takeTasks_continues hcoherent terminalWake
  have htasks (task : ProgressiveEditTask) (htask : task ∈ outbox.progressiveEdits.values ∨ task ∈ []) :
      task ∈ (outbox.takeTasks terminalWake).tasks := (mem_tasks_continues hcontinues).mpr htask
  rw [takeTasks] at htasks ⊢
  split
  case h_1 => exact moves_waiting (by split <;> simp)
  case h_2 task tasks hcons =>
    rw [hcons] at htasks
    have hstart : Moves { outbox with progressiveEdits := deleteTasks outbox.progressiveEdits (task :: tasks) }
        (task :: tasks) _ := startEdit_moves task tasks
    exact ⟨hstart.history,htasks,hstart.direct⟩

theorem afterDebounce_moves (terminalWake : Bool) : Moves outbox [] (outbox.afterDebounce terminalWake) := by
  rw [afterDebounce]
  split
  · exact moves_waiting (by simp)
  · exact takeTasks_moves hcoherent terminalWake

theorem loopHead_moves : Moves outbox [] (outbox.loopHead config) := by
  rw [loopHead]
  split
  · exact moves_waiting (by simp)
  · split
    · exact moves_waiting (by simp)
    · exact afterDebounce_moves hcoherent false

theorem nextTask_moves (rest : List ProgressiveEditTask) : Moves outbox rest (outbox.nextTask config rest) := by
  cases rest with
  | nil => exact loopHead_moves hcoherent
  | cons task rest => exact startEdit_moves task rest

end

structure AppliedInOrder (history : EditHistory) : Prop where
  attempted : ∀ id ∈ history.applied, id ∈ history.attempted
  order : history.applied.Pairwise (InOrder history.enqueued)

variable {history : EditHistory}

theorem AppliedInOrder.attempts (h : AppliedInOrder history) (more : List ℕ) :
    AppliedInOrder { history with attempted := history.attempted ++ more } :=
  ⟨fun id hid => mem_append_left _ (h.attempted id hid),h.order⟩

theorem AppliedInOrder.accept (h : AppliedInOrder history) {id : ℕ} (hid : id ∈ history.attempted)
    (horder : ∀ earlier ∈ history.applied,InOrder history.enqueued earlier id) :
    AppliedInOrder { history with applied := history.applied ++ [id] } := by
  refine ⟨fun other hother => ?_,pairwise_append.mpr ⟨h.order,pairwise_singleton _ _,?_⟩⟩
  · rcases mem_append.mp hother with hother | hother
    · exact h.attempted other hother
    · rw [mem_singleton.mp hother]
      exact hid
  · intro earlier hearlier last hlast
    rw [mem_singleton.mp hlast]
    exact horder earlier hearlier

variable {rest : List ProgressiveEditTask} {event : Event} {task : ProgressiveEditTask}

theorem AppliedInOrder.moves (hmoves : Moves outbox rest outbox')
    (h : AppliedInOrder outbox.history) : AppliedInOrder outbox'.history := by
  obtain ⟨more,hmore,-⟩ := hmoves.history
  rw [hmore]
  exact h.attempts more

theorem appliedInOrder_fresh : AppliedInOrder fresh.history := ⟨fun _ hid => (by cases hid),.nil⟩

/-- Every edit that was tried has been accepted, or is still to be tried again. -/
structure Pursued (outbox : DeliveryOutbox) : Prop where
  attempted : ∀ id ∈ outbox.history.attempted, id ∈ outbox.history.applied ∨ ∃ task ∈ outbox.tasks, task.record = id
  direct : ∀ task attempt rest, outbox.progressiveEditLoop ≠ .sendingFallback task attempt rest

theorem pursued_fresh : Pursued fresh := ⟨fun _ hid => (by cases hid),fun _ _ _ hloop => by cases hloop⟩

theorem Moves.pursued (h : Moves outbox rest outbox')
    (hattempted : ∀ id ∈ outbox.history.attempted,id ∈ outbox.history.applied ∨
      ∃ task,(task ∈ outbox.progressiveEdits.values ∨ task ∈ rest) ∧ task.record = id) : Pursued outbox' := by
  refine ⟨fun id hid => ?_,h.direct⟩
  obtain ⟨more,hmore,hrecords⟩ := h.history
  rw [hmore] at hid ⊢
  rcases mem_append.mp hid with hid | hid
  · refine (hattempted id hid).imp_right ?_
    rintro ⟨task,htask,hrecord⟩
    exact ⟨task,h.tasks task htask,hrecord⟩
  · exact .inr (hrecords id hid)

theorem Pursued.waiting (h : Pursued outbox) (hloop : outbox.progressiveEditLoop.tasks = []) :
    ∀ id ∈ outbox.history.attempted, id ∈ outbox.history.applied ∨
      ∃ task, (task ∈ outbox.progressiveEdits.values ∨ task ∈ []) ∧ task.record = id := by
  intro id hid
  refine (h.attempted id hid).imp_right ?_
  rintro ⟨task,htask,hrecord⟩
  rw [tasks,hloop,append_nil] at htask
  exact ⟨task,.inl htask,hrecord⟩

/-- Nothing that concerns progressive edits changes. -/
structure Leaves (outbox outbox' : DeliveryOutbox) : Prop where
  history : outbox'.history = outbox.history
  edits : outbox'.progressiveEdits = outbox.progressiveEdits
  tasks : outbox'.progressiveEditLoop.tasks = outbox.progressiveEditLoop.tasks
  direct : (∀ task attempt rest,outbox.progressiveEditLoop ≠ .sendingFallback task attempt rest) →
    ∀ task attempt rest, outbox'.progressiveEditLoop ≠ .sendingFallback task attempt rest

structure Enqueues (outbox : DeliveryOutbox) (task : ProgressiveEditTask) (waiting : DeliveryOutbox) : Prop where
  record : task.record = outbox.records.length
  free : ∀ existing, outbox.progressiveEdits.get task.key = some existing → existing.terminal = false
  history : waiting.history = { outbox.history with enqueued := outbox.history.enqueued ++ [task] }
  edits : waiting.progressiveEdits = outbox.progressiveEdits.set task.key task
  tasks : waiting.progressiveEditLoop.tasks = outbox.progressiveEditLoop.tasks
  direct : (∀ task attempt rest,outbox.progressiveEditLoop ≠ .sendingFallback task attempt rest) →
    ∀ task attempt rest, waiting.progressiveEditLoop ≠ .sendingFallback task attempt rest

/-- What an event does to the progressive edits. -/
inductive Effect (config : DeliveryOutboxConfig) (outbox : DeliveryOutbox) : Event → DeliveryOutbox → Prop
  | leaves {event : Event} {outbox' : DeliveryOutbox} (h : Leaves outbox outbox') : Effect config outbox event outbox'
  | enqueues {event : Event} {task : ProgressiveEditTask} {waiting : DeliveryOutbox} (h : Enqueues outbox task waiting) :
    Effect config outbox event (waiting.ensureProgressiveEditLoop config)
  | moves {event : Event} {outbox' : DeliveryOutbox} (hloop : outbox.progressiveEditLoop.tasks = [])
    (h : Moves outbox [] outbox') : Effect config outbox event outbox'
  | editSettles {task : ProgressiveEditTask} {rest : List ProgressiveEditTask} (outcome : Outcome)
    (hloop : outbox.progressiveEditLoop = .editing task rest) :
    Effect config outbox (.editSettles outcome) (outbox.editSettles config task rest outcome)
  | fallbackSettles {task : ProgressiveEditTask} {attempt : Attempt} {rest : List ProgressiveEditTask}
    (outcome : Outcome) (hloop : outbox.progressiveEditLoop = .sendingFallback task attempt rest) :
    Effect config outbox (.fallbackSettles outcome) (outbox.fallbackSettles config task attempt rest outcome)
  | accepts {edit : ProgressiveEditTask} {outbox' : DeliveryOutbox} (messageId : Option MessageId)
    (thrown : Option DeliveryError) (hedit : edit ∈ outbox.history.enqueued)
    (htried : edit.record ∈ outbox.history.attempted)
    (hhistory : outbox'.history = { outbox.history with applied := outbox.history.applied ++ [edit.record] })
    (htasks : outbox'.tasks = outbox.tasks) (hloop : outbox'.progressiveEditLoop = outbox.progressiveEditLoop) :
    Effect config outbox (.confirmed edit.record (.resolved messageId thrown)) outbox'

theorem leaves_setLane (lane : Lane) (name : LaneName) (records : List DeliveryRecord) :
    Leaves outbox (({ outbox with records := records } : DeliveryOutbox).setLane lane name) := by
  cases name with
  | control | normal => exact ⟨rfl,rfl,rfl,fun h => h⟩

variable {name : LaneName}

theorem LaneStep.leaves (h : LaneStep config name outbox outbox') : Leaves outbox outbox' := by
  obtain ⟨job,jobs,stepped,-,-,rfl⟩ := h.step
  exact leaves_setLane _ name stepped.1

theorem leaves_endHead (h : outbox.endHead name = some outbox') : Leaves outbox outbox' := by
  obtain ⟨job,jobs,-,-,rfl⟩ := endHead_cases h
  exact leaves_setLane _ name _

theorem leaves_enqueueReliable (record : DeliveryRecord) (operation : Operation) :
    Leaves outbox (outbox.enqueueReliable record operation) := leaves_setLane _ (laneName record.lane) _

theorem leaves_retry (deliveryId : ℕ) (options : DeliveryOptions) : Leaves outbox (outbox.retry deliveryId options) := by
  rw [retry]
  split
  case h_1 => exact ⟨rfl,rfl,rfl,fun h => h⟩
  case h_2 =>
    split
    case isTrue => exact ⟨rfl,rfl,rfl,fun h => h⟩
    case isFalse => exact leaves_enqueueReliable _ _

theorem effect_enqueueProgressiveEdit {record : DeliveryRecord} (messageId : MessageId) (fallbackToSend : Bool)
    (hfree : ∀ existing,outbox.progressiveEdits.get (record.coalesceKey.getD messageId.toText) = some existing →
      existing.terminal = false) :
    Effect config outbox event (outbox.enqueueProgressiveEdit config record messageId fallbackToSend) := by
  obtain ⟨records,hmerged,-⟩ :=
    coalesce_records (outbox.addRecord record) (outbox.newTask record messageId fallbackToSend).key
  rw [enqueueProgressiveEdit,hmerged]
  refine .enqueues (?_ : Enqueues outbox (outbox.newTask record messageId fallbackToSend) _)
  split
  · rw [wake]
    split
    case isTrue hloop =>
      refine ⟨rfl,hfree,rfl,rfl,?_,fun _ => by simp⟩
      exact (congrArg EditLoop.tasks hloop).symm
    case isFalse => exact ⟨rfl,hfree,rfl,rfl,rfl,fun h => h⟩
  · exact ⟨rfl,hfree,rfl,rfl,rfl,fun h => h⟩

theorem effect_confirm (ho : Ordered outbox) {deliveryId : ℕ} {outcome : Outcome}
    (hnext : outbox.confirm deliveryId outcome = some outbox') :
    Effect config outbox (.confirmed deliveryId outcome) outbox' := by
  rw [confirm] at hnext
  split at hnext
  case h_1 => cases hnext
  case h_2 record hrecord =>
    split at hnext
    case h_1 => cases hnext
    case h_2 confirmation hconfirmation =>
      split at hnext
      case isFalse => cases hnext
      case isTrue =>
        rw [← some.inj hnext]
        cases outcome with
        | rejected error => exact .leaves ⟨rfl,rfl,rfl,fun h => h⟩
        | resolved messageId thrown =>
          cases confirmation with
          | sent original => exact .leaves ⟨rfl,rfl,rfl,fun h => h⟩
          | edited =>
            by_cases hknown : deliveryId ∈ outbox.history.enqueued.map (·.record)
            · obtain ⟨edit,hedit,rfl⟩ := mem_map.mp hknown
              have htried : edit.record ∈ outbox.history.attempted := by
                refine ho.attempted_of_confirmation hedit hrecord ?_
                rw [hconfirmation]
                exact some_ne_none _
              refine .accepts messageId thrown hedit htried ?_ rfl rfl
              rw [confirmQueued]
              dsimp only
              rw [if_pos hknown]
            · refine .leaves ⟨?_,rfl,rfl,fun h => h⟩
              rw [confirmQueued]
              dsimp only
              rw [if_neg hknown,append_nil]

theorem next_effect (hkeeps : ¬ Overwrites config event outbox) (hs : Sound outbox)
    (ho : Ordered outbox) (hnext : next config event outbox = some outbox') : Effect config outbox event outbox' := by
  cases step_of_next hnext with
  | call call =>
    cases call with
    | send | editDeferred => exact .leaves (leaves_enqueueReliable _ _)
    | retry deliveryId options => exact .leaves (leaves_retry deliveryId options)
    | edit messageId message fallbackToSend options =>
      refine edit_cases (P := Effect config outbox _) hkeeps ?_ ?_ (fun found => ?_) fun found hfree => ?_
      · exact .leaves (leaves_enqueueReliable _ _)
      · exact .leaves ⟨rfl,rfl,rfl,fun h => h⟩
      · exact .leaves (leaves_enqueueReliable _ _)
      · exact effect_enqueueProgressiveEdit found fallbackToSend hfree
  | starts hlane | settles hlane | rested hlane => exact .leaves hlane.leaves
  | ends hends => exact .leaves (leaves_endHead hends)
  | debounced hloop => exact .leaves ⟨rfl,rfl,(congrArg EditLoop.tasks hloop).symm,fun _ => by simp⟩
  | @resumes terminalWake hloop =>
    exact .moves (congrArg EditLoop.tasks hloop) (afterDebounce_moves hs.coherent terminalWake)
  | @unblocked terminalWake hloop =>
    exact .moves (congrArg EditLoop.tasks hloop) (takeTasks_moves hs.coherent terminalWake)
  | editSettles outcome hloop => exact .editSettles outcome hloop
  | fallbackSettles outcome hloop => exact .fallbackSettles outcome hloop
  | @fallbackRested task attempt rest hloop =>
    exact .leaves ⟨rfl,rfl,(congrArg EditLoop.tasks hloop).symm,fun h => absurd hloop (h task attempt rest)⟩
  | closes hloop =>
    rw [closed]
    refine .moves (congrArg EditLoop.tasks hloop) ?_
    split
    · have hcoherent : Coherent ({ outbox with progressiveEditLoop := .idle } : DeliveryOutbox).progressiveEdits :=
        hs.coherent
      have hmoves : Moves _ [] (({ outbox with progressiveEditLoop := .idle } : DeliveryOutbox).loopHead config) :=
        loopHead_moves hcoherent
      exact ⟨hmoves.history,hmoves.tasks,hmoves.direct⟩
    · exact moves_waiting (by simp)
  | confirmed hconfirmed => exact effect_confirm ho hconfirmed
  | passes => exact .leaves ⟨rfl,rfl,rfl,fun h => h⟩

theorem finishTask_moves (hcoherent : Coherent outbox.progressiveEdits) (task : ProgressiveEditTask)
    (rest : List ProgressiveEditTask) (change : DeliveryRecord → DeliveryRecord) :
    Moves outbox rest (outbox.finishTask config task rest change) := by
  have hupdated : Coherent (outbox.updateRecord task.record fun record => (change record).settle).progressiveEdits :=
    hcoherent
  have hmoves : Moves _ rest (outbox.finishTask config task rest change) := nextTask_moves hupdated rest
  exact ⟨hmoves.history,hmoves.tasks,hmoves.direct⟩

theorem rateLimit_moves_again (hcoherent : Coherent outbox.progressiveEdits)
    (rest : List ProgressiveEditTask) (error : DeliveryError) (retryAfterMs : ℕ)
    (hretry : task.terminal ∧ task.attempts < config.maxRateLimitRetries) :
    Moves { outbox with progressiveEdits := outbox.progressiveEdits.set task.key task.again } rest
      (outbox.rateLimit config task rest error retryAfterMs) := by
  have hset : Coherent (outbox.progressiveEdits.set task.key task.again) := coherent_set hcoherent task.again
  rw [rateLimit,if_pos hretry]
  have hmoves : Moves
      { outbox with
        progressiveEditBlockedUntil :=
          max outbox.progressiveEditBlockedUntil (outbox.now + min retryAfterMs config.maxRateLimitDelayMs)
        progressiveEdits := outbox.progressiveEdits.set task.key task.again } rest (nextTask config _ rest) :=
    nextTask_moves hset rest
  exact ⟨hmoves.history,hmoves.tasks,hmoves.direct⟩

theorem rateLimit_moves_drop (hcoherent : Coherent outbox.progressiveEdits)
    (rest : List ProgressiveEditTask) (error : DeliveryError) (retryAfterMs : ℕ)
    (hretry : ¬ (task.terminal ∧ task.attempts < config.maxRateLimitRetries)) :
    Moves outbox rest (outbox.rateLimit config task rest error retryAfterMs) := by
  have hblocked : Coherent
      ({ outbox with
        progressiveEditBlockedUntil :=
          max outbox.progressiveEditBlockedUntil (outbox.now + min retryAfterMs config.maxRateLimitDelayMs) } :
        DeliveryOutbox).progressiveEdits := hcoherent
  have hmoves : Moves _ rest (finishTask config _ task rest fun record =>
      { record.skip .rateLimited with error := some error }) := finishTask_moves hblocked task rest _
  rw [rateLimit,if_neg hretry]
  exact ⟨hmoves.history,hmoves.tasks,hmoves.direct⟩

theorem appliedInOrder_editSettles (hs : Sound outbox) (ho : Ordered outbox) (h : AppliedInOrder outbox.history)
    (hloop : outbox.progressiveEditLoop = .editing task rest) (outcome : Outcome) :
    AppliedInOrder (outbox.editSettles config task rest outcome).history := by
  have hcurrent := ho.current task rest (congrArg EditLoop.tasks hloop)
  cases outcome using Outcome.kinds with
  | resolved messageId thrown =>
    rw [editSettles]
    have haccept := h.accept hcurrent.attempted fun earlier hearlier =>
      ho.inOrder_current hcurrent (h.attempted earlier hearlier)
    have hcoherent : Coherent
        ({ outbox with history := { outbox.history with applied := outbox.history.applied ++ [task.record] } } :
          DeliveryOutbox).progressiveEdits := hs.coherent
    exact AppliedInOrder.moves (finishTask_moves hcoherent task rest _) haccept
  | deferred confirmation =>
    rw [editSettles]
    exact AppliedInOrder.moves (finishTask_moves hs.coherent task rest _) h
  | limited message retryAfterMs network =>
    rw [editSettles]
    by_cases hretry : task.terminal ∧ task.attempts < config.maxRateLimitRetries
    · exact AppliedInOrder.moves (rateLimit_moves_again hs.coherent rest _ _ hretry) h
    · exact AppliedInOrder.moves (rateLimit_moves_drop hs.coherent rest _ _ hretry) h
  | failed message network =>
    rw [editSettles]
    by_cases hfallback : task.fallbackToSend
    · rw [if_pos hfallback]
      exact h
    · rw [if_neg hfallback]
      exact AppliedInOrder.moves (finishTask_moves hs.coherent task rest _) h

theorem appliedInOrder_next (hlate : ¬ Outdated event outbox) (hs : Sound outbox) (ho : Ordered outbox)
    (heffect : Effect config outbox event outbox') (h : AppliedInOrder outbox.history) :
    AppliedInOrder outbox'.history := by
  cases heffect with
  | leaves hleaves =>
    rw [hleaves.history]
    exact h
  | @enqueues _ task waiting henqueues =>
    have hknown {id : ℕ} (hid : id ∈ outbox.history.applied) : id < outbox.records.length := by
      obtain ⟨edit,hedit,hrecord⟩ := ho.arranged.attempted id (h.attempted id hid)
      exact hrecord ▸ ho.arranged.known edit hedit
    have hwaiting : AppliedInOrder waiting.history := by
      rw [henqueues.history]
      exact ⟨h.attempted,h.order.imp_of_mem fun hid _ horder => horder.append henqueues.record (hknown hid)⟩
    rw [ensureProgressiveEditLoop]
    split
    · have hcoherent : Coherent waiting.progressiveEdits := by
        rw [henqueues.edits]
        exact coherent_set hs.coherent task
      exact AppliedInOrder.moves (loopHead_moves hcoherent) hwaiting
    · exact hwaiting
  | moves hloop hmoves => exact h.moves hmoves
  | editSettles outcome hloop => exact appliedInOrder_editSettles hs ho h hloop outcome
  | @fallbackSettles task attempt rest outcome hloop =>
    cases outcome with
    | resolved messageId thrown => exact AppliedInOrder.moves (finishTask_moves hs.coherent task rest _) h
    | rejected error =>
      rw [fallbackSettles]
      split
      · exact h
      · exact AppliedInOrder.moves (finishTask_moves hs.coherent task rest _) h
  | @accepts edit _ messageId thrown hedit htried hhistory htasks hloop =>
    rw [hhistory]
    refine h.accept htried fun earlier hearlier found hfound found' hfound' hfirst hsecond hkey => ?_
    -- A newer edit of the key has not been tried.
    by_contra hnewer
    have hsame := eq_of_record_eq ho.arranged.increasing hfound' hedit hsecond
    refine hlate ⟨edit,hedit,found,hfound,rfl,hkey.trans (congrArg _ hsame),?_,?_⟩
    · rw [hfirst]
      exact Nat.lt_of_not_le hnewer
    · rw [hfirst]
      exact h.attempted earlier hearlier

theorem pursued_next (hkeeps : ¬ Overwrites config event outbox) (hdrops : ¬ Drops config event outbox)
    (hs : Sound outbox) (ho : Ordered outbox) (heffect : Effect config outbox event outbox') (h : Pursued outbox) :
      Pursued outbox' := by
  cases heffect with
  | leaves hleaves =>
    refine ⟨fun id hid => ?_,hleaves.direct h.direct⟩
    rw [hleaves.history] at hid ⊢
    rw [tasks,hleaves.edits,hleaves.tasks]
    exact h.attempted id hid
  | @enqueues _ task waiting henqueues =>
    -- The edit that gives way is not terminal, and so it was not tried.
    have htasks (id : ℕ) (hid : id ∈ waiting.history.attempted) : id ∈ waiting.history.applied ∨
        ∃ other, (other ∈ waiting.progressiveEdits.values ∨ other ∈ waiting.progressiveEditLoop.tasks) ∧
          other.record = id := by
      rw [henqueues.history] at hid ⊢
      refine (h.attempted id hid).imp_right ?_
      rintro ⟨other,hother,rfl⟩
      refine ⟨other,?_,rfl⟩
      rw [henqueues.tasks,henqueues.edits]
      rcases mem_append.mp hother with hvalue | htaken
      · refine .inl ((mem_values_set hs.coherent task).mpr (.inr ⟨hvalue,fun hkey => ?_⟩))
        have hget := get_of_mem_values hs.coherent hvalue
        rw [hkey] at hget
        have hterminal := ho.arranged.again other (.inr hvalue) hid
        rw [henqueues.free other hget] at hterminal
        cases hterminal
      · exact .inr htaken
    rw [ensureProgressiveEditLoop]
    split
    case isTrue hidle =>
      have hcoherent : Coherent waiting.progressiveEdits := by
        rw [henqueues.edits]
        exact coherent_set hs.coherent task
      rw [hidle] at htasks
      exact (loopHead_moves hcoherent).pursued htasks
    case isFalse =>
      refine ⟨fun id hid => (htasks id hid).imp_right ?_,henqueues.direct h.direct⟩
      rintro ⟨other,hother,hrecord⟩
      exact ⟨other,mem_append.mpr hother,hrecord⟩
  | moves hloop hmoves => exact hmoves.pursued (h.waiting hloop)
  | @editSettles task rest outcome hloop =>
    have hsplit (id : ℕ) (hid : id ∈ outbox.history.attempted) : id ∈ outbox.history.applied ∨ id = task.record ∨
        ∃ other, (other ∈ outbox.progressiveEdits.values ∨ other ∈ rest) ∧ other.record = id := by
      refine (h.attempted id hid).imp_right ?_
      rintro ⟨other,hother,hrecord⟩
      rw [tasks,hloop,EditLoop.tasks,mem_append,mem_cons] at hother
      rcases hother with hvalue | rfl | hother
      · exact .inr ⟨other,.inl hvalue,hrecord⟩
      · exact .inl hrecord.symm
      · exact .inr ⟨other,.inr hother,hrecord⟩
    cases outcome using Outcome.kinds with
    | resolved messageId thrown =>
      have hcoherent : Coherent
          ({ outbox with history := { outbox.history with applied := outbox.history.applied ++ [task.record] } } :
            DeliveryOutbox).progressiveEdits := hs.coherent
      rw [editSettles]
      refine Moves.pursued (finishTask_moves hcoherent task rest _) fun id hid => ?_
      rcases hsplit id hid with hold | rfl | hother
      · exact .inl (mem_append_left _ hold)
      · exact .inl (mem_append_right _ (mem_singleton_self _))
      · exact .inr hother
    | deferred | failed => exact absurd trivial hdrops
    | limited message retryAfterMs network =>
      have hretry : task.terminal ∧ task.attempts < config.maxRateLimitRetries := by
        by_contra hretry
        exact hdrops ⟨task,rest,hloop,hretry⟩
      have hmem (other : ProgressiveEditTask) : other ∈ (outbox.progressiveEdits.set task.key task.again).values ↔
          other = task.again ∨ (other ∈ outbox.progressiveEdits.values ∧ other.key ≠ task.key) :=
        mem_values_set hs.coherent task.again
      rw [editSettles]
      refine Moves.pursued (rateLimit_moves_again hs.coherent rest _ _ hretry) fun id hid => ?_
      rcases hsplit id hid with hold | rfl | ⟨other,hother,hrecord⟩
      · exact .inl hold
      · exact .inr ⟨task.again,.inl ((hmem _).mpr (.inl rfl)),rfl⟩
      · refine .inr ⟨other,hother.imp_left fun hvalue => (hmem other).mpr (.inr ⟨hvalue,fun hkey => ?_⟩),hrecord⟩
        have hget := get_of_mem_values hs.coherent hvalue
        rw [hkey] at hget
        exact hkeeps ⟨task,rest,hloop,hretry.1,hretry.2,isSome_iff_exists.mpr ⟨other,hget⟩⟩
  | @fallbackSettles task attempt rest outcome hloop => exact absurd hloop (h.direct task attempt rest)
  | @accepts edit _ messageId thrown hedit htried hhistory htasks hloop =>
    refine ⟨fun id hid => ?_,fun task attempt rest => ?_⟩
    · rw [hhistory] at hid ⊢
      rw [htasks]
      exact (h.attempted id hid).imp_left (mem_append_left _)
    · rw [hloop]
      exact h.direct task attempt rest

/-- A terminal edit is tried before its promise resolves, edits of a key are tried in order, and no edit is replaced
but by a newer one of its key. -/
structure EditsKept (outbox : DeliveryOutbox) : Prop where
  terminal : ∀ edit ∈ outbox.history.enqueued, edit.terminal → edit.record ∈ outbox.history.attempted ∨
    (∃ task ∈ outbox.tasks,task.record = edit.record) ∧ Unsettled outbox.records edit.record
  attempts : outbox.history.attempted.Pairwise (InOrder outbox.history.enqueued)
  replaced : ∀ edit ∈ outbox.history.enqueued, edit.record ∈ outbox.history.attempted ∨
    (∃ task ∈ outbox.tasks,task.record = edit.record) ∨
      ∃ newer ∈ outbox.history.enqueued, newer.key = edit.key ∧ edit.record < newer.record

def NewestApplied (history : EditHistory) : Prop :=
  ∀ newest ∈ history.enqueued, (∀ edit ∈ history.enqueued,edit.key = newest.key → edit.record ≤ newest.record) →
    (history.appliedTo newest.key).getLast? = some newest.record

theorem Ordered.placed (h : Ordered outbox) {edit : ProgressiveEditTask} (hedit : edit ∈ outbox.history.enqueued) :
    edit.record ∈ outbox.history.attempted ∨
      (∃ task ∈ outbox.tasks,task.record = edit.record) ∧ Unsettled outbox.records edit.record ∨
      edit.terminal = false ∧ ∃ newer ∈ outbox.history.enqueued, newer.key = edit.key ∧ edit.record < newer.record := by
  refine (h.arranged.placed edit hedit).imp_right fun hplace => hplace.2.imp_left ?_
  rintro ⟨⟨task,htask,hrecord⟩,hunsettled⟩
  refine ⟨⟨task,?_,hrecord⟩,hunsettled⟩
  rw [tasks,mem_append]
  exact htask.symm.imp_right mem_of_mem_tail

theorem Ordered.editsKept (h : Ordered outbox) : EditsKept outbox where
  terminal := by
    intro edit hedit hterminal
    refine (h.placed hedit).imp_right fun hplace => hplace.resolve_right ?_
    rintro ⟨hfalse,-⟩
    rw [hterminal] at hfalse
    cases hfalse
  attempts := h.arranged.attempts
  replaced := fun edit hedit => (h.placed hedit).imp_right fun hplace => hplace.imp And.left And.right

theorem getLast?_of_pairwise_le {ids : List ℕ} (horder : ids.Pairwise (· ≤ ·)) {greatest : ℕ} (hmem : greatest ∈ ids)
    (hgreatest : ∀ id ∈ ids,id ≤ greatest) : ids.getLast? = some greatest := by
  obtain ⟨before,last,rfl⟩ := (eq_nil_or_concat ids).resolve_left (ne_nil_of_mem hmem)
  rw [concat_eq_append] at hmem horder hgreatest ⊢
  rw [getLast?_concat]
  have hlast : last ≤ greatest := hgreatest last (mem_append_right _ (mem_singleton_self _))
  rcases mem_append.mp hmem with hbefore | hsame
  · have hle := (pairwise_append.mp horder).2.2 greatest hbefore last (mem_singleton_self _)
    exact congrArg some (Nat.le_antisymm hlast hle)
  · exact congrArg some (mem_singleton.mp hsame).symm

theorem newestApplied_of_pursued (ho : Ordered outbox) (happlied : AppliedInOrder outbox.history) (h : Pursued outbox)
    (htasks : outbox.tasks = []) : NewestApplied outbox.history := by
  intro newest hnewest hmax
  have hof {id : ℕ} (hid : id ∈ outbox.history.appliedTo newest.key) :
      ∃ edit ∈ outbox.history.enqueued, edit.record = id ∧ edit.key = newest.key := by
    obtain ⟨-,hkey⟩ := mem_filter.mp hid
    obtain ⟨edit,hedit,hsame⟩ := any_eq_true.mp hkey
    exact ⟨edit,hedit,of_decide_eq_true hsame⟩
  have htask (task : ProgressiveEditTask) : task ∉ outbox.tasks := by
    rw [htasks]
    exact not_mem_nil
  -- The newest edit of the key was tried, and so it was accepted.
  have htried : newest.record ∈ outbox.history.attempted := by
    rcases ho.placed hnewest with htried | ⟨⟨task,hwaits,-⟩,-⟩ | ⟨-,newer,hnewer,hkey,hless⟩
    · exact htried
    · exact absurd hwaits (htask task)
    · exact absurd (hmax newer hnewer hkey) (Nat.not_le.mpr hless)
  have haccepted : newest.record ∈ outbox.history.applied := by
    rcases h.attempted newest.record htried with haccepted | ⟨task,hwaits,-⟩
    · exact haccepted
    · exact absurd hwaits (htask task)
  refine getLast?_of_pairwise_le ?_ (mem_filter.mpr ⟨haccepted,?_⟩) fun id hid => ?_
  · refine (happlied.order.filter _).imp_of_mem fun hearlier hlater horder => ?_
    obtain ⟨edit,hedit,hrecord,hkey⟩ := hof hearlier
    obtain ⟨edit',hedit',hrecord',hkey'⟩ := hof hlater
    exact horder edit hedit edit' hedit' hrecord hrecord' (hkey.trans hkey'.symm)
  · exact any_eq_true.mpr ⟨newest,hnewest,decide_eq_true ⟨rfl,rfl⟩⟩
  · obtain ⟨edit,hedit,rfl,hkey⟩ := hof hid
    exact hmax edit hedit hkey

theorem ordered_run (run : EventRun (next config) fresh)
    (hkeeps : ∀ n event,run.event n = some event → ¬ Overwrites config event (run.state n)) (n : ℕ) :
    Sound (run.state n) ∧ Ordered (run.state n) := by
  have hstep (event : Event) (state state' : DeliveryOutbox) (hallowed : ¬ Overwrites config event state)
      (h : Sound state ∧ Ordered state) (hnext : next config event state = some state') :
      Sound state' ∧ Ordered state' := ⟨sound_next hallowed h.1 hnext,ordered_next hallowed h.1 h.2 hnext⟩
  exact run.invariant ⟨sound_fresh,ordered_fresh⟩ hstep hkeeps n

/-- Edits keep their order, and where every call ends with its acceptance or another attempt, the newest edit of a key
is applied last. -/
theorem newest_edit_applied_last (run : EventRun (next config) fresh)
    (hkeeps : ∀ n event,run.event n = some event → ¬ Overwrites config event (run.state n)) :
    (∀ n,EditsKept (run.state n)) ∧
      ((∀ n event,run.event n = some event → ¬ Outdated event (run.state n)) →
        (∀ n,(run.state n).history.applied.Pairwise (InOrder (run.state n).history.enqueued)) ∧
          ((∀ n event,run.event n = some event → ¬ Drops config event (run.state n)) →
            ∀ n,(run.state n).tasks = [] → NewestApplied (run.state n).history)) := by
  have hinvariant := ordered_run run hkeeps
  refine ⟨fun n => (hinvariant n).2.editsKept,fun hlate => ?_⟩
  have happlied (n : ℕ) : AppliedInOrder (run.state n).history := by
    have hstep (event : Event) (state state' : DeliveryOutbox)
        (hallowed : ¬ Overwrites config event state ∧ ¬ Outdated event state)
        (h : (Sound state ∧ Ordered state) ∧ AppliedInOrder state.history)
        (hnext : next config event state = some state') :
        (Sound state' ∧ Ordered state') ∧ AppliedInOrder state'.history :=
      ⟨⟨sound_next hallowed.1 h.1.1 hnext,ordered_next hallowed.1 h.1.1 h.1.2 hnext⟩,
        appliedInOrder_next hallowed.2 h.1.1 h.1.2 (next_effect hallowed.1 h.1.1 h.1.2 hnext) h.2⟩
    exact (run.invariant ⟨⟨sound_fresh,ordered_fresh⟩,appliedInOrder_fresh⟩ hstep
      (fun n event hevent => ⟨hkeeps n event hevent,hlate n event hevent⟩) n).2
  refine ⟨fun n => (happlied n).order,fun hdrops n htasks => ?_⟩
  have hpursued (n : ℕ) : Pursued (run.state n) := by
    have hstep (event : Event) (state state' : DeliveryOutbox)
        (hallowed : ¬ Overwrites config event state ∧ ¬ Drops config event state)
        (h : (Sound state ∧ Ordered state) ∧ Pursued state) (hnext : next config event state = some state') :
        (Sound state' ∧ Ordered state') ∧ Pursued state' :=
      ⟨⟨sound_next hallowed.1 h.1.1 hnext,ordered_next hallowed.1 h.1.1 h.1.2 hnext⟩,
        pursued_next hallowed.1 hallowed.2 h.1.1 h.1.2 (next_effect hallowed.1 h.1.1 h.1.2 hnext) h.2⟩
    exact (run.invariant ⟨⟨sound_fresh,ordered_fresh⟩,pursued_fresh⟩ hstep
      (fun n event hevent => ⟨hkeeps n event hevent,hdrops n event hevent⟩) n).2
  exact newestApplied_of_pursued (hinvariant n).2 (happlied n) (hpursued n) htasks

/-- A newer edit of the key comes while the older one is applied, and it is rate-limited once. -/
def newerEdit : List Event :=
  [terminalEdit "old",terminalEdit "new",.editSettles (.resolved none none),rateLimited,.unblocked,
    .editSettles (.resolved none none)]

theorem newerEdit_after : EventRun.after (next limitedConfig) (newerEdit ++ [.closes]) fresh =
    some ⟨0,[editedRecord "old",editedRecord "new"],⟨[],0⟩,⟨[],0⟩,.empty,.idle,1000,
      ⟨[terminalTask "old" 0,terminalTask "new" 1],[0,1,1],[0,1]⟩⟩ := by decide

theorem newerEdit_isSome : (EventRun.after (next limitedConfig) (newerEdit ++ [.closes]) fresh).isSome := by
  rw [newerEdit_after]
  rfl

theorem newest_edit_applied_last_newer : NewestApplied ((EventRun.ofList _ newerEdit_isSome).state 7).history := by
  have hediting : ((EventRun.ofList _ newerEdit_isSome).state 3).progressiveEditLoop =
      .editing (terminalTask "new" 1) [] := by decide
  have hkept := newest_edit_applied_last (.ofList _ newerEdit_isSome) fun n event hevent => ?_
  · refine (hkept.2 fun n event hevent => ?_).2 (fun n event hevent => ?_) 7 ?_
    · have hn : n < 7 := EventRun.ofList_event_lt hevent
      interval_cases n <;> (cases some.inj hevent; exact id)
    · have hn : n < 7 := EventRun.ofList_event_lt hevent
      interval_cases n
      case «3» =>
        cases some.inj hevent
        rintro ⟨task,rest,hloop,hgiven⟩
        obtain ⟨rfl,-⟩ := EditLoop.editing.inj (hediting.symm.trans hloop)
        exact hgiven ⟨rfl,by decide⟩
      all_goals
        cases some.inj hevent
        exact id
    · rw [EventRun.ofList_state newerEdit_isSome (Nat.le_refl 7) newerEdit_after]
      rfl
  · have hn : n < 7 := EventRun.ofList_event_lt hevent
    interval_cases n
    · cases some.inj hevent
      rintro ⟨-,-,existing,hexisting,-⟩
      cases hexisting
    · cases some.inj hevent
      rintro ⟨-,-,existing,hexisting,-⟩
      cases hexisting
    · cases some.inj hevent
      exact id
    · cases some.inj hevent
      rintro ⟨task,rest,hloop,-,-,hwaits⟩
      have hempty : ((EventRun.ofList _ newerEdit_isSome).state 3).progressiveEdits = .empty := rfl
      rw [hempty] at hwaits
      cases hwaits
    · cases some.inj hevent
      exact id
    · cases some.inj hevent
      exact id
    · cases some.inj hevent
      exact id

def liveEdit (text : JsString) : Event :=
  .call (.edit (some (.number 1)) ⟨text⟩ false ⟨some .progressiveEdit,none,false,false,none⟩)

/-- After an edit was accepted, a newer one that is not terminal is rate-limited. -/
def droppedEdit : List Event :=
  [terminalEdit "old",.editSettles (.resolved none none),.closes,liveEdit "new",.debounced,.resumes,rateLimited]

def droppedRecord : DeliveryRecord :=
  ⟨.skipped,⟨"new"⟩,some (.number 1),some (.rejected "Too Many Requests" (some 1000) false),some .progressiveEdit,
    none,false,false,none,none,some .rateLimited,true,none⟩

theorem droppedEdit_after : EventRun.after (next limitedConfig) (droppedEdit ++ [.closes]) fresh =
    some ⟨0,[editedRecord "old",droppedRecord],⟨[],0⟩,⟨[],0⟩,.empty,.idle,1000,
      ⟨[terminalTask "old" 0,{ terminalTask "new" 1 with terminal := false }],[0,1],[0]⟩⟩ := by decide

/-- Only rate limits come, and still the newest edit is not applied. -/
theorem rateLimited_edit_dropped :
    ¬ ∀ (config : DeliveryOutboxConfig) (run : EventRun (next config) fresh),
      (∀ n error,run.event n = some (.editSettles (.rejected error)) →
        ∃ message retryAfterMs network,error = .rejected message (some retryAfterMs) network) →
        ∀ n, (run.state n).tasks = [] → NewestApplied (run.state n).history := by
  intro h
  have hsome : (EventRun.after (next limitedConfig) (droppedEdit ++ [.closes]) fresh).isSome := by
    rw [droppedEdit_after]
    rfl
  have hstate := EventRun.ofList_state hsome (Nat.le_refl 8) droppedEdit_after
  have hnewest := h limitedConfig (.ofList _ hsome) (fun n error hevent => ?_) 8 (by rw [hstate]; rfl)
  · rw [hstate] at hnewest
    have hlast := hnewest { terminalTask "new" 1 with terminal := false } (by decide) (by decide)
    revert hlast
    decide
  · have hn : n < 8 := EventRun.ofList_event_lt hevent
    interval_cases n <;> cases some.inj hevent
    exact ⟨_,_,_,rfl⟩

end Malink.Delivery
