import Malink.DeliveryLoop
import Malink.FairRuns

/-!
# Every delivery is settled

A promise whose delivery has not come to its end belongs to a lane, a waiting task or one that the loop has taken.
-/

namespace Malink.Delivery

open DeliveryOutbox List Option
open DeliveryRecord (settle skip)

variable {config : DeliveryOutboxConfig} {outbox outbox' : DeliveryOutbox}

@[simp] theorem lane_setLane (lane : Lane) (name name' : LaneName) :
    (outbox.setLane lane name).lane name' = if name' = name then lane else outbox.lane name' := by
  cases name <;> cases name' <;> rfl

variable {name : LaneName} {event : Event} {records : List DeliveryRecord}
  {change : DeliveryRecord → DeliveryRecord} {record : DeliveryRecord} {rest : List ProgressiveEditTask}
  {overhead : ℕ} {task : ProgressiveEditTask}
  {step : Job → DeliveryRecord → List DeliveryRecord → Option (List DeliveryRecord × Phase)}
  {middle : DeliveryOutbox} {messageId : Option MessageId} {message : ChannelMessage}
  {fallbackToSend : Bool} {options : DeliveryOptions}

theorem stepHead_cases (h : outbox.stepHead name step = some outbox') :
    ∃ job jobs record stepped, (outbox.lane name).jobs = job :: jobs ∧ outbox.records[job.record]? = some record ∧
      step job record outbox.records = some stepped ∧
      outbox' = { outbox with records := stepped.1 }.setLane
        { outbox.lane name with jobs := { job with phase := stepped.2 } :: jobs } name := by
  unfold stepHead at h
  split at h
  case h_1 => cases h
  case h_2 job jobs hjobs =>
    split at h
    case h_1 => cases h
    case h_2 record hrecord =>
      obtain ⟨stepped,hstepped,houtbox⟩ := map_eq_some_iff.mp h
      exact ⟨job,jobs,record,stepped,hjobs,hrecord,hstepped,houtbox.symm⟩

theorem endHead_cases (h : outbox.endHead name = some outbox') :
    ∃ job jobs, (outbox.lane name).jobs = job :: jobs ∧ job.phase = .ended ∧
      outbox' = (outbox.updateRecord job.record .settle).setLane ⟨jobs,(outbox.lane name).pending - 1⟩ name := by
  unfold endHead at h
  split at h
  case h_1 => cases h
  case h_2 job jobs hjobs =>
    split at h
    case isTrue hphase => exact ⟨job,jobs,hjobs,hphase,(some.inj h).symm⟩
    case isFalse => cases h

structure LaneStep (config : DeliveryOutboxConfig) (name : LaneName) (outbox outbox' : DeliveryOutbox) : Prop where
  step : ∃ job jobs stepped, (outbox.lane name).jobs = job :: jobs ∧ JobStep config job outbox.records stepped ∧
    outbox' = { outbox with records := stepped.1 }.setLane
      { outbox.lane name with jobs := { job with phase := stepped.2 } :: jobs } name

theorem laneStep_of_stepHead
    (hstep : ∀ job record records stepped,step job record records = some stepped → JobStep config job records stepped)
    (h : outbox.stepHead name step = some outbox') : LaneStep config name outbox outbox' := by
  obtain ⟨job,jobs,record,stepped,hjobs,-,hstepped,houtbox⟩ := stepHead_cases h
  exact ⟨job,jobs,stepped,hjobs,hstep _ _ _ _ hstepped,houtbox⟩

theorem laneStep_starts {resolved : Except DeliveryError (Option MessageId)}
    (h : next config (.starts name resolved) outbox = some outbox') : LaneStep config name outbox outbox' := by
  rw [DeliveryOutbox.next] at h
  refine laneStep_of_stepHead (fun job record records stepped hstepped => ?_) h
  split at hstepped
  case isTrue hwaiting =>
    rw [← some.inj hstepped]
    exact Job.start_step hwaiting resolved record records
  case isFalse => cases hstepped

variable {outcome : Outcome}

theorem laneStep_settles (h : next config (.settles name outcome) outbox = some outbox') :
    LaneStep config name outbox outbox' :=
  laneStep_of_stepHead (fun _ _ _ _ hstepped => Job.settle_step hstepped) h

theorem laneStep_rested (h : next config (.rested name) outbox = some outbox') :
    LaneStep config name outbox outbox' := by
  rw [DeliveryOutbox.next] at h
  refine laneStep_of_stepHead (fun job record records stepped hstepped => ?_) h
  obtain ⟨phase,hrest,hphase⟩ := map_eq_some_iff.mp hstepped
  rw [← hphase]
  exact Job.rest_step hrest records

/-- What the outbox does by itself, or waits for. Calls, late confirmations and the passing of time are not work. -/
def DeliveryOutbox.Event.IsWork : Event → Prop
  | .call _ | .confirmed _ _ | .passes _ => False
  | _ => True

theorem work_setLane {lane : Lane} (records : List DeliveryRecord)
    (h : lane.work config < (outbox.lane name).work config) :
    (({ outbox with records := records } : DeliveryOutbox).setLane lane name).work config < outbox.work config := by
  cases name with
  | control => exact Nat.add_lt_add_right (Nat.add_lt_add_right h _) _
  | normal => exact Nat.add_lt_add_right (Nat.add_lt_add_left h _) _

theorem LaneStep.work_lt (h : LaneStep config name outbox outbox') : outbox'.work config < outbox.work config := by
  obtain ⟨job,jobs,stepped,hjobs,hstep,rfl⟩ := h.step
  refine work_setLane stepped.1 ?_
  rw [Lane.work,Lane.work,hjobs,map_cons,map_cons,sum_cons,sum_cons]
  exact Nat.add_lt_add_right hstep.work _

theorem endHead_work (h : outbox.endHead name = some outbox') : outbox'.work config < outbox.work config := by
  obtain ⟨job,jobs,hjobs,hphase,rfl⟩ := endHead_cases h
  refine work_setLane (outbox.records.modify job.record .settle) ?_
  rw [Lane.work,Lane.work,hjobs,map_cons,sum_cons,hphase,Phase.work]
  exact Nat.lt_add_of_pos_left Nat.one_pos

variable {terminalWake : Bool}

theorem resumes_work (h : Coherent outbox.progressiveEdits) (hloop : outbox.progressiveEditLoop = .woken terminalWake)
    : (outbox.afterDebounce terminalWake).work config < outbox.work config := by
  refine (afterDebounce_continues h terminalWake).work_lt ⟨rfl,rfl⟩ ?_
  rw [append_nil,editsWork,hloop,EditLoop.work]
  cases terminalWake with
  | true | false => exact Nat.add_lt_add_left (by decide) _

theorem unblocked_work (h : Coherent outbox.progressiveEdits)
    (hloop : outbox.progressiveEditLoop = .blocked terminalWake) :
    (outbox.takeTasks terminalWake).work config < outbox.work config := by
  refine (takeTasks_continues h terminalWake).work_lt ⟨rfl,rfl⟩ ?_
  rw [append_nil,editsWork,hloop,EditLoop.work]
  cases terminalWake with
  | true | false => exact Nat.add_lt_add_left (by decide) _

def closed (config : DeliveryOutboxConfig) (outbox : DeliveryOutbox) : DeliveryOutbox :=
  if outbox.progressiveEdits.size > 0 then { outbox with progressiveEditLoop := .idle }.loopHead config
  else { outbox with progressiveEditLoop := .idle }

theorem next_closes : next config .closes outbox =
    if outbox.progressiveEditLoop = .closing then some (closed config outbox) else none := by
  rw [DeliveryOutbox.next]
  cases outbox.progressiveEditLoop with
  | closing => rfl
  | idle | debouncing | woken | blocked | editing | sendingFallback => rfl

/-- What an event does, step by step. The steps of a lane are described on their own. -/
inductive Step (config : DeliveryOutboxConfig) (outbox : DeliveryOutbox) : Event → DeliveryOutbox → Prop
  | call (call : DeliveryCall) : Step config outbox (.call call) (outbox.perform config call)
  | starts {name : LaneName} {resolved : Except DeliveryError (Option MessageId)} {outbox' : DeliveryOutbox} :
      LaneStep config name outbox outbox' → Step config outbox (.starts name resolved) outbox'
  | settles {name : LaneName} {outcome : Outcome} {outbox' : DeliveryOutbox} :
      LaneStep config name outbox outbox' → Step config outbox (.settles name outcome) outbox'
  | rested {name : LaneName} {outbox' : DeliveryOutbox} :
      LaneStep config name outbox outbox' → Step config outbox (.rested name) outbox'
  | ends {name : LaneName} {outbox' : DeliveryOutbox} :
      outbox.endHead name = some outbox' → Step config outbox (.ends name) outbox'
  | debounced : outbox.progressiveEditLoop = .debouncing →
      Step config outbox .debounced { outbox with progressiveEditLoop := .woken false }
  | resumes {terminalWake : Bool} : outbox.progressiveEditLoop = .woken terminalWake →
      Step config outbox .resumes (outbox.afterDebounce terminalWake)
  | unblocked {terminalWake : Bool} : outbox.progressiveEditLoop = .blocked terminalWake →
      Step config outbox .unblocked (outbox.takeTasks terminalWake)
  | editSettles {task : ProgressiveEditTask} {rest : List ProgressiveEditTask} (outcome : Outcome) :
      outbox.progressiveEditLoop = .editing task rest →
      Step config outbox (.editSettles outcome) (outbox.editSettles config task rest outcome)
  | fallbackSettles {task : ProgressiveEditTask} {attempt : Attempt} {rest : List ProgressiveEditTask}
      (outcome : Outcome) : outbox.progressiveEditLoop = .sendingFallback task attempt rest →
      attempt.resting = false →
      Step config outbox (.fallbackSettles outcome) (outbox.fallbackSettles config task attempt rest outcome)
  | fallbackRested {task : ProgressiveEditTask} {attempt : Attempt} {rest : List ProgressiveEditTask} :
      outbox.progressiveEditLoop = .sendingFallback task attempt rest → attempt.resting →
      Step config outbox .fallbackRested
        { outbox with progressiveEditLoop := .sendingFallback task { attempt with resting := false } rest }
  | closes : outbox.progressiveEditLoop = .closing → Step config outbox .closes (closed config outbox)
  | confirmed {deliveryId : ℕ} {outcome : Outcome} {outbox' : DeliveryOutbox} :
      outbox.confirm deliveryId outcome = some outbox' → Step config outbox (.confirmed deliveryId outcome) outbox'
  | passes (ms : ℕ) : Step config outbox (.passes ms) { outbox with now := outbox.now + ms }

theorem step_of_next (h : next config event outbox = some outbox') : Step config outbox event outbox' := by
  cases event with
  | call call =>
    rw [← some.inj h]
    exact .call call
  | starts name resolved => exact .starts (laneStep_starts h)
  | settles name outcome => exact .settles (laneStep_settles h)
  | rested name => exact .rested (laneStep_rested h)
  | ends name => exact .ends h
  | closes =>
    rw [next_closes] at h
    split at h <;> cases h
    exact .closes ‹_›
  | confirmed deliveryId outcome => exact .confirmed h
  | passes ms =>
    rw [← some.inj h]
    exact .passes ms
  | fallbackSettles outcome =>
    rw [DeliveryOutbox.next] at h
    split at h
    · next hloop =>
      split at h <;> cases h
      exact .fallbackSettles outcome hloop (by simp_all)
    · cases h
  | fallbackRested =>
    rw [DeliveryOutbox.next] at h
    split at h
    · next hloop =>
      split at h <;> cases h
      exact .fallbackRested hloop ‹_›
    · cases h
  | debounced | resumes | unblocked | editSettles =>
    rw [DeliveryOutbox.next] at h
    split at h <;> cases h
    constructor
    assumption

theorem closes_work (h : Coherent outbox.progressiveEdits) (hloop : outbox.progressiveEditLoop = .closing) :
    (closed config outbox).work config < outbox.work config := by
  rw [closed]
  split
  case isTrue hsize =>
    have hcoherent : Coherent ({ outbox with progressiveEditLoop := .idle } : DeliveryOutbox).progressiveEdits := h
    refine (loopHead_continues hcoherent).work_lt ⟨rfl,rfl⟩ ?_
    have hwork : EditLoop.work config (outbox.progressiveEdits.size ≠ 0) .closing = 9 := by
      simp [EditLoop.work,Nat.pos_iff_ne_zero.mp hsize]
    rw [append_nil,editsWork,hloop,hwork]
    exact Nat.add_lt_add_left (by decide) _
  case isFalse hsize =>
    refine work_lt_of_edits ⟨rfl,rfl⟩ ?_
    have hwork : 0 < EditLoop.work config (outbox.progressiveEdits.size ≠ 0) .closing := by
      rw [EditLoop.work]
      split <;> decide
    rw [editsWork,editsWork,hloop]
    exact Nat.add_lt_add_left hwork _

/-- Every step that is work leaves less of it. -/
theorem work_lt (h : Coherent outbox.progressiveEdits) (hwork : event.IsWork)
    (hnext : next config event outbox = some outbox') : outbox'.work config < outbox.work config := by
  cases step_of_next hnext with
  | call | confirmed | passes => exact hwork.elim
  | starts hlane | settles hlane | rested hlane => exact hlane.work_lt
  | ends hends => exact endHead_work hends
  | debounced hloop =>
    refine work_lt_of_edits ⟨rfl,rfl⟩ ?_
    rw [editsWork,editsWork,hloop]
    exact Nat.add_lt_add_left (Nat.lt_succ_self 5) _
  | resumes hloop => exact resumes_work h hloop
  | unblocked hloop => exact unblocked_work h hloop
  | editSettles outcome hloop => exact editSettles_work h hloop outcome
  | fallbackSettles outcome hloop hresting => exact fallbackSettles_work h hloop hresting outcome
  | @fallbackRested task attempt rest hloop hresting =>
    have hless : _ < attempt.work config := Attempt.work_rest hresting
    refine work_lt_of_edits ⟨rfl,rfl⟩ ?_
    rw [editsWork_sendingFallback rfl,editsWork_sendingFallback hloop]
    dsimp only
    omega
  | closes hloop => exact closes_work h hloop

def InFlight (outbox : DeliveryOutbox) (id : ℕ) : Prop :=
  (∃ name,∃ job ∈ (outbox.lane name).jobs,job.record = id) ∨ ∃ task ∈ outbox.tasks, task.record = id

/-- A promise that has not resolved belongs to a delivery that will come to its end, and one that has belongs to a
delivery that has come to its end. -/
def Accounted (records : List DeliveryRecord) (inFlight : ℕ → Prop) : Prop :=
  ∀ id record, records[id]? = some record →
    (record.settled = false → inFlight id) ∧ (record.settled → record.status ≠ .pending)

structure Sound (outbox : DeliveryOutbox) : Prop where
  coherent : Coherent outbox.progressiveEdits
  idle : outbox.progressiveEditLoop = .idle → outbox.progressiveEdits.size = 0
  counts : ∀ name, (outbox.lane name).pending = (outbox.lane name).jobs.length
  known : ∀ name, ∀ job ∈ (outbox.lane name).jobs, job.record < outbox.records.length
  ended : ∀ name, ∀ job ∈ (outbox.lane name).jobs, job.phase = .ended → Completed outbox.records job.record
  accounted : Accounted outbox.records (InFlight outbox)

variable {inFlight inFlight' : ℕ → Prop}

theorem Accounted.kept {records' : List DeliveryRecord} (h : Accounted records inFlight)
    (hkept : Kept records records') (hmono : ∀ id,inFlight id → inFlight' id) : Accounted records' inFlight' := by
  intro id record' hrecord'
  obtain ⟨record,hrecord,hsettled,hstatus⟩ := hkept.getElem? hrecord'
  obtain ⟨hunsettled,hdone⟩ := h id record hrecord
  rw [hsettled]
  exact ⟨fun hfalse => hmono id (hunsettled hfalse),fun htrue => hstatus (hdone htrue)⟩

variable {id : ℕ}

theorem Accounted.settle (h : Accounted records inFlight)
    (hchange : ∀ record,records[id]? = some record → (change record).settled ∧ (change record).status ≠ .pending)
    (hmono : ∀ other,inFlight other → other = id ∨ inFlight' other) :
    Accounted (records.modify id change) inFlight' := by
  intro other record' hrecord'
  rw [getElem?_modify] at hrecord'
  obtain ⟨record,hrecord,rfl⟩ := map_eq_some_iff.mp hrecord'
  by_cases hsame : id = other
  · rw [if_pos hsame]
    rw [← hsame] at hrecord
    obtain ⟨hsettled,hstatus⟩ := hchange record hrecord
    rw [hsettled]
    exact ⟨fun hfalse => (by cases hfalse),fun _ => hstatus⟩
  · rw [if_neg hsame]
    obtain ⟨hunsettled,hdone⟩ := h other record hrecord
    exact ⟨fun hfalse => (hmono other (hunsettled hfalse)).resolve_left (Ne.symm hsame),hdone⟩

theorem Accounted.append (h : Accounted records inFlight)
    (hnew : (record.settled = false → inFlight' records.length) ∧ (record.settled → record.status ≠ .pending))
    (hmono : ∀ id,inFlight id → inFlight' id) : Accounted (records ++ [record]) inFlight' := by
  intro id found hfound
  rcases Nat.lt_or_ge id records.length with hlt | hge
  · rw [getElem?_append_left hlt] at hfound
    obtain ⟨hunsettled,hdone⟩ := h id found hfound
    exact ⟨fun hfalse => hmono id (hunsettled hfalse),hdone⟩
  · rw [getElem?_append_right hge,getElem?_singleton] at hfound
    split at hfound
    case isTrue hzero =>
      have hid : id = records.length := by omega
      rw [hid,← some.inj hfound]
      exact hnew
    case isFalse => cases hfound

theorem sound_fresh : Sound fresh where
  coherent := fun entry hentry => by cases hentry
  idle := fun _ => rfl
  counts := fun name => by cases name <;> rfl
  known := fun name job hjob => by cases name <;> cases hjob
  ended := fun name job hjob => by cases name <;> cases hjob
  accounted := fun id record hrecord => by cases hrecord

theorem completed_modify_of (h : ∀ record,record.status ≠ .pending → (change record).status ≠ .pending) (target : ℕ)
    (hid : Completed records id) : Completed (records.modify target change) id := by
  intro record hrecord
  rw [getElem?_modify] at hrecord
  obtain ⟨before,hbefore,rfl⟩ := map_eq_some_iff.mp hrecord
  have hstatus := hid before hbefore
  split
  · exact h before hstatus
  · exact hstatus

theorem Sound.setLane (hs : Sound outbox) {lane : Lane}
    (hcount : lane.pending = lane.jobs.length) (hlength : records.length = outbox.records.length)
    (hjobs : ∀ job ∈ lane.jobs,∃ old ∈ (outbox.lane name).jobs,job.record = old.record)
    (hended : ∀ job ∈ lane.jobs,job.phase = .ended → Completed records job.record)
    (hother : ∀ id,Completed outbox.records id → Completed records id)
    (haccounted : ∀ inFlight',
      (∀ id,InFlight outbox id → (∃ job ∈ (outbox.lane name).jobs,job.record = id) ∨ inFlight' id) →
      (∀ job ∈ lane.jobs,inFlight' job.record) → Accounted records inFlight') :
    Sound (({ outbox with records := records } : DeliveryOutbox).setLane lane name) := by
  have hlane (name' : LaneName) : (({ outbox with records := records } : DeliveryOutbox).setLane lane name).lane name' =
      if name' = name then lane else outbox.lane name' := by
    cases name <;> cases name' <;> rfl
  have htasks : (({ outbox with records := records } : DeliveryOutbox).setLane lane name).tasks = outbox.tasks := by
    cases name <;> rfl
  have hrecords : (({ outbox with records := records } : DeliveryOutbox).setLane lane name).records = records := by
    cases name <;> rfl
  refine ⟨?_,?_,fun name' => ?_,fun name' job hjob => ?_,fun name' job hjob hphase => ?_,?_⟩
  · cases name <;> exact hs.coherent
  · cases name <;> exact hs.idle
  · rw [hlane]
    split
    · exact hcount
    · exact hs.counts name'
  · rw [hlane] at hjob
    rw [hrecords,hlength]
    split at hjob
    · obtain ⟨old,hold,hrecord⟩ := hjobs job hjob
      rw [hrecord]
      exact hs.known name old hold
    · exact hs.known name' job hjob
  · rw [hlane] at hjob
    rw [hrecords]
    split at hjob
    · exact hended job hjob hphase
    · exact hother job.record (hs.ended name' job hjob hphase)
  · rw [hrecords]
    refine haccounted _ (fun id hid => ?_) fun job hjob => ?_
    · rcases hid with ⟨name',job,hjob,hid⟩ | ⟨task,htask,hid⟩
      · by_cases hsame : name' = name
        · rw [hsame] at hjob
          exact .inl ⟨job,hjob,hid⟩
        · refine .inr (.inl ⟨name',job,?_,hid⟩)
          rw [hlane,if_neg hsame]
          exact hjob
      · refine .inr (.inr ⟨task,?_,hid⟩)
        rw [htasks]
        exact htask
    · refine .inl ⟨name,job,?_,rfl⟩
      rw [hlane,if_pos rfl]
      exact hjob

theorem LaneStep.sound (h : LaneStep config name outbox outbox') (hs : Sound outbox) : Sound outbox' := by
  obtain ⟨job,jobs,stepped,hjobs,hstep,rfl⟩ := h.step
  have hold : ∀ old ∈ jobs,old ∈ (outbox.lane name).jobs := by
    intro old hold
    rw [hjobs]
    exact mem_cons_of_mem _ hold
  refine hs.setLane ?_ hstep.kept.length_eq.symm (fun found hfound => ?_) (fun found hfound hphase => ?_)
    (fun id hid => hid.kept hstep.kept) fun inFlight' hmono hnew => hs.accounted.kept hstep.kept fun id hid => ?_
  · have hcount := hs.counts name
    rw [hjobs] at hcount
    exact hcount
  · rcases mem_cons.mp hfound with rfl | hfound
    · refine ⟨job,?_,rfl⟩
      rw [hjobs]
      exact mem_cons_self ..
    · exact ⟨found,hold found hfound,rfl⟩
  · rcases mem_cons.mp hfound with rfl | hfound
    · exact hstep.completed hphase
    · exact (hs.ended name found (hold found hfound) hphase).kept hstep.kept
  · rcases hmono id hid with ⟨found,hfound,rfl⟩ | hid'
    · rw [hjobs] at hfound
      rcases mem_cons.mp hfound with rfl | hfound
      · exact hnew { found with phase := stepped.2 } (mem_cons_self ..)
      · exact hnew found (mem_cons_of_mem _ hfound)
    · exact hid'

theorem sound_endHead (h : outbox.endHead name = some outbox') (hs : Sound outbox) : Sound outbox' := by
  obtain ⟨job,jobs,hjobs,hphase,rfl⟩ := endHead_cases h
  have hmem : job ∈ (outbox.lane name).jobs := by
    rw [hjobs]
    exact mem_cons_self ..
  have hold : ∀ old ∈ jobs,old ∈ (outbox.lane name).jobs := by
    intro old hold
    rw [hjobs]
    exact mem_cons_of_mem _ hold
  have hother (id : ℕ) (hid : Completed outbox.records id) :
      Completed (outbox.records.modify job.record .settle) id := by
    have hdone : ∀ record : DeliveryRecord,record.status ≠ .pending → record.settle.status ≠ .pending :=
      fun _ hstatus => hstatus
    exact completed_modify_of hdone job.record hid
  refine hs.setLane ?_ (length_modify _ _ _) (fun found hfound => ⟨found,hold found hfound,rfl⟩)
    (fun found hfound hended => ?_) hother fun inFlight' hmono hnew => ?_
  · have hcount := hs.counts name
    rw [hjobs,length_cons] at hcount
    dsimp only
    omega
  · exact hother _ (hs.ended name found (hold found hfound) hended)
  · refine hs.accounted.settle (fun record hrecord => ⟨rfl,hs.ended name job hmem hphase record hrecord⟩) fun id hid => ?_
    rcases hmono id hid with ⟨found,hfound,rfl⟩ | hid'
    · rw [hjobs] at hfound
      rcases mem_cons.mp hfound with rfl | hfound
      · exact .inl rfl
      · exact .inr (hnew found hfound)
    · exact .inr hid'

theorem mem_tasks_continues (h : Continues config outbox rest overhead outbox') :
    task ∈ outbox'.tasks ↔ task ∈ outbox.progressiveEdits.values ∨ task ∈ rest := by
  rw [h.tasks.mem_iff,mem_append]

theorem Continues.sound (h : Continues config middle rest overhead outbox')
    (hcounts : ∀ name,(middle.lane name).pending = (middle.lane name).jobs.length)
    (hknown : ∀ name,∀ job ∈ (middle.lane name).jobs,job.record < middle.records.length)
    (hended : ∀ name,∀ job ∈ (middle.lane name).jobs,job.phase = .ended → Completed middle.records job.record)
    (haccounted : Accounted middle.records fun id => (∃ name,∃ job ∈ (middle.lane name).jobs,job.record = id) ∨
      ∃ task,(task ∈ middle.progressiveEdits.values ∨ task ∈ rest) ∧ task.record = id) : Sound outbox' := by
  obtain ⟨edits,loop,attempted,hframe⟩ := h.frame
  have hlane (name : LaneName) : outbox'.lane name = middle.lane name := by
    rw [hframe]
    cases name <;> rfl
  have hrecords : outbox'.records = middle.records := by rw [hframe]
  refine ⟨h.coherent,fun hidle => absurd hidle h.active,fun name => ?_,fun name => ?_,fun name => ?_,?_⟩
  · rw [hlane]
    exact hcounts name
  · rw [hlane,hrecords]
    exact hknown name
  · rw [hlane,hrecords]
    exact hended name
  · rw [hrecords]
    refine haccounted.kept (.refl _) fun id hid => ?_
    rcases hid with ⟨name,job,hjob,hid⟩ | ⟨task,htask,hid⟩
    · refine .inl ⟨name,job,?_,hid⟩
      rw [hlane]
      exact hjob
    · exact .inr ⟨task,(mem_tasks_continues h).mpr htask,hid⟩

theorem Sound.accounted_tasks (hs : Sound outbox) (hloop : outbox.progressiveEditLoop.tasks = []) :
    Accounted outbox.records fun id => (∃ name,∃ job ∈ (outbox.lane name).jobs,job.record = id) ∨
      ∃ task, (task ∈ outbox.progressiveEdits.values ∨ task ∈ []) ∧ task.record = id := by
  refine hs.accounted.kept (.refl _) fun id hid => ?_
  rcases hid with hjob | ⟨task,htask,hid⟩
  · exact .inl hjob
  · rw [tasks,hloop,append_nil] at htask
    exact .inr ⟨task,.inl htask,hid⟩

theorem sound_finishTask (hs : Sound outbox) (htasks : outbox.progressiveEditLoop.tasks = task :: rest)
    (hchange : Completes change)
    (hmiddle : middle.records = outbox.records ∧ middle.control = outbox.control ∧ middle.normal = outbox.normal ∧
      middle.progressiveEdits = outbox.progressiveEdits) : Sound (middle.finishTask config task rest change) := by
  obtain ⟨hrecords,hcontrol,hnormal,hedits⟩ := hmiddle
  have hcoherent : Coherent middle.progressiveEdits := by
    rw [hedits]
    exact hs.coherent
  have hlane (name : LaneName) : (middle.updateRecord task.record fun record => (change record).settle).lane name =
      outbox.lane name := by
    cases name with
    | control => exact hcontrol
    | normal => exact hnormal
  have hupdated : (middle.updateRecord task.record fun record => (change record).settle).records =
      outbox.records.modify task.record fun record => (change record).settle := by
    rw [updateRecord,hrecords]
  have hcontinues : Continues config _ rest 6 (middle.finishTask config task rest change) :=
    finishTask_continues hcoherent task rest change
  refine hcontinues.sound ?_ ?_ ?_ ?_
  · intro name
    rw [hlane]
    exact hs.counts name
  · intro name job hjob
    rw [hlane] at hjob
    rw [hupdated,length_modify]
    exact hs.known name job hjob
  · intro name job hjob hphase
    rw [hlane] at hjob
    rw [hupdated]
    have hdone : ∀ record : DeliveryRecord,record.status ≠ .pending → ((change record).settle).status ≠ .pending :=
      fun record _ => (hchange record).2
    exact completed_modify_of hdone task.record (hs.ended name job hjob hphase)
  · rw [hupdated]
    refine hs.accounted.settle (fun record _ => ⟨rfl,(hchange record).2⟩) fun id hid => ?_
    rcases hid with ⟨name,job,hjob,hid⟩ | ⟨found,hfound,rfl⟩
    · refine .inr (.inl ⟨name,job,?_,hid⟩)
      rw [hlane]
      exact hjob
    · rw [tasks,htasks,mem_append,mem_cons] at hfound
      rcases hfound with hfound | rfl | hfound
      · refine .inr (.inr ⟨found,.inl ?_,rfl⟩)
        change found ∈ middle.progressiveEdits.values
        rw [hedits]
        exact hfound
      · exact .inl rfl
      · exact .inr (.inr ⟨found,.inr hfound,rfl⟩)

/-- A change of the loop that keeps the tasks it has taken, and changes no more than the status of a delivery. -/
theorem Sound.sameTasks (hs : Sound outbox) (hkept : Kept outbox.records records)
    {loop : EditLoop} (htasks : loop.tasks = outbox.progressiveEditLoop.tasks) (hactive : loop ≠ .idle) :
    Sound { outbox with records := records, progressiveEditLoop := loop } := by
  refine ⟨hs.coherent,fun hidle => absurd hidle hactive,hs.counts,fun name job hjob => ?_,
    fun name job hjob hphase => ?_,?_⟩
  · exact Nat.lt_of_lt_of_eq (hs.known name job hjob) hkept.length_eq
  · exact (hs.ended name job hjob hphase).kept hkept
  · refine hs.accounted.kept hkept fun id hid => ?_
    rcases hid with hjob | ⟨task,htask,hid⟩
    · exact .inl hjob
    · refine .inr ⟨task,?_,hid⟩
      rw [tasks] at htask ⊢
      rw [htasks]
      exact htask

theorem completes_deferred (success : Confirmation) (otherwise : DeliveryRecord → DeliveryRecord)
    (confirmation : Bool) : Completes (.catchError success otherwise (.deferred confirmation)) :=
  fun _ => ⟨rfl,by simp [DeliveryRecord.catchError]⟩

variable {edits : InsertionMap JsString ProgressiveEditTask}

theorem values_set_of_get_eq_none {key : JsString} (h : edits.get key = none) (task : ProgressiveEditTask) :
    (edits.set key task).values = edits.values ++ [task] := by
  rw [InsertionMap.values,InsertionMap.entries_set_of_not_mem task (InsertionMap.get_eq_none.mp h),map_append]
  rfl

theorem sound_rateLimit (hs : Sound outbox)
    (hloop : outbox.progressiveEditLoop = .editing task rest) (error : DeliveryError) (retryAfterMs : ℕ)
    (hfree : task.terminal → task.attempts < config.maxRateLimitRetries → outbox.progressiveEdits.get task.key = none) :
    Sound (outbox.rateLimit config task rest error retryAfterMs) := by
  have htasks : outbox.progressiveEditLoop.tasks = task :: rest := by rw [hloop,EditLoop.tasks]
  rw [rateLimit]
  by_cases hretry : task.terminal ∧ task.attempts < config.maxRateLimitRetries
  · rw [if_pos hretry]
    have hvalues := values_set_of_get_eq_none (hfree hretry.1 hretry.2) task.again
    have hcoherent : Coherent (outbox.progressiveEdits.set task.key task.again) := coherent_set hs.coherent task.again
    have hcontinues : Continues config
        { outbox with
          progressiveEditBlockedUntil :=
            max outbox.progressiveEditBlockedUntil (outbox.now + min retryAfterMs config.maxRateLimitDelayMs)
          progressiveEdits := outbox.progressiveEdits.set task.key task.again } rest 6 _ :=
      nextTask_continues hcoherent rest
    refine hcontinues.sound hs.counts hs.known hs.ended ?_
    · refine hs.accounted.kept (.refl _) fun id hid => ?_
      rcases hid with hjob | ⟨found,hfound,hid⟩
      · exact .inl hjob
      · rw [tasks,htasks,mem_append,mem_cons] at hfound
        have hmem (task' : ProgressiveEditTask) (h : task' ∈ outbox.progressiveEdits.values ∨ task' = task.again) :
            task' ∈ (outbox.progressiveEdits.set task.key task.again).values := by
          rw [hvalues,mem_append,mem_singleton]
          exact h
        rcases hfound with hfound | rfl | hfound
        · exact .inr ⟨found,.inl (hmem found (.inl hfound)),hid⟩
        · exact .inr ⟨found.again,.inl (hmem found.again (.inr rfl)),hid⟩
        · exact .inr ⟨found,.inr hfound,hid⟩
  · rw [if_neg hretry]
    have hskip : Completes fun record => { record.skip .rateLimited with error := some error } :=
      fun _ => ⟨rfl,by simp [skip]⟩
    exact sound_finishTask hs htasks hskip ⟨rfl,rfl,rfl,rfl⟩

theorem sound_editSettles (hs : Sound outbox)
    (hloop : outbox.progressiveEditLoop = .editing task rest) (outcome : Outcome)
    (hfree : ∀ message retryAfterMs network,outcome = .rejected (.rejected message (some retryAfterMs) network) →
      task.terminal → task.attempts < config.maxRateLimitRetries → outbox.progressiveEdits.get task.key = none) :
    Sound (outbox.editSettles config task rest outcome) := by
  have htasks : outbox.progressiveEditLoop.tasks = task :: rest := by rw [hloop,EditLoop.tasks]
  cases outcome using Outcome.kinds with
  | resolved messageId thrown =>
    rw [editSettles]
    exact sound_finishTask hs htasks (completes_succeed (by decide)) ⟨rfl,rfl,rfl,rfl⟩
  | deferred confirmation =>
    rw [editSettles]
    exact sound_finishTask hs htasks (completes_deferred _ _ _) ⟨rfl,rfl,rfl,rfl⟩
  | limited message retryAfterMs network =>
    rw [editSettles]
    exact sound_rateLimit hs hloop _ _ (hfree message retryAfterMs network rfl)
  | failed message network =>
    rw [editSettles]
    by_cases hfallback : task.fallbackToSend
    · rw [if_pos hfallback]
      exact hs.sameTasks ((completes_fail _).kept _ _) (by rw [hloop]; rfl) (by simp)
    · rw [if_neg hfallback]
      exact sound_finishTask hs htasks (completes_fail _) ⟨rfl,rfl,rfl,rfl⟩

theorem sound_fallbackSettles (hs : Sound outbox) {attempt : Attempt}
    (hloop : outbox.progressiveEditLoop = .sendingFallback task attempt rest)
    (outcome : Outcome) : Sound (outbox.fallbackSettles config task attempt rest outcome) := by
  have htasks : outbox.progressiveEditLoop.tasks = task :: rest := by rw [hloop,EditLoop.tasks]
  cases outcome with
  | resolved messageId thrown =>
    have hsent : Completes fun record => { record with status := .sent, messageId := messageId } :=
      fun _ => ⟨rfl,by simp⟩
    exact sound_finishTask hs htasks hsent ⟨rfl,rfl,rfl,rfl⟩
  | rejected error =>
    rw [fallbackSettles]
    cases hafter : attempt.afterError config error with
    | none => exact sound_finishTask hs htasks (completes_catchError _ _) ⟨rfl,rfl,rfl,rfl⟩
    | some attempt' => exact hs.sameTasks (.refl _) (by rw [hloop]; rfl) (by simp)

theorem sound_waited (hs : Sound outbox) (hloop : outbox.progressiveEditLoop.tasks = [])
    {before : DeliveryOutbox} (hbefore : ∃ loop,before = { outbox with progressiveEditLoop := loop })
    (h : Continues config before [] overhead outbox') : Sound outbox' := by
  obtain ⟨loop,rfl⟩ := hbefore
  exact h.sound hs.counts hs.known hs.ended (hs.accounted_tasks hloop)

theorem sound_closed (hs : Sound outbox) (hloop : outbox.progressiveEditLoop = .closing) :
    Sound (closed config outbox) := by
  have htasks : outbox.progressiveEditLoop.tasks = [] := by rw [hloop,EditLoop.tasks]
  rw [closed]
  split
  case isTrue hsize =>
    have hcoherent : Coherent ({ outbox with progressiveEditLoop := .idle } : DeliveryOutbox).progressiveEdits :=
      hs.coherent
    have hcontinues : Continues config _ [] 6 _ := loopHead_continues hcoherent
    exact sound_waited hs htasks ⟨_,rfl⟩ hcontinues
  case isFalse hsize =>
    have hzero : outbox.progressiveEdits.size = 0 := Nat.eq_zero_of_not_pos hsize
    refine ⟨hs.coherent,fun _ => hzero,hs.counts,hs.known,hs.ended,?_⟩
    refine hs.accounted.kept (.refl _) fun id hid => ?_
    rcases hid with hjob | ⟨task,htask,hid⟩
    · exact .inl hjob
    · refine .inr ⟨task,?_,hid⟩
      rw [tasks,htasks] at htask
      exact htask

theorem sound_ensure (hcoherent : Coherent outbox.progressiveEdits)
    (hcounts : ∀ name,(outbox.lane name).pending = (outbox.lane name).jobs.length)
    (hknown : ∀ name,∀ job ∈ (outbox.lane name).jobs,job.record < outbox.records.length)
    (hended : ∀ name,∀ job ∈ (outbox.lane name).jobs,job.phase = .ended → Completed outbox.records job.record)
    (haccounted : Accounted outbox.records (InFlight outbox)) : Sound (outbox.ensureProgressiveEditLoop config) := by
  rw [ensureProgressiveEditLoop]
  by_cases hidle : outbox.progressiveEditLoop = .idle
  · rw [if_pos hidle]
    refine (loopHead_continues hcoherent).sound hcounts hknown hended (haccounted.kept (.refl _) fun id hid => ?_)
    rcases hid with hjob | ⟨task,htask,hid⟩
    · exact .inl hjob
    · rw [tasks,hidle,EditLoop.tasks,append_nil] at htask
      exact .inr ⟨task,.inl htask,hid⟩
  · rw [if_neg hidle]
    exact ⟨hcoherent,fun h => absurd h hidle,hcounts,hknown,hended,haccounted⟩

theorem get_of_mem_values (h : Coherent edits) (htask : task ∈ edits.values) : edits.get task.key = some task := by
  obtain ⟨entry,hentry,rfl⟩ := mem_map.mp htask
  rw [h entry hentry]
  exact InsertionMap.get_eq_some.mpr hentry

theorem mem_values_set (h : Coherent edits) (task : ProgressiveEditTask) {other : ProgressiveEditTask} :
    other ∈ (edits.set task.key task).values ↔ other = task ∨ (other ∈ edits.values ∧ other.key ≠ task.key) := by
  constructor
  · intro hother
    obtain ⟨entry,hentry,rfl⟩ := mem_map.mp hother
    rcases (InsertionMap.mem_setEntries edits.nodup_keys).mp hentry with rfl | ⟨hentry,hkey⟩
    · exact .inl rfl
    · refine .inr ⟨mem_map_of_mem hentry,?_⟩
      rw [h entry hentry]
      exact hkey
  · rintro (rfl | ⟨hother,hkey⟩)
    · exact mem_map_of_mem ((InsertionMap.mem_setEntries edits.nodup_keys).mpr (.inl rfl))
    · obtain ⟨entry,hentry,rfl⟩ := mem_map.mp hother
      rw [h entry hentry] at hkey
      exact mem_map_of_mem ((InsertionMap.mem_setEntries edits.nodup_keys).mpr (.inr ⟨hentry,hkey⟩))

/-- A waiting edit that gives way has its promise resolved, so that only edits of other keys are still waiting. -/
theorem accounted_coalesce {extra : ℕ → Prop} (hcoherent : Coherent outbox.progressiveEdits)
    (haccounted : Accounted outbox.records fun id => extra id ∨ InFlight outbox id) {key : JsString}
    (hfree : ∀ existing,outbox.progressiveEdits.get key = some existing → existing.terminal = false) :
    Accounted (outbox.coalesce key).records fun id => extra id ∨
      (∃ name,∃ job ∈ (outbox.lane name).jobs,job.record = id) ∨
        ∃ task, ((task ∈ outbox.progressiveEdits.values ∧ task.key ≠ key) ∨ task ∈ outbox.progressiveEditLoop.tasks) ∧
          task.record = id := by
  rw [coalesce]
  cases hget : outbox.progressiveEdits.get key with
  | none =>
    refine haccounted.kept (.refl _) fun id hid => ?_
    rcases hid with hextra | hjob | ⟨task,htask,hid⟩
    · exact .inl hextra
    · exact .inr (.inl hjob)
    · rcases mem_append.mp htask with hwaiting | htaken
      · refine .inr (.inr ⟨task,.inl ⟨hwaiting,fun hkey => ?_⟩,hid⟩)
        have hfound := get_of_mem_values hcoherent hwaiting
        rw [hkey,hget] at hfound
        cases hfound
      · exact .inr (.inr ⟨task,.inr htaken,hid⟩)
  | some existing =>
    have hterminal := hfree existing hget
    dsimp only
    rw [if_neg (Bool.eq_false_iff.mp hterminal)]
    have hskip : ∀ record : DeliveryRecord,((record.skip .coalesced).settle).settled ∧
        ((record.skip .coalesced).settle).status ≠ .pending :=
      fun record => ⟨rfl,by simp [skip,settle]⟩
    refine haccounted.settle (fun record _ => hskip record) fun id hid => ?_
    rcases hid with hextra | hjob | ⟨task,htask,rfl⟩
    · exact .inr (.inl hextra)
    · exact .inr (.inr (.inl hjob))
    · rcases mem_append.mp htask with hwaiting | htaken
      · by_cases hkey : task.key = key
        · have hfound := get_of_mem_values hcoherent hwaiting
          rw [hkey,hget] at hfound
          rw [← some.inj hfound]
          exact .inl rfl
        · exact .inr (.inr (.inr ⟨task,.inl ⟨hwaiting,hkey⟩,rfl⟩))
      · exact .inr (.inr (.inr ⟨task,.inr htaken,rfl⟩))

theorem coalesce_frame (outbox : DeliveryOutbox) (key : JsString) :
    ∃ records, outbox.coalesce key = { outbox with records := records } ∧ records.length = outbox.records.length ∧
      ∀ id, Completed outbox.records id → Completed records id := by
  rw [coalesce]
  split
  case h_1 => exact ⟨_,rfl,rfl,fun _ hid => hid⟩
  case h_2 existing _ =>
    split
    case isTrue => exact ⟨_,rfl,rfl,fun _ hid => hid⟩
    case isFalse =>
      have hdone : ∀ record : DeliveryRecord,record.status ≠ .pending →
          ((record.skip .coalesced).settle).status ≠ .pending :=
        fun record _ => by simp [skip,settle]
      exact ⟨_,rfl,length_modify _ _ _,fun _ hid => completed_modify_of hdone _ hid⟩

theorem wake_tasks (outbox : DeliveryOutbox) : ∃ loop, outbox.wake = { outbox with progressiveEditLoop := loop } ∧
    loop.tasks = outbox.progressiveEditLoop.tasks := by
  rw [wake]
  split
  case isTrue hloop =>
    refine ⟨_,rfl,?_⟩
    rw [hloop]
    rfl
  case isFalse => exact ⟨_,rfl,rfl⟩

theorem completed_append (h : Completed records id) (hid : id < records.length) :
    Completed (records ++ [record]) id := by
  intro found hfound
  rw [getElem?_append_left hid] at hfound
  exact h found hfound

section

variable (hs : Sound outbox) (hnew : record.settled = false)
include hs hnew

/-- A new delivery that is not settled yet is in flight from then on. -/
theorem accounted_addRecord :
    Accounted (outbox.addRecord record).records fun id => id = outbox.records.length ∨ InFlight outbox id := by
  refine hs.accounted.append ⟨fun _ => .inl rfl,fun htrue => ?_⟩ fun id hid => .inr hid
  rw [hnew] at htrue
  cases htrue

theorem sound_enqueueProgressiveEdit (messageId : MessageId) (fallbackToSend : Bool)
    (hfree : ∀ existing,outbox.progressiveEdits.get (record.coalesceKey.getD messageId.toText) = some existing →
      existing.terminal = false) : Sound (outbox.enqueueProgressiveEdit config record messageId fallbackToSend) := by
  have haccounted : Accounted (outbox.addRecord record).records fun id =>
      id = outbox.records.length ∨ InFlight (outbox.addRecord record) id := accounted_addRecord hs hnew
  have hcoherent : Coherent (outbox.addRecord record).progressiveEdits := hs.coherent
  rw [enqueueProgressiveEdit]
  -- The new task.
  generalize htask : outbox.newTask record messageId fallbackToSend = task
  have hrecord : task.record = outbox.records.length := by
    rw [← htask]
    rfl
  have hkey : task.key = record.coalesceKey.getD messageId.toText := by
    rw [← htask]
    rfl
  rw [← hkey] at hfree
  obtain ⟨records,hmerged,hlength,hdone⟩ := coalesce_frame (outbox.addRecord record) task.key
  have hcoalesced := accounted_coalesce hcoherent haccounted hfree
  rw [hmerged] at hcoalesced ⊢
  have hwoken (waiting : DeliveryOutbox) : ∃ loop,(if task.terminal = true then waiting.wake else waiting) =
      { waiting with progressiveEditLoop := loop } ∧ loop.tasks = waiting.progressiveEditLoop.tasks := by
    split
    · exact wake_tasks waiting
    · exact ⟨_,rfl,rfl⟩
  obtain ⟨loop,hloop,htasks⟩ :=
    hwoken (({ outbox.addRecord record with records := records } : DeliveryOutbox).setTask task)
  rw [hloop]
  refine sound_ensure (coherent_set hs.coherent task) hs.counts (fun name job hjob => ?_)
    (fun name job hjob hphase => ?_) ?_
  · have hknown := hs.known name job hjob
    have hadded : (outbox.addRecord record).records.length = outbox.records.length + 1 := length_append
    have htotal : records.length = outbox.records.length + 1 := hlength.trans hadded
    exact Nat.lt_of_lt_of_eq (Nat.lt_succ_of_lt hknown) htotal.symm
  · exact hdone _ (completed_append (hs.ended name job hjob hphase) (hs.known name job hjob))
  · refine hcoalesced.kept (.refl _) fun id hid => ?_
    rcases hid with hid | hjob | ⟨found,hfound,hid⟩
    · exact .inr ⟨task,mem_append_left _ ((mem_values_set hs.coherent task).mpr (.inl rfl)),hrecord.trans hid.symm⟩
    · exact .inl hjob
    · refine .inr ⟨found,?_,hid⟩
      rcases hfound with ⟨hwaiting,hother⟩ | htaken
      · exact mem_append_left _ ((mem_values_set hs.coherent task).mpr (.inr ⟨hwaiting,hother⟩))
      · refine mem_append_right _ ?_
        change found ∈ loop.tasks
        rw [htasks]
        exact htaken

theorem sound_enqueueReliable (operation : Operation) : Sound (outbox.enqueueReliable record operation) := by
  have hlane (name : LaneName) : (outbox.enqueueReliable record operation).lane name =
      if name = laneName record.lane then ⟨(outbox.lane (laneName record.lane)).jobs ++
        [⟨outbox.records.length,operation,.waiting⟩],(outbox.lane (laneName record.lane)).pending + 1⟩
      else outbox.lane name := by
    rw [enqueueReliable]
    rw [lane_setLane]
    cases name <;> rfl
  have hframe : (outbox.enqueueReliable record operation).records = outbox.records ++ [record] ∧
      (outbox.enqueueReliable record operation).tasks = outbox.tasks := by
    rw [enqueueReliable]
    cases laneName record.lane <;> exact ⟨rfl,rfl⟩
  have hjobs (name : LaneName) {job : Job} (hjob : job ∈ ((outbox.enqueueReliable record operation).lane name).jobs) :
      job ∈ (outbox.lane name).jobs ∨ job = ⟨outbox.records.length,operation,.waiting⟩ := by
    rw [hlane] at hjob
    split at hjob
    case isTrue hname =>
      rw [hname]
      rcases mem_append.mp hjob with hold | hadded
      · exact .inl hold
      · exact .inr (mem_singleton.mp hadded)
    case isFalse => exact .inl hjob
  refine ⟨?_,?_,fun name => ?_,fun name job hjob => ?_,fun name job hjob hphase => ?_,?_⟩
  · rw [enqueueReliable]
    cases laneName record.lane <;> exact hs.coherent
  · rw [enqueueReliable]
    cases laneName record.lane <;> exact hs.idle
  · rw [hlane]
    split
    · dsimp only
      rw [length_append,hs.counts]
      rfl
    · exact hs.counts name
  · rw [hframe.1,length_append]
    rcases hjobs name hjob with hold | rfl
    · exact Nat.lt_add_right _ (hs.known name job hold)
    · exact Nat.lt_succ_self _
  · rw [hframe.1]
    rcases hjobs name hjob with hold | rfl
    · exact completed_append (hs.ended name job hold hphase) (hs.known name job hold)
    · cases hphase
  · rw [hframe.1]
    refine (accounted_addRecord hs hnew).kept (.refl _) fun id hid => ?_
    rcases hid with hid | ⟨name,job,hjob,hid⟩ | ⟨task,htask,hid⟩
    · refine .inl ⟨laneName record.lane,⟨outbox.records.length,operation,.waiting⟩,?_,hid.symm⟩
      rw [hlane,if_pos rfl]
      exact mem_append_right _ (mem_singleton_self _)
    · refine .inl ⟨name,job,?_,hid⟩
      rw [hlane]
      split
      case isTrue hname =>
        rw [hname] at hjob
        exact mem_append_left _ hjob
      case isFalse => exact hjob
    · refine .inr ⟨task,?_,hid⟩
      rw [hframe.2]
      exact htask

end

theorem sound_addRecord (hs : Sound outbox) (hsettled : record.settled)
    (hstatus : record.status ≠ .pending) : Sound (outbox.addRecord record) where
  coherent := hs.coherent
  idle := hs.idle
  counts := hs.counts
  known name job hjob := by
    rw [addRecord,length_append]
    exact Nat.lt_add_right _ (hs.known name job hjob)
  ended name job hjob hphase := completed_append (hs.ended name job hjob hphase) (hs.known name job hjob)
  accounted := by
    refine hs.accounted.append ⟨fun hfalse => ?_,fun _ => hstatus⟩ fun id hid => hid
    rw [hsettled] at hfalse
    cases hfalse

def editKey (messageId : MessageId) (options : DeliveryOptions) : JsString :=
  (options.coalesceKey.filter JsString.truthy).getD messageId.toText

/-- A task is overwritten while it waits: a terminal edit by a new edit of its key, or an edit of its key by an older
terminal edit that is put back. -/
def Overwrites (config : DeliveryOutboxConfig) : Event → DeliveryOutbox → Prop
  | .call (.edit (some messageId) _ _ options), outbox =>
    config.canEdit = true ∧ options.lane = some .progressiveEdit ∧
      ∃ existing, outbox.progressiveEdits.get (editKey messageId options) = some existing ∧ existing.terminal
  | .editSettles (.rejected (.rejected _ (some _) _)), outbox =>
    ∃ task rest, outbox.progressiveEditLoop = .editing task rest ∧ task.terminal ∧
      task.attempts < config.maxRateLimitRetries ∧ (outbox.progressiveEdits.get task.key).isSome
  | _, _ => False

theorem sound_send (hs : Sound outbox) (message : ChannelMessage) (options : DeliveryOptions) :
    Sound (outbox.send message options) := sound_enqueueReliable hs rfl _

theorem sound_retry (hs : Sound outbox) (deliveryId : ℕ) (options : DeliveryOptions) :
    Sound (outbox.retry deliveryId options) := by
  rw [retry]
  split
  case h_1 => exact hs
  case h_2 =>
    split
    case isTrue => exact hs
    case isFalse => exact sound_send hs _ _

/-- What an edit comes to. A progressive edit is enqueued where no terminal edit would be overwritten. -/
theorem edit_cases {P : DeliveryOutbox → Prop}
    (hkeeps : ¬ Overwrites config (.call (.edit messageId message fallbackToSend options)) outbox)
    (hsend : P (outbox.send message options))
    (hskip : P (outbox.addRecord (((createRecord message options).skip .missingMessageId).settle)))
    (hreliable : ∀ found,P (outbox.enqueueReliable
      { createRecord message (withLane options) with messageId := some found } (.edit found fallbackToSend)))
    (hprogressive : ∀ found,
      (∀ existing,outbox.progressiveEdits.get (editKey found options) = some existing → existing.terminal = false) →
        P (outbox.enqueueProgressiveEdit config
          { createRecord message (withLane options) with messageId := some found } found fallbackToSend)) :
    P (outbox.edit config messageId message fallbackToSend options) := by
  rw [edit]
  split
  case h_1 =>
    split
    case isTrue => exact hsend
    case isFalse => exact hskip
  case h_2 found hfound =>
    have hcan : config.canEdit ∧ messageId = some found := by
      split at hfound
      case isTrue hcan => exact ⟨hcan,hfound⟩
      case isFalse => cases hfound
    obtain ⟨hcan,rfl⟩ := hcan
    dsimp only
    split
    case isTrue hlane =>
      refine hprogressive found fun existing hexisting => ?_
      rw [Bool.eq_false_iff]
      intro hterminal
      refine hkeeps ⟨hcan,?_,existing,hexisting,hterminal⟩
      cases hoption : options.lane with
      | none =>
        have hnormal : (createRecord message (withLane options)).lane = some .normal := by
          rw [createRecord,withLane,hoption]
          rfl
        rw [hnormal] at hlane
        cases hlane
      | some lane =>
        have hsame : (createRecord message (withLane options)).lane = some lane := by
          rw [createRecord,withLane,hoption]
          rfl
        rw [hsame] at hlane
        exact hlane
    case isFalse => exact hreliable found

theorem sound_edit (hs : Sound outbox)
    (hkeeps : ¬ Overwrites config (.call (.edit messageId message fallbackToSend options)) outbox) :
    Sound (outbox.edit config messageId message fallbackToSend options) := by
  refine edit_cases hkeeps (sound_send hs message options) ?_ (fun found => sound_enqueueReliable hs rfl _) ?_
  · exact sound_addRecord hs rfl (by simp [skip,settle])
  · exact fun found hfree => sound_enqueueProgressiveEdit hs rfl found fallbackToSend hfree

theorem Sound.kept (hs : Sound outbox) (hkept : Kept outbox.records records)
    (history : EditHistory) : Sound { outbox with records := records, history := history } where
  coherent := hs.coherent
  idle := hs.idle
  counts := hs.counts
  known name job hjob := Nat.lt_of_lt_of_eq (hs.known name job hjob) hkept.length_eq
  ended name job hjob hphase := (hs.ended name job hjob hphase).kept hkept
  accounted := hs.accounted.kept hkept fun _ hid => hid

theorem sound_confirmQueued (hs : Sound outbox) (deliveryId : ℕ) (confirmation : Confirmation) (outcome : Outcome) :
    Sound (outbox.confirmQueued deliveryId confirmation outcome) := by
  have hstatus : confirmation.status ≠ .pending := by cases confirmation <;> simp [Confirmation.status]
  cases outcome with
  | resolved messageId thrown =>
    cases confirmation with
    | sent original =>
      have hmodified : Kept outbox.records (outbox.records.modify deliveryId fun record =>
          { record with
            status := Confirmation.status (.sent original)
            error := none
            confirmation := none
            messageId := messageId }) := kept_modify outbox.records deliveryId fun record => ⟨rfl,fun _ => hstatus⟩
      exact hs.kept (hmodified.trans (kept_resolveOriginal deliveryId original _)) outbox.history
    | edited =>
      have hkept : Kept outbox.records (outbox.confirmQueued deliveryId .edited (.resolved messageId thrown)).records :=
        kept_modify outbox.records deliveryId fun record => ⟨rfl,fun _ => hstatus⟩
      exact hs.kept hkept (outbox.confirmQueued deliveryId .edited (.resolved messageId thrown)).history
  | rejected error =>
    have hkept : Kept outbox.records (outbox.confirmQueued deliveryId confirmation (.rejected error)).records := by
      refine kept_modify outbox.records deliveryId fun record => ?_
      cases error with
      | deferred later => exact ⟨rfl,fun hne => hne⟩
      | rejected message retryAfterMs network => exact ⟨rfl,fun _ => by simp⟩
    exact hs.kept hkept outbox.history

theorem sound_confirm (hs : Sound outbox) {deliveryId : ℕ} (h : outbox.confirm deliveryId outcome = some outbox') :
    Sound outbox' := by
  rw [confirm] at h
  split at h
  case h_1 => cases h
  case h_2 =>
    split at h
    case h_1 => cases h
    case h_2 =>
      split at h
      case isTrue =>
        rw [← some.inj h]
        exact sound_confirmQueued hs _ _ _
      case isFalse => cases h

theorem sound_next (hkeeps : ¬ Overwrites config event outbox) (hs : Sound outbox)
    (h : next config event outbox = some outbox') : Sound outbox' := by
  cases step_of_next h with
  | call call =>
    cases call with
    | send message options => exact sound_send hs message options
    | retry deliveryId options => exact sound_retry hs deliveryId options
    | edit messageId message fallbackToSend options => exact sound_edit hs hkeeps
    | editDeferred message fallbackToSend options => exact sound_enqueueReliable hs rfl _
  | starts hlane | settles hlane | rested hlane => exact hlane.sound hs
  | ends hends => exact sound_endHead hends hs
  | debounced hloop => exact hs.sameTasks (.refl _) (by rw [hloop]; rfl) (by simp)
  | @resumes terminalWake hloop =>
    have hcontinues : Continues config outbox [] _ (outbox.afterDebounce terminalWake) :=
      afterDebounce_continues hs.coherent terminalWake
    exact sound_waited hs (by rw [hloop]; rfl) ⟨_,rfl⟩ hcontinues
  | @unblocked terminalWake hloop =>
    have hcontinues : Continues config outbox [] _ (outbox.takeTasks terminalWake) :=
      takeTasks_continues hs.coherent terminalWake
    exact sound_waited hs (by rw [hloop]; rfl) ⟨_,rfl⟩ hcontinues
  | @editSettles task rest outcome hloop =>
    refine sound_editSettles hs hloop outcome fun message retryAfterMs network houtcome hterminal hattempts => ?_
    rw [houtcome] at hkeeps
    rw [← not_isSome_iff_eq_none]
    exact fun hsome => hkeeps ⟨task,rest,hloop,hterminal,hattempts,hsome⟩
  | fallbackSettles outcome hloop => exact sound_fallbackSettles hs hloop outcome
  | fallbackRested hloop => exact hs.sameTasks (.refl _) (by rw [hloop]; rfl) (by simp)
  | closes hloop => exact sound_closed hs hloop
  | confirmed hconfirmed => exact sound_confirm hs hconfirmed
  | passes => exact ⟨hs.coherent,hs.idle,hs.counts,hs.known,hs.ended,hs.accounted⟩

end Malink.Delivery
