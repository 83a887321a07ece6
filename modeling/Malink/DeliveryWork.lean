import Malink.DeliveryOutbox
import Mathlib.Algebra.BigOperators.Group.List.Basic
import Mathlib.Algebra.GroupWithZero.Nat
import Mathlib.Data.List.Perm.Basic

/-!
# The work that an outbox has left

Every step of a lane or of the edit loop lowers a measure: the attempts that are left are counted, and a rate-limited
edit that is put back has one attempt less.
-/

namespace Malink.Delivery

open Attempt Option

variable (config : DeliveryOutboxConfig)

def Attempt.work (attempt : Attempt) : ℕ :=
  2 * (config.maxRateLimitRetries - attempt.attempt + (config.maxNetworkRetries - attempt.networkAttempts)) +
    if attempt.resting then 2 else 1

def fullWork : ℕ := 2 * (config.maxRateLimitRetries + config.maxNetworkRetries) + 1

def Phase.work : Phase → ℕ
  | .waiting => 2 * fullWork config + 2
  | .direct attempt => fullWork config + attempt.work config + 1
  | .fallback attempt => attempt.work config + 1
  | .ended => 1

def Lane.work (lane : Lane) : ℕ := (lane.jobs.map fun job => job.phase.work config).sum

def ProgressiveEditTask.work (task : ProgressiveEditTask) : ℕ :=
  20 * (config.maxRateLimitRetries - task.attempts) + fullWork config + 12

def tasksWork (tasks : List ProgressiveEditTask) : ℕ := (tasks.map (·.work config)).sum

/-- What the loop does before it takes tasks again, and the tasks that it has taken. -/
def EditLoop.work (waiting : Bool) : EditLoop → ℕ
  | .idle => 0
  | .debouncing => 6
  | .woken terminalWake => if terminalWake then 8 else 5
  | .blocked terminalWake => if terminalWake then 7 else 4
  | .editing task rest => task.work config + tasksWork config rest
  | .sendingFallback _ attempt rest => attempt.work config + 10 + tasksWork config rest
  | .closing => if waiting then 9 else 1

def DeliveryOutbox.editsWork (outbox : DeliveryOutbox) : ℕ :=
  tasksWork config outbox.progressiveEdits.values +
    outbox.progressiveEditLoop.work config (outbox.progressiveEdits.size ≠ 0)

def DeliveryOutbox.work (outbox : DeliveryOutbox) : ℕ :=
  outbox.control.work config + outbox.normal.work config + outbox.editsWork config

variable {config}

theorem Attempt.work_pos (attempt : Attempt) : 0 < attempt.work config := by
  rw [work]
  split
  · omega
  · omega

theorem Attempt.work_first (call : PortCall) : (first call).work config = fullWork config := rfl

variable {attempt : Attempt} {records records' : List DeliveryRecord}
  {change : DeliveryRecord → DeliveryRecord}

theorem Attempt.work_afterError {attempt' : Attempt} {error : DeliveryError}
    (hresting : attempt.resting = false) (h : attempt.afterError config error = some attempt') :
    attempt'.work config < attempt.work config := by
  cases error with
  | deferred confirmation => cases h
  | rejected message retryAfterMs network =>
    rw [afterError] at h
    split at h
    case isTrue hretry =>
      split at h
      case isTrue hnetwork =>
        rw [← some.inj h,work,work,hresting]
        simp only [if_true,Bool.false_eq_true,if_false]
        omega
      case isFalse => cases h
    case isFalse hretry =>
      obtain ⟨-,hless⟩ := not_or.mp hretry
      have hless' : attempt.attempt < config.maxRateLimitRetries := Nat.lt_of_not_le hless
      rw [← some.inj h,work,work,hresting]
      simp only [if_true,Bool.false_eq_true,if_false]
      omega

theorem Attempt.work_rest (hresting : attempt.resting) :
    ({ attempt with resting := false } : Attempt).work config < attempt.work config := by
  rw [work,work,hresting]
  simp only [if_true,Bool.false_eq_true,if_false]
  omega

theorem ProgressiveEditTask.le_work (task : ProgressiveEditTask) : fullWork config + 12 ≤ task.work config := by
  rw [ProgressiveEditTask.work]
  omega

/-- No promise resolves, and no delivery becomes pending again. -/
def Kept (records records' : List DeliveryRecord) : Prop :=
  List.Forall₂ (fun record record' => record'.settled = record.settled ∧
    (record.status ≠ .pending → record'.status ≠ .pending)) records records'

theorem Kept.refl (records : List DeliveryRecord) : Kept records records :=
  List.forall₂_same.mpr fun _ _ => ⟨rfl,id⟩

variable {records'' : List DeliveryRecord}

theorem Kept.trans (h : Kept records records') (h' : Kept records' records'') : Kept records records'' := by
  refine List.forall₂_iff_get.mpr ⟨h.length_eq.trans h'.length_eq,fun i hi hi'' => ?_⟩
  have hi' : i < records'.length := h.length_eq ▸ hi
  obtain ⟨hsettled,hstatus⟩ := (List.forall₂_iff_get.mp h).2 i hi hi'
  obtain ⟨hsettled',hstatus'⟩ := (List.forall₂_iff_get.mp h').2 i hi' hi''
  exact ⟨hsettled'.trans hsettled,fun hne => hstatus' (hstatus hne)⟩

theorem kept_modify (records : List DeliveryRecord) (id : ℕ) (h : ∀ record,(change record).settled = record.settled ∧
      (record.status ≠ .pending → (change record).status ≠ .pending)) : Kept records (records.modify id change) := by
  refine List.forall₂_iff_get.mpr ⟨(List.length_modify _ _ _).symm,fun i hi hi' => ?_⟩
  rw [List.get_eq_getElem,List.get_eq_getElem,List.getElem_modify]
  split
  · exact h _
  · exact ⟨rfl,fun hne => hne⟩

variable (id : ℕ)

theorem kept_resolveOriginal (retryOf : Option ℕ) (records : List DeliveryRecord) :
    Kept records (resolveOriginal id retryOf records) := by
  cases retryOf with
  | none => exact .refl records
  | some original =>
    refine kept_modify records original fun record => ?_
    split
    · exact ⟨rfl,fun hne => hne⟩
    · exact ⟨rfl,fun hne => hne⟩

theorem Kept.getElem? (h : Kept records records') {id : ℕ}
    {record' : DeliveryRecord} (hrecord' : records'[id]? = some record') :
    ∃ record, records[id]? = some record ∧ record'.settled = record.settled ∧
      (record.status ≠ .pending → record'.status ≠ .pending) := by
  obtain ⟨hid',rfl⟩ := List.getElem?_eq_some_iff.mp hrecord'
  have hid : id < records.length := h.length_eq ▸ hid'
  exact ⟨records[id],List.getElem?_eq_getElem hid,(List.forall₂_iff_get.mp h).2 id hid hid'⟩

def Completed (records : List DeliveryRecord) (id : ℕ) : Prop :=
  ∀ record, records[id]? = some record → record.status ≠ .pending

theorem Completed.kept {id : ℕ} (h : Completed records id) (hkept : Kept records records') : Completed records' id := by
  intro record' hrecord'
  obtain ⟨record,hrecord,-,hstatus⟩ := hkept.getElem? hrecord'
  exact hstatus (h record hrecord)

theorem completed_modify (records : List DeliveryRecord) (id : ℕ)
    (h : ∀ record,(change record).status ≠ .pending) : Completed (records.modify id change) id := by
  intro record hrecord
  rw [List.getElem?_modify_eq] at hrecord
  obtain ⟨before,-,rfl⟩ := map_eq_some_iff.mp hrecord
  exact h before

/-- A change after which the delivery is no longer pending, and which resolves no promise. -/
def Completes (change : DeliveryRecord → DeliveryRecord) : Prop :=
  ∀ record, (change record).settled = record.settled ∧ (change record).status ≠ .pending

theorem completes_fail (error : DeliveryError) : Completes (.fail error) := fun _ => ⟨rfl,by simp [DeliveryRecord.fail]⟩

theorem completes_succeed {status : DeliveryStatus} (h : status ≠ .pending) : Completes (.succeed status) :=
  fun _ => ⟨rfl,h⟩

theorem completes_skip (reason : SkippedReason) : Completes (.skip reason) := fun _ => ⟨rfl,by simp [DeliveryRecord.skip]⟩

theorem completes_catchError (success : Confirmation) (error : DeliveryError) :
    Completes (.catchError success (.fail error) error) := by
  cases error with
  | deferred confirmation => exact fun _ => ⟨rfl,by simp [DeliveryRecord.catchError]⟩
  | rejected message retryAfterMs network => exact completes_fail _

theorem Completes.kept (h : Completes change)
    (records : List DeliveryRecord) (id : ℕ) : Kept records (records.modify id change) :=
  kept_modify records id fun record => ⟨(h record).1,fun _ => (h record).2⟩

theorem Completes.completed (h : Completes change)
    (records : List DeliveryRecord) (id : ℕ) : Completed (records.modify id change) id :=
  completed_modify records id fun record => (h record).2

/-- Whether the promise has resolved, and the confirmation that is awaited. -/
def DeliveryRecord.flags (record : DeliveryRecord) : Bool × Option Confirmation := (record.settled,record.confirmation)

def SameBut (id : ℕ) (records records' : List DeliveryRecord) : Prop :=
  ∀ other ≠ id, (records'[other]?).map DeliveryRecord.flags = (records[other]?).map DeliveryRecord.flags

theorem SameBut.refl (records : List DeliveryRecord) : SameBut id records records := fun _ _ => rfl

theorem SameBut.trans {id : ℕ} (h : SameBut id records records') (h' : SameBut id records' records'') :
    SameBut id records records'' :=
  fun other hother => (h' other hother).trans (h other hother)

theorem sameBut_modify (records : List DeliveryRecord) (id : ℕ) (change : DeliveryRecord → DeliveryRecord) :
    SameBut id records (records.modify id change) := by
  intro other hother
  rw [List.getElem?_modify_ne change records hother.symm]

theorem flags_resolveOriginal (retryOf : Option ℕ) (records : List DeliveryRecord) (other : ℕ) :
    ((resolveOriginal id retryOf records)[other]?).map DeliveryRecord.flags =
      (records[other]?).map DeliveryRecord.flags := by
  cases retryOf with
  | none => rfl
  | some original =>
    rw [resolveOriginal,List.getElem?_modify]
    cases records[other]? with
    | none => rfl
    | some record =>
      rw [map_eq_map,map_some,map_some,map_some]
      refine congrArg some ?_
      split
      · split
        · rfl
        · rfl
      · rfl

theorem sameBut_resolveOriginal (retryOf : Option ℕ) (records : List DeliveryRecord) :
    SameBut id records (resolveOriginal id retryOf records) :=
      fun other _ => flags_resolveOriginal id retryOf records other

structure JobStep (config : DeliveryOutboxConfig) (job : Job) (records : List DeliveryRecord)
    (stepped : List DeliveryRecord × Phase) : Prop where
  work : stepped.2.work config < job.phase.work config
  kept : Kept records stepped.1
  completed : stepped.2 = .ended → Completed stepped.1 job.record
  others : SameBut job.record records stepped.1

variable {job : Job}

theorem jobStep_unchanged {phase : Phase}
    (hwork : phase.work config < job.phase.work config) (hphase : phase ≠ .ended) :
    JobStep config job records (records,phase) :=
  ⟨hwork,.refl records,fun h => absurd h hphase,.refl job.record records⟩

theorem Phase.ended_work (h : job.phase ≠ .ended) : Phase.ended.work config < job.phase.work config := by
  cases hphase : job.phase with
  | ended => exact absurd hphase h
  | waiting | direct | fallback =>
    rw [Phase.work,Phase.work]
    have hpos (attempt : Attempt) : 0 < attempt.work config := attempt.work_pos
    grind

theorem Completes.jobStep (h : Completes change) (hphase : job.phase ≠ .ended) (records : List DeliveryRecord) :
    JobStep config job records (records.modify job.record change,.ended) :=
  ⟨Phase.ended_work hphase,h.kept records job.record,fun _ => h.completed records job.record,
    sameBut_modify records job.record change⟩

theorem Job.start_step (h : job.phase = .waiting) (resolved : Except DeliveryError (Option MessageId))
    (record : DeliveryRecord) (records : List DeliveryRecord) :
    JobStep config job records (job.start config resolved record records) := by
  have hdirect (call : PortCall) : (Phase.direct (.first call)).work config < job.phase.work config := by
    rw [h,Phase.work,Phase.work,work_first]
    omega
  have hfallback (call : PortCall) : (Phase.fallback (.first call)).work config < job.phase.work config := by
    rw [h,Phase.work,Phase.work,work_first]
    omega
  have hphase : job.phase ≠ .ended := by
    rw [h]
    decide
  obtain ⟨id,operation,phase⟩ := job
  cases operation with
  | send | edit => exact jobStep_unchanged (hdirect _) (by simp)
  | editDeferred fallbackToSend =>
    cases resolved with
    | error error => exact (completes_fail error).jobStep hphase records
    | ok messageId =>
      dsimp only [Job.start]
      split
      case h_1 =>
        cases fallbackToSend with
        | true => exact jobStep_unchanged (hfallback _) (by simp)
        | false => exact (completes_skip .missingMessageId).jobStep hphase records
      case h_2 =>
        exact ⟨hdirect _,kept_modify records id fun _ => ⟨rfl,fun hne => hne⟩,fun hended => by simp at hended,
          sameBut_modify records id _⟩

theorem Job.catchError_step (h : job.phase = .direct attempt) (error : DeliveryError)
    (record : DeliveryRecord) (records : List DeliveryRecord) :
    JobStep config job records (job.catchError error record records) := by
  have hphase : job.phase ≠ .ended := by
    rw [h]
    simp
  have hfallback (call : PortCall) : (Phase.fallback (.first call)).work config < job.phase.work config := by
    have hpos : 0 < attempt.work config := attempt.work_pos
    rw [h,Phase.work,Phase.work,work_first]
    omega
  unfold Job.catchError
  split
  · exact (completes_catchError _ _).jobStep hphase records
  · exact jobStep_unchanged (hfallback _) (by simp)
  · exact jobStep_unchanged (hfallback _) (by simp)
  · exact (completes_catchError _ _).jobStep hphase records
  · exact (completes_catchError _ _).jobStep hphase records

theorem Job.settle_step {outcome : Outcome} {record : DeliveryRecord}
    {stepped : List DeliveryRecord × Phase} (h : job.settle config outcome record records = some stepped) :
    JobStep config job records stepped := by
  unfold Job.settle at h
  split at h
  case h_3 | h_4 => cases h
  case h_1 attempt hphase =>
    have hended : job.phase ≠ .ended := by
      rw [hphase]
      simp
    split at h
    case isTrue => cases h
    case isFalse hresting =>
      rw [Bool.not_eq_true] at hresting
      split at h
      case h_1 error =>
        split at h
        case h_1 attempt' hafter =>
          have hless := work_afterError hresting hafter
          rw [← some.inj h]
          refine jobStep_unchanged ?_ (by simp)
          rw [hphase,Phase.work,Phase.work]
          omega
        case h_2 =>
          rw [← some.inj h]
          exact Job.catchError_step hphase error record records
      case h_2 messageId thrown =>
        split at h
        case h_1 =>
          have hsent : Completes fun record => { record with status := .sent, messageId := messageId } :=
            fun _ => ⟨rfl,by simp⟩
          have hkept := (hsent.kept records job.record).trans (kept_resolveOriginal job.record record.retryOf _)
          have hothers := (sameBut_modify records job.record _).trans
            (sameBut_resolveOriginal job.record record.retryOf (records.modify job.record fun record =>
              { record with status := .sent, messageId := messageId }))
          split at h
          case h_1 =>
            rw [← some.inj h]
            refine ⟨Phase.ended_work hended,hkept,fun _ => ?_,hothers⟩
            exact (hsent.completed records job.record).kept (kept_resolveOriginal _ _ _)
          case h_2 error =>
            rw [← some.inj h]
            have hcatch : JobStep config job _ _ := Job.catchError_step hphase error record
              (resolveOriginal job.record record.retryOf
                (records.modify job.record fun record => { record with status := .sent, messageId := messageId }))
            exact ⟨hcatch.work,hkept.trans hcatch.kept,hcatch.completed,hothers.trans hcatch.others⟩
        case h_2 | h_3 =>
          rw [← some.inj h]
          exact (completes_succeed (by decide)).jobStep hended records
  case h_2 attempt hphase =>
    have hended : job.phase ≠ .ended := by
      rw [hphase]
      simp
    split at h
    case isTrue => cases h
    case isFalse hresting =>
      rw [Bool.not_eq_true] at hresting
      split at h
      case h_1 error =>
        split at h
        case h_1 attempt' hafter =>
          have hless := work_afterError hresting hafter
          rw [← some.inj h]
          refine jobStep_unchanged ?_ (by simp)
          rw [hphase,Phase.work,Phase.work]
          omega
        case h_2 =>
          rw [← some.inj h]
          exact (completes_catchError _ _).jobStep hended records
      case h_2 messageId thrown =>
        rw [← some.inj h]
        have hsent : Completes fun record => { record with status := .sent, messageId := messageId, error := none } :=
          fun _ => ⟨rfl,by simp⟩
        exact hsent.jobStep hended records

theorem Job.rest_step {phase : Phase} (h : job.rest = some phase) (records : List DeliveryRecord) :
    JobStep config job records (records,phase) := by
  unfold Job.rest at h
  split at h
  case h_1 attempt hphase | h_2 attempt hphase =>
    split at h
    case isTrue hresting =>
      have hless : _ < attempt.work config := work_rest hresting
      rw [← some.inj h]
      refine jobStep_unchanged ?_ (by simp)
      rw [hphase,Phase.work,Phase.work]
      omega
    case isFalse => cases h
  case h_3 | h_4 => cases h

end Malink.Delivery
