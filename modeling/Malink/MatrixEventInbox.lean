import Malink.CanonicalJson
import Malink.GatewayCommands
import Mathlib.Data.List.Infix

/-!
# The inbox of Matrix events

Every event is stored before the sync cursor passes it, and then completed and forgotten, or quarantined and kept.
-/

namespace Malink.Gateway.Inbox

open Mlp3

structure MatrixIncomingEvent where
  roomId : JsString
  eventId : JsString
  eventType : JsString
  sender : JsString
  senderDeviceId : Option JsString
  encrypted : Bool
  encryptedPayloadFingerprint : Option JsString
  content : Json
  originServerTs : Option ℤ
  deriving DecidableEq

def MatrixIncomingEvent.toJson (event : MatrixIncomingEvent) : Json :=
  Json.ofOptions [ ("roomId",some (.str event.roomId)),
    ("eventId",some (.str event.eventId)),("eventType",some (.str event.eventType)),
    ("sender",some (.str event.sender)),("senderDeviceId",event.senderDeviceId.map .str),
    ("encrypted",some (.bool event.encrypted)),
    ("encryptedPayloadFingerprint",event.encryptedPayloadFingerprint.map .str),("content",some event.content),
    ("originServerTs",event.originServerTs.map .num)]

inductive MatrixEventInboxStatus
  | pending
  | quarantined
  deriving DecidableEq

structure MatrixEventInboxRecord where
  key : JsString
  event : MatrixIncomingEvent
  receivedAt : ℕ
  status : MatrixEventInboxStatus
  error : Option JsString
  deriving DecidableEq

abbrev Records := InsertionMap JsString MatrixEventInboxRecord

inductive InboxError
  | invalidRecord (key : JsString)
  | changed (eventId : JsString)
  | full (maxRecords : ℕ)
  | absent (eventId : JsString)
  /-- `String(error)` has thrown. -/
  | unprintable
  deriving DecidableEq

def InboxError.message : InboxError → JsString
  | invalidRecord key => ("Invalid Matrix event inbox record " : JsString) ++ key
  | changed eventId => ("Matrix event " : JsString) ++ eventId ++ " changed after durable receipt"
  | full maxRecords =>
    ("Matrix event inbox exceeded " : JsString) ++ JsString.ofNat maxRecords ++ " retained records"
  | absent eventId => ("Matrix event " : JsString) ++ eventId ++ " is not in the durable inbox"
  | unprintable => "Cannot convert object to primitive value"

structure Counts where
  pending : ℕ
  quarantined : ℕ
  deriving DecidableEq

def maxQuarantineErrorLength : ℕ := 4096

/-- A reading of the clock. -/
abbrev Timestamp := { n : ℕ // isTimestamp n = true }

variable {event : MatrixIncomingEvent}

section

-- The digest, in hexadecimal digits.
variable (sha256 : JsString → JsString)

def matrixEventInboxKey (event : MatrixIncomingEvent) : JsString :=
  sha256 (("malink-matrix-event-inbox:v1" : JsString) ++ nul ++ event.roomId ++ nul ++ event.eventId)

def isValidRecord (key : JsString) (record : MatrixEventInboxRecord) : Bool :=
  decide (record.key = key) && decide (matrixEventInboxKey sha256 record.event = key) &&
    isTimestamp record.receivedAt

def validateState (records : Records) : Except InboxError Unit :=
  records.entries.forM fun e => refuseIf (isValidRecord sha256 e.1 e.2 = false) (.invalidRecord e.1)

def stage (maxRecords : ℕ) (records : Records) (event : MatrixIncomingEvent) (receivedAt : ℕ) :
    Except InboxError (Bool × Records) := do
  validateState sha256 records
  let key := matrixEventInboxKey sha256 event
  match records.get key with
  | some current =>
    if current.event.toJson.canonicalJson ≠ event.toJson.canonicalJson then .error (.changed event.eventId)
    else .ok (false,records)
  | none =>
    if maxRecords ≤ records.size then .error (.full maxRecords)
    else .ok (true,records.set key { key, event, receivedAt, status := .pending, error := none })

/-- The comparison of two digests agrees with the order of their code units. -/
def receivedBefore (left right : MatrixEventInboxRecord) : Bool :=
  decide (left.receivedAt < right.receivedAt) ||
    (decide (left.receivedAt = right.receivedAt) && decide (left.key ≤ right.key))

def isPending (record : MatrixEventInboxRecord) : Bool := decide (record.status = .pending)

def pending (records : Records) : Except InboxError (List MatrixEventInboxRecord) := do
  validateState sha256 records
  .ok ((records.values.filter isPending).insertionSort (fun left right => receivedBefore left right = true))

def complete (records : Records) (event : MatrixIncomingEvent) : Except InboxError Records := do
  validateState sha256 records
  .ok (records.delete (matrixEventInboxKey sha256 event))

def quarantine (records : Records) (event : MatrixIncomingEvent) (error : Thrown) :
    Except InboxError Records := do
  let key := matrixEventInboxKey sha256 event
  match formatError error with
  | none => .error .unprintable
  | some text =>
    let message := text.take maxQuarantineErrorLength
    validateState sha256 records
    match records.get key with
    | none => .error (.absent event.eventId)
    | some record =>
      if record.status = .quarantined ∧ record.error = some message then .ok records
      else .ok (records.set key { record with status := .quarantined, error := some message })

def countOf (records : Records) : Counts where
  pending := (records.values.filter isPending).length
  quarantined := (records.values.filter (fun record => !isPending record)).length

def counts (records : Records) : Except InboxError Counts := do
  validateState sha256 records
  .ok (countOf records)

inductive Operation
  | stage (event : MatrixIncomingEvent) (receivedAt : Timestamp)
  | complete (event : MatrixIncomingEvent)
  | quarantine (event : MatrixIncomingEvent) (error : Thrown)

def perform (maxRecords : ℕ) (records : Records) : Operation → Except InboxError Records
  | .stage event receivedAt => (stage sha256 maxRecords records event receivedAt.1).map Prod.snd
  | .complete event => complete sha256 records event
  | .quarantine event error => quarantine sha256 records event error

def next (maxRecords : ℕ) (records : Records) (operation : Operation) : Records :=
  match perform sha256 maxRecords records operation with
  | .ok records' => records'
  | .error _ => records

def after (maxRecords : ℕ) (operations : List Operation) : Records :=
  operations.foldl (next sha256 maxRecords) .empty

/-- No record of the event is retained. -/
def IsNew (records : Records) (event : MatrixIncomingEvent) : Prop :=
  records.get (matrixEventInboxKey sha256 event) = none

instance (records : Records) (event : MatrixIncomingEvent) : Decidable (IsNew sha256 records event) :=
  inferInstanceAs (Decidable (_ = none))

def PendingStaysBelow (maxRecords : ℕ) (operations : List Operation) : Prop :=
  ∀ before rest, operations = before ++ rest → (countOf (after sha256 maxRecords before)).pending < maxRecords

def StagesEveryNewEvent (maxRecords : ℕ) (operations : List Operation) : Prop :=
  ∀ before event receivedAt rest, operations = before ++ .stage event receivedAt :: rest →
    IsNew sha256 (after sha256 maxRecords before) event →
      ∃ records, stage sha256 maxRecords (after sha256 maxRecords before) event receivedAt.1 = .ok (true,records)

/-- Every new event finds fewer retained records than the bound, pending and quarantined ones together. -/
def LeavesRoom (maxRecords : ℕ) (operations : List Operation) : Prop :=
  ∀ before event receivedAt rest, operations = before ++ .stage event receivedAt :: rest →
    IsNew sha256 (after sha256 maxRecords before) event →
      (countOf (after sha256 maxRecords before)).pending +
        (countOf (after sha256 maxRecords before)).quarantined < maxRecords

def Valid (records : Records) : Prop := ∀ key record, records.get key = some record → isValidRecord sha256 key record

variable {sha256 : JsString → JsString} {records records' : Records}

theorem validateState_eq_ok : validateState sha256 records = .ok () ↔ Valid sha256 records := by
  unfold validateState
  rw [forM_eq_ok]
  constructor
  · intro h key record hr
    have hentry := h (key,record) (InsertionMap.get_eq_some.mp hr)
    rw [refuseIf_eq_ok] at hentry
    simpa using hentry
  · intro h e he
    rw [refuseIf_eq_ok]
    simp [h e.1 e.2 (InsertionMap.get_eq_some.mpr he)]

theorem Valid.validate (h : Valid sha256 records) : validateState sha256 records = .ok () := validateState_eq_ok.mpr h

theorem Valid.set (h : Valid sha256 records) {key : JsString} {record : MatrixEventInboxRecord}
    (hr : isValidRecord sha256 key record) : Valid sha256 (records.set key record) := by
  intro key' record' hget
  rw [InsertionMap.get_set] at hget
  split at hget
  · next heq =>
    cases hget
    rw [heq]
    exact hr
  · exact h key' record' hget

theorem Valid.delete (h : Valid sha256 records) (key : JsString) : Valid sha256 (records.delete key) := by
  intro key' record' hget
  rw [InsertionMap.get_delete] at hget
  split at hget
  · cases hget
  · exact h key' record' hget

/-- What a stage does: it knows the event, or it adds a pending record while there is room. -/
theorem stage_cases {maxRecords receivedAt : ℕ} {staged : Bool}
    (h : stage sha256 maxRecords records event receivedAt = .ok (staged,records')) :
    (staged = false ∧ records' = records) ∨
      (staged ∧ IsNew sha256 records event ∧ records.size < maxRecords ∧
        records' = records.set (matrixEventInboxKey sha256 event)
          { key := matrixEventInboxKey sha256 event, event, receivedAt, status := .pending, error := none }) := by
  unfold stage at h
  obtain ⟨_,_,h⟩ := bind_eq_ok.mp h
  cases hget : records.get (matrixEventInboxKey sha256 event) with
  | some current =>
    simp only [hget] at h
    split at h
    · cases h
    · cases h
      exact .inl ⟨rfl,rfl⟩
  | none =>
    simp only [hget] at h
    split at h
    · cases h
    · next hroom =>
      cases h
      exact .inr ⟨rfl,hget,Nat.lt_of_not_le hroom,rfl⟩

/-- What a quarantine does: one retained record changes its status and its error. -/
theorem quarantine_cases {error : Thrown} (h : quarantine sha256 records event error = .ok records') :
    records' = records ∨ ∃ record message, records.get (matrixEventInboxKey sha256 event) = some record ∧
      records' = records.set (matrixEventInboxKey sha256 event)
        { record with status := .quarantined, error := some message } := by
  unfold quarantine at h
  cases htext : formatError error with
  | none =>
    simp only [htext] at h
    cases h
  | some text =>
    simp only [htext] at h
    obtain ⟨_,_,h⟩ := bind_eq_ok.mp h
    cases hget : records.get (matrixEventInboxKey sha256 event) with
    | none =>
      simp only [hget] at h
      cases h
    | some record =>
      simp only [hget] at h
      split at h
      · cases h
        exact .inl rfl
      · cases h
        exact .inr ⟨record,_,rfl,rfl⟩

theorem valid_perform {maxRecords : ℕ} {operation : Operation} (hv : Valid sha256 records)
    (h : perform sha256 maxRecords records operation = .ok records') : Valid sha256 records' := by
  cases operation with
  | stage event receivedAt =>
    cases hs : stage sha256 maxRecords records event receivedAt.1 with
    | error e =>
      simp only [perform,hs] at h
      cases h
    | ok result =>
      obtain ⟨staged,stored⟩ := result
      simp only [perform,hs] at h
      cases h
      rcases stage_cases hs with ⟨-,rfl⟩ | ⟨-,-,-,rfl⟩
      · exact hv
      · exact hv.set (by simp [isValidRecord,receivedAt.2])
  | complete event =>
    unfold perform complete at h
    obtain ⟨_,_,h⟩ := bind_eq_ok.mp h
    cases h
    exact hv.delete _
  | quarantine event error =>
    rcases quarantine_cases h with rfl | ⟨record,message,hget,rfl⟩
    · exact hv
    · have hr : isValidRecord sha256 (matrixEventInboxKey sha256 event) record := hv _ _ hget
      exact hv.set hr

variable (maxRecords : ℕ)

theorem valid_next (operation : Operation) (hv : Valid sha256 records) :
    Valid sha256 (next sha256 maxRecords records operation) := by
  unfold next
  split
  · next h => exact valid_perform hv h
  · exact hv

theorem valid_foldl (operations : List Operation) (hv : Valid sha256 records) :
    Valid sha256 (operations.foldl (next sha256 maxRecords) records) := by
  induction operations generalizing records with
  | nil => exact hv
  | cons operation operations ih => exact ih (valid_next maxRecords operation hv)

/-- No call finds a file that it refuses to read. -/
theorem valid_after (operations : List Operation) : Valid sha256 (after sha256 maxRecords operations) :=
  valid_foldl maxRecords operations (fun _ _ h => by cases h)

theorem size_eq_counts (records : Records) :
    records.size = (countOf records).pending + (countOf records).quarantined := by
  have hlength := List.length_eq_length_filter_add (l := records.values) isPending
  rw [InsertionMap.size,← List.length_map (f := Prod.snd)]
  exact hlength

theorem stage_of_isNew (hv : Valid sha256 records) (hn : IsNew sha256 records event) (maxRecords receivedAt : ℕ) :
    (∃ stored,stage sha256 maxRecords records event receivedAt = .ok (true,stored)) ↔
      (countOf records).pending + (countOf records).quarantined < maxRecords := by
  rw [← size_eq_counts]
  constructor
  · rintro ⟨stored,h⟩
    rcases stage_cases h with ⟨hfalse,-⟩ | ⟨-,-,hroom,-⟩
    · cases hfalse
    · exact hroom
  · intro hroom
    unfold IsNew at hn
    unfold stage
    simp only [hv.validate,ok_bind,hn,if_neg (Nat.not_le.mpr hroom)]
    exact ⟨_,rfl⟩

/-- The inbox takes every new event of a run exactly when each finds room beside the quarantined records. -/
theorem stagesEveryNewEvent_iff_leavesRoom (sha256 : JsString → JsString) (maxRecords : ℕ)
    (operations : List Operation) :
    StagesEveryNewEvent sha256 maxRecords operations ↔ LeavesRoom sha256 maxRecords operations := by
  constructor
  · intro h before event receivedAt rest heq hnew
    exact (stage_of_isNew (valid_after maxRecords before) hnew maxRecords receivedAt.1).mp
      (h before event receivedAt rest heq hnew)
  · intro h before event receivedAt rest heq hnew
    exact (stage_of_isNew (valid_after maxRecords before) hnew maxRecords receivedAt.1).mpr
      (h before event receivedAt rest heq hnew)

/-- The event of a record is stored as it was received. -/
def Retains (records : Records) (record : MatrixEventInboxRecord) : Prop :=
  ∃ kept, records.get record.key = some kept ∧ kept.event = record.event ∧ kept.receivedAt = record.receivedAt

/-- A stored event is retained, through every refusal and quarantine, until it is completed. -/
theorem stored_retained {maxRecords : ℕ} {operations later : List Operation} {record : MatrixEventInboxRecord}
    (h : Retains (after sha256 maxRecords operations) record)
    (hl : ∀ event,.complete event ∈ later → matrixEventInboxKey sha256 event ≠ record.key) :
    Retains (after sha256 maxRecords (operations ++ later)) record := by
  rw [after,List.foldl_append]
  refine List.foldlRecOn (motive := (Retains · record)) later _ h fun records ⟨kept,hget,hkept⟩ operation hmem => ?_
  unfold next
  split
  · next after hok =>
    cases operation with
    | stage event receivedAt =>
      cases hstage : stage sha256 maxRecords records event receivedAt.1 with
      | error e => simp [perform,hstage,Except.map] at hok
      | ok result =>
        simp only [perform,hstage,Except.map,Except.ok.injEq] at hok
        obtain ⟨-,heq⟩ | ⟨-,hnew,-,heq⟩ := stage_cases hstage
        · exact ⟨kept,by rw [← hok,heq,hget],hkept⟩
        · refine ⟨kept,?_,hkept⟩
          rw [← hok,heq,InsertionMap.get_set_of_ne,hget]
          intro hkey
          rw [hkey,show records.get _ = none from hnew] at hget
          cases hget
    | complete event =>
      obtain ⟨_,-,heq⟩ := bind_eq_ok.mp hok
      cases heq
      exact ⟨kept,by rw [InsertionMap.get_delete,if_neg (hl event hmem).symm,hget],hkept⟩
    | quarantine event error =>
      obtain rfl | ⟨current,message,hcurrent,rfl⟩ := quarantine_cases hok
      · exact ⟨kept,hget,hkept⟩
      · rw [Retains,InsertionMap.get_set]
        split
        · next heq =>
          rw [← heq,hget] at hcurrent
          cases hcurrent
          exact ⟨_,rfl,hkept⟩
        · exact ⟨kept,hget,hkept⟩
  · exact ⟨kept,hget,hkept⟩

end

def sampleEvent (eventId : JsString) : MatrixIncomingEvent where
  roomId := "!project:home"
  eventId
  eventType := "m.room.message"
  sender := "@phone:home"
  senderDeviceId := none
  encrypted := false
  encryptedPayloadFingerprint := none
  content := .obj []
  originServerTs := none

def sampleSha256 (text : JsString) : JsString :=
  let key : JsString := ("malink-matrix-event-inbox:v1" : JsString) ++ nul ++ "!project:home" ++ nul
  if text = key ++ "$poison-1" then "99cd01679c886e26ab73655ab27f0296e21365e760bb155a99a1c38a3ffd8530"
  else if text = key ++ "$poison-2" then "2eb8566a81a66f8deb6a68ee560b9991edbcb78610d7c2e4d20dffcd011e09d5"
  else "80b4370f8aca83f48bb9047ffe4359d3e3c0c2cdb4e2f8c4c76d9922b4f46038"

def sampleTime : Timestamp := ⟨1000,by decide⟩

def poisonRun : List Operation := [ .stage (sampleEvent "$poison-1") sampleTime,
  .quarantine (sampleEvent "$poison-1") (plainError "Malformed event"),.stage (sampleEvent "$poison-2") sampleTime,
  .quarantine (sampleEvent "$poison-2") (plainError "Malformed event"),.stage (sampleEvent "$later") sampleTime]

theorem stored_retained_poison : Retains (after sampleSha256 2 (poisonRun.take 1 ++ poisonRun.drop 1))
    ⟨matrixEventInboxKey sampleSha256 (sampleEvent "$poison-1"),sampleEvent "$poison-1",1000,.pending,none⟩ :=
  stored_retained ⟨_,by decide,rfl,rfl⟩ (by simp [poisonRun])

/-- Nothing is pending any more, and the next event is refused. -/
theorem quarantined_records_refuse_a_new_event :
    PendingStaysBelow sampleSha256 2 poisonRun ∧ ¬ StagesEveryNewEvent sampleSha256 2 poisonRun := by
  constructor
  · intro before rest heq
    have hall : ∀ before ∈ poisonRun.inits,(countOf (after sampleSha256 2 before)).pending < 2 := by decide
    exact hall before ((List.mem_inits _ _).mpr ⟨rest,heq.symm⟩)
  · intro h
    obtain ⟨records,hstage⟩ := h (poisonRun.take 4) (sampleEvent "$later") sampleTime [] rfl (by decide)
    have hfull : stage sampleSha256 2 (after sampleSha256 2 (poisonRun.take 4)) (sampleEvent "$later")
        sampleTime.1 = .error (.full 2) := by decide
    rw [hfull] at hstage
    cases hstage

end Malink.Gateway.Inbox
