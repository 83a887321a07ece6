import Malink.MapUnions
import Malink.MatrixEventInbox

/-!
# Inboxes of two Gateways

A promotion merges the inbox files of the Gateway that is replaced and of its candidate.
-/

namespace Malink.Handoff

open Gateway.Inbox InsertionMap Option

inductive HandoffError
  | conflict (label key : JsString)
  | tooManyEvents
  deriving DecidableEq

def HandoffError.message : HandoffError → JsString
  | conflict label key => ("Gateway handoff " : JsString) ++ label ++ " conflict for " ++ key
  | tooManyEvents => "Merged Gateway inbox exceeds 10000 retained events"

def sameJson {β : Type} (toJson : β → Json) (left right : β) : Bool :=
  decide ((toJson left).canonicalJson = (toJson right).canonicalJson)

def mergeRecords {β : Type} (toJson : β → Json) (label : JsString) (source target : InsertionMap JsString β) :
    Except HandoffError (InsertionMap JsString β) :=
  (InsertionMap.union (sameJson toJson) source target).mapError (.conflict label)

def statusText : MatrixEventInboxStatus → JsString
  | .pending => "pending"
  | .quarantined => "quarantined"

def recordJson (record : MatrixEventInboxRecord) : Json :=
  Json.ofOptions [ ("key",some (.str record.key)),
    ("event",some record.event.toJson),("receivedAt",some (.num record.receivedAt)),
    ("status",some (.str (statusText record.status))),("error",record.error.map .str)]

def maxInboxRecords : ℕ := 10000

def mergeInboxFile (records : Records) : Option Records → Except HandoffError Records
  | none => .ok records
  | some state => mergeRecords recordJson "inbox event" records state

def mergeInboxFiles (files : List (Option Records)) : Except HandoffError Records := do
  let records ← files.foldlM mergeInboxFile .empty
  if maxInboxRecords < records.size then .error .tooManyEvents else .ok records

def eventOf : Operation → MatrixIncomingEvent
  | .stage event _ => event
  | .complete event => event
  | .quarantine event _ => event

def isQuarantine : Operation → Bool
  | .quarantine _ _ => true
  | _ => false

/-- A Gateway handles the events of the rooms that it owns. It only receives the other ones. -/
def Receives (events : MatrixIncomingEvent → Prop) (owns : JsString → Bool) (operations : List Operation) : Prop :=
  ∀ operation ∈ operations, events (eventOf operation) ∧
    (isQuarantine operation → owns (eventOf operation).roomId)

/-- Every event of either file is there once, and pending unless the Gateway that owns its room has quarantined it. -/
structure Merged (ownedBySource : JsString → Bool) (source candidate merged : Records) : Prop where
  has : ∀ key, merged.has key ↔ source.has key ∨ candidate.has key
  event : ∀ key record other, merged.get key = some record →
    source.get key = some other ∨ candidate.get key = some other → record.event = other.event
  status : ∀ key record, merged.get key = some record → (record.status = .quarantined ↔
    ∃ owned,(if ownedBySource record.event.roomId then source else candidate).get key = some owned ∧
      owned.status = .quarantined)

def SameReceipt (record other : MatrixEventInboxRecord) : Prop :=
  record.receivedAt = other.receivedAt ∧ record.status = other.status ∧ record.error = other.error

theorem mapError_eq_ok {ε ε' α : Type} {f : ε → ε'} {x : Except ε α} {a : α} : x.mapError f = .ok a ↔ x = .ok a := by
  cases x with
  | error e =>
    constructor
    · intro h
      cases h
    · intro h
      cases h
  | ok b => exact Iff.of_eq (by rw [Except.mapError,Except.ok.injEq,Except.ok.injEq])

theorem statusText_inj {status other : MatrixEventInboxStatus} (h : statusText status = statusText other) :
    status = other := by
  revert h
  cases status with
  | pending =>
    cases other with
    | pending => exact fun _ => rfl
    | quarantined => decide
  | quarantined =>
    cases other with
    | pending => decide
    | quarantined => exact fun _ => rfl

theorem field_recordJson (record : MatrixEventInboxRecord) :
    (recordJson record).field "receivedAt" = some (.num record.receivedAt) ∧
      (recordJson record).field "status" = some (.str (statusText record.status)) ∧
        (recordJson record).field "error" = record.error.map .str := by
  have hnodup : (([("key",some (.str record.key)),("event",some record.event.toJson),
      ("receivedAt",some (.num record.receivedAt)),("status",some (.str (statusText record.status))),
      ("error",record.error.map .str)] : List (JsString × Option Json)).map Prod.fst).Nodup := by
    simp only [List.map_cons,List.map_nil]
    decide
  refine ⟨?_,?_,?_⟩
  · exact Json.field_ofOptions hnodup (by simp)
  · exact Json.field_ofOptions hnodup (by simp)
  · exact Json.field_ofOptions hnodup (by simp)

theorem sameReceipt_of_sameJson {record other : MatrixEventInboxRecord} (h : sameJson recordJson record other) :
    SameReceipt record other := by
  have hsort := Json.sortKeys_eq_of_canonicalJson (of_decide_eq_true h)
  have hfield (name : JsString) :
      ((recordJson record).field name).map Json.sortKeys = ((recordJson other).field name).map Json.sortKeys := by
    rw [← Json.field_sortKeys,← Json.field_sortKeys,hsort]
  obtain ⟨hreceived,hstatus,herror⟩ := field_recordJson record
  obtain ⟨hreceived',hstatus',herror'⟩ := field_recordJson other
  refine ⟨?_,?_,?_⟩
  · have h := hfield "receivedAt"
    rw [hreceived,hreceived'] at h
    simpa [Json.sortKeys] using h
  · have h := hfield "status"
    rw [hstatus,hstatus'] at h
    refine statusText_inj ?_
    simpa [Json.sortKeys] using h
  · have h := hfield "error"
    rw [herror,herror'] at h
    cases he : record.error with
    | none =>
      cases he' : other.error with
      | none => rfl
      | some text =>
        rw [he,he'] at h
        cases h
    | some text =>
      cases he' : other.error with
      | none =>
        rw [he,he'] at h
        cases h
      | some text' =>
        rw [he,he'] at h
        simpa [Json.sortKeys] using h

section

variable {sha256 : JsString → JsString} {events : MatrixIncomingEvent → Prop} {owns : JsString → Bool}
  {maxRecords : ℕ} {records records' : Records}

/-- The records are of events that were received, under their own keys, and the quarantined ones are of rooms that
the Gateway owns. -/
def KeepsEvents (sha256 : JsString → JsString) (events : MatrixIncomingEvent → Prop) (owns : JsString → Bool)
    (records : Records) : Prop :=
  ∀ key record, records.get key = some record → record.key = key ∧ matrixEventInboxKey sha256 record.event = key ∧
    events record.event ∧ (record.status = .quarantined → owns record.event.roomId)

section

variable (hunique : ∀ e e',events e → events e' → matrixEventInboxKey sha256 e = matrixEventInboxKey sha256 e' → e = e')
include hunique

theorem keepsEvents_perform (h : KeepsEvents sha256 events owns records) {operation : Operation}
    (hevent : events (eventOf operation))
    (howns : isQuarantine operation → owns (eventOf operation).roomId)
    (hperform : perform sha256 maxRecords records operation = .ok records') :
    KeepsEvents sha256 events owns records' := by
  cases operation with
  | stage event receivedAt =>
    cases hs : stage sha256 maxRecords records event receivedAt.1 with
    | error e =>
      simp only [perform,hs] at hperform
      cases hperform
    | ok result =>
      obtain ⟨staged,stored⟩ := result
      simp only [perform,hs] at hperform
      cases hperform
      rcases stage_cases hs with ⟨-,rfl⟩ | ⟨-,-,-,rfl⟩
      · exact h
      · intro key record hget
        rw [get_set] at hget
        split at hget
        · next heq =>
          cases hget
          exact ⟨heq.symm,heq.symm,hevent,fun hc => by cases hc⟩
        · exact h key record hget
  | complete event =>
    unfold perform complete at hperform
    obtain ⟨_,_,hperform⟩ := bind_eq_ok.mp hperform
    cases hperform
    intro key record hget
    rw [get_delete] at hget
    split at hget
    · cases hget
    · exact h key record hget
  | quarantine event error =>
    rcases quarantine_cases hperform with rfl | ⟨current,message,hcurrent,rfl⟩
    · exact h
    · intro key record hget
      rw [get_set] at hget
      split at hget
      · next heq =>
        cases hget
        obtain ⟨hkey,hdigest,hmem,-⟩ := h _ current hcurrent
        have hsame : current.event = event := hunique _ _ hmem hevent hdigest
        rw [heq]
        refine ⟨hkey,hdigest,hmem,fun _ => ?_⟩
        simp only
        rw [hsame]
        exact howns rfl
      · exact h key record hget

theorem keepsEvents_after (maxRecords : ℕ) {operations : List Operation} (h : Receives events owns operations) :
    KeepsEvents sha256 events owns (after sha256 maxRecords operations) := by
  rw [after]
  have hempty : KeepsEvents sha256 events owns .empty := by
    intro key record hget
    cases hget
  generalize (InsertionMap.empty : Records) = records at hempty ⊢
  induction operations generalizing records with
  | nil => exact hempty
  | cons operation operations ih =>
    obtain ⟨hevent,howns⟩ := h operation List.mem_cons_self
    rw [List.foldl_cons]
    refine ih (fun other hother => h other (List.mem_cons_of_mem _ hother)) _ ?_
    rw [next]
    split
    · next hperform => exact keepsEvents_perform hunique hempty hevent howns hperform
    · exact hempty

end

end

variable {source candidate merged : Records}

theorem mergeInboxFiles_eq_ok : mergeInboxFiles [some source,some candidate] = .ok merged ↔
    InsertionMap.union (sameJson recordJson) source candidate = .ok merged ∧ merged.size ≤ maxInboxRecords := by
  have hfirst : mergeInboxFile .empty (some source) = .ok source := rfl
  rw [mergeInboxFiles,List.foldlM_cons,hfirst,ok_bind,List.foldlM_cons,bind_eq_ok]
  constructor
  · rintro ⟨records,hrecords,hsize⟩
    obtain ⟨next,hnext,hlast⟩ := bind_eq_ok.mp hrecords
    obtain rfl := Except.ok.inj hlast
    split at hsize
    · cases hsize
    · next hle =>
      obtain rfl := Except.ok.inj hsize
      exact ⟨mapError_eq_ok.mp hnext,Nat.not_lt.mp hle⟩
  · rintro ⟨hunion,hle⟩
    refine ⟨merged,bind_eq_ok.mpr ⟨merged,mapError_eq_ok.mpr hunion,rfl⟩,?_⟩
    rw [if_neg (Nat.not_lt.mpr hle)]

/-- Both files were received from the same events, by the Gateway that is replaced and by its candidate. -/
theorem merged_of_union {sha256 : JsString → JsString} {events : MatrixIncomingEvent → Prop}
    {ownedBySource : JsString → Bool}
    (hunique : ∀ e e',events e → events e' → matrixEventInboxKey sha256 e = matrixEventInboxKey sha256 e' → e = e')
    (hsource : KeepsEvents sha256 events ownedBySource source)
    (hcandidate : KeepsEvents sha256 events (fun roomId => !ownedBySource roomId) candidate)
    (hsame : ∀ key record other,source.get key = some record → candidate.get key = some other →
      SameReceipt record other) (hunion : InsertionMap.union (sameJson recordJson) source candidate = .ok merged) :
    Merged ownedBySource source candidate merged where
  has := by
    intro key
    rw [has,get_of_union hunion,isSome_or,Bool.or_eq_true,or_comm]
    rfl
  event := by
    intro key record other hget hother
    rw [get_of_union hunion] at hget
    have hrecord : matrixEventInboxKey sha256 record.event = key ∧ events record.event := by
      cases hc : candidate.get key with
      | some found =>
        rw [hc] at hget
        obtain rfl := some.inj hget
        exact ⟨(hcandidate key _ hc).2.1,(hcandidate key _ hc).2.2.1⟩
      | none =>
        rw [hc,none_or] at hget
        exact ⟨(hsource key _ hget).2.1,(hsource key _ hget).2.2.1⟩
    have hother' : matrixEventInboxKey sha256 other.event = key ∧ events other.event := by
      rcases hother with hother | hother
      · exact ⟨(hsource key _ hother).2.1,(hsource key _ hother).2.2.1⟩
      · exact ⟨(hcandidate key _ hother).2.1,(hcandidate key _ hother).2.2.1⟩
    exact hunique _ _ hrecord.2 hother'.2 (hrecord.1.trans hother'.1.symm)
  status := by
    intro key record hget
    rw [get_of_union hunion] at hget
    cases hc : candidate.get key with
    | none =>
      rw [hc,none_or] at hget
      constructor
      · intro hquarantined
        rw [if_pos ((hsource key record hget).2.2.2 hquarantined)]
        exact ⟨record,hget,hquarantined⟩
      · rintro ⟨owned,howned,hquarantined⟩
        split at howned
        · rw [hget] at howned
          obtain rfl := some.inj howned
          exact hquarantined
        · rw [hc] at howned
          cases howned
    | some found =>
      rw [hc] at hget
      obtain rfl := some.inj hget
      cases hs : source.get key with
      | none =>
        constructor
        · intro hquarantined
          have hnot := (hcandidate key _ hc).2.2.2 hquarantined
          rw [if_neg (by simpa using hnot)]
          exact ⟨_,hc,hquarantined⟩
        · rintro ⟨owned,howned,hquarantined⟩
          split at howned
          · rw [hs] at howned
            cases howned
          · rw [hc] at howned
            obtain rfl := some.inj howned
            exact hquarantined
      | some other =>
        -- Both files have the event, with one status.
        have hstatus := (hsame key other _ hs hc).2.1
        constructor
        · intro hquarantined
          split
          · exact ⟨other,hs,hstatus.trans hquarantined⟩
          · exact ⟨_,hc,hquarantined⟩
        · rintro ⟨owned,howned,hquarantined⟩
          split at howned
          · rw [hs] at howned
            obtain rfl := some.inj howned
            exact hstatus.symm.trans hquarantined
          · rw [hc] at howned
            obtain rfl := some.inj howned
            exact hquarantined

/-- The merge of the files of two Gateways that receive the same events succeeds exactly when every event that is in
both files has the same receipt in both, and there is room for all events. -/
theorem mergeInboxFiles_iff (sha256 : JsString → JsString) (events : MatrixIncomingEvent → Prop)
    (hunique : ∀ e e',events e → events e' → matrixEventInboxKey sha256 e = matrixEventInboxKey sha256 e' → e = e')
    (ownedBySource : JsString → Bool) (maxRecords : ℕ) (sourceRun candidateRun : List Operation)
    (hsource : Receives events ownedBySource sourceRun)
    (hcandidate : Receives events (fun roomId => !ownedBySource roomId) candidateRun) :
    (∃ merged,mergeInboxFiles [some (after sha256 maxRecords sourceRun),some (after sha256 maxRecords candidateRun)] =
        .ok merged ∧
      Merged ownedBySource (after sha256 maxRecords sourceRun) (after sha256 maxRecords candidateRun) merged) ↔
    (∀ key record other,(after sha256 maxRecords sourceRun).get key = some record →
      (after sha256 maxRecords candidateRun).get key = some other → SameReceipt record other) ∧
    (unionKeys (after sha256 maxRecords sourceRun) (after sha256 maxRecords candidateRun)).length ≤
      maxInboxRecords := by
  have hkeeps := keepsEvents_after hunique maxRecords hsource
  have hkeeps' := keepsEvents_after hunique maxRecords hcandidate
  constructor
  · rintro ⟨merged,hmerge,-⟩
    obtain ⟨hunion,hsize⟩ := mergeInboxFiles_eq_ok.mp hmerge
    refine ⟨?_,?_⟩
    · intro key record other hrecord hother
      have hsame := sameReceipt_of_sameJson ((union_eq_ok.mp hunion).1 key record other hrecord hother)
      exact ⟨hsame.1.symm,hsame.2.1.symm,hsame.2.2.symm⟩
    · rw [← size_of_union hunion]
      exact hsize
  · rintro ⟨hsame,hsize⟩
    have hagree : InsertionMap.Agree (sameJson recordJson) (after sha256 maxRecords sourceRun)
        (after sha256 maxRecords candidateRun) := by
      intro key record other hrecord hother
      obtain ⟨hkey,hdigest,hevent,-⟩ := hkeeps key record hrecord
      obtain ⟨hkey',hdigest',hevent',-⟩ := hkeeps' key other hother
      have heq : record = other := by
        obtain ⟨hreceived,hstatus,herror⟩ := hsame key record other hrecord hother
        have hevents := hunique _ _ hevent hevent' (hdigest.trans hdigest'.symm)
        cases record
        cases other
        simp only [MatrixEventInboxRecord.mk.injEq]
        exact ⟨hkey.trans hkey'.symm,hevents,hreceived,hstatus,herror⟩
      rw [heq]
      exact decide_eq_true rfl
    obtain ⟨merged,hunion⟩ := exists_union hagree
    refine ⟨merged,mergeInboxFiles_eq_ok.mpr ⟨hunion,?_⟩,merged_of_union hunique hkeeps hkeeps' hsame hunion⟩
    rw [size_of_union hunion]
    exact hsize

def sampleStaged (receivedAt : Timestamp) : List Operation := [.stage (sampleEvent "$shared") receivedAt]

theorem isTimestamp_later : Mlp3.isTimestamp 1001 := by decide

def sampleLater : Timestamp := ⟨1001,isTimestamp_later⟩

theorem receives_sampleStaged (owns : JsString → Bool) (receivedAt : Timestamp) :
    Receives (fun event => event = sampleEvent "$shared") owns (sampleStaged receivedAt) := by
  intro operation hoperation
  obtain rfl := List.mem_singleton.mp hoperation
  exact ⟨rfl,fun hc => by cases hc⟩

theorem mergeInboxFiles_iff_sample : (∃ merged,mergeInboxFiles [some (after sampleSha256 2 (sampleStaged sampleTime)),
        some (after sampleSha256 2 (sampleStaged sampleTime))] = .ok merged ∧
      Merged (fun _ => true) (after sampleSha256 2 (sampleStaged sampleTime))
        (after sampleSha256 2 (sampleStaged sampleTime)) merged) := by
  refine (mergeInboxFiles_iff sampleSha256 (fun event => event = sampleEvent "$shared") ?_ (fun _ => true) 2
    (sampleStaged sampleTime) (sampleStaged sampleTime) (receives_sampleStaged _ _) (receives_sampleStaged _ _)).mpr
      ⟨?_,?_⟩
  · rintro e e' rfl rfl _
    rfl
  · intro key record other hrecord hother
    rw [hrecord] at hother
    obtain rfl := some.inj hother
    exact ⟨rfl,rfl,rfl⟩
  · decide

/-- The candidate has received the same event a millisecond later. -/
theorem receipt_times_conflict :
    Receives (fun event => event = sampleEvent "$shared") (fun _ => true) (sampleStaged sampleTime) ∧
      Receives (fun event => event = sampleEvent "$shared") (fun _ => false) (sampleStaged sampleLater) ∧
        ¬ ∃ merged, mergeInboxFiles [some (after sampleSha256 2 (sampleStaged sampleTime)),
          some (after sampleSha256 2 (sampleStaged sampleLater))] = .ok merged := by
  refine ⟨receives_sampleStaged _ _,receives_sampleStaged _ _,?_⟩
  rintro ⟨merged,hmerge⟩
  have hagree := (union_eq_ok.mp (mergeInboxFiles_eq_ok.mp hmerge).1).1
  have hrecord (receivedAt : Timestamp) :
      (after sampleSha256 2 (sampleStaged receivedAt)).get
        (matrixEventInboxKey sampleSha256 (sampleEvent "$shared")) =
          some ⟨matrixEventInboxKey sampleSha256 (sampleEvent "$shared"),sampleEvent "$shared",receivedAt.1,
            .pending,none⟩ := rfl
  have hsame := sameReceipt_of_sameJson (hagree _ _ _ (hrecord sampleTime) (hrecord sampleLater))
  have htimes : (1001 : ℕ) = 1000 := hsame.1
  revert htimes
  decide

end Malink.Handoff
