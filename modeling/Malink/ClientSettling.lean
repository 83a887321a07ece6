import Malink.ClientHistories

/-!
# Awaited calls of the client

An awaited call runs until the client has nothing left to do. Each phase of it leaves one next step, so that its
effect follows phase by phase.
-/

namespace Malink.Client

open Malink.Mlp3 InsertionMap

namespace State

variable {host : ClientHost} {s s' : State}

/-- The steps of a call that is under way, when every write succeeds. -/
def isInternal : Action → Bool
  | .resume _ ok => ok
  | .work ok => ok
  | .beginSave => true
  | .endSave ok => ok
  | _ => false

/-- No call is under way, and the inbox holds quarantined records only. -/
structure Quiet (s : State) : Prop where
  calls : s.calls = []
  drains : s.drains = 0
  worker : s.worker = .idle
  saves : s.saves = []
  saving : s.saving = none
  inbox : ∀ record ∈ s.store.inbox.values, record.status = .quarantined

/-- A client that goes on by itself until it has nothing left to do. -/
def Settles (host : ClientHost) (s s' : State) : Prop :=
  ∃ steps, (∀ action ∈ steps,isInternal action) ∧ s.run host steps = some s' ∧ s'.Quiet

variable {m : State}

theorem Settles.next (h : Settles host s s') (action : Action) (hq : ¬ s.Quiet) (hm : s.step host action = some m)
    (hone : ∀ other,isInternal other → other ≠ action → s.step host other = none) : Settles host m s' := by
  obtain ⟨steps,hinternal,hrun,hquiet⟩ := h
  cases steps with
  | nil =>
    cases hrun
    exact absurd hquiet hq
  | cons other steps =>
    obtain ⟨m',hm',hrest⟩ := Option.bind_eq_some_iff.mp hrun
    have he : other = action := by
      by_contra hne
      rw [hone other (hinternal other List.mem_cons_self) hne] at hm'
      cases hm'
    subst he
    rw [hm] at hm'
    cases hm'
    exact ⟨steps,fun a ha => hinternal a (List.mem_cons_of_mem _ ha),hrest,hquiet⟩

theorem Settles.stay (h : Settles host s s') (hq : s.Quiet) : s' = s := by
  obtain ⟨steps,hinternal,hrun,-⟩ := h
  cases steps with
  | nil => exact (Option.some.inj hrun).symm
  | cons action steps =>
    have hnone : s.step host action = none := by
      cases action with
      | resume id ok => simp [step,hq.calls]
      | work ok => simp [step,stepWorker,hq.worker,hq.drains]
      | beginSave => simp [step,beginSave,hq.saves]
      | endSave ok => simp [step,endSave,hq.saves]
      | _ => simp [isInternal] at hinternal
    rw [run,hnone] at hrun
    cases hrun

theorem Settles.work (h : Settles host s s') (hcalls : s.calls = []) (hsaves : s.saves = [])
    (hm : s.stepWorker host true = some m) : Settles host m s' := by
  refine h.next (.work true) ?_ hm ?_
  · intro hq
    simp [stepWorker,hq.worker,hq.drains] at hm
  · intro other hinternal hne
    cases other with
    | resume id ok => simp [step,hcalls]
    | work ok =>
      cases ok with
      | true => exact absurd rfl hne
      | false => cases hinternal
    | beginSave => simp [step,beginSave,hsaves]
    | endSave ok => simp [step,endSave,hsaves]
    | _ => cases hinternal

variable {id : ℕ} {phase : CallPhase} {raw : RawEvent} {record : InboxRecord}

theorem Settles.resume (h : Settles host s s') (hcalls : s.calls = [⟨id,phase⟩])
    (hdrains : s.drains = 0) (hworker : s.worker = .idle) (hsaves : s.saves = []) :
    Settles host (s.resumeCall id phase true) s' := by
  refine h.next (.resume id true) ?_ (by simp [step,hcalls]) ?_
  · intro hq
    rw [hq.calls] at hcalls
    cases hcalls
  · intro other hinternal hne
    cases other with
    | resume id' ok =>
      cases ok with
      | true =>
        have hid : id ≠ id' := fun he => hne (by rw [he])
        simp [step,hcalls,hid]
      | false => cases hinternal
    | work ok => simp [step,stepWorker,hworker,hdrains]
    | beginSave => simp [step,beginSave,hsaves]
    | endSave ok => simp [step,endSave,hsaves]
    | _ => cases hinternal

theorem Settles.save {rest : List InboxRecord} (h : Settles host s s') (hcalls : s.calls = [])
    (hworker : s.worker = .persisting raw rest) (hsaves : s.saves = [.worker]) (hsaving : s.saving = none) :
    Settles host { s with
      store := { s.store with projectionState := some s.projection.durableState }
      saves := []
      worker := .deleting raw rest } s' := by
  have hbegun := h.next .beginSave (fun hq => by rw [hq.worker] at hworker; cases hworker)
    (m := { s with saving := some s.projection.durableState }) (by simp [step,beginSave,hsaves,hsaving]) (by
      intro other hinternal hne
      cases other with
      | resume id ok => simp [step,hcalls]
      | work ok => simp [step,stepWorker,hworker]
      | beginSave => exact absurd rfl hne
      | endSave ok => simp [step,endSave,hsaves,hsaving]
      | _ => cases hinternal)
  refine hbegun.next (.endSave true) (fun hq => by simpa [hworker] using hq.worker) ?_ ?_
  · simp [step,endSave,hsaves,resumeSaver,hworker,hsaving]
  · intro other hinternal hne
    cases other with
    | resume id ok => simp [step,hcalls]
    | work ok => simp [step,stepWorker,hworker]
    | beginSave => simp [step,beginSave]
    | endSave ok =>
      cases ok with
      | true => exact absurd rfl hne
      | false => cases hinternal
    | _ => cases hinternal

/-- The worker is the only one who can go on, with a record that is the last of its list. -/
structure Alone (raw : RawEvent) (s : State) : Prop where
  calls : s.calls = []
  drains : s.drains = 0
  saves : s.saves = []
  saving : s.saving = none
  others : ∀ k record, s.store.inbox.get k = some record → k ≠ raw.eventId → record.status = .quarantined

/-- What the worker leaves of a record whose event the projection has taken. -/
structure Done (raw : RawEvent) (s s' : State) : Prop where
  inbox : s'.store.inbox = s.store.inbox.delete raw.eventId
  projection : s'.projection = s.projection
  keyGrant : s'.keyGrant = s.keyGrant
  retried : s'.retriedQuarantinedEventIds = s.retriedQuarantinedEventIds

theorem Done.of_eq (h : Done raw m s') (hinbox : m.store.inbox = s.store.inbox)
    (hprojection : m.projection = s.projection) (hgrant : m.keyGrant = s.keyGrant)
    (hretried : m.retriedQuarantinedEventIds = s.retriedQuarantinedEventIds) : Done raw s s' :=
  ⟨hinbox ▸ h.inbox,h.projection.trans hprojection,h.keyGrant.trans hgrant,h.retried.trans hretried⟩

variable {raw : RawEvent}

theorem Settles.drained (h : Settles host s s') (hcalls : s.calls = []) (hdrains : s.drains = 0)
    (hsaves : s.saves = []) (hsaving : s.saving = none) (hworker : s.worker = .draining [])
    (hinbox : ∀ record ∈ s.store.inbox.values,record.status = .quarantined) : s' = { s with worker := .idle } :=
  (h.work hcalls hsaves (by simp only [stepWorker,hworker])).stay ⟨hcalls,hdrains,rfl,hsaves,hsaving,hinbox⟩

theorem Settles.deleting (h : Settles host s s') (ha : s.Alone raw) (hworker : s.worker = .deleting raw []) :
    Done raw s s' := by
  have hstep := h.work ha.calls ha.saves (m := { s with
    store := s.store.deleteInbox raw.eventId
    worker := .draining [] }) (by simp [stepWorker,hworker])
  have he := hstep.drained ha.calls ha.drains ha.saves ha.saving rfl (by
    intro record hrecord
    obtain ⟨k,hget⟩ := mem_values.mp hrecord
    change (s.store.inbox.delete raw.eventId).get k = some record at hget
    rw [get_delete] at hget
    split at hget
    · cases hget
    · next hne => exact ha.others k record hget hne)
  subst he
  exact ⟨rfl,rfl,rfl,rfl⟩

theorem Settles.finishItem {changed : Bool} (h : Settles host (s.finishItem changed raw []) s')
    (ha : s.Alone raw) : Done raw s s' := by
  cases changed with
  | false =>
    have ha' : (s.finishItem false raw []).Alone raw := ⟨ha.calls,ha.drains,ha.saves,ha.saving,ha.others⟩
    exact (h.deleting ha' rfl).of_eq rfl rfl rfl rfl
  | true =>
    have hsaves : (s.finishItem true raw []).saves = [.worker] := by
      simp [State.finishItem,persist,ha.saves]
    have hsaved := h.save ha.calls rfl hsaves ha.saving
    exact (hsaved.deleting ⟨ha.calls,ha.drains,rfl,ha.saving,ha.others⟩ rfl).of_eq rfl rfl rfl rfl

variable {recording : Recording}

theorem Settles.settled (h : Settles host s s') (ha : s.Alone recording.raw) (hworker : s.worker = .settled recording)
    (hrest : recording.rest = []) : Done recording.raw s s' := by
  have hstep := h.work ha.calls ha.saves (by simp only [stepWorker,hworker]; rfl)
  rw [hrest] at hstep
  have ha' : (s.resolveWaiters recording.commandId recording.completion).Alone recording.raw :=
    ⟨ha.calls,ha.drains,ha.saves,ha.saving,ha.others⟩
  exact (hstep.finishItem ha').of_eq rfl rfl rfl rfl

theorem Settles.reading (h : Settles host s s') (ha : s.Alone recording.raw) (hworker : s.worker = .reading recording)
    (hrest : recording.rest = []) : Done recording.raw s s' := by
  cases hget : s.store.outbox.get recording.commandId with
  | none =>
    have hstep := h.work ha.calls ha.saves (m := { s with worker := .settled recording })
      (by simp [stepWorker,hworker,hget])
    exact (hstep.settled ⟨ha.calls,ha.drains,ha.saves,ha.saving,ha.others⟩ rfl hrest).of_eq rfl rfl rfl rfl
  | some record =>
    have hstep := h.work ha.calls ha.saves (by simp only [stepWorker,hworker,hget]; rfl)
    have hput := hstep.work ha.calls ha.saves (by simp only [stepWorker,if_true]; rfl)
    exact (hput.settled ⟨ha.calls,ha.drains,ha.saves,ha.saving,ha.others⟩ rfl hrest).of_eq rfl rfl rfl rfl

/-- What is left of a record that is quarantined. -/
structure Refused (raw : RawEvent) (s s' : State) : Prop where
  row : ∃ record, s'.store.inbox.get raw.eventId = some record ∧ record.status = .quarantined ∧ record.raw = raw
  others : ∀ k ≠ raw.eventId, s'.store.inbox.get k = s.store.inbox.get k
  projection : s'.projection = s.projection
  keyGrant : s'.keyGrant = s.keyGrant
  retried : s'.retriedQuarantinedEventIds = s.retriedQuarantinedEventIds

theorem Settles.quarantining {message : JsString} (h : Settles host s s')
    (ha : s.Alone raw) (hworker : s.worker = .quarantining raw message [])
    (hget : s.store.inbox.get raw.eventId = some record) (hraw : record.raw = raw) : Refused raw s s' := by
  have hupdate : s.store.updateInbox raw.eventId .quarantined (some message) = some { s.store with
      inbox := s.store.inbox.set raw.eventId { record with
        status := .quarantined
        error := (some message).filter JsString.truthy } } := by
    rw [Store.updateInbox,hget,Option.map_some]
  have hstep := h.work ha.calls ha.saves (by simp only [stepWorker,hworker,hupdate,if_true]; rfl)
  have he := hstep.drained ha.calls ha.drains ha.saves ha.saving rfl (by
    intro row hrow
    obtain ⟨k,hk⟩ := mem_values.mp hrow
    rw [get_set] at hk
    split at hk
    · cases hk
      rfl
    · next hne => exact ha.others k row hk hne)
  subst he
  exact ⟨⟨_,get_set_self _ _ _,rfl,hraw⟩,fun k hk => get_set_of_ne _ _ hk,rfl,rfl,rfl⟩

/-- What the worker makes of a record: its event is in the projection, or refused. -/
def Processed (host : ClientHost) (raw : RawEvent) (outcome : RawOutcome) (s s' : State) : Prop :=
  match (Delivery.mk outcome raw.eventId raw.timestamp).apply host s.projection with
  | some (projection,_) => Done raw { s with projection } s'
  | none => Refused raw s s'

variable {outcome : RawOutcome}

theorem Settles.opened (h : Settles host s s') (ha : s.Alone raw) (hworker : s.worker = .opened raw outcome [])
    (hget : s.store.inbox.get raw.eventId = some record) (hraw : record.raw = raw) :
    Processed host raw outcome s s' := by
  have hstep := h.work ha.calls ha.saves (by simp only [stepWorker,hworker]; rfl)
  have hrefused : ∀ message,Settles host { s with worker := .quarantining raw message [] } s' →
      Refused raw s s' := by
    intro message hq
    obtain ⟨hrow,hothers,hprojection,hgrant,hretried⟩ :=
      hq.quarantining ⟨ha.calls,ha.drains,ha.saves,ha.saving,ha.others⟩ rfl hget hraw
    exact ⟨hrow,hothers,hprojection,hgrant,hretried⟩
  cases outcome with
  | passed => exact hstep.finishItem ha
  | failed message => exact hrefused message hstep
  | command command => exact hstep.finishItem ⟨ha.calls,ha.drains,ha.saves,ha.saving,ha.others⟩
  | event event hint =>
    rcases @projectEvent_cases host s event hint raw [] with
      ⟨error,heq,he⟩ | ⟨projection,changed,heq,hcase⟩
    · have happly : (Delivery.mk (.event event hint) raw.eventId raw.timestamp).apply host s.projection = none := by
        simp only [Delivery.apply,heq]
        rfl
      rw [Processed,happly]
      exact hrefused error.message (he ▸ hstep)
    · have happly : (Delivery.mk (.event event hint) raw.eventId raw.timestamp).apply host s.projection =
          some (projection,changed) := by
        simp only [Delivery.apply,heq]
        rfl
      rw [Processed,happly]
      rcases hcase with ⟨recording,⟨-,rfl,hrest⟩,he⟩ | he
      · have hreading : Settles host { s with projection, worker := .reading recording } s' := he ▸ hstep
        exact (hreading.reading ⟨ha.calls,ha.drains,ha.saves,ha.saving,ha.others⟩ rfl hrest).of_eq
          rfl rfl rfl rfl
      · have hfinish : Settles host ({ s with projection }.finishItem changed raw []) s' := he ▸ hstep
        exact hfinish.finishItem ⟨ha.calls,ha.drains,ha.saves,ha.saving,ha.others⟩

theorem Processed.of_eq (h : Processed host raw outcome m s') (hinbox : m.store.inbox = s.store.inbox)
    (hprojection : m.projection = s.projection) (hgrant : m.keyGrant = s.keyGrant)
    (hretried : m.retriedQuarantinedEventIds = s.retriedQuarantinedEventIds) : Processed host raw outcome s s' := by
  unfold Processed at h ⊢
  rw [hprojection] at h
  split
  · next projection changed heq =>
    rw [heq] at h
    exact h.of_eq hinbox rfl hgrant hretried
  · next heq =>
    rw [heq] at h
    obtain ⟨hrow,hothers,hp,hg,hr⟩ := h
    exact ⟨hrow,hinbox ▸ hothers,hp.trans hprojection,hg.trans hgrant,hr.trans hretried⟩

theorem Settles.draining (h : Settles host s s') (ha : s.Alone record.raw) (hworker : s.worker = .draining [record])
    (hget : s.store.inbox.get record.raw.eventId = some record) :
    Processed host record.raw (openRaw host s.keyGrant record.raw) s s' := by
  have hstep := h.work ha.calls ha.saves (by simp only [stepWorker,hworker]; rfl)
  exact (hstep.opened ⟨ha.calls,ha.drains,ha.saves,ha.saving,ha.others⟩ rfl hget rfl).of_eq rfl rfl rfl rfl

/-- The call drains the inbox when the record that it put there is the only pending one. -/
theorem Settles.ingested (h : Settles host s s')
    (hcalls : s.calls = [⟨id,.ingested⟩]) (hdrains : s.drains = 0) (hworker : s.worker = .idle)
    (hsaves : s.saves = []) (hsaving : s.saving = none) (hpending : s.store.pendingInbox = [record])
    (hget : s.store.inbox.get record.raw.eventId = some record)
    (hothers : ∀ k row,s.store.inbox.get k = some row → k ≠ record.raw.eventId → row.status = .quarantined) :
    Processed host record.raw (openRaw host s.keyGrant record.raw) s s' := by
  have hresumed := h.resume hcalls hdrains hworker hsaves
  have hended : ({ s with drains := s.drains + 1 }.endCall id).calls = [] := by
    simp [endCall,hcalls]
  have hdrained := hresumed.work hended hsaves (m := { ({ s with drains := s.drains + 1 }.endCall id) with
      drains := 0
      worker := .draining [record] }) (by
    simp [resumeCall,stepWorker,endCall,hworker,hdrains,hpending])
  exact (hdrained.draining ⟨hended,rfl,hsaves,hsaving,hothers⟩ rfl hget).of_eq rfl rfl rfl rfl

def Keyed (s : State) : Prop := ∀ k record, s.store.inbox.get k = some record → record.raw.eventId = k

/-- Whether the inbox takes an event: one that it does not hold, or one whose only retry is not spent. -/
def takes (s : State) (eventId : JsString) : Bool :=
  match s.store.inbox.get eventId with
  | none => true
  | some record => record.status = .quarantined && !s.retriedQuarantinedEventIds.contains eventId

/-- The event that the inbox takes: one that it holds already, or the one that is delivered. -/
def takenRaw (s : State) (raw : RawEvent) : RawEvent :=
  ((s.store.inbox.get raw.eventId).map (·.raw)).getD raw

/-- What a taken delivery leaves behind. -/
structure Took (host : ClientHost) (raw : RawEvent) (s s' : State) : Prop where
  processed : match (Delivery.mk (openRaw host s.keyGrant raw) raw.eventId raw.timestamp).apply host
      s.projection with
    | some (projection,_) => s'.projection = projection ∧ s'.store.inbox.get raw.eventId = none
    | none => s'.projection = s.projection ∧ ∃ record, s'.store.inbox.get raw.eventId = some record ∧
        record.status = .quarantined ∧ record.raw = raw
  others : ∀ k ≠ raw.eventId, s'.store.inbox.get k = s.store.inbox.get k
  keyGrant : s'.keyGrant = s.keyGrant
  retried : ∀ k ≠ raw.eventId, k ∈ s'.retriedQuarantinedEventIds ↔ k ∈ s.retriedQuarantinedEventIds

theorem Processed.took (h : Processed host raw (openRaw host m.keyGrant raw) m s')
    (hprojection : m.projection = s.projection) (hgrant : m.keyGrant = s.keyGrant)
    (hothers : ∀ k ≠ raw.eventId,m.store.inbox.get k = s.store.inbox.get k)
    (hretried : ∀ k ≠ raw.eventId,k ∈ m.retriedQuarantinedEventIds ↔ k ∈ s.retriedQuarantinedEventIds) :
    Took host raw s s' := by
  unfold Processed at h
  rw [hgrant,hprojection] at h
  cases heq : (Delivery.mk (openRaw host s.keyGrant raw) raw.eventId raw.timestamp).apply host s.projection with
  | none =>
    rw [heq] at h
    refine ⟨?_,fun k hk => (h.others k hk).trans (hothers k hk),h.keyGrant.trans hgrant,
      fun k hk => h.retried ▸ hretried k hk⟩
    rw [heq]
    exact ⟨h.projection.trans hprojection,h.row⟩
  | some result =>
    rw [heq] at h
    refine ⟨?_,fun k hk => ?_,h.keyGrant,fun k hk => h.retried ▸ hretried k hk⟩
    · rw [heq]
      refine ⟨h.projection,?_⟩
      rw [h.inbox]
      exact get_delete_self _ _
    · rw [h.inbox,get_delete_of_ne _ hk]
      exact hothers k hk

theorem pendingInbox_set {store : Store}
    (h : ∀ row ∈ store.inbox.values,row.status = .quarantined) (hr : record.status = .pending) :
    { store with inbox := store.inbox.set raw.eventId record }.pendingInbox = [record] :=
  filter_values_set (fun row hrow => by simp [h row hrow]) (by simp [hr])

theorem others_of_set {store : Store} (h : ∀ row ∈ store.inbox.values,row.status = .quarantined) :
    ∀ k row, (store.inbox.set raw.eventId record).get k = some row → k ≠ raw.eventId →
      row.status = .quarantined := by
  intro k row hget hk
  rw [get_set_of_ne _ _ hk] at hget
  exact h row (mem_values.mpr ⟨k,hget⟩)

theorem ingest_fresh (hq : s.Quiet) (hroom : raw.roomId = host.roomId)
    (hnone : s.store.inbox.get raw.eventId = none) (h : Settles host (s.ingest host raw) s') : Took host raw s s' := by
  have hhas : s.store.inbox.has raw.eventId = false := by
    cases hhas : s.store.inbox.has raw.eventId with
    | false => rfl
    | true =>
      obtain ⟨record,hget⟩ := has_iff.mp hhas
      rw [hnone] at hget
      cases hget
  simp only [ingest,hroom,ne_eq,not_true_eq_false,if_false,hhas,Bool.false_eq_true] at h
  have hpending : { s.store with inbox := s.store.inbox.set raw.eventId ⟨raw,.pending,none⟩ }.pendingInbox =
      [⟨raw,.pending,none⟩] := pendingInbox_set hq.inbox rfl
  have hprocessed := h.ingested (by simp [addCall,hq.calls]; rfl) hq.drains hq.worker hq.saves hq.saving hpending
    (get_set_self _ _ _) (others_of_set hq.inbox)
  exact hprocessed.took rfl rfl (fun k hk => get_set_of_ne _ _ hk) fun _ _ => Iff.rfl

theorem has_of_get {eventId : JsString} (h : s.store.inbox.get eventId = some record) : s.store.inbox.has eventId :=
  has_iff.mpr ⟨record,h⟩

/-- The call of an event that the inbox holds, alone in the client. -/
structure Calling (id : ℕ) (phase : CallPhase) (s m : State) : Prop where
  calls : m.calls = [⟨id,phase⟩]
  drains : m.drains = 0
  worker : m.worker = .idle
  saves : m.saves = []
  saving : m.saving = none
  store : m.store = s.store
  projection : m.projection = s.projection
  keyGrant : m.keyGrant = s.keyGrant

theorem Calling.setCall {phase' : CallPhase} (h : Calling id phase s m) : Calling id phase' s (m.setCall id phase') :=
  ⟨by simp [State.setCall,h.calls],h.drains,h.worker,h.saves,h.saving,h.store,h.projection,h.keyGrant⟩

theorem Calling.endCall_quiet (h : Calling id phase s m) (hq : s.Quiet) : (m.endCall id).Quiet :=
  ⟨by simp [State.endCall,h.calls],h.drains,h.worker,h.saves,h.saving,fun record hr => by
    have hinbox := hq.inbox
    rw [← h.store] at hinbox
    exact hinbox record hr⟩

/-- What a delivery that the inbox does not take leaves behind. -/
structure Ignored (s s' : State) : Prop where
  store : s'.store = s.store
  projection : s'.projection = s.projection
  keyGrant : s'.keyGrant = s.keyGrant
  retried : s'.retriedQuarantinedEventIds = s.retriedQuarantinedEventIds

theorem ingest_present (hq : s.Quiet) (hroom : raw.roomId = host.roomId)
    (hget : s.store.inbox.get raw.eventId = some record) :
    Calling s.nextId (.present raw) s (s.ingest host raw) ∧
      (s.ingest host raw).retriedQuarantinedEventIds = s.retriedQuarantinedEventIds := by
  have he : s.ingest host raw = s.addCall (.present raw) := by
    simp only [ingest,hroom,ne_eq,not_true_eq_false,if_false,has_of_get hget,if_true]
  rw [he]
  exact ⟨⟨by simp [addCall,hq.calls],hq.drains,hq.worker,hq.saves,hq.saving,rfl,rfl,rfl⟩,rfl⟩

theorem ingest_ignored (hq : s.Quiet) (ht : raw.roomId ≠ host.roomId ∨ s.takes raw.eventId = false)
    (h : Settles host (s.ingest host raw) s') : Ignored s s' := by
  by_cases hroom : raw.roomId = host.roomId
  · have htakes := ht.resolve_left (not_not.mpr hroom)
    cases hget : s.store.inbox.get raw.eventId with
    | none => simp [takes,hget] at htakes
    | some record =>
      have hquarantined := hq.inbox record (mem_values.mpr ⟨_,hget⟩)
      have hspent : raw.eventId ∈ s.retriedQuarantinedEventIds := by
        simpa [takes,hget,hquarantined] using htakes
      obtain ⟨hcalling,hretried⟩ := ingest_present hq hroom hget
      have hstep := h.resume hcalling.calls hcalling.drains hcalling.worker hcalling.saves
      simp only [resumeCall,hretried,hspent,if_true] at hstep
      have he := hstep.stay (hcalling.endCall_quiet hq)
      subst he
      exact ⟨hcalling.store,hcalling.projection,hcalling.keyGrant,hretried⟩
  · simp only [ingest,ne_eq,hroom,not_false_eq_true,if_true] at h
    have he := h.stay hq
    subst he
    exact ⟨rfl,rfl,rfl,rfl⟩

theorem Settles.marking (h : Settles host m s') (hc : Calling id (.marking raw) s m)
    (hq : s.Quiet) (hget : s.store.inbox.get raw.eventId = some record) (hkeyed : record.raw.eventId = raw.eventId)
    (hretried : ∀ k ≠ raw.eventId,k ∈ m.retriedQuarantinedEventIds ↔ k ∈ s.retriedQuarantinedEventIds) :
    Took host record.raw s s' := by
  have hupdate : m.store.updateInbox raw.eventId .pending none = some { s.store with
      inbox := s.store.inbox.set raw.eventId { record with status := .pending, error := none } } := by
    rw [hc.store,Store.updateInbox,hget]
    rfl
  have hmarked := h.resume hc.calls hc.drains hc.worker hc.saves
  simp only [resumeCall,hupdate,if_true] at hmarked
  rw [← hkeyed] at hmarked hretried
  have hpending : { s.store with
      inbox := s.store.inbox.set record.raw.eventId ⟨record.raw,.pending,none⟩ }.pendingInbox =
        [⟨record.raw,.pending,none⟩] := pendingInbox_set hq.inbox rfl
  have hprocessed := hmarked.ingested (by simp [State.setCall,hc.calls]; rfl) hc.drains hc.worker hc.saves
    hc.saving hpending (get_set_self _ _ _) (others_of_set hq.inbox)
  exact hprocessed.took hc.projection hc.keyGrant (fun k hk => get_set_of_ne _ _ hk) hretried

theorem Settles.looked (h : Settles host m s') (hc : Calling id (.looked raw (some .quarantined)) s m) (hq : s.Quiet)
    (hget : s.store.inbox.get raw.eventId = some record) (hkeyed : record.raw.eventId = raw.eventId)
    (hretried : m.retriedQuarantinedEventIds = s.retriedQuarantinedEventIds)
    (hunspent : raw.eventId ∉ s.retriedQuarantinedEventIds) : Took host record.raw s s' := by
  have hnoted := h.resume hc.calls hc.drains hc.worker hc.saves
  simp only [resumeCall,hretried,hunspent,ne_eq,not_true_eq_false,or_self,if_false] at hnoted
  have hmark : Calling id (.marking raw) s ({ m with
      retriedQuarantinedEventIds := s.retriedQuarantinedEventIds ++ [raw.eventId] }.setCall id (.marking raw)) :=
    Calling.setCall ⟨hc.calls,hc.drains,hc.worker,hc.saves,hc.saving,hc.store,hc.projection,hc.keyGrant⟩
  refine hnoted.marking hmark hq hget hkeyed fun k hk => ?_
  simp [State.setCall,hk]

theorem ingest_retried (hq : s.Quiet) (hroom : raw.roomId = host.roomId)
    (hget : s.store.inbox.get raw.eventId = some record) (hkeyed : record.raw.eventId = raw.eventId)
    (ht : s.takes raw.eventId) (h : Settles host (s.ingest host raw) s') : Took host record.raw s s' := by
  have hquarantined := hq.inbox record (mem_values.mpr ⟨_,hget⟩)
  have hunspent : raw.eventId ∉ s.retriedQuarantinedEventIds := by
    simpa [takes,hget,hquarantined] using ht
  obtain ⟨hpresent,hretried⟩ := ingest_present hq hroom hget
  have hlooking := h.resume hpresent.calls hpresent.drains hpresent.worker hpresent.saves
  simp only [resumeCall,hretried,hunspent,if_false] at hlooking
  have hlook : Calling s.nextId (.looking raw) s ((s.ingest host raw).setCall s.nextId (.looking raw)) :=
    hpresent.setCall
  have hlooked := hlooking.resume hlook.calls hlook.drains hlook.worker hlook.saves
  simp only [resumeCall,hlook.store,hget,Option.map_some,hquarantined] at hlooked
  exact hlooked.looked hlook.setCall hq hget hkeyed hretried hunspent

theorem ingest_taken (hq : s.Quiet) (hk : s.Keyed) (hroom : raw.roomId = host.roomId)
    (ht : s.takes raw.eventId) (h : Settles host (s.ingest host raw) s') :
    Took host (s.takenRaw raw) s s' ∧ (s.takenRaw raw).eventId = raw.eventId := by
  cases hget : s.store.inbox.get raw.eventId with
  | none =>
    have he : s.takenRaw raw = raw := by simp [takenRaw,hget]
    rw [he]
    exact ⟨ingest_fresh hq hroom hget h,rfl⟩
  | some record =>
    have he : s.takenRaw raw = record.raw := by simp [takenRaw,hget]
    rw [he]
    exact ⟨ingest_retried hq hroom hget (hk _ _ hget) ht h,hk _ _ hget⟩

theorem Took.keyed (h : Took host raw s s') (hk : s.Keyed) : s'.Keyed := by
  intro k record hget
  by_cases he : k = raw.eventId
  · subst he
    have hp := h.processed
    split at hp
    · rw [hp.2] at hget
      cases hget
    · obtain ⟨record',hget',-,hraw⟩ := hp.2
      rw [hget'] at hget
      cases hget
      rw [hraw]
  · rw [h.others k he] at hget
    exact hk k record hget

theorem drainInbox_ignored (hq : s.Quiet) (h : Settles host { s with drains := s.drains + 1 } s') :
    Ignored s s' := by
  have hpending : s.store.pendingInbox = [] := by
    rw [Store.pendingInbox,List.filter_eq_nil_iff]
    intro record hr
    simp [hq.inbox record hr]
  have hstep := h.work hq.calls hq.saves (m := { s with drains := 0, worker := .draining [] }) (by
    simp [stepWorker,hq.worker,hq.drains,hpending])
  have he := hstep.drained hq.calls rfl hq.saves hq.saving rfl hq.inbox
  subst he
  exact ⟨rfl,rfl,rfl,rfl⟩

end State

end Malink.Client
