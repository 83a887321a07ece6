import Malink.Mlp3Client

/-!
# The outbox of the client

Three steps write the outbox and one deletes from it. The outbox keeps its completions exactly in the runs without a
stale write.
-/

namespace Malink.Client

open Malink.Mlp3 Option

namespace State

inductive OutboxWrite
  | put (record : OutboxRecord)
  | delete (commandId : JsString)

def outboxWrite (s : State) : Action → Option OutboxWrite
  | .sendCommand command content =>
    if (activeProjectKey s.keyGrant).isNone then none else some (.put (outboxRecord command content))
  | .resume id ok =>
    match s.calls.find? (·.id = id) with
    | some ⟨_,.deleting commandId⟩ => if ok then some (.delete commandId) else none
    | _ => none
  | .transmit id ok =>
    match s.transmits.find? (·.id = id) with
    | some ⟨_,record,.storing eventId⟩ =>
      if ok then some (.put { record with matrixEventId := some eventId }) else none
    | _ => none
  | .work ok =>
    match s.worker with
    | .completing _ record => if ok then some (.put record) else none
    | _ => none
  | _ => none

def OutboxWrite.apply (outbox : InsertionMap JsString OutboxRecord) :
    Option OutboxWrite → InsertionMap JsString OutboxRecord
  | some (.put record) => outbox.set record.command.commandId record
  | some (.delete commandId) => outbox.delete commandId
  | none => outbox

variable {host : ClientHost} {s s' : State}

@[simp] theorem store_addCall (phase : CallPhase) : (s.addCall phase).store = s.store := rfl

variable (id : ℕ)

@[simp] theorem store_endCall : (s.endCall id).store = s.store := rfl

variable (t : Transmit)

@[simp] theorem store_addTransmit : (s.addTransmit t).store = s.store := rfl

@[simp] theorem store_addObserver (commandId : JsString) : (s.addObserver commandId).store = s.store := rfl

@[simp] theorem store_project (eventId : JsString) : (s.project t eventId).store = s.store := by
  unfold project
  simp only
  split <;> rfl

@[simp] theorem store_startTransmit (record : OutboxRecord) : (s.startTransmit record).store = s.store := by
  unfold startTransmit
  simp only
  split <;> simp

@[simp] theorem store_foldl_startTransmit (records : List OutboxRecord) :
    (records.foldl startTransmit s).store = s.store := by
  induction records generalizing s with
  | nil => rfl
  | cons record records ih => rw [List.foldl_cons,ih,store_startTransmit]

@[simp] theorem store_resumeRecovered (record : OutboxRecord) : (s.resumeRecovered record).store = s.store := by
  unfold resumeRecovered
  simp only
  split
  · rfl
  · split <;> simp

@[simp] theorem store_finishItem (changed : Bool) (raw : RawEvent) (rest : List InboxRecord) :
    (s.finishItem changed raw rest).store = s.store := by
  unfold finishItem
  split <;> rfl

@[simp] theorem store_projectEvent (event : Event) (hint : Option JsString) (raw : RawEvent)
    (rest : List InboxRecord) : (s.projectEvent host event hint raw rest).store = s.store := by
  unfold projectEvent
  split
  · rfl
  · simp only
    split
    · rfl
    · simp

@[simp] theorem store_projectOutcome (outcome : RawOutcome) (raw : RawEvent) (rest : List InboxRecord) :
    (s.projectOutcome host outcome raw rest).store = s.store := by
  unfold projectOutcome
  split <;> simp

@[simp] theorem store_resumeSaver (saver : Saver) (ok : Bool) : (s.resumeSaver saver ok).store = s.store := by
  unfold resumeSaver
  split
  · rfl
  · split
    · split <;> rfl
    · rfl

theorem outbox_of_updateInbox {store store' : Store} {eventId : JsString} {status : InboxStatus}
    {error : Option JsString} (h : store.updateInbox eventId status error = some store') :
    store'.outbox = store.outbox := by
  obtain ⟨record,-,rfl⟩ := map_eq_some_iff.mp h
  rfl

variable {phase : CallPhase} {ok : Bool}

theorem outbox_resumeCall {id : ℕ} (hcall : s.calls.find? (·.id = id) = some ⟨id,phase⟩) :
    (s.resumeCall id phase ok).store.outbox = OutboxWrite.apply s.store.outbox
      (s.outboxWrite (.resume id ok)) := by
  simp only [outboxWrite,hcall]
  cases phase with
  | sent | recovered | retrying => simp [resumeCall,OutboxWrite.apply]
  | releasing | present | looked =>
    simp only [resumeCall,OutboxWrite.apply]
    split <;> rfl
  | deleting commandId => cases ok <;> rfl
  | looking | ingested => rfl
  | marking raw =>
    simp only [resumeCall,OutboxWrite.apply]
    split
    · next store hstore =>
      split
      · exact outbox_of_updateInbox hstore
      · rfl
    · rfl

theorem id_of_find? {α : Type} {f : α → ℕ} {as : List α} {a : α} {id : ℕ}
    (h : as.find? (fun a => f a = id) = some a) : f a = id := by
  simpa using List.find?_some h

theorem outbox_stepTransmit {t : Transmit} (ht : s.transmits.find? (·.id = t.id) = some t)
    (h : s.stepTransmit t ok = some s') :
    s'.store.outbox = OutboxWrite.apply s.store.outbox (s.outboxWrite (.transmit t.id ok)) := by
  obtain ⟨id,record,phase⟩ := t
  simp only [outboxWrite,ht]
  cases phase with
  | sending | saving => cases h
  | storing eventId =>
    cases ok with
    | true | false =>
      cases h
      rfl
  | stored eventId =>
    cases h
    simp [OutboxWrite.apply]

theorem outbox_stepWorker (h : s.stepWorker host ok = some s') :
    s'.store.outbox = OutboxWrite.apply s.store.outbox (s.outboxWrite (.work ok)) := by
  unfold stepWorker at h
  simp only [outboxWrite]
  split at h
  · split at h
    · cases h
    · cases h
      simp [*,OutboxWrite.apply]
  · cases h
    simp [*,OutboxWrite.apply]
  · cases h
    simp [*,OutboxWrite.apply]
  · cases h
    simp [*,OutboxWrite.apply]
  · split at h <;> cases h <;> simp [*,OutboxWrite.apply]
  · next recording record hworker =>
    cases ok <;> cases h <;> simp [hworker,OutboxWrite.apply,Store.putOutbox]
  · cases h
    simp [*,OutboxWrite.apply,resolveWaiters]
  · cases h
  · split at h <;> cases h <;> simp [*,OutboxWrite.apply,Store.deleteInbox]
  · split at h
    · next store hstore =>
      split at h <;> cases h <;> simp [*,OutboxWrite.apply,outbox_of_updateInbox hstore]
    · cases h
      simp [*,OutboxWrite.apply]

theorem outbox_started (store : Store) (ids : List JsString) :
    (started host store ids).store.outbox = store.outbox := by
  simp only [started]
  split <;> rfl

variable {action : Action}

theorem outbox_step (h : s.step host action = some s') :
    s'.store.outbox = OutboxWrite.apply s.store.outbox (s.outboxWrite action) := by
  cases action with
  | acceptKeyGrant | retryPending | observeCompletion | drainInbox =>
    cases h
    rfl
  | sendCommand command content =>
    simp only [step,sendCommand] at h
    split at h
    · cases h
    · split at h
      · next hkey =>
        cases h
        simp [outboxWrite,hkey,OutboxWrite.apply]
      · next hkey =>
        cases h
        simp [outboxWrite,hkey,OutboxWrite.apply,Store.putOutbox]
  | recover commandId =>
    cases h
    simp only [recover]
    split <;> rfl
  | release commandId =>
    cases h
    simp only [release]
    split <;> rfl
  | ingest raw =>
    cases h
    simp only [ingest]
    split
    · rfl
    · split <;> rfl
  | resume id ok =>
    obtain ⟨call,hcall,rfl⟩ := map_eq_some_iff.mp h
    obtain rfl := id_of_find? hcall
    exact outbox_resumeCall hcall
  | observe id =>
    obtain ⟨o,-,h⟩ := bind_eq_some_iff.mp h
    unfold stepObserver at h
    split at h <;> cases h <;> rfl
  | transmit id ok =>
    obtain ⟨t,ht,hstep⟩ := bind_eq_some_iff.mp h
    obtain rfl := id_of_find? ht
    exact outbox_stepTransmit ht hstep
  | respond id eventId =>
    obtain ⟨t,-,h⟩ := bind_eq_some_iff.mp h
    unfold respond at h
    split at h
    · cases h
    · split at h <;> cases h <;> rfl
  | work ok => exact outbox_stepWorker h
  | beginSave =>
    simp only [step,beginSave] at h
    split at h
    · cases h
    · cases h
      rfl
  | endSave ok =>
    simp only [step,endSave] at h
    split at h
    · cases h
      rw [store_resumeSaver]
      cases ok <;> rfl
    · cases h
  | restart =>
    cases h
    exact outbox_started s.store s.sentCommandIds

/-- A record in the outbox, under the identifiers that were sent. -/
structure Stored (ids : List JsString) (commandId : JsString) (record : OutboxRecord) : Prop where
  keyed : record.command.commandId = commandId
  sent : commandId ∈ ids
  completed : record.status = .completed ↔ record.completion.isSome

/-- A copy of a record that was taken before the command completed. -/
structure Uncompleted (ids : List JsString) (record : OutboxRecord) : Prop where
  pending : record.status = .pending
  completion : record.completion = none
  sent : record.command.commandId ∈ ids

def CallSound (ids : List JsString) : CallPhase → Prop
  | .sent record => Uncompleted ids record
  | .recovered record => Stored ids record.command.commandId record
  | .retrying records => ∀ record ∈ records, Uncompleted ids record
  | _ => True

def WorkerSound (ids : List JsString) : Worker → Prop
  | .completing recording record => record.status = .completed ∧
      record.completion = some recording.completion ∧ record.command.commandId = recording.commandId ∧
      recording.commandId ∈ ids
  | _ => True

/-- Every record and every copy of one belongs to a command that was sent. -/
structure OutboxSound (s : State) : Prop where
  stored : ∀ {commandId record}, s.store.outbox.get commandId = some record →
    Stored s.sentCommandIds commandId record
  transmits : ∀ t ∈ s.transmits, Uncompleted s.sentCommandIds t.record
  calls : ∀ call ∈ s.calls, CallSound s.sentCommandIds call.phase
  worker : WorkerSound s.sentCommandIds s.worker

variable {ids : List JsString} {commandId : JsString}

theorem Stored.uncompleted {record : OutboxRecord} (h : Stored ids commandId record) (hp : record.status = .pending) :
    Uncompleted ids record where
  pending := hp
  completion := by
    have hn : ¬ record.completion.isSome := fun hc => by
      rw [h.completed.mpr hc] at hp
      cases hp
    simpa using hn
  sent := h.keyed ▸ h.sent

theorem Stored.of_completion_none {record : OutboxRecord} (h : Stored ids commandId record)
    (hc : record.completion.isSome = false) : Uncompleted ids record := by
  refine h.uncompleted ?_
  cases hs : record.status with
  | pending => rfl
  | completed =>
    rw [h.completed.mp hs] at hc
    cases hc

structure Frame (s s' : State) : Prop where
  outbox : s'.store.outbox = s.store.outbox
  ids : s'.sentCommandIds = s.sentCommandIds
  transmits : ∀ t ∈ s'.transmits,
    (∃ t₀ ∈ s.transmits,t.record = t₀.record) ∨ Uncompleted s.sentCommandIds t.record
  calls : ∀ call ∈ s'.calls, call ∈ s.calls ∨ CallSound s.sentCommandIds call.phase
  worker : s'.worker = s.worker ∨ WorkerSound s.sentCommandIds s'.worker

theorem Frame.trans {m : State} (h : Frame s m) (h' : Frame m s') : Frame s s' where
  outbox := h'.outbox.trans h.outbox
  ids := h'.ids.trans h.ids
  transmits := by
    intro t ht
    rcases h'.transmits t ht with ⟨m₀,hm,he⟩ | hu
    · rcases h.transmits m₀ hm with ⟨t₀,ht₀,he'⟩ | hu
      · exact .inl ⟨t₀,ht₀,he.trans he'⟩
      · exact .inr (he ▸ hu)
    · exact .inr (h.ids ▸ hu)
  calls := by
    intro call hcall
    rcases h'.calls call hcall with hm | hs
    · exact h.calls call hm
    · exact .inr (h.ids ▸ hs)
  worker := by
    rcases h'.worker with hw | hw
    · rw [hw]
      exact h.worker
    · exact .inr (h.ids ▸ hw)

theorem Frame.after {m : State} (h' : Frame m s') (h : Frame s m) : Frame s s' := h.trans h'

theorem OutboxSound.of_frame (hs : s.OutboxSound) (h : Frame s s') : s'.OutboxSound where
  stored := by
    intro commandId record hget
    rw [h.outbox] at hget
    rw [h.ids]
    exact hs.stored hget
  transmits := by
    intro t ht
    rw [h.ids]
    rcases h.transmits t ht with ⟨t₀,ht₀,he⟩ | hu
    · exact he ▸ hs.transmits t₀ ht₀
    · exact hu
  calls := by
    intro call hcall
    rw [h.ids]
    exact (h.calls call hcall).elim (hs.calls call) id
  worker := by
    rw [h.ids]
    rcases h.worker with hw | hw
    · rw [hw]
      exact hs.worker
    · exact hw

theorem Frame.of_eq (ho : s'.store.outbox = s.store.outbox) (hi : s'.sentCommandIds = s.sentCommandIds)
    (ht : s'.transmits = s.transmits) (hc : s'.calls = s.calls)
    (hw : s'.worker = s.worker ∨ WorkerSound s.sentCommandIds s'.worker) : Frame s s' where
  outbox := ho
  ids := hi
  transmits := fun t h => .inl ⟨t,ht ▸ h,rfl⟩
  calls := fun _ h => .inl (hc ▸ h)
  worker := hw

theorem frame_addCall (h : CallSound s.sentCommandIds phase) :
    Frame s (s.addCall phase) where
  outbox := rfl
  ids := rfl
  transmits := fun t ht => .inl ⟨t,ht,rfl⟩
  calls := by
    intro call hcall
    rcases List.mem_append.mp hcall with hm | hm
    · exact .inl hm
    · rw [List.mem_singleton.mp hm]
      exact .inr h
  worker := .inl rfl

theorem frame_setCall (h : CallSound s.sentCommandIds phase) : Frame s (s.setCall id phase) where
  outbox := rfl
  ids := rfl
  transmits := fun t ht => .inl ⟨t,ht,rfl⟩
  calls := by
    intro call hcall
    obtain ⟨call₀,hm,rfl⟩ := List.mem_map.mp hcall
    split
    · exact .inr h
    · exact .inl hm
  worker := .inl rfl

theorem frame_endCall : Frame s (s.endCall id) where
  outbox := rfl
  ids := rfl
  transmits := fun t ht => .inl ⟨t,ht,rfl⟩
  calls := fun _ hcall => .inl (List.mem_filter.mp hcall).1
  worker := .inl rfl

theorem frame_addTransmit {t : Transmit} (h : Uncompleted s.sentCommandIds t.record) :
    Frame s (s.addTransmit t) where
  outbox := rfl
  ids := rfl
  transmits := by
    intro t' ht'
    rcases List.mem_append.mp ht' with hm | hm
    · exact .inl ⟨t',hm,rfl⟩
    · rw [List.mem_singleton.mp hm]
      exact .inr h
  calls := fun _ hcall => .inl hcall
  worker := .inl rfl

theorem frame_setTransmit (phase : TransmitPhase) : Frame s (s.setTransmit id phase) where
  outbox := rfl
  ids := rfl
  transmits := by
    intro t ht
    obtain ⟨t₀,hm,rfl⟩ := List.mem_map.mp ht
    refine .inl ⟨t₀,hm,?_⟩
    split <;> rfl
  calls := fun _ hcall => .inl hcall
  worker := .inl rfl

theorem frame_endTransmit : Frame s (s.endTransmit id) where
  outbox := rfl
  ids := rfl
  transmits := fun t ht => .inl ⟨t,(List.mem_filter.mp ht).1,rfl⟩
  calls := fun _ hcall => .inl hcall
  worker := .inl rfl

theorem frame_project (eventId : JsString) : Frame s (s.project t eventId) := by
  unfold project
  simp only
  split
  · have hset : Frame s ({ s with projection := _ }.setTransmit t.id .saving) :=
      (frame_setTransmit t.id .saving).after (.of_eq rfl rfl rfl rfl (.inl rfl))
    exact hset.trans (.of_eq rfl rfl rfl rfl (.inl rfl))
  · exact (frame_endTransmit t.id).after (.of_eq rfl rfl rfl rfl (.inl rfl))

theorem frame_startTransmit {record : OutboxRecord} (h : Uncompleted s.sentCommandIds record) :
    Frame s (s.startTransmit record) := by
  unfold startTransmit
  simp only
  split
  · exact (frame_addTransmit h).trans (frame_project _ _)
  · exact frame_addTransmit h

theorem frame_foldl_startTransmit {records : List OutboxRecord}
    (h : ∀ record ∈ records,Uncompleted s.sentCommandIds record) : Frame s (records.foldl startTransmit s) := by
  induction records generalizing s with
  | nil => exact .of_eq rfl rfl rfl rfl (.inl rfl)
  | cons record records ih =>
    have hstart := frame_startTransmit (h record List.mem_cons_self)
    refine hstart.trans (ih fun r hr => ?_)
    rw [hstart.ids]
    exact h r (List.mem_cons_of_mem _ hr)

theorem frame_resumeRecovered {record : OutboxRecord}
    (h : Stored s.sentCommandIds record.command.commandId record) : Frame s (s.resumeRecovered record) := by
  unfold resumeRecovered
  simp only
  split
  · exact .of_eq rfl rfl rfl rfl (.inl rfl)
  · next hc =>
    have hu := h.of_completion_none (by simpa using hc)
    have hobserve : Frame s (s.addObserver record.command.commandId) := .of_eq rfl rfl rfl rfl (.inl rfl)
    split
    · exact hobserve
    · exact hobserve.trans (frame_startTransmit hu)

theorem frame_finishItem (changed : Bool) (raw : RawEvent) (rest : List InboxRecord) :
    Frame s (s.finishItem changed raw rest) := by
  unfold finishItem
  split <;> exact .of_eq rfl rfl rfl rfl (.inr trivial)

theorem frame_projectOutcome (outcome : RawOutcome) (raw : RawEvent) (rest : List InboxRecord) :
    Frame s (s.projectOutcome host outcome raw rest) := by
  unfold projectOutcome
  split
  · exact frame_finishItem false raw rest
  · exact .of_eq rfl rfl rfl rfl (.inr trivial)
  · exact (frame_finishItem _ raw rest).after (.of_eq rfl rfl rfl rfl (.inl rfl))
  · unfold projectEvent
    split
    · exact .of_eq rfl rfl rfl rfl (.inr trivial)
    · simp only
      split
      · exact .of_eq rfl rfl rfl rfl (.inr trivial)
      · exact (frame_finishItem _ raw rest).after (.of_eq rfl rfl rfl rfl (.inl rfl))

theorem OutboxSound.put (hs : s.OutboxSound) {record : OutboxRecord}
    (hr : Stored s.sentCommandIds record.command.commandId record) :
    { s with store := s.store.putOutbox record }.OutboxSound := by
  refine ⟨fun {commandId r} hget => ?_,hs.transmits,hs.calls,hs.worker⟩
  simp only [Store.putOutbox,InsertionMap.get_set] at hget
  split at hget
  · next he =>
    cases hget
    exact he ▸ hr
  · exact hs.stored hget

theorem OutboxSound.resumeCall (hs : s.OutboxSound) {id : ℕ} (ok : Bool) (hcall : CallSound s.sentCommandIds phase) :
    (s.resumeCall id phase ok).OutboxSound := by
  have ended : Frame s (s.endCall id) := frame_endCall id
  cases phase with
  | sent record =>
    have hobserve : Frame s ((s.endCall id).addObserver record.command.commandId) :=
      ended.trans (.of_eq rfl rfl rfl rfl (.inl rfl))
    exact hs.of_frame (hobserve.trans (frame_startTransmit hcall))
  | recovered record => exact hs.of_frame (ended.trans (frame_resumeRecovered hcall))
  | retrying records => exact hs.of_frame (ended.trans (frame_foldl_startTransmit hcall))
  | releasing | looked =>
    simp only [State.resumeCall]
    split
    · exact hs.of_frame ended
    · exact hs.of_frame (Frame.after (frame_setCall id (by exact trivial)) (.of_eq rfl rfl rfl rfl (.inl rfl)))
  | deleting commandId =>
    cases ok with
    | true =>
      have hdeleted : { s with store := s.store.deleteOutbox commandId }.OutboxSound := by
        refine ⟨fun {commandId' r} hget => ?_,hs.transmits,hs.calls,hs.worker⟩
        simp only [Store.deleteOutbox,InsertionMap.get_delete] at hget
        split at hget
        · cases hget
        · exact hs.stored hget
      exact hdeleted.of_frame (frame_endCall id)
    | false => exact hs.of_frame ended
  | present raw =>
    simp only [State.resumeCall]
    split
    · exact hs.of_frame ended
    · exact hs.of_frame (frame_setCall id (by exact trivial))
  | looking raw => exact hs.of_frame (frame_setCall id (by exact trivial))
  | marking raw =>
    simp only [State.resumeCall]
    split
    · next store hstore =>
      split
      · exact hs.of_frame (Frame.after (frame_setCall id (by exact trivial))
          (.of_eq (outbox_of_updateInbox hstore) rfl rfl rfl (.inl rfl)))
      · exact hs.of_frame ended
    · exact hs.of_frame ended
  | ingested =>
    have hend : Frame _ ({ s with drains := s.drains + 1 }.endCall id) := frame_endCall id
    exact hs.of_frame (hend.after (.of_eq rfl rfl rfl rfl (.inl rfl)))

theorem OutboxSound.stepWorker (hs : s.OutboxSound) (h : s.stepWorker host ok = some s') : s'.OutboxSound := by
  unfold State.stepWorker at h
  split at h
  · split at h
    · cases h
    · cases h
      exact hs.of_frame (.of_eq rfl rfl rfl rfl (.inr trivial))
  · cases h
    exact hs.of_frame (.of_eq rfl rfl rfl rfl (.inr trivial))
  · cases h
    exact hs.of_frame (.of_eq rfl rfl rfl rfl (.inr trivial))
  · cases h
    exact hs.of_frame (frame_projectOutcome _ _ _)
  · split at h
    · next recording hworker record hget =>
      cases h
      have hstored := hs.stored hget
      exact hs.of_frame (.of_eq rfl rfl rfl rfl (.inr ⟨rfl,rfl,hstored.keyed,hstored.sent⟩))
    · cases h
      exact hs.of_frame (.of_eq rfl rfl rfl rfl (.inr trivial))
  · next recording record hworker =>
    have hw := hs.worker
    rw [hworker] at hw
    obtain ⟨hstatus,hcompletion,hkeyed,hsent⟩ := hw
    split at h
    · cases h
      have hput := hs.put ⟨rfl,hkeyed ▸ hsent,by simp [hstatus,hcompletion]⟩
      exact hput.of_frame (.of_eq rfl rfl rfl rfl (.inr trivial))
    · cases h
      exact hs.of_frame (.of_eq rfl rfl rfl rfl (.inr trivial))
  · cases h
    exact hs.of_frame ((frame_finishItem _ _ _).after (.of_eq rfl rfl rfl rfl (.inl rfl)))
  · cases h
  · split at h <;> cases h <;> exact hs.of_frame (.of_eq rfl rfl rfl rfl (.inr trivial))
  · split at h
    · next store hstore =>
      split at h <;> cases h
      · exact hs.of_frame (.of_eq (outbox_of_updateInbox hstore) rfl rfl rfl (.inr trivial))
      · exact hs.of_frame (.of_eq rfl rfl rfl rfl (.inr trivial))
    · cases h
      exact hs.of_frame (.of_eq rfl rfl rfl rfl (.inr trivial))

theorem frame_resumeSaver (saver : Saver) (ok : Bool) : Frame s (s.resumeSaver saver ok) := by
  unfold resumeSaver
  split
  · exact frame_endTransmit _
  · split
    · split <;> exact .of_eq rfl rfl rfl rfl (.inr trivial)
    · exact .of_eq rfl rfl rfl rfl (.inl rfl)

theorem outboxSound_started {store : Store}
    (h : ∀ {commandId record},store.outbox.get commandId = some record → Stored ids commandId record) :
    (started host store ids).OutboxSound where
  stored := by
    intro commandId record hget
    rw [outbox_started] at hget
    exact h hget
  transmits := fun t ht => (nomatch ht)
  calls := fun call hcall => (nomatch hcall)
  worker := trivial

theorem OutboxSound.step (hs : s.OutboxSound) (h : s.step host action = some s') : s'.OutboxSound := by
  cases action with
  | acceptKeyGrant | observeCompletion | drainInbox =>
    cases h
    exact hs.of_frame (.of_eq rfl rfl rfl rfl (.inl rfl))
  | sendCommand command content =>
    simp only [State.step,sendCommand] at h
    split at h
    · cases h
    · split at h
      · cases h
        exact hs
      · cases h
        have hmono : ∀ {c},c ∈ s.sentCommandIds → c ∈ s.sentCommandIds ++ [command.commandId] :=
          fun hc => List.mem_append_left _ hc
        have hsent : { s with sentCommandIds := s.sentCommandIds ++ [command.commandId] }.OutboxSound := by
          refine ⟨fun hget => ?_,fun t ht => ?_,fun call hcall => ?_,?_⟩
          · obtain ⟨hkeyed,hin,hcompleted⟩ := hs.stored hget
            exact ⟨hkeyed,hmono hin,hcompleted⟩
          · obtain ⟨hpending,hcompletion,hin⟩ := hs.transmits t ht
            exact ⟨hpending,hcompletion,hmono hin⟩
          · have hphase := hs.calls call hcall
            cases hp : call.phase with
            | sent record =>
              rw [hp] at hphase
              exact ⟨hphase.pending,hphase.completion,hmono hphase.sent⟩
            | recovered record =>
              rw [hp] at hphase
              exact ⟨hphase.keyed,hmono hphase.sent,hphase.completed⟩
            | retrying records =>
              rw [hp] at hphase
              exact fun r hr => ⟨(hphase r hr).pending,(hphase r hr).completion,hmono (hphase r hr).sent⟩
            | _ => trivial
          · have hw := hs.worker
            cases hp : s.worker with
            | completing recording record =>
              rw [hp] at hw
              exact ⟨hw.1,hw.2.1,hw.2.2.1,hmono hw.2.2.2⟩
            | _ => trivial
        have hin : command.commandId ∈ s.sentCommandIds ++ [command.commandId] := by simp
        have hput := @OutboxSound.put _ hsent (outboxRecord command content) ⟨rfl,hin,by simp [outboxRecord]⟩
        exact hput.of_frame (frame_addCall ⟨rfl,rfl,hin⟩)
  | recover commandId =>
    cases h
    simp only [recover]
    split
    · exact hs
    · next record hget =>
      have hstored := hs.stored hget
      have hsound : CallSound s.sentCommandIds (.recovered record) :=
        ⟨rfl,hstored.keyed ▸ hstored.sent,hstored.completed⟩
      exact hs.of_frame (frame_addCall hsound)
  | retryPending =>
    cases h
    refine hs.of_frame (frame_addCall fun record hr => ?_)
    obtain ⟨hvalue,hpending⟩ := List.mem_filter.mp hr
    obtain ⟨commandId,hget⟩ := InsertionMap.mem_values.mp hvalue
    exact (hs.stored hget).uncompleted (by simpa using hpending)
  | release commandId =>
    cases h
    simp only [release]
    split
    · exact hs
    · exact hs.of_frame (frame_addCall (by exact trivial))
  | ingest raw =>
    cases h
    simp only [ingest]
    split
    · exact hs
    · split
      · exact hs.of_frame (frame_addCall (by exact trivial))
      · exact hs.of_frame ((frame_addCall (by exact trivial)).after (.of_eq rfl rfl rfl rfl (.inl rfl)))
  | resume id ok =>
    obtain ⟨call,hcall,rfl⟩ := map_eq_some_iff.mp h
    exact hs.resumeCall ok (hs.calls call (List.mem_of_find?_eq_some hcall))
  | observe id =>
    obtain ⟨o,-,hstep⟩ := bind_eq_some_iff.mp h
    unfold stepObserver at hstep
    split at hstep <;> cases hstep <;> exact hs.of_frame (.of_eq rfl rfl rfl rfl (.inl rfl))
  | transmit id ok =>
    obtain ⟨t,ht,hstep⟩ := bind_eq_some_iff.mp h
    have hu := hs.transmits t (List.mem_of_find?_eq_some ht)
    unfold stepTransmit at hstep
    split at hstep
    · cases hstep
    · next eventId hphase =>
      split at hstep
      · cases hstep
        have hput := @OutboxSound.put _ hs { t.record with matrixEventId := some eventId }
          ⟨rfl,hu.sent,by simp [hu.pending,hu.completion]⟩
        exact hput.of_frame (frame_setTransmit t.id _)
      · cases hstep
        exact hs.of_frame (frame_endTransmit t.id)
    · cases hstep
      exact hs.of_frame (frame_project t _)
    · cases hstep
  | respond id eventId =>
    obtain ⟨t,-,hstep⟩ := bind_eq_some_iff.mp h
    unfold respond at hstep
    split at hstep
    · cases hstep
    · split at hstep <;> cases hstep
      · exact hs.of_frame (frame_setTransmit t.id _)
      · exact hs.of_frame (frame_endTransmit t.id)
  | work ok => exact hs.stepWorker h
  | beginSave =>
    simp only [State.step,beginSave] at h
    split at h
    · cases h
    · cases h
      exact hs.of_frame (.of_eq rfl rfl rfl rfl (.inl rfl))
  | endSave ok =>
    simp only [State.step,endSave] at h
    split at h
    · cases h
      refine hs.of_frame (Frame.trans ?_ (frame_resumeSaver _ ok))
      refine .of_eq ?_ rfl rfl rfl (.inl rfl)
      cases ok <;> rfl
    · cases h
  | restart =>
    cases h
    exact outboxSound_started hs.stored

end State

end Malink.Client
