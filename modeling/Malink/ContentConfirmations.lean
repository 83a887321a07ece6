import Malink.ContentLayer
import Malink.OutboxCalls

/-!
# Confirmations settle

A confirmation belongs to a pending delivery, and is settled by the call that closes it. A delivery that is superseded
already is never closed again, and a confirmation for it waits for ever.
-/

namespace Malink.Content

open Outbox List InsertionMap Option

/-- What a caller passes on to the outbox fits what it does with the result. -/
def Call.Coherent (call : Call) : Prop :=
  match call.continuation with
  | .enqueue d => call.operation = .stage d
  | .send d => call.operation = .stage d
  | .publish d => call.operation = .stage d
  | .classify => ∃ cs now, call.operation = .classifyMany cs now
  | .delivered job eventId => ∃ now, call.operation = .markDelivered job.delivery.deliveryId eventId now
  | .confirmed deliveryId eventId => ∃ now, call.operation = .markDelivered deliveryId eventId now
  | .dropped job reason => ∃ now, call.operation = .markSuperseded job.delivery.deliveryId reason now
  | .oversized deliveryId reason _ => ∃ now, call.operation = .markSuperseded deliveryId reason now

/-- The deliveries that the running call closes, and whose confirmations it settles when it returns. -/
def ContentLayer.closing (o : Options) (s : ContentLayer) : List JsString :=
  match s.running with
  | none => []
  | some r => r.call.operation.closes o r.start r.compactedAt

/-- A confirmation that a caller holds is settled, or it belongs to a pending delivery, or the outbox call
under way is about to settle it. The keys of the table are pending in the same sense. -/
structure EveryConfirmationSettles (o : Options) (s : ContentLayer) : Prop where
  handedOut : ∀ c ∈ s.handedOut, (∃ result,(c.promise,result) ∈ s.settled) ∨
    s.outbox.isPending c.deliveryId ∨ c.deliveryId ∈ s.closing o
  keys : ∀ id ∈ s.deliveryConfirmations.keys, s.outbox.isPending id ∨ id ∈ s.closing o

/-- The states of a process over an outbox, whose actions all satisfy a condition. -/
inductive Reaches (o : Options) (allowed : ContentLayer → Action → Prop) (outbox : Memory) :
    ContentLayer → Prop
  | start : Reaches o allowed outbox (.start outbox)
  | step {s s' : ContentLayer} (action : Action) : Reaches o allowed outbox s → allowed s action →
      s.step o action = some s' → Reaches o allowed outbox s'

/-- No call hands out a confirmation for a delivery that the outbox has superseded before the call begins. -/
def EnqueuesNothingSuperseded (s : ContentLayer) : Action → Prop
  | .begin _ => ∀ call d, s.running = none → s.chain.head? = some call → call.continuation = .enqueue d →
      isSuperseded s.outbox d.deliveryId = false
  | _ => True

/-- The confirmations of some deliveries are settled, and nothing else happens to confirmations. -/
structure Settles (ids : List JsString) (s s' : ContentLayer) : Prop where
  outbox : s'.outbox = s.outbox
  running : s'.running = s.running
  handedOut : s'.handedOut = s.handedOut
  chain : ∀ call ∈ s'.chain, call ∈ s.chain ∨ call.Coherent
  confirmations : ∀ id, s'.deliveryConfirmations.get id =
    if id ∈ ids then none else s.deliveryConfirmations.get id
  settled : ∀ e ∈ s.settled, e ∈ s'.settled
  settles : ∀ id promise, id ∈ ids → s.deliveryConfirmations.get id = some promise →
    ∃ result, (promise,result) ∈ s'.settled

variable {s s' : ContentLayer} {ids : List JsString} {now : Timestamp}

theorem Settles.of_eq (houtbox : s'.outbox = s.outbox)
    (hrunning : s'.running = s.running) (hhanded : s'.handedOut = s.handedOut) (hchain : s'.chain = s.chain)
    (hconfirmations : s'.deliveryConfirmations = s.deliveryConfirmations) (hsettled : s'.settled = s.settled) :
    Settles [] s s' where
  outbox := houtbox
  running := hrunning
  handedOut := hhanded
  chain _ hcall := .inl (hchain ▸ hcall)
  confirmations id := by rw [hconfirmations]; simp
  settled _ he := hsettled ▸ he
  settles _ _ hid := by cases hid

theorem Settles.refl (s : ContentLayer) : Settles [] s s := .of_eq rfl rfl rfl rfl rfl rfl

variable {s'' : ContentLayer}

theorem Settles.trans {ids' : List JsString} (h : Settles ids s s') (h' : Settles ids' s' s'') :
    Settles (ids ++ ids') s s'' where
  outbox := h'.outbox.trans h.outbox
  running := h'.running.trans h.running
  handedOut := h'.handedOut.trans h.handedOut
  chain call hcall := (h'.chain call hcall).elim (h.chain call) .inr
  confirmations id := by
    rw [h'.confirmations,h.confirmations]
    by_cases hid : id ∈ ids <;> by_cases hid' : id ∈ ids' <;> simp [hid,hid']
  settled e he := h'.settled e (h.settled e he)
  settles id promise hid hp := by
    by_cases hin : id ∈ ids
    · obtain ⟨result,hr⟩ := h.settles id promise hin hp
      exact ⟨result,h'.settled _ hr⟩
    · refine h'.settles id promise ((mem_append.mp hid).resolve_left hin) ?_
      rw [h.confirmations,if_neg hin]
      exact hp

theorem Settles.keep (h : Settles ids s s') (h' : Settles [] s' s'') : Settles ids s s'' := by
  have htrans := h.trans h'
  rwa [append_nil] at htrans

variable {action : Action}

namespace ContentLayer

theorem settles_finishDeliveryJob (s : ContentLayer) (job : MatrixDeliveryJob) :
    Settles [] s (s.finishDeliveryJob job) := by
  unfold finishDeliveryJob
  split
  · exact .of_eq rfl rfl rfl rfl rfl rfl
  · exact .refl s

theorem settles_scheduleRetry (s : ContentLayer) (roomId : JsString) : Settles [] s (s.scheduleRetry roomId) := by
  unfold scheduleRetry
  split
  · exact .refl s
  · exact .of_eq rfl rfl rfl rfl rfl rfl

theorem settles_pauseQueuedAttempts (s : ContentLayer) : Settles [] s s.pauseQueuedAttempts := by
  have hfold : ∀ (jobs : List MatrixDeliveryJob) (t : ContentLayer),Settles [] t
      (jobs.foldl (fun t job => (t.finishDeliveryJob job).scheduleRetry job.delivery.roomId) t) := by
    intro jobs
    induction jobs with
    | nil => exact .refl
    | cons job jobs ih =>
      intro t
      exact ((settles_finishDeliveryJob t job).keep (settles_scheduleRetry _ _)).keep (ih _)
  have h := hfold s.deliveryQueue.values s
  exact ⟨h.outbox,h.running,h.handedOut,h.chain,h.confirmations,h.settled,h.settles⟩

/-- A confirmation is resolved or rejected, if there is one. -/
theorem settles_settle (s : ContentLayer) (id : JsString) (result : Except JsString JsString) :
    Settles [id] s (match s.deliveryConfirmations.get id with
      | none => s
      | some promise => { s with
          deliveryConfirmations := s.deliveryConfirmations.delete id
          settled := (promise,result) :: s.settled }) := by
  cases hget : s.deliveryConfirmations.get id with
  | none =>
    refine ⟨rfl,rfl,rfl,fun _ h => .inl h,fun k => ?_,fun _ h => h,fun k p hk hp => ?_⟩
    · by_cases hk : k = id <;> simp [hk,hget]
    · rw [mem_singleton.mp hk,hget] at hp
      cases hp
  | some promise =>
    refine ⟨rfl,rfl,rfl,fun _ h => .inl h,fun k => ?_,fun _ h => mem_cons_of_mem _ h,
      fun k p hk hp => ?_⟩
    · simp only [get_delete,mem_singleton]
    · rw [mem_singleton.mp hk,hget] at hp
      cases hp
      exact ⟨_,mem_cons_self⟩

theorem settles_resolveConfirmation (s : ContentLayer) (id eventId : JsString) :
    Settles [id] s (s.resolveConfirmation id eventId) :=
  settles_settle s id (.ok eventId)

theorem settles_rejectConfirmation (s : ContentLayer) (id error : JsString) :
    Settles [id] s (s.rejectConfirmation id error) :=
  settles_settle s id (.error error)

theorem settles_unqueue (s : ContentLayer) (id : JsString) : Settles [] s (s.unqueue id) := by
  unfold unqueue
  split
  · exact .refl s
  · next job _ =>
    have hdelete : Settles [] s { s with deliveryQueue := s.deliveryQueue.delete id } := .of_eq rfl rfl rfl rfl rfl rfl
    exact hdelete.keep (settles_finishDeliveryJob _ job)

theorem settles_rejectSupersededConfirmations (s : ContentLayer) (ids : List JsString) :
    Settles ids s (s.rejectSupersededConfirmations ids) := by
  induction ids generalizing s with
  | nil => exact .refl s
  | cons id ids ih =>
    exact ((settles_rejectConfirmation s id _).keep (settles_unqueue _ id)).trans (ih _)

theorem settles_deliver (s : ContentLayer) (d : Delivery) : Settles [] s (s.deliver d) := by
  unfold deliver
  split
  · exact .refl s
  split
  · exact .refl s
  split
  · exact .refl s
  · unfold ensureDeliveryPump
    split <;> exact .of_eq rfl rfl rfl rfl rfl rfl

theorem settles_request (s : ContentLayer) {operation : Operation} {continuation : Continuation}
    (h : Call.Coherent ⟨operation,continuation⟩) : Settles [] s (s.request operation continuation) := by
  refine ⟨rfl,rfl,rfl,fun call hcall => ?_,fun id => ?_,fun _ h => h,fun _ _ h => by cases h⟩
  · rcases mem_append.mp hcall with hcall | hcall
    · exact .inl hcall
    · rw [mem_singleton.mp hcall]
      exact .inr h
  · rw [if_neg (by simp)]
    rfl

theorem settles_retryDeliveries (s : ContentLayer) (now : Timestamp) (ds : List Delivery) :
    Settles [] s (s.retryDeliveries now ds) := by
  induction ds generalizing s with
  | nil => exact .refl s
  | cons d ds ih =>
    unfold retryDeliveries
    split
    · exact settles_request s ⟨_,rfl⟩
    · exact (settles_deliver s d).keep (ih _)

theorem settles_throwInto (s : ContentLayer) (continuation : Continuation) :
    Settles [] s (s.throwInto continuation) := by
  cases continuation with
  | delivered job eventId =>
    have h := ((settles_finishDeliveryJob s job).keep (settles_pauseQueuedAttempts _)).keep
      (settles_scheduleRetry _ job.delivery.roomId)
    exact ⟨h.outbox,h.running,h.handedOut,h.chain,h.confirmations,h.settled,h.settles⟩
  | dropped job reason =>
    have h := settles_pauseQueuedAttempts s
    exact ⟨h.outbox,h.running,h.handedOut,h.chain,h.confirmations,h.settled,h.settles⟩
  | _ => exact .refl s

theorem settles_take (h : s.take = some s') : Settles [] s s' := by
  unfold take at h
  split at h
  · split at h
    · cases h
      exact .of_eq rfl rfl rfl rfl rfl rfl
    · next job _ =>
      have hdelete : Settles [] s { s with deliveryQueue := s.deliveryQueue.delete job.delivery.deliveryId } :=
        .of_eq rfl rfl rfl rfl rfl rfl
      simp only at h
      split at h
      · cases h
        exact hdelete.keep (settles_finishDeliveryJob _ job)
      · cases h
        exact .of_eq rfl rfl rfl rfl rfl rfl
  · cases h

theorem settles_accept {eventId : JsString} (h : s.accept eventId now = some s') : Settles [] s s' := by
  unfold accept at h
  split at h
  · next job _ =>
    cases h
    have hpump : Settles [] s { s with deliveryPump := .completing job } := .of_eq rfl rfl rfl rfl rfl rfl
    exact hpump.keep (settles_request _ ⟨_,rfl⟩)
  · cases h

theorem settles_reject {error : SendError} (h : s.reject error now = some s') : Settles [] s s' := by
  unfold reject at h
  split at h
  · next job _ =>
    have hfinish := settles_finishDeliveryJob s job
    simp only at h
    split at h
    · cases h
      have hpump : Settles [] (s.finishDeliveryJob job)
          { s.finishDeliveryJob job with deliveryPump := .dropping job } :=
        .of_eq rfl rfl rfl rfl rfl rfl
      exact (hfinish.keep hpump).keep (settles_request _ ⟨_,rfl⟩)
    · cases h
      have hpause := (hfinish.keep (settles_pauseQueuedAttempts _)).keep (settles_scheduleRetry _ job.delivery.roomId)
      exact ⟨hpause.outbox,hpause.running,hpause.handedOut,hpause.chain,hpause.confirmations,
        hpause.settled,hpause.settles⟩
  · cases h

/-- The actions that are not about an outbox call leave the confirmations alone. -/
theorem settles_step {o : Options} (h : s.step o action = some s')
    (hbegin : ∀ compactedAt,action ≠ .begin compactedAt) (hwrite : action ≠ .write)
    (hfinish : ∀ now,action ≠ .finish now) : Settles [] s s' := by
  cases action with
  | enqueueEvent | enqueueStateEvent | sendEvent | publishState =>
    cases h
    exact settles_request s rfl
  | deliverPrevious roomId eventType stateKey =>
    obtain ⟨d,-,rfl⟩ := map_eq_some_iff.mp h
    exact settles_deliver s _
  | classifyPendingEvents cs now =>
    cases h
    exact settles_request s ⟨_,_,rfl⟩
  | retryPending roomId now =>
    cases h
    exact settles_retryDeliveries s now _
  | confirmTimelineDelivery roomId eventId content now =>
    cases h
    unfold confirmTimelineDelivery
    split
    · exact .refl s
    · exact settles_request s ⟨_,rfl⟩
  | fireTimer roomId now =>
    unfold step fireTimer at h
    simp only at h
    split at h
    · cases h
      have htimer : Settles [] s { s with retryTimers := s.retryTimers.filter (fun r => decide (r ≠ roomId)) } :=
        .of_eq rfl rfl rfl rfl rfl rfl
      exact htimer.keep (settles_retryDeliveries _ now _)
    · cases h
  | stopRetries =>
    cases h
    exact .of_eq rfl rfl rfl rfl rfl rfl
  | begin compactedAt => exact absurd rfl (hbegin compactedAt)
  | write => exact absurd rfl hwrite
  | finish now => exact absurd rfl (hfinish now)
  | take => exact settles_take h
  | accept eventId now => exact settles_accept h
  | reject error now => exact settles_reject h

end ContentLayer

/-- A call under way: what it found when it began, and the memory between two of its writes. -/
structure RunningCall.Sound (o : Options) (r : RunningCall) (outbox : Memory) : Prop where
  wellFormed : WellFormed r.start
  oneState : OneState r.start
  coherent : r.call.Coherent
  outbox_eq : outbox = r.call.operation.memoryAt o r.start r.compactedAt r.written

structure ContentLayer.Sound (o : Options) (s : ContentLayer) : Prop where
  wellFormed : WellFormed s.outbox
  oneState : OneState s.outbox
  chain : ∀ call ∈ s.chain, call.Coherent
  running : ∀ r, s.running = some r → r.Sound o s.outbox

def ContentLayer.base (s : ContentLayer) : Memory :=
  match s.running with
  | none => s.outbox
  | some r => r.start

/-- Confirmations are kept for deliveries that were pending when the running call began. -/
structure ContentLayer.Confirms (s : ContentLayer) : Prop where
  keys : ∀ id promise, s.deliveryConfirmations.get id = some promise → s.base.isPending id
  handedOut : ∀ c ∈ s.handedOut, (∃ result,(c.promise,result) ∈ s.settled) ∨
    s.deliveryConfirmations.get c.deliveryId = some c.promise
  open_enqueue : ∀ r d, s.running = some r → r.call.continuation = .enqueue d →
    isSuperseded r.start d.deliveryId = false

variable {o : Options} {s s' : ContentLayer}

theorem ContentLayer.Sound.settles (h : s.Sound o) (hs : Settles ids s s') :
    s'.Sound o where
  wellFormed := hs.outbox ▸ h.wellFormed
  oneState := hs.outbox ▸ h.oneState
  chain call hcall := (hs.chain call hcall).elim (h.chain call) id
  running r hr := hs.outbox ▸ h.running r (hs.running ▸ hr)

theorem ContentLayer.Confirms.settles (h : s.Confirms) (hs : Settles ids s s') :
    s'.Confirms where
  keys id promise hp := by
    rw [hs.confirmations] at hp
    split at hp
    · cases hp
    · have hbase : s'.base = s.base := by
        unfold ContentLayer.base
        rw [hs.running,hs.outbox]
      rw [hbase]
      exact h.keys id promise hp
  handedOut c hc := by
    rw [hs.handedOut] at hc
    rcases h.handedOut c hc with ⟨result,hr⟩ | hp
    · exact .inl ⟨result,hs.settled _ hr⟩
    · by_cases hid : c.deliveryId ∈ ids
      · exact .inl (hs.settles _ _ hid hp)
      · right
        rw [hs.confirmations,if_neg hid]
        exact hp
  open_enqueue r d hr := h.open_enqueue r d (hs.running ▸ hr)

theorem ContentLayer.Confirms.everyConfirmationSettles (hsound : s.Sound o) (h : s.Confirms) :
    EveryConfirmationSettles o s := by
  have hkey : ∀ id promise,s.deliveryConfirmations.get id = some promise →
      s.outbox.isPending id ∨ id ∈ s.closing o := by
    intro id promise hp
    have hpending := h.keys id promise hp
    unfold ContentLayer.base at hpending
    unfold ContentLayer.closing
    cases hr : s.running with
    | none =>
      rw [hr] at hpending
      exact .inl hpending
    | some r =>
      rw [hr] at hpending
      have hrunning := hsound.running r hr
      obtain ⟨d,hd⟩ := has_iff.mp hpending
      rw [hrunning.outbox_eq]
      rcases (advances_memoryAt hrunning.wellFormed hrunning.oneState o r.compactedAt r.written
        r.call.operation).pending id d hd with ⟨d',hd',-⟩ | ⟨hclosed,-⟩
      · exact .inl (has_iff.mpr ⟨d',hd'⟩)
      · exact .inr hclosed
  refine ⟨fun c hc => ?_,fun id hid => ?_⟩
  · rcases h.handedOut c hc with hsettled | hp
    · exact .inl hsettled
    · exact .inr (hkey _ _ hp)
  · obtain ⟨promise,hp⟩ := has_iff.mp (has_iff_mem_keys.mpr hid)
    exact hkey id promise hp

theorem ContentLayer.closing_none (h : s.running = none) : s.closing o = [] := by
  unfold closing
  rw [h]

theorem ContentLayer.Confirms.of_settles (hnone : s.running = none)
    (hkeys : ∀ id promise,s.deliveryConfirmations.get id = some promise → s.outbox.isPending id ∨ id ∈ ids)
    (hhanded : ∀ c ∈ s.handedOut,(∃ result,(c.promise,result) ∈ s.settled) ∨
      s.deliveryConfirmations.get c.deliveryId = some c.promise) (hs : Settles ids s s') : s'.Confirms where
  keys id promise hp := by
    rw [hs.confirmations] at hp
    unfold ContentLayer.base
    rw [hs.running,hnone,hs.outbox]
    split at hp
    · cases hp
    · next hid => exact (hkeys id promise hp).resolve_right hid
  handedOut c hc := by
    rw [hs.handedOut] at hc
    rcases hhanded c hc with ⟨result,hr⟩ | hp
    · exact .inl ⟨result,hs.settled _ hr⟩
    · by_cases hid : c.deliveryId ∈ ids
      · exact .inl (hs.settles _ _ hid hp)
      · right
        rw [hs.confirmations,if_neg hid]
        exact hp
  open_enqueue r d hr := by
    rw [hs.running,hnone] at hr
    cases hr

/-- A confirmation is handed out for a delivery that is pending or delivered. -/
theorem ContentLayer.Confirms.confirmationFor (h : s.Confirms) (hnone : s.running = none) {id : JsString}
    (hid : s.outbox.receipt id = none → s.outbox.isPending id) : (s.confirmationFor id).Confirms := by
  unfold ContentLayer.confirmationFor
  cases hr : s.outbox.receipt id with
  | some eventId =>
    refine ⟨h.keys,fun c hc => ?_,h.open_enqueue⟩
    rcases mem_cons.mp hc with rfl | hc
    · exact .inl ⟨_,mem_cons_self⟩
    · rcases h.handedOut c hc with ⟨result,hres⟩ | hp
      · exact .inl ⟨result,mem_cons_of_mem _ hres⟩
      · exact .inr hp
  | none =>
    cases hp : s.deliveryConfirmations.get id with
    | some promise =>
      refine ⟨h.keys,fun c hc => ?_,h.open_enqueue⟩
      rcases mem_cons.mp hc with rfl | hc
      · exact .inr hp
      · exact h.handedOut c hc
    | none =>
      refine ⟨fun k promise hk => ?_,fun c hc => ?_,h.open_enqueue⟩
      · have hbase : s.base = s.outbox := by
          unfold ContentLayer.base
          rw [hnone]
        show s.base.isPending k = true
        rw [get_set] at hk
        split at hk
        · next heq =>
          rw [hbase,heq]
          exact hid hr
        · exact h.keys k promise hk
      · rcases mem_cons.mp hc with rfl | hc
        · exact .inr (get_set_self _ _ _)
        · rcases h.handedOut c hc with hsettled | hk
          · exact .inl hsettled
          · right
            have hne : c.deliveryId ≠ id := by
              rintro heq
              rw [heq,hp] at hk
              cases hk
            exact (get_set_of_ne _ _ hne).trans hk

/-- A delivery that is staged, and neither superseded before nor by this call, is pending or delivered. -/
theorem pending_or_delivered_of_stage {m : Memory} (hm : WellFormed m) (hone : OneState m) (d : Delivery)
    (compactedAt : Timestamp) (hopen : isSuperseded m d.deliveryId = false)
    (hnot : d.deliveryId ∉ (stage o m d compactedAt).1)
    (hreceipt : (lastMemory m (stage o m d compactedAt).2).receipt d.deliveryId = none) :
    (lastMemory m (stage o m d compactedAt).2).isPending d.deliveryId := by
  by_cases hfresh : m.pendingEntries.has d.deliveryId = false ∧ m.terminal.has d.deliveryId = false
  · obtain ⟨hp,-,-⟩ := status_stage hm hone hfresh.1 hfresh.2 o compactedAt d.deliveryId
    have hown : d.deliveryId ∉ (if supersedesItself m d then [d.deliveryId] else []) := by
      intro hmem
      apply hnot
      simp only [stage,hfresh.1,hfresh.2,Bool.or_false,Bool.false_eq_true,if_false]
      exact mem_append_right _ hmem
    rw [if_neg hown,if_pos rfl] at hp
    exact has_iff.mpr ⟨d,hp⟩
  · rw [stage_known hfresh] at hreceipt ⊢
    change m.receipt d.deliveryId = none at hreceipt
    show m.isPending d.deliveryId = true
    by_contra hpending
    have hterminal : m.terminal.has d.deliveryId := by
      by_contra hterminal
      exact hfresh ⟨by simpa [Memory.isPending] using hpending,by simpa using hterminal⟩
    simp [isSuperseded,hterminal,Memory.isDelivered,hreceipt] at hopen

variable {compactedAt : Timestamp}

theorem ContentLayer.sound_begin (h : s.Sound o) (hs : s.begin o compactedAt = some s') : s'.Sound o := by
  unfold ContentLayer.begin at hs
  split at hs
  · next call calls hnone hchain =>
    have hcall : ∀ c ∈ call :: calls,c.Coherent := fun c hc => h.chain c (hchain ▸ hc)
    split at hs
    · cases hs
      have htail : ContentLayer.Sound o { s with chain := calls } :=
        ⟨h.wellFormed,h.oneState,fun c hc => hcall c (mem_cons_of_mem _ hc),h.running⟩
      exact htail.settles (settles_throwInto _ _)
    · cases hs
      refine ⟨wellFormed_memoryAt h.wellFormed h.oneState o compactedAt 0 _,
        oneState_memoryAt h.wellFormed h.oneState o compactedAt 0 _,
        fun c hc => hcall c (mem_cons_of_mem _ hc),fun r hr => ?_⟩
      cases hr
      exact ⟨h.wellFormed,h.oneState,hcall call mem_cons_self,rfl⟩
  · cases hs

theorem ContentLayer.sound_write (h : s.Sound o) (hs : s.write o = some s') : s'.Sound o := by
  unfold ContentLayer.write at hs
  obtain ⟨r,hr,hs⟩ := bind_eq_some_iff.mp hs
  have hrunning := h.running r hr
  split at hs
  · cases hs
    refine ⟨wellFormed_memoryAt hrunning.wellFormed hrunning.oneState o r.compactedAt _ _,
      oneState_memoryAt hrunning.wellFormed hrunning.oneState o r.compactedAt _ _,h.chain,fun r' hr' => ?_⟩
    cases hr'
    exact ⟨hrunning.wellFormed,hrunning.oneState,hrunning.coherent,rfl⟩
  · cases hs

theorem ContentLayer.sound_confirmationFor (h : s.Sound o) (id : JsString) : (s.confirmationFor id).Sound o := by
  unfold ContentLayer.confirmationFor
  split
  · exact ⟨h.wellFormed,h.oneState,h.chain,h.running⟩
  · split <;> exact ⟨h.wellFormed,h.oneState,h.chain,h.running⟩

theorem ContentLayer.resume_invariant {r : RunningCall} (hr : s.running = none) (hsound : s.Sound o)
    (hrun : r.Sound o s.outbox)
    (hlast : s.outbox = lastMemory r.start (r.call.operation.commits o r.start r.compactedAt))
    (hopen : ∀ d,r.call.continuation = .enqueue d → isSuperseded r.start d.deliveryId = false)
    (hkeys : ∀ id promise,s.deliveryConfirmations.get id = some promise →
      s.outbox.isPending id ∨ id ∈ r.call.operation.closes o r.start r.compactedAt)
    (hhanded : ∀ c ∈ s.handedOut,(∃ result,(c.promise,result) ∈ s.settled) ∨
      s.deliveryConfirmations.get c.deliveryId = some c.promise) (now : Timestamp)
    (hs : s' = s.resume (r.call.operation.superseded o r.start r.compactedAt) now r.call.continuation) :
    s'.Sound o ∧ s'.Confirms := by
  obtain ⟨⟨operation,continuation⟩,start,compactedAt,written⟩ := r
  have hcoherent := hrun.coherent
  unfold Call.Coherent at hcoherent
  have hsettle : ∀ {t : ContentLayer} {ids : List JsString},ids = operation.closes o start compactedAt →
      Settles ids s t → t.Sound o ∧ t.Confirms := by
    rintro t ids rfl ht
    exact ⟨hsound.settles ht,.of_settles hr hkeys hhanded ht⟩
  subst hs
  cases continuation with
  | enqueue d =>
    obtain rfl : operation = .stage d := hcoherent
    have hrejected := settles_rejectSupersededConfirmations s (stage o start d compactedAt).1
    obtain ⟨hsound',hconfirms⟩ := hsettle rfl hrejected
    change ContentLayer.Sound o (if d.deliveryId ∈ (stage o start d compactedAt).1 then _ else _) ∧
      ContentLayer.Confirms (if d.deliveryId ∈ (stage o start d compactedAt).1 then _ else _)
    by_cases hnot : d.deliveryId ∈ (stage o start d compactedAt).1
    · rw [if_pos hnot]
      exact ⟨hsound',hconfirms⟩
    · rw [if_neg hnot]
      have hdelivered : (s.rejectSupersededConfirmations (stage o start d compactedAt).1).outbox.receipt
          d.deliveryId = none → (s.rejectSupersededConfirmations
            (stage o start d compactedAt).1).outbox.isPending d.deliveryId := by
        rw [hrejected.outbox,hlast]
        exact pending_or_delivered_of_stage hrun.wellFormed hrun.oneState d compactedAt (hopen d rfl) hnot
      have hconfirmed := hconfirms.confirmationFor (hrejected.running.trans hr) hdelivered
      have hdeliver := settles_deliver ((s.rejectSupersededConfirmations
        (stage o start d compactedAt).1).confirmationFor d.deliveryId)
        ((s.rejectSupersededConfirmations (stage o start d compactedAt).1).stored d)
      exact ⟨(sound_confirmationFor hsound' _).settles hdeliver,hconfirmed.settles hdeliver⟩
  | send d =>
    obtain rfl : operation = .stage d := hcoherent
    have hrejected := settles_rejectSupersededConfirmations s (stage o start d compactedAt).1
    change ContentLayer.Sound o (if d.deliveryId ∈ (stage o start d compactedAt).1 then _ else _) ∧
      ContentLayer.Confirms (if d.deliveryId ∈ (stage o start d compactedAt).1 then _ else _)
    by_cases hnot : d.deliveryId ∈ (stage o start d compactedAt).1
    · rw [if_pos hnot]
      exact hsettle rfl hrejected
    · rw [if_neg hnot]
      exact hsettle rfl (hrejected.keep (settles_deliver _ _))
  | publish d =>
    obtain rfl : operation = .stage d := hcoherent
    exact hsettle rfl ((settles_rejectSupersededConfirmations s _).keep (settles_deliver _ _))
  | classify =>
    obtain ⟨cs,at',rfl⟩ := hcoherent
    exact hsettle rfl (settles_rejectSupersededConfirmations s _)
  | delivered job eventId =>
    obtain ⟨at',rfl⟩ := hcoherent
    have hresolved := (settles_resolveConfirmation s job.delivery.deliveryId eventId).keep
      (settles_finishDeliveryJob _ job)
    exact hsettle rfl (hresolved.keep (.of_eq rfl rfl rfl rfl rfl rfl))
  | confirmed deliveryId eventId =>
    obtain ⟨at',rfl⟩ := hcoherent
    exact hsettle rfl ((settles_resolveConfirmation s deliveryId eventId).keep (settles_unqueue _ deliveryId))
  | dropped job reason =>
    obtain ⟨at',rfl⟩ := hcoherent
    exact hsettle rfl ((settles_rejectConfirmation s job.delivery.deliveryId reason).keep
      (.of_eq rfl rfl rfl rfl rfl rfl))
  | oversized deliveryId reason rest =>
    obtain ⟨at',rfl⟩ := hcoherent
    exact hsettle rfl ((settles_rejectConfirmation s deliveryId reason).keep (settles_retryDeliveries _ now rest))

theorem ContentLayer.finish_invariant (hsound : s.Sound o) (h : s.Confirms)
    (hs : s.finish o now = some s') : s'.Sound o ∧ s'.Confirms := by
  unfold ContentLayer.finish at hs
  obtain ⟨r,hr,hs⟩ := bind_eq_some_iff.mp hs
  have hrun := hsound.running r hr
  split at hs
  · next hwritten =>
    have hlast : s.outbox = lastMemory r.start (r.call.operation.commits o r.start r.compactedAt) := by
      rw [hrun.outbox_eq,hwritten,memoryAt_length hrun.wellFormed]
    have hkeys : ∀ id promise,s.deliveryConfirmations.get id = some promise →
        s.outbox.isPending id ∨ id ∈ r.call.operation.closes o r.start r.compactedAt := by
      intro id promise hp
      have hpending := h.keys id promise hp
      unfold ContentLayer.base at hpending
      rw [hr] at hpending
      obtain ⟨d,hd⟩ := has_iff.mp hpending
      rw [hrun.outbox_eq]
      rcases (advances_memoryAt hrun.wellFormed hrun.oneState o r.compactedAt r.written
        r.call.operation).pending id d hd with ⟨d',hd',-⟩ | ⟨hclosed,-⟩
      · exact .inl (has_iff.mpr ⟨d',hd'⟩)
      · exact .inr hclosed
    have hidle : ContentLayer.Sound o { s with running := none } :=
      ⟨hsound.wellFormed,hsound.oneState,hsound.chain,fun r hr => by cases hr⟩
    exact ContentLayer.resume_invariant rfl hidle hrun hlast (fun d hd => h.open_enqueue r d hr hd) hkeys
      h.handedOut now (some.inj hs).symm
  · cases hs

theorem ContentLayer.begin_invariant (h : s.Confirms) (hallowed : EnqueuesNothingSuperseded s (.begin compactedAt))
    (hs : s.begin o compactedAt = some s') : s'.Confirms := by
  unfold ContentLayer.begin at hs
  split at hs
  · next call calls hnone hchain =>
    split at hs
    · cases hs
      have htail : ContentLayer.Confirms { s with chain := calls } := ⟨h.keys,h.handedOut,h.open_enqueue⟩
      exact htail.settles (settles_throwInto _ _)
    · cases hs
      have hbase : s.base = s.outbox := by
        unfold ContentLayer.base
        rw [hnone]
      refine ⟨fun id promise hp => ?_,h.handedOut,fun r d hr hd => ?_⟩
      · show s.outbox.isPending id = true
        rw [← hbase]
        exact h.keys id promise hp
      · cases hr
        exact hallowed call d hnone (by rw [hchain]; rfl) hd
  · cases hs

theorem ContentLayer.write_invariant (h : s.Confirms) (hs : s.write o = some s') : s'.Confirms := by
  unfold ContentLayer.write at hs
  obtain ⟨r,hr,hs⟩ := bind_eq_some_iff.mp hs
  split at hs
  · cases hs
    refine ⟨fun id promise hp => ?_,h.handedOut,fun r' d hr' hd => ?_⟩
    · have hbase : s.base = r.start := by
        unfold ContentLayer.base
        rw [hr]
      show r.start.isPending id = true
      rw [← hbase]
      exact h.keys id promise hp
    · cases hr'
      exact h.open_enqueue r d hr hd
  · cases hs

theorem ContentLayer.step_invariant (hsound : s.Sound o) (h : s.Confirms)
    (hallowed : EnqueuesNothingSuperseded s action) (hs : s.step o action = some s') : s'.Sound o ∧ s'.Confirms := by
  by_cases hbegin : ∃ compactedAt, action = .begin compactedAt
  · obtain ⟨compactedAt,rfl⟩ := hbegin
    exact ⟨sound_begin hsound hs,begin_invariant h hallowed hs⟩
  by_cases hwrite : action = .write
  · subst hwrite
    exact ⟨sound_write hsound hs,write_invariant h hs⟩
  by_cases hfinish : ∃ now, action = .finish now
  · obtain ⟨now,rfl⟩ := hfinish
    exact finish_invariant hsound h hs
  · have hsettles := settles_step hs (fun c hc => hbegin ⟨c,hc⟩) hwrite (fun n hn => hfinish ⟨n,hn⟩)
    exact ⟨hsound.settles hsettles,h.settles hsettles⟩

variable {outbox : Memory}

theorem ContentLayer.sound_start (hm : WellFormed outbox) (hone : OneState outbox) : (start outbox).Sound o :=
  ⟨hm,hone,fun _ h => (by cases h),fun _ h => (by cases h)⟩

/-- In every process over the file of an outbox, every confirmation settles. -/
theorem everyConfirmationSettles_of_reaches {o : Options} {h : History} (hr : Reachable o h)
    {s : ContentLayer} (hs : Reaches o EnqueuesNothingSuperseded h.memory s) : EveryConfirmationSettles o s := by
  have hi := invariant_of_reachable hr
  have hinvariant : s.Sound o ∧ s.Confirms := by
    induction hs with
    | start =>
      exact ⟨ContentLayer.sound_start hi.wellFormed hi.oneState,fun _ _ h => (by cases h),
        fun _ h => (by cases h),fun _ _ h => (by cases h)⟩
    | step action _ hallowed hstep ih => exact ContentLayer.step_invariant ih.1 ih.2 hallowed hstep
  exact hinvariant.2.everyConfirmationSettles hinvariant.1

def messageVersion (transactionId : JsString) (version : ℕ) : EventDelivery where
  deliveryId := transactionId
  roomId := "!room"
  transactionId
  content := []
  createdAt := version
  priority := some .normal
  supersession := some ⟨"assistant:session:message",version⟩

def enqueueAndStage (d : EventDelivery) (writes : ℕ) : List Action :=
  .enqueueEvent d :: .begin ⟨3,isSafeInteger_three⟩ :: replicate writes .write ++
    [.finish ⟨3,isSafeInteger_three⟩]

theorem reaches_run {o : Options} {allowed : ContentLayer → Action → Prop} (hs : Reaches o allowed outbox s)
    {actions : List Action} (hallowed : ∀ t,∀ action ∈ actions,allowed t action) (hrun : s.run o actions = some s') :
    Reaches o allowed outbox s' := by
  induction actions generalizing s with
  | nil =>
    cases hrun
    exact hs
  | cons action actions ih =>
    obtain ⟨t,hstep,hrun⟩ := bind_eq_some_iff.mp hrun
    exact ih (.step action hs (hallowed s action mem_cons_self) hstep)
      (fun t a ha => hallowed t a (mem_cons_of_mem _ ha)) hrun

def enqueueAgain : List Action :=
  enqueueAndStage (messageVersion "first" 1) 1 ++ enqueueAndStage (messageVersion "second" 2) 2 ++
    enqueueAndStage (messageVersion "first" 1) 0

set_option maxRecDepth 100000 in
/-- The new confirmation of the first version waits, and no call of the outbox is under way. -/
theorem enqueueAgain_never_settles : ∃ s, Reaches {} (fun _ _ => True) .empty s ∧
    s.running.isNone = true ∧ ¬ EveryConfirmationSettles {} s := by
  obtain ⟨s,hs⟩ := isSome_iff_exists.mp (show ((ContentLayer.start .empty).run {} enqueueAgain).isSome = true by decide)
  refine ⟨s,reaches_run .start (fun _ _ _ => trivial) hs,?_,fun h => ?_⟩
  · have hnone : (((ContentLayer.start .empty).run {} enqueueAgain).all fun s => s.running.isNone) = true := by
      decide
    rw [hs] at hnone
    exact hnone
  · have hkey : (((ContentLayer.start .empty).run {} enqueueAgain).all fun s =>
        decide (("first" : JsString) ∈ s.deliveryConfirmations.keys) && !s.outbox.isPending "first" &&
          s.running.isNone) = true := by decide
    rw [hs] at hkey
    simp only [all_some,Bool.and_eq_true,decide_eq_true_eq,Bool.not_eq_true',isNone_iff_eq_none] at hkey
    rcases h.keys "first" hkey.1.1 with hpending | hclosing
    · rw [hkey.1.2] at hpending
      cases hpending
    · rw [ContentLayer.closing_none hkey.2] at hclosing
      cases hclosing

set_option maxRecDepth 100000 in
theorem enqueueOnce_settles : ∃ s : ContentLayer, s.handedOut = [⟨"first",0⟩] ∧ EveryConfirmationSettles {} s := by
  have hrequest : Reaches {} EnqueuesNothingSuperseded .empty _ :=
    .step (.enqueueEvent (messageVersion "first" 1)) .start trivial rfl
  have hbegin := Reaches.step (.begin ⟨3,rfl⟩) hrequest (fun call d _ hhead hcont => by
    cases hhead
    cases hcont
    decide) rfl
  have hwrite := hbegin.step .write trivial rfl
  have hfinish := hwrite.step (.finish ⟨3,rfl⟩) trivial rfl
  exact ⟨_,by decide,everyConfirmationSettles_of_reaches (h := ⟨.empty,none,[]⟩) .fresh hfinish⟩

end Malink.Content
