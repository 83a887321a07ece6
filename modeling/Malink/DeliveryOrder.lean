import Malink.ContentConfirmations

/-!
# The order of deliveries

The pump starts the most urgent job of its queue, and the oldest among equals.
-/

namespace Malink.Content

open Outbox InsertionMap Option

/-- One lane of a room: an event of the same priority that was created earlier. -/
def isEarlier (y x : Delivery) : Bool :=
  match y, x with
  | .event _, .event _ => decide (y.roomId = x.roomId) && decide (deliveryPriority y = deliveryPriority x) &&
      decide (y.createdAt < x.createdAt)
  | _, _ => false

def ContentLayer.nextAttempt (s : ContentLayer) : Option MatrixDeliveryJob :=
  match s.deliveryPump with
  | .ready => s.nextJob.filter (fun job => s.outbox.isPending job.delivery.deliveryId)
  | _ => none

/-- The event that the pump starts to send is not later than any pending event of its room and priority. -/
def OvertakesNothing (s : ContentLayer) : Prop :=
  ∀ job x y, s.nextAttempt = some job → s.outbox.pendingEntries.get job.delivery.deliveryId = some x →
    y ∈ s.outbox.pendingEntries.values → isEarlier y x = false

/-- Each earlier event of the room and priority is in the queue, under a job that is no less urgent. -/
def LaneIsQueued (s : ContentLayer) : Prop :=
  ∀ job x y, s.nextAttempt = some job → s.outbox.pendingEntries.get job.delivery.deliveryId = some x →
    y ∈ s.outbox.pendingEntries.values → isEarlier y x →
    ∃ queued, s.deliveryQueue.get y.deliveryId = some queued ∧
      deliveryPriority queued.delivery ≤ deliveryPriority job.delivery

/-- A property of every state in which a run of the process lets the pump look at its queue. -/
def AtEveryTake (o : Options) (outbox : Memory) (actions : List Action) (p : ContentLayer → Prop) : Prop :=
  ∀ before rest s, actions = before ++ .take :: rest →
    (ContentLayer.start outbox).run o before = some s → p s

/-- The delivery is closed, or it is pending with the creation time that is written here. -/
def Known (m : Memory) (d : Delivery) : Prop :=
  m.terminal.has d.deliveryId = true ∨
    ∃ d', m.pendingEntries.get d.deliveryId = some d' ∧ d'.createdAt = d.createdAt

def Continuation.rest : Continuation → List Delivery
  | .oversized _ _ rest => rest
  | _ => []

def ContentLayer.QueuedAs (s : ContentLayer) (id : JsString) (job : MatrixDeliveryJob) : Prop :=
  job.delivery.deliveryId = id ∧ Known s.outbox job.delivery

structure ContentLayer.KnowsJobs (s : ContentLayer) : Prop where
  jobs : ∀ id job, s.deliveryQueue.get id = some job → s.QueuedAs id job
  chain : ∀ call ∈ s.chain, ∀ d ∈ call.continuation.rest, Known s.outbox d
  running : ∀ r, s.running = some r → ∀ d ∈ r.call.continuation.rest, Known s.outbox d

variable {o : Options} {s s' s'' : ContentLayer} {m m' : Memory} {d : Delivery} {now : Timestamp}
  {closed : JsString → Prop}

theorem Known.advances (h : Known m d) (ha : Advances closed m m') : Known m' d := by
  rcases h with ht | ⟨d',hd',hat⟩
  · exact .inl (ha.terminal _ ht)
  · rcases ha.pending _ d' hd' with ⟨d'',hd'',hat'⟩ | ⟨-,ht⟩
    · exact .inr ⟨d'',hd'',hat'.trans hat⟩
    · exact .inl ht

theorem known_of_stored (hm : WellFormed m) {id : JsString} (hd : m.deliveries.get id = some d) : Known m d := by
  have hid := hm.deliveryId_eq id d hd
  rcases hm.stored_settled id (has_iff.mpr ⟨d,hd⟩) with hp | ht
  · obtain ⟨d',hd'⟩ := has_iff.mp hp
    have hsame := hm.pending_stored id d' hd'
    rw [hd,some.injEq] at hsame
    refine .inr ⟨d',?_,by rw [hsame]⟩
    rw [hid]
    exact hd'
  · left
    rw [hid]
    exact ht

theorem known_of_mem_pending (hm : WellFormed m) {roomId : Option JsString}
    (hd : d ∈ m.pending roomId) : Known m d := by
  have hvalue := (List.mem_filter.mp (List.mem_mergeSort.mp hd)).1
  obtain ⟨id,hid⟩ := mem_values.mp hvalue
  exact known_of_stored hm (hm.pending_stored id d hid)

theorem known_of_latestState (hm : WellFormed m) {roomId eventType stateKey : JsString} {d : StateDelivery}
    (hd : m.latestState roomId eventType stateKey = some d) : Known m (.state d) := by
  obtain ⟨-,pre,post,hvalues,-⟩ := latestState_eq_some.mp hd
  have hmem : Delivery.state d ∈ m.deliveries.values := by
    rw [hvalues]
    exact List.mem_append_right _ List.mem_cons_self
  obtain ⟨id,hid⟩ := mem_values.mp hmem
  exact known_of_stored hm hid

theorem ContentLayer.known_stored (hm : WellFormed s.outbox) (d : Delivery)
    (hp : s.outbox.isPending (s.stored d).deliveryId) : Known s.outbox (s.stored d) := by
  unfold stored at hp ⊢
  cases hget : s.outbox.deliveries.get d.deliveryId with
  | some x => exact known_of_stored hm hget
  | none =>
    rw [hget] at hp
    obtain ⟨x,hx⟩ := has_iff.mp hp
    have hstored := hm.pending_stored _ x hx
    rw [getD_none,hget] at hstored
    cases hstored

/-- Between two calls of the outbox: new jobs and new loops are about deliveries that the outbox knows. -/
structure QueuesKnown (s s' : ContentLayer) : Prop where
  outbox : s'.outbox = s.outbox
  running : s'.running = s.running
  chain : ∀ call ∈ s'.chain, call ∈ s.chain ∨ ∀ d ∈ call.continuation.rest, Known s.outbox d
  jobs : ∀ id job, s'.deliveryQueue.get id = some job → s.deliveryQueue.get id = some job ∨ s.QueuedAs id job

theorem QueuesKnown.of_eq (houtbox : s'.outbox = s.outbox) (hrunning : s'.running = s.running)
    (hchain : s'.chain = s.chain) (hqueue : ∀ id job,s'.deliveryQueue.get id = some job →
      s.deliveryQueue.get id = some job) : QueuesKnown s s' where
  outbox := houtbox
  running := hrunning
  chain _ hcall := .inl (hchain ▸ hcall)
  jobs id job hjob := .inl (hqueue id job hjob)

theorem QueuesKnown.refl (s : ContentLayer) : QueuesKnown s s := .of_eq rfl rfl rfl fun _ _ h => h

theorem QueuesKnown.trans (h : QueuesKnown s s') (h' : QueuesKnown s' s'') : QueuesKnown s s'' where
  outbox := h'.outbox.trans h.outbox
  running := h'.running.trans h.running
  chain call hcall := by
    rcases h'.chain call hcall with hold | hknown
    · exact h.chain call hold
    · exact .inr (h.outbox ▸ hknown)
  jobs id job hjob := by
    rcases h'.jobs id job hjob with hold | hknown
    · exact h.jobs id job hold
    · exact .inr ⟨hknown.1,h.outbox ▸ hknown.2⟩

theorem ContentLayer.KnowsJobs.queuesKnown (h : s.KnowsJobs) (hq : QueuesKnown s s') : s'.KnowsJobs where
  jobs id job hjob := by
    unfold ContentLayer.QueuedAs
    rw [hq.outbox]
    exact (hq.jobs id job hjob).elim (h.jobs id job) fun hknown => hknown
  chain call hcall := by
    rw [hq.outbox]
    exact (hq.chain call hcall).elim (h.chain call) id
  running r hr := by
    rw [hq.outbox]
    exact h.running r (hq.running ▸ hr)

namespace ContentLayer

theorem queuesKnown_finishDeliveryJob (s : ContentLayer) (job : MatrixDeliveryJob) :
    QueuesKnown s (s.finishDeliveryJob job) := by
  unfold finishDeliveryJob
  split
  · exact .of_eq rfl rfl rfl fun _ _ h => h
  · exact .refl s

theorem queuesKnown_scheduleRetry (s : ContentLayer) (roomId : JsString) : QueuesKnown s (s.scheduleRetry roomId) := by
  unfold scheduleRetry
  split
  · exact .refl s
  · exact .of_eq rfl rfl rfl fun _ _ h => h

theorem queuesKnown_pauseQueuedAttempts (s : ContentLayer) : QueuesKnown s s.pauseQueuedAttempts := by
  have hfold : ∀ (jobs : List MatrixDeliveryJob) (t : ContentLayer),QueuesKnown t
      (jobs.foldl (fun t job => (t.finishDeliveryJob job).scheduleRetry job.delivery.roomId) t) := by
    intro jobs
    induction jobs with
    | nil => exact .refl
    | cons job jobs ih =>
      intro t
      exact ((queuesKnown_finishDeliveryJob t job).trans (queuesKnown_scheduleRetry _ _)).trans (ih _)
  have h := hfold s.deliveryQueue.values s
  exact ⟨h.outbox,h.running,h.chain,fun id job hjob => by cases hjob⟩

theorem queuesKnown_resolveConfirmation (s : ContentLayer) (id eventId : JsString) :
    QueuesKnown s (s.resolveConfirmation id eventId) := by
  unfold resolveConfirmation
  split
  · exact .refl s
  · exact .of_eq rfl rfl rfl fun _ _ h => h

theorem queuesKnown_rejectConfirmation (s : ContentLayer) (id error : JsString) :
    QueuesKnown s (s.rejectConfirmation id error) := by
  unfold rejectConfirmation
  split
  · exact .refl s
  · exact .of_eq rfl rfl rfl fun _ _ h => h

theorem queuesKnown_delete (s : ContentLayer) (id : JsString) :
    QueuesKnown s { s with deliveryQueue := s.deliveryQueue.delete id } := by
  refine .of_eq rfl rfl rfl fun k job hjob => ?_
  replace hjob : (s.deliveryQueue.delete id).get k = some job := hjob
  rw [get_delete] at hjob
  split at hjob
  · cases hjob
  · exact hjob

theorem queuesKnown_unqueue (s : ContentLayer) (id : JsString) : QueuesKnown s (s.unqueue id) := by
  unfold unqueue
  split
  · exact .refl s
  · next job _ => exact (queuesKnown_delete s id).trans (queuesKnown_finishDeliveryJob _ job)

theorem queuesKnown_rejectSupersededConfirmations (s : ContentLayer) (ids : List JsString) :
    QueuesKnown s (s.rejectSupersededConfirmations ids) := by
  induction ids generalizing s with
  | nil => exact .refl s
  | cons id ids ih =>
    exact ((queuesKnown_rejectConfirmation s id _).trans (queuesKnown_unqueue _ id)).trans (ih _)

theorem queuesKnown_confirmationFor (s : ContentLayer) (id : JsString) : QueuesKnown s (s.confirmationFor id) := by
  unfold confirmationFor
  split
  · exact .of_eq rfl rfl rfl fun _ _ h => h
  · split <;> exact .of_eq rfl rfl rfl fun _ _ h => h

theorem queuesKnown_deliver (hd : s.outbox.isPending d.deliveryId → Known s.outbox d) :
    QueuesKnown s (s.deliver d) := by
  unfold deliver
  split
  · exact .refl s
  split
  · exact .refl s
  · next hpending =>
    simp only [Bool.not_eq_true,Bool.not_eq_false'] at hpending
    split
    · exact .refl s
    · have hjobs : ∀ id job,(s.deliveryQueue.set d.deliveryId ⟨d,s.nextPromise⟩).get id = some job →
          s.deliveryQueue.get id = some job ∨ s.QueuedAs id job := by
        intro id job hjob
        rw [get_set] at hjob
        split at hjob
        · next heq =>
          cases hjob
          exact .inr ⟨heq.symm,hd hpending⟩
        · exact .inl hjob
      unfold ensureDeliveryPump
      split <;> exact ⟨rfl,rfl,fun _ h => .inl h,hjobs⟩

variable {continuation : Continuation}

theorem queuesKnown_request (s : ContentLayer) {operation : Operation} (h : ∀ d ∈ continuation.rest,Known s.outbox d)
    : QueuesKnown s (s.request operation continuation) := by
  refine ⟨rfl,rfl,fun call hcall => ?_,fun _ _ h => .inl h⟩
  rcases List.mem_append.mp hcall with hcall | hcall
  · exact .inl hcall
  · rw [List.mem_singleton.mp hcall]
    exact .inr h

theorem queuesKnown_retryDeliveries (s : ContentLayer) (now : Timestamp) {ds : List Delivery}
    (hds : ∀ d ∈ ds,Known s.outbox d) : QueuesKnown s (s.retryDeliveries now ds) := by
  induction ds generalizing s with
  | nil => exact .refl s
  | cons d ds ih =>
    have hrest : ∀ d ∈ ds,Known s.outbox d := fun d hd => hds d (List.mem_cons_of_mem _ hd)
    unfold retryDeliveries
    split
    · exact queuesKnown_request s hrest
    · have hdeliver := queuesKnown_deliver (s := s) (d := d) fun _ => hds d List.mem_cons_self
      exact hdeliver.trans (ih _ (hdeliver.outbox ▸ hrest))

theorem queuesKnown_throwInto (s : ContentLayer) (continuation : Continuation) :
    QueuesKnown s (s.throwInto continuation) := by
  cases continuation with
  | delivered job eventId =>
    have h := ((queuesKnown_finishDeliveryJob s job).trans (queuesKnown_pauseQueuedAttempts _)).trans
      (queuesKnown_scheduleRetry _ job.delivery.roomId)
    exact ⟨h.outbox,h.running,h.chain,h.jobs⟩
  | dropped job reason =>
    have h := queuesKnown_pauseQueuedAttempts s
    exact ⟨h.outbox,h.running,h.chain,h.jobs⟩
  | _ => exact .refl s

theorem queuesKnown_take (h : s.take = some s') : QueuesKnown s s' := by
  unfold take at h
  split at h
  · split at h
    · cases h
      exact .of_eq rfl rfl rfl fun _ _ h => h
    · next job _ =>
      have hdelete := queuesKnown_delete s job.delivery.deliveryId
      simp only at h
      split at h
      · cases h
        exact hdelete.trans (queuesKnown_finishDeliveryJob _ job)
      · cases h
        exact ⟨hdelete.outbox,hdelete.running,hdelete.chain,hdelete.jobs⟩
  · cases h

theorem queuesKnown_accept {eventId : JsString} (h : s.accept eventId now = some s') : QueuesKnown s s' := by
  unfold accept at h
  split at h
  · next job _ =>
    cases h
    have hpump : QueuesKnown s { s with deliveryPump := .completing job } := .of_eq rfl rfl rfl fun _ _ h => h
    exact hpump.trans (queuesKnown_request _ (fun _ h => by cases h))
  · cases h

theorem queuesKnown_reject {error : SendError} (h : s.reject error now = some s') : QueuesKnown s s' := by
  unfold reject at h
  split at h
  · next job _ =>
    have hfinish := queuesKnown_finishDeliveryJob s job
    simp only at h
    split at h
    · cases h
      have hpump : QueuesKnown (s.finishDeliveryJob job)
          { s.finishDeliveryJob job with deliveryPump := .dropping job } := .of_eq rfl rfl rfl fun _ _ h => h
      exact (hfinish.trans hpump).trans (queuesKnown_request _ (fun _ h => by cases h))
    · cases h
      have hpause := (hfinish.trans (queuesKnown_pauseQueuedAttempts _)).trans
        (queuesKnown_scheduleRetry _ job.delivery.roomId)
      exact ⟨hpause.outbox,hpause.running,hpause.chain,hpause.jobs⟩
  · cases h

theorem queuesKnown_retryPending (hm : WellFormed s.outbox) (roomId : JsString) (now : Timestamp) :
    QueuesKnown s (s.retryPending roomId now) :=
  queuesKnown_retryDeliveries s now fun _ hd => known_of_mem_pending hm hd

theorem queuesKnown_resume (hm : WellFormed s.outbox) (superseded : List JsString) (now : Timestamp)
    (hrest : ∀ d ∈ continuation.rest,Known s.outbox d) : QueuesKnown s (s.resume superseded now continuation) := by
  have hrejected := queuesKnown_rejectSupersededConfirmations s superseded
  have hdeliver : ∀ {t : ContentLayer} (d : Delivery),t.outbox = s.outbox →
      QueuesKnown t (t.deliver (s.stored d)) := by
    intro t d ht
    refine queuesKnown_deliver fun hp => ?_
    rw [ht] at hp ⊢
    exact known_stored hm d hp
  have hstored : ∀ d,(s.rejectSupersededConfirmations superseded).stored d = s.stored d := by
    intro d
    unfold stored
    rw [hrejected.outbox]
  cases continuation with
  | enqueue d =>
    unfold resume
    simp only
    split
    · exact hrejected
    · have hconfirmed := hrejected.trans (queuesKnown_confirmationFor _ d.deliveryId)
      rw [hstored]
      exact hconfirmed.trans (hdeliver d hconfirmed.outbox)
  | send d =>
    unfold resume
    simp only
    split
    · exact hrejected
    · rw [hstored]
      exact hrejected.trans (hdeliver d hrejected.outbox)
  | publish d =>
    unfold resume
    simp only
    rw [hstored]
    exact hrejected.trans (hdeliver d hrejected.outbox)
  | classify => exact hrejected
  | delivered job eventId =>
    have h := (queuesKnown_resolveConfirmation s job.delivery.deliveryId eventId).trans
      (queuesKnown_finishDeliveryJob _ job)
    exact ⟨h.outbox,h.running,h.chain,h.jobs⟩
  | confirmed deliveryId eventId =>
    exact (queuesKnown_resolveConfirmation s deliveryId eventId).trans (queuesKnown_unqueue _ deliveryId)
  | dropped job reason =>
    have h := queuesKnown_rejectConfirmation s job.delivery.deliveryId reason
    exact ⟨h.outbox,h.running,h.chain,h.jobs⟩
  | oversized deliveryId reason rest =>
    have h := queuesKnown_rejectConfirmation s deliveryId reason
    exact h.trans (queuesKnown_retryDeliveries _ now (h.outbox ▸ hrest))

end ContentLayer

namespace ContentLayer

/-- The writes of a call make the outbox go on. -/
theorem KnowsJobs.advances {outbox : Memory} {chain : List Call} {running : Option RunningCall} (h : s.KnowsJobs)
    (ha : Advances closed s.outbox outbox) (hchain : ∀ call ∈ chain,call ∈ s.chain)
    (hrunning : ∀ r,running = some r → ∀ d ∈ r.call.continuation.rest,Known s.outbox d) :
    KnowsJobs { s with outbox := outbox, chain := chain, running := running } where
  jobs id job hjob := ⟨(h.jobs id job hjob).1,(h.jobs id job hjob).2.advances ha⟩
  chain call hcall d hd := (h.chain call (hchain call hcall) d hd).advances ha
  running r hr d hd := (hrunning r hr d hd).advances ha

section

variable (hsound : s.Sound o) (h : s.KnowsJobs)
include hsound h

theorem knowsJobs_begin {compactedAt : Timestamp} (hs : s.begin o compactedAt = some s') : s'.KnowsJobs := by
  unfold begin at hs
  split at hs
  · next call calls hnone hchain =>
    have hcalls : ∀ c ∈ calls,c ∈ s.chain := fun c hc => hchain ▸ List.mem_cons_of_mem _ hc
    split at hs
    · cases hs
      have htail : KnowsJobs { s with chain := calls } := ⟨h.jobs,fun c hc => h.chain c (hcalls c hc),h.running⟩
      exact htail.queuesKnown (queuesKnown_throwInto _ _)
    · cases hs
      refine h.advances (advances_memoryAt hsound.wellFormed hsound.oneState o compactedAt 0 _) hcalls
        fun r hr => ?_
      cases hr
      exact h.chain call (hchain ▸ List.mem_cons_self)
  · cases hs

theorem knowsJobs_write (hs : s.write o = some s') : s'.KnowsJobs := by
  unfold write at hs
  obtain ⟨r,hr,hs⟩ := bind_eq_some_iff.mp hs
  have hrun := hsound.running r hr
  split at hs
  · cases hs
    have hadvances := advances_memoryAt_succ hrun.wellFormed hrun.oneState o r.compactedAt r.written r.call.operation
    rw [← hrun.outbox_eq] at hadvances
    refine h.advances hadvances (fun _ hc => hc) fun r' hr' => ?_
    cases hr'
    exact h.running r hr
  · cases hs

omit hsound h in
theorem sound_resume (h : s.Sound o) (superseded : List JsString) (now : Timestamp)
    (continuation : Continuation) : (s.resume superseded now continuation).Sound o := by
  have hrejected := h.settles (settles_rejectSupersededConfirmations s superseded)
  cases continuation with
  | enqueue d =>
    unfold resume
    simp only
    split
    · exact hrejected
    · exact (sound_confirmationFor hrejected _).settles (settles_deliver _ _)
  | send d =>
    unfold resume
    simp only
    split
    · exact hrejected
    · exact hrejected.settles (settles_deliver _ _)
  | publish d => exact hrejected.settles (settles_deliver _ _)
  | classify => exact hrejected
  | delivered job eventId =>
    have hfinish := (h.settles (settles_resolveConfirmation s job.delivery.deliveryId eventId)).settles
      (settles_finishDeliveryJob _ job)
    exact ⟨hfinish.wellFormed,hfinish.oneState,hfinish.chain,hfinish.running⟩
  | confirmed deliveryId eventId =>
    exact (h.settles (settles_resolveConfirmation s deliveryId eventId)).settles (settles_unqueue _ deliveryId)
  | dropped job reason =>
    have hrejected := h.settles (settles_rejectConfirmation s job.delivery.deliveryId reason)
    exact ⟨hrejected.wellFormed,hrejected.oneState,hrejected.chain,hrejected.running⟩
  | oversized deliveryId reason rest =>
    exact (h.settles (settles_rejectConfirmation s deliveryId reason)).settles (settles_retryDeliveries _ now rest)

theorem finish_knowsJobs (hs : s.finish o now = some s') : s'.Sound o ∧ s'.KnowsJobs := by
  unfold finish at hs
  obtain ⟨r,hr,hs⟩ := bind_eq_some_iff.mp hs
  split at hs
  · cases hs
    have hidle : Sound o { s with running := none } :=
      ⟨hsound.wellFormed,hsound.oneState,hsound.chain,fun r hr => by cases hr⟩
    have hknows : KnowsJobs { s with running := none } := ⟨h.jobs,h.chain,fun r hr => by cases hr⟩
    exact ⟨sound_resume hidle _ now _,hknows.queuesKnown (queuesKnown_resume hidle.wellFormed _ now (h.running r hr))⟩
  · cases hs

theorem step_knowsJobs {action : Action} (hs : s.step o action = some s') : s'.Sound o ∧ s'.KnowsJobs := by
  have hrequest : ∀ (operation : Operation) (continuation : Continuation),
      Call.Coherent ⟨operation,continuation⟩ → continuation.rest = [] →
      (s.request operation continuation).Sound o ∧ (s.request operation continuation).KnowsJobs := by
    intro operation continuation hcoherent hrest
    refine ⟨hsound.settles (settles_request s hcoherent),h.queuesKnown (queuesKnown_request s ?_)⟩
    rw [hrest]
    exact fun _ hd => by cases hd
  cases action with
  | enqueueEvent | enqueueStateEvent | sendEvent | publishState =>
    cases hs
    exact hrequest _ _ rfl rfl
  | deliverPrevious roomId eventType stateKey =>
    obtain ⟨d,hd,rfl⟩ := map_eq_some_iff.mp hs
    exact ⟨hsound.settles (settles_deliver s _),
      h.queuesKnown (queuesKnown_deliver fun _ => known_of_latestState hsound.wellFormed hd)⟩
  | classifyPendingEvents cs now =>
    cases hs
    exact hrequest _ _ ⟨_,_,rfl⟩ rfl
  | retryPending roomId now =>
    cases hs
    exact ⟨hsound.settles (settles_retryDeliveries s now _),
      h.queuesKnown (queuesKnown_retryPending hsound.wellFormed roomId now)⟩
  | confirmTimelineDelivery roomId eventId content now =>
    cases hs
    unfold confirmTimelineDelivery
    split
    · exact ⟨hsound,h⟩
    · exact hrequest _ _ ⟨_,rfl⟩ rfl
  | fireTimer roomId now =>
    unfold step fireTimer at hs
    simp only at hs
    split at hs
    · cases hs
      have htimer : Sound o { s with retryTimers := s.retryTimers.filter (fun r => decide (r ≠ roomId)) } :=
        ⟨hsound.wellFormed,hsound.oneState,hsound.chain,hsound.running⟩
      have hknows : KnowsJobs { s with retryTimers := s.retryTimers.filter (fun r => decide (r ≠ roomId)) } :=
        ⟨h.jobs,h.chain,h.running⟩
      exact ⟨htimer.settles (settles_retryDeliveries _ now _),
        hknows.queuesKnown (queuesKnown_retryPending htimer.wellFormed roomId now)⟩
    · cases hs
  | stopRetries =>
    cases hs
    exact ⟨⟨hsound.wellFormed,hsound.oneState,hsound.chain,hsound.running⟩,⟨h.jobs,h.chain,h.running⟩⟩
  | begin compactedAt => exact ⟨sound_begin hsound hs,knowsJobs_begin hsound h hs⟩
  | write => exact ⟨sound_write hsound hs,knowsJobs_write hsound h hs⟩
  | finish now => exact finish_knowsJobs hsound h hs
  | take => exact ⟨hsound.settles (settles_take hs),h.queuesKnown (queuesKnown_take hs)⟩
  | accept eventId now => exact ⟨hsound.settles (settles_accept hs),h.queuesKnown (queuesKnown_accept hs)⟩
  | reject error now => exact ⟨hsound.settles (settles_reject hs),h.queuesKnown (queuesKnown_reject hs)⟩

theorem run_knowsJobs {actions : List Action} (hs : s.run o actions = some s') : s'.Sound o ∧ s'.KnowsJobs := by
  induction actions generalizing s with
  | nil =>
    cases hs
    exact ⟨hsound,h⟩
  | cons action actions ih =>
    obtain ⟨t,hstep,hrun⟩ := bind_eq_some_iff.mp hs
    obtain ⟨hsound',h'⟩ := step_knowsJobs hsound h hstep
    exact ih hsound' h' hrun

end

theorem jobAtMost_total (a b : MatrixDeliveryJob) : jobAtMost a b ∨ jobAtMost b a := by
  simp only [jobAtMost,Bool.or_eq_true,Bool.and_eq_true,decide_eq_true_eq]
  omega

theorem jobAtMost_trans {a b c : MatrixDeliveryJob} (hab : jobAtMost a b) (hbc : jobAtMost b c) : jobAtMost a c := by
  simp only [jobAtMost,Bool.or_eq_true,Bool.and_eq_true,decide_eq_true_eq] at hab hbc ⊢
  omega

theorem jobAtMost_nextJob {job other : MatrixDeliveryJob} (h : s.nextJob = some job)
    (hother : other ∈ s.deliveryQueue.values) : jobAtMost job other := by
  have : Std.Total fun a b : MatrixDeliveryJob => jobAtMost a b = true := ⟨jobAtMost_total⟩
  have : IsTrans MatrixDeliveryJob fun a b => jobAtMost a b = true := ⟨fun _ _ _ => jobAtMost_trans⟩
  have hsorted := List.pairwise_insertionSort (fun a b => jobAtMost a b = true) s.deliveryQueue.values
  rw [← List.mem_insertionSort (fun a b => jobAtMost a b = true)] at hother
  unfold nextJob at h
  obtain ⟨rest,hrest⟩ := List.head?_eq_some_iff.mp h
  rw [hrest] at hother hsorted
  rcases List.mem_cons.mp hother with rfl | hmem
  · exact (jobAtMost_total other other).elim id id
  · exact List.rel_of_pairwise_cons hsorted hmem

theorem nextJob_queued (hk : s.KnowsJobs) {job : MatrixDeliveryJob} (h : s.nextJob = some job) :
    Known s.outbox job.delivery := by
  have hmem := List.mem_of_mem_head? h
  rw [List.mem_insertionSort,mem_values] at hmem
  obtain ⟨id,hid⟩ := hmem
  exact (hk.jobs id job hid).2

end ContentLayer

theorem Known.createdAt (hm : WellFormed m) {x : Delivery} (h : Known m d)
    (hx : m.pendingEntries.get d.deliveryId = some x) : x.createdAt = d.createdAt := by
  rcases h with ht | ⟨d',hd',hat⟩
  · rw [hm.pending_open _ (has_iff.mpr ⟨x,hx⟩)] at ht
    cases ht
  · rw [hx,some.injEq] at hd'
    rw [hd',hat]

/-- Nothing is overtaken as long as nothing earlier waits outside the queue. -/
theorem ContentLayer.overtakesNothing_iff (hm : WellFormed s.outbox) (h : s.KnowsJobs) :
    OvertakesNothing s ↔ LaneIsQueued s := by
  constructor
  · intro hnothing job x y hnext hx hy hearlier
    rw [hnothing job x y hnext hx hy] at hearlier
    cases hearlier
  · intro hqueued job x y hnext hx hy
    by_contra hearlier
    rw [Bool.not_eq_false] at hearlier
    obtain ⟨queued,hget,hurgent⟩ := hqueued job x y hnext hx hy hearlier
    have hjob : s.nextJob = some job := by
      unfold nextAttempt at hnext
      split at hnext
      · exact eq_some_of_filter_eq_some hnext
      · cases hnext
    obtain ⟨id,hid⟩ := mem_values.mp hy
    have hyid : y.deliveryId = id := hm.deliveryId_eq id y (hm.pending_stored id y hid)
    have hold := (h.jobs _ queued hget)
    have hxat := (nextJob_queued h hjob).createdAt hm hx
    have hyat : y.createdAt = queued.delivery.createdAt := by
      refine hold.2.createdAt hm ?_
      rw [hold.1,hyid]
      exact hid
    have hatmost := jobAtMost_nextJob hjob (mem_values.mpr ⟨_,hget⟩)
    have hlt : y.createdAt < x.createdAt := by
      unfold isEarlier at hearlier
      split at hearlier
      · simp only [Bool.and_eq_true,decide_eq_true_eq] at hearlier
        exact hearlier.2
      · cases hearlier
    simp only [jobAtMost,Bool.or_eq_true,Bool.and_eq_true,decide_eq_true_eq] at hatmost
    omega

/-- In every process over the file of an outbox, the pump keeps the order of each lane exactly as long as
every earlier event of the lane is in the queue whenever the pump looks at it. -/
theorem deliveryOrder_iff {o : Options} {h : History} (hr : Reachable o h) (actions : List Action) :
    AtEveryTake o h.memory actions OvertakesNothing ↔ AtEveryTake o h.memory actions LaneIsQueued := by
  have hi := invariant_of_reachable hr
  have hstate : ∀ {before : List Action} {s : ContentLayer},
      (ContentLayer.start h.memory).run o before = some s → (OvertakesNothing s ↔ LaneIsQueued s) := by
    intro before s hs
    have hstart : (ContentLayer.start h.memory).KnowsJobs :=
      ⟨fun _ _ h => (by cases h),fun _ h => (by cases h),fun _ h => (by cases h)⟩
    obtain ⟨hsound,hknows⟩ := ContentLayer.run_knowsJobs (ContentLayer.sound_start hi.wellFormed hi.oneState) hstart hs
    exact ContentLayer.overtakesNothing_iff hsound.wellFormed hknows
  constructor
  · exact fun hp before rest s heq hs => (hstate hs).mp (hp before rest s heq hs)
  · exact fun hp before rest s heq hs => (hstate hs).mpr (hp before rest s heq hs)

def timelineEvent (transactionId : JsString) (createdAt : ℤ) : EventDelivery where
  deliveryId := transactionId
  roomId := "!room"
  transactionId
  content := []
  createdAt
  priority := some .normal
  supersession := none

def connectionLost : SendError where
  contentTooLarge := false
  status := none
  errcode := none
  message := "fetch failed"

/-- The first attempt fails, and an event is enqueued before the timer of the room fires. -/
def enqueueWhileWaiting : List Action :=
  enqueueAndStage (timelineEvent "earlier" 1) 1 ++ [.take,.reject connectionLost ⟨2,rfl⟩] ++
    enqueueAndStage (timelineEvent "later" 2) 1

set_option maxRecDepth 100000 in
/-- The later event is sent and marked, and the earlier one is still pending. -/
theorem enqueueWhileWaiting_overtakes :
    ¬ AtEveryTake {} .empty (enqueueWhileWaiting ++ [.take]) OvertakesNothing ∧
      ∃ s : ContentLayer, (ContentLayer.start .empty).run {} (enqueueWhileWaiting ++
          [.take,.accept "$event" ⟨4,rfl⟩,.begin ⟨4,rfl⟩,.write,.finish ⟨4,rfl⟩]) = some s ∧
        s.outbox.receipt "later" = some ("$event" : JsString) ∧ s.outbox.isPending "earlier" = true := by
  constructor
  · intro hp
    have hsome : ((ContentLayer.start .empty).run {} enqueueWhileWaiting).isSome := by decide
    have hstate : (((ContentLayer.start .empty).run {} enqueueWhileWaiting).all fun s =>
        decide (s.nextAttempt = some ⟨.event (timelineEvent "later" 2),3⟩) &&
          decide (s.outbox.pendingEntries.get "later" = some (.event (timelineEvent "later" 2))) &&
          decide (s.outbox.pendingEntries.get "earlier" = some (.event (timelineEvent "earlier" 1)))) = true := by
      decide +kernel
    obtain ⟨s,hs⟩ := isSome_iff_exists.mp hsome
    rw [hs] at hstate
    simp only [all_some,Bool.and_eq_true,decide_eq_true_eq] at hstate
    have hnothing := hp enqueueWhileWaiting [] s rfl hs _ _ _ hstate.1.1 hstate.1.2 (mem_values.mpr ⟨_,hstate.2⟩)
    exact absurd hnothing (by decide)
  · have hsome : ((ContentLayer.start .empty).run {} (enqueueWhileWaiting ++
        [.take,.accept "$event" ⟨4,rfl⟩,.begin ⟨4,rfl⟩,.write,.finish ⟨4,rfl⟩])).isSome := by
      decide +kernel
    have hstate : (((ContentLayer.start .empty).run {} (enqueueWhileWaiting ++
        [.take,.accept "$event" ⟨4,rfl⟩,.begin ⟨4,rfl⟩,.write,.finish ⟨4,rfl⟩])).all fun s =>
          decide (s.outbox.receipt "later" = some ("$event" : JsString)) && s.outbox.isPending "earlier") = true := by
      decide +kernel
    obtain ⟨s,hs⟩ := isSome_iff_exists.mp hsome
    rw [hs] at hstate
    simp only [all_some,Bool.and_eq_true,decide_eq_true_eq] at hstate
    exact ⟨s,hs,hstate.1,hstate.2⟩

theorem enqueueTogether_order : AtEveryTake {} .empty
      (enqueueAndStage (timelineEvent "earlier" 1) 1 ++ enqueueAndStage (timelineEvent "later" 2) 1 ++ [.take])
      OvertakesNothing ↔ AtEveryTake {} .empty
      (enqueueAndStage (timelineEvent "earlier" 1) 1 ++ enqueueAndStage (timelineEvent "later" 2) 1 ++ [.take])
      LaneIsQueued :=
  deliveryOrder_iff (h := ⟨.empty,none,[]⟩) .fresh _

end Malink.Content
