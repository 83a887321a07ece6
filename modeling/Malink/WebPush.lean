import Malink.PlainObjects
import Mathlib.Algebra.Group.Nat.Defs
import Mathlib.Data.List.DropRight

/-!
# Web push notifications

The end of a turn is sent to the subscribed devices that may see it.
-/

namespace Malink.WebPush

open Option List

def RETRY_INTERVAL_MS : ℕ := 30000

def MAX_RETRY_DELAY_MS : ℕ := 60 * 60000

def MAX_COMPLETED_EVENT_IDS : ℕ := 512

/-- The bound of the schema on the targets of a notification. -/
def MAX_TARGETS : ℕ := 1024

/-- A string with the bounds that the schemas of commands, events and subscriptions check. -/
abbrev Bounded (n : ℕ) := {s : JsString // 0 < s.length ∧ s.length ≤ n}

structure Subscription where
  endpoint : Bounded 4096
  p256dh : JsString
  auth : JsString

structure Target where
  deviceId : Bounded 256
  endpoint : Bounded 4096
  deriving DecidableEq

inductive Status
  | succeeded
  | cancelled
  | failed

structure Payload where
  eventId : Bounded 256
  workspaceId : Bounded 256
  projectId : Bounded 256
  sessionId : Bounded 256
  status : Status

structure Item where
  payload : Payload
  targets : List Target
  attempts : ℕ
  nextAttemptAt : ℕ

/-- The file, without its keys. -/
structure State where
  subscriptions : InsertionMap (Bounded 256) Subscription
  pending : InsertionMap (Bounded 256) Item
  completedEventIds : List (Bounded 256)

/-- `stateSchema`, for what the types leave open. -/
def State.accepts (state : State) : Bool :=
  state.pending.values.all (fun item => item.targets.length ≤ MAX_TARGETS) &&
    decide (state.completedEventIds.length ≤ MAX_COMPLETED_EVENT_IDS)

inductive EventPayload
  | turnCompleted (outcome : Status)
  | turnFailed
  | other

structure Mlp3Event where
  eventId : Bounded 256
  workspaceId : Bounded 256
  projectId : Option (Bounded 256)
  sessionId : Option (Bounded 256)
  payload : EventPayload

def terminalPayload (event : Mlp3Event) : Option Payload :=
  event.projectId.bind fun projectId => event.sessionId.bind fun sessionId =>
    match event.payload with
    | .turnCompleted outcome => some ⟨event.eventId,event.workspaceId,projectId,sessionId,outcome⟩
    | .turnFailed => some ⟨event.eventId,event.workspaceId,projectId,sessionId,.failed⟩
    | .other => none

namespace State

def upsertSubscription (deviceId : Bounded 256) (subscription : Subscription) (state : State) : State :=
  { state with subscriptions := PlainObject.assign Subtype.val state.subscriptions deviceId subscription }

/-- The subscription of a device, if it has the endpoint or none is named. -/
def removeSubscription (deviceId : Bounded 256) (endpoint : Option (Bounded 4096)) (state : State) : State :=
  match state.subscriptions.get deviceId with
  | some current =>
    if endpoint.all (current.endpoint = ·) then { state with subscriptions := state.subscriptions.delete deviceId }
    else state
  | none => state

def rememberCompleted (eventId : Bounded 256) (state : State) : State :=
  { state with completedEventIds :=
      (state.completedEventIds.filter (· ≠ eventId) ++ [eventId]).rtake MAX_COMPLETED_EVENT_IDS }

def targets (state : State) (eligible : Option (List (Bounded 256))) : List Target :=
  ((PlainObject.ownEntries Subtype.val state.subscriptions).filter fun entry => eligible.all (entry.1 ∈ ·)).map
    fun entry => ⟨entry.1,entry.2.endpoint⟩

def known (state : State) (eventId : Bounded 256) : Bool :=
  eventId ∈ state.completedEventIds || PlainObject.holds Subtype.val state.pending eventId

/-- What the name of an event inherits has no targets, and to look for them throws. -/
def untargeted (state : State) (eventId : Bounded 256) : Prop :=
  state.pending.get eventId = none ∧ PlainObject.Inherits eventId.val

instance (state : State) (eventId : Bounded 256) : Decidable (state.untargeted eventId) :=
  inferInstanceAs (Decidable (_ ∧ _))

def notify (payload : Payload) (eligible : Option (List (Bounded 256))) (now : ℕ) (state : State) : State :=
  if state.known payload.eventId then state
  else if state.targets eligible = [] then state.rememberCompleted payload.eventId
  else { state with pending := state.pending.set payload.eventId ⟨payload,state.targets eligible,0,now⟩ }

def removeTarget (eventId : Bounded 256) (target : Target) (state : State) : State :=
  match state.pending.get eventId with
  | none => state
  | some item =>
    let targets := item.targets.filter (· ≠ target)
    if targets ≠ [] then { state with pending := state.pending.set eventId { item with targets } }
    else { state with pending := state.pending.delete eventId }.rememberCompleted eventId

def defer (eventId : Bounded 256) (now : ℕ) (state : State) : State :=
  match state.pending.get eventId with
  | none => state
  | some item => { state with
      pending := state.pending.set eventId { item with
        attempts := item.attempts + 1
        nextAttemptAt := now + min MAX_RETRY_DELAY_MS (RETRY_INTERVAL_MS * 2 ^ min item.attempts 7) } }

end State

abbrev Delivery := Bounded 256 × Target

/-- Whether a target is still to be notified, at the endpoint that its device has. -/
def State.live (state : State) (delivery : Delivery) : Bool :=
  (state.pending.get delivery.1).any (delivery.2 ∈ ·.targets) &&
    (state.subscriptions.get delivery.2.deviceId).any (·.endpoint = delivery.2.endpoint)

/-- What the pass waits for: to look at the next target, to remove it, or the answer of its push service. -/
inductive Stage
  | visiting
  | finishing
  | sending
  deriving DecidableEq

/-- A pass with the items that it still goes over. The history has what was due at its start, what has been sent, and
the targets that were not live at some time or not permitted when they were reached. -/
structure Pass where
  items : List (Payload × List Target)
  stage : Stage
  due : List Delivery
  attempted : List Delivery
  retired : List Delivery

structure Service where
  state : State
  pass : Option Pass

inductive Answer
  | delivered
  | gone
  | failed

inductive Event
  | subscribe (deviceId : Bounded 256) (subscription : Subscription)
  | unsubscribe (deviceId : Bounded 256) (endpoint : Option (Bounded 4096))
  | notifyTerminal (event : Mlp3Event) (eligible : Option (List (Bounded 256))) (now : ℕ)
  | flush (now : ℕ)
  | visit (canDeliver : Bool)
  | finish
  | answer (answer : Answer) (now : ℕ)
  | reject

def deliveries (items : List (Payload × List Target)) : List Delivery :=
  items.flatMap fun item => item.2.map fun target => (item.1.eventId,target)

/-- The history notices targets that are not live. -/
def Pass.track (state : State) (pass : Pass) : Pass :=
  { pass with retired := pass.due.filter (fun delivery => !state.live delivery) ++ pass.retired }

/-- A transaction. The file is read through the schema. -/
def Service.mutate (s : Service) (operation : State → State) : Option Service :=
  if s.state.accepts then
    some ⟨operation s.state,s.pass.map (·.track (operation s.state))⟩
  else none

/-- What the pass has not reached: the target at work is behind it. -/
def Pass.left (pass : Pass) : List Delivery :=
  match pass.stage, pass.items with
  | .finishing, (payload,_ :: targets) :: rest | .sending, (payload,_ :: targets) :: rest =>
    deliveries ((payload,targets) :: rest)
  | _, items => deliveries items

def Pass.visit (pass : Pass) (state : State) (canDeliver : Bool) : Option Pass :=
  match pass.items with
  | [] => none
  | (_,[]) :: rest => some { pass with items := rest }
  | (payload,target :: targets) :: rest =>
    if state.untargeted payload.eventId then none
    else if !(state.pending.get payload.eventId).any (target ∈ ·.targets) then
      some { pass with items := (payload,targets) :: rest }
    else if !(state.subscriptions.get target.deviceId).any (·.endpoint = target.endpoint) then
      some { pass with stage := .finishing }
    else if !canDeliver then
      some { pass with stage := .finishing, retired := (payload.eventId,target) :: pass.retired }
    else some { pass with stage := .sending, attempted := (payload.eventId,target) :: pass.attempted }

/-- After a target has been removed, or the rest of its item is left. -/
def Service.settle (s : Service) (pass : Pass) (items : List (Payload × List Target)) (operation : State → State) :
    Option Service :=
  { s with pass := some { pass with items, stage := .visiting } }.mutate operation

/-- The target at work is removed, after something else. -/
def Service.remove (s : Service) (pass : Pass) (items : List (Payload × List Target)) (payload : Payload)
    (target : Target) (operation : State → State) : Option Service :=
  if s.state.untargeted payload.eventId then none
  else s.settle pass items fun state => (operation state).removeTarget payload.eventId target

def next : Event → Service → Option Service
  | .subscribe deviceId subscription, s => s.mutate (State.upsertSubscription deviceId subscription)
  | .unsubscribe deviceId endpoint, s => s.mutate (State.removeSubscription deviceId endpoint)
  | .notifyTerminal event eligible now, s =>
    match terminalPayload event with
    | none => some s
    | some payload => s.mutate (State.notify payload eligible now)
  | .flush now, s =>
    if s.state.accepts ∧ s.pass.all (·.items.isEmpty) then
      let pending := (PlainObject.ownEntries Subtype.val s.state.pending).map (·.2)
      let items := (pending.filter (·.nextAttemptAt ≤ now)).map fun item => (item.payload,item.targets)
      some { s with pass := some (Pass.track s.state ⟨items,.visiting,deliveries items,[],[]⟩) }
    else none
  | .visit canDeliver, s => s.pass.bind fun pass =>
    if s.state.accepts ∧ pass.stage = .visiting then
      (pass.visit s.state canDeliver).map fun pass => { s with pass := some pass }
    else none
  | .finish, s => s.pass.bind fun pass =>
    match pass.stage, pass.items with
    | .finishing, (payload,target :: targets) :: rest =>
      s.remove pass ((payload,targets) :: rest) payload target id
    | _, _ => none
  | .answer answer now, s => s.pass.bind fun pass =>
    match pass.stage, pass.items with
    | .sending, (payload,target :: targets) :: rest =>
      match answer with
      | .delivered => s.remove pass ((payload,targets) :: rest) payload target id
      | .gone => s.remove pass ((payload,targets) :: rest) payload target
          (State.removeSubscription target.deviceId (some target.endpoint))
      | .failed => s.settle pass rest (State.defer payload.eventId now)
    | _, _ => none
  -- A transaction or the authorization check throws.
  | .reject, s => s.pass.map fun pass => { s with pass := some { pass with items := [] } }

variable {payload : Payload}

namespace State

variable {state : State} {eventId : Bounded 256}

theorem accepts_iff : state.accepts ↔ (∀ id item,state.pending.get id = some item → item.targets.length ≤ MAX_TARGETS) ∧
      state.completedEventIds.length ≤ MAX_COMPLETED_EVENT_IDS := by
  rw [accepts,Bool.and_eq_true,decide_eq_true_eq,List.all_eq_true]
  refine and_congr_left fun _ => ⟨fun h id item hget => ?_,fun h item hitem => ?_⟩
  · exact of_decide_eq_true (h item (InsertionMap.mem_values.mpr ⟨id,hget⟩))
  · obtain ⟨id,hget⟩ := InsertionMap.mem_values.mp hitem
    exact decide_eq_true (h id item hget)

section

variable (h : state.accepts)
include h

/-- Only an item that is written can have too many targets. -/
theorem accepts_set {item : Item} (hitem : item.targets.length ≤ MAX_TARGETS) :
    { state with pending := state.pending.set eventId item }.accepts = true := by
  obtain ⟨htargets,hids⟩ := accepts_iff.mp h
  refine accepts_iff.mpr ⟨fun id item' hget => ?_,hids⟩
  rcases InsertionMap.get_set_cases hget with ⟨-,rfl⟩ | ⟨-,hget⟩
  · exact hitem
  · exact htargets id item' hget

theorem accepts_rememberCompleted : (state.rememberCompleted eventId).accepts := by
  rw [accepts_iff,rememberCompleted]
  refine ⟨(accepts_iff.mp h).1,?_⟩
  rw [rtake,length_drop]
  omega

theorem accepts_removeSubscription (deviceId : Bounded 256)
    (endpoint : Option (Bounded 4096)) : (state.removeSubscription deviceId endpoint).accepts := by
  rw [removeSubscription]
  split
  · split
    · exact h
    · exact h
  · exact h

theorem accepts_removeTarget (target : Target) : (state.removeTarget eventId target).accepts := by
  rw [removeTarget]
  cases hitem : state.pending.get eventId with
  | none => exact h
  | some item =>
    simp only
    split
    · exact accepts_set h (Nat.le_trans (length_filter_le _ _) ((accepts_iff.mp h).1 _ _ hitem))
    · refine accepts_rememberCompleted (accepts_iff.mpr ⟨fun id item' hget => ?_,(accepts_iff.mp h).2⟩)
      exact (accepts_iff.mp h).1 id item' (InsertionMap.get_filter.mp hget).1

theorem accepts_defer (now : ℕ) : (state.defer eventId now).accepts := by
  rw [defer]
  cases hitem : state.pending.get eventId with
  | none => exact h
  | some item =>
    have htargets := (accepts_iff.mp h).1 _ _ hitem
    exact accepts_set h htargets

theorem accepts_notify {eligible : Option (List (Bounded 256))}
    (hfew : state.known payload.eventId = false → (state.targets eligible).length ≤ MAX_TARGETS) (now : ℕ) :
    (state.notify payload eligible now).accepts := by
  rw [notify]
  split
  · exact h
  next hknown =>
  split
  · exact accepts_rememberCompleted h
  · exact accepts_set h (hfew (Bool.eq_false_iff.mpr hknown))

end

end State

def Pass.Answered (pass : Pass) (delivery : Delivery) : Prop := delivery ∈ pass.attempted ∨ delivery ∈ pass.retired

/-- What is due has been answered or lies before the pass, and the target at work has been answered. -/
structure Pass.Covered (pass : Pass) : Prop where
  covered : ∀ delivery ∈ pass.due, pass.Answered delivery ∨ delivery ∈ deliveries pass.items
  handled : pass.stage ≠ .visiting → ∀ payload target targets rest,
    pass.items = (payload,target :: targets) :: rest → (payload.eventId,target) ∈ pass.due →
      pass.Answered (payload.eventId,target)

structure Service.Sound (s : Service) : Prop where
  accepts : s.state.accepts
  covered : ∀ pass, s.pass = some pass → pass.Covered
  noticed : ∀ pass, s.pass = some pass → ∀ delivery ∈ pass.due, s.state.live delivery = false →
    delivery ∈ pass.retired

variable {s s' : Service} {pass : Pass} {operation : State → State} {target : Target} {targets : List Target}
  {delivery : Delivery}

theorem mem_deliveries_cons {rest : List (Payload × List Target)} :
    delivery ∈ deliveries ((payload,target :: targets) :: rest) ↔
      delivery = (payload.eventId,target) ∨ delivery ∈ deliveries ((payload,targets) :: rest) := by
  simp [deliveries]

theorem Pass.Covered.track (h : pass.Covered) (state : State) : (pass.track state).Covered := by
  have hanswered : ∀ delivery,pass.Answered delivery → (pass.track state).Answered delivery := fun delivery =>
    Or.imp_right (mem_append_right _)
  exact ⟨fun delivery hdue => (h.covered delivery hdue).imp_left (hanswered delivery),
    fun hstage payload target targets rest hitems hdue =>
      hanswered _ (h.handled hstage payload target targets rest hitems hdue)⟩

theorem mem_track {state : State} (hdue : delivery ∈ pass.due) (hlive : state.live delivery = false) :
    delivery ∈ (pass.track state).retired :=
  mem_append_left _ (mem_filter.mpr ⟨hdue,by rw [hlive]; rfl⟩)

/-- A transaction keeps the file readable and notices what is not live any more. -/
theorem sound_mutate (h : s.mutate operation = some s') (hoperation : s.state.accepts → (operation s.state).accepts)
    (hcovered : ∀ pass,s.pass = some pass → pass.Covered) : s'.Sound := by
  rw [Service.mutate] at h
  split at h
  · next haccepts =>
    cases h
    refine ⟨hoperation haccepts,fun pass hpass => ?_,fun pass hpass delivery hdue hlive => ?_⟩
    · obtain ⟨old,hold,rfl⟩ := map_eq_some_iff.mp hpass
      exact (hcovered old hold).track _
    · obtain ⟨old,hold,rfl⟩ := map_eq_some_iff.mp hpass
      exact mem_track hdue hlive
  · cases h

/-- The target at work is behind the pass, and so may be the rest of its item. -/
theorem sound_settle {rest items : List (Payload × List Target)} (hsound : s.Sound) (hpass : s.pass = some pass)
    (hstage : pass.stage ≠ .visiting) (hitems : pass.items = (payload,target :: targets) :: rest)
    (hleft : ∀ delivery ∈ pass.due,delivery ∈ deliveries ((payload,targets) :: rest) →
      pass.Answered delivery ∨ delivery ∈ deliveries items)
    (hoperation : s.state.accepts → (operation s.state).accepts) (h : s.settle pass items operation = some s') :
    s'.Sound := by
  refine sound_mutate h hoperation fun pass' hpass' => ?_
  cases hpass'
  have hcovered := hsound.covered pass hpass
  refine ⟨fun delivery hdue => ?_,fun hvisiting => absurd rfl hvisiting⟩
  rcases hcovered.covered delivery hdue with hanswered | hmem
  · exact .inl hanswered
  · rw [hitems] at hmem
    rcases mem_deliveries_cons.mp hmem with rfl | hmem
    · exact .inl (hcovered.handled hstage payload target targets rest hitems hdue)
    · exact hleft delivery hdue hmem

theorem sound_remove {rest : List (Payload × List Target)} (hsound : s.Sound) (hpass : s.pass = some pass)
    (hstage : pass.stage ≠ .visiting) (hitems : pass.items = (payload,target :: targets) :: rest)
    (hoperation : s.state.accepts → (operation s.state).accepts)
    (h : s.remove pass ((payload,targets) :: rest) payload target operation = some s') : s'.Sound := by
  rw [Service.remove] at h
  split at h
  · cases h
  · exact sound_settle hsound hpass hstage hitems (fun _ _ => .inr)
      (fun haccepts => State.accepts_removeTarget (hoperation haccepts) target) h

/-- What is due has been answered, or the pass has not reached it. -/
theorem Pass.Covered.left (h : pass.Covered) (hdue : delivery ∈ pass.due) :
    pass.Answered delivery ∨ delivery ∈ pass.left := by
  have hcovered := h.covered delivery hdue
  have hbehind : ∀ payload target targets rest,pass.stage ≠ .visiting →
      pass.items = (payload,target :: targets) :: rest →
        pass.Answered delivery ∨ delivery ∈ deliveries ((payload,targets) :: rest) := by
    intro payload target targets rest hstage hitems
    rw [hitems] at hcovered
    rcases hcovered with hanswered | hmem
    · exact .inl hanswered
    rcases mem_deliveries_cons.mp hmem with rfl | hmem
    · exact .inl (h.handled hstage payload target targets rest hitems hdue)
    · exact .inr hmem
  rw [Pass.left]
  split
  · next hstage hitems => exact hbehind _ _ _ _ (by simp [hstage]) hitems
  · next hstage hitems => exact hbehind _ _ _ _ (by simp [hstage]) hitems
  · exact hcovered

theorem sound_visit (hsound : s.Sound) (hpass : s.pass = some pass) (hstage : pass.stage = .visiting)
    {canDeliver : Bool} {pass' : Pass} (h : pass.visit s.state canDeliver = some pass') :
    (⟨s.state,some pass'⟩ : Service).Sound := by
  have hcovered := (hsound.covered pass hpass).covered
  have hnoticed := hsound.noticed pass hpass
  suffices hall : pass'.Covered ∧ pass'.due = pass.due ∧ ∀ delivery ∈ pass.retired,delivery ∈ pass'.retired by
    refine ⟨hsound.accepts,fun _ hsame => ?_,fun _ hsame delivery hdue hlive => ?_⟩
    · cases hsame
      exact hall.1
    · cases hsame
      exact hall.2.2 delivery (hnoticed delivery (hall.2.1 ▸ hdue) hlive)
  rw [Pass.visit] at h
  split at h
  · cases h
  · next hitems =>
    cases h
    rw [hitems] at hcovered
    exact ⟨⟨hcovered,fun hvisiting => absurd hstage hvisiting⟩,rfl,fun _ => id⟩
  · next payload target targets rest hitems =>
    split at h
    · cases h
    split at h
    · next hpending =>
      cases h
      refine ⟨⟨fun delivery hdue => ?_,fun hvisiting => absurd hstage hvisiting⟩,rfl,fun _ => id⟩
      rcases hcovered delivery hdue with hanswered | hmem
      · exact .inl hanswered
      rw [hitems] at hmem
      rcases mem_deliveries_cons.mp hmem with rfl | hmem
      · exact .inl (.inr (hnoticed _ hdue (by simp_all [State.live])))
      · exact .inr hmem
    next hpending =>
    split at h
    · next hsubscription =>
      cases h
      refine ⟨⟨hcovered,fun _ payload' target' targets' rest' hitems' hdue => ?_⟩,rfl,fun _ => id⟩
      rw [hitems] at hitems'
      cases hitems'
      exact .inr (hnoticed _ hdue (by simp_all [State.live]))
    split at h
    · cases h
      refine ⟨⟨fun delivery hdue => (hcovered delivery hdue).imp_left (Or.imp_right (mem_cons_of_mem _)),
        fun _ payload' target' targets' rest' hitems' _ => ?_⟩,rfl,fun _ => mem_cons_of_mem _⟩
      rw [hitems] at hitems'
      cases hitems'
      exact .inr mem_cons_self
    · cases h
      refine ⟨⟨fun delivery hdue => (hcovered delivery hdue).imp_left (Or.imp_left (mem_cons_of_mem _)),
        fun _ payload' target' targets' rest' hitems' _ => ?_⟩,rfl,fun _ => id⟩
      rw [hitems] at hitems'
      cases hitems'
      exact .inl mem_cons_self

/-- When the code keeps its file readable and its passes complete: a notification has no more targets than the schema
allows, and where a send fails or a pass is rejected, none of the targets that it leaves behind is still live. -/
def Allowed : Event → Service → Prop
  | .notifyTerminal event eligible _, s => ∀ payload, terminalPayload event = some payload →
      s.state.known payload.eventId = false → (s.state.targets eligible).length ≤ MAX_TARGETS
  | .answer .failed _, s => ∀ pass, s.pass = some pass → ∀ payload target targets rest,
      pass.items = (payload,target :: targets) :: rest →
        ∀ other ∈ targets, s.state.live (payload.eventId,other) = false
  | .reject, s => ∀ pass, s.pass = some pass → ∀ delivery ∈ pass.left, s.state.live delivery = false
  | _, _ => True

theorem sound_next {event : Event} (hallowed : Allowed event s) (hsound : s.Sound) (h : next event s = some s') :
    s'.Sound := by
  cases event with
  | subscribe deviceId subscription => exact sound_mutate h id hsound.covered
  | unsubscribe deviceId endpoint =>
    exact sound_mutate h (fun haccepts => State.accepts_removeSubscription haccepts _ _) hsound.covered
  | notifyTerminal event eligible now =>
    rw [next] at h
    split at h
    · cases h
      exact hsound
    · next payload hpayload =>
      exact sound_mutate h (fun haccepts => State.accepts_notify haccepts (hallowed payload hpayload) now)
        hsound.covered
  | flush now =>
    rw [next] at h
    split at h
    · cases h
      refine ⟨hsound.accepts,fun pass hpass => ?_,fun pass hpass delivery hdue hlive => ?_⟩
      · cases hpass
        exact Pass.Covered.track ⟨fun delivery hdue => .inr hdue,fun hvisiting => absurd rfl hvisiting⟩ _
      · cases hpass
        exact mem_track hdue hlive
    · cases h
  | visit canDeliver =>
    obtain ⟨pass,hpass,h⟩ := bind_eq_some_iff.mp h
    split at h
    · next hstage =>
      obtain ⟨pass',hvisit,rfl⟩ := map_eq_some_iff.mp h
      exact sound_visit hsound hpass hstage.2 hvisit
    · cases h
  | finish =>
    obtain ⟨pass,hpass,h⟩ := bind_eq_some_iff.mp h
    split at h
    · next hstage hitems =>
      exact sound_remove hsound hpass (by simp [hstage]) hitems id h
    · cases h
  | answer answer now =>
    obtain ⟨pass,hpass,h⟩ := bind_eq_some_iff.mp h
    split at h
    · next payload target targets rest hstage hitems =>
      have hvisiting : pass.stage ≠ .visiting := by simp [hstage]
      cases answer with
      | delivered =>
        exact sound_remove hsound hpass hvisiting hitems id h
      | gone =>
        exact sound_remove hsound hpass hvisiting hitems
          (fun haccepts => State.accepts_removeSubscription haccepts _ _) h
      | failed =>
        refine sound_settle hsound hpass hvisiting hitems (fun delivery hdue hmem => ?_)
          (fun haccepts => State.accepts_defer haccepts _) h
        rw [deliveries,flatMap_cons,mem_append] at hmem
        refine hmem.imp_left fun hmem => ?_
        obtain ⟨other,hother,rfl⟩ := mem_map.mp hmem
        have hlive := hallowed pass hpass payload target targets rest hitems other hother
        exact .inr (hsound.noticed pass hpass _ hdue hlive)
    · cases h
  | reject =>
    obtain ⟨pass,hpass,rfl⟩ := map_eq_some_iff.mp h
    refine ⟨hsound.accepts,fun _ hsame => ?_,fun _ hsame => ?_⟩
    · cases hsame
      refine ⟨fun delivery hdue => .inl ?_,fun _ payload target targets rest hitems => (nomatch hitems)⟩
      refine ((hsound.covered pass hpass).left hdue).elim id fun hleft => ?_
      exact .inr (hsound.noticed pass hpass delivery hdue (hallowed pass hpass delivery hleft))
    · cases hsame
      exact hsound.noticed pass hpass

/-- What a service whose steps are all allowed gets to. -/
inductive Reached (start : State) : Service → Prop
  | start : Reached start ⟨start,none⟩
  | step {s s' : Service} (h : Reached start s) (event : Event) (hallowed : Allowed event s)
      (hstep : next event s = some s') : Reached start s'

theorem Reached.sound {start : State} (hstart : start.accepts) (h : Reached start s) : s.Sound := by
  induction h with
  | start => exact ⟨hstart,fun _ hpass => (nomatch hpass),fun _ hpass => (nomatch hpass)⟩
  | step h event hallowed hstep ih => exact sound_next hallowed ih hstep

/-- Each state that is written is read back, and a pass that has ended has attempted each target that was due and has
not been retired. -/
theorem readable_and_fair {start : State} (hstart : start.accepts = true) (h : Reached start s) :
    s.state.accepts = true ∧ ∀ pass, s.pass = some pass → pass.items = [] →
      ∀ delivery ∈ pass.due, delivery ∈ pass.attempted ∨ delivery ∈ pass.retired := by
  have hsound := h.sound hstart
  refine ⟨hsound.accepts,fun pass hpass hitems delivery hdue => ?_⟩
  have hcovered := (hsound.covered pass hpass).covered delivery hdue
  rw [hitems] at hcovered
  exact hcovered.resolve_right not_mem_nil

theorem bounds_short (n : ℕ) (c : UInt16) : 0 < (⟨[c]⟩ : JsString).length ∧ (⟨[c]⟩ : JsString).length ≤ n + 1 :=
  ⟨Nat.zero_lt_one,Nat.le_add_left 1 n⟩

def short (n : ℕ) (c : UInt16) : Bounded (n + 1) := ⟨⟨[c]⟩,bounds_short n c⟩

def sampleEvent : Mlp3Event :=
  ⟨short 255 101,short 255 119,some (short 255 112),some (short 255 115),.turnCompleted .succeeded⟩

def sampleSubscription (c : UInt16) : Subscription := ⟨short 4095 c,"p256dh","auth"⟩

def sampleDelivery (c : UInt16) : Delivery := (short 255 101,⟨short 255 c,short 4095 c⟩)

def State.empty : State := ⟨.empty,.empty,[]⟩

/-- One of three targets is delivered, one fails, and the device of the last one has unsubscribed before. The targets are
in the order of their device IDs. -/
theorem readable_and_fair_sample : ∃ s, Reached .empty s ∧ s.state.accepts = true ∧
    ∃ pass, s.pass = some pass ∧ pass.items = [] ∧
      pass.due = [sampleDelivery 49,sampleDelivery 50,sampleDelivery 97] ∧
      ∀ delivery ∈ pass.due, delivery ∈ pass.attempted ∨ delivery ∈ pass.retired := by
  have hqueued := (((.start : Reached .empty ⟨.empty,none⟩).step
    (.subscribe (short 255 97) (sampleSubscription 97)) trivial rfl).step
    (.subscribe (short 255 50) (sampleSubscription 50)) trivial rfl).step
    (.subscribe (short 255 49) (sampleSubscription 49)) trivial rfl
  have hdelivered := (((hqueued.step
    (.notifyTerminal sampleEvent none 0) (fun payload hpayload _ => by cases hpayload; decide) rfl).step
    (.flush 0) trivial rfl).step (.visit true) trivial rfl).step (.answer .delivered 0) trivial rfl
  have hreached := ((hdelivered.step (.visit true) trivial rfl).step
    (.unsubscribe (short 255 97) none) trivial rfl).step (.answer .failed 0) (fun pass hpass => by
      cases hpass
      rintro payload target targets rest hitems other hother
      cases hitems
      obtain rfl := mem_singleton.mp hother
      rfl) rfl
  have hsound := readable_and_fair rfl hreached
  exact ⟨_,hreached,hsound.1,_,rfl,rfl,rfl,hsound.2 _ rfl rfl⟩

/-- The first of two targets fails, and the pass ends before the second has been attempted. -/
theorem second_target_waits :
    (([.subscribe (short 255 97) (sampleSubscription 97),.subscribe (short 255 98) (sampleSubscription 98),
      .notifyTerminal sampleEvent none 0,.flush 0,.visit true,.answer .failed 0].foldlM
        (fun s event => next event s) (⟨.empty,none⟩ : Service)).bind (·.pass)).map
          (fun pass => (pass.items.isEmpty,pass.due,pass.attempted,pass.retired)) =
      some (true,[sampleDelivery 97,sampleDelivery 98],[sampleDelivery 97],[]) :=
  rfl

end Malink.WebPush
