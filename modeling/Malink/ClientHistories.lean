import Malink.ClientMoves
import Malink.ProjectionSeen

/-!
# Events of a deleted inbox record

A record leaves the inbox once the projection has taken its event. A change is saved before; an event that
changes nothing is taken to be saved already.
-/

namespace Malink.Client

open Malink.Mlp3 List Option

/-- What a raw event brought, as the projection took it. -/
structure Delivery where
  outcome : RawOutcome
  physicalEventId : JsString
  timestamp : ℕ
  deriving DecidableEq

/-- The projection with a delivery, and whether it has changed. A delivery may be refused. -/
def Delivery.apply (host : ClientHost) (p : Projection) (d : Delivery) : Option (Projection × Bool) :=
  match d.outcome with
  | .passed => some (p,false)
  | .failed _ => none
  | .command command => some (p.applyCommand command d.physicalEventId d.timestamp)
  | .event event threadRootHint =>
    (Projection.applyEvent host.toHost p event d.physicalEventId threadRootHint).toOption

/-- The projection of a history. A delivery that reports no change may as well not have come, and a
projection that is saved and restored has the history of the one that was saved. -/
inductive Built (host : ClientHost) : Projection → List Delivery → Prop
  | empty : Built host .empty []
  | applied {p p' : Projection} {history : List Delivery} {d : Delivery} {changed : Bool} :
      Built host p history → d.apply host p = some (p',changed) → Built host p' (history ++ [d])
  | unchanged {p p' : Projection} {history : List Delivery} {d : Delivery} :
      Built host p history → d.apply host p = some (p',false) → Built host p (history ++ [d])
  | restored {p p' : Projection} {history : List Delivery} :
      Built host p history → restore host.schemas host.toHost p.durableState = .ok p' →
      Built host p' history

/-- A projection with the effect of every delivery of a list. -/
def Includes (host : ClientHost) (p : Projection) (ds : List Delivery) : Prop :=
  ∃ history, Built host p history ∧ ∀ d ∈ ds, d ∈ history

/-- The identifier under which a delivery is taken once. -/
def Delivery.logicalId (d : Delivery) : Option JsString :=
  match d.outcome with
  | .command command => some (commandLogicalId command)
  | .event event _ => if Projection.isLogical event then some event.eventId else none
  | _ => none

open Projection

variable {host : ClientHost} {p p' : Projection} {ds : List Delivery} {d : Delivery}
  {changed ok : Bool} {id : JsString} {action : Action} {ds : List Delivery}
  {actions : List Action}

theorem seenIn_apply (h : d.apply host p = some (p',changed)) : SeenIn p p' := by
  unfold Delivery.apply at h
  split at h
  · cases h
    exact fun _ hid => hid
  · cases h
  · obtain rfl := congrArg Prod.fst (some.inj h)
    exact (seenIn_applyCommand _ _ _).1
  · cases he : applyEvent host.toHost p _ d.physicalEventId _ with
    | error error =>
      rw [he] at h
      cases h
    | ok result =>
      rw [he] at h
      cases h
      exact seenIn_applyEvent he

theorem seen_apply (h : d.apply host p = some (p',changed))
    (hid : d.logicalId = some id) : p'.seenLogicalEvents.has id := by
  unfold Delivery.apply at h
  unfold Delivery.logicalId at hid
  split at h <;> simp only [*] at hid
  · cases hid
  · cases hid
  · obtain rfl := congrArg Prod.fst (some.inj h)
    obtain rfl := some.inj hid
    exact (seenIn_applyCommand _ _ _).2
  · split at hid
    · next hlogical =>
      obtain rfl := some.inj hid
      rw [applyEvent_of_isLogical hlogical] at h
      obtain rfl := congrArg Prod.fst (some.inj h)
      exact (seenIn_applyLogicalEvent _ _ _).2
    · cases hid

/-- An event that is taken once and reports no change was seen before. -/
theorem seen_of_unchanged (h : d.apply host p = some (p',false))
    (hid : d.logicalId = some id) : p.seenLogicalEvents.has id := by
  unfold Delivery.apply at h
  unfold Delivery.logicalId at hid
  split at h <;> simp only [*] at hid
  · cases hid
  · cases hid
  · next command heq =>
    obtain rfl := some.inj hid
    have hflag := congrArg Prod.snd (some.inj h)
    unfold applyCommand at hflag
    split at hflag
    · next hseen => exact hseen
    · cases hflag
  · split at hid
    · next hlogical =>
      obtain rfl := some.inj hid
      rw [applyEvent_of_isLogical hlogical] at h
      have hflag := congrArg Prod.snd (some.inj h)
      simp only [applyLogicalEvent] at hflag
      split at hflag
      · next hseen => exact hseen
      · cases hflag
    · cases hid

theorem Built.seen {history : List Delivery} (h : Built host p history) (hd : d ∈ history)
    (hid : d.logicalId = some id) : p.seenLogicalEvents.has id := by
  induction h with
  | empty => cases hd
  | applied h happly ih =>
    rcases mem_append.mp hd with hd | hd
    · exact seenIn_apply happly id (ih hd)
    · rw [mem_singleton.mp hd] at hid
      exact seen_apply happly hid
  | unchanged h happly ih =>
    rcases mem_append.mp hd with hd | hd
    · exact ih hd
    · rw [mem_singleton.mp hd] at hid
      exact seen_of_unchanged happly hid
  | restored h hrestore ih => exact seenIn_restore hrestore id (ih hd)

theorem apply_of_seen (hid : d.logicalId = some id) (hseen : p.seenLogicalEvents.has id) :
    d.apply host p = some (p,false) := by
  unfold Delivery.logicalId at hid
  unfold Delivery.apply
  split at hid
  · next command heq =>
    obtain rfl := some.inj hid
    simp [heq,applyCommand,hseen]
  · next event hint heq =>
    split at hid
    · next hlogical =>
      obtain rfl := some.inj hid
      simp [heq,applyEvent_of_isLogical hlogical,applyLogicalEvent,hseen,Except.toOption]
    · cases hid
  · cases hid

theorem includes_empty (host : ClientHost) : Includes host .empty [] := ⟨[],.empty,fun _ h => (nomatch h)⟩

theorem Includes.mono {ds' : List Delivery} (h : Includes host p ds) (hs : ∀ d ∈ ds',d ∈ ds) : Includes host p ds' :=
  h.imp fun _ hb => ⟨hb.1,fun d hd => hb.2 d (hs d hd)⟩

theorem Includes.apply (h : Includes host p ds) (ha : d.apply host p = some (p',changed)) :
    Includes host p' (ds ++ [d]) := by
  obtain ⟨history,hb,hm⟩ := h
  exact ⟨history ++ [d],hb.applied ha,fun e he => (mem_append.mp he).elim
    (fun he => mem_append_left _ (hm e he)) (mem_append_right _)⟩

theorem Includes.unchanged (h : Includes host p ds) (ha : d.apply host p = some (p',false)) :
    Includes host p (ds ++ [d]) := by
  obtain ⟨history,hb,hm⟩ := h
  exact ⟨history ++ [d],hb.unchanged ha,fun e he => (mem_append.mp he).elim
    (fun he => mem_append_left _ (hm e he)) (mem_append_right _)⟩

theorem Includes.restore (h : Includes host p ds)
    (hr : restore host.schemas host.toHost p.durableState = .ok p') : Includes host p' ds :=
  h.imp fun _ hb => ⟨hb.1.restored hr,hb.2⟩

def restoredProjection (host : ClientHost) (state : Option ProjectionState) : Projection :=
  (state.bind fun state => (restore host.schemas host.toHost state).toOption).getD .empty

def takesUnchanged (host : ClientHost) (p : Projection) (d : Delivery) : Bool :=
  (d.apply host p).any fun result => !result.2

theorem Includes.of_takesUnchanged (h : Includes host p ds) (hd : takesUnchanged host p d) :
    Includes host p (ds ++ [d]) := by
  obtain ⟨⟨p',changed⟩,ha,hflag⟩ := any_eq_true _ _ |>.mp hd
  have hflag : changed = false := by simpa using hflag
  subst hflag
  exact h.unchanged ha

namespace State

variable {s s' : State}

/-- What the worker has done with the records that it took. -/
structure Ledger where
  current : Option Delivery
  saved : Bool
  /-- The deliveries of the records that are deleted. -/
  deleted : List Delivery

def Ledger.none : Ledger := ⟨.none,false,[]⟩

def Ledger.next (s : State) (action : Action) (l : Ledger) : Ledger :=
  match action, s.worker with
  | .work _, .opened raw outcome _ => { l with current := some ⟨outcome,raw.eventId,raw.timestamp⟩, saved := false }
  | .work true, .deleting _ _ => { l with deleted := l.deleted ++ l.current.toList }
  | .endSave true, _ => { l with saved := l.saved || decide (s.saves.head? = some .worker) }
  | _, _ => l

/-- Whatever a client that restarts here does until its next restart, its projection has the effect of each
deleted record. -/
def KeepsEvents (host : ClientHost) (l : Ledger) (s : State) : Prop :=
  ∀ actions s', (∀ action ∈ actions,action ≠ .restart) →
    (started host s.store s.sentCommandIds).run host actions = some s' →
    Includes host s'.projection l.deleted

/-- A run in every state of which a restart finds the events of the deleted records. -/
def KeepsEventsRun (host : ClientHost) (l : Ledger) (s : State) : List Action → Prop
  | [] => s.KeepsEvents host l
  | action :: actions => s.KeepsEvents host l ∧ ∀ s' ∈ s.step host action,
      KeepsEventsRun host (l.next s action) s' actions

/-- Whether a step deletes a record that was not saved although its event is new to the stored projection
or to the one that is being stored, or stores a projection that cannot be restored. -/
def losesEvent (host : ClientHost) (l : Ledger) (s : State) : Action → Bool
  | .work true =>
    match s.worker with
    | .deleting _ _ => !l.saved && l.current.any fun d =>
        !(takesUnchanged host (restoredProjection host s.store.projectionState) d &&
          s.saving.all fun state => takesUnchanged host (restoredProjection host (some state)) d)
    | _ => false
  | .endSave true => s.saving.any fun state => !(restore host.schemas host.toHost state).toOption.isSome
  | _ => false

/-- A run in which no step loses an event. -/
def LosslessRun (host : ClientHost) (l : Ledger) (s : State) : List Action → Prop
  | [] => True
  | action :: actions => ∀ s' ∈ s.step host action,
      s.losesEvent host l action = false ∧ LosslessRun host (l.next s action) s' actions

/-- Whether the projection has taken the event that the worker is about. -/
def taken : Worker → Bool
  | .reading _ => true
  | .completing _ _ => true
  | .settled _ => true
  | .persisting _ _ => true
  | .deleting _ _ => true
  | _ => false

def isDeleting : Worker → Bool
  | .deleting _ _ => true
  | _ => false

def isPersisting : Worker → Bool
  | .persisting _ _ => true
  | _ => false

/-- The deliveries of the deleted records and, perhaps, the one that the worker is about. -/
def Ledger.known (l : Ledger) (current : Bool) : List Delivery :=
  l.deleted ++ if current then l.current.toList else []

/-- The histories of the projection in memory, of the stored one and of the one that is being stored. -/
structure Kept (host : ClientHost) (l : Ledger) (s : State) : Prop where
  memory : Includes host s.projection (l.known (taken s.worker))
  stored : Includes host (restoredProjection host s.store.projectionState)
    (l.known (isDeleting s.worker && l.saved))
  saving : ∀ state, s.saving = some state → (restore host.schemas host.toHost state).toOption.isSome →
    Includes host (restoredProjection host (some state))
      (l.known ((isDeleting s.worker && l.saved) || decide (s.saves.head? = some .worker)))
  fresh : taken s.worker → isDeleting s.worker = false → l.saved = false
  saver : .worker ∈ s.saves → isPersisting s.worker
  once : s.saves.count .worker ≤ 1
  idle : s.saves = [] → s.saving = none

structure Extends (host : ClientHost) (s s' : State) : Prop where
  memory : ∀ ds, Includes host s.projection ds → Includes host s'.projection ds
  state : s'.store.projectionState = s.store.projectionState
  saving : s'.saving = s.saving
  worker : s'.worker = s.worker
  saves : ∃ more, s'.saves = s.saves ++ more ∧ Saver.worker ∉ more

theorem Extends.of_eq (hp : s'.projection = s.projection)
    (hstate : s'.store.projectionState = s.store.projectionState) (hsaving : s'.saving = s.saving)
    (hworker : s'.worker = s.worker) (hsaves : s'.saves = s.saves) : Extends host s s' :=
  ⟨fun _ h => hp ▸ h,hstate,hsaving,hworker,[],by rw [hsaves,append_nil],not_mem_nil⟩

/-- The commands that a step projects are deliveries of their own. -/
theorem Moves.extends (h : Moves s s') : Extends host s s' := by
  refine ⟨fun ds hd => ?_,h.state,h.saving,h.worker,h.saves⟩
  obtain ⟨applied,hp⟩ := h.projection
  rw [hp]
  generalize s.projection = p at hd
  clear hp
  induction applied generalizing p with
  | nil => exact hd
  | cons e applied ih =>
    have happly : (Delivery.mk (.command e.1) e.2.1 e.2.2).apply host p = some (p.applyCommand e.1 e.2.1 e.2.2) := rfl
    exact ih _ ((hd.apply happly).mono fun d hd => mem_append_left _ hd)

theorem extends_step (h : s.step host action = some s') (hw : ∀ ok,action ≠ .work ok)
    (hb : action ≠ .beginSave) (he : ∀ ok,action ≠ .endSave ok) (hr : action ≠ .restart) : Extends host s s' := by
  cases hown : s.isOwn action with
  | false => exact (moves_step h hown).extends
  | true =>
    cases action with
    | resume id ok =>
      obtain ⟨⟨_,phase⟩,hcall,rfl⟩ := map_eq_some_iff.mp h
      cases phase with
      | releasing record =>
        simp only [resumeCall]
        split <;> exact .of_eq rfl rfl rfl rfl rfl
      | _ => simp [isOwn,hcall] at hown
    | observe id =>
      obtain ⟨o,-,hstep⟩ := bind_eq_some_iff.mp h
      unfold stepObserver at hstep
      split at hstep <;> cases hstep <;> exact .of_eq rfl rfl rfl rfl rfl
    | work ok => exact absurd rfl (hw ok)
    | beginSave => exact absurd rfl hb
    | endSave ok => exact absurd rfl (he ok)
    | restart => exact absurd rfl hr
    | _ => cases hown

variable {l : Ledger}

theorem Kept.of_extends (hk : s.Kept host l) (h : Extends host s s') : s'.Kept host l := by
  obtain ⟨more,hsaves,hmore⟩ := h.saves
  have head : s.saves ≠ [] → s'.saves.head? = s.saves.head? := by
    intro hne
    rw [hsaves,head?_append_of_ne_nil _ hne]
  refine ⟨h.memory _ (h.worker ▸ hk.memory),?_,fun state hs hok => ?_,h.worker.symm ▸ hk.fresh,
    fun hmem => ?_,?_,fun hempty => ?_⟩
  · rw [h.state,h.worker]
    exact hk.stored
  · rw [h.saving] at hs
    have hne : s.saves ≠ [] := fun hempty => by
      rw [hk.idle hempty] at hs
      cases hs
    rw [h.worker,head hne]
    exact hk.saving state hs hok
  · rw [h.worker]
    rw [hsaves] at hmem
    exact hk.saver ((mem_append.mp hmem).resolve_right hmore)
  · rw [hsaves,count_append,count_eq_zero_of_not_mem hmore]
    exact hk.once
  · rw [h.saving]
    rw [hsaves] at hempty
    exact hk.idle (append_eq_nil_iff.mp hempty).1

/-- A step of the worker before it deletes: it stores no projection, and may ask for a save. -/
structure Works (s s' : State) : Prop where
  state : s'.store.projectionState = s.store.projectionState
  saving : s'.saving = s.saving
  saves : s'.saves = s.saves ∨ (s'.saves = s.saves ++ [.worker] ∧ isPersisting s'.worker)

theorem Works.of_eq (hstate : s'.store.projectionState = s.store.projectionState)
    (hsaving : s'.saving = s.saving) (hsaves : s'.saves = s.saves) : Works s s' := ⟨hstate,hsaving,.inl hsaves⟩

theorem Works.trans_eq {m : State} (h : Works m s') (hstate : m.store.projectionState = s.store.projectionState)
    (hsaving : m.saving = s.saving) (hsaves : m.saves = s.saves) : Works s s' :=
  ⟨h.state.trans hstate,h.saving.trans hsaving,hsaves ▸ h.saves⟩

theorem works_finishItem (changed : Bool) (raw : RawEvent) (rest : List InboxRecord) :
    Works s (s.finishItem changed raw rest) := by
  unfold finishItem
  split
  · exact ⟨rfl,rfl,.inr ⟨rfl,rfl⟩⟩
  · exact .of_eq rfl rfl rfl

theorem known_subset (b : Bool) : ∀ d ∈ l.deleted, d ∈ l.known b :=
  fun _ hd => mem_append_left _ hd

theorem known_false (l : Ledger) : l.known false = l.deleted := append_nil _

theorem Kept.not_mem_saves (hk : s.Kept host l) (hw : isPersisting s.worker = false) : Saver.worker ∉ s.saves := by
  intro hmem
  rw [hk.saver hmem] at hw
  cases hw

theorem Kept.head_ne (hk : s.Kept host l) (hw : isPersisting s.worker = false) : s.saves.head? ≠ some .worker :=
  fun h => hk.not_mem_saves hw (mem_of_mem_head? h)

theorem taken_of_isDeleting {worker : Worker} (h : isDeleting worker) : taken worker := by
  cases worker <;> first | rfl | cases h

theorem taken_of_isPersisting {worker : Worker} (h : isPersisting worker) : taken worker := by
  cases worker <;> first | rfl | cases h

theorem Kept.of_works {l l' : Ledger} (hk : s.Kept host l) (h : Works s s')
    (hw : isPersisting s.worker = false) (hd : l'.deleted = l.deleted) (hf : taken s'.worker → l'.saved = false)
    (hm : Includes host s'.projection (l'.known (taken s'.worker))) : s'.Kept host l' := by
  have hn : (isDeleting s'.worker && l'.saved) = false := by
    cases hdeleting : isDeleting s'.worker with
    | false => rfl
    | true => exact hf (taken_of_isDeleting hdeleting)
  have hwait := hk.not_mem_saves hw
  have hdeleted : ∀ b,∀ d ∈ l'.known false,d ∈ l.known b := by
    intro b d hmem
    rw [known_false,hd] at hmem
    exact known_subset b d hmem
  refine ⟨hm,?_,fun state hs hok => ?_,fun ht _ => hf ht,fun hmem => ?_,?_,fun hempty => ?_⟩
  · rw [h.state,hn]
    exact hk.stored.mono (hdeleted _)
  · rw [h.saving] at hs
    have hhead : s'.saves.head? ≠ some .worker := by
      rcases h.saves with he | ⟨he,-⟩
      · rw [he]
        exact hk.head_ne hw
      · have hne : s.saves ≠ [] := fun hempty => by
          rw [hk.idle hempty] at hs
          cases hs
        rw [he,head?_append_of_ne_nil _ hne]
        exact hk.head_ne hw
    rw [hn,decide_eq_false hhead]
    exact (hk.saving state hs hok).mono (hdeleted _)
  · rcases h.saves with he | ⟨-,hp⟩
    · rw [he] at hmem
      exact absurd hmem hwait
    · exact hp
  · rcases h.saves with he | ⟨he,-⟩
    · rw [he]
      exact hk.once
    · rw [he,count_append,count_eq_zero_of_not_mem hwait,count_singleton_self]
  · rw [h.saving]
    rcases h.saves with he | ⟨he,-⟩
    · exact hk.idle (he ▸ hempty)
    · rw [he] at hempty
      exact absurd hempty (append_ne_nil_of_right_ne_nil _ (cons_ne_nil _ _))

theorem taken_finishItem (changed : Bool) (raw : RawEvent) (rest : List InboxRecord) :
    taken (s.finishItem changed raw rest).worker ∧
      (s.finishItem changed raw rest).projection = s.projection := by
  unfold finishItem
  split <;> exact ⟨rfl,rfl⟩

/-- An event is refused, or waits for its completion to be recorded, or is done with. -/
theorem projectEvent_cases (event : Event) (hint : Option JsString) (raw : RawEvent) (rest : List InboxRecord) :
    (∃ error,applyEvent host.toHost s.projection event raw.eventId hint = .error error ∧
      s.projectEvent host event hint raw rest = { s with worker := .quarantining raw error.message rest }) ∨
    ∃ projection changed,
      applyEvent host.toHost s.projection event raw.eventId hint = .ok (projection,changed) ∧
      ((∃ recording : Recording,(recording.changed = changed ∧ recording.raw = raw ∧ recording.rest = rest) ∧
          s.projectEvent host event hint raw rest = { s with projection, worker := .reading recording }) ∨
        s.projectEvent host event hint raw rest = { s with projection }.finishItem changed raw rest) := by
  unfold projectEvent
  cases heq : applyEvent host.toHost s.projection event raw.eventId hint with
  | error error => exact .inl ⟨error,rfl,rfl⟩
  | ok result =>
    obtain ⟨projection,changed⟩ := result
    refine .inr ⟨projection,changed,rfl,?_⟩
    simp only
    split
    · exact .inl ⟨_,⟨rfl,rfl,rfl⟩,rfl⟩
    · exact .inr rfl

theorem projectOutcome_spec (outcome : RawOutcome) (raw : RawEvent) (rest : List InboxRecord) :
    Works s (s.projectOutcome host outcome raw rest) ∧
      ∀ ds, Includes host s.projection ds → Includes host (s.projectOutcome host outcome raw rest).projection
        (ds ++ if taken (s.projectOutcome host outcome raw rest).worker then
          [⟨outcome,raw.eventId,raw.timestamp⟩] else []) := by
  have finished : ∀ (m : State) (changed : Bool) (d : Delivery),
      d.apply host s.projection = some (m.projection,changed) → ∀ ds, Includes host s.projection ds →
      Includes host (m.finishItem changed raw rest).projection
        (ds ++ if taken (m.finishItem changed raw rest).worker then [d] else []) := by
    intro m changed d ha ds h
    rw [(taken_finishItem changed raw rest).1,(taken_finishItem changed raw rest).2]
    exact h.apply ha
  cases outcome with
  | passed => exact ⟨works_finishItem _ _ _,finished s false _ rfl⟩
  | failed message =>
    refine ⟨.of_eq rfl rfl rfl,fun ds h => ?_⟩
    simpa [projectOutcome,taken] using h
  | command command =>
    exact ⟨(works_finishItem _ _ _).trans_eq rfl rfl rfl,finished _ _ _ rfl⟩
  | event event hint =>
    have hproject : s.projectOutcome host (.event event hint) raw rest = s.projectEvent host event hint raw rest := rfl
    rcases projectEvent_cases (s := s) event hint raw rest with ⟨error,-,he⟩ | ⟨projection,changed,heq,hcase⟩
    · rw [hproject,he]
      refine ⟨.of_eq rfl rfl rfl,fun ds h => ?_⟩
      simpa [taken] using h
    · have ha : (Delivery.mk (.event event hint) raw.eventId raw.timestamp).apply host s.projection =
          some (projection,changed) := by
        simp only [Delivery.apply,heq]
        rfl
      rcases hcase with ⟨recording,-,he⟩ | he
      · rw [hproject,he]
        refine ⟨.of_eq rfl rfl rfl,fun ds h => ?_⟩
        simp only [taken,if_true]
        exact h.apply ha
      · rw [hproject,he]
        refine ⟨(works_finishItem _ _ _).trans_eq rfl rfl rfl,?_⟩
        exact finished { s with projection } changed _ ha

/-- A deleted record joins the histories of the stored projections, where it was saved before or changes
nothing. -/
theorem Kept.delete (hk : s.Kept host l) {raw : RawEvent} {rest : List InboxRecord}
    (hworker : s.worker = .deleting raw rest) (hl : s.losesEvent host l (.work true) = false) :
    { s with store := s.store.deleteInbox raw.eventId, worker := .draining rest }.Kept host
      { l with deleted := l.deleted ++ l.current.toList } := by
  have hw : isPersisting s.worker = false := by rw [hworker]; rfl
  have hhead := hk.head_ne hw
  have hsaving := hk.saving
  have hstored := hk.stored
  rw [decide_eq_false hhead] at hsaving
  rw [hworker] at hstored hsaving
  simp only [isDeleting,Bool.true_and,Bool.or_false] at hstored hsaving
  have hmemory : Includes host s.projection (l.known true) := by
    have h := hk.memory
    rw [hworker] at h
    exact h
  -- Either the worker has saved the event or it changes neither projection.
  have key : Includes host (restoredProjection host s.store.projectionState) (l.known true) ∧
      ∀ state, s.saving = some state → (restore host.schemas host.toHost state).toOption.isSome →
        Includes host (restoredProjection host (some state)) (l.known true) := by
    cases hsaved : l.saved with
    | true =>
      rw [hsaved] at hstored hsaving
      exact ⟨hstored,hsaving⟩
    | false =>
      rw [hsaved,known_false] at hstored
      simp only [hsaved,known_false] at hsaving
      cases hcurrent : l.current with
      | none =>
        have hnone : l.known true = l.deleted := by simp [Ledger.known,hcurrent]
        rw [hnone]
        exact ⟨hstored,hsaving⟩
      | some d =>
        have hknown : l.known true = l.deleted ++ [d] := by simp [Ledger.known,hcurrent]
        simp only [losesEvent,hworker,hsaved,hcurrent,Bool.not_false,Bool.true_and,any_some,
          Bool.not_eq_false',Bool.and_eq_true] at hl
        rw [hknown]
        refine ⟨hstored.of_takesUnchanged hl.1,fun state hs hok => ?_⟩
        have hall := hl.2
        rw [hs,all_some] at hall
        exact (hsaving state hs hok).of_takesUnchanged hall
  refine ⟨?_,?_,fun state hs hok => ?_,nofun,fun hmem => absurd hmem (hk.not_mem_saves hw),hk.once,
    hk.idle⟩
  · change Includes host s.projection (Ledger.known _ false)
    rw [known_false]
    exact hmemory
  · change Includes host _ (Ledger.known _ false)
    rw [known_false]
    exact key.1
  · have hfalse : decide (s.saves.head? = some Saver.worker) = false := decide_eq_false hhead
    simp only [isDeleting,Bool.false_and,Bool.false_or,hfalse,known_false]
    exact key.2 state hs hok

theorem Kept.rest (hk : s.Kept host l) (h : Works s s') (hw : isPersisting s.worker = false)
    (hp : s'.projection = s.projection)
    (ht : taken s'.worker → taken s.worker ∧ isDeleting s.worker = false) : s'.Kept host l := by
  refine hk.of_works h hw rfl (fun ht' => hk.fresh (ht ht').1 (ht ht').2) ?_
  rw [hp]
  refine hk.memory.mono fun d hd => ?_
  cases hs' : taken s'.worker with
  | false =>
    rw [hs',known_false] at hd
    exact known_subset _ d hd
  | true =>
    rw [(ht hs').1]
    rwa [hs'] at hd

theorem Kept.stepWorker (hk : s.Kept host l) (h : s.stepWorker host ok = some s')
    (hl : s.losesEvent host l (.work ok) = false) : s'.Kept host (l.next s (.work ok)) := by
  cases hworker : s.worker with
  | idle =>
    simp only [State.stepWorker,hworker] at h
    simp only [Ledger.next,hworker]
    split at h
    · cases h
    · cases h
      exact hk.rest (.of_eq rfl rfl rfl) (by rw [hworker]; rfl) rfl nofun
  | draining records =>
    simp only [Ledger.next,hworker]
    cases records with
    | nil | cons =>
      simp only [State.stepWorker,hworker] at h
      cases h
      exact hk.rest (.of_eq rfl rfl rfl) (by rw [hworker]; rfl) rfl nofun
  | opened raw outcome rest =>
    simp only [State.stepWorker,hworker] at h
    cases h
    simp only [Ledger.next,hworker]
    obtain ⟨hworks,hincludes⟩ := @projectOutcome_spec host s outcome raw rest
    refine hk.of_works hworks (by rw [hworker]; rfl) rfl (fun _ => rfl) ?_
    have hdeleted := hk.memory
    rw [hworker] at hdeleted
    simpa [Ledger.known] using hincludes _ (hdeleted.mono (known_subset _))
  | reading | completing =>
    simp only [State.stepWorker,hworker] at h
    simp only [Ledger.next,hworker]
    split at h <;> cases h <;>
      exact hk.rest (.of_eq rfl rfl rfl) (by rw [hworker]; rfl) rfl (fun _ => by rw [hworker]; exact ⟨rfl,rfl⟩)
  | settled recording =>
    simp only [State.stepWorker,hworker] at h
    cases h
    simp only [Ledger.next,hworker]
    exact hk.rest ((works_finishItem _ _ _).trans_eq rfl rfl rfl) (by rw [hworker]; rfl)
      (taken_finishItem _ _ _).2 (fun _ => by rw [hworker]; exact ⟨rfl,rfl⟩)
  | persisting raw rest =>
    simp only [State.stepWorker,hworker] at h
    cases h
  | deleting raw rest =>
    simp only [State.stepWorker,hworker] at h
    simp only [Ledger.next,hworker]
    cases ok with
    | true =>
      cases h
      exact hk.delete hworker hl
    | false =>
      cases h
      exact hk.rest (.of_eq rfl rfl rfl) (by rw [hworker]; rfl) rfl nofun
  | quarantining raw message rest =>
    simp only [State.stepWorker,hworker] at h
    simp only [Ledger.next,hworker]
    split at h
    · next store hstore =>
      have hstate := projectionState_of_updateInbox hstore
      split at h <;> cases h
      · exact hk.rest (.of_eq hstate rfl rfl) (by rw [hworker]; rfl) rfl nofun
      · exact hk.rest (.of_eq rfl rfl rfl) (by rw [hworker]; rfl) rfl nofun
    · cases h
      exact hk.rest (.of_eq rfl rfl rfl) (by rw [hworker]; rfl) rfl nofun

theorem restoredProjection_of_ok {p p' : Projection} (h : restore host.schemas host.toHost p.durableState = .ok p') :
    restoredProjection host (some p.durableState) = p' := by
  simp only [restoredProjection,bind_some,h]
  rfl

theorem Kept.beginSave (hk : s.Kept host l) (h : s.beginSave = some s') : s'.Kept host l := by
  unfold State.beginSave at h
  split at h
  · cases h
  · next hnone =>
    cases h
    refine ⟨hk.memory,hk.stored,fun state hs hok => ?_,hk.fresh,hk.saver,hk.once,
      fun hempty => absurd (.inl hempty) hnone⟩
    cases hs
    cases hr : restore host.schemas host.toHost s.projection.durableState with
    | error error =>
      rw [hr] at hok
      cases hok
    | ok p' =>
      rw [restoredProjection_of_ok hr]
      refine (hk.memory.restore hr).mono fun d hd => ?_
      cases ht : taken s.worker with
      | true =>
        rcases mem_append.mp hd with hd | hd
        · exact known_subset _ d hd
        · split at hd
          · exact mem_append_right _ hd
          · cases hd
      | false =>
        have hdeleting : isDeleting s.worker = false := by
          cases hdeleting : isDeleting s.worker with
          | false => rfl
          | true => simp [taken_of_isDeleting hdeleting] at ht
        have hhead : s.saves.head? ≠ some .worker := by
          intro hhead
          have hpersisting := hk.saver (mem_of_mem_head? hhead)
          simp [taken_of_isPersisting hpersisting] at ht
        rw [hdeleting,decide_eq_false hhead,Bool.false_and,Bool.false_or] at hd
        exact hd

theorem Kept.stored_of_save (hk : s.Kept host l) {state : ProjectionState} (hs : s.saving = some state)
    (hl : s.losesEvent host l (.endSave ok) = false) :
    Includes host (restoredProjection host (if ok then some state else s.store.projectionState))
      (l.known ((isDeleting s.worker && l.saved) || (ok && decide (s.saves.head? = some .worker)))) := by
  cases ok with
  | true =>
    simp only [losesEvent,hs,any_some,Bool.not_eq_eq_eq_not,Bool.not_false] at hl
    exact hk.saving state hs hl
  | false =>
    rw [Bool.false_and,Bool.or_false]
    exact hk.stored

theorem Kept.endSave (hk : s.Kept host l) (h : s.endSave ok = some s')
    (hl : s.losesEvent host l (.endSave ok) = false) : s'.Kept host (l.next s (.endSave ok)) := by
  cases hsaves : s.saves with
  | nil =>
    simp only [State.endSave,hsaves] at h
    cases h
  | cons saver saves =>
    cases hsaving : s.saving with
    | none =>
      simp only [State.endSave,hsaves,hsaving] at h
      cases h
    | some state =>
      have hstored := hk.stored_of_save hsaving hl
      have hstate : (if ok = true then { s.store with projectionState := some state } else s.store).projectionState =
          if ok then some state else s.store.projectionState := by
        split <;> rfl
      have hcount : saves.count .worker + (if saver == .worker then 1 else 0) ≤ 1 := by
        have honce := hk.once
        rwa [hsaves,count_cons] at honce
      simp only [State.endSave,hsaves,hsaving,some.injEq] at h
      subst h
      cases saver with
      | transmit id =>
        have hnext : l.next s (.endSave ok) = l := by
          cases ok <;> simp [Ledger.next,hsaves]
        rw [hnext]
        rw [hsaves,head?_cons,decide_eq_false (by simp),Bool.and_false,Bool.or_false] at hstored
        refine ⟨hk.memory,?_,fun state hs => absurd (Eq.symm hs) (some_ne_none state),hk.fresh,
          fun hmem => hk.saver (by rw [hsaves]; exact mem_cons_of_mem _ hmem),?_,fun _ => rfl⟩
        · change Includes host (restoredProjection host (if ok = true then _ else _ : Store).projectionState) _
          rw [hstate]
          exact hstored
        · exact (Nat.le_add_right _ _).trans hcount
      | worker =>
        have hnot : Saver.worker ∉ saves := by
          intro hmem
          have hpos := count_pos_iff.mpr hmem
          rw [beq_self_eq_true,if_pos rfl] at hcount
          omega
        have hpersisting := hk.saver (by rw [hsaves]; exact mem_cons_self)
        cases hworker : s.worker with
        | persisting raw rest =>
          have hmemory := hk.memory
          rw [hworker] at hmemory hstored
          rw [hsaves,head?_cons,decide_eq_true rfl,Bool.and_true] at hstored
          cases ok with
          | true =>
            have hnext : l.next s (.endSave true) = { l with saved := true } := by
              simp [Ledger.next,hsaves]
            rw [hnext]
            simp only [resumeSaver,if_true]
            exact ⟨hmemory,hstored,fun state hs => absurd (Eq.symm hs) (some_ne_none state),fun _ h =>
              absurd (Eq.symm h) Bool.false_ne_true,
              fun hmem => absurd hmem hnot,
              (Nat.le_add_right _ _).trans hcount,fun _ => rfl⟩
          | false =>
            have hnext : l.next s (.endSave false) = l := rfl
            rw [hnext]
            simp only [resumeSaver,Bool.false_eq_true,if_false]
            exact ⟨hmemory.mono fun d hd => known_subset _ d (known_false l ▸ hd),hstored,
              fun state hs => absurd (Eq.symm hs) (some_ne_none state),fun h => absurd h Bool.false_ne_true,
              fun hmem => absurd hmem hnot,(Nat.le_add_right _ _).trans hcount,fun _ => rfl⟩
        | _ =>
          rw [hworker] at hpersisting
          cases hpersisting

theorem projection_started (store : Store) (sent : List JsString) :
    (started host store sent).projection = restoredProjection host store.projectionState := rfl

theorem restoredProjection_started (store : Store) (sent : List JsString) :
    restoredProjection host (started host store sent).store.projectionState =
      restoredProjection host store.projectionState := by
  simp only [started,restoredProjection]
  cases hr : store.projectionState.bind fun state => (restore host.schemas host.toHost state).toOption with
  | none => rfl
  | some p => simp [hr]

/-- A restart continues the history that was stored. -/
theorem Kept.restart (hk : s.Kept host l) : (started host s.store s.sentCommandIds).Kept host l := by
  have hstored := hk.stored.mono (known_subset _)
  refine ⟨?_,?_,fun state hs => (nomatch (hs : none = some state)),fun h => (nomatch h),
    fun hmem => (nomatch hmem),Nat.zero_le _,fun _ => rfl⟩
  · rw [projection_started]
    exact hstored.mono fun d hd => known_false l ▸ hd
  · rw [restoredProjection_started]
    exact hstored.mono fun d hd => known_false l ▸ hd

theorem Kept.step (hk : s.Kept host l) (h : s.step host action = some s')
    (hl : s.losesEvent host l action = false) : s'.Kept host (l.next s action) := by
  cases action with
  | work ok => exact hk.stepWorker h hl
  | beginSave => exact hk.beginSave h
  | endSave ok => exact hk.endSave h hl
  | restart =>
    cases h
    exact hk.restart
  | _ => exact hk.of_extends (extends_step h (by simp) (by simp) (by simp) (by simp))

theorem includes_stepWorker (h : s.stepWorker host ok = some s')
    (hd : Includes host s.projection ds) : Includes host s'.projection ds := by
  unfold State.stepWorker at h
  split at h
  · split at h <;> cases h
    exact hd
  · cases h
    exact hd
  · cases h
    exact hd
  · next raw outcome rest _ =>
    cases h
    exact ((projectOutcome_spec outcome raw rest).2 ds hd).mono fun d hmem => mem_append_left _ hmem
  · split at h <;> cases h <;> exact hd
  · split at h <;> cases h <;> exact hd
  · cases h
    rw [(taken_finishItem _ _ _).2]
    exact hd
  · cases h
  · split at h <;> cases h <;> exact hd
  · split at h
    · split at h <;> cases h <;> exact hd
    · cases h
      exact hd

theorem projection_endSave (h : s.endSave ok = some s') : s'.projection = s.projection := by
  unfold State.endSave at h
  split at h
  · cases h
    unfold resumeSaver
    split
    · rfl
    · split
      · split <;> rfl
      · rfl
  · cases h

/-- Until the next restart a projection keeps its history. -/
theorem includes_step (h : s.step host action = some s') (hr : action ≠ .restart)
    (hd : Includes host s.projection ds) : Includes host s'.projection ds := by
  cases action with
  | work ok => exact includes_stepWorker h hd
  | beginSave =>
    simp only [State.step,State.beginSave] at h
    split at h
    · cases h
    · cases h
      exact hd
  | endSave ok =>
    rw [projection_endSave h]
    exact hd
  | restart => exact absurd rfl hr
  | _ => exact (extends_step h (by simp) (by simp) (by simp) (by simp)).memory ds hd

theorem includes_run (hr : ∀ action ∈ actions,action ≠ .restart)
    (h : s.run host actions = some s') (hd : Includes host s.projection ds) : Includes host s'.projection ds := by
  induction actions generalizing s with
  | nil =>
    cases h
    exact hd
  | cons action actions ih =>
    obtain ⟨m,hm,h⟩ := bind_eq_some_iff.mp h
    exact ih (fun a ha => hr a (mem_cons_of_mem _ ha)) h
      (includes_step hm (hr action mem_cons_self) hd)

theorem Kept.keepsEvents (hk : s.Kept host l) : s.KeepsEvents host l := by
  intro actions s' hr h
  exact includes_run hr h (hk.restart.memory.mono (known_subset _))

theorem Kept.run (hk : s.Kept host l) (hl : LosslessRun host l s actions) : KeepsEventsRun host l s actions := by
  induction actions generalizing s l with
  | nil => exact hk.keepsEvents
  | cons action actions ih =>
    refine ⟨hk.keepsEvents,fun s' h => ?_⟩
    obtain ⟨hstep,hrest⟩ := hl s' h
    exact ih (hk.step h hstep) hrest

theorem kept_empty (host : ClientHost) : (started host .empty []).Kept host .none := by
  refine ⟨?_,?_,fun state hs => (nomatch (hs : none = some state)),fun h => (nomatch h),
    fun hmem => (nomatch hmem),Nat.zero_le _,fun _ => rfl⟩
  · exact includes_empty host
  · rw [restoredProjection_started]
    exact includes_empty host

def Ledger.along (host : ClientHost) (l : Ledger) (s : State) : List Action → Ledger
  | [] => l
  | action :: actions =>
    match s.step host action with
    | some s' => (l.next s action).along host s' actions
    | .none => l

theorem KeepsEventsRun.last (hk : KeepsEventsRun host l s actions)
    (h : s.run host actions = some s') : s'.KeepsEvents host (l.along host s actions) := by
  induction actions generalizing s l with
  | nil =>
    cases h
    exact hk
  | cons action actions ih =>
    obtain ⟨m,hm,h⟩ := bind_eq_some_iff.mp h
    rw [Ledger.along,hm]
    exact ih (hk.2 m hm) h

/-- After any lossless run and a restart: what comes under the identifier of an event whose record was deleted changes
nothing any more, whatever the client has done since. -/
theorem redelivery_changes_nothing {restarted : State} {more : List Action} {d d' : Delivery}
    (hl : LosslessRun host .none (started host .empty []) actions)
    (h : (started host .empty []).run host actions = some s)
    (hd : d ∈ (Ledger.none.along host (started host .empty []) actions).deleted)
    (hid : d.logicalId = some id) (hid' : d'.logicalId = some id) (hr : ∀ action ∈ more,action ≠ .restart)
    (hmore : (started host s.store s.sentCommandIds).run host more = some restarted) :
    d'.apply host restarted.projection = some (restarted.projection,false) := by
  have hkeeps := ((kept_empty host).run hl).last h
  obtain ⟨history,hbuilt,hmem⟩ := hkeeps more restarted hr hmore
  exact apply_of_seen hid' (hbuilt.seen (hmem d hd) hid)

end State

/-- The inbox record of the terminal event until it is deleted, when every write succeeds. -/
def savedDelivery : List Action :=
  [.acceptKeyGrant ⟨"key-1",[sampleKey]⟩,.ingest sampleRaw,.resume 0 true,.work true,.work true,.work true,
    .work true,.work true,.beginSave,.endSave true,.work true,.restart]

instance decidableLosslessRun (host : ClientHost) : (l : State.Ledger) → (s : State) →
    (actions : List Action) → Decidable (State.LosslessRun host l s actions)
  | _, _, [] => isTrue trivial
  | l, s, action :: actions =>
    have : ∀ l' s',Decidable (State.LosslessRun host l' s' actions) :=
      fun l' s' => decidableLosslessRun host l' s' actions
    inferInstanceAs (Decidable (∀ s' ∈ s.step host action,
      s.losesEvent host l action = false ∧ State.LosslessRun host (l.next s action) s' actions))

set_option maxRecDepth 100000 in
theorem redelivery_changes_nothing_savedDelivery :
    ∃ s ∈ (State.started sampleHost .empty []).run sampleHost savedDelivery,
    let p := (State.started sampleHost s.store s.sentCommandIds).projection
    (⟨.event sampleCompleted none,"$event-2",9⟩ : Delivery).apply sampleHost p = some (p,false) := by
  have hrun := (some_get (x := (State.started sampleHost .empty []).run sampleHost savedDelivery) (by decide)).symm
  exact ⟨_,hrun,State.redelivery_changes_nothing (d := ⟨.event sampleCompleted none,"$event-1",2⟩) (by decide) hrun
    (by decide) rfl rfl (by simp : ∀ action ∈ [],action ≠ Action.restart) rfl⟩

end Malink.Client
