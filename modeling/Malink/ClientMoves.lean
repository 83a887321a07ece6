import Malink.ClientCompletions

/-!
# Steps of the calls and the transmissions

Most steps leave the worker, the waiters and the stored projection alone.
-/

namespace Malink.Client

open Malink.Mlp3

namespace State

variable {s m s' : State}

/-- A step that leaves the observers and the waiters alone, but for new observers. -/
structure Joins (s s' : State) : Prop where
  waiters : s'.waiters = s.waiters
  next : s.nextId ≤ s'.nextId
  observers : ∃ added, s'.observers = s.observers ++ added ∧ (added.map (·.id)).Nodup ∧
    ∀ o ∈ added, o.phase = .reading ∧ s.nextId ≤ o.id ∧ o.id < s'.nextId

theorem Joins.of_eq (hw : s'.waiters = s.waiters) (ho : s'.observers = s.observers)
    (hn : s.nextId ≤ s'.nextId) : Joins s s' :=
  ⟨hw,hn,[],by rw [ho,List.append_nil],List.nodup_nil,fun o h => (nomatch h)⟩

theorem Joins.refl (s : State) : Joins s s := .of_eq rfl rfl (Nat.le_refl _)

theorem Joins.trans (h : Joins s m) (h' : Joins m s') : Joins s s' := by
  obtain ⟨hw,hn,added,ho,hnodup,hadded⟩ := h
  obtain ⟨hw',hn',added',ho',hnodup',hadded'⟩ := h'
  refine ⟨hw'.trans hw,hn.trans hn',added ++ added',by rw [ho',ho,List.append_assoc],?_,?_⟩
  · rw [List.map_append]
    refine hnodup.append hnodup' ?_
    intro id hid hid'
    obtain ⟨o,hmem,rfl⟩ := List.mem_map.mp hid
    obtain ⟨o',hmem',he⟩ := List.mem_map.mp hid'
    have hlt := (hadded o hmem).2.2
    have hle := (hadded' o' hmem').2.1
    omega
  · intro o hmem
    rcases List.mem_append.mp hmem with hmem | hmem
    · obtain ⟨hphase,hle,hlt⟩ := hadded o hmem
      exact ⟨hphase,hle,hlt.trans_le hn'⟩
    · obtain ⟨hphase,hle,hlt⟩ := hadded' o hmem
      exact ⟨hphase,hn.trans hle,hlt⟩

theorem Joins.after (h' : Joins m s') (h : Joins s m) : Joins s s' := h.trans h'

/-- A step that, besides, leaves the worker alone and only adds commands to the projection and saves
for them. -/
structure Moves (s s' : State) : Prop extends Joins s s' where
  projection : ∃ applied : List (Command × JsString × ℕ),
    s'.projection = applied.foldl (fun p e => (p.applyCommand e.1 e.2.1 e.2.2).1) s.projection
  state : s'.store.projectionState = s.store.projectionState
  saving : s'.saving = s.saving
  worker : s'.worker = s.worker
  saves : ∃ more, s'.saves = s.saves ++ more ∧ Saver.worker ∉ more

theorem Joins.moves (h : Joins s s') (hp : s'.projection = s.projection)
    (hstate : s'.store.projectionState = s.store.projectionState) (hsaving : s'.saving = s.saving)
    (hworker : s'.worker = s.worker) (hsaves : s'.saves = s.saves) : Moves s s' :=
  { h with
    projection := ⟨[],hp⟩
    state := hstate
    saving := hsaving
    worker := hworker
    saves := ⟨[],by rw [hsaves,List.append_nil],List.not_mem_nil⟩ }

theorem Moves.refl (s : State) : Moves s s := (Joins.refl s).moves rfl rfl rfl rfl rfl

theorem Moves.trans (h : Moves s m) (h' : Moves m s') : Moves s s' := by
  obtain ⟨applied,hprojection⟩ := h.projection
  obtain ⟨applied',hprojection'⟩ := h'.projection
  obtain ⟨more,hsaves,hmore⟩ := h.saves
  obtain ⟨more',hsaves',hmore'⟩ := h'.saves
  refine ⟨h.toJoins.trans h'.toJoins,⟨applied ++ applied',by rw [List.foldl_append,← hprojection,hprojection']⟩,
    h'.state.trans h.state,h'.saving.trans h.saving,h'.worker.trans h.worker,more ++ more',
    by rw [hsaves',hsaves,List.append_assoc],?_⟩
  intro hmem
  exact (List.mem_append.mp hmem).elim hmore hmore'

/-- A step that touches neither what a worker nor what an observer depends on. -/
theorem moves_of_eq (hw : s'.waiters = s.waiters) (ho : s'.observers = s.observers) (hn : s.nextId ≤ s'.nextId)
    (hp : s'.projection = s.projection) (hstate : s'.store.projectionState = s.store.projectionState)
    (hsaving : s'.saving = s.saving) (hworker : s'.worker = s.worker) (hsaves : s'.saves = s.saves) : Moves s s' :=
  (Joins.of_eq hw ho hn).moves hp hstate hsaving hworker hsaves

theorem moves_addCall (phase : CallPhase) : Moves s (s.addCall phase) :=
  moves_of_eq rfl rfl (Nat.le_succ _) rfl rfl rfl rfl rfl

theorem moves_addObserver (commandId : JsString) : Moves s (s.addObserver commandId) := by
  refine Joins.moves ⟨rfl,Nat.le_succ _,[⟨s.nextId,commandId,.reading⟩],rfl,List.nodup_singleton _,?_⟩
    rfl rfl rfl rfl rfl
  intro o ho
  rw [List.mem_singleton.mp ho]
  exact ⟨rfl,Nat.le_refl _,Nat.lt_succ_self _⟩

theorem moves_project (t : Transmit) (eventId : JsString) : Moves s (s.project t eventId) := by
  unfold project
  simp only
  split
  · exact ⟨.of_eq rfl rfl (Nat.le_refl _),⟨[(_,_,_)],rfl⟩,rfl,rfl,rfl,[.transmit t.id],rfl,by simp⟩
  · exact ⟨.of_eq rfl rfl (Nat.le_refl _),⟨[(_,_,_)],rfl⟩,rfl,rfl,rfl,[],(List.append_nil _).symm,List.not_mem_nil⟩

theorem moves_startTransmit (record : OutboxRecord) : Moves s (s.startTransmit record) := by
  have hadd : ∀ t,Moves s (s.addTransmit t) := fun t => moves_of_eq rfl rfl (Nat.le_succ _) rfl rfl rfl rfl rfl
  unfold startTransmit
  simp only
  split
  · exact (hadd _).trans (moves_project _ _)
  · exact hadd _

theorem moves_foldl_startTransmit (records : List OutboxRecord) : Moves s (records.foldl startTransmit s) := by
  induction records generalizing s with
  | nil => exact .refl s
  | cons record records ih => exact (moves_startTransmit record).trans ih

theorem moves_resumeRecovered (record : OutboxRecord) : Moves s (s.resumeRecovered record) := by
  unfold resumeRecovered
  simp only
  split
  · exact .refl s
  · split
    · exact moves_addObserver _
    · exact (moves_addObserver _).trans (moves_startTransmit record)

theorem projectionState_of_updateInbox {store store' : Store} {eventId : JsString} {status : InboxStatus}
    {error : Option JsString} (h : store.updateInbox eventId status error = some store') :
    store'.projectionState = store.projectionState := by
  obtain ⟨record,-,rfl⟩ := Option.map_eq_some_iff.mp h
  rfl

/-- A call goes on without touching the waiters, unless it drops those of a released command. -/
theorem moves_resumeCall {id : ℕ} {phase : CallPhase} {ok : Bool}
    (hr : ∀ record,phase = .releasing record → record.status ≠ .completed) : Moves s (s.resumeCall id phase ok) := by
  have ended : Moves s (s.endCall id) := moves_of_eq rfl rfl (Nat.le_refl _) rfl rfl rfl rfl rfl
  have set : ∀ phase,Moves s (s.setCall id phase) :=
    fun _ => moves_of_eq rfl rfl (Nat.le_refl _) rfl rfl rfl rfl rfl
  cases phase with
  | sent record => exact (ended.trans (moves_addObserver _)).trans (moves_startTransmit record)
  | recovered record => exact ended.trans (moves_resumeRecovered record)
  | retrying records => exact ended.trans (moves_foldl_startTransmit records)
  | releasing record =>
    simp only [resumeCall,hr record rfl,ne_eq,not_false_eq_true,if_true]
    exact ended
  | deleting commandId => cases ok <;> exact moves_of_eq rfl rfl (Nat.le_refl _) rfl rfl rfl rfl rfl
  | present raw =>
    simp only [resumeCall]
    split
    · exact ended
    · exact set _
  | looking raw => exact set _
  | looked raw status =>
    simp only [resumeCall]
    split <;> exact moves_of_eq rfl rfl (Nat.le_refl _) rfl rfl rfl rfl rfl
  | marking raw =>
    simp only [resumeCall]
    split
    · next store hstore =>
      split
      · exact moves_of_eq rfl rfl (Nat.le_refl _) rfl (projectionState_of_updateInbox hstore) rfl rfl rfl
      · exact ended
    · exact ended
  | ingested => exact moves_of_eq rfl rfl (Nat.le_refl _) rfl rfl rfl rfl rfl

/-- Whether a step is one of the worker, of the saves, of an observer, of a release or of a restart. -/
def isOwn (s : State) : Action → Bool
  | .observe _ => true
  | .work _ => true
  | .beginSave => true
  | .endSave _ => true
  | .restart => true
  | .resume id _ =>
    match s.calls.find? (·.id = id) with
    | some ⟨_,.releasing record⟩ => record.status = .completed
    | _ => false
  | _ => false

theorem moves_step {host : ClientHost} {action : Action} (h : s.step host action = some s')
    (hown : s.isOwn action = false) : Moves s s' := by
  cases action with
  | acceptKeyGrant | drainInbox =>
    cases h
    exact moves_of_eq rfl rfl (Nat.le_refl _) rfl rfl rfl rfl rfl
  | sendCommand command content =>
    simp only [step,sendCommand] at h
    split at h
    · cases h
    · split at h <;> cases h
      · exact .refl s
      · exact moves_of_eq rfl rfl (Nat.le_succ _) rfl rfl rfl rfl rfl
  | recover commandId =>
    cases h
    simp only [recover]
    split
    · exact .refl s
    · exact moves_addCall _
  | retryPending =>
    cases h
    exact moves_addCall _
  | release commandId =>
    cases h
    simp only [release]
    split
    · exact .refl s
    · exact moves_addCall _
  | observeCompletion commandId =>
    cases h
    exact moves_addObserver commandId
  | ingest raw =>
    cases h
    simp only [ingest]
    split
    · exact .refl s
    · split
      · exact moves_addCall _
      · exact moves_of_eq rfl rfl (Nat.le_succ _) rfl rfl rfl rfl rfl
  | resume id ok =>
    obtain ⟨call,hcall,rfl⟩ := Option.map_eq_some_iff.mp h
    refine moves_resumeCall fun record hphase hstatus => ?_
    obtain ⟨id',phase⟩ := call
    subst hphase
    simp only [isOwn,hcall,hstatus,decide_true] at hown
    cases hown
  | transmit id ok =>
    obtain ⟨t,-,hstep⟩ := Option.bind_eq_some_iff.mp h
    unfold stepTransmit at hstep
    split at hstep
    · cases hstep
    · split at hstep <;> cases hstep <;> exact moves_of_eq rfl rfl (Nat.le_refl _) rfl rfl rfl rfl rfl
    · cases hstep
      exact moves_project t _
    · cases hstep
  | respond id eventId =>
    obtain ⟨t,-,hstep⟩ := Option.bind_eq_some_iff.mp h
    unfold respond at hstep
    split at hstep
    · cases hstep
    · split at hstep <;> cases hstep <;> exact moves_of_eq rfl rfl (Nat.le_refl _) rfl rfl rfl rfl rfl
  | _ => cases hown

end State

end Malink.Client
