import Malink.ClientOutbox

/-!
# Completions in the outbox

A completed command keeps its completion until it is released, and a released one stays away, exactly in
the runs without a stale write of its record.
-/

namespace Malink.Client

open Malink.Mlp3

variable {action : Action}

namespace State

variable {host : ClientHost} {s s' : State}

/-- The command whose record a step of `release` deletes. -/
def released (s : State) (action : Action) : Option JsString :=
  match s.outboxWrite action with
  | some (.delete commandId) => some commandId
  | _ => none

/-- What a step has to leave in the outbox. A command that was sent and has no record was released. -/
structure KeepsCompletions (s : State) (action : Action) (s' : State) : Prop where
  completed : ∀ {commandId record}, s.store.outbox.get commandId = some record →
    record.status = .completed →
    (∃ record',s'.store.outbox.get commandId = some record' ∧ record'.status = .completed ∧
      record'.completion = record.completion) ∨ s.released action = some commandId
  gone : ∀ commandId ∈ s.sentCommandIds, s.store.outbox.get commandId = none →
    s'.store.outbox.get commandId = none

/-- Whether a step writes a record whose command has completed or was released since the copy was taken.
Only a transmission and a recorded completion can; another copy of the same completion does no harm. -/
def isStaleWrite (s : State) (action : Action) : Bool :=
  match action, s.outboxWrite action with
  | .transmit _ _, some (.put record) =>
    !(s.store.outbox.get record.command.commandId).any fun stored => stored.status = .pending
  | .work _, some (.put record) =>
    !(s.store.outbox.get record.command.commandId).any fun stored =>
      stored.status = .pending || stored.completion = record.completion
  | _, _ => false

def KeepsCompletionsRun (host : ClientHost) (s : State) : List Action → Prop
  | [] => True
  | action :: actions => ∀ s' ∈ s.step host action,
      s.KeepsCompletions action s' ∧ KeepsCompletionsRun host s' actions

/-- A run in which no write of the outbox is stale. -/
def FreshRun (host : ClientHost) (s : State) : List Action → Prop
  | [] => True
  | action :: actions => ∀ s' ∈ s.step host action,
      s.isStaleWrite action = false ∧ FreshRun host s' actions

theorem keepsCompletions_of_none (h : s.step host action = some s')
    (hw : s.outboxWrite action = none) : s.KeepsCompletions action s' := by
  have ho := outbox_step h
  rw [hw] at ho
  change s'.store.outbox = s.store.outbox at ho
  exact ⟨fun hget hstatus => .inl ⟨_,ho ▸ hget,hstatus,rfl⟩,fun _ _ hget => ho ▸ hget⟩

theorem keepsCompletions_of_delete {commandId : JsString}
    (h : s.step host action = some s') (hw : s.outboxWrite action = some (.delete commandId)) :
    s.KeepsCompletions action s' := by
  have ho := outbox_step h
  rw [hw] at ho
  change s'.store.outbox = s.store.outbox.delete commandId at ho
  constructor
  · intro c record hget hstatus
    by_cases hc : c = commandId
    · exact .inr (by rw [released,hw,hc])
    · refine .inl ⟨record,?_,hstatus,rfl⟩
      rw [ho,InsertionMap.get_delete_of_ne _ hc]
      exact hget
  · intro c _ hget
    rw [ho,InsertionMap.get_delete]
    split
    · rfl
    · exact hget

/-- A record may be written over one that has not completed, or has with the same completion. -/
theorem keepsCompletions_put_iff {record : OutboxRecord}
    (h : s.step host action = some s') (hw : s.outboxWrite action = some (.put record))
    (hsent : record.command.commandId ∈ s.sentCommandIds) :
    s.KeepsCompletions action s' ↔ ∃ stored, s.store.outbox.get record.command.commandId = some stored ∧
      (stored.status = .completed → record.status = .completed ∧ record.completion = stored.completion) := by
  have ho := outbox_step h
  rw [hw] at ho
  change s'.store.outbox = s.store.outbox.set record.command.commandId record at ho
  have hself : s'.store.outbox.get record.command.commandId = some record := by
    rw [ho,InsertionMap.get_set_self]
  constructor
  · intro hk
    cases hget : s.store.outbox.get record.command.commandId with
    | none =>
      have hgone := hk.gone _ hsent hget
      rw [hself] at hgone
      cases hgone
    | some stored =>
      refine ⟨stored,rfl,fun hstatus => ?_⟩
      rcases hk.completed hget hstatus with ⟨record',hget',hstatus',hcompletion'⟩ | hreleased
      · rw [hself] at hget'
        cases hget'
        exact ⟨hstatus',hcompletion'⟩
      · rw [released,hw] at hreleased
        cases hreleased
  · rintro ⟨stored,hget,hkeep⟩
    constructor
    · intro c r hc hstatus
      by_cases he : c = record.command.commandId
      · subst he
        rw [hget] at hc
        cases hc
        exact .inl ⟨record,hself,hkeep hstatus⟩
      · refine .inl ⟨r,?_,hstatus,rfl⟩
        rw [ho,InsertionMap.get_set_of_ne _ _ he]
        exact hc
    · intro c hc hnone
      have he : c ≠ record.command.commandId := by
        rintro rfl
        rw [hget] at hnone
        cases hnone
      rw [ho,InsertionMap.get_set_of_ne _ _ he]
      exact hnone

theorem keepsCompletions_sendCommand (hs : s.OutboxSound) {command : Command} {content : Json}
    (h : s.step host (.sendCommand command content) = some s') :
    s.KeepsCompletions (.sendCommand command content) s' := by
  cases hw : s.outboxWrite (.sendCommand command content) with
  | none => exact keepsCompletions_of_none h hw
  | some write =>
    have ho := outbox_step h
    simp only [outboxWrite] at hw ho
    have hfresh : command.commandId ∉ s.sentCommandIds := by
      intro hc
      simp only [State.step,sendCommand,hc,if_true] at h
      cases h
    split at hw
    · cases hw
    · next hkey =>
      rw [if_neg hkey] at ho
      change s'.store.outbox = s.store.outbox.set command.commandId (outboxRecord command content) at ho
      constructor
      · intro c record hget hstatus
        have he : c ≠ command.commandId := by
          rintro rfl
          exact hfresh (hs.stored hget).sent
        refine .inl ⟨record,?_,hstatus,rfl⟩
        rw [ho,InsertionMap.get_set_of_ne _ _ he]
        exact hget
      · intro c hc hnone
        have he : c ≠ command.commandId := by
          rintro rfl
          exact hfresh hc
        rw [ho,InsertionMap.get_set_of_ne _ _ he]
        exact hnone

theorem keepsCompletions_transmit_iff (hs : s.OutboxSound) {id : ℕ} {ok : Bool}
    (h : s.step host (.transmit id ok) = some s') :
    s.KeepsCompletions (.transmit id ok) s' ↔ s.isStaleWrite (.transmit id ok) = false := by
  cases hw : s.outboxWrite (.transmit id ok) with
  | none =>
    simp only [isStaleWrite,hw,iff_true]
    exact keepsCompletions_of_none h hw
  | some write =>
    obtain ⟨t,ht,-⟩ := Option.bind_eq_some_iff.mp h
    have hcopy := hs.transmits t (List.mem_of_find?_eq_some ht)
    obtain ⟨id',record,phase⟩ := t
    have hwrite := hw
    simp only [outboxWrite,ht] at hwrite
    split at hwrite
    · next eventId he =>
      cases he
      cases ok with
      | false => cases hwrite
      | true =>
        cases hwrite
        rw [keepsCompletions_put_iff h hw hcopy.sent]
        simp only [isStaleWrite,hw,Bool.not_eq_eq_eq_not,Bool.not_false,Option.any_eq_true,decide_eq_true_eq]
        refine exists_congr fun stored => and_congr_right fun hget => ⟨fun hk => ?_,fun hp hc => ?_⟩
        · cases hstatus : stored.status with
          | pending => rfl
          | completed =>
            have hpending := (hk hstatus).1
            rw [hcopy.pending] at hpending
            cases hpending
        · rw [hp] at hc
          cases hc
    · cases hwrite

theorem keepsCompletions_work_iff (hs : s.OutboxSound) {ok : Bool} (h : s.step host (.work ok) = some s') :
    s.KeepsCompletions (.work ok) s' ↔ s.isStaleWrite (.work ok) = false := by
  cases hw : s.outboxWrite (.work ok) with
  | none =>
    simp only [isStaleWrite,hw,iff_true]
    exact keepsCompletions_of_none h hw
  | some write =>
    have hwrite := hw
    simp only [outboxWrite] at hwrite
    split at hwrite
    · next recording record hworker =>
      cases ok with
      | false => cases hwrite
      | true =>
        cases hwrite
        have hsound := hs.worker
        rw [hworker] at hsound
        obtain ⟨hstatus,hcompletion,hkeyed,hsent⟩ := hsound
        rw [keepsCompletions_put_iff h hw (hkeyed ▸ hsent)]
        simp only [isStaleWrite,hw,Bool.not_eq_eq_eq_not,Bool.not_false,Option.any_eq_true,
          Bool.or_eq_true,decide_eq_true_eq,hstatus,true_and]
        refine exists_congr fun stored => and_congr_right fun hget => ⟨fun hk => ?_,fun hp hc => ?_⟩
        · cases hstored : stored.status with
          | pending => exact .inl rfl
          | completed => exact .inr (hk hstored).symm
        · rcases hp with hp | hp
          · rw [hp] at hc
            cases hc
          · exact hp.symm
    · cases hwrite

theorem keepsCompletions_iff (hs : s.OutboxSound) (h : s.step host action = some s') :
    s.KeepsCompletions action s' ↔ s.isStaleWrite action = false := by
  cases action with
  | sendCommand command content => exact iff_of_true (keepsCompletions_sendCommand hs h) rfl
  | resume id ok =>
    cases hw : s.outboxWrite (.resume id ok) with
    | none => exact iff_of_true (keepsCompletions_of_none h hw) rfl
    | some write =>
      cases write with
      | delete commandId => exact iff_of_true (keepsCompletions_of_delete h hw) rfl
      | put record =>
        simp only [outboxWrite] at hw
        split at hw
        · split at hw <;> cases hw
        · cases hw
  | transmit id ok => exact keepsCompletions_transmit_iff hs h
  | work ok => exact keepsCompletions_work_iff hs h
  | _ => exact iff_of_true (keepsCompletions_of_none h rfl) rfl

theorem keepsCompletionsRun_iff (hs : s.OutboxSound) (actions : List Action) :
    KeepsCompletionsRun host s actions ↔ FreshRun host s actions := by
  induction actions generalizing s with
  | nil => exact Iff.rfl
  | cons action actions ih =>
    refine forall₂_congr fun s' h => ?_
    rw [keepsCompletions_iff hs h,ih (hs.step h)]

theorem outboxSound_empty (host : ClientHost) : (started host .empty []).OutboxSound :=
  outboxSound_started fun h => (nomatch h)

/-- The outbox keeps its completions over a run of a client exactly when no write of the run is stale. -/
theorem outbox_keepsCompletions_iff (host : ClientHost) (actions : List Action) :
    KeepsCompletionsRun host (started host .empty []) actions ↔
      FreshRun host (started host .empty []) actions :=
  keepsCompletionsRun_iff (outboxSound_empty host) actions

end State

def sampleProjection : SessionProjection where
  title := "New session"
  scope := some "project"
  cwd := none
  lifecycle := .active
  activity := .idle
  updatedAt := 2
  stateVersion := 2
  extensions := none
  availableCommands := none
  extensionRevision := none
  providerHistory := none
  controls := none

def sampleCommand : Command where
  commandId := "command-1"
  workspaceId := "workspace-1"
  projectId := some "project-1"
  sessionId := some "session-1"
  deviceId := "device-1"
  certificateId := "certificate-1"
  createdAt := 1
  payload := .promptSubmit { references := none, prompt := { text := "Hello", attachments := none } }

def sampleCompleted : Event where
  eventId := "event-1"
  workspaceId := "workspace-1"
  projectId := some "project-1"
  sessionId := some "session-1"
  occurredAt := 2
  causationCommandId := some "command-1"
  payload := .turnCompleted "command-1" sampleProjection false

def sampleKey : ProjectKey := ⟨"key-1","secret"⟩

/-- A client whose room carries the terminal event under the key of its grant. -/
def sampleHost : ClientHost where
  localeCompare := fun s t => if s = t then 0 else if s.units < t.units then -1 else 1
  schemas :=
    { capabilities := fun _ => true
      clientRelease := fun _ => true
      gatewayDirectory := fun _ => true
      gatewayEnrollmentPending := fun _ => true
      gatewayUpdateStatus := fun _ => true
      gatewayDeploymentStatus := fun _ => true
      gatewayRestartStatus := fun _ => true
      modelCapability := fun _ => true
      providerControlError := fun _ => true
      extensionDescriptor := fun _ => true
      extensionConfig := fun _ => true
      conversationReferences := fun _ => true
      attachment := fun _ => true
      attachments := fun _ => true
      controlId := fun _ => true
      controlValuesSize := fun values => values.size
      sessionFields := fun _ => true
      payloadFields := fun _ => true
      commandFields := fun _ => true
      normalizedProviderHistory := fun _ => true }
  workspaceId := "workspace-1"
  projectId := "project-1"
  roomId := "!room"
  keyId := "device-1"
  certificateId := "certificate-1"
  gatewayKeyId := "gateway-1"
  openMlp3Envelope := fun key _ =>
    if key = sampleKey then .ok ⟨"event-1",.signedEvent sampleCompleted .null⟩
    else .error "MLP/3 project envelope authentication failed"
  verifyMlp3Command := fun _ _ => .valid
  verifyMlp3Event := fun _ _ => .ok ()
  verifyWorkspaceGatewayDirectory := fun _ => .ok ()

def sampleRaw : RawEvent where
  roomId := "!room"
  eventId := "$event-1"
  timestamp := 2
  content := .obj [(matrixExtension,.obj [("version",.num 3),("envelope",.obj [("keyId",.str "key-1")])])]

/-- The terminal event overtakes the answer to the send, which then writes the pending record back. -/
def overtakenSend : List Action :=
  [.acceptKeyGrant ⟨"key-1",[sampleKey]⟩,.sendCommand sampleCommand .null,.resume 0 true,.ingest sampleRaw,
    .resume 3 true,.work true,.work true,.work true,.work true,.work true,.respond 2 (some "$command-1"),
    .transmit 2 true]

instance decidableFreshRun (host : ClientHost) : (s : State) → (actions : List Action) →
    Decidable (State.FreshRun host s actions)
  | _, [] => isTrue trivial
  | s, action :: actions =>
    have : ∀ s',Decidable (State.FreshRun host s' actions) := fun s' => decidableFreshRun host s' actions
    inferInstanceAs (Decidable (∀ s' ∈ s.step host action,
      s.isStaleWrite action = false ∧ State.FreshRun host s' actions))

set_option maxRecDepth 100000 in
theorem client_not_keepsCompletions : ¬ ∀ (host : ClientHost) (actions : List Action),
    State.KeepsCompletionsRun host (State.started host .empty []) actions := by
  intro h
  have hfresh := (State.keepsCompletionsRun_iff (State.outboxSound_empty sampleHost) overtakenSend).mp
    (h sampleHost overtakenSend)
  exact absurd hfresh (by decide)

end Malink.Client
