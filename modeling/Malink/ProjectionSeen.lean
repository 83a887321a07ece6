import Malink.ProjectionRestore

/-!
# The identifiers that a projection has seen

Only the marks of applied events and commands change the set of seen identifiers, and nothing takes an identifier out
of it, not even saving and restoring.
-/

namespace Malink.Client

open Malink.Mlp3
open Except (ok)

variable {host : Host} {event : Event}

namespace Projection

variable {p p' : Projection} (sessionId : JsString)

@[simp] theorem seen_putSession (session : ProjectedSession) :
    (p.putSession sessionId session).seenLogicalEvents = p.seenLogicalEvents := rfl

@[simp] theorem seen_putMessage (message : ProjectedMessage) :
    (p.putMessage message).seenLogicalEvents = p.seenLogicalEvents := rfl

@[simp] theorem seen_addUserPrompt (commandId sessionId physicalEventId : JsString) (timestamp : ℕ)
    (body : JsString) (originDeviceId : Option JsString) (payload : Option EventPayload) (references : Option Json) :
    (p.addUserPrompt commandId sessionId physicalEventId timestamp body originDeviceId payload
      references).seenLogicalEvents = p.seenLogicalEvents := rfl

@[simp] theorem seen_reconcileGatewayMaintenanceSession (status : GatewayUpdateStatus) (projectId : Option JsString) :
    (p.reconcileGatewayMaintenanceSession status projectId).seenLogicalEvents = p.seenLogicalEvents := by
  unfold reconcileGatewayMaintenanceSession
  split
  · rfl
  · split
    · split <;> rfl
    · rfl

@[simp] theorem seen_reconcileWith (status : Option GatewayUpdateStatus) (projectId : Option JsString) :
    (p.reconcileWith status projectId).seenLogicalEvents = p.seenLogicalEvents := by
  cases status with
  | none => rfl
  | some status => exact seen_reconcileGatewayMaintenanceSession status projectId

@[simp] theorem seen_reconcileCompletedTurn :
    (p.reconcileCompletedTurn sessionId).seenLogicalEvents = p.seenLogicalEvents := by
  unfold reconcileCompletedTurn
  split
  · rfl
  · split
    · rfl
    · split <;> rfl

@[simp] theorem seen_observeActiveTurn (event : Event) :
    (p.observeActiveTurn event).seenLogicalEvents = p.seenLogicalEvents := by
  unfold observeActiveTurn
  split
  · rfl
  · split
    · split <;> rfl
    · split <;> rfl
    · split
      · rfl
      · split
        · rfl
        · simp only
          rw [apply_ite seenLogicalEvents,seen_putSession,ite_self]

@[simp] theorem seen_applySessionCreate (command : Command) (payload : SessionCreate)
    (sessionId physicalEventId : JsString) (timestamp : ℕ) :
    (p.applySessionCreate command payload sessionId physicalEventId timestamp).seenLogicalEvents =
      p.seenLogicalEvents := by
  unfold applySessionCreate
  simp only [seen_reconcileCompletedTurn]
  split <;> rfl

@[simp] theorem seen_applySessionProjection (event : Event) (sessionId : JsString)
    (next : SessionProjection) (physicalEventId : JsString) (hint : Option JsString) :
    (p.applySessionProjection event sessionId next physicalEventId hint).seenLogicalEvents =
      p.seenLogicalEvents := by
  unfold applySessionProjection
  simp only
  split
  · rfl
  · exact seen_reconcileWith _ _

@[simp] theorem seen_removeSessionProjection :
    (p.removeSessionProjection sessionId).seenLogicalEvents = p.seenLogicalEvents := rfl

@[simp] theorem seen_applySessionReady (event : Event) (payload : SessionReady)
    (sessionId projectId physicalEventId : JsString) (hint : Option JsString) :
    (p.applySessionReady event payload sessionId projectId physicalEventId hint).seenLogicalEvents =
      p.seenLogicalEvents := by
  unfold applySessionReady
  simp only
  split
  · rfl
  · split <;> rfl

@[simp] theorem seen_deleteProject (projectId : JsString) :
    (p.deleteProject projectId).seenLogicalEvents = p.seenLogicalEvents := rfl

@[simp] theorem seen_putVersion (message : ProjectedMessage) :
    (p.putVersion message).seenLogicalEvents = p.seenLogicalEvents := by
  unfold putVersion
  split
  · rfl
  · split
    · rfl
    · split <;> rfl

@[simp] theorem seen_resolveDecision (requestId physicalEventId action : JsString) :
    (p.resolveDecision requestId physicalEventId action).seenLogicalEvents = p.seenLogicalEvents := by
  unfold resolveDecision
  split <;> rfl

@[simp] theorem seen_applyBatchProgress (event : Event) (physicalEventId batchId : JsString)
    (revision : ℕ) : (p.applyBatchProgress event physicalEventId batchId revision).seenLogicalEvents =
      p.seenLogicalEvents := by
  unfold applyBatchProgress
  simp only
  split <;> rfl

@[simp] theorem seen_applyMessages (event : Event) (sessionId physicalEventId : JsString) :
    (p.applyMessages event sessionId physicalEventId).seenLogicalEvents = p.seenLogicalEvents := by
  unfold applyMessages
  split
  case h_8 =>
    split <;> rfl
  all_goals simp

@[simp] theorem seen_observeGatewayUpdate (event : Event) (status : GatewayUpdateStatus) :
    (p.observeGatewayUpdate event status).1.seenLogicalEvents = p.seenLogicalEvents := by
  unfold observeGatewayUpdate
  split
  · rfl
  · exact seen_reconcileGatewayMaintenanceSession _ _

@[simp] theorem seen_observeGatewayDeployment (event : Event) (status : GatewayDeploymentStatus) :
    (p.observeGatewayDeployment event status).1.seenLogicalEvents = p.seenLogicalEvents := by
  unfold observeGatewayDeployment
  split <;> rfl

@[simp] theorem seen_observeCaused (event : Event) :
    (p.observeCaused event).seenLogicalEvents = p.seenLogicalEvents := by
  unfold observeCaused
  split <;> simp

@[simp] theorem seen_applyToSession (event : Event) (sessionId physicalEventId : JsString) (hint : Option JsString) :
    (p.applyToSession event sessionId physicalEventId hint).seenLogicalEvents = p.seenLogicalEvents := by
  unfold applyToSession
  simp only [seen_applyMessages,seen_observeActiveTurn]
  split <;> split <;> split <;> simp

@[simp] theorem seen_recordCompletion (event : Event) :
    (p.recordCompletion event).seenLogicalEvents = p.seenLogicalEvents := by
  unfold recordCompletion
  split <;> rfl

@[simp] theorem seen_applyProjected (event : Event) (physicalEventId : JsString) (hint : Option JsString) :
    (p.applyProjected event physicalEventId hint).seenLogicalEvents = p.seenLogicalEvents := by
  unfold applyProjected
  cases event.sessionId <;> simp only <;> split <;> simp

@[simp] theorem seen_applyUnseen (event : Event) (physicalEventId : JsString) (hint : Option JsString) :
    (p.applyUnseen event physicalEventId hint).seenLogicalEvents = p.seenLogicalEvents := by
  unfold applyUnseen
  split
  · simp
  · unfold applyProjectSnapshot
    simp only
    split <;> rfl
  · rfl
  · rfl
  · rfl
  · simp

def SeenIn (p p' : Projection) : Prop := ∀ id, p.seenLogicalEvents.has id → p'.seenLogicalEvents.has id

theorem SeenIn.of_eq (h : p'.seenLogicalEvents = p.seenLogicalEvents) : SeenIn p p' :=
  fun _ hid => h ▸ hid

theorem has_markSeen {id id' : JsString} :
    (p.markSeen id).seenLogicalEvents.has id' ↔ id' = id ∨ p.seenLogicalEvents.has id' := by
  simp only [InsertionMap.has_iff_mem_keys,markSeen,InsertionMap.mem_keys_set]

theorem seenIn_markSeen (id : JsString) : SeenIn p (p.markSeen id) := fun _ h => has_markSeen.mpr (.inr h)

theorem SeenIn.marked {id : JsString} (h : p'.seenLogicalEvents = (p.markSeen id).seenLogicalEvents) :
    SeenIn p p' ∧ p'.seenLogicalEvents.has id :=
  ⟨fun id' hid => h ▸ seenIn_markSeen id id' hid,h ▸ has_markSeen.mpr (.inl rfl)⟩

theorem seenIn_applyCommand (command : Command) (physicalEventId : JsString) (timestamp : ℕ) :
    SeenIn p (p.applyCommand command physicalEventId timestamp).1 ∧
      (p.applyCommand command physicalEventId timestamp).1.seenLogicalEvents.has
        (commandLogicalId command) := by
  unfold applyCommand
  split
  · next h => exact ⟨fun _ hid => hid,h⟩
  · refine SeenIn.marked ?_
    simp only
    split <;> simp

theorem seenIn_applyLogicalEvent (event : Event) (physicalEventId : JsString) (hint : Option JsString) :
    SeenIn p (p.applyLogicalEvent event physicalEventId hint).1 ∧
      (p.applyLogicalEvent event physicalEventId hint).1.seenLogicalEvents.has event.eventId := by
  unfold applyLogicalEvent
  split
  · next h => exact ⟨fun _ hid => hid,h⟩
  · exact SeenIn.marked (seen_applyUnseen event physicalEventId hint)

theorem seenIn_applyWorkspaceSnapshot {payload : WorkspaceSnapshot}
    {changed : Bool} (h : applyWorkspaceSnapshot host p event payload = .ok (p',changed)) : SeenIn p p' := by
  have marked : ∀ q : Projection,q.seenLogicalEvents = (p.markSeen event.eventId).seenLogicalEvents →
      SeenIn p q := fun q hq => (SeenIn.marked hq).1
  unfold applyWorkspaceSnapshot at h
  cases hm : mergeNativeClientReleases host ((p.workspace.map (·.clientReleases)).getD [])
      (payload.clientReleases.getD []) with
  | error error =>
    rw [hm] at h
    cases h
  | ok merged =>
    obtain ⟨releases,fresh⟩ := merged
    rw [hm] at h
    simp only [Except.map] at h
    split at h
    · split at h
      · split at h
        · cases h
          exact fun _ hid => hid
        · cases h
          exact marked _ (seen_reconcileWith _ _)
      · cases h
        exact marked _ (seen_reconcileWith _ _)
    · cases h
      exact marked _ (seen_reconcileWith _ _)

/-- An event that is taken once, under its identifier. -/
def isLogical (event : Event) : Bool :=
  match event.payload, event.causationCommandId with
  | .workspaceSnapshot _, _ => false
  | .providerCatalogPage _, _ => false
  | .providerCatalogManifest _, _ => false
  | .gatewayUpdateStatus _, none => false
  | .gatewayDeploymentStatus _, none => false
  | _, _ => true

theorem applyEvent_of_isLogical (h : isLogical event) (physicalEventId : JsString) (hint : Option JsString) :
    applyEvent host p event physicalEventId hint = .ok (p.applyLogicalEvent event physicalEventId hint) := by
  unfold isLogical at h
  unfold applyEvent
  cases hpayload : event.payload <;> cases hcause : event.causationCommandId <;>
    simp only [hpayload,hcause] at h ⊢ <;> cases h

theorem seenIn_applyEvent {physicalEventId : JsString} {hint : Option JsString} {changed : Bool}
    (h : applyEvent host p event physicalEventId hint = .ok (p',changed)) : SeenIn p p' := by
  unfold applyEvent at h
  split at h
  · exact seenIn_applyWorkspaceSnapshot h
  · obtain rfl := congrArg Prod.fst (ok.inj h)
    unfold applyCatalogPage
    simp only
    split <;> exact seenIn_markSeen event.eventId
  · obtain rfl := congrArg Prod.fst (ok.inj h)
    unfold applyCatalogManifest
    simp only
    split <;> exact seenIn_markSeen event.eventId
  · obtain rfl := congrArg Prod.fst (ok.inj h)
    exact .of_eq (seen_observeGatewayUpdate event _)
  · obtain rfl := congrArg Prod.fst (ok.inj h)
    exact .of_eq (seen_observeGatewayDeployment event _)
  · obtain rfl := congrArg Prod.fst (ok.inj h)
    exact (seenIn_applyLogicalEvent event physicalEventId hint).1

theorem seen_foldl_reconcileCompletedTurn (sessionIds : List JsString) :
    (sessionIds.foldl reconcileCompletedTurn p).seenLogicalEvents = p.seenLogicalEvents := by
  induction sessionIds generalizing p with
  | nil => rfl
  | cons sessionId sessionIds ih => rw [List.foldl_cons,ih,seen_reconcileCompletedTurn]

end Projection

open Projection

variable {schemas : Schemas}

theorem validateProjectionState_eq_ok {state state' : ProjectionState}
    (h : validateProjectionState schemas host state = .ok state') : ∃ workspace project,
      validateOptional (validateWorkspace schemas host) state.workspace = .ok workspace ∧
      validateOptional (validateProject schemas) state.project = .ok project ∧
      state' = { state with workspace, project, sessions := state.sessions.map restoredSession } := by
  unfold validateProjectionState at h
  iterate 11 obtain ⟨-,-,h⟩ := bind_eq_ok.mp h
  obtain ⟨project,hproject,h⟩ := bind_eq_ok.mp h
  obtain ⟨workspace,hworkspace,h⟩ := bind_eq_ok.mp h
  iterate 9 obtain ⟨-,-,h⟩ := bind_eq_ok.mp h
  exact ⟨workspace,project,hworkspace,hproject,(ok.inj h).symm⟩

theorem seenIn_restore {p p' : Projection} (h : restore schemas host p.durableState = .ok p') : SeenIn p p' := by
  obtain ⟨state,hstate,h⟩ := bind_eq_ok.mp h
  obtain ⟨workspace,project,-,-,rfl⟩ := validateProjectionState_eq_ok hstate
  obtain rfl := ok.inj h
  refine .of_eq ?_
  rw [seen_reconcileWith,seen_foldl_reconcileCompletedTurn]
  have hkeys : p.seenLogicalEvents.keys.map (fun id => (id,())) = p.seenLogicalEvents.entries := by
    rw [InsertionMap.keys,List.map_map]
    exact List.map_id _
  change InsertionMap.ofEntries (p.seenLogicalEvents.keys.map fun id => (id,())) = p.seenLogicalEvents
  rw [hkeys,InsertionMap.ofEntries_entries]

end Malink.Client
