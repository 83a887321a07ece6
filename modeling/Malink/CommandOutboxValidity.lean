import Malink.CommandOutboxCodec

/-!
# What the codec accepts

The checks of a stored snapshot, as the facts that hold when all of them pass.
-/

namespace Malink.Native.Commands

structure PersistedCommand.Valid (value : PersistedCommand) : Prop where
  operationId : isOpaqueId value.operationId
  commandId : isOpaqueId value.commandId
  retiredCommandIds : ∀ id ∈ value.retiredCommandIds, isOpaqueId id
  retired : value.commandId ∉ value.retiredCommandIds ∧ value.retiredCommandIds.Nodup
  idempotencyKey : value.idempotencyKey.isUuid
  requestFingerprint : isFingerprint value.requestFingerprint
  submittedAt : 0 ≤ value.submittedAt ∧ value.submittedAt ≤ MAX_SAFE_JSON_INTEGER
  updatedAt : 0 ≤ value.updatedAt ∧ value.updatedAt ≤ MAX_SAFE_JSON_INTEGER
  ordered : value.submittedAt ≤ value.updatedAt
  sessionId : ∀ id, value.sessionId = some id → isOpaqueId id
  projectId : ∀ id, value.projectId = some id → isOpaqueId id
  createdAt : ∀ n, value.createdAt = some n → 0 ≤ n ∧ n ≤ MAX_SAFE_JSON_INTEGER
  matrixEventId : ∀ id, value.matrixEventId = some id → isOpaqueId id
  created : value.state = .queued ∨ value.createdAt ≠ none
  payload : (JsonElement.object value.payload).size ≤ MAX_PAYLOAD_BYTES
  operation : ∃ text, operationText value.payload = .ok text ∧ text.any (fun text => !text.isBlank)
  terminal : value.state.isTerminal = value.completion.isSome
  completion : ∀ completion, value.completion = some completion → completion.commandId = value.commandId

structure ReleasedCommandTombstone.Valid (value : ReleasedCommandTombstone) : Prop where
  operationId : isOpaqueId value.operationId
  commandId : isOpaqueId value.commandId
  retiredCommandIds : ∀ id ∈ value.retiredCommandIds, isOpaqueId id
  retired : value.commandId ∉ value.retiredCommandIds ∧ value.retiredCommandIds.Nodup
  idempotencyKey : value.idempotencyKey.isUuid
  requestFingerprint : isFingerprint value.requestFingerprint
  releasedAt : 0 ≤ value.releasedAt ∧ value.releasedAt ≤ MAX_SAFE_JSON_INTEGER

structure CommandOutboxSnapshot.Valid (value : CommandOutboxSnapshot) : Prop where
  capacity : value.commands.length ≤ MAX_COMMANDS ∧ value.released.length ≤ MAX_TOMBSTONES
  commandIds : (value.commands.map (·.commandId)).Nodup
  idempotencyKeys : (value.commands.map (·.idempotencyKey)).Nodup
  durableIds : value.durableIds.Nodup
  releasedKeys : (value.released.map (·.idempotencyKey)).Nodup
  apart : ∀ command ∈ value.commands, ∀ tombstone ∈ value.released, tombstone.idempotencyKey ≠ command.idempotencyKey
  commands : ∀ command ∈ value.commands, command.Valid
  released : ∀ tombstone ∈ value.released, tombstone.Valid

theorem requireOpaqueId_eq_ok {value field : JsString} {u : Unit} :
    requireOpaqueId value field = .ok u ↔ isOpaqueId value := require_eq_ok

theorem validateCommand_eq_ok {value : PersistedCommand} : validateCommand value = .ok () ↔ value.Valid := by
  unfold validateCommand
  simp only [check_bind_eq_ok,requireOpaqueId_eq_ok,requireUuid,requireFingerprint,requireNonnegativeJsonInteger,
    require_eq_ok,forM_eq_ok,checkPresent_eq_ok]
  simp only [bind_eq_ok,require_eq_ok]
  constructor
  · rintro ⟨h₁,h₂,h₃,h₄,h₅,h₆,h₇,h₈,h₉,h₁₀,h₁₁,h₁₂,h₁₃,h₁₄,h₁₅,operation,h₁₆,-,h₁₇,-,h₁₈,h₁₉⟩
    exact ⟨h₁,h₂,h₃,h₄,h₅,h₆,h₇,h₈,h₉,h₁₀,h₁₁,h₁₂,h₁₃,h₁₄,h₁₅,⟨operation,h₁₆,h₁₇⟩,h₁₈,h₁₉⟩
  · intro h
    obtain ⟨operation,h₁₆,h₁₇⟩ := h.operation
    exact ⟨h.operationId,h.commandId,h.retiredCommandIds,h.retired,h.idempotencyKey,h.requestFingerprint,
      h.submittedAt,h.updatedAt,h.ordered,h.sessionId,h.projectId,h.createdAt,h.matrixEventId,h.created,
      h.payload,operation,h₁₆,(),h₁₇,(),h.terminal,h.completion⟩

theorem validateTombstone_eq_ok {value : ReleasedCommandTombstone} :
    validateTombstone value = .ok () ↔ value.Valid := by
  unfold validateTombstone
  simp only [check_bind_eq_ok,requireOpaqueId_eq_ok,requireUuid,requireFingerprint,requireNonnegativeJsonInteger,
    require_eq_ok,forM_eq_ok]
  constructor
  · rintro ⟨h₁,h₂,h₃,h₄,h₅,h₆,h₇⟩
    exact ⟨h₁,h₂,h₃,h₄,h₅,h₆,h₇⟩
  · intro h
    exact ⟨h.operationId,h.commandId,h.retiredCommandIds,h.retired,h.idempotencyKey,h.requestFingerprint,h.releasedAt⟩

theorem validateSnapshot_eq_ok {value : CommandOutboxSnapshot} : validateSnapshot value = .ok () ↔ value.Valid := by
  unfold validateSnapshot
  simp only [check_bind_eq_ok,require_eq_ok,forM_eq_ok,validateCommand_eq_ok,validateTombstone_eq_ok]
  constructor
  · rintro ⟨h₁,h₂,h₃,h₄,h₅,h₆,h₇,h₈⟩
    exact ⟨h₁,h₂,h₃,h₄,h₅,h₆,h₇,h₈⟩
  · intro h
    exact ⟨h.capacity,h.commandIds,h.idempotencyKeys,h.durableIds,h.releasedKeys,h.apart,h.commands,h.released⟩

theorem encode_eq_ok {value : CommandOutboxSnapshot} {text : List Char} : encode value = .ok text ↔
    value.Valid ∧ (encodeSnapshot value).size ≤ MAX_PLAINTEXT_BYTES ∧ text = (encodeSnapshot value).print := by
  simp only [encode,check_bind_eq_ok,validateSnapshot_eq_ok,require_eq_ok,Except.ok.injEq]
  rw [JsonElement.size,eq_comm (a := text)]

namespace CommandOutboxSnapshot.Valid

variable {value : CommandOutboxSnapshot} {a b : PersistedCommand}

theorem eq_of_commandId (h : value.Valid) (ha : a ∈ value.commands) (hb : b ∈ value.commands)
    (hid : a.commandId = b.commandId) : a = b := List.inj_on_of_nodup_map h.commandIds ha hb hid

theorem eq_of_idempotencyKey (h : value.Valid) (ha : a ∈ value.commands) (hb : b ∈ value.commands)
    (hkey : a.idempotencyKey = b.idempotencyKey) : a = b :=
  List.inj_on_of_nodup_map h.idempotencyKeys ha hb hkey

theorem released_eq_of_idempotencyKey (h : value.Valid) {a b : ReleasedCommandTombstone} (ha : a ∈ value.released)
    (hb : b ∈ value.released) (hkey : a.idempotencyKey = b.idempotencyKey) : a = b :=
  List.inj_on_of_nodup_map h.releasedKeys ha hb hkey

/-- No identifier of a command is one of a tombstone. -/
theorem ids_disjoint (h : value.Valid) {command : PersistedCommand} {tombstone : ReleasedCommandTombstone}
    (hcommand : command ∈ value.commands) (htombstone : tombstone ∈ value.released) {id : JsString}
    (hid : id ∈ command.ids) : id ∉ tombstone.ids := by
  intro hid'
  have hdisjoint := (List.nodup_append.mp h.durableIds).2.2
  exact hdisjoint id (List.mem_flatMap.mpr ⟨command,hcommand,hid⟩) id
    (List.mem_flatMap.mpr ⟨tombstone,htombstone,hid'⟩) rfl

end CommandOutboxSnapshot.Valid

theorem valid_empty : CommandOutboxSnapshot.empty.Valid := by
  rw [← validateSnapshot_eq_ok]
  decide

end Malink.Native.Commands
