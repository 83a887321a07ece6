import Malink.CommandOutboxValidity

/-!
# Reading back the command outbox

A written snapshot is read back with its completions as the file keeps them: without the fields of the earlier bridge,
and an explicit `null` result taken for an absent one.
-/

namespace Malink.Native.Commands

open List JsonObject JsonElement JsString
open Bool (and_eq_true)
open Json (isHigh isLow stringifyInt)

def CommandCompletion.stored (value : CommandCompletion) : CommandCompletion where
  commandId := value.commandId
  sequence := 1
  revision := 0
  outcome := value.outcome
  sessionId := value.sessionId
  result := if value.result = some .null then none else value.result
  error := value.error
  commandId_valid := value.commandId_valid
  sequence_valid := defaultSequence_valid
  revision_valid := defaultRevision_valid
  sessionId_valid := value.sessionId_valid
  result_valid := by
    split
    · rfl
    · exact value.result_valid

def PersistedCommand.stored (value : PersistedCommand) : PersistedCommand :=
  { value with completion := value.completion.map CommandCompletion.stored }

def CommandOutboxSnapshot.stored (value : CommandOutboxSnapshot) : CommandOutboxSnapshot :=
  { value with commands := value.commands.map PersistedCommand.stored }

/-- The strings of a value are well-formed Unicode. -/
structure PublicCommandError.Portable (value : PublicCommandError) : Prop where
  code : value.code.wellFormed
  message : value.message.wellFormed

structure CommandCompletion.Portable (value : CommandCompletion) : Prop where
  commandId : value.commandId.wellFormed
  sessionId : ∀ id, value.sessionId = some id → id.wellFormed
  result : ∀ r, value.result = some r → r.portable
  error : ∀ error, value.error = some error → error.Portable

structure PersistedCommand.Portable (value : PersistedCommand) : Prop where
  operationId : value.operationId.wellFormed
  commandId : value.commandId.wellFormed
  retiredCommandIds : ∀ id ∈ value.retiredCommandIds, id.wellFormed
  sessionId : ∀ id, value.sessionId = some id → id.wellFormed
  projectId : ∀ id, value.projectId = some id → id.wellFormed
  matrixEventId : ∀ id, value.matrixEventId = some id → id.wellFormed
  completion : ∀ completion, value.completion = some completion → completion.Portable
  payload : (object value.payload).portable

structure ReleasedCommandTombstone.Portable (value : ReleasedCommandTombstone) : Prop where
  operationId : value.operationId.wellFormed
  commandId : value.commandId.wellFormed
  retiredCommandIds : ∀ id ∈ value.retiredCommandIds, id.wellFormed

structure CommandOutboxSnapshot.Portable (value : CommandOutboxSnapshot) : Prop where
  commands : ∀ command ∈ value.commands, command.Portable
  released : ∀ tombstone ∈ value.released, tombstone.Portable

def ReadsDecimals (longOrNull : List Char → Option ℤ) : Prop :=
  ∀ n, 0 ≤ n → n ≤ MAX_SAFE_JSON_INTEGER → longOrNull (stringifyInt n) = some n

variable {s : JsString} {u : UInt16} {value : CommandOutboxSnapshot} {content : JsString}

theorem unit_of_isUuid (h : s.isUuid) (hu : u ∈ s.units) : 33 ≤ u.toNat ∧ u.toNat < 128 := by
  rw [isUuid,and_eq_true,all_eq_true] at h
  obtain ⟨i,hi,hget⟩ := getElem_of_mem hu
  have hmem : (u,i) ∈ s.units.zipIdx := by
    rw [mem_zipIdx_iff_getElem?,← hget]
    exact getElem?_eq_getElem hi
  have hunit := h.2 _ hmem
  dsimp only at hunit
  split at hunit
  · rw [decide_eq_true_eq] at hunit
    omega
  · simp only [isHexDigit,Bool.or_eq_true,and_eq_true,decide_eq_true_eq] at hunit
    omega

theorem unit_of_isFingerprint (h : isFingerprint s) (hu : u ∈ s.units) : 33 ≤ u.toNat ∧ u.toNat < 128 := by
  rw [isFingerprint,and_eq_true,all_eq_true] at h
  have hunit := h.2 u hu
  simp only [Bool.or_eq_true,and_eq_true,decide_eq_true_eq] at hunit
  omega

theorem wellFormed_of_ascii (h : ∀ u ∈ s.units,33 ≤ u.toNat ∧ u.toNat < 128) : s.wellFormed := by
  apply wellFormed_of_plain
  intro u hu
  have hu' := h u hu
  exact not_surrogate_of_lt (by omega)

theorem isBlank_of_ascii (h : ∀ u ∈ s.units,33 ≤ u.toNat ∧ u.toNat < 128) (hlen : 0 < s.length) :
    s.isBlank = false := by
  obtain ⟨u,hu⟩ := exists_mem_of_length_pos hlen
  have hspace : isWhitespace u = false := by
    have hu' := h u hu
    unfold isWhitespace
    simp only [Bool.or_eq_false_iff,Bool.and_eq_false_iff,decide_eq_false_iff_not]
    omega
  rw [isBlank,all_eq_false]
  exact ⟨u,hu,by simp [hspace]⟩

theorem length_of_isUuid (h : s.isUuid) : s.length = 36 := by
  rw [isUuid,and_eq_true,decide_eq_true_eq] at h
  exact h.1

theorem length_of_isFingerprint (h : isFingerprint s) : s.length = 64 := by
  rw [isFingerprint,and_eq_true,decide_eq_true_eq] at h
  exact h.1

theorem isOpaqueId_iff : isOpaqueId s ↔
    s.isBlank = false ∧ s.length ≤ 512 ∧ s.units.any isISOControl = false := by
  simp only [isOpaqueId,and_eq_true,Bool.not_eq_true',decide_eq_true_eq,and_assoc]

theorem portable_string (h : s.wellFormed) : (string s).portable := h

theorem isTokenChar_of_isDigit {c : Char} (h : c.isDigit) : isTokenChar c := by
  rw [Char.isDigit_iff_toNat] at h
  have hne : ∀ d : Char,d.toNat < 48 ∨ 57 < d.toNat → c ≠ d := by
    rintro d hd rfl
    exact hd.elim (fun hd => by have := h.1; simp at this; omega) (fun hd => by have := h.2; simp at this; omega)
  have hlow : 32 < c.toNat := lt_of_lt_of_le (by decide) h.1
  simp only [isTokenChar,and_eq_true,decide_eq_true_eq]
  exact ⟨⟨⟨⟨⟨⟨⟨⟨hlow,hne _ (by decide)⟩,hne _ (by decide)⟩,hne _ (by decide)⟩,hne _ (by decide)⟩,
    hne _ (by decide)⟩,hne _ (by decide)⟩,hne _ (by decide)⟩,hne _ (by decide)⟩

theorem toDigits_ne_nil (n : ℕ) : Nat.toDigits 10 n ≠ [] := by
  intro h
  have hlen := Nat.length_toDigits_pos (b := 10) (n := n)
  rw [h] at hlen
  exact absurd hlen (by simp)

theorem isDigit_of_mem_toDigits {n : ℕ} {c : Char} (h : c ∈ Nat.toDigits 10 n) : c.isDigit :=
  Nat.isDigit_of_mem_toDigits (b := 10) (n := n) (by decide) (by decide) h

theorem portable_long (n : ℤ) (hn : 0 ≤ n) : (long n).portable := by
  have hdigits : stringifyInt n = Nat.toDigits 10 n.natAbs := by
    rw [stringifyInt,if_neg (by omega)]
  have hall : (stringifyInt n).all isTokenChar := by
    rw [hdigits,all_eq_true]
    exact fun c hc => isTokenChar_of_isDigit (isDigit_of_mem_toDigits hc)
  have hnull : stringifyInt n ≠ "null".toList := by
    rw [hdigits]
    intro h
    have hmem : 'n' ∈ Nat.toDigits 10 n.natAbs := by rw [h]; decide
    exact absurd (isDigit_of_mem_toDigits hmem) (by decide)
  have hne : stringifyInt n ≠ [] := hdigits ▸ toDigits_ne_nil n.natAbs
  rw [long,portable,hall,decide_eq_true hne,decide_eq_true hnull]
  rfl

theorem portable_bool (b : Bool) : (bool b).portable := by
  cases b <;> decide

theorem portable_optionalString {s : Option JsString} (h : ∀ id,s = some id → id.wellFormed) :
    (optionalStringElement s).portable := by
  cases s with
  | none => rfl
  | some id => exact portable_string (h id rfl)

theorem portable_optionalLong {n : Option ℤ} (h : ∀ m,n = some m → 0 ≤ m) : (optionalLongElement n).portable := by
  cases n with
  | none => rfl
  | some m => exact portable_long m (h m rfl)

theorem portable_strings {ids : List JsString} (h : ∀ id ∈ ids,id.wellFormed) : (array (ids.map string)).portable := by
  rw [portable_array]
  intro e he
  obtain ⟨id,hid,rfl⟩ := mem_map.mp he
  exact portable_string (h id hid)

theorem portable_record {entries : JsonObject} (keys : List String)
    (hkeys : entries.map Prod.fst = keys.map ofString) (hnodup : keys.Nodup)
    (hvalues : ∀ e ∈ entries.map Prod.snd,e.portable) : (object entries).portable := by
  rw [portable_object,hkeys]
  refine ⟨hnodup.map fun _ _ => ofString_inj.mp,?_⟩
  intro entry hentry
  have hkey : entry.1 ∈ keys.map ofString := hkeys ▸ mem_map_of_mem hentry
  obtain ⟨key,-,hentrykey⟩ := mem_map.mp hkey
  exact ⟨hentrykey ▸ wellFormed_ofString key,hvalues _ (mem_map_of_mem hentry)⟩

theorem portable_encodeError {value : PublicCommandError} (h : value.Portable) :
    (object (encodeError value)).portable := by
  apply portable_record ["code","message","retryable"] rfl (by simp)
  simp only [encodeError,map_cons,map_nil,forall_mem_cons]
  exact ⟨portable_string h.code,portable_string h.message,portable_bool value.retryable,by simp⟩

theorem portable_encodeCompletion {value : CommandCompletion} (h : value.Portable) :
    (object (encodeCompletion value)).portable := by
  have hresult : (value.result.getD .null).portable := by
    cases hvalue : value.result with
    | none => rfl
    | some result => exact h.result result hvalue
  have herror : ((value.error.map fun error => object (encodeError error)).getD .null).portable := by
    cases hvalue : value.error with
    | none => rfl
    | some error => exact portable_encodeError (h.error error hvalue)
  have houtcome : value.outcome.wireName.wellFormed := by
    cases value.outcome <;> exact wellFormed_ofString _
  apply portable_record ["commandId","outcome","sessionId","result","error"] rfl (by simp)
  simp only [encodeCompletion,map_cons,map_nil,forall_mem_cons]
  exact ⟨portable_string h.commandId,portable_string houtcome,portable_optionalString h.sessionId,hresult,herror,
    by simp⟩

theorem portable_encodeCommand {value : PersistedCommand} (hvalid : value.Valid) (h : value.Portable) :
    (object (encodeCommand value)).portable := by
  have hstate : value.state.wireName.wellFormed := by
    cases value.state <;> exact wellFormed_ofString _
  have hcompletion : ((value.completion.map fun completion =>
      object (encodeCompletion completion)).getD .null).portable := by
    cases hvalue : value.completion with
    | none => rfl
    | some completion => exact portable_encodeCompletion (h.completion completion hvalue)
  have hkey := wellFormed_of_ascii fun u hu => unit_of_isUuid hvalid.idempotencyKey hu
  have hfingerprint := wellFormed_of_ascii fun u hu => unit_of_isFingerprint hvalid.requestFingerprint hu
  apply portable_record ["operationId","commandId","retiredCommandIds","idempotencyKey","requestFingerprint","state",
    "submittedAt",
      "updatedAt","sessionId","projectId","createdAt","matrixEventId","cancelRequested","completion","payload"] rfl
        (by simp)
  simp only [encodeCommand,map_cons,map_nil,forall_mem_cons]
  exact ⟨portable_string h.operationId,portable_string h.commandId,portable_strings h.retiredCommandIds,
    portable_string hkey,portable_string hfingerprint,portable_string hstate,
    portable_long _ hvalid.submittedAt.1,portable_long _ hvalid.updatedAt.1,portable_optionalString h.sessionId,
    portable_optionalString h.projectId,portable_optionalLong fun n hn => (hvalid.createdAt n hn).1,
    portable_optionalString h.matrixEventId,portable_bool value.cancelRequested,hcompletion,h.payload,by simp⟩

theorem portable_encodeTombstone {value : ReleasedCommandTombstone} (hvalid : value.Valid) (h : value.Portable) :
    (object (encodeTombstone value)).portable := by
  have hkey := wellFormed_of_ascii fun u hu => unit_of_isUuid hvalid.idempotencyKey hu
  have hfingerprint := wellFormed_of_ascii fun u hu => unit_of_isFingerprint hvalid.requestFingerprint hu
  apply portable_record ["operationId","commandId","retiredCommandIds","idempotencyKey",
    "requestFingerprint","releasedAt"] rfl (by simp)
  simp only [encodeTombstone,map_cons,map_nil,forall_mem_cons]
  exact ⟨portable_string h.operationId,portable_string h.commandId,portable_strings h.retiredCommandIds,
    portable_string hkey,portable_string hfingerprint,portable_long _ hvalid.releasedAt.1,by simp⟩

theorem portable_encodeSnapshot (hvalid : value.Valid) (h : value.Portable) : (encodeSnapshot value).portable := by
  have hcommands : (array (value.commands.map fun command =>
      .object (encodeCommand command))).portable := by
    rw [portable_array]
    intro e he
    obtain ⟨command,hcommand,rfl⟩ := mem_map.mp he
    exact portable_encodeCommand (hvalid.commands command hcommand) (h.commands command hcommand)
  have hreleased : (array (value.released.map fun tombstone =>
      .object (encodeTombstone tombstone))).portable := by
    rw [portable_array]
    intro e he
    obtain ⟨tombstone,htombstone,rfl⟩ := mem_map.mp he
    exact portable_encodeTombstone (hvalid.released tombstone htombstone) (h.released tombstone htombstone)
  apply portable_record ["schemaVersion","commands","released"] rfl (by simp)
  simp only [map_cons,map_nil,forall_mem_cons]
  exact ⟨portable_long _ (by decide),hcommands,hreleased,by simp⟩

theorem JsonObject.get_cons (key : JsString) (e : JsonElement) (rest : JsonObject) (name : JsString) :
    JsonObject.get ((key,e) :: rest) name = if key = name then some e else JsonObject.get rest name := by
  rw [JsonObject.get,field,find?_cons]
  by_cases h : key = name
  · simp [h]
  · simp [h,JsonObject.get,field]

section Fields

variable {longOrNull : List Char → Option ℤ} (hlong : ReadsDecimals longOrNull) {value : JsonObject} {name : JsString}

theorem requireExactKeys_of (keys : List JsString) {expected : List JsString} (hkeys : value.map Prod.fst = keys)
    (h : (∀ key ∈ keys,key ∈ expected) ∧ ∀ key ∈ expected,key ∈ keys) :
    value.requireExactKeys expected = .ok () := require_of _ (hkeys ▸ h)

section

variable (hget : value.get name = some (.string content))
include hget

theorem requiredString_of {allowEmpty : Bool}
    (hlen : content.length ≤ 4096) (hblank : allowEmpty ∨ content.isBlank = false) :
    value.requiredString name allowEmpty = .ok content := by
  have hcheck := require_of (name ++ (" is required." : JsString)) (And.intro hlen hblank)
  simp [requiredString,hget,jsonPrimitive,isPrimitive,stringContent,hcheck,ok_bind]

theorem requiredString_opaque (h : isOpaqueId content) : value.requiredString name false = .ok content := by
  obtain ⟨hblank,hlen,-⟩ := isOpaqueId_iff.mp h
  exact requiredString_of hget (by omega) (.inr hblank)

theorem requiredString_ascii (h : ∀ u ∈ content.units,33 ≤ u.toNat ∧ u.toNat < 128) (hpos : 0 < content.length)
    (hlen : content.length ≤ 4096) : value.requiredString name false = .ok content :=
  requiredString_of hget hlen (.inr (isBlank_of_ascii h hpos))

end

theorem optionalString_of {content : Option JsString} (hget : value.get name = some (optionalStringElement content))
    (h : ∀ id,content = some id → isOpaqueId id) : value.optionalString name = .ok content := by
  cases content with
  | none => simp [optionalString,hget,optionalStringElement]
  | some id =>
    have hlen : id.length ≤ 4096 := le_trans (isOpaqueId_iff.mp (h id rfl)).2.1 (by decide)
    have hcheck := require_of (name ++ (" is invalid." : JsString)) hlen
    simp [optionalString,hget,optionalStringElement,jsonPrimitive,isPrimitive,stringContent,hcheck,ok_bind]

include hlong in
theorem requiredLong_of {n : ℤ} (hget : value.get name = some (.long n))
    (hn : 0 ≤ n ∧ n ≤ MAX_SAFE_JSON_INTEGER) : value.requiredLong longOrNull name = .ok n := by
  have hread := hlong n hn.1 hn.2
  simp [requiredLong,hget,long,jsonPrimitive,isPrimitive,stringContent,tokenContent,require_of,ok_bind,hread]

include hlong in
theorem optionalLong_of {n : Option ℤ} (hget : value.get name = some (optionalLongElement n))
    (hn : ∀ m,n = some m → 0 ≤ m ∧ m ≤ MAX_SAFE_JSON_INTEGER) : value.optionalLong longOrNull name = .ok n := by
  cases n with
  | none => simp [optionalLong,hget,optionalLongElement]
  | some m =>
    have hread := hlong m (hn m rfl).1 (hn m rfl).2
    simp [optionalLong,hget,optionalLongElement,long,jsonPrimitive,
      isPrimitive,stringContent,tokenContent,require_of,ok_bind,hread]

theorem requiredBoolean_of {b : Bool} (hget : value.get name = some (.bool b)) :
    value.requiredBoolean name = .ok b := by
  have hread : booleanOrNull (.bool b) = some b := by cases b <;> rfl
  have hprimitive : jsonPrimitive (.bool b) = .ok (.bool b) := rfl
  simp [requiredBoolean,hget,hprimitive,ok_bind,hread]

theorem requiredArray_of {items : List JsonElement} (hget : value.get name = some (.array items)) :
    value.requiredArray name = .ok items := by
  simp [requiredArray,hget,jsonArray]

theorem optionalObject_of {entries : Option JsonObject}
    (hget : value.get name = some ((entries.map object).getD .null)) : value.optionalObject name = .ok entries := by
  cases entries with
  | none => simp [optionalObject,hget]
  | some entries => simp [optionalObject,hget,jsonObject,Except.map]

end Fields

theorem mapM_ok {α β : Type} {f : α → Except OutboxError β} {g : α → β} {items : List α}
    (h : ∀ item ∈ items,f item = .ok (g item)) : items.mapM f = .ok (items.map g) := by
  induction items with
  | nil => rfl
  | cons item items ih =>
    rw [mapM_cons,h item mem_cons_self,ok_bind,ih fun i hi => h i (mem_cons_of_mem item hi)]
    rfl

theorem mapM_requiredStringValue {ids : List JsString} (h : ∀ id ∈ ids,isOpaqueId id) :
    (ids.map string).mapM requiredStringValue = .ok ids := by
  have hread : ∀ id ∈ ids,(requiredStringValue ∘ string) id = .ok id := by
    intro id hid
    obtain ⟨hblank,hlen,-⟩ := isOpaqueId_iff.mp (h id hid)
    have hcheck := require_of "Array string value is invalid." (And.intro hblank (le_trans hlen (by decide : 512 ≤ 4096)))
    simp [requiredStringValue,jsonPrimitive,isPrimitive,stringContent,hcheck,ok_bind]
  rw [mapM_map,mapM_ok hread,map_id']

theorem decodeError_encodeError (value : PublicCommandError) : decodeError (encodeError value) = .ok value := by
  have hkeys : (encodeError value).requireExactKeys ["code","message","retryable"] = .ok () :=
    requireExactKeys_of ["code","message","retryable"] rfl (by simp)
  have hcode : (encodeError value).requiredString "code" false = .ok value.code :=
    requiredString_of (by simp [encodeError,get_cons])
      (le_trans value.code_valid.2 (by decide)) (.inr value.code_valid.1)
  have hmessage : (encodeError value).requiredString "message" true = .ok value.message :=
    requiredString_of (by simp [encodeError,get_cons,ofString_inj]) value.message_valid (.inl rfl)
  have hretryable : (encodeError value).requiredBoolean "retryable" = .ok value.retryable :=
    requiredBoolean_of (by simp [encodeError,get_cons,ofString_inj])
  simp only [decodeError,hkeys,hcode,hmessage,hretryable,ok_bind]
  rw [publicCommandError,dif_pos value.code_valid,dif_pos value.message_valid]

theorem decodeOptional_of {α : Type} {decode : JsonObject → Except OutboxError α} {encode : α → JsonObject} {g : α → α}
    {value : Option α} (h : ∀ v,value = some v → decode (encode v) = .ok (g v)) :
    decodeOptional decode (value.map encode) = .ok (value.map g) := by
  cases value with
  | none => rfl
  | some v => simp [decodeOptional,h v rfl,Except.map]

theorem outcome_wireName : ∀ outcome : CommandOutcome,
    outcome.wireName.length ≤ 4096 ∧ outcome.wireName.isBlank = false := by
  rintro (_ | _ | _) <;> decide

theorem state_wireName : ∀ state : CommandState,
    state.wireName.length ≤ 4096 ∧ state.wireName.isBlank = false := by
  rintro (_ | _ | _ | _ | _ | _ | _ | _) <;> decide

theorem commandCompletion_stored (value : CommandCompletion) : commandCompletion value.commandId value.outcome
    value.sessionId (if value.result = some .null then none else value.result) value.error = .ok value.stored := by
  have hresult := value.stored.result_valid
  rw [CommandCompletion.stored] at hresult
  rw [commandCompletion,dif_pos value.commandId_valid,dif_pos value.sessionId_valid,dif_pos hresult]
  rfl

theorem decodeCompletion_encodeCompletion (value : CommandCompletion) :
    decodeCompletion (encodeCompletion value) EVENT_STREAM_SCHEMA_VERSION = .ok value.stored := by
  have hkeys : (encodeCompletion value).requireExactKeys (completionKeys ++
      keysIf (EVENT_STREAM_SCHEMA_VERSION < EVENT_STREAM_SCHEMA_VERSION) ["sequence","revision"]) = .ok () :=
    requireExactKeys_of completionKeys rfl (by simp [keysIf])
  have hid : (encodeCompletion value).requiredString "commandId" false = .ok value.commandId :=
    requiredString_opaque (by simp [encodeCompletion,get_cons]) value.commandId_valid
  have hname : (encodeCompletion value).requiredString "outcome" false = .ok value.outcome.wireName :=
    requiredString_of (by simp [encodeCompletion,get_cons,ofString_inj])
      (outcome_wireName value.outcome).1 (.inr (outcome_wireName value.outcome).2)
  have hsession : (encodeCompletion value).optionalString "sessionId" = .ok value.sessionId :=
    optionalString_of (by simp [encodeCompletion,get_cons,ofString_inj]) fun id hid => by
      simpa [hid] using value.sessionId_valid
  have hresult : (encodeCompletion value).getValue "result" = .ok (value.result.getD .null) := by
    simp [getValue,encodeCompletion,get_cons,ofString_inj]
  have herror : (encodeCompletion value).optionalObject "error" = .ok (value.error.map encodeError) :=
    optionalObject_of (by simp [encodeCompletion,get_cons,ofString_inj,Function.comp_def])
  have hread : decodeOptional decodeError (value.error.map encodeError) = .ok (value.error.map id) :=
    decodeOptional_of fun error _ => decodeError_encodeError error
  have hnull : (if value.result.getD .null = .null then none else some (value.result.getD .null)) =
      if value.result = some .null then none else value.result := by
    cases value.result with
    | none | some => simp
  simp only [decodeCompletion,hkeys,hid,hname,CommandOutcome.fromWireName_wireName,hsession,hresult,herror,
    hread,ok_bind,hnull,Option.map_id]
  exact commandCompletion_stored value

section Snapshots

variable {longOrNull : List Char → Option ℤ} (hlong : ReadsDecimals longOrNull)
include hlong

theorem decodeCommand_encodeCommand {value : PersistedCommand} (h : value.Valid) :
    decodeCommand longOrNull (encodeCommand value) EVENT_STREAM_SCHEMA_VERSION = .ok value.stored := by
  have hkeys : (encodeCommand value).requireExactKeys commandKeys = .ok () :=
    requireExactKeys_of commandKeys rfl ⟨fun _ => id,fun _ => id⟩
  have hoperationId : (encodeCommand value).requiredString "operationId" false = .ok value.operationId :=
    requiredString_opaque (by simp [encodeCommand,get_cons]) h.operationId
  have hcommandId : (encodeCommand value).requiredString "commandId" false = .ok value.commandId :=
    requiredString_opaque (by simp [encodeCommand,get_cons,ofString_inj]) h.commandId
  have hretired : (encodeCommand value).requiredArray "retiredCommandIds" = .ok (value.retiredCommandIds.map string) :=
    requiredArray_of (by simp [encodeCommand,get_cons,ofString_inj])
  have hkey : (encodeCommand value).requiredString "idempotencyKey" false = .ok value.idempotencyKey :=
    requiredString_ascii (by simp [encodeCommand,get_cons,ofString_inj])
      (fun u hu => unit_of_isUuid h.idempotencyKey hu) (by rw [length_of_isUuid h.idempotencyKey]; decide)
      (by rw [length_of_isUuid h.idempotencyKey]; decide)
  have hfingerprint : (encodeCommand value).requiredString "requestFingerprint" false = .ok value.requestFingerprint :=
    requiredString_ascii (by simp [encodeCommand,get_cons,ofString_inj])
      (fun u hu => unit_of_isFingerprint h.requestFingerprint hu)
      (by rw [length_of_isFingerprint h.requestFingerprint]; decide)
      (by rw [length_of_isFingerprint h.requestFingerprint]; decide)
  have hstate : (encodeCommand value).requiredString "state" false = .ok value.state.wireName :=
    requiredString_of (by simp [encodeCommand,get_cons,ofString_inj])
      (state_wireName value.state).1 (.inr (state_wireName value.state).2)
  have hsubmitted : (encodeCommand value).requiredLong longOrNull "submittedAt" = .ok value.submittedAt :=
    requiredLong_of hlong (by simp [encodeCommand,get_cons,ofString_inj]) h.submittedAt
  have hupdated : (encodeCommand value).requiredLong longOrNull "updatedAt" = .ok value.updatedAt :=
    requiredLong_of hlong (by simp [encodeCommand,get_cons,ofString_inj]) h.updatedAt
  have hsession : (encodeCommand value).optionalString "sessionId" = .ok value.sessionId :=
    optionalString_of (by simp [encodeCommand,get_cons,ofString_inj]) h.sessionId
  have hproject : (encodeCommand value).optionalString "projectId" = .ok value.projectId :=
    optionalString_of (by simp [encodeCommand,get_cons,ofString_inj]) h.projectId
  have hcreated : (encodeCommand value).optionalLong longOrNull "createdAt" = .ok value.createdAt :=
    optionalLong_of hlong (by simp [encodeCommand,get_cons,ofString_inj]) h.createdAt
  have hevent : (encodeCommand value).optionalString "matrixEventId" = .ok value.matrixEventId :=
    optionalString_of (by simp [encodeCommand,get_cons,ofString_inj]) h.matrixEventId
  have hcancel : (encodeCommand value).requiredBoolean "cancelRequested" = .ok value.cancelRequested :=
    requiredBoolean_of (by simp [encodeCommand,get_cons,ofString_inj])
  have hobject : (encodeCommand value).optionalObject "completion" = .ok (value.completion.map encodeCompletion) :=
    optionalObject_of (by simp [encodeCommand,get_cons,ofString_inj,Function.comp_def])
  have hcompletion : decodeOptional (decodeCompletion · EVENT_STREAM_SCHEMA_VERSION)
      (value.completion.map encodeCompletion) = .ok (value.completion.map CommandCompletion.stored) :=
    decodeOptional_of fun completion _ => decodeCompletion_encodeCompletion completion
  have hpayload : (encodeCommand value).getValue "payload" = .ok (.object value.payload) := by
    simp [getValue,encodeCommand,get_cons,ofString_inj]
  have hschema : (5 : ℤ) ≤ EVENT_STREAM_SCHEMA_VERSION := by decide
  simp only [decodeCommand,decide_true,if_true,hschema,hkeys,hoperationId,hcommandId,hretired,
    mapM_requiredStringValue h.retiredCommandIds,hkey,hfingerprint,hstate,CommandState.fromWireName_wireName,
    hsubmitted,hupdated,hsession,hproject,hcreated,hevent,hcancel,hobject,hcompletion,hpayload,jsonObject,ok_bind]
  rfl

theorem decodeTombstone_encodeTombstone {value : ReleasedCommandTombstone} (h : value.Valid) :
    decodeTombstone longOrNull (encodeTombstone value) EVENT_STREAM_SCHEMA_VERSION = .ok value := by
  have hkeys : (encodeTombstone value).requireExactKeys
      (tombstoneKeys ++ keysIf (3 ≤ EVENT_STREAM_SCHEMA_VERSION) ["retiredCommandIds"]) = .ok () :=
    requireExactKeys_of ["operationId","commandId","retiredCommandIds","idempotencyKey",
      "requestFingerprint","releasedAt"] rfl (by simp [tombstoneKeys,keysIf,EVENT_STREAM_SCHEMA_VERSION])
  have hoperationId : (encodeTombstone value).requiredString "operationId" false = .ok value.operationId :=
    requiredString_opaque (by simp [encodeTombstone,get_cons]) h.operationId
  have hcommandId : (encodeTombstone value).requiredString "commandId" false = .ok value.commandId :=
    requiredString_opaque (by simp [encodeTombstone,get_cons,ofString_inj]) h.commandId
  have hretired : (encodeTombstone value).requiredArray "retiredCommandIds" =
      .ok (value.retiredCommandIds.map string) :=
    requiredArray_of (by simp [encodeTombstone,get_cons,ofString_inj])
  have hkey : (encodeTombstone value).requiredString "idempotencyKey" false = .ok value.idempotencyKey :=
    requiredString_ascii (by simp [encodeTombstone,get_cons,ofString_inj])
      (fun u hu => unit_of_isUuid h.idempotencyKey hu) (by rw [length_of_isUuid h.idempotencyKey]; decide)
      (by rw [length_of_isUuid h.idempotencyKey]; decide)
  have hfingerprint : (encodeTombstone value).requiredString "requestFingerprint" false =
      .ok value.requestFingerprint :=
    requiredString_ascii (by simp [encodeTombstone,get_cons,ofString_inj])
      (fun u hu => unit_of_isFingerprint h.requestFingerprint hu)
      (by rw [length_of_isFingerprint h.requestFingerprint]; decide)
      (by rw [length_of_isFingerprint h.requestFingerprint]; decide)
  have hreleased : (encodeTombstone value).requiredLong longOrNull "releasedAt" = .ok value.releasedAt :=
    requiredLong_of hlong (by simp [encodeTombstone,get_cons,ofString_inj]) h.releasedAt
  have hschema : (3 : ℤ) ≤ EVENT_STREAM_SCHEMA_VERSION := by decide
  rw [decodeTombstone,hkeys,ok_bind]
  simp only [hschema,if_true,hoperationId,hcommandId,hretired,
    mapM_requiredStringValue h.retiredCommandIds,hkey,hfingerprint,hreleased,ok_bind]

end Snapshots

theorem PersistedCommand.Valid.stored {value : PersistedCommand} (h : value.Valid) : value.stored.Valid where
  operationId := h.operationId
  commandId := h.commandId
  retiredCommandIds := h.retiredCommandIds
  retired := h.retired
  idempotencyKey := h.idempotencyKey
  requestFingerprint := h.requestFingerprint
  submittedAt := h.submittedAt
  updatedAt := h.updatedAt
  ordered := h.ordered
  sessionId := h.sessionId
  projectId := h.projectId
  createdAt := h.createdAt
  matrixEventId := h.matrixEventId
  created := h.created
  payload := h.payload
  operation := h.operation
  terminal := by
    rw [PersistedCommand.stored,Option.isSome_map]
    exact h.terminal
  completion := by
    intro completion hcompletion
    obtain ⟨original,horiginal,rfl⟩ := Option.map_eq_some_iff.mp hcompletion
    exact h.completion original horiginal

theorem CommandOutboxSnapshot.Valid.stored (h : value.Valid) : value.stored.Valid where
  capacity := by simpa [CommandOutboxSnapshot.stored] using h.capacity
  commandIds := by simpa [CommandOutboxSnapshot.stored,Function.comp_def,PersistedCommand.stored] using h.commandIds
  idempotencyKeys := by
    simpa [CommandOutboxSnapshot.stored,Function.comp_def,PersistedCommand.stored] using h.idempotencyKeys
  durableIds := by
    have hids : value.stored.durableIds = value.durableIds := by
      have hcommand : ∀ command : PersistedCommand,command.stored.ids = command.ids := fun _ => rfl
      simp [CommandOutboxSnapshot.stored,CommandOutboxSnapshot.durableIds,flatMap_map,hcommand]
    exact hids ▸ h.durableIds
  releasedKeys := h.releasedKeys
  apart := by
    intro command hcommand
    obtain ⟨original,horiginal,rfl⟩ := mem_map.mp hcommand
    exact h.apart original horiginal
  commands := by
    intro command hcommand
    obtain ⟨original,horiginal,rfl⟩ := mem_map.mp hcommand
    exact (h.commands original horiginal).stored
  released := h.released

/-- What was written for a portable snapshot is read back, needs no migration and is what the file keeps. -/
theorem decodeForStorage_encode {longOrNull : List Char → Option ℤ} (hlong : ReadsDecimals longOrNull)
    {text : List Char} (hencode : encode value = .ok text) (h : value.Portable) :
    decodeForStorage longOrNull text = .ok ⟨value.stored,none⟩ := by
  obtain ⟨hvalid,hsize,rfl⟩ := encode_eq_ok.mp hencode
  have hfits : utf8Length (encodeSnapshot value).print ≤ MAX_PLAINTEXT_BYTES := hsize
  have hparse : parseToJsonElement (encodeSnapshot value).print = .ok (encodeSnapshot value) := by
    rw [parseToJsonElement,parse_print (portable_encodeSnapshot hvalid h)]
  let root : JsonObject := [("schemaVersion",.long EVENT_STREAM_SCHEMA_VERSION),
    ("commands",.array (value.commands.map fun command => .object (encodeCommand command))),
    ("released",.array (value.released.map fun tombstone => .object (encodeTombstone tombstone)))]
  have hroot : jsonObject (encodeSnapshot value) = .ok root := rfl
  have hversion : root.requiredLong longOrNull "schemaVersion" = .ok EVENT_STREAM_SCHEMA_VERSION :=
    requiredLong_of hlong (by simp [root,get_cons]) (by decide)
  have hkeys : root.requireExactKeys rootKeys = .ok () := requireExactKeys_of rootKeys rfl ⟨fun _ => id,fun _ => id⟩
  have hcommands : root.requiredArray "commands" =
      .ok (value.commands.map fun command => .object (encodeCommand command)) :=
    requiredArray_of (by simp [root,get_cons,ofString_inj])
  have hreleased : root.requiredArray "released" =
      .ok (value.released.map fun tombstone => .object (encodeTombstone tombstone)) :=
    requiredArray_of (by simp [root,get_cons,ofString_inj])
  have hdecode : (value.commands.map fun command => object (encodeCommand command)).mapM (fun e => do
      decodeCommand longOrNull (← jsonObject e) EVENT_STREAM_SCHEMA_VERSION) =
      .ok (value.commands.map PersistedCommand.stored) := by
    rw [mapM_map]
    exact mapM_ok fun command hcommand => decodeCommand_encodeCommand hlong (hvalid.commands command hcommand)
  have hdecode' : (value.released.map fun tombstone => object (encodeTombstone tombstone)).mapM
      (fun e => do decodeTombstone longOrNull (← jsonObject e) EVENT_STREAM_SCHEMA_VERSION) = .ok value.released := by
    rw [mapM_map]
    have htombstones := mapM_ok (g := id) (f := fun tombstone =>
      decodeTombstone longOrNull (encodeTombstone tombstone) EVENT_STREAM_SCHEMA_VERSION) fun tombstone htombstone =>
      decodeTombstone_encodeTombstone hlong (hvalid.released tombstone htombstone)
    rw [map_id] at htombstones
    exact htombstones
  have hquarantined : (value.commands.map PersistedCommand.stored).filter
      (isQuarantined EVENT_STREAM_SCHEMA_VERSION) = [] := by
    rw [filter_eq_nil_iff]
    intro command _
    simp [isQuarantined,show ¬ EVENT_STREAM_SCHEMA_VERSION < 3 by decide]
  have hsnapshot := validateSnapshot_eq_ok.mpr hvalid.stored
  have hcommandCount : (value.commands.map fun command => object (encodeCommand command)).length ≤
      MAX_COMMANDS := by
    rw [length_map]
    exact hvalid.capacity.1
  have hreleasedCount : (value.released.map fun tombstone =>
      object (encodeTombstone tombstone)).length ≤ MAX_TOMBSTONES := by
    rw [length_map]
    exact hvalid.capacity.2
  have hroom : value.released.length + ([] : List PersistedCommand).length ≤ MAX_TOMBSTONES := hvalid.capacity.2
  have hsupported : 1 ≤ EVENT_STREAM_SCHEMA_VERSION ∧ EVENT_STREAM_SCHEMA_VERSION ≤ EVENT_STREAM_SCHEMA_VERSION := by
    decide
  simp only [decodeForStorage,require_of _ hfits,hparse,hroot,hversion,require_of _ hsupported,if_true,hkeys,
    hcommands,require_of _ hcommandCount,hdecode,hreleased,require_of _ hreleasedCount,hdecode',hquarantined,
    require_of _ hroom,ok_bind]
  have hkept : (⟨(value.commands.map PersistedCommand.stored).filter fun command =>
      command.commandId ∉ ([] : List PersistedCommand).map (·.commandId),
      value.released ++ ([] : List PersistedCommand).map fun command =>
        command.toReleasedTombstone command.updatedAt⟩ : CommandOutboxSnapshot) = value.stored := by
    simp [CommandOutboxSnapshot.stored]
  rw [hkept,hsnapshot,ok_bind]

end Malink.Native.Commands
