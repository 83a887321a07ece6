import Malink.JournalDatabase
import Malink.RepairedJournals

/-!
# The migration keeps the journal

A record of an accepted text is bound to its key, and its terminal is valid. Its row reads back as the record, but
what was delivered is compacted, and everything is written and read once more.
-/

namespace Malink.Gateway.JournalText

open Outbox Option

variable {V : Type} {json : JsonReader V} {protocol : Protocol V} {writer : JsonWriter json}

def outcomes : List JsString := ["succeeded","failed","rejected","interrupted"]

/-- What `isMlp3CommandTerminal` asks for. -/
structure ValidTerminal (json : JsonReader V) (protocol : Protocol V) (t : V) : Prop where
  isObject : json.isObject t
  outcome : ∃ v s, json.field t "outcome" = some v ∧ json.text v = some s ∧ s ∈ outcomes
  eventId : ∃ s, stringField json t "eventId" = some s ∧ s.truthy
  sessionId : ∀ v, json.field t "sessionId" = some v → (json.asString v).isSome
  code : ∀ v, json.field t "code" = some v → (json.asString v).isSome
  error : ∀ v, json.field t "error" = some v → (json.asString v).isSome
  reconciled : ∀ v, json.field t "reconciledOutcome" = some v → json.asString v = some ("cancelled" : JsString)
  retryable : ∀ v, json.field t "retryable" = some v → (json.asBoolean v).isSome
  event : ∀ v, json.field t "event" = some v → protocol.isTerminalEvent v

variable {name : JsString} {t v : V}

theorem isAbsentOr_iff {value : V} {kind : V → Bool} :
    isAbsentOr json value name kind ↔ ∀ v, json.field value name = some v → kind v := by
  rw [isAbsentOr,all_eq_true]

theorem isMlp3CommandTerminal_iff :
    isMlp3CommandTerminal json protocol t = some true ↔ ValidTerminal json protocol t := by
  have hundefined : ("undefined" : JsString) ∉ outcomes := by decide
  unfold isMlp3CommandTerminal
  constructor
  · intro h
    split at h
    · cases h
    · next ho =>
      obtain ⟨s,hs,h⟩ := map_eq_some_iff.mp h
      simp only [Bool.and_eq_true,decide_eq_true_eq,isAbsentOr_iff] at h
      obtain ⟨⟨⟨⟨⟨⟨⟨hmem,heventId⟩,hsessionId⟩,hcode⟩,herror⟩,hreconciled⟩,hretryable⟩,hevent⟩ := h
      refine ⟨by simpa using ho,?_,(any_eq_true _ _).mp heventId,hsessionId,hcode,herror,hreconciled,
        hretryable,hevent⟩
      cases hf : json.field t "outcome" with
      | none =>
        rw [hf] at hs
        cases hs
        exact absurd hmem hundefined
      | some v =>
        rw [hf] at hs
        exact ⟨v,s,rfl,hs,hmem⟩
  · intro h
    obtain ⟨v,s,hf,hs,hmem⟩ := h.outcome
    have heventId := (any_eq_true _ _).mpr h.eventId
    rw [if_neg (by simp [h.isObject])]
    simp only [hf,hs,map_some,some.injEq,Bool.and_eq_true,decide_eq_true_eq,isAbsentOr_iff]
    exact ⟨⟨⟨⟨⟨⟨⟨hmem,heventId⟩,h.sessionId⟩,h.code⟩,h.error⟩,h.reconciled⟩,h.retryable⟩,h.event⟩

namespace JsonWriter

variable (writer)

theorem rewritten_of_asString (h : (json.asString v).isSome) : writer.rewritten v = v := by
  obtain ⟨s,hs⟩ := isSome_iff_exists.mp h
  rw [writer.eq_string v s hs,writer.eq_string (writer.rewritten (writer.string s)) s]
  rw [writer.asString_rewritten,writer.asString_string]

theorem rewritten_of_asBoolean (h : (json.asBoolean v).isSome) : writer.rewritten v = v := by
  obtain ⟨b,hb⟩ := isSome_iff_exists.mp h
  rw [writer.eq_boolean v b hb,writer.eq_boolean (writer.rewritten (writer.boolean b)) b]
  rw [writer.asBoolean_rewritten,writer.asBoolean_boolean]

theorem stringField_rewritten (v : V) (name : JsString) :
    stringField json (writer.rewritten v) name = stringField json v name := by
  rw [stringField,stringField,writer.field_rewritten]
  cases json.field v name with
  | none => rfl
  | some w => exact writer.asString_rewritten w

theorem field_rewritten_string (h : ∀ w,json.field v name = some w → (json.asString w).isSome) :
    json.field (writer.rewritten v) name = json.field v name := by
  rw [writer.field_rewritten]
  cases hf : json.field v name with
  | none => rfl
  | some w => exact congrArg some (writer.rewritten_of_asString (h w hf))

theorem field_rewritten_boolean (h : ∀ w,json.field v name = some w → (json.asBoolean w).isSome) :
    json.field (writer.rewritten v) name = json.field v name := by
  rw [writer.field_rewritten]
  cases hf : json.field v name with
  | none => rfl
  | some w => exact congrArg some (writer.rewritten_of_asBoolean (h w hf))

end JsonWriter

theorem isSome_field_of_stringField (h : (stringField json v name).isSome) :
    ∀ w, json.field v name = some w → (json.asString w).isSome := by
  intro w hw
  rw [stringField,hw] at h
  exact h

variable (writer)

/-- A terminal is answered with as another one is, whose event is changed by `f`. -/
structure SameTerminal (f : V → V) (t t' : V) : Prop where
  outcome : json.field t' "outcome" = json.field t "outcome"
  eventId : json.field t' "eventId" = json.field t "eventId"
  event : json.field t' "event" = (json.field t "event").map f
  sessionId : json.field t' "sessionId" = json.field t "sessionId"
  code : ∀ v, json.field t "code" = some v → json.field t' "code" = some v
  error : ∀ v, json.field t "error" = some v → json.field t' "error" = some v
  reconciledOutcome : reconciledCommandOutcome writer t' = reconciledCommandOutcome writer t
  reconciledError : reconciledCommandError writer t' (reconciledCommandOutcome writer t') =
    reconciledCommandError writer t (reconciledCommandOutcome writer t)

variable {writer}

theorem SameTerminal.trans {f g : V → V} {t' t'' : V} (h : SameTerminal writer f t t')
    (h' : SameTerminal writer g t' t'') : SameTerminal writer (g ∘ f) t t'' where
  outcome := h'.outcome.trans h.outcome
  eventId := h'.eventId.trans h.eventId
  event := by rw [h'.event,h.event,map_map]
  sessionId := h'.sessionId.trans h.sessionId
  code v hv := h'.code v (h.code v hv)
  error v hv := h'.error v (h.error v hv)
  reconciledOutcome := h'.reconciledOutcome.trans h.reconciledOutcome
  reconciledError := h'.reconciledError.trans h.reconciledError

theorem payloadOf_rewritten (t : V) :
    payloadOf json (writer.rewritten t) = (payloadOf json t).map writer.rewritten := by
  rw [payloadOf,payloadOf,writer.field_rewritten]
  cases json.field t "event" with
  | none => rfl
  | some event => exact writer.field_rewritten event "payload"

theorem isCancelledTurn_rewritten (payload : Option V) :
    isCancelledTurn json (payload.map writer.rewritten) = isCancelledTurn json payload := by
  cases payload with
  | none => rfl
  | some payload =>
    simp only [isCancelledTurn,map_some,any_some,writer.stringField_rewritten]

section

variable (hv : ValidTerminal json protocol t)
include hv

theorem event_of_payloadOf {payload : V} (h : payloadOf json t = some payload) :
    ∃ event, protocol.isTerminalEvent event ∧ json.field event "payload" = some payload := by
  obtain ⟨event,hevent,hpayload⟩ := bind_eq_some_iff.mp h
  exact ⟨event,hv.event event hevent,hpayload⟩

theorem terminalError_rewritten (hl : protocol.Lawful writer) :
    terminalError writer (payloadOf json (writer.rewritten t)) =
      terminalError writer (payloadOf json t) := by
  rw [payloadOf_rewritten]
  cases hp : payloadOf json t with
  | none => rfl
  | some payload =>
    obtain ⟨event,hevent,hpayload⟩ := event_of_payloadOf hv hp
    simp only [terminalError,map_some,bind_some,writer.stringField_rewritten]
    split
    · next hfailed =>
      obtain ⟨hcode,hmessage⟩ := hl.failure event payload hevent hpayload (.inl hfailed)
      rw [writer.field_rewritten_string (isSome_field_of_stringField hcode),
        writer.field_rewritten_string (isSome_field_of_stringField hmessage)]
    · split
      · next hrejected =>
        obtain ⟨hcode,hmessage⟩ := hl.failure event payload hevent hpayload (.inr hrejected)
        have hretryable := hl.rejection event payload hevent hpayload hrejected
        rw [writer.field_rewritten_string (isSome_field_of_stringField hcode),
          writer.field_rewritten_string (isSome_field_of_stringField hmessage),
          writer.field_rewritten_boolean (fun w hw => by rw [hw] at hretryable; exact hretryable)]
      · rfl

theorem outcome_rewritten : json.field (writer.rewritten t) "outcome" = json.field t "outcome" := by
  obtain ⟨v,s,hf,hs,hmem⟩ := hv.outcome
  have hletters : ∀ s ∈ outcomes,∀ u ∈ s.units,97 ≤ u.toNat ∧ u.toNat ≤ 122 := by
    have hall : outcomes.all (fun s => s.units.all (fun u => 97 ≤ u.toNat && u.toNat ≤ 122)) := by
      decide
    intro s hs u hu
    simpa using List.all_eq_true.mp (List.all_eq_true.mp hall s hs) u hu
  rw [writer.field_rewritten,hf]
  exact congrArg some (writer.rewritten_of_finite v (writer.finite_of_text v s hs (hletters s hmem)))

theorem reconciledOutcome_isString : ∀ v, json.field t "reconciledOutcome" = some v → (json.asString v).isSome := by
  intro v h
  rw [hv.reconciled v h]
  rfl

theorem sameTerminal_rewritten (hl : protocol.Lawful writer) :
    SameTerminal writer writer.rewritten t (writer.rewritten t) := by
  have hcode := writer.field_rewritten_string hv.code
  have herror := writer.field_rewritten_string hv.error
  have hretryable := writer.field_rewritten_boolean hv.retryable
  have heventId := writer.field_rewritten_string (isSome_field_of_stringField
    (by obtain ⟨s,hs,-⟩ := hv.eventId; rw [hs]; rfl))
  have hreconciled : reconciledCommandOutcome writer (writer.rewritten t) = reconciledCommandOutcome writer t := by
    rw [reconciledCommandOutcome,reconciledCommandOutcome,payloadOf_rewritten,isCancelledTurn_rewritten,
      outcome_rewritten hv,writer.field_rewritten_string (reconciledOutcome_isString hv)]
  refine ⟨outcome_rewritten hv,heventId,writer.field_rewritten t "event",
    writer.field_rewritten_string hv.sessionId,fun v h => hcode.trans h,fun v h => herror.trans h,hreconciled,?_⟩
  rw [hreconciled,reconciledCommandError,reconciledCommandError,terminalError_rewritten hv hl,hcode,herror,hretryable]

theorem ValidTerminal.rewritten (hl : protocol.Lawful writer) :
    ValidTerminal json protocol (writer.rewritten t) where
  isObject := (writer.isObject_rewritten t).trans hv.isObject
  outcome := by
    rw [outcome_rewritten hv]
    exact hv.outcome
  eventId := by
    rw [writer.stringField_rewritten]
    exact hv.eventId
  sessionId v h := hv.sessionId v (writer.field_rewritten_string hv.sessionId ▸ h)
  code v h := hv.code v (writer.field_rewritten_string hv.code ▸ h)
  error v h := hv.error v (writer.field_rewritten_string hv.error ▸ h)
  reconciled v h := hv.reconciled v (writer.field_rewritten_string (reconciledOutcome_isString hv) ▸ h)
  retryable v h := hv.retryable v (writer.field_rewritten_boolean hv.retryable ▸ h)
  event v h := by
    rw [writer.field_rewritten] at h
    obtain ⟨event,hevent,rfl⟩ := map_eq_some_iff.mp h
    exact hl.isTerminalEvent_rewritten event (hv.event event hevent)

end

theorem field_compact {o : Option V} (h : (name,o) ∈ compactMembers writer t) :
    json.field (compactDeliveredTerminal writer t) name = o :=
  writer.field_object (compactMembers writer t) name o
    (show [("outcome" : JsString),"eventId","event","sessionId","code","error","reconciledOutcome",
      "retryable"].Nodup by decide) h

section compact

variable (writer) (t : V)

theorem outcome_compact : json.field (compactDeliveredTerminal writer t) "outcome" = json.field t "outcome" :=
  field_compact (by simp [compactMembers])

theorem eventId_compact : json.field (compactDeliveredTerminal writer t) "eventId" = json.field t "eventId" :=
  field_compact (by simp [compactMembers])

theorem event_compact : json.field (compactDeliveredTerminal writer t) "event" = json.field t "event" :=
  field_compact (by simp [compactMembers])

theorem sessionId_compact : json.field (compactDeliveredTerminal writer t) "sessionId" = json.field t "sessionId" :=
  field_compact (by simp [compactMembers])

theorem code_compact : json.field (compactDeliveredTerminal writer t) "code" = (json.field t "code").or
      ((terminalError writer (payloadOf json t)).bind TerminalError.code) :=
  field_compact (by simp [compactMembers])

theorem error_compact : json.field (compactDeliveredTerminal writer t) "error" =
    (json.field t "error").or ((terminalError writer (payloadOf json t)).bind TerminalError.message) :=
  field_compact (by simp [compactMembers])

theorem reconciledOutcome_compact : json.field (compactDeliveredTerminal writer t) "reconciledOutcome" =
    if isCancelledTurn json (payloadOf json t) then some (writer.string "cancelled")
    else ((stringField json t "reconciledOutcome").filter JsString.truthy).map writer.string :=
  field_compact (by simp [compactMembers])

theorem retryable_compact : json.field (compactDeliveredTerminal writer t) "retryable" =
    ((terminalError writer (payloadOf json t)).map TerminalError.retryable).getD
      (json.field t "retryable") :=
  field_compact (by simp [compactMembers])

theorem payloadOf_compact : payloadOf json (compactDeliveredTerminal writer t) = payloadOf json t := by
  rw [payloadOf,event_compact,payloadOf]

end compact

section

variable (hv : ValidTerminal json protocol t)
include hv

theorem reconciled_member (writer : JsonWriter json) :
    ((stringField json t "reconciledOutcome").filter JsString.truthy).map writer.string =
      json.field t "reconciledOutcome" := by
  rw [stringField]
  cases hf : json.field t "reconciledOutcome" with
  | none => rfl
  | some v =>
    have hs := hv.reconciled v hf
    rw [bind_some,hs,writer.eq_string v _ hs]
    rfl

/-- The failure of a valid terminal has a code and a message, and says whether to retry. -/
theorem terminalError_valid (hl : protocol.Lawful writer)
    {error : TerminalError V} (h : terminalError writer (payloadOf json t) = some error) :
    (∃ v,error.code = some v ∧ (json.asString v).isSome) ∧
      (∃ v,error.message = some v ∧ (json.asString v).isSome) ∧
      ∃ v, error.retryable = some v ∧ (json.asBoolean v).isSome := by
  have hstring {payload : V} {name : JsString} (hs : (stringField json payload name).isSome) :
      ∃ v, json.field payload name = some v ∧ (json.asString v).isSome := by
    obtain ⟨s,hs⟩ := isSome_iff_exists.mp hs
    obtain ⟨v,hf,hv⟩ := bind_eq_some_iff.mp hs
    exact ⟨v,hf,by rw [hv]; rfl⟩
  obtain ⟨payload,hp,h⟩ := bind_eq_some_iff.mp h
  obtain ⟨event,hevent,hpayload⟩ := event_of_payloadOf hv hp
  split at h
  · next hfailed =>
    cases h
    obtain ⟨hcode,hmessage⟩ := hl.failure event payload hevent hpayload (.inl hfailed)
    exact ⟨hstring hcode,hstring hmessage,_,rfl,by rw [writer.asBoolean_boolean]; rfl⟩
  · split at h
    · next hrejected =>
      cases h
      obtain ⟨hcode,hmessage⟩ := hl.failure event payload hevent hpayload (.inr hrejected)
      have hretryable := hl.rejection event payload hevent hpayload hrejected
      obtain ⟨b,hb⟩ := isSome_iff_exists.mp hretryable
      obtain ⟨v,hf,hv⟩ := bind_eq_some_iff.mp hb
      exact ⟨hstring hcode,hstring hmessage,v,hf,by rw [hv]; rfl⟩
    · cases h

theorem ValidTerminal.compact (hl : protocol.Lawful writer) :
    ValidTerminal json protocol (compactDeliveredTerminal writer t) where
  isObject := writer.isObject_object _
  outcome := by
    rw [outcome_compact]
    exact hv.outcome
  eventId := by
    rw [stringField,eventId_compact]
    exact hv.eventId
  sessionId v h := hv.sessionId v ((sessionId_compact writer t).symm.trans h)
  code v h := by
    rw [code_compact,or_eq_some_iff] at h
    rcases h with h | ⟨-,h⟩
    · exact hv.code v h
    · obtain ⟨error,he,h⟩ := bind_eq_some_iff.mp h
      obtain ⟨⟨w,hw,hs⟩,-,-⟩ := terminalError_valid hv hl he
      rw [h] at hw
      cases hw
      exact hs
  error v h := by
    rw [error_compact,or_eq_some_iff] at h
    rcases h with h | ⟨-,h⟩
    · exact hv.error v h
    · obtain ⟨error,he,h⟩ := bind_eq_some_iff.mp h
      obtain ⟨-,⟨w,hw,hs⟩,-⟩ := terminalError_valid hv hl he
      rw [h] at hw
      cases hw
      exact hs
  reconciled v h := by
    rw [reconciledOutcome_compact,reconciled_member hv writer] at h
    split at h
    · cases h
      exact writer.asString_string _
    · exact hv.reconciled v h
  retryable v h := by
    rw [retryable_compact] at h
    cases he : terminalError writer (payloadOf json t) with
    | none =>
      rw [he] at h
      exact hv.retryable v h
    | some error =>
      rw [he] at h
      obtain ⟨-,-,w,hw,hb⟩ := terminalError_valid hv hl he
      rw [show error.retryable = some v from h] at hw
      cases hw
      exact hb
  event v h := hv.event v ((event_compact writer t).symm.trans h)

theorem reconciledCommandOutcome_compact :
    reconciledCommandOutcome writer (compactDeliveredTerminal writer t) = reconciledCommandOutcome writer t := by
  rw [reconciledCommandOutcome,reconciledCommandOutcome,reconciledOutcome_compact,payloadOf_compact,
    outcome_compact,reconciled_member hv writer]
  split
  · cases hf : json.field t "reconciledOutcome" with
    | none => rfl
    | some v => rw [writer.eq_string v _ (hv.reconciled v hf),some_or]
  · rfl

theorem sameTerminal_compact : SameTerminal writer id t (compactDeliveredTerminal writer t) where
  outcome := outcome_compact writer t
  eventId := eventId_compact writer t
  event := (event_compact writer t).trans (congrFun map_id _).symm
  sessionId := sessionId_compact writer t
  code v h := by rw [code_compact,h,some_or]
  error v h := by rw [error_compact,h,some_or]
  reconciledOutcome := reconciledCommandOutcome_compact hv
  reconciledError := by
    rw [reconciledCommandOutcome_compact hv,reconciledCommandError,reconciledCommandError,payloadOf_compact,
      code_compact,error_compact,retryable_compact]
    cases terminalError writer (payloadOf json t) with
    | some error => rfl
    | none => simp only [bind_none,or_none,map_none,getD_none]

theorem compact_compact (hl : protocol.Lawful writer) :
    compactDeliveredTerminal writer (compactDeliveredTerminal writer t) = compactDeliveredTerminal writer t := by
  have hreconciled := reconciled_member (hv.compact hl) writer
  refine congrArg writer.object ?_
  rw [compactMembers,compactMembers]
  simp only [payloadOf_compact,outcome_compact,eventId_compact,event_compact,sessionId_compact,code_compact,
    error_compact,retryable_compact,hreconciled,Option.or_assoc,Option.or_self]
  cases terminalError writer (payloadOf json t) with
  | some | none =>
    simp only [reconciledOutcome_compact]
    split <;> rfl

end

end Malink.Gateway.JournalText
