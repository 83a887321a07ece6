import Malink.JsonText

/-!
# Deliveries and records of the Matrix outbox

One record is one line of the write-ahead log.
-/

namespace Malink.Outbox

open Option

inductive DeliveryPriority
  | urgent | control | normal | bulk
  deriving DecidableEq, Repr

structure Supersession where
  key : JsString
  version : ℕ
  deriving DecidableEq, Repr

structure DeliveryMetadata where
  priority : Option DeliveryPriority
  supersession : Option Supersession
  deriving DecidableEq, Repr

structure EventDelivery where
  deliveryId : JsString
  roomId : JsString
  transactionId : JsString
  content : List (JsString × Json)
  createdAt : ℤ
  priority : Option DeliveryPriority := none
  supersession : Option Supersession := none
  deriving DecidableEq, Repr

structure StateDelivery where
  deliveryId : JsString
  roomId : JsString
  eventType : JsString
  stateKey : JsString
  content : List (JsString × Json)
  createdAt : ℤ
  deriving DecidableEq, Repr

inductive Delivery
  | event (d : EventDelivery)
  | state (d : StateDelivery)
  deriving DecidableEq, Repr

namespace Delivery

def deliveryId : Delivery → JsString
  | event d => d.deliveryId
  | state d => d.deliveryId

def roomId : Delivery → JsString
  | event d => d.roomId
  | state d => d.roomId

def createdAt : Delivery → ℤ
  | event d => d.createdAt
  | state d => d.createdAt

def supersession : Delivery → Option Supersession
  | event d => d.supersession
  | state _ => none

end Delivery

/-- State writes and urgent events go first. -/
def deliveryPriority : Delivery → ℕ
  | .state _ => 0
  | .event d => match d.priority with
    | some .urgent => 0
    | some .control => 1
    | some .bulk => 3
    | some .normal | none => 2

def withMetadata (d : EventDelivery) (m : DeliveryMetadata) : EventDelivery :=
  { d with priority := m.priority <|> d.priority, supersession := m.supersession <|> d.supersession }

def metadataFor (d : EventDelivery) : DeliveryMetadata := ⟨d.priority,d.supersession⟩

def sameMetadata (d d' : EventDelivery) : Bool :=
  d.priority = d'.priority && d.supersession.map (·.key) = d'.supersession.map (·.key)
    && d.supersession.map (·.version) = d'.supersession.map (·.version)

/-- The four records of the log, all of version 3. -/
inductive OutboxEntry
  | pending (delivery : Delivery)
  | delivered (deliveryId eventId : JsString) (deliveredAt : ℤ)
  | superseded (deliveryId : JsString) (supersededAt : ℤ) (reason : Option JsString)
  | classified (deliveryId : JsString) (metadata : DeliveryMetadata) (classifiedAt : ℤ)
  deriving DecidableEq, Repr

/-- A member in front of the others, left out when it is undefined. -/
def optional (name : JsString) (v : Option Json) (ms : List (JsString × Json)) :
    List (JsString × Json) :=
  match v with
  | none => ms
  | some v => (name,v) :: ms

def DeliveryPriority.toJson : DeliveryPriority → Json
  | urgent => .str "urgent"
  | control => .str "control"
  | normal => .str "normal"
  | bulk => .str "bulk"

def Supersession.toJson (s : Supersession) : Json := .obj [("key",.str s.key),("version",.num s.version)]

def DeliveryMetadata.toJson (m : DeliveryMetadata) : Json :=
  .obj (optional "priority" (m.priority.map DeliveryPriority.toJson)
    (optional "supersession" (m.supersession.map Supersession.toJson) []))

def Delivery.toJson : Delivery → Json
  | event d => .obj (("kind",.str "event") :: ("roomId",.str d.roomId) ::
      ("transactionId",.str d.transactionId) :: ("content",.obj d.content) ::
      ("createdAt",.num d.createdAt) :: ("deliveryId",.str d.deliveryId) ::
      optional "priority" (d.priority.map DeliveryPriority.toJson)
        (optional "supersession" (d.supersession.map Supersession.toJson) []))
  | state d => .obj [("kind",.str "state"),("roomId",.str d.roomId),
      ("eventType",.str d.eventType),("stateKey",.str d.stateKey),("content",.obj d.content),
      ("createdAt",.num d.createdAt),("deliveryId",.str d.deliveryId)]

def OutboxEntry.members : OutboxEntry → List (JsString × Json)
  | pending d => [("version",.num 3),("status",.str "pending"),("delivery",d.toJson)]
  | delivered id eventId at' => [("version",.num 3),("status",.str "delivered"),
      ("deliveryId",.str id),("eventId",.str eventId),("deliveredAt",.num at')]
  | superseded id at' reason => ("version",.num 3) :: ("status",.str "superseded") ::
      ("deliveryId",.str id) :: ("supersededAt",.num at') ::
      optional "reason" (reason.map .str) []
  | classified id m at' => [("version",.num 3),("status",.str "classified"),
      ("deliveryId",.str id),("metadata",m.toJson),("classifiedAt",.num at')]

def OutboxEntry.toJson (e : OutboxEntry) : Json := .obj e.members

def isSafeInteger (n : ℤ) : Bool := -9007199254740991 ≤ n && n ≤ 9007199254740991

def asString : Json → Option JsString
  | .str s => some s
  | _ => none

def asSafeInteger : Json → Option ℤ
  | .num n => if isSafeInteger n then some n else none
  | _ => none

def asRecord : Json → Option (List (JsString × Json))
  | .obj ms => some ms
  | _ => none

/-- A field that may be absent, and is checked when it is there. -/
def readOptional {α : Type} (read : Json → Option α) : Option Json → Option (Option α)
  | none => some none
  | some v => (read v).map some

def readPriority : Json → Option DeliveryPriority
  | .str s =>
    if s = "urgent" then some .urgent else if s = "control" then some .control
    else if s = "normal" then some .normal else if s = "bulk" then some .bulk else none
  | _ => none

def readSupersession (v : Json) : Option Supersession := do
  let key ← v.field "key" >>= asString
  let version ← v.field "version" >>= asSafeInteger
  if key.truthy && 0 ≤ version then some ⟨key,version.toNat⟩ else none

def readMetadata (v : Json) : Option DeliveryMetadata := do
  let _ ← asRecord v
  let priority ← readOptional readPriority (v.field "priority")
  let supersession ← readOptional readSupersession (v.field "supersession")
  some ⟨priority,supersession⟩

def readDelivery (v : Json) : Option Delivery := do
  let kind ← v.field "kind" >>= asString
  let deliveryId ← v.field "deliveryId" >>= asString
  let roomId ← v.field "roomId" >>= asString
  let content ← v.field "content" >>= asRecord
  let createdAt ← v.field "createdAt" >>= asSafeInteger
  if kind = "event" then do
    let transactionId ← v.field "transactionId" >>= asString
    let priority ← readOptional readPriority (v.field "priority")
    let supersession ← readOptional readSupersession (v.field "supersession")
    some (.event ⟨deliveryId,roomId,transactionId,content,createdAt,priority,supersession⟩)
  else if kind = "state" then do
    let eventType ← v.field "eventType" >>= asString
    let stateKey ← v.field "stateKey" >>= asString
    some (.state ⟨deliveryId,roomId,eventType,stateKey,content,createdAt⟩)
  else none

/-- One record, or the refusal that makes the reader throw. -/
def parseEntry (v : Json) : Option OutboxEntry := do
  if v.field "version" ≠ some (.num 3) then none
  else
    let status ← v.field "status" >>= asString
    if status = "pending" then (v.field "delivery" >>= readDelivery).map .pending
    else do
      let deliveryId ← v.field "deliveryId" >>= asString
      if status = "classified" then do
        let classifiedAt ← v.field "classifiedAt" >>= asSafeInteger
        let metadata ← v.field "metadata" >>= readMetadata
        some (.classified deliveryId metadata classifiedAt)
      else if status = "delivered" then do
        let eventId ← v.field "eventId" >>= asString
        let deliveredAt ← v.field "deliveredAt" >>= asSafeInteger
        some (.delivered deliveryId eventId deliveredAt)
      else if status = "superseded" then do
        let supersededAt ← v.field "supersededAt" >>= asSafeInteger
        let reason ← readOptional asString (v.field "reason")
        some (.superseded deliveryId supersededAt reason)
      else none

def Supersession.readable (s : Supersession) : Bool := s.key.truthy && isSafeInteger s.version

def DeliveryMetadata.readable (m : DeliveryMetadata) : Bool := m.supersession.all Supersession.readable

def Delivery.readable (d : Delivery) : Bool := isSafeInteger d.createdAt && d.supersession.all Supersession.readable

def OutboxEntry.readable : OutboxEntry → Bool
  | pending d => d.readable
  | delivered _ _ at' => isSafeInteger at'
  | superseded _ at' _ => isSafeInteger at'
  | classified _ m at' => isSafeInteger at' && m.readable

theorem readPriority_toJson (p : DeliveryPriority) : readPriority p.toJson = some p := by
  cases p <;> rfl

theorem readSupersession_toJson (s : Supersession) :
    readSupersession s.toJson = if s.readable then some s else none := by
  have hkey : s.toJson.field "key" = some (.str s.key) := rfl
  have hversion : s.toJson.field "version" = some (.num s.version) := rfl
  simp only [readSupersession,hkey,hversion,asString,asSafeInteger,Supersession.readable,bind_eq_bind,bind_some]
  by_cases hk : s.key.truthy = true <;> by_cases hv : isSafeInteger s.version = true <;> simp [hk,hv]

theorem readOptional_priority (p : Option DeliveryPriority) :
    readOptional readPriority (p.map DeliveryPriority.toJson) = some p := by
  cases p <;> simp [readOptional,readPriority_toJson]

theorem readOptional_supersession (s : Option Supersession) :
    readOptional readSupersession (s.map Supersession.toJson) =
      if s.all Supersession.readable then some s else none := by
  cases s with
  | none => rfl
  | some s =>
    simp only [map_some,readOptional,readSupersession_toJson,all_some]
    split <;> rfl

theorem readMetadata_toJson (m : DeliveryMetadata) :
    readMetadata m.toJson = if m.readable then some m else none := by
  have hpriority : m.toJson.field "priority" = m.priority.map DeliveryPriority.toJson := by
    obtain ⟨p,s⟩ := m
    cases p <;> cases s <;> rfl
  have hsupersession : m.toJson.field "supersession" = m.supersession.map Supersession.toJson := by
    obtain ⟨p,s⟩ := m
    cases p <;> cases s <;> rfl
  have hrecord : asRecord m.toJson = some _ := rfl
  simp only [readMetadata,hrecord,hpriority,hsupersession,readOptional_priority,
    readOptional_supersession,DeliveryMetadata.readable,bind_eq_bind,bind_some]
  by_cases hs : m.supersession.all Supersession.readable = true <;> simp [hs]

private theorem field_eventToJson (d : EventDelivery) : (Delivery.event d).toJson.field "kind" = some (.str "event") ∧
    (Delivery.event d).toJson.field "deliveryId" = some (.str d.deliveryId) ∧
    (Delivery.event d).toJson.field "roomId" = some (.str d.roomId) ∧
    (Delivery.event d).toJson.field "transactionId" = some (.str d.transactionId) ∧
    (Delivery.event d).toJson.field "content" = some (.obj d.content) ∧
    (Delivery.event d).toJson.field "createdAt" = some (.num d.createdAt) ∧
    (Delivery.event d).toJson.field "priority" = d.priority.map DeliveryPriority.toJson ∧
    (Delivery.event d).toJson.field "supersession" = d.supersession.map Supersession.toJson := by
  obtain ⟨id,room,transaction,content,createdAt,p,s⟩ := d
  cases p <;> cases s <;> exact ⟨rfl,rfl,rfl,rfl,rfl,rfl,rfl,rfl⟩

private theorem field_stateToJson (d : StateDelivery) : (Delivery.state d).toJson.field "kind" = some (.str "state") ∧
    (Delivery.state d).toJson.field "deliveryId" = some (.str d.deliveryId) ∧
    (Delivery.state d).toJson.field "roomId" = some (.str d.roomId) ∧
    (Delivery.state d).toJson.field "eventType" = some (.str d.eventType) ∧
    (Delivery.state d).toJson.field "stateKey" = some (.str d.stateKey) ∧
    (Delivery.state d).toJson.field "content" = some (.obj d.content) ∧
    (Delivery.state d).toJson.field "createdAt" = some (.num d.createdAt) :=
  ⟨rfl,rfl,rfl,rfl,rfl,rfl,rfl⟩

theorem readDelivery_toJson (d : Delivery) :
    readDelivery d.toJson = if d.readable then some d else none := by
  cases d with
  | event d =>
    obtain ⟨hkind,hid,hroom,htransaction,hcontent,hat,hp,hs⟩ := field_eventToJson d
    simp only [readDelivery,hkind,hid,hroom,htransaction,hcontent,hat,hp,hs,asString,asRecord,
      asSafeInteger,readOptional_priority,readOptional_supersession,bind_eq_bind,
      bind_some,if_true,Delivery.readable,Delivery.createdAt,Delivery.supersession]
    by_cases hc : isSafeInteger d.createdAt = true <;>
      by_cases hr : d.supersession.all Supersession.readable = true <;> simp [hc,hr]
  | state d =>
    obtain ⟨hkind,hid,hroom,htype,hkey,hcontent,hat⟩ := field_stateToJson d
    have hne : ¬ ("state" : JsString) = "event" := by decide
    simp only [readDelivery,hkind,hid,hroom,htype,hkey,hcontent,hat,asString,asRecord,
      asSafeInteger,bind_eq_bind,bind_some,hne,if_true,if_false,Delivery.readable,
      Delivery.createdAt,Delivery.supersession]
    by_cases hc : isSafeInteger d.createdAt = true <;> simp [hc]

/-- The reader returns the record that was written, or refuses it. -/
theorem parseEntry_toJson (e : OutboxEntry) :
    parseEntry e.toJson = if e.readable then some e else none := by
  have hversion : e.toJson.field "version" = some (.num 3) := by
    rcases e with _ | _ | ⟨_,_,_ | _⟩ | _ <;> rfl
  unfold parseEntry
  rw [if_neg (not_not_intro hversion)]
  cases e with
  | pending d =>
    have hstatus : (OutboxEntry.pending d).toJson.field "status" = some (.str "pending") := rfl
    have hdelivery : (OutboxEntry.pending d).toJson.field "delivery" = some d.toJson := rfl
    simp only [hstatus,hdelivery,asString,bind_eq_bind,bind_some,if_true,readDelivery_toJson,OutboxEntry.readable]
    by_cases hd : d.readable = true <;> simp [hd]
  | delivered id eventId at' =>
    have hstatus : (OutboxEntry.delivered id eventId at').toJson.field "status" =
      some (.str "delivered") := rfl
    have hid : (OutboxEntry.delivered id eventId at').toJson.field "deliveryId" = some (.str id) := rfl
    have heventId : (OutboxEntry.delivered id eventId at').toJson.field "eventId" =
      some (.str eventId) := rfl
    have hat : (OutboxEntry.delivered id eventId at').toJson.field "deliveredAt" =
      some (.num at') := rfl
    simp +decide only [hstatus,hid,heventId,hat,asString,asSafeInteger,bind_eq_bind,
      bind_some,if_true,if_false,OutboxEntry.readable]
    by_cases hat' : isSafeInteger at' = true <;> simp [hat']
  | superseded id at' reason =>
    have hstatus : (OutboxEntry.superseded id at' reason).toJson.field "status" =
      some (.str "superseded") := by cases reason <;> rfl
    have hid : (OutboxEntry.superseded id at' reason).toJson.field "deliveryId" =
      some (.str id) := by cases reason <;> rfl
    have hat : (OutboxEntry.superseded id at' reason).toJson.field "supersededAt" =
      some (.num at') := by cases reason <;> rfl
    have hreason : (OutboxEntry.superseded id at' reason).toJson.field "reason" =
      reason.map .str := by cases reason <;> rfl
    simp +decide only [hstatus,hid,hat,hreason,asString,asSafeInteger,bind_eq_bind,
      bind_some,if_true,if_false,OutboxEntry.readable]
    by_cases hat' : isSafeInteger at' = true <;> cases reason <;> simp [hat',readOptional,asString]
  | classified id m at' =>
    have hstatus : (OutboxEntry.classified id m at').toJson.field "status" =
      some (.str "classified") := rfl
    have hid : (OutboxEntry.classified id m at').toJson.field "deliveryId" = some (.str id) := rfl
    have hmetadata : (OutboxEntry.classified id m at').toJson.field "metadata" = some m.toJson := rfl
    have hat : (OutboxEntry.classified id m at').toJson.field "classifiedAt" =
      some (.num at') := rfl
    simp +decide only [hstatus,hid,hmetadata,hat,asString,asSafeInteger,bind_eq_bind,
      bind_some,if_true,if_false,OutboxEntry.readable,readMetadata_toJson]
    by_cases hat' : isSafeInteger at' = true <;> by_cases hm : m.readable = true <;> simp [hat',hm]

end Malink.Outbox
