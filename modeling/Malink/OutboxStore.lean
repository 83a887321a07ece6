import Malink.InsertionMaps
import Malink.OutboxWal

/-!
# The Matrix outbox

An operation runs alone, and every record is on disk before the memory follows. So it is modelled by its commits: each
durable write with the memory once it has returned.
-/

namespace Malink.Outbox

structure Memory where
  pendingEntries : InsertionMap JsString Delivery
  deliveries : InsertionMap JsString Delivery
  /-- Delivered with its Matrix event ID, or superseded. -/
  terminal : InsertionMap JsString (Option JsString)
  walBytes : ℕ
  entriesSinceCompaction : ℕ
  deriving DecidableEq

structure Options where
  compactAfterBytes : ℕ := 8 * 1024 * 1024
  compactAfterEntries : ℕ := 10000

/-- A reading of the system clock, which is always a safe integer. -/
structure Timestamp where
  ms : ℤ
  safe : isSafeInteger ms

inductive Write
  | append (entries : List OutboxEntry)
  | replace (entries : List OutboxEntry)

structure Commit where
  write : Write
  after : Memory

/-- The log on disk; `none` while no file exists. -/
abbrev WalFile := Option (List Char)

def Write.apply (file : WalFile) : Write → WalFile
  | append es => some (file.getD [] ++ encodeEntries es)
  | replace es => some (encodeEntries es)

namespace Memory

def empty : Memory := ⟨.empty,.empty,.empty,0,0⟩

/-- The bookkeeping of `appendMany` after its write. -/
def appended (m : Memory) (es : List OutboxEntry) : Memory :=
  { m with
    walBytes := m.walBytes + byteLength (encodeEntries es)
    entriesSinceCompaction := m.entriesSinceCompaction + es.length }

def store (m : Memory) (d : Delivery) : Memory :=
  { m with
    deliveries := m.deliveries.set d.deliveryId d
    pendingEntries := m.pendingEntries.set d.deliveryId d }

def finish (m : Memory) (deliveryId : JsString) (eventId : Option JsString) : Memory :=
  { m with
    pendingEntries := m.pendingEntries.delete deliveryId
    terminal := m.terminal.set deliveryId eventId }

def deliveredEventId (m : Memory) (deliveryId : JsString) : Option JsString := (m.terminal.get deliveryId).join

def isPending (m : Memory) (deliveryId : JsString) : Bool := m.pendingEntries.has deliveryId

def pending (m : Memory) (roomId : Option JsString) : List Delivery :=
  (m.pendingEntries.values.filter (fun d => roomId.all (fun r => d.roomId = r))).mergeSort
    (fun l r => deliveryPriority l < deliveryPriority r ||
      (deliveryPriority l = deliveryPriority r && l.createdAt ≤ r.createdAt))

/-- The Matrix event ID of a delivery; an empty one counts as none. -/
def receipt (m : Memory) (deliveryId : JsString) : Option JsString :=
  (m.deliveredEventId deliveryId).filter JsString.truthy

def isDelivered (m : Memory) (deliveryId : JsString) : Bool := (m.receipt deliveryId).isSome

/-- Still an authoritative retry target: pending, or delivered. -/
def survives (m : Memory) (deliveryId : JsString) : Bool :=
  m.isPending deliveryId || m.isDelivered deliveryId

end Memory

def isStateOf (roomId eventType stateKey : JsString) : Delivery → Option StateDelivery
  | .event _ => none
  | .state d =>
    if d.roomId = roomId ∧ d.eventType = eventType ∧ d.stateKey = stateKey then some d else none

/-- The later of two entries that were written at the same time wins. -/
def laterState (latest : Option StateDelivery) (d : StateDelivery) : Option StateDelivery :=
  match latest with
  | none => some d
  | some l => if l.createdAt ≤ d.createdAt then some d else some l

def Memory.latestState (m : Memory) (roomId eventType stateKey : JsString) : Option StateDelivery :=
  m.deliveries.values.foldl (fun latest delivery =>
    match isStateOf roomId eventType stateKey delivery with
    | none => latest
    | some d => if m.survives d.deliveryId then laterState latest d else latest) none

def stateIndex (d : StateDelivery) : JsString :=
  d.roomId ++ ("\x00" : JsString) ++ d.eventType ++ ("\x00" : JsString) ++ d.stateKey

def keepLatest (latest : InsertionMap JsString StateDelivery) :
    Delivery → InsertionMap JsString StateDelivery
  | .event _ => latest
  | .state d => match latest.get (stateIndex d) with
    | none => latest.set (stateIndex d) d
    | some current =>
      if current.createdAt < d.createdAt then latest.set (stateIndex d) d else latest

def latestStates (m : Memory) : InsertionMap JsString StateDelivery := m.deliveries.values.foldl keepLatest .empty

def addToSet (ids : List JsString) (id : JsString) : List JsString :=
  if id ∈ ids then ids else ids ++ [id]

def retainedDeliveryIds (m : Memory) : List JsString :=
  ((latestStates m).values.map (·.deliveryId)).foldl addToSet m.pendingEntries.keys

def terminalEntry (compactedAt : ℤ) (e : JsString × Option JsString) : OutboxEntry :=
  match e.2 with
  | none => .superseded e.1 compactedAt (some "compacted_terminal")
  | some eventId =>
    if eventId.truthy then .delivered e.1 eventId compactedAt
    else .superseded e.1 compactedAt (some "compacted_terminal")

def compactedEntries (m : Memory) (compactedAt : Timestamp) : List OutboxEntry :=
  (retainedDeliveryIds m).filterMap (fun id => (m.deliveries.get id).map .pending) ++
    m.terminal.entries.map (terminalEntry compactedAt.ms)

/-- The temporary file takes the place of the log in one rename. -/
def compact (m : Memory) (compactedAt : Timestamp) : Commit where
  write := .replace (compactedEntries m compactedAt)
  after := { m with
    deliveries := m.deliveries.filter (fun id _ => id ∈ retainedDeliveryIds m)
    walBytes := byteLength (encodeEntries (compactedEntries m compactedAt))
    entriesSinceCompaction := 0 }

def compactIfNeeded (o : Options) (m : Memory) (compactedAt : Timestamp) : List Commit :=
  if m.walBytes < o.compactAfterBytes ∧ m.entriesSinceCompaction < o.compactAfterEntries then []
  else [compact m compactedAt]

def loadEntry (m : Memory) : OutboxEntry → Memory
  | .pending d => { m with
      deliveries := m.deliveries.set d.deliveryId d
      pendingEntries := if m.terminal.has d.deliveryId then m.pendingEntries
        else m.pendingEntries.set d.deliveryId d }
  | .classified deliveryId metadata _ => match m.deliveries.get deliveryId with
    | some (.event d) => { m with
        deliveries := m.deliveries.set deliveryId (.event (withMetadata d metadata))
        pendingEntries := if m.pendingEntries.has deliveryId
          then m.pendingEntries.set deliveryId (.event (withMetadata d metadata))
          else m.pendingEntries }
    | _ => m
  | .delivered deliveryId eventId _ => m.finish deliveryId (some eventId)
  | .superseded deliveryId _ _ => m.finish deliveryId none

def loadLines (m : Memory) : List (List Char) → Option Memory
  | [] => some m
  | line :: lines =>
    if isBlank line then loadLines m lines
    else match readLine line with
      | none => none
      | some e => loadLines (loadEntry m e) lines

/-- A fresh instance over the file, or the error that the start throws. -/
def initializeFrom (o : Options) (loadedAt : Timestamp) : WalFile → Option (Memory × List Commit)
  | none => some (.empty,[])
  | some text =>
    (loadLines { Memory.empty with walBytes := byteLength text } (splitLines text)).map fun m =>
      (m,if o.compactAfterBytes ≤ byteLength text ∨
            o.compactAfterEntries ≤ (splitLines text).countP (fun line => !isBlank line)
          then [compact m loadedAt] else [])

def lastMemory (m : Memory) (cs : List Commit) : Memory := (cs.getLast?.map Commit.after).getD m

def appendEntry (m : Memory) (e : OutboxEntry) (follow : Memory → Memory) : Commit :=
  ⟨.append [e],follow (m.appended [e])⟩

def supersede (m : Memory) (deliveryId : JsString) (supersededAt : ℤ) (reason : Option JsString) :
    Commit :=
  appendEntry m (.superseded deliveryId supersededAt
    ((reason.filter JsString.truthy).map (fun r => r.take 512))) (fun m => m.finish deliveryId none)

/-- The loop that supersedes the older candidates, one append for each. -/
def supersedeAll (m : Memory) (supersededAt : ℤ) (reason : Option JsString) :
    List JsString → List Commit
  | [] => []
  | id :: ids =>
    let c := supersede m id supersededAt reason
    c :: supersedeAll c.after supersededAt reason ids

/-- The pending deliveries that a staged one replaces. -/
def olderCandidate (d candidate : Delivery) : Bool :=
  match d, candidate with
  | .state d, .state c => c.roomId = d.roomId && c.eventType = d.eventType && c.stateKey = d.stateKey
  | .event d, .event c => match d.supersession, c.supersession with
    | some s, some t => c.roomId = d.roomId && t.key = s.key && t.version < s.version
    | _, _ => false
  | _, _ => false

def newerCandidate (d candidate : Delivery) : Bool :=
  match d, candidate with
  | .event d, .event c => match d.supersession, c.supersession with
    | some s, some t => c.roomId = d.roomId && t.key = s.key && s.version < t.version
    | _, _ => false
  | _, _ => false

def older (m : Memory) (d : Delivery) : List JsString :=
  (m.pendingEntries.values.filter (olderCandidate d)).map Delivery.deliveryId

def obsoleteOnArrival (m : Memory) (d : Delivery) : Bool := m.pendingEntries.values.any (newerCandidate d)

def olderReason (d : Delivery) : JsString :=
  match d.supersession with
  | some s => ("newer_logical_version:" : JsString) ++ s.key
  | none => "newer_state"

def obsoleteReason (d : Delivery) : JsString :=
  ("obsolete_logical_version:" : JsString) ++ ((d.supersession.map Supersession.key).getD "")

/-- An empty supersession key counts as no obsolescence. -/
def supersedesItself (m : Memory) (d : Delivery) : Bool :=
  obsoleteOnArrival m d && d.supersession.any (fun s => s.key.truthy)

def stage (o : Options) (m : Memory) (d : Delivery) (compactedAt : Timestamp) :
    List JsString × List Commit :=
  if m.pendingEntries.has d.deliveryId || m.terminal.has d.deliveryId then ([],[])
  else
    let olds := supersedeAll m d.createdAt (some (olderReason d)) (older m d)
    let entry := appendEntry (lastMemory m olds) (.pending d) (fun m => m.store d)
    let own := if supersedesItself m d
      then supersedeAll entry.after d.createdAt (some (obsoleteReason d)) [d.deliveryId] else []
    let cs := olds ++ entry :: own
    (older m d ++ (if supersedesItself m d then [d.deliveryId] else []),
      cs ++ compactIfNeeded o (lastMemory m cs) compactedAt)

/-- The first loop of `classifyMany`. -/
def reclassify (m : Memory) (now : ℤ) :
    List (JsString × DeliveryMetadata) → Memory × List OutboxEntry
  | [] => (m,[])
  | (id,metadata) :: cs => match m.pendingEntries.get id with
    | some (.event d) =>
      let classified := withMetadata d metadata
      if sameMetadata d classified then reclassify m now cs
      else
        let (m',es) := reclassify (m.store (.event classified)) now cs
        (m',.classified d.deliveryId (metadataFor classified) now :: es)
    | _ => reclassify m now cs

def raiseNewest (newest : InsertionMap JsString ℤ) (d : Delivery) : InsertionMap JsString ℤ :=
  match d.supersession with
  | none => newest
  | some s => newest.set s.key (max ((newest.get s.key).getD (-1)) s.version)

def newestVersions (m : Memory) : InsertionMap JsString ℤ := m.pendingEntries.values.foldl raiseNewest .empty

/-- The pending events below the newest version of their key. -/
def outdated (m : Memory) : List Delivery :=
  m.pendingEntries.values.filter (fun d => match d.supersession with
    | none => false
    | some s => match (newestVersions m).get s.key with
      | none => false
      | some newest => (s.version : ℤ) < newest)

def supersededEntry (now : ℤ) (d : Delivery) : OutboxEntry :=
  .superseded d.deliveryId now
    (d.supersession.map (fun s => (("newer_logical_version:" : JsString) ++ s.key).take 512))

def finishAll (m : Memory) (ids : List JsString) : Memory := ids.foldl (fun m id => m.finish id none) m

def classifyMany (o : Options) (m : Memory) (cs : List (JsString × DeliveryMetadata))
    (now : ℤ) (compactedAt : Timestamp) : List JsString × List Commit :=
  let (m',es) := reclassify m now cs
  let entries := es ++ (outdated m').map (supersededEntry now)
  let ids := (outdated m').map Delivery.deliveryId
  let commits := if entries = [] then [] else [⟨.append entries,finishAll (m'.appended entries) ids⟩]
  (ids,commits ++ compactIfNeeded o (lastMemory m' commits) compactedAt)

def markDelivered (o : Options) (m : Memory) (deliveryId eventId : JsString) (now : ℤ)
    (compactedAt : Timestamp) : Except String (List Commit) :=
  if m.terminal.has deliveryId then .ok []
  else if !m.pendingEntries.has deliveryId then
    .error "Cannot complete an unstaged MLP/3 Matrix delivery"
  else
    let c := appendEntry m (.delivered deliveryId eventId now) (fun m => m.finish deliveryId (some eventId))
    .ok (c :: compactIfNeeded o c.after compactedAt)

def markSuperseded (o : Options) (m : Memory) (deliveryId reason : JsString) (now : ℤ)
    (compactedAt : Timestamp) : Except String (List Commit) :=
  if m.terminal.has deliveryId then .ok []
  else if !m.pendingEntries.has deliveryId then
    .error "Cannot supersede an unstaged MLP/3 Matrix delivery"
  else
    let c := appendEntry m (.superseded deliveryId now (some (reason.take 512)))
      (fun m => m.finish deliveryId none)
    .ok (c :: compactIfNeeded o c.after compactedAt)

inductive Operation
  | stage (d : Delivery)
  | classifyMany (cs : List (JsString × DeliveryMetadata)) (now : ℤ)
  | markDelivered (deliveryId eventId : JsString) (now : ℤ)
  | markSuperseded (deliveryId reason : JsString) (now : ℤ)

/-- The durable writes of one call; a call that throws writes nothing. -/
def Operation.commits (o : Options) (m : Memory) (compactedAt : Timestamp) : Operation → List Commit
  | stage d => (Outbox.stage o m d compactedAt).2
  | classifyMany cs now => (Outbox.classifyMany o m cs now compactedAt).2
  | markDelivered id eventId now => ((Outbox.markDelivered o m id eventId now compactedAt).toOption).getD []
  | markSuperseded id reason now => ((Outbox.markSuperseded o m id reason now compactedAt).toOption).getD []

end Malink.Outbox
