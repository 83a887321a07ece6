import Malink.CanonicalJson
import Malink.KeyedMerges
import Malink.OutboxStore

/-!
# Merging the outbox logs of two Gateways

The ID of a delivery is its identity at the homeserver, so it is in the merged log once. Its terminal is there
whichever log it came from, and it is never sent again.
-/

namespace Malink.Outbox

open List Option
open Except (ok)
open KeyedMerges (holds_empty putStep)

structure ClassifiedEntry where
  deliveryId : JsString
  metadata : DeliveryMetadata
  classifiedAt : ℤ
  deriving DecidableEq

inductive TerminalEntry
  | delivered (deliveryId eventId : JsString) (deliveredAt : ℤ)
  | superseded (deliveryId : JsString) (supersededAt : ℤ) (reason : Option JsString)
  deriving DecidableEq

def TerminalEntry.deliveryId : TerminalEntry → JsString
  | delivered deliveryId _ _ => deliveryId
  | superseded deliveryId _ _ => deliveryId

def ClassifiedEntry.toEntry (e : ClassifiedEntry) : OutboxEntry := .classified e.deliveryId e.metadata e.classifiedAt

def TerminalEntry.toEntry : TerminalEntry → OutboxEntry
  | delivered deliveryId eventId deliveredAt => .delivered deliveryId eventId deliveredAt
  | superseded deliveryId supersededAt reason => .superseded deliveryId supersededAt reason

inductive MergeError
  | unreadable
  | delivery (deliveryId : JsString)
  | classification (deliveryId : JsString)
  | receipt (deliveryId : JsString)
  deriving DecidableEq

/-- The texts about a line that is no record are those of its reader. -/
def MergeError.message : MergeError → Option JsString
  | unreadable => none
  | delivery deliveryId => some (("Conflicting MLP/3 Matrix delivery " : JsString) ++ deliveryId ++ " during handoff")
  | classification deliveryId =>
    some (("Conflicting MLP/3 Matrix delivery classification " : JsString) ++ deliveryId ++ " during handoff")
  | receipt deliveryId =>
    some (("Conflicting MLP/3 Matrix delivery receipt " : JsString) ++ deliveryId ++ " during handoff")

def sameTerminal : TerminalEntry → TerminalEntry → Bool
  | .delivered _ eventId _, .delivered _ eventId' _ => decide (eventId = eventId')
  | .superseded _ _ _, .superseded _ _ _ => true
  | _, _ => false

def terminalTimestamp : TerminalEntry → ℤ
  | .delivered _ _ deliveredAt => deliveredAt
  | .superseded _ supersededAt _ => supersededAt

def keepDelivery (deliveryId : JsString) (existing delivery : Delivery) : Except MergeError Delivery :=
  if existing.toJson.canonicalJson ≠ delivery.toJson.canonicalJson then .error (.delivery deliveryId) else .ok delivery

def keepClassification (deliveryId : JsString) (existing entry : ClassifiedEntry) : Except MergeError ClassifiedEntry :=
  if existing.metadata.toJson.canonicalJson ≠ entry.metadata.toJson.canonicalJson then .error (.classification deliveryId)
  else .ok (if existing.classifiedAt ≤ entry.classifiedAt then entry else existing)

def keepTerminal (deliveryId : JsString) (existing entry : TerminalEntry) : Except MergeError TerminalEntry :=
  if sameTerminal existing entry = false then .error (.receipt deliveryId)
  else .ok (if terminalTimestamp existing ≤ terminalTimestamp entry then entry else existing)

structure MergedLogs where
  deliveries : InsertionMap JsString Delivery
  classifications : InsertionMap JsString ClassifiedEntry
  terminals : InsertionMap JsString TerminalEntry

namespace MergedLogs

def empty : MergedLogs := ⟨.empty,.empty,.empty⟩

def addDelivery (logs : MergedLogs) (delivery : Delivery) : Except MergeError MergedLogs := do
  let deliveries ← putStep (fun d => .ok d.deliveryId) keepDelivery logs.deliveries delivery
  .ok { logs with deliveries }

def addClassification (logs : MergedLogs) (entry : ClassifiedEntry) : Except MergeError MergedLogs := do
  let classifications ← putStep (fun e => .ok e.deliveryId) keepClassification logs.classifications entry
  .ok { logs with classifications }

def addTerminal (logs : MergedLogs) (entry : TerminalEntry) : Except MergeError MergedLogs := do
  let terminals ← putStep (fun e => .ok e.deliveryId) keepTerminal logs.terminals entry
  .ok { logs with terminals }

def addEntry (logs : MergedLogs) : OutboxEntry → Except MergeError MergedLogs
  | .pending delivery => logs.addDelivery delivery
  | .classified deliveryId metadata classifiedAt => logs.addClassification ⟨deliveryId,metadata,classifiedAt⟩
  | .delivered deliveryId eventId deliveredAt => logs.addTerminal (.delivered deliveryId eventId deliveredAt)
  | .superseded deliveryId supersededAt reason => logs.addTerminal (.superseded deliveryId supersededAt reason)

def addLine (logs : MergedLogs) (line : List Char) : Except MergeError MergedLogs :=
  if isBlank line then .ok logs
  else match readLine line with
    | none => .error .unreadable
    | some entry => logs.addEntry entry

def addFile (logs : MergedLogs) : WalFile → Except MergeError MergedLogs
  | none => .ok logs
  | some text => (splitLines text).foldlM addLine logs

/-- The deliveries and terminals of either log, sorted. -/
def deliveryIds (logs : MergedLogs) : List JsString :=
  (logs.deliveries.keys ++ logs.terminals.keys.filter (fun id => id ∉ logs.deliveries.keys)).insertionSort (· ≤ ·)

def entriesOf (logs : MergedLogs) (deliveryId : JsString) : List OutboxEntry :=
  (match logs.deliveries.get deliveryId with
    | none => []
    | some delivery => .pending delivery :: ((logs.classifications.get deliveryId).map ClassifiedEntry.toEntry).toList) ++
    ((logs.terminals.get deliveryId).map TerminalEntry.toEntry).toList

def entries (logs : MergedLogs) : List OutboxEntry := logs.deliveryIds.flatMap logs.entriesOf

end MergedLogs

/-- The text that takes the place of the target's log. -/
def mergeMatrixMlp3OutboxWals (sources : List WalFile) : Except MergeError (List Char) := do
  let logs ← sources.foldlM MergedLogs.addFile .empty
  .ok (encodeEntries logs.entries)

/-- The records of the lines, when all of them are readable. -/
def readEntries : List (List Char) → Option (List OutboxEntry)
  | [] => some []
  | line :: lines =>
    if isBlank line then readEntries lines
    else (readLine line).bind fun entry => (readEntries lines).map (entry :: ·)

def fileEntries : WalFile → Option (List OutboxEntry)
  | none => some []
  | some text => readEntries (splitLines text)

def asPending : OutboxEntry → Option Delivery
  | .pending delivery => some delivery
  | _ => none

def asClassified : OutboxEntry → Option ClassifiedEntry
  | .classified deliveryId metadata classifiedAt => some ⟨deliveryId,metadata,classifiedAt⟩
  | _ => none

def asTerminal : OutboxEntry → Option TerminalEntry
  | .delivered deliveryId eventId deliveredAt => some (.delivered deliveryId eventId deliveredAt)
  | .superseded deliveryId supersededAt reason => some (.superseded deliveryId supersededAt reason)
  | _ => none

/-- A record is about one delivery, and is one of three things about it. -/
inductive RecordKind
  | pending
  | classified
  | terminal
  deriving DecidableEq

def recordIdentity : OutboxEntry → RecordKind × JsString
  | .pending delivery => (.pending,delivery.deliveryId)
  | .classified deliveryId _ _ => (.classified,deliveryId)
  | .delivered deliveryId _ _ => (.terminal,deliveryId)
  | .superseded deliveryId _ _ => (.terminal,deliveryId)

/-- Every delivery and every terminal of the records is in the merged log once. -/
structure MergedLog (records merged : List OutboxEntry) : Prop where
  once : (merged.map recordIdentity).Nodup
  pending : ∀ delivery, .pending delivery ∈ records →
    ∃ kept, .pending kept ∈ merged ∧ kept.deliveryId = delivery.deliveryId ∧
      kept.toJson.canonicalJson = delivery.toJson.canonicalJson
  classified : ∀ entry : ClassifiedEntry, entry.toEntry ∈ records →
    (∃ delivery,.pending delivery ∈ records ∧ delivery.deliveryId = entry.deliveryId) →
    ∃ kept : ClassifiedEntry, kept.toEntry ∈ merged ∧ kept.deliveryId = entry.deliveryId ∧
      kept.metadata.toJson.canonicalJson = entry.metadata.toJson.canonicalJson ∧ entry.classifiedAt ≤ kept.classifiedAt
  terminal : ∀ entry : TerminalEntry, entry.toEntry ∈ records →
    ∃ kept : TerminalEntry, kept.toEntry ∈ merged ∧ kept.deliveryId = entry.deliveryId ∧
      sameTerminal kept entry ∧ terminalTimestamp entry ≤ terminalTimestamp kept
  from_records : ∀ record ∈ merged, record ∈ records

variable {entry : TerminalEntry} {id : JsString} {record : OutboxEntry}

section

variable {existing delivery kept : Delivery}

def SameDelivery (kept delivery : Delivery) : Prop := kept.toJson.canonicalJson = delivery.toJson.canonicalJson

def KeptClassification (kept entry : ClassifiedEntry) : Prop :=
  kept.metadata.toJson.canonicalJson = entry.metadata.toJson.canonicalJson ∧ entry.classifiedAt ≤ kept.classifiedAt

def KeptTerminal (kept entry : TerminalEntry) : Prop :=
  sameTerminal kept entry = true ∧ terminalTimestamp entry ≤ terminalTimestamp kept

theorem sameTerminal_refl (entry : TerminalEntry) : sameTerminal entry entry := by
  cases entry with
  | delivered deliveryId eventId deliveredAt => exact decide_eq_true rfl
  | superseded deliveryId supersededAt reason => rfl

theorem sameTerminal_symm {other : TerminalEntry} (h : sameTerminal entry other) : sameTerminal other entry := by
  cases entry with
  | delivered deliveryId eventId deliveredAt =>
    cases other with
    | delivered deliveryId' eventId' deliveredAt' => exact decide_eq_true (of_decide_eq_true h).symm
    | superseded deliveryId' supersededAt' reason' => cases h
  | superseded deliveryId supersededAt reason =>
    cases other with
    | delivered deliveryId' eventId' deliveredAt' => cases h
    | superseded deliveryId' supersededAt' reason' => rfl

theorem sameTerminal_trans {other third : TerminalEntry} (h : sameTerminal entry other)
    (h' : sameTerminal other third) : sameTerminal entry third := by
  cases other with
  | delivered deliveryId eventId deliveredAt =>
    cases entry with
    | delivered deliveryId' eventId' deliveredAt' =>
      cases third with
      | delivered deliveryId'' eventId'' deliveredAt'' =>
        exact decide_eq_true ((of_decide_eq_true h).trans (of_decide_eq_true h'))
      | superseded deliveryId'' supersededAt'' reason'' => cases h'
    | superseded deliveryId' supersededAt' reason' => cases h
  | superseded deliveryId supersededAt reason =>
    cases entry with
    | delivered deliveryId' eventId' deliveredAt' => cases h
    | superseded deliveryId' supersededAt' reason' =>
      cases third with
      | delivered deliveryId'' eventId'' deliveredAt'' => cases h'
      | superseded deliveryId'' supersededAt'' reason'' => rfl

theorem keepDelivery_eq_ok : keepDelivery id existing delivery = .ok kept ↔
    SameDelivery existing delivery ∧ kept = delivery := by
  rw [keepDelivery,SameDelivery]
  split
  · next hne =>
    constructor
    · intro h
      cases h
    · rintro ⟨heq,-⟩
      exact absurd heq hne
  · next heq => exact ⟨fun h => ⟨not_not.mp heq,(ok.inj h).symm⟩,fun h => congrArg Except.ok h.2.symm⟩

theorem keeps_deliveries : KeyedMerges.Keeps (fun _ => True) SameDelivery
    (fun d => (.ok d.deliveryId : Except MergeError JsString)) keepDelivery where
  refl := fun _ => rfl
  one := by
    intro id existing delivery kept h
    exact .inr (keepDelivery_eq_ok.mp h).2
  new := by
    intro id existing delivery kept _ _ _ _ h
    obtain ⟨-,rfl⟩ := keepDelivery_eq_ok.mp h
    rfl
  old := by
    intro id existing delivery kept other _ _ _ h hold
    obtain ⟨hsame,rfl⟩ := keepDelivery_eq_ok.mp h
    exact hsame.symm.trans hold

theorem keepClassification_cases {existing entry kept : ClassifiedEntry}
    (h : keepClassification id existing entry = .ok kept) :
    existing.metadata.toJson.canonicalJson = entry.metadata.toJson.canonicalJson ∧
      ((existing.classifiedAt ≤ entry.classifiedAt ∧ kept = entry) ∨
        (entry.classifiedAt < existing.classifiedAt ∧ kept = existing)) := by
  rw [keepClassification] at h
  split at h
  · cases h
  · next heq =>
    refine ⟨not_not.mp heq,?_⟩
    have hkept := (ok.inj h).symm
    split at hkept
    · next hle => exact .inl ⟨hle,hkept⟩
    · next hlt => exact .inr ⟨not_le.mp hlt,hkept⟩

theorem keeps_classifications : KeyedMerges.Keeps (fun _ => True) KeptClassification
    (fun e => (.ok e.deliveryId : Except MergeError JsString)) keepClassification where
  refl := fun _ => ⟨rfl,le_refl _⟩
  one := by
    intro id existing entry kept h
    rcases (keepClassification_cases h).2 with ⟨-,rfl⟩ | ⟨-,rfl⟩
    · exact .inr rfl
    · exact .inl rfl
  new := by
    intro id existing entry kept _ _ _ _ h
    obtain ⟨hsame,⟨-,rfl⟩ | ⟨hlt,rfl⟩⟩ := keepClassification_cases h
    · exact ⟨rfl,le_refl _⟩
    · exact ⟨hsame,hlt.le⟩
  old := by
    intro id existing entry kept other _ _ _ h hold
    obtain ⟨hsame,⟨hle,rfl⟩ | ⟨-,rfl⟩⟩ := keepClassification_cases h
    · exact ⟨hsame.symm.trans hold.1,hold.2.trans hle⟩
    · exact hold

theorem keepTerminal_cases {existing kept : TerminalEntry}
    (h : keepTerminal id existing entry = .ok kept) : sameTerminal existing entry ∧
      ((terminalTimestamp existing ≤ terminalTimestamp entry ∧ kept = entry) ∨
        (terminalTimestamp entry < terminalTimestamp existing ∧ kept = existing)) := by
  rw [keepTerminal] at h
  split at h
  · cases h
  · next heq =>
    refine ⟨by simpa using heq,?_⟩
    have hkept := (ok.inj h).symm
    split at hkept
    · next hle => exact .inl ⟨hle,hkept⟩
    · next hlt => exact .inr ⟨not_le.mp hlt,hkept⟩

theorem keeps_terminals : KeyedMerges.Keeps (fun _ => True) KeptTerminal
    (fun e => (.ok e.deliveryId : Except MergeError JsString)) keepTerminal where
  refl := fun entry => ⟨sameTerminal_refl entry,le_refl _⟩
  one := by
    intro id existing entry kept h
    rcases (keepTerminal_cases h).2 with ⟨-,rfl⟩ | ⟨-,rfl⟩
    · exact .inr rfl
    · exact .inl rfl
  new := by
    intro id existing entry kept _ _ _ _ h
    obtain ⟨hsame,⟨-,rfl⟩ | ⟨hlt,rfl⟩⟩ := keepTerminal_cases h
    · exact ⟨sameTerminal_refl _,le_refl _⟩
    · exact ⟨hsame,hlt.le⟩
  old := by
    intro id existing entry kept other _ _ _ h hold
    obtain ⟨hsame,⟨hle,rfl⟩ | ⟨-,rfl⟩⟩ := keepTerminal_cases h
    · exact ⟨sameTerminal_trans (sameTerminal_symm hsame) hold.1,hold.2.trans hle⟩
    · exact hold

end

section

variable {logs logs' : MergedLogs} {records : List OutboxEntry}

/-- The maps hold what the records say of deliveries, classifications and terminals. -/
structure HoldRecords (records : List OutboxEntry) (logs : MergedLogs) : Prop where
  deliveries : KeyedMerges.Holds SameDelivery (fun d => (.ok d.deliveryId : Except MergeError JsString))
    (records.filterMap asPending) logs.deliveries
  classifications : KeyedMerges.Holds KeptClassification (fun e => (.ok e.deliveryId : Except MergeError JsString))
    (records.filterMap asClassified) logs.classifications
  terminals : KeyedMerges.Holds KeptTerminal (fun e => (.ok e.deliveryId : Except MergeError JsString))
    (records.filterMap asTerminal) logs.terminals

theorem filterMap_append_none {α : Type} {f : OutboxEntry → Option α} (h : f record = none) :
    (records ++ [record]).filterMap f = records.filterMap f := by
  rw [filterMap_append,filterMap_cons_none h,filterMap_nil,append_nil]

theorem filterMap_append_some {α : Type} {f : OutboxEntry → Option α} {a : α}
    (h : f record = some a) : (records ++ [record]).filterMap f = records.filterMap f ++ [a] := by
  rw [filterMap_append,filterMap_cons_some h,filterMap_nil]

theorem holdRecords_empty : HoldRecords [] .empty := ⟨holds_empty,holds_empty,holds_empty⟩

section

variable (h : HoldRecords records logs)
include h

theorem HoldRecords.addTerminal (hpending : asPending record = none) (hclassified : asClassified record = none)
    (hterminal : asTerminal record = some entry) (hadd : logs.addTerminal entry = .ok logs') :
    HoldRecords (records ++ [record]) logs' := by
  obtain ⟨terminals,hput,hlogs⟩ := bind_eq_ok.mp hadd
  obtain rfl := ok.inj hlogs
  constructor
  · rw [filterMap_append_none hpending]
    exact h.deliveries
  · rw [filterMap_append_none hclassified]
    exact h.classifications
  · rw [filterMap_append_some hterminal]
    exact h.terminals.putStep keeps_terminals (fun _ _ => trivial) trivial hput

theorem HoldRecords.addEntry (hadd : logs.addEntry record = .ok logs') : HoldRecords (records ++ [record]) logs' := by
  cases record with
  | pending delivery =>
    obtain ⟨deliveries,hput,hlogs⟩ := bind_eq_ok.mp hadd
    obtain rfl := ok.inj hlogs
    constructor
    · rw [filterMap_append_some (show asPending (.pending delivery) = some delivery from rfl)]
      exact h.deliveries.putStep keeps_deliveries (fun _ _ => trivial) trivial hput
    · rw [filterMap_append_none rfl]
      exact h.classifications
    · rw [filterMap_append_none rfl]
      exact h.terminals
  | classified deliveryId metadata classifiedAt =>
    obtain ⟨classifications,hput,hlogs⟩ := bind_eq_ok.mp hadd
    obtain rfl := ok.inj hlogs
    constructor
    · rw [filterMap_append_none rfl]
      exact h.deliveries
    · rw [filterMap_append_some (show asClassified (.classified deliveryId metadata classifiedAt) =
        some ⟨deliveryId,metadata,classifiedAt⟩ from rfl)]
      exact h.classifications.putStep keeps_classifications (fun _ _ => trivial) trivial hput
    · rw [filterMap_append_none rfl]
      exact h.terminals
  | delivered | superseded => exact h.addTerminal rfl rfl rfl hadd

theorem HoldRecords.addLines {lines : List (List Char)} (hadd : lines.foldlM MergedLogs.addLine logs = .ok logs') :
    ∃ added, readEntries lines = some added ∧ HoldRecords (records ++ added) logs' := by
  induction lines generalizing records logs with
  | nil =>
    obtain rfl := ok.inj hadd
    refine ⟨[],rfl,?_⟩
    rw [append_nil]
    exact h
  | cons line lines ih =>
    rw [foldlM_cons,bind_eq_ok] at hadd
    obtain ⟨next,hline,hrest⟩ := hadd
    rw [MergedLogs.addLine] at hline
    by_cases hblank : isBlank line
    · rw [if_pos hblank] at hline
      obtain rfl := ok.inj hline
      obtain ⟨added,hread,hholds⟩ := ih h hrest
      exact ⟨added,by rw [readEntries,if_pos hblank,hread],hholds⟩
    · rw [if_neg hblank] at hline
      cases hentry : readLine line with
      | none =>
        rw [hentry] at hline
        cases hline
      | some entry =>
        rw [hentry] at hline
        obtain ⟨added,hread,hholds⟩ := ih (h.addEntry hline) hrest
        refine ⟨entry :: added,by rw [readEntries,if_neg hblank,hentry,hread]; rfl,?_⟩
        rw [append_assoc,singleton_append] at hholds
        exact hholds

theorem HoldRecords.addFiles {files : List WalFile} (hadd : files.foldlM MergedLogs.addFile logs = .ok logs') :
    ∃ added, files.mapM fileEntries = some added ∧ HoldRecords (records ++ added.flatten) logs' := by
  induction files generalizing records logs with
  | nil =>
    obtain rfl := ok.inj hadd
    refine ⟨[],rfl,?_⟩
    rw [flatten_nil,append_nil]
    exact h
  | cons file files ih =>
    rw [foldlM_cons,bind_eq_ok] at hadd
    obtain ⟨next,hfile,hrest⟩ := hadd
    have hread : ∃ entries,fileEntries file = some entries ∧ HoldRecords (records ++ entries) next := by
      cases file with
      | none =>
        obtain rfl := ok.inj hfile
        refine ⟨[],rfl,?_⟩
        rw [append_nil]
        exact h
      | some text => exact h.addLines hfile
    obtain ⟨entries,hentries,hnext⟩ := hread
    obtain ⟨added,hadded,hholds⟩ := ih hnext hrest
    refine ⟨entries :: added,?_,?_⟩
    · rw [mapM_cons,hentries,hadded]
      rfl
    · rw [flatten_cons,← append_assoc]
      exact hholds

end

theorem mem_deliveryIds : id ∈ logs.deliveryIds ↔ logs.deliveries.has id ∨ logs.terminals.has id := by
  rw [MergedLogs.deliveryIds,(perm_insertionSort _ _).mem_iff,mem_append,mem_filter,
    InsertionMap.has_iff_mem_keys,InsertionMap.has_iff_mem_keys,decide_eq_true_eq]
  constructor
  · rintro (h | ⟨h,-⟩)
    · exact .inl h
    · exact .inr h
  · rintro (h | h)
    · exact .inl h
    · by_cases hmem : id ∈ logs.deliveries.keys
      · exact .inl hmem
      · exact .inr ⟨h,hmem⟩

theorem nodup_deliveryIds (logs : MergedLogs) : logs.deliveryIds.Nodup := by
  rw [MergedLogs.deliveryIds,(perm_insertionSort _ _).nodup_iff]
  refine logs.deliveries.nodup_keys.append (logs.terminals.nodup_keys.sublist filter_sublist) ?_
  intro id hid hid'
  exact of_decide_eq_true (mem_filter.mp hid').2 hid

theorem mem_entriesOf : record ∈ logs.entriesOf id ↔
    (∃ delivery,logs.deliveries.get id = some delivery ∧ (record = .pending delivery ∨
      ∃ entry,logs.classifications.get id = some entry ∧ record = entry.toEntry)) ∨
    ∃ entry, logs.terminals.get id = some entry ∧ record = entry.toEntry := by
  rw [MergedLogs.entriesOf,mem_append]
  refine or_congr ?_ ?_
  · cases logs.deliveries.get id with
    | none => simp
    | some delivery => simp [mem_toList,eq_comm]
  · simp [mem_toList,eq_comm]

theorem recordIdentity_classified (entry : ClassifiedEntry) :
    recordIdentity entry.toEntry = (.classified,entry.deliveryId) := rfl

theorem recordIdentity_terminal (entry : TerminalEntry) :
    recordIdentity entry.toEntry = (.terminal,entry.deliveryId) := by
  cases entry with
  | delivered | superseded => rfl

theorem asTerminal_toEntry (entry : TerminalEntry) : asTerminal entry.toEntry = some entry := by
  cases entry with
  | delivered | superseded => rfl

theorem mem_of_asPending {delivery : Delivery} (h : delivery ∈ records.filterMap asPending) :
    .pending delivery ∈ records := by
  obtain ⟨record,hrecord,heq⟩ := mem_filterMap.mp h
  cases record with
  | pending other =>
    obtain rfl := some.inj heq
    exact hrecord
  | classified _ _ _ | delivered _ _ _ | superseded _ _ _ => cases heq

theorem mem_of_asClassified {entry : ClassifiedEntry} (h : entry ∈ records.filterMap asClassified) :
    entry.toEntry ∈ records := by
  obtain ⟨record,hrecord,heq⟩ := mem_filterMap.mp h
  cases record with
  | classified deliveryId metadata classifiedAt =>
    obtain rfl := some.inj heq
    exact hrecord
  | pending _ | delivered _ _ _ | superseded _ _ _ => cases heq

theorem mem_of_asTerminal (h : entry ∈ records.filterMap asTerminal) : entry.toEntry ∈ records := by
  obtain ⟨record,hrecord,heq⟩ := mem_filterMap.mp h
  cases record with
  | delivered | superseded =>
    obtain rfl := some.inj heq
    exact hrecord
  | pending _ | classified _ _ _ => cases heq

/-- The records of one delivery are of different kinds, in the order in which they are written. -/
theorem map_recordIdentity_entriesOf (h : HoldRecords records logs) (id : JsString) :
    ((logs.entriesOf id).map recordIdentity).Sublist [(.pending,id),(.classified,id),(.terminal,id)] := by
  have hterminals : (((logs.terminals.get id).map TerminalEntry.toEntry).toList.map recordIdentity).Sublist
      [(.terminal,id)] := by
    cases hget : logs.terminals.get id with
    | none => exact nil_sublist _
    | some entry =>
      have hid := ok.inj (h.terminals.from_values id entry hget).2
      rw [map_some,toList_some,map_singleton,recordIdentity_terminal,hid]
  rw [MergedLogs.entriesOf,map_append]
  cases hget : logs.deliveries.get id with
  | none => exact (hterminals.cons _).cons _
  | some delivery =>
    have hid := ok.inj (h.deliveries.from_values id delivery hget).2
    have hfirst : recordIdentity (.pending delivery) = (.pending,id) := by rw [recordIdentity,hid]
    rw [map_cons,cons_append,hfirst]
    refine List.Sublist.cons_cons _ ?_
    cases hclassified : logs.classifications.get id with
    | none => exact hterminals.cons _
    | some entry =>
      have hid' := ok.inj (h.classifications.from_values id entry hclassified).2
      rw [map_some,toList_some,map_singleton,recordIdentity_classified,hid',singleton_append]
      exact hterminals.cons_cons _

theorem nodup_entries (h : HoldRecords records logs) : (logs.entries.map recordIdentity).Nodup := by
  rw [MergedLogs.entries,map_flatMap,nodup_flatMap]
  constructor
  · intro id _
    refine List.Nodup.sublist (map_recordIdentity_entriesOf h id) ?_
    simp
  · refine (nodup_deliveryIds logs).imp fun {id id'} hne => ?_
    intro identity hidentity hidentity'
    have hof (other : JsString) (hmem : identity ∈ (logs.entriesOf other).map recordIdentity) : identity.2 = other := by
      have hmem := (map_recordIdentity_entriesOf h other).subset hmem
      simp only [mem_cons,not_mem_nil,or_false] at hmem
      rcases hmem with rfl | rfl | rfl
      · rfl
      · rfl
      · rfl
    exact hne ((hof id hidentity).symm.trans (hof id' hidentity'))

theorem mem_entries :
    record ∈ logs.entries ↔ ∃ id ∈ logs.deliveryIds, record ∈ logs.entriesOf id := mem_flatMap

theorem mergedLog_entries (h : HoldRecords records logs) : MergedLog records logs.entries where
  once := nodup_entries h
  pending := by
    intro delivery hdelivery
    obtain ⟨id,kept,hid,hget,hsame⟩ := h.deliveries.stands delivery (mem_filterMap.mpr ⟨_,hdelivery,rfl⟩)
    obtain ⟨-,hkey⟩ := h.deliveries.from_values id kept hget
    refine ⟨kept,mem_entries.mpr ⟨id,mem_deliveryIds.mpr (.inl (InsertionMap.has_iff.mpr ⟨kept,hget⟩)),?_⟩,?_,hsame⟩
    · exact mem_entriesOf.mpr (.inl ⟨kept,hget,.inl rfl⟩)
    · exact (ok.inj hkey).trans (ok.inj hid).symm
  classified := by
    rintro entry hentry ⟨delivery,hdelivery,hsame⟩
    obtain ⟨id,kept,hid,hget,hkept⟩ := h.classifications.stands entry (mem_filterMap.mpr ⟨_,hentry,rfl⟩)
    obtain ⟨-,hkey⟩ := h.classifications.from_values id kept hget
    obtain ⟨id',pending,hid',hget',-⟩ := h.deliveries.stands delivery (mem_filterMap.mpr ⟨_,hdelivery,rfl⟩)
    have hids : id' = id := (ok.inj hid').symm.trans (hsame.trans (ok.inj hid))
    rw [hids] at hget'
    refine ⟨kept,mem_entries.mpr ⟨id,mem_deliveryIds.mpr (.inl (InsertionMap.has_iff.mpr ⟨pending,hget'⟩)),?_⟩,?_,
      hkept⟩
    · exact mem_entriesOf.mpr (.inl ⟨pending,hget',.inr ⟨kept,hget,rfl⟩⟩)
    · exact (ok.inj hkey).trans (ok.inj hid).symm
  terminal := by
    intro entry hentry
    obtain ⟨id,kept,hid,hget,hkept⟩ := h.terminals.stands entry (mem_filterMap.mpr ⟨_,hentry,asTerminal_toEntry entry⟩)
    obtain ⟨-,hkey⟩ := h.terminals.from_values id kept hget
    refine ⟨kept,mem_entries.mpr ⟨id,mem_deliveryIds.mpr (.inr (InsertionMap.has_iff.mpr ⟨kept,hget⟩)),?_⟩,?_,hkept⟩
    · exact mem_entriesOf.mpr (.inr ⟨kept,hget,rfl⟩)
    · exact (ok.inj hkey).trans (ok.inj hid).symm
  from_records := by
    intro record hrecord
    obtain ⟨id,-,hmem⟩ := mem_entries.mp hrecord
    rcases mem_entriesOf.mp hmem with ⟨delivery,hget,rfl | ⟨entry,hentry,rfl⟩⟩ | ⟨entry,hget,rfl⟩
    · exact mem_of_asPending (h.deliveries.from_values id delivery hget).1
    · exact mem_of_asClassified (h.classifications.from_values id entry hentry).1
    · exact mem_of_asTerminal (h.terminals.from_values id entry hget).1

end

theorem mergedLog_of_merge {sources : List WalFile} {text : List Char}
    (h : mergeMatrixMlp3OutboxWals sources = .ok text) :
    ∃ records merged, sources.mapM fileEntries = some records ∧ text = encodeEntries merged ∧
      MergedLog records.flatten merged := by
  obtain ⟨logs,hlogs,htext⟩ := bind_eq_ok.mp h
  obtain ⟨records,hrecords,hholds⟩ := holdRecords_empty.addFiles hlogs
  rw [nil_append] at hholds
  exact ⟨records,logs.entries,hrecords,(ok.inj htext).symm,mergedLog_entries hholds⟩

end Malink.Outbox
