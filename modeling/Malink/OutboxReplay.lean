import Malink.OutboxStore
import Mathlib.Tactic.Common

/-!
# The log determines the memory

Replaying the log rebuilds the memory of the process that wrote it: the same pending deliveries in the same order, the
same terminal marks and the same catalog.
-/

namespace Malink.Outbox

open InsertionMap List
open Option (some)

def replay (m : Memory) (es : List OutboxEntry) : Memory := es.foldl loadEntry m

theorem replay_append (m : Memory) (es fs : List OutboxEntry) :
    replay m (es ++ fs) = replay (replay m es) fs := foldl_append

theorem isBlank_encodeLine (e : OutboxEntry) : isBlank (encodeLine e) = false := by
  obtain ⟨s,hs⟩ := encodeLine_head e
  rw [hs,isBlank,all_cons]
  rfl

theorem loadLines_encodeLines (m : Memory) (es : List OutboxEntry) (lines : List (List Char)) :
    loadLines m (es.map encodeLine ++ lines) =
      if es.all OutboxEntry.readable then loadLines (replay m es) lines else none := by
  induction es generalizing m with
  | nil => simp [replay]
  | cons e es ih =>
    simp only [map_cons,cons_append,loadLines,isBlank_encodeLine,Bool.false_eq_true,if_false,readLine_encodeLine]
    by_cases he : e.readable
    · simp only [he,if_true,ih,all_cons,Bool.true_and]
      rfl
    · simp [he]

theorem loadLines_encodeEntries (m : Memory) (es : List OutboxEntry) (s : List Char) :
    loadLines m (splitLines (encodeEntries es ++ s)) =
      if es.all OutboxEntry.readable then loadLines (replay m es) (splitLines s) else none := by
  rw [splitLines_encodeEntries,loadLines_encodeLines]

theorem loadLines_nil (m : Memory) : loadLines m (splitLines []) = some m := rfl

structure WellFormed (m : Memory) : Prop where
  deliveryId_eq : ∀ id d, m.deliveries.get id = some d → d.deliveryId = id
  pending_stored : ∀ id d, m.pendingEntries.get id = some d → m.deliveries.get id = some d
  pending_open : ∀ id, m.pendingEntries.has id → m.terminal.has id = false
  stored_settled : ∀ id, m.deliveries.has id →
    m.pendingEntries.has id ∨ m.terminal.has id

def OneState (m : Memory) : Prop :=
  ∀ id id' d d', m.pendingEntries.get id = some (.state d) → m.pendingEntries.get id' = some (.state d') →
    d.roomId = d'.roomId → d.eventType = d'.eventType → d.stateKey = d'.stateKey → id = id'

/-- The same pending deliveries in the same order, marks that agree up to empty event IDs, and the
same catalog up to order. -/
structure SameContents (a b : Memory) : Prop where
  pendingEntries : a.pendingEntries = b.pendingEntries
  deliveries : ∀ id, a.deliveries.get id = b.deliveries.get id
  terminal : ∀ id, a.terminal.has id = b.terminal.has id
  receipt : ∀ id, a.receipt id = b.receipt id

theorem SameContents.refl (m : Memory) : SameContents m m := ⟨rfl,fun _ => rfl,fun _ => rfl,fun _ => rfl⟩

variable {a b : Memory}

theorem SameContents.symm (h : SameContents a b) : SameContents b a :=
  ⟨h.pendingEntries.symm,fun id => (h.deliveries id).symm,fun id => (h.terminal id).symm,
    fun id => (h.receipt id).symm⟩

theorem SameContents.trans {a b c : Memory} (h : SameContents a b) (h' : SameContents b c) : SameContents a c :=
  ⟨h.pendingEntries.trans h'.pendingEntries,fun id => (h.deliveries id).trans (h'.deliveries id),
    fun id => (h.terminal id).trans (h'.terminal id),fun id => (h.receipt id).trans (h'.receipt id)⟩

theorem WellFormed.of_same (h : SameContents a b) (ha : WellFormed a) : WellFormed b where
  deliveryId_eq id d hd := ha.deliveryId_eq id d ((h.deliveries id).trans hd)
  pending_stored id d hd := by
    rw [← h.deliveries id]
    exact ha.pending_stored id d (by rw [h.pendingEntries]; exact hd)
  pending_open id hp := by
    rw [← h.terminal id]
    exact ha.pending_open id (by rw [h.pendingEntries]; exact hp)
  stored_settled id hd := by
    rw [← h.terminal id,← h.pendingEntries]
    apply ha.stored_settled id
    rw [has,h.deliveries id]
    exact hd

theorem OneState.of_pendingEntries (h : a.pendingEntries = b.pendingEntries) (ha : OneState a) : OneState b := by
  unfold OneState at ha ⊢
  rwa [← h]

section Finish

variable (m : Memory) (id id' : JsString) (e : Option JsString)

theorem pending_finish : (m.finish id e).pendingEntries.get id' =
    if id' = id then none else m.pendingEntries.get id' := get_delete _ _ _

theorem has_pending_finish : (m.finish id e).pendingEntries.has id' =
    (!decide (id' = id) && m.pendingEntries.has id') := by
  rw [has,pending_finish]
  by_cases h : id' = id <;> simp [h,has]

theorem terminal_finish : (m.finish id e).terminal.get id' =
    if id' = id then some e else m.terminal.get id' := get_set _ _ _ _

theorem has_terminal_finish : (m.finish id e).terminal.has id' = (decide (id' = id) || m.terminal.has id') := by
  rw [has,terminal_finish]
  by_cases h : id' = id <;> simp [h,has]

theorem receipt_finish : (m.finish id e).receipt id' =
    if id' = id then e.filter JsString.truthy else m.receipt id' := by
  rw [Memory.receipt,Memory.deliveredEventId,terminal_finish]
  by_cases h : id' = id <;> simp [h,Memory.receipt,Memory.deliveredEventId]

end Finish

section

variable (h : SameContents a b)
include h

theorem SameContents.appended (es : List OutboxEntry) :
    SameContents (a.appended es) b := ⟨h.pendingEntries,h.deliveries,h.terminal,h.receipt⟩

theorem SameContents.finish (id : JsString) (e : Option JsString) :
    SameContents (a.finish id e) (b.finish id e) where
  pendingEntries := congrArg (fun p => p.delete id) h.pendingEntries
  deliveries := h.deliveries
  terminal id' := by rw [has_terminal_finish,has_terminal_finish,h.terminal]
  receipt id' := by rw [receipt_finish,receipt_finish,h.receipt]

theorem SameContents.store (d : Delivery) :
    SameContents (a.store d) (b.store d) where
  pendingEntries := congrArg (fun p => p.set d.deliveryId d) h.pendingEntries
  deliveries id := by
    show (a.deliveries.set _ _).get id = (b.deliveries.set _ _).get id
    rw [get_set,get_set,h.deliveries]
  terminal := h.terminal
  receipt := h.receipt

theorem SameContents.loadEntry (e : OutboxEntry) : SameContents (loadEntry a e) (loadEntry b e) := by
  cases e with
  | pending d =>
    refine ⟨?_,fun id => ?_,h.terminal,h.receipt⟩
    · simp only [Outbox.loadEntry,h.terminal,h.pendingEntries]
    · show (a.deliveries.set _ _).get id = (b.deliveries.set _ _).get id
      rw [get_set,get_set,h.deliveries]
  | delivered id eventId at' => exact h.finish id _
  | superseded id at' reason => exact h.finish id _
  | classified id metadata at' =>
    simp only [Outbox.loadEntry,h.deliveries id]
    cases hd : b.deliveries.get id with
    | none => exact h
    | some d =>
      cases d with
      | state d => exact h
      | event d =>
        refine ⟨?_,fun id' => ?_,h.terminal,h.receipt⟩
        · simp only [h.pendingEntries]
        · show (a.deliveries.set _ _).get id' = (b.deliveries.set _ _).get id'
          rw [get_set,get_set,h.deliveries]

theorem SameContents.replay (es : List OutboxEntry) : SameContents (replay a es) (replay b es) := by
  induction es generalizing a b with
  | nil => exact h
  | cons e es ih => exact ih (h.loadEntry e)

end

theorem wellFormed_empty : WellFormed Memory.empty :=
  ⟨fun _ _ h => by simp [Memory.empty] at h,fun _ _ h => by simp [Memory.empty] at h,
    fun _ _ => rfl,fun _ h => by simp [Memory.empty,has] at h⟩

variable {m : Memory} {id : JsString}

theorem WellFormed.finish (h : WellFormed m) (id : JsString) (e : Option JsString) :
    WellFormed (m.finish id e) where
  deliveryId_eq := h.deliveryId_eq
  pending_stored id' d hd := by
    rw [pending_finish] at hd
    split at hd
    · exact absurd hd (by simp)
    · exact h.pending_stored id' d hd
  pending_open id' hp := by
    rw [has_pending_finish,Bool.and_eq_true,Bool.not_eq_true',decide_eq_false_iff_not] at hp
    rw [has_terminal_finish,h.pending_open id' hp.2]
    simp [hp.1]
  stored_settled id' hd := by
    rw [has_pending_finish,has_terminal_finish]
    by_cases hid : id' = id
    · simp [hid]
    · simpa [hid] using h.stored_settled id' hd

/-- Storing a delivery under its own ID, as a new pending entry or over the pending one. -/
theorem WellFormed.store (h : WellFormed m) (d : Delivery)
    (hopen : m.terminal.has d.deliveryId = false) : WellFormed (m.store d) where
  deliveryId_eq id d' hd := by
    change (m.deliveries.set _ _).get id = some d' at hd
    rw [get_set] at hd
    split at hd
    · next hid => rw [hid,← some.inj hd]
    · exact h.deliveryId_eq id d' hd
  pending_stored id d' hd := by
    change (m.pendingEntries.set _ _).get id = some d' at hd
    show (m.deliveries.set _ _).get id = some d'
    rw [get_set] at hd ⊢
    split at hd
    · next hid => rwa [if_pos hid]
    · next hid => rw [if_neg hid]; exact h.pending_stored id d' hd
  pending_open id hp := by
    change (m.pendingEntries.set _ _).has id = true at hp
    rw [has,get_set] at hp
    by_cases hid : id = d.deliveryId
    · exact hid ▸ hopen
    · rw [if_neg hid] at hp
      exact h.pending_open id hp
  stored_settled id hd := by
    change (m.deliveries.set _ _).has id = true at hd
    show (m.pendingEntries.set _ _).has id = true ∨ _
    rw [has,get_set] at hd ⊢
    by_cases hid : id = d.deliveryId
    · simp [hid]
    · rw [if_neg hid] at hd ⊢
      exact h.stored_settled id hd

theorem loadEntry_pending {d : Delivery} (hopen : m.terminal.has d.deliveryId = false) :
    loadEntry m (.pending d) = m.store d := by
  simp only [loadEntry,hopen,Bool.false_eq_true,if_false]
  rfl

theorem withMetadata_metadataFor (d : EventDelivery) (metadata : DeliveryMetadata) :
    withMetadata d (metadataFor (withMetadata d metadata)) = withMetadata d metadata := by
  obtain ⟨p,s⟩ := metadata
  cases p <;> cases s <;> simp [withMetadata,metadataFor]

theorem loadEntry_classified (h : WellFormed m) {d : EventDelivery}
    (hd : m.pendingEntries.get id = some (.event d)) (metadata : DeliveryMetadata) (now : ℤ) :
    loadEntry m (.classified d.deliveryId (metadataFor (withMetadata d metadata)) now) =
      m.store (.event (withMetadata d metadata)) := by
  have hstored := h.pending_stored id _ hd
  have hid : d.deliveryId = id := h.deliveryId_eq id _ hstored
  have hhas : m.pendingEntries.has d.deliveryId := by
    rw [hid,has,hd]
    rfl
  simp only [loadEntry,hid ▸ hstored,withMetadata_metadataFor,hhas,if_true]
  rfl

theorem WellFormed.loadEntry (h : WellFormed m) (e : OutboxEntry) : WellFormed (loadEntry m e) := by
  cases e with
  | delivered id eventId at' => exact h.finish id _
  | superseded id at' reason => exact h.finish id _
  | pending d =>
    by_cases hopen : m.terminal.has d.deliveryId
    · have hpend : m.pendingEntries.get d.deliveryId = none := by
        by_contra hne
        have hhas : m.pendingEntries.has d.deliveryId := by
          rwa [has,Option.isSome_iff_ne_none]
        rw [h.pending_open _ hhas] at hopen
        exact absurd hopen (by simp)
      simp only [Outbox.loadEntry,hopen,if_true]
      refine ⟨fun id d' hd => ?_,fun id d' hd => ?_,h.pending_open,fun id hd => ?_⟩
      · rw [get_set] at hd
        split at hd
        · next hid => rw [hid,← some.inj hd]
        · exact h.deliveryId_eq id d' hd
      · have hid : id ≠ d.deliveryId := by
          rintro rfl
          rw [hpend] at hd
          exact absurd hd (by simp)
        rw [get_set_of_ne _ _ hid]
        exact h.pending_stored id d' hd
      · by_cases hid : id = d.deliveryId
        · exact .inr (hid ▸ hopen)
        · rw [has,get_set_of_ne _ _ hid] at hd
          exact h.stored_settled id hd
    · rw [Bool.not_eq_true] at hopen
      rw [loadEntry_pending hopen]
      exact h.store d hopen
  | classified id metadata at' =>
    simp only [Outbox.loadEntry]
    split
    · next d hd =>
      have hid : (withMetadata d metadata).deliveryId = id := h.deliveryId_eq id _ hd
      by_cases hpend : m.pendingEntries.has id
      · have hstore := h.store (.event (withMetadata d metadata))
          (show m.terminal.has (withMetadata d metadata).deliveryId = false from
            hid ▸ h.pending_open id hpend)
        have heq : m.store (.event (withMetadata d metadata)) = { m with
            deliveries := m.deliveries.set id (.event (withMetadata d metadata))
            pendingEntries := m.pendingEntries.set id (.event (withMetadata d metadata)) } := by
          unfold Memory.store
          simp only [Delivery.deliveryId,hid]
        simp only [hpend,if_true]
        exact heq ▸ hstore
      · simp only [hpend,Bool.false_eq_true,if_false]
        refine ⟨fun id' d' hd' => ?_,fun id' d' hd' => ?_,h.pending_open,fun id' hd' => ?_⟩
        · rw [get_set] at hd'
          split at hd'
          · next hid' => rw [hid',← some.inj hd']; exact hid
          · exact h.deliveryId_eq id' d' hd'
        · have hne : id' ≠ id := by
            rintro rfl
            exact hpend (by rw [has,hd']; rfl)
          rw [get_set_of_ne _ _ hne]
          exact h.pending_stored id' d' hd'
        · by_cases hne : id' = id
          · exact hne ▸ h.stored_settled id (by rw [has,hd]; rfl)
          · rw [has,get_set_of_ne _ _ hne] at hd'
            exact h.stored_settled id' hd'
    · exact h

theorem WellFormed.replay (h : WellFormed m) (es : List OutboxEntry) : WellFormed (replay m es) := by
  induction es generalizing m with
  | nil => exact h
  | cons e es ih => exact ih (h.loadEntry e)

theorem foldl_addToSet (ids : List JsString) : ∀ (acc : List JsString),
    ids.Nodup → ids.foldl addToSet acc = acc ++ ids.filter (fun id => id ∉ acc) := by
  induction ids with
  | nil => simp
  | cons id ids ih =>
    intro acc h
    rw [nodup_cons] at h
    rw [foldl_cons,ih _ h.2,addToSet]
    by_cases hid : id ∈ acc
    · simp [hid]
    · have hfilter : ids.filter (fun x => x ∉ acc ++ [id]) = ids.filter (fun x => x ∉ acc) := by
        apply filter_congr
        intro x hx
        have hne : x ≠ id := fun hc => h.1 (hc ▸ hx)
        simp [hne]
      rw [if_neg hid,hfilter]
      simp [hid]

/-- Every latest state is a stored delivery, filed under its own index. -/
theorem latestStates_stored {k : JsString} {d : StateDelivery}
    (h : (latestStates m).get k = some d) : .state d ∈ m.deliveries.values ∧ stateIndex d = k := by
  have hgo : ∀ (ds : List Delivery) (acc : InsertionMap JsString StateDelivery),
      (∀ k d,acc.get k = some d → .state d ∈ m.deliveries.values ∧ stateIndex d = k) →
      (∀ d ∈ ds,d ∈ m.deliveries.values) →
      ∀ k d, (ds.foldl keepLatest acc).get k = some d →
        .state d ∈ m.deliveries.values ∧ stateIndex d = k := by
    intro ds
    induction ds with
    | nil => exact fun acc hacc _ => hacc
    | cons d ds ih =>
      intro acc hacc hds
      refine ih (keepLatest acc d) ?_ (fun x hx => hds x (mem_cons_of_mem d hx))
      cases d with
      | event d => exact hacc
      | state d =>
        have hset : ∀ k d',(acc.set (stateIndex d) d).get k = some d' →
            .state d' ∈ m.deliveries.values ∧ stateIndex d' = k := by
          intro k d' hd'
          rw [get_set] at hd'
          split at hd'
          · next hk => rw [← some.inj hd']; exact ⟨hds _ (by simp),hk.symm⟩
          · exact hacc k d' hd'
        simp only [keepLatest]
        split
        · exact hset
        split
        · exact hset
        · exact hacc
  exact hgo m.deliveries.values .empty (by simp) (fun _ h => h) k d h

theorem latestStates_get_deliveryId (h : WellFormed m) {k : JsString} {d : StateDelivery}
    (hd : (latestStates m).get k = some d) : m.deliveries.get d.deliveryId = some (.state d) := by
  obtain ⟨id,hid⟩ := mem_values.mp (latestStates_stored hd).1
  have heq : d.deliveryId = id := h.deliveryId_eq id _ hid
  rwa [heq]

theorem nodup_latestStates (h : WellFormed m) : ((latestStates m).values.map (·.deliveryId)).Nodup := by
  have hk := (latestStates m).nodup_keys
  rw [values,map_map]
  refine List.Nodup.map_on ?_ (List.Nodup.of_map _ hk)
  rintro ⟨k,d⟩ he ⟨k',d'⟩ he' heq
  have hd := get_eq_some.mpr he
  have hd' := get_eq_some.mpr he'
  have hsame := latestStates_get_deliveryId h hd
  rw [show d.deliveryId = d'.deliveryId from heq,latestStates_get_deliveryId h hd',some.injEq,
    Delivery.state.injEq] at hsame
  subst hsame
  rw [← (latestStates_stored hd).2,← (latestStates_stored hd').2]

theorem retainedDeliveryIds_eq (h : WellFormed m) : retainedDeliveryIds m =
    m.pendingEntries.keys ++
      ((latestStates m).values.map (·.deliveryId)).filter (fun id => id ∉ m.pendingEntries.keys) :=
  foldl_addToSet _ _ (nodup_latestStates h)

theorem mem_retainedDeliveryIds (h : WellFormed m) :
    id ∈ retainedDeliveryIds m ↔ m.pendingEntries.has id ∨
      ∃ k d, (latestStates m).get k = some d ∧ d.deliveryId = id := by
  rw [retainedDeliveryIds_eq h,mem_append,mem_filter,has_iff_mem_keys]
  simp only [mem_map,mem_values,decide_eq_true_eq]
  by_cases hid : id ∈ m.pendingEntries.keys
  · simp [hid]
  · simp only [hid,false_or,not_false_eq_true,and_true]
    constructor
    · rintro ⟨d,⟨k,hk⟩,hd⟩
      exact ⟨k,d,hk,hd⟩
    · rintro ⟨k,d,hk,hd⟩
      exact ⟨d,⟨k,hk⟩,hd⟩

/-- The catalog entries that compaction keeps, in the order of the new log. -/
def retainedEntries (m : Memory) : List (JsString × Delivery) :=
  (retainedDeliveryIds m).filterMap (fun id => (m.deliveries.get id).map (fun d => (id,d)))

theorem mem_retainedEntries {d : Delivery} :
    (id,d) ∈ retainedEntries m ↔ id ∈ retainedDeliveryIds m ∧ m.deliveries.get id = some d := by
  simp only [retainedEntries,mem_filterMap,Option.map_eq_some_iff,Prod.mk.injEq]
  constructor
  · rintro ⟨_,h,_,hd,rfl,rfl⟩
    exact ⟨h,hd⟩
  · rintro ⟨h,hd⟩
    exact ⟨id,h,d,hd,rfl,rfl⟩

theorem retainedDeliveryIds_stored (h : WellFormed m)
    (hid : id ∈ retainedDeliveryIds m) : ∃ d, m.deliveries.get id = some d := by
  rcases (mem_retainedDeliveryIds h).mp hid with hp | ⟨k,d,hd,rfl⟩
  · obtain ⟨d,hd⟩ := has_iff.mp hp
    exact ⟨d,h.pending_stored id d hd⟩
  · exact ⟨.state d,latestStates_get_deliveryId h hd⟩

private theorem map_fst_filterMap {ids : List JsString} {get : JsString → Option Delivery}
    (h : ∀ id ∈ ids,∃ d,get id = some d) :
    (ids.filterMap (fun id => (get id).map (fun d => (id,d)))).map Prod.fst = ids := by
  induction ids with
  | nil => rfl
  | cons id ids ih =>
    obtain ⟨d,hd⟩ := h id (by simp)
    simp only [filterMap_cons,hd,Option.map_some,map_cons]
    rw [ih (fun x hx => h x (mem_cons_of_mem id hx))]

theorem map_fst_retainedEntries (h : WellFormed m) : (retainedEntries m).map Prod.fst = retainedDeliveryIds m :=
  map_fst_filterMap (fun _ hid => retainedDeliveryIds_stored h hid)

theorem nodup_retainedDeliveryIds (h : WellFormed m) : (retainedDeliveryIds m).Nodup := by
  rw [retainedDeliveryIds_eq h]
  refine List.Nodup.append m.pendingEntries.nodup_keys ((nodup_latestStates h).filter _) ?_
  intro id hid hid'
  have := (mem_filter.mp hid').2
  simp only [decide_eq_true_eq] at this
  exact this hid

/-- The kept entries are the pending ones in their order, then latest states. -/
theorem retainedEntries_eq (h : WellFormed m) : ∃ ws, retainedEntries m =
    m.pendingEntries.entries ++ ws ∧ ∀ e ∈ ws, e.1 ∉ m.pendingEntries.keys ∧
      ∃ k d, e.2 = .state d ∧ (latestStates m).get k = some d := by
  rw [retainedEntries,retainedDeliveryIds_eq h,filterMap_append]
  refine ⟨_,congrArg (· ++ _) ?_,?_⟩
  · have hentries : ∀ es : List (JsString × Delivery),
        (∀ e ∈ es,m.deliveries.get e.1 = some e.2) →
        (es.map Prod.fst).filterMap (fun id => (m.deliveries.get id).map (fun d => (id,d))) = es := by
      intro es
      induction es with
      | nil => intro _; rfl
      | cons e es ih =>
        intro hes
        simp only [map_cons,filterMap_cons,hes e (by simp),Option.map_some]
        rw [ih (fun x hx => hes x (mem_cons_of_mem e hx))]
    exact hentries _ (fun e he => h.pending_stored e.1 e.2 (get_eq_some.mpr he))
  · rintro ⟨id,d⟩ he
    simp only [mem_filterMap,mem_filter,mem_map,mem_values,
      decide_eq_true_eq,Option.map_eq_some_iff,Prod.mk.injEq] at he
    obtain ⟨id',⟨⟨w,⟨k,hk⟩,hw⟩,hnot⟩,d',hd,rfl,rfl⟩ := he
    refine ⟨hnot,k,w,?_,hk⟩
    rw [← hw,latestStates_get_deliveryId h hk] at hd
    exact (some.inj hd).symm

theorem compactedEntries_eq (m : Memory) (compactedAt : Timestamp) : compactedEntries m compactedAt =
    (retainedEntries m).map (fun e => .pending e.2) ++
      m.terminal.entries.map (terminalEntry compactedAt.ms) := by
  simp only [compactedEntries,retainedEntries,map_filterMap,Option.map_map]
  rfl

private theorem replay_pendings (hm : m.terminal = .empty)
    (es : List (JsString × Delivery)) (hes : ∀ e ∈ es,e.2.deliveryId = e.1) :
    replay m (es.map (fun e => .pending e.2)) = { m with
      deliveries := es.foldl (fun t e => t.set e.1 e.2) m.deliveries
      pendingEntries := es.foldl (fun t e => t.set e.1 e.2) m.pendingEntries } := by
  induction es generalizing m with
  | nil => rfl
  | cons e es ih =>
    have hopen : m.terminal.has e.2.deliveryId = false := by rw [hm]; rfl
    have hstep : loadEntry m (.pending e.2) = m.store e.2 := loadEntry_pending hopen
    rw [map_cons,replay,foldl_cons,hstep,← replay,
      ih (m := m.store e.2) hm (fun x hx => hes x (mem_cons_of_mem e hx))]
    simp only [Memory.store,hes e (by simp),foldl_cons]

theorem loadEntry_terminalEntry (m : Memory) (at' : ℤ) (e : JsString × Option JsString) :
    loadEntry m (terminalEntry at' e) = m.finish e.1 (e.2.filter JsString.truthy) := by
  obtain ⟨id,e⟩ := e
  cases e with
  | none => rfl
  | some eventId =>
    simp only [terminalEntry]
    by_cases h : eventId.truthy = true <;> simp [h,loadEntry,Option.filter]

private theorem replay_terminals (m : Memory) (at' : ℤ) (ts : List (JsString × Option JsString)) :
    (replay m (ts.map (terminalEntry at'))).deliveries = m.deliveries ∧
    (replay m (ts.map (terminalEntry at'))).pendingEntries.entries =
      m.pendingEntries.entries.filter (fun e => e.1 ∉ ts.map Prod.fst) ∧
    (replay m (ts.map (terminalEntry at'))).terminal =
      (ts.map (fun e => (e.1,e.2.filter JsString.truthy))).foldl (fun t e => t.set e.1 e.2)
        m.terminal := by
  induction ts generalizing m with
  | nil => simp [replay]
  | cons t ts ih =>
    obtain ⟨hd,hp,ht⟩ := ih (loadEntry m (terminalEntry at' t))
    rw [loadEntry_terminalEntry] at hd hp ht
    simp only [map_cons,replay,foldl_cons,loadEntry_terminalEntry]
    refine ⟨hd,?_,ht⟩
    rw [replay] at hp
    rw [hp]
    simp only [Memory.finish,delete,InsertionMap.filter,filter_filter]
    apply filter_congr
    intro e _
    by_cases hid : e.1 = t.1 <;> simp [hid]

theorem replay_compactedEntries (h : WellFormed m) (compactedAt : Timestamp) (b n : ℕ) :
    (replay ⟨.empty,.empty,.empty,b,n⟩ (compactedEntries m compactedAt)).pendingEntries =
      m.pendingEntries ∧ (replay ⟨.empty,.empty,.empty,b,n⟩ (compactedEntries m compactedAt)).deliveries.entries =
      retainedEntries m ∧ (replay ⟨.empty,.empty,.empty,b,n⟩ (compactedEntries m compactedAt)).terminal.entries =
      m.terminal.entries.map (fun e => (e.1,e.2.filter JsString.truthy)) := by
  have hids : ∀ e ∈ retainedEntries m,e.2.deliveryId = e.1 := fun e he =>
    h.deliveryId_eq e.1 e.2 (mem_retainedEntries.mp he).2
  have hnodup : ((retainedEntries m).map Prod.fst).Nodup := map_fst_retainedEntries h ▸ nodup_retainedDeliveryIds h
  have hfold : ((retainedEntries m).foldl (fun t e => t.set e.1 e.2)
      (.empty : InsertionMap JsString Delivery)).entries = retainedEntries m := by
    rw [entries_foldl_set (by simpa [InsertionMap.keys,InsertionMap.empty] using hnodup)]
    rfl
  rw [compactedEntries_eq,replay_append,replay_pendings rfl _ hids]
  obtain ⟨hd,hp,ht⟩ := replay_terminals ⟨(retainedEntries m).foldl (fun t e => t.set e.1 e.2) .empty,
    (retainedEntries m).foldl (fun t e => t.set e.1 e.2) .empty,.empty,b,n⟩ compactedAt.ms
    m.terminal.entries
  refine ⟨?_,?_,?_⟩
  · apply InsertionMap.ext
    rw [hp,hfold]
    obtain ⟨ws,hws,hmem⟩ := retainedEntries_eq h
    rw [hws,filter_append]
    have hpending : m.pendingEntries.entries.filter (fun e => e.1 ∉ m.terminal.entries.map Prod.fst) =
        m.pendingEntries.entries := by
      rw [filter_eq_self]
      rintro ⟨id,d⟩ he
      have hopen := h.pending_open id (has_iff.mpr ⟨d,get_eq_some.mpr he⟩)
      rw [decide_eq_true_eq,← InsertionMap.keys,← has_iff_mem_keys,hopen]
      simp
    have hothers : ws.filter (fun e => e.1 ∉ m.terminal.entries.map Prod.fst) = [] := by
      rw [filter_eq_nil_iff]
      rintro ⟨id,d⟩ he
      obtain ⟨hnot,k,w,rfl,hk⟩ := hmem _ he
      have hget := (mem_retainedEntries.mp (hws ▸ mem_append_right _ he)).2
      have hset := (h.stored_settled id (has_iff.mpr ⟨_,hget⟩)).resolve_left (fun hp => hnot (has_iff_mem_keys.mp hp))
      rw [decide_eq_true_eq,← InsertionMap.keys,← has_iff_mem_keys]
      exact not_not_intro hset
    rw [hpending,hothers,append_nil]
  · rw [hd,hfold]
  · rw [ht,entries_foldl_set]
    · rfl
    · simpa [InsertionMap.keys,InsertionMap.empty,map_map,Function.comp_def] using m.terminal.nodup_keys

end Malink.Outbox
