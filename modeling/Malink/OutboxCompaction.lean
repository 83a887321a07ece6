import Malink.OutboxRuns
import Malink.PreferredElements

/-!
# What compaction preserves

`latestState` takes the last of the newest surviving deliveries of a key, `compact` keeps the first of all the newest.
The two agree exactly on the memories that `CompactionSafe` describes.
-/

namespace Malink.Outbox

open List InsertionMap
open Option (some)
open Outbox.Delivery (deliveryId)
open Prod (snd)

def SameKey (d e : StateDelivery) : Prop := d.roomId = e.roomId ∧ d.eventType = e.eventType ∧ d.stateKey = e.stateKey

structure SameReads (a b : Memory) : Prop where
  pending : ∀ roomId, a.pending roomId = b.pending roomId
  isPending : ∀ id, a.isPending id = b.isPending id
  deliveredEventId : ∀ id, a.deliveredEventId id = b.deliveredEventId id
  latestState : ∀ roomId eventType stateKey,
    a.latestState roomId eventType stateKey = b.latestState roomId eventType stateKey

/-- Neither a compaction nor a compaction with a start over the new file changes what callers read. -/
def CompactionTransparent (m : Memory) : Prop :=
  ∀ compactedAt : Timestamp, SameReads (compact m compactedAt).after m ∧
    ∀ (o : Options) (loadedAt : Timestamp) (file : WalFile), ∃ m' cs,
      initializeFrom o loadedAt ((compact m compactedAt).write.apply file) = some (m',cs) ∧
        SameReads (lastMemory m' cs) m

/-- The surviving delivery of its key that was stored last among the newest. -/
def LatestSurvivor (m : Memory) (d : StateDelivery) : Prop :=
  ∃ pre post, m.deliveries.values = pre ++ .state d :: post ∧ m.survives d.deliveryId ∧
    (∀ e,.state e ∈ pre → SameKey e d → m.survives e.deliveryId → e.createdAt ≤ d.createdAt) ∧
    ∀ e, .state e ∈ post → SameKey e d → m.survives e.deliveryId → e.createdAt < d.createdAt

/-- The delivery of its index that was stored first among the newest, superseded ones included. -/
def FirstNewest (m : Memory) (d : StateDelivery) : Prop :=
  ∃ pre post, m.deliveries.values = pre ++ .state d :: post ∧
    (∀ e,.state e ∈ pre → stateIndex e = stateIndex d → e.createdAt < d.createdAt) ∧
    ∀ e, .state e ∈ post → stateIndex e = stateIndex d → e.createdAt ≤ d.createdAt

structure CompactionSafe (m : Memory) : Prop where
  readable : ∀ id d, m.deliveries.get id = some d →
    m.isPending id ∨ (∃ w,d = .state w ∧ FirstNewest m w) → d.readable
  named : ∀ id eventId, m.deliveredEventId id = some eventId → eventId.truthy
  latest : ∀ d, LatestSurvivor m d →
    (m.isPending d.deliveryId ∧ ∀ w,FirstNewest m w → SameKey w d →
      m.isDelivered w.deliveryId → w.createdAt ≠ d.createdAt) ∨
    (m.isPending d.deliveryId = false ∧ FirstNewest m d ∧ ∀ p,.state p ∈ m.pendingEntries.values →
      stateIndex p = stateIndex d → p.createdAt < d.createdAt)

def survivorOf (m : Memory) (roomId eventType stateKey : JsString) (d : Delivery) :
    Option StateDelivery :=
  (isStateOf roomId eventType stateKey d).filter (fun s => m.survives s.deliveryId)

variable {m : Memory} {k : JsString} {d e s : StateDelivery}

theorem survivorOf_eq_some {r t : JsString} {d : Delivery} :
    survivorOf m r t k d = some s ↔ d = .state s ∧ (s.roomId = r ∧ s.eventType = t ∧ s.stateKey = k) ∧
      m.survives s.deliveryId := by
  cases d with
  | event d => simp [survivorOf,isStateOf]
  | state d =>
    simp only [survivorOf,isStateOf,Delivery.state.injEq,Option.filter_eq_some_iff,
      Option.ite_none_right_eq_some,some.injEq]
    constructor
    · rintro ⟨⟨h,rfl⟩,hs⟩
      exact ⟨rfl,h,hs⟩
    · rintro ⟨rfl,h,hs⟩
      exact ⟨⟨h,rfl⟩,hs⟩

def indexedBy (k : JsString) : Delivery → Option StateDelivery
  | .event _ => none
  | .state d => if stateIndex d = k then some d else none

theorem indexedBy_eq_some {d : Delivery} : indexedBy k d = some s ↔ d = .state s ∧ stateIndex s = k := by
  cases d with
  | event d => simp [indexedBy]
  | state d =>
    simp only [indexedBy,Delivery.state.injEq,Option.ite_none_right_eq_some,some.injEq]
    constructor
    · rintro ⟨h,rfl⟩
      exact ⟨rfl,h⟩
    · rintro ⟨rfl,h⟩
      exact ⟨h,rfl⟩

abbrev notNewer (d e : StateDelivery) : Prop := d.createdAt ≤ e.createdAt
abbrev strictlyOlder (d e : StateDelivery) : Prop := d.createdAt < e.createdAt

theorem preference_notNewer : Preference notNewer := preference_le StateDelivery.createdAt
theorem preference_strictlyOlder : Preference strictlyOlder := preference_lt StateDelivery.createdAt

theorem latestState_eq (m : Memory) (r t k : JsString) : m.latestState r t k =
    preferred notNewer (m.deliveries.values.filterMap (survivorOf m r t k)) := by
  rw [preferred,foldl_filterMap,Memory.latestState]
  congr 1
  funext latest d
  unfold survivorOf
  cases isStateOf r t k d with
  | none => rfl
  | some s =>
    by_cases h : m.survives s.deliveryId
    · simp only [h,if_true,Option.filter_some]
      cases latest <;> rfl
    · simp [h,Option.filter]

theorem get_latestStates (m : Memory) (k : JsString) : (latestStates m).get k =
    preferred strictlyOlder (m.deliveries.values.filterMap (indexedBy k)) := by
  have hgo : ∀ (ds : List Delivery) (acc : InsertionMap JsString StateDelivery),
      (ds.foldl keepLatest acc).get k =
        (ds.filterMap (indexedBy k)).foldl (replaceBy strictlyOlder) (acc.get k) := by
    intro ds
    induction ds with
    | nil => exact fun _ => rfl
    | cons d ds ih =>
      intro acc
      rw [foldl_cons,ih]
      cases d with
      | event d => rfl
      | state d =>
        by_cases hk : stateIndex d = k
        · have hsel : indexedBy k (.state d) = some d := indexedBy_eq_some.mpr ⟨rfl,hk⟩
          rw [filterMap_cons_some hsel,foldl_cons]
          congr 1
          simp only [keepLatest,hk]
          cases hacc : acc.get k with
          | none => simp [replaceBy]
          | some c =>
            simp only [replaceBy]
            split
            · exact get_set_self _ _ _
            · exact hacc
        · have hsel : indexedBy k (.state d) = none := if_neg hk
          rw [filterMap_cons_none hsel]
          congr 1
          simp only [keepLatest]
          have hne : k ≠ stateIndex d := fun h => hk h.symm
          split
          · exact get_set_of_ne _ _ hne
          split
          · exact get_set_of_ne _ _ hne
          · rfl
  exact hgo m.deliveries.values .empty

theorem latestState_eq_some {r t : JsString} : m.latestState r t k = some d ↔
      (d.roomId = r ∧ d.eventType = t ∧ d.stateKey = k) ∧ LatestSurvivor m d := by
  rw [latestState_eq,preferred_filterMap_eq_some preference_notNewer]
  constructor
  · rintro ⟨pre,x,post,heq,hx,hpre,hpost⟩
    obtain ⟨rfl,hkey,hs⟩ := survivorOf_eq_some.mp hx
    refine ⟨hkey,pre,post,heq,hs,fun e he hsame hes => ?_,fun e he hsame hes => ?_⟩
    · obtain ⟨rfl,rfl,rfl⟩ := hkey
      exact hpre _ he e (survivorOf_eq_some.mpr ⟨rfl,hsame,hes⟩)
    · obtain ⟨rfl,rfl,rfl⟩ := hkey
      exact not_le.mp (hpost _ he e (survivorOf_eq_some.mpr ⟨rfl,hsame,hes⟩))
  · rintro ⟨⟨rfl,rfl,rfl⟩,pre,post,heq,hs,hpre,hpost⟩
    refine ⟨pre,.state d,post,heq,survivorOf_eq_some.mpr ⟨rfl,⟨rfl,rfl,rfl⟩,hs⟩,?_,?_⟩
    · intro y hy e he
      obtain ⟨rfl,hsame,hes⟩ := survivorOf_eq_some.mp he
      exact hpre e hy hsame hes
    · intro y hy e he
      obtain ⟨rfl,hsame,hes⟩ := survivorOf_eq_some.mp he
      exact not_le.mpr (hpost e hy hsame hes)

theorem latestStates_eq_some : (latestStates m).get k = some d ↔ stateIndex d = k ∧ FirstNewest m d := by
  rw [get_latestStates,preferred_filterMap_eq_some preference_strictlyOlder]
  constructor
  · rintro ⟨pre,x,post,heq,hx,hpre,hpost⟩
    obtain ⟨rfl,rfl⟩ := indexedBy_eq_some.mp hx
    exact ⟨rfl,pre,post,heq,fun e he hk => hpre _ he e (indexedBy_eq_some.mpr ⟨rfl,hk⟩),
      fun e he hk => not_lt.mp (hpost _ he e (indexedBy_eq_some.mpr ⟨rfl,hk⟩))⟩
  · rintro ⟨rfl,pre,post,heq,hpre,hpost⟩
    refine ⟨pre,.state d,post,heq,indexedBy_eq_some.mpr ⟨rfl,rfl⟩,?_,?_⟩
    · intro y hy e he
      obtain ⟨rfl,hk⟩ := indexedBy_eq_some.mp he
      exact hpre e hy hk
    · intro y hy e he
      obtain ⟨rfl,hk⟩ := indexedBy_eq_some.mp he
      exact not_lt.mpr (hpost e hy hk)

theorem FirstNewest.unique (hd : FirstNewest m d) (he : FirstNewest m e) (h : stateIndex d = stateIndex e) : d = e := by
  have h₁ := latestStates_eq_some.mpr ⟨h,hd⟩
  have h₂ := latestStates_eq_some.mpr ⟨rfl,he⟩
  exact some.inj (h₁.symm.trans h₂)

theorem SameKey.stateIndex (h : SameKey d e) : stateIndex d = stateIndex e := by
  obtain ⟨hr,ht,hk⟩ := h
  rw [Outbox.stateIndex,hr,ht,hk,Outbox.stateIndex]

theorem mem_retainedDeliveryIds_iff (h : WellFormed m) {id : JsString} :
    id ∈ retainedDeliveryIds m ↔ m.isPending id ∨ ∃ w, FirstNewest m w ∧ w.deliveryId = id := by
  rw [mem_retainedDeliveryIds h,Memory.isPending]
  apply or_congr_right
  constructor
  · rintro ⟨k,w,hw,hid⟩
    exact ⟨w,(latestStates_eq_some.mp hw).2,hid⟩
  · rintro ⟨w,hw,hid⟩
    exact ⟨_,w,latestStates_eq_some.mpr ⟨rfl,hw⟩,hid⟩

theorem values_compact (h : WellFormed m) (compactedAt : Timestamp) : (compact m compactedAt).after.deliveries.values =
      m.deliveries.values.filter (fun d => d.deliveryId ∈ retainedDeliveryIds m) := by
  show (m.deliveries.entries.filter (fun e => e.1 ∈ retainedDeliveryIds m)).map snd =
    (m.deliveries.entries.map snd).filter _
  rw [filter_map]
  congr 1
  apply filter_congr
  intro e he
  have hid := h.deliveryId_eq e.1 e.2 (get_eq_some.mpr he)
  rw [Function.comp_apply,hid]

theorem latestState_compact (h : WellFormed m) (compactedAt : Timestamp)
    (r t k : JsString) : (compact m compactedAt).after.latestState r t k =
      preferred notNewer ((m.deliveries.values.filterMap (survivorOf m r t k)).filter
        (fun d => d.deliveryId ∈ retainedDeliveryIds m)) := by
  rw [latestState_eq,values_compact h]
  congr 1
  have hsame : survivorOf (compact m compactedAt).after r t k = survivorOf m r t k := rfl
  rw [hsame,filterMap_filter,filter_filterMap]
  congr 1
  funext d
  cases hs : survivorOf m r t k d with
  | none => simp
  | some s =>
    obtain ⟨rfl,-,-⟩ := survivorOf_eq_some.mp hs
    by_cases hid : s.deliveryId ∈ retainedDeliveryIds m <;>
      simp [deliveryId,hid,Option.filter]

theorem sameReads_compact_iff (h : WellFormed m) (compactedAt : Timestamp) :
    SameReads (compact m compactedAt).after m ↔
      ∀ d, LatestSurvivor m d → d.deliveryId ∈ retainedDeliveryIds m := by
  constructor
  · intro hsame d hd
    have hlatest := latestState_eq_some.mpr ⟨⟨rfl,rfl,rfl⟩,hd⟩
    rw [← hsame.latestState,latestState_compact h] at hlatest
    simpa using (mem_filter.mp (mem_of_preferred preference_notNewer hlatest)).2
  · intro hret
    refine ⟨fun _ => rfl,fun _ => rfl,fun _ => rfl,fun r t k => ?_⟩
    rw [latestState_compact h,latestState_eq]
    cases hd : preferred notNewer (m.deliveries.values.filterMap (survivorOf m r t k)) with
    | none => rw [preferred_eq_none.mp hd,filter_nil,preferred_nil]
    | some d =>
      refine preferred_filter preference_notNewer hd ?_
      rw [← latestState_eq,latestState_eq_some] at hd
      exact decide_eq_true (hret d hd.2)

/-- What a start finds in the log of `m`: pending deliveries first, then latest states. -/
structure LoadedFrom (m l : Memory) : Prop where
  wellFormed : WellFormed l
  pendingEntries : l.pendingEntries = m.pendingEntries
  deliveries : l.deliveries.entries = retainedEntries m
  terminal : ∀ id, l.deliveredEventId id = (m.deliveredEventId id).filter JsString.truthy

section Loaded

variable {m l : Memory}

theorem LoadedFrom.isDelivered (hl : LoadedFrom m l) (id : JsString) : l.isDelivered id = m.isDelivered id := by
  simp [Memory.isDelivered,Memory.receipt,hl.terminal,Option.filter_filter]

theorem LoadedFrom.survives (hl : LoadedFrom m l) (id : JsString) : l.survives id = m.survives id := by
  rw [Memory.survives,Memory.survives,hl.isDelivered,Memory.isPending,hl.pendingEntries,Memory.isPending]

theorem LoadedFrom.survivorOf (hl : LoadedFrom m l) (r t k : JsString) : survivorOf l r t k = survivorOf m r t k := by
  funext d
  unfold Outbox.survivorOf
  simp only [hl.survives]

/-- The catalog after a start, split into the pending deliveries and the other latest states. -/
theorem LoadedFrom.values (hl : LoadedFrom m l) (hm : WellFormed m) : ∃ ws : List StateDelivery,
    l.deliveries.values = m.pendingEntries.values ++ ws.map Delivery.state ∧
      (m.pendingEntries.values ++ ws.map Delivery.state).Nodup ∧
      (∀ w,w ∈ ws ↔ FirstNewest m w ∧ m.isPending w.deliveryId = false) := by
  obtain ⟨es,hes,hmem⟩ := retainedEntries_eq hm
  have hstate : ∀ e ∈ es,∃ w,e.2 = .state w ∧ FirstNewest m w ∧ e.1 = w.deliveryId ∧
      m.isPending w.deliveryId = false := by
    intro e he
    obtain ⟨hnot,k,w,hw,hk⟩ := hmem e he
    have hget := (mem_retainedEntries.mp (hes ▸ mem_append_right _ he : (e.1,e.2) ∈ retainedEntries m)).2
    have hid : e.1 = w.deliveryId := by
      have := hm.deliveryId_eq e.1 e.2 hget
      rw [← this,hw]
      rfl
    refine ⟨w,hw,(latestStates_eq_some.mp hk).2,hid,?_⟩
    rw [← hid,Memory.isPending,Bool.eq_false_iff,ne_eq,has_iff_mem_keys]
    exact hnot
  obtain ⟨ws,hws⟩ : ∃ ws : List StateDelivery,es.map snd = ws.map Delivery.state := by
    clear hes hmem
    induction es with
    | nil => exact ⟨[],rfl⟩
    | cons e es ih =>
      obtain ⟨w,hw,-⟩ := hstate e (by simp)
      obtain ⟨ws,hws⟩ := ih (fun x hx => hstate x (mem_cons_of_mem e hx))
      exact ⟨w :: ws,by rw [map_cons,hws,hw]; rfl⟩
  have hvalues : (retainedEntries m).map snd = m.pendingEntries.values ++ ws.map Delivery.state := by
    rw [hes,map_append,hws]
    rfl
  refine ⟨ws,?_,?_,fun w => ?_⟩
  · rw [← hvalues,← hl.deliveries]
    rfl
  · rw [← hvalues]
    apply List.Nodup.of_map deliveryId
    have hids : ((retainedEntries m).map snd).map deliveryId = retainedDeliveryIds m := by
      rw [map_map,← map_fst_retainedEntries hm]
      apply map_congr_left
      rintro ⟨id,d⟩ he
      exact hm.deliveryId_eq id d (mem_retainedEntries.mp he).2
    rw [hids]
    exact nodup_retainedDeliveryIds hm
  · have hmem' : w ∈ ws ↔ .state w ∈ es.map snd := by
      rw [hws,mem_map]
      simp
    rw [hmem',mem_map]
    constructor
    · rintro ⟨e,he,hsel⟩
      obtain ⟨w',hw',hfirst,-,hpend⟩ := hstate e he
      rw [hw',Delivery.state.injEq] at hsel
      exact hsel ▸ ⟨hfirst,hpend⟩
    · rintro ⟨hfirst,hpend⟩
      have hget := latestStates_get_deliveryId hm (latestStates_eq_some.mpr ⟨rfl,hfirst⟩)
      have hin : (w.deliveryId,Delivery.state w) ∈ retainedEntries m :=
        mem_retainedEntries.mpr ⟨(mem_retainedDeliveryIds_iff hm).mpr (.inr ⟨w,hfirst,rfl⟩),hget⟩
      rw [hes,mem_append] at hin
      rcases hin with hin | hin
      · have hhas := has_iff.mpr ⟨_,get_eq_some.mpr hin⟩
        rw [Memory.isPending] at hpend
        exact absurd hhas (by simp [hpend])
      · exact ⟨_,hin,rfl⟩

variable {p : StateDelivery}

theorem mem_pending_values (hm : WellFormed m) :
    .state p ∈ m.pendingEntries.values ↔ m.pendingEntries.get p.deliveryId = some (.state p) := by
  rw [mem_values]
  constructor
  · rintro ⟨id,hid⟩
    have heq := hm.deliveryId_eq id _ (hm.pending_stored id _ hid)
    exact (show p.deliveryId = id from heq) ▸ hid
  · exact fun h => ⟨_,h⟩

variable {d : StateDelivery}

theorem LatestSurvivor.stored (h : LatestSurvivor m d) : .state d ∈ m.deliveries.values ∧ m.survives d.deliveryId := by
  obtain ⟨pre,post,heq,hs,-,-⟩ := h
  exact ⟨heq ▸ by simp,hs⟩

theorem LatestSurvivor.ge (h : LatestSurvivor m d) (he : .state e ∈ m.deliveries.values) (hkey : SameKey e d)
    (hs : m.survives e.deliveryId) : e.createdAt ≤ d.createdAt := by
  obtain ⟨pre,post,heq,-,hpre,hpost⟩ := h
  rw [heq,mem_append,mem_cons] at he
  rcases he with he | he | he
  · exact hpre e he hkey hs
  · rw [Delivery.state.injEq] at he
    exact he ▸ le_refl _
  · exact (hpost e he hkey hs).le

theorem get_of_mem_values (hm : WellFormed m) {d : Delivery} (h : d ∈ m.deliveries.values) :
    m.deliveries.get d.deliveryId = some d := by
  obtain ⟨id,hid⟩ := mem_values.mp h
  rwa [hm.deliveryId_eq id d hid]

theorem FirstNewest.stored (h : FirstNewest m d) : .state d ∈ m.deliveries.values := by
  obtain ⟨pre,post,heq,-,-⟩ := h
  exact heq ▸ by simp

theorem isPending_of_mem (hm : WellFormed m) (h : .state p ∈ m.pendingEntries.values) : m.isPending p.deliveryId :=
  has_iff.mpr ⟨_,(mem_pending_values hm).mp h⟩

theorem mem_of_isPending (hm : WellFormed m) (hd : .state d ∈ m.deliveries.values)
    (h : m.isPending d.deliveryId) : .state d ∈ m.pendingEntries.values := by
  obtain ⟨p,hp⟩ := has_iff.mp h
  have hstored := hm.pending_stored _ p hp
  rw [show m.deliveries.get d.deliveryId = some (.state d) from get_of_mem_values hm hd,
    some.injEq] at hstored
  exact mem_values.mpr ⟨_,hstored ▸ hp⟩

theorem not_isDelivered_of_isPending (hm : WellFormed m) {id : JsString} (h : m.isPending id) :
    m.isDelivered id = false := by
  have hopen := hm.pending_open id h
  have hnone : m.terminal.get id = none := by
    rw [has,Option.isSome_eq_false_iff,Option.isNone_iff_eq_none] at hopen
    exact hopen
  simp [Memory.isDelivered,Memory.receipt,Memory.deliveredEventId,hnone]

theorem LoadedFrom.latestState (hl : LoadedFrom m l) (hm : WellFormed m) (hone : OneState m)
    (hsafe : CompactionSafe m) (r t k : JsString) : l.latestState r t k = m.latestState r t k := by
  obtain ⟨ws,hvalues,hnodup,hws⟩ := hl.values hm
  have hsub : ∀ d,d ∈ l.deliveries.values → d ∈ m.deliveries.values := by
    intro d hd
    rw [hvalues,mem_append,mem_map] at hd
    rcases hd with hd | ⟨w,hw,rfl⟩
    · obtain ⟨id,hid⟩ := mem_values.mp hd
      exact mem_values.mpr ⟨id,hm.pending_stored id d hid⟩
    · exact ((hws w).mp hw).1.stored
  cases hd : m.latestState r t k with
  | none =>
    rw [latestState_eq,preferred_eq_none,filterMap_eq_nil_iff] at hd ⊢
    intro d hmem
    rw [hl.survivorOf]
    exact hd d (hsub d hmem)
  | some d =>
    obtain ⟨hkey,hlatest⟩ := latestState_eq_some.mp hd
    refine latestState_eq_some.mpr ⟨hkey,?_⟩
    have hother : ∀ p,.state p ∈ m.pendingEntries.values → SameKey p d → .state d ∈
        m.pendingEntries.values → p = d := by
      intro p hp hsame hdp
      have hp' := (mem_pending_values hm).mp hp
      have hd' := (mem_pending_values hm).mp hdp
      have hid := hone _ _ p d hp' hd' hsame.1 hsame.2.1 hsame.2.2
      rw [hid,hd',some.injEq,Delivery.state.injEq] at hp'
      exact hp'.symm
    rcases hsafe.latest d hlatest with ⟨hpend,htie⟩ | ⟨hpend,hfirst,hpending⟩
    · have hdp := mem_of_isPending hm hlatest.stored.1 hpend
      obtain ⟨pre,post,hsplit⟩ := append_of_mem hdp
      refine ⟨pre,post ++ ws.map Delivery.state,by rw [hvalues,hsplit]; simp,?_,?_,?_⟩
      · rw [hl.survives]
        exact hlatest.stored.2
      · intro e he hsame hs
        exact (hother e (hsplit ▸ mem_append_left _ he) hsame hdp) ▸ le_refl _
      · intro e he hsame hs
        rw [mem_append,mem_map] at he
        rcases he with he | ⟨w,hw,hwe⟩
        · have heq := hother e (hsplit ▸ by simp [he]) hsame hdp
          subst heq
          rw [hsplit,append_assoc,cons_append,nodup_middle,nodup_cons] at hnodup
          exact absurd (by simp [he]) hnodup.1
        · rw [Delivery.state.injEq] at hwe
          subst hwe
          obtain ⟨hw₁,hw₂⟩ := (hws w).mp hw
          rw [hl.survives,Memory.survives,hw₂,Bool.false_or] at hs
          have hle := hlatest.ge hw₁.stored hsame (by rw [Memory.survives,hs,Bool.or_true])
          exact lt_of_le_of_ne hle (htie w hw₁ hsame hs)
    · have hdw : d ∈ ws := (hws d).mpr ⟨hfirst,hpend⟩
      obtain ⟨pre,post,hsplit⟩ := append_of_mem hdw
      have honly : ∀ w ∈ ws,SameKey w d → w = d := fun w hw hsame =>
        ((hws w).mp hw).1.unique hfirst hsame.stateIndex
      refine ⟨m.pendingEntries.values ++ pre.map Delivery.state,post.map Delivery.state,
        by rw [hvalues,hsplit]; simp,?_,?_,?_⟩
      · rw [hl.survives]
        exact hlatest.stored.2
      · intro e he hsame hs
        rw [mem_append,mem_map] at he
        rcases he with he | ⟨w,hw,hwe⟩
        · exact (hpending e he hsame.stateIndex).le
        · rw [Delivery.state.injEq] at hwe
          subst hwe
          exact (honly w (hsplit ▸ by simp [hw]) hsame) ▸ le_refl _
      · intro e he hsame hs
        rw [mem_map] at he
        obtain ⟨w,hw,hwe⟩ := he
        rw [Delivery.state.injEq] at hwe
        subst hwe
        have heq := honly w (hsplit ▸ by simp [hw]) hsame
        subst heq
        rw [hsplit,map_append,map_cons,← append_assoc,nodup_middle,nodup_cons] at hnodup
        exact absurd (mem_append_right _ (mem_map_of_mem hw)) hnodup.1

/-- On a safe memory a second compaction, right after the start, keeps the latest states as well. -/
theorem LoadedFrom.mem_retained (hl : LoadedFrom m l) (hm : WellFormed m) (hone : OneState m)
    (hsafe : CompactionSafe m) (hd : LatestSurvivor l d) : d.deliveryId ∈ retainedDeliveryIds l := by
  have hlatest := latestState_eq_some.mpr ⟨⟨rfl,rfl,rfl⟩,hd⟩
  rw [hl.latestState hm hone hsafe,latestState_eq_some] at hlatest
  rw [mem_retainedDeliveryIds_iff hl.wellFormed,Memory.isPending,hl.pendingEntries]
  rcases hsafe.latest d hlatest.2 with ⟨hpend,-⟩ | ⟨hpend,hfirst,hpending⟩
  · exact .inl hpend
  · obtain ⟨ws,hvalues,hnodup,hws⟩ := hl.values hm
    obtain ⟨pre,post,hsplit⟩ := append_of_mem ((hws d).mpr ⟨hfirst,hpend⟩)
    have honly : ∀ w ∈ ws,stateIndex w = stateIndex d → w = d := fun w hw hsame =>
      ((hws w).mp hw).1.unique hfirst hsame
    refine .inr ⟨d,⟨m.pendingEntries.values ++ pre.map Delivery.state,post.map Delivery.state,
      by rw [hvalues,hsplit]; simp,fun e he hsame => ?_,fun e he hsame => ?_⟩,rfl⟩
    · rw [mem_append,mem_map] at he
      rcases he with he | ⟨w,hw,hwe⟩
      · exact hpending e he hsame
      · rw [Delivery.state.injEq] at hwe
        subst hwe
        have heq := honly w (hsplit ▸ by simp [hw]) hsame
        subst heq
        rw [hsplit,map_append,map_cons,← append_assoc,nodup_middle,nodup_cons] at hnodup
        exact absurd (by simp [hw]) hnodup.1
    · rw [mem_map] at he
      obtain ⟨w,hw,hwe⟩ := he
      rw [Delivery.state.injEq] at hwe
      subst hwe
      exact (honly w (hsplit ▸ by simp [hw]) hsame) ▸ le_refl _

theorem readable_terminalEntry (compactedAt : Timestamp) (e : JsString × Option JsString) :
    (terminalEntry compactedAt.ms e).readable := by
  obtain ⟨id,e⟩ := e
  cases e with
  | none => exact compactedAt.safe
  | some eventId =>
    simp only [terminalEntry]
    split <;> exact compactedAt.safe

theorem all_readable_compactedEntries (compactedAt : Timestamp) :
    (compactedEntries m compactedAt).all OutboxEntry.readable ↔
      ∀ id d, m.deliveries.get id = some d → id ∈ retainedDeliveryIds m → d.readable := by
  rw [compactedEntries_eq,all_append,Bool.and_eq_true,all_eq_true,all_eq_true]
  constructor
  · rintro ⟨h,-⟩ id d hd hid
    exact h (.pending d) (mem_map.mpr ⟨(id,d),mem_retainedEntries.mpr ⟨hid,hd⟩,rfl⟩)
  · refine fun h => ⟨fun e he => ?_,fun e he => ?_⟩
    · obtain ⟨⟨id,d⟩,hmem,rfl⟩ := mem_map.mp he
      have := mem_retainedEntries.mp hmem
      exact h id d this.2 this.1
    · obtain ⟨t,-,rfl⟩ := mem_map.mp he
      exact readable_terminalEntry compactedAt t

/-- A start over the compacted log that succeeds finds a memory loaded from `m`. -/
theorem loadedFrom_initializeFrom (hm : WellFormed m) (compactedAt loadedAt : Timestamp) (o : Options)
    (file : WalFile) : ((compactedEntries m compactedAt).all OutboxEntry.readable → ∃ l,
      LoadedFrom m l ∧ initializeFrom o loadedAt ((compact m compactedAt).write.apply file) =
        some (l,if o.compactAfterBytes ≤ byteLength (encodeEntries (compactedEntries m compactedAt)) ∨
            o.compactAfterEntries ≤ (splitLines (encodeEntries (compactedEntries m compactedAt))).countP
              (fun line => !isBlank line)
          then [compact l loadedAt] else [])) ∧ ((compactedEntries m compactedAt).all OutboxEntry.readable = false →
      initializeFrom o loadedAt ((compact m compactedAt).write.apply file) = none) := by
  set text := encodeEntries (compactedEntries m compactedAt) with htext
  have happly : (compact m compactedAt).write.apply file = some text := rfl
  have hload := loadLines_encodeEntries { Memory.empty with walBytes := byteLength text }
    (compactedEntries m compactedAt) []
  rw [append_nil,← htext,loadLines_nil] at hload
  rw [happly]
  simp only [initializeFrom,hload]
  constructor
  · intro hall
    obtain ⟨hp,hd,ht⟩ := replay_compactedEntries hm compactedAt (byteLength text) 0
    refine ⟨_,⟨?_,hp,hd,fun id => ?_⟩,by rw [if_pos hall]; rfl⟩
    · exact ((wellFormed_empty.of_same (sameContents_walBytes .empty _).symm).replay _)
    · rw [Memory.deliveredEventId,Memory.deliveredEventId]
      have hget := has_normalized m.terminal ht id
      change (replay ⟨.empty,.empty,.empty,byteLength text,0⟩ _).terminal.get id = _ at hget
      change ((replay ⟨.empty,.empty,.empty,byteLength text,0⟩ _).terminal.get id).join = _
      rw [hget]
      cases m.terminal.get id with
      | none | some => rfl
  · intro hall
    simp [hall]

theorem LoadedFrom.deliveredEventId_eq (hl : LoadedFrom m l) : (∀ id,l.deliveredEventId id = m.deliveredEventId id) ↔
    ∀ id eventId, m.deliveredEventId id = some eventId → eventId.truthy := by
  constructor
  · intro h id eventId he
    have := h id
    rw [hl.terminal,he] at this
    by_contra hf
    simp [Option.filter,hf] at this
  · intro h id
    rw [hl.terminal]
    cases he : m.deliveredEventId id with
    | none => rfl
    | some e => simp [Option.filter,h id e he]

theorem compactionTransparent_of_safe (hm : WellFormed m) (hone : OneState m) (hsafe : CompactionSafe m) :
    CompactionTransparent m := by
  intro compactedAt
  have hret : ∀ d,LatestSurvivor m d → d.deliveryId ∈ retainedDeliveryIds m := by
    intro d hd
    rw [mem_retainedDeliveryIds_iff hm]
    rcases hsafe.latest d hd with ⟨hpend,-⟩ | ⟨-,hfirst,-⟩
    · exact .inl hpend
    · exact .inr ⟨d,hfirst,rfl⟩
  refine ⟨(sameReads_compact_iff hm compactedAt).mpr hret,fun o loadedAt file => ?_⟩
  have hreadable : (compactedEntries m compactedAt).all OutboxEntry.readable := by
    rw [all_readable_compactedEntries]
    intro id d hd hid
    refine hsafe.readable id d hd ?_
    rcases (mem_retainedDeliveryIds_iff hm).mp hid with hp | ⟨w,hw,rfl⟩
    · exact .inl hp
    · refine .inr ⟨w,?_,hw⟩
      exact some.inj (hd.symm.trans (get_of_mem_values hm hw.stored))
  obtain ⟨l,hl,hinit⟩ := (loadedFrom_initializeFrom hm compactedAt loadedAt o file).1 hreadable
  have hreads : SameReads l m := by
    refine ⟨fun roomId => ?_,fun id => ?_,hl.deliveredEventId_eq.mpr hsafe.named,
      hl.latestState hm hone hsafe⟩
    · rw [Memory.pending,hl.pendingEntries,Memory.pending]
    · rw [Memory.isPending,hl.pendingEntries,Memory.isPending]
  refine ⟨l,_,hinit,?_⟩
  split
  · have hcompact := (sameReads_compact_iff hl.wellFormed loadedAt).mpr (fun d hd => hl.mem_retained hm hone hsafe hd)
    exact ⟨fun r => (hcompact.pending r).trans (hreads.pending r),
      fun id => (hcompact.isPending id).trans (hreads.isPending id),
      fun id => (hcompact.deliveredEventId id).trans (hreads.deliveredEventId id),
      fun r t k => (hcompact.latestState r t k).trans (hreads.latestState r t k)⟩
  · exact hreads

/-- Thresholds that no start over a text reaches, and thresholds that every start reaches. -/
def neverCompact (text : List Char) : Options :=
  ⟨byteLength text + 1,(splitLines text).countP (fun line => !isBlank line) + 1⟩

def alwaysCompact : Options := ⟨0,0⟩

theorem compactionSafe_of_transparent (hm : WellFormed m) (h : CompactionTransparent m) : CompactionSafe m := by
  have at₀ : Timestamp := ⟨0,by decide⟩
  obtain ⟨hcompact,hload⟩ := h at₀
  have hret := (sameReads_compact_iff hm at₀).mp hcompact
  have hreadable : (compactedEntries m at₀).all OutboxEntry.readable := by
    by_contra hf
    rw [Bool.not_eq_true] at hf
    obtain ⟨m',cs,hinit,-⟩ := hload {} at₀ none
    rw [(loadedFrom_initializeFrom hm at₀ at₀ {} none).2 hf] at hinit
    exact absurd hinit (by simp)
  -- The start that does not compact and the start that does.
  obtain ⟨l,hl,hinit⟩ := (loadedFrom_initializeFrom hm at₀ at₀
    (neverCompact (encodeEntries (compactedEntries m at₀))) none).1 hreadable
  rw [if_neg (by simp [neverCompact])] at hinit
  obtain ⟨m',cs,hinit',hreads⟩ := hload (neverCompact (encodeEntries (compactedEntries m at₀))) at₀ none
  rw [hinit,some.injEq,Prod.mk.injEq] at hinit'
  obtain ⟨rfl,rfl⟩ := hinit'
  change SameReads l m at hreads
  obtain ⟨l',hl',hinit₂⟩ := (loadedFrom_initializeFrom hm at₀ at₀ alwaysCompact none).1 hreadable
  rw [if_pos (by simp [alwaysCompact])] at hinit₂
  obtain ⟨m',cs,hinit',hreads'⟩ := hload alwaysCompact at₀ none
  rw [hinit₂,some.injEq,Prod.mk.injEq] at hinit'
  obtain ⟨rfl,rfl⟩ := hinit'
  change SameReads (compact l' at₀).after m at hreads'
  refine ⟨fun id d hd hor => ?_,hl.deliveredEventId_eq.mp hreads.deliveredEventId,fun d hd => ?_⟩
  · refine (all_readable_compactedEntries at₀).mp hreadable id d hd ?_
    rw [mem_retainedDeliveryIds_iff hm]
    rcases hor with hp | ⟨w,rfl,hw⟩
    · exact .inl hp
    · refine .inr ⟨w,hw,?_⟩
      exact hm.deliveryId_eq id (.state w) hd
  obtain ⟨ws,hvalues,hnodup,hws⟩ := hl.values hm
  by_cases hpend : m.isPending d.deliveryId
  · refine .inl ⟨hpend,fun w hw hsame hdelivered heq => ?_⟩
    have hlatest := latestState_eq_some.mpr ⟨⟨rfl,rfl,rfl⟩,hd⟩
    rw [← hreads.latestState,latestState_eq,hvalues,filterMap_append] at hlatest
    have hwpend : m.isPending w.deliveryId = false := by
      by_contra hf
      rw [Bool.not_eq_false] at hf
      rw [not_isDelivered_of_isPending hm hf] at hdelivered
      exact absurd hdelivered (by simp)
    have hback : w ∈ (ws.map Delivery.state).filterMap (survivorOf l d.roomId d.eventType d.stateKey) := by
      rw [mem_filterMap]
      refine ⟨.state w,mem_map_of_mem ((hws w).mpr ⟨hw,hwpend⟩),?_⟩
      rw [hl.survivorOf,survivorOf_eq_some]
      exact ⟨rfl,hsame,by rw [Memory.survives,hdelivered,Bool.or_true]⟩
    have hfront : d ∉ (ws.map Delivery.state).filterMap (survivorOf l d.roomId d.eventType d.stateKey) := by
      rw [mem_filterMap]
      rintro ⟨x,hx,hsel⟩
      obtain ⟨v,hv,rfl⟩ := mem_map.mp hx
      obtain ⟨hvd,-,-⟩ := survivorOf_eq_some.mp hsel
      rw [Delivery.state.injEq] at hvd
      subst hvd
      rw [((hws v).mp hv).2] at hpend
      exact absurd hpend (by simp)
    exact preferred_append_front preference_notNewer hlatest hfront hback heq.ge
  · rw [Bool.not_eq_true] at hpend
    have hfirst : FirstNewest m d := by
      rcases (mem_retainedDeliveryIds_iff hm).mp (hret d hd) with hp | ⟨w,hw,hid⟩
      · rw [hp] at hpend
        exact absurd hpend (by simp)
      · have hw' := get_of_mem_values hm hw.stored
        have hd' := get_of_mem_values hm hd.stored.1
        simp only [deliveryId] at hw' hd'
        rw [hid,hd',some.injEq,Delivery.state.injEq] at hw'
        exact hw' ▸ hw
    refine .inr ⟨hpend,hfirst,fun p hp hsame => ?_⟩
    have hlatest := latestState_eq_some.mpr ⟨⟨rfl,rfl,rfl⟩,hd⟩
    rw [← hreads'.latestState,latestState_eq_some] at hlatest
    -- After the second compaction `d` is still stored, so it is the first of the newest there.
    have hstored := hlatest.2.stored.1
    rw [values_compact hl'.wellFormed,mem_filter,decide_eq_true_eq,
      mem_retainedDeliveryIds_iff hl'.wellFormed,Memory.isPending,hl'.pendingEntries] at hstored
    obtain ⟨hin,hp' | ⟨w,hw,hid⟩⟩ := hstored
    · rw [Memory.isPending] at hpend
      exact absurd hp' (by simp [deliveryId,hpend])
    · have hwd : w = d := by
        have h₁ := get_of_mem_values hl'.wellFormed hw.stored
        have h₂ := get_of_mem_values hl'.wellFormed hin
        simp only [deliveryId] at h₁ h₂ hid
        rw [hid,h₂,some.injEq,Delivery.state.injEq] at h₁
        exact h₁.symm
      subst hwd
      obtain ⟨ws',hvalues',hnodup',hws'⟩ := hl'.values hm
      have hchoice := get_latestStates l' (stateIndex w)
      rw [latestStates_eq_some.mpr ⟨rfl,hw⟩,hvalues',filterMap_append] at hchoice
      refine preferred_append_back preference_strictlyOlder hchoice.symm ?_ ?_
      · rw [mem_filterMap]
        rintro ⟨x,hx,hsel⟩
        obtain ⟨rfl,-⟩ := indexedBy_eq_some.mp hsel
        rw [isPending_of_mem hm hx] at hpend
        exact absurd hpend (by simp)
      · exact mem_filterMap.mpr ⟨_,hp,indexedBy_eq_some.mpr ⟨rfl,hsame⟩⟩

end Loaded

/-- In every reachable state compaction is transparent to callers exactly when the state is safe. -/
theorem compactionTransparent_iff {o : Options} {h : History} (hr : Reachable o h) :
    CompactionTransparent h.memory ↔ CompactionSafe h.memory :=
  have hi := invariant_of_reachable hr
  ⟨compactionSafe_of_transparent hi.wellFormed,compactionTransparent_of_safe hi.wellFormed hi.oneState⟩

/-- A state write that was delivered, and a newer one that was superseded by hand. -/
def supersededNewer : List Operation :=
  let state (id : JsString) (createdAt : ℤ) : Delivery :=
    .state ⟨id,"!room","dev.malink.workspace","workspace",[],createdAt⟩
  [.stage (state "first" 10),.markDelivered "first" "$first" 11,.stage (state "second" 20),
    .markSuperseded "second" "content too large" 21]

set_option maxRecDepth 100000 in
/-- The delivered state is still the latest one, and compaction forgets it. -/
theorem supersededNewer_not_transparent :
    Reachable {} (runCalls {} ⟨30,rfl⟩ supersededNewer) ∧
      ¬ CompactionTransparent (runCalls {} ⟨30,rfl⟩ supersededNewer).memory := by
  refine ⟨reachable_runCalls _ _ _,fun h => ?_⟩
  have hlatest := (h ⟨30,rfl⟩).1.latestState "!room" "dev.malink.workspace" "workspace"
  exact absurd hlatest (by decide)

theorem compactionTransparent_iff_supersededNewer :
    CompactionTransparent (runCalls {} ⟨30,rfl⟩ supersededNewer).memory ↔
      CompactionSafe (runCalls {} ⟨30,rfl⟩ supersededNewer).memory :=
  compactionTransparent_iff (reachable_runCalls {} ⟨30,rfl⟩ supersededNewer)

end Malink.Outbox
