import Malink.OutboxRuns

/-!
# Supersession within one room

Staging compares versions inside one room, `classifyMany` over all rooms. The law that a superseded event leaves a
newer one of its room and key behind therefore holds for a classification exactly when the rooms agree.
-/

namespace Malink.Outbox

open List InsertionMap
open Option (some)
open Outbox.Delivery (deliveryId)
open Memory (deliveredEventId isDelivered receipt survives)

/-- Every delivery ever written, under its last metadata. -/
def History.catalog (h : History) : InsertionMap JsString Delivery := (replay .empty h.written).deliveries

def isSuperseded (m : Memory) (id : JsString) : Bool := m.terminal.has id && !m.isDelivered id

/-- A newer staged event of the same room and key, pending or delivered. -/
def NewerRemains (h : History) (id : JsString) (x : EventDelivery) : Prop :=
  ∃ s id' y t, x.supersession = some s ∧ h.catalog.get id' = some (.event y) ∧ id' ≠ id ∧
    y.roomId = x.roomId ∧ y.supersession = some t ∧ t.key = s.key ∧ s.version < t.version ∧
    h.memory.survives id'

/-- Each event that the step superseded leaves a newer one of its room and key behind. -/
def SupersessionConfined (h h' : History) : Prop :=
  ∀ id x, h'.catalog.get id = some (.event x) → h.memory.terminal.has id = false →
    isSuperseded h'.memory id → NewerRemains h' id x

/-- Deliveries of rooms that the call does not concern keep their status. -/
def OtherRoomsUntouched (concerned : JsString → Prop) (h h' : History) : Prop :=
  ∀ id x, h.catalog.get id = some x → ¬ concerned x.roomId →
    h'.memory.pendingEntries.get id = h.memory.pendingEntries.get id ∧
      h'.memory.terminal.has id = h.memory.terminal.has id ∧ h'.memory.receipt id = h.memory.receipt id

theorem lastMemory_compactIfNeeded (o : Options) (m : Memory) (compactedAt : Timestamp) :
    (lastMemory m (compactIfNeeded o m compactedAt)).pendingEntries = m.pendingEntries ∧
      (lastMemory m (compactIfNeeded o m compactedAt)).terminal = m.terminal := by
  unfold compactIfNeeded
  split <;> exact ⟨rfl,rfl⟩

theorem written_compactIfNeeded (o : Options) (m : Memory) (compactedAt : Timestamp) :
    (compactIfNeeded o m compactedAt).flatMap (fun c => c.write.appended) = [] := by
  unfold compactIfNeeded
  split <;> rfl

theorem written_supersedeAll (m : Memory) (at' : ℤ) (reason : Option JsString) (ids : List JsString) :
    ∀ e ∈ (supersedeAll m at' reason ids).flatMap (fun c => c.write.appended),
      ∃ id a r, e = .superseded id a r := by
  induction ids generalizing m with
  | nil => simp [supersedeAll]
  | cons id ids ih =>
    intro e he
    rw [supersedeAll,flatMap_cons,mem_append] at he
    rcases he with he | he
    · rw [supersede,appendEntry,Write.appended,mem_singleton] at he
      exact ⟨_,_,_,he⟩
    · exact ih _ e he

variable {es : List OutboxEntry}

theorem deliveries_replay_superseded (h : ∀ e ∈ es,∃ id a r,e = .superseded id a r) (m : Memory) :
    (replay m es).deliveries = m.deliveries := by
  induction es generalizing m with
  | nil => rfl
  | cons e es ih =>
    obtain ⟨id,a,r,rfl⟩ := h e (by simp)
    exact ih (fun x hx => h x (mem_cons_of_mem _ hx)) (m.finish id none)

variable {d : Delivery}

theorem catalog_stage (h : History) (hp : h.memory.pendingEntries.has d.deliveryId = false)
    (ht : h.memory.terminal.has d.deliveryId = false) (o : Options) (compactedAt : Timestamp) :
    (h.perform (stage o h.memory d compactedAt).2).catalog = h.catalog.set d.deliveryId d := by
  obtain ⟨m,file,written⟩ := h
  simp only at hp ht
  simp only [History.catalog,History.perform,stage_fresh hp ht,stageCommits,flatMap_append,
    flatMap_cons,written_compactIfNeeded,append_nil,replay_append]
  have hown : ∀ e ∈ (if supersedesItself m d = true then supersedeAll
      (appendEntry (lastMemory m (supersedeAll m d.createdAt (some (olderReason d)) (older m d)))
        (.pending d) (fun m => m.store d)).after d.createdAt (some (obsoleteReason d)) [d.deliveryId]
      else []).flatMap (fun c => c.write.appended), ∃ id a r, e = .superseded id a r := by
    split
    · exact written_supersedeAll _ _ _ _
    · simp
  rw [deliveries_replay_superseded hown]
  have hpending : (appendEntry (lastMemory m (supersedeAll m d.createdAt (some (olderReason d))
      (older m d))) (.pending d) (fun m => m.store d)).write.appended = [.pending d] := rfl
  rw [hpending,replay,foldl_cons,foldl_nil]
  show InsertionMap.set _ _ _ = _
  rw [deliveries_replay_superseded (written_supersedeAll _ _ _ _)]

theorem status_finishAll (m : Memory) (ids : List JsString) (id : JsString) :
    (finishAll m ids).pendingEntries.get id = (if id ∈ ids then none else m.pendingEntries.get id) ∧
    (finishAll m ids).terminal.has id = (decide (id ∈ ids) || m.terminal.has id) ∧
    (finishAll m ids).receipt id = (if id ∈ ids then none else m.receipt id) := by
  obtain ⟨hp,ht⟩ := get_finishAll m ids id
  refine ⟨hp,?_,?_⟩
  · rw [has,ht]
    by_cases hid : id ∈ ids <;> simp [hid,has]
  · rw [receipt,deliveredEventId,ht]
    by_cases hid : id ∈ ids <;> simp [hid,receipt,deliveredEventId]

theorem status_store (m : Memory) (d : Delivery) (id : JsString) : (m.store d).pendingEntries.get id =
      (if id = d.deliveryId then some d else m.pendingEntries.get id) ∧
    (m.store d).terminal.has id = m.terminal.has id ∧ (m.store d).receipt id = m.receipt id :=
  ⟨get_set _ _ _ _,rfl,rfl⟩

variable {m : Memory}

theorem status_stage (h : WellFormed m) (hone : OneState m) (hp : m.pendingEntries.has d.deliveryId = false)
    (ht : m.terminal.has d.deliveryId = false) (o : Options) (compactedAt : Timestamp) (id : JsString) :
    let own := if supersedesItself m d then [d.deliveryId] else []
    let after := lastMemory m (stage o m d compactedAt).2
    after.pendingEntries.get id = (if id ∈ own then none else if id = d.deliveryId then some d
        else if id ∈ older m d then none else m.pendingEntries.get id) ∧
    after.terminal.has id = (decide (id ∈ own) || decide (id ∈ older m d) || m.terminal.has id) ∧
    after.receipt id = (if id ∈ own then none else if id ∈ older m d then none else m.receipt id) := by
  intro own after
  have hsame := (commits_stageCommits h hone hp ht).2
  obtain ⟨hcp,hct⟩ := lastMemory_compactIfNeeded o (lastMemory m (stageCommits m d)) compactedAt
  have hafter : after = lastMemory (lastMemory m (stageCommits m d))
      (compactIfNeeded o (lastMemory m (stageCommits m d)) compactedAt) := by
    simp only [after,stage_fresh hp ht,lastMemory_append]
  obtain ⟨hfp,hft,hfr⟩ := status_finishAll ((finishAll m (older m d)).store d) own id
  obtain ⟨hsp,hst,hsr⟩ := status_store (finishAll m (older m d)) d id
  obtain ⟨hop,hot,hor⟩ := status_finishAll m (older m d) id
  refine ⟨?_,?_,?_⟩
  · rw [hafter,hcp,hsame.pendingEntries,hfp,hsp,hop]
  · rw [hafter,hct,hsame.terminal,hft,hst,hot,Bool.or_assoc]
  · have hreceipt : after.receipt id = (lastMemory m (stageCommits m d)).receipt id := by
      rw [hafter,receipt,deliveredEventId,hct]
      rfl
    rw [hreceipt,hsame.receipt,hfr,hsr,hor]

theorem olderCandidate_event {d : EventDelivery} {c : Delivery}
    (h : olderCandidate (.event d) c) : ∃ s x t, d.supersession = some s ∧ c = .event x ∧
      x.supersession = some t ∧ x.roomId = d.roomId ∧ t.key = s.key ∧ t.version < s.version := by
  cases c with
  | state c => simp [olderCandidate] at h
  | event x =>
    simp only [olderCandidate] at h
    split at h
    · next s t hs ht =>
      simp only [Bool.and_eq_true,decide_eq_true_eq] at h
      exact ⟨s,x,t,hs,rfl,ht,h.1.1,h.1.2,h.2⟩
    · exact absurd h (by simp)

theorem obsoleteOnArrival_iff : obsoleteOnArrival m d ↔
    ∃ x s id y t, d = .event x ∧ x.supersession = some s ∧ m.pendingEntries.get id = some (.event y) ∧
      y.supersession = some t ∧ y.roomId = x.roomId ∧ t.key = s.key ∧ s.version < t.version := by
  rw [obsoleteOnArrival,any_eq_true]
  constructor
  · rintro ⟨c,hc,h⟩
    obtain ⟨id,hid⟩ := mem_values.mp hc
    cases d with
    | state d => cases c <;> simp [newerCandidate] at h
    | event x =>
      cases c with
      | state c => simp [newerCandidate] at h
      | event y =>
        simp only [newerCandidate] at h
        split at h
        · next s t hs ht =>
          simp only [Bool.and_eq_true,decide_eq_true_eq] at h
          exact ⟨x,s,id,y,t,rfl,hs,hid,ht,h.1.1,h.1.2,h.2⟩
        · exact absurd h (by simp)
  · rintro ⟨x,s,id,y,t,rfl,hs,hid,ht,hroom,hkey,hlt⟩
    exact ⟨.event y,mem_values.mpr ⟨id,hid⟩,by
      simp [newerCandidate,hs,ht,hroom,hkey,hlt]⟩

theorem roomId_of_olderCandidate {d c : Delivery} (h : olderCandidate d c) : c.roomId = d.roomId := by
  cases d with
  | event d =>
    obtain ⟨s,x,t,-,rfl,-,hroom,-,-⟩ := olderCandidate_event h
    exact hroom
  | state d =>
    cases c with
    | event c => simp [olderCandidate] at h
    | state c =>
      simp only [olderCandidate,Bool.and_eq_true,decide_eq_true_eq] at h
      exact h.1.1

variable {h : History} {id : JsString}

theorem catalog_of_pending (hi : Invariant h)
    (hd : h.memory.pendingEntries.get id = some d) : h.catalog.get id = some d :=
  hi.catalog.deliveries id d (hi.wellFormed.pending_stored id d hd)

theorem settled_of_catalog (hi : Invariant h) (hd : h.catalog.get id = some d) :
    h.memory.pendingEntries.has id ∨ h.memory.terminal.has id := by
  have hw : WellFormed (replay .empty h.written) := wellFormed_empty.replay _
  have hset := hw.stored_settled id (has_iff.mpr ⟨d,hd⟩)
  rwa [hi.catalog.pendingEntries,hi.catalog.terminal] at hset

/-- A newer pending event of the arrival's room and key is never one of its older candidates. -/
theorem not_older_of_newer (hm : WellFormed m) {x y : EventDelivery} {s t : Supersession}
    (hid : m.pendingEntries.get id = some (.event y)) (hs : x.supersession = some s) (ht : y.supersession = some t)
    (hlt : s.version < t.version) : id ∉ older m (.event x) := by
  rw [mem_older hm]
  rintro ⟨c,hc,hcand⟩
  rw [hid,some.injEq] at hc
  subst hc
  obtain ⟨s',y',t',hs',hy',ht',-,-,hlt'⟩ := olderCandidate_event hcand
  rw [Delivery.event.injEq] at hy'
  subst hy'
  rw [hs,some.injEq] at hs'
  rw [ht,some.injEq] at ht'
  subst hs' ht'
  omega

/-- Staging, whatever the state: the law holds, and other rooms are left alone. -/
theorem stage_confined {o : Options} (hr : Reachable o h) (d : Delivery) (compactedAt : Timestamp) :
    SupersessionConfined h (h.perform (stage o h.memory d compactedAt).2) ∧
      OtherRoomsUntouched (fun r => r = d.roomId) h
        (h.perform (stage o h.memory d compactedAt).2) := by
  have hi := invariant_of_reachable hr
  have hi' := invariant_of_reachable (Reachable.call (.stage d) compactedAt hr)
  change Invariant (h.perform (stage o h.memory d compactedAt).2) at hi'
  by_cases hfresh : h.memory.pendingEntries.has d.deliveryId = false ∧ h.memory.terminal.has d.deliveryId = false
  case neg =>
    have hnone : (stage o h.memory d compactedAt).2 = [] := by
      rw [not_and_or,Bool.not_eq_false,Bool.not_eq_false] at hfresh
      rcases hfresh with hf | hf <;> simp [stage,hf]
    have hsame : h.perform [] = h := by simp [History.perform,lastMemory]
    rw [hnone,hsame]
    refine ⟨fun id x _ hopen hsup => ?_,fun id x _ _ => ⟨rfl,rfl,rfl⟩⟩
    rw [isSuperseded,hopen] at hsup
    exact absurd hsup (by simp)
  obtain ⟨hp,ht⟩ := hfresh
  have hstatus := status_stage hi.wellFormed hi.oneState hp ht o compactedAt
  have hcatalog := catalog_stage h hp ht o compactedAt
  have hfreshId : ∀ id c,h.memory.pendingEntries.get id = some c → id ≠ d.deliveryId := by
    rintro id c hc rfl
    rw [has,hc] at hp
    exact absurd hp (by simp)
  -- A newer candidate is pending before and after the call.
  have hnewer : ∀ id (x y : EventDelivery) s t,d = .event x → x.supersession = some s →
      h.memory.pendingEntries.get id = some (.event y) → y.supersession = some t →
      s.version < t.version →
      (h.perform (stage o h.memory d compactedAt).2).memory.pendingEntries.get id = some (.event y) ∧
        (h.perform (stage o h.memory d compactedAt).2).catalog.get id = some (.event y) := by
    intro id x y s t hd hs hid hty hlt
    subst hd
    have hne := hfreshId id _ hid
    refine ⟨?_,?_⟩
    · have hget := (hstatus id).1
      rw [if_neg (by split <;> simp [hne]),if_neg hne,
        if_neg (not_older_of_newer hi.wellFormed hid hs hty hlt),hid] at hget
      exact hget
    · rw [hcatalog,get_set_of_ne _ _ hne]
      exact catalog_of_pending hi hid
  have hpending : ∀ {id : JsString} {c : Delivery},
      (h.perform (stage o h.memory d compactedAt).2).memory.pendingEntries.get id = some c →
      (h.perform (stage o h.memory d compactedAt).2).memory.survives id := by
    intro id c hc
    rw [survives,Memory.isPending,has,hc]
    rfl
  refine ⟨fun id x hx hopen hsup => ?_,fun id x hx hroom => ?_⟩
  · have hterm : id ∈ (if supersedesItself h.memory d then [d.deliveryId] else []) ∨
        id ∈ older h.memory d := by
      rw [isSuperseded,Bool.and_eq_true] at hsup
      have hhas := (hstatus id).2.1
      change (h.perform _).memory.terminal.has id = _ at hhas
      rw [hsup.1,hopen,Bool.or_false] at hhas
      simpa using hhas.symm
    rcases hterm with hown | hold
    · split at hown
      · next hself =>
        rw [mem_singleton] at hown
        subst hown
        rw [hcatalog,get_set_self,some.injEq] at hx
        rw [supersedesItself,Bool.and_eq_true] at hself
        obtain ⟨x',s,id',y,t,hdx,hs,hid',hty,hroom,hkey,hlt⟩ := obsoleteOnArrival_iff.mp hself.1
        obtain ⟨hpend',hcat'⟩ := hnewer id' x' y s t hdx hs hid' hty hlt
        rw [hdx,Delivery.event.injEq] at hx
        exact ⟨s,id',y,t,hx ▸ hs,hcat',hfreshId id' _ hid',hx ▸ hroom,hty,hkey,hlt,hpending hpend'⟩
      · exact absurd hown (by simp)
    · obtain ⟨c,hc,hcand⟩ := (mem_older hi.wellFormed).mp hold
      rw [hcatalog,get_set_of_ne _ _ (hfreshId id c hc),catalog_of_pending hi hc,some.injEq] at hx
      subst hx
      cases d with
      | state d => simp [olderCandidate] at hcand
      | event e =>
        obtain ⟨s,x',t,hs,hx',htx,hroom,hkey,hlt⟩ := olderCandidate_event hcand
        rw [Delivery.event.injEq] at hx'
        subst hx'
        by_cases hself : supersedesItself h.memory (.event e)
        · rw [supersedesItself,Bool.and_eq_true] at hself
          obtain ⟨e',s',id',y,t',he',hs',hid',hty,hroom',hkey',hlt'⟩ := obsoleteOnArrival_iff.mp hself.1
          obtain ⟨hpend',hcat'⟩ := hnewer id' e' y s' t' he' hs' hid' hty hlt'
          rw [Delivery.event.injEq] at he'
          subst he'
          rw [hs,some.injEq] at hs'
          subst hs'
          have hne : id' ≠ id := by
            rintro rfl
            exact not_older_of_newer hi.wellFormed hid' hs hty hlt' hold
          exact ⟨t,id',y,t',htx,hcat',hne,hroom'.trans hroom.symm,hty,hkey'.trans hkey.symm,
            hlt.trans hlt',hpending hpend'⟩
        · have hget := (hstatus e.deliveryId).1
          rw [if_neg hself] at hget
          simp only [not_mem_nil,if_false] at hget
          rw [if_pos (show e.deliveryId = (Delivery.event e).deliveryId from rfl)] at hget
          refine ⟨t,e.deliveryId,e,s,htx,?_,(hfreshId id _ hc).symm,hroom.symm,hs,hkey.symm,hlt,hpending hget⟩
          rw [hcatalog]
          exact get_set_self _ _ _
  · have hne : id ≠ d.deliveryId := by
      rintro rfl
      rcases settled_of_catalog hi hx with hf | hf
      · rw [hp] at hf
        exact absurd hf (by simp)
      · rw [ht] at hf
        exact absurd hf (by simp)
    have hown : id ∉ (if supersedesItself h.memory d then [d.deliveryId] else []) := by
      split <;> simp [hne]
    have hold : id ∉ older h.memory d := by
      rw [mem_older hi.wellFormed]
      rintro ⟨c,hc,hcand⟩
      rw [catalog_of_pending hi hc,some.injEq] at hx
      exact hroom (hx ▸ roomId_of_olderCandidate hcand)
    obtain ⟨hsp,hst,hsr⟩ := hstatus id
    refine ⟨?_,?_,?_⟩
    · change (h.perform _).memory.pendingEntries.get id = _ at hsp
      rw [hsp,if_neg hown,if_neg hne,if_neg hold]
    · change (h.perform _).memory.terminal.has id = _ at hst
      rw [hst]
      simp [hown,hold]
    · change (h.perform _).memory.receipt id = _ at hsr
      rw [hsr,if_neg hown,if_neg hold]

theorem lt_newestVersions (m : Memory) (k : JsString) (n : ℤ) (hn : -1 ≤ n) :
    n < ((newestVersions m).get k).getD (-1) ↔ ∃ d ∈ m.pendingEntries.values, ∃ s,
      d.supersession = some s ∧ s.key = k ∧ n < s.version := by
  have hgo : ∀ (ds : List Delivery) (acc : InsertionMap JsString ℤ),
      n < ((ds.foldl raiseNewest acc).get k).getD (-1) ↔ n < (acc.get k).getD (-1) ∨
        ∃ d ∈ ds, ∃ s, d.supersession = some s ∧ s.key = k ∧ n < s.version := by
    intro ds
    induction ds with
    | nil => simp
    | cons d ds ih =>
      intro acc
      rw [foldl_cons,ih,raiseNewest]
      cases hs : d.supersession with
      | none => simp [hs]
      | some s =>
        by_cases hk : s.key = k
        · subst hk
          simp [hs,or_assoc]
        · have hne : k ≠ s.key := fun h => hk h.symm
          simp [hs,get_set_of_ne _ _ hne,hk]
  have hempty : ¬ n < ((InsertionMap.empty : InsertionMap JsString ℤ).get k).getD (-1) := by simpa using hn
  rw [newestVersions,hgo,or_iff_right hempty]

theorem mem_outdated : d ∈ outdated m ↔ d ∈ m.pendingEntries.values ∧
    ∃ s, d.supersession = some s ∧ ∃ z ∈ m.pendingEntries.values, ∃ t, z.supersession = some t ∧
      t.key = s.key ∧ s.version < t.version := by
  rw [outdated,mem_filter]
  refine and_congr_right fun _ => ?_
  cases hs : d.supersession with
  | none => simp
  | some s =>
    have hlt := lt_newestVersions m s.key s.version (by omega)
    cases hget : (newestVersions m).get s.key with
    | none =>
      rw [hget] at hlt
      have hnone := hlt.not.mp (by simp)
      simp only [hget,some.injEq,Bool.false_eq_true,exists_eq_left',false_iff]
      rintro ⟨z,hz,t,ht,hk,hv⟩
      exact hnone ⟨z,hz,t,ht,hk,by exact_mod_cast hv⟩
    | some newest =>
      rw [hget,Option.getD_some] at hlt
      simp only [hget,decide_eq_true_eq,hlt,some.injEq,exists_eq_left',Nat.cast_lt]

theorem reclassify_terminal (m : Memory) (now : ℤ) (cs : List (JsString × DeliveryMetadata)) :
    (reclassify m now cs).1.terminal = m.terminal := by
  induction cs generalizing m with
  | nil => rfl
  | cons c cs ih =>
    simp only [reclassify]
    split
    · split
      · exact ih m
      · exact ih _
    · exact ih m

/-- Only pending deliveries are classified. -/
theorem reclassify_records (h : WellFormed m) (now : ℤ) (cs : List (JsString × DeliveryMetadata)) :
    ∀ e ∈ (reclassify m now cs).2,
      ∃ id metadata, e = .classified id metadata now ∧ m.pendingEntries.has id := by
  induction cs generalizing m with
  | nil => simp [reclassify]
  | cons c cs ih =>
    obtain ⟨id,metadata⟩ := c
    simp only [reclassify]
    split
    · next d hd =>
      have hid : d.deliveryId = id := h.deliveryId_eq id _ (h.pending_stored id _ hd)
      have hhas : m.pendingEntries.has d.deliveryId := hid ▸ has_iff.mpr ⟨_,hd⟩
      split
      · exact ih h
      · have hkey : (Delivery.event (withMetadata d metadata)).deliveryId = d.deliveryId := rfl
        have hstore : WellFormed (m.store (.event (withMetadata d metadata))) := by
          apply h.store
          rw [hkey]
          exact h.pending_open _ hhas
        intro e he
        rcases mem_cons.mp he with rfl | he
        · exact ⟨_,_,rfl,hhas⟩
        · obtain ⟨id',metadata',rfl,hid'⟩ := ih hstore e he
          refine ⟨id',metadata',rfl,?_⟩
          change (m.pendingEntries.set _ _).has id' = true at hid'
          rw [has_iff_mem_keys,mem_keys_set,hkey] at hid'
          rcases hid' with rfl | hid'
          · exact hhas
          · exact has_iff_mem_keys.mpr hid'
    · exact ih h

theorem get_replay_classified (h : ∀ e ∈ es,∃ id' metadata now,e = .classified id' metadata now ∧ id' ≠ id)
    (m : Memory) : (replay m es).deliveries.get id = m.deliveries.get id := by
  induction es generalizing m with
  | nil => rfl
  | cons e es ih =>
    obtain ⟨id',metadata,now,rfl,hne⟩ := h e (by simp)
    rw [replay,foldl_cons,← replay,ih (fun x hx => h x (mem_cons_of_mem _ hx))]
    simp only [loadEntry]
    split
    · exact get_set_of_ne _ _ hne.symm
    · rfl

def NamedRoom (m : Memory) (cs : List (JsString × DeliveryMetadata)) (roomId : JsString) : Prop :=
  ∃ c ∈ cs, ∃ d, m.pendingEntries.get c.1 = some d ∧ d.roomId = roomId

/-- Where a pending event is older, after the classification, than the newest version of its key in any
room: the call names its room, and there the key has a newer version that is the newest of all rooms,
or one that was delivered before. -/
def RoomsAgree (h : History) (now : ℤ) (cs : List (JsString × DeliveryMetadata)) : Prop :=
  let pending := (reclassify h.memory now cs).1.pendingEntries.values
  ∀ x s, .event x ∈ pending → x.supersession = some s →
    (∃ z ∈ pending,∃ t,z.supersession = some t ∧ t.key = s.key ∧ s.version < t.version) →
    NamedRoom h.memory cs x.roomId ∧
    ((∃ y u,.event y ∈ pending ∧ y.roomId = x.roomId ∧ y.supersession = some u ∧ u.key = s.key ∧
      s.version < u.version ∧ ∀ z ∈ pending,∀ t,z.supersession = some t → t.key = s.key → t.version ≤ u.version) ∨
    ∃ id y u,h.catalog.get id = some (.event y) ∧ h.memory.isDelivered id ∧
      y.roomId = x.roomId ∧ y.supersession = some u ∧ u.key = s.key ∧ s.version < u.version)

/-- What the law says of a staging or a classification; it does not speak about the two marks. -/
def Operation.Confined (h h' : History) : Operation → Prop
  | stage d => SupersessionConfined h h' ∧ OtherRoomsUntouched (fun r => r = d.roomId) h h'
  | classifyMany cs _ => SupersessionConfined h h' ∧ OtherRoomsUntouched (NamedRoom h.memory cs) h h'
  | markDelivered .. | markSuperseded .. => True

/-- A staging needs no condition. -/
def Operation.RoomsAgree (h : History) : Operation → Prop
  | classifyMany cs now => Outbox.RoomsAgree h now cs
  | stage _ | markDelivered .. | markSuperseded .. => True

def Delivery.classify (metadata : DeliveryMetadata) : Delivery → Delivery
  | event d => .event (withMetadata d metadata)
  | state d => .state d

/-- A delivery, as classifications leave it. -/
def classifiedBy (cs : List (JsString × DeliveryMetadata)) (id : JsString) (d : Delivery) : Delivery :=
  cs.foldl (fun d c => if c.1 = id then d.classify c.2 else d) d

theorem withMetadata_of_same {d : EventDelivery} {metadata : DeliveryMetadata}
    (h : sameMetadata d (withMetadata d metadata)) : withMetadata d metadata = d := by
  simp only [sameMetadata,Bool.and_eq_true,decide_eq_true_eq] at h
  obtain ⟨⟨hpriority,hkey⟩,hversion⟩ := h
  have hsupersession : (withMetadata d metadata).supersession = d.supersession := by
    cases hs : d.supersession with
    | none => simpa [hs,eq_comm] using hkey
    | some s =>
      obtain ⟨t,ht,htkey⟩ := Option.map_eq_some_iff.mp (hkey.symm.trans (congrArg _ hs))
      obtain ⟨t',ht',htversion⟩ := Option.map_eq_some_iff.mp (hversion.symm.trans (congrArg _ hs))
      obtain rfl := Option.some.inj (ht.symm.trans ht')
      cases t
      cases htkey
      cases htversion
      exact ht
  calc withMetadata d metadata
      = { d with
          priority := (withMetadata d metadata).priority
          supersession := (withMetadata d metadata).supersession } := rfl
    _ = d := by rw [← hpriority,hsupersession]

/-- Each pending delivery is classified on its own. -/
theorem get_reclassify (h : WellFormed m) (now : ℤ) (cs : List (JsString × DeliveryMetadata)) (id : JsString) :
    (reclassify m now cs).1.pendingEntries.get id = (m.pendingEntries.get id).map (classifiedBy cs id) := by
  induction cs generalizing m with
  | nil => exact Option.map_id'.symm
  | cons c cs ih =>
    obtain ⟨id',metadata⟩ := c
    have hkept (hsame : ∀ d,m.pendingEntries.get id' = some d → d.classify metadata = d) :
        (m.pendingEntries.get id).map (classifiedBy cs id) =
          (m.pendingEntries.get id).map (classifiedBy ((id',metadata) :: cs) id) := by
      refine Option.map_congr fun d hd => ?_
      rw [classifiedBy,classifiedBy,foldl_cons]
      split
      · next heq =>
        obtain rfl : id' = id := heq
        rw [hsame d hd]
      · rfl
    simp only [reclassify]
    split
    · next d hd =>
      split
      · next hsame =>
        rw [ih h,hkept fun d' hd' => ?_]
        obtain rfl := Option.some.inj (hd.symm.trans hd')
        exact congrArg Delivery.event (withMetadata_of_same hsame)
      · have hid : d.deliveryId = id' := h.deliveryId_eq id' _ (h.pending_stored id' _ hd)
        have hkey : (Delivery.event (withMetadata d metadata)).deliveryId = id' := hid
        have hstore : WellFormed (m.store (.event (withMetadata d metadata))) := by
          apply h.store
          rw [hkey]
          exact h.pending_open _ (has_iff.mpr ⟨_,hd⟩)
        rw [ih hstore,(status_store m _ id).1,hkey]
        split
        · next heq =>
          rw [heq,hd]
          simp [classifiedBy,Delivery.classify]
        · next hne =>
          refine Option.map_congr fun d' _ => ?_
          rw [classifiedBy,classifiedBy,foldl_cons,if_neg (Ne.symm hne)]
    · next hnone =>
      rw [ih h,hkept fun d hd => ?_]
      cases d with
      | event d => exact absurd hd (hnone d)
      | state d => rfl

theorem roomId_classifiedBy (cs : List (JsString × DeliveryMetadata)) (id : JsString) (d : Delivery) :
    (classifiedBy cs id d).roomId = d.roomId := by
  induction cs generalizing d with
  | nil => rfl
  | cons c cs ih =>
    rw [classifiedBy,foldl_cons,← classifiedBy,ih]
    split
    · cases d with
      | event d => rfl
      | state d => rfl
    · rfl

theorem classifiedBy_of_not_mem {cs : List (JsString × DeliveryMetadata)} {id : JsString} (h : id ∉ cs.map Prod.fst)
    (d : Delivery) : classifiedBy cs id d = d := by
  induction cs with
  | nil => rfl
  | cons c cs ih =>
    obtain ⟨hne,hcs⟩ := not_or.mp (mem_cons.not.mp h)
    rw [classifiedBy,foldl_cons,if_neg (Ne.symm hne)]
    exact ih hcs

/-- Classification keeps the room of a pending delivery, and leaves the deliveries it does not name. -/
theorem pending_reclassify (h : WellFormed m) (now : ℤ) (cs : List (JsString × DeliveryMetadata)) (id : JsString) :
    (∀ d',(reclassify m now cs).1.pendingEntries.get id = some d' →
      ∃ d,m.pendingEntries.get id = some d ∧ d'.roomId = d.roomId) ∧ (id ∉ cs.map Prod.fst →
      (reclassify m now cs).1.pendingEntries.get id = m.pendingEntries.get id) := by
  rw [get_reclassify h]
  refine ⟨fun d' hd' => ?_,fun hid => ?_⟩
  · obtain ⟨d,hd,rfl⟩ := Option.map_eq_some_iff.mp hd'
    exact ⟨d,hd,roomId_classifiedBy cs id d⟩
  · rw [funext (classifiedBy_of_not_mem hid)]
    exact Option.map_id'

section Classify

variable {h : History} {now : ℤ} {cs : List (JsString × DeliveryMetadata)}

theorem catalog_classifyMany (o : Options) (compactedAt : Timestamp) :
    (h.perform (classifyMany o h.memory cs now compactedAt).2).catalog =
      (replay (replay .empty h.written) (reclassify h.memory now cs).2).deliveries := by
  have hwritten : (h.perform (classifyMany o h.memory cs now compactedAt).2).written = h.written ++
      ((reclassify h.memory now cs).2 ++
        (outdated (reclassify h.memory now cs).1).map (supersededEntry now)) := by
    simp only [History.perform,classifyMany_commits,flatMap_append,written_compactIfNeeded,append_nil,classifyCommits]
    split
    · next hnil => rw [hnil]; rfl
    · simp [Write.appended]
  rw [History.catalog,hwritten,replay_append,replay_append]
  apply deliveries_replay_superseded
  intro e he
  obtain ⟨d,-,rfl⟩ := mem_map.mp he
  exact ⟨_,_,_,rfl⟩

section

variable (hi : Invariant h) (o : Options) (compactedAt : Timestamp)
include hi o compactedAt

theorem status_classifyMany (id : JsString) :
    let m' := (reclassify h.memory now cs).1
    let ids := (outdated m').map deliveryId
    let after := (h.perform (classifyMany o h.memory cs now compactedAt).2).memory
    after.pendingEntries.get id = (if id ∈ ids then none else m'.pendingEntries.get id) ∧
    after.terminal.has id = (decide (id ∈ ids) || h.memory.terminal.has id) ∧
    after.receipt id = (if id ∈ ids then none else h.memory.receipt id) := by
  intro m' ids after
  have hsame := (commits_classifyCommits hi.wellFormed hi.oneState now cs).2
  rw [lastMemory_classifyCommits hi.wellFormed] at hsame
  obtain ⟨hcp,hct⟩ := lastMemory_compactIfNeeded o (lastMemory h.memory (classifyCommits h.memory now cs)) compactedAt
  have hafter : after = lastMemory (lastMemory h.memory (classifyCommits h.memory now cs))
      (compactIfNeeded o (lastMemory h.memory (classifyCommits h.memory now cs)) compactedAt) := by
    simp only [after,History.perform,classifyMany_commits,lastMemory_append,lastMemory_classifyCommits hi.wellFormed]
  obtain ⟨hfp,hft,hfr⟩ := status_finishAll m' ids id
  have hterm : m'.terminal = h.memory.terminal := reclassify_terminal _ _ _
  refine ⟨?_,?_,?_⟩
  · rw [hafter,hcp,hsame.pendingEntries]
    exact hfp
  · rw [hafter,hct,hsame.terminal,← hterm]
    exact hft
  · have hreceipt : after.receipt id =
        (lastMemory h.memory (classifyCommits h.memory now cs)).receipt id := by
      rw [hafter,receipt,deliveredEventId,hct]
      rfl
    rw [hreceipt,hsame.receipt]
    have hold : h.memory.receipt id = m'.receipt id := by
      rw [receipt,deliveredEventId,← hterm]
      rfl
    rw [hold]
    exact hfr

/-- The pending deliveries that the classification leaves, as the loop sees them. -/
theorem mem_pending_reclassify {d : Delivery} (hd : d ∈ (reclassify h.memory now cs).1.pendingEntries.values) :
    (reclassify h.memory now cs).1.pendingEntries.get d.deliveryId = some d ∧
      h.memory.terminal.has d.deliveryId = false ∧
      (h.perform (classifyMany o h.memory cs now compactedAt).2).catalog.get d.deliveryId = some d := by
  have hw := wellFormed_reclassify hi.wellFormed now cs
  obtain ⟨id,hid⟩ := mem_values.mp hd
  have hstored := hw.pending_stored id d hid
  obtain rfl := hw.deliveryId_eq id d hstored
  refine ⟨hid,?_,?_⟩
  · rw [← reclassify_terminal h.memory now cs]
    exact hw.pending_open _ (has_iff.mpr ⟨d,hid⟩)
  · rw [catalog_classifyMany]
    have hcovers := Covers.replay hi.wellFormed hi.catalog (reclassify h.memory now cs).2
    rw [← reclassify_eq_replay hi.wellFormed] at hcovers
    exact hcovers.deliveries _ d hstored

theorem catalog_delivered (hd : h.memory.isDelivered id) :
    (h.perform (classifyMany o h.memory cs now compactedAt).2).catalog.get id = h.catalog.get id := by
  rw [catalog_classifyMany]
  refine get_replay_classified (fun e he => ?_) _
  obtain ⟨id',metadata,rfl,hpend⟩ := reclassify_records hi.wellFormed now cs e he
  refine ⟨id',metadata,now,rfl,?_⟩
  rintro rfl
  have hopen := hi.wellFormed.pending_open id' hpend
  rw [has,Option.isSome_eq_false_iff,Option.isNone_iff_eq_none] at hopen
  simp [isDelivered,receipt,deliveredEventId,hopen] at hd

end

theorem classifyMany_confined_iff {o : Options} (hr : Reachable o h) (compactedAt : Timestamp) :
    (SupersessionConfined h (h.perform (classifyMany o h.memory cs now compactedAt).2) ∧
      OtherRoomsUntouched (NamedRoom h.memory cs) h
        (h.perform (classifyMany o h.memory cs now compactedAt).2)) ↔ RoomsAgree h now cs := by
  have hi := invariant_of_reachable hr
  set h' := h.perform (classifyMany o h.memory cs now compactedAt).2 with hh'
  set m' := (reclassify h.memory now cs).1 with hm'
  have hstatus : ∀ id,h'.memory.pendingEntries.get id =
        (if id ∈ (outdated m').map deliveryId then none else m'.pendingEntries.get id) ∧
      h'.memory.terminal.has id = (decide (id ∈ (outdated m').map deliveryId) || h.memory.terminal.has id) ∧
      h'.memory.receipt id =
        (if id ∈ (outdated m').map deliveryId then none else h.memory.receipt id) :=
    status_classifyMany hi o compactedAt
  have hout : ∀ {d : Delivery},d ∈ m'.pendingEntries.values →
      (d.deliveryId ∈ (outdated m').map deliveryId ↔ d ∈ outdated m') := by
    intro d hd
    constructor
    · intro hmem
      obtain ⟨e,he,hid⟩ := mem_map.mp hmem
      have h₁ := (mem_pending_reclassify hi o compactedAt (mem_outdated.mp he).1).1
      have h₂ := (mem_pending_reclassify hi o compactedAt hd).1
      rw [hid,h₂,some.injEq] at h₁
      exact h₁ ▸ he
    · exact mem_map_of_mem
  constructor
  · rintro ⟨hconf,hothers⟩ x s hx hs hz
    have hmem : Delivery.event x ∈ outdated m' := mem_outdated.mpr ⟨hx,s,hs,hz⟩
    obtain ⟨hxget,hopen,hcat⟩ := mem_pending_reclassify hi o compactedAt hx
    have hin := (hout hx).mpr hmem
    obtain ⟨-,ht,hrec⟩ := hstatus (Delivery.event x).deliveryId
    refine ⟨?_,?_⟩
    · obtain ⟨d,hd,hroom⟩ := (pending_reclassify hi.wellFormed now cs _).1 _ hxget
      by_contra hnamed
      have hsame := (hothers _ d (catalog_of_pending hi hd) (hroom ▸ hnamed)).2.1
      rw [ht,hopen] at hsame
      simp [hin] at hsame
    have hsup : isSuperseded h'.memory (Delivery.event x).deliveryId := by
      simp [isSuperseded,ht,hin,isDelivered,hrec]
    obtain ⟨s',id',y,t,hs',hy,-,hroom,hty,hkey,hlt,hsurv⟩ := hconf _ x hcat hopen hsup
    rw [hs,some.injEq] at hs'
    subst hs'
    obtain ⟨hp',-,hr'⟩ := hstatus id'
    rw [survives,Bool.or_eq_true] at hsurv
    rcases hsurv with hpend | hdel
    · left
      obtain ⟨d,hd⟩ := has_iff.mp hpend
      rw [hp'] at hd
      split at hd
      · exact absurd hd (by simp)
      next hnot =>
      have hdv : d ∈ m'.pendingEntries.values := mem_values.mpr ⟨id',hd⟩
      obtain ⟨hdget,-,hdcat⟩ := mem_pending_reclassify hi o compactedAt hdv
      have hid : d.deliveryId = id' := by
        have hw := wellFormed_reclassify hi.wellFormed now cs
        exact hw.deliveryId_eq id' d (hw.pending_stored id' d hd)
      rw [hid,hy,some.injEq] at hdcat
      subst hdcat
      refine ⟨y,t,hdv,hroom,hty,hkey,hlt,fun z hz u hu hku => ?_⟩
      by_contra hgt
      apply hnot
      rw [← hid]
      exact (hout hdv).mpr (mem_outdated.mpr ⟨hdv,t,hty,z,hz,u,hu,hku.trans hkey.symm,not_le.mp hgt⟩)
    · right
      rw [isDelivered,hr'] at hdel
      split at hdel
      · exact absurd hdel (by simp)
      rw [hh',catalog_delivered hi o compactedAt hdel] at hy
      exact ⟨id',y,t,hy,hdel,hroom,hty,hkey,hlt⟩
  · intro hagree
    refine ⟨fun id x hx hopen hsup => ?_,fun id x hx hnamed => ?_⟩
    case refine_2 =>
      have hnot : id ∉ (outdated m').map deliveryId := by
        intro hmem
        obtain ⟨d',hd',rfl⟩ := mem_map.mp hmem
        obtain ⟨hdv,s,hs,hz⟩ := mem_outdated.mp hd'
        cases d' with
        | state d' => exact absurd hs (by simp [Delivery.supersession])
        | event d' =>
          obtain ⟨d,hd,hroom⟩ := (pending_reclassify hi.wellFormed now cs _).1 _
            (mem_pending_reclassify hi o compactedAt hdv).1
          rw [catalog_of_pending hi hd,some.injEq] at hx
          subst hx
          exact hnamed (hroom ▸ (hagree d' s hdv hs hz).1)
      obtain ⟨hp',ht',hr'⟩ := hstatus id
      rw [if_neg hnot] at hp' hr'
      refine ⟨?_,by simpa [hnot] using ht',hr'⟩
      rw [hp']
      by_cases hid : id ∈ cs.map Prod.fst
      · cases hget : h.memory.pendingEntries.get id with
        | none =>
          cases hget' : m'.pendingEntries.get id with
          | none => rfl
          | some d' =>
            obtain ⟨d,hd,-⟩ := (pending_reclassify hi.wellFormed now cs id).1 d' hget'
            exact absurd (hget.symm.trans hd) (by simp)
        | some d =>
          obtain ⟨c,hc,rfl⟩ := mem_map.mp hid
          rw [catalog_of_pending hi hget,some.injEq] at hx
          exact absurd ⟨c,hc,d,hget,hx ▸ rfl⟩ hnamed
      · exact (pending_reclassify hi.wellFormed now cs id).2 hid
    rw [isSuperseded,Bool.and_eq_true] at hsup
    have hin : id ∈ (outdated m').map deliveryId := by
      have ht := (hstatus id).2.1
      rw [hsup.1,hopen,Bool.or_false] at ht
      simpa using ht.symm
    obtain ⟨d,hd,rfl⟩ := mem_map.mp hin
    obtain ⟨hdv,s,hs,hz⟩ := mem_outdated.mp hd
    obtain ⟨hdget,-,hdcat⟩ := mem_pending_reclassify hi o compactedAt hdv
    rw [hh'] at hx
    rw [hx,some.injEq] at hdcat
    subst hdcat
    rcases (hagree x s hdv hs hz).2 with ⟨y,u,hyv,hroom,hu,hkey,hlt,hmax⟩ |
      ⟨id',y,u,hy,hdel,hroom,hu,hkey,hlt⟩
    · obtain ⟨hyget,-,hycat⟩ := mem_pending_reclassify hi o compactedAt hyv
      have hnot : (Delivery.event y).deliveryId ∉ (outdated m').map deliveryId := by
        rw [hout hyv,mem_outdated]
        rintro ⟨-,u',hu',z,hz',t,ht,hkt,hgt⟩
        rw [show (Delivery.event y).supersession = y.supersession from rfl,hu,some.injEq] at hu'
        subst hu'
        exact absurd (hmax z hz' t ht (hkt.trans hkey)) (not_le.mpr hgt)
      refine ⟨s,_,y,u,hs,hycat,?_,hroom,hu,hkey,hlt,?_⟩
      · intro heq
        rw [heq,hdget,some.injEq,Delivery.event.injEq] at hyget
        subst hyget
        rw [show (Delivery.event x).supersession = x.supersession from rfl] at hs
        rw [hs,some.injEq] at hu
        subst hu
        exact lt_irrefl _ hlt
      · have hp' := (hstatus (Delivery.event y).deliveryId).1
        rw [if_neg hnot,hyget] at hp'
        rw [survives,Memory.isPending,has,hp']
        rfl
    · have hnot : id' ∉ (outdated m').map deliveryId := by
        intro hmem
        obtain ⟨e,he,rfl⟩ := mem_map.mp hmem
        have hopen' := (mem_pending_reclassify hi o compactedAt (mem_outdated.mp he).1).2.1
        rw [has,Option.isSome_eq_false_iff,Option.isNone_iff_eq_none] at hopen'
        simp [isDelivered,receipt,deliveredEventId,hopen'] at hdel
      refine ⟨s,id',y,u,hs,?_,fun heq => hnot (heq ▸ hin),hroom,hu,hkey,hlt,?_⟩
      · rw [hh',catalog_delivered hi o compactedAt hdel]
        exact hy
      · have hr' := (hstatus id').2.2
        rw [if_neg hnot] at hr'
        rw [survives,isDelivered,hr',← isDelivered,hdel,Bool.or_true]

end Classify

/-- Every staging and every classification, in every reachable state. -/
theorem operation_confined_iff {o : Options} {h : History} (hr : Reachable o h) (op : Operation)
    (compactedAt : Timestamp) : op.Confined h (h.perform (op.commits o h.memory compactedAt)) ↔ op.RoomsAgree h := by
  cases op with
  | stage d => exact iff_of_true (stage_confined hr d compactedAt) trivial
  | classifyMany cs now => exact classifyMany_confined_iff hr compactedAt
  | markDelivered | markSuperseded => exact Iff.rfl

/-- One Workspace snapshot key is pending in two rooms, in the second room with a newer version. -/
def snapshotInTwoRooms : List Operation :=
  let snapshot (id room : JsString) (version : ℕ) (createdAt : ℤ) : Delivery :=
    .event ⟨id,room,id,[],createdAt,some .control,some ⟨"workspace:w",version⟩⟩
  [.stage (snapshot "a" "!a" 4 1),.stage (snapshot "b" "!b" 5 2)]

/-- The second room's delivery is classified again, with the metadata it has. -/
def classifySecondRoom : Operation := .classifyMany [("b",⟨some .control,some ⟨"workspace:w",5⟩⟩)] 3

set_option maxRecDepth 100000 in
/-- The call supersedes the first room's only, hence newest, version of the key. -/
theorem snapshotInTwoRooms_not_confined :
    let h := runCalls {} ⟨3,rfl⟩ snapshotInTwoRooms
    Reachable {} h ∧
      ¬ classifySecondRoom.Confined h (h.perform (classifySecondRoom.commits {} h.memory ⟨3,rfl⟩)) := by
  intro h
  refine ⟨reachable_runCalls _ _ _,fun hconf => ?_⟩
  have hentries : (h.perform (classifySecondRoom.commits {} h.memory ⟨3,rfl⟩)).catalog.entries =
      [(("a" : JsString),Delivery.event ⟨"a","!a","a",[],1,some .control,some ⟨"workspace:w",4⟩⟩),
        (("b" : JsString),Delivery.event ⟨"b","!b","b",[],2,some .control,
          some ⟨"workspace:w",5⟩⟩)] := by decide
  obtain ⟨s,id',y,t,-,hy,hne,hroom,-⟩ := hconf.1 "a" _
    (get_eq_some.mpr (hentries ▸ mem_cons_self)) (by decide) (by decide)
  have hmem := get_eq_some.mp hy
  rw [hentries] at hmem
  simp only [mem_cons,Prod.mk.injEq,Delivery.event.injEq,not_mem_nil,or_false] at hmem
  rcases hmem with ⟨rfl,-⟩ | ⟨-,rfl⟩
  · exact hne rfl
  · exact absurd hroom (by decide)

theorem operation_confined_iff_snapshotInTwoRooms :
    let h := runCalls {} ⟨3,rfl⟩ snapshotInTwoRooms
    classifySecondRoom.Confined h (h.perform (classifySecondRoom.commits {} h.memory ⟨3,rfl⟩)) ↔
      classifySecondRoom.RoomsAgree h :=
  operation_confined_iff (reachable_runCalls {} ⟨3,rfl⟩ snapshotInTwoRooms) _ _

end Malink.Outbox
