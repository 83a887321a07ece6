import Malink.OutboxFailures

/-!
# Outbox calls under way

Between two writes of a call the memory is the replay of the records it has written. A pending delivery stays pending
under the same creation time, or the call that closes it names it, and it stays closed.
-/

namespace Malink.Outbox

open List

/-- The deliveries that a call closes at most. -/
def Operation.closes (o : Options) (m : Memory) (compactedAt : Timestamp) : Operation → List JsString
  | stage d => (Outbox.stage o m d compactedAt).1
  | classifyMany cs now => (Outbox.classifyMany o m cs now compactedAt).1
  | markDelivered id _ _ => [id]
  | markSuperseded id _ _ => [id]

def OutboxEntry.closed : OutboxEntry → Option JsString
  | delivered id _ _ => some id
  | superseded id _ _ => some id
  | _ => none

/-- A delivery that was pending is pending with the same creation time and room, or it is closed. -/
structure Advances (closed : JsString → Prop) (m m' : Memory) : Prop where
  pending : ∀ id d, m.pendingEntries.get id = some d →
    (∃ d',m'.pendingEntries.get id = some d' ∧ d'.createdAt = d.createdAt) ∨
      (closed id ∧ m'.terminal.has id)
  terminal : ∀ id, m.terminal.has id → m'.terminal.has id

variable {closed closed' : JsString → Prop} {m m' m'' : Memory}

theorem Advances.of_covers (h : Advances closed m m') (hc : Covers m' m'') : Advances closed m m'' where
  pending id d hd := by
    rw [← hc.pendingEntries,← hc.terminal]
    exact h.pending id d hd
  terminal id ht := by
    rw [← hc.terminal]
    exact h.terminal id ht

theorem advances_finish (m : Memory) (id : JsString) (e : Option JsString) :
    Advances (· = id) m (m.finish id e) where
  pending id' d hd := by
    by_cases h : id' = id
    · refine .inr ⟨h,?_⟩
      rw [has_terminal_finish]
      simp [h]
    · refine .inl ⟨d,?_,rfl⟩
      rw [pending_finish,if_neg h]
      exact hd
  terminal id' ht := by
    rw [has_terminal_finish,ht,Bool.or_true]

variable {id : JsString} {es : List OutboxEntry}

theorem terminal_loadEntry (e : OutboxEntry) (h : m.terminal.has id) : (loadEntry m e).terminal.has id := by
  cases e with
  | delivered a b c => exact (advances_finish m a _).terminal id h
  | superseded a b c => exact (advances_finish m a _).terminal id h
  | pending d => exact h
  | classified a b c =>
    simp only [loadEntry]
    split
    · exact h
    · exact h

theorem terminal_replay (es : List OutboxEntry) (h : m.terminal.has id) : (replay m es).terminal.has id := by
  induction es generalizing m with
  | nil => exact h
  | cons e es ih => exact ih (terminal_loadEntry e h)

/-- One record, and a pending delivery that it does not stage. -/
theorem pending_loadEntry (hm : WellFormed m) {d : Delivery}
    (hd : m.pendingEntries.get id = some d) {e : OutboxEntry} (he : ∀ x,e = .pending x → x.deliveryId ≠ id) :
    (∃ d',(loadEntry m e).pendingEntries.get id = some d' ∧ d'.createdAt = d.createdAt) ∨
      (e.closed = some id ∧ (loadEntry m e).terminal.has id) := by
  cases e with
  | delivered a eventId at' =>
    exact ((advances_finish m a (some eventId)).pending id d hd).imp_right
      fun h => ⟨congrArg some h.1.symm,h.2⟩
  | superseded a at' reason =>
    exact ((advances_finish m a none).pending id d hd).imp_right fun h => ⟨congrArg some h.1.symm,h.2⟩
  | pending x =>
    refine .inl ⟨d,?_,rfl⟩
    simp only [loadEntry]
    split
    · exact hd
    · rw [InsertionMap.get_set_of_ne _ _ (he x rfl).symm]
      exact hd
  | classified a metadata at' =>
    left
    simp only [loadEntry]
    split
    · next x hx =>
      simp only
      split
      · rw [InsertionMap.get_set]
        split
        · next heq =>
          subst heq
          have hstored := hm.pending_stored id d hd
          rw [hx] at hstored
          cases hstored
          exact ⟨_,rfl,rfl⟩
        · exact ⟨d,hd,rfl⟩
      · exact ⟨d,hd,rfl⟩
    · exact ⟨d,hd,rfl⟩

theorem pending_replay (hm : WellFormed m) {d : Delivery}
    (hd : m.pendingEntries.get id = some d) (hes : ∀ x,.pending x ∈ es → x.deliveryId ≠ id) :
    (∃ d',(replay m es).pendingEntries.get id = some d' ∧ d'.createdAt = d.createdAt) ∨
      ((∃ e ∈ es,e.closed = some id) ∧ (replay m es).terminal.has id) := by
  induction es generalizing m d with
  | nil => exact .inl ⟨d,hd,rfl⟩
  | cons e es ih =>
    have hrest : ∀ x,.pending x ∈ es → x.deliveryId ≠ id := fun x hx => hes x (mem_cons_of_mem e hx)
    rcases pending_loadEntry hm hd fun x hx => hes x (hx ▸ mem_cons_self) with
      ⟨d',hd',hat⟩ | ⟨hclosed,ht⟩
    · rcases ih (hm.loadEntry e) hd' hrest with ⟨d'',hd'',hat'⟩ | ⟨⟨e',he',hclosed⟩,ht⟩
      · exact .inl ⟨d'',hd'',hat'.trans hat⟩
      · exact .inr ⟨⟨e',mem_cons_of_mem e he',hclosed⟩,ht⟩
    · exact .inr ⟨⟨e,mem_cons_self,hclosed⟩,terminal_replay es ht⟩

/-- A call stages only what is not pending, and closes only what it names. -/
theorem record_of_call (hm : WellFormed m) (o : Options) (compactedAt : Timestamp) (op : Operation) :
    ∀ e ∈ (op.commits o m compactedAt).flatMap (fun c => c.write.appended),
      (∀ x,e = .pending x → m.pendingEntries.has x.deliveryId = false) ∧
        ∀ id, e.closed = some id → id ∈ op.closes o m compactedAt := by
  cases op with
  | stage d =>
    by_cases hfresh : m.pendingEntries.has d.deliveryId = false ∧ m.terminal.has d.deliveryId = false
    · have hcloses : (Operation.stage d).closes o m compactedAt =
          older m d ++ (if supersedesItself m d then [d.deliveryId] else []) := by
        simp [Operation.closes,stage,hfresh.1,hfresh.2]
      rw [Operation.commits,records_stage hfresh.1 hfresh.2,hcloses]
      intro e he
      rw [mem_append,mem_cons,mem_map,mem_map] at he
      rcases he with ⟨a,ha,rfl⟩ | rfl | ⟨a,ha,rfl⟩
      · refine ⟨by simp [supersedeRecord],fun id hid => ?_⟩
        cases hid
        exact mem_append_left _ ha
      · refine ⟨fun x hx => ?_,by simp [OutboxEntry.closed]⟩
        cases hx
        exact hfresh.1
      · refine ⟨by simp [supersedeRecord],fun id hid => ?_⟩
        cases hid
        exact mem_append_right _ ha
    · rw [Operation.commits,stage_known hfresh]
      simp
  | classifyMany cs now =>
    rw [Operation.commits,records_classifyMany]
    intro e he
    rcases mem_append.mp he with he | he
    · obtain ⟨id,metadata,rfl,-⟩ := reclassify_records hm now cs e he
      exact ⟨by simp,by simp [OutboxEntry.closed]⟩
    · obtain ⟨d,hd,rfl⟩ := mem_map.mp he
      refine ⟨by simp [supersededEntry],fun id hid => ?_⟩
      cases hid
      exact mem_map_of_mem hd
  | markDelivered id eventId now =>
    rw [(records_mark hm o compactedAt id eventId now).1]
    split
    · simp [OutboxEntry.closed,Operation.closes]
    · simp
  | markSuperseded id reason now =>
    rw [(records_mark hm o compactedAt id reason now).2]
    split
    · simp [OutboxEntry.closed,Operation.closes]
    · simp

/-- The records whose effect the memory has at a write of a call. -/
def Operation.recordsAt (o : Options) (m : Memory) (compactedAt : Timestamp) (k : ℕ) (op : Operation) :
    List OutboxEntry :=
  ((op.commits o m compactedAt).take k).flatMap (fun c => c.write.appended) ++ op.stored m k

theorem recordsAt_subset (o : Options) (m : Memory) (compactedAt : Timestamp) (k : ℕ) (op : Operation) :
    op.recordsAt o m compactedAt k ⊆ (op.commits o m compactedAt).flatMap (fun c => c.write.appended) := by
  intro e he
  rcases mem_append.mp he with he | he
  · obtain ⟨c,hc,hec⟩ := mem_flatMap.mp he
    exact mem_flatMap.mpr ⟨c,mem_of_mem_take hc,hec⟩
  · cases op with
    | classifyMany cs now =>
      rw [Operation.commits,records_classifyMany]
      by_cases hk : k = 0
      · simp only [Operation.stored,if_pos hk] at he
        exact mem_append_left _ he
      · simp only [Operation.stored,if_neg hk] at he
        cases he
    | stage | markDelivered | markSuperseded => cases he

theorem Commits.wellFormed {cs : List Commit} (hcs : Commits m cs) (hm : WellFormed m) :
    WellFormed (lastMemory m cs) := by
  induction hcs with
  | nil m => exact hm
  | @append m after es cs hafter _ _ ih =>
    rw [lastMemory_cons]
    exact ih ((hm.replay es).of_same hafter.symm)
  | @compact m compactedAt cs _ ih =>
    rw [lastMemory_cons]
    exact ih (hm.compact compactedAt)

section

variable (hm : WellFormed m) (hone : OneState m) (o : Options)
include hm hone

section

variable (compactedAt : Timestamp) (k : ℕ) (op : Operation)
include compactedAt k op

/-- The memory at a write of a call, up to what a compaction drops from the catalog. -/
theorem covers_memoryAt : Covers (replay m (op.recordsAt o m compactedAt k)) (op.memoryAt o m compactedAt k) := by
  have hcs := (commits_operation hm hone o compactedAt op).take k
  rw [memoryAt_eq_replay hm,Operation.recordsAt,replay_append]
  exact (hcs.covers hm).replay (hcs.wellFormed hm) _

theorem wellFormed_memoryAt : WellFormed (op.memoryAt o m compactedAt k) := by
  rw [memoryAt_eq_replay hm]
  exact (((commits_operation hm hone o compactedAt op).take k).wellFormed hm).replay _

theorem oneState_memoryAt : OneState (op.memoryAt o m compactedAt k) := by
  rw [memoryAt_eq_replay hm]
  refine (((commits_operation hm hone o compactedAt op).take k).oneState hone).replay fun e he => ?_
  cases op with
  | classifyMany cs now =>
    by_cases hk : k = 0
    · simp only [Operation.stored,if_pos hk] at he
      exact reclassify_not_pending m now cs e he
    · simp only [Operation.stored,if_neg hk] at he
      cases he
  | stage | markDelivered | markSuperseded => cases he

theorem advances_memoryAt : Advances (· ∈ op.closes o m compactedAt) m (op.memoryAt o m compactedAt k) := by
  have hrecords := record_of_call hm o compactedAt op
  have hsubset := recordsAt_subset o m compactedAt k op
  refine Advances.of_covers ⟨fun id d hd => ?_,fun id ht => terminal_replay _ ht⟩
    (covers_memoryAt hm hone o compactedAt k op)
  have hnew : ∀ x,.pending x ∈ op.recordsAt o m compactedAt k → x.deliveryId ≠ id := by
    rintro x hx rfl
    have hfresh := (hrecords _ (hsubset hx)).1 x rfl
    rw [InsertionMap.has,hd] at hfresh
    cases hfresh
  rcases pending_replay hm hd hnew with hpending | ⟨⟨e,he,hclosed⟩,ht⟩
  · exact .inl hpending
  · exact .inr ⟨(hrecords e (hsubset he)).2 id hclosed,ht⟩

end

end

theorem memoryAt_length (hm : WellFormed m) (o : Options) (compactedAt : Timestamp) (op : Operation) :
    op.memoryAt o m compactedAt (op.commits o m compactedAt).length =
      lastMemory m (op.commits o m compactedAt) := by
  cases op with
  | classifyMany cs now =>
    by_cases hzero : ((Operation.classifyMany cs now).commits o m compactedAt).length = 0
    · have hnil := length_eq_zero_iff.mp hzero
      have hcommits := hnil
      rw [Operation.commits,classifyMany_commits,append_eq_nil_iff] at hcommits
      have hlast := lastMemory_classifyCommits hm now cs
      rw [hcommits.1] at hlast
      simp only [Operation.memoryAt,if_pos hzero]
      rw [hnil]
      exact hlast
    · simp only [Operation.memoryAt,if_neg hzero,take_length]
  | stage | markDelivered | markSuperseded => simp only [Operation.memoryAt,take_length]

/-- Only a record that stages it makes a delivery pending. -/
theorem pending_of_replay (hes : ∀ x,.pending x ∈ es → x.deliveryId ≠ id) (h : (replay m es).pendingEntries.has id) :
    m.pendingEntries.has id := by
  induction es generalizing m with
  | nil => exact h
  | cons e es ih =>
    replace h := ih (m := loadEntry m e) (fun x hx => hes x (mem_cons_of_mem e hx)) h
    cases e with
    | pending x =>
      have hne : id ≠ x.deliveryId := (hes x mem_cons_self).symm
      simp only [loadEntry] at h
      split at h
      · exact h
      · rwa [InsertionMap.has,InsertionMap.get_set_of_ne _ _ hne] at h
    | delivered | superseded =>
      rw [loadEntry,has_pending_finish,Bool.and_eq_true] at h
      exact h.2
    | classified a b c =>
      simp only [loadEntry] at h
      split at h
      · simp only at h
        split at h
        · next hhas =>
          rw [InsertionMap.has,InsertionMap.get_set] at h
          split at h
          · next heq => exact heq ▸ hhas
          · exact h
        · exact h
      · exact h

def stagedIds (es : List OutboxEntry) : List JsString :=
  es.filterMap fun | .pending d => some d.deliveryId | _ => none

theorem mem_stagedIds : id ∈ stagedIds es ↔ ∃ x, .pending x ∈ es ∧ x.deliveryId = id := by
  unfold stagedIds
  rw [mem_filterMap]
  constructor
  · rintro ⟨e,he,hid⟩
    cases e with
    | pending x => exact ⟨x,he,Option.some.inj hid⟩
    | delivered | superseded | classified => cases hid
  · rintro ⟨x,hx,rfl⟩
    exact ⟨_,hx,rfl⟩

theorem stagedIds_of_call (hm : WellFormed m) (o : Options) (compactedAt : Timestamp) (op : Operation) :
    (stagedIds ((op.commits o m compactedAt).flatMap (fun c => c.write.appended))).length ≤ 1 := by
  have hsupersede : ∀ (at' : ℤ) (reason : Option JsString) (ids : List JsString),
      stagedIds (ids.map (supersedeRecord at' reason)) = [] := by
    intro at' reason ids
    rw [eq_nil_iff_forall_not_mem]
    intro id hid
    obtain ⟨x,hx,-⟩ := mem_stagedIds.mp hid
    obtain ⟨a,-,ha⟩ := mem_map.mp hx
    cases ha
  have hnone : ∀ es : List OutboxEntry,(∀ e ∈ es,∀ d,e ≠ .pending d) → stagedIds es = [] := by
    intro es hes
    rw [eq_nil_iff_forall_not_mem]
    intro id hid
    obtain ⟨x,hx,-⟩ := mem_stagedIds.mp hid
    exact hes _ hx x rfl
  cases op with
  | stage d =>
    by_cases hfresh : m.pendingEntries.has d.deliveryId = false ∧ m.terminal.has d.deliveryId = false
    · rw [Operation.commits,records_stage hfresh.1 hfresh.2]
      have hsplit : stagedIds ((older m d).map (supersedeRecord d.createdAt (some (olderReason d))) ++
          .pending d :: (if supersedesItself m d then [d.deliveryId] else []).map
            (supersedeRecord d.createdAt (some (obsoleteReason d)))) = [d.deliveryId] := by
        have happend : ∀ es fs,stagedIds (es ++ .pending d :: fs) =
            stagedIds es ++ d.deliveryId :: stagedIds fs := by
          intro es fs
          simp [stagedIds]
        rw [happend,hsupersede,hsupersede]
        rfl
      rw [hsplit]
      exact Nat.le_refl 1
    · rw [Operation.commits,stage_known hfresh]
      exact Nat.zero_le 1
  | classifyMany cs now =>
    rw [Operation.commits,records_classifyMany,hnone]
    · exact Nat.zero_le 1
    · intro e he d
      rcases mem_append.mp he with he | he
      · exact reclassify_not_pending m now cs e he d
      · obtain ⟨x,-,rfl⟩ := mem_map.mp he
        simp [supersededEntry]
  | markDelivered id eventId now =>
    rw [(records_mark hm o compactedAt id eventId now).1,hnone]
    · exact Nat.zero_le 1
    · intro e he d
      split at he
      · rw [mem_singleton.mp he]
        simp
      · cases he
  | markSuperseded id reason now =>
    rw [(records_mark hm o compactedAt id reason now).2,hnone]
    · exact Nat.zero_le 1
    · intro e he d
      split at he
      · rw [mem_singleton.mp he]
        simp
      · cases he

theorem recordsAt_succ (o : Options) (m : Memory) (compactedAt : Timestamp) (k : ℕ) (op : Operation) :
    op.recordsAt o m compactedAt (k + 1) =
      ((op.commits o m compactedAt).take (k + 1)).flatMap (fun c => c.write.appended) := by
  unfold Operation.recordsAt
  cases op with
  | classifyMany cs now =>
    simp only [Operation.stored,if_neg (Nat.succ_ne_zero k),append_nil]
  | stage | markDelivered | markSuperseded => exact append_nil _

theorem recordsAt_prefix (o : Options) (m : Memory) (compactedAt : Timestamp) (k : ℕ) (op : Operation) :
    op.recordsAt o m compactedAt k <+: op.recordsAt o m compactedAt (k + 1) := by
  rw [recordsAt_succ]
  by_cases hstored : op.stored m k = []
  · unfold Operation.recordsAt
    rw [hstored,append_nil]
    have htake := take_prefix k ((op.commits o m compactedAt).take (k + 1))
    rw [take_take,min_eq_left (Nat.le_succ k)] at htake
    obtain ⟨rest,hrest⟩ := htake
    rw [← hrest,flatMap_append]
    exact prefix_append _ _
  · cases op with
    | classifyMany cs now =>
      by_cases hk : k = 0
      · subst hk
        unfold Operation.recordsAt
        have hentries : (reclassify m now cs).2 ++
            (outdated (reclassify m now cs).1).map (supersededEntry now) ≠ [] := by
          intro hnil
          simp only [Operation.stored,if_true] at hstored
          exact hstored (append_eq_nil_iff.mp hnil).1
        rw [Operation.commits,classifyMany_commits]
        simp only [classifyCommits,if_neg hentries,Operation.stored,if_true]
        simp [Write.appended]
      · simp only [Operation.stored,if_neg hk,not_true_eq_false] at hstored
    | stage | markDelivered | markSuperseded => exact absurd rfl hstored

theorem stagedIds_recordsAt (hm : WellFormed m) (o : Options) (compactedAt : Timestamp) (k : ℕ)
    (op : Operation) : (stagedIds (op.recordsAt o m compactedAt (k + 1))).length ≤ 1 := by
  have hfront : op.recordsAt o m compactedAt (k + 1) <+:
      (op.commits o m compactedAt).flatMap (fun c => c.write.appended) := by
    rw [recordsAt_succ]
    obtain ⟨rest,hrest⟩ := take_prefix (k + 1) (op.commits o m compactedAt)
    conv_rhs => rw [← hrest,flatMap_append]
    exact prefix_append _ _
  exact (hfront.sublist.filterMap _).length_le.trans (stagedIds_of_call hm o compactedAt op)

theorem advances_memoryAt_succ (hm : WellFormed m) (hone : OneState m) (o : Options)
    (compactedAt : Timestamp) (k : ℕ) (op : Operation) : Advances (fun _ => True)
      (op.memoryAt o m compactedAt k) (op.memoryAt o m compactedAt (k + 1)) := by
  obtain ⟨es,hes⟩ := recordsAt_prefix o m compactedAt k op
  have hbefore := covers_memoryAt hm hone o compactedAt k op
  have hafter := covers_memoryAt hm hone o compactedAt (k + 1) op
  have hstaged := stagedIds_recordsAt hm o compactedAt k op
  rw [← hes,replay_append] at hafter
  rw [← hes,stagedIds,filterMap_append,length_append] at hstaged
  change (stagedIds _).length + (stagedIds es).length ≤ 1 at hstaged
  refine ⟨fun id d hd => ?_,fun id ht => ?_⟩
  · rw [← hbefore.pendingEntries] at hd
    have hnew : ∀ x,.pending x ∈ es → x.deliveryId ≠ id := by
      rintro x hx rfl
      have hlater : 0 < (stagedIds es).length := length_pos_of_mem (mem_stagedIds.mpr ⟨x,hx,rfl⟩)
      have hearlier : stagedIds (op.recordsAt o m compactedAt k) = [] := length_eq_zero_iff.mp (by omega)
      have hold : m.pendingEntries.has x.deliveryId := by
        refine pending_of_replay (fun y hy heq => ?_) (InsertionMap.has_iff.mpr ⟨d,hd⟩)
        have hmem := mem_stagedIds.mpr ⟨y,hy,heq⟩
        rw [hearlier] at hmem
        cases hmem
      have hin : .pending x ∈ op.recordsAt o m compactedAt (k + 1) := by
        rw [← hes]
        exact mem_append_right _ hx
      have hfresh := (record_of_call hm o compactedAt op _ (recordsAt_subset o m compactedAt _ op hin)).1 x rfl
      rw [hfresh] at hold
      cases hold
    rcases pending_replay (hm.replay _) hd hnew with ⟨d',hd',hat⟩ | ⟨-,ht⟩
    · rw [hafter.pendingEntries] at hd'
      exact .inl ⟨d',hd',hat⟩
    · rw [hafter.terminal] at ht
      exact .inr ⟨trivial,ht⟩
  · rw [← hbefore.terminal] at ht
    rw [← hafter.terminal]
    exact terminal_replay es ht

end Malink.Outbox
