import Malink.OutboxCompaction
import Malink.OutboxSupersession

/-!
# Crashes of the outbox

A process dies between two durable writes, or inside an append with any byte prefix of it on disk. The next start
succeeds exactly when no record was torn, and finds the replay of the records on disk.
-/

namespace Malink.Outbox

open List InsertionMap
open Option (some getD_some)
open Bool (and_eq_true)
open Memory (isDelivered isPending receipt)

/-- The writes of the interrupted call that returned, and the bytes of the next append on disk. -/
structure CrashPoint where
  commits : ℕ
  bytes : ℕ

def CrashPoint.cutAppend (p : CrashPoint) (cs : List Commit) : List OutboxEntry :=
  match cs[p.commits]? with
  | some ⟨.append es,_⟩ => es
  | _ => []

/-- The records of the interrupted call that the next start can see. -/
def CrashPoint.records (p : CrashPoint) (cs : List Commit) : List OutboxEntry :=
  (cs.take p.commits).flatMap (fun c => c.write.appended) ++
    (p.cutAppend cs).take (recordsOnDisk p.bytes (p.cutAppend cs))

def CrashPoint.file (p : CrashPoint) (file : WalFile) (cs : List Commit) : WalFile :=
  let f := (cs.take p.commits).foldl (fun f c => c.write.apply f) file
  match cs[p.commits]? with
  | some ⟨.append es,_⟩ => some (f.getD [] ++ readPrefix p.bytes (encodeEntries es))
  | _ => f

variable {es : List OutboxEntry} {d x : Delivery} {h : History} {id : JsString} {n : ℕ}

/-- The file of a log that replays to a memory, with all its records readable. -/
structure Logged (file : WalFile) (m : Memory) (es : List OutboxEntry) : Prop where
  text : file.getD [] = encodeEntries es
  same : SameContents (replay .empty es) m
  readable : es.all OutboxEntry.readable

/-- Every delivery in memory is one that the reader accepts. -/
def AllReadable (m : Memory) : Prop := ∀ id d, m.deliveries.get id = some d → d.readable

variable {m : Memory} {e : OutboxEntry}

theorem AllReadable.loadEntry (h : AllReadable m) (he : e.readable) : AllReadable (loadEntry m e) := by
  cases e with
  | pending d =>
    intro id d' hd'
    change (m.deliveries.set _ _).get id = some d' at hd'
    rw [get_set] at hd'
    split at hd'
    · exact some.inj hd' ▸ he
    · exact h id d' hd'
  | delivered | superseded => exact h
  | classified id metadata at' =>
    simp only [Outbox.loadEntry]
    split
    · next d hd =>
      intro id' d' hd'
      change (m.deliveries.set _ _).get id' = some d' at hd'
      rw [get_set] at hd'
      split at hd'
      · rw [← some.inj hd']
        have hdr := h id _ hd
        simp only [OutboxEntry.readable,DeliveryMetadata.readable,and_eq_true] at he
        simp only [Delivery.readable,Delivery.createdAt,Delivery.supersession,and_eq_true] at hdr ⊢
        refine ⟨hdr.1,?_⟩
        show Option.all _ (metadata.supersession <|> d.supersession) = true
        cases hs : metadata.supersession with
        | none => exact hdr.2
        | some s => rw [hs] at he; exact he.2
      · exact h id' d' hd'
    · exact h

theorem AllReadable.replay (h : AllReadable m) (hes : es.all OutboxEntry.readable) : AllReadable (replay m es) := by
  induction es generalizing m with
  | nil => exact h
  | cons e es ih =>
    rw [all_cons,and_eq_true] at hes
    exact ih (h.loadEntry hes.1) hes.2

theorem AllReadable.of_same {a b : Memory} (h : SameContents a b) (ha : AllReadable a) : AllReadable b :=
  fun id d hd => ha id d ((h.deliveries id).trans hd)

variable {cs : List Commit}

/-- A chain of commits, all of whose records are readable, leaves a readable log of its memory. -/
theorem logged_perform (hcs : Commits m cs) (hm : WellFormed m) (hread : AllReadable m) {file : WalFile}
    (hlog : ∃ es,Logged file m es)
    (hall : (cs.flatMap (fun c => c.write.appended)).all OutboxEntry.readable) :
    (∃ es,Logged (cs.foldl (fun f c => c.write.apply f) file) (lastMemory m cs) es) ∧
      AllReadable (lastMemory m cs) ∧ WellFormed (lastMemory m cs) := by
  induction hcs generalizing file with
  | nil m => exact ⟨hlog,hread,hm⟩
  | @append m after es cs hafter _ _ ih =>
    rw [flatMap_cons,all_append,and_eq_true] at hall
    obtain ⟨fs,hfs⟩ := hlog
    rw [lastMemory_cons,foldl_cons]
    refine ih ((hm.replay es).of_same hafter.symm) ((hread.replay hall.1).of_same hafter.symm)
      ⟨fs ++ es,?_,?_,?_⟩ hall.2
    · have htext := hfs.text
      simp [Write.apply,htext,encodeEntries]
    · rw [replay_append]
      exact (hfs.same.replay es).trans hafter.symm
    · rw [all_append,hfs.readable]
      exact hall.1
  | @compact m compactedAt cs _ ih =>
    rw [lastMemory_cons,foldl_cons]
    refine ih (hm.compact compactedAt) ?_ ⟨compactedEntries m compactedAt,rfl,
      sameContents_compactedEntries hm compactedAt,?_⟩ hall
    · intro id d hd
      rw [get_compact] at hd
      split at hd
      · exact hread id d hd
      · exact absurd hd (by simp)
    · exact (all_readable_compactedEntries compactedAt).mpr (fun id d hd _ => hread id d hd)

/-- The replay of everything a chain appended covers the memory it leaves. -/
theorem Commits.covers (hcs : Commits m cs) (hm : WellFormed m) :
    Covers (replay m (cs.flatMap (fun c => c.write.appended))) (lastMemory m cs) := by
  have hgo : ∀ {m a : Memory} {cs : List Commit},Commits m cs → WellFormed m → Covers a m →
      Covers (replay a (cs.flatMap (fun c => c.write.appended))) (lastMemory m cs) := by
    intro m a cs hcs
    induction hcs generalizing a with
    | nil m => exact fun _ h => h
    | @append m after es cs hafter _ _ ih =>
      intro hm h
      rw [lastMemory_cons,flatMap_cons,replay_append]
      exact ih ((hm.replay es).of_same hafter.symm) ((h.replay hm es).trans hafter.symm.covers)
    | @compact m compactedAt cs _ ih =>
      intro hm h
      rw [lastMemory_cons]
      exact ih (hm.compact compactedAt) (h.trans (covers_compact m compactedAt))
  exact hgo hcs hm (SameContents.refl m).covers

/-- The records that a crash leaves never make two state writes of one key pending. -/
theorem Commits.oneState_cut (hcs : Commits m cs) (hone : OneState m) (p : CrashPoint) (k : ℕ) :
    OneState (replay (lastMemory m (cs.take p.commits)) ((p.cutAppend cs).take k)) := by
  obtain ⟨n,b⟩ := p
  induction hcs generalizing n with
  | nil m => simpa [CrashPoint.cutAppend,replay,lastMemory] using hone
  | @append m after es cs hafter htake _ ih =>
    cases n with
    | zero => exact htake k
    | succ n =>
      have hfull := htake es.length
      rw [take_length] at hfull
      rw [take_succ_cons,lastMemory_cons]
      exact ih (hfull.of_pendingEntries hafter.pendingEntries.symm) n
  | @compact m compactedAt cs _ ih =>
    cases n with
    | zero =>
      have hcut : CrashPoint.cutAppend ⟨0,b⟩ (Outbox.compact m compactedAt :: cs) = [] := rfl
      rw [hcut,take_nil]
      exact hone
    | succ n =>
      rw [take_succ_cons,lastMemory_cons]
      exact ih (hone.of_pendingEntries rfl) n

def supersedeRecord (at' : ℤ) (reason : Option JsString) (id : JsString) : OutboxEntry :=
  .superseded id at' ((reason.filter JsString.truthy).map (fun r => r.take 512))

theorem records_supersedeAll (m : Memory) (at' : ℤ) (reason : Option JsString) (ids : List JsString) :
    (supersedeAll m at' reason ids).flatMap (fun c => c.write.appended) =
      ids.map (supersedeRecord at' reason) := by
  induction ids generalizing m with
  | nil => rfl
  | cons id ids ih =>
    rw [supersedeAll,flatMap_cons,ih]
    rfl

theorem records_stage (hp : m.pendingEntries.has d.deliveryId = false)
    (ht : m.terminal.has d.deliveryId = false) (o : Options) (compactedAt : Timestamp) :
    ((stage o m d compactedAt).2).flatMap (fun c => c.write.appended) =
      (older m d).map (supersedeRecord d.createdAt (some (olderReason d))) ++ .pending d ::
        (if supersedesItself m d then [d.deliveryId] else []).map
          (supersedeRecord d.createdAt (some (obsoleteReason d))) := by
  rw [stage_fresh hp ht,flatMap_append,written_compactIfNeeded,append_nil,stageCommits,
    flatMap_append,flatMap_cons,records_supersedeAll]
  congr 1
  split
  · rw [records_supersedeAll]
    rfl
  · rfl

theorem stage_known
    (h : ¬ (m.pendingEntries.has d.deliveryId = false ∧ m.terminal.has d.deliveryId = false)) (o : Options)
    (compactedAt : Timestamp) : (stage o m d compactedAt).2 = [] := by
  rw [not_and_or,Bool.not_eq_false,Bool.not_eq_false] at h
  rcases h with hf | hf <;> simp [stage,hf]

theorem records_classifyMany (o : Options) (m : Memory) (cs : List (JsString × DeliveryMetadata))
    (now : ℤ) (compactedAt : Timestamp) :
    ((classifyMany o m cs now compactedAt).2).flatMap (fun c => c.write.appended) =
      (reclassify m now cs).2 ++ (outdated (reclassify m now cs).1).map (supersededEntry now) := by
  rw [classifyMany_commits,flatMap_append,written_compactIfNeeded,append_nil]
  simp only [classifyCommits]
  split
  · next hnil =>
    rw [hnil]
    rfl
  · simp [Write.appended]

theorem records_mark (h : WellFormed m) (o : Options) (compactedAt : Timestamp) (id text : JsString) (now : ℤ) :
    (((Operation.markDelivered id text now).commits o m compactedAt).flatMap (fun c => c.write.appended) =
      if m.pendingEntries.has id then [.delivered id text now] else []) ∧
    (((Operation.markSuperseded id text now).commits o m compactedAt).flatMap (fun c => c.write.appended) =
      if m.pendingEntries.has id then [.superseded id now (some (text.take 512))] else []) := by
  simp only [Operation.commits,markDelivered,markSuperseded]
  by_cases hp : m.pendingEntries.has id
  · simp only [h.pending_open id hp,hp,Bool.false_eq_true,if_false,if_true,Bool.not_true,
      Except.toOption,getD_some,flatMap_cons,written_compactIfNeeded,append_nil]
    exact ⟨rfl,rfl⟩
  · by_cases ht : m.terminal.has id = true <;> simp [hp,ht,Except.toOption]

/-- The arguments of a call that the reader will accept in the records they reach. -/
def Operation.Readable (m : Memory) : Operation → Prop
  | stage d => m.pendingEntries.has d.deliveryId = false → m.terminal.has d.deliveryId = false →
      d.readable
  | classifyMany cs now => isSafeInteger now = true ∧
      ∀ c ∈ cs, m.pendingEntries.has c.1 → c.2.readable
  | markDelivered id _ now | markSuperseded id _ now =>
      m.pendingEntries.has id = true → isSafeInteger now

theorem readable_withMetadata {d : EventDelivery} {metadata : DeliveryMetadata}
    (hd : (Delivery.event d).readable) (hm : metadata.readable) :
    (Delivery.event (withMetadata d metadata)).readable := by
  simp only [Delivery.readable,Delivery.createdAt,Delivery.supersession,and_eq_true] at hd ⊢
  refine ⟨hd.1,?_⟩
  show Option.all _ (metadata.supersession <|> d.supersession) = true
  unfold DeliveryMetadata.readable at hm
  cases hs : metadata.supersession with
  | none => exact hd.2
  | some s => rw [hs] at hm; exact hm

theorem readable_reclassify (h : WellFormed m) (hread : AllReadable m) {now : ℤ} (hnow : isSafeInteger now)
    {cs : List (JsString × DeliveryMetadata)} (hcs : ∀ c ∈ cs,m.pendingEntries.has c.1 → c.2.readable) :
    (reclassify m now cs).2.all OutboxEntry.readable := by
  induction cs generalizing m with
  | nil => rfl
  | cons c cs ih =>
    obtain ⟨id,metadata⟩ := c
    simp only [reclassify]
    split
    · next d hd =>
      split
      · exact ih h hread (fun c hc => hcs c (mem_cons_of_mem _ hc))
      · have hstored := h.pending_stored id _ hd
        have hid : d.deliveryId = id := h.deliveryId_eq id _ hstored
        have hhas : m.pendingEntries.has id := has_iff.mpr ⟨_,hd⟩
        have hkey : (Delivery.event (withMetadata d metadata)).deliveryId = id := hid
        have hnew := readable_withMetadata (hread id _ hstored) (hcs (id,metadata) (by simp) hhas)
        have hstore : WellFormed (m.store (.event (withMetadata d metadata))) := by
          apply h.store
          rw [hkey]
          exact h.pending_open _ hhas
        rw [all_cons,and_eq_true]
        refine ⟨?_,ih hstore ?_ (fun c hc hpend => hcs c (mem_cons_of_mem _ hc) ?_)⟩
        · simp only [Delivery.readable,and_eq_true] at hnew
          simp only [OutboxEntry.readable,DeliveryMetadata.readable,metadataFor,hnow,Bool.true_and]
          exact hnew.2
        · intro id' d' hd'
          change (m.deliveries.set _ _).get id' = some d' at hd'
          rw [get_set] at hd'
          split at hd'
          · exact some.inj hd' ▸ hnew
          · exact hread id' d' hd'
        · change (m.pendingEntries.set _ _).has c.1 = true at hpend
          rw [has_iff_mem_keys,mem_keys_set,hkey] at hpend
          rcases hpend with heq | hpend
          · exact heq ▸ hhas
          · exact has_iff_mem_keys.mpr hpend
    · exact ih h hread (fun c hc => hcs c (mem_cons_of_mem _ hc))

theorem readable_records (h : WellFormed m) (hread : AllReadable m) (o : Options) (compactedAt : Timestamp)
    {op : Operation} (hop : op.Readable m) :
    ((op.commits o m compactedAt).flatMap (fun c => c.write.appended)).all OutboxEntry.readable := by
  cases op with
  | stage d =>
    by_cases hfresh : m.pendingEntries.has d.deliveryId = false ∧ m.terminal.has d.deliveryId = false
    · have hd : d.readable := hop hfresh.1 hfresh.2
      have hat : isSafeInteger d.createdAt := by
        rw [Delivery.readable,and_eq_true] at hd
        exact hd.1
      rw [Operation.commits,records_stage hfresh.1 hfresh.2,all_eq_true]
      intro e he
      rw [mem_append,mem_cons,mem_map,mem_map] at he
      rcases he with ⟨_,-,rfl⟩ | rfl | ⟨_,-,rfl⟩
      · exact hat
      · exact hd
      · exact hat
    · rw [Operation.commits,stage_known hfresh]
      rfl
  | classifyMany cs now =>
    rw [Operation.commits,records_classifyMany,all_append,and_eq_true]
    refine ⟨readable_reclassify h hread hop.1 hop.2,?_⟩
    rw [all_eq_true]
    intro e he
    obtain ⟨d,-,rfl⟩ := mem_map.mp he
    exact hop.1
  | markDelivered id eventId now =>
    rw [(records_mark h o compactedAt id eventId now).1]
    split
    · next hp => simpa [OutboxEntry.readable] using hop hp
    · rfl
  | markSuperseded id reason now =>
    rw [(records_mark h o compactedAt id reason now).2]
    split
    · next hp => simpa [OutboxEntry.readable] using hop hp
    · rfl

/-- `y` is a delivery of the key of `x`, at least as new. -/
def AtLeastAsNew : Delivery → Delivery → Prop
  | .state y, .state x => SameKey y x ∧ x.createdAt ≤ y.createdAt
  | .event y, .event x => ∃ s t, x.supersession = some s ∧ y.supersession = some t ∧
      y.roomId = x.roomId ∧ t.key = s.key ∧ s.version ≤ t.version
  | _, _ => False

/-- A state write has its state key, an event may have a supersession key. -/
def HasKey : Delivery → Prop
  | .state _ => True
  | .event x => x.supersession.isSome = true

theorem HasKey.refl (h : HasKey x) : AtLeastAsNew x x := by
  cases x with
  | state x => exact ⟨⟨rfl,rfl,rfl⟩,le_refl _⟩
  | event x =>
    obtain ⟨s,hs⟩ := Option.isSome_iff_exists.mp h
    exact ⟨s,s,hs,hs,rfl,rfl,le_refl _⟩

/-- The state that a start after a crash reaches. -/
def History.recovered (h : History) (p : CrashPoint) (cs : List Commit) (m : Memory)
    (started : List Commit) : History :=
  History.perform ⟨m,p.file h.file cs,h.written ++ p.records cs⟩ started

variable {loadedAt : Timestamp}

def OutboxEntry.deliveryId : OutboxEntry → JsString
  | pending d => d.deliveryId
  | delivered id _ _ => id
  | superseded id _ _ => id
  | classified id _ _ => id

section Kept

variable {h : History} {o : Options} {compactedAt : Timestamp} {op : Operation} {es : List OutboxEntry}

abbrev Covered (h : History) (es : List OutboxEntry) (x : Delivery) : Prop :=
  ∃ id' y, (replay .empty (h.written ++ es)).deliveries.get id' = some y ∧ AtLeastAsNew y x ∧
    (replay h.memory es).survives id'

section

variable (hi : Invariant h)
include hi

end

end Kept

end Malink.Outbox
