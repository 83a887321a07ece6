import Malink.OutboxReplay

/-!
# Runs of the outbox

Every operation is a chain of commits: an append after which the memory is the replay of the records, or a compaction.
-/

namespace Malink.Outbox

open List InsertionMap
open Option (some)
open Outbox.Delivery (deliveryId)

/-- A chain of durable writes whose memories follow the log. -/
inductive Commits : Memory → List Commit → Prop
  | nil (m : Memory) : Commits m []
  | append {m after : Memory} {es : List OutboxEntry} {cs : List Commit}
      (hafter : SameContents after (replay m es)) (hone : ∀ k,OneState (replay m (es.take k)))
      (hcs : Commits after cs) :
      Commits m (⟨.append es,after⟩ :: cs)
  | compact {m : Memory} {compactedAt : Timestamp} {cs : List Commit}
      (hcs : Commits (compact m compactedAt).after cs) : Commits m (compact m compactedAt :: cs)

theorem lastMemory_cons (m : Memory) (c : Commit) (cs : List Commit) :
    lastMemory m (c :: cs) = lastMemory c.after cs := by
  cases cs with
  | nil => rfl
  | cons c' cs => rw [lastMemory,lastMemory,getLast?_cons_cons,getLast?_cons]; rfl

theorem lastMemory_append (m : Memory) (cs cs' : List Commit) :
    lastMemory m (cs ++ cs') = lastMemory (lastMemory m cs) cs' := by
  induction cs generalizing m with
  | nil => rfl
  | cons c cs ih => rw [cons_append,lastMemory_cons,lastMemory_cons,ih]

variable {m : Memory} {cs : List Commit} {id : JsString}

theorem Commits.trans {cs' : List Commit} (h : Commits m cs) (h' : Commits (lastMemory m cs) cs') :
    Commits m (cs ++ cs') := by
  induction h with
  | nil m => exact h'
  | append hafter hone _ ih => exact .append hafter hone (ih (by rwa [lastMemory_cons] at h'))
  | compact _ ih => exact .compact (ih (by rwa [lastMemory_cons] at h'))

theorem Commits.take (h : Commits m cs) (n : ℕ) : Commits m (cs.take n) := by
  induction h generalizing n with
  | nil m => simpa using Commits.nil m
  | append hafter hone _ ih =>
    cases n with
    | zero => exact .nil _
    | succ n => exact .append hafter hone (ih n)
  | compact _ ih =>
    cases n with
    | zero => exact .nil _
    | succ n => exact .compact (ih n)

theorem has_normalized (m : InsertionMap JsString (Option JsString)) {t : InsertionMap JsString (Option JsString)}
    (h : t.entries = m.entries.map (fun e => (e.1,e.2.filter JsString.truthy))) (id : JsString) :
    t.get id = (m.get id).map (fun e => e.filter JsString.truthy) := by
  ext e
  rw [get_eq_some,h,mem_map]
  simp only [Option.map_eq_some_iff,get_eq_some,Prod.mk.injEq,Prod.exists]
  constructor
  · rintro ⟨a,b,hmem,rfl,rfl⟩
    exact ⟨b,hmem,rfl⟩
  · rintro ⟨b,hmem,rfl⟩
    exact ⟨id,b,hmem,rfl,rfl⟩

theorem get_compact {compactedAt : Timestamp} : (compact m compactedAt).after.deliveries.get id =
      if id ∈ retainedDeliveryIds m then m.deliveries.get id else none := by
  ext d
  show (m.deliveries.filter _).get id = some d ↔ _
  rw [get_filter]
  by_cases h : id ∈ retainedDeliveryIds m <;> simp [h]

theorem sameContents_compactedEntries (h : WellFormed m) (compactedAt : Timestamp) :
    SameContents (replay .empty (compactedEntries m compactedAt)) (compact m compactedAt).after := by
  obtain ⟨hp,hd,ht⟩ := replay_compactedEntries h compactedAt 0 0
  change SameContents (replay ⟨.empty,.empty,.empty,0,0⟩ (compactedEntries m compactedAt)) _
  have hget := has_normalized m.terminal ht
  refine ⟨hp,fun id => ?_,fun id => ?_,fun id => ?_⟩
  · ext d
    rw [get_eq_some,hd,mem_retainedEntries,get_compact]
    by_cases hid : id ∈ retainedDeliveryIds m <;> simp [hid]
  · show _ = m.terminal.has id
    rw [has,hget,Option.isSome_map]
    rfl
  · show _ = m.receipt id
    rw [Memory.receipt,Memory.deliveredEventId,hget,Memory.receipt,Memory.deliveredEventId]
    cases m.terminal.get id with
    | none => rfl
    | some e =>
      cases e with
      | none => rfl
      | some e => by_cases htruthy : e.truthy = true <;> simp [Option.filter,htruthy]

theorem WellFormed.compact (h : WellFormed m) (compactedAt : Timestamp) : WellFormed (compact m compactedAt).after :=
  (wellFormed_empty.replay _).of_same (sameContents_compactedEntries h compactedAt)

variable (o : Options)

theorem commits_compactIfNeeded (m : Memory) (compactedAt : Timestamp) :
    Commits m (compactIfNeeded o m compactedAt) := by
  unfold compactIfNeeded
  split
  · exact .nil m
  · exact .compact (.nil _)

theorem OneState.finish (h : OneState m) (id : JsString) (e : Option JsString) : OneState (m.finish id e) := by
  intro a b d d' ha hb
  rw [pending_finish] at ha hb
  split at ha
  · exact absurd ha (by simp)
  split at hb
  · exact absurd hb (by simp)
  exact h a b d d' ha hb

variable {e : OutboxEntry}

theorem OneState.loadEntry (h : OneState m) (he : ∀ d,e ≠ .pending d) : OneState (loadEntry m e) := by
  cases e with
  | pending d => exact absurd rfl (he d)
  | delivered id eventId at' => exact h.finish id _
  | superseded id at' reason => exact h.finish id _
  | classified id metadata at' =>
    simp only [Outbox.loadEntry]
    split
    · next d _ =>
      by_cases hp : m.pendingEntries.has id
      · simp only [hp,if_true]
        have hold : ∀ a x,(m.pendingEntries.set id (.event (withMetadata d metadata))).get a =
            some (.state x) → m.pendingEntries.get a = some (.state x) := by
          intro a x ha
          rw [get_set] at ha
          split at ha
          · exact absurd ha (by simp)
          · exact ha
        exact fun a b x y ha hb => h a b x y (hold a x ha) (hold b y hb)
      · simp only [hp,Bool.false_eq_true,if_false]
        exact h.of_pendingEntries rfl
    · exact h

variable {es : List OutboxEntry}

theorem OneState.replay (h : OneState m) (hes : ∀ e ∈ es,∀ d,e ≠ .pending d) : OneState (replay m es) := by
  induction es generalizing m with
  | nil => exact h
  | cons e es ih =>
    exact ih (h.loadEntry (hes e (by simp))) (fun x hx => hes x (mem_cons_of_mem e hx))

theorem oneState_take_singleton (h : OneState m) (he : OneState (loadEntry m e)) (k : ℕ) :
    OneState (Outbox.replay m ([e].take k)) := by
  cases k with
  | zero => exact h
  | succ k => rwa [take_succ_cons,take_nil]

theorem commits_supersedeAll (hone : OneState m) (at' : ℤ) (reason : Option JsString) (ids : List JsString) :
    Commits m (supersedeAll m at' reason ids) ∧
      SameContents (lastMemory m (supersedeAll m at' reason ids)) (finishAll m ids) ∧
      OneState (lastMemory m (supersedeAll m at' reason ids)) := by
  induction ids generalizing m with
  | nil => exact ⟨.nil m,.refl m,hone⟩
  | cons id ids ih =>
    have hsame : SameContents (supersede m id at' reason).after (m.finish id none) :=
      ((SameContents.refl m).appended _).finish id none
    have hone' : OneState (supersede m id at' reason).after :=
      (hone.finish id none).of_pendingEntries hsame.pendingEntries.symm
    obtain ⟨hcs,hlast,hlastOne⟩ := ih hone'
    refine ⟨.append hsame (oneState_take_singleton hone (hone.finish id none)) hcs,?_,?_⟩
    · rw [supersedeAll,lastMemory_cons]
      refine hlast.trans ?_
      have hgo : ∀ (ids : List JsString) {a b : Memory},SameContents a b →
          SameContents (finishAll a ids) (finishAll b ids) := by
        intro ids
        induction ids with
        | nil => exact fun h => h
        | cons id ids ih => exact fun h => ih (h.finish id none)
      exact hgo ids hsame
    · rw [supersedeAll,lastMemory_cons]
      exact hlastOne

theorem get_finishAll (m : Memory) (ids : List JsString) (id : JsString) :
    (finishAll m ids).pendingEntries.get id = (if id ∈ ids then none else m.pendingEntries.get id) ∧
    (finishAll m ids).terminal.get id = (if id ∈ ids then some none else m.terminal.get id) := by
  induction ids generalizing m with
  | nil => simp [finishAll]
  | cons a ids ih =>
    obtain ⟨hp,ht⟩ := ih (m.finish a none)
    rw [pending_finish] at hp
    rw [terminal_finish] at ht
    rw [finishAll,foldl_cons,← finishAll,hp,ht]
    by_cases hid : id ∈ ids
    · simp [hid]
    · by_cases ha : id = a <;> simp [hid,ha]

variable {d : Delivery}

theorem mem_older (h : WellFormed m) : id ∈ older m d ↔ ∃ c, m.pendingEntries.get id = some c ∧ olderCandidate d c := by
  simp only [older,mem_map,mem_filter,mem_values]
  constructor
  · rintro ⟨c,⟨⟨k,hk⟩,hc⟩,rfl⟩
    have hid := h.deliveryId_eq k c (h.pending_stored k c hk)
    exact ⟨c,hid ▸ hk,hc⟩
  · rintro ⟨c,hk,hc⟩
    exact ⟨c,⟨⟨id,hk⟩,hc⟩,h.deliveryId_eq id c (h.pending_stored id c hk)⟩

private theorem oneState_store (hone : OneState m)
    (hnone : ∀ id c,m.pendingEntries.get id = some c → id ≠ d.deliveryId → olderCandidate d c = false ∨
      ∃ e,d = .event e) : OneState (m.store d) := by
  intro a b x y ha hb hroom htype hkey
  change (m.pendingEntries.set _ _).get a = _ at ha
  change (m.pendingEntries.set _ _).get b = _ at hb
  rw [get_set] at ha hb
  split at ha <;> split at hb
  · next h h' => exact h.trans h'.symm
  · next h h' =>
    have hx := some.inj ha
    subst hx
    rcases hnone b _ hb h' with hfalse | ⟨e,he⟩
    · simp [olderCandidate,hroom,htype,hkey] at hfalse
    · exact absurd he (by simp)
  · next h h' =>
    have hy := some.inj hb
    subst hy
    rcases hnone a _ ha h with hfalse | ⟨e,he⟩
    · simp [olderCandidate,hroom,htype,hkey] at hfalse
    · exact absurd he (by simp)
  · exact hone a b x y ha hb hroom htype hkey

/-- The append of a staged delivery, once nothing older of its key is pending. -/
private theorem append_staged (hone : OneState m) (hopen : m.terminal.has d.deliveryId = false)
    (hnone : ∀ id c,m.pendingEntries.get id = some c → olderCandidate d c = false) :
    SameContents (appendEntry m (.pending d) (fun m => m.store d)).after (replay m [.pending d]) ∧
      (∀ k,OneState (replay m (take k [.pending d]))) ∧
      OneState (appendEntry m (.pending d) (fun m => m.store d)).after := by
  have hsame : SameContents (appendEntry m (.pending d) (fun m => m.store d)).after (m.store d) :=
    ((SameContents.refl m).appended _).store d
  have hstore : OneState (m.store d) := oneState_store hone (fun id c hc _ => .inl (hnone id c hc))
  refine ⟨?_,oneState_take_singleton hone (by rwa [loadEntry_pending hopen]),
    hstore.of_pendingEntries hsame.pendingEntries.symm⟩
  rw [replay,foldl_cons,loadEntry_pending hopen]
  exact hsame

/-- What staging a new delivery does before it thinks of compaction. -/
def stageCommits (m : Memory) (d : Delivery) : List Commit :=
  let olds := supersedeAll m d.createdAt (some (olderReason d)) (older m d)
  let entry := appendEntry (lastMemory m olds) (.pending d) (fun m => m.store d)
  olds ++ entry :: (if supersedesItself m d
    then supersedeAll entry.after d.createdAt (some (obsoleteReason d)) [d.deliveryId] else [])

theorem stage_fresh (hp : m.pendingEntries.has d.deliveryId = false) (ht : m.terminal.has d.deliveryId = false)
    (o : Options) (compactedAt : Timestamp) : (stage o m d compactedAt).2 =
      stageCommits m d ++ compactIfNeeded o (lastMemory m (stageCommits m d)) compactedAt := by
  simp only [stage,hp,ht,Bool.or_self,Bool.false_eq_true,if_false,stageCommits]

theorem not_mem_older (h : WellFormed m) (hp : m.pendingEntries.has d.deliveryId = false) :
    d.deliveryId ∉ older m d := by
  rw [mem_older h]
  rintro ⟨c,hc,-⟩
  rw [has,hc] at hp
  exact absurd hp (by simp)

theorem commits_stageCommits (h : WellFormed m) (hone : OneState m) (hp : m.pendingEntries.has d.deliveryId = false)
    (ht : m.terminal.has d.deliveryId = false) :
    Commits m (stageCommits m d) ∧ SameContents (lastMemory m (stageCommits m d))
      (finishAll ((finishAll m (older m d)).store d)
        (if supersedesItself m d then [d.deliveryId] else [])) := by
  obtain ⟨holds,hsame,holdsOne⟩ := commits_supersedeAll hone d.createdAt (some (olderReason d)) (older m d)
  have hopen : (lastMemory m (supersedeAll m d.createdAt (some (olderReason d)) (older m d))).terminal.has
      d.deliveryId = false := by
    rw [hsame.terminal,has,(get_finishAll m _ _).2,if_neg (not_mem_older h hp)]
    exact ht
  obtain ⟨hafter,htake,hafterOne⟩ := append_staged holdsOne hopen (fun id c hc => by
    rw [hsame.pendingEntries,(get_finishAll m _ _).1] at hc
    split at hc
    · exact absurd hc (by simp)
    · next hid =>
      rw [mem_older h,not_exists] at hid
      exact Bool.eq_false_iff.mpr fun hcand => hid c ⟨hc,hcand⟩)
  have hstored := ((hsame.appended [.pending d]).store d)
  simp only [stageCommits]
  by_cases hself : supersedesItself m d
  · obtain ⟨hown,hownSame,-⟩ := commits_supersedeAll hafterOne d.createdAt (some (obsoleteReason d)) [d.deliveryId]
    simp only [hself,if_true]
    refine ⟨holds.trans (.append hafter htake hown),?_⟩
    rw [lastMemory_append,lastMemory_cons]
    exact hownSame.trans (hstored.finish d.deliveryId none)
  · simp only [hself,Bool.false_eq_true,if_false]
    refine ⟨holds.trans (.append hafter htake (.nil _)),?_⟩
    rw [lastMemory_append]
    exact hstored

theorem commits_stage (h : WellFormed m) (hone : OneState m) (o : Options) (d : Delivery) (compactedAt : Timestamp) :
    Commits m (stage o m d compactedAt).2 := by
  by_cases hp : m.pendingEntries.has d.deliveryId
  · simp only [stage,hp,Bool.true_or,if_true]
    exact .nil m
  by_cases ht : m.terminal.has d.deliveryId
  · simp only [stage,ht,Bool.or_true,if_true]
    exact .nil m
  rw [Bool.not_eq_true] at hp ht
  rw [stage_fresh hp ht]
  exact (commits_stageCommits h hone hp ht).1.trans (commits_compactIfNeeded o _ compactedAt)

/-- The first loop of `classifyMany` leaves the memory that its records replay to. -/
theorem reclassify_eq_replay (h : WellFormed m) (now : ℤ) (cs : List (JsString × DeliveryMetadata)) :
    (reclassify m now cs).1 = replay m (reclassify m now cs).2 := by
  induction cs generalizing m with
  | nil => rfl
  | cons c cs ih =>
    obtain ⟨id,metadata⟩ := c
    simp only [reclassify]
    split
    · next d hd =>
      split
      · exact ih h
      · have hstored := h.pending_stored id _ hd
        have hid : d.deliveryId = id := h.deliveryId_eq id _ hstored
        have hstore : WellFormed (m.store (.event (withMetadata d metadata))) := by
          apply h.store
          have hkey : (Delivery.event (withMetadata d metadata)).deliveryId = id := hid
          rw [hkey]
          exact h.pending_open id (has_iff.mpr ⟨_,hd⟩)
        rw [replay,foldl_cons,loadEntry_classified h hd,← replay]
        exact ih hstore
    · exact ih h

theorem wellFormed_reclassify (h : WellFormed m) (now : ℤ) (cs : List (JsString × DeliveryMetadata)) :
    WellFormed (reclassify m now cs).1 := by
  rw [reclassify_eq_replay h]
  exact h.replay _

theorem reclassify_not_pending (m : Memory) (now : ℤ) (cs : List (JsString × DeliveryMetadata)) :
    ∀ e ∈ (reclassify m now cs).2, ∀ d, e ≠ .pending d := by
  induction cs generalizing m with
  | nil => simp [reclassify]
  | cons c cs ih =>
    simp only [reclassify]
    split
    · split
      · exact ih m
      · intro e he d
        rcases mem_cons.mp he with rfl | he
        · simp
        · exact ih _ e he d
    · exact ih m

theorem replay_supersededEntries (m : Memory) (now : ℤ) (ds : List Delivery) :
    replay m (ds.map (supersededEntry now)) = finishAll m (ds.map deliveryId) := by
  induction ds generalizing m with
  | nil => rfl
  | cons d ds ih => exact ih (m.finish d.deliveryId none)

variable {a b : Memory}

theorem SameContents.finishAll (h : SameContents a b) (ids : List JsString) :
    SameContents (finishAll a ids) (finishAll b ids) := by
  induction ids generalizing a b with
  | nil => exact h
  | cons id ids ih => exact ih (h.finish id none)

/-- The classification and the supersessions as one change of the memory. -/
def classifiedMemory (m : Memory) (now : ℤ) (cs : List (JsString × DeliveryMetadata)) : Memory :=
  finishAll (reclassify m now cs).1 ((outdated (reclassify m now cs).1).map deliveryId)

/-- What `classifyMany` writes before it thinks of compaction. -/
def classifyCommits (m : Memory) (now : ℤ) (cs : List (JsString × DeliveryMetadata)) : List Commit :=
  let (m',es) := reclassify m now cs
  let entries := es ++ (outdated m').map (supersededEntry now)
  let ids := (outdated m').map deliveryId
  if entries = [] then [] else [⟨.append entries,finishAll (m'.appended entries) ids⟩]

theorem classifyMany_commits (m : Memory) (cs : List (JsString × DeliveryMetadata)) (now : ℤ)
    (compactedAt : Timestamp) : (classifyMany o m cs now compactedAt).2 =
      classifyCommits m now cs ++
        compactIfNeeded o (lastMemory (reclassify m now cs).1 (classifyCommits m now cs)) compactedAt :=
  rfl

theorem commits_classifyCommits (h : WellFormed m) (hone : OneState m) (now : ℤ)
    (cs : List (JsString × DeliveryMetadata)) : Commits m (classifyCommits m now cs) ∧
      SameContents (lastMemory (reclassify m now cs).1 (classifyCommits m now cs))
        (classifiedMemory m now cs) := by
  have hreplay := reclassify_eq_replay h now cs
  have hall : replay m ((reclassify m now cs).2 ++
      (outdated (reclassify m now cs).1).map (supersededEntry now)) = classifiedMemory m now cs := by
    rw [replay_append,← hreplay,replay_supersededEntries,classifiedMemory]
  simp only [classifyCommits]
  split
  · next hnil =>
    have hout : (outdated (reclassify m now cs).1).map deliveryId = [] := by
      have := (append_eq_nil_iff.mp hnil).2
      rw [map_eq_nil_iff] at this ⊢
      exact this
    refine ⟨.nil m,?_⟩
    rw [classifiedMemory,hout]
    exact .refl _
  · have hsame : SameContents (finishAll ((reclassify m now cs).1.appended ((reclassify m now cs).2 ++
        (outdated (reclassify m now cs).1).map (supersededEntry now)))
        ((outdated (reclassify m now cs).1).map deliveryId)) (classifiedMemory m now cs) :=
      ((SameContents.refl _).appended _).finishAll _
    refine ⟨.append (by rw [hall]; exact hsame) (fun k => hone.replay fun e he => ?_) (.nil _),hsame⟩
    rcases mem_append.mp (mem_of_mem_take he) with he | he
    · exact reclassify_not_pending m now cs e he
    · obtain ⟨d,-,rfl⟩ := mem_map.mp he
      simp [supersededEntry]

theorem lastMemory_classifyCommits (h : WellFormed m) (now : ℤ) (cs : List (JsString × DeliveryMetadata)) :
    lastMemory (reclassify m now cs).1 (classifyCommits m now cs) =
      lastMemory m (classifyCommits m now cs) := by
  simp only [classifyCommits]
  split
  · next hnil =>
    have hreplay := reclassify_eq_replay h now cs
    rw [(append_eq_nil_iff.mp hnil).1] at hreplay
    rw [hreplay]
    rfl
  · rfl

theorem commits_classifyMany (h : WellFormed m) (hone : OneState m) (o : Options)
    (cs : List (JsString × DeliveryMetadata)) (now : ℤ) (compactedAt : Timestamp) :
    Commits m (classifyMany o m cs now compactedAt).2 := by
  rw [classifyMany_commits,lastMemory_classifyCommits h]
  exact (commits_classifyCommits h hone now cs).1.trans (commits_compactIfNeeded o _ compactedAt)

private theorem commits_mark (hone : OneState m) (o : Options) (compactedAt : Timestamp) {entry : OutboxEntry}
    {e : Option JsString} (hentry : loadEntry m entry = m.finish id e) :
    Commits m (appendEntry m entry (fun m => m.finish id e) ::
      compactIfNeeded o (appendEntry m entry (fun m => m.finish id e)).after compactedAt) := by
  have hsame : SameContents (appendEntry m entry (fun m => m.finish id e)).after (m.finish id e) :=
    ((SameContents.refl m).appended _).finish id e
  refine .append ?_ (oneState_take_singleton hone (hentry ▸ hone.finish id e)) (commits_compactIfNeeded o _ compactedAt)
  rw [replay,foldl_cons,hentry]
  exact hsame

theorem commits_operation (h : WellFormed m) (hone : OneState m) (o : Options) (compactedAt : Timestamp)
    (op : Operation) : Commits m (op.commits o m compactedAt) := by
  cases op with
  | stage d => exact commits_stage h hone o d compactedAt
  | classifyMany cs now => exact commits_classifyMany h hone o cs now compactedAt
  | markDelivered id eventId now =>
    simp only [Operation.commits,markDelivered]
    split
    · exact .nil m
    split
    · exact .nil m
    · exact commits_mark hone o compactedAt rfl
  | markSuperseded id reason now =>
    simp only [Operation.commits,markSuperseded]
    split
    · exact .nil m
    split
    · exact .nil m
    · exact commits_mark hone o compactedAt rfl

/-- A process over its file, with the list of all records ever appended. -/
structure History where
  memory : Memory
  file : WalFile
  written : List OutboxEntry

def Write.appended : Write → List OutboxEntry
  | .append es => es
  | .replace _ => []

def History.perform (h : History) (cs : List Commit) : History where
  memory := lastMemory h.memory cs
  file := cs.foldl (fun f c => c.write.apply f) h.file
  written := h.written ++ cs.flatMap (fun c => c.write.appended)

inductive Reachable (o : Options) : History → Prop
  | fresh : Reachable o ⟨.empty,none,[]⟩
  | call {h : History} (op : Operation) (compactedAt : Timestamp) :
      Reachable o h → Reachable o (h.perform (op.commits o h.memory compactedAt))
  | restart {h : History} {m : Memory} {cs : List Commit} (loadedAt : Timestamp) :
      Reachable o h → initializeFrom o loadedAt h.file = some (m,cs) →
      Reachable o (History.perform { h with memory := m } cs)

/-- The calls of one process, one after another, at one reading of the clock. -/
def runCalls (o : Options) (now : Timestamp) (ops : List Operation) : History :=
  ops.foldl (fun h op => h.perform (op.commits o h.memory now)) ⟨.empty,none,[]⟩

theorem reachable_runCalls (now : Timestamp) (ops : List Operation) : Reachable o (runCalls o now ops) := by
  have hgo : ∀ (ops : List Operation) (h : History),Reachable o h →
      Reachable o (ops.foldl (fun h op => h.perform (op.commits o h.memory now)) h) := by
    intro ops
    induction ops with
    | nil => exact fun _ h => h
    | cons op ops ih => exact fun _ h => ih _ (.call op now h)
  exact hgo ops _ .fresh

/-- The same contents, with a catalog that may hold more deliveries. -/
structure Covers (a b : Memory) : Prop where
  pendingEntries : a.pendingEntries = b.pendingEntries
  deliveries : ∀ id d, b.deliveries.get id = some d → a.deliveries.get id = some d
  terminal : ∀ id, a.terminal.has id = b.terminal.has id
  receipt : ∀ id, a.receipt id = b.receipt id

/-- The file replays to the memory, and so does the list of all records, which also remembers the
deliveries that compaction dropped. -/
structure Invariant (h : History) : Prop where
  wellFormed : WellFormed h.memory
  oneState : OneState h.memory
  disk : ∃ es, h.file.getD [] = encodeEntries es ∧ SameContents (replay .empty es) h.memory
  catalog : Covers (replay .empty h.written) h.memory

theorem SameContents.covers (h : SameContents a b) : Covers a b :=
  ⟨h.pendingEntries,fun id _ hd => (h.deliveries id).trans hd,h.terminal,h.receipt⟩

theorem Covers.trans {a b c : Memory} (h : Covers a b) (h' : Covers b c) : Covers a c :=
  ⟨h.pendingEntries.trans h'.pendingEntries,fun id d hd => h.deliveries id d (h'.deliveries id d hd),
    fun id => (h.terminal id).trans (h'.terminal id),fun id => (h.receipt id).trans (h'.receipt id)⟩

theorem Covers.finish (h : Covers a b) (id : JsString) (e : Option JsString) :
    Covers (a.finish id e) (b.finish id e) where
  pendingEntries := congrArg (fun p => p.delete id) h.pendingEntries
  deliveries := h.deliveries
  terminal id' := by rw [has_terminal_finish,has_terminal_finish,h.terminal]
  receipt id' := by rw [receipt_finish,receipt_finish,h.receipt]

private theorem subset_set {a b : InsertionMap JsString Delivery} (id : JsString) (d : Delivery)
    (h : ∀ id d,b.get id = some d → a.get id = some d) :
    ∀ id' d', (b.set id d).get id' = some d' → (a.set id d).get id' = some d' := by
  intro id' d' hd
  rw [get_set] at hd ⊢
  split at hd
  · next hid => rwa [if_pos hid]
  · next hid => rw [if_neg hid]; exact h id' d' hd

theorem Covers.loadEntry (hb : WellFormed b) (h : Covers a b) (e : OutboxEntry) :
    Covers (loadEntry a e) (loadEntry b e) := by
  cases e with
  | pending d =>
    refine ⟨?_,subset_set _ _ h.deliveries,h.terminal,h.receipt⟩
    simp only [Outbox.loadEntry,h.terminal,h.pendingEntries]
  | delivered id eventId at' => exact h.finish id _
  | superseded id at' reason => exact h.finish id _
  | classified id metadata at' =>
    simp only [Outbox.loadEntry]
    cases hd : b.deliveries.get id with
    | some d =>
      rw [h.deliveries id d hd]
      cases d with
      | state d => exact h
      | event d =>
        refine ⟨?_,subset_set _ _ h.deliveries,h.terminal,h.receipt⟩
        simp only [h.pendingEntries]
    | none =>
      -- The delivery was dropped from the smaller catalog, so it is not pending either.
      have hpend : a.pendingEntries.has id = false := by
        rw [h.pendingEntries,has]
        cases hp : b.pendingEntries.get id with
        | none => rfl
        | some d => exact absurd ((hb.pending_stored id d hp).symm.trans hd) (by simp)
      cases ha : a.deliveries.get id with
      | none => exact h
      | some d =>
        cases d with
        | state d => exact h
        | event d =>
          refine ⟨?_,fun id' d' hd' => ?_,h.terminal,h.receipt⟩
          · show (if a.pendingEntries.has id = true then _ else a.pendingEntries) = b.pendingEntries
            rw [if_neg (by simp [hpend])]
            exact h.pendingEntries
          · have hne : id' ≠ id := by
              rintro rfl
              exact absurd (hd.symm.trans hd') (by simp)
            show (a.deliveries.set _ _).get id' = some d'
            rw [get_set_of_ne _ _ hne]
            exact h.deliveries id' d' hd'

theorem Covers.replay (hb : WellFormed b) (h : Covers a b) (es : List OutboxEntry) :
    Covers (replay a es) (replay b es) := by
  induction es generalizing a b with
  | nil => exact h
  | cons e es ih => exact ih (hb.loadEntry e) (h.loadEntry hb e)

theorem covers_compact (m : Memory) (compactedAt : Timestamp) : Covers m (compact m compactedAt).after :=
  ⟨rfl,fun id d hd => by
    rw [get_compact] at hd
    split at hd
    · exact hd
    · exact absurd hd (by simp),fun _ => rfl,fun _ => rfl⟩

/-- A chain of commits keeps the invariant: one step lemma for appends and one for compactions. -/
theorem Invariant.perform {h : History} (hi : Invariant h) (hcs : Commits h.memory cs) : Invariant (h.perform cs) := by
  obtain ⟨m,file,written⟩ := h
  change Commits m cs at hcs
  induction hcs generalizing file written with
  | nil m =>
    have heq : History.perform ⟨m,file,written⟩ [] = ⟨m,file,written⟩ := by
      simp [History.perform,lastMemory]
    rwa [heq]
  | @append m after es cs hafter hone _ ih =>
    have heq : History.perform ⟨m,file,written⟩ (⟨.append es,after⟩ :: cs) =
        History.perform ⟨after,some (file.getD [] ++ encodeEntries es),written ++ es⟩ cs := by
      simp [History.perform,lastMemory_cons,Write.apply,Write.appended]
    rw [heq]
    apply ih
    obtain ⟨fs,hfile,hsame⟩ := hi.disk
    have hfull := hone es.length
    rw [take_length] at hfull
    refine ⟨(hi.wellFormed.replay es).of_same hafter.symm,
      hfull.of_pendingEntries hafter.pendingEntries.symm,⟨fs ++ es,?_,?_⟩,?_⟩
    · change file.getD [] = _ at hfile
      simp [hfile,encodeEntries]
    · rw [replay_append]
      exact (hsame.replay es).trans hafter.symm
    · show Covers (replay .empty (written ++ es)) after
      rw [replay_append]
      exact (Covers.replay hi.wellFormed hi.catalog es).trans hafter.symm.covers
  | @compact m compactedAt cs _ ih =>
    have heq : History.perform ⟨m,file,written⟩ (compact m compactedAt :: cs) = History.perform
        ⟨(compact m compactedAt).after,some (encodeEntries (compactedEntries m compactedAt)),written⟩
        cs := by
      simp [History.perform,lastMemory_cons,Write.apply,Write.appended,compact]
    rw [heq]
    apply ih
    refine ⟨hi.wellFormed.compact compactedAt,hi.oneState.of_pendingEntries rfl,
      ⟨_,rfl,sameContents_compactedEntries hi.wellFormed compactedAt⟩,?_⟩
    exact hi.catalog.trans (covers_compact m compactedAt)

theorem sameContents_walBytes (m : Memory) (n : ℕ) : SameContents { m with walBytes := n } m :=
  ⟨rfl,fun _ => rfl,fun _ => rfl,fun _ => rfl⟩

/-- A start over a written log succeeds when every record is readable, and then finds its replay. -/
theorem initializeFrom_encodeEntries (loadedAt : Timestamp) {file : WalFile} (hfile : file.getD [] = encodeEntries es)
    : (∀ m cs,initializeFrom o loadedAt file = some (m,cs) → SameContents m (replay .empty es) ∧
      (cs = [] ∨ cs = [compact m loadedAt])) ∧
    (es.all OutboxEntry.readable → ∃ m cs,initializeFrom o loadedAt file = some (m,cs)) ∧
    (file ≠ none → es.all OutboxEntry.readable = false → initializeFrom o loadedAt file = none) := by
  cases file with
  | none =>
    have hnil : es = [] := by
      cases es with
      | nil => rfl
      | cons e es => exact absurd hfile (by simp [encodeEntries])
    subst hnil
    refine ⟨fun m cs h => ?_,fun _ => ⟨_,_,rfl⟩,fun h => absurd rfl h⟩
    simp only [initializeFrom,some.injEq,Prod.mk.injEq] at h
    obtain ⟨rfl,rfl⟩ := h
    exact ⟨.refl _,.inl rfl⟩
  | some text =>
    have htext : text = encodeEntries es := hfile
    have hload := loadLines_encodeEntries { Memory.empty with walBytes := byteLength text } es []
    rw [append_nil,← htext,loadLines_nil] at hload
    simp only [initializeFrom,hload]
    by_cases hall : es.all OutboxEntry.readable
    · simp only [hall,if_true,Option.map_some,some.injEq,Prod.mk.injEq]
      refine ⟨fun m cs h => ?_,fun _ => ⟨_,_,rfl,rfl⟩,fun _ h => absurd h (by simp)⟩
      obtain ⟨rfl,rfl⟩ := h
      refine ⟨(sameContents_walBytes .empty _).replay es,?_⟩
      split
      · exact .inr rfl
      · exact .inl rfl
    · simp [hall]

theorem invariant_of_reachable {o : Options} {h : History} (hr : Reachable o h) : Invariant h := by
  induction hr with
  | fresh =>
    refine ⟨wellFormed_empty,?_,⟨[],rfl,.refl _⟩,(SameContents.refl _).covers⟩
    intro a b d d' ha
    simp [Memory.empty] at ha
  | call op compactedAt _ ih =>
    exact ih.perform (commits_operation ih.wellFormed ih.oneState _ compactedAt op)
  | @restart h m cs loadedAt _ hload ih =>
    obtain ⟨es,hfile,hsame⟩ := ih.disk
    obtain ⟨hm,hcs⟩ := (initializeFrom_encodeEntries _ loadedAt hfile).1 m cs hload
    have hsame' : SameContents m h.memory := hm.trans hsame
    have hloaded : Invariant { h with memory := m } :=
      ⟨ih.wellFormed.of_same hsame'.symm,ih.oneState.of_pendingEntries hsame'.pendingEntries.symm,
        ⟨es,hfile,hm.symm⟩,ih.catalog.trans hsame'.symm.covers⟩
    apply hloaded.perform
    rcases hcs with rfl | rfl
    · exact .nil _
    · exact .compact (.nil _)

end Malink.Outbox
