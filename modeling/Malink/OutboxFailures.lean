import Malink.OutboxCrash

/-!
# Failing appends

An append may fail. The call throws and the process goes on with the memory that it has at that moment, over a file
that holds some bytes of the append or none.
-/

namespace Malink.Outbox

open List

structure Running where
  memory : Memory
  file : WalFile

def Running.perform (r : Running) (cs : List Commit) : Running where
  memory := lastMemory r.memory cs
  file := cs.foldl (fun f c => c.write.apply f) r.file

/-- The records whose effect is in memory before the write of number `k` of a call. -/
def Operation.stored (m : Memory) (k : ℕ) : Operation → List OutboxEntry
  | classifyMany cs now => if k = 0 then (reclassify m now cs).2 else []
  | _ => []

/-- The memory while the write of number `k` of a call is under way. -/
def Operation.memoryAt (o : Options) (m : Memory) (compactedAt : Timestamp) (k : ℕ) (op : Operation) :
    Memory :=
  match op with
  | classifyMany cs now =>
    if k = 0 then (reclassify m now cs).1 else lastMemory m ((op.commits o m compactedAt).take k)
  | _ => lastMemory m ((op.commits o m compactedAt).take k)

/-- The call throws on an append, some bytes of which are on disk. -/
def Running.fail (o : Options) (r : Running) (op : Operation) (compactedAt : Timestamp) (p : CrashPoint) :
    Running where
  memory := op.memoryAt o r.memory compactedAt p.commits
  file := p.file r.file (op.commits o r.memory compactedAt)

/-- Runs of one process after another over one file, in which appends may fail. What each call may be, and
how its append may fail, is a parameter. -/
inductive FailingRun (o : Options) (allowed : Memory → Operation → Option CrashPoint → Prop) :
    Running → Prop
  | fresh : FailingRun o allowed ⟨.empty,none⟩
  | call {r : Running} (op : Operation) (compactedAt : Timestamp) : FailingRun o allowed r →
      allowed r.memory op none → FailingRun o allowed (r.perform (op.commits o r.memory compactedAt))
  | fail {r : Running} (op : Operation) (compactedAt : Timestamp) (p : CrashPoint)
      {es : List OutboxEntry} {after : Memory} : FailingRun o allowed r →
      (op.commits o r.memory compactedAt)[p.commits]? = some ⟨.append es,after⟩ →
      allowed r.memory op (some p) → FailingRun o allowed (r.fail o op compactedAt p)
  | compact {r : Running} (compactedAt : Timestamp) : FailingRun o allowed r →
      FailingRun o allowed (r.perform [Outbox.compact r.memory compactedAt])
  | restart {r : Running} {m : Memory} {started : List Commit} (loadedAt : Timestamp) :
      FailingRun o allowed r → initializeFrom o loadedAt r.file = some (m,started) →
      FailingRun o allowed (Running.perform ⟨m,r.file⟩ started)

/-- A start over the file succeeds and replays it to what the process has in memory. -/
def ReplayEqualsMemory (o : Options) (r : Running) : Prop :=
  ∀ loadedAt, ∃ m started, initializeFrom o loadedAt r.file = some (m,started) ∧
    SameContents m r.memory ∧ (started = [] ∨ started = [compact m loadedAt])

/-- The arguments are ones that the reader accepts, and a failing append leaves on disk exactly the records
whose effect is in memory: those of the new metadata, and nothing in every other call. -/
def LeavesWhatIsStored (m : Memory) (op : Operation) (failure : Option CrashPoint) : Prop :=
  op.Readable m ∧ ∀ p, failure = some p → p.bytes = byteLength (encodeEntries (op.stored m p.commits))

structure Running.Agrees (r : Running) : Prop where
  wellFormed : WellFormed r.memory
  oneState : OneState r.memory
  readable : AllReadable r.memory
  logged : ∃ es, Logged r.file r.memory es

variable {m after : Memory} {o : Options} {op : Operation} {es : List OutboxEntry} {cs : List Commit}

theorem Commits.oneState (hcs : Commits m cs) (hone : OneState m) : OneState (lastMemory m cs) := by
  have hcut := hcs.oneState_cut hone ⟨cs.length,0⟩ 0
  rwa [take_length,take_zero] at hcut

variable {r : Running}

theorem Running.Agrees.perform (h : r.Agrees) (hcs : Commits r.memory cs)
    (hall : (cs.flatMap (fun c => c.write.appended)).all OutboxEntry.readable) : (r.perform cs).Agrees := by
  obtain ⟨hlog,hread,hwell⟩ := logged_perform hcs h.wellFormed h.readable h.logged hall
  exact ⟨hwell,hcs.oneState h.oneState,hread,hlog⟩

theorem Running.Agrees.replayEqualsMemory (h : r.Agrees) (o : Options) : ReplayEqualsMemory o r := by
  intro loadedAt
  obtain ⟨es,hes⟩ := h.logged
  obtain ⟨hspec,hok,-⟩ := initializeFrom_encodeEntries o loadedAt hes.text
  obtain ⟨m,started,hinit⟩ := hok hes.readable
  obtain ⟨hsame,hstarted⟩ := hspec m started hinit
  exact ⟨m,started,hinit,hsame.trans hes.same,hstarted⟩

/-- The memory of a failing call is the replay of the stored records over the writes that returned. -/
theorem memoryAt_eq_replay (h : WellFormed m) (o : Options) (compactedAt : Timestamp) (k : ℕ)
    (op : Operation) : op.memoryAt o m compactedAt k =
      replay (lastMemory m ((op.commits o m compactedAt).take k)) (op.stored m k) := by
  cases op with
  | classifyMany cs now =>
    by_cases hk : k = 0
    · subst hk
      simp only [Operation.memoryAt,Operation.stored,if_true]
      exact reclassify_eq_replay h now cs
    · simp only [Operation.memoryAt,Operation.stored,if_neg hk]
      rfl
  | stage | markDelivered | markSuperseded => rfl

variable {compactedAt : Timestamp}

/-- The stored records are the first ones of the append. -/
theorem stored_before {k : ℕ}
    (hget : (op.commits o m compactedAt)[k]? = some ⟨.append es,after⟩) : op.stored m k <+: es := by
  cases op with
  | classifyMany cs now =>
    by_cases hk : k = 0
    · subst hk
      have happend : (reclassify m now cs).2 ++
          (outdated (reclassify m now cs).1).map (supersededEntry now) = es := by
        rw [Operation.commits,classifyMany_commits] at hget
        unfold classifyCommits at hget
        simp only at hget
        split at hget
        · exfalso
          simp only [nil_append,compactIfNeeded] at hget
          split at hget
          · cases hget
          · cases hget
        · simp only [singleton_append,getElem?_cons_zero,Option.some.injEq,Commit.mk.injEq,Write.append.injEq] at hget
          exact hget.1
      simp only [Operation.stored,if_true]
      exact ⟨_,happend⟩
    · simp only [Operation.stored,if_neg hk]
      exact nil_prefix
  | stage | markDelivered | markSuperseded => exact nil_prefix

theorem readPrefix_encodeEntries_of_prefix {fs : List OutboxEntry} (h : es <+: fs) :
    readPrefix (byteLength (encodeEntries es)) (encodeEntries fs) = encodeEntries es := by
  obtain ⟨gs,rfl⟩ := h
  have happend : encodeEntries (es ++ gs) = encodeEntries es ++ encodeEntries gs := by simp [encodeEntries]
  rw [happend,readPrefix_append_of_le (le_refl _),Nat.sub_self]
  simp [readPrefix]

/-- A failure that leaves the stored records on disk is a chain of writes that has returned. -/
theorem fail_eq_perform {p : CrashPoint}
    (hget : (op.commits o r.memory compactedAt)[p.commits]? = some ⟨.append es,after⟩)
    (hbytes : p.bytes = byteLength (encodeEntries (op.stored r.memory p.commits))) :
    r.fail o op compactedAt p = r.perform ((op.commits o r.memory compactedAt).take p.commits ++
      [⟨.append (op.stored r.memory p.commits),op.memoryAt o r.memory compactedAt p.commits⟩]) := by
  have hfile : p.file r.file (op.commits o r.memory compactedAt) =
      some ((((op.commits o r.memory compactedAt).take p.commits).foldl (fun f c => c.write.apply f)
        r.file).getD [] ++ readPrefix p.bytes (encodeEntries es)) := by
    simp only [CrashPoint.file,hget]
  unfold Running.fail Running.perform
  rw [hfile,hbytes, readPrefix_encodeEntries_of_prefix (stored_before hget),lastMemory_append,foldl_append]
  rfl

theorem Running.Agrees.fail (h : r.Agrees) {p : CrashPoint}
    (hget : (op.commits o r.memory compactedAt)[p.commits]? = some ⟨.append es,after⟩)
    (hop : op.Readable r.memory) (hbytes : p.bytes = byteLength (encodeEntries (op.stored r.memory p.commits))) :
    (r.fail o op compactedAt p).Agrees := by
  have hcs := commits_operation h.wellFormed h.oneState o compactedAt op
  have hall := readable_records h.wellFormed h.readable o compactedAt hop
  have hstored := stored_before hget
  rw [fail_eq_perform hget hbytes]
  refine h.perform ((hcs.take p.commits).trans (.append ?_ (fun j => ?_) (.nil _))) ?_
  · rw [memoryAt_eq_replay h.wellFormed]
    exact .refl _
  · obtain ⟨gs,hgs⟩ := hstored
    have hcut := hcs.oneState_cut h.oneState p (min j (op.stored r.memory p.commits).length)
    have hes : p.cutAppend (op.commits o r.memory compactedAt) = es := by
      rw [CrashPoint.cutAppend,hget]
    rw [hes,← hgs,take_append_of_le_length (min_le_right _ _)] at hcut
    rw [take_eq_take_min (l := op.stored r.memory p.commits)]
    exact hcut
  · rw [flatMap_append,all_append,Bool.and_eq_true]
    rw [all_eq_true] at hall
    constructor
    · rw [all_eq_true]
      intro e he
      obtain ⟨c,hc,hec⟩ := mem_flatMap.mp he
      exact hall e (mem_flatMap.mpr ⟨c,mem_of_mem_take hc,hec⟩)
    · rw [all_eq_true]
      intro e he
      have hmem : e ∈ op.stored r.memory p.commits := by simpa [Write.appended] using he
      exact hall e (mem_flatMap.mpr ⟨_,mem_of_getElem? hget,hstored.subset hmem⟩)

theorem agrees_of_run (hr : FailingRun o LeavesWhatIsStored r) : r.Agrees := by
  induction hr with
  | fresh =>
    refine ⟨wellFormed_empty,?_,?_,[],rfl,.refl _,rfl⟩
    · intro a b d d' ha
      simp [Memory.empty] at ha
    · intro id d hd
      simp [Memory.empty] at hd
  | call op compactedAt _ hallowed ih =>
    exact ih.perform (commits_operation ih.wellFormed ih.oneState o compactedAt op)
      (readable_records ih.wellFormed ih.readable o compactedAt hallowed.1)
  | fail op compactedAt p _ hget hallowed ih => exact ih.fail hget hallowed.1 (hallowed.2 p rfl)
  | compact compactedAt _ ih => exact ih.perform (.compact (.nil _)) rfl
  | @restart r m started loadedAt _ hinit ih =>
    obtain ⟨es,hes⟩ := ih.logged
    obtain ⟨hsame,hstarted⟩ := (initializeFrom_encodeEntries o loadedAt hes.text).1 m started hinit
    have hmemory : SameContents r.memory m := (hsame.trans hes.same).symm
    have hloaded : Running.Agrees ⟨m,r.file⟩ := ⟨ih.wellFormed.of_same hmemory,
      ih.oneState.of_pendingEntries hmemory.pendingEntries,ih.readable.of_same hmemory,
      es,hes.text,hes.same.trans hmemory,hes.readable⟩
    rcases hstarted with rfl | rfl
    · exact hloaded.perform (.nil _) rfl
    · exact hloaded.perform (.compact (.nil _)) rfl

/-- In every run whose failing appends leave exactly what is stored, memory and file agree at every point. -/
theorem replayEqualsMemory_of_run {o : Options} {r : Running} (hr : FailingRun o LeavesWhatIsStored r) :
    ReplayEqualsMemory o r :=
  (agrees_of_run hr).replayEqualsMemory o

def stageEvent : Operation := .stage (.event ⟨"first","!room","txn-1",[],1,none,none⟩)

def classifyEvent : Operation := .classifyMany [("first",⟨some .urgent,none⟩)] 4

theorem isSafeInteger_three : isSafeInteger 3 := rfl

def stagedEvent : Running := Running.perform ⟨.empty,none⟩ (stageEvent.commits {} .empty ⟨3,isSafeInteger_three⟩)

/-- Nothing of the append reaches the file. -/
def lostClassification : Running := stagedEvent.fail {} classifyEvent ⟨4,rfl⟩ ⟨0,0⟩

def LeavesNothing (m : Memory) (op : Operation) (failure : Option CrashPoint) : Prop :=
  op.Readable m ∧ ∀ p, failure = some p → p.bytes = 0

theorem stageEvent_readable (m : Memory) : stageEvent.Readable m := fun _ _ => by decide

theorem classifyEvent_readable (m : Memory) : classifyEvent.Readable m := by
  refine ⟨by decide,fun c hc _ => ?_⟩
  rw [mem_singleton.mp hc]
  rfl

set_option maxRecDepth 100000 in
/-- The process holds the delivery as urgent, and the next start does not. -/
theorem lostClassification_not_replayed : FailingRun {} LeavesNothing lostClassification ∧
    ¬ ReplayEqualsMemory {} lostClassification := by
  have hstaged : FailingRun {} LeavesNothing stagedEvent :=
    .call stageEvent ⟨3,rfl⟩ .fresh ⟨stageEvent_readable _,fun p hp => by cases hp⟩
  refine ⟨.fail classifyEvent ⟨4,rfl⟩ ⟨0,0⟩ hstaged rfl
    ⟨classifyEvent_readable _,fun p hp => by cases hp; rfl⟩,fun h => ?_⟩
  obtain ⟨m,started,hinit,hsame,-⟩ := h ⟨5,rfl⟩
  have hfile : lostClassification.file.getD [] =
      encodeEntries [.pending (.event ⟨"first","!room","txn-1",[],1,none,none⟩)] := by decide
  have hload := ((initializeFrom_encodeEntries {} ⟨5,rfl⟩ hfile).1 m started hinit).1
  have hpending := hload.pendingEntries.symm.trans hsame.pendingEntries
  exact absurd hpending (by decide)

set_option maxRecDepth 100000 in
/-- A mark that is not written leaves the delivery pending in memory as well. -/
theorem lostMark_replayed :
    ReplayEqualsMemory {} (stagedEvent.fail {} (.markDelivered "first" "$event" 4) ⟨4,rfl⟩ ⟨0,0⟩) := by
  have hstaged : FailingRun {} LeavesWhatIsStored stagedEvent :=
    .call stageEvent ⟨3,rfl⟩ .fresh ⟨stageEvent_readable _,fun p hp => by cases hp⟩
  exact replayEqualsMemory_of_run (.fail (.markDelivered "first" "$event" 4) ⟨4,rfl⟩ ⟨0,0⟩ hstaged rfl
    ⟨fun _ => by decide,fun p hp => by cases hp; rfl⟩)

end Malink.Outbox
