import Malink.JsStrings
import Mathlib.Logic.Function.Basic

/-!
# The lock of a state file

The lock is a file with its owner in it, which appears and disappears in one step. A process that finds a lock reads
its owner, and moves the lock away when that owner has exited.
-/

namespace Malink.FileLock

open List Function Option

/-- One process from its start to its end. Its PID can be given to another process afterwards. -/
structure Process where
  pid : ℕ
  start : ℕ
  deriving DecidableEq

/-- `randomUUID()`: no two acquisitions have the same token. -/
structure Token where
  process : Process
  serial : ℕ
  deriving DecidableEq

structure LockOwner where
  token : Token
  pid : ℕ
  processMarker : Option JsString
  deriving DecidableEq

/-- Where a process stands in `acquire`, `reclaimExitedOwner` and the function that releases. The first owner is the
one that the process has written, the second one was read from the lock. -/
inductive Phase
  | idle
  | linking (owner : LockOwner)
  | readingOwner (owner : LockOwner)
  | checkingProcess (owner judged : LockOwner)
  | checkingMarker (owner judged : LockOwner)
  | waiting (owner : LockOwner)
  | moving (owner judged : LockOwner)
  | confirming (owner judged : LockOwner)
  | removing (owner : LockOwner)
  | restoring (owner : LockOwner)
  | holding (owner : LockOwner)
  | releasing (owner : LockOwner)
  | unlinking (owner : LockOwner)
  deriving DecidableEq

structure State where
  running : List Process
  ended : List Process
  phase : Process → Phase
  serial : Process → ℕ
  lock : Option LockOwner
  /-- The path that a process moves the lock to is its own. -/
  stale : Process → Option LockOwner

def initial : State where
  running := []
  ended := []
  phase := fun _ => .idle
  serial := fun _ => 0
  lock := none
  stale := fun _ => none

/-- A lock that cannot be read is answered with `false`. The marker of a process is what its reader is told, which
depends on the reader: without `/proc` it is a time as `ps` prints it in the reader's time zone and locale. -/
inductive Operation
  | acquire (processMarker : Option JsString)
  | link
  | readOwner (answered : Bool)
  | checkProcess
  | checkMarker (currentMarker : Option JsString)
  | retry
  | giveUp
  | moveLock
  | confirm (answered : Bool)
  | removeStale
  | restore
  | release
  | readOwn (answered : Bool)
  | unlink
  | fail
  deriving DecidableEq

inductive Action
  | start (process : Process)
  | exit (process : Process)
  | step (process : Process) (operation : Operation)
  deriving DecidableEq

/-- `process.kill(pid, 0)` -/
def processWith (s : State) (pid : ℕ) : Option Process := s.running.find? fun p => p.pid = pid

def State.enter (s : State) (p : Process) (phase : Phase) : State := { s with phase := update s.phase p phase }

/-- The steps of a process, each at its place. -/
def perform (s : State) (p : Process) : Operation → Phase → State
  | .acquire processMarker, .idle =>
    { s with serial := update s.serial p (s.serial p + 1) }.enter p (.linking ⟨⟨p,s.serial p⟩,p.pid,processMarker⟩)
  | .link, .linking owner =>
    match s.lock with
    | none => { s with lock := some owner }.enter p (.holding owner)
    | some _ => s.enter p (.readingOwner owner)
  | .readOwner answered, .readingOwner owner =>
    match if answered then s.lock else none with
    | none => s.enter p (.waiting owner)
    | some judged => s.enter p (.checkingProcess owner judged)
  | .checkProcess, .checkingProcess owner judged =>
    if (processWith s judged.pid).isNone then s.enter p (.moving owner judged)
    else if judged.processMarker.isNone then s.enter p (.waiting owner)
    else s.enter p (.checkingMarker owner judged)
  | .checkMarker currentMarker, .checkingMarker owner judged =>
    if currentMarker.isNone ∨ currentMarker = judged.processMarker then s.enter p (.waiting owner)
    else s.enter p (.moving owner judged)
  | .retry, .waiting owner => s.enter p (.linking owner)
  -- The deadline has passed, and `acquire` throws.
  | .giveUp, .waiting _ => s.enter p .idle
  | .moveLock, .moving owner judged =>
    match s.lock with
    | none => s.enter p (.linking owner)
    | some found => { s with lock := none, stale := update s.stale p (some found) }.enter p
        (.confirming owner judged)
  | .confirm answered, .confirming owner judged =>
    if answered ∧ (s.stale p).map LockOwner.token = some judged.token then s.enter p (.removing owner)
    else s.enter p (.restoring owner)
  | .removeStale, .removing owner => { s with stale := update s.stale p none }.enter p (.linking owner)
  -- The lock that was moved takes the place of one that is there by now, and `acquire` throws.
  | .restore, .restoring _ =>
    { s with lock := (s.stale p).or s.lock, stale := update s.stale p none }.enter p .idle
  | .release, .holding owner => s.enter p (.releasing owner)
  | .readOwn answered, .releasing owner =>
    if answered ∧ s.lock.map LockOwner.token = some owner.token then s.enter p (.unlinking owner) else s.enter p .idle
  | .unlink, .unlinking _ => { s with lock := none }.enter p .idle
  -- An access to the file system that is rejected, and `acquire` or the release throws.
  | .fail, .linking _ | .fail, .moving _ _ | .fail, .removing _ | .fail, .restoring _ | .fail, .unlinking _ =>
    s.enter p .idle
  | _, _ => s

/-- A step that is not possible changes nothing. -/
def next (s : State) : Action → State
  | .start p =>
    if p ∈ s.running ∨ p ∈ s.ended ∨ (processWith s p.pid).isSome then s else { s with running := p :: s.running }
  | .exit p =>
    if p ∈ s.running then { s with running := s.running.filter (· ≠ p), ended := p :: s.ended } else s
  | .step p operation => if p ∈ s.running then perform s p operation (s.phase p) else s

def run (s : State) (actions : List Action) : State := actions.foldl (next) s

def Holds (s : State) (p : Process) : Prop := p ∈ s.running ∧ ∃ owner, s.phase p = .holding owner

/-- At most one running process holds the lock. -/
def MutualExclusion (s : State) : Prop := ∀ p q, Holds s p → Holds s q → p = q

def ReleasesItsOwn (s : State) : Prop :=
  ∀ p ∈ s.running, ∀ owner, s.phase p = .unlinking owner → ∀ found, s.lock = some found → found.token = owner.token

/-- What a step of the reclaiming process relies on: the marker of an owner that is still running is the recorded one,
the lock that is moved away is the one that was judged, and none is there when a lock is put back. -/
def relies (s : State) : Operation → Phase → Bool
  | .checkMarker (some currentMarker), .checkingMarker _ judged =>
    decide (judged.token.process ∈ s.running → some currentMarker = judged.processMarker)
  | .moveLock, .moving _ judged => s.lock.all fun found => found.token = judged.token
  | .restore, .restoring _ => s.lock.isNone
  | _, _ => true

def Reclaims (s : State) : Action → Prop
  | .step p operation => p ∈ s.running → relies s operation (s.phase p)
  | _ => True

instance (s : State) : (action : Action) → Decidable (Reclaims s action)
  | .step p operation => inferInstanceAs (Decidable (p ∈ s.running → relies s operation (s.phase p)))
  | .start _ | .exit _ => isTrue trivial

/-- A run, all of whose steps satisfy a condition on the state before them. -/
def EachStep (condition : State → Action → Prop) : State → List Action → Prop
  | _, [] => True
  | s, action :: actions => condition s action ∧ EachStep condition (next s action) actions

instance decidableEachStep (condition : State → Action → Prop) [∀ s action,Decidable (condition s action)] :
    (s : State) → (actions : List Action) → Decidable (EachStep condition s actions)
  | _, [] => isTrue trivial
  | s, action :: actions =>
    match decidableEachStep condition (next s action) actions with
    | isTrue h => decidable_of_iff (condition s action) ⟨fun hc => ⟨hc,h⟩,And.left⟩
    | isFalse h => isFalse fun hc => h hc.2

/-- An owner that a process has written. -/
structure Known (s : State) (owner : LockOwner) : Prop where
  pid : owner.pid = owner.token.process.pid
  started : owner.token.process ∈ s.running ∨ owner.token.process ∈ s.ended

structure Own (p : Process) (owner : LockOwner) : Prop where
  pid : owner.pid = p.pid
  process : owner.token.process = p

/-- The lock that a process has moved away, whose owner has ended. -/
structure Moved (s : State) (p : Process) (found : LockOwner) : Prop where
  stale : s.stale p = some found
  pid : found.pid = found.token.process.pid
  ended : found.token.process ∈ s.ended

/-- What holds of a process at each place. -/
def PhaseSound (s : State) (p : Process) : Phase → Prop
  | .idle => True
  | .linking owner | .readingOwner owner | .waiting owner | .removing owner => Own p owner
  | .checkingProcess owner judged | .checkingMarker owner judged => Own p owner ∧ Known s judged
  | .moving owner judged => Own p owner ∧ judged.token.process ∈ s.ended
  | .confirming owner _ | .restoring owner => Own p owner ∧ ∃ found, Moved s p found
  | .holding owner | .releasing owner | .unlinking owner => Own p owner ∧ s.lock = some owner

structure Sound (s : State) : Prop where
  pids : ∀ p ∈ s.running, ∀ q ∈ s.running, p.pid = q.pid → p = q
  ended : ∀ p ∈ s.running, p ∉ s.ended
  fresh : ∀ p, p ∉ s.running → p ∉ s.ended → s.phase p = .idle
  lock : ∀ found, s.lock = some found → Known s found
  phase : ∀ p ∈ s.running, PhaseSound s p (s.phase p)

variable {s s' : State} {p q : Process}

theorem sound_initial : Sound initial where
  pids := by
    intro p hp
    cases hp
  ended := by
    intro p hp
    cases hp
  fresh := fun _ _ _ => rfl
  lock := by
    intro found hfound
    cases hfound
  phase := by
    intro p hp
    cases hp

theorem processWith_eq_none {pid : ℕ} (h : processWith s pid = none) : ∀ q ∈ s.running, q.pid ≠ pid := by
  intro q hq heq
  have hnot := find?_eq_none.mp h q hq
  exact hnot (decide_eq_true heq)

theorem Known.mono {owner : LockOwner} (h : Known s owner) (hrunning : s'.running = s.running)
    (hended : s'.ended = s.ended) : Known s' owner :=
  ⟨h.pid,by rw [hrunning,hended]; exact h.started⟩

theorem Moved.known {found : LockOwner} (h : Moved s p found) : Known s found := ⟨h.pid,.inr h.ended⟩

variable {phase : Phase}

/-- A step of another process leaves a process where it is, unless it removes the lock that this one has. -/
theorem PhaseSound.of_same (h : PhaseSound s q phase) (hrunning : s'.running = s.running)
    (hended : s'.ended = s.ended) (hstale : s'.stale q = s.stale q)
    (hlock : ∀ owner,s.lock = some owner → owner.token.process = q → s'.lock = s.lock) : PhaseSound s' q phase := by
  cases phase with
  | idle => trivial
  | linking owner | readingOwner owner | waiting owner | removing owner => exact h
  | checkingProcess owner judged | checkingMarker owner judged => exact ⟨h.1,h.2.mono hrunning hended⟩
  | moving owner judged => exact ⟨h.1,hended ▸ h.2⟩
  | confirming owner _ | restoring owner =>
    obtain ⟨hown,found,hmoved⟩ := h
    exact ⟨hown,found,hstale ▸ hmoved.stale,hmoved.pid,hended ▸ hmoved.ended⟩
  | holding owner | releasing owner | unlinking owner =>
    exact ⟨h.1,(hlock owner h.2 h.1.process).trans h.2⟩

/-- A step of one process: where it goes, and what becomes of the lock. -/
theorem Sound.enter {t : State} (h : Sound s) (hp : p ∈ s.running) (hrunning : t.running = s.running)
    (hended : t.ended = s.ended) (hphase : t.phase = s.phase) (hstale : ∀ q,q ≠ p → t.stale q = s.stale q)
    (hlock : ∀ found,t.lock = some found → Known s found)
    (hothers : ∀ owner,s.lock = some owner → owner.token.process ∈ s.running → owner.token.process ≠ p →
      t.lock = s.lock) (hsound : PhaseSound t p phase) : Sound (t.enter p phase) where
  pids := by
    rw [State.enter,hrunning]
    exact h.pids
  ended := by
    rw [State.enter,hrunning,hended]
    exact h.ended
  fresh := by
    intro q hq hq'
    have hnotRunning : q ∉ s.running := hrunning ▸ hq
    have hne : q ≠ p := fun heq => hnotRunning (heq ▸ hp)
    change update t.phase p phase q = .idle
    rw [hphase,update_of_ne hne]
    exact h.fresh q hnotRunning (hended ▸ hq')
  lock := by
    intro found hfound
    exact (hlock found hfound).mono hrunning hended
  phase := by
    intro q hq
    have hq : q ∈ s.running := hrunning ▸ hq
    change PhaseSound (t.enter p phase) q (update t.phase p phase q)
    rw [hphase]
    by_cases heq : q = p
    · subst heq
      rw [update_self]
      exact hsound.of_same rfl rfl rfl fun _ _ _ => rfl
    · rw [update_of_ne heq]
      refine (h.phase q hq).of_same hrunning hended (hstale q heq) ?_
      rintro owner howner rfl
      exact hothers owner howner hq heq

theorem Sound.enter_same (h : Sound s) (hp : p ∈ s.running) (hsound : PhaseSound s p phase) : Sound (s.enter p phase) :=
  h.enter hp rfl rfl rfl (fun _ _ => rfl) h.lock (fun _ _ _ _ => rfl) hsound

variable {owner judged found : LockOwner}

theorem Sound.link (h : Sound s) (hp : p ∈ s.running) (hnone : s.lock = none) (hown : Own p owner) :
    Sound (({ s with lock := some owner } : State).enter p (.holding owner)) := by
  refine h.enter (t := { s with lock := some owner }) hp rfl rfl rfl (fun _ _ => rfl) ?_ ?_ ⟨hown,rfl⟩
  · intro found hfound
    obtain rfl := some.inj hfound
    exact ⟨hown.process.symm ▸ hown.pid,.inl (hown.process ▸ hp)⟩
  · intro other hother
    rw [hnone] at hother
    cases hother

/-- The owner of the lock that is moved has ended, so no running process has it. -/
theorem Sound.moveLock (h : Sound s) (hp : p ∈ s.running) (hlock : s.lock = some found)
    (hended : found.token.process ∈ s.ended) (hown : Own p owner) :
    Sound (({ s with lock := none, stale := update s.stale p (some found) } : State).enter p
      (.confirming owner judged)) := by
  refine h.enter (t := { s with lock := none, stale := update s.stale p (some found) }) hp rfl rfl rfl
    (fun q hne => update_of_ne hne _ _) ?_ ?_ ⟨hown,found,update_self ..,(h.lock found hlock).pid,hended⟩
  · intro other hother
    cases hother
  · intro other hother hrunning
    rw [hlock] at hother
    obtain rfl := some.inj hother
    exact absurd hended (h.ended _ hrunning)

theorem Sound.restore (h : Sound s) (hp : p ∈ s.running) (hnone : s.lock = none) (hmoved : Moved s p found) :
    Sound (({ s with lock := some found, stale := update s.stale p none } : State).enter p .idle) := by
  refine h.enter (t := { s with lock := some found, stale := update s.stale p none }) hp rfl rfl rfl
    (fun q hne => update_of_ne hne _ _) ?_ ?_ trivial
  · intro other hother
    obtain rfl := some.inj hother
    exact hmoved.known
  · intro other hother
    rw [hnone] at hother
    cases hother

/-- The owner of a lock that no process has the PID of has ended. -/
theorem Known.ended_of_none (h : Known s judged) (hnone : processWith s judged.pid = none) :
    judged.token.process ∈ s.ended := by
  refine h.started.resolve_left fun hrunning => ?_
  exact processWith_eq_none hnone _ hrunning h.pid.symm

theorem Sound.perform (h : Sound s) (hp : p ∈ s.running) {operation : Operation}
    (hrelies : relies s operation (s.phase p)) : Sound (perform s p operation (s.phase p)) := by
  have hphase := h.phase p hp
  -- Nothing happens where the operation is not the next one.
  have hsame : Sound s := h
  cases hplace : s.phase p with
  | idle =>
    cases operation with
    | acquire processMarker =>
      exact h.enter (t := { s with serial := update s.serial p (s.serial p + 1) }) hp rfl rfl rfl
        (fun _ _ => rfl) h.lock (fun _ _ _ _ => rfl) ⟨rfl,rfl⟩
    | _ => exact hsame
  | linking owner =>
    rw [hplace] at hphase
    cases operation with
    | link =>
      rw [FileLock.perform]
      cases hlock : s.lock with
      | none => exact h.link hp hlock hphase
      | some found => exact h.enter_same hp hphase
    | fail => exact h.enter_same hp trivial
    | _ => exact hsame
  | readingOwner owner =>
    rw [hplace] at hphase
    cases operation with
    | readOwner answered =>
      rw [FileLock.perform]
      split
      · exact h.enter_same hp hphase
      · next judged hjudged =>
        obtain ⟨-,hlock⟩ := ite_none_right_eq_some.mp hjudged
        exact h.enter_same hp ⟨hphase,h.lock judged hlock⟩
    | _ => exact hsame
  | checkingProcess owner judged =>
    rw [hplace] at hphase
    cases operation with
    | checkProcess =>
      rw [FileLock.perform]
      split
      · next hnone => exact h.enter_same hp ⟨hphase.1,hphase.2.ended_of_none (isNone_iff_eq_none.mp hnone)⟩
      · split
        · exact h.enter_same hp hphase.1
        · exact h.enter_same hp hphase
    | _ => exact hsame
  | checkingMarker owner judged =>
    rw [hplace] at hphase
    cases operation with
    | checkMarker currentMarker =>
      rw [FileLock.perform]
      split
      · exact h.enter_same hp hphase.1
      · next hdiffers =>
        rw [not_or] at hdiffers
        refine h.enter_same hp ⟨hphase.1,hphase.2.started.resolve_left fun hrunning => hdiffers.2 ?_⟩
        cases currentMarker with
        | none => exact absurd rfl hdiffers.1
        | some text =>
          rw [hplace] at hrelies
          exact of_decide_eq_true hrelies hrunning
    | _ => exact hsame
  | waiting owner =>
    rw [hplace] at hphase
    cases operation with
    | retry => exact h.enter_same hp hphase
    | giveUp => exact h.enter_same hp trivial
    | _ => exact hsame
  | moving owner judged =>
    rw [hplace] at hphase
    cases operation with
    | moveLock =>
      rw [FileLock.perform]
      cases hlock : s.lock with
      | none => exact h.enter_same hp hphase.1
      | some found =>
        have htoken : found.token = judged.token := by
          rw [hplace] at hrelies
          have hall : s.lock.all (fun found => decide (found.token = judged.token)) := hrelies
          simpa [hlock] using hall
        exact h.moveLock hp hlock (htoken ▸ hphase.2) hphase.1
    | fail => exact h.enter_same hp trivial
    | _ => exact hsame
  | confirming owner judged =>
    rw [hplace] at hphase
    cases operation with
    | confirm answered =>
      rw [FileLock.perform]
      split
      · exact h.enter_same hp hphase.1
      · exact h.enter_same hp hphase
    | _ => exact hsame
  | removing owner =>
    rw [hplace] at hphase
    cases operation with
    | removeStale =>
      exact h.enter (t := { s with stale := update s.stale p none }) hp rfl rfl rfl
        (fun q hne => update_of_ne hne _ _) h.lock (fun _ _ _ _ => rfl) hphase
    | fail => exact h.enter_same hp trivial
    | _ => exact hsame
  | restoring owner =>
    rw [hplace] at hphase
    obtain ⟨hown,found,hmoved⟩ := hphase
    cases operation with
    | restore =>
      rw [hplace] at hrelies
      rw [FileLock.perform,hmoved.stale,some_or]
      exact h.restore hp (isNone_iff_eq_none.mp hrelies) hmoved
    | fail => exact h.enter_same hp trivial
    | _ => exact hsame
  | holding owner =>
    rw [hplace] at hphase
    cases operation with
    | release => exact h.enter_same hp hphase
    | _ => exact hsame
  | releasing owner =>
    rw [hplace] at hphase
    cases operation with
    | readOwn answered =>
      rw [FileLock.perform]
      split
      · exact h.enter_same hp hphase
      · exact h.enter_same hp trivial
    | _ => exact hsame
  | unlinking owner =>
    rw [hplace] at hphase
    cases operation with
    | unlink =>
      refine h.enter (t := { s with lock := none }) hp rfl rfl rfl (fun _ _ => rfl) ?_ ?_ trivial
      · intro found hfound
        cases hfound
      · intro other hother _ hne
        rw [hphase.2] at hother
        obtain rfl := some.inj hother
        exact absurd hphase.1.process hne
    | fail => exact h.enter_same hp trivial
    | _ => exact hsame

theorem Sound.start (h : Sound s) (hrunning : p ∉ s.running) (hended : p ∉ s.ended)
    (hpid : processWith s p.pid = none) : Sound { s with running := p :: s.running } where
  pids := by
    intro q hq r hr heq
    rcases mem_cons.mp hq with hqp | hq'
    · rcases mem_cons.mp hr with hrp | hr'
      · exact hqp.trans hrp.symm
      · exact absurd (heq.symm.trans (congrArg Process.pid hqp)) (processWith_eq_none hpid r hr')
    · rcases mem_cons.mp hr with hrp | hr'
      · exact absurd (heq.trans (congrArg Process.pid hrp)) (processWith_eq_none hpid q hq')
      · exact h.pids q hq' r hr' heq
  ended := by
    intro q hq
    rcases mem_cons.mp hq with rfl | hq
    · exact hended
    · exact h.ended q hq
  fresh := fun q hq hq' => h.fresh q (fun hmem => hq (mem_cons_of_mem _ hmem)) hq'
  lock := by
    intro found hfound
    obtain ⟨hpid,hstarted⟩ := h.lock found hfound
    exact ⟨hpid,hstarted.imp_left (mem_cons_of_mem _)⟩
  phase := by
    intro q hq
    rcases mem_cons.mp hq with rfl | hq
    · change PhaseSound _ q (s.phase q)
      rw [h.fresh q hrunning hended]
      trivial
    · have hknown {owner : LockOwner} (hk : Known s owner) : Known { s with running := p :: s.running } owner :=
        ⟨hk.pid,hk.started.imp_left (mem_cons_of_mem _)⟩
      have hphase := h.phase q hq
      change PhaseSound _ q (s.phase q)
      cases hplace : s.phase q with
      | checkingProcess owner judged | checkingMarker owner judged =>
        rw [hplace] at hphase
        exact ⟨hphase.1,hknown hphase.2⟩
      | confirming owner _ | restoring owner =>
        rw [hplace] at hphase
        obtain ⟨hown,found,hmoved⟩ := hphase
        exact ⟨hown,found,hmoved.stale,hmoved.pid,hmoved.ended⟩
      | _ =>
        rw [hplace] at hphase
        exact hphase

theorem started_exit (h : q ∈ s.running ∨ q ∈ s.ended) : q ∈ s.running.filter (· ≠ p) ∨ q ∈ p :: s.ended := by
  by_cases heq : q = p
  · exact .inr (heq ▸ mem_cons_self)
  · rcases h with h | h
    · exact .inl (mem_filter.mpr ⟨h,decide_eq_true heq⟩)
    · exact .inr (mem_cons_of_mem _ h)

theorem Sound.exit (h : Sound s) :
    Sound { s with running := s.running.filter (· ≠ p), ended := p :: s.ended } where
  pids := fun q hq r hr => h.pids q (mem_of_mem_filter hq) r (mem_of_mem_filter hr)
  ended := by
    intro q hq hmem
    obtain ⟨hq,hne⟩ := mem_filter.mp hq
    rcases mem_cons.mp hmem with rfl | hmem
    · exact of_decide_eq_true hne rfl
    · exact h.ended q hq hmem
  fresh := by
    intro q hq hq'
    rw [mem_cons,not_or] at hq'
    refine h.fresh q (fun hmem => hq (mem_filter.mpr ⟨hmem,decide_eq_true hq'.1⟩)) hq'.2
  lock := by
    intro found hfound
    obtain ⟨hpid,hstarted⟩ := h.lock found hfound
    exact ⟨hpid,started_exit hstarted⟩
  phase := by
    intro q hq
    have hphase := h.phase q (mem_of_mem_filter hq)
    have hknown {owner : LockOwner} (hk : Known s owner) :
        Known { s with running := s.running.filter (· ≠ p), ended := p :: s.ended } owner :=
      ⟨hk.pid,started_exit hk.started⟩
    change PhaseSound _ q (s.phase q)
    cases hplace : s.phase q with
    | checkingProcess owner judged | checkingMarker owner judged =>
      rw [hplace] at hphase
      exact ⟨hphase.1,hknown hphase.2⟩
    | confirming owner _ | restoring owner =>
      rw [hplace] at hphase
      obtain ⟨hown,found,hmoved⟩ := hphase
      exact ⟨hown,found,hmoved.stale,hmoved.pid,mem_cons_of_mem _ hmoved.ended⟩
    | moving owner judged =>
      rw [hplace] at hphase
      exact ⟨hphase.1,mem_cons_of_mem _ hphase.2⟩
    | _ =>
      rw [hplace] at hphase
      exact hphase

theorem Sound.next (h : Sound s) {action : Action} (hrelies : Reclaims s action) : Sound (next s action) := by
  cases action with
  | start p =>
    rw [FileLock.next]
    split
    · exact h
    · next hnot =>
      rw [not_or,not_or] at hnot
      refine h.start hnot.1 hnot.2.1 ?_
      exact not_isSome_iff_eq_none.mp hnot.2.2
  | exit p =>
    rw [FileLock.next]
    split
    · exact h.exit
    · exact h
  | step p operation =>
    rw [FileLock.next]
    split
    · next hp => exact h.perform hp (hrelies hp)
    · exact h

theorem Sound.mutualExclusion (h : Sound s) : MutualExclusion s := by
  rintro p q ⟨hp,owner,howner⟩ ⟨hq,other,hother⟩
  have hsound := h.phase p hp
  have hsound' := h.phase q hq
  rw [howner] at hsound
  rw [hother] at hsound'
  have heq : owner = other := some.inj (hsound.2.symm.trans hsound'.2)
  rw [← hsound.1.process,heq,hsound'.1.process]

theorem Sound.releasesItsOwn (h : Sound s) : ReleasesItsOwn s := by
  intro p hp owner howner found hfound
  have hsound := h.phase p hp
  rw [howner] at hsound
  rw [some.inj (hfound.symm.trans hsound.2)]

theorem sound_run {actions : List Action} (h : Sound s) (heach : EachStep Reclaims s actions) :
    Sound (run s actions) := by
  induction actions generalizing s with
  | nil => exact h
  | cons action actions ih => exact ih (h.next heach.1) heach.2

/-- When every reclaim finds what it relies on, one running process has the lock at a time, and a release removes the
lock of its own process. -/
theorem lock_exclusion (actions : List Action) (h : EachStep Reclaims initial actions) :
    MutualExclusion (run initial actions) ∧ ReleasesItsOwn (run initial actions) :=
  ⟨(sound_run sound_initial h).mutualExclusion,(sound_run sound_initial h).releasesItsOwn⟩

def sampleProcess (pid : ℕ) : Process := ⟨pid,0⟩

def steps (pid : ℕ) (operations : List Operation) : List Action := operations.map (.step (sampleProcess pid))

/-- The first process takes the lock and exits. The second one finds it, and judges its owner. -/
def judgedRun : List Action :=
  .start (sampleProcess 1) :: steps 1 [.acquire (some "proc:1"),.link] ++
    [.exit (sampleProcess 1),.start (sampleProcess 2)] ++
    steps 2 [.acquire (some "proc:1"),.link,.readOwner true,.checkProcess]

/-- The PID of the first process is given to another one, the second one takes its lock over, and a third one waits. -/
def reusedRun : List Action :=
  .start (sampleProcess 1) :: steps 1 [.acquire (some "proc:1"),.link] ++
    [.exit (sampleProcess 1),.start ⟨1,1⟩,.start (sampleProcess 2),.start (sampleProcess 3)] ++
    steps 2 [.acquire (some "proc:2"),.link,.readOwner true,.checkProcess,.checkMarker (some "proc:7"),.moveLock,
      .confirm true,.removeStale,.link] ++
    steps 3 [.acquire none,.link,.readOwner true,.checkProcess,.checkMarker (some "proc:2")]

theorem lock_exclusion_sample : (run initial reusedRun).phase ⟨3,0⟩ = .waiting ⟨⟨⟨3,0⟩,0⟩,3,none⟩ ∧
    (run initial reusedRun).lock.map LockOwner.pid = some 2 ∧
      MutualExclusion (run initial reusedRun) ∧ ReleasesItsOwn (run initial reusedRun) :=
  ⟨by decide,by decide,lock_exclusion _ (by decide)⟩

/-- The third process takes the lock over before the second one moves it, and a fourth one finds none. -/
def overtakenRun : List Action :=
  judgedRun ++ .start (sampleProcess 3) ::
    steps 3 [.acquire (some "proc:1"),.link,.readOwner true,.checkProcess,.moveLock,.confirm true,.removeStale,.link] ++
    steps 2 [.moveLock] ++ .start (sampleProcess 4) :: steps 4 [.acquire (some "proc:1"),.link]

theorem two_holders : ¬ MutualExclusion (run initial overtakenRun) := by
  intro h
  have hholds (pid serial : ℕ) (h : sampleProcess pid ∈ (run initial overtakenRun).running ∧
      (run initial overtakenRun).phase (sampleProcess pid) = .holding ⟨⟨sampleProcess pid,serial⟩,pid,some "proc:1"⟩) :
      Holds (run initial overtakenRun) (sampleProcess pid) := ⟨h.1,_,h.2⟩
  have heq := h _ _ (hholds 3 0 (by decide)) (hholds 4 0 (by decide))
  revert heq
  decide

end Malink.FileLock
