import Malink.FileLock

/-!
# The lock of a Gateway's data directory

A file with its owner in it, that appears with `link` and disappears with `rename` or `unlink`. A Gateway that finds
it moves it away when no process has the owner's PID.
-/

namespace Malink.Gateway.DataDirectory

open FileLock (Process)

open List Option

/-- The token is `randomUUID()`, here the position of the call. -/
structure GatewayDataDirectoryLockOwner where
  pid : ℕ
  token : ℕ
  acquiredAt : ℕ
  deriving DecidableEq

/-- Where a call of `acquireGatewayDataDirectoryLock` stands, or the `release` that it has returned. -/
inductive Phase
  | writing (attempt : ℕ)
  | linking (attempt : ℕ)
  | reading (attempt : ℕ)
  | judging (attempt : ℕ) (current : GatewayDataDirectoryLockOwner)
  | moving (attempt : ℕ) (current : GatewayDataDirectoryLockOwner)
  | clearing (attempt : ℕ)
  /-- the temporary file is still there -/
  | linked
  | holding
  | releasing
  | unlinking
  /-- thrown or released -/
  | ended
  deriving DecidableEq

structure Call where
  process : Process
  acquiredAt : ℕ
  phase : Phase
  deriving DecidableEq

def Call.owner (call : Call) (token : ℕ) : GatewayDataDirectoryLockOwner := ⟨call.process.pid,token,call.acquiredAt⟩

structure Directory where
  running : List Process
  ended : List Process
  calls : List Call
  lock : Option GatewayDataDirectoryLockOwner

def initial : Directory := ⟨[],[],[],none⟩

inductive Action
  | start (process : Process)
  | exit (process : Process)
  | acquire (process : Process) (now : ℕ)
  | proceed (token : ℕ)
  | release (token : ℕ)
  | fail (token : ℕ)
  deriving DecidableEq

def Directory.processIsAlive (d : Directory) (pid : ℕ) : Prop := ∃ p ∈ d.running, p.pid = pid

instance (d : Directory) (pid : ℕ) : Decidable (d.processIsAlive pid) := inferInstanceAs (Decidable (∃ p ∈ d.running,_))

def Directory.enter (d : Directory) (token : ℕ) (call : Call) (phase : Phase) : Directory :=
  { d with calls := d.calls.set token { call with phase } }

def again (attempt : ℕ) : Phase := if attempt + 1 < 8 then .writing (attempt + 1) else .ended

def proceed (d : Directory) (token : ℕ) (call : Call) : Directory :=
  match call.phase with
  | .writing attempt => d.enter token call (.linking attempt)
  | .linking attempt =>
    match d.lock with
    | none => { d with lock := some (call.owner token) }.enter token call .linked
    | some _ => d.enter token call (.reading attempt)
  | .linked => d.enter token call .holding
  | .reading attempt =>
    match d.lock with
    | none => d.enter token call (again attempt)
    | some current => d.enter token call (.judging attempt current)
  | .judging attempt current =>
    if d.processIsAlive current.pid then d.enter token call .ended else d.enter token call (.moving attempt current)
  | .moving attempt _ =>
    match d.lock with
    | none => d.enter token call (again attempt)
    | some _ => { d with lock := none }.enter token call (.clearing attempt)
  | .clearing attempt => d.enter token call (again attempt)
  | .releasing =>
    if ∃ current ∈ d.lock, current.token = token ∧ current.pid = call.process.pid then d.enter token call .unlinking
    else d.enter token call .ended
  | .unlinking => { d with lock := none }.enter token call .ended
  | .holding | .ended => d

def fail (d : Directory) (token : ℕ) (call : Call) : Directory :=
  if call.phase = .holding then d else d.enter token call .ended

def release (d : Directory) (token : ℕ) (call : Call) : Directory :=
  if call.phase = .holding then d.enter token call .releasing else d

/-- A call whose process has ended stays where it is. -/
def Directory.perform (d : Directory) (token : ℕ) (operation : Directory → ℕ → Call → Directory) : Directory :=
  match d.calls[token]? with
  | none => d
  | some call => if call.process ∈ d.running then operation d token call else d

def next (d : Directory) : Action → Directory
  | .start p =>
    if p ∈ d.running ∨ p ∈ d.ended ∨ d.processIsAlive p.pid then d else { d with running := p :: d.running }
  | .exit p =>
    if p ∈ d.running then { d with running := d.running.filter (· ≠ p), ended := p :: d.ended } else d
  | .acquire p now => if p ∈ d.running then { d with calls := d.calls ++ [⟨p,now,.writing 0⟩] } else d
  | .proceed token => d.perform token proceed
  | .release token => d.perform token release
  | .fail token => d.perform token fail

def run (d : Directory) (actions : List Action) : Directory := actions.foldl next d

def Directory.Holds (d : Directory) (call : Call) : Prop := call.process ∈ d.running ∧ call.phase = .holding

/-- At most one running process holds the lock, and its file is at the path. -/
structure OwnedOnce (d : Directory) : Prop where
  once : ∀ (i j : ℕ) (call call' : Call), d.calls[i]? = some call → d.calls[j]? = some call' → d.Holds call →
    d.Holds call' → i = j
  present : ∀ (i : ℕ) (call : Call), d.calls[i]? = some call → d.Holds call → d.lock = some (call.owner i)

/-- The owner that has been judged before the file is moved. -/
def Phase.judged : Phase → Option GatewayDataDirectoryLockOwner
  | moving _ current => some current
  | _ => none

def MovesReadLock (d : Directory) : Action → Prop
  | .proceed token => ∀ call ∈ d.calls[token]?, ∀ current ∈ call.phase.judged, ∀ found ∈ d.lock, found = current
  | _ => True

instance (d : Directory) (action : Action) : Decidable (MovesReadLock d action) :=
  match action with
  | .proceed token => inferInstanceAs (Decidable (∀ call ∈ d.calls[token]?,_))
  | .start _ | .exit _ | .acquire _ _ | .release _ | .fail _ => isTrue trivial

/-- A run, each of whose steps meets the condition. -/
def EachMoves : Directory → List Action → Prop
  | _, [] => True
  | d, action :: actions => MovesReadLock d action ∧ EachMoves (next d action) actions

instance decidableEachMoves : (d : Directory) → (actions : List Action) → Decidable (EachMoves d actions)
  | _, [] => isTrue trivial
  | d, action :: actions =>
    match decidableEachMoves (next d action) actions with
    | isTrue h => decidable_of_iff (MovesReadLock d action) ⟨fun hc => ⟨hc,h⟩,And.left⟩
    | isFalse h => isFalse fun hc => h hc.2

def Directory.processOf (d : Directory) (token : ℕ) : Option Process := (d.calls[token]?).map fun call => call.process

/-- From the link to the end of the release. -/
def Phase.Owns : Phase → Prop
  | linked | holding | releasing | unlinking => True
  | _ => False

structure Sound (d : Directory) : Prop where
  pids : ∀ p ∈ d.running, ∀ q ∈ d.running, p.pid = q.pid → p = q
  disjoint : ∀ p ∈ d.running, p ∉ d.ended
  started : ∀ token p, d.processOf token = some p → p ∈ d.running ∨ p ∈ d.ended
  named : ∀ owner, d.lock = some owner → ∃ p, d.processOf owner.token = some p ∧ owner.pid = p.pid
  judging : ∀ call ∈ d.calls, ∀ attempt current, call.phase = .judging attempt current →
    ∃ p, d.processOf current.token = some p ∧ current.pid = p.pid
  moving : ∀ call ∈ d.calls, ∀ attempt current, call.phase = .moving attempt current →
    ∃ p ∈ d.ended, d.processOf current.token = some p
  owns : ∀ (token : ℕ) (call : Call), d.calls[token]? = some call → call.process ∈ d.running → call.phase.Owns →
    d.lock = some (call.owner token)

variable {d : Directory} {token : ℕ} {call : Call}

theorem processOf_of_call (hcall : d.calls[token]? = some call) : d.processOf token = some call.process := by
  rw [Directory.processOf,hcall,map_some]

theorem processOf_enter (hcall : d.calls[token]? = some call) (phase : Phase)
    (lock : Option GatewayDataDirectoryLockOwner) (other : ℕ) :
    ({ d with lock }.enter token call phase).processOf other = d.processOf other := by
  simp only [Directory.processOf,Directory.enter,getElem?_set]
  split
  · next heq =>
    subst heq
    obtain ⟨hlt,-⟩ := List.getElem?_eq_some_iff.mp hcall
    rw [if_pos hlt,hcall,map_some,map_some]
  · rfl

theorem Sound.unique (h : Sound d) (hcall : d.calls[token]? = some call) (hrunning : call.process ∈ d.running)
    (howns : call.phase.Owns) {other : ℕ} {call' : Call} (hcall' : d.calls[other]? = some call')
    (hrunning' : call'.process ∈ d.running) (howns' : call'.phase.Owns) : other = token := by
  have hlock := (h.owns token call hcall hrunning howns).symm.trans (h.owns other call' hcall' hrunning' howns')
  exact (congrArg GatewayDataDirectoryLockOwner.token (some.inj hlock)).symm

variable {phase : Phase}

section

variable (h : Sound d) (hcall : d.calls[token]? = some call)
include h hcall

/-- A step of one call: where it goes, and what becomes of the file. -/
theorem Sound.enter {lock : Option GatewayDataDirectoryLockOwner}
    (hlock : ∀ owner,lock = some owner → d.lock = some owner ∨ owner = call.owner token)
    (hjudging : ∀ attempt current,phase = .judging attempt current → d.lock = some current)
    (hmoving : ∀ attempt current,phase = .moving attempt current → ∃ p ∈ d.ended,d.processOf current.token = some p)
    (howns : phase.Owns → lock = some (call.owner token))
    (hothers : ∀ (other : ℕ) (call' : Call),other ≠ token → d.calls[other]? = some call' → call'.process ∈ d.running →
      call'.phase.Owns → lock = d.lock) : Sound ({ d with lock }.enter token call phase) := by
  have hmem {other : Call} (hother : other ∈ d.calls.set token { call with phase }) :
      other ∈ d.calls ∨ other = { call with phase } := mem_or_eq_of_mem_set hother
  refine ⟨h.pids,h.disjoint,?_,?_,?_,?_,?_⟩
  · intro other p hp
    rw [processOf_enter hcall] at hp
    exact h.started other p hp
  · intro owner howner
    rw [processOf_enter hcall]
    rcases hlock owner howner with hbefore | rfl
    · exact h.named owner hbefore
    · exact ⟨call.process,processOf_of_call hcall,rfl⟩
  · intro other hother attempt current heq
    rw [processOf_enter hcall]
    rcases hmem hother with hother | rfl
    · exact h.judging other hother attempt current heq
    · exact h.named current (hjudging attempt current heq)
  · intro other hother attempt current heq
    rw [processOf_enter hcall]
    rcases hmem hother with hother | rfl
    · exact h.moving other hother attempt current heq
    · exact hmoving attempt current heq
  · intro other call' hcall' hrunning hphase
    have hset : (d.calls.set token { call with phase })[other]? = some call' := hcall'
    rw [getElem?_set] at hset
    split at hset
    · next heq =>
      split at hset
      · obtain rfl := some.inj hset
        exact heq ▸ howns hphase
      · cases hset
    · next hne =>
      exact (hothers other call' (Ne.symm hne) hset hrunning hphase).trans (h.owns other call' hset hrunning hphase)

theorem Sound.enter_same (hjudging : ∀ attempt current,phase = .judging attempt current → d.lock = some current)
    (hmoving : ∀ attempt current,phase = .moving attempt current → ∃ p ∈ d.ended,d.processOf current.token = some p)
    (howns : phase.Owns → d.lock = some (call.owner token)) : Sound (d.enter token call phase) :=
  h.enter hcall (fun _ howner => .inl howner) hjudging hmoving howns fun _ _ _ _ _ _ => rfl

theorem Sound.enter_plain
    (hplain : (∃ attempt,phase = .writing attempt ∨ phase = .linking attempt ∨ phase = .reading attempt) ∨
      phase = .ended) : Sound (d.enter token call phase) := by
  refine h.enter_same hcall ?_ ?_ ?_
  · rintro attempt current rfl
    simp at hplain
  · rintro attempt current rfl
    simp at hplain
  · intro howns
    rcases hplain with ⟨attempt,rfl | rfl | rfl⟩ | rfl <;> exact howns.elim

theorem Sound.enter_again (attempt : ℕ) : Sound (d.enter token call (again attempt)) := by
  refine h.enter_plain hcall ?_
  rw [again]
  split
  · exact .inl ⟨_,.inl rfl⟩
  · exact .inr rfl

theorem Sound.enter_owns (hrunning : call.process ∈ d.running)
    (howns : call.phase.Owns) (hphase : phase.Owns) : Sound (d.enter token call phase) := by
  refine h.enter_same hcall ?_ ?_ fun _ => h.owns token call hcall hrunning howns
  · rintro attempt current rfl
    exact hphase.elim
  · rintro attempt current rfl
    exact hphase.elim

theorem Sound.enter_removed (hphase : (∃ attempt,phase = .clearing attempt) ∨ phase = .ended)
    (hothers : ∀ (other : ℕ) (call' : Call),other ≠ token → d.calls[other]? = some call' → call'.process ∈ d.running →
      ¬ call'.phase.Owns) : Sound ({ d with lock := none }.enter token call phase) := by
  refine h.enter hcall ?_ ?_ ?_ ?_ ?_
  · intro owner howner
    cases howner
  · rintro attempt current rfl
    simp at hphase
  · rintro attempt current rfl
    simp at hphase
  · intro howns
    rcases hphase with ⟨attempt,rfl⟩ | rfl <;> exact howns.elim
  · intro other call' hne hcall' hrunning howns
    exact absurd howns (hothers other call' hne hcall' hrunning)

theorem Sound.proceed (hrunning : call.process ∈ d.running)
    (hmoves : MovesReadLock d (.proceed token)) : Sound (proceed d token call) := by
  rw [DataDirectory.proceed]
  split
  · exact h.enter_plain hcall (.inl ⟨_,.inr (.inl rfl)⟩)
  · split
    · next hlock =>
      refine h.enter hcall (fun owner howner => .inr (some.inj howner).symm) ?_ ?_ (fun _ => rfl) ?_
      · intro attempt current heq
        cases heq
      · intro attempt current heq
        cases heq
      · intro other call' _ hcall' hrunning' howns
        have hfound := h.owns other call' hcall' hrunning' howns
        rw [hlock] at hfound
        cases hfound
    · exact h.enter_plain hcall (.inl ⟨_,.inr (.inr rfl)⟩)
  · next hphase => exact h.enter_owns hcall hrunning (hphase ▸ trivial) trivial
  · split
    · exact h.enter_again hcall _
    · next current hlock =>
      refine h.enter_same hcall ?_ ?_ fun howns => howns.elim
      · intro attempt found heq
        cases heq
        exact hlock
      · intro attempt found heq
        cases heq
  · next attempt current hphase =>
    split
    · exact h.enter_plain hcall (.inr rfl)
    · next hdead =>
      refine h.enter_same hcall ?_ ?_ fun howns => howns.elim
      · intro attempt found heq
        cases heq
      · intro attempt found heq
        cases heq
        -- No process has the PID of the owner, so the one that has written it has ended.
        obtain ⟨p,hp,hpid⟩ := h.judging call (mem_of_getElem? hcall) _ _ hphase
        exact ⟨p,(h.started _ p hp).resolve_left fun halive => hdead ⟨p,halive,hpid.symm⟩,hp⟩
  · next attempt current hphase =>
    split
    · exact h.enter_again hcall _
    · next found hlock =>
      have hread : found = current := hmoves call hcall current (by rw [hphase]; rfl) found hlock
      refine h.enter_removed hcall (.inl ⟨_,rfl⟩) fun other call' _ hcall' hrunning' howns => ?_
      obtain ⟨p,hended,hp⟩ := h.moving call (mem_of_getElem? hcall) _ _ hphase
      have hown : current = call'.owner other :=
        hread.symm.trans (some.inj (hlock.symm.trans (h.owns other call' hcall' hrunning' howns)))
      rw [hown,Call.owner,processOf_of_call hcall'] at hp
      exact h.disjoint _ hrunning' (some.inj hp ▸ hended)
  · exact h.enter_again hcall _
  · next hphase =>
    split
    · exact h.enter_owns hcall hrunning (hphase ▸ trivial) trivial
    · exact h.enter_plain hcall (.inr rfl)
  · next hphase =>
    refine h.enter_removed hcall (.inr rfl) fun other call' hne hcall' hrunning' howns => hne ?_
    exact h.unique hcall hrunning (hphase ▸ trivial) hcall' hrunning' howns
  · exact h
  · exact h

end

theorem Sound.perform (h : Sound d) {operation : Directory → ℕ → Call → Directory}
    (hoperation : ∀ call,d.calls[token]? = some call → call.process ∈ d.running → Sound (operation d token call)) :
    Sound (d.perform token operation) := by
  rw [Directory.perform]
  split
  · exact h
  · next call hcall =>
    split
    · next hrunning => exact hoperation call hcall hrunning
    · exact h

theorem Sound.fail (h : Sound d) (hcall : d.calls[token]? = some call) : Sound (fail d token call) := by
  rw [DataDirectory.fail]
  split
  · exact h
  · exact h.enter_plain hcall (.inr rfl)

theorem Sound.release (h : Sound d) (hcall : d.calls[token]? = some call) (hrunning : call.process ∈ d.running) :
    Sound (release d token call) := by
  rw [DataDirectory.release]
  split
  · next hphase => exact h.enter_owns hcall hrunning (hphase ▸ trivial) trivial
  · exact h

variable {p : Process}

theorem Sound.start (h : Sound d) (hrunning : p ∉ d.running) (hended : p ∉ d.ended)
    (hpid : ¬ d.processIsAlive p.pid) : Sound { d with running := p :: d.running } := by
  refine ⟨?_,?_,?_,h.named,h.judging,h.moving,?_⟩
  · intro q hq r hr heq
    rcases mem_cons.mp hq with rfl | hq'
    · rcases mem_cons.mp hr with rfl | hr'
      · rfl
      · exact absurd ⟨r,hr',heq.symm⟩ hpid
    · rcases mem_cons.mp hr with rfl | hr'
      · exact absurd ⟨q,hq',heq⟩ hpid
      · exact h.pids q hq' r hr' heq
  · intro q hq
    rcases mem_cons.mp hq with rfl | hq
    · exact hended
    · exact h.disjoint q hq
  · intro token q hq
    exact (h.started token q hq).imp_left (mem_cons_of_mem _)
  · intro token call hcall hmem howns
    have hstarted := h.started token call.process (processOf_of_call hcall)
    refine h.owns token call hcall ?_ howns
    rcases mem_cons.mp hmem with heq | hmem
    · rw [heq] at hstarted
      exact (hstarted.elim hrunning hended).elim
    · exact hmem

theorem Sound.exit (h : Sound d) : Sound { d with running := d.running.filter (· ≠ p), ended := p :: d.ended } := by
  refine ⟨?_,?_,?_,h.named,h.judging,?_,?_⟩
  · intro q hq r hr
    exact h.pids q (mem_of_mem_filter hq) r (mem_of_mem_filter hr)
  · intro q hq hmem
    obtain ⟨hq,hne⟩ := mem_filter.mp hq
    rcases mem_cons.mp hmem with rfl | hmem
    · exact of_decide_eq_true hne rfl
    · exact h.disjoint q hq hmem
  · intro token q hq
    by_cases heq : q = p
    · exact .inr (heq ▸ mem_cons_self)
    · refine (h.started token q hq).imp (fun hmem => ?_) (mem_cons_of_mem _)
      exact mem_filter.mpr ⟨hmem,decide_eq_true heq⟩
  · intro call hcall attempt current heq
    obtain ⟨q,hended,hq⟩ := h.moving call hcall attempt current heq
    exact ⟨q,mem_cons_of_mem _ hended,hq⟩
  · intro token call hcall hmem howns
    exact h.owns token call hcall (mem_of_mem_filter hmem) howns

theorem Sound.acquire (h : Sound d) (hrunning : p ∈ d.running) (now : ℕ) :
    Sound { d with calls := d.calls ++ [⟨p,now,.writing 0⟩] } := by
  have hbefore {token : ℕ} {q : Process} (hq : d.processOf token = some q) :
      ({ d with calls := d.calls ++ [⟨p,now,.writing 0⟩] } : Directory).processOf token = some q := by
    obtain ⟨call,hcall,rfl⟩ := map_eq_some_iff.mp hq
    refine processOf_of_call (d := { d with calls := _ }) ?_
    obtain ⟨hlt,-⟩ := List.getElem?_eq_some_iff.mp hcall
    exact (getElem?_append_left hlt).trans hcall
  have hcases {token : ℕ} {call : Call} (hcall : (d.calls ++ [⟨p,now,.writing 0⟩])[token]? = some call) :
      d.calls[token]? = some call ∨ call = ⟨p,now,.writing 0⟩ := by
    rw [getElem?_append] at hcall
    split at hcall
    · exact .inl hcall
    · exact .inr (mem_singleton.mp (mem_of_getElem? hcall))
  have hmem {call : Call} (hcall : call ∈ d.calls ++ [⟨p,now,.writing 0⟩]) :
      call ∈ d.calls ∨ call = ⟨p,now,.writing 0⟩ := (mem_append.mp hcall).imp_right mem_singleton.mp
  refine ⟨h.pids,h.disjoint,?_,?_,?_,?_,?_⟩
  · intro token q hq
    obtain ⟨call,hcall,rfl⟩ := map_eq_some_iff.mp hq
    rcases hcases hcall with hcall | rfl
    · exact h.started token _ (processOf_of_call hcall)
    · exact .inl hrunning
  · intro owner howner
    obtain ⟨q,hq,hpid⟩ := h.named owner howner
    exact ⟨q,hbefore hq,hpid⟩
  · intro call hcall attempt current heq
    rcases hmem hcall with hcall | rfl
    · obtain ⟨q,hq,hpid⟩ := h.judging call hcall attempt current heq
      exact ⟨q,hbefore hq,hpid⟩
    · cases heq
  · intro call hcall attempt current heq
    rcases hmem hcall with hcall | rfl
    · obtain ⟨q,hended,hq⟩ := h.moving call hcall attempt current heq
      exact ⟨q,hended,hbefore hq⟩
    · cases heq
  · intro token call hcall hmem howns
    rcases hcases hcall with hcall | rfl
    · exact h.owns token call hcall hmem howns
    · exact howns.elim

theorem Sound.next (h : Sound d) {action : Action} (hmoves : MovesReadLock d action) : Sound (next d action) := by
  cases action with
  | start p =>
    rw [DataDirectory.next]
    split
    · exact h
    · next hnot =>
      rw [not_or,not_or] at hnot
      exact h.start hnot.1 hnot.2.1 hnot.2.2
  | exit p =>
    rw [DataDirectory.next]
    split
    · exact h.exit
    · exact h
  | acquire p now =>
    rw [DataDirectory.next]
    split
    · next hrunning => exact h.acquire hrunning now
    · exact h
  | proceed token => exact h.perform fun call hcall hrunning => h.proceed hcall hrunning hmoves
  | release token => exact h.perform fun call hcall hrunning => h.release hcall hrunning
  | fail token => exact h.perform fun call hcall _ => h.fail hcall

theorem sound_initial : Sound initial := by
  refine ⟨?_,?_,?_,?_,?_,?_,?_⟩
  · intro p hp
    cases hp
  · intro p hp
    cases hp
  · intro token p hp
    cases hp
  · intro owner howner
    cases howner
  · intro call hcall
    cases hcall
  · intro call hcall
    cases hcall
  · intro token call hcall
    cases hcall

theorem Sound.run {actions : List Action} (h : Sound d) (heach : EachMoves d actions) : Sound (run d actions) := by
  induction actions generalizing d with
  | nil => exact h
  | cons action actions ih => exact ih (h.next heach.1) heach.2

theorem Sound.ownedOnce (h : Sound d) : OwnedOnce d := by
  have howns {call : Call} (hholds : d.Holds call) : call.phase.Owns := by
    rw [hholds.2]
    trivial
  refine ⟨?_,?_⟩
  · intro i j call call' hcall hcall' hholds hholds'
    exact h.unique hcall' hholds'.1 (howns hholds') hcall hholds.1 (howns hholds)
  · intro i call hcall hholds
    exact h.owns i call hcall hholds.1 (howns hholds)

/-- When every file that is moved away is the one that was read, one Gateway has the directory at a time, and its file
stays where it is. -/
theorem owned_once (actions : List Action) (h : EachMoves initial actions) : OwnedOnce (run initial actions) :=
  (sound_initial.run h).ownedOnce

def sampleProcess (pid : ℕ) : Process := ⟨pid,0⟩

def sampleStale : List Action :=
  [.start (sampleProcess 1),.start (sampleProcess 2),.start (sampleProcess 3),.acquire (sampleProcess 1) 0,
    .proceed 0,.proceed 0,.proceed 0,.exit (sampleProcess 1),.acquire (sampleProcess 2) 1,.proceed 1,.proceed 1,
    .proceed 1,.proceed 1]

def sampleTakes (token : ℕ) : List Action := .replicate 5 (.proceed token)

theorem owned_once_sample : OwnedOnce (run initial (sampleStale ++ sampleTakes 1)) ∧
    (run initial (sampleStale ++ sampleTakes 1)).lock = some ⟨2,1,1⟩ :=
  ⟨owned_once _ (by decide),by decide⟩

/-- The third process takes the lock when the second has read the old one, and the second moves it away. -/
theorem owned_twice : ¬ ∀ actions, OwnedOnce (run initial actions) := by
  intro h
  have htwice := h (sampleStale ++ (.acquire (sampleProcess 3) 2 :: .replicate 4 (.proceed 2)) ++ sampleTakes 2 ++
    sampleTakes 1)
  exact absurd (htwice.once 1 2 _ _ rfl rfl ⟨by decide,by decide⟩ ⟨by decide,by decide⟩) (by decide)

end Malink.Gateway.DataDirectory
