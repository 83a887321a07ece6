import Malink.DeliverySettling
import Mathlib.Tactic.IntervalCases

/-!
# Runs of a delivery outbox

In a fair run whose calls come to an end the outbox gets to rest. All promises have resolved by then, unless a task was
overwritten while it waited.
-/

namespace Malink.Delivery

open DeliveryOutbox Option

variable {config : DeliveryOutboxConfig} {outbox outbox' : DeliveryOutbox}

structure Settled (outbox : DeliveryOutbox) : Prop where
  records : ∀ record ∈ outbox.records, record.settled ∧ record.status ≠ .pending
  counts : ∀ name, (outbox.lane name).pending = 0
  edits : outbox.progressiveEdits.size = 0

def AtRest (config : DeliveryOutboxConfig) (outbox : DeliveryOutbox) : Prop :=
  ∀ event : Event, event.IsWork → next config event outbox = none

theorem work_confirm {deliveryId : ℕ} {outcome : Outcome} (h : outbox.confirm deliveryId outcome = some outbox') :
    outbox'.work config = outbox.work config := by
  rw [confirm] at h
  split at h
  case h_1 => cases h
  case h_2 =>
    split at h
    case h_1 => cases h
    case h_2 confirmation _ =>
      split at h
      case isTrue =>
        rw [← some.inj h]
        cases outcome with
        | resolved messageId thrown => cases confirmation <;> rfl
        | rejected error => rfl
      case isFalse => cases h

theorem work_le {event : Event} (h : Coherent outbox.progressiveEdits) (hcall : ∀ call,event ≠ .call call)
    (hnext : next config event outbox = some outbox') : outbox'.work config ≤ outbox.work config := by
  by_cases hwork : event.IsWork
  · exact (work_lt h hwork hnext).le
  · cases event with
    | call call => exact absurd rfl (hcall call)
    | confirmed deliveryId outcome => exact (work_confirm hnext).le
    | passes ms =>
      rw [← some.inj hnext]
      exact Nat.le_refl _
    | starts | settles | rested | ends | debounced | resumes | unblocked | editSettles | fallbackSettles
      | fallbackRested | closes => exact absurd trivial hwork

theorem stepHead_ne_none {name : LaneName} {job : Job} {jobs : List Job} {record : DeliveryRecord}
    {step : Job → DeliveryRecord → List DeliveryRecord → Option (List DeliveryRecord × Phase)}
    (hjobs : (outbox.lane name).jobs = job :: jobs) (hrecord : outbox.records[job.record]? = some record)
    (hstep : step job record outbox.records ≠ none) : outbox.stepHead name step ≠ none := by
  rw [stepHead,hjobs]
  dsimp only
  rw [hrecord]
  dsimp only
  rw [Ne,map_eq_none_iff]
  exact hstep

theorem AtRest.jobs_eq (h : AtRest config outbox) (hs : Sound outbox) (name : LaneName) :
    (outbox.lane name).jobs = [] := by
  cases hjobs : (outbox.lane name).jobs with
  | nil => rfl
  | cons job jobs =>
    have hknown := hs.known name job (by rw [hjobs]; exact List.mem_cons_self ..)
    have hrecord := List.getElem?_eq_getElem hknown
    have hsettles := h (.settles name (.resolved none none)) trivial
    have hrested := h (.rested name) trivial
    rw [next] at hsettles
    rw [next] at hrested
    cases hphase : job.phase with
    | waiting =>
      have hstarts := h (.starts name (.ok none)) trivial
      rw [next] at hstarts
      refine absurd hstarts (stepHead_ne_none hjobs hrecord ?_)
      rw [if_pos hphase]
      exact some_ne_none _
    | ended =>
      have hends := h (.ends name) trivial
      rw [next,endHead,hjobs] at hends
      dsimp only at hends
      rw [if_pos hphase] at hends
      cases hends
    | direct attempt | fallback attempt =>
      by_cases hresting : attempt.resting
      · refine absurd hrested (stepHead_ne_none hjobs hrecord ?_)
        rw [Job.rest,hphase]
        dsimp only
        rw [if_pos hresting]
        exact some_ne_none _
      · refine absurd hsettles (stepHead_ne_none hjobs hrecord ?_)
        rw [Job.settle,hphase]
        dsimp only
        rw [if_neg hresting]
        cases job.operation <;> exact some_ne_none _

theorem AtRest.loop_eq (h : AtRest config outbox) : outbox.progressiveEditLoop = .idle := by
  cases hloop : outbox.progressiveEditLoop with
  | idle => rfl
  | debouncing =>
    have hevent := h .debounced trivial
    rw [next,if_pos hloop] at hevent
    cases hevent
  | woken terminalWake =>
    have hevent := h .resumes trivial
    rw [next,hloop] at hevent
    cases hevent
  | blocked terminalWake =>
    have hevent := h .unblocked trivial
    rw [next,hloop] at hevent
    cases hevent
  | editing task rest =>
    have hevent := h (.editSettles (.resolved none none)) trivial
    rw [next,hloop] at hevent
    cases hevent
  | sendingFallback task attempt rest =>
    cases hresting : attempt.resting with
    | true =>
      have hevent := h .fallbackRested trivial
      rw [next,hloop] at hevent
      dsimp only at hevent
      rw [if_pos hresting] at hevent
      cases hevent
    | false =>
      have hevent := h (.fallbackSettles (.resolved none none)) trivial
      rw [next,hloop] at hevent
      dsimp only at hevent
      rw [hresting,if_neg Bool.false_ne_true] at hevent
      cases hevent
  | closing =>
    have hevent := h .closes trivial
    rw [next_closes,if_pos hloop] at hevent
    cases hevent

theorem AtRest.settled (h : AtRest config outbox) (hs : Sound outbox) : Settled outbox := by
  have hjobs := h.jobs_eq hs
  have hsize := hs.idle h.loop_eq
  have htasks : outbox.tasks = [] := by
    have hentries : outbox.progressiveEdits.entries = [] := List.length_eq_zero_iff.mp hsize
    rw [DeliveryOutbox.tasks,h.loop_eq,InsertionMap.values,hentries]
    rfl
  refine ⟨fun record hrecord => ?_,fun name => ?_,hsize⟩
  · obtain ⟨id,hid⟩ := List.getElem?_of_mem hrecord
    obtain ⟨hunsettled,hdone⟩ := hs.accounted id record hid
    have hsettled : record.settled := by
      rw [← Bool.not_eq_false]
      intro hfalse
      rcases hunsettled hfalse with ⟨name,job,hjob,-⟩ | ⟨task,htask,-⟩
      · rw [hjobs] at hjob
        cases hjob
      · rw [htasks] at htask
        cases htask
    exact ⟨hsettled,hdone hsettled⟩
  · rw [hs.counts,hjobs]
    rfl

theorem atRest_of_idle (hlanes : ∀ name,(outbox.lane name).jobs = []) (hloop : outbox.progressiveEditLoop = .idle) :
    AtRest config outbox := by
  intro event hwork
  have hstep (name : LaneName) (step : Job → DeliveryRecord → List DeliveryRecord →
      Option (List DeliveryRecord × Phase)) : outbox.stepHead name step = none := by
    rw [stepHead,hlanes]
  cases event with
  | call | confirmed | passes => exact hwork.elim
  | starts name resolved =>
    rw [next]
    exact hstep name _
  | settles name outcome => exact hstep name _
  | rested name =>
    rw [next]
    exact hstep name _
  | ends name =>
    rw [next,endHead,hlanes]
  | debounced =>
    rw [next,hloop]
    rfl
  | closes =>
    rw [next_closes,hloop]
    rfl
  | resumes | unblocked | editSettles | fallbackSettles | fallbackRested => rw [next,hloop]

theorem sound_run (run : EventRun (next config) fresh)
    (hkeeps : ∀ n event,run.event n = some event → ¬ Overwrites config event (run.state n)) (n : ℕ) :
    Sound (run.state n) := by
  have hstep (event : Event) (state state' : DeliveryOutbox) (hallowed : ¬ Overwrites config event state)
      (hs : Sound state) (hnext : next config event state = some state') : Sound state' := sound_next hallowed hs hnext
  exact run.invariant sound_fresh hstep hkeeps n

/-- Every promise that has not resolved belongs to a delivery in flight, and all of them have resolved at last. -/
theorem deliveries_settle (run : EventRun (next config) fresh) (hfair : run.Fair Event.IsWork)
    (hcalls : ∃ last,∀ n ≥ last,∀ call,run.event n ≠ some (.call call))
    (hkeeps : ∀ n event,run.event n = some event → ¬ Overwrites config event (run.state n)) :
    (∀ n id record,(run.state n).records[id]? = some record → record.settled = false → InFlight (run.state n) id) ∧
      ∃ last, ∀ n ≥ last, Settled (run.state n) := by
  have hsound := sound_run run hkeeps
  refine ⟨fun n id record hrecord => ((hsound n).accounted id record hrecord).1,?_⟩
  obtain ⟨first,hfirst⟩ := hcalls
  have hnext {n : ℕ} {event : Event} (hevent : run.event n = some event) :
      next config event (run.state n) = some (run.state (n + 1)) := by
    have hhappens := run.step n
    rw [hevent] at hhappens
    exact hhappens
  have hkept (n : ℕ) (event : Event) (hn : first ≤ n) (hevent : run.event n = some event) :
      (run.state (n + 1)).work config ≤ (run.state n).work config := by
    refine work_le (hsound n).coherent (fun call hcall => ?_) (hnext hevent)
    rw [hcall] at hevent
    exact hfirst n hn call hevent
  have hwork (n : ℕ) (event : Event) (_ : first ≤ n) (hevent : run.event n = some event) (h : event.IsWork) :
      (run.state (n + 1)).work config < (run.state n).work config := work_lt (hsound n).coherent h (hnext hevent)
  obtain ⟨last,-,hlast⟩ := run.work_ends hfair hkept hwork
  exact ⟨last,fun n hn => AtRest.settled (hlast n hn) (hsound n)⟩

def limitedConfig : DeliveryOutboxConfig := ⟨true,3,60000,2,1500⟩

def terminalEdit (text : JsString) : Event :=
  .call (.edit (some (.number 1)) ⟨text⟩ false ⟨some .progressiveEdit,none,true,false,none⟩)

def rateLimited : Event := .editSettles (.rejected (.rejected "Too Many Requests" (some 1000) false))

def limitedEdit : List Event := [terminalEdit "done",rateLimited,.unblocked,.editSettles (.resolved none none)]

def editedRecord (text : JsString) : DeliveryRecord :=
  ⟨.edited,⟨text⟩,some (.number 1),none,some .progressiveEdit,none,true,false,none,none,none,true,none⟩

def terminalTask (text : JsString) (id : ℕ) : ProgressiveEditTask := ⟨"1",id,.number 1,⟨text⟩,true,false,false,0⟩

theorem limitedEdit_after : EventRun.after (next limitedConfig) (limitedEdit ++ [.closes]) fresh =
    some ⟨0,[editedRecord "done"],⟨[],0⟩,⟨[],0⟩,.empty,.idle,1000,
      ⟨[terminalTask "done" 0],[0,0],[0]⟩⟩ := by decide

theorem limitedEdit_isSome : (EventRun.after (next limitedConfig) (limitedEdit ++ [.closes]) fresh).isSome := by
  rw [limitedEdit_after]
  rfl

theorem limitedEdit_keeps (n : ℕ) (event : Event)
    (hevent : (EventRun.ofList _ limitedEdit_isSome).event n = some event) :
    ¬ Overwrites limitedConfig event ((EventRun.ofList _ limitedEdit_isSome).state n) := by
  have hn : n < 5 := EventRun.ofList_event_lt hevent
  interval_cases n
  · cases some.inj hevent
    rintro ⟨-,-,existing,hexisting,-⟩
    cases hexisting
  · cases some.inj hevent
    rintro ⟨task,rest,hloop,-,-,hwaits⟩
    have hempty : ((EventRun.ofList _ limitedEdit_isSome).state 1).progressiveEdits = .empty := rfl
    rw [hempty] at hwaits
    cases hwaits
  · cases some.inj hevent
    exact id
  · cases some.inj hevent
    exact id
  · cases some.inj hevent
    exact id

theorem deliveries_settle_limited :
    ∃ run : EventRun (next limitedConfig) fresh, run.Fair Event.IsWork ∧ run.event 0 = some (terminalEdit "done") ∧
      ∃ last, ∀ n ≥ last, Settled (run.state n) := by
  have hrest : AtRest limitedConfig ⟨0,[editedRecord "done"],⟨[],0⟩,⟨[],0⟩,.empty,.idle,1000,
      ⟨[terminalTask "done" 0],[0,0],[0]⟩⟩ := atRest_of_idle (fun name => by cases name <;> rfl) rfl
  have hfair : EventRun.Fair _ Event.IsWork := EventRun.ofList_fair limitedEdit_isSome trivial limitedEdit_after hrest
  refine ⟨.ofList _ limitedEdit_isSome,hfair,rfl,
    (deliveries_settle _ hfair ⟨5,fun n hn call hcall => ?_⟩ limitedEdit_keeps).2⟩
  exact absurd (EventRun.ofList_event_lt hcall) (Nat.not_lt.mpr hn)

/-- While a terminal edit waits for the rate limit, another one of the same key comes. -/
def replacedEdit : List Event :=
  [terminalEdit "old",terminalEdit "new",rateLimited,.unblocked,.editSettles (.resolved none none)]

/-- The record of the newer edit, whose task was overwritten by the older one. -/
def lostRecord : DeliveryRecord :=
  ⟨.pending,⟨"new"⟩,some (.number 1),none,some .progressiveEdit,none,true,false,none,none,none,false,none⟩

theorem replacedEdit_after : EventRun.after (next limitedConfig) (replacedEdit ++ [.closes]) fresh =
    some ⟨0,[editedRecord "old",lostRecord],⟨[],0⟩,⟨[],0⟩,.empty,.idle,1000,
      ⟨[terminalTask "old" 0,terminalTask "new" 1],[0,0],[0]⟩⟩ := by decide

/-- The promise of an edit that was overwritten never resolves. -/
theorem replaced_never_settles :
    ¬ ∀ (config : DeliveryOutboxConfig) (run : EventRun (next config) fresh), run.Fair Event.IsWork →
      (∃ last,∀ n ≥ last,∀ call,run.event n ≠ some (.call call)) → ∃ last, ∀ n ≥ last, Settled (run.state n) := by
  intro h
  have hsome : (EventRun.after (next limitedConfig) (replacedEdit ++ [.closes]) fresh).isSome := by
    rw [replacedEdit_after]
    rfl
  have hrest : AtRest limitedConfig ⟨0,[editedRecord "old",lostRecord],⟨[],0⟩,⟨[],0⟩,.empty,.idle,1000,
      ⟨[terminalTask "old" 0,terminalTask "new" 1],[0,0],[0]⟩⟩ :=
    atRest_of_idle (fun name => by cases name <;> rfl) rfl
  have hfair : EventRun.Fair _ Event.IsWork := EventRun.ofList_fair hsome trivial replacedEdit_after hrest
  obtain ⟨last,hlast⟩ := h limitedConfig _ hfair ⟨6,fun n hn call hcall =>
    absurd (EventRun.ofList_event_lt hcall) (Nat.not_lt.mpr hn)⟩
  have hsettled := hlast (last + 6) (Nat.le_add_right _ _)
  have hlength : (replacedEdit ++ [Event.closes]).length ≤ last + 6 := Nat.le_add_left 6 last
  rw [EventRun.ofList_state hsome hlength replacedEdit_after] at hsettled
  obtain ⟨hresolved,-⟩ := hsettled.records lostRecord (List.mem_cons_of_mem _ (List.mem_singleton_self _))
  cases hresolved

end Malink.Delivery
