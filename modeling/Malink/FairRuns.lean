import Mathlib.Data.Nat.Find
import Mathlib.Data.Option.Basic
import Mathlib.Order.Basic

/-!
# Fair runs

Where work lowers a measure that nothing else raises, a run that does its work gets to a state without work.
-/

namespace Malink

variable {σ ε : Type}

/-- What one time of a run changes. -/
def Happens (next : ε → σ → Option σ) : Option ε → σ → σ → Prop
  | none, state, state' => state' = state
  | some event, state, state' => next event state = some state'

structure EventRun (next : ε → σ → Option σ) (start : σ) where
  state : ℕ → σ
  event : ℕ → Option ε
  start_eq : state 0 = start
  step : ∀ n, Happens next (event n) (state n) (state (n + 1))

variable {events : List ε}

namespace EventRun

variable {next : ε → σ → Option σ} {start : σ} (run : EventRun next start) (work : ε → Prop)

/-- Whenever there is work, some work is done later. -/
def Fair : Prop :=
  ∀ n event, work event → (next event (run.state n)).isSome → ∃ m ≥ n, ∃ done, run.event m = some done ∧ work done

variable {run work}

/-- What every allowed event keeps holds at all times. -/
theorem invariant {allowed : ε → σ → Prop} {I : σ → Prop} (hstart : I start)
    (hstep : ∀ event state state',allowed event state → I state → next event state = some state' → I state')
    (hallowed : ∀ n event,run.event n = some event → allowed event (run.state n)) (n : ℕ) : I (run.state n) := by
  induction n with
  | zero =>
    rw [run.start_eq]
    exact hstart
  | succ n ih =>
    have hhappens := run.step n
    cases hevent : run.event n with
    | none =>
      rw [hevent] at hhappens
      have hsame : run.state (n + 1) = run.state n := hhappens
      rw [hsame]
      exact ih
    | some event =>
      rw [hevent] at hhappens
      exact hstep event _ _ (hallowed n event hevent) ih hhappens

section

variable {measure : σ → ℕ} {first : ℕ}

theorem measure_antitone
    (hkept : ∀ n event,first ≤ n → run.event n = some event → measure (run.state (n + 1)) ≤ measure (run.state n))
    {n m : ℕ} (hfirst : first ≤ n) (h : n ≤ m) : measure (run.state m) ≤ measure (run.state n) := by
  induction m, h using Nat.le_induction with
  | base => exact le_rfl
  | succ m hm ih =>
    refine le_trans ?_ ih
    cases hevent : run.event m with
    | none =>
      have hhappens := run.step m
      rw [hevent] at hhappens
      have hsame : run.state (m + 1) = run.state m := hhappens
      rw [hsame]
    | some event => exact hkept m event (hfirst.trans hm) hevent

/-- A fair run whose work lowers the measure from some time on has no work left from some time on. -/
theorem work_ends (hfair : run.Fair work)
    (hkept : ∀ n event,first ≤ n → run.event n = some event → measure (run.state (n + 1)) ≤ measure (run.state n))
    (hwork : ∀ n event,first ≤ n → run.event n = some event → work event →
      measure (run.state (n + 1)) < measure (run.state n)) :
    ∃ last ≥ first, ∀ n ≥ last, ∀ event, work event → next event (run.state n) = none := by
  classical
  -- The least measure from `first` on, and a time at which it is reached.
  have hexists : ∃ least,∃ n ≥ first,measure (run.state n) = least := ⟨_,first,le_rfl,rfl⟩
  obtain ⟨last,hlast,hleast⟩ := Nat.find_spec hexists
  refine ⟨last,hlast,fun n hn event hevent => ?_⟩
  by_contra hsome
  obtain ⟨m,hm,done,hdone,hdonework⟩ := hfair n event hevent (Option.isSome_iff_ne_none.mpr hsome)
  have hfirst : first ≤ m := hlast.trans (hn.trans hm)
  have hlower := hwork m done hfirst hdone hdonework
  have hbefore := measure_antitone hkept hlast (hn.trans hm)
  have hfound := Nat.find_min' hexists ⟨m + 1,hfirst.trans (Nat.le_succ m),rfl⟩
  omega

end

def after (next : ε → σ → Option σ) : List ε → σ → Option σ
  | [], state => some state
  | event :: events, state => (next event state).bind (after next events)

theorem after_append (events events' : List ε) (state : σ) :
    after next (events ++ events') state = (after next events state).bind (after next events') := by
  induction events generalizing state with
  | nil => rfl
  | cons event events ih =>
    rw [List.cons_append,after,after,Option.bind_assoc]
    exact congrArg _ (funext ih)

def ofList (events : List ε) (h : (after next events start).isSome) : EventRun next start where
  state n := (after next (events.take n) start).getD start
  event n := events[n]?
  start_eq := rfl
  step n := by
    cases hevent : events[n]? with
    | none =>
      have hlength : events.length ≤ n := List.getElem?_eq_none_iff.mp hevent
      rw [List.take_of_length_le hlength,List.take_of_length_le (hlength.trans n.le_succ)]
      rfl
    | some event =>
      have htake : events.take (n + 1) = events.take n ++ [event] := by
        rw [List.take_add_one,hevent]
        rfl
      have hwhole : after next (events.take (n + 1)) start =
          (after next (events.take n) start).bind (after next [event]) := by
        rw [htake]
        exact after_append _ _ _
      have hall : after next events start =
          (after next (events.take (n + 1)) start).bind (after next (events.drop (n + 1))) := by
        rw [← after_append,List.take_append_drop]
      rw [hall,hwhole] at h
      rw [hwhole]
      cases hbefore : after next (events.take n) start with
      | none =>
        rw [hbefore] at h
        cases h
      | some state =>
        cases hnext : next event state with
        | none =>
          rw [hbefore,Option.bind_some,after,hnext] at h
          cases h
        | some state' =>
          rw [Option.bind_some,after,hnext]
          exact hnext

theorem ofList_state (h : (after next events start).isSome) {n : ℕ} (hn : events.length ≤ n)
    {final : σ} (hfinal : after next events start = some final) : (ofList events h).state n = final := by
  change (after next (events.take n) start).getD start = final
  rw [List.take_of_length_le hn,hfinal]
  rfl

theorem ofList_fair {done : ε} (h : (after next (events ++ [done]) start).isSome) (hdone : work done)
    {final : σ} (hfinal : after next (events ++ [done]) start = some final)
    (hend : ∀ event,work event → next event final = none) : (ofList (events ++ [done]) h).Fair work := by
  intro n event hevent hnext
  rcases Nat.lt_or_ge events.length n with hlt | hle
  · have hlength : (events ++ [done]).length ≤ n := List.length_append.trans_le hlt
    rw [ofList_state h hlength hfinal,hend event hevent] at hnext
    cases hnext
  · refine ⟨events.length,hle,done,?_,hdone⟩
    change (events ++ [done])[events.length]? = some done
    exact List.getElem?_concat_length

theorem ofList_event_lt {h : (after next events start).isSome} {n : ℕ} {event : ε}
    (hevent : (ofList events h).event n = some event) : n < events.length := (List.getElem?_eq_some_iff.mp hevent).1

end EventRun

end Malink
