import Malink.CommandJournalRepair

/-!
# The strict reader accepts a repaired journal

Of every command the reader and the planner keep the fingerprint, the status, and whether the terminal was delivered.
On the lines that are kept both take the same transitions.
-/

namespace Malink.Gateway.JournalText

open Outbox List Option Replay
open Entry (binding deliveryOf dispatchOf)
open Json (stringify)

variable {V : Type} (json : JsonReader V) (protocol : Protocol V)

structure Shape where
  fingerprint : JsString
  status : Status
  delivered : Bool

structure Shapes where
  headers : ℕ
  commands : JsString → Option Shape

def Shapes.put (shapes : Shapes) (key : JsString) (shape : Shape) : Shapes :=
  { shapes with commands := fun k => if k = key then some shape else shapes.commands k }

def Record.shape (record : Record V) : Shape := ⟨record.fingerprint,record.status,record.terminalDeliveryEventId.isSome⟩

def ReplayState.shape (state : ReplayState V) : Shape := ⟨state.fingerprint,state.status,state.deliveryLine.isSome⟩

def Parsed.shapes (parsed : Parsed V) : Shapes :=
  ⟨parsed.headerCount,fun key => (parsed.records.get key).map Record.shape⟩

def Replay.shapes (replay : Replay V) : Shapes :=
  ⟨replay.headers,fun key => (replay.states.get key).map ReplayState.shape⟩

inductive Shapes.Next (shapes : Shapes) : Entry V → Shapes → Prop
  | header {generation : FilledString} (h : shapes.headers = 0) :
      Next shapes (.journal generation) { shapes with headers := 1 }
  | acceptance {key fingerprint : JsString} {command : V} {roomId matrixEventId : Option FilledString}
      {acceptedAt : ℤ} (hnew : shapes.commands key = none)
      (hb : ∀ line,checkBinding json protocol key fingerprint command line = .ok ()) :
      Next shapes (.accepted key fingerprint command roomId matrixEventId acceptedAt)
        (shapes.put key ⟨fingerprint,.accepted,false⟩)
  | dispatch {key : JsString} {shape : Shape} {dispatchedAt : ℤ} (h : shapes.commands key = some shape)
      (hs : shape.status = .accepted) :
      Next shapes (.dispatched key shape.fingerprint dispatchedAt)
        (shapes.put key { shape with status := .dispatched })
  | terminal {key : JsString} {shape : Shape} {terminalAt : ℤ} {outcome : V}
      (h : shapes.commands key = some shape) (hs : shape.status ≠ .terminal) :
      Next shapes (.terminal key shape.fingerprint terminalAt outcome)
        (shapes.put key { shape with status := .terminal })
  | delivery {key : JsString} {shape : Shape} {matrixEventId : FilledString} {deliveredAt : ℤ}
      (h : shapes.commands key = some shape) (hs : shape.status = .terminal) (hd : shape.delivered = false) :
      Next shapes (.terminalDelivered key shape.fingerprint matrixEventId deliveredAt)
        (shapes.put key { shape with delivered := true })

inductive Shapes.Repeats (shapes : Shapes) : Entry V → Prop
  | terminal {key fingerprint : JsString} {shape : Shape} {terminalAt : ℤ} {outcome : V}
      (h : shapes.commands key = some shape) (hs : shape.status = .terminal) :
      Repeats shapes (.terminal key fingerprint terminalAt outcome)
  | delivery {key fingerprint : JsString} {shape : Shape} {matrixEventId : FilledString} {deliveredAt : ℤ}
      (h : shapes.commands key = some shape) (hd : shape.delivered) :
      Repeats shapes (.terminalDelivered key fingerprint matrixEventId deliveredAt)

theorem Parsed.shapes_set (parsed : Parsed V) (key : JsString) (record : Record V) :
    Parsed.shapes { parsed with records := parsed.records.set key record } =
      parsed.shapes.put key record.shape := by
  simp only [Parsed.shapes,Shapes.put,Shapes.mk.injEq,true_and]
  funext k
  rw [InsertionMap.get_set]
  split <;> rfl

theorem Replay.shapes_set (replay : Replay V) (key : JsString) (state : ReplayState V) :
    shapes { replay with states := replay.states.set key state } =
      replay.shapes.put key state.shape := by
  simp only [shapes,Shapes.put,Shapes.mk.injEq,true_and]
  funext k
  rw [InsertionMap.get_set]
  split <;> rfl

variable {shapes : Shapes} {key fingerprint : JsString} {shape : Shape} {parsed parsed' : Parsed V}
  {replay replay' clean : Replay V} {entry : Entry V} {es : List (Entry V)}
  {step : σ → ℕ → Entry V → Except TextError σ} {state : σ} {line line' : List Char}

theorem Shapes.put_self (h : shapes.commands key = some shape) : shapes.put key shape = shapes := by
  obtain ⟨headers,commands⟩ := shapes
  simp only [Shapes.put,Shapes.mk.injEq,true_and]
  funext k
  split
  · next hk => rw [hk]; exact h.symm
  · rfl

theorem checkBinding_line {command : V} {line : ℕ}
    (h : checkBinding json protocol key fingerprint command line = .ok ()) (number : ℕ) :
    checkBinding json protocol key fingerprint command number = .ok () := by
  unfold checkBinding at h ⊢
  split at h
  · cases h
  · next hkey =>
    rw [if_neg hkey]
    cases he : mlp3CommandFingerprint json protocol command with
    | none =>
      rw [he] at h
      cases h
    | some expected =>
      simp only [he] at h ⊢
      split at h
      · cases h
      · next hf => rw [if_neg hf]

variable {json protocol}

theorem Parsed.get_of_shape (h : parsed.shapes.commands key = some shape) :
    ∃ record, parsed.records.get key = some record ∧ record.shape = shape :=
  map_eq_some_iff.mp h

theorem Replay.get_of_shape (h : replay.shapes.commands key = some shape) :
    ∃ state, replay.states.get key = some state ∧ state.shape = shape :=
  map_eq_some_iff.mp h

theorem Replay.shape_of_get {state : ReplayState V}
    (h : replay.states.get key = some state) : replay.shapes.commands key = some state.shape :=
  map_eq_some_iff.mpr ⟨state,h,rfl⟩

/-- The strict reader takes every strict transition. -/
theorem readEntry_of_next (h : parsed.shapes.Next json protocol entry shapes) (line : ℕ) :
    ∃ parsed', readEntry json protocol parsed line entry = .ok parsed' ∧ parsed'.shapes = shapes := by
  cases h with
  | header h =>
    refine ⟨_,if_neg (Nat.not_lt.mpr (Nat.le_of_eq h)),?_⟩
    simp only [Parsed.shapes,Shapes.mk.injEq,and_true]
    exact congrArg (· + 1) h
  | @acceptance key fingerprint command roomId matrixEventId acceptedAt hnew hb =>
    have hget : parsed.records.has key = false := by
      rw [InsertionMap.has,map_eq_none_iff.mp hnew]
      rfl
    refine ⟨_,?_,Parsed.shapes_set parsed key (acceptedRecord command fingerprint roomId matrixEventId acceptedAt)⟩
    simp only [readEntry,hget,hb line,ok_bind]
    rfl
  | @dispatch _ _ dispatchedAt h hs =>
    obtain ⟨record,hget,rfl⟩ := Parsed.get_of_shape h
    refine ⟨_,?_,Parsed.shapes_set parsed _
      { record with status := .dispatched, dispatchedAt := some dispatchedAt }⟩
    have hstatus : ¬ record.status ≠ .accepted := not_not_intro hs
    simp only [readEntry,binding,hget,Record.shape,ne_eq,not_true_eq_false,if_false,transition,if_neg hstatus,ok_bind]
  | @terminal _ _ terminalAt outcome h hs =>
    obtain ⟨record,hget,rfl⟩ := Parsed.get_of_shape h
    refine ⟨_,?_,Parsed.shapes_set parsed _
      { record with status := .terminal, terminalAt := some terminalAt, terminal := some outcome }⟩
    have hstatus : ¬ record.status = .terminal := hs
    simp only [readEntry,binding,hget,Record.shape,ne_eq,not_true_eq_false,if_false,transition,if_neg hstatus,ok_bind]
  | @delivery _ _ matrixEventId deliveredAt h hs hd =>
    obtain ⟨record,hget,rfl⟩ := Parsed.get_of_shape h
    refine ⟨_,?_,Parsed.shapes_set parsed _ { record with
        terminalDeliveryEventId := some matrixEventId
        terminalDeliveredAt := some deliveredAt }⟩
    have hstatus : ¬ (record.status ≠ .terminal ∨ record.terminalDeliveryEventId.isSome) :=
      not_or_intro (not_not_intro hs) (by rw [show record.terminalDeliveryEventId.isSome = false from hd]; decide)
    simp only [readEntry,binding,hget,Record.shape,ne_eq,not_true_eq_false,if_false,transition,if_neg hstatus,ok_bind]

/-- The planner takes every strict transition and plans nothing for it. -/
theorem replayEntry_of_next (h : replay.shapes.Next json protocol entry shapes) (line : ℕ) :
    ∃ replay', replayEntry json protocol replay line entry = .ok replay' ∧ replay'.shapes = shapes ∧
      replay'.removedLines = replay.removedLines ∧ replay'.duplicateTerminals = replay.duplicateTerminals := by
  cases h with
  | header h =>
    have hone : ¬ 1 < replay.headers + 1 := by
      have hzero : replay.headers = 0 := h
      omega
    refine ⟨_,if_neg hone,?_,rfl,rfl⟩
    simp only [shapes,Shapes.mk.injEq,and_true]
    exact congrArg (· + 1) h
  | @acceptance key fingerprint command _ _ _ hnew hb =>
    have hget : replay.states.has key = false := by
      rw [InsertionMap.has,map_eq_none_iff.mp hnew]
      rfl
    refine ⟨_,?_,shapes_set replay key
      (acceptedState ((stringField json command "commandId").getD "") fingerprint),rfl,rfl⟩
    simp only [replayEntry,hget,hb line,ok_bind]
    rfl
  | dispatch h hs =>
    obtain ⟨state,hget,rfl⟩ := get_of_shape h
    refine ⟨_,?_,shapes_set replay _ { state with status := .dispatched },rfl,rfl⟩
    have hstatus : ¬ state.status ≠ .accepted := not_not_intro hs
    simp only [replayEntry,binding,hget,ReplayState.shape,ne_eq,not_true_eq_false,if_false,
      replayTransition,if_neg hstatus]
  | @terminal _ _ _ outcome h hs =>
    obtain ⟨state,hget,rfl⟩ := get_of_shape h
    refine ⟨_,?_,shapes_set replay _
      { state with status := .terminal, terminal := some outcome, terminalLine := some line },rfl,rfl⟩
    have hstatus : state.status ≠ .terminal := hs
    simp only [replayEntry,binding,hget,ReplayState.shape,ne_eq,not_true_eq_false,if_false,
      replayTransition,if_pos hstatus]
  | delivery h hs hd =>
    obtain ⟨state,hget,rfl⟩ := get_of_shape h
    refine ⟨_,?_,shapes_set replay _ { state with deliveryLine := some line },rfl,rfl⟩
    have hstatus : ¬ state.status ≠ .terminal := not_not_intro hs
    have hnone : state.deliveryLine.isNone := by
      rw [← not_isSome,show state.deliveryLine.isSome = false from hd]
      rfl
    simp only [replayEntry,binding,hget,ReplayState.shape,ne_eq,not_true_eq_false,if_false,
      replayTransition,if_neg hstatus,if_pos hnone]

theorem replayEntry_bound {line : ℕ}
    (hb : entry.binding = some (key,fingerprint)) (h : replayEntry json protocol replay line entry = .ok replay') :
    ∃ state, replay.states.get key = some state ∧ state.fingerprint = fingerprint ∧
      replayTransition json replay key state line entry = .ok replay' := by
  cases entry with
  | journal | accepted => cases hb
  | dispatched _ _ _ | terminal _ _ _ _ | terminalDelivered _ _ _ _ =>
    cases hb
    simp only [replayEntry,binding] at h
    split at h
    · cases h
    · next state hget =>
      split at h
      · cases h
      · next hf => exact ⟨state,hget,not_not.mp hf,h⟩

theorem replayDuplicate_shapes {state : ReplayState V} {line : ℕ}
    {outcome : V} {identical : Bool} (hget : replay.states.get key = some state) :
    (replayDuplicate json replay key state line outcome identical).shapes = replay.shapes := by
  cases identical with
  | true => rfl
  | false =>
    have hshape := shape_of_get hget
    exact (shapes_set replay key _).trans (Shapes.put_self hshape)

/-- An entry the planner passes either takes a strict transition and is kept, or it is removed and repeats
what the shapes have. -/
theorem replayEntry_cases {line : ℕ} (h : replayEntry json protocol replay line entry = .ok replay') :
    (replay.shapes.Next json protocol entry replay'.shapes ∧ replay'.removedLines = replay.removedLines) ∨
      (replay.shapes.Repeats entry ∧ replay'.shapes = replay.shapes ∧
        replay'.removedLines = replay.removedLines ++ [line]) := by
  cases entry with
  | journal generation =>
    simp only [replayEntry] at h
    split at h
    · cases h
    · next hone =>
      cases h
      have hzero : replay.headers = 0 := by omega
      refine .inl ⟨?_,rfl⟩
      have hshapes : shapes { replay with headers := replay.headers + 1 } =
          { replay.shapes with headers := 1 } := by rw [hzero]; rfl
      rw [hshapes]
      exact .header hzero
  | accepted key fingerprint command roomId matrixEventId acceptedAt =>
    simp only [replayEntry] at h
    split at h
    · cases h
    · next hnew =>
      obtain ⟨_,hb,h⟩ := bind_eq_ok.mp h
      cases h
      refine .inl ⟨?_,rfl⟩
      rw [shapes_set]
      refine .acceptance ?_ (checkBinding_line json protocol hb)
      refine map_eq_none_iff.mpr ?_
      cases hget : replay.states.get key with
      | none => rfl
      | some state => exact absurd (by rw [InsertionMap.has,hget]; rfl) hnew
  | dispatched key fingerprint dispatchedAt =>
    obtain ⟨state,hget,rfl,h⟩ := replayEntry_bound rfl h
    have hshape := shape_of_get hget
    simp only [replayTransition] at h
    split at h
    · cases h
    · next hs =>
      cases h
      refine .inl ⟨?_,rfl⟩
      rw [shapes_set]
      exact .dispatch hshape (not_not.mp hs)
  | terminal key fingerprint terminalAt outcome =>
    obtain ⟨state,hget,rfl,h⟩ := replayEntry_bound rfl h
    have hshape := shape_of_get hget
    simp only [replayTransition] at h
    split at h
    · next hs =>
      cases h
      refine .inl ⟨?_,rfl⟩
      rw [shapes_set]
      exact .terminal hshape hs
    · next hs =>
      obtain ⟨identical,-,h⟩ := bind_eq_ok.mp h
      split at h
      · cases h
      · cases h
        refine .inr ⟨.terminal hshape (not_not.mp hs),?_,rfl⟩
        exact replayDuplicate_shapes hget
  | terminalDelivered key fingerprint matrixEventId deliveredAt =>
    obtain ⟨state,hget,rfl,h⟩ := replayEntry_bound rfl h
    have hshape := shape_of_get hget
    simp only [replayTransition] at h
    split at h
    · cases h
    · next hs =>
      split at h
      · next hd =>
        cases h
        refine .inl ⟨?_,rfl⟩
        rw [shapes_set]
        exact .delivery hshape (not_not.mp hs) (by rw [ReplayState.shape,isNone_iff_eq_none.mp hd]; rfl)
      · next hd =>
        have hdelivered : state.deliveryLine.isSome := isSome_iff_ne_none.mpr (fun hn => hd (by rw [hn]; rfl))
        split at h
        · cases h
        · cases h
          refine .inr ⟨.delivery hshape hdelivered,?_,rfl⟩
          exact (shapes_set replay key _).trans (Shapes.put_self hshape)

section first

variable {α : Type} {es : List (Entry V)} {e : Entry V} {f : Entry V → Option α}

theorem findSome_concat_of_none (h : f e = none) : (es ++ [e]).findSome? f = es.findSome? f := by
  rw [findSome?_append,findSome?_cons,h,findSome?_nil,or_none]

theorem findSome_concat_of_some (h : (es.findSome? f).isSome) : (es ++ [e]).findSome? f = es.findSome? f := by
  rw [findSome?_append]
  exact or_of_isSome h

theorem findSome_concat_new (h : es.findSome? f = none) : (es ++ [e]).findSome? f = f e := by
  rw [findSome?_append,h,none_or,findSome?_cons]
  cases f e <;> rfl

end first

def Entry.commandKey : Entry V → Option JsString
  | .journal _ => none
  | .accepted key _ _ _ _ _ => some key
  | .dispatched key _ _ => some key
  | .terminal key _ _ _ => some key
  | .terminalDelivered key _ _ _ => some key

structure AddsNothing (es : List (Entry V)) (entry : Entry V) (key : JsString) : Prop where
  acceptance : (es ++ [entry]).findSome? (Entry.acceptance key) = es.findSome? (Entry.acceptance key)
  dispatch : (es ++ [entry]).findSome? (dispatchOf key) = es.findSome? (dispatchOf key)
  terminal : (es ++ [entry]).findSome? (Entry.terminalOf key) = es.findSome? (Entry.terminalOf key)
  delivery : (es ++ [entry]).findSome? (deliveryOf key) = es.findSome? (deliveryOf key)

theorem addsNothing_of_ne (es : List (Entry V)) (h : entry.commandKey ≠ some key) : AddsNothing es entry key := by
  cases entry with
  | journal generation => exact ⟨findSome_concat_of_none rfl,findSome_concat_of_none rfl,
      findSome_concat_of_none rfl,findSome_concat_of_none rfl⟩
  | accepted key' _ _ _ _ _ =>
    have hne : key' ≠ key := fun hk => h (congrArg some hk)
    exact ⟨findSome_concat_of_none (if_neg hne),findSome_concat_of_none rfl,findSome_concat_of_none rfl,
      findSome_concat_of_none rfl⟩
  | dispatched key' _ _ =>
    have hne : key' ≠ key := fun hk => h (congrArg some hk)
    exact ⟨findSome_concat_of_none rfl,findSome_concat_of_none (if_neg hne),findSome_concat_of_none rfl,
      findSome_concat_of_none rfl⟩
  | terminal key' _ _ _ =>
    have hne : key' ≠ key := fun hk => h (congrArg some hk)
    exact ⟨findSome_concat_of_none rfl,findSome_concat_of_none rfl,findSome_concat_of_none (if_neg hne),
      findSome_concat_of_none rfl⟩
  | terminalDelivered key' _ _ _ =>
    have hne : key' ≠ key := fun hk => h (congrArg some hk)
    exact ⟨findSome_concat_of_none rfl,findSome_concat_of_none rfl,findSome_concat_of_none rfl,
      findSome_concat_of_none (if_neg hne)⟩

theorem AddsNothing.firstRecord_eq
    (h : AddsNothing es entry key) : firstRecord (es ++ [entry]) key = firstRecord es key := by
  rw [firstRecord,firstRecord,h.acceptance,h.dispatch,h.terminal,h.delivery]

/-- Nothing of a command comes before its acceptance. -/
def AcceptedFirst (es : List (Entry V)) (key : JsString) : Prop :=
  es.findSome? (Entry.acceptance key) = none →
    es.findSome? (dispatchOf key) = none ∧ es.findSome? (Entry.terminalOf key) = none ∧
      es.findSome? (deliveryOf key) = none

theorem AddsNothing.acceptedFirst
    (h : AddsNothing es entry key) (ha : AcceptedFirst es key) : AcceptedFirst (es ++ [entry]) key := by
  unfold AcceptedFirst
  rw [h.acceptance,h.dispatch,h.terminal,h.delivery]
  exact ha

/-- The reader has of every command the first entries. -/
structure Follows (parsed : Parsed V) (es : List (Entry V)) : Prop where
  generation : parsed.headerCount ≠ 0 → parsed.generation.isSome
  records : ∀ key, parsed.records.get key = firstRecord es key
  accepted : ∀ key, AcceptedFirst es key

theorem follows_empty : Follows (Parsed.empty : Parsed V) [] where
  generation h := absurd rfl h
  records _ := rfl
  accepted _ _ := ⟨rfl,rfl,rfl⟩

namespace Follows

variable {parsed : Parsed V} {es : List (Entry V)} {key : JsString} {record : Record V} {entry : Entry V}

/-- The first entries a record of the reader comes from. -/
theorem get_eq_some (h : Follows parsed es) (hget : parsed.records.get key = some record) :
    ∃ first, es.findSome? (Entry.acceptance key) = some first ∧ firstRecord es key = some record ∧
      (record.status = .terminal ↔ (es.findSome? (Entry.terminalOf key)).isSome) ∧
      (record.status = .accepted → es.findSome? (dispatchOf key) = none) ∧
      record.terminalDeliveryEventId.isSome = (es.findSome? (deliveryOf key)).isSome := by
  have hrecord := (h.records key).symm.trans hget
  obtain ⟨first,hfirst,hr⟩ := map_eq_some_iff.mp hrecord
  refine ⟨first,hfirst,hrecord,?_,?_,?_⟩
  · rw [← hr]
    cases es.findSome? (Entry.terminalOf key) with
    | some t => exact iff_of_true rfl rfl
    | none =>
      refine iff_of_false ?_ Bool.false_ne_true
      cases es.findSome? (dispatchOf key) <;> exact fun hs => by cases hs
  · rw [← hr]
    cases es.findSome? (dispatchOf key) with
    | none => exact fun _ => rfl
    | some at_ => cases es.findSome? (Entry.terminalOf key) <;> exact fun hs => by cases hs
  · rw [← hr]
    cases es.findSome? (deliveryOf key) <;> rfl

theorem same (h : Follows parsed es) (hrecords : parsed'.records = parsed.records)
    (hgeneration : parsed'.headerCount ≠ 0 → parsed'.generation.isSome)
    (hsame : ∀ key,AddsNothing es entry key) : Follows parsed' (es ++ [entry]) where
  generation := hgeneration
  records key := by rw [hrecords,h.records key,(hsame key).firstRecord_eq]
  accepted key := (hsame key).acceptedFirst (h.accepted key)

theorem put (h : Follows parsed es) {record' : Record V} (hkey : entry.commandKey = some key)
    (hfirst : firstRecord (es ++ [entry]) key = some record') :
    Follows { parsed with records := parsed.records.set key record' } (es ++ [entry]) where
  generation := h.generation
  records key' := by
    rw [InsertionMap.get_set]
    split
    · next hk => rw [hk,hfirst]
    · next hk =>
      have hne : entry.commandKey ≠ some key' := fun he => hk (some.inj (he.symm.trans hkey))
      rw [h.records key',(addsNothing_of_ne es hne).firstRecord_eq]
  accepted key' := by
    by_cases hk : key' = key
    · intro hnone
      rw [hk] at hnone
      rw [firstRecord,hnone] at hfirst
      cases hfirst
    · have hne : entry.commandKey ≠ some key' := fun he => hk (some.inj (he.symm.trans hkey))
      exact (addsNothing_of_ne es hne).acceptedFirst (h.accepted key')

/-- An entry that the reader already has changes nothing. -/
theorem repeats (h : Follows parsed es) (hr : parsed.shapes.Repeats entry) : Follows parsed (es ++ [entry]) := by
  refine h.same rfl h.generation (fun key => ?_)
  by_cases hk : entry.commandKey = some key
  · cases hr with
    | terminal hshape hs =>
      obtain ⟨record,hget,rfl⟩ := Parsed.get_of_shape hshape
      cases hk
      obtain ⟨_,-,-,hterminal,-,-⟩ := h.get_eq_some hget
      exact ⟨findSome_concat_of_none rfl,findSome_concat_of_none rfl,
        findSome_concat_of_some (hterminal.mp hs),findSome_concat_of_none rfl⟩
    | delivery hshape hd =>
      obtain ⟨record,hget,rfl⟩ := Parsed.get_of_shape hshape
      cases hk
      obtain ⟨_,-,-,-,-,hdelivery⟩ := h.get_eq_some hget
      exact ⟨findSome_concat_of_none rfl,findSome_concat_of_none rfl,findSome_concat_of_none rfl,
        findSome_concat_of_some (hdelivery.symm.trans hd)⟩
  · exact addsNothing_of_ne es hk

theorem readEntry_bound {line : ℕ}
    (hb : entry.binding = some (key,fingerprint)) (h : readEntry json protocol parsed line entry = .ok parsed') :
    ∃ record record', parsed.records.get key = some record ∧ transition record line entry = .ok record' ∧
      parsed' = { parsed with records := parsed.records.set key record' } := by
  cases entry with
  | journal | accepted => cases hb
  | dispatched _ _ _ | terminal _ _ _ _ | terminalDelivered _ _ _ _ =>
    cases hb
    simp only [readEntry,binding] at h
    split at h
    · cases h
    · next record hget =>
      split at h
      · cases h
      · obtain ⟨record',ht,h⟩ := bind_eq_ok.mp h
        cases h
        exact ⟨record,record',hget,ht,rfl⟩

theorem read (h : Follows parsed es) {line : ℕ}
    (hread : readEntry json protocol parsed line entry = .ok parsed') : Follows parsed' (es ++ [entry]) := by
  cases entry with
  | journal generation =>
    simp only [readEntry] at hread
    split at hread
    · cases hread
    · cases hread
      exact h.same rfl (fun _ => rfl) (fun key => addsNothing_of_ne es (fun he => by cases he))
  | accepted key fingerprint command roomId matrixEventId acceptedAt =>
    simp only [readEntry] at hread
    split at hread
    · cases hread
    · next hnew =>
      obtain ⟨_,-,hread⟩ := bind_eq_ok.mp hread
      cases hread
      have hget : parsed.records.get key = none := by
        cases hget : parsed.records.get key with
        | none => rfl
        | some record => exact absurd (by rw [InsertionMap.has,hget]; rfl) hnew
      have hnone : es.findSome? (Entry.acceptance key) = none := by
        rw [h.records key] at hget
        exact map_eq_none_iff.mp hget
      obtain ⟨hdispatch,hterminal,hdelivery⟩ := h.accepted key hnone
      refine h.put rfl ?_
      rw [firstRecord,findSome_concat_new hnone,findSome_concat_of_none (f := dispatchOf key) rfl,
        findSome_concat_of_none (f := Entry.terminalOf key) rfl,
        findSome_concat_of_none (f := deliveryOf key) rfl,hdispatch,hterminal,hdelivery]
      simp only [Entry.acceptance,if_true]
      rfl
  | dispatched key fingerprint dispatchedAt =>
    obtain ⟨record,record',hget,ht,rfl⟩ := readEntry_bound rfl hread
    obtain ⟨first,hfirst,hrecord,hterminal,hdispatch,-⟩ := h.get_eq_some hget
    simp only [transition] at ht
    split at ht
    · cases ht
    · next hs =>
      cases ht
      have hs : record.status = .accepted := not_not.mp hs
      refine h.put rfl ?_
      have hnone : es.findSome? (Entry.terminalOf key) = none := by
        by_contra hn
        have := hterminal.mpr (isSome_iff_ne_none.mpr hn)
        rw [hs] at this
        cases this
      rw [firstRecord,hfirst,hdispatch hs,hnone] at hrecord
      cases hrecord
      rw [firstRecord,findSome_concat_of_none (f := Entry.acceptance key) rfl,findSome_concat_new (hdispatch hs),
        findSome_concat_of_none (f := Entry.terminalOf key) rfl,
        findSome_concat_of_none (f := deliveryOf key) rfl,hfirst,hnone]
      simp only [dispatchOf,if_true]
      rfl
  | terminal key fingerprint terminalAt outcome =>
    obtain ⟨record,record',hget,ht,rfl⟩ := readEntry_bound rfl hread
    obtain ⟨first,hfirst,hrecord,hterminal,-,-⟩ := h.get_eq_some hget
    simp only [transition] at ht
    split at ht
    · cases ht
    · next hs =>
      cases ht
      refine h.put rfl ?_
      have hnone : es.findSome? (Entry.terminalOf key) = none := by
        by_contra hn
        exact hs (hterminal.mpr (isSome_iff_ne_none.mpr hn))
      rw [firstRecord,hfirst,hnone] at hrecord
      cases hrecord
      rw [firstRecord,findSome_concat_of_none (f := Entry.acceptance key) rfl,findSome_concat_new hnone,
        findSome_concat_of_none (f := dispatchOf key) rfl,
        findSome_concat_of_none (f := deliveryOf key) rfl,hfirst]
      simp only [Entry.terminalOf,if_true]
      rfl
  | terminalDelivered key fingerprint matrixEventId deliveredAt =>
    obtain ⟨record,record',hget,ht,rfl⟩ := readEntry_bound rfl hread
    obtain ⟨first,hfirst,hrecord,-,-,hdelivery⟩ := h.get_eq_some hget
    simp only [transition] at ht
    split at ht
    · cases ht
    · next hs =>
      cases ht
      refine h.put rfl ?_
      have hnone : es.findSome? (deliveryOf key) = none := by
        by_contra hn
        exact hs (.inr (hdelivery.trans (isSome_iff_ne_none.mpr hn)))
      rw [firstRecord,hfirst,hnone] at hrecord
      cases hrecord
      rw [firstRecord,findSome_concat_of_none (f := Entry.acceptance key) rfl,findSome_concat_new hnone,
        findSome_concat_of_none (f := dispatchOf key) rfl,
        findSome_concat_of_none (f := Entry.terminalOf key) rfl,hfirst]
      simp only [deliveryOf,if_true]
      rfl

end Follows

private theorem parseBoundEntry_line {value : V} {kind : Option JsString}
    {line : ℕ} (h : parseBoundEntry json protocol value kind key fingerprint line = .ok entry)
    (line' : ℕ) : parseBoundEntry json protocol value kind key fingerprint line' = .ok entry := by
  unfold parseBoundEntry at h ⊢
  split at h
  · next hk =>
    rw [if_pos hk]
    cases ha : integerField json value "acceptedAt" with
    | none => simp [ha] at h
    | some acceptedAt =>
      cases hc : (json.field value "command").bind protocol.commandSchema with
      | none => simp [ha,hc] at h
      | some command => simpa only [ha,hc] using h
  · next hk =>
    rw [if_neg hk]
    split at h
    · next hk =>
      rw [if_pos hk]
      cases hd : integerField json value "dispatchedAt" with
      | none => simp [hd] at h
      | some dispatchedAt => simpa only [hd] using h
    · next hk =>
      rw [if_neg hk]
      split at h
      · next hk =>
        rw [if_pos hk]
        cases ht : integerField json value "terminalAt" with
        | none => simp [ht] at h
        | some terminalAt =>
          cases ho : json.field value "terminal" with
          | none => simp [ht,ho] at h
          | some terminal =>
            rcases hi : isMlp3CommandTerminal json protocol terminal with _ | _ | _
            · simp [ht,ho,hi] at h
            · simp [ht,ho,hi] at h
            · simpa only [ht,ho,hi] using h
      · next hk =>
        rw [if_neg hk]
        split at h
        · next hk =>
          rw [if_pos hk]
          cases hd : integerField json value "deliveredAt" with
          | none => simp [hd] at h
          | some deliveredAt =>
            cases hm : filledField json value "matrixEventId" with
            | none => simp [hd,hm] at h
            | some matrixEventId => simpa only [hd,hm] using h
        · cases h

variable {line : List Char} {number : ℕ}

theorem readLine_line (h : readLine json protocol line number = .ok entry) (number' : ℕ) :
    readLine json protocol line number' = .ok entry := by
  unfold readLine at h ⊢
  cases hp : json.parse line with
  | none => simp [hp] at h
  | some value =>
    simp only [hp] at h ⊢
    unfold parseMlp3CommandJournalEntry at h ⊢
    split at h
    · cases h
    · next ho =>
      rw [if_neg ho]
      split at h
      · cases h
      · next hv =>
        rw [if_neg hv]
        simp only at h ⊢
        split at h
        · next hk =>
          rw [if_pos hk]
          cases hg : filledField json value "generation" with
          | none => simp [hg] at h
          | some generation => simpa only [hg] using h
        · next hk =>
          rw [if_neg hk]
          cases hkey : filledField json value "key" with
          | none => simp [hkey] at h
          | some key =>
            cases hf : filledField json value "fingerprint" with
            | none => simp [hkey,hf] at h
            | some fingerprint =>
              simp only [hkey,hf] at h ⊢
              exact parseBoundEntry_line h number'

/-- What the planner has reached on the whole text, and the reader and the planner on what is kept of it. -/
structure Repairs (replay : Replay V) (parsed : Parsed V) (clean : Replay V) (es : List (Entry V)) : Prop where
  parsed_shapes : parsed.shapes = replay.shapes
  clean_shapes : clean.shapes = replay.shapes
  removedLines : clean.removedLines = []
  duplicateTerminals : clean.duplicateTerminals = []
  follows : Follows parsed es

theorem repairs_empty : Repairs (Replay.empty : Replay V) Parsed.empty Replay.empty [] :=
  ⟨rfl,rfl,rfl,rfl,follows_empty⟩

theorem Repairs.kept (h : Repairs replay parsed clean es)
    (hn : replay.shapes.Next json protocol entry replay'.shapes) (number : ℕ) :
    ∃ parsed' clean', readEntry json protocol parsed number entry = .ok parsed' ∧
      replayEntry json protocol clean number entry = .ok clean' ∧ Repairs replay' parsed' clean' (es ++ [entry]) := by
  obtain ⟨parsed',hread,hparsed⟩ := readEntry_of_next (h.parsed_shapes ▸ hn) number
  obtain ⟨clean',hplan,hclean,hremoved,hduplicates⟩ := replayEntry_of_next (h.clean_shapes ▸ hn) number
  exact ⟨parsed',clean',hread,hplan,hparsed,hclean,hremoved.trans h.removedLines,
    hduplicates.trans h.duplicateTerminals,h.follows.read hread⟩

theorem Repairs.removed (h : Repairs replay parsed clean es) (hr : replay.shapes.Repeats entry)
    (hshapes : replay'.shapes = replay.shapes) : Repairs replay' parsed clean (es ++ [entry]) where
  parsed_shapes := h.parsed_shapes.trans hshapes.symm
  clean_shapes := h.clean_shapes.trans hshapes.symm
  removedLines := h.removedLines
  duplicateTerminals := h.duplicateTerminals
  follows := h.follows.repeats (h.parsed_shapes ▸ hr)

variable {lines : List (List Char)} {σ : Type}

theorem overLines_cons {step : σ → ℕ → Entry V → Except TextError σ} {state state' : σ}
    (h : overLines json protocol step state number (line :: lines) = .ok state') :
    (isBlank line ∧ overLines json protocol step state (number + 1) lines = .ok state') ∨
      (isBlank line = false ∧ ∃ entry next,readLine json protocol line number = .ok entry ∧
        step state number entry = .ok next ∧ overLines json protocol step next (number + 1) lines = .ok state') := by
  rw [overLines] at h
  split at h
  · next hblank => exact .inl ⟨hblank,h⟩
  · next hblank =>
    obtain ⟨entry,hentry,h⟩ := bind_eq_ok.mp h
    obtain ⟨next,hstep,h⟩ := bind_eq_ok.mp h
    exact .inr ⟨Bool.eq_false_iff.mpr hblank,entry,next,hentry,hstep,h⟩

theorem overLines_blank (hb : isBlank line) : overLines json protocol step state number (line :: lines) =
      overLines json protocol step state (number + 1) lines := by
  rw [overLines,if_pos hb]

theorem overLines_entry {step : σ → ℕ → Entry V → Except TextError σ} {state next : σ} {entry : Entry V}
    (hb : isBlank line = false) (hr : readLine json protocol line number = .ok entry)
    (hs : step state number entry = .ok next) :
    overLines json protocol step state number (line :: lines) =
      overLines json protocol step next (number + 1) lines := by
  rw [overLines,if_neg (Bool.eq_false_iff.mp hb),hr,ok_bind,hs,ok_bind]

/-- The lines a replay goes on to remove are the lines it goes on to read. -/
theorem removedLines_of_run
    (h : overLines json protocol (replayEntry json protocol) replay number lines = .ok replay') :
    ∃ ns, replay'.removedLines = replay.removedLines ++ ns ∧ ∀ n ∈ ns, number ≤ n := by
  induction lines generalizing replay number with
  | nil =>
    cases h
    exact ⟨[],(append_nil _).symm,by simp⟩
  | cons line lines ih =>
    rcases overLines_cons h with ⟨-,h⟩ | ⟨-,entry,next,-,hstep,h⟩
    · obtain ⟨ns,hns,hle⟩ := ih h
      exact ⟨ns,hns,fun n hn => Nat.le_of_succ_le (hle n hn)⟩
    · obtain ⟨ns,hns,hle⟩ := ih h
      rcases replayEntry_cases hstep with ⟨-,hremoved⟩ | ⟨-,-,hremoved⟩
      · exact ⟨ns,hns.trans (by rw [hremoved]),fun n hn => Nat.le_of_succ_le (hle n hn)⟩
      · refine ⟨number :: ns,hns.trans (by rw [hremoved,append_assoc,singleton_append]),?_⟩
        intro n hn
        rcases mem_cons.mp hn with rfl | hn
        · exact le_rfl
        · exact Nat.le_of_succ_le (hle n hn)

theorem entriesOf_blank (hb : isBlank line) (lines : List (List Char)) :
    entriesOf json protocol (line :: lines) = entriesOf json protocol lines := by
  rw [entriesOf,entriesOf,filterMap_cons,if_pos hb]

theorem entriesOf_entry (hb : isBlank line = false)
    (hr : readLine json protocol line number = .ok entry) (lines : List (List Char)) :
    entriesOf json protocol (line :: lines) = entry :: entriesOf json protocol lines := by
  rw [entriesOf,entriesOf,filterMap_cons,if_neg (Bool.eq_false_iff.mp hb),readLine_line hr 0]
  rfl

/-- On the lines that are kept, the reader and the planner go where the first replay went. -/
theorem repairs_run (removed : List ℕ) (kept : ℕ) (h : Repairs replay parsed clean es)
    (hrun : overLines json protocol (replayEntry json protocol) replay number lines = .ok replay')
    (hlt : ∀ n ∈ replay.removedLines,n < number) (hremoved : ∀ n,n ∈ removed ↔ n ∈ replay'.removedLines) :
    ∃ parsed' clean',
      overLines json protocol (readEntry json protocol) parsed kept (keepLines removed number lines) = .ok parsed' ∧
      overLines json protocol (replayEntry json protocol) clean kept (keepLines removed number lines) = .ok clean' ∧
      Repairs replay' parsed' clean' (es ++ entriesOf json protocol lines) := by
  induction lines generalizing replay parsed clean es number kept with
  | nil =>
    cases hrun
    exact ⟨parsed,clean,rfl,rfl,by rw [entriesOf,filterMap_nil,append_nil]; exact h⟩
  | cons line lines ih =>
    have hkept {next : Replay V} (hnext : next.removedLines = replay.removedLines)
        (hrun : overLines json protocol (replayEntry json protocol) next (number + 1) lines = .ok replay') :
        number ∉ removed := by
      intro hmem
      obtain ⟨ns,hns,hle⟩ := removedLines_of_run hrun
      rw [hremoved,hns,hnext] at hmem
      rcases mem_append.mp hmem with hmem | hmem
      · exact absurd (hlt number hmem) (Nat.lt_irrefl _)
      · exact absurd (hle number hmem) (Nat.not_succ_le_self _)
    have hlt' : ∀ n ∈ replay.removedLines,n < number + 1 := fun n hn => Nat.lt_succ_of_lt (hlt n hn)
    rcases overLines_cons hrun with ⟨hblank,hrun⟩ | ⟨hblank,entry,next,hentry,hstep,hrun⟩
    · rw [keepLines,if_neg (hkept rfl hrun),overLines_blank hblank,overLines_blank hblank,entriesOf_blank hblank]
      exact ih (kept + 1) h hrun hlt'
    · rw [entriesOf_entry hblank hentry,append_cons]
      rcases replayEntry_cases hstep with ⟨hn,hsame⟩ | ⟨hr,hshapes,hmore⟩
      · obtain ⟨parsed',clean',hread,hplan,h⟩ := h.kept hn kept
        have hentry' := readLine_line hentry kept
        rw [keepLines,if_neg (hkept hsame hrun),overLines_entry hblank hentry' hread,
          overLines_entry hblank hentry' hplan]
        exact ih (kept + 1) h hrun (hsame ▸ hlt')
      · have hmem : number ∈ removed := by
          obtain ⟨ns,hns,-⟩ := removedLines_of_run hrun
          rw [hremoved,hns,hmore]
          simp
        rw [keepLines,if_pos hmem]
        refine ih kept (h.removed hr hshapes) hrun (fun n hn => ?_)
        rw [hmore] at hn
        rcases mem_append.mp hn with hn | hn
        · exact hlt' n hn
        · exact mem_singleton.mp hn ▸ Nat.lt_succ_self number

/-- A line, or the line without the carriage return that the text now has before its line break. -/
def SameLine (line line' : List Char) : Prop := line = line' ∨ line = line' ++ ['\r']

theorem SameLine.cons (h : SameLine line line') (c : Char) : SameLine (c :: line) (c :: line') := by
  rcases h with rfl | rfl
  · exact .inl rfl
  · exact .inr rfl

theorem SameLine.isBlank_eq (h : SameLine line line') : isBlank line = isBlank line' := by
  rcases h with rfl | rfl
  · rfl
  · rw [isBlank,all_append,← isBlank]
    exact Bool.and_true _

theorem SameLine.readLine_eq (h : SameLine line line') (number : ℕ) :
    readLine json protocol line number = readLine json protocol line' number := by
  rcases h with rfl | rfl
  · rfl
  · rw [readLine,readLine,json.parse_return]

theorem overLines_sameLines {lines lines' : List (List Char)} (h : List.Forall₂ SameLine lines lines') :
    overLines json protocol step state number lines = overLines json protocol step state number lines' := by
  induction h generalizing state number with
  | nil => rfl
  | cons hline _ ih =>
    rw [overLines,overLines,hline.isBlank_eq,hline.readLine_eq number]
    simp only [ih]

theorem splitLines_ne_nil (text : List Char) : splitLines text ≠ [] := by
  fun_cases splitLines text <;> exact cons_ne_nil _ _

theorem splitLines_cons {c : Char} {text : List Char} (hc : c ≠ '\n') (hr : c = '\r' → text.head? ≠ some '\n')
    (h : splitLines text = line :: lines) : splitLines (c :: text) = (c :: line) :: lines := by
  rw [splitLines.eq_def]
  split
  · next hs => cases hs
  · next hs =>
    cases hs
    exact absurd rfl hc
  · next hs =>
    cases hs
    exact absurd rfl (hr rfl)
  · next hs =>
    cases hs
    rw [h]

theorem not_mem_splitLines {text : List Char} (h : line ∈ splitLines text) : '\n' ∉ line := by
  induction text using splitLines.induct generalizing line with
  | case1 =>
    rw [mem_singleton.mp h]
    exact not_mem_nil
  | case2 s ih =>
    rcases mem_cons.mp h with rfl | h
    · exact not_mem_nil
    · exact ih h
  | case3 s ih =>
    rcases mem_cons.mp h with rfl | h
    · exact not_mem_nil
    · exact ih h
  | case4 c s hn hr hs ih => exact absurd hs (splitLines_ne_nil s)
  | case5 c s hn hr l ls hs ih =>
    have hc : c ≠ '\n' := fun he => hn he
    rw [splitLines_cons hc (fun he => ?_) hs] at h
    · rcases mem_cons.mp h with rfl | h
      · intro hmem
        rcases mem_cons.mp hmem with he | hmem
        · exact hc he.symm
        · exact ih (by rw [hs]; exact mem_cons_self) hmem
      · exact ih (by rw [hs]; exact mem_cons_of_mem _ h)
    · cases s with
      | nil => exact fun hh => by cases hh
      | cons d s =>
        intro hh
        exact hr s he (congrArg (· :: s) (some.inj hh))

theorem splitLines_concat (hline : '\n' ∉ line) (text : List Char) :
    ∃ line', SameLine line line' ∧ splitLines (line ++ '\n' :: text) = line' :: splitLines text := by
  induction line with
  | nil => exact ⟨[],.inl rfl,by rw [nil_append,splitLines]⟩
  | cons c line ih =>
    obtain ⟨hc,hline⟩ := ne_and_not_mem_of_not_mem_cons hline
    by_cases hr : c = '\r' ∧ line = []
    · obtain ⟨rfl,rfl⟩ := hr
      exact ⟨[],.inr rfl,by rw [singleton_append,splitLines]⟩
    · obtain ⟨line',hsame,hsplit⟩ := ih hline
      refine ⟨c :: line',hsame.cons c,splitLines_cons (Ne.symm hc) (fun he hhead => ?_) hsplit⟩
      cases line with
      | nil => exact hr ⟨he,rfl⟩
      | cons d line =>
        cases hhead
        exact hline mem_cons_self

theorem splitLines_of_not_mem (hline : '\n' ∉ line) : splitLines line = [line] := by
  induction line with
  | nil => rfl
  | cons c line ih =>
    obtain ⟨hc,hline⟩ := ne_and_not_mem_of_not_mem_cons hline
    refine splitLines_cons (Ne.symm hc) (fun _ hhead => ?_) (ih hline)
    exact hline (mem_of_mem_head? hhead)

/-- The lines of a text that was joined are the lines that were joined. -/
theorem splitLines_joinLines (hne : lines ≠ []) (h : ∀ line ∈ lines,'\n' ∉ line) :
    List.Forall₂ SameLine lines (splitLines (joinLines lines)) := by
  induction lines with
  | nil => exact absurd rfl hne
  | cons line lines ih =>
    have hline := h line mem_cons_self
    cases lines with
    | nil =>
      rw [joinLines,splitLines_of_not_mem hline]
      exact .cons (.inl rfl) .nil
    | cons line₂ lines =>
      obtain ⟨line',hsame,hsplit⟩ := splitLines_concat hline (joinLines (line₂ :: lines))
      rw [joinLines,hsplit]
      · exact .cons hsame (ih (cons_ne_nil _ _) (fun l hl => h l (mem_cons_of_mem _ hl)))
      · exact cons_ne_nil _ _

theorem overLines_joinLines (h : ∀ line ∈ lines,'\n' ∉ line) :
    overLines json protocol step state number (splitLines (joinLines lines)) =
      overLines json protocol step state number lines := by
  cases lines with
  | nil => rfl
  | cons line lines => exact (overLines_sameLines (splitLines_joinLines (cons_ne_nil _ _) h)).symm

theorem mem_keepLines {removed : List ℕ} (h : line ∈ keepLines removed number lines) : line ∈ lines := by
  induction lines generalizing number with
  | nil => exact h
  | cons l lines ih =>
    rw [keepLines] at h
    split at h
    · exact mem_cons_of_mem _ (ih h)
    · rcases mem_cons.mp h with rfl | h
      · exact mem_cons_self
      · exact mem_cons_of_mem _ (ih h)

theorem exists_of_commandKey (h : Follows parsed es) (hmem : entry ∈ es) (hkey : entry.commandKey = some key) :
    ∃ record, parsed.records.get key = some record := by
  refine ne_none_iff_exists'.mp (fun hnone => ?_)
  rw [h.records key] at hnone
  have hacceptance : es.findSome? (Entry.acceptance key) = none := map_eq_none_iff.mp hnone
  obtain ⟨hdispatch,hterminal,hdelivery⟩ := h.accepted key hacceptance
  rw [findSome?_eq_none_iff] at hacceptance hdispatch hterminal hdelivery
  cases entry with
  | journal generation => cases hkey
  | accepted =>
    cases hkey
    exact absurd ((if_pos rfl).symm.trans (hacceptance _ hmem)) (some_ne_none _)
  | dispatched =>
    cases hkey
    exact absurd ((if_pos rfl).symm.trans (hdispatch _ hmem)) (some_ne_none _)
  | terminal =>
    cases hkey
    exact absurd ((if_pos rfl).symm.trans (hterminal _ hmem)) (some_ne_none _)
  | terminalDelivered =>
    cases hkey
    exact absurd ((if_pos rfl).symm.trans (hdelivery _ hmem)) (some_ne_none _)

variable (json protocol)

/-- A repaired journal is accepted, has of every command of the journal what came first, and needs no other
repair. -/
theorem repair_accepted {text : List Char} {plan : RepairPlan}
    (h : planMlp3CommandJournalRepair json protocol text = .ok plan) :
    (∃ journal,parseMlp3CommandJournal json protocol (repairedText text plan) = .ok journal ∧
      (∀ key,journal.records.get key = firstRecord (entriesOf json protocol (splitLines text)) key) ∧
      ∀ entry ∈ entriesOf json protocol (splitLines text),∀ key,entry.commandKey = some key →
        ∃ record,journal.records.get key = some record) ∧
    planMlp3CommandJournalRepair json protocol (repairedText text plan) =
      .ok ⟨(splitLines (repairedText text plan)).length,[],[]⟩ := by
  obtain ⟨replay,hrun,hplan⟩ := bind_eq_ok.mp h
  split at hplan
  · cases hplan
  next hheaders =>
  have hheaders : replay.headers = 1 := not_not.mp hheaders
  cases hplan
  obtain ⟨parsed,clean,hread,hclean,hrepairs⟩ := repairs_run
    (replay.removedLines.insertionSort (· ≤ ·)) 1 repairs_empty hrun
    (fun n hn => by cases hn) (fun n => (perm_insertionSort _ _).mem_iff)
  have hlines : ∀ line ∈ keepLines (replay.removedLines.insertionSort (· ≤ ·)) 1 (splitLines text),'\n' ∉ line :=
    fun line hline => not_mem_splitLines (mem_keepLines hline)
  rw [← overLines_joinLines hlines] at hread hclean
  have hcount : parsed.headerCount = 1 := by
    have hheader := congrArg Shapes.headers hrepairs.parsed_shapes
    exact hheader.trans hheaders
  constructor
  · obtain ⟨generation,hgeneration⟩ := isSome_iff_exists.mp
      (hrepairs.follows.generation (by rw [hcount]; exact Nat.one_ne_zero))
    refine ⟨⟨generation,parsed.records⟩,?_,hrepairs.follows.records,fun entry hmem key hkey => ?_⟩
    · refine bind_eq_ok.mpr ⟨parsed,hread,?_⟩
      rw [hgeneration]
    · exact exists_of_commandKey hrepairs.follows hmem hkey
  · refine bind_eq_ok.mpr ⟨clean,hclean,?_⟩
    have hone : clean.headers = 1 := by
      have hheader := congrArg Shapes.headers hrepairs.clean_shapes
      exact hheader.trans hheaders
    rw [if_neg (not_not_intro hone),hrepairs.removedLines,hrepairs.duplicateTerminals]
    rfl

def overValues {σ : Type} (step : σ → ℕ → Entry V → Except TextError σ) (state : σ) (number : ℕ) :
    List V → Except TextError σ
  | [] => .ok state
  | value :: values => do
    let entry ← parseMlp3CommandJournalEntry json protocol value number
    let next ← step state number entry
    overValues step next (number + 1) values

theorem stripReturns_stringify (value : Json) : stripReturns (stringify value) = stringify value := by
  rw [stripReturns]
  cases hs : (stringify value).reverse with
  | nil => rw [dropWhile_nil,← hs,reverse_reverse]
  | cons c cs =>
    have hc : c ∈ stringify value := by
      rw [← mem_reverse,hs]
      exact mem_cons_self
    have hle := Json.le_toNat_stringify value hc
    have hne : ¬ decide (c = '\r') := by
      rw [decide_eq_true_iff]
      intro he
      rw [he] at hle
      exact absurd hle (by decide)
    rw [dropWhile_cons,if_neg hne,← hs,reverse_reverse]

theorem isBlank_stringify_obj (members : List (JsString × Json)) : isBlank (stringify (.obj members)) = false := by
  rw [stringify]
  rfl

theorem overLines_stringify {protocol : Protocol Json} {step : σ → ℕ → Entry Json → Except TextError σ} {state : σ}
    (objects : List (List (JsString × Json))) :
    overLines wholeJson protocol step state number
        (splitLines (joinLines (objects.map fun members => stringify (.obj members)))) =
      overValues wholeJson protocol step state number (objects.map .obj) := by
  rw [overLines_joinLines]
  · induction objects generalizing state number with
    | nil => rfl
    | cons members objects ih =>
      rw [map_cons,overLines,if_neg (Bool.eq_false_iff.mp (isBlank_stringify_obj members)),readLine]
      have hparse : wholeJson.parse (stringify (.obj members)) = some (.obj members) :=
        (congrArg Json.parse (stripReturns_stringify _)).trans (Json.parse_stringify _)
      simp only [hparse,ih]
      rfl
  · intro line hline hmem
    obtain ⟨members,-,rfl⟩ := mem_map.mp hline
    exact absurd (Json.le_toNat_stringify _ hmem) (by decide)

def sampleCommand : Json :=
  .obj [("certificateId",.str "r"),("commandId",.str "c"),("createdAt",.num 0),("deviceId",.str "d"),
    ("kind",.str "malink.command"),("operation",.str "project.delete"),
    ("payload",.obj [("operation",.str "project.delete")]),("projectId",.str "p"),("version",.num 3),
    ("workspaceId",.str "w")]

def sampleProtocol : Protocol Json where
  commandSchema value := some value
  isTerminalEvent _ := false
  sha256 _ := "ef572edf1fb3702a4444a377f90adfad410b07d34e7b845586f2ec96b2abfea8"

def sampleEntry (kind : JsString) (members : List (JsString × Json)) : List (JsString × Json) :=
  ("version",.num 3) :: ("kind",.str kind) :: ("key",.str (mlp3CommandKey wholeJson sampleCommand)) ::
    ("fingerprint",.str "v3:ef572edf1fb3702a4444a377f90adfad410b07d34e7b845586f2ec96b2abfea8") :: members

/-- A command that succeeded, and then failed in a process that did not know of it. -/
def sampleEntries : List (List (JsString × Json)) :=
  [[("version",.num 3),("kind",.str "journal"),("generation",.str "g")],
    sampleEntry "accepted" [("command",sampleCommand),("acceptedAt",.num 1)],
    sampleEntry "terminal" [("terminalAt",.num 2),
      ("terminal",.obj [("outcome",.str "succeeded"),("eventId",.str "e")])],
    sampleEntry "terminal_delivered" [("matrixEventId",.str "m"),("deliveredAt",.num 3)],
    sampleEntry "terminal" [("terminalAt",.num 4),("terminal",.obj [("outcome",.str "failed"),("eventId",.str "f")])]]

def sampleText : List Char := joinLines (sampleEntries.map fun members => stringify (.obj members))

set_option maxRecDepth 100000 in
theorem overValues_sample : (overValues wholeJson sampleProtocol (replayEntry wholeJson sampleProtocol) Replay.empty 1
      (sampleEntries.map .obj)).toOption.any
        (fun replay => decide (replay.headers = 1 ∧ replay.removedLines = [5])) := by
  decide

theorem planMlp3CommandJournalRepair_sample :
    ∃ plan, planMlp3CommandJournalRepair wholeJson sampleProtocol sampleText = .ok plan ∧
      plan.removedLines = [5] := by
  obtain ⟨replay,hrun,hreplay⟩ := eq_ok_of_toOption_any overValues_sample
  obtain ⟨hheaders,hremoved⟩ := of_decide_eq_true hreplay
  rw [← overLines_stringify] at hrun
  refine ⟨_,bind_eq_ok.mpr ⟨replay,hrun,if_neg (not_not_intro hheaders)⟩,?_⟩
  simp only [hremoved]
  rfl

theorem repair_accepted_sample :
    ∃ plan, planMlp3CommandJournalRepair wholeJson sampleProtocol sampleText = .ok plan ∧
      (∃ journal,parseMlp3CommandJournal wholeJson sampleProtocol (repairedText sampleText plan) = .ok journal) ∧
      planMlp3CommandJournalRepair wholeJson sampleProtocol (repairedText sampleText plan) =
        .ok ⟨(splitLines (repairedText sampleText plan)).length,[],[]⟩ := by
  obtain ⟨plan,hplan,-⟩ := planMlp3CommandJournalRepair_sample
  obtain ⟨⟨journal,hjournal,-⟩,hagain⟩ := repair_accepted wholeJson sampleProtocol hplan
  exact ⟨plan,hplan,⟨journal,hjournal⟩,hagain⟩

end Malink.Gateway.JournalText
