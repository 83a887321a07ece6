import Malink.ClientSettling

/-!
# Keys that arrive late

An event whose key is missing is quarantined and gets one retry in a process. A grant with its key unlocks
it exactly when that retry was not spent before the grant.
-/

namespace Malink.Client

open Malink.Mlp3

namespace State

variable {host : ClientHost} {s s' m : State} {raw : RawEvent} {outcome : RawOutcome}

/-- A call of the sync layer. -/
inductive Request
  | ingest (raw : RawEvent)
  | acceptKeyGrant (grant : ProjectKeyGrant)
  | drainInbox
  deriving DecidableEq

def Request.action : Request → Action
  | .ingest raw => .ingest raw
  | .acceptKeyGrant grant => .acceptKeyGrant grant
  | .drainInbox => .drainInbox

def Awaited (host : ClientHost) (s : State) (request : Request) (s' : State) : Prop :=
  ∃ m, s.step host request.action = some m ∧ Settles host m s'

/-- A sequence of awaited calls, each with the state that it ends in. -/
def Sequence (host : ClientHost) (s : State) : List (Request × State) → Prop
  | [] => True
  | (request,s') :: rest => Awaited host s request s' ∧ Sequence host s' rest

def last (s : State) : List (Request × State) → State
  | [] => s
  | (_,s') :: rest => s'.last rest

/-- An event that is projected: its record has left the inbox, and its identifier is seen. -/
structure Projected (raw : RawEvent) (outcome : RawOutcome) (s : State) : Prop where
  inbox : s.store.inbox.get raw.eventId = none
  seen : ∀ id, (Delivery.mk outcome raw.eventId raw.timestamp).logicalId = some id →
    s.projection.seenLogicalEvents.has id

/-- Whether the projection accepts an event that opens. It refuses a workspace snapshot that contradicts a
release of the native client. -/
def accepts (host : ClientHost) (s : State) (raw : RawEvent) (outcome : RawOutcome) : Bool :=
  ((Delivery.mk outcome raw.eventId raw.timestamp).apply host s.projection).isSome

/-- Whether the projection accepted the event when the inbox last took it, if it did. -/
def lastAccepted (host : ClientHost) (raw : RawEvent) (outcome : RawOutcome) (s : State) :
    List (Request × State) → Option Bool
  | [] => none
  | (request,s') :: rest =>
    (lastAccepted host raw outcome s' rest).or
      (if request = .ingest raw ∧ s.takes raw.eventId then some (s.accepts host raw outcome) else none)

/-- Every delivery of a sequence under the ID of an event is of that event. -/
def Identified (raw : RawEvent) (sequence : List (Request × State)) : Prop :=
  ∀ e ∈ sequence, ∀ raw', e.1 = .ingest raw' → raw'.eventId = raw.eventId → raw' = raw

/-- Every grant of a sequence opens an event to the same outcome. -/
def Opens (host : ClientHost) (raw : RawEvent) (outcome : RawOutcome) (sequence : List (Request × State)) :
    Prop :=
  ∀ e ∈ sequence, ∀ grant, e.1 = .acceptKeyGrant grant → openRaw host (some grant) raw = outcome

/-- A client between two calls, whose inbox holds an event as it was delivered. -/
structure Between (raw : RawEvent) (s : State) : Prop where
  quiet : s.Quiet
  keyed : s.Keyed
  same : ∀ record, s.store.inbox.get raw.eventId = some record → record.raw = raw

theorem Between.takenRaw (hb : s.Between raw) : s.takenRaw raw = raw := by
  unfold State.takenRaw
  cases hget : s.store.inbox.get raw.eventId with
  | none => rfl
  | some record => exact hb.same record hget

/-- What a call leaves alone when the inbox does not take the event in it. -/
structure Untouched (raw : RawEvent) (s s' : State) : Prop where
  row : s'.store.inbox.get raw.eventId = s.store.inbox.get raw.eventId
  retried : raw.eventId ∈ s'.retriedQuarantinedEventIds ↔ raw.eventId ∈ s.retriedQuarantinedEventIds
  seen : Projection.SeenIn s.projection s'.projection

theorem Untouched.takes (h : Untouched raw s s') : s'.takes raw.eventId = s.takes raw.eventId := by
  have hcontains : s'.retriedQuarantinedEventIds.contains raw.eventId =
      s.retriedQuarantinedEventIds.contains raw.eventId := by
    rw [Bool.eq_iff_iff,List.contains_iff_mem,List.contains_iff_mem]
    exact h.retried
  unfold State.takes
  rw [h.row,hcontains]

theorem Untouched.between (h : Untouched raw s s') (hb : s.Between raw) (hq : s'.Quiet) (hk : s'.Keyed) :
    s'.Between raw :=
  ⟨hq,hk,fun record hget => hb.same record (h.row ▸ hget)⟩

theorem Ignored.untouched (h : Ignored s s') : Untouched raw s s' :=
  ⟨by rw [h.store],by rw [h.retried],.of_eq (by rw [h.projection])⟩

theorem Ignored.keyed (h : Ignored s s') (hk : s.Keyed) : s'.Keyed := by
  intro k record hget
  rw [h.store] at hget
  exact hk k record hget

theorem Took.untouched {other : RawEvent} (h : Took host other s s') (hne : raw.eventId ≠ other.eventId) :
    Untouched raw s s' := by
  refine ⟨h.others _ hne,h.retried _ hne,?_⟩
  have hp := h.processed
  split at hp
  · next heq =>
    rw [hp.1]
    exact seenIn_apply heq
  · exact .of_eq (by rw [hp.1])

theorem Awaited.untouched {request : Request} (hb : s.Between raw) (h : Awaited host s request s')
    (hid : ∀ raw',request = .ingest raw' → raw'.eventId = raw.eventId → raw' = raw)
    (ht : ¬ (request = .ingest raw ∧ raw.roomId = host.roomId ∧ s.takes raw.eventId)) :
    Untouched raw s s' ∧ s'.Keyed ∧
      ((∃ grant,request = .acceptKeyGrant grant ∧ s'.keyGrant = some grant) ∨
        ((∀ grant,request ≠ .acceptKeyGrant grant) ∧ s'.keyGrant = s.keyGrant)) := by
  obtain ⟨m,hstep,hsettles⟩ := h
  cases request with
  | acceptKeyGrant grant =>
    cases hstep
    have he := hsettles.stay ⟨hb.quiet.calls,hb.quiet.drains,hb.quiet.worker,hb.quiet.saves,hb.quiet.saving,
      hb.quiet.inbox⟩
    subst he
    exact ⟨⟨rfl,Iff.rfl,.of_eq rfl⟩,hb.keyed,.inl ⟨grant,rfl,rfl⟩⟩
  | drainInbox =>
    cases hstep
    have hignored := drainInbox_ignored hb.quiet hsettles
    exact ⟨hignored.untouched,hignored.keyed hb.keyed,.inr ⟨nofun,hignored.keyGrant⟩⟩
  | ingest raw' =>
    cases hstep
    by_cases hroom : raw'.roomId = host.roomId
    · cases htakes : s.takes raw'.eventId with
      | false =>
        have hignored := ingest_ignored hb.quiet (.inr htakes) hsettles
        exact ⟨hignored.untouched,hignored.keyed hb.keyed,.inr ⟨nofun,hignored.keyGrant⟩⟩
      | true =>
        obtain ⟨htook,he⟩ := ingest_taken hb.quiet hb.keyed hroom htakes hsettles
        have hne : raw.eventId ≠ (s.takenRaw raw').eventId := by
          rw [he]
          intro heq
          have hraw := hid raw' rfl heq.symm
          subst hraw
          exact ht ⟨rfl,hroom,htakes⟩
        exact ⟨htook.untouched hne,htook.keyed hb.keyed,.inr ⟨nofun,htook.keyGrant⟩⟩
    · have hignored := ingest_ignored hb.quiet (.inl hroom) hsettles
      exact ⟨hignored.untouched,hignored.keyed hb.keyed,.inr ⟨nofun,hignored.keyGrant⟩⟩

theorem Awaited.took (hb : s.Between raw) (h : Awaited host s (.ingest raw) s')
    (hroom : raw.roomId = host.roomId) (ht : s.takes raw.eventId) : Took host raw s s' := by
  obtain ⟨m,hstep,hsettles⟩ := h
  cases hstep
  obtain ⟨htook,-⟩ := ingest_taken hb.quiet hb.keyed hroom ht hsettles
  rwa [hb.takenRaw] at htook

theorem Awaited.quiet {request : Request} (h : Awaited host s request s') : s'.Quiet := by
  obtain ⟨m,-,steps,-,-,hq⟩ := h
  exact hq

theorem Took.between (h : Took host raw s s') (hb : s.Between raw) (hq : s'.Quiet) : s'.Between raw := by
  refine ⟨hq,h.keyed hb.keyed,fun record hget => ?_⟩
  have hp := h.processed
  split at hp
  · rw [hp.2] at hget
    cases hget
  · obtain ⟨record',hget',-,hraw⟩ := hp.2
    rw [hget'] at hget
    cases hget
    exact hraw

theorem Took.projected (h : Took host raw s s') (ho : openRaw host s.keyGrant raw = outcome)
    (ha : s.accepts host raw outcome) : s'.Projected raw outcome := by
  have hp := h.processed
  rw [ho] at hp
  obtain ⟨⟨projection,changed⟩,heq⟩ := Option.isSome_iff_exists.mp ha
  rw [heq] at hp
  exact ⟨hp.2,fun id hid => by rw [hp.1]; exact seen_apply heq hid⟩

theorem Took.refused (h : Took host raw s s') (ho : openRaw host s.keyGrant raw = outcome)
    (ha : s.accepts host raw outcome = false) : s'.store.inbox.get raw.eventId ≠ none := by
  have hp := h.processed
  have heq : (Delivery.mk outcome raw.eventId raw.timestamp).apply host s.projection = none := by
    simpa [accepts] using ha
  rw [ho,heq] at hp
  obtain ⟨record,hget,-⟩ := hp.2
  rw [hget]
  nofun

theorem Untouched.refl (raw : RawEvent) (s : State) : Untouched raw s s := ⟨rfl,Iff.rfl,.of_eq rfl⟩

theorem Untouched.trans (h : Untouched raw s m) (h' : Untouched raw m s') : Untouched raw s s' :=
  ⟨h'.row.trans h.row,h'.retried.trans h.retried,fun id hid => h'.seen id (h.seen id hid)⟩

theorem Projected.of_untouched (h : s.Projected raw outcome) (hu : Untouched raw s s') : s'.Projected raw outcome :=
  ⟨hu.row.trans h.inbox,fun id hid => hu.seen id (h.seen id hid)⟩

variable {request : Request} {rest sequence : List (Request × State)}

theorem Identified.tail (h : Identified raw ((request,s) :: rest)) : Identified raw rest :=
  fun e he => h e (List.mem_cons_of_mem _ he)

theorem Opens.tail (h : Opens host raw outcome ((request,s) :: rest)) : Opens host raw outcome rest :=
  fun e he => h e (List.mem_cons_of_mem _ he)

theorem Awaited.between (hb : s.Between raw) (h : Awaited host s request s')
    (hid : ∀ raw',request = .ingest raw' → raw'.eventId = raw.eventId → raw' = raw) : s'.Between raw := by
  by_cases ht : request = .ingest raw ∧ raw.roomId = host.roomId ∧ s.takes raw.eventId
  · obtain ⟨rfl,hroom,htakes⟩ := ht
    exact (h.took hb hroom htakes).between hb h.quiet
  · obtain ⟨hu,hk,-⟩ := h.untouched hb hid ht
    exact hu.between hb h.quiet hk

/-- Under grants that open the event its key stays available. -/
theorem Awaited.next (hb : s.Between raw) (h : Awaited host s request s') (hroom : raw.roomId = host.roomId)
    (hid : Identified raw ((request,s') :: rest)) (ho : openRaw host s.keyGrant raw = outcome)
    (hopens : Opens host raw outcome ((request,s') :: rest)) :
    s'.Between raw ∧ openRaw host s'.keyGrant raw = outcome := by
  have hid' := hid (request,s') List.mem_cons_self
  refine ⟨h.between hb hid',?_⟩
  by_cases ht : request = .ingest raw ∧ s.takes raw.eventId
  · obtain ⟨rfl,htakes⟩ := ht
    exact (h.took hb hroom htakes).keyGrant ▸ ho
  · obtain ⟨-,-,hgrant⟩ := h.untouched hb hid' fun hc => ht ⟨hc.1,hc.2.2⟩
    rcases hgrant with ⟨grant,rfl,he⟩ | ⟨-,he⟩
    · rw [he]
      exact hopens _ List.mem_cons_self grant rfl
    · rw [he]
      exact ho

section

variable (hb : s.Between raw) (hs : Sequence host s sequence) (hroom : raw.roomId = host.roomId)
  (hid : Identified raw sequence) (ho : openRaw host s.keyGrant raw = outcome)
  (hopens : Opens host raw outcome sequence)
include hb hs hroom hid ho hopens

/-- The last delivery that the inbox takes decides; without one the event stays as it was. -/
theorem last_spec :
    match lastAccepted host raw outcome s sequence with
    | some true => (s.last sequence).Projected raw outcome
    | some false => (s.last sequence).store.inbox.get raw.eventId ≠ none
    | none => Untouched raw s (s.last sequence) := by
  induction sequence generalizing s with
  | nil => exact .refl raw s
  | cons e rest ih =>
    obtain ⟨request,s'⟩ := e
    obtain ⟨h,hrest⟩ := hs
    obtain ⟨hb',ho'⟩ := h.next hb hroom hid ho hopens
    have hlast := ih hb' hrest hid.tail ho' hopens.tail
    rw [lastAccepted]
    cases hl : lastAccepted host raw outcome s' rest with
    | some accepted =>
      rw [hl] at hlast
      cases accepted <;> exact hlast
    | none =>
      rw [hl] at hlast
      rw [Option.none_or]
      by_cases ht : request = .ingest raw ∧ s.takes raw.eventId
      · rw [if_pos ht]
        obtain ⟨rfl,htakes⟩ := ht
        have htook := h.took hb hroom htakes
        cases ha : s.accepts host raw outcome with
        | true => exact (htook.projected ho ha).of_untouched hlast
        | false =>
          change (s'.last rest).store.inbox.get raw.eventId ≠ none
          rw [hlast.row]
          exact htook.refused ho ha
      · rw [if_neg ht]
        have hid' := fun raw' he => hid (request,s') List.mem_cons_self raw' he
        exact (h.untouched hb hid' fun hc => ht ⟨hc.1,hc.2.2⟩).1.trans hlast

/-- An event that the inbox takes is taken at its next delivery; one that it does not take never is. -/
theorem lastAccepted_isSome (hagain : ∃ s',(.ingest raw,s') ∈ sequence) :
    (lastAccepted host raw outcome s sequence).isSome = s.takes raw.eventId := by
  have never : ∀ {s sequence},s.Between raw → Sequence host s sequence → Identified raw sequence →
      openRaw host s.keyGrant raw = outcome → Opens host raw outcome sequence →
      s.takes raw.eventId = false → lastAccepted host raw outcome s sequence = none := by
    intro s sequence
    induction sequence generalizing s with
    | nil => exact fun _ _ _ _ _ _ => rfl
    | cons e rest ih =>
      intro hb hs hid ho hopens htakes
      obtain ⟨request,s'⟩ := e
      obtain ⟨h,hrest⟩ := hs
      obtain ⟨hb',ho'⟩ := h.next hb hroom hid ho hopens
      have hid' := fun raw' he => hid (request,s') List.mem_cons_self raw' he
      have hu := (h.untouched hb hid' fun hc => by rw [htakes] at hc; cases hc.2.2).1
      rw [lastAccepted,ih hb' hrest hid.tail ho' hopens.tail (hu.takes.trans htakes),Option.none_or,
        if_neg fun hc => by rw [htakes] at hc; cases hc.2]
  cases htakes : s.takes raw.eventId with
  | false => rw [never hb hs hid ho hopens htakes,Option.isSome_none]
  | true =>
    induction sequence generalizing s with
    | nil =>
      obtain ⟨s',hmem⟩ := hagain
      cases hmem
    | cons e rest ih =>
      obtain ⟨request,s'⟩ := e
      obtain ⟨h,hrest⟩ := hs
      obtain ⟨hb',ho'⟩ := h.next hb hroom hid ho hopens
      rw [lastAccepted]
      by_cases he : request = .ingest raw
      · rw [if_pos ⟨he,htakes⟩]
        cases lastAccepted host raw outcome s' rest <;> rfl
      · have hid' := fun raw' he => hid (request,s') List.mem_cons_self raw' he
        have hu := (h.untouched hb hid' fun hc => he hc.1).1
        have hagain' : ∃ s'',(.ingest raw,s'') ∈ rest := by
          obtain ⟨s'',hmem⟩ := hagain
          rcases List.mem_cons.mp hmem with hmem | hmem
          · cases hmem
            exact absurd rfl he
          · exact ⟨s'',hmem⟩
        rw [if_neg fun hc => he hc.1,Option.or_none]
        exact ih hb' hrest hid.tail ho' hopens.tail hagain' (hu.takes.trans htakes)

/-- After a grant with its key an event that is delivered again is projected exactly when its retry was not
spent and the projection accepts it the last time. -/
theorem projected_last_iff (hagain : ∃ s',(.ingest raw,s') ∈ sequence) : (s.last sequence).Projected raw outcome ↔
      s.takes raw.eventId ∧ lastAccepted host raw outcome s sequence ≠ some false := by
  have hspec := last_spec hb hs hroom hid ho hopens
  have hsome := lastAccepted_isSome hb hs hroom hid ho hopens hagain
  rw [← hsome]
  cases hl : lastAccepted host raw outcome s sequence with
  | none =>
    rw [hl] at hspec hsome
    refine iff_of_false (fun hp => ?_) (by simp)
    have hnone := hspec.row.symm.trans hp.inbox
    simp [takes,hnone] at hsome
  | some accepted =>
    rw [hl] at hspec
    cases accepted with
    | true => exact iff_of_true hspec ⟨rfl,by simp⟩
    | false => exact iff_of_false (fun hp => hspec hp.inbox) (fun hc => hc.2 rfl)

end

theorem sequence_append {before after : List (Request × State)} :
    Sequence host s (before ++ after) ↔ Sequence host s before ∧ Sequence host (s.last before) after := by
  induction before generalizing s with
  | nil => exact (and_iff_right trivial).symm
  | cons e before ih =>
    change _ ∧ Sequence host e.2 (before ++ after) ↔ _
    rw [ih,and_assoc.symm]
    rfl

theorem last_append (s : State) (before after : List (Request × State)) :
    s.last (before ++ after) = (s.last before).last after := by
  induction before generalizing s with
  | nil => rfl
  | cons e before ih => exact ih e.2

theorem between_last (hb : s.Between raw) (hs : Sequence host s sequence) (hid : Identified raw sequence) :
    (s.last sequence).Between raw := by
  induction sequence generalizing s with
  | nil => exact hb
  | cons e rest ih =>
    exact ih (hs.1.between hb (hid e List.mem_cons_self)) hs.2 hid.tail

/-- A grant unlocks an event that is delivered again after it, whatever came before, exactly when the event
was not quarantined with its retry spent at the time of the grant and the projection accepts it. -/
theorem unlocked_iff {before after : List (Request × State)} {grant : ProjectKeyGrant} {granted : State}
    (hb : s.Between raw) (hs : Sequence host s (before ++ (.acceptKeyGrant grant,granted) :: after))
    (hid : Identified raw (before ++ (.acceptKeyGrant grant,granted) :: after))
    (hroom : raw.roomId = host.roomId) (hopen : openRaw host (some grant) raw = outcome)
    (hopens : Opens host raw outcome after) (hagain : ∃ s',(.ingest raw,s') ∈ after) :
    (s.last (before ++ (.acceptKeyGrant grant,granted) :: after)).Projected raw outcome ↔
      granted.takes raw.eventId = true ∧ lastAccepted host raw outcome granted after ≠ some false := by
  obtain ⟨hbefore,hgrant,hafter⟩ := sequence_append.mp hs
  have hidBefore : Identified raw before := fun e he => hid e (List.mem_append_left _ he)
  have hidAfter : Identified raw ((.acceptKeyGrant grant,granted) :: after) :=
    fun e he => hid e (List.mem_append_right _ he)
  have hb' := between_last hb hbefore hidBefore
  obtain ⟨hu,hk,hkey⟩ := hgrant.untouched hb' (hidAfter _ List.mem_cons_self) nofun
  have hkey : granted.keyGrant = some grant := by
    rcases hkey with ⟨grant',he,hkey⟩ | ⟨hne,-⟩
    · cases he
      exact hkey
    · exact absurd rfl (hne grant)
  rw [last_append]
  exact projected_last_iff (hu.between hb' hgrant.quiet hk) hafter hroom hidAfter.tail (hkey ▸ hopen) hopens hagain

theorem Awaited.of_run (steps : List Action) (h : s.run host (request.action :: steps) = some s')
    (hi : ∀ action ∈ steps,isInternal action) (hq : s'.Quiet) : Awaited host s request s' := by
  obtain ⟨m,hm,hrun⟩ := Option.bind_eq_some_iff.mp h
  exact ⟨m,hm,steps,hi,hrun,hq⟩

end State

instance (s : State) : Decidable s.Quiet :=
  decidable_of_iff (s.calls = [] ∧ s.drains = 0 ∧ s.worker = .idle ∧ s.saves = [] ∧ s.saving = none ∧
      ∀ record ∈ s.store.inbox.values,record.status = .quarantined)
    ⟨fun ⟨hc,hd,hw,hs,hn,hi⟩ => ⟨hc,hd,hw,hs,hn,hi⟩,
      fun ⟨hc,hd,hw,hs,hn,hi⟩ => ⟨hc,hd,hw,hs,hn,hi⟩⟩

def sampleState (actions : List Action) : State :=
  ((State.started sampleHost .empty []).run sampleHost actions).getD (State.started sampleHost .empty [])

def keyMissing : List Action :=
  [.ingest sampleRaw,.resume 0 true,.work true,.work true,.work true,.work true,.work true]

def retrySteps (id : ℕ) : List Action :=
  [.ingest sampleRaw,.resume id true,.resume id true,.resume id true,.resume id true,.resume id true,
    .work true,.work true,.work true,.work true,.work true]

def sampleGrant : ProjectKeyGrant := ⟨"key-1",[sampleKey]⟩

def keyGranted : List Action := keyMissing ++ [.acceptKeyGrant sampleGrant]

def unlocked : List Action := keyGranted ++ retrySteps 1 ++ [.beginSave,.endSave true,.work true,.work true]

/-- A second delivery before the grant spends the retry, so that the one after the grant is ignored. -/
def retrySpent : List Action := keyMissing ++ retrySteps 1

def grantedTooLate : List Action := retrySpent ++ [.acceptKeyGrant sampleGrant]

def stillQuarantined : List Action := grantedTooLate ++ [.ingest sampleRaw,.resume 2 true]

theorem between_started (host : ClientHost) (raw : RawEvent) : (State.started host .empty []).Between raw := by
  have hnone : ∀ k record,(State.started host .empty []).store.inbox.get k = some record → False :=
    fun k record h => (nomatch (h : none = some record))
  exact ⟨⟨rfl,rfl,rfl,rfl,rfl,fun record h => (nomatch (h : record ∈ []))⟩,
    fun k record h => (hnone k record h).elim,fun record h => (hnone _ record h).elim⟩

theorem identified_of_forall {raw : RawEvent} {sequence : List (State.Request × State)}
    (h : ∀ e ∈ sequence,e.1 = .ingest raw ∨ ∃ grant,e.1 = .acceptKeyGrant grant) : State.Identified raw sequence := by
  intro e he raw' hraw' _
  rcases h e he with hi | ⟨grant,hg⟩
  · exact (State.Request.ingest.inj (hi.symm.trans hraw')).symm
  · cases hg.symm.trans hraw'

set_option maxRecDepth 100000 in
theorem unlocked_iff_unspent : (State.last (State.started sampleHost .empty [])
        ([(.ingest sampleRaw,sampleState keyMissing)] ++ (.acceptKeyGrant sampleGrant,sampleState keyGranted) ::
            [(.ingest sampleRaw,sampleState unlocked)])).Projected sampleRaw (.event sampleCompleted none) ↔
      (sampleState keyGranted).takes sampleRaw.eventId = true ∧
        State.lastAccepted sampleHost sampleRaw (.event sampleCompleted none) (sampleState keyGranted)
          [(.ingest sampleRaw,sampleState unlocked)] ≠ some false := by
  refine State.unlocked_iff (between_started sampleHost sampleRaw) ⟨?_,?_,?_,trivial⟩
    (identified_of_forall (by simp)) rfl (by decide) (by simp [State.Opens]) ⟨_,List.mem_singleton_self _⟩
  · exact .of_run keyMissing.tail (by decide) (by decide) (by decide)
  · exact .of_run [] (by decide) (by decide) (by decide)
  · exact .of_run (unlocked.drop 9) (by decide) (by decide) (by decide)

set_option maxRecDepth 100000 in
theorem grantedTooLate_not_unlocked : ¬ ∀ (host : ClientHost) (raw : RawEvent) (outcome : RawOutcome)
    (s granted : State) (grant : ProjectKeyGrant) (before after : List (State.Request × State)),
    s.Between raw → State.Sequence host s (before ++ (.acceptKeyGrant grant,granted) :: after) →
    State.Identified raw (before ++ (.acceptKeyGrant grant,granted) :: after) → raw.roomId = host.roomId →
    (∀ message,outcome ≠ .failed message) → openRaw host (some grant) raw = outcome →
    State.Opens host raw outcome after → (∃ s',(.ingest raw,s') ∈ after) →
    (s.last (before ++ (.acceptKeyGrant grant,granted) :: after)).Projected raw outcome := by
  intro h
  have hprojected := h sampleHost sampleRaw (.event sampleCompleted none) (State.started sampleHost .empty [])
    (sampleState grantedTooLate) sampleGrant
    [(.ingest sampleRaw,sampleState keyMissing),(.ingest sampleRaw,sampleState retrySpent)]
    [(.ingest sampleRaw,sampleState stillQuarantined)] (between_started sampleHost sampleRaw)
    ⟨.of_run keyMissing.tail (by decide) (by decide) (by decide),
      .of_run (retrySpent.drop 8) (by decide) (by decide) (by decide),
      .of_run [] (by decide) (by decide) (by decide),
      .of_run [.resume 2 true] (by decide) (by decide) (by decide),trivial⟩
    (identified_of_forall (by simp)) rfl nofun (by decide) (by simp [State.Opens]) ⟨_,List.mem_singleton_self _⟩
  exact absurd hprojected.inbox (by decide)

end Malink.Client
