import Malink.AgentChannel

/-!
# Accepted channels only advance

A channel is accepted when it is pinned, read as the pinned one, or used. Each has the identity of the ones before and
no smaller generation, and there is one manifest for one generation.
-/

namespace Malink.Supervisor.Channel

open DurableProgram Security Option

/-- What may be accepted after a channel. -/
structure Advances (older newer : SignedUpdateChannel) : Prop where
  channelId : newer.channel.channelId = older.channel.channelId
  generation : older.channel.generation ≤ newer.channel.generation
  manifest : older.channel.generation = newer.channel.generation → newer.channel = older.channel

theorem Advances.refl (signed : SignedUpdateChannel) : Advances signed signed := ⟨rfl,le_rfl,fun _ => rfl⟩

theorem Advances.trans {a b c : SignedUpdateChannel} (h : Advances a b) (h' : Advances b c) : Advances a c := by
  refine ⟨h'.channelId.trans h.channelId,h.generation.trans h'.generation,fun hsame => ?_⟩
  have hab : a.channel.generation = b.channel.generation := le_antisymm h.generation (h'.generation.trans hsame.ge)
  have hbc : b.channel.generation = c.channel.generation := hab.symm.trans hsame
  exact (h'.manifest hbc).trans (h.manifest hab)

variable {candidate : SignedUpdateChannel} {accepted : List SignedUpdateChannel}
  {pinned : Option SignedUpdateChannel} {state : Json} {request : Request}

theorem advances_of_checkPinned {current : SignedUpdateChannel}
    (h : checkPinned candidate (some current) = .ok ()) : Advances current candidate := by
  rw [checkPinned] at h
  split at h
  case isTrue => cases h
  case isFalse hchannelId =>
    split at h
    case isTrue => cases h
    case isFalse hgeneration =>
      split at h
      case isTrue => cases h
      case isFalse hmanifest =>
        refine ⟨(not_not.mp hchannelId).symm,not_lt.mp hgeneration,fun hsame => ?_⟩
        have htext : Json.canonicalJson current.channel.toJson = Json.canonicalJson candidate.channel.toJson := by
          by_contra hne
          exact hmanifest ⟨hsame,hne⟩
        exact (UpdateChannel.canonicalJson_inj.mp htext).symm

/-- The pinned channel is the newest of the accepted ones. -/
def Covers (pinned : Option SignedUpdateChannel) (accepted : List SignedUpdateChannel) : Prop :=
  ∀ older ∈ accepted, ∃ newer, pinned = some newer ∧ Advances older newer

variable {newer : SignedUpdateChannel}

theorem covers_some : Covers (some newer) accepted ↔ ∀ older ∈ accepted, Advances older newer := by
  refine forall₂_congr fun older _ => ⟨?_,fun h => ⟨newer,rfl,h⟩⟩
  rintro ⟨found,hfound,h⟩
  rw [some.inj hfound]
  exact h

theorem Covers.append (h : Covers (some newer) accepted) : Covers (some newer) (accepted ++ [newer]) := by
  rw [covers_some] at h ⊢
  intro older holder
  rcases List.mem_append.mp holder with hold | hnew
  · exact h older hold
  · rw [List.mem_singleton.mp hnew]
    exact .refl newer

theorem Covers.check (h : Covers pinned accepted) (hcheck : checkPinned candidate pinned = .ok ()) :
    Covers (some candidate) accepted := by
  rw [covers_some]
  intro older holder
  obtain ⟨current,rfl,hadvances⟩ := h older holder
  exact hadvances.trans (advances_of_checkPinned hcheck)

def Pins (accepted : List SignedUpdateChannel) (state : Json) : Prop :=
  ∃ pinned, pinnedChannel state = some pinned ∧ Covers pinned accepted

theorem Pins.covers
    (h : Pins accepted state) (hpinned : pinnedChannel state = some pinned) : Covers pinned accepted := by
  obtain ⟨found,hfound,hcovers⟩ := h
  rw [hpinned] at hfound
  rw [some.inj hfound]
  exact hcovers

theorem pins_pinChannel (h : Covers (some candidate) accepted) (members : List (JsString × Json)) :
    Pins accepted (pinChannel candidate members) :=
  ⟨some candidate,pinnedChannel_pinChannel candidate members,h⟩

/-- A state that a read of the file may give. -/
abbrev Host.Surfaces (host : Host) (state : Json) : Prop := Security.Surfaces defaultState host.files state

structure Sound (host : Host) : Prop where
  pairwise : host.accepted.Pairwise Advances
  pins : ∀ state, host.Surfaces state → Pins host.accepted state

/-- All that a read may give pins the same channel. -/
def Settled (pinned : Option SignedUpdateChannel) (host : Host) : Prop :=
  ∀ state, host.Surfaces state → pinnedChannel state = some pinned

theorem sound_fresh : Sound .fresh := by
  refine ⟨.nil,fun state hstate => ⟨none,?_,fun older holder => (nomatch holder)⟩⟩
  cases hstate with
  | primary text hfile => cases hfile
  | next text _ hnext => cases hnext
  | previous text _ hprevious => cases hprevious
  | nothing _ _ _ hstate =>
    rw [hstate]
    decide

theorem pairwise_append (h : accepted.Pairwise Advances)
    (hcovers : Covers (some newer) accepted) : (accepted ++ [newer]).Pairwise Advances := by
  refine List.pairwise_append.mpr ⟨h,List.pairwise_singleton _ _,fun older holder other hother => ?_⟩
  rw [List.mem_singleton.mp hother]
  exact covers_some.mp hcovers older holder

/-- The writes that are cut and forget nothing. -/
def Remembers (files : Files) (point : CrashPoint) : Prop := ¬ Forgets files point

variable {host host' : Host}

theorem OtherWrite.accepted_eq {allowed : Files → CrashPoint → Prop}
    (h : OtherWrite allowed host host') : host'.accepted = host.accepted := by
  cases h with
  | write | interrupted => rfl

theorem Sound.covers (h : Sound host) (hread : Security.read defaultState host.files = .ok state)
    (hpinned : pinnedChannel state = some pinned) : Covers pinned host.accepted :=
  (h.pins state (surfaces_of_read hread)).covers hpinned

theorem Sound.otherWrite (h : Sound host) (hw : OtherWrite Remembers host host') : Sound host' := by
  refine ⟨hw.accepted_eq ▸ h.pairwise,fun state hstate => ?_⟩
  cases hw with
  | write hread hpinned hsame =>
    rw [surfaces_write hstate]
    exact ⟨_,hsame,h.covers hread hpinned⟩
  | interrupted hread hpinned hsame hallowed =>
    rcases surfaces_interruptedWrite hallowed hstate with hold | rfl
    · exact h.pins state hold
    · exact ⟨_,hsame,h.covers hread hpinned⟩

theorem Settled.otherWrite (h : Settled pinned host) (hw : OtherWrite Remembers host host') : Settled pinned host' := by
  intro state hstate
  cases hw with
  | write hread hpinned hsame =>
    rw [surfaces_write hstate,hsame,← hpinned,h _ (surfaces_of_read hread)]
  | interrupted hread hpinned hsame hallowed =>
    rcases surfaces_interruptedWrite hallowed hstate with hold | rfl
    · exact h state hold
    · rw [hsame,← hpinned,h _ (surfaces_of_read hread)]

theorem Sound.otherWrites (h : Sound host) (hw : Relation.ReflTransGen (OtherWrite Remembers) host host') :
    Sound host' ∧ host'.accepted = host.accepted ∧ ∀ pinned, Settled pinned host → Settled pinned host' := by
  induction hw with
  | refl => exact ⟨h,rfl,fun _ => id⟩
  | tail _ hstep ih =>
    exact ⟨ih.1.otherWrite hstep,hstep.accepted_eq.trans ih.2.1,fun pinned hsettled =>
      (ih.2.2 pinned hsettled).otherWrite hstep⟩

/-- What the supervisor knows of the channel: it is the newest of the accepted ones, if there are any. -/
structure Latest (cached : Option SignedUpdateChannel) (accepted : List SignedUpdateChannel) : Prop where
  covers : Covers cached accepted
  mem : ∀ channel, cached = some channel → channel ∈ accepted

theorem latest_append (h : Covers (some newer) accepted) : Latest (some newer) (accepted ++ [newer]) := by
  refine ⟨h.append,fun channel hchannel => ?_⟩
  rw [← some.inj hchannel]
  exact List.mem_append_right _ (List.mem_singleton_self newer)

/-- The pinned channel is read after a complete write, and only an accepted one is used. -/
def MayUse : Request → Unit → Host → Prop
  | .readState, _, host => ∃ pinned, Settled pinned host
  | .fetchAgentPromptFromChannel _ channel, _, host => Latest (some channel) host.accepted
  | _, _, _ => True

variable {channel : SignedUpdateChannel} {files : Files} {members : List (JsString × Json)}
  {reply : Except ChannelError request.Reply} {lastError : Option ChannelError}

theorem Sound.accept (h : Sound host) (hcovers : Covers (some channel) host.accepted)
    (hpins : ∀ state,Surfaces defaultState files state → Pins (host.accepted ++ [channel]) state) :
    Sound ⟨files,host.accepted ++ [channel]⟩ := ⟨pairwise_append h.pairwise hcovers,hpins⟩

theorem Pins.append (h : Pins accepted state) (hmem : channel ∈ accepted) : Pins (accepted ++ [channel]) state := by
  obtain ⟨pinned,hpinned,hcovers⟩ := h
  refine ⟨pinned,hpinned,fun older holder => ?_⟩
  rcases List.mem_append.mp holder with hold | hnew
  · exact hcovers older hold
  · rw [List.mem_singleton.mp hnew]
    exact hcovers channel hmem

theorem Sound.read (h : Sound host) (hsettled : ∃ pinned,Settled pinned host)
    (hread : Security.read defaultState host.files = .ok state) (hpinned : pinnedChannel state = some pinned) :
    Sound ⟨host.files,host.accepted ++ pinned.toList⟩ ∧ Latest pinned (host.accepted ++ pinned.toList) := by
  have hcovers := h.covers hread hpinned
  cases pinned with
  | none =>
    rw [toList_none,List.append_nil]
    exact ⟨h,hcovers,fun channel hchannel => by cases hchannel⟩
  | some channel =>
    obtain ⟨found,hsettled⟩ := hsettled
    have hfound : found = some channel := Option.some.inj ((hsettled _ (surfaces_of_read hread)).symm.trans hpinned)
    refine ⟨h.accept hcovers fun state hstate => ⟨some channel,?_,hcovers.append⟩,latest_append hcovers⟩
    rw [hsettled state hstate,hfound]

section

variable (h : Sound host) (hread : Security.read defaultState host.files = .ok (.obj members))
  (hpinned : pinnedChannel (.obj members) = some pinned)
include h hread hpinned

theorem Sound.persisted (hcheck : checkPinned candidate pinned = .ok ()) :
    Sound ⟨Security.write (pinChannel candidate members) host.files,host.accepted ++ [candidate]⟩ ∧
      Latest (some candidate) (host.accepted ++ [candidate]) := by
  have hcovers := (h.covers hread hpinned).check hcheck
  refine ⟨h.accept hcovers fun state hstate => ?_,latest_append hcovers⟩
  rw [surfaces_write hstate]
  exact pins_pinChannel hcovers.append members

theorem Sound.interrupted {point : CrashPoint} (hcheck : checkPinned candidate pinned = .ok ())
    (hallowed : Remembers host.files point) :
    Sound ⟨interruptedWrite (pinChannel candidate members) point host.files,host.accepted⟩ := by
  refine ⟨h.pairwise,fun state hstate => ?_⟩
  rcases surfaces_interruptedWrite hallowed hstate with hold | rfl
  · exact h.pins state hold
  · exact pins_pinChannel ((h.covers hread hpinned).check hcheck) members

end

theorem Sound.used (h : Sound host) (hlatest : Latest (some channel) host.accepted) :
    Sound ⟨host.files,host.accepted ++ [channel]⟩ :=
  h.accept hlatest.covers fun state hstate => (h.pins state hstate).append (hlatest.mem channel rfl)

/-- What the answer to a request tells about the accepted channels. -/
def Told (accepted : List SignedUpdateChannel) (host' : Host) :
    (request : Request) → Except ChannelError request.Reply → Prop
  | .stageUpdate _, .ok () => ∃ pinned, Settled pinned host'
  | .readState, .ok pinned => Latest pinned host'.accepted
  | .persistAgentUpdateChannel candidate, .ok () => Latest (some candidate) host'.accepted
  | .fetchAgentPromptFromChannel _ _, _ => True
  | _, _ => host'.accepted = accepted

theorem Sound.answers (h : Sound host)
    (hmay : MayUse request () host) (ha : Answers Remembers host request reply host') :
    Sound host' ∧ Told host.accepted host' request reply := by
  cases ha with
  | fails message =>
    refine ⟨h,?_⟩
    cases request with
    | fetchAgentPromptFromChannel => trivial
    | stageUpdate | readState | fetchAndVerifyAgentChannel | persistAgentUpdateChannel | fetchAgentPrompt => rfl
  | @staged _ _ pinned releaseId hread hpinned hsame =>
    refine ⟨h.otherWrite (.write hread hpinned hsame),pinned,fun state hstate => ?_⟩
    rw [surfaces_write hstate]
    exact hsame
  | read hread hpinned => exact h.read hmay hread hpinned
  | fetched | refused | prompt => exact ⟨h,rfl⟩
  | persisted hread hpinned hcheck => exact h.persisted hread hpinned hcheck
  | interrupted hread hpinned hcheck hallowed => exact ⟨h.interrupted hread hpinned hcheck hallowed,rfl⟩
  | used => exact ⟨h.used hmay,trivial⟩

theorem Sound.replies (h : Sound host)
    (hmay : MayUse request () host) (hr : Replies Remembers host request reply host') :
    Sound host' ∧ Told host.accepted host' request reply := by
  obtain ⟨between,hwrites,hanswers⟩ := hr
  obtain ⟨hsound,hsame,hsettled⟩ := h.otherWrites hwrites
  have hmay' : MayUse request () between := by
    cases request with
    | readState =>
      obtain ⟨pinned,hpinned⟩ := hmay
      exact ⟨pinned,hsettled pinned hpinned⟩
    | fetchAgentPromptFromChannel =>
      rw [MayUse,hsame]
      exact hmay
    | stageUpdate | fetchAndVerifyAgentChannel | persistAgentUpdateChannel | fetchAgentPrompt => trivial
  rw [← hsame]
  exact hsound.answers hmay' hanswers

abbrev Accepts {α : Type} (program : Program α) (host : Host) (post : Except ChannelError α → Unit → Host → Prop) :
    Prop :=
  Safe (Replies Remembers) (fun _ host => Sound host) MayUse post program () host

variable {cached : Option SignedUpdateChannel} {urls : UrlParser} {config : ChannelConfig}

theorem accepts_perform {post : Except ChannelError request.Reply → Unit → Host → Prop}
    (h : Sound host) (hmay : MayUse request () host)
    (hpost : ∀ reply host',Sound host' → Told host.accepted host' request reply → post reply () host') :
    Accepts (perform request) host post := by
  refine safe_perform.mpr ⟨hmay,fun reply host' hreplies => ?_⟩
  obtain ⟨hsound,htold⟩ := h.replies hmay hreplies
  exact ⟨hsound,hpost reply host' hsound htold⟩

/-- A refresh answers with the newest channel, or leaves the cached one. -/
def Refreshed (cached : Option SignedUpdateChannel) :
    Except ChannelError (Option SignedUpdateChannel) → Unit → Host → Prop
  | .ok (some channel), _, host => Sound host ∧ Latest (some channel) host.accepted
  | .ok none, _, host => Sound host ∧ Latest cached host.accepted
  | .error (.other _), _, host => Sound host ∧ Latest cached host.accepted
  | .error (.consistency _), _, _ => True

section

variable (h : Sound host) (hlatest : Latest cached host.accepted)
include h hlatest

theorem accepts_persist (candidate : SignedUpdateChannel) :
    Accepts (do
      perform (Request.persistAgentUpdateChannel candidate)
      return some candidate) host (Refreshed cached) := by
  refine safe_bind.mpr (accepts_perform h trivial fun reply host' hsound htold => ?_)
  cases reply with
  | ok value => exact ⟨hsound,htold⟩
  | error error =>
    cases error with
    | consistency message => trivial
    | other message =>
      have hsame : host'.accepted = host.accepted := htold
      refine ⟨hsound,?_⟩
      rw [hsame]
      exact hlatest

theorem accepts_considerCandidate
    (candidate : SignedUpdateChannel) : Accepts (considerCandidate cached candidate) host (Refreshed cached) := by
  cases cached with
  | none => exact accepts_persist h hlatest candidate
  | some pinned =>
    dsimp only [considerCandidate]
    split
    case isTrue => trivial
    case isFalse =>
      split
      case isTrue => exact ⟨h,hlatest⟩
      case isFalse =>
        split
        case isFalse => exact accepts_persist h hlatest candidate
        case isTrue =>
          split
          case isTrue => trivial
          case isFalse => exact ⟨h,hlatest⟩

theorem accepts_tryMirror (url : JsString) : Accepts (tryMirror cached url) host (Refreshed cached) := by
  refine safe_bind.mpr (accepts_perform h trivial fun reply host' hsound htold => ?_)
  have hlatest' : Latest cached host'.accepted := by
    have hsame : host'.accepted = host.accepted := by
      cases reply with
      | ok | error => exact htold
    rw [hsame]
    exact hlatest
  cases reply with
  | ok candidate => exact accepts_considerCandidate hsound hlatest' candidate
  | error error =>
    cases error with
    | consistency message => trivial
    | other message => exact ⟨hsound,hlatest'⟩

omit h hlatest in
theorem accepts_parsed {α : Type} {result : Except JsString α} {post : Except ChannelError α → Unit → Host → Prop} :
    Accepts (parsed result) host post ↔ post (result.mapError .other) () host := safe_ofExcept

theorem accepts_withoutAnswer (hother : ∀ error,lastError = some error → ∃ message,error = .other message) :
    Accepts (withoutAnswer urls config cached lastError) host (Refreshed cached) := by
  cases cached with
  | some pinned => exact ⟨h,hlatest⟩
  | none =>
    cases lastError with
    | none => exact ⟨h,hlatest⟩
    | some error =>
      obtain ⟨message,rfl⟩ := hother error rfl
      refine safe_bind.mpr (accepts_parsed.mpr ?_)
      cases channelRequired urls config with
      | error message => exact ⟨h,hlatest⟩
      | ok required =>
        cases required with
        | true | false => exact ⟨h,hlatest⟩

theorem accepts_tryMirrors
    (hother : ∀ error,lastError = some error → ∃ message,error = .other message) (mirrors : List JsString) :
    Accepts (tryMirrors urls config cached lastError mirrors) host (Refreshed cached) := by
  induction mirrors generalizing lastError host with
  | nil => exact accepts_withoutAnswer h hlatest hother
  | cons url rest ih =>
    refine safe_continue.mpr ((accepts_tryMirror h hlatest url).mono fun result _ host' hrefreshed => ?_)
    match result, hrefreshed with
    | .ok (some channel), hrefreshed => exact hrefreshed
    | .ok none, hrefreshed => exact ih hrefreshed.1 hrefreshed.2 hother
    | .error (.consistency message), _ => trivial
    | .error (.other message), hrefreshed =>
      exact ih hrefreshed.1 hrefreshed.2 fun error herror => ⟨message,(some.inj herror).symm⟩

theorem accepts_refreshAgentUpdateChannel :
    Accepts (refreshAgentUpdateChannel urls config cached) host (Refreshed cached) := by
  refine safe_bind.mpr (accepts_parsed.mpr ?_)
  cases agentUpdateChannelUrls urls config cached with
  | error message => exact ⟨h,hlatest⟩
  | ok mirrors =>
    cases mirrors with
    | nil =>
      cases cached with
      | none | some => exact ⟨h,hlatest⟩
    | cons url rest => exact accepts_tryMirrors h hlatest (fun error herror => by cases herror) (url :: rest)

end

theorem accepts_fetchPrompt (h : Sound host) (releaseId : JsString)
    (hlatest : ∀ channel,cached = some channel → Latest (some channel) host.accepted) :
    Accepts (fetchPrompt urls config releaseId cached) host fun _ _ _ => True := by
  cases cached with
  | some channel => exact accepts_perform h (hlatest channel rfl) fun _ _ _ _ => trivial
  | none =>
    refine safe_bind.mpr (accepts_parsed.mpr ?_)
    cases channelRequired urls config with
    | error message => trivial
    | ok required =>
      dsimp only [onResult,Except.mapError]
      split
      case isTrue => trivial
      case isFalse =>
        split
        case isTrue => trivial
        case isFalse => exact accepts_perform h trivial fun _ _ _ _ => trivial

theorem accepts_fetchAndVerifyAgentPrompt (h : Sound host) (hsettled : ∃ pinned,Settled pinned host)
    (releaseId : JsString) : Accepts (fetchAndVerifyAgentPrompt urls config releaseId) host fun _ _ _ => True := by
  refine safe_bind.mpr (accepts_perform h hsettled fun reply host' hsound htold => ?_)
  cases reply with
  | error error => trivial
  | ok cached =>
    refine safe_bind.mpr ((accepts_refreshAgentUpdateChannel hsound htold).mono fun result _ host' hrefreshed => ?_)
    cases result with
    | error error => trivial
    | ok refreshed =>
      cases refreshed with
      | none => exact accepts_fetchPrompt hrefreshed.1 releaseId fun channel hchannel => by cases hchannel
      | some channel =>
        refine accepts_fetchPrompt hrefreshed.1 releaseId fun found hfound => ?_
        rw [← some.inj hfound]
        exact hrefreshed.2

theorem accepts_prepareAgentUpdateOnce (h : Sound host) (releaseId : JsString) :
    Accepts (prepareAgentUpdateOnce urls config releaseId) host fun _ _ _ => True := by
  refine safe_bind.mpr (accepts_perform h trivial fun reply host' hsound htold => ?_)
  cases reply with
  | error error => trivial
  | ok value => exact accepts_fetchAndVerifyAgentPrompt hsound htold releaseId

theorem sound_of_runs (hr : Runs urls Remembers host) : Sound host := by
  induction hr with
  | fresh => exact sound_fresh
  | call config releaseId _ hs ih => exact ((accepts_prepareAgentUpdateOnce ih releaseId).steps ih hs).2
  | other _ hother ih => exact ih.otherWrite hother

section

variable {allowed : Files → CrashPoint → Prop} {pinned : Option SignedUpdateChannel}
  {candidate : SignedUpdateChannel} {members staged : List (JsString × Json)} {url : JsString} {files : Files}
  {accepted : List SignedUpdateChannel}

/-- A candidate that is pinned: it is the first one, or a newer one of the same channel. -/
def IsNewer (candidate : SignedUpdateChannel) (pinned : Option SignedUpdateChannel) : Prop :=
  ∀ current, pinned = some current → current.channel.channelId = candidate.channel.channelId ∧
    current.channel.generation < candidate.channel.generation

theorem IsNewer.considerCandidate (h : IsNewer candidate pinned) :
    considerCandidate pinned candidate = (do
      perform (Request.persistAgentUpdateChannel candidate)
      return some candidate) := by
  cases pinned with
  | none => rfl
  | some current =>
    obtain ⟨hchannelId,hgeneration⟩ := h current rfl
    have hnotOlder : ¬ candidate.channel.generation < current.channel.generation := hgeneration.le.not_gt
    simp only [Channel.considerCandidate,hchannelId,hnotOlder,hgeneration.ne',ne_eq,not_true_eq_false,if_false]

theorem IsNewer.checkPinned (h : IsNewer candidate pinned) : checkPinned candidate pinned = .ok () := by
  cases pinned with
  | none => rfl
  | some current =>
    obtain ⟨hchannelId,hgeneration⟩ := h current rfl
    simp only [Channel.checkPinned,hchannelId,hgeneration.le.not_gt,hgeneration.ne,ne_eq,not_true_eq_false,
      if_false,false_and]

theorem refresh_eq (hurls : agentUpdateChannelUrls urls config pinned = .ok [url]) :
    refreshAgentUpdateChannel urls config pinned = tryMirrors urls config pinned none [url] := by
  rw [refreshAgentUpdateChannel,hurls]
  rfl

/-- The mirror answers with a newer channel, which is to be pinned. -/
theorem steps_candidate (hurls : agentUpdateChannelUrls urls config pinned = .ok [url])
    (hnewer : IsNewer candidate pinned) {reply : Except ChannelError Unit}
    (hreply : Answers allowed host (.persistAgentUpdateChannel candidate) reply host') :
    ∃ program' : Program Json, Steps (Replies allowed)
      (refreshAgentUpdateChannel urls config pinned >>= fetchPrompt urls config "release-1")
        () host program' () host' := by
  have hconsider : ∃ program',
    Steps (Replies allowed) (considerCandidate pinned candidate) () host program' () host' := by
    rw [hnewer.considerCandidate]
    exact ⟨_,.ask ⟨host,.refl,hreply⟩ (.refl _ _ _)⟩
  obtain ⟨program',hs⟩ := hconsider
  have htry : Steps (Replies allowed) (tryMirror pinned url) () host program' () host' :=
    .ask ⟨host,.refl,.fetched host url candidate⟩ hs
  rw [refresh_eq hurls]
  exact ⟨_,(htry.continue_ _).continue_ _⟩

/-- A call whose mirror answers with a newer channel, which is pinned. -/
theorem runs_pinned (h : Runs urls allowed ⟨files,accepted⟩) (hread : Security.read defaultState files = .ok state)
    (hpinned : pinnedChannel state = some pinned) (hstaged : pinnedChannel (.obj staged) = some pinned)
    (hurls : agentUpdateChannelUrls urls config pinned = .ok [url]) (hnewer : IsNewer candidate pinned) :
    Runs urls allowed ⟨⟨some (encode (pinChannel candidate staged)),none,none⟩,
      accepted ++ pinned.toList ++ [candidate]⟩ := by
  have hread' : Security.read defaultState (Security.write (.obj staged) files) = .ok (.obj staged) := by
    rw [write_eq]
    exact read_primary rfl (parse_encode _)
  have hanswers : Answers allowed ⟨Security.write (.obj staged) files,accepted ++ pinned.toList⟩
      (.persistAgentUpdateChannel candidate) (.ok ()) _ := .persisted hread' hstaged hnewer.checkPinned
  obtain ⟨program',hs⟩ := steps_candidate hurls hnewer hanswers
  have hcall : Steps (Replies allowed) (prepareAgentUpdateOnce urls config "release-1") () ⟨files,accepted⟩ _ () _ :=
    .ask ⟨_,.refl,.staged "release-1" hread hpinned hstaged⟩ (.ask ⟨_,.refl,.read hread' hstaged⟩ hs)
  have hruns := Runs.call config "release-1" h hcall
  rw [write_eq] at hruns
  exact hruns

end

def sampleUrls : UrlParser := ⟨.ok,fun relative base => .ok (base ++ relative),id⟩

def sampleConfig : ChannelConfig := ⟨some "https://updates.example/channels/stable.json",none⟩

def sampleChannel (generation : ℕ) : SignedUpdateChannel where
  channel :=
    { channelId := "stable"
      generation := generation
      publishedAt := generation
      release := ⟨"release-1","build-1","0123456789abcdef0123456789abcdef0123456789abcdef0123456789abcdef"⟩
      mirrors := ["https://updates.example/"] }
  signer := .obj [("keyId",.str "signer")]
  signature := .obj [("keyId",.str "signer")]

def sampleUrl : JsString := "https://updates.example/channels/stable.json"

/-- The state as it is when a release is being staged. -/
def sampleMembers : List (JsString × Json) :=
  [("version",.num 1),
    ("status",.obj [("version",.num 1),("phase",.str "staging"),("releaseId",.str "release-1"),("updatedAt",.num 0)]),
    ("restart",.obj [("version",.num 1),("phase",.str "idle"),("updatedAt",.num 0)])]

theorem sampleUrls_none : agentUpdateChannelUrls sampleUrls sampleConfig none = .ok [sampleUrl] := by decide

theorem sampleUrls_some (generation : ℕ) :
    agentUpdateChannelUrls sampleUrls sampleConfig (some (sampleChannel generation)) = .ok [sampleUrl] := by
  have hurls : agentUpdateChannelUrls sampleUrls sampleConfig (some (sampleChannel 0)) = .ok [sampleUrl] := by
    decide
  exact hurls

theorem isNewer_sampleChannel {n m : ℕ} (h : n < m) : IsNewer (sampleChannel m) (some (sampleChannel n)) := by
  intro current hcurrent
  rw [← some.inj hcurrent]
  exact ⟨rfl,h⟩

def sampleState (generation : ℕ) : List (JsString × Json) :=
  setMember "agentChannel" (sampleChannel generation).toJson sampleMembers

theorem pinnedChannel_sampleState (generation : ℕ) :
    pinnedChannel (.obj (sampleState generation)) = some (some (sampleChannel generation)) :=
  pinnedChannel_pinChannel (sampleChannel generation) sampleMembers

def sampleText (generation : ℕ) : List Char := encode (.obj (sampleState generation))

section

variable {allowed : Files → CrashPoint → Prop} {files : Files}
  {accepted : List SignedUpdateChannel} {generation : ℕ}

theorem runs_first (h : Runs sampleUrls allowed ⟨⟨none,none,none⟩,accepted⟩) (generation : ℕ) :
    Runs sampleUrls allowed ⟨⟨some (sampleText generation),none,none⟩,accepted ++ [] ++ [sampleChannel generation]⟩ := by
  have hdefault : pinnedChannel defaultState = some none := by decide
  have hstaged : pinnedChannel (.obj sampleMembers) = some none := by decide
  exact runs_pinned h rfl hdefault hstaged sampleUrls_none fun current hcurrent => by cases hcurrent

/-- A write of the supervisor that leaves the channel alone and is cut. -/
theorem runs_cut (h : Runs sampleUrls allowed ⟨files,accepted⟩)
    (hread : Security.read defaultState files = .ok (.obj (sampleState generation))) (point : CrashPoint)
    (hallowed : allowed files point) :
    Runs sampleUrls allowed ⟨interruptedWrite (.obj (sampleState generation)) point files,accepted⟩ :=
  .other h (.interrupted hread (pinnedChannel_sampleState _) (pinnedChannel_sampleState _) hallowed)

end

/-- Whatever the mirrors answer and wherever the process crashes, each accepted channel advances the ones before, as
long as no write that is cut forgets the state. -/
theorem accepted_advances (hr : Runs urls Remembers host) : host.accepted.Pairwise Advances :=
  (sound_of_runs hr).pairwise

/-- A write is cut between its two renames, and then generation 6 is pinned over the recovered generation 5. -/
theorem accepted_advances_recovered : ([5,5,6].map sampleChannel).Pairwise Advances := by
  have hread : Security.read defaultState ⟨some (sampleText 5),none,none⟩ = .ok (.obj (sampleState 5)) :=
    read_primary rfl (parse_encode _)
  have hfirst := runs_first (.fresh : Runs _ Remembers _) 5
  have hcut := runs_cut hfirst hread ⟨5,0⟩ fun hforgets => by cases hforgets.1
  have hread' : Security.read defaultState ⟨none,some (sampleText 5),some (sampleText 5)⟩ = .ok (.obj (sampleState 5)) :=
    read_next rfl rfl (parse_encode _)
  have hruns := runs_pinned hcut hread' (pinnedChannel_sampleState 5) (pinnedChannel_sampleState 5) (sampleUrls_some 5)
    (isNewer_sampleChannel (by decide : 5 < 6))
  exact accepted_advances hruns

/-- After three writes in a row that are cut (between the two renames, before the first one, after the removal of
`.next`) nothing is left of the pinned generation 6, and generation 5 is accepted. -/
theorem older_channel_accepted : ¬ ∀ (urls : UrlParser) (host : Host), Runs urls (fun _ _ => True) host →
    host.accepted.Pairwise Advances := by
  intro h
  have hread : Security.read defaultState ⟨some (sampleText 6),none,none⟩ = .ok (.obj (sampleState 6)) :=
    read_primary rfl (parse_encode _)
  have hfirst := runs_first (.fresh : Runs _ (fun _ _ => True) _) 6
  have hmoved := runs_cut hfirst hread ⟨5,0⟩ trivial
  have hread' : Security.read defaultState ⟨none,some (sampleText 6),some (sampleText 6)⟩ = .ok (.obj (sampleState 6)) :=
    read_next rfl rfl (parse_encode _)
  have hremoved := runs_cut hmoved hread' ⟨4,0⟩ trivial
  have hread'' : Security.read defaultState ⟨none,some (sampleText 6),none⟩ = .ok (.obj (sampleState 6)) :=
    read_next rfl rfl (parse_encode _)
  have hnothing := runs_cut hremoved hread'' ⟨1,0⟩ trivial
  have hadvances : Advances (sampleChannel 6) (sampleChannel 5) := by
    simpa using h _ _ (runs_first hnothing 5)
  exact absurd hadvances.generation (by decide)

end Malink.Supervisor.Channel
