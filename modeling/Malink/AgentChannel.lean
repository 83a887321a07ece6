import Malink.CanonicalJson
import Malink.CrashedWrites
import Malink.DurablePrograms
import Mathlib.Logic.Relation

/-!
# The channel of signed Agent updates

The supervisor asks the mirrors of its update channel for the signed manifest of the channel, and pins the newest one
that it has seen in its state file.
-/

namespace Malink.Supervisor.Channel

open DurableProgram
open Outbox (asString)
open Json (canonicalJson num sortKeys str)

structure ChannelRelease where
  releaseId : JsString
  buildId : JsString
  sha256 : JsString
  deriving DecidableEq

/-- `GatewayAgentUpdateChannel` -/
structure UpdateChannel where
  channelId : JsString
  generation : ℕ
  publishedAt : ℕ
  release : ChannelRelease
  mirrors : List JsString
  deriving DecidableEq

/-- `SignedGatewayAgentUpdateChannel` -/
structure SignedUpdateChannel where
  channel : UpdateChannel
  signer : Json
  signature : Json
  deriving DecidableEq

def channelKind : JsString := "malink.gateway.agent-update-channel"

def ChannelRelease.toJson (release : ChannelRelease) : Json :=
  .obj [("releaseId",.str release.releaseId),("buildId",.str release.buildId),("sha256",.str release.sha256)]

def UpdateChannel.toJson (channel : UpdateChannel) : Json :=
  .obj [("kind",.str channelKind),("version",.num 1),("channelId",.str channel.channelId),
    ("generation",.num channel.generation),("publishedAt",.num channel.publishedAt),
    ("release",channel.release.toJson),("mirrors",.arr (channel.mirrors.map .str))]

def SignedUpdateChannel.toJson (signed : SignedUpdateChannel) : Json :=
  .obj [("channel",signed.channel.toJson),("signer",signed.signer),("signature",signed.signature)]

def asNonnegative : Json → Option ℕ
  | .num (.ofNat n) => some n
  | _ => none

def asElements : Json → Option (List Json)
  | .arr elements => some elements
  | _ => none

/-- `strict()` -/
def hasOnly (names : List JsString) : Json → Bool
  | .obj members => members.all fun member => member.1 ∈ names
  | _ => false

def ChannelRelease.ofJson (value : Json) : Option ChannelRelease := do
  guard (hasOnly ["releaseId","buildId","sha256"] value)
  let releaseId ← (value.field "releaseId").bind asString
  let buildId ← (value.field "buildId").bind asString
  let sha256 ← (value.field "sha256").bind asString
  return ⟨releaseId,buildId,sha256⟩

/-- `gatewayAgentUpdateChannelSchema`, up to the formats of its texts. -/
def UpdateChannel.ofJson (value : Json) : Option UpdateChannel := do
  guard (hasOnly ["kind","version","channelId","generation","publishedAt","release","mirrors"] value)
  guard (value.field "kind" = some (.str channelKind) ∧ value.field "version" = some (.num 1))
  let channelId ← (value.field "channelId").bind asString
  let generation ← (value.field "generation").bind asNonnegative
  let publishedAt ← (value.field "publishedAt").bind asNonnegative
  let release ← (value.field "release").bind ChannelRelease.ofJson
  let mirrors ← ((value.field "mirrors").bind asElements).bind (·.mapM asString)
  return ⟨channelId,generation,publishedAt,release,mirrors⟩

/-- `signedGatewayAgentUpdateChannelSchema` -/
def SignedUpdateChannel.ofJson (value : Json) : Option SignedUpdateChannel := do
  guard (hasOnly ["channel","signer","signature"] value)
  let channel ← (value.field "channel").bind UpdateChannel.ofJson
  let signer ← value.field "signer"
  let signature ← value.field "signature"
  return ⟨channel,signer,signature⟩

theorem mapM_asString (texts : List JsString) : (texts.map str).mapM asString = some texts := by
  induction texts with
  | nil => rfl
  | cons text texts ih =>
    rw [List.map_cons,List.mapM_cons,ih]
    rfl

theorem ChannelRelease.ofJson_toJson (release : ChannelRelease) : ofJson release.toJson = some release := by
  have honly : hasOnly ["releaseId","buildId","sha256"] release.toJson := rfl
  rw [ofJson,honly]
  rfl

theorem UpdateChannel.ofJson_toJson (channel : UpdateChannel) : ofJson channel.toJson = some channel := by
  have honly : hasOnly ["kind","version","channelId","generation","publishedAt","release","mirrors"]
      channel.toJson := rfl
  have hrelease : (channel.toJson.field "release").bind ChannelRelease.ofJson = some channel.release :=
    channel.release.ofJson_toJson
  have hmirrors : ((channel.toJson.field "mirrors").bind asElements).bind (·.mapM asString) = some channel.mirrors :=
    mapM_asString channel.mirrors
  rw [ofJson,honly,hrelease,hmirrors]
  rfl

theorem SignedUpdateChannel.ofJson_toJson (signed : SignedUpdateChannel) : ofJson signed.toJson = some signed := by
  have honly : hasOnly ["channel","signer","signature"] signed.toJson := rfl
  have hchannel : (signed.toJson.field "channel").bind UpdateChannel.ofJson = some signed.channel :=
    signed.channel.ofJson_toJson
  rw [ofJson,honly,hchannel]
  rfl

/-- Two values with one text have one field under every name, up to the order of members. -/
theorem field_eq_of_canonicalJson {v w : Json} (h : canonicalJson v = canonicalJson w) (name : JsString) :
    (v.field name).map sortKeys = (w.field name).map sortKeys := by
  rw [← Json.field_sortKeys,← Json.field_sortKeys,Json.sortKeys_eq_of_canonicalJson h]

theorem sortElements_texts (texts : List JsString) : Json.sortElements (texts.map .str) = texts.map .str := by
  induction texts with
  | nil => rfl
  | cons text texts ih =>
    rw [List.map_cons,Json.sortElements,ih]
    rfl

theorem ChannelRelease.sortKeys_inj {a b : ChannelRelease} (h : sortKeys a.toJson = sortKeys b.toJson) : a = b := by
  have hfield (name : JsString) :
      (a.toJson.field name).map sortKeys = (b.toJson.field name).map sortKeys := by
    rw [← Json.field_sortKeys,← Json.field_sortKeys,h]
  have hreleaseId : some (str a.releaseId) = some (str b.releaseId) := hfield "releaseId"
  have hbuildId : some (str a.buildId) = some (str b.buildId) := hfield "buildId"
  have hsha256 : some (str a.sha256) = some (str b.sha256) := hfield "sha256"
  obtain ⟨releaseId,buildId,sha256⟩ := a
  cases hreleaseId
  cases hbuildId
  cases hsha256
  rfl

/-- The texts that are compared are equal only for one manifest. -/
theorem UpdateChannel.canonicalJson_inj {a b : UpdateChannel} :
    canonicalJson a.toJson = canonicalJson b.toJson ↔ a = b := by
  refine ⟨fun h => ?_,fun h => by rw [h]⟩
  have hfield := field_eq_of_canonicalJson h
  have hchannelId : some (str a.channelId) = some (str b.channelId) := hfield "channelId"
  have hgeneration : some (num a.generation) = some (num b.generation) := hfield "generation"
  have hpublishedAt : some (num a.publishedAt) = some (num b.publishedAt) := hfield "publishedAt"
  have hrelease : some (sortKeys a.release.toJson) = some (sortKeys b.release.toJson) := hfield "release"
  have hmirrors : some (sortKeys (.arr (a.mirrors.map .str))) = some (sortKeys (.arr (b.mirrors.map .str))) :=
    hfield "mirrors"
  rw [sortKeys,sortKeys,sortElements_texts,sortElements_texts,Option.some.injEq,Json.arr.injEq] at hmirrors
  have hrelease' := ChannelRelease.sortKeys_inj (Option.some.inj hrelease)
  have hmirrors' := List.map_injective_iff.mpr (fun _ _ => str.inj) hmirrors
  obtain ⟨channelId,generation,publishedAt,release,mirrors⟩ := a
  cases hchannelId
  cases hpublishedAt
  cases hrelease'
  cases hmirrors'
  obtain rfl : generation = b.generation := by simpa using hgeneration
  rfl

def setMember (name : JsString) (value : Json) (members : List (JsString × Json)) : List (JsString × Json) :=
  if members.any (·.1 = name) then members.map fun member => if member.1 = name then (name,value) else member
  else members ++ [(name,value)]

/-- `state.agentChannel` of a state that passes `validateState`. -/
def pinnedChannel (state : Json) : Option (Option SignedUpdateChannel) :=
  match state with
  | .obj members =>
    match (Json.obj members).field "agentChannel" with
    | none => some none
    | some value => (SignedUpdateChannel.ofJson value).map some
  | _ => none

def pinChannel (candidate : SignedUpdateChannel) (members : List (JsString × Json)) : Json :=
  .obj (setMember "agentChannel" candidate.toJson members)

theorem findRev_setMember (name : JsString) (value : Json) (members : List (JsString × Json)) :
    (setMember name value members).findRev? (·.1 = name) = some (name,value) := by
  rw [Json.findRev_eq_getLast,setMember]
  split
  case isTrue hany =>
    have hsame : ((fun member : JsString × Json => decide (member.1 = name)) ∘ fun member =>
        if member.1 = name then (name,value) else member) = fun member => decide (member.1 = name) := by
      funext member
      by_cases hmember : member.1 = name
      · simp [hmember]
      · simp [hmember]
    rw [List.filter_map,hsame,List.getLast?_map]
    cases hlast : (members.filter fun member => decide (member.1 = name)).getLast? with
    | none =>
      rw [List.getLast?_eq_none_iff,List.filter_eq_nil_iff] at hlast
      obtain ⟨member,hmember,hname⟩ := List.any_eq_true.mp hany
      exact absurd hname (hlast member hmember)
    | some member =>
      have hmember := List.mem_filter.mp (List.mem_of_getLast? hlast)
      rw [Option.map_some,if_pos (of_decide_eq_true hmember.2)]
  case isFalse hany =>
    have hself : [(name,value)].filter (fun member => decide (member.1 = name)) = [(name,value)] := by simp
    rw [List.filter_append,hself,List.getLast?_concat]

theorem pinnedChannel_pinChannel (candidate : SignedUpdateChannel) (members : List (JsString × Json)) :
    pinnedChannel (pinChannel candidate members) = some (some candidate) := by
  have hfield : (pinChannel candidate members).field "agentChannel" = some candidate.toJson := by
    rw [pinChannel,Json.field,findRev_setMember]
    rfl
  rw [pinChannel] at hfield ⊢
  rw [pinnedChannel,hfield]
  exact congrArg (Option.map some) (SignedUpdateChannel.ofJson_toJson candidate)

/-- A thrown `GatewayUpdateChannelConsistencyError`, or anything else that is thrown. -/
inductive ChannelError
  | consistency (message : JsString)
  | other (message : JsString)
  deriving DecidableEq

/-- The checks of `persistAgentUpdateChannel` against the state that it finds. -/
def checkPinned (candidate : SignedUpdateChannel) : Option SignedUpdateChannel → Except ChannelError Unit
  | none => .ok ()
  | some current =>
    if current.channel.channelId ≠ candidate.channel.channelId then
      .error (.consistency "Gateway Agent update channel ID changed after it was pinned")
    else if current.channel.generation > candidate.channel.generation then
      .error (.consistency "Gateway Agent update channel state advanced during refresh")
    else if current.channel.generation = candidate.channel.generation ∧
        canonicalJson current.channel.toJson ≠ canonicalJson candidate.channel.toJson then
      .error (.consistency "Gateway Agent update channel generation is equivocal")
    else .ok ()

/-- What `URL` does: the `href` of an absolute URL, of a relative one, and `encodeURIComponent`. -/
structure UrlParser where
  href : JsString → Except JsString JsString
  resolve : JsString → JsString → Except JsString JsString
  encodeURIComponent : JsString → JsString

structure ChannelConfig where
  agentChannelUrl : Option JsString
  agentPromptBaseUrl : Option JsString

def officialChannelUrl : JsString := "https://escapingbug.github.io/malink/gateway-agent-updates/channels/stable.json"

def legacyPromptBaseUrl : JsString := "https://rd.anciety.my.id/gateway-agent-updates/releases/"

def legacyChannelUrl : JsString := "https://rd.anciety.my.id/gateway-agent-updates/channels/stable.json"

/-- A text that counts as one in a condition. -/
def given (text : Option JsString) : Option JsString := text.filter JsString.truthy

def endsWithSlash (text : JsString) : Bool := text.units.getLast? = some 47

variable (urls : UrlParser)

def normalizedBaseUrl (value : Option JsString) : Except JsString (Option JsString) :=
  match given value with
  | none => .ok none
  | some base => (urls.href (if endsWithSlash base then base else base ++ ("/" : JsString))).map some

def mirrorUrls (channel : UpdateChannel) : Except JsString (List JsString) :=
  channel.mirrors.mapM
    (urls.resolve (("channels/" : JsString) ++ urls.encodeURIComponent channel.channelId ++ (".json" : JsString)))

def agentUpdateChannelUrls (config : ChannelConfig) (cached : Option SignedUpdateChannel) :
    Except JsString (List JsString) := do
  let mirrored ← match cached with
    | none => pure []
    | some pinned => mirrorUrls urls pinned.channel
  let configured ← match given config.agentChannelUrl with
    | none => pure []
    | some url => do
      let href ← urls.href url
      pure [href]
  let base ← normalizedBaseUrl urls config.agentPromptBaseUrl
  let official := if base = some legacyPromptBaseUrl then [officialChannelUrl,legacyChannelUrl] else []
  (mirrored ++ configured ++ official).eraseDups.mapM urls.href

def channelRequired (config : ChannelConfig) : Except JsString Bool :=
  if (given config.agentChannelUrl).isSome then .ok true
  else (normalizedBaseUrl urls config.agentPromptBaseUrl).map fun base => decide (base = some legacyPromptBaseUrl)

inductive Request
  | stageUpdate (releaseId : JsString)
  | readState
  | fetchAndVerifyAgentChannel (url : JsString)
  | persistAgentUpdateChannel (candidate : SignedUpdateChannel)
  | fetchAgentPromptFromChannel (releaseId : JsString) (channel : SignedUpdateChannel)
  | fetchAgentPrompt (releaseId : JsString)

abbrev Request.Reply : Request → Type
  | stageUpdate _ => Unit
  | readState => Option SignedUpdateChannel
  | fetchAndVerifyAgentChannel _ => SignedUpdateChannel
  | persistAgentUpdateChannel _ => Unit
  | fetchAgentPromptFromChannel _ _ => Json
  | fetchAgentPrompt _ => Json

abbrev Program (α : Type) := DurableProgram Unit ChannelError Request Request.Reply α

def parsed {α : Type} (result : Except JsString α) : Program α := ofExcept (result.mapError .other)

/-- What a verified candidate of a mirror leads to: a channel, or nothing when its generation was rolled back. -/
def considerCandidate (cached : Option SignedUpdateChannel) (candidate : SignedUpdateChannel) :
    Program (Option SignedUpdateChannel) :=
  match cached with
  | none => do
    perform (Request.persistAgentUpdateChannel candidate)
    return some candidate
  | some pinned =>
    if candidate.channel.channelId ≠ pinned.channel.channelId then
      .throw (.consistency "Gateway Agent update channel ID changed after it was pinned")
    else if candidate.channel.generation < pinned.channel.generation then return none
    else if candidate.channel.generation = pinned.channel.generation then
      if canonicalJson candidate.channel.toJson ≠ canonicalJson pinned.channel.toJson then
        .throw (.consistency "Gateway Agent update channel generation is equivocal")
      else return some pinned
    else do
      perform (Request.persistAgentUpdateChannel candidate)
      return some candidate

def tryMirror (cached : Option SignedUpdateChannel) (url : JsString) : Program (Option SignedUpdateChannel) := do
  let candidate ← perform (Request.fetchAndVerifyAgentChannel url)
  considerCandidate cached candidate

/-- Without an answer the cached channel stays, and the last error is thrown where there must be one. -/
def withoutAnswer (config : ChannelConfig) (cached : Option SignedUpdateChannel) (lastError : Option ChannelError) :
    Program (Option SignedUpdateChannel) :=
  match cached, lastError with
  | some cached, _ => return some cached
  | none, none => return none
  | none, some error => do
    if ← parsed (channelRequired urls config) then .throw error else return none

def tryMirrors (config : ChannelConfig) (cached : Option SignedUpdateChannel) :
    Option ChannelError → List JsString → Program (Option SignedUpdateChannel)
  | lastError, [] => withoutAnswer urls config cached lastError
  | lastError, url :: rest => (tryMirror cached url).continue_ fun
    | .ok (some channel) => return some channel
    | .ok none => tryMirrors config cached lastError rest
    | .error (.consistency message) => .throw (.consistency message)
    | .error (.other message) => tryMirrors config cached (some (.other message)) rest

def refreshAgentUpdateChannel (config : ChannelConfig) (cached : Option SignedUpdateChannel) :
    Program (Option SignedUpdateChannel) := do
  match ← parsed (agentUpdateChannelUrls urls config cached) with
  | [] => return cached
  | url :: rest => tryMirrors urls config cached none (url :: rest)

/-- The prompt comes from the channel, or from the configured place where there need not be one. -/
def fetchPrompt (config : ChannelConfig) (releaseId : JsString) : Option SignedUpdateChannel → Program Json
  | some channel => perform (Request.fetchAgentPromptFromChannel releaseId channel)
  | none => do
    if ← parsed (channelRequired urls config) then
      .throw (.other "Gateway Agent update channel could not be verified")
    else if (given config.agentPromptBaseUrl).isNone then
      .throw (.other "Gateway Agent update Prompt delivery is not configured")
    else perform (Request.fetchAgentPrompt releaseId)

def fetchAndVerifyAgentPrompt (config : ChannelConfig) (releaseId : JsString) : Program Json := do
  let cached ← perform Request.readState
  let channel ← refreshAgentUpdateChannel urls config cached
  fetchPrompt urls config releaseId channel

/-- The status `staging` is written before anything is fetched. -/
def prepareAgentUpdateOnce (config : ChannelConfig) (releaseId : JsString) : Program Json := do
  perform (Request.stageUpdate releaseId)
  fetchAndVerifyAgentPrompt urls config releaseId

def defaultState : Json :=
  .obj [("version",.num 1),("status",.obj [("version",.num 1),("phase",.str "idle"),("updatedAt",.num 0)]),
    ("restart",.obj [("version",.num 1),("phase",.str "idle"),("updatedAt",.num 0)])]

/-- The state file, and the channels that were pinned or used, in order. -/
structure Host where
  files : Security.Files
  accepted : List SignedUpdateChannel

def Host.fresh : Host := ⟨⟨none,none,none⟩,[]⟩

section

variable (allowed : Security.Files → Security.CrashPoint → Prop)

/-- What the rest of the supervisor does with the state file: it leaves the channel alone. -/
inductive OtherWrite : Host → Host → Prop
  | write {host : Host} {state : Json} {members : List (JsString × Json)} {pinned : Option SignedUpdateChannel}
    (hread : Security.read defaultState host.files = .ok state) (hpinned : pinnedChannel state = some pinned)
    (hsame : pinnedChannel (.obj members) = some pinned) :
    OtherWrite host ⟨Security.write (.obj members) host.files,host.accepted⟩
  | interrupted {host : Host} {state : Json} {members : List (JsString × Json)} {pinned : Option SignedUpdateChannel}
    {point : Security.CrashPoint} (hread : Security.read defaultState host.files = .ok state)
    (hpinned : pinnedChannel state = some pinned) (hsame : pinnedChannel (.obj members) = some pinned)
    (hallowed : allowed host.files point) :
    OtherWrite host ⟨Security.interruptedWrite (.obj members) point host.files,host.accepted⟩

/-- What a request finds and leaves. A write that is interrupted ends the run or throws. -/
inductive Answers : Host → (request : Request) → Except ChannelError request.Reply → Host → Prop
  | fails (host : Host) (request : Request) (message : JsString) :
    Answers host request (.error (.other message)) host
  | staged {host : Host} {state : Json} {members : List (JsString × Json)} {pinned : Option SignedUpdateChannel}
    (releaseId : JsString) (hread : Security.read defaultState host.files = .ok state)
    (hpinned : pinnedChannel state = some pinned) (hsame : pinnedChannel (.obj members) = some pinned) :
    Answers host (.stageUpdate releaseId) (.ok ()) ⟨Security.write (.obj members) host.files,host.accepted⟩
  | read {host : Host} {state : Json} {pinned : Option SignedUpdateChannel}
    (hread : Security.read defaultState host.files = .ok state) (hpinned : pinnedChannel state = some pinned) :
    Answers host .readState (.ok pinned) ⟨host.files,host.accepted ++ pinned.toList⟩
  | fetched (host : Host) (url : JsString) (candidate : SignedUpdateChannel) :
    Answers host (.fetchAndVerifyAgentChannel url) (.ok candidate) host
  | refused {host : Host} {state : Json} {candidate : SignedUpdateChannel} {pinned : Option SignedUpdateChannel}
    {error : ChannelError} (hread : Security.read defaultState host.files = .ok state)
    (hpinned : pinnedChannel state = some pinned) (hcheck : checkPinned candidate pinned = .error error) :
    Answers host (.persistAgentUpdateChannel candidate) (.error error) host
  | persisted {host : Host} {members : List (JsString × Json)} {candidate : SignedUpdateChannel}
    {pinned : Option SignedUpdateChannel} (hread : Security.read defaultState host.files = .ok (.obj members))
    (hpinned : pinnedChannel (.obj members) = some pinned) (hcheck : checkPinned candidate pinned = .ok ()) :
    Answers host (.persistAgentUpdateChannel candidate) (.ok ())
      ⟨Security.write (pinChannel candidate members) host.files,host.accepted ++ [candidate]⟩
  | interrupted {host : Host} {members : List (JsString × Json)} {candidate : SignedUpdateChannel}
    {pinned : Option SignedUpdateChannel} {point : Security.CrashPoint}
    (hread : Security.read defaultState host.files = .ok (.obj members))
    (hpinned : pinnedChannel (.obj members) = some pinned) (hcheck : checkPinned candidate pinned = .ok ())
    (hallowed : allowed host.files point) (message : JsString) :
    Answers host (.persistAgentUpdateChannel candidate) (.error (.other message))
      ⟨Security.interruptedWrite (pinChannel candidate members) point host.files,host.accepted⟩
  | used (host : Host) (releaseId : JsString) (channel : SignedUpdateChannel) (reply : Except ChannelError Json) :
    Answers host (.fetchAgentPromptFromChannel releaseId channel) reply ⟨host.files,host.accepted ++ [channel]⟩
  | prompt (host : Host) (releaseId : JsString) (reply : Except ChannelError Json) :
    Answers host (.fetchAgentPrompt releaseId) reply host

/-- The rest of the supervisor writes while a request waits for its answer. -/
def Replies (host : Host) (request : Request) (reply : Except ChannelError request.Reply) (host' : Host) : Prop :=
  ∃ between, Relation.ReflTransGen (OtherWrite allowed) host between ∧ Answers allowed between request reply host'

/-- The calls run one after the other, as `serializeRequest` has them. Each may end at any step, since the process may
crash, and be followed by others in a process with another configuration. -/
inductive Runs : Host → Prop
  | fresh : Runs .fresh
  | call {host host' : Host} {program : Program Json} (config : ChannelConfig) (releaseId : JsString) (h : Runs host)
    (hs : Steps (Replies allowed) (prepareAgentUpdateOnce urls config releaseId) () host program () host') :
    Runs host'
  | other {host host' : Host} (h : Runs host) (hother : OtherWrite allowed host host') : Runs host'

end

end Malink.Supervisor.Channel
