import Malink.PairingHost

/-!
# Secure envelopes are opened once

An envelope is addressed to one device, a bundle to several. A call reads the clock, waits for the cryptography of its
host, reads the clock again and claims the envelope in the replay store.
-/

namespace Malink.Security

open Workspace (Signature)
open Pairing (require claimAll)

open List

inductive Direction
  | deviceToGateway
  | gatewayToDevice
  deriving DecidableEq

def Direction.text : Direction → JsString
  | deviceToGateway => "device_to_gateway"
  | gatewayToDevice => "gateway_to_device"

structure EnvelopeHeader where
  envelopeId : JsString
  gatewayId : JsString
  conversationId : JsString
  direction : Direction
  senderDeviceId : JsString
  senderKeyId : JsString
  issuedAt : ℕ
  expiresAt : ℕ
  nonce : JsString
  deriving DecidableEq

structure BundleRecipient where
  recipientDeviceId : JsString
  recipientKeyId : JsString
  nonce : JsString
  wrappedKey : JsString
  deriving DecidableEq

inductive Recipients
  | envelope (recipientDeviceId recipientKeyId : JsString)
  | bundle (recipients : List BundleRecipient)
  deriving DecidableEq

structure SecureEnvelope where
  header : EnvelopeHeader
  recipients : Recipients
  ciphertext : JsString
  deriving DecidableEq

structure SignedSecureEnvelope where
  envelope : SecureEnvelope
  signature : Signature
  deriving DecidableEq

/-- What the caller expects, `recipientDeviceId` and `recipientKeyId` are its own. -/
structure OpenOptions where
  recipientPrivateKey : Json
  senderPublicKey : Json
  gatewayId : JsString
  conversationId : JsString
  direction : Direction
  senderDeviceId : JsString
  senderKeyId : JsString
  recipientDeviceId : JsString
  recipientKeyId : JsString
  maxFutureSkewMs : Option ℕ

structure EnvelopeCrypto where
  schema : SignedSecureEnvelope → Except JsString Unit
  keyIdForPrivate : Json → Except JsString JsString
  publicKeyId : Json → Except JsString JsString
  verify : Json → SecureEnvelope → JsString → Bool
  nonceLength : JsString → ℕ
  decrypt : OpenOptions → SecureEnvelope → Option BundleRecipient → Option Json
  plaintextSchema : Json → Except JsString Json

def MAX_LIFETIME_MS : ℕ := 366 * 24 * 60 * 60000
def DEFAULT_FUTURE_SKEW_MS : ℕ := 30000

/-- The name of the kind in error texts. -/
def Recipients.label : Recipients → JsString
  | envelope _ _ => "Secure envelope"
  | bundle _ => "Secure envelope bundle"

def BundleRecipient.Addressed (options : OpenOptions) (recipient : BundleRecipient) : Prop :=
  recipient.recipientDeviceId = options.recipientDeviceId ∧ recipient.recipientKeyId = options.recipientKeyId

instance (options : OpenOptions) (recipient : BundleRecipient) : Decidable (recipient.Addressed options) :=
  inferInstanceAs (Decidable (_ ∧ _))

section

variable (crypto : EnvelopeCrypto) (signed : SignedSecureEnvelope) (options : OpenOptions)

/-- `assertExpectedBindings` and `assertExpectedBundleBindings` -/
def assertBindings : Except JsString Unit := do
  let header := signed.envelope.header
  let label := signed.envelope.recipients.label
  require (header.gatewayId = options.gatewayId) (label ++ " gatewayId binding is incorrect")
  require (header.conversationId = options.conversationId) (label ++ " conversationId binding is incorrect")
  require (header.direction = options.direction) (label ++ " direction binding is incorrect")
  require (header.senderDeviceId = options.senderDeviceId) (label ++ " senderDeviceId binding is incorrect")
  match signed.envelope.recipients with
  | .envelope recipientDeviceId recipientKeyId => do
    require (recipientDeviceId = options.recipientDeviceId) (label ++ " recipientDeviceId binding is incorrect")
    require (header.senderKeyId = options.senderKeyId) (label ++ " senderKeyId binding is incorrect")
    require (recipientKeyId = options.recipientKeyId) (label ++ " recipientKeyId binding is incorrect")
  | .bundle recipients => do
    require (header.senderKeyId = options.senderKeyId) (label ++ " senderKeyId binding is incorrect")
    require (∃ recipient ∈ recipients,recipient.Addressed options) (label ++ " recipient binding is incorrect")

def assertTimeWindow (header : EnvelopeHeader) (now : ℕ) : Except JsString Unit := do
  require (now < header.expiresAt) "Secure envelope has expired"
  require (header.issuedAt ≤ now + options.maxFutureSkewMs.getD DEFAULT_FUTURE_SKEW_MS)
    "Secure envelope issue time is too far in the future"
  require (header.expiresAt - header.issuedAt ≤ MAX_LIFETIME_MS) "Secure envelope validity window exceeds policy"

/-- What a call checks before its first `await`. -/
def startOpen (now : ℕ) : Except JsString Unit := do
  crypto.schema signed
  assertBindings signed options
  assertTimeWindow options signed.envelope.header now

/-- The recipient of a bundle that the caller is. -/
def addressed : Option BundleRecipient :=
  match signed.envelope.recipients with
  | .envelope _ _ => none
  | .bundle recipients => recipients.find? fun recipient => recipient.Addressed options

/-- What a call does up to the claim. -/
def authenticate : Except JsString Json := do
  let label := signed.envelope.recipients.label
  let ownKeyId ← crypto.keyIdForPrivate options.recipientPrivateKey
  require (ownKeyId = options.recipientKeyId) (label ++ " recipient key ID is incorrect")
  let senderKeyId ← crypto.publicKeyId options.senderPublicKey
  require (senderKeyId = options.senderKeyId) (label ++ " sender key ID is incorrect")
  require (signed.signature.keyId = signed.envelope.header.senderKeyId ∧
    crypto.verify options.senderPublicKey signed.envelope signed.signature.value)
    (label ++ " signature is invalid")
  require (∀ nonce ∈ signed.envelope.header.nonce ::
      (addressed signed options).toList.map (fun recipient : BundleRecipient => recipient.nonce),
    crypto.nonceLength nonce = 12) "Invalid AES-GCM nonce"
  match crypto.decrypt options signed.envelope (addressed signed options) with
  | none => .error (label ++ " authentication failed")
  | some decoded => crypto.plaintextSchema decoded

/-- The device that is claimed for: of an envelope it is the one that is named there. -/
def recipientDevice : JsString :=
  match signed.envelope.recipients with
  | .envelope recipientDeviceId _ => recipientDeviceId
  | .bundle _ => options.recipientDeviceId

def replayScope : JsString :=
  let header := signed.envelope.header
  Json.canonicalJson (.arr [.str header.gatewayId,.str header.conversationId,.str header.direction.text,
    .str header.senderDeviceId,.str (recipientDevice signed options)])

def envelopeKey : JsString :=
  replayScope signed options ++ (match signed.envelope.recipients with
    | .envelope _ _ => ":envelope:"
    | .bundle _ => ":bundle:") ++ signed.envelope.header.envelopeId

def replayClaims : List (JsString × ℕ) :=
  ([envelopeKey signed options,replayScope signed options ++ ":nonce:" ++ signed.envelope.header.nonce] ++
    (addressed signed options).toList.map fun recipient =>
      replayScope signed options ++ ":wrapped-key-nonce:" ++ recipient.nonce).map
    fun key => (key,signed.envelope.header.expiresAt)

end

inductive OpenPhase
  /-- in the cryptography -/
  | checked
  /-- the clock has been read for the claim -/
  | claiming (now : ℕ) (plaintext : Json)
  /-- claimed at a time of the clock, and returned -/
  | opened (claimedAt : ℕ) (plaintext : Json)
  | failed (message : JsString)

structure OpenCall where
  signed : SignedSecureEnvelope
  options : OpenOptions
  phase : OpenPhase

namespace OpenCall

variable (call : OpenCall)

def expiresAt : ℕ := call.signed.envelope.header.expiresAt

def Opened : Prop := ∃ claimedAt plaintext, call.phase = .opened claimedAt plaintext

def InFlight : Prop := call.phase = .checked ∨ ∃ now plaintext, call.phase = .claiming now plaintext

end OpenCall

structure OpenHost where
  clock : ℕ
  claims : InsertionMap JsString ℕ
  calls : List OpenCall

def OpenHost.work (host : OpenHost) (index : ℕ) (call : OpenCall) (phase : OpenPhase) : OpenHost :=
  { host with calls := host.calls.set index { call with phase } }

inductive OpenEvent
  | tick (clock : ℕ)
  | start (signed : SignedSecureEnvelope) (options : OpenOptions)
  | authenticated (index : ℕ)
  | claimed (index : ℕ)
  | failed (index : ℕ)

variable (crypto : EnvelopeCrypto)

def openCall (signed : SignedSecureEnvelope) (options : OpenOptions) (now : ℕ) : OpenCall :=
  ⟨signed,options,match startOpen crypto signed options now with
    | .ok _ => .checked
    | .error message => .failed message⟩

/-- The calls of all processes. One that is not scheduled any more has died. -/
inductive OpenStep : OpenHost → OpenEvent → OpenHost → Prop
  | tick (host : OpenHost) (clock : ℕ) (h : host.clock ≤ clock) : OpenStep host (.tick clock) { host with clock }
  | start (host : OpenHost) (signed : SignedSecureEnvelope) (options : OpenOptions) :
    OpenStep host (.start signed options)
      { host with calls := host.calls ++ [openCall crypto signed options host.clock] }
  | authenticated (host : OpenHost) (index : ℕ) (call : OpenCall) (h : host.calls[index]? = some call)
    (hphase : call.phase = .checked) : OpenStep host (.authenticated index) (host.work index call
      (match authenticate crypto call.signed call.options with
        | .ok plaintext => .claiming host.clock plaintext
        | .error message => .failed message))
  | claimed (host : OpenHost) (index now : ℕ) (call : OpenCall) (plaintext : Json)
    (h : host.calls[index]? = some call) (hphase : call.phase = .claiming now plaintext) :
    OpenStep host (.claimed index)
      { host.work index call (if (claimAll host.claims (replayClaims call.signed call.options) now).1 = true
          then .opened host.clock plaintext else .failed "Secure envelope was already opened") with
        claims := (claimAll host.claims (replayClaims call.signed call.options) now).2 }
  /-- The transaction fails before or after it has been done. -/
  | failed (host : OpenHost) (index now : ℕ) (call : OpenCall) (plaintext : Json) (message : JsString)
    (claims : InsertionMap JsString ℕ) (h : host.calls[index]? = some call)
    (hphase : call.phase = .claiming now plaintext)
    (hclaims : claims = host.claims ∨ claims = (claimAll host.claims (replayClaims call.signed call.options) now).2) :
    OpenStep host (.failed index) { host.work index call (.failed message) with claims }

inductive OpenRun (allowed : OpenHost → OpenEvent → Prop) : OpenHost → Prop
  | initial (clock : ℕ) : OpenRun allowed ⟨clock,.empty,[]⟩
  | step {host host' : OpenHost} {event : OpenEvent} (h : OpenRun allowed host)
    (hstep : OpenStep crypto host event host') (hallowed : allowed host event) : OpenRun allowed host'

/-- No envelope expires while a call opens it. -/
def InTime (host : OpenHost) : OpenEvent → Prop
  | .tick clock => ∀ call ∈ host.calls, call.InFlight → clock < call.expiresAt
  | _ => True

/-- Each envelope is opened by one call at most, a bundle by one for each recipient, and none after it has expired. -/
structure OpensOnce (host : OpenHost) : Prop where
  once : ∀ (i j : ℕ) (call call' : OpenCall), host.calls[i]? = some call → host.calls[j]? = some call' → call.Opened →
    call'.Opened → call.signed.envelope = call'.signed.envelope →
    recipientDevice call.signed call.options = recipientDevice call'.signed call'.options → i = j
  inTime : ∀ call ∈ host.calls, ∀ claimedAt plaintext, call.phase = .opened claimedAt plaintext →
    claimedAt < call.expiresAt

theorem get_foldl_claims {claims : List (JsString × ℕ)} {stored : InsertionMap JsString ℕ} {key : JsString} {value : ℕ}
    (hvalue : ∀ claim ∈ claims,claim.1 = key → claim.2 = value)
    (h : key ∈ claims.map Prod.fst ∨ stored.get key = some value) :
    (claims.foldl (fun kept claim => kept.set claim.1 claim.2) stored).get key = some value := by
  induction claims generalizing stored with
  | nil => exact h.resolve_left not_mem_nil
  | cons claim claims ih =>
    refine ih (fun other hother => hvalue other (mem_cons_of_mem _ hother)) ?_
    by_cases heq : claim.1 = key
    · refine .inr ?_
      rw [← hvalue claim mem_cons_self heq,← heq,InsertionMap.get_set_self]
    · rcases h with h | h
      · rcases mem_cons.mp h with hhead | htail
        · exact absurd hhead.symm heq
        · exact .inl htail
      · exact .inr ((InsertionMap.get_set_of_ne stored claim.2 (Ne.symm heq)).trans h)

section

variable {stored : InsertionMap JsString ℕ} {signed : SignedSecureEnvelope} {options : OpenOptions} {now : ℕ}

theorem claimAll_keeps {claims : List (JsString × ℕ)} {key : JsString} {expiresAt : ℕ}
    (h : stored.get key = some expiresAt) (hnow : now < expiresAt) :
    (claimAll stored claims now).2.get key = some expiresAt := by
  have hkept : (stored.filter fun _ expiresAt => decide (now < expiresAt)).get key = some expiresAt :=
    InsertionMap.get_filter.mpr ⟨h,decide_eq_true hnow⟩
  rw [claimAll]
  split
  · exact hkept
  · next hnew =>
    refine get_foldl_claims (fun claim hclaim heq => ?_) (.inr hkept)
    have hhas : claims.any (fun claim =>
        (stored.filter fun _ expiresAt => decide (now < expiresAt)).has claim.1) = true := by
      refine any_eq_true.mpr ⟨claim,hclaim,InsertionMap.has_iff.mpr ⟨expiresAt,?_⟩⟩
      rw [heq]
      exact hkept
    exact absurd hhas hnew

theorem envelopeKey_mem : (envelopeKey signed options,signed.envelope.header.expiresAt) ∈ replayClaims signed options :=
  mem_cons_self

/-- An envelope that has been claimed is recorded, and was not recorded before. -/
theorem claimAll_accepts (h : (claimAll stored (replayClaims signed options) now).1) :
    (claimAll stored (replayClaims signed options) now).2.get (envelopeKey signed options) =
        some signed.envelope.header.expiresAt ∧
      ∀ expiresAt, stored.get (envelopeKey signed options) = some expiresAt → expiresAt ≤ now := by
  rw [claimAll] at h ⊢
  split at h
  · cases h
  · next hnew =>
    rw [if_neg hnew]
    refine ⟨get_foldl_claims (fun claim hclaim _ => ?_) (.inl (mem_map_of_mem envelopeKey_mem)),?_⟩
    · obtain ⟨key,-,rfl⟩ := mem_map.mp hclaim
      rfl
    · intro expiresAt hget
      by_contra hlater
      refine hnew (any_eq_true.mpr ⟨_,envelopeKey_mem,InsertionMap.has_iff.mpr ⟨expiresAt,?_⟩⟩)
      exact InsertionMap.get_filter.mpr ⟨hget,decide_eq_true (Nat.lt_of_not_le hlater)⟩

end

/-- What holds of the host after every step. -/
structure OpenSound (host : OpenHost) : Prop extends OpensOnce host where
  flying : ∀ call ∈ host.calls, call.InFlight → host.clock < call.expiresAt
  reading : ∀ call ∈ host.calls, ∀ now plaintext, call.phase = .claiming now plaintext → now ≤ host.clock
  claimed : ∀ call ∈ host.calls, call.Opened → host.clock < call.expiresAt →
    host.claims.get (envelopeKey call.signed call.options) = some call.expiresAt

variable {crypto} {host host' : OpenHost} {event : OpenEvent} {call : OpenCall}

theorem OpenCall.envelopeKey_eq {call' : OpenCall} (henvelope : call.signed.envelope = call'.signed.envelope)
    (hdevice : recipientDevice call.signed call.options = recipientDevice call'.signed call'.options) :
    envelopeKey call.signed call.options = envelopeKey call'.signed call'.options := by
  rw [envelopeKey,envelopeKey,replayScope,replayScope,henvelope,hdevice]

theorem expiresAt_of_startOpen {signed : SignedSecureEnvelope} {options : OpenOptions} {now : ℕ} {u : Unit}
    (h : startOpen crypto signed options now = .ok u) : now < signed.envelope.header.expiresAt := by
  obtain ⟨_,-,h⟩ := bind_eq_ok.mp h
  obtain ⟨_,-,h⟩ := bind_eq_ok.mp h
  obtain ⟨_,hexpires,-⟩ := bind_eq_ok.mp h
  exact Pairing.require_eq_ok.mp hexpires

/-- A call that starts waits for the cryptography, or has failed. -/
theorem openCall_phase (signed : SignedSecureEnvelope) (options : OpenOptions) (now : ℕ) :
    ((openCall crypto signed options now).phase = .checked ∧ now < (openCall crypto signed options now).expiresAt) ∨
      ∃ message, (openCall crypto signed options now).phase = .failed message := by
  rw [openCall]
  cases hchecked : startOpen crypto signed options now with
  | error message => exact .inr ⟨message,rfl⟩
  | ok u => exact .inl ⟨rfl,expiresAt_of_startOpen hchecked⟩

/-- A call goes on to another phase, in which it has not opened its envelope, or that is not recorded yet. -/
theorem OpenSound.work (h : OpenSound host) {index : ℕ} (hcall : host.calls[index]? = some call)
    (phase : OpenPhase) (claims : InsertionMap JsString ℕ)
    (hclaims : ∀ key expiresAt,host.claims.get key = some expiresAt → host.clock < expiresAt →
      claims.get key = some expiresAt)
    (hflying : ({ call with phase } : OpenCall).InFlight → host.clock < call.expiresAt)
    (hreading : ∀ now plaintext,phase = .claiming now plaintext → now ≤ host.clock)
    (hopened : ∀ claimedAt plaintext,phase = .opened claimedAt plaintext → claimedAt < call.expiresAt ∧
      claims.get (envelopeKey call.signed call.options) = some call.expiresAt ∧
        host.claims.get (envelopeKey call.signed call.options) ≠ some call.expiresAt ∧ host.clock < call.expiresAt) :
    OpenSound { host.work index call phase with claims } := by
  have hmem {other : OpenCall} (hother : other ∈ host.calls.set index { call with phase }) :
      other ∈ host.calls ∨ other = { call with phase } := mem_or_eq_of_mem_set hother
  have hindexed {i : ℕ} {other : OpenCall} (hother : (host.calls.set index { call with phase })[i]? = some other) :
      (i = index ∧ other = { call with phase }) ∨ host.calls[i]? = some other := by
    rw [getElem?_set] at hother
    split at hother
    · next heq =>
      split at hother
      · exact .inl ⟨heq.symm,(Option.some.inj hother).symm⟩
      · cases hother
    · exact .inr hother
  -- the envelope of the call is not one that another call has opened
  have hnew {other : OpenCall} (hother : other ∈ host.calls) (hotherOpened : other.Opened)
      (hcallOpened : ({ call with phase } : OpenCall).Opened)
      (henvelope : call.signed.envelope = other.signed.envelope)
      (hdevice : recipientDevice call.signed call.options = recipientDevice other.signed other.options) : False := by
    obtain ⟨claimedAt,plaintext,hphase⟩ := hcallOpened
    obtain ⟨-,-,hnot,htime⟩ := hopened claimedAt plaintext hphase
    have hsame : other.expiresAt = call.expiresAt := congrArg (·.header.expiresAt) henvelope.symm
    rw [OpenCall.envelopeKey_eq henvelope hdevice,← hsame] at hnot
    exact hnot (h.claimed other hother hotherOpened (hsame ▸ htime))
  refine ⟨⟨?_,?_⟩,?_,?_,?_⟩
  · intro i j first second hfirst hsecond hfirstOpened hsecondOpened henvelope hdevice
    rcases hindexed hfirst with ⟨rfl,rfl⟩ | hfirst'
    · rcases hindexed hsecond with ⟨rfl,-⟩ | hsecond'
      · rfl
      · exact (hnew (mem_of_getElem? hsecond') hsecondOpened hfirstOpened henvelope hdevice).elim
    · rcases hindexed hsecond with ⟨rfl,rfl⟩ | hsecond'
      · exact (hnew (mem_of_getElem? hfirst') hfirstOpened hsecondOpened henvelope.symm hdevice.symm).elim
      · exact h.once i j first second hfirst' hsecond' hfirstOpened hsecondOpened henvelope hdevice
  · intro other hother claimedAt plaintext hphase
    rcases hmem hother with hother | rfl
    · exact h.inTime other hother claimedAt plaintext hphase
    · exact (hopened claimedAt plaintext hphase).1
  · intro other hother hinFlight
    rcases hmem hother with hother | rfl
    · exact h.flying other hother hinFlight
    · exact hflying hinFlight
  · intro other hother now plaintext hphase
    rcases hmem hother with hother | rfl
    · exact h.reading other hother now plaintext hphase
    · exact hreading now plaintext hphase
  · intro other hother hotherOpened htime
    rcases hmem hother with hother | rfl
    · exact hclaims _ _ (h.claimed other hother hotherOpened htime) htime
    · obtain ⟨claimedAt,plaintext,hphase⟩ := hotherOpened
      exact (hopened claimedAt plaintext hphase).2.1

/-- A new call has neither opened its envelope nor read the clock for its claim. -/
theorem OpenSound.append (h : OpenSound host)
    (hphase : (call.phase = .checked ∧ host.clock < call.expiresAt) ∨ ∃ message,call.phase = .failed message) :
    OpenSound { host with calls := host.calls ++ [call] } := by
  have hnotOpened (claimedAt : ℕ) (plaintext : Json) : call.phase ≠ .opened claimedAt plaintext := by
    rcases hphase with ⟨hphase,-⟩ | ⟨message,hphase⟩ <;> simp [hphase]
  have hnotClaiming (now : ℕ) (plaintext : Json) : call.phase ≠ .claiming now plaintext := by
    rcases hphase with ⟨hphase,-⟩ | ⟨message,hphase⟩ <;> simp [hphase]
  have hmem {other : OpenCall} (hother : other ∈ host.calls ++ [call]) : other ∈ host.calls ∨ other = call :=
    (mem_append.mp hother).imp_right mem_singleton.mp
  have hindexed {i : ℕ} {other : OpenCall} (hother : (host.calls ++ [call])[i]? = some other) (hopened : other.Opened) :
      host.calls[i]? = some other := by
    rw [getElem?_append] at hother
    split at hother
    · exact hother
    · rw [mem_singleton.mp (mem_of_getElem? hother)] at hopened
      obtain ⟨claimedAt,plaintext,heq⟩ := hopened
      exact absurd heq (hnotOpened claimedAt plaintext)
  refine ⟨⟨?_,?_⟩,?_,?_,?_⟩
  · intro i j first second hfirst hsecond hfirstOpened hsecondOpened
    exact h.once i j first second (hindexed hfirst hfirstOpened) (hindexed hsecond hsecondOpened) hfirstOpened
      hsecondOpened
  · intro other hother claimedAt plaintext heq
    rcases hmem hother with hother | rfl
    · exact h.inTime other hother claimedAt plaintext heq
    · exact absurd heq (hnotOpened claimedAt plaintext)
  · intro other hother hinFlight
    rcases hmem hother with hother | rfl
    · exact h.flying other hother hinFlight
    · rcases hinFlight with hchecked | ⟨now,plaintext,hclaiming⟩
      · rcases hphase with ⟨-,hlive⟩ | ⟨message,hfailed⟩
        · exact hlive
        · rw [hfailed] at hchecked
          cases hchecked
      · exact absurd hclaiming (hnotClaiming now plaintext)
  · intro other hother now plaintext heq
    rcases hmem hother with hother | rfl
    · exact h.reading other hother now plaintext heq
    · exact absurd heq (hnotClaiming now plaintext)
  · intro other hother hopened hlive
    rcases hmem hother with hother | rfl
    · exact h.claimed other hother hopened hlive
    · obtain ⟨claimedAt,plaintext,heq⟩ := hopened
      exact absurd heq (hnotOpened claimedAt plaintext)

theorem OpenSound.step (h : OpenSound host) (hstep : OpenStep crypto host event host') (htime : InTime host event) :
    OpenSound host' := by
  cases hstep with
  | tick clock hclock =>
    exact ⟨⟨h.once,h.inTime⟩,htime,fun call hcall now plaintext hphase =>
      (h.reading call hcall now plaintext hphase).trans hclock,fun call hcall hopened hlt =>
        h.claimed call hcall hopened (hclock.trans_lt hlt)⟩
  | start signed options => exact h.append (openCall_phase signed options host.clock)
  | authenticated index call hcall hphase =>
    refine h.work hcall _ host.claims (fun _ _ hget _ => hget) (fun _ => ?_) ?_ ?_
    · exact h.flying call (mem_of_getElem? hcall) (.inl hphase)
    · intro now plaintext hnext
      split at hnext
      · cases hnext
        exact le_refl _
      · cases hnext
    · intro claimedAt plaintext hnext
      split at hnext
      · cases hnext
      · cases hnext
  | claimed index now call plaintext hcall hphase =>
    have hmem := mem_of_getElem? hcall
    have hnow := h.reading call hmem now plaintext hphase
    have hlive := h.flying call hmem (.inr ⟨now,plaintext,hphase⟩)
    refine h.work hcall _ _ (fun key expiresAt hget hlt => claimAll_keeps hget (hnow.trans_lt hlt)) (fun _ => hlive)
      ?_ ?_
    · intro now' plaintext' hnext
      split at hnext
      · cases hnext
      · cases hnext
    · intro claimedAt plaintext' hnext
      split at hnext
      · next haccepted =>
        cases hnext
        obtain ⟨hget,hbefore⟩ := claimAll_accepts haccepted
        exact ⟨hlive,hget,fun hrecorded => absurd (hbefore _ hrecorded) (hnow.trans_lt hlive).not_ge,hlive⟩
      · cases hnext
  | failed index now call plaintext message claims hcall hphase hclaims =>
    have hnow := h.reading call (mem_of_getElem? hcall) now plaintext hphase
    refine h.work hcall _ claims (fun key expiresAt hget hlt => ?_) (fun hinFlight => ?_)
      (fun _ _ hnext => by cases hnext) fun _ _ hnext => by cases hnext
    · rcases hclaims with rfl | rfl
      · exact hget
      · exact claimAll_keeps hget (hnow.trans_lt hlt)
    · rcases hinFlight with hnext | ⟨_,_,hnext⟩
      · cases hnext
      · cases hnext

theorem OpenSound.run (h : OpenRun crypto InTime host) : OpenSound host := by
  induction h with
  | initial clock =>
    refine ⟨⟨?_,?_⟩,?_,?_,?_⟩
    · intro i j call call' hcall
      cases hcall
    · intro call hcall
      cases hcall
    · intro call hcall
      cases hcall
    · intro call hcall
      cases hcall
    · intro call hcall
      cases hcall
  | step _ hstep htime ih => exact ih.step hstep htime

/-- In every run in which no envelope expires while a call opens it, each is opened once and in time. -/
theorem opens_once (crypto : EnvelopeCrypto) (host : OpenHost) (h : OpenRun crypto InTime host) : OpensOnce host :=
  (OpenSound.run h).toOpensOnce

def sampleSigned : SignedSecureEnvelope where
  envelope :=
    { header :=
        { envelopeId := "envelope-1", gatewayId := "gateway", conversationId := "!room", direction := .deviceToGateway
          senderDeviceId := "device", senderKeyId := "device-key", issuedAt := 0, expiresAt := 1000, nonce := "nonce" }
      recipients := .envelope "gateway" "gateway-key"
      ciphertext := "text" }
  signature := ⟨"device-key","signature"⟩

def sampleOptions : OpenOptions where
  recipientPrivateKey := .null
  senderPublicKey := .null
  gatewayId := "gateway"
  conversationId := "!room"
  direction := .deviceToGateway
  senderDeviceId := "device"
  senderKeyId := "device-key"
  recipientDeviceId := "gateway"
  recipientKeyId := "gateway-key"
  maxFutureSkewMs := none

def sampleCrypto : EnvelopeCrypto where
  schema _ := .ok ()
  keyIdForPrivate _ := .ok "gateway-key"
  publicKeyId _ := .ok "device-key"
  verify _ _ _ := true
  nonceLength _ := 12
  decrypt _ _ _ := some .null
  plaintextSchema decoded := .ok decoded

def sampleCall (phase : OpenPhase) : OpenCall := ⟨sampleSigned,sampleOptions,phase⟩

def sampleClaims (now : ℕ) (claims : InsertionMap JsString ℕ) : InsertionMap JsString ℕ :=
  (claimAll claims (replayClaims sampleSigned sampleOptions) now).2

theorem openCall_sample : openCall sampleCrypto sampleSigned sampleOptions 0 = sampleCall .checked := rfl

section

variable {allowed : OpenHost → OpenEvent → Prop} {clock : ℕ} {claims : InsertionMap JsString ℕ} {calls : List OpenCall}

theorem OpenRun.start (h : OpenRun sampleCrypto allowed ⟨0,claims,calls⟩)
    (hallowed : allowed ⟨0,claims,calls⟩ (.start sampleSigned sampleOptions)) :
    OpenRun sampleCrypto allowed ⟨0,claims,calls ++ [sampleCall .checked]⟩ :=
  .step h (openCall_sample ▸ .start _ sampleSigned sampleOptions) hallowed

theorem OpenRun.authenticated (h : OpenRun sampleCrypto allowed ⟨clock,claims,calls⟩) (index : ℕ)
    (hcall : calls[index]? = some (sampleCall .checked))
    (hallowed : allowed ⟨clock,claims,calls⟩ (.authenticated index)) :
    OpenRun sampleCrypto allowed ⟨clock,claims,calls.set index (sampleCall (.claiming clock .null))⟩ :=
  .step h (.authenticated ⟨clock,claims,calls⟩ index _ hcall rfl) hallowed

theorem OpenRun.claimed (h : OpenRun sampleCrypto allowed ⟨clock,claims,calls⟩) (index now : ℕ) {accepted : Bool}
    (hcall : calls[index]? = some (sampleCall (.claiming now .null)))
    (haccepted : (claimAll claims (replayClaims sampleSigned sampleOptions) now).1 = accepted)
    (hallowed : allowed ⟨clock,claims,calls⟩ (.claimed index)) :
    OpenRun sampleCrypto allowed ⟨clock,sampleClaims now claims,calls.set index
      (sampleCall (if accepted then .opened clock .null else .failed "Secure envelope was already opened"))⟩ := by
  have hstep : OpenStep sampleCrypto _ _ _ := .claimed ⟨clock,claims,calls⟩ index now _ .null hcall rfl
  rw [← haccepted]
  exact .step h hstep hallowed

end

/-- Two calls of one envelope: the second is authenticated later, within the validity, and is refused. -/
theorem opens_once_sample : ∃ host, host.calls = [sampleCall (.opened 0 .null),
    sampleCall (.failed "Secure envelope was already opened")] ∧ host.clock = 500 ∧ OpensOnce host := by
  have hinitial : OpenRun sampleCrypto InTime _ := .initial 0
  have hstarted := (hinitial.start trivial).start trivial
  have hclaimed := (hstarted.authenticated 0 rfl trivial).claimed 0 0 rfl (rfl : _ = true) trivial
  have hlater := OpenRun.step hclaimed (.tick _ 500 (Nat.zero_le _)) (by simp [InTime,OpenCall.expiresAt,sampleCall,
    sampleSigned])
  have hopened : (claimAll (sampleClaims 0 .empty) (replayClaims sampleSigned sampleOptions) 500).1 = false := by
    decide +kernel
  have hrefused := (hlater.authenticated 1 rfl trivial).claimed 1 500 rfl hopened trivial
  exact ⟨_,rfl,rfl,opens_once _ _ hrefused⟩

/-- Two calls check the same envelope. It expires when the first has claimed it, and the claim is pruned. -/
theorem opened_twice : ¬ ∀ (crypto : EnvelopeCrypto) (host : OpenHost), OpenRun crypto (fun _ _ => True) host →
    OpensOnce host := by
  intro h
  have hinitial : OpenRun sampleCrypto (fun _ _ => True) _ := .initial 0
  have hstarted := (hinitial.start trivial).start trivial
  have hclaimed := (hstarted.authenticated 0 rfl trivial).claimed 0 0 rfl (rfl : _ = true) trivial
  have hexpired := OpenRun.step hclaimed (.tick _ 2000 (Nat.zero_le _)) trivial
  have haccepted : (claimAll (sampleClaims 0 .empty) (replayClaims sampleSigned sampleOptions) 2000).1 := by
    decide +kernel
  have htwice := (hexpired.authenticated 1 rfl trivial).claimed 1 2000 rfl haccepted trivial
  exact absurd ((h _ _ htwice).once 0 1 _ _ rfl rfl ⟨0,.null,rfl⟩ ⟨2000,.null,rfl⟩ rfl rfl) (by decide)

end Malink.Security
