import Malink.SecureEnvelopes

/-!
# Gateway enrollment

An invitation, to which a new Gateway sends one request, which is approved or cancelled. A call reads the file in one
transaction and writes it in another.
-/

namespace Malink.Pairing.Enrollment

open Workspace (PairingPublicKey MatrixTransportBinding Signature)
open Security (EnvelopeHeader SignedSecureEnvelope)

open List InsertionMap Option

def MAX_LIFETIME_MS : ℕ := 10 * 60000
def FUTURE_SKEW_MS : ℕ := 30000
def MAX_OPEN_ENROLLMENTS : ℕ := 32
def GATEWAY_ENROLLMENT_APPROVAL_LIFETIME_MS : ℕ := 10 * 60000

structure MatrixLoginInvitation where
  homeserver : JsString
  userId : JsString
  loginToken : JsString
  expiresAt : ℕ
  deriving DecidableEq

structure Rendezvous where
  homeserver : JsString
  roomId : JsString
  userId : JsString
  deriving DecidableEq

structure GatewayEnrollmentInvitation where
  enrollmentId : JsString
  workspaceId : JsString
  workspaceKey : PairingPublicKey
  rendezvous : Rendezvous
  matrixLogin : MatrixLoginInvitation
  challenge : JsString
  issuedAt : ℕ
  expiresAt : ℕ
  deriving DecidableEq

structure SignedGatewayEnrollmentInvitation where
  invitation : GatewayEnrollmentInvitation
  signature : Signature
  deriving DecidableEq

structure GatewayEnrollmentRequest where
  enrollmentId : JsString
  workspaceId : JsString
  gatewayNodeId : JsString
  gatewayName : JsString
  gatewayKey : PairingPublicKey
  challenge : JsString
  issuedAt : ℕ
  expiresAt : ℕ
  deriving DecidableEq

structure SignedGatewayEnrollmentRequest where
  request : GatewayEnrollmentRequest
  signature : Signature
  deriving DecidableEq

structure GatewayEnrollmentResponse where
  enrollmentId : JsString
  workspaceId : JsString
  gatewayNodeId : JsString
  sealedInvitation : SignedSecureEnvelope
  issuedAt : ℕ
  expiresAt : ℕ
  deriving DecidableEq

structure GatewayEnrollmentPending where
  enrollmentId : JsString
  gatewayNodeId : JsString
  gatewayName : JsString
  verificationCode : JsString
  requestedAt : ℕ
  expiresAt : ℕ
  deriving DecidableEq

inductive EnrollmentStatus
  | open
  | pending
  | approved
  | cancelled
  deriving DecidableEq

structure EnrollmentRecord where
  invitation : SignedGatewayEnrollmentInvitation
  status : EnrollmentStatus
  request : Option SignedGatewayEnrollmentRequest
  response : Option GatewayEnrollmentResponse
  deriving DecidableEq

structure EnrollmentState where
  workspaceId : JsString
  enrollments : InsertionMap JsString EnrollmentRecord
  deriving DecidableEq

/-- The identity of the Gateway, the schemas and the crypto library. -/
structure EnrollmentIdentity where
  workspaceId : JsString
  gatewayNodeId : JsString
  key : PairingPublicKey
  invitationSchema : SignedGatewayEnrollmentInvitation → Except JsString Unit
  requestSchema : SignedGatewayEnrollmentRequest → Except JsString Unit
  responseSchema : GatewayEnrollmentResponse → Except JsString Unit
  pendingSchema : GatewayEnrollmentPending → Except JsString Unit
  keyFailure : PairingPublicKey → Except JsString Unit
  verificationCode : GatewayEnrollmentRequest → JsString
  signInvitation : GatewayEnrollmentInvitation → JsString
  verifyRequest : GatewayEnrollmentRequest → JsString → Bool
  /-- the ciphertext and the signature of an envelope for the key of a request -/
  encrypt : GatewayEnrollmentRequest → EnvelopeHeader → Json → Except JsString (JsString × JsString)

/-- What a transaction returns, whether it writes the file, and the state then. -/
abbrev Outcome (α : Type) := α × Bool × EnrollmentState

variable (identity : EnrollmentIdentity)

def initialState : EnrollmentState := ⟨identity.workspaceId,.empty⟩

def validateRecord (id : JsString) (record : EnrollmentRecord) : Except JsString Unit := do
  identity.invitationSchema record.invitation
  require (id = record.invitation.invitation.enrollmentId ∧
    (∀ signed ∈ record.request,signed.request.enrollmentId = id) ∧
      ∀ response ∈ record.response,response.enrollmentId = id) "Gateway enrollment record is invalid"

def validateState (state : EnrollmentState) : Except JsString Unit := do
  require (state.workspaceId = identity.workspaceId ∧ state.enrollments.size ≤ MAX_OPEN_ENROLLMENTS)
    "Gateway enrollment state is invalid"
  state.enrollments.entries.forM fun entry => validateRecord identity entry.1 entry.2

def EnrollmentState.put (state : EnrollmentState) (id : JsString) (record : EnrollmentRecord) : EnrollmentState :=
  { state with enrollments := state.enrollments.set id record }

def EnrollmentRecord.expiresAt (record : EnrollmentRecord) : ℕ :=
  match record.response with
  | some response => response.expiresAt
  | none => record.invitation.invitation.expiresAt

/-- The state that is left, and whether it has changed. -/
def prune (state : EnrollmentState) (now : ℕ) : Bool × EnrollmentState :=
  (state.enrollments.values.any fun record => decide (record.expiresAt ≤ now),
    { state with enrollments := state.enrollments.filter fun _ record => decide (now < record.expiresAt) })

def signGatewayEnrollmentInvitation (invitation : GatewayEnrollmentInvitation) :
    Except JsString SignedGatewayEnrollmentInvitation := do
  let signed : SignedGatewayEnrollmentInvitation := ⟨invitation,⟨identity.key.keyId,identity.signInvitation invitation⟩⟩
  identity.invitationSchema signed
  .ok signed

/-- `enrollmentId` and `challenge` are random. -/
def createInvitation (transport : MatrixTransportBinding) (matrixLogin : MatrixLoginInvitation) (now lifetimeMs : ℕ)
    (enrollmentId challenge : JsString) (state : EnrollmentState) :
    Except JsString (Outcome SignedGatewayEnrollmentInvitation) := do
  require (30000 ≤ lifetimeMs ∧ lifetimeMs ≤ MAX_LIFETIME_MS)
    "Gateway enrollment lifetime must be between 30 seconds and 10 minutes"
  require (now + 15000 < matrixLogin.expiresAt) "Matrix login token expires too soon for Gateway enrollment"
  let expiresAt := min (now + lifetimeMs) matrixLogin.expiresAt
  let invitation ← signGatewayEnrollmentInvitation identity
    { enrollmentId, workspaceId := identity.workspaceId, workspaceKey := identity.key
      rendezvous := ⟨transport.homeserver,transport.roomId,matrixLogin.userId⟩
      matrixLogin := { matrixLogin with expiresAt }, challenge, issuedAt := now, expiresAt }
  validateState identity state
  require ((prune state now).2.enrollments.size < MAX_OPEN_ENROLLMENTS) "Too many Gateway enrollments are already open"
  .ok (invitation,true,(prune state now).2.put enrollmentId ⟨invitation,.open,none,none⟩)

/-- The record that a request can be bound to. -/
def openRecord (state : EnrollmentState) (signed : SignedGatewayEnrollmentRequest) :
    Except JsString EnrollmentRecord :=
  match state.enrollments.get signed.request.enrollmentId with
  | none => .error "Gateway enrollment invitation is unknown or no longer open"
  | some record => do
    require (record.status = .open ∨ record.status = .pending)
      "Gateway enrollment invitation is unknown or no longer open"
    require (∀ bound ∈ record.request,bound = signed) "Gateway enrollment invitation already has another request"
    .ok record

/-- The first transaction of `registerRequest`. -/
def readInvitation (signed : SignedGatewayEnrollmentRequest) (now : ℕ) (state : EnrollmentState) :
    Except JsString (Outcome GatewayEnrollmentInvitation) := do
  identity.requestSchema signed
  validateState identity state
  let record ← openRecord (prune state now).2 signed
  .ok (record.invitation.invitation,(prune state now).1,(prune state now).2)

def verifyGatewayEnrollmentRequest (signed : SignedGatewayEnrollmentRequest)
    (invitation : GatewayEnrollmentInvitation) (now : ℕ) : Except JsString Unit := do
  let request := signed.request
  require (now < request.expiresAt ∧ request.issuedAt ≤ now + FUTURE_SKEW_MS ∧
    request.expiresAt - request.issuedAt ≤ MAX_LIFETIME_MS) "Gateway enrollment document is invalid or expired"
  require (request.enrollmentId = invitation.enrollmentId ∧ request.workspaceId = invitation.workspaceId ∧
    request.challenge = invitation.challenge) "Gateway enrollment request binding is invalid"
  require (signed.signature.keyId = request.gatewayKey.keyId) "Gateway enrollment request key is invalid"
  identity.keyFailure request.gatewayKey
  require (identity.verifyRequest request signed.signature.value)
    "Gateway enrollment request signature is invalid"

def pendingOf (request : GatewayEnrollmentRequest) : Except JsString GatewayEnrollmentPending := do
  let pending : GatewayEnrollmentPending :=
    { enrollmentId := request.enrollmentId, gatewayNodeId := request.gatewayNodeId, gatewayName := request.gatewayName
      verificationCode := identity.verificationCode request, requestedAt := request.issuedAt
      expiresAt := request.expiresAt }
  identity.pendingSchema pending
  .ok pending

/-- What `registerRequest` does after its first transaction. -/
def registerRequest (signed : SignedGatewayEnrollmentRequest) (now : ℕ) (invitation : GatewayEnrollmentInvitation)
    (state : EnrollmentState) : Except JsString (Outcome GatewayEnrollmentPending) := do
  verifyGatewayEnrollmentRequest identity signed invitation now
  require (signed.request.expiresAt ≤ invitation.expiresAt) "Gateway enrollment request exceeds its invitation lifetime"
  let pending ← pendingOf identity signed.request
  validateState identity state
  let record ← openRecord (prune state now).2 signed
  .ok (pending,record.request.isNone,(prune state now).2.put signed.request.enrollmentId
    { record with request := some signed, status := .pending })

def pending (now : ℕ) (state : EnrollmentState) : Except JsString (Outcome (List GatewayEnrollmentPending)) := do
  validateState identity state
  let requests := (prune state now).2.enrollments.values.filterMap fun record =>
    if record.status = .pending then record.request else none
  let pending ← requests.mapM fun signed => pendingOf identity signed.request
  .ok (pending.mergeSort fun left right => decide (left.requestedAt ≤ right.requestedAt),(prune state now).1,
    (prune state now).2)

inductive Decision
  | approve (invitationLink : JsString)
  | cancel
  deriving DecidableEq

def Decision.status : Decision → EnrollmentStatus
  | approve _ => .approved
  | cancel => .cancelled

def Decision.plaintext (now : ℕ) : Decision → Json
  | approve invitationLink => .obj [("kind",.str "gateway_join"),("link",.str invitationLink)]
  | cancel => .obj [("kind",.str "gateway_join_cancelled"),("cancelledAt",.num now)]

structure Snapshot where
  request : GatewayEnrollmentRequest
  expiresAt : ℕ
  response : Option GatewayEnrollmentResponse
  deriving DecidableEq

def requested (state : EnrollmentState) (enrollmentId : JsString) :
    Except JsString (EnrollmentRecord × GatewayEnrollmentRequest) :=
  match state.enrollments.get enrollmentId with
  | none => .error "Gateway enrollment request is not pending"
  | some record =>
    match record.request with
    | none => .error "Gateway enrollment request is not pending"
    | some signed => .ok (record,signed.request)

def parsed (response : GatewayEnrollmentResponse) : Except JsString (Option GatewayEnrollmentResponse) := do
  identity.responseSchema response
  .ok (some response)

def Decision.decided (record : EnrollmentRecord) : Decision → Except JsString (Option GatewayEnrollmentResponse)
  | approve _ => do
    require (record.status ≠ .cancelled) "Gateway enrollment request was cancelled"
    match record.response with
    | some response => parsed identity response
    | none => .ok none
  | cancel => do
    require (record.status ≠ .approved) "Gateway enrollment was already approved and cannot be cancelled"
    match record.status, record.response with
    | .cancelled, some response => parsed identity response
    | status, _ => do
      require (status = .pending) "Gateway enrollment request is not pending"
      .ok none

/-- The time until which the sealed envelope is valid. -/
def Decision.deadline (invitation : GatewayEnrollmentInvitation) (now : ℕ) : Decision → ℕ
  | approve _ => now + GATEWAY_ENROLLMENT_APPROVAL_LIFETIME_MS
  | cancel => invitation.expiresAt + GATEWAY_ENROLLMENT_APPROVAL_LIFETIME_MS

def Decision.snapshot (decision : Decision) (enrollmentId : JsString) (now : ℕ) (state : EnrollmentState) :
    Except JsString (Outcome Snapshot) := do
  validateState identity state
  let found ← requested (prune state now).2 enrollmentId
  let response ← decision.decided identity found.1
  .ok (⟨found.2,decision.deadline found.1.invitation.invitation now,response⟩,(prune state now).1,(prune state now).2)

/-- What is sealed and signed between the transactions. `envelopeId` and `nonce` are random. -/
def Decision.respond (decision : Decision) (enrollmentId : JsString) (now : ℕ) (snapshot : Snapshot)
    (envelopeId nonce : JsString) : Except JsString GatewayEnrollmentResponse := do
  require (now + 1000 ≤ snapshot.expiresAt ∧ snapshot.expiresAt ≤ now + Security.MAX_LIFETIME_MS)
    "Secure envelope lifetime must be between 1 second and 366 days"
  let header : EnvelopeHeader :=
    { envelopeId, gatewayId := identity.workspaceId, conversationId := enrollmentId, direction := .gatewayToDevice
      senderDeviceId := identity.gatewayNodeId, senderKeyId := identity.key.keyId, issuedAt := now
      expiresAt := snapshot.expiresAt, nonce }
  let texts ← identity.encrypt snapshot.request header (decision.plaintext now)
  let response : GatewayEnrollmentResponse :=
    { enrollmentId, workspaceId := identity.workspaceId, gatewayNodeId := snapshot.request.gatewayNodeId
      sealedInvitation :=
        { envelope :=
            { header
              recipients := .envelope snapshot.request.gatewayNodeId snapshot.request.gatewayKey.keyId
              ciphertext := texts.1 }
          signature := ⟨identity.key.keyId,texts.2⟩ }
      issuedAt := now, expiresAt := snapshot.expiresAt }
  identity.responseSchema response
  .ok response

/-- The second transaction. It does not prune. -/
def Decision.commit (decision : Decision) (enrollmentId : JsString) (response : GatewayEnrollmentResponse)
    (state : EnrollmentState) : Except JsString (Outcome GatewayEnrollmentResponse) := do
  validateState identity state
  let found ← requested state enrollmentId
  match ← decision.decided identity found.1 with
  | some committed => .ok (committed,false,state)
  | none => .ok (response,true,state.put enrollmentId
      { found.1 with response := some response, status := decision.status })

/-- A call between its two transactions, or one that has returned a response. -/
inductive Call
  | registering (signed : SignedGatewayEnrollmentRequest) (now : ℕ) (invitation : GatewayEnrollmentInvitation)
  | deciding (decision : Decision) (enrollmentId : JsString) (now : ℕ) (snapshot : Snapshot)
  | returned (decision : Decision) (enrollmentId : JsString) (response : GatewayEnrollmentResponse)

/-- The file, the states that it had before, and the calls. -/
structure Host where
  file : EnrollmentState
  older : List EnrollmentState
  calls : List Call

def Host.states (host : Host) : List EnrollmentState := host.file :: host.older

def Host.save (host : Host) (changed : Bool) (state : EnrollmentState) (calls : List Call) : Host :=
  if changed then ⟨state,host.file :: host.older,calls⟩ else { host with calls }

/-- The steps of all calls, whatever their clocks read. A step that throws changes nothing. -/
inductive Step (host : Host) : Host → Prop
  | createInvitation {transport : MatrixTransportBinding} {matrixLogin : MatrixLoginInvitation} {now lifetimeMs : ℕ}
    {enrollmentId challenge : JsString} {invitation : SignedGatewayEnrollmentInvitation} {changed : Bool}
    {state : EnrollmentState} (hfresh : ∀ s ∈ host.states,s.enrollments.get enrollmentId = none)
    (h : createInvitation identity transport matrixLogin now lifetimeMs enrollmentId challenge host.file =
      .ok (invitation,changed,state)) : Step host (host.save changed state host.calls)
  | readInvitation {signed : SignedGatewayEnrollmentRequest} {now : ℕ} {invitation : GatewayEnrollmentInvitation}
    {changed : Bool} {state : EnrollmentState}
    (h : readInvitation identity signed now host.file = .ok (invitation,changed,state)) :
    Step host (host.save changed state (.registering signed now invitation :: host.calls))
  | registerRequest {signed : SignedGatewayEnrollmentRequest} {now : ℕ} {invitation : GatewayEnrollmentInvitation}
    {pending : GatewayEnrollmentPending} {changed : Bool} {state : EnrollmentState}
    (hcall : .registering signed now invitation ∈ host.calls)
    (h : registerRequest identity signed now invitation host.file = .ok (pending,changed,state)) :
    Step host (host.save changed state host.calls)
  | pending {now : ℕ} {requests : List GatewayEnrollmentPending} {changed : Bool} {state : EnrollmentState}
    (h : pending identity now host.file = .ok (requests,changed,state)) :
    Step host (host.save changed state host.calls)
  | snapshot {decision : Decision} {enrollmentId : JsString} {now : ℕ} {snapshot : Snapshot} {changed : Bool}
    {state : EnrollmentState}
    (h : decision.snapshot identity enrollmentId now host.file = .ok (snapshot,changed,state)) :
    Step host (host.save changed state ((match snapshot.response with
      | some response => .returned decision enrollmentId response
      | none => .deciding decision enrollmentId now snapshot) :: host.calls))
  | commit {decision : Decision} {enrollmentId : JsString} {now : ℕ} {snapshot : Snapshot} {envelopeId nonce : JsString}
    {sealed committed : GatewayEnrollmentResponse} {changed : Bool} {state : EnrollmentState}
    (hcall : .deciding decision enrollmentId now snapshot ∈ host.calls)
    (hsealed : decision.respond identity enrollmentId now snapshot envelopeId nonce = .ok sealed)
    (h : decision.commit identity enrollmentId sealed host.file = .ok (committed,changed,state)) :
    Step host (host.save changed state (.returned decision enrollmentId committed :: host.calls))

inductive Run : Host → Prop
  | initial : Run ⟨initialState identity,[],[]⟩
  | step {host host' : Host} (h : Run host) (hstep : Step identity host host') : Run host'

/-- Two records of one enrollment, from states at any times. -/
structure Agree (record record' : EnrollmentRecord) : Prop where
  request : ∀ signed signed', record.request = some signed → record'.request = some signed' → signed = signed'
  response : ∀ response response', record.response = some response → record'.response = some response' →
    response = response' ∧ record.status = record'.status

def Addressed (response : GatewayEnrollmentResponse) (request : GatewayEnrollmentRequest) : Prop :=
  response.sealedInvitation.envelope.recipients = .envelope request.gatewayNodeId request.gatewayKey.keyId

def StatesAgree (state state' : EnrollmentState) : Prop :=
  ∀ id record record', state.enrollments.get id = some record → state'.enrollments.get id = some record' →
    Agree record record'

structure OneDecision (host : Host) : Prop where
  agree : ∀ state ∈ host.states, ∀ state' ∈ host.states, StatesAgree state state'
  returned : ∀ decision id response, Call.returned decision id response ∈ host.calls → ∃ state ∈ host.states,
    ∃ record, state.enrollments.get id = some record ∧ record.response = some response ∧
      record.status = decision.status
  addressed : ∀ state ∈ host.states, ∀ id record, state.enrollments.get id = some record →
    ∀ response, record.response = some response →
      ∃ signed, record.request = some signed ∧ Addressed response signed.request
  valid : ∀ state ∈ host.states, validateState identity state = .ok ()

structure Valid (state : EnrollmentState) : Prop where
  workspaceId : state.workspaceId = identity.workspaceId
  size : state.enrollments.size ≤ MAX_OPEN_ENROLLMENTS
  records : ∀ id record, state.enrollments.get id = some record → validateRecord identity id record = .ok ()

/-- A record that has been decided names the request, and the response is for its key. -/
def Decided (record : EnrollmentRecord) : Prop :=
  ∀ response, record.response = some response →
    (∃ signed,record.request = some signed ∧ Addressed response signed.request) ∧
      (record.status = .approved ∨ record.status = .cancelled)

structure Good (state : EnrollmentState) : Prop extends Valid identity state where
  decided : ∀ id record, state.enrollments.get id = some record → Decided record

/-- What becomes of a record. -/
structure Leads (record record' : EnrollmentRecord) : Prop where
  request : ∀ signed, record.request = some signed → record'.request = some signed
  response : ∀ response, record.response = some response →
    record'.response = some response ∧ record'.status = record.status

variable {identity} {state : EnrollmentState} {id : JsString} {record record' record'' : EnrollmentRecord}

theorem validateState_eq_ok : validateState identity state = .ok () ↔ Valid identity state := by
  rw [validateState]
  constructor
  · intro h
    obtain ⟨_,hrequired,hrecords⟩ := bind_eq_ok.mp h
    obtain ⟨hworkspace,hsize⟩ := require_eq_ok.mp hrequired
    refine ⟨hworkspace,hsize,fun id record hget => ?_⟩
    exact forM_eq_ok.mp hrecords (id,record) (get_eq_some.mp hget)
  · intro h
    refine bind_eq_ok.mpr ⟨(),require_eq_ok.mpr ⟨h.workspaceId,h.size⟩,forM_eq_ok.mpr fun entry hentry => ?_⟩
    exact h.records entry.1 entry.2 (get_eq_some.mpr hentry)

theorem validateRecord_eq_ok : validateRecord identity id record = .ok () ↔
    identity.invitationSchema record.invitation = .ok () ∧ id = record.invitation.invitation.enrollmentId ∧
      (∀ signed ∈ record.request,signed.request.enrollmentId = id) ∧
        ∀ response ∈ record.response, response.enrollmentId = id := by
  rw [validateRecord,bind_eq_ok]
  constructor
  · rintro ⟨_,hschema,hrequired⟩
    exact ⟨hschema,require_eq_ok.mp hrequired⟩
  · rintro ⟨hschema,hrequired⟩
    exact ⟨(),hschema,require_eq_ok.mpr hrequired⟩

theorem Leads.refl (record : EnrollmentRecord) : Leads record record :=
  ⟨fun _ h => h,fun _ h => ⟨h,rfl⟩⟩

theorem Leads.trans (h : Leads record record') (h' : Leads record' record'') : Leads record record'' := by
  refine ⟨fun signed hsigned => h'.request signed (h.request signed hsigned),fun response hresponse => ?_⟩
  obtain ⟨hnext,hstatus⟩ := h.response response hresponse
  obtain ⟨hlast,hstatus'⟩ := h'.response response hnext
  exact ⟨hlast,hstatus'.trans hstatus⟩

theorem Leads.agree (h : Leads record record') : Agree record record' := by
  refine ⟨fun signed signed' hsigned hsigned' => ?_,fun response response' hresponse hresponse' => ?_⟩
  · exact some.inj ((h.request signed hsigned).symm.trans hsigned')
  · obtain ⟨hnext,hstatus⟩ := h.response response hresponse
    exact ⟨some.inj (hnext.symm.trans hresponse'),hstatus.symm⟩

theorem Agree.symm (h : Agree record record') : Agree record' record := by
  refine ⟨fun signed signed' hsigned hsigned' => (h.request signed' signed hsigned' hsigned).symm,?_⟩
  intro response response' hresponse hresponse'
  obtain ⟨heq,hstatus⟩ := h.response response' response hresponse' hresponse
  exact ⟨heq.symm,hstatus.symm⟩

theorem get_of_prune {now : ℕ} (h : (prune state now).2.enrollments.get id = some record) :
    state.enrollments.get id = some record :=
  (get_filter.mp h).1

theorem Good.prune (h : Good identity state) (now : ℕ) : Good identity (prune state now).2 := by
  refine ⟨⟨h.workspaceId,(size_filter_le _ _).trans h.size,fun id record hget => ?_⟩,
    fun id record hget => ?_⟩
  · exact h.records id record (get_of_prune hget)
  · exact h.decided id record (get_of_prune hget)

/-- A record is written, of an enrollment that is there or when there are not too many. -/
theorem Good.put (h : Good identity state)
    (hsize : (∃ before,state.enrollments.get id = some before) ∨ state.enrollments.size < MAX_OPEN_ENROLLMENTS)
    (hvalid : validateRecord identity id record = .ok ()) (hdecided : Decided record) :
    Good identity (state.put id record) := by
  refine ⟨⟨h.workspaceId,?_,fun other written hget => ?_⟩,fun other written hget => ?_⟩
  · rw [EnrollmentState.put,size_set]
    rcases hsize with ⟨before,hbefore⟩ | hsize
    · rw [if_pos (has_iff_mem_keys.mp (has_iff.mpr ⟨before,hbefore⟩))]
      exact h.size
    · split
      · exact h.size
      · exact hsize
  · rcases get_set_cases hget with ⟨rfl,rfl⟩ | ⟨-,hother⟩
    · exact hvalid
    · exact h.records other written hother
  · rcases get_set_cases hget with ⟨rfl,rfl⟩ | ⟨-,hother⟩
    · exact hdecided
    · exact h.decided other written hother

def CallSound (states : List EnrollmentState) : Call → Prop
  | .registering _ _ _ => True
  | .deciding _ id _ snapshot => ∃ state ∈ states, ∃ record signed, state.enrollments.get id = some record ∧
      record.request = some signed ∧ signed.request = snapshot.request
  | .returned decision id response => ∃ state ∈ states, ∃ record, state.enrollments.get id = some record ∧
      record.response = some response ∧ record.status = decision.status

variable (identity) in
structure Sound (host : Host) : Prop where
  leads : host.states.Pairwise fun after before => ∀ id record record', before.enrollments.get id = some record →
    after.enrollments.get id = some record' → Leads record record'
  good : ∀ state ∈ host.states, Good identity state
  calls : ∀ call ∈ host.calls, CallSound host.states call

variable {host host' : Host} {changed : Bool} {calls : List Call}

theorem CallSound.mono {states states' : List EnrollmentState} {call : Call} (h : CallSound states call)
    (hsubset : ∀ state ∈ states,state ∈ states') : CallSound states' call := by
  cases call with
  | registering signed now invitation => trivial
  | deciding | returned =>
    obtain ⟨state,hstate,hrest⟩ := h
    exact ⟨state,hsubset state hstate,hrest⟩

theorem mem_states_save (host : Host) (changed : Bool) (state : EnrollmentState) (calls : List Call) :
    ∀ s ∈ host.states, s ∈ (host.save changed state calls).states := by
  intro s hs
  rw [Host.save]
  split
  · exact mem_cons_of_mem _ hs
  · exact hs

section

variable (h : Sound identity host)
include h

/-- The file is written, where its records follow from those that were there, or are of a new enrollment. -/
theorem Sound.save (hgood : Good identity state) (hrecords : ∀ id record',state.enrollments.get id = some record' →
      (∃ record,host.file.enrollments.get id = some record ∧ Leads record record') ∨
        ∀ s ∈ host.states,s.enrollments.get id = none)
    (hcalls : ∀ call ∈ calls,call ∈ host.calls ∨ CallSound (host.save changed state calls).states call) :
    Sound identity (host.save changed state calls) := by
  have hkept (call : Call) (hcall : call ∈ (host.save changed state calls).calls) :
      CallSound (host.save changed state calls).states call := by
    have hmem : call ∈ calls := by
      rw [Host.save] at hcall
      split at hcall <;> exact hcall
    rcases hcalls call hmem with hbefore | hnew
    · exact (h.calls call hbefore).mono (mem_states_save host changed state calls)
    · exact hnew
  cases changed with
  | false => exact ⟨h.leads,h.good,hkept⟩
  | true =>
    refine ⟨pairwise_cons.mpr ⟨fun before hbefore id record record' hget hget' => ?_,h.leads⟩,?_,hkept⟩
    · rcases hrecords id record' hget' with ⟨middle,hmiddle,hleads⟩ | hfresh
      · rcases mem_cons.mp hbefore with rfl | holder
        · obtain rfl := some.inj (hget.symm.trans hmiddle)
          exact hleads
        · exact ((pairwise_cons.mp h.leads).1 before holder id record middle hget hmiddle).trans hleads
      · rw [hfresh before hbefore] at hget
        cases hget
    · intro other hother
      rcases mem_cons.mp hother with rfl | hother
      · exact hgood
      · exact h.good other hother

theorem Sound.file : Good identity host.file := h.good host.file mem_cons_self

theorem Sound.agree {state' : EnrollmentState} (hstate : state ∈ host.states)
    (hstate' : state' ∈ host.states) : StatesAgree state state' := by
  by_cases heq : state = state'
  · intro id record record' hget hget'
    rw [heq] at hget
    obtain rfl := some.inj (hget.symm.trans hget')
    exact (Leads.refl record).agree
  · have hsymm : Std.Symm StatesAgree :=
      ⟨fun s s' hagree id record record' hget hget' => (hagree id record' record hget' hget).symm⟩
    have hagree : host.states.Pairwise StatesAgree :=
      h.leads.imp fun hleads id record record' hget hget' => (hleads id record' record hget' hget).agree.symm
    exact hagree.forall hstate hstate' heq

theorem Sound.save_prune (now : ℕ) (hcalls : ∀ call ∈ calls,call ∈ host.calls ∨
    CallSound (host.save changed (prune host.file now).2 calls).states call) :
    Sound identity (host.save changed (prune host.file now).2 calls) :=
  h.save (h.file.prune now) (fun _ record hget => .inl ⟨record,get_of_prune hget,.refl record⟩) hcalls

theorem Sound.save_put {base : EnrollmentState} (hbase : Good identity base)
    (hsubset : ∀ id record,base.enrollments.get id = some record → host.file.enrollments.get id = some record)
    (hget : base.enrollments.get id = some record) (hleads : Leads record record')
    (hvalid : validateRecord identity id record' = .ok ()) (hdecided : Decided record')
    (hcalls : ∀ call ∈ calls,call ∈ host.calls ∨
      CallSound (host.save changed (base.put id record') calls).states call) :
    Sound identity (host.save changed (base.put id record') calls) := by
  refine h.save (hbase.put (.inl ⟨record,hget⟩) hvalid hdecided) (fun other written hwritten => .inl ?_) hcalls
  rcases get_set_cases hwritten with ⟨rfl,rfl⟩ | ⟨-,hother⟩
  · exact ⟨record,hsubset other record hget,hleads⟩
  · exact ⟨written,hsubset other written hother,.refl written⟩

end

theorem openRecord_eq_ok {signed : SignedGatewayEnrollmentRequest} (h : openRecord state signed = .ok record) :
    state.enrollments.get signed.request.enrollmentId = some record ∧
      (record.status = .open ∨ record.status = .pending) ∧ ∀ bound ∈ record.request, bound = signed := by
  rw [openRecord] at h
  split at h
  · cases h
  · next found hget =>
    obtain ⟨_,hstatus,h⟩ := bind_eq_ok.mp h
    obtain ⟨_,hbound,h⟩ := bind_eq_ok.mp h
    cases h
    exact ⟨hget,require_eq_ok.mp hstatus,require_eq_ok.mp hbound⟩

theorem requested_eq_ok {request : GatewayEnrollmentRequest} (h : requested state id = .ok (record,request)) :
    state.enrollments.get id = some record ∧ ∃ signed, record.request = some signed ∧ signed.request = request := by
  rw [requested] at h
  split at h
  · cases h
  · next found hget =>
    split at h
    · cases h
    · next signed hsigned =>
      cases h
      exact ⟨hget,signed,hsigned,rfl⟩

variable {response : GatewayEnrollmentResponse} {found : Option GatewayEnrollmentResponse}

theorem parsed_eq_ok (h : parsed identity response = .ok found) : found = some response := by
  obtain ⟨_,-,h⟩ := bind_eq_ok.mp h
  cases h
  rfl

/-- The response that a decision finds is the record's, and was made by the same decision. -/
theorem decided_eq_ok {decision : Decision} (hrecord : Decided record)
    (h : decision.decided identity record = .ok found) :
    record.response = found ∧ (found ≠ none → record.status = decision.status) := by
  cases decision with
  | approve invitationLink =>
    obtain ⟨_,hstatus,h⟩ := bind_eq_ok.mp h
    split at h
    · next response hresponse =>
      rw [parsed_eq_ok h]
      exact ⟨hresponse,fun _ => (hrecord response hresponse).2.resolve_right (require_eq_ok.mp hstatus)⟩
    · next hresponse =>
      cases h
      exact ⟨hresponse,fun hne => absurd rfl hne⟩
  | cancel =>
    obtain ⟨_,hstatus,h⟩ := bind_eq_ok.mp h
    split at h
    · next response hcancelled hresponse =>
      rw [parsed_eq_ok h]
      exact ⟨hresponse,fun _ => hcancelled⟩
    · obtain ⟨_,hpending,h⟩ := bind_eq_ok.mp h
      have hpending := require_eq_ok.mp hpending
      cases h
      refine ⟨eq_none_iff_forall_ne_some.mpr fun response hresponse => ?_,fun hne => absurd rfl hne⟩
      rcases (hrecord response hresponse).2 with heq | heq <;> simp [heq] at hpending

theorem respond_eq_ok {decision : Decision} {now : ℕ} {snapshot : Snapshot} {envelopeId nonce : JsString}
    (h : decision.respond identity id now snapshot envelopeId nonce = .ok response) :
    response.enrollmentId = id ∧ Addressed response snapshot.request := by
  obtain ⟨_,-,h⟩ := bind_eq_ok.mp h
  obtain ⟨texts,-,h⟩ := bind_eq_ok.mp h
  obtain ⟨_,-,h⟩ := bind_eq_ok.mp h
  cases h
  exact ⟨rfl,rfl⟩

theorem createInvitation_eq_ok {transport : MatrixTransportBinding} {matrixLogin : MatrixLoginInvitation}
    {now lifetimeMs : ℕ} {challenge : JsString} {invitation : SignedGatewayEnrollmentInvitation}
    {next : EnrollmentState} (h : createInvitation identity transport matrixLogin now lifetimeMs id challenge state =
      .ok (invitation,changed,next)) : (prune state now).2.enrollments.size < MAX_OPEN_ENROLLMENTS ∧
      validateRecord identity id ⟨invitation,.open,none,none⟩ = .ok () ∧
        next = (prune state now).2.put id ⟨invitation,.open,none,none⟩ := by
  obtain ⟨_,-,h⟩ := bind_eq_ok.mp h
  obtain ⟨_,-,h⟩ := bind_eq_ok.mp h
  obtain ⟨signed,hsigned,h⟩ := bind_eq_ok.mp h
  obtain ⟨_,-,h⟩ := bind_eq_ok.mp h
  obtain ⟨_,hsize,h⟩ := bind_eq_ok.mp h
  obtain ⟨_,hschema,hsigned⟩ := bind_eq_ok.mp hsigned
  cases hsigned
  cases h
  refine ⟨require_eq_ok.mp hsize,validateRecord_eq_ok.mpr ⟨hschema,rfl,?_,?_⟩,rfl⟩
  · intro signed hsigned
    cases hsigned
  · intro response hresponse
    cases hresponse

theorem Sound.step (h : Sound identity host) (hstep : Step identity host host') : Sound identity host' := by
  cases hstep with
  | createInvitation hfresh hcreated =>
    obtain ⟨hsize,hvalid,rfl⟩ := createInvitation_eq_ok hcreated
    refine h.save ((h.file.prune _).put (.inr hsize) hvalid fun response hresponse => by cases hresponse)
      (fun other written hget => ?_) fun call hcall => .inl hcall
    rcases get_set_cases hget with ⟨rfl,-⟩ | ⟨-,hother⟩
    · exact .inr hfresh
    · exact .inl ⟨written,get_of_prune hother,.refl written⟩
  | readInvitation hread =>
    obtain ⟨_,-,hread⟩ := bind_eq_ok.mp hread
    obtain ⟨_,-,hread⟩ := bind_eq_ok.mp hread
    obtain ⟨record,-,hread⟩ := bind_eq_ok.mp hread
    cases hread
    refine h.save_prune _ fun call hcall => ?_
    rcases mem_cons.mp hcall with rfl | hcall
    · exact .inr trivial
    · exact .inl hcall
  | @registerRequest _ now _ _ _ _ hcall hregistered =>
    obtain ⟨_,-,hregistered⟩ := bind_eq_ok.mp hregistered
    obtain ⟨_,-,hregistered⟩ := bind_eq_ok.mp hregistered
    obtain ⟨_,-,hregistered⟩ := bind_eq_ok.mp hregistered
    obtain ⟨_,-,hregistered⟩ := bind_eq_ok.mp hregistered
    obtain ⟨record,hopen,hregistered⟩ := bind_eq_ok.mp hregistered
    cases hregistered
    obtain ⟨hget,hstatus,hbound⟩ := openRecord_eq_ok hopen
    have hpruned := h.file.prune now
    obtain ⟨hschema,hid,-,hresponses⟩ := validateRecord_eq_ok.mp (hpruned.records _ record hget)
    have hnone (response : GatewayEnrollmentResponse) : record.response ≠ some response := by
      intro hresponse
      rcases (hpruned.decided _ record hget response hresponse).2 with heq | heq <;> simp [heq] at hstatus
    refine h.save_put hpruned (fun _ _ => get_of_prune) hget ⟨fun bound hsome => ?_,fun response hresponse => ?_⟩ ?_ ?_
      fun call hcall => .inl hcall
    · rw [hbound bound hsome]
    · exact absurd hresponse (hnone response)
    · refine validateRecord_eq_ok.mpr ⟨hschema,hid,fun signed hsigned => ?_,hresponses⟩
      rw [← some.inj hsigned]
    · intro response hresponse
      exact absurd hresponse (hnone response)
  | pending hpending =>
    obtain ⟨_,-,hpending⟩ := bind_eq_ok.mp hpending
    obtain ⟨_,-,hpending⟩ := bind_eq_ok.mp hpending
    cases hpending
    exact h.save_prune _ fun call hcall => .inl hcall
  | snapshot hsnapshot =>
    obtain ⟨_,-,hsnapshot⟩ := bind_eq_ok.mp hsnapshot
    obtain ⟨⟨record,request⟩,hfound,hsnapshot⟩ := bind_eq_ok.mp hsnapshot
    obtain ⟨found,hdecided,hsnapshot⟩ := bind_eq_ok.mp hsnapshot
    cases hsnapshot
    obtain ⟨hget,signed,hsigned,rfl⟩ := requested_eq_ok hfound
    have hfile := get_of_prune hget
    obtain ⟨hresponse,hstatus⟩ := decided_eq_ok (h.file.decided _ record hfile) hdecided
    refine h.save_prune _ fun call hcall => ?_
    rcases mem_cons.mp hcall with rfl | hcall
    · refine .inr (CallSound.mono ?_ (mem_states_save host _ _ _))
      cases found with
      | none => exact ⟨host.file,mem_cons_self,record,signed,hfile,hsigned,rfl⟩
      | some response =>
        exact ⟨host.file,mem_cons_self,record,hfile,hresponse,hstatus (some_ne_none _)⟩
    · exact .inl hcall
  | @commit decision id now snapshot envelopeId nonce sealed committed changed state hcall hsealed hcommit =>
    obtain ⟨_,-,hcommit⟩ := bind_eq_ok.mp hcommit
    obtain ⟨⟨record,request⟩,hfound,hcommit⟩ := bind_eq_ok.mp hcommit
    obtain ⟨found,hdecided,hcommit⟩ := bind_eq_ok.mp hcommit
    obtain ⟨hget,signed,hsigned,rfl⟩ := requested_eq_ok hfound
    obtain ⟨hresponse,hstatus⟩ := decided_eq_ok (h.file.decided _ record hget) hdecided
    cases found with
    | some response =>
      cases hcommit
      refine h.save h.file (fun _ record hget => .inl ⟨record,hget,.refl record⟩) fun call hcall => ?_
      rcases mem_cons.mp hcall with rfl | hcall
      · exact .inr ⟨host.file,mem_cons_self,record,hget,hresponse,hstatus (some_ne_none _)⟩
      · exact .inl hcall
    | none =>
      cases hcommit
      obtain ⟨hid,haddressed⟩ := respond_eq_ok hsealed
      -- the request that was read is the one that the enrollment is still bound to
      obtain ⟨before,hbefore,record',signed',hget',hsigned',hrequest⟩ := h.calls _ hcall
      have hsame : signed' = signed := (h.agree hbefore mem_cons_self id record' record hget' hget).request
        signed' signed hsigned' hsigned
      rw [← hrequest,hsame] at haddressed
      obtain ⟨hschema,hname,hrequests,-⟩ := validateRecord_eq_ok.mp (h.file.records _ record hget)
      refine h.save_put h.file (fun _ _ hget => hget) hget ⟨fun _ hbound => hbound,fun response hsome => ?_⟩ ?_ ?_
        fun call hcall => ?_
      · rw [hresponse] at hsome
        cases hsome
      · refine validateRecord_eq_ok.mpr ⟨hschema,hname,hrequests,fun response hsome => ?_⟩
        rw [← some.inj hsome,hid]
      · intro response hsome
        cases hsome
        refine ⟨⟨signed,hsigned,haddressed⟩,?_⟩
        cases decision with
        | approve invitationLink => exact .inl rfl
        | cancel => exact .inr rfl
      · rcases mem_cons.mp hcall with rfl | hcall
        · exact .inr ⟨_,mem_cons_self,_,get_set_self _ _ _,rfl,rfl⟩
        · exact .inl hcall

theorem Sound.run (h : Run identity host) : Sound identity host := by
  induction h with
  | initial =>
    refine ⟨pairwise_singleton _ _,fun state hstate => ?_,fun call hcall => by cases hcall⟩
    obtain rfl := mem_singleton.mp hstate
    exact ⟨⟨rfl,Nat.zero_le _,fun id record hget => by cases hget⟩,fun id record hget => by cases hget⟩
  | step _ hstep ih => exact ih.step hstep

/-- In every run of all calls, whatever their clocks read, an enrollment has one request and one decision. -/
theorem one_decision (identity : EnrollmentIdentity) (host : Host) (h : Run identity host) :
    OneDecision identity host := by
  have hsound := Sound.run h
  refine ⟨fun state hstate state' hstate' => hsound.agree hstate hstate',fun decision id response hcall => ?_,?_,?_⟩
  · exact hsound.calls _ hcall
  · intro state hstate id record hget response hresponse
    exact ((hsound.good state hstate).decided id record hget response hresponse).1
  · intro state hstate
    exact validateState_eq_ok.mpr (hsound.good state hstate).toValid

def sampleIdentity : EnrollmentIdentity where
  workspaceId := "workspace"
  gatewayNodeId := "gateway"
  key := ⟨"root",.null⟩
  invitationSchema _ := .ok ()
  requestSchema _ := .ok ()
  responseSchema _ := .ok ()
  pendingSchema _ := .ok ()
  keyFailure _ := .ok ()
  verificationCode _ := "123-456"
  signInvitation _ := "signature"
  verifyRequest _ _ := true
  encrypt _ _ _ := .ok ("text","signature")

def sampleInvitation : SignedGatewayEnrollmentInvitation :=
  ⟨⟨"enrollment","workspace",⟨"root",.null⟩,⟨"https://matrix","!room","@user"⟩,
    ⟨"https://matrix","@user","token",60000⟩,"challenge",0,60000⟩,⟨"root","signature"⟩⟩

def sampleRequest : SignedGatewayEnrollmentRequest :=
  ⟨⟨"enrollment","workspace","node","name",⟨"key",.null⟩,"challenge",1,60000⟩,⟨"key","signature"⟩⟩

/-- An approval and two cancellations have read the enrollment before one of them is recorded. -/
theorem one_decision_sample : ∃ host response,
    [Call.returned .cancel "enrollment" response,.returned .cancel "enrollment" response] <+ host.calls ∧
    (∀ sealed,(Decision.approve "link").commit sampleIdentity "enrollment" sealed host.file =
      .error "Gateway enrollment request was cancelled") ∧ OneDecision sampleIdentity host := by
  have hinitial : Run sampleIdentity _ := .initial
  have hcreated := hinitial.step (.createInvitation (by decide)
    (show createInvitation sampleIdentity ⟨"https://matrix","!room","@user","device","key"⟩
      ⟨"https://matrix","@user","token",600000⟩ 0 60000 "enrollment" "challenge" _ = .ok (_,_,_) from rfl))
  have hread := hcreated.step (.readInvitation
    (show readInvitation sampleIdentity sampleRequest 1 _ = .ok (_,_,_) from rfl))
  have hregistered := hread.step (.registerRequest mem_cons_self
    (show registerRequest sampleIdentity sampleRequest 1 sampleInvitation.invitation _ = .ok (_,_,_) from rfl))
  have happroving := hregistered.step (.snapshot
    (show (Decision.approve "link").snapshot sampleIdentity "enrollment" 2 _ = .ok (_,_,_) from rfl))
  have hcancelling := (happroving.step (.snapshot
    (show Decision.cancel.snapshot sampleIdentity "enrollment" 2 _ = .ok (_,_,_) from rfl))).step (.snapshot
      (show Decision.cancel.snapshot sampleIdentity "enrollment" 3 _ = .ok (_,_,_) from rfl))
  have hcancelled := hcancelling.step (.commit (mem_cons_of_mem _ mem_cons_self)
    (show Decision.cancel.respond sampleIdentity "enrollment" 2 _ "envelope" "nonce" = .ok _ from rfl)
    (show Decision.cancel.commit sampleIdentity "enrollment" _ _ = .ok (_,_,_) from rfl))
  have hagain := hcancelled.step (.commit (mem_cons_of_mem _ mem_cons_self)
    (show Decision.cancel.respond sampleIdentity "enrollment" 3 _ "other" "nonce" = .ok _ from rfl)
    (show Decision.cancel.commit sampleIdentity "enrollment" _ _ = .ok (_,_,_) from rfl))
  have hdecision := one_decision sampleIdentity _ hagain
  exact ⟨_,_,.cons_cons _ (.cons_cons _ (nil_sublist _)),fun _ => rfl,hdecision⟩

end Malink.Pairing.Enrollment
