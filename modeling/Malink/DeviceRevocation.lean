import Malink.WorkspaceAuthorization

/-!
# Revoking a device

The registry keeps the latest certificate of a device, while the portable authorization keeps every
grant that was merged. Revoking a device names one certificate, the one in the registry.
-/

namespace Malink.Workspace

inductive DeviceStatus
  | active
  | revoked
  deriving DecidableEq

structure PairingCertificate where
  certificateId : JsString
  gatewayTransport : MatrixTransportBinding
  deviceId : JsString
  deviceName : JsString
  deviceKey : PairingPublicKey
  deviceTransport : MatrixTransportBinding
  allowedOperations : List JsString
  issuedAt : ℕ
  expiresAt : ℕ
  issued_before : issuedAt < expiresAt

structure TrustedDeviceRecord where
  status : DeviceStatus
  certificate : PairingCertificate
  workspaceGrant : Option SignedWorkspaceDeviceGrant
  gatewayTransport : MatrixTransportBinding
  activatedAt : ℕ
  revokedAt : Option ℕ
  revocationReason : Option JsString

abbrev TrustedDevices := InsertionMap JsString TrustedDeviceRecord

inductive RegistryError
  | otherApplicationKey (deviceId : JsString)
  | applicationKeyInUse
  | unknownDevice (deviceId : JsString)
  | alreadyRevoked (deviceId : JsString)
  | noPortableAuthorization (deviceId : JsString)
  | authorization (error : AuthorizationError)
  deriving DecidableEq

def RegistryError.message : RegistryError → JsString
  | otherApplicationKey deviceId =>
    ("Active device " : JsString) ++ deviceId ++ (" cannot renew with a different application key" : JsString)
  | applicationKeyInUse => "An active device already uses this application key"
  | unknownDevice deviceId => ("Unknown trusted device: " : JsString) ++ deviceId
  | alreadyRevoked deviceId => ("Device is already revoked: " : JsString) ++ deviceId
  | noPortableAuthorization deviceId =>
    ("Device " : JsString) ++ deviceId ++ (" has no portable authorization" : JsString)
  | authorization error => error.message

namespace TrustedDevices

/-- What an approved pairing request does to the devices: an active device may be renewed under its own
application key, and no two active devices have one key. -/
def approve (devices : TrustedDevices) (certificate : PairingCertificate)
    (workspaceGrant : Option SignedWorkspaceDeviceGrant) (now : ℕ) : Except RegistryError TrustedDevices :=
  let renewsOtherKey := (devices.get certificate.deviceId).any (fun existing =>
    existing.status = .active && existing.certificate.deviceKey ≠ certificate.deviceKey)
  let duplicateKey := devices.values.any (fun record => record.status = .active &&
    record.certificate.deviceId ≠ certificate.deviceId &&
    record.certificate.deviceKey.keyId = certificate.deviceKey.keyId)
  if renewsOtherKey then .error (.otherApplicationKey certificate.deviceId)
  else if duplicateKey then .error .applicationKeyInUse
  else .ok (devices.set certificate.deviceId
    ⟨.active,certificate,workspaceGrant,certificate.gatewayTransport,now,none,none⟩)

def revoke (devices : TrustedDevices) (deviceId : JsString) (reason : Option JsString) (now : ℕ) :
    Except RegistryError TrustedDevices :=
  match devices.get deviceId with
  | none => .error (.unknownDevice deviceId)
  | some record =>
    if record.status = .revoked then .error (.alreadyRevoked deviceId)
    else .ok (devices.set deviceId { record with
      status := .revoked
      revokedAt := some now
      revocationReason := if reason.any JsString.truthy then reason else record.revocationReason })

/-- The certificate that revoking the device names. -/
def certificateId (devices : TrustedDevices) (deviceId : JsString) : Option JsString :=
  (devices.get deviceId).map (fun record =>
    match record.workspaceGrant with
    | some signed => signed.grant.certificateId
    | none => record.certificate.certificateId)

end TrustedDevices

/-- The values that an approval draws up its documents from. -/
structure Approval where
  certificateId : JsString
  grantId : JsString
  gatewayTransport : MatrixTransportBinding
  deviceId : JsString
  deviceName : JsString
  deviceKey : PairingPublicKey
  deviceTransport : MatrixTransportBinding
  allowedOperations : List JsString
  issuedAt : ℕ
  certificateLifetimeMs : ℕ
  lifetime_in_policy : 60000 ≤ certificateLifetimeMs ∧
    certificateLifetimeMs ≤ 366 * 24 * 60 * 60000

def Approval.certificate (a : Approval) : PairingCertificate where
  certificateId := a.certificateId
  gatewayTransport := a.gatewayTransport
  deviceId := a.deviceId
  deviceName := a.deviceName
  deviceKey := a.deviceKey
  deviceTransport := a.deviceTransport
  allowedOperations := a.allowedOperations
  issuedAt := a.issuedAt
  expiresAt := a.issuedAt + a.certificateLifetimeMs
  issued_before := by have := a.lifetime_in_policy; omega

def Approval.workspaceGrant (identity : GatewayPairingIdentity) (a : Approval) :
    SignedWorkspaceDeviceGrant :=
  let grant : WorkspaceDeviceGrant :=
    { grantId := a.grantId
      workspaceId := identity.workspaceId
      certificateId := a.certificateId
      deviceId := a.deviceId
      deviceName := a.deviceName
      deviceKey := a.deviceKey
      deviceTransport := a.deviceTransport
      allowedOperations := a.allowedOperations
      issuedAt := a.issuedAt
      expiresAt := a.issuedAt + a.certificateLifetimeMs
      issued_before := by have := a.lifetime_in_policy; omega }
  ⟨grant,⟨identity.keyId,identity.signGrant grant⟩⟩

/-- A Gateway node. The merged documents are those that a merge accepted. -/
structure Gateway where
  devices : TrustedDevices
  authorization : WorkspaceAuthorizationState
  mergedGrants : List SignedWorkspaceDeviceGrant
  mergedRevocations : List SignedWorkspaceDeviceRevocation

variable (identity : GatewayPairingIdentity)

namespace Gateway

def initial : Gateway := ⟨.empty,initialState identity.workspaceId,[],[]⟩

def receiveGrant (g : Gateway) (signed : SignedWorkspaceDeviceGrant) (now : ℤ) :
    Except AuthorizationError Gateway := do
  let (_,authorization) ← mergeGrant identity g.authorization signed now
  .ok { g with authorization, mergedGrants := signed :: g.mergedGrants }

def receiveRevocation (g : Gateway) (signed : SignedWorkspaceDeviceRevocation) :
    Except AuthorizationError Gateway := do
  let (_,authorization) ← mergeRevocation identity g.authorization signed
  .ok { g with authorization, mergedRevocations := signed :: g.mergedRevocations }

/-- The revocation that the administrator's request signs. -/
def revocationOf (deviceId certificateId revocationId : JsString) (reason : Option JsString)
    (issuedAt : ℕ) : SignedWorkspaceDeviceRevocation :=
  let revocation : WorkspaceDeviceRevocation :=
    ⟨revocationId,identity.workspaceId,deviceId,certificateId,reason.filter JsString.truthy,issuedAt⟩
  ⟨revocation,⟨identity.keyId,identity.signRevocation revocation⟩⟩

def onDeviceRevoked (g : Gateway) (deviceId revocationId : JsString) (reason : Option JsString)
    (issuedAt : ℕ) : Except RegistryError Gateway :=
  match g.devices.certificateId deviceId with
  | none => .error (.noPortableAuthorization deviceId)
  | some certificateId => do
    let found ← (findRevocation identity g.authorization deviceId certificateId).mapError .authorization
    if found.isSome then .ok g
    else (g.receiveRevocation identity
      (revocationOf identity deviceId certificateId revocationId reason issuedAt)).mapError .authorization

end Gateway

/-- What happens at a node: documents arrive in any order, a pairing is approved (also the renewal of
an active device), the administrator revokes a device. -/
inductive GatewayEvent
  | grant (signed : SignedWorkspaceDeviceGrant) (now : ℤ)
  | revocation (signed : SignedWorkspaceDeviceRevocation)
  | approve (approval : Approval) (now : ℕ)
  | revoke (deviceId revocationId : JsString) (reason : Option JsString) (issuedAt revokedAt : ℕ)

/-- A refused event leaves the node as it was; a revocation request that the registry refuses has
already merged its document. -/
def Gateway.step (g : Gateway) : GatewayEvent → Gateway
  | .grant signed now => (g.receiveGrant identity signed now).toOption.getD g
  | .revocation signed => (g.receiveRevocation identity signed).toOption.getD g
  | .approve a now =>
    match g.devices.approve a.certificate (some (a.workspaceGrant identity)) now with
    | .ok devices => { g with devices }
    | .error _ => g
  | .revoke deviceId revocationId reason issuedAt revokedAt =>
    match g.onDeviceRevoked identity deviceId revocationId reason issuedAt with
    | .error _ => g
    | .ok g => match g.devices.revoke deviceId reason revokedAt with
      | .ok devices => { g with devices }
      | .error _ => g

def Gateway.run (events : List GatewayEvent) : Gateway :=
  events.foldl (Gateway.step identity) (Gateway.initial identity)

/-- The state holds the merged documents and nothing else. -/
structure Gateway.Merged (g : Gateway) : Prop where
  valid : Valid identity g.authorization
  grants : ∀ signed, signed ∈ g.mergedGrants ↔ g.authorization.grants.get signed.key = some signed
  revocations : ∀ signed,
    signed ∈ g.mergedRevocations ↔ g.authorization.revocations.get signed.key = some signed

variable {identity} {g after : Gateway}

theorem Gateway.Merged.receiveGrant (h : g.Merged identity) {signed : SignedWorkspaceDeviceGrant} {now : ℤ}
    (hok : g.receiveGrant identity signed now = .ok after) : after.Merged identity := by
  obtain ⟨⟨fresh,authorization⟩,hmerge,hok⟩ := bind_eq_ok.mp hok
  cases hok
  obtain ⟨-,-,hrevocations,hget⟩ := mergeGrant_ok hmerge
  refine ⟨h.valid.mergeGrant hmerge,fun s => ?_,fun s => ?_⟩
  · rw [List.mem_cons,hget,h.grants]
    constructor
    · rintro (rfl | hs)
      · exact .inr ⟨rfl,rfl⟩
      · exact .inl hs
    · rintro (hs | ⟨-,rfl⟩)
      · exact .inr hs
      · exact .inl rfl
  · rw [hrevocations]
    exact h.revocations s

theorem Gateway.Merged.receiveRevocation (h : g.Merged identity) {signed : SignedWorkspaceDeviceRevocation}
    (hok : g.receiveRevocation identity signed = .ok after) : after.Merged identity := by
  obtain ⟨⟨fresh,authorization⟩,hmerge,hok⟩ := bind_eq_ok.mp hok
  cases hok
  obtain ⟨-,-,hgrants,hget⟩ := mergeRevocation_ok hmerge
  refine ⟨h.valid.mergeRevocation hmerge,fun s => ?_,fun s => ?_⟩
  · rw [hgrants]
    exact h.grants s
  · rw [List.mem_cons,hget,h.revocations]
    constructor
    · rintro (rfl | hs)
      · exact .inr ⟨rfl,rfl⟩
      · exact .inl hs
    · rintro (hs | ⟨-,rfl⟩)
      · exact .inr hs
      · exact .inl rfl

/-- A request to revoke leaves the node as it is, or merges a revocation. -/
theorem Gateway.onDeviceRevoked_ok {deviceId revocationId : JsString} {reason : Option JsString} {issuedAt : ℕ}
    (hok : g.onDeviceRevoked identity deviceId revocationId reason issuedAt = .ok after) :
    after = g ∨ ∃ signed, g.receiveRevocation identity signed = .ok after := by
  unfold Gateway.onDeviceRevoked at hok
  split at hok
  · cases hok
  · obtain ⟨found,-,hok⟩ := bind_eq_ok.mp hok
    split at hok
    · cases hok
      exact .inl rfl
    · cases hr : g.receiveRevocation identity (Gateway.revocationOf identity deviceId _ revocationId reason
        issuedAt) with
      | error e => rw [hr] at hok; cases hok
      | ok after' =>
        rw [hr] at hok
        cases hok
        exact .inr ⟨_,hr⟩

variable (identity) in
/-- A step receives a grant, or it receives a revocation, if anything, and changes the devices. -/
theorem Gateway.step_cases (g : Gateway) (event : GatewayEvent) :
    (∃ signed now,g.receiveGrant identity signed now = .ok (g.step identity event)) ∨
      ∃ after devices, (after = g ∨ ∃ signed,g.receiveRevocation identity signed = .ok after) ∧
        g.step identity event = { after with devices } := by
  cases event with
  | grant signed now =>
    simp only [Gateway.step]
    cases hok : g.receiveGrant identity signed now with
    | error e => exact .inr ⟨g,g.devices,.inl rfl,rfl⟩
    | ok after => exact .inl ⟨signed,now,hok⟩
  | revocation signed =>
    simp only [Gateway.step]
    cases hok : g.receiveRevocation identity signed with
    | error e => exact .inr ⟨g,g.devices,.inl rfl,rfl⟩
    | ok after => exact .inr ⟨after,after.devices,.inr ⟨signed,hok⟩,rfl⟩
  | approve a now =>
    simp only [Gateway.step]
    split <;> exact .inr ⟨g,_,.inl rfl,rfl⟩
  | revoke deviceId revocationId reason issuedAt revokedAt =>
    simp only [Gateway.step]
    split
    · exact .inr ⟨g,g.devices,.inl rfl,rfl⟩
    · next after hok =>
      split <;> exact .inr ⟨after,_,Gateway.onDeviceRevoked_ok hok,rfl⟩

theorem Gateway.Merged.step (h : g.Merged identity) (event : GatewayEvent) :
    (g.step identity event).Merged identity := by
  obtain ⟨signed,now,hok⟩ | ⟨after,devices,hafter,heq⟩ := Gateway.step_cases identity g event
  · exact h.receiveGrant hok
  · have hmerged : after.Merged identity := by
      obtain rfl | ⟨signed,hok⟩ := hafter
      · exact h
      · exact h.receiveRevocation hok
    rw [heq]
    exact ⟨hmerged.valid,hmerged.grants,hmerged.revocations⟩

theorem merged_run (identity : GatewayPairingIdentity) (events : List GatewayEvent) :
    (Gateway.run identity events).Merged identity := by
  have hinitial : (Gateway.initial identity).Merged identity :=
    ⟨valid_initialState,by simp [Gateway.initial,initialState],by simp [Gateway.initial,initialState]⟩
  have hgo : ∀ (events : List GatewayEvent) (g : Gateway),g.Merged identity →
      (events.foldl (Gateway.step identity) g).Merged identity := by
    intro events
    induction events with
    | nil => exact fun _ h => h
    | cons event events ih => exact fun g h => ih _ (h.step event)
  exact hgo events _ hinitial

/-- No grant of the device is active at any time. -/
def Inactive (identity : GatewayPairingIdentity) (state : WorkspaceAuthorizationState)
    (deviceId : JsString) : Prop :=
  ∀ now, isActive identity state deviceId now = .ok false ∧ ∃ active,
    activeGrants identity state now = .ok active ∧ ∀ signed ∈ active, signed.grant.deviceId ≠ deviceId

theorem inactive_iff {state : WorkspaceAuthorizationState} (h : Valid identity state)
    (deviceId : JsString) : Inactive identity state deviceId ↔
      ∀ signed, state.grants.get signed.key = some signed → signed.grant.deviceId = deviceId →
        state.revocations.has signed.key := by
  constructor
  · intro hinactive signed hget hdevice
    by_contra hrevoked
    -- An issued grant is active at the time of its issue.
    obtain ⟨-,active,hactive,hnone⟩ := hinactive signed.grant.issuedAt
    obtain ⟨active',hactive',-,hdevices⟩ := activeGrants_ok h signed.grant.issuedAt
    rw [hactive,Except.ok.injEq] at hactive'
    subst hactive'
    have hissued : (signed.grant.issuedAt : ℤ) < signed.grant.expiresAt := Int.ofNat_lt.mpr signed.grant.issued_before
    obtain ⟨latest,hlatest,hsame⟩ := hdevices signed
      ((mem_unrevokedGrants h).mpr ⟨hget,hissued,by simpa using hrevoked⟩)
    exact hnone latest hlatest (hsame.trans hdevice)
  · intro hrevoked now
    obtain ⟨active,hactive,hfrom,-⟩ := activeGrants_ok h now
    have hnone : ∀ signed ∈ active,signed.grant.deviceId ≠ deviceId := by
      intro signed hs hdevice
      obtain ⟨hget,-,hnot⟩ := (mem_unrevokedGrants h).mp (hfrom signed hs)
      rw [hrevoked signed hget hdevice] at hnot
      exact absurd hnot (by simp)
    refine ⟨?_,active,hactive,hnone⟩
    rw [isActive,hactive,ok_bind]
    simpa using hnone

/-- Every revocation that was merged, and after which no later grant of its device was merged, keeps the
device inactive. -/
def RevokedStaysRevoked (identity : GatewayPairingIdentity) (g : Gateway) : Prop :=
  ∀ r ∈ g.mergedRevocations,
    (∀ signed ∈ g.mergedGrants,signed.grant.deviceId = r.revocation.deviceId →
      signed.grant.issuedAt ≤ r.revocation.issuedAt) →
    Inactive identity g.authorization r.revocation.deviceId

/-- Of a device that was revoked and not granted again, every certificate with a merged grant is named
by a merged revocation. -/
def EveryCertificateRevoked (g : Gateway) : Prop :=
  ∀ r ∈ g.mergedRevocations,
    (∀ signed ∈ g.mergedGrants,signed.grant.deviceId = r.revocation.deviceId →
      signed.grant.issuedAt ≤ r.revocation.issuedAt) →
    ∀ signed ∈ g.mergedGrants, signed.grant.deviceId = r.revocation.deviceId →
      ∃ r' ∈ g.mergedRevocations, r'.key = signed.key

theorem revokedStaysRevoked_iff (identity : GatewayPairingIdentity) (events : List GatewayEvent) :
    RevokedStaysRevoked identity (Gateway.run identity events) ↔
      EveryCertificateRevoked (Gateway.run identity events) := by
  have h := merged_run identity events
  set g := Gateway.run identity events
  have hrevoked : ∀ key,g.authorization.revocations.has key ↔
      ∃ r ∈ g.mergedRevocations, r.key = key := by
    intro key
    rw [InsertionMap.has_iff]
    constructor
    · rintro ⟨r,hr⟩
      obtain rfl := h.valid.revocation_key key r hr
      exact ⟨r,(h.revocations r).mpr hr,rfl⟩
    · rintro ⟨r,hr,rfl⟩
      exact ⟨r,(h.revocations r).mp hr⟩
  unfold RevokedStaysRevoked EveryCertificateRevoked
  simp only [inactive_iff h.valid,hrevoked,h.grants]

/-- No event takes a merged revocation back. -/
theorem Gateway.mem_mergedRevocations_step {r : SignedWorkspaceDeviceRevocation} (hr : r ∈ g.mergedRevocations)
    (event : GatewayEvent) : r ∈ (g.step identity event).mergedRevocations := by
  obtain ⟨signed,now,hok⟩ | ⟨after,devices,hafter,heq⟩ := Gateway.step_cases identity g event
  · obtain ⟨merged,-,hok⟩ := bind_eq_ok.mp hok
    rw [← Except.ok.inj hok]
    exact hr
  · rw [heq]
    obtain rfl | ⟨signed,hok⟩ := hafter
    · exact hr
    · obtain ⟨merged,-,hok⟩ := bind_eq_ok.mp hok
      cases hok
      exact List.mem_cons_of_mem _ hr

/-- Once a revocation is merged, no grant of its certificate is active at any time, whatever arrives or is
approved later. -/
theorem revoked_certificate_stays_revoked (identity : GatewayPairingIdentity) (events later : List GatewayEvent)
    {r : SignedWorkspaceDeviceRevocation} (hr : r ∈ (Gateway.run identity events).mergedRevocations) (now : ℤ) :
    ∃ active, activeGrants identity (Gateway.run identity (events ++ later)).authorization now = .ok active ∧
      ∀ signed ∈ active, signed.key ≠ r.key := by
  have hmerged := merged_run identity (events ++ later)
  have hkept : r ∈ (Gateway.run identity (events ++ later)).mergedRevocations := by
    rw [Gateway.run,List.foldl_append]
    exact List.foldlRecOn (motive := fun g : Gateway => r ∈ g.mergedRevocations) later _ hr
      fun g hg event _ => Gateway.mem_mergedRevocations_step hg event
  obtain ⟨active,hactive,hunrevoked,-⟩ := activeGrants_ok hmerged.valid now
  refine ⟨active,hactive,fun signed hsigned hkey => ?_⟩
  obtain ⟨-,-,hrevoked⟩ := (mem_unrevokedGrants hmerged.valid).mp (hunrevoked signed hsigned)
  rw [hkey,InsertionMap.has,(hmerged.revocations r).mp hkept] at hrevoked
  cases hrevoked

def trustedIdentity : GatewayPairingIdentity where
  workspaceId := "workspace"
  keyId := "root"
  verifyGrant _ value := value = "signed"
  verifyRevocation _ value := value = "signed"
  signGrant _ := "signed"
  signRevocation _ := "signed"
  localeCompare a b := if a = b then 0 else 1

def pairPhone (certificateId grantId : JsString) (issuedAt : ℕ) : Approval where
  certificateId := certificateId
  grantId := grantId
  gatewayTransport := ⟨"https://matrix","!room","@gateway:matrix","GATEWAY","gateway-fingerprint"⟩
  deviceId := "phone"
  deviceName := "Phone"
  deviceKey := ⟨"phone-key",.null⟩
  deviceTransport := ⟨"https://matrix","!room","@client:matrix","PHONE","phone-fingerprint"⟩
  allowedOperations := []
  issuedAt := issuedAt
  certificateLifetimeMs := 60000
  lifetime_in_policy := by decide

def renewedThenRevoked : List GatewayEvent :=
  let paired := pairPhone "first" "grant-1" 1
  let renewed := pairPhone "second" "grant-2" 2
  [.approve paired 1,.grant (paired.workspaceGrant trustedIdentity) 1,
    .approve renewed 2,.grant (renewed.workspaceGrant trustedIdentity) 2,.revoke "phone" "revocation" none 3 3]

set_option maxRecDepth 100000 in
/-- The phone pairs once more after its second certificate was revoked. -/
theorem revoked_certificate_stays_revoked_phone : ∃ active,
    activeGrants trustedIdentity (Gateway.run trustedIdentity (renewedThenRevoked ++
      [.grant ((pairPhone "third" "grant-3" 4).workspaceGrant trustedIdentity) 4])).authorization 5 = .ok active ∧
      ∀ signed ∈ active, signed.key ≠ authorizationKey "phone" "second" :=
  revoked_certificate_stays_revoked (r := Gateway.revocationOf trustedIdentity "phone" "second" "revocation" none 3)
    trustedIdentity renewedThenRevoked _ (by decide) 5

set_option maxRecDepth 100000 in
/-- The revocation names the second certificate; the grant of the first one stays active. -/
theorem renewedThenRevoked_active :
    ¬ RevokedStaysRevoked trustedIdentity (Gateway.run trustedIdentity renewedThenRevoked) := by
  intro h
  have hinactive := h (Gateway.revocationOf trustedIdentity "phone" "second" "revocation" none 3)
    (by decide) (by decide)
  have hrevoked := (inactive_iff (merged_run _ renewedThenRevoked).valid _).mp hinactive
    ((pairPhone "first" "grant-1" 1).workspaceGrant trustedIdentity) (by decide) (by decide)
  exact absurd hrevoked (by decide)

end Malink.Workspace
