import Malink.CheckedResults
import Malink.InsertionMaps
import Malink.JsonText

/-!
# Workspace device authorization

Signed grants and revocations of devices, kept by device and certificate.
-/

namespace Malink.Workspace

open InsertionMap

structure Signature where
  keyId : JsString
  value : JsString
  deriving DecidableEq

structure PairingPublicKey where
  keyId : JsString
  publicKey : Json
  deriving DecidableEq

structure MatrixTransportBinding where
  homeserver : JsString
  roomId : JsString
  userId : JsString
  deviceId : JsString
  ed25519 : JsString
  deriving DecidableEq

structure WorkspaceDeviceGrant where
  grantId : JsString
  workspaceId : JsString
  certificateId : JsString
  deviceId : JsString
  deviceName : JsString
  deviceKey : PairingPublicKey
  deviceTransport : MatrixTransportBinding
  allowedOperations : List JsString
  issuedAt : ℕ
  expiresAt : ℕ
  issued_before : issuedAt < expiresAt
  deriving DecidableEq

structure SignedWorkspaceDeviceGrant where
  grant : WorkspaceDeviceGrant
  signature : Signature
  deriving DecidableEq

structure WorkspaceDeviceRevocation where
  revocationId : JsString
  workspaceId : JsString
  deviceId : JsString
  certificateId : JsString
  reason : Option JsString
  issuedAt : ℕ
  deriving DecidableEq

structure SignedWorkspaceDeviceRevocation where
  revocation : WorkspaceDeviceRevocation
  signature : Signature
  deriving DecidableEq

/-- The Workspace authority of a node: the key pair of the Workspace root, as the crypto library of the
host evaluates it, and the host's collation. -/
structure GatewayPairingIdentity where
  workspaceId : JsString
  keyId : JsString
  verifyGrant : WorkspaceDeviceGrant → JsString → Bool
  verifyRevocation : WorkspaceDeviceRevocation → JsString → Bool
  signGrant : WorkspaceDeviceGrant → JsString
  signRevocation : WorkspaceDeviceRevocation → JsString
  localeCompare : JsString → JsString → ℤ

inductive AuthorizationError
  | keyMismatch
  | invalidSignature
  | grantBindingMismatch
  | revocationBindingMismatch
  | grantExpired
  | grantImmutable
  | revocationImmutable
  | stateInvalid
  | grantKeyInvalid
  | revocationKeyInvalid
  deriving DecidableEq

def AuthorizationError.message : AuthorizationError → String
  | keyMismatch => "Workspace authorization signer is not the pinned key"
  | invalidSignature => "Workspace authorization signature is invalid"
  | grantBindingMismatch => "Device grant belongs to another workspace"
  | revocationBindingMismatch => "Device revocation belongs to another workspace"
  | grantExpired => "Workspace device grant has expired"
  | grantImmutable => "Workspace device grant is immutable"
  | revocationImmutable => "Workspace device revocation is immutable"
  | stateInvalid => "Workspace device authorization state is invalid"
  | grantKeyInvalid => "Workspace device grant key is invalid"
  | revocationKeyInvalid => "Workspace device revocation key is invalid"

def verifyWorkspaceDeviceGrant (identity : GatewayPairingIdentity) (signed : SignedWorkspaceDeviceGrant)
    (now : ℤ) : Except AuthorizationError Unit :=
  if signed.signature.keyId ≠ identity.keyId then .error .keyMismatch
  else if !identity.verifyGrant signed.grant signed.signature.value then .error .invalidSignature
  else if signed.grant.workspaceId ≠ identity.workspaceId then .error .grantBindingMismatch
  else if (signed.grant.expiresAt : ℤ) ≤ now then .error .grantExpired
  else .ok ()

def verifyWorkspaceDeviceRevocation (identity : GatewayPairingIdentity)
    (signed : SignedWorkspaceDeviceRevocation) : Except AuthorizationError Unit :=
  if signed.signature.keyId ≠ identity.keyId then .error .keyMismatch
  else if !identity.verifyRevocation signed.revocation signed.signature.value then
    .error .invalidSignature
  else if signed.revocation.workspaceId ≠ identity.workspaceId then .error .revocationBindingMismatch
  else .ok ()

def authorizationKey (deviceId certificateId : JsString) : JsString := deviceId ++ ("\x00" : JsString) ++ certificateId

def SignedWorkspaceDeviceGrant.key (signed : SignedWorkspaceDeviceGrant) : JsString :=
  authorizationKey signed.grant.deviceId signed.grant.certificateId

def SignedWorkspaceDeviceRevocation.key (signed : SignedWorkspaceDeviceRevocation) : JsString :=
  authorizationKey signed.revocation.deviceId signed.revocation.certificateId

structure WorkspaceAuthorizationState where
  workspaceId : JsString
  grants : InsertionMap JsString SignedWorkspaceDeviceGrant
  revocations : InsertionMap JsString SignedWorkspaceDeviceRevocation

def initialState (workspaceId : JsString) : WorkspaceAuthorizationState := ⟨workspaceId,.empty,.empty⟩

def validateState (state : WorkspaceAuthorizationState) (workspaceId : JsString) :
    Except AuthorizationError Unit :=
  if state.workspaceId ≠ workspaceId then .error .stateInvalid
  else if !state.grants.entries.all (fun e => e.1 = e.2.key) then .error .grantKeyInvalid
  else if !state.revocations.entries.all (fun e => e.1 = e.2.key) then .error .revocationKeyInvalid
  else .ok ()

/-- Documents are immutable: whether the document was new, and the documents with it. -/
def mergeDocument {δ : Type} [DecidableEq δ] (documents : InsertionMap JsString δ) (key : JsString)
    (signed : δ) (immutable : AuthorizationError) :
    Except AuthorizationError (Bool × InsertionMap JsString δ) :=
  match documents.get key with
  | some existing => if existing = signed then .ok (false,documents) else .error immutable
  | none => .ok (true,documents.set key signed)

variable (identity : GatewayPairingIdentity)

def mergeGrant (state : WorkspaceAuthorizationState) (signed : SignedWorkspaceDeviceGrant) (now : ℤ) :
    Except AuthorizationError (Bool × WorkspaceAuthorizationState) := do
  verifyWorkspaceDeviceGrant identity signed now
  validateState state identity.workspaceId
  let (fresh,grants) ← mergeDocument state.grants signed.key signed .grantImmutable
  .ok (fresh,{ state with grants })

def mergeRevocation (state : WorkspaceAuthorizationState) (signed : SignedWorkspaceDeviceRevocation) :
    Except AuthorizationError (Bool × WorkspaceAuthorizationState) := do
  verifyWorkspaceDeviceRevocation identity signed
  validateState state identity.workspaceId
  let (fresh,revocations) ← mergeDocument state.revocations signed.key signed .revocationImmutable
  .ok (fresh,{ state with revocations })

def findRevocation (state : WorkspaceAuthorizationState) (deviceId certificateId : JsString) :
    Except AuthorizationError (Option SignedWorkspaceDeviceRevocation) := do
  validateState state identity.workspaceId
  match state.revocations.get (authorizationKey deviceId certificateId) with
  | some revocation => do
    verifyWorkspaceDeviceRevocation identity revocation
    .ok (some revocation)
  | none => .ok none

/-- By device ID, the newest first. -/
def compareGrants (left right : SignedWorkspaceDeviceGrant) : ℤ :=
  let byDevice := identity.localeCompare left.grant.deviceId right.grant.deviceId
  if byDevice ≠ 0 then byDevice else right.grant.issuedAt - left.grant.issuedAt

def latestGrants (latest : InsertionMap JsString SignedWorkspaceDeviceGrant)
    (grants : List SignedWorkspaceDeviceGrant) : InsertionMap JsString SignedWorkspaceDeviceGrant :=
  grants.foldl (fun latest signed =>
    if latest.has signed.grant.deviceId then latest else latest.set signed.grant.deviceId signed) latest

/-- The grants that have not expired and whose key no revocation has. -/
def unrevokedGrants (state : WorkspaceAuthorizationState) (now : ℤ) : List SignedWorkspaceDeviceGrant :=
  (state.grants.entries.filter (fun e =>
    decide (now < (e.2.grant.expiresAt : ℤ)) && !state.revocations.has e.1)).map Prod.snd

def activeGrants (state : WorkspaceAuthorizationState) (now : ℤ) :
    Except AuthorizationError (List SignedWorkspaceDeviceGrant) := do
  validateState state identity.workspaceId
  let active := (unrevokedGrants state now).mergeSort
    (fun left right => compareGrants identity left right ≤ 0)
  let latest := (latestGrants .empty active).values
  latest.forM (fun signed => verifyWorkspaceDeviceGrant identity signed now)
  .ok latest

def isActive (state : WorkspaceAuthorizationState) (deviceId : JsString) (now : ℤ) :
    Except AuthorizationError Bool := do
  let active ← activeGrants identity state now
  .ok (active.any (fun signed => signed.grant.deviceId = deviceId))

/-- What every merge keeps: the keys name the documents, and the documents were verified. -/
structure Valid (state : WorkspaceAuthorizationState) : Prop where
  workspaceId : state.workspaceId = identity.workspaceId
  grant_key : ∀ k signed, state.grants.get k = some signed → k = signed.key
  revocation_key : ∀ k signed, state.revocations.get k = some signed → k = signed.key
  grant_verified : ∀ k signed, state.grants.get k = some signed → ∀ now : ℤ,
    now < signed.grant.expiresAt → verifyWorkspaceDeviceGrant identity signed now = .ok ()
  revocation_verified : ∀ k signed, state.revocations.get k = some signed →
    verifyWorkspaceDeviceRevocation identity signed = .ok ()

variable {identity} {state : WorkspaceAuthorizationState}

theorem valid_initialState : Valid identity (initialState identity.workspaceId) where
  workspaceId := rfl
  grant_key _ _ h := by simp [initialState] at h
  revocation_key _ _ h := by simp [initialState] at h
  grant_verified _ _ h := by simp [initialState] at h
  revocation_verified _ _ h := by simp [initialState] at h

theorem Valid.validateState (h : Valid identity state) : validateState state identity.workspaceId = .ok () := by
  have hgrants : state.grants.entries.all (fun e => e.1 = e.2.key) := by
    rw [List.all_eq_true]
    intro e he
    simpa using h.grant_key e.1 e.2 (get_eq_some.mpr he)
  have hrevocations : state.revocations.entries.all (fun e => e.1 = e.2.key) := by
    rw [List.all_eq_true]
    intro e he
    simpa using h.revocation_key e.1 e.2 (get_eq_some.mpr he)
  simp [Workspace.validateState,h.workspaceId,hgrants,hrevocations]

variable {signed : SignedWorkspaceDeviceGrant}
  {now : ℤ} {fresh : Bool} {after : WorkspaceAuthorizationState}

/-- A verification does not depend on the clock, apart from the expiry. -/
theorem verifyWorkspaceDeviceGrant_of_ok {later : ℤ}
    (h : verifyWorkspaceDeviceGrant identity signed now = .ok ()) (hlater : later < signed.grant.expiresAt) :
    verifyWorkspaceDeviceGrant identity signed later = .ok () := by
  simp only [verifyWorkspaceDeviceGrant] at h ⊢
  split at h
  · exact absurd h (by simp)
  · split at h
    · exact absurd h (by simp)
    · split at h
      · exact absurd h (by simp)
      · have hnot : ¬ (signed.grant.expiresAt : ℤ) ≤ later := by omega
        simp_all

theorem get_mergeDocument {δ : Type} [DecidableEq δ] {documents after : InsertionMap JsString δ}
    {key : JsString} {signed : δ} {immutable : AuthorizationError}
    (h : mergeDocument documents key signed immutable = .ok (fresh,after)) {k : JsString} {d : δ} :
    after.get k = some d ↔ documents.get k = some d ∨ (k = key ∧ d = signed) := by
  unfold mergeDocument at h
  split at h
  · next existing hget =>
    split at h
    · next heq =>
      subst heq
      cases h
      refine ⟨.inl,?_⟩
      rintro (hd | ⟨rfl,rfl⟩)
      · exact hd
      · exact hget
    · cases h
  · next hget =>
    cases h
    rw [get_set]
    split
    · next hk =>
      subst hk
      simp [hget,eq_comm]
    · next hk => simp [hk]

theorem mergeGrant_ok (h : mergeGrant identity state signed now = .ok (fresh,after)) :
    verifyWorkspaceDeviceGrant identity signed now = .ok () ∧
      after.workspaceId = state.workspaceId ∧ after.revocations = state.revocations ∧
      ∀ k d, after.grants.get k = some d ↔
        state.grants.get k = some d ∨ (k = signed.key ∧ d = signed) := by
  obtain ⟨⟨⟩,hverify,h⟩ := bind_eq_ok.mp h
  obtain ⟨⟨⟩,-,h⟩ := bind_eq_ok.mp h
  obtain ⟨⟨b,grants⟩,hmerge,h⟩ := bind_eq_ok.mp h
  cases h
  exact ⟨hverify,rfl,rfl,fun k d => get_mergeDocument hmerge⟩

theorem mergeRevocation_ok {signed : SignedWorkspaceDeviceRevocation}
    (h : mergeRevocation identity state signed = .ok (fresh,after)) :
    verifyWorkspaceDeviceRevocation identity signed = .ok () ∧
      after.workspaceId = state.workspaceId ∧ after.grants = state.grants ∧
      ∀ k d, after.revocations.get k = some d ↔
        state.revocations.get k = some d ∨ (k = signed.key ∧ d = signed) := by
  obtain ⟨⟨⟩,hverify,h⟩ := bind_eq_ok.mp h
  obtain ⟨⟨⟩,-,h⟩ := bind_eq_ok.mp h
  obtain ⟨⟨b,revocations⟩,hmerge,h⟩ := bind_eq_ok.mp h
  cases h
  exact ⟨hverify,rfl,rfl,fun k d => get_mergeDocument hmerge⟩

theorem Valid.mergeGrant (h : Valid identity state)
    (hmerge : mergeGrant identity state signed now = .ok (fresh,after)) : Valid identity after := by
  obtain ⟨hverify,hid,hrev,hget⟩ := mergeGrant_ok hmerge
  refine ⟨hid.trans h.workspaceId,fun k d hd => ?_,hrev ▸ h.revocation_key,fun k d hd => ?_,
    hrev ▸ h.revocation_verified⟩
  · rcases (hget k d).mp hd with hd | ⟨rfl,rfl⟩
    · exact h.grant_key k d hd
    · rfl
  · rcases (hget k d).mp hd with hd | ⟨rfl,rfl⟩
    · exact h.grant_verified k d hd
    · exact fun later hlater => verifyWorkspaceDeviceGrant_of_ok hverify hlater

theorem Valid.mergeRevocation (h : Valid identity state) {signed : SignedWorkspaceDeviceRevocation}
    (hmerge : mergeRevocation identity state signed = .ok (fresh,after)) : Valid identity after := by
  obtain ⟨hverify,hid,hgrants,hget⟩ := mergeRevocation_ok hmerge
  refine ⟨hid.trans h.workspaceId,hgrants ▸ h.grant_key,fun k d hd => ?_,
    hgrants ▸ h.grant_verified,fun k d hd => ?_⟩
  · rcases (hget k d).mp hd with hd | ⟨rfl,rfl⟩
    · exact h.revocation_key k d hd
    · rfl
  · rcases (hget k d).mp hd with hd | ⟨rfl,rfl⟩
    · exact h.revocation_verified k d hd
    · exact hverify

theorem mem_unrevokedGrants (h : Valid identity state) :
    signed ∈ unrevokedGrants state now ↔ state.grants.get signed.key = some signed ∧
      now < signed.grant.expiresAt ∧ state.revocations.has signed.key = false := by
  simp only [unrevokedGrants,List.mem_map,List.mem_filter,Bool.and_eq_true,decide_eq_true_eq,
    Bool.not_eq_true',Prod.exists,exists_eq_right]
  constructor
  · rintro ⟨k,hmem,hnow,hrev⟩
    have hget := get_eq_some.mpr hmem
    obtain rfl := h.grant_key k signed hget
    exact ⟨hget,hnow,hrev⟩
  · rintro ⟨hget,hnow,hrev⟩
    exact ⟨signed.key,get_eq_some.mp hget,hnow,hrev⟩

/-- A pass over the grants takes each entry from them, and misses none of their devices. -/
theorem latestGrants_spec (latest : InsertionMap JsString SignedWorkspaceDeviceGrant)
    (grants : List SignedWorkspaceDeviceGrant) : (∀ d signed,(latestGrants latest grants).get d = some signed →
      latest.get d = some signed ∨ (signed ∈ grants ∧ signed.grant.deviceId = d)) ∧
    ∀ d, (latestGrants latest grants).has d ↔
      latest.has d ∨ ∃ signed ∈ grants, signed.grant.deviceId = d := by
  induction grants generalizing latest with
  | nil => exact ⟨fun _ _ h => .inl h,fun d => by simp [latestGrants]⟩
  | cons first grants ih =>
    simp only [latestGrants,List.foldl_cons]
    rw [← latestGrants]
    split
    · next hhas =>
      obtain ⟨hfrom,hdevices⟩ := ih latest
      refine ⟨fun d signed h => ?_,fun d => ?_⟩
      · exact (hfrom d signed h).imp_right (fun ⟨hmem,hd⟩ => ⟨List.mem_cons_of_mem _ hmem,hd⟩)
      · rw [hdevices]
        constructor
        · exact Or.imp_right (fun ⟨signed,hmem,hd⟩ => ⟨signed,List.mem_cons_of_mem _ hmem,hd⟩)
        · rintro (h | ⟨signed,hmem,rfl⟩)
          · exact .inl h
          · rcases List.mem_cons.mp hmem with rfl | hmem
            · exact .inl hhas
            · exact .inr ⟨signed,hmem,rfl⟩
    · obtain ⟨hfrom,hdevices⟩ := ih (latest.set first.grant.deviceId first)
      refine ⟨fun d signed h => ?_,fun d => ?_⟩
      · rcases hfrom d signed h with h | ⟨hmem,hd⟩
        · rw [get_set] at h
          split at h
          · next hd =>
            obtain rfl := Option.some.inj h
            exact .inr ⟨List.mem_cons_self,hd.symm⟩
          · exact .inl h
        · exact .inr ⟨List.mem_cons_of_mem _ hmem,hd⟩
      · rw [hdevices,has_iff_mem_keys,mem_keys_set,← has_iff_mem_keys]
        simp only [List.mem_cons,exists_eq_or_imp,eq_comm (a := d)]
        tauto

/-- In a valid state the active grants are those that are stored, not expired and not revoked, one for
each device that has any. -/
theorem activeGrants_ok (h : Valid identity state) (now : ℤ) :
    ∃ active, activeGrants identity state now = .ok active ∧
      (∀ signed ∈ active,signed ∈ unrevokedGrants state now) ∧
      ∀ signed ∈ unrevokedGrants state now, ∃ latest ∈ active,
        latest.grant.deviceId = signed.grant.deviceId := by
  set sorted := (unrevokedGrants state now).mergeSort
    (fun left right => compareGrants identity left right ≤ 0) with hsorted
  obtain ⟨hfrom,hdevices⟩ := latestGrants_spec .empty sorted
  have hmem : ∀ signed ∈ (latestGrants .empty sorted).values,signed ∈ unrevokedGrants state now := by
    intro signed hs
    obtain ⟨d,hd⟩ := mem_values.mp hs
    rcases hfrom d signed hd with hnone | ⟨hs,-⟩
    · simp at hnone
    · exact List.mem_mergeSort.mp hs
  have hverify : (latestGrants .empty sorted).values.forM
      (fun signed => verifyWorkspaceDeviceGrant identity signed now) = .ok () := by
    rw [forM_eq_ok]
    intro signed hs
    obtain ⟨hget,hnow,-⟩ := (mem_unrevokedGrants h).mp (hmem signed hs)
    exact h.grant_verified _ signed hget now hnow
  refine ⟨(latestGrants .empty sorted).values,?_,hmem,fun signed hs => ?_⟩
  · rw [activeGrants,h.validateState,ok_bind]
    simp only
    rw [← hsorted,hverify,ok_bind]
  · have hhas := (hdevices signed.grant.deviceId).mpr (.inr ⟨signed,List.mem_mergeSort.mpr hs,rfl⟩)
    obtain ⟨latest,hlatest⟩ := has_iff.mp hhas
    refine ⟨latest,mem_values.mpr ⟨_,hlatest⟩,?_⟩
    rcases hfrom _ latest hlatest with hnone | ⟨-,hd⟩
    · simp at hnone
    · exact hd

end Malink.Workspace
