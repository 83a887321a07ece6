import Malink.DirectorySigning

/-!
# Calls one after another

The file stays loadable when what it adds stays within the bounds of the validator and the schema.
-/

namespace Malink.Directory

open Json (canonicalJson)
open Mlp3 (maxSafeInteger isDigest)

/-- What the host supplies to a signature: a fresh directory ID and the value of the crypto library. -/
structure Signing where
  directoryId : JsString
  value : WorkspaceGatewayDirectory → JsString

structure Call where
  operation : Operation
  signing : Signing

variable (identity : GatewayPairingIdentity)

def verified (signed : SignedWorkspaceGatewayDirectory) : Except DirectoryError SignedWorkspaceGatewayDirectory := do
  verifyWorkspaceGatewayDirectory identity signed
  .ok signed

/-- `signCurrent` when no other call changes the file: the first attempt finds its revision again. -/
def signCurrent (signing : Signing) (now : ℤ) (state : WorkspaceDirectoryState) :
    Except DirectoryError SignedWorkspaceGatewayDirectory × WorkspaceDirectoryState :=
  match load identity state with
  | .error e => (.error e,state)
  | .ok (.document signed,_) => (verified identity signed,state)
  | .ok (_,_) =>
    match (draftOf identity state).sign identity signing.directoryId signing.value now with
    | .error e => (.error e,state)
    | .ok signed =>
      match commit identity (draftOf identity state) signed state with
      | .error e => (.error e,state)
      | .ok (some committed,file) => (verified identity committed,file)
      | .ok (none,file) => (.error .keptChanging,file)

/-- What the call returns or throws, and the file that it leaves. -/
def Call.result (call : Call) (state : WorkspaceDirectoryState) :
    Except DirectoryError (Option SignedWorkspaceGatewayDirectory) × WorkspaceDirectoryState :=
  match call.operation.transact identity state with
  | .error e => (.error e,state)
  | .ok (.done,file) => (.ok none,file)
  | .ok (.document signed,file) => ((verified identity signed).map some,file)
  | .ok (.unsigned,file) =>
    let (signed,file) := signCurrent identity call.signing call.operation.now file
    (signed.map some,file)

/-- What the identity store and the host promise: an identifier and a key ID of their schemas, and a collation
that is consistent. -/
structure GatewayPairingIdentity.WellFormed : Prop where
  workspaceId : isOpaqueId identity.workspaceId
  keyId : isDigest identity.keyId
  total : ∀ a b, identity.localeCompare a b ≤ 0 ∨ identity.localeCompare b a ≤ 0
  trans : ∀ a b c, identity.localeCompare a b ≤ 0 → identity.localeCompare b c ≤ 0 →
    identity.localeCompare a c ≤ 0

/-- What the crypto library promises: a signature passes the verification. -/
structure Signing.Signs (signing : Signing) : Prop where
  directoryId : isOpaqueId signing.directoryId
  schema : ∀ d, pairingSignatureSchema ⟨identity.keyId,signing.value d⟩
  verifies : ∀ d, identity.verifyDirectory d (signing.value d)

/-- A descriptor that can be published: valid, within the bounds, with routes that no other node has. -/
structure Publishable (d : WorkspaceGatewayDescriptor) (state : WorkspaceDirectoryState) : Prop where
  schema : workspaceGatewayDescriptorSchema identity d
  revision : state.revision < maxSafeInteger
  size : state.gateways.has identity.gatewayNodeId ∨ state.gateways.size < 256
  routes : UniqueRoutes d.routes
  others : ∀ id g, state.gateways.get id = some g → id ≠ identity.gatewayNodeId → ¬ Clash d g

/-- A union that can be signed: within the bounds, with no route in two of the nodes that it keeps. -/
structure UnionFits (state : WorkspaceDirectoryState) (incoming : WorkspaceGatewayDirectory) : Prop where
  revision : max state.revision incoming.revision < maxSafeInteger
  size : (unionNodes state incoming).length ≤ 256
  removed : (unionRemoved state incoming).length ≤ 256
  routes : ∀ g g', Kept identity state incoming g → Kept identity state incoming g' →
    g.gatewayNodeId ≠ g'.gatewayNodeId → ¬ Clash g g'

/-- A merge that signs nothing, or a revision that can be signed at that time. -/
structure MergeFits (signed : SignedWorkspaceGatewayDirectory) (now : ℤ) (state : WorkspaceDirectoryState) :
    Prop where
  tie : signed.directory.revision = state.revision → incomingMatchesCurrent identity state signed.directory →
    (∃ own,state.signed = some own ∧ ¬ canonicalJson own.toJson ≤ canonicalJson signed.toJson) →
    state.revision < maxSafeInteger ∧ isTimestamp now
  union : (signed.directory.revision = state.revision →
      incomingMatchesCurrent identity state signed.directory = false) →
    ¬ (incomingContainsUnion identity state signed.directory ∧ state.revision < signed.directory.revision) →
    UnionFits identity state signed.directory ∧ isTimestamp now

/-- Routes that can be moved: none of them twice, and none that a third node has. -/
structure Promotable (source : JsString) (p : Promotion) (state : WorkspaceDirectoryState) : Prop where
  routes : UniqueRoutes (p.projects ++ p.retainedSourceProjects.getD [])
  others : ∀ id g, state.gateways.get id = some g → id ≠ identity.gatewayNodeId → id ≠ source →
    ∀ r ∈ g.routes, ∀ r' ∈ p.projects ++ p.retainedSourceProjects.getD [],
      r.projectId ≠ r'.projectId ∧ r.roomId ≠ r'.roomId

def Operation.Fits (state : WorkspaceDirectoryState) : Operation → Prop
  | .setClientMatrixUserId userId =>
    matrixUserIdSchema userId = true → state.clientMatrixUserId = none → state.revision < maxSafeInteger
  | .publishLocal p now =>
    identity.gatewayNodeId ∉ state.removedGatewayNodeIds →
      if p.changes identity state then Publishable identity ⟨p.descriptor identity,now⟩ state
      else state.signed = none → isTimestamp now
  | .merge signed now =>
    verifyWorkspaceGatewayDirectory identity signed = .ok () →
      state.revision ≤ signed.directory.revision →
      (∀ userId,state.clientMatrixUserId = some userId →
        signed.directory.clientMatrixUserId = some userId) → MergeFits identity signed now state
  | .remove id expected now =>
    if id ∈ state.removedGatewayNodeIds then state.signed = none → isTimestamp now
    else ∀ g, state.gateways.get id = some g → id ≠ identity.gatewayNodeId →
      checkExpected state g expected = .ok () →
      state.removedGatewayNodeIds.length < 256 ∧ state.revision < maxSafeInteger ∧ isTimestamp now
  | .promoteLocalOwnership source p now =>
    ∀ own, state.gateways.get identity.gatewayNodeId = some own →
      workspaceGatewayDescriptorSchema identity (p.next identity own now) →
      state.gateways.has source ∨ source ∈ state.removedGatewayNodeIds → Promotable identity source p state
  | .load now => state.signed = none → isTimestamp now

/-- A call that throws leaves the file as it is; removed nodes and the established user ID stay. -/
structure Preserves (state : WorkspaceDirectoryState)
    (outcome : Except DirectoryError (Option SignedWorkspaceGatewayDirectory) × WorkspaceDirectoryState) :
    Prop where
  unchanged : ∀ e, outcome.1 = .error e → outcome.2 = state
  removed : ∀ id ∈ state.removedGatewayNodeIds, id ∈ outcome.2.removedGatewayNodeIds
  matrixUserId : ∀ userId, state.clientMatrixUserId = some userId →
    outcome.2.clientMatrixUserId = some userId

end Malink.Directory
