import Malink.CanonicalJson
import Malink.ProjectionState
import Malink.WorkspaceAuthorization

/-!
# The Workspace directory of a Gateway node

The descriptors of the Workspace's nodes, the removed nodes, a revision, and the document of the last signed one.
Every operation is one transaction; when it leaves the revision unsigned, the document is drafted in a second and
committed in a third.
-/

namespace Malink.Directory

open Workspace (Signature MatrixTransportBinding)
open Mlp3 (maxSafeInteger isDigest isBase64UrlUnit JsString.within)
open Client (isSpaceUnit trimUnits)
open Json (canonicalJson ofOptions)

structure PairingPublicKey where
  keyId : JsString
  x : JsString
  y : JsString
  ext : Bool
  keyOps : Bool
  alg : Bool
  deriving DecidableEq

structure WorkspaceProjectRoute where
  projectId : JsString
  roomId : JsString
  conversationId : JsString
  deriving DecidableEq

/-- A descriptor without the time it was issued at. -/
structure DescriptorSemantics where
  gatewayNodeId : JsString
  workspaceId : JsString
  gatewayName : JsString
  computerName : Option JsString
  buildId : Option JsString
  onlineUpdate : Bool
  transport : MatrixTransportBinding
  publicKey : PairingPublicKey
  projects : Option (List WorkspaceProjectRoute)
  deriving DecidableEq

structure WorkspaceGatewayDescriptor extends DescriptorSemantics where
  issuedAt : ℤ
  deriving DecidableEq

structure WorkspaceGatewayDirectory where
  directoryId : JsString
  workspaceId : JsString
  clientMatrixUserId : Option JsString
  revision : ℕ
  gateways : List WorkspaceGatewayDescriptor
  removedGatewayNodeIds : Option (List JsString)
  issuedAt : ℤ
  deriving DecidableEq

structure SignedWorkspaceGatewayDirectory where
  directory : WorkspaceGatewayDirectory
  signature : Signature
  deriving DecidableEq

structure WorkspaceDirectoryState where
  workspaceId : JsString
  clientMatrixUserId : Option JsString
  revision : ℕ
  gateways : InsertionMap JsString WorkspaceGatewayDescriptor
  removedGatewayNodeIds : List JsString
  signed : Option SignedWorkspaceGatewayDirectory
  deriving DecidableEq

/-- The identity of a node: its own node ID and exported key beside the authority of the Workspace, with
what the crypto library and the URL parser of the host decide. -/
structure GatewayPairingIdentity extends Workspace.GatewayPairingIdentity where
  gatewayNodeId : JsString
  publicKey : PairingPublicKey
  verifyDirectory : WorkspaceGatewayDirectory → JsString → Bool
  isUrl : JsString → Bool

inductive DirectoryError
  | matrixUserIdInvalid
  | matrixUserIdEstablished (userId : JsString)
  | stateInvalid
  | entryInvalid
  | signedStateInvalid
  | signedContentInconsistent
  | nodeRemoved
  | revisionRolledBack
  | matrixUserIdChanged
  | nodeIdInvalid
  | removesItself
  | unknownNode (gatewayNodeId : JsString)
  | directoryChanged (expected actual : ℕ)
  | targetChanged
  | promotesItself
  | routesNotDisjoint
  | localUnavailable
  | sourceUnavailable (gatewayNodeId : JsString)
  | recoverySourceUnavailable
  | keptChanging
  | keyMismatch
  | invalidSignature
  | bindingMismatch
  | schema
  deriving DecidableEq

def DirectoryError.message : DirectoryError → JsString
  | matrixUserIdInvalid => "Workspace client Matrix user ID is invalid"
  | matrixUserIdEstablished userId => ("Workspace client Matrix identity is already " : JsString) ++ userId
  | stateInvalid => "Workspace Gateway directory state is invalid"
  | entryInvalid => "Workspace Gateway directory entry is invalid"
  | signedStateInvalid => "Workspace Gateway signed directory state is invalid"
  | signedContentInconsistent => "Workspace Gateway signed directory content is inconsistent"
  | nodeRemoved => "This Gateway node was removed from the Workspace directory"
  | revisionRolledBack => "Workspace Gateway directory revision rolled back"
  | matrixUserIdChanged => "Workspace client Matrix identity cannot change or be removed"
  | nodeIdInvalid => "Gateway node ID is invalid"
  | removesItself => "A Gateway cannot remove its own node identity"
  | unknownNode gatewayNodeId => ("Unknown Workspace Gateway node: " : JsString) ++ gatewayNodeId
  | directoryChanged expected actual =>
    ("Workspace Gateway directory changed from revision " : JsString) ++ .ofNat expected ++
      (" to " : JsString) ++ .ofNat actual ++ ("; review the target again" : JsString)
  | targetChanged => "The target Gateway identity changed; review the replacement before retiring it"
  | promotesItself => "Gateway ownership promotion requires another source node"
  | routesNotDisjoint => "Recovery and promoted Gateway routes must be disjoint"
  | localUnavailable => "Candidate Gateway descriptor is unavailable"
  | sourceUnavailable gatewayNodeId =>
    ("Source Gateway " : JsString) ++ gatewayNodeId ++ (" is unavailable" : JsString)
  | recoverySourceUnavailable => "Recovery source descriptor is unavailable"
  | keptChanging => "Workspace Gateway directory kept changing while it was being signed"
  | keyMismatch => "Workspace authorization signer is not the pinned key"
  | invalidSignature => "Workspace authorization signature is invalid"
  | bindingMismatch => "Gateway directory belongs to another workspace"
  | schema => "Invalid input"

/-! ## JSON values

The members stand in the order of their names. -/

def PairingPublicKey.toJson (key : PairingPublicKey) : Json :=
  ofOptions [("algorithm",some (.str "ES256")),("keyId",some (.str key.keyId)),
    ("publicKey",some (ofOptions [("alg",if key.alg then some (.str "ES256") else none),
      ("crv",some (.str "P-256")),("ext",if key.ext then some (.bool true) else none),
      ("key_ops",if key.keyOps then some (.arr [.str "verify"]) else none),("kty",some (.str "EC")),
      ("x",some (.str key.x)),("y",some (.str key.y))])),
    ("version",some (.num 1))]

def transportJson (transport : MatrixTransportBinding) : Json :=
  ofOptions [("deviceId",some (.str transport.deviceId)),("ed25519",some (.str transport.ed25519)),
    ("homeserver",some (.str transport.homeserver)),("roomId",some (.str transport.roomId)),
    ("userId",some (.str transport.userId))]

def WorkspaceProjectRoute.toJson (route : WorkspaceProjectRoute) : Json :=
  ofOptions [("conversationId",some (.str route.conversationId)),("projectId",some (.str route.projectId)),
    ("roomId",some (.str route.roomId))]

def DescriptorSemantics.toJson (d : DescriptorSemantics) (issuedAt : Option ℤ) : Json :=
  ofOptions [("buildId",d.buildId.map .str),("computerName",d.computerName.map .str),
    ("gatewayName",some (.str d.gatewayName)),("gatewayNodeId",some (.str d.gatewayNodeId)),
    ("issuedAt",issuedAt.map .num),("onlineUpdate",if d.onlineUpdate then some (.bool true) else none),
    ("projects",d.projects.map (fun routes => .arr (routes.map WorkspaceProjectRoute.toJson))),
    ("publicKey",some d.publicKey.toJson),("transport",some (transportJson d.transport)),
    ("workspaceId",some (.str d.workspaceId))]

def WorkspaceGatewayDescriptor.toJson (d : WorkspaceGatewayDescriptor) : Json :=
  d.toDescriptorSemantics.toJson (some d.issuedAt)

def WorkspaceGatewayDirectory.toJson (d : WorkspaceGatewayDirectory) : Json :=
  ofOptions [("clientMatrixUserId",d.clientMatrixUserId.map .str),("directoryId",some (.str d.directoryId)),
    ("gateways",some (.arr (d.gateways.map WorkspaceGatewayDescriptor.toJson))),
    ("issuedAt",some (.num d.issuedAt)),("kind",some (.str "malink.workspace.gateway-directory")),
    ("removedGatewayNodeIds",d.removedGatewayNodeIds.map (fun ids => .arr (ids.map .str))),
    ("revision",some (.num d.revision)),("version",some (.num 1)),
    ("workspaceId",some (.str d.workspaceId))]

def SignedWorkspaceGatewayDirectory.toJson (signed : SignedWorkspaceGatewayDirectory) : Json :=
  ofOptions [("directory",some signed.directory.toJson),
    ("signature",some (ofOptions [("algorithm",some (.str "ES256")),
      ("keyId",some (.str signed.signature.keyId)),("value",some (.str signed.signature.value))]))]

def isOpaqueId (s : JsString) : Bool := JsString.within s 1 512

def isTimestamp (n : ℤ) : Bool := decide (0 ≤ n) && decide (n ≤ maxSafeInteger)

/-- `/^@[^:\s]+:[^\s]+$/u` -/
def isMatrixUserId (s : JsString) : Bool :=
  match s.units with
  | 64 :: rest =>
    let localpart := rest.takeWhile (· ≠ 58)
    let server := (rest.dropWhile (· ≠ 58)).tail
    !localpart.isEmpty && !server.isEmpty && rest.all (fun u => !isSpaceUnit u)
  | _ => false

def matrixUserIdSchema (s : JsString) : Bool := JsString.within s 4 512 && isMatrixUserId s

def requireMatrixUserId (value : JsString) : Except DirectoryError JsString :=
  let normalized : JsString := ⟨trimUnits value.units⟩
  if normalized ≠ value ∨ 512 < value.length ∨ !isMatrixUserId value then .error .matrixUserIdInvalid
  else .ok normalized

def pairingPublicKeySchema (key : PairingPublicKey) : Bool := isDigest key.keyId && isDigest key.x && isDigest key.y

def pairingSignatureSchema (signature : Signature) : Bool :=
  isDigest signature.keyId && signature.value.truthy && signature.value.units.all isBase64UrlUnit

def projectRouteSchema (route : WorkspaceProjectRoute) : Bool :=
  isOpaqueId route.projectId && JsString.within route.roomId 1 512 && isOpaqueId route.conversationId

variable (identity : GatewayPairingIdentity)

def matrixTransportBindingSchema (transport : MatrixTransportBinding) : Bool :=
  identity.isUrl transport.homeserver && Mlp3.isOpaqueId transport.roomId &&
    Mlp3.isOpaqueId transport.userId && Mlp3.isOpaqueId transport.deviceId &&
    JsString.within transport.ed25519 16 256

def workspaceGatewayDescriptorSchema (d : WorkspaceGatewayDescriptor) : Bool :=
  isOpaqueId d.gatewayNodeId && isOpaqueId d.workspaceId && JsString.within d.gatewayName 1 128 &&
    d.computerName.all (JsString.within · 1 128) && d.buildId.all (JsString.within · 1 256) &&
    matrixTransportBindingSchema identity d.transport && pairingPublicKeySchema d.publicKey &&
    d.projects.all (fun routes => routes.all projectRouteSchema && decide (routes.length ≤ 256)) &&
    isTimestamp d.issuedAt

def WorkspaceGatewayDirectory.removed (d : WorkspaceGatewayDirectory) : List JsString := d.removedGatewayNodeIds.getD []

def routesOf (gateways : List WorkspaceGatewayDescriptor) : List WorkspaceProjectRoute :=
  gateways.flatMap (fun g => g.projects.getD [])

def workspaceGatewayDirectorySchema (d : WorkspaceGatewayDirectory) : Bool :=
  let ids := d.gateways.map (fun g => g.gatewayNodeId)
  isOpaqueId d.directoryId && isOpaqueId d.workspaceId && d.clientMatrixUserId.all matrixUserIdSchema &&
    decide (d.revision ≤ maxSafeInteger) && d.gateways.all (workspaceGatewayDescriptorSchema identity) &&
    decide (d.gateways.length ≤ 256) && d.removed.all isOpaqueId && decide (d.removed.length ≤ 256) &&
    isTimestamp d.issuedAt && decide ids.Nodup && decide d.removed.Nodup &&
    d.removed.all (fun id => !ids.contains id) &&
    d.gateways.all (fun g => g.workspaceId = d.workspaceId) &&
    decide ((routesOf d.gateways).map (fun r => r.projectId)).Nodup &&
    decide ((routesOf d.gateways).map (fun r => r.roomId)).Nodup

def signedWorkspaceGatewayDirectorySchema (signed : SignedWorkspaceGatewayDirectory) : Bool :=
  workspaceGatewayDirectorySchema identity signed.directory && pairingSignatureSchema signed.signature

def verifyWorkspaceGatewayDirectory (signed : SignedWorkspaceGatewayDirectory) :
    Except DirectoryError Unit :=
  if !signedWorkspaceGatewayDirectorySchema identity signed then .error .schema
  else if signed.signature.keyId ≠ identity.keyId then .error .keyMismatch
  else if !identity.verifyDirectory signed.directory signed.signature.value then .error .invalidSignature
  else if signed.directory.workspaceId ≠ identity.workspaceId then .error .bindingMismatch
  else .ok ()

def initialState (workspaceId : JsString) : WorkspaceDirectoryState := ⟨workspaceId,none,0,.empty,[],none⟩

/-- A stable sort by the host's collation of the node IDs. -/
def sortGateways (gateways : List WorkspaceGatewayDescriptor) : List WorkspaceGatewayDescriptor :=
  gateways.insertionSort (fun a b => identity.localeCompare a.gatewayNodeId b.gatewayNodeId ≤ 0)

def gatewaysText (gateways : List WorkspaceGatewayDescriptor) : JsString :=
  canonicalJson (.arr ((sortGateways identity gateways).map WorkspaceGatewayDescriptor.toJson))

def sortIds (ids : List JsString) : List JsString := ids.insertionSort (· ≤ ·)

def idsText (ids : List JsString) : List Char := Json.stringify (.arr ((sortIds ids).map .str))

/-- `signed?.directory.revision === revision` -/
def WorkspaceDirectoryState.currentSigned (state : WorkspaceDirectoryState) :
    Option SignedWorkspaceGatewayDirectory :=
  state.signed.filter (fun signed => signed.directory.revision = state.revision)

def validateEntry (state : WorkspaceDirectoryState) (workspaceId : JsString)
    (entry : JsString × WorkspaceGatewayDescriptor) : Except DirectoryError Unit := do
  refuseIf (!workspaceGatewayDescriptorSchema identity entry.2) .schema
  refuseIf (entry.1 ≠ entry.2.gatewayNodeId ∨ entry.2.workspaceId ≠ workspaceId ∨
    entry.1 ∈ state.removedGatewayNodeIds) .entryInvalid

def validateSigned (state : WorkspaceDirectoryState) (workspaceId : JsString) : Except DirectoryError Unit :=
  match state.signed with
  | none => .ok ()
  | some signed => do
    refuseIf (!signedWorkspaceGatewayDirectorySchema identity signed) .schema
    refuseIf (signed.directory.workspaceId ≠ workspaceId ∨
      signed.directory.clientMatrixUserId ≠ state.clientMatrixUserId ∨
      state.revision < signed.directory.revision) .signedStateInvalid
    refuseIf (signed.directory.revision = state.revision ∧
      (gatewaysText identity state.gateways.values ≠ gatewaysText identity signed.directory.gateways ∨
        idsText state.removedGatewayNodeIds ≠ idsText signed.directory.removed)) .signedContentInconsistent

def validateMatrixUserId : Option JsString → Except DirectoryError Unit
  | none => .ok ()
  | some userId => do
    let normalized ← requireMatrixUserId userId
    refuseIf (normalized ≠ userId) .stateInvalid

def validateState (state : WorkspaceDirectoryState) (workspaceId : JsString) : Except DirectoryError Unit := do
  refuseIf (state.workspaceId ≠ workspaceId) .stateInvalid
  validateMatrixUserId state.clientMatrixUserId
  refuseIf (maxSafeInteger < state.revision ∨ 256 < state.gateways.size ∨
    256 < state.removedGatewayNodeIds.length ∨ ¬ state.removedGatewayNodeIds.Nodup) .stateInvalid
  state.gateways.entries.forM (validateEntry identity state workspaceId)
  validateSigned identity state workspaceId

def preferredGatewayDescriptor (left right : WorkspaceGatewayDescriptor) : WorkspaceGatewayDescriptor :=
  if left.issuedAt ≠ right.issuedAt then (if right.issuedAt < left.issuedAt then left else right)
  else if canonicalJson left.toJson ≤ canonicalJson right.toJson then left else right

/-- What the transaction of an operation ends with: nothing to return, a document that is stored already, or
a revision that has to be signed. -/
inductive Answer
  | done
  | document (signed : SignedWorkspaceGatewayDirectory)
  | unsigned

def WorkspaceDirectoryState.answer (state : WorkspaceDirectoryState) : Answer :=
  match state.currentSigned with
  | some signed => .document signed
  | none => .unsigned

def setClientMatrixUserId (userId : JsString) (state : WorkspaceDirectoryState) :
    Except DirectoryError (Answer × WorkspaceDirectoryState) := do
  let normalized ← requireMatrixUserId userId
  validateState identity state identity.workspaceId
  match state.clientMatrixUserId with
  | some established =>
    if established = normalized then .ok (.done,state) else .error (.matrixUserIdEstablished established)
  | none => .ok (.done,{ state with
      clientMatrixUserId := some normalized
      revision := state.revision + 1
      signed := none })

/-- The arguments of `publishLocal`, apart from the time. -/
structure LocalPublication where
  gatewayName : JsString
  transport : MatrixTransportBinding
  projects : List WorkspaceProjectRoute
  computerName : Option JsString
  buildId : Option JsString
  onlineUpdate : Bool

def sortRoutes (routes : List WorkspaceProjectRoute) : List WorkspaceProjectRoute :=
  routes.insertionSort fun a b =>
    (if identity.localeCompare a.projectId b.projectId ≠ 0 then identity.localeCompare a.projectId b.projectId
      else identity.localeCompare a.roomId b.roomId) ≤ 0

def nonEmptyRoutes (routes : List WorkspaceProjectRoute) : Option (List WorkspaceProjectRoute) :=
  if routes.isEmpty then none else some routes

def LocalPublication.descriptor (p : LocalPublication) : DescriptorSemantics where
  gatewayNodeId := identity.gatewayNodeId
  workspaceId := identity.workspaceId
  gatewayName := p.gatewayName
  computerName := p.computerName.filter (·.truthy)
  buildId := p.buildId.filter (·.truthy)
  onlineUpdate := p.onlineUpdate
  transport := p.transport
  publicKey := identity.publicKey
  projects := nonEmptyRoutes (sortRoutes identity p.projects)

/-- Whether the stored descriptor of the node differs from the published one. -/
def LocalPublication.changes (p : LocalPublication) (state : WorkspaceDirectoryState) : Bool :=
  match state.gateways.get identity.gatewayNodeId with
  | none => true
  | some previous => canonicalJson (previous.toDescriptorSemantics.toJson none) ≠
      canonicalJson ((p.descriptor identity).toJson none)

def publishLocal (p : LocalPublication) (now : ℤ) (state : WorkspaceDirectoryState) :
    Except DirectoryError (Answer × WorkspaceDirectoryState) := do
  validateState identity state identity.workspaceId
  refuseIf (state.removedGatewayNodeIds.contains identity.gatewayNodeId) .nodeRemoved
  if p.changes identity state then
    .ok (.unsigned,{ state with
      gateways := state.gateways.set identity.gatewayNodeId ⟨p.descriptor identity,now⟩
      revision := state.revision + 1
      signed := none })
  else .ok (state.answer,state)

def mergeGateway (removed : List JsString) (merged : InsertionMap JsString WorkspaceGatewayDescriptor)
    (gateway : WorkspaceGatewayDescriptor) : InsertionMap JsString WorkspaceGatewayDescriptor :=
  if removed.contains gateway.gatewayNodeId then merged
  else merged.set gateway.gatewayNodeId
    (match merged.get gateway.gatewayNodeId with
      | some current => if gateway.gatewayNodeId = identity.gatewayNodeId then current
        else preferredGatewayDescriptor current gateway
      | none => gateway)

def unionRemoved (state : WorkspaceDirectoryState) (incoming : WorkspaceGatewayDirectory) : List JsString :=
  (state.removedGatewayNodeIds ++ incoming.removed).dedup

def mergeGateways (state : WorkspaceDirectoryState) (incoming : WorkspaceGatewayDirectory) :
    InsertionMap JsString WorkspaceGatewayDescriptor :=
  incoming.gateways.foldl (mergeGateway identity (unionRemoved state incoming))
    (state.gateways.filter (fun id _ => !(unionRemoved state incoming).contains id))

/-- `incomingMatchesCurrent` -/
def incomingMatchesCurrent (state : WorkspaceDirectoryState) (incoming : WorkspaceGatewayDirectory) : Bool :=
  gatewaysText identity state.gateways.values = gatewaysText identity incoming.gateways &&
    state.clientMatrixUserId = incoming.clientMatrixUserId &&
    idsText state.removedGatewayNodeIds = idsText incoming.removed

def unionMatrixUserId (state : WorkspaceDirectoryState) (incoming : WorkspaceGatewayDirectory) :
    Option JsString :=
  state.clientMatrixUserId.or incoming.clientMatrixUserId

/-- `incomingContainsUnion` -/
def incomingContainsUnion (state : WorkspaceDirectoryState) (incoming : WorkspaceGatewayDirectory) : Bool :=
  gatewaysText identity (mergeGateways identity state incoming).values = gatewaysText identity incoming.gateways &&
    unionMatrixUserId state incoming = incoming.clientMatrixUserId &&
    idsText (unionRemoved state incoming) = idsText incoming.removed

/-- The branches of a merge at one revision with one content. -/
def mergeSame (state : WorkspaceDirectoryState) (signed : SignedWorkspaceGatewayDirectory) :
    Answer × WorkspaceDirectoryState :=
  match state.signed with
  | none => (.document signed,{ state with signed := some signed })
  | some own =>
    if canonicalJson own.toJson ≤ canonicalJson signed.toJson then (.document own,state)
    -- clients reject two documents at one revision, so the loser advances
    else (.unsigned,{ state with revision := state.revision + 1, signed := none })

def mergeUnion (state : WorkspaceDirectoryState) (signed : SignedWorkspaceGatewayDirectory) :
    Answer × WorkspaceDirectoryState :=
  let union := { state with
    gateways := mergeGateways identity state signed.directory
    clientMatrixUserId := unionMatrixUserId state signed.directory
    removedGatewayNodeIds := sortIds (unionRemoved state signed.directory) }
  if incomingContainsUnion identity state signed.directory ∧ state.revision < signed.directory.revision then
    (.document signed,{ union with revision := signed.directory.revision, signed := some signed })
  else (.unsigned,{ union with
    revision := max state.revision signed.directory.revision + 1
    signed := none })

def merge (signed : SignedWorkspaceGatewayDirectory) (state : WorkspaceDirectoryState) :
    Except DirectoryError (Answer × WorkspaceDirectoryState) := do
  verifyWorkspaceGatewayDirectory identity signed
  validateState identity state identity.workspaceId
  refuseIf (signed.directory.revision < state.revision) .revisionRolledBack
  refuseIf (state.clientMatrixUserId.isSome ∧ signed.directory.clientMatrixUserId ≠ state.clientMatrixUserId)
    .matrixUserIdChanged
  match state.signed.filter (fun own => signed.directory.revision = state.revision &&
      canonicalJson own.toJson = canonicalJson signed.toJson) with
  | some own => .ok (.document own,state)
  | none =>
    if signed.directory.revision = state.revision ∧ incomingMatchesCurrent identity state signed.directory then
      .ok (mergeSame state signed)
    else .ok (mergeUnion identity state signed)

structure ExpectedTarget where
  directoryRevision : ℕ
  gatewayKeyId : JsString

def checkExpected (state : WorkspaceDirectoryState) (gateway : WorkspaceGatewayDescriptor) :
    Option ExpectedTarget → Except DirectoryError Unit
  | none => .ok ()
  | some expected => do
    refuseIf (state.revision ≠ expected.directoryRevision)
      (.directoryChanged expected.directoryRevision state.revision)
    refuseIf (gateway.publicKey.keyId ≠ expected.gatewayKeyId) .targetChanged

def remove (gatewayNodeId : JsString) (expected : Option ExpectedTarget) (state : WorkspaceDirectoryState) :
    Except DirectoryError (Answer × WorkspaceDirectoryState) := do
  refuseIf (!gatewayNodeId.truthy ∨ 512 < gatewayNodeId.length) .nodeIdInvalid
  refuseIf (gatewayNodeId = identity.gatewayNodeId) .removesItself
  validateState identity state identity.workspaceId
  if state.removedGatewayNodeIds.contains gatewayNodeId then .ok (state.answer,state)
  else match state.gateways.get gatewayNodeId with
    | none => .error (.unknownNode gatewayNodeId)
    | some gateway => do
      checkExpected state gateway expected
      .ok (.unsigned,{ state with
        gateways := state.gateways.delete gatewayNodeId
        removedGatewayNodeIds := sortIds (state.removedGatewayNodeIds ++ [gatewayNodeId]).dedup
        revision := state.revision + 1
        signed := none })

/-- The arguments of `promoteLocalOwnership`, apart from the source and the time. -/
structure Promotion where
  projects : List WorkspaceProjectRoute
  computerName : JsString
  buildId : JsString
  retainedSourceProjects : Option (List WorkspaceProjectRoute)

def Promotion.retained (p : Promotion) : List WorkspaceProjectRoute :=
  sortRoutes identity (p.retainedSourceProjects.getD [])

/-- The descriptor that replaces the one of the node. -/
def Promotion.next (p : Promotion) (own : WorkspaceGatewayDescriptor) (now : ℤ) :
    WorkspaceGatewayDescriptor where
  gatewayNodeId := own.gatewayNodeId
  workspaceId := own.workspaceId
  gatewayName := own.gatewayName
  computerName := some p.computerName
  buildId := some p.buildId
  onlineUpdate := false
  transport := own.transport
  publicKey := own.publicKey
  projects := nonEmptyRoutes (sortRoutes identity p.projects)
  issuedAt := now

def routesText (routes : List WorkspaceProjectRoute) : JsString :=
  canonicalJson (.arr (routes.map WorkspaceProjectRoute.toJson))

def Promotion.sourceSettled (p : Promotion) (sourceGatewayNodeId : JsString) (state : WorkspaceDirectoryState) :
    Bool :=
  match state.gateways.get sourceGatewayNodeId with
  | some source => !(p.retained identity).isEmpty &&
      routesText (source.projects.getD []) = routesText (p.retained identity)
  | none => (p.retained identity).isEmpty && state.removedGatewayNodeIds.contains sourceGatewayNodeId

/-- The source with the routes that it keeps, or without an entry. -/
def Promotion.moveSource (p : Promotion) (sourceGatewayNodeId : JsString) (now : ℤ)
    (state : WorkspaceDirectoryState) : Except DirectoryError WorkspaceDirectoryState :=
  if (p.retained identity).isEmpty then
    .ok { state with
      gateways := state.gateways.delete sourceGatewayNodeId
      removedGatewayNodeIds := sortIds (state.removedGatewayNodeIds ++ [sourceGatewayNodeId]).dedup }
  else match state.gateways.get sourceGatewayNodeId with
    | none => .error .recoverySourceUnavailable
    | some source =>
      let kept : WorkspaceGatewayDescriptor :=
        { source with projects := some (p.retained identity), issuedAt := now }
      if !workspaceGatewayDescriptorSchema identity kept then .error .schema
      else .ok { state with
        gateways := state.gateways.set sourceGatewayNodeId kept
        removedGatewayNodeIds := sortIds (state.removedGatewayNodeIds.filter (· ≠ sourceGatewayNodeId)) }

def promoteLocalOwnership (sourceGatewayNodeId : JsString) (p : Promotion) (now : ℤ)
    (state : WorkspaceDirectoryState) : Except DirectoryError (Answer × WorkspaceDirectoryState) := do
  refuseIf (!sourceGatewayNodeId.truthy ∨ sourceGatewayNodeId = identity.gatewayNodeId) .promotesItself
  refuseIf ((p.retained identity).any (fun kept => p.projects.any (fun moved =>
    moved.projectId = kept.projectId || moved.roomId = kept.roomId))) .routesNotDisjoint
  validateState identity state identity.workspaceId
  match state.gateways.get identity.gatewayNodeId with
  | none => .error .localUnavailable
  | some own => do
    refuseIf (!state.gateways.has sourceGatewayNodeId ∧
      !state.removedGatewayNodeIds.contains sourceGatewayNodeId) (.sourceUnavailable sourceGatewayNodeId)
    refuseIf (!workspaceGatewayDescriptorSchema identity (p.next identity own now)) .schema
    if p.sourceSettled identity sourceGatewayNodeId state ∧
        canonicalJson (own.toDescriptorSemantics.toJson none) =
          canonicalJson ((p.next identity own now).toDescriptorSemantics.toJson none) then
      .ok (state.answer,state)
    else do
      let moved ← p.moveSource identity sourceGatewayNodeId now state
      let promoted := { moved with
        gateways := moved.gateways.set identity.gatewayNodeId (p.next identity own now)
        revision := state.revision + 1
        signed := none }
      validateState identity promoted identity.workspaceId
      .ok (.unsigned,promoted)

def load (state : WorkspaceDirectoryState) : Except DirectoryError (Answer × WorkspaceDirectoryState) := do
  validateState identity state identity.workspaceId
  .ok (state.answer,state)

/-- A call, with the time that it signs at. -/
inductive Operation
  | setClientMatrixUserId (userId : JsString)
  | publishLocal (publication : LocalPublication) (now : ℤ)
  | merge (signed : SignedWorkspaceGatewayDirectory) (now : ℤ)
  | remove (gatewayNodeId : JsString) (expected : Option ExpectedTarget) (now : ℤ)
  | promoteLocalOwnership (sourceGatewayNodeId : JsString) (promotion : Promotion) (now : ℤ)
  | load (now : ℤ)

/-- The first transaction of a call. When it throws, the file is not written. -/
def Operation.transact : Operation → WorkspaceDirectoryState →
    Except DirectoryError (Answer × WorkspaceDirectoryState)
  | .setClientMatrixUserId userId => Directory.setClientMatrixUserId identity userId
  | .publishLocal publication now => Directory.publishLocal identity publication now
  | .merge signed _ => Directory.merge identity signed
  | .remove gatewayNodeId expected _ => Directory.remove identity gatewayNodeId expected
  | .promoteLocalOwnership source promotion now =>
    Directory.promoteLocalOwnership identity source promotion now
  | .load _ => Directory.load identity

def Operation.now : Operation → ℤ
  | .setClientMatrixUserId _ => 0
  | .publishLocal _ now | .merge _ now | .remove _ _ now | .promoteLocalOwnership _ _ now | .load now => now

/-- What `signCurrent` reads of the state. -/
structure Draft where
  revision : ℕ
  clientMatrixUserId : Option JsString
  gateways : List WorkspaceGatewayDescriptor
  removedGatewayNodeIds : List JsString

def draftOf (state : WorkspaceDirectoryState) : Draft :=
  ⟨state.revision,state.clientMatrixUserId,sortGateways identity state.gateways.values,
    sortIds state.removedGatewayNodeIds⟩

def Draft.directory (draft : Draft) (directoryId : JsString) (now : ℤ) : WorkspaceGatewayDirectory where
  directoryId := directoryId
  workspaceId := identity.workspaceId
  clientMatrixUserId := draft.clientMatrixUserId
  revision := draft.revision
  gateways := draft.gateways
  removedGatewayNodeIds := if draft.removedGatewayNodeIds.isEmpty then none
    else some draft.removedGatewayNodeIds
  issuedAt := now

/-- The document that is signed: a fresh directory ID, and the value that the crypto library returns. -/
def Draft.sign (draft : Draft) (directoryId : JsString) (value : WorkspaceGatewayDirectory → JsString)
    (now : ℤ) : Except DirectoryError SignedWorkspaceGatewayDirectory :=
  let directory := draft.directory identity directoryId now
  let signed : SignedWorkspaceGatewayDirectory := ⟨directory,⟨identity.keyId,value directory⟩⟩
  if !workspaceGatewayDirectorySchema identity directory then .error .schema
  else if !signedWorkspaceGatewayDirectorySchema identity signed then .error .schema
  else .ok signed

/-- Store the document, unless the revision is another one by now. -/
def commit (draft : Draft) (signed : SignedWorkspaceGatewayDirectory) (state : WorkspaceDirectoryState) :
    Except DirectoryError (Option SignedWorkspaceGatewayDirectory × WorkspaceDirectoryState) := do
  validateState identity state identity.workspaceId
  if state.revision ≠ draft.revision then .ok (none,state)
  else .ok (some signed,{ state with signed := some signed })

variable {identity} {state state' : WorkspaceDirectoryState} {answer : Answer}

/-- A stored document is one of the current revision. -/
def WorkspaceDirectoryState.UpToDate (state : WorkspaceDirectoryState) : Prop :=
  ∀ d, state.signed = some d → d.directory.revision = state.revision

theorem WorkspaceDirectoryState.UpToDate.currentSigned (h : state.UpToDate) : state.currentSigned = state.signed := by
  unfold WorkspaceDirectoryState.currentSigned
  cases hsigned : state.signed with
  | none => rfl
  | some d => simp [h d hsigned]

theorem setClientMatrixUserId_eq_ok {userId : JsString}
    (h : setClientMatrixUserId identity userId state = .ok (answer,state')) :
    validateState identity state identity.workspaceId = .ok () ∧ answer = .done ∧
      (state' = state ∨ (state.clientMatrixUserId = none ∧ ∃ normalized,requireMatrixUserId userId = .ok normalized ∧
        state' = { state with
          clientMatrixUserId := some normalized, revision := state.revision + 1, signed := none })) := by
  obtain ⟨normalized,hrequire,h⟩ := bind_eq_ok.mp h
  obtain ⟨⟨⟩,hvalid,h⟩ := bind_eq_ok.mp h
  refine ⟨hvalid,?_⟩
  split at h
  · split at h
    · cases h
      exact ⟨rfl,.inl rfl⟩
    · cases h
  · next hnone =>
    cases h
    exact ⟨rfl,.inr ⟨hnone,normalized,hrequire,rfl⟩⟩

theorem publishLocal_eq_ok {p : LocalPublication} {now : ℤ}
    (h : publishLocal identity p now state = .ok (answer,state')) :
    validateState identity state identity.workspaceId = .ok () ∧
      identity.gatewayNodeId ∉ state.removedGatewayNodeIds ∧
      ((p.changes identity state ∧ answer = .unsigned ∧ state' = { state with
        gateways := state.gateways.set identity.gatewayNodeId ⟨p.descriptor identity,now⟩
        revision := state.revision + 1
        signed := none }) ∨
      (p.changes identity state = false ∧ answer = state.answer ∧ state' = state)) := by
  obtain ⟨⟨⟩,hvalid,h⟩ := bind_eq_ok.mp h
  obtain ⟨⟨⟩,hremoved,h⟩ := bind_eq_ok.mp h
  rw [refuseIf_eq_ok,List.contains_iff_mem] at hremoved
  refine ⟨hvalid,hremoved,?_⟩
  split at h
  · next hchanges =>
    cases h
    exact .inl ⟨hchanges,rfl,rfl⟩
  · next hchanges =>
    cases h
    exact .inr ⟨Bool.not_eq_true _ ▸ hchanges,rfl,rfl⟩

variable {signed : SignedWorkspaceGatewayDirectory}

theorem merge_eq_ok (h : merge identity signed state = .ok (answer,state')) :
    verifyWorkspaceGatewayDirectory identity signed = .ok () ∧
      validateState identity state identity.workspaceId = .ok () ∧
      state.revision ≤ signed.directory.revision ∧
      (∀ userId,state.clientMatrixUserId = some userId → signed.directory.clientMatrixUserId = some userId) ∧
      ((∃ own,state.signed = some own ∧ signed.directory.revision = state.revision ∧
          canonicalJson own.toJson = canonicalJson signed.toJson ∧ answer = .document own ∧ state' = state) ∨
        (signed.directory.revision = state.revision ∧ incomingMatchesCurrent identity state signed.directory ∧
          (answer,state') = mergeSame state signed) ∨ ((signed.directory.revision = state.revision →
            incomingMatchesCurrent identity state signed.directory = false) ∧
          (answer,state') = mergeUnion identity state signed)) := by
  obtain ⟨⟨⟩,hverify,h⟩ := bind_eq_ok.mp h
  obtain ⟨⟨⟩,hvalid,h⟩ := bind_eq_ok.mp h
  obtain ⟨⟨⟩,hrevision,h⟩ := bind_eq_ok.mp h
  obtain ⟨⟨⟩,hclient,h⟩ := bind_eq_ok.mp h
  rw [refuseIf_eq_ok,not_lt] at hrevision
  rw [refuseIf_eq_ok] at hclient
  refine ⟨hverify,hvalid,hrevision,fun userId huser => ?_,?_⟩
  · rw [huser] at hclient
    simpa using hclient
  · split at h
    · next own hown =>
      cases h
      obtain ⟨hsigned,hsame⟩ := Option.filter_eq_some_iff.mp hown
      rw [Bool.and_eq_true,decide_eq_true_eq,decide_eq_true_eq] at hsame
      exact .inl ⟨own,hsigned,hsame.1,hsame.2,rfl,rfl⟩
    · split at h
      · next hmatch =>
        exact .inr (.inl ⟨hmatch.1,hmatch.2,(Except.ok.inj h).symm⟩)
      · next hmatch =>
        refine .inr (.inr ⟨fun heq => ?_,(Except.ok.inj h).symm⟩)
        rw [← Bool.not_eq_true]
        exact fun hm => hmatch ⟨heq,hm⟩

theorem remove_eq_ok {gatewayNodeId : JsString} {expected : Option ExpectedTarget}
    (h : remove identity gatewayNodeId expected state = .ok (answer,state')) :
    validateState identity state identity.workspaceId = .ok () ∧ gatewayNodeId ≠ identity.gatewayNodeId ∧
      ((gatewayNodeId ∈ state.removedGatewayNodeIds ∧ answer = state.answer ∧ state' = state) ∨
      (gatewayNodeId ∉ state.removedGatewayNodeIds ∧ (∃ gateway,
        state.gateways.get gatewayNodeId = some gateway ∧ checkExpected state gateway expected = .ok ()) ∧
        answer = .unsigned ∧ state' = { state with
          gateways := state.gateways.delete gatewayNodeId
          removedGatewayNodeIds := sortIds (state.removedGatewayNodeIds ++ [gatewayNodeId]).dedup
          revision := state.revision + 1
          signed := none })) := by
  obtain ⟨⟨⟩,-,h⟩ := bind_eq_ok.mp h
  obtain ⟨⟨⟩,hself,h⟩ := bind_eq_ok.mp h
  obtain ⟨⟨⟩,hvalid,h⟩ := bind_eq_ok.mp h
  rw [refuseIf_eq_ok] at hself
  refine ⟨hvalid,hself,?_⟩
  split at h
  · next hremoved =>
    cases h
    exact .inl ⟨List.contains_iff_mem.mp hremoved,rfl,rfl⟩
  · next hremoved =>
    rw [List.contains_iff_mem] at hremoved
    split at h
    · cases h
    · next gateway hget =>
      obtain ⟨⟨⟩,hexpected,h⟩ := bind_eq_ok.mp h
      cases h
      exact .inr ⟨hremoved,⟨gateway,hget,hexpected⟩,rfl,rfl⟩

theorem promoteLocalOwnership_eq_ok {source : JsString} {p : Promotion} {now : ℤ}
    (h : promoteLocalOwnership identity source p now state = .ok (answer,state')) :
    validateState identity state identity.workspaceId = .ok () ∧ source ≠ identity.gatewayNodeId ∧
      ∃ own, state.gateways.get identity.gatewayNodeId = some own ∧
        workspaceGatewayDescriptorSchema identity (p.next identity own now) ∧
        ((answer = state.answer ∧ state' = state) ∨ ∃ moved,p.moveSource identity source now state = .ok moved ∧
          (state.gateways.has source ∨ source ∈ state.removedGatewayNodeIds) ∧
          answer = .unsigned ∧ validateState identity state' identity.workspaceId = .ok () ∧ state' = { moved with
            gateways := moved.gateways.set identity.gatewayNodeId (p.next identity own now)
            revision := state.revision + 1
            signed := none }) := by
  obtain ⟨⟨⟩,hself,h⟩ := bind_eq_ok.mp h
  obtain ⟨⟨⟩,-,h⟩ := bind_eq_ok.mp h
  obtain ⟨⟨⟩,hvalid,h⟩ := bind_eq_ok.mp h
  rw [refuseIf_eq_ok,not_or] at hself
  refine ⟨hvalid,hself.2,?_⟩
  split at h
  · cases h
  · next own hown =>
    obtain ⟨⟨⟩,hsource,h⟩ := bind_eq_ok.mp h
    obtain ⟨⟨⟩,hnext,h⟩ := bind_eq_ok.mp h
    rw [refuseIf_eq_ok] at hsource hnext
    refine ⟨own,hown,by simpa using hnext,?_⟩
    split at h
    · cases h
      exact .inl ⟨rfl,rfl⟩
    · obtain ⟨moved,hmoved,h⟩ := bind_eq_ok.mp h
      obtain ⟨⟨⟩,hpromoted,h⟩ := bind_eq_ok.mp h
      cases h
      refine .inr ⟨moved,hmoved,?_,rfl,hpromoted,rfl⟩
      rw [Bool.not_eq_true',Bool.not_eq_true',not_and,Bool.not_eq_false,List.contains_iff_mem] at hsource
      exact or_iff_not_imp_left.mpr fun hhas => hsource (Bool.not_eq_true _ ▸ hhas)

theorem load_eq_ok (h : load identity state = .ok (answer,state')) :
    validateState identity state identity.workspaceId = .ok () ∧ answer = state.answer ∧ state' = state := by
  obtain ⟨⟨⟩,hvalid,h⟩ := bind_eq_ok.mp h
  cases h
  exact ⟨hvalid,rfl,rfl⟩

theorem commit_eq_ok {draft : Draft} {committed : Option SignedWorkspaceGatewayDirectory}
    (h : commit identity draft signed state = .ok (committed,state')) :
    validateState identity state identity.workspaceId = .ok () ∧
      ((state.revision ≠ draft.revision ∧ committed = none ∧ state' = state) ∨
      (state.revision = draft.revision ∧ committed = some signed ∧
        state' = { state with signed := some signed })) := by
  obtain ⟨⟨⟩,hvalid,h⟩ := bind_eq_ok.mp h
  refine ⟨hvalid,?_⟩
  split at h
  · next hne =>
    cases h
    exact .inl ⟨hne,rfl,rfl⟩
  · next heq =>
    cases h
    exact .inr ⟨not_not.mp heq,rfl,rfl⟩

theorem sign_eq_ok {draft : Draft} {directoryId : JsString} {value : WorkspaceGatewayDirectory → JsString} {now : ℤ}
    (h : draft.sign identity directoryId value now = .ok signed) :
    signedWorkspaceGatewayDirectorySchema identity signed ∧
      signed = ⟨draft.directory identity directoryId now,
        ⟨identity.keyId,value (draft.directory identity directoryId now)⟩⟩ := by
  simp only [Draft.sign] at h
  split at h
  · cases h
  · split at h
    · cases h
    · next hschema =>
      cases h
      exact ⟨by simpa using hschema,rfl⟩

end Malink.Directory
