import Malink.DirectoryTexts

/-!
# Valid directory states

What the validator accepts, as one condition on the state, and when its document satisfies the schema. The validator
does not ask whether two nodes route one project or room; the schema does.
-/

namespace Malink.Directory

open Json (canonicalJson)
open Mlp3 (maxSafeInteger JsString.within)
open Client (isSpaceUnit trimUnits)

open List
open InsertionMap (get_eq_some mem_values)

theorem trimUnits_eq_self {us : List UInt16} (h : ∀ u ∈ us,isSpaceUnit u = false) : trimUnits us = us := by
  have drop : ∀ vs : List UInt16,(∀ v ∈ vs,isSpaceUnit v = false) → vs.dropWhile isSpaceUnit = vs := by
    intro vs hvs
    cases vs with
    | nil => rfl
    | cons v vs => rw [dropWhile_cons_of_neg (by simp [hvs v mem_cons_self])]
  rw [trimUnits,drop us h,drop us.reverse (fun u hu => h u (mem_reverse.mp hu)),reverse_reverse]

theorem isMatrixUserId_spec {s : JsString} (h : isMatrixUserId s) : 4 ≤ s.length ∧ trimUnits s.units = s.units := by
  unfold isMatrixUserId at h
  split at h
  · next rest hunits =>
    simp only [Bool.and_eq_true,Bool.not_eq_true',isEmpty_eq_false_iff_exists_mem,all_eq_true] at h
    obtain ⟨⟨⟨u,hu⟩,v,hv⟩,hspace⟩ := h
    have hlocal := length_pos_of_mem hu
    have hserver := length_pos_of_mem hv
    have hsplit := congrArg List.length (takeWhile_append_dropWhile (p := (· ≠ 58)) (l := rest))
    rw [length_append] at hsplit
    rw [length_tail] at hserver
    constructor
    · rw [JsString.length,hunits,length_cons]
      omega
    · rw [hunits]
      apply trimUnits_eq_self
      intro w hw
      rcases mem_cons.mp hw with rfl | hw
      · decide
      · exact hspace w hw
  · cases h

/-- The check of the state and the schema of the documents accept the same user IDs. -/
theorem requireMatrixUserId_eq_ok {s t : JsString} : requireMatrixUserId s = .ok t ↔ t = s ∧ matrixUserIdSchema s := by
  simp only [requireMatrixUserId,matrixUserIdSchema,JsString.within,Bool.and_eq_true,decide_eq_true_eq]
  constructor
  · intro h
    split at h
    · cases h
    · next hnot =>
      simp only [not_or,not_not,not_lt,Bool.not_eq_true',Bool.not_eq_false] at hnot
      obtain ⟨htrim,hlength,hid⟩ := hnot
      cases h
      exact ⟨htrim,⟨(isMatrixUserId_spec hid).1,hlength⟩,hid⟩
  · rintro ⟨rfl,⟨-,hlength⟩,hid⟩
    have htrim : (⟨trimUnits t.units⟩ : JsString) = t := by rw [(isMatrixUserId_spec hid).2]
    rw [if_neg]
    · rw [htrim]
    · simp only [not_or,not_not,not_lt,Bool.not_eq_true',Bool.not_eq_false]
      exact ⟨htrim,hlength,hid⟩

theorem validateMatrixUserId_eq_ok {userId : Option JsString} :
    validateMatrixUserId userId = .ok () ↔ userId.all matrixUserIdSchema := by
  cases userId with
  | none => simp [validateMatrixUserId]
  | some s =>
    rw [validateMatrixUserId,bind_eq_ok,Option.all_some]
    constructor
    · rintro ⟨t,ht,-⟩
      exact (requireMatrixUserId_eq_ok.mp ht).2
    · intro h
      exact ⟨s,requireMatrixUserId_eq_ok.mpr ⟨rfl,h⟩,refuseIf_eq_ok.mpr (not_not.mpr rfl)⟩

/-- An entry that the validator accepts under its key. -/
structure Listed (identity : GatewayPairingIdentity) (state : WorkspaceDirectoryState) (id : JsString)
    (gateway : WorkspaceGatewayDescriptor) : Prop where
  schema : workspaceGatewayDescriptorSchema identity gateway
  id_eq : id = gateway.gatewayNodeId
  workspaceId : gateway.workspaceId = identity.workspaceId
  not_removed : id ∉ state.removedGatewayNodeIds

/-- A stored document that the validator accepts. -/
structure Agrees (identity : GatewayPairingIdentity) (state : WorkspaceDirectoryState)
    (signed : SignedWorkspaceGatewayDirectory) : Prop where
  schema : signedWorkspaceGatewayDirectorySchema identity signed
  workspaceId : signed.directory.workspaceId = identity.workspaceId
  matrixUserId : signed.directory.clientMatrixUserId = state.clientMatrixUserId
  revision : signed.directory.revision ≤ state.revision
  content : signed.directory.revision = state.revision →
    gatewaysText identity state.gateways.values = gatewaysText identity signed.directory.gateways ∧
      idsText state.removedGatewayNodeIds = idsText signed.directory.removed

structure Valid (identity : GatewayPairingIdentity) (state : WorkspaceDirectoryState) : Prop where
  workspaceId : state.workspaceId = identity.workspaceId
  matrixUserId : state.clientMatrixUserId.all matrixUserIdSchema
  revision : state.revision ≤ maxSafeInteger
  size : state.gateways.size ≤ 256
  removed : state.removedGatewayNodeIds.length ≤ 256
  nodup : state.removedGatewayNodeIds.Nodup
  listed : ∀ id gateway, state.gateways.get id = some gateway → Listed identity state id gateway
  agrees : ∀ signed, state.signed = some signed → Agrees identity state signed

variable {identity : GatewayPairingIdentity} {state : WorkspaceDirectoryState}

theorem validateEntry_eq_ok {id : JsString} {gateway : WorkspaceGatewayDescriptor} :
    validateEntry identity state identity.workspaceId (id,gateway) = .ok () ↔
      Listed identity state id gateway := by
  constructor
  · intro h
    obtain ⟨⟨⟩,hschema,h⟩ := bind_eq_ok.mp h
    rw [refuseIf_eq_ok] at hschema h
    simp only [not_or,not_not] at h
    exact ⟨by simpa using hschema,h.1,h.2.1,h.2.2⟩
  · intro h
    refine bind_eq_ok.mpr ⟨⟨⟩,refuseIf_eq_ok.mpr (by simp [h.schema]),refuseIf_eq_ok.mpr ?_⟩
    simp only [not_or,not_not]
    exact ⟨h.id_eq,h.workspaceId,h.not_removed⟩

theorem validateSigned_eq_ok : validateSigned identity state identity.workspaceId = .ok () ↔
    ∀ signed, state.signed = some signed → Agrees identity state signed := by
  unfold validateSigned
  cases state.signed with
  | none => simp
  | some signed =>
    simp only [Option.some.injEq,forall_eq']
    constructor
    · intro h
      obtain ⟨⟨⟩,hschema,h⟩ := bind_eq_ok.mp h
      obtain ⟨⟨⟩,hstate,h⟩ := bind_eq_ok.mp h
      rw [refuseIf_eq_ok] at hschema hstate h
      simp only [not_or,not_not,not_lt] at hstate
      refine ⟨by simpa using hschema,hstate.1,hstate.2.1,hstate.2.2,fun heq => ?_⟩
      simpa [heq,not_or] using h
    · intro h
      refine bind_eq_ok.mpr ⟨⟨⟩,refuseIf_eq_ok.mpr (by simp [h.schema]),
        bind_eq_ok.mpr ⟨⟨⟩,refuseIf_eq_ok.mpr ?_,refuseIf_eq_ok.mpr ?_⟩⟩
      · simp only [not_or,not_not,not_lt]
        exact ⟨h.workspaceId,h.matrixUserId,h.revision⟩
      · rintro ⟨heq,hcontent⟩
        obtain ⟨hgateways,hremoved⟩ := h.content heq
        rcases hcontent with hc | hc
        · exact hc hgateways
        · exact hc hremoved

theorem validateState_eq_ok : validateState identity state identity.workspaceId = .ok () ↔ Valid identity state := by
  constructor
  · intro h
    obtain ⟨⟨⟩,hid,h⟩ := bind_eq_ok.mp h
    obtain ⟨⟨⟩,hclient,h⟩ := bind_eq_ok.mp h
    obtain ⟨⟨⟩,hbounds,h⟩ := bind_eq_ok.mp h
    obtain ⟨⟨⟩,hentries,hsigned⟩ := bind_eq_ok.mp h
    rw [refuseIf_eq_ok,not_not] at hid
    rw [refuseIf_eq_ok] at hbounds
    simp only [not_or,not_lt,not_not] at hbounds
    rw [forM_eq_ok] at hentries
    refine ⟨hid,validateMatrixUserId_eq_ok.mp hclient,hbounds.1,hbounds.2.1,hbounds.2.2.1,hbounds.2.2.2,
      fun id gateway hget => ?_,validateSigned_eq_ok.mp hsigned⟩
    exact validateEntry_eq_ok.mp (hentries _ (get_eq_some.mp hget))
  · intro h
    refine bind_eq_ok.mpr ⟨⟨⟩,refuseIf_eq_ok.mpr (not_not.mpr h.workspaceId),bind_eq_ok.mpr ⟨⟨⟩,
      validateMatrixUserId_eq_ok.mpr h.matrixUserId,bind_eq_ok.mpr ⟨⟨⟩,refuseIf_eq_ok.mpr ?_,
      bind_eq_ok.mpr ⟨⟨⟩,forM_eq_ok.mpr (fun e he => ?_),validateSigned_eq_ok.mpr h.agrees⟩⟩⟩⟩
    · simp only [not_or,not_lt,not_not]
      exact ⟨h.revision,h.size,h.removed,h.nodup⟩
    · exact validateEntry_eq_ok.mpr (h.listed e.1 e.2 (get_eq_some.mpr he))

def WorkspaceGatewayDescriptor.routes (g : WorkspaceGatewayDescriptor) : List WorkspaceProjectRoute :=
  g.projects.getD []

def UniqueRoutes (routes : List WorkspaceProjectRoute) : Prop :=
  (routes.map (fun r => r.projectId)).Nodup ∧ (routes.map (fun r => r.roomId)).Nodup

def Clash (g g' : WorkspaceGatewayDescriptor) : Prop :=
  ∃ r ∈ g.routes, ∃ r' ∈ g'.routes, r.projectId = r'.projectId ∨ r.roomId = r'.roomId

theorem Clash.symm {g g' : WorkspaceGatewayDescriptor} (h : Clash g g') : Clash g' g := by
  obtain ⟨r,hr,r',hr',h⟩ := h
  exact ⟨r',hr',r,hr,h.imp Eq.symm Eq.symm⟩

theorem uniqueRoutes_routesOf {gs : List WorkspaceGatewayDescriptor} : UniqueRoutes (routesOf gs) ↔
    (∀ g ∈ gs,UniqueRoutes g.routes) ∧ gs.Pairwise (fun g g' => ¬ Clash g g') := by
  have disjoint_iff : ∀ g g' : WorkspaceGatewayDescriptor,¬ Clash g g' ↔
      (g.routes.map (fun r => r.projectId)).Disjoint (g'.routes.map (fun r => r.projectId)) ∧
        (g.routes.map (fun r => r.roomId)).Disjoint (g'.routes.map (fun r => r.roomId)) := by
    intro g g'
    constructor
    · intro h
      constructor
      · intro a ha ha'
        obtain ⟨r,hr,rfl⟩ := mem_map.mp ha
        obtain ⟨r',hr',heq⟩ := mem_map.mp ha'
        exact h ⟨r,hr,r',hr',.inl heq.symm⟩
      · intro a ha ha'
        obtain ⟨r,hr,rfl⟩ := mem_map.mp ha
        obtain ⟨r',hr',heq⟩ := mem_map.mp ha'
        exact h ⟨r,hr,r',hr',.inr heq.symm⟩
    · rintro ⟨hproject,hroom⟩ ⟨r,hr,r',hr',heq | heq⟩
      · exact hproject (mem_map.mpr ⟨r,hr,rfl⟩) (mem_map.mpr ⟨r',hr',heq.symm⟩)
      · exact hroom (mem_map.mpr ⟨r,hr,rfl⟩) (mem_map.mpr ⟨r',hr',heq.symm⟩)
  simp only [UniqueRoutes,routesOf,map_flatMap,nodup_flatMap,disjoint_iff]
  rw [pairwise_and_iff]
  constructor
  · rintro ⟨⟨hp,hpd⟩,hr,hrd⟩
    exact ⟨fun g hg => ⟨hp g hg,hr g hg⟩,hpd,hrd⟩
  · rintro ⟨h,hpd,hrd⟩
    exact ⟨⟨fun g hg => (h g hg).1,hpd⟩,fun g hg => (h g hg).2,hrd⟩

theorem uniqueRoutes_values {m : InsertionMap JsString WorkspaceGatewayDescriptor} :
    UniqueRoutes (routesOf m.values) ↔ (∀ id g,m.get id = some g → UniqueRoutes g.routes) ∧
      ∀ id id' g g', m.get id = some g → m.get id' = some g' → id ≠ id' → ¬ Clash g g' := by
  rw [uniqueRoutes_routesOf,InsertionMap.pairwise_values_iff fun _ _ h hc => h hc.symm]
  refine and_congr_left fun _ => ⟨fun h id g hg => h g (mem_values.mpr ⟨id,hg⟩),fun h g hg => ?_⟩
  obtain ⟨id,hid⟩ := mem_values.mp hg
  exact h id g hid

theorem UniqueRoutes.perm {gs gs' : List WorkspaceGatewayDescriptor} (h : UniqueRoutes (routesOf gs))
    (hperm : gs.Perm gs') : UniqueRoutes (routesOf gs') := by
  have hroutes : (routesOf gs).Perm (routesOf gs') := hperm.flatMap_right _
  exact ⟨(hroutes.map _).nodup_iff.mp h.1,(hroutes.map _).nodup_iff.mp h.2⟩

theorem sortGateways_perm (gs : List WorkspaceGatewayDescriptor) : (sortGateways identity gs).Perm gs :=
  perm_insertionSort _ gs

theorem sortIds_perm (ids : List JsString) : (sortIds ids).Perm ids := perm_insertionSort _ ids

theorem sortIds_sortIds (ids : List JsString) : sortIds (sortIds ids) = sortIds ids :=
  (pairwise_insertionSort _ ids).insertionSort_eq

/-- A valid state whose document can be signed, and whose stored document passes the verification. -/
structure Sound (identity : GatewayPairingIdentity) (state : WorkspaceDirectoryState) : Prop
    extends Valid identity state where
  upToDate : state.UpToDate
  routes : UniqueRoutes (routesOf state.gateways.values)
  removed_ids : ∀ id ∈ state.removedGatewayNodeIds, isOpaqueId id
  verified : ∀ signed, state.signed = some signed → verifyWorkspaceGatewayDirectory identity signed = .ok ()

theorem removed_draft (directoryId : JsString) (now : ℤ) :
    ((draftOf identity state).directory identity directoryId now).removed =
      sortIds state.removedGatewayNodeIds := by
  have getD_nonEmpty : ∀ ids : List JsString,(if ids.isEmpty then none else some ids).getD [] = ids := by
    intro ids
    cases ids <;> rfl
  exact getD_nonEmpty _

theorem Sound.signable (h : Sound identity state) (hworkspace : isOpaqueId identity.workspaceId)
    {directoryId : JsString} {now : ℤ} (hid : isOpaqueId directoryId) (hnow : isTimestamp now) :
    workspaceGatewayDirectorySchema identity
      ((draftOf identity state).directory identity directoryId now) := by
  have hperm := @sortGateways_perm identity state.gateways.values
  have hidsPerm := sortIds_perm state.removedGatewayNodeIds
  have hvalues : ∀ g ∈ sortGateways identity state.gateways.values,
      ∃ id, Listed identity state id g := by
    intro g hg
    obtain ⟨id,hget⟩ := mem_values.mp (hperm.mem_iff.mp hg)
    exact ⟨id,h.listed id g hget⟩
  have hnodes : ((sortGateways identity state.gateways.values).map (fun g => g.gatewayNodeId)).Nodup := by
    refine (hperm.map _).nodup_iff.mpr ?_
    have hkeys : state.gateways.values.map (fun g => g.gatewayNodeId) = state.gateways.keys := by
      rw [InsertionMap.values,InsertionMap.keys,map_map]
      exact map_congr_left fun e he =>
        (h.listed e.1 e.2 (get_eq_some.mpr he)).id_eq.symm
    exact hkeys ▸ state.gateways.nodup_keys
  have hroutes := h.routes.perm hperm.symm
  have hlength : (sortGateways identity state.gateways.values).length ≤ 256 := by
    rw [hperm.length_eq,InsertionMap.values,length_map]
    exact h.size
  simp only [workspaceGatewayDirectorySchema,removed_draft,Bool.and_eq_true,decide_eq_true_eq,all_eq_true]
  refine ⟨⟨⟨⟨⟨⟨⟨⟨⟨⟨⟨⟨⟨⟨hid,hworkspace⟩,h.matrixUserId⟩,h.revision⟩,fun g hg => ?_⟩,hlength⟩,
    fun id hmem => h.removed_ids id (hidsPerm.mem_iff.mp hmem)⟩,?_⟩,hnow⟩,hnodes⟩,?_⟩,fun id hmem => ?_⟩,
    fun g hg => ?_⟩,hroutes.1⟩,hroutes.2⟩
  · obtain ⟨id,hl⟩ := hvalues g hg
    exact hl.schema
  · rw [hidsPerm.length_eq]
    exact h.removed
  · exact hidsPerm.nodup_iff.mpr h.nodup
  · rw [Bool.not_eq_true',← Bool.not_eq_true,contains_iff_mem]
    intro hin
    obtain ⟨g,hg,rfl⟩ := mem_map.mp hin
    obtain ⟨id,hl⟩ := hvalues g hg
    exact hl.not_removed (hl.id_eq ▸ hidsPerm.mem_iff.mp hmem)
  · obtain ⟨id,hl⟩ := hvalues g hg
    exact hl.workspaceId

end Malink.Directory
