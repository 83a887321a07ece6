import Malink.DirectoryCalls

/-!
# The directory file stays loadable

Every transaction keeps a state sound when what it adds fits, and a sound state can be signed. So among fitting calls
none that throws has written the file.
-/

namespace Malink.Directory

open Json (canonicalJson)
open Mlp3 (maxSafeInteger)

open List InsertionMap
open Option (some)

variable {identity : GatewayPairingIdentity} {state state' : WorkspaceDirectoryState} {answer : Answer}

variable {g : WorkspaceGatewayDescriptor} {id : JsString} {now : ℤ} {operation : Operation}

theorem Listed.of_not_mem (h : Listed identity state id g) (hr : id ∉ state'.removedGatewayNodeIds) :
    Listed identity state' id g :=
  ⟨h.schema,h.id_eq,h.workspaceId,hr⟩

theorem Listed.isOpaqueId (h : Listed identity state id g) : Directory.isOpaqueId id := by
  have hschema := h.schema
  simp only [workspaceGatewayDescriptorSchema,Bool.and_eq_true] at hschema
  rw [h.id_eq]
  exact hschema.1.1.1.1.1.1.1.1

/-- A valid state that is not signed is sound when its routes and its removed nodes are. -/
theorem Valid.sound (h : Valid identity state) (hsigned : state.signed = none)
    (hroutes : UniqueRoutes (routesOf state.gateways.values))
    (hids : ∀ id ∈ state.removedGatewayNodeIds,Directory.isOpaqueId id) : Sound identity state where
  toValid := h
  upToDate d hd := by rw [hsigned] at hd; cases hd
  routes := hroutes
  removed_ids := hids
  verified d hd := by rw [hsigned] at hd; cases hd

theorem sound_initialState : Sound identity (initialState identity.workspaceId) := by
  refine Valid.sound ⟨rfl,rfl,Nat.zero_le _,Nat.zero_le _,Nat.zero_le _,nodup_nil,fun id g h => ?_,
    fun d hd => ?_⟩ rfl ⟨nodup_nil,nodup_nil⟩ (fun id h => ?_)
  · simp [initialState] at h
  · simp [initialState] at hd
  · simp [initialState] at h

theorem Sound.setClientMatrixUserId (h : Sound identity state) {userId : JsString}
    (heq : setClientMatrixUserId identity userId state = .ok (answer,state'))
    (hfits : (Operation.setClientMatrixUserId userId).Fits identity state) : Sound identity state' := by
  obtain ⟨-,-,rfl | ⟨hnone,normalized,hrequire,rfl⟩⟩ := setClientMatrixUserId_eq_ok heq
  · exact h
  · obtain ⟨rfl,hschema⟩ := requireMatrixUserId_eq_ok.mp hrequire
    refine Valid.sound ⟨h.workspaceId,hschema,hfits hschema hnone,h.size,h.removed,h.nodup,
      fun id g hg => (h.listed id g hg).of_not_mem (h.listed id g hg).not_removed,fun d hd => ?_⟩ rfl
      h.routes h.removed_ids
    cases hd

theorem Sound.publishLocal (h : Sound identity state) {p : LocalPublication}
    (heq : publishLocal identity p now state = .ok (answer,state'))
    (hfits : (Operation.publishLocal p now).Fits identity state) : Sound identity state' := by
  obtain ⟨-,hnot,⟨hchanges,-,rfl⟩ | ⟨-,-,rfl⟩⟩ := publishLocal_eq_ok heq
  · have hpublishable := hfits hnot
    rw [if_pos hchanges] at hpublishable
    obtain ⟨hschema,hrevision,hsize,hroutes,hothers⟩ := hpublishable
    refine Valid.sound ⟨h.workspaceId,h.matrixUserId,hrevision,?_,h.removed,h.nodup,fun id g hg => ?_,
      fun d hd => ?_⟩ rfl ?_ h.removed_ids
    · rw [size_set]
      split
      · exact h.size
      · next hkey => exact hsize.resolve_left (fun hhas => hkey (has_iff_mem_keys.mp hhas))
    · rw [get_set] at hg
      split at hg
      · next hid =>
        obtain rfl := some.inj hg
        exact ⟨hschema,hid,rfl,hid ▸ hnot⟩
      · exact (h.listed id g hg).of_not_mem (h.listed id g hg).not_removed
    · cases hd
    · obtain ⟨hunique,hclash⟩ := uniqueRoutes_values.mp h.routes
      refine uniqueRoutes_values.mpr ⟨fun id g hg => ?_,fun id id' g g' hg hg' hne => ?_⟩
      · rw [get_set] at hg
        split at hg
        · exact some.inj hg ▸ hroutes
        · exact hunique id g hg
      · rw [get_set] at hg hg'
        split at hg
        · next hid =>
          rw [if_neg (fun hid' => hne (hid.trans hid'.symm))] at hg'
          exact some.inj hg ▸ hothers id' g' hg' (fun hid' => hne (hid.trans hid'.symm))
        · next hid =>
          split at hg'
          · obtain rfl := some.inj hg'
            exact fun hc => hothers id g hg hid hc.symm
          · exact hclash id id' g g' hg hg' hne
  · exact h

theorem Sound.remove (h : Sound identity state) {expected : Option ExpectedTarget}
    (heq : remove identity id expected state = .ok (answer,state'))
    (hfits : (Operation.remove id expected now).Fits identity state) : Sound identity state' := by
  obtain ⟨-,hself,⟨-,-,rfl⟩ | ⟨hnot,⟨g,hg,hexpected⟩,-,rfl⟩⟩ := remove_eq_ok heq
  · exact h
  · rw [Operation.Fits,if_neg hnot] at hfits
    obtain ⟨hlength,hrevision,-⟩ := hfits g hg hself hexpected
    have hadded : (state.removedGatewayNodeIds ++ [id]).Nodup :=
      h.nodup.append (nodup_singleton id) (by simpa [disjoint_singleton] using hnot)
    have hperm : (sortIds (state.removedGatewayNodeIds ++ [id]).dedup).Perm (state.removedGatewayNodeIds ++ [id]) := by
      rw [hadded.dedup]
      exact sortIds_perm _
    have hmem : ∀ other,other ∈ sortIds (state.removedGatewayNodeIds ++ [id]).dedup ↔
        other ∈ state.removedGatewayNodeIds ∨ other = id := by
      intro other
      rw [hperm.mem_iff,mem_append,mem_singleton]
    refine Valid.sound ⟨h.workspaceId,h.matrixUserId,hrevision,
      (size_filter_le _ _).trans h.size,?_,hperm.nodup_iff.mpr hadded,fun other g' hg' => ?_,
      fun d hd => ?_⟩ rfl ?_ (fun other hother => ?_)
    · rw [hperm.length_eq,length_append,length_singleton]
      omega
    · rw [get_delete] at hg'
      split at hg'
      · cases hg'
      · next hne =>
        have hl := h.listed other g' hg'
        exact hl.of_not_mem (fun hr => ((hmem other).mp hr).elim hl.not_removed hne)
    · cases hd
    · obtain ⟨hunique,hclash⟩ := uniqueRoutes_values.mp h.routes
      have hsub : ∀ other g',(state.gateways.delete id).get other = some g' →
          state.gateways.get other = some g' := by
        intro other g' hg'
        rw [get_delete] at hg'
        split at hg'
        · cases hg'
        · exact hg'
      exact uniqueRoutes_values.mpr ⟨fun a b hb => hunique a b (hsub a b hb),
        fun a a' b b' hb hb' => hclash a a' b b' (hsub a b hb) (hsub a' b' hb')⟩
    · rcases (hmem other).mp hother with hold | rfl
      · exact h.removed_ids other hold
      · exact (h.listed other g hg).isOpaqueId

/-- What the schema of a document asks, as far as a merge relies on it. -/
structure ValidDirectory (identity : GatewayPairingIdentity) (d : WorkspaceGatewayDirectory) : Prop where
  matrixUserId : d.clientMatrixUserId.all matrixUserIdSchema
  revision : d.revision ≤ maxSafeInteger
  gateways : ∀ g ∈ d.gateways, workspaceGatewayDescriptorSchema identity g
  length : d.gateways.length ≤ 256
  removed_ids : ∀ id ∈ d.removed, isOpaqueId id
  removed : d.removed.length ≤ 256
  nodes : (d.gateways.map (fun g => g.gatewayNodeId)).Nodup
  nodup : d.removed.Nodup
  unlisted : ∀ id ∈ d.removed, id ∉ d.gateways.map (fun g => g.gatewayNodeId)
  workspaceId : ∀ g ∈ d.gateways, g.workspaceId = d.workspaceId
  routes : UniqueRoutes (routesOf d.gateways)

theorem validDirectory_of_schema {d : WorkspaceGatewayDirectory}
    (h : workspaceGatewayDirectorySchema identity d) : ValidDirectory identity d := by
  simp only [workspaceGatewayDirectorySchema,Bool.and_eq_true,decide_eq_true_eq,all_eq_true,
    Bool.not_eq_true',← Bool.not_eq_true,contains_iff_mem] at h
  obtain ⟨⟨⟨⟨⟨⟨⟨⟨⟨⟨⟨⟨⟨⟨-,-⟩,huser⟩,hrevision⟩,hgateways⟩,hlength⟩,hids⟩,hremoved⟩,-⟩,hnodes⟩,hnodup⟩,
    hunlisted⟩,hworkspace⟩,hproject⟩,hroom⟩ := h
  exact ⟨huser,hrevision,hgateways,hlength,hids,hremoved,hnodes,hnodup,hunlisted,hworkspace,hproject,hroom⟩

variable {signed : SignedWorkspaceGatewayDirectory}

theorem verifyWorkspaceGatewayDirectory_eq_ok :
    verifyWorkspaceGatewayDirectory identity signed = .ok () ↔
      signedWorkspaceGatewayDirectorySchema identity signed ∧ signed.signature.keyId = identity.keyId ∧
        identity.verifyDirectory signed.directory signed.signature.value ∧
        signed.directory.workspaceId = identity.workspaceId := by
  unfold verifyWorkspaceGatewayDirectory
  split
  · next h => exact iff_of_false (by simp) (fun hs => by simp [hs.1] at h)
  · next hschema =>
    split
    · next h => exact iff_of_false (by simp) (fun hs => h hs.2.1)
    · next hkey =>
      split
      · next h => exact iff_of_false (by simp) (fun hs => by simp [hs.2.2.1] at h)
      · next hverify =>
        split
        · next h => exact iff_of_false (by simp) (fun hs => h hs.2.2.2)
        · next hworkspace =>
          exact iff_of_true rfl ⟨by simpa using hschema,not_not.mp hkey,by simpa using hverify,
            not_not.mp hworkspace⟩

theorem validDirectory_of_verify (h : verifyWorkspaceGatewayDirectory identity signed = .ok ()) :
    ValidDirectory identity signed.directory := by
  have hschema := (verifyWorkspaceGatewayDirectory_eq_ok.mp h).1
  rw [signedWorkspaceGatewayDirectorySchema,Bool.and_eq_true] at hschema
  exact validDirectory_of_schema hschema.1

theorem agrees_of_verify (h : verifyWorkspaceGatewayDirectory identity signed = .ok ())
    (huser : signed.directory.clientMatrixUserId = state.clientMatrixUserId)
    (hrevision : signed.directory.revision ≤ state.revision)
    (hgateways : gatewaysText identity state.gateways.values = gatewaysText identity signed.directory.gateways)
    (hremoved : idsText state.removedGatewayNodeIds = idsText signed.directory.removed) :
    Agrees identity state signed := by
  obtain ⟨hschema,-,-,hworkspace⟩ := verifyWorkspaceGatewayDirectory_eq_ok.mp h
  exact ⟨hschema,hworkspace,huser,hrevision,fun _ => ⟨hgateways,hremoved⟩⟩

variable {incoming : WorkspaceGatewayDirectory} {rs rs' : List WorkspaceProjectRoute}

section

variable (h : Sound identity state)
include h

theorem Sound.mergeSame (hverify : verifyWorkspaceGatewayDirectory identity signed = .ok ())
    (hrevision : signed.directory.revision = state.revision)
    (hmatches : incomingMatchesCurrent identity state signed.directory) (heq : (answer,state') = mergeSame state signed)
    (htie : (∃ own,state.signed = some own ∧ ¬ canonicalJson own.toJson ≤ canonicalJson signed.toJson) →
      state.revision < maxSafeInteger) : Sound identity state' := by
  unfold Directory.mergeSame at heq
  split at heq
  · cases heq
    simp only [incomingMatchesCurrent,Bool.and_eq_true,decide_eq_true_eq] at hmatches
    obtain ⟨⟨hgateways,huser⟩,hremoved⟩ := hmatches
    refine ⟨⟨h.workspaceId,h.matrixUserId,h.revision,h.size,h.removed,h.nodup,
      fun id g hg => (h.listed id g hg).of_not_mem (h.listed id g hg).not_removed,fun d hd => ?_⟩,
      fun d hd => ?_,h.routes,h.removed_ids,fun d hd => ?_⟩
    · obtain rfl := some.inj hd
      exact agrees_of_verify hverify huser.symm hrevision.le hgateways hremoved
    · obtain rfl := some.inj hd
      exact hrevision
    · obtain rfl := some.inj hd
      exact hverify
  · next own hown =>
    split at heq
    · cases heq
      exact h
    · next hnot =>
      cases heq
      refine Valid.sound ⟨h.workspaceId,h.matrixUserId,htie ⟨own,hown,hnot⟩,h.size,h.removed,h.nodup,
        fun id g hg => (h.listed id g hg).of_not_mem (h.listed id g hg).not_removed,fun d hd => ?_⟩ rfl
        h.routes h.removed_ids
      cases hd

theorem Sound.listed_mergeGateways
    (hi : ValidDirectory identity incoming) (hworkspace : incoming.workspaceId = identity.workspaceId)
    {removed : List JsString} (hremoved : ∀ id,id ∈ removed ↔ id ∈ unionRemoved state incoming)
    (hs : state'.removedGatewayNodeIds = removed) (hg : (mergeGateways identity state incoming).get id = some g) :
    Listed identity state' id g ∧ UniqueRoutes g.routes := by
  obtain ⟨rfl,hkept⟩ := kept_of_get_mergeGateways hi.nodes (fun id g hg => (h.listed id g hg).id_eq) hg
  have hnot : g.gatewayNodeId ∉ state'.removedGatewayNodeIds := by
    rw [hs,hremoved,mem_unionRemoved,not_or]
    exact ⟨hkept.1,hkept.2.1⟩
  rcases hkept.2.2 with ⟨hcurrent,-⟩ | ⟨hincoming,-⟩
  · exact ⟨(h.listed _ g hcurrent).of_not_mem hnot,(uniqueRoutes_values.mp h.routes).1 _ g hcurrent⟩
  · have hmem := mem_of_find?_eq_some hincoming
    exact ⟨⟨hi.gateways g hmem,rfl,(hi.workspaceId g hmem).trans hworkspace,hnot⟩,
      (uniqueRoutes_routesOf.mp hi.routes).1 g hmem⟩

theorem unionMatrixUserId_all (hi : ValidDirectory identity incoming) :
    (unionMatrixUserId state incoming).all matrixUserIdSchema := by
  have hown := h.matrixUserId
  unfold unionMatrixUserId
  cases hclient : state.clientMatrixUserId with
  | none => exact hi.matrixUserId
  | some userId =>
    rw [hclient] at hown
    exact hown

theorem Sound.mergeUnion (hverify : verifyWorkspaceGatewayDirectory identity signed = .ok ())
    (heq : (answer,state') = mergeUnion identity state signed)
    (hfits : ¬ (incomingContainsUnion identity state signed.directory ∧
      state.revision < signed.directory.revision) → UnionFits identity state signed.directory) :
    Sound identity state' := by
  have hi := validDirectory_of_verify hverify
  have hworkspace := (verifyWorkspaceGatewayDirectory_eq_ok.mp hverify).2.2.2
  have hperm := sortIds_perm (unionRemoved state signed.directory)
  have hnodup : (sortIds (unionRemoved state signed.directory)).Nodup := hperm.nodup_iff.mpr (nodup_dedup _)
  have hids : ∀ id ∈ sortIds (unionRemoved state signed.directory),isOpaqueId id := by
    intro id hid
    rcases mem_unionRemoved.mp (hperm.mem_iff.mp hid) with hid | hid
    · exact h.removed_ids id hid
    · exact hi.removed_ids id hid
  have hlisted : ∀ s : WorkspaceDirectoryState,
      s.removedGatewayNodeIds = sortIds (unionRemoved state signed.directory) → ∀ id g,
      (mergeGateways identity state signed.directory).get id = some g → Listed identity s id g ∧
        UniqueRoutes g.routes :=
    fun s hs id g hg => h.listed_mergeGateways hi hworkspace (fun _ => hperm.mem_iff) hs hg
  simp only [Directory.mergeUnion] at heq
  split at heq
  · next hadopt =>
    cases heq
    have hcontains := hadopt.1
    simp only [incomingContainsUnion,Bool.and_eq_true,decide_eq_true_eq] at hcontains
    obtain ⟨⟨hgateways,huser⟩,hremoved⟩ := hcontains
    have hvalues : (mergeGateways identity state signed.directory).values.Perm signed.directory.gateways :=
      (sortGateways_perm _).symm.trans
        ((gatewaysText_eq_iff.mp hgateways) ▸ sortGateways_perm signed.directory.gateways)
    have hlength : (unionRemoved state signed.directory).length = signed.directory.removed.length := by
      have hsorted := congrArg List.length (idsText_eq_iff.mp hremoved)
      rwa [(sortIds_perm _).length_eq,(sortIds_perm _).length_eq] at hsorted
    have hidsText : idsText (sortIds (unionRemoved state signed.directory)) = idsText signed.directory.removed := by
      rw [← hremoved,idsText_eq_iff]
      exact sortIds_sortIds _
    refine ⟨⟨h.workspaceId,unionMatrixUserId_all h hi,hi.revision,?_,?_,hnodup,
      fun id g hg => (hlisted _ rfl id g hg).1,fun d hd => ?_⟩,fun d hd => ?_,
      hi.routes.perm hvalues.symm,hids,fun d hd => ?_⟩
    · have hsize := hvalues.length_eq
      rw [values,length_map] at hsize
      exact hsize.trans_le hi.length
    · rw [hperm.length_eq,hlength]
      exact hi.removed
    · obtain rfl := some.inj hd
      exact agrees_of_verify hverify huser.symm le_rfl hgateways hidsText
    · obtain rfl := some.inj hd
      rfl
    · obtain rfl := some.inj hd
      exact hverify
  · next hbump =>
    cases heq
    obtain ⟨hrevision,hsize,hremoved,hclash⟩ := hfits hbump
    refine Valid.sound ⟨h.workspaceId,unionMatrixUserId_all h hi,hrevision,
      (size_mergeGateways_le hi.nodes).trans hsize,hperm.length_eq.trans_le hremoved,hnodup,
      fun id g hg => (hlisted _ rfl id g hg).1,fun d hd => ?_⟩ rfl ?_ hids
    · cases hd
    · refine uniqueRoutes_values.mpr ⟨fun id g hg => (hlisted
        { state with removedGatewayNodeIds := sortIds (unionRemoved state signed.directory) } rfl id g hg).2,
        fun id id' g g' hg hg' hne => ?_⟩
      have hnodes : ∀ id g,state.gateways.get id = some g → id = g.gatewayNodeId :=
        fun id g hg => (h.listed id g hg).id_eq
      obtain ⟨rfl,hkept⟩ := kept_of_get_mergeGateways hi.nodes hnodes hg
      obtain ⟨rfl,hkept'⟩ := kept_of_get_mergeGateways hi.nodes hnodes hg'
      exact hclash g g' hkept hkept' hne

theorem Sound.merge (heq : merge identity signed state = .ok (answer,state'))
    (hfits : (Operation.merge signed now).Fits identity state) : Sound identity state' := by
  obtain ⟨hverify,-,hrevision,huser,⟨own,-,-,-,-,rfl⟩ | ⟨hsame,hmatches,heq⟩ | ⟨hdiffers,heq⟩⟩ := merge_eq_ok heq
  · exact h
  · exact h.mergeSame hverify hsame hmatches heq
      (fun htie => ((hfits hverify hrevision huser).tie hsame hmatches htie).1)
  · exact h.mergeUnion hverify heq (fun hbump => ((hfits hverify hrevision huser).union hdiffers hbump).1)

end

theorem sortRoutes_perm (routes : List WorkspaceProjectRoute) : (sortRoutes identity routes).Perm routes :=
  perm_insertionSort _ routes

theorem getD_nonEmptyRoutes (routes : List WorkspaceProjectRoute) : (nonEmptyRoutes routes).getD [] = routes := by
  unfold nonEmptyRoutes
  cases routes <;> rfl

theorem Promotion.routes_next (p : Promotion) (own : WorkspaceGatewayDescriptor) (now : ℤ) :
    (p.next identity own now).routes.Perm p.projects := by
  rw [WorkspaceGatewayDescriptor.routes,Promotion.next,getD_nonEmptyRoutes]
  exact sortRoutes_perm _

theorem UniqueRoutes.append_iff : UniqueRoutes (rs ++ rs') ↔ UniqueRoutes rs ∧ UniqueRoutes rs' ∧
      ∀ r ∈ rs, ∀ r' ∈ rs', r.projectId ≠ r'.projectId ∧ r.roomId ≠ r'.roomId := by
  simp only [UniqueRoutes,map_append,nodup_append,mem_map,forall_exists_index,and_imp,forall_apply_eq_imp_iff₂]
  constructor
  · rintro ⟨⟨hp,hp',hproject⟩,hr,hr',hroom⟩
    exact ⟨⟨hp,hr⟩,⟨hp',hr'⟩,fun r h r' h' => ⟨hproject r h r' h',hroom r h r' h'⟩⟩
  · rintro ⟨⟨hp,hr⟩,⟨hp',hr'⟩,h⟩
    exact ⟨⟨hp,hp',fun r hm r' hm' => (h r hm r' hm').1⟩,hr,hr',fun r hm r' hm' => (h r hm r' hm').2⟩

theorem UniqueRoutes.of_perm (h : UniqueRoutes rs') (hperm : rs.Perm rs') : UniqueRoutes rs :=
  ⟨(hperm.map _).nodup_iff.mpr h.1,(hperm.map _).nodup_iff.mpr h.2⟩

theorem Sound.promoteLocalOwnership (h : Sound identity state) {source : JsString} {p : Promotion}
    (heq : promoteLocalOwnership identity source p now state = .ok (answer,state'))
    (hfits : (Operation.promoteLocalOwnership source p now).Fits identity state) : Sound identity state' := by
  obtain ⟨-,hself,own,hown,hschema,⟨-,rfl⟩ | ⟨moved,hmoved,hsource,-,hvalid,heq⟩⟩ := promoteLocalOwnership_eq_ok heq
  · exact h
  obtain ⟨hroutes,hothers⟩ := hfits own hown hschema hsource
  obtain ⟨hprojects,hretained,hapart⟩ := UniqueRoutes.append_iff.mp hroutes
  have hnextPerm := @Promotion.routes_next identity p own now
  have hkeptPerm : (p.retained identity).Perm (p.retainedSourceProjects.getD []) := sortRoutes_perm _
  have hgateways : state'.gateways = moved.gateways.set identity.gatewayNodeId (p.next identity own now) := by
    rw [heq]
  have hremoved : state'.removedGatewayNodeIds = moved.removedGatewayNodeIds := by rw [heq]
  -- every entry is the promoted node, the source with the routes that it keeps, or an entry of before
  have hcases : ∀ id g,state'.gateways.get id = some g →
      (id = identity.gatewayNodeId ∧ g.routes.Perm p.projects) ∨
      (id = source ∧ g.routes.Perm (p.retainedSourceProjects.getD [])) ∨
      (id ≠ identity.gatewayNodeId ∧ id ≠ source ∧ state.gateways.get id = some g) := by
    intro id g hg
    rw [hgateways,get_set] at hg
    split at hg
    · next hid => exact .inl ⟨hid,some.inj hg ▸ hnextPerm⟩
    · next hid =>
      obtain ⟨-,⟨hm,-⟩ | ⟨kept,hkept,-,hm,-⟩⟩ := Promotion.moveSource_eq_ok hmoved
      · rw [hm,get_delete] at hg
        split at hg
        · cases hg
        · next hne => exact .inr (.inr ⟨hid,hne,hg⟩)
      · rw [hm,get_set] at hg
        split at hg
        · next hs => exact .inr (.inl ⟨hs,some.inj hg ▸ hkept ▸ hkeptPerm⟩)
        · next hne => exact .inr (.inr ⟨hid,hne,hg⟩)
  obtain ⟨hunique,hclash⟩ := uniqueRoutes_values.mp h.routes
  have hthird : ∀ id g,state.gateways.get id = some g → id ≠ identity.gatewayNodeId → id ≠ source →
      ∀ g' : WorkspaceGatewayDescriptor, (∀ r ∈ g'.routes,r ∈ p.projects ++ p.retainedSourceProjects.getD []) →
        ¬ Clash g g' := by
    rintro id g hg hid hs g' hsub ⟨r,hr,r',hr',heq⟩
    obtain ⟨hproject,hroom⟩ := hothers id g hg hid hs r hr r' (hsub r' hr')
    exact heq.elim hproject hroom
  have hpair : ∀ g g' : WorkspaceGatewayDescriptor,g.routes.Perm p.projects →
      g'.routes.Perm (p.retainedSourceProjects.getD []) → ¬ Clash g g' := by
    rintro g g' hg hg' ⟨r,hr,r',hr',heq⟩
    obtain ⟨hproject,hroom⟩ := hapart r (hg.mem_iff.mp hr) r' (hg'.mem_iff.mp hr')
    exact heq.elim hproject hroom
  refine Valid.sound (validateState_eq_ok.mp hvalid) (by rw [heq]) (uniqueRoutes_values.mpr
    ⟨fun id g hg => ?_,fun id id' g g' hg hg' hne => ?_⟩) (fun id hid => ?_)
  · rcases hcases id g hg with ⟨-,hperm⟩ | ⟨-,hperm⟩ | ⟨-,-,hold⟩
    · exact hprojects.of_perm hperm
    · exact hretained.of_perm hperm
    · exact hunique id g hold
  · have inProjects : ∀ g : WorkspaceGatewayDescriptor,g.routes.Perm p.projects → ∀ r ∈ g.routes,
        r ∈ p.projects ++ p.retainedSourceProjects.getD [] :=
      fun g hperm r hr => mem_append_left _ (hperm.mem_iff.mp hr)
    have inRetained : ∀ g : WorkspaceGatewayDescriptor,g.routes.Perm (p.retainedSourceProjects.getD []) →
        ∀ r ∈ g.routes, r ∈ p.projects ++ p.retainedSourceProjects.getD [] :=
      fun g hperm r hr => mem_append_right _ (hperm.mem_iff.mp hr)
    rcases hcases id g hg with ⟨hid,hperm⟩ | ⟨hid,hperm⟩ | ⟨hid,hs,hold⟩
    · rcases hcases id' g' hg' with ⟨hid',hperm'⟩ | ⟨-,hperm'⟩ | ⟨hid',hs',hold'⟩
      · exact absurd (hid.trans hid'.symm) hne
      · exact hpair g g' hperm hperm'
      · exact fun hc => hthird id' g' hold' hid' hs' g (inProjects g hperm) hc.symm
    · rcases hcases id' g' hg' with ⟨-,hperm'⟩ | ⟨hid',-⟩ | ⟨hid',hs',hold'⟩
      · exact fun hc => hpair g' g hperm' hperm hc.symm
      · exact absurd (hid.trans hid'.symm) hne
      · exact fun hc => hthird id' g' hold' hid' hs' g (inRetained g hperm) hc.symm
    · rcases hcases id' g' hg' with ⟨-,hperm'⟩ | ⟨-,hperm'⟩ | ⟨-,-,hold'⟩
      · exact hthird id g hold hid hs g' (inProjects g' hperm')
      · exact hthird id g hold hid hs g' (inRetained g' hperm')
      · exact hclash id id' g g' hold hold' hne
  · rw [hremoved] at hid
    obtain ⟨-,⟨-,hm⟩ | ⟨kept,-,-,-,hm⟩⟩ := Promotion.moveSource_eq_ok hmoved
    · rw [hm,(sortIds_perm _).mem_iff,mem_dedup,mem_append,mem_singleton] at hid
      rcases hid with hid | rfl
      · exact h.removed_ids id hid
      · rcases hsource with hhas | hr
        · obtain ⟨g,hg⟩ := has_iff.mp hhas
          exact (h.listed id g hg).isOpaqueId
        · exact h.removed_ids id hr
    · rw [hm,(sortIds_perm _).mem_iff,mem_filter] at hid
      exact h.removed_ids id hid.1

theorem Sound.transact (h : Sound identity state)
    (heq : operation.transact identity state = .ok (answer,state')) (hfits : operation.Fits identity state) :
    Sound identity state' := by
  cases operation with
  | setClientMatrixUserId userId => exact h.setClientMatrixUserId heq hfits
  | publishLocal p now => exact h.publishLocal heq hfits
  | merge signed now => exact h.merge heq hfits
  | remove id expected now => exact h.remove heq hfits
  | promoteLocalOwnership source p now => exact h.promoteLocalOwnership heq hfits
  | load now =>
    obtain ⟨-,-,rfl⟩ := load_eq_ok heq
    exact h

variable {d : SignedWorkspaceGatewayDirectory}

theorem isTimestamp_of_schema {d : WorkspaceGatewayDescriptor}
    (h : workspaceGatewayDescriptorSchema identity d) : isTimestamp d.issuedAt := by
  simp only [workspaceGatewayDescriptorSchema,Bool.and_eq_true] at h
  exact h.2

/-- A call that fits and has to sign signs at a valid time. -/
theorem isTimestamp_of_transact (heq : operation.transact identity state = .ok (.unsigned,state'))
    (hfits : operation.Fits identity state) (hnone : state'.signed = none) : isTimestamp operation.now := by
  cases operation with
  | setClientMatrixUserId userId =>
    obtain ⟨-,hanswer,-⟩ := setClientMatrixUserId_eq_ok heq
    cases hanswer
  | publishLocal p now =>
    obtain ⟨-,hnot,⟨hchanges,-,-⟩ | ⟨hchanges,-,rfl⟩⟩ := publishLocal_eq_ok heq
    · have hpublishable := hfits hnot
      rw [if_pos hchanges] at hpublishable
      exact isTimestamp_of_schema hpublishable.schema
    · have htime := hfits hnot
      rw [if_neg (by rw [hchanges]; exact Bool.false_ne_true)] at htime
      exact htime hnone
  | merge signed now =>
    obtain ⟨hverify,-,hrevision,huser,⟨own,-,-,-,hanswer,-⟩ | ⟨hsame,hmatches,heq⟩ |
      ⟨hdiffers,heq⟩⟩ := merge_eq_ok heq
    · cases hanswer
    · unfold mergeSame at heq
      split at heq
      · cases heq
      · next own hown =>
        split at heq
        · cases heq
        · next hnot => exact ((hfits hverify hrevision huser).tie hsame hmatches ⟨own,hown,hnot⟩).2
    · simp only [mergeUnion] at heq
      split at heq
      · cases heq
      · next hbump => exact ((hfits hverify hrevision huser).union hdiffers hbump).2
  | remove id expected now =>
    obtain ⟨-,hself,⟨hmem,-,rfl⟩ | ⟨hnot,⟨g,hg,hexpected⟩,-,-⟩⟩ := remove_eq_ok heq
    · rw [Operation.Fits,if_pos hmem] at hfits
      exact hfits hnone
    · rw [Operation.Fits,if_neg hnot] at hfits
      exact (hfits g hg hself hexpected).2.2
  | promoteLocalOwnership source p now =>
    obtain ⟨-,-,own,-,hschema,-⟩ := promoteLocalOwnership_eq_ok heq
    exact isTimestamp_of_schema hschema
  | load now =>
    obtain ⟨-,-,rfl⟩ := load_eq_ok heq
    exact hfits hnone

theorem pairwise_sortGateways (hw : identity.WellFormed) (gs : List WorkspaceGatewayDescriptor) :
    (sortGateways identity gs).Pairwise fun a b => identity.localeCompare a.gatewayNodeId b.gatewayNodeId ≤ 0 := by
  have htotal : Std.Total fun a b : WorkspaceGatewayDescriptor =>
      identity.localeCompare a.gatewayNodeId b.gatewayNodeId ≤ 0 := ⟨fun a b => hw.total _ _⟩
  have htrans : IsTrans WorkspaceGatewayDescriptor fun a b =>
      identity.localeCompare a.gatewayNodeId b.gatewayNodeId ≤ 0 := ⟨fun a b c => hw.trans _ _ _⟩
  exact pairwise_insertionSort _ gs

theorem sortGateways_sortGateways (hw : identity.WellFormed) (gs : List WorkspaceGatewayDescriptor) :
    sortGateways identity (sortGateways identity gs) = sortGateways identity gs :=
  (pairwise_sortGateways hw gs).insertionSort_eq

theorem Sound.load (h : Sound identity state) : load identity state = .ok (state.answer,state) :=
  bind_eq_ok.mpr ⟨⟨⟩,validateState_eq_ok.mpr h.toValid,rfl⟩

theorem verified_of_verify (h : verifyWorkspaceGatewayDirectory identity signed = .ok ()) :
    verified identity signed = .ok signed :=
  bind_eq_ok.mpr ⟨⟨⟩,h,rfl⟩

theorem Sound.signCurrent (h : Sound identity state) (hw : identity.WellFormed) {signing : Signing}
    (hs : signing.Signs identity) (hnow : state.signed = none → isTimestamp now) :
    ∃ signed, signCurrent identity signing now state = (.ok signed,{ state with signed := some signed }) ∧
      Sound identity { state with signed := some signed } := by
  cases hsigned : state.signed with
  | some d =>
    have hanswer : state.answer = .document d := by
      rw [WorkspaceDirectoryState.answer,h.upToDate.currentSigned,hsigned]
    have hsame : { state with signed := some d } = state := by rw [← hsigned]
    refine ⟨d,?_,hsame.symm ▸ h⟩
    rw [hsame]
    simp only [Directory.signCurrent,h.load,hanswer,verified_of_verify (h.verified d hsigned)]
  | none =>
    have hanswer : state.answer = .unsigned := by
      rw [WorkspaceDirectoryState.answer,h.upToDate.currentSigned,hsigned]
    let directory := (draftOf identity state).directory identity signing.directoryId now
    let signed : SignedWorkspaceGatewayDirectory := ⟨directory,⟨identity.keyId,signing.value directory⟩⟩
    have hschema : workspaceGatewayDirectorySchema identity directory :=
      h.signable hw.workspaceId hs.directoryId (hnow hsigned)
    have hsignedSchema : signedWorkspaceGatewayDirectorySchema identity signed := by
      rw [signedWorkspaceGatewayDirectorySchema,hschema,hs.schema]
      rfl
    have hsign : (draftOf identity state).sign identity signing.directoryId signing.value now = .ok signed := by
      simp only [Draft.sign]
      rw [if_neg,if_neg]
      · rw [Bool.not_eq_true',Bool.not_eq_false]
        exact hsignedSchema
      · rw [Bool.not_eq_true',Bool.not_eq_false]
        exact hschema
    have hcommit : commit identity (draftOf identity state) signed state =
        .ok (some signed,{ state with signed := some signed }) :=
      bind_eq_ok.mpr ⟨⟨⟩,validateState_eq_ok.mpr h.toValid,if_neg (not_not.mpr rfl)⟩
    have hverify : verifyWorkspaceGatewayDirectory identity signed = .ok () :=
      verifyWorkspaceGatewayDirectory_eq_ok.mpr ⟨hsignedSchema,rfl,hs.verifies directory,rfl⟩
    refine ⟨signed,?_,⟨⟨h.workspaceId,h.matrixUserId,h.revision,h.size,
      h.removed,h.nodup,fun id g hg => (h.listed id g hg).of_not_mem (h.listed id g hg).not_removed,
      fun d hd => ?_⟩,fun d hd => ?_,h.routes,h.removed_ids,fun d hd => ?_⟩⟩
    · simp only [Directory.signCurrent,h.load,hanswer,hsign,hcommit,verified_of_verify hverify]
    · obtain rfl := some.inj hd
      refine agrees_of_verify hverify rfl le_rfl ?_ ?_
      · rw [gatewaysText_eq_iff]
        exact (sortGateways_sortGateways hw _).symm
      · rw [idsText_eq_iff,removed_draft,sortIds_sortIds]
    · obtain rfl := some.inj hd
      rfl
    · obtain rfl := some.inj hd
      exact hverify

theorem Preserves.of_ok {signed : Option SignedWorkspaceGatewayDirectory}
    (hremoved : ∀ id ∈ state.removedGatewayNodeIds,id ∈ state'.removedGatewayNodeIds)
    (huser : ∀ userId,state.clientMatrixUserId = some userId → state'.clientMatrixUserId = some userId) :
    Preserves state (.ok signed,state') where
  unchanged e he := by cases he
  removed := hremoved
  matrixUserId := huser

theorem map_some_eq_ok {x : Except DirectoryError SignedWorkspaceGatewayDirectory} (h : x.map some = .ok (some d)) :
    x = .ok d := by
  cases x with
  | error e => cases h
  | ok e =>
    cases h
    rfl

section

variable (h : Sound identity state) (hw : identity.WellFormed)
include h hw

/-- A call that fits leaves a sound file, in which the document that it returns is stored. -/
theorem Sound.result {call : Call} (hs : call.signing.Signs identity) (hfits : call.operation.Fits identity state) :
    Sound identity (call.result identity state).2 ∧ Preserves state (call.result identity state) ∧
      ∀ d, (call.result identity state).1 = .ok (some d) → (call.result identity state).2.signed = some d := by
  cases htransact : call.operation.transact identity state with
  | error e =>
    simp only [Call.result,htransact]
    exact ⟨h,⟨fun _ _ => rfl,fun _ hid => hid,fun _ huser => huser⟩,fun d hd => by cases hd⟩
  | ok outcome =>
    obtain ⟨answer,file⟩ := outcome
    have hfile := h.transact htransact hfits
    obtain ⟨hremoved,huser,hreturned,-⟩ := transacts htransact
    cases answer with
    | done =>
      simp only [Call.result,htransact]
      exact ⟨hfile,.of_ok hremoved huser,fun d hd => by cases hd⟩
    | document d =>
      have hstored := hreturned d rfl
      simp only [Call.result,htransact,verified_of_verify (hfile.verified d hstored)]
      refine ⟨hfile,.of_ok hremoved huser,fun d' hd => ?_⟩
      cases hd
      exact hstored
    | unsigned =>
      obtain ⟨signed,hsign,hsound⟩ := hfile.signCurrent hw hs (isTimestamp_of_transact htransact hfits)
      simp only [Call.result,htransact,hsign]
      refine ⟨hsound,.of_ok hremoved huser,fun d hd => ?_⟩
      cases hd
      rfl

theorem Sound.result_load {signing : Signing}
    (hs : signing.Signs identity) (hnow : state.signed = none → isTimestamp now) :
    ∃ signed, (Call.mk (.load now) signing).result identity state =
        (.ok (some signed),{ state with signed := some signed }) ∧
      Sound identity { state with signed := some signed } := by
  obtain ⟨signed,hsign,hsound⟩ := h.signCurrent hw hs hnow
  cases hsigned : state.signed with
  | some d =>
    have hanswer : state.answer = .document d := by
      rw [WorkspaceDirectoryState.answer,h.upToDate.currentSigned,hsigned]
    have hsame : { state with signed := some d } = state := by rw [← hsigned]
    refine ⟨d,?_,hsame.symm ▸ h⟩
    rw [hsame]
    simp only [Call.result,Operation.transact,h.load,hanswer,verified_of_verify (h.verified d hsigned)]
    rfl
  | none =>
    have hanswer : state.answer = .unsigned := by
      rw [WorkspaceDirectoryState.answer,h.upToDate.currentSigned,hsigned]
    refine ⟨signed,?_,hsound⟩
    simp only [Call.result,Operation.transact,h.load,hanswer,Operation.now,hsign]
    rfl

end

theorem sampleIdentity_localeCompare (a b : JsString) : sampleIdentity.localeCompare a b ≤ 0 ↔ a ≤ b := by
  simp only [sampleIdentity]
  split
  · next heq =>
    subst heq
    exact iff_of_true le_rfl ((JsString.le_total a a).elim id id)
  · split
    · next hle => exact iff_of_true (by decide) hle
    · next hle => exact iff_of_false (by decide) hle

theorem sampleIdentity_wellFormed : sampleIdentity.WellFormed where
  workspaceId := by decide
  keyId := by decide
  total a b := by
    rw [sampleIdentity_localeCompare,sampleIdentity_localeCompare]
    exact JsString.le_total a b
  trans a b c := by
    rw [sampleIdentity_localeCompare,sampleIdentity_localeCompare,sampleIdentity_localeCompare]
    exact JsString.le_trans

def sampleSigning (directoryId : JsString) : Signing := ⟨directoryId,fun _ => sampleSignature⟩

theorem sampleSignature_schema : pairingSignatureSchema ⟨sampleKeyId,sampleSignature⟩ := by decide

theorem sampleSigning_signs {directoryId : JsString} (h : isOpaqueId directoryId) :
    (sampleSigning directoryId).Signs sampleIdentity where
  directoryId := h
  schema _ := sampleSignature_schema
  verifies _ := by simp [sampleIdentity,sampleSigning]

end Malink.Directory
