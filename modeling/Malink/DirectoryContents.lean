import Malink.DirectoryBounds
import Mathlib.Data.Int.ConditionallyCompleteOrder
import Mathlib.Data.Prod.Lex
import Mathlib.Order.WithBot

/-!
# The content of a directory

Descriptors of one node are ranked by their time and their text; unlisted nodes come before and removed ones after all
of them. So contents form a join semilattice, and a merge joins two contents, but for the node's own descriptor.
-/

namespace Malink.Directory

open Json (canonicalJson)

/-- Later times come after earlier ones, and at one time earlier texts after later ones. -/
abbrev Rank := ℤ ×ₗ (List ℕ)ᵒᵈ

def WorkspaceGatewayDescriptor.rank (d : WorkspaceGatewayDescriptor) : Rank :=
  toLex (d.issuedAt,OrderDual.toDual (canonicalJson d.toJson).codes)

theorem WorkspaceGatewayDescriptor.rank_injective : Function.Injective rank := by
  intro d e h
  obtain ⟨-,htext⟩ := Prod.mk.inj (toLex.injective h)
  exact canonicalJson_descriptor.mp (JsString.codes_injective (OrderDual.toDual.injective htext))

theorem rank_preferredGatewayDescriptor (d e : WorkspaceGatewayDescriptor) :
    (preferredGatewayDescriptor d e).rank = d.rank ⊔ e.rank := by
  have le_of_lt : ∀ {d e : WorkspaceGatewayDescriptor},d.issuedAt < e.issuedAt → d.rank ≤ e.rank :=
    fun h => (Prod.Lex.toLex_lt_toLex.mpr (.inl h)).le
  unfold preferredGatewayDescriptor
  split
  · next hne =>
    split
    · next hlt => exact (sup_eq_left.mpr (le_of_lt hlt)).symm
    · next hge => exact (sup_eq_right.mpr (le_of_lt (lt_of_le_of_ne (not_lt.mp hge) hne))).symm
  · next heq =>
    rw [not_not] at heq
    have htext : ∀ {d e : WorkspaceGatewayDescriptor},d.issuedAt = e.issuedAt →
        canonicalJson d.toJson ≤ canonicalJson e.toJson → e.rank ≤ d.rank :=
      fun hissued hle => Prod.Lex.toLex_le_toLex.mpr (.inr ⟨hissued.symm,hle⟩)
    split
    · next hle => exact (sup_eq_left.mpr (htext heq hle)).symm
    · next hnot => exact (sup_eq_right.mpr (htext heq.symm ((JsString.le_total _ _).resolve_left hnot))).symm

theorem preferredGatewayDescriptor_eq_left {d e : WorkspaceGatewayDescriptor} :
    preferredGatewayDescriptor d e = d ↔ e.rank ≤ d.rank := by
  rw [← WorkspaceGatewayDescriptor.rank_injective.eq_iff,rank_preferredGatewayDescriptor,sup_eq_left]

/-- For each node: not listed, or listed with a rank, or removed. -/
abbrev Content := JsString → WithTop (WithBot Rank)

def place : Option WorkspaceGatewayDescriptor → WithBot Rank
  | none => ⊥
  | some d => d.rank

theorem place_injective : Function.Injective place := by
  intro o o' h
  cases o with
  | none =>
    cases o' with
    | none => rfl
    | some e => exact absurd h.symm (WithBot.coe_ne_bot)
  | some d =>
    cases o' with
    | none => exact absurd h WithBot.coe_ne_bot
    | some e => exact congrArg some (WorkspaceGatewayDescriptor.rank_injective (WithBot.coe_injective h))

def contentOf (removed : List JsString) (find : JsString → Option WorkspaceGatewayDescriptor) : Content :=
  fun id => if id ∈ removed then ⊤ else (place (find id) : WithBot Rank)

def WorkspaceDirectoryState.content (state : WorkspaceDirectoryState) : Content :=
  contentOf state.removedGatewayNodeIds state.gateways.get

def WorkspaceGatewayDirectory.content (d : WorkspaceGatewayDirectory) : Content := contentOf d.removed d.find

section

variable {removed removed' : List JsString} {find find' : JsString → Option WorkspaceGatewayDescriptor}

theorem contentOf_eq_top {id : JsString} : contentOf removed find id = ⊤ ↔ id ∈ removed := by
  unfold contentOf
  split
  · next h => exact iff_of_true rfl h
  · next h => exact iff_of_false WithTop.coe_ne_top h

theorem contentOf_of_not_mem {id : JsString} (h : id ∉ removed) :
    contentOf removed find id = (place (find id) : WithBot Rank) := if_neg h

/-- Contents in which no removed node is listed determine the directory. -/
theorem contentOf_eq_iff (h : ∀ id ∈ removed,find id = none) (h' : ∀ id ∈ removed',find' id = none) :
    contentOf removed find = contentOf removed' find' ↔
      (∀ id,id ∈ removed ↔ id ∈ removed') ∧ ∀ id, find id = find' id := by
  constructor
  · intro heq
    have hremoved : ∀ id,id ∈ removed ↔ id ∈ removed' := by
      intro id
      rw [← @contentOf_eq_top removed find,← @contentOf_eq_top removed' find',heq]
    refine ⟨hremoved,fun id => ?_⟩
    by_cases hid : id ∈ removed
    · rw [h id hid,h' id ((hremoved id).mp hid)]
    · have hid' := fun hmem => hid ((hremoved id).mpr hmem)
      have hplace := congrFun heq id
      rw [contentOf_of_not_mem hid,contentOf_of_not_mem hid'] at hplace
      exact place_injective (WithTop.coe_injective hplace)
  · rintro ⟨hremoved,hfind⟩
    funext id
    simp only [contentOf,hremoved id,hfind id]

end

variable {identity : GatewayPairingIdentity} {state state' : WorkspaceDirectoryState} {answer : Answer}

variable {d : WorkspaceGatewayDirectory}

theorem WorkspaceGatewayDirectory.find_eq_some (hn : (d.gateways.map (fun g => g.gatewayNodeId)).Nodup)
    {id : JsString} {g : WorkspaceGatewayDescriptor} : d.find id = some g ↔ g ∈ d.gateways ∧ g.gatewayNodeId = id := by
  have found : ∀ {id g},d.find id = some g → g ∈ d.gateways ∧ g.gatewayNodeId = id := by
    intro id g h
    unfold find at h
    exact ⟨List.mem_of_find?_eq_some h,by simpa using List.find?_some h⟩
  refine ⟨found,?_⟩
  rintro ⟨hg,rfl⟩
  cases hfind : d.find g.gatewayNodeId with
  | none => simpa using List.find?_eq_none.mp hfind g hg
  | some e =>
    obtain ⟨he,hid⟩ := found hfind
    exact congrArg some (List.inj_on_of_nodup_map hn he hg hid)

theorem ValidDirectory.find_removed (hd : ValidDirectory identity d) : ∀ id ∈ d.removed, d.find id = none := by
  intro id hid
  rw [Option.eq_none_iff_forall_ne_some]
  intro g hg
  obtain ⟨hmem,rfl⟩ := (WorkspaceGatewayDirectory.find_eq_some hd.nodes).mp hg
  exact hd.unlisted _ hid (List.mem_map.mpr ⟨g,hmem,rfl⟩)

theorem Valid.get_removed (h : Valid identity state) :
    ∀ id ∈ state.removedGatewayNodeIds, state.gateways.get id = none := by
  intro id hid
  rw [Option.eq_none_iff_forall_ne_some]
  exact fun g hg => (h.listed id g hg).not_removed hid

variable {m : InsertionMap JsString WorkspaceGatewayDescriptor}

/-- A map whose values stand under their own node IDs lists what a document lists exactly when its values are
the ones of the document. -/
theorem values_perm_iff (hm : ∀ id g,m.get id = some g → id = g.gatewayNodeId)
    (hd : (d.gateways.map (fun g => g.gatewayNodeId)).Nodup) :
    m.values.Perm d.gateways ↔ ∀ id, m.get id = d.find id := by
  have hkeys : m.values.map (fun g => g.gatewayNodeId) = m.keys := by
    rw [InsertionMap.values,InsertionMap.keys,List.map_map]
    exact List.map_congr_left fun e he => (hm e.1 e.2 (InsertionMap.get_eq_some.mpr he)).symm
  have hnodup : m.values.Nodup := by
    apply List.Nodup.of_map (fun g : WorkspaceGatewayDescriptor => g.gatewayNodeId)
    rw [hkeys]
    exact m.nodup_keys
  have hmem : ∀ id g,m.get id = some g ↔ g ∈ m.values ∧ g.gatewayNodeId = id := by
    intro id g
    rw [InsertionMap.mem_values]
    constructor
    · exact fun hg => ⟨⟨id,hg⟩,(hm id g hg).symm⟩
    · rintro ⟨⟨id',hg⟩,rfl⟩
      exact hm id' g hg ▸ hg
  rw [List.perm_ext_iff_of_nodup hnodup (List.Nodup.of_map _ hd)]
  constructor
  · intro h id
    ext g
    rw [hmem,WorkspaceGatewayDirectory.find_eq_some hd,h]
  · intro h g
    have hiff := hmem g.gatewayNodeId g
    rw [h,WorkspaceGatewayDirectory.find_eq_some hd] at hiff
    exact ⟨fun hg => (hiff.mpr ⟨hg,rfl⟩).1,fun hg => (hiff.mp ⟨hg,rfl⟩).1⟩

variable {ids ids' : List JsString}

theorem idsText_eq_of_mem_iff (h : ids.Nodup) (h' : ids'.Nodup) (hmem : ∀ id,id ∈ ids ↔ id ∈ ids') :
    idsText ids = idsText ids' := by
  have hperm : ids.Perm ids' := (List.perm_ext_iff_of_nodup h h').mpr hmem
  rw [idsText_eq_iff]
  exact List.Perm.eq_of_pairwise (fun _ _ _ _ => JsString.le_antisymm) (List.pairwise_insertionSort _ _)
    (List.pairwise_insertionSort _ _) ((sortIds_perm ids).trans (hperm.trans (sortIds_perm ids').symm))

theorem mem_iff_of_idsText (h : idsText ids = idsText ids') (id : JsString) : id ∈ ids ↔ id ∈ ids' := by
  rw [← (sortIds_perm ids).mem_iff,idsText_eq_iff.mp h,(sortIds_perm ids').mem_iff]

/-- The collation puts no two of these nodes at one place. -/
def Separates (identity : GatewayPairingIdentity) (ids : Set JsString) : Prop :=
  ∀ a ∈ ids, ∀ b ∈ ids, identity.localeCompare a b ≤ 0 → identity.localeCompare b a ≤ 0 → a = b

theorem gatewaysText_eq_of_perm (hw : identity.WellFormed) {gs hs : List WorkspaceGatewayDescriptor}
    (hn : (gs.map (fun g => g.gatewayNodeId)).Nodup)
    (hseparates : Separates identity {id | ∃ g ∈ gs, g.gatewayNodeId = id}) (hperm : gs.Perm hs) :
    gatewaysText identity gs = gatewaysText identity hs := by
  rw [gatewaysText_eq_iff]
  refine List.Perm.eq_of_pairwise (fun a b ha hb hab hba => ?_) (pairwise_sortGateways hw gs)
    (pairwise_sortGateways hw hs) ((sortGateways_perm gs).trans (hperm.trans (sortGateways_perm hs).symm))
  have ha := (sortGateways_perm gs).mem_iff.mp ha
  have hb := hperm.mem_iff.mpr ((sortGateways_perm hs).mem_iff.mp hb)
  exact List.inj_on_of_nodup_map hn ha hb (hseparates _ ⟨a,ha,rfl⟩ _ ⟨b,hb,rfl⟩ hab hba)

theorem content_eq_of_texts (h : Valid identity state) (hd : ValidDirectory identity d)
    (hgateways : gatewaysText identity state.gateways.values = gatewaysText identity d.gateways)
    (hremoved : idsText state.removedGatewayNodeIds = idsText d.removed) : d.content = state.content := by
  have hperm : state.gateways.values.Perm d.gateways :=
    (sortGateways_perm _).symm.trans ((gatewaysText_eq_iff.mp hgateways) ▸ sortGateways_perm d.gateways)
  refine ((contentOf_eq_iff h.get_removed hd.find_removed).mpr ⟨mem_iff_of_idsText hremoved,?_⟩).symm
  exact (values_perm_iff (fun id g hg => (h.listed id g hg).id_eq) hd.nodes).mp hperm

def WorkspaceGatewayDirectory.nodes (d : WorkspaceGatewayDirectory) : Set JsString :=
  {id | ∃ g ∈ d.gateways, g.gatewayNodeId = id}

theorem texts_eq_of_content (hw : identity.WellFormed) {removed : List JsString} (hnodup : removed.Nodup)
    (hunlisted : ∀ id ∈ removed,m.get id = none) (hm : ∀ id g,m.get id = some g → id = g.gatewayNodeId)
    (hd : ValidDirectory identity d) (hseparates : Separates identity d.nodes)
    (heq : contentOf removed m.get = d.content) :
    gatewaysText identity m.values = gatewaysText identity d.gateways ∧ idsText removed = idsText d.removed := by
  obtain ⟨hremoved,hfind⟩ := (contentOf_eq_iff hunlisted hd.find_removed).mp heq
  refine ⟨?_,idsText_eq_of_mem_iff hnodup hd.nodup hremoved⟩
  exact (gatewaysText_eq_of_perm hw hd.nodes hseparates ((values_perm_iff hm hd.nodes).mpr hfind).symm).symm

open Classical in
/-- Two contents joined at a node, which keeps its own copy of its own descriptor. -/
noncomputable def joinContents (identity : GatewayPairingIdentity) (own other : Content) : Content := fun id =>
  if id = identity.gatewayNodeId ∧ own id ≠ ⊥ ∧ other id ≠ ⊤ then own id else own id ⊔ other id

theorem joinContents_self (c : Content) : joinContents identity c c = c := by
  funext id
  unfold joinContents
  split
  · rfl
  · exact sup_idem _

/-- A node that is not behind about its own descriptor joins as the others do. -/
theorem joinContents_eq_sup {own other : Content}
    (h : other identity.gatewayNodeId = ⊤ ∨ other identity.gatewayNodeId ≤ own identity.gatewayNodeId) :
    joinContents identity own other = own ⊔ other := by
  funext id
  unfold joinContents
  split
  · next hkeeps =>
    obtain ⟨rfl,-,htop⟩ := hkeeps
    exact (sup_eq_left.mpr (h.resolve_left htop)).symm
  · rfl

theorem contentOf_congr {removed removed' : List JsString} (h : ∀ id,id ∈ removed ↔ id ∈ removed')
    (find : JsString → Option WorkspaceGatewayDescriptor) : contentOf removed find = contentOf removed' find := by
  funext id
  simp only [contentOf,h id]

theorem place_joinDescriptors {id : JsString} {current other : Option WorkspaceGatewayDescriptor} :
    place (joinDescriptors identity id current other) =
      if id = identity.gatewayNodeId ∧ place current ≠ ⊥ then place current
      else place current ⊔ place other := by
  cases current with
  | none =>
    rw [joinDescriptors,if_neg (fun h => h.2 rfl)]
    exact (bot_sup_eq _).symm
  | some current =>
    have hlisted : place (some current) ≠ ⊥ := WithBot.coe_ne_bot
    cases other with
    | none =>
      rw [joinDescriptors]
      split
      · rfl
      · exact (sup_bot_eq _).symm
    | some gateway =>
      rw [joinDescriptors]
      by_cases hown : id = identity.gatewayNodeId
      · rw [if_pos hown,if_pos ⟨hown,hlisted⟩]
      · rw [if_neg hown,if_neg (fun h => hown h.1)]
        change ((preferredGatewayDescriptor current gateway).rank : WithBot Rank) = _
        rw [rank_preferredGatewayDescriptor]
        rfl

theorem content_mergeGateways {incoming : WorkspaceGatewayDirectory} (hd : ValidDirectory identity incoming) :
    contentOf (unionRemoved state incoming) (mergeGateways identity state incoming).get =
      joinContents identity state.content incoming.content := by
  funext id
  unfold joinContents
  by_cases hstate : id ∈ state.removedGatewayNodeIds
  · have htop : state.content id = ⊤ := contentOf_eq_top.mpr hstate
    rw [contentOf_eq_top.mpr (mem_unionRemoved.mpr (.inl hstate)),htop]
    split
    · rfl
    · exact (top_sup_eq _).symm
  by_cases hincoming : id ∈ incoming.removed
  · have htop : incoming.content id = ⊤ := contentOf_eq_top.mpr hincoming
    rw [contentOf_eq_top.mpr (mem_unionRemoved.mpr (.inr hincoming)),htop,if_neg (fun h => h.2.2 rfl)]
    exact (sup_top_eq _).symm
  have hunion : id ∉ unionRemoved state incoming :=
    fun h => (mem_unionRemoved.mp h).elim hstate hincoming
  have hown : state.content id = (place (state.gateways.get id) : WithBot Rank) := contentOf_of_not_mem hstate
  have hother : incoming.content id = (place (incoming.find id) : WithBot Rank) := contentOf_of_not_mem hincoming
  rw [contentOf_of_not_mem hunion,get_mergeGateways hd.nodes,if_neg hunion,place_joinDescriptors,hown,hother]
  have hbot : (place (state.gateways.get id) : WithTop (WithBot Rank)) = ⊥ ↔
      place (state.gateways.get id) = ⊥ := WithTop.coe_eq_coe
  by_cases hkeeps : id = identity.gatewayNodeId ∧ place (state.gateways.get id) ≠ ⊥
  · rw [if_pos hkeeps,if_pos ⟨hkeeps.1,fun h => hkeeps.2 (hbot.mp h),WithTop.coe_ne_top⟩]
  · rw [if_neg hkeeps,if_neg (fun h => hkeeps ⟨h.1,fun hp => h.2.1 (hbot.mpr hp)⟩)]
    rfl

variable {signed : SignedWorkspaceGatewayDirectory}

theorem content_mergeUnion (hd : ValidDirectory identity signed.directory)
    (heq : (answer,state') = mergeUnion identity state signed) :
    state'.content = joinContents identity state.content signed.directory.content := by
  have hunion : contentOf (sortIds (unionRemoved state signed.directory))
      (mergeGateways identity state signed.directory).get =
        joinContents identity state.content signed.directory.content :=
    (contentOf_congr (fun _ => (sortIds_perm _).mem_iff) _).trans (content_mergeGateways hd)
  simp only [mergeUnion] at heq
  split at heq <;> cases heq <;> exact hunion

theorem mergeSame_content (heq : (answer,state') = mergeSame state signed) : state'.content = state.content := by
  unfold mergeSame at heq
  split at heq
  · cases heq
    rfl
  · split at heq <;> cases heq <;> rfl

/-- A verified directory of a revision that is not lower can be merged. -/
theorem Sound.merge_ok (h : Sound identity state) (hverify : verifyWorkspaceGatewayDirectory identity signed = .ok ())
    (hrevision : state.revision ≤ signed.directory.revision) (hnone : state.clientMatrixUserId = none) :
    ∃ answer file, Directory.merge identity signed state = .ok (answer,file) := by
  have hvalid := validateState_eq_ok.mpr h.toValid
  have hforward : ¬ signed.directory.revision < state.revision := not_lt.mpr hrevision
  have hfree : ¬ (state.clientMatrixUserId.isSome ∧
      signed.directory.clientMatrixUserId ≠ state.clientMatrixUserId) := by
    rw [hnone]
    exact fun hsome => Bool.false_ne_true hsome.1
  unfold Directory.merge
  simp only [hverify,hvalid,refuseIf,hforward,hfree,if_false]
  split
  · exact ⟨_,_,rfl⟩
  · split
    · exact ⟨_,_,rfl⟩
    · exact ⟨_,_,rfl⟩

/-- What the merge of a directory leaves, apart from its revision. -/
theorem gateways_merge (heq : merge identity signed state = .ok (answer,state')) :
    (state'.gateways = state.gateways ∧ state'.removedGatewayNodeIds = state.removedGatewayNodeIds ∧
        state'.clientMatrixUserId = state.clientMatrixUserId) ∨
      (state'.gateways = mergeGateways identity state signed.directory ∧
        (∀ id,id ∈ state'.removedGatewayNodeIds ↔ id ∈ unionRemoved state signed.directory) ∧
        state'.clientMatrixUserId = unionMatrixUserId state signed.directory) := by
  obtain ⟨-,-,-,-,⟨own,-,-,-,-,rfl⟩ | ⟨-,-,heq⟩ | ⟨-,heq⟩⟩ := merge_eq_ok heq
  · exact .inl ⟨rfl,rfl,rfl⟩
  · unfold mergeSame at heq
    split at heq
    · cases heq
      exact .inl ⟨rfl,rfl,rfl⟩
    · split at heq <;> cases heq <;> exact .inl ⟨rfl,rfl,rfl⟩
  · simp only [mergeUnion] at heq
    split at heq <;> cases heq <;> exact .inr ⟨rfl,fun _ => (sortIds_perm _).mem_iff,rfl⟩

theorem content_of_matches (h : Valid identity state) (hd : ValidDirectory identity d)
    (hmatches : incomingMatchesCurrent identity state d) : d.content = state.content := by
  simp only [incomingMatchesCurrent,Bool.and_eq_true,decide_eq_true_eq] at hmatches
  exact content_eq_of_texts h hd hmatches.1.1 hmatches.2

/-- A document of the current revision that is stored has the content of the state. -/
theorem Valid.content_signed (h : Valid identity state) {d : SignedWorkspaceGatewayDirectory}
    (hsigned : state.signed = some d) (hrevision : d.directory.revision = state.revision) :
    d.directory.content = state.content := by
  have hagrees := h.agrees d hsigned
  have hschema := hagrees.schema
  rw [signedWorkspaceGatewayDirectorySchema,Bool.and_eq_true] at hschema
  obtain ⟨hgateways,hremoved⟩ := hagrees.content hrevision
  exact content_eq_of_texts h (validDirectory_of_schema hschema.1) hgateways hremoved

theorem content_merge (heq : merge identity signed state = .ok (answer,state')) :
    state'.content = joinContents identity state.content signed.directory.content := by
  obtain ⟨hverify,hvalid,-,-,⟨own,hown,hrevision,hsame,-,rfl⟩ | ⟨-,hmatches,heq⟩ | ⟨-,heq⟩⟩ := merge_eq_ok heq
  · obtain rfl := canonicalJson_signed.mp hsame
    rw [(validateState_eq_ok.mp hvalid).content_signed hown hrevision,joinContents_self]
  · rw [content_of_matches (validateState_eq_ok.mp hvalid) (validDirectory_of_verify hverify) hmatches,
      joinContents_self,mergeSame_content heq]
  · exact content_mergeUnion (validDirectory_of_verify hverify) heq

/-- Whether two documents of one revision and one content meet, of which the stored one comes later. -/
def Ties (identity : GatewayPairingIdentity) (state : WorkspaceDirectoryState)
    (signed : SignedWorkspaceGatewayDirectory) : Prop :=
  signed.directory.revision = state.revision ∧ incomingMatchesCurrent identity state signed.directory ∧
    ∃ own, state.signed = some own ∧ ¬ canonicalJson own.toJson ≤ canonicalJson signed.toJson

theorem revision_merge_of_ne (heq : merge identity signed state = .ok (answer,state'))
    (hne : signed.directory.content ≠ state.content) : state.revision < state'.revision := by
  obtain ⟨hverify,hvalid,-,-,⟨own,hown,hrevision,hsame,-,rfl⟩ | ⟨-,hmatches,heq⟩ | ⟨-,heq⟩⟩ := merge_eq_ok heq
  · obtain rfl := canonicalJson_signed.mp hsame
    exact absurd ((validateState_eq_ok.mp hvalid).content_signed hown hrevision) hne
  · exact absurd (content_of_matches (validateState_eq_ok.mp hvalid) (validDirectory_of_verify hverify) hmatches) hne
  · simp only [mergeUnion] at heq
    split at heq
    · next hadopts =>
      cases heq
      exact hadopts.2
    · cases heq
      exact Nat.lt_succ_of_le (le_max_left _ _)

/-- A merge of the same content takes over the revision, unless there is a tie. -/
theorem revision_merge_of_eq (hw : identity.WellFormed) (heq : merge identity signed state = .ok (answer,state'))
    (hcontent : signed.directory.content = state.content)
    (huser : signed.directory.clientMatrixUserId = state.clientMatrixUserId)
    (hseparates : Separates identity signed.directory.nodes) (htie : ¬ Ties identity state signed) :
    state'.revision = signed.directory.revision := by
  obtain ⟨hverify,hvalid,hle,-,⟨own,-,hrevision,-,-,rfl⟩ | ⟨hrevision,hmatches,heq⟩ | ⟨hdiffers,heq⟩⟩ := merge_eq_ok heq
  · exact hrevision.symm
  · unfold mergeSame at heq
    split at heq
    · cases heq
      exact hrevision.symm
    · next own hown =>
      split at heq
      · cases heq
        exact hrevision.symm
      · next hlater => exact absurd ⟨hrevision,hmatches,own,hown,hlater⟩ htie
  · have hv := validateState_eq_ok.mp hvalid
    have hd := validDirectory_of_verify hverify
    have hnodes : ∀ id g,state.gateways.get id = some g → id = g.gatewayNodeId :=
      fun id g hg => (hv.listed id g hg).id_eq
    have hmatches : incomingMatchesCurrent identity state signed.directory := by
      obtain ⟨hgateways,hremoved⟩ := texts_eq_of_content hw hv.nodup hv.get_removed hnodes hd hseparates hcontent.symm
      simp only [incomingMatchesCurrent,Bool.and_eq_true,decide_eq_true_eq]
      exact ⟨⟨hgateways,huser.symm⟩,hremoved⟩
    have hlt : state.revision < signed.directory.revision := by
      refine lt_of_le_of_ne hle (fun hrevision => ?_)
      rw [hdiffers hrevision.symm] at hmatches
      exact Bool.false_ne_true hmatches
    have hcontains : incomingContainsUnion identity state signed.directory := by
      have hjoined := @content_mergeGateways identity state signed.directory hd
      rw [← hcontent,joinContents_self] at hjoined
      have hnodup : (unionRemoved state signed.directory).Nodup := List.nodup_dedup _
      have hunlisted : ∀ id ∈ unionRemoved state signed.directory,
          (mergeGateways identity state signed.directory).get id = none := by
        intro id hid
        rw [get_mergeGateways hd.nodes,if_pos hid]
      obtain ⟨hgateways,hremoved⟩ := texts_eq_of_content hw hnodup hunlisted
        (fun id g hg => (kept_of_get_mergeGateways hd.nodes hnodes hg).1) hd hseparates hjoined
      simp only [incomingContainsUnion,Bool.and_eq_true,decide_eq_true_eq]
      refine ⟨⟨hgateways,?_⟩,hremoved⟩
      rw [unionMatrixUserId,huser]
      exact Option.or_self
    simp only [mergeUnion] at heq
    rw [if_pos ⟨hcontains,hlt⟩] at heq
    cases heq
    rfl

theorem result_of_error {call : Call} {e : DirectoryError}
    (heq : call.operation.transact identity state = .error e) : call.result identity state = (.error e,state) := by
  simp only [Call.result,heq]

variable {signing : Signing} {now : ℤ}

theorem signCurrent_file : ∃ signed, (signCurrent identity signing now state).2 = { state with signed := signed } := by
  have same : ∃ signed,state = { state with signed := signed } := ⟨state.signed,rfl⟩
  unfold signCurrent
  split
  · exact same
  · exact same
  · split
    · exact same
    · split
      · exact same
      · next committed file hcommit =>
        obtain ⟨-,⟨-,-,rfl⟩ | ⟨-,-,rfl⟩⟩ := commit_eq_ok hcommit
        · exact same
        · exact ⟨_,rfl⟩
      · next file hcommit =>
        obtain ⟨-,⟨-,-,rfl⟩ | ⟨-,hsome,-⟩⟩ := commit_eq_ok hcommit
        · exact same
        · cases hsome

/-- A call leaves what its transaction leaves, up to the signed document. -/
theorem result_file {call : Call} (heq : call.operation.transact identity state = .ok (answer,state')) :
    ∃ signed, (call.result identity state).2 = { state' with signed := signed } := by
  cases answer with
  | done | document =>
    simp only [Call.result,heq]
    exact ⟨state'.signed,rfl⟩
  | unsigned =>
    simp only [Call.result,heq]
    exact signCurrent_file

theorem verified_eq_ok {signed d : SignedWorkspaceGatewayDirectory} (h : verified identity signed = .ok d) :
    verifyWorkspaceGatewayDirectory identity d = .ok () ∧ signed = d := by
  obtain ⟨⟨⟩,hverify,h⟩ := bind_eq_ok.mp h
  cases h
  exact ⟨hverify,rfl⟩

theorem content_draft (h : Valid identity state) {directoryId : JsString}
    (hd : ValidDirectory identity ((draftOf identity state).directory identity directoryId now)) :
    ((draftOf identity state).directory identity directoryId now).content = state.content := by
  refine ((contentOf_eq_iff h.get_removed hd.find_removed).mpr ⟨fun id => ?_,?_⟩).symm
  · rw [removed_draft,(sortIds_perm _).mem_iff]
  · exact (values_perm_iff (fun id g hg => (h.listed id g hg).id_eq) hd.nodes).mp (sortGateways_perm _).symm

theorem currentSigned_eq_some {d : SignedWorkspaceGatewayDirectory} (h : state.answer = .document d) :
    state.signed = some d ∧ d.directory.revision = state.revision := by
  unfold WorkspaceDirectoryState.answer at h
  split at h
  · next signed hsigned =>
    cases h
    obtain ⟨hsome,hrevision⟩ := Option.filter_eq_some_iff.mp hsigned
    exact ⟨hsome,of_decide_eq_true hrevision⟩
  · cases h

theorem content_answer (hvalid : validateState identity state identity.workspaceId = .ok ())
    {signed d : SignedWorkspaceGatewayDirectory} (hanswer : .document signed = state.answer)
    (h : verified identity signed = .ok d) : d.directory.content = state.content := by
  obtain ⟨hsigned,hrevision⟩ := currentSigned_eq_some hanswer.symm
  exact (verified_eq_ok h).2 ▸ (validateState_eq_ok.mp hvalid).content_signed hsigned hrevision

theorem content_signCurrent {d : SignedWorkspaceGatewayDirectory}
    (h : (signCurrent identity signing now state).1 = .ok d) : d.directory.content = state.content := by
  unfold signCurrent at h
  split at h
  · cases h
  · next signed file hload =>
    obtain ⟨hvalid,hanswer,-⟩ := load_eq_ok hload
    exact content_answer hvalid hanswer h
  · split at h
    · cases h
    · next signed hsign =>
      obtain ⟨hschema,rfl⟩ := sign_eq_ok hsign
      rw [signedWorkspaceGatewayDirectorySchema,Bool.and_eq_true] at hschema
      split at h
      · cases h
      · next committed file hcommit =>
        obtain ⟨hvalid,⟨-,hnone,-⟩ | ⟨-,hsome,-⟩⟩ := commit_eq_ok hcommit
        · cases hnone
        · obtain rfl := Option.some.inj hsome
          rw [← (verified_eq_ok h).2]
          exact content_draft (validateState_eq_ok.mp hvalid) (validDirectory_of_schema hschema.1)
      · cases h

theorem content_result_load {d : SignedWorkspaceGatewayDirectory}
    (h : ((Call.mk (.load now) signing).result identity state).1 = .ok (some d)) :
    d.directory.content = state.content := by
  unfold Call.result at h
  split at h
  · cases h
  · cases h
  · next signed file hload =>
    obtain ⟨hvalid,hanswer,-⟩ := load_eq_ok hload
    exact content_answer hvalid hanswer (map_some_eq_ok h)
  · next file hload =>
    obtain ⟨-,-,rfl⟩ := load_eq_ok hload
    exact content_signCurrent (map_some_eq_ok h)

end Malink.Directory
