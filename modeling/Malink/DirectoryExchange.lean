import Malink.DirectoryContents
import Malink.GossipConvergence

/-!
# Nodes that exchange their directories

The nodes publish, remove and merge, and afterwards only exchange their signed directories. They come to hold one
directory when no node is behind a relayed copy of its own descriptor.
-/

namespace Malink.Directory

open Json (canonicalJson)

open Option

universe u

/-- The files of the nodes, the documents that calls have returned, and what each node has published last. -/
@[ext] structure Network (ι : Type u) where
  files : ι → WorkspaceDirectoryState
  documents : List SignedWorkspaceGatewayDirectory
  published : ι → Option DescriptorSemantics

variable {ι : Type u}

/-- Nodes of one Workspace: one authority, and a node ID for each. -/
structure OneWorkspace (identities : ι → GatewayPairingIdentity) : Prop where
  wellFormed : ∀ i, (identities i).WellFormed
  workspaceId : ∀ i j, (identities i).workspaceId = (identities j).workspaceId
  keyId : ∀ i j, (identities i).keyId = (identities j).keyId
  verifyDirectory : ∀ i j, (identities i).verifyDirectory = (identities j).verifyDirectory
  isUrl : ∀ i j, (identities i).isUrl = (identities j).isUrl
  nodeIds : Function.Injective fun i => (identities i).gatewayNodeId

/-- One node loads its directory and sends it to another. -/
structure Exchange (ι : Type u) where
  sender : ι
  receiver : ι
  sentAt : ℤ
  receivedAt : ℤ
  senderSigning : Signing
  receiverSigning : Signing

/-- The descriptor that a call publishes, if it is a publication. -/
def Operation.publication (identity : GatewayPairingIdentity) : Operation → Option DescriptorSemantics
  | .publishLocal p _ => some (p.descriptor identity)
  | _ => none

def Exchange.load (e : Exchange ι) : Call := ⟨.load e.sentAt,e.senderSigning⟩

def Exchange.merge (e : Exchange ι) (signed : SignedWorkspaceGatewayDirectory) : Call :=
  ⟨.merge signed e.receivedAt,e.receiverSigning⟩

namespace Network

variable [DecidableEq ι] (identities : ι → GatewayPairingIdentity)

def started : Network ι := ⟨fun i => initialState (identities i).workspaceId,[],fun _ => none⟩

def call (s : Network ι) (i : ι) (call : Call) : Network ι :=
  let outcome := call.result (identities i) (s.files i)
  { files := Function.update s.files i outcome.2
    documents := match outcome.1 with
      | .ok (some signed) => s.documents.insert signed
      | _ => s.documents
    published := match outcome.1 with
      | .ok _ => Function.update s.published i
        ((call.operation.publication (identities i)).or (s.published i))
      | .error _ => s.published }

def after (s : Network ι) : List (ι × Call) → Network ι
  | [] => s
  | (i,call) :: history => (s.call identities i call).after history

def loaded (s : Network ι) (e : Exchange ι) : Network ι := s.call identities e.sender e.load

def sent (s : Network ι) (e : Exchange ι) : Option SignedWorkspaceGatewayDirectory :=
  match (e.load.result (identities e.sender) (s.files e.sender)).1 with
  | .ok signed => signed
  | .error _ => none

/-- The receiver merges when the revision of the sender is not lower. -/
def exchange (s : Network ι) (e : Exchange ι) : Network ι :=
  match s.sent identities e with
  | none => s.loaded identities e
  | some signed =>
    if ((s.loaded identities e).files e.receiver).revision ≤ signed.directory.revision then
      (s.loaded identities e).call identities e.receiver (e.merge signed)
    else s.loaded identities e

def exchanged (s : Network ι) (exchanges : ℕ → Exchange ι) : ℕ → Network ι
  | 0 => s
  | n + 1 => (exchanged s exchanges n).exchange identities (exchanges n)

/-- Publications, removals, loads, and merges of documents that circulate. -/
def Admits (s : Network ι) : Operation → Prop
  | .publishLocal _ _ | .remove _ _ _ | .load _ => True
  | .merge signed _ => signed ∈ s.documents
  | .setClientMatrixUserId _ | .promoteLocalOwnership _ _ _ => False

/-- The calls of a history, each signed by its own node. -/
def Admitted (s : Network ι) : List (ι × Call) → Prop
  | [] => True
  | (i,call) :: history => s.Admits call.operation ∧ call.signing.Signs (identities i) ∧
      Admitted (s.call identities i call) history

/-- Exchanges between any two nodes, again and again, each signed by its own nodes. -/
structure Fair (exchanges : ℕ → Exchange ι) : Prop where
  fair : ∀ i j, i ≠ j → ∀ N, ∃ n ≥ N, (exchanges n).sender = i ∧ (exchanges n).receiver = j
  senderSigns : ∀ n, (exchanges n).senderSigning.Signs (identities (exchanges n).sender)
  receiverSigns : ∀ n, (exchanges n).receiverSigning.Signs (identities (exchanges n).receiver)

/-- One gateways map and one removed set, in which every node that is not removed has what it published. -/
structure Agreed (s : Network ι) : Prop where
  gateways : ∀ i j id, (s.files i).gateways.get id = (s.files j).gateways.get id
  removed : ∀ i j id, id ∈ (s.files i).removedGatewayNodeIds ↔ id ∈ (s.files j).removedGatewayNodeIds
  published : ∀ i j p, s.published j = some p →
    (identities j).gatewayNodeId ∉ (s.files i).removedGatewayNodeIds →
    ∃ g, (s.files i).gateways.get (identities j).gatewayNodeId = some g ∧ g.toDescriptorSemantics = p

/-- From some exchange on the nodes agree, and no revision changes any more. -/
def Converges (run : ℕ → Network ι) : Prop :=
  ∃ N, ∀ n ≥ N, Agreed identities (run n) ∧
    ∀ i, ((run n).files i).revision = ((run N).files i).revision

def HistoryFits (s : Network ι) : List (ι × Call) → Prop
  | [] => True
  | (i,call) :: history => call.operation.Fits (identities i) (s.files i) ∧
      HistoryFits (s.call identities i call) history

def ExchangeFits (s : Network ι) (e : Exchange ι) : Prop :=
  e.load.operation.Fits (identities e.sender) (s.files e.sender) ∧ ∀ signed, s.sent identities e = some signed →
    ((s.loaded identities e).files e.receiver).revision ≤ signed.directory.revision →
    (e.merge signed).operation.Fits (identities e.receiver) ((s.loaded identities e).files e.receiver)

/-- No node is behind a copy of its own descriptor. -/
def Ahead (s : Network ι) : Prop :=
  ∀ i j copy, (s.files i).gateways.get (identities j).gatewayNodeId = some copy →
    (identities j).gatewayNodeId ∉ (s.files j).removedGatewayNodeIds →
    ∃ own, (s.files j).gateways.get (identities j).gatewayNodeId = some own ∧
      preferredGatewayDescriptor own copy = own

/-- The receiver gives up its document of a revision that both have signed for one content. -/
def ExchangeTies (s : Network ι) (e : Exchange ι) : Prop :=
  ∃ signed, s.sent identities e = some signed ∧
    Ties (identities e.receiver) ((s.loaded identities e).files e.receiver) signed

/-- Every call of the history and of the exchanges fits, no node is behind itself when the exchanges start,
two signed documents of one content meet finitely often, and the hosts tell the nodes apart. -/
structure Settles (history : List (ι × Call)) (exchanges : ℕ → Exchange ι) : Prop where
  historyFits : (started identities).HistoryFits identities history
  ahead : ((started identities).after identities history).Ahead identities
  exchangesFit : ∀ n,
    (((started identities).after identities history).exchanged identities exchanges n).ExchangeFits identities
      (exchanges n)
  ties : ∃ N, ∀ n ≥ N,
    ¬ (((started identities).after identities history).exchanged identities exchanges n).ExchangeTies identities
      (exchanges n)
  separates : ∀ i, Separates (identities i) (Set.range fun j => (identities j).gatewayNodeId)

variable {identities}

def Publishes (identities : ι → GatewayPairingIdentity) (s : Network ι) (id : JsString) : Prop :=
  ∃ j, id = (identities j).gatewayNodeId ∧ (s.published j).isSome

structure Sound (identities : ι → GatewayPairingIdentity) (s : Network ι) : Prop where
  files : ∀ i, Directory.Sound (identities i) (s.files i)
  users : ∀ i, (s.files i).clientMatrixUserId = none
  documents : ∀ d ∈ s.documents, d.directory.clientMatrixUserId = none ∧
    ∀ id ∈ d.directory.nodes, s.Publishes identities id
  listed : ∀ i id g, (s.files i).gateways.get id = some g → s.Publishes identities id
  own : ∀ i p, s.published i = some p → (identities i).gatewayNodeId ∉ (s.files i).removedGatewayNodeIds →
    ∃ g, (s.files i).gateways.get (identities i).gatewayNodeId = some g ∧ g.toDescriptorSemantics = p

omit [DecidableEq ι] in
theorem sound_started : (started identities).Sound identities where
  files _ := sound_initialState
  users _ := rfl
  documents d hd := by cases hd
  listed i id g hg := by cases hg
  own i p hp := by cases hp

section

variable {s : Network ι} {identity : GatewayPairingIdentity} {state state' : WorkspaceDirectoryState}
  {answer : Answer} {operation : Operation}

/-- What a transaction lists was listed, or is published, or comes from a document. Only a publication changes
the own descriptor, unless the node is removed. -/
structure Changed (s : Network ι) (identity : GatewayPairingIdentity) (operation : Operation)
    (state state' : WorkspaceDirectoryState) : Prop where
  listed : ∀ id g, state'.gateways.get id = some g → (∃ g,state.gateways.get id = some g) ∨
    (id = identity.gatewayNodeId ∧ ∃ p now,operation = .publishLocal p now) ∨ ∃ d ∈ s.documents, id ∈ d.directory.nodes
  user : (∀ d ∈ s.documents,d.directory.clientMatrixUserId = none) → state.clientMatrixUserId = none →
    state'.clientMatrixUserId = none
  own : (∀ p now,operation ≠ .publishLocal p now) → identity.gatewayNodeId ∉ state'.removedGatewayNodeIds →
    ∀ g, state.gateways.get identity.gatewayNodeId = some g → state'.gateways.get identity.gatewayNodeId = some g

omit [DecidableEq ι] in
theorem changed_transact (heq : operation.transact identity state = .ok (answer,state'))
    (hadmits : s.Admits operation) : s.Changed identity operation state state' := by
  have same : ∀ {state'},state'.gateways = state.gateways →
      state'.clientMatrixUserId = state.clientMatrixUserId → s.Changed identity operation state state' := by
    intro state' hgateways huser
    exact ⟨fun id g hg => .inl ⟨g,hgateways ▸ hg⟩,fun _ h => huser.trans h,fun _ _ _ hg => hgateways ▸ hg⟩
  cases operation with
  | setClientMatrixUserId | promoteLocalOwnership => exact hadmits.elim
  | publishLocal p now =>
    obtain ⟨-,-,⟨-,-,rfl⟩ | ⟨-,-,rfl⟩⟩ := publishLocal_eq_ok heq
    · refine ⟨fun id g hg => ?_,fun _ h => h,fun hother => absurd rfl (hother p now)⟩
      rw [InsertionMap.get_set] at hg
      split at hg
      · next hid => exact .inr (.inl ⟨hid,p,now,rfl⟩)
      · exact .inl ⟨g,hg⟩
    · exact same rfl rfl
  | merge signed now =>
    rcases gateways_merge heq with ⟨hsame,-,huser⟩ | ⟨hunion,hremoved,huser⟩
    · exact same hsame huser
    have hd := validDirectory_of_verify (merge_eq_ok heq).1
    refine ⟨fun id g hg => ?_,fun hdocuments hnone => ?_,fun _ hnot g hg => ?_⟩
    · rw [hunion,get_mergeGateways hd.nodes] at hg
      split at hg
      · cases hg
      · cases hcurrent : state.gateways.get id with
        | some current => exact .inl ⟨current,rfl⟩
        | none =>
          rw [hcurrent,joinDescriptors] at hg
          exact .inr (.inr ⟨signed,hadmits,g,(WorkspaceGatewayDirectory.find_eq_some hd.nodes).mp hg⟩)
    · rw [huser,unionMatrixUserId,hnone,hdocuments signed hadmits]
      rfl
    · rw [hremoved] at hnot
      rw [hunion,get_mergeGateways hd.nodes,if_neg hnot,hg]
      cases signed.directory.find identity.gatewayNodeId with
      | none => rfl
      | some other => exact congrArg some (if_pos rfl)
  | remove other expected now =>
    obtain ⟨-,hself,⟨-,-,rfl⟩ | ⟨-,-,-,rfl⟩⟩ := remove_eq_ok heq
    · exact same rfl rfl
    · refine ⟨fun id g hg => ?_,fun _ h => h,fun _ _ g hg => ?_⟩
      · rw [InsertionMap.get_delete] at hg
        split at hg
        · cases hg
        · exact .inl ⟨g,hg⟩
      · rw [InsertionMap.get_delete_of_ne _ (Ne.symm hself)]
        exact hg
  | load now =>
    obtain ⟨-,-,rfl⟩ := load_eq_ok heq
    exact same rfl rfl

theorem own_of_publishLocal {p : LocalPublication} {now : ℤ}
    (heq : publishLocal identity p now state = .ok (answer,state')) :
    ∃ g, state'.gateways.get identity.gatewayNodeId = some g ∧
      g.toDescriptorSemantics = p.descriptor identity := by
  obtain ⟨-,-,⟨-,-,rfl⟩ | ⟨hchanges,-,rfl⟩⟩ := publishLocal_eq_ok heq
  · exact ⟨_,InsertionMap.get_set_self _ _ _,rfl⟩
  · unfold LocalPublication.changes at hchanges
    split at hchanges
    · cases hchanges
    · next previous hprevious =>
      rw [decide_eq_false_iff_not,not_not] at hchanges
      exact ⟨previous,hprevious,canonicalJson_semantics.mp hchanges⟩

end

variable {s : Network ι}

omit [DecidableEq ι] in
theorem Publishes.mono {s' : Network ι} (h : ∀ j,(s.published j).isSome → (s'.published j).isSome)
    {id : JsString} (hid : s.Publishes identities id) : s'.Publishes identities id := by
  obtain ⟨j,rfl,hj⟩ := hid
  exact ⟨j,rfl,h j hj⟩

theorem files_call (i : ι) (call : Call) (k : ι) : (s.call identities i call).files k =
    if k = i then (call.result (identities i) (s.files i)).2 else s.files k :=
  Function.update_apply _ _ _ _

variable {i : ι}

theorem published_call {call : Call} {returned : Option SignedWorkspaceGatewayDirectory}
    (h : (call.result (identities i) (s.files i)).1 = .ok returned) (k : ι) : (s.call identities i call).published k =
      if k = i then (call.operation.publication (identities i)).or (s.published i) else s.published k := by
  unfold Network.call
  simp only [h]
  exact Function.update_apply _ _ _ _

theorem isSome_published_call {call : Call} {j : ι} (h : (s.published j).isSome) :
    ((s.call identities i call).published j).isSome := by
  cases hresult : (call.result (identities i) (s.files i)).1 with
  | error e =>
    unfold Network.call
    simp only [hresult]
    exact h
  | ok returned =>
    rw [published_call hresult]
    split
    · next hj =>
      rw [isSome_or,← hj,h,Bool.or_true]
    · exact h

theorem published_call_of_none {call : Call} (h : call.operation.publication (identities i) = none) :
    (s.call identities i call).published = s.published := by
  unfold Network.call
  dsimp only
  split
  · rw [h,none_or,Function.update_eq_self]
  · rfl

theorem Sound.call (h : s.Sound identities) (hw : ∀ i,(identities i).WellFormed) {call : Call}
    (hadmits : s.Admits call.operation) (hs : call.signing.Signs (identities i))
    (hfits : call.operation.Fits (identities i) (s.files i)) : (s.call identities i call).Sound identities := by
  obtain ⟨hsound,hpreserves,hstored⟩ := (h.files i).result (hw i) hs hfits
  have hlater : ∀ {id},s.Publishes identities id → (s.call identities i call).Publishes identities id :=
    fun hid => hid.mono fun _ hj => isSome_published_call hj
  cases hresult : (call.result (identities i) (s.files i)).1 with
  | error e =>
    have hsame : s.call identities i call = s := by
      unfold Network.call
      simp only [hresult,hpreserves.unchanged e hresult,Function.update_eq_self]
    exact hsame.symm ▸ h
  | ok returned =>
    obtain ⟨answer,file,htransact⟩ : ∃ answer file,
        call.operation.transact (identities i) (s.files i) = .ok (answer,file) := by
      cases htransact : call.operation.transact (identities i) (s.files i) with
      | error e =>
        rw [result_of_error htransact] at hresult
        cases hresult
      | ok outcome => exact ⟨outcome.1,outcome.2,rfl⟩
    obtain ⟨signed,hfile⟩ := result_file htransact
    have hchanged := changed_transact htransact hadmits
    have hlisted : ∀ id g,file.gateways.get id = some g → (s.call identities i call).Publishes identities id := by
      intro id g hg
      rcases hchanged.listed id g hg with ⟨g,hg⟩ | ⟨rfl,p,now,hop⟩ | ⟨d,hd,hid⟩
      · exact hlater (h.listed i id g hg)
      · refine ⟨i,rfl,?_⟩
        rw [published_call hresult,if_pos rfl,hop]
        rfl
      · exact hlater ((h.documents d hd).2 id hid)
    have huser := hchanged.user (fun d hd => (h.documents d hd).1) (h.users i)
    constructor
    · intro k
      rw [files_call]
      split
      · next hk => exact hk ▸ hsound
      · exact h.files k
    · intro k
      rw [files_call]
      split
      · rw [hfile]
        exact huser
      · exact h.users k
    · intro d hd
      have hcases : (returned = some d) ∨ d ∈ s.documents := by
        unfold Network.call at hd
        simp only [hresult] at hd
        cases returned with
        | none => exact .inr hd
        | some e =>
          rcases List.mem_insert_iff.mp hd with rfl | hold
          · exact .inl rfl
          · exact .inr hold
      rcases hcases with rfl | hold
      · have hsigned := hstored d hresult
        have hagrees := hsound.agrees d hsigned
        refine ⟨?_,fun id hid => ?_⟩
        · rw [hagrees.matrixUserId,hfile]
          exact huser
        · obtain ⟨g,hg,rfl⟩ := hid
          have hperm := gatewaysText_eq_iff.mp (hagrees.content (hsound.upToDate d hsigned)).1
          have hmem : g ∈ (call.result (identities i) (s.files i)).2.gateways.values := by
            rw [← (sortGateways_perm _).mem_iff,hperm,(sortGateways_perm _).mem_iff]
            exact hg
          obtain ⟨id,hid⟩ := InsertionMap.mem_values.mp hmem
          obtain rfl := (hsound.listed id g hid).id_eq
          rw [hfile] at hid
          exact hlisted _ g hid
      · exact ⟨(h.documents d hold).1,fun id hid => hlater ((h.documents d hold).2 id hid)⟩
    · intro k id g hg
      rw [files_call] at hg
      split at hg
      · rw [hfile] at hg
        exact hlisted id g hg
      · exact hlater (h.listed k id g hg)
    · intro k p hp hnot
      rw [files_call] at hnot ⊢
      rw [published_call hresult] at hp
      by_cases hk : k = i
      · subst hk
        rw [if_pos rfl] at hp
        rw [if_pos rfl,hfile] at hnot ⊢
        by_cases hpublish : ∃ q now, call.operation = .publishLocal q now
        · obtain ⟨q,now,hop⟩ := hpublish
          rw [hop] at hp htransact
          obtain rfl := some.inj hp
          have hown := @own_of_publishLocal (identities k) (s.files k) file answer q now htransact
          exact hown
        · have hother : ∀ q now,call.operation ≠ .publishLocal q now := fun q now hop => hpublish ⟨q,now,hop⟩
          have hnone : call.operation.publication (identities k) = none := by
            unfold Operation.publication
            split
            · next q now hop => exact absurd hop (hother q now)
            · rfl
          rw [hnone,none_or] at hp
          obtain ⟨g,hg,hsemantics⟩ := h.own k p hp (fun hid => hnot ((transacts htransact).removed hid))
          exact ⟨g,hchanged.own hother hnot g hg,hsemantics⟩
      · rw [if_neg hk] at hp hnot ⊢
        exact h.own k p hp hnot

theorem Sound.after (h : s.Sound identities) (hw : ∀ i,(identities i).WellFormed) {history : List (ι × Call)}
    (hadmitted : s.Admitted identities history) (hfits : s.HistoryFits identities history) :
    (s.after identities history).Sound identities := by
  induction history generalizing s with
  | nil => exact h
  | cons entry history ih =>
    obtain ⟨i,call⟩ := entry
    exact ih (h.call hw hadmitted.1 hadmitted.2.1 hfits.1) hadmitted.2.2 hfits.2

omit [DecidableEq ι] in
theorem verify_eq (hw : OneWorkspace identities) (i j : ι) (signed : SignedWorkspaceGatewayDirectory) :
    verifyWorkspaceGatewayDirectory (identities i) signed = verifyWorkspaceGatewayDirectory (identities j) signed := by
  have hschema : workspaceGatewayDescriptorSchema (identities i) =
      workspaceGatewayDescriptorSchema (identities j) := by
    funext g
    simp only [workspaceGatewayDescriptorSchema,matrixTransportBindingSchema,hw.isUrl i j]
  have hsigned : signedWorkspaceGatewayDirectorySchema (identities i) =
      signedWorkspaceGatewayDirectorySchema (identities j) := by
    funext d
    simp only [signedWorkspaceGatewayDirectorySchema,workspaceGatewayDirectorySchema,hschema]
  unfold verifyWorkspaceGatewayDirectory
  rw [hsigned,hw.keyId i j,hw.verifyDirectory i j,hw.workspaceId i j]

theorem published_exchange (e : Exchange ι) : (s.exchange identities e).published = s.published := by
  have hloaded : (s.loaded identities e).published = s.published := published_call_of_none rfl
  unfold exchange
  split
  · exact hloaded
  · split
    · exact (published_call_of_none rfl).trans hloaded
    · exact hloaded

/-- What the sender of an exchange sends, and what its load leaves. -/
structure Offers (identities : ι → GatewayPairingIdentity) (s : Network ι) (e : Exchange ι)
    (signed : SignedWorkspaceGatewayDirectory) : Prop where
  sent : s.sent identities e = some signed
  loaded : (s.loaded identities e).Sound identities
  circulates : signed ∈ (s.loaded identities e).documents
  verified : verifyWorkspaceGatewayDirectory (identities e.sender) signed = .ok ()
  revision : signed.directory.revision = (s.files e.sender).revision
  content : signed.directory.content = (s.files e.sender).content
  contents : ∀ k, ((s.loaded identities e).files k).content = (s.files k).content
  revisions : ∀ k, ((s.loaded identities e).files k).revision = (s.files k).revision

variable {e : Exchange ι}

theorem Sound.offers (h : s.Sound identities) (hw : OneWorkspace identities)
    (hs : e.senderSigning.Signs (identities e.sender)) (hfits : s.ExchangeFits identities e) :
    ∃ signed, s.Offers identities e signed := by
  obtain ⟨signed,hresult,hsound⟩ := (h.files e.sender).result_load (hw.wellFormed e.sender) hs hfits.1
  have hload : e.load.result (identities e.sender) (s.files e.sender) =
      (.ok (some signed),{ s.files e.sender with signed := some signed }) := hresult
  have hfile : ∀ k,(s.loaded identities e).files k =
      if k = e.sender then { s.files e.sender with signed := some signed } else s.files k := by
    intro k
    rw [loaded,files_call,hload]
  refine ⟨signed,?_,h.call hw.wellFormed trivial hs hfits.1,?_,hsound.verified signed rfl,
    hsound.upToDate signed rfl,hsound.content_signed rfl (hsound.upToDate signed rfl),fun k => ?_,fun k => ?_⟩
  · rw [sent,hload]
  · unfold loaded Network.call
    simp only [hload]
    exact List.mem_insert_self
  · rw [hfile]
    split
    · next hk => exact hk ▸ rfl
    · rfl
  · rw [hfile]
    split
    · next hk => exact hk ▸ rfl
    · rfl

variable {signed : SignedWorkspaceGatewayDirectory}

theorem Offers.exchange_of_lt (ho : s.Offers identities e signed)
    (hlt : (s.files e.sender).revision < (s.files e.receiver).revision) :
    s.exchange identities e = s.loaded identities e := by
  have hnot : ¬ ((s.loaded identities e).files e.receiver).revision ≤ signed.directory.revision := by
    rw [ho.revisions,ho.revision]
    exact not_le.mpr hlt
  simp only [exchange,ho.sent,if_neg hnot]

theorem Offers.exchange_of_le (ho : s.Offers identities e signed)
    (hle : (s.files e.receiver).revision ≤ (s.files e.sender).revision) :
    s.exchange identities e = (s.loaded identities e).call identities e.receiver (e.merge signed) := by
  have hle' : ((s.loaded identities e).files e.receiver).revision ≤ signed.directory.revision := by
    rw [ho.revisions,ho.revision]
    exact hle
  simp only [exchange,ho.sent,if_pos hle']

theorem Sound.exchange (h : s.Sound identities) (hw : OneWorkspace identities)
    (hs : e.senderSigning.Signs (identities e.sender)) (hr : e.receiverSigning.Signs (identities e.receiver))
    (hfits : s.ExchangeFits identities e) : (s.exchange identities e).Sound identities := by
  obtain ⟨signed,ho⟩ := h.offers hw hs hfits
  rcases lt_or_ge (s.files e.sender).revision (s.files e.receiver).revision with hlt | hle
  · rw [ho.exchange_of_lt hlt]
    exact ho.loaded
  · rw [ho.exchange_of_le hle]
    refine ho.loaded.call hw.wellFormed ho.circulates hr (hfits.2 signed ho.sent ?_)
    rw [ho.revisions,ho.revision]
    exact hle

/-- The file of a receiver that is not ahead is what its merge leaves, up to the signed document. -/
theorem Offers.merged (ho : s.Offers identities e signed) (hw : OneWorkspace identities)
    (hle : (s.files e.receiver).revision ≤ (s.files e.sender).revision) :
    ∃ answer file own, merge (identities e.receiver) signed ((s.loaded identities e).files e.receiver) =
        .ok (answer,file) ∧ (s.exchange identities e).files e.receiver = { file with signed := own } := by
  have hle' : ((s.loaded identities e).files e.receiver).revision ≤ signed.directory.revision := by
    rw [ho.revisions,ho.revision]
    exact hle
  obtain ⟨answer,file,hmerge⟩ := (ho.loaded.files e.receiver).merge_ok
    ((verify_eq hw e.receiver e.sender signed).trans ho.verified) hle' (ho.loaded.users e.receiver)
  have htransact : (e.merge signed).operation.transact (identities e.receiver)
      ((s.loaded identities e).files e.receiver) = .ok (answer,file) := hmerge
  obtain ⟨own,hown⟩ := result_file htransact
  refine ⟨answer,file,own,hmerge,?_⟩
  rw [ho.exchange_of_le hle,files_call,if_pos rfl]
  exact hown

/-- No node is behind what another one holds about it. -/
def Leads (identities : ι → GatewayPairingIdentity) (s : Network ι) : Prop :=
  ∀ i j, (s.files i).content (identities j).gatewayNodeId = ⊤ ∨
    (s.files i).content (identities j).gatewayNodeId ≤ (s.files j).content (identities j).gatewayNodeId

omit [DecidableEq ι] in
theorem Ahead.leads (h : s.Ahead identities) : s.Leads identities := by
  intro i j
  by_cases hremoved : (identities j).gatewayNodeId ∈ (s.files i).removedGatewayNodeIds
  · exact .inl (contentOf_eq_top.mpr hremoved)
  by_cases hself : (identities j).gatewayNodeId ∈ (s.files j).removedGatewayNodeIds
  · right
    rw [WorkspaceDirectoryState.content,WorkspaceDirectoryState.content,contentOf_eq_top.mpr hself]
    exact le_top
  right
  rw [WorkspaceDirectoryState.content,WorkspaceDirectoryState.content,contentOf_of_not_mem hremoved,
    contentOf_of_not_mem hself]
  cases hcopy : (s.files i).gateways.get (identities j).gatewayNodeId with
  | none => exact WithTop.coe_le_coe.mpr bot_le
  | some copy =>
    obtain ⟨own,hown,hpreferred⟩ := h i j copy hcopy hself
    rw [hown]
    exact WithTop.coe_le_coe.mpr (WithBot.coe_le_coe.mpr (preferredGatewayDescriptor_eq_left.mp hpreferred))

section

variable (h : s.Sound identities) (hw : OneWorkspace identities)
  (hs : e.senderSigning.Signs (identities e.sender)) (hfits : s.ExchangeFits identities e)

include h hw hs hfits

theorem content_exchange_of_ne {k : ι} (hk : k ≠ e.receiver) :
    ((s.exchange identities e).files k).content = (s.files k).content ∧
      ((s.exchange identities e).files k).revision = (s.files k).revision := by
  obtain ⟨signed,ho⟩ := h.offers hw hs hfits
  rcases lt_or_ge (s.files e.sender).revision (s.files e.receiver).revision with hlt | hle
  · rw [ho.exchange_of_lt hlt]
    exact ⟨ho.contents k,ho.revisions k⟩
  · rw [ho.exchange_of_le hle,files_call,if_neg hk]
    exact ⟨ho.contents k,ho.revisions k⟩

theorem content_exchange_of_lt (hlt : (s.files e.sender).revision < (s.files e.receiver).revision) :
    ((s.exchange identities e).files e.receiver).content = (s.files e.receiver).content ∧
      ((s.exchange identities e).files e.receiver).revision = (s.files e.receiver).revision := by
  obtain ⟨signed,ho⟩ := h.offers hw hs hfits
  rw [ho.exchange_of_lt hlt]
  exact ⟨ho.contents _,ho.revisions _⟩

theorem content_exchange_of_le (hleads : s.Leads identities)
    (hle : (s.files e.receiver).revision ≤ (s.files e.sender).revision) :
    ((s.exchange identities e).files e.receiver).content =
      (s.files e.receiver).content ⊔ (s.files e.sender).content := by
  obtain ⟨signed,ho⟩ := h.offers hw hs hfits
  obtain ⟨answer,file,own,hmerge,hfile⟩ := ho.merged hw hle
  have hcontent : ((s.exchange identities e).files e.receiver).content = file.content := by rw [hfile]; rfl
  rw [hcontent,content_merge hmerge,ho.contents,ho.content]
  exact joinContents_eq_sup (hleads e.sender e.receiver)

theorem revision_exchange_of_ne (hle : (s.files e.receiver).revision ≤ (s.files e.sender).revision)
    (hne : (s.files e.sender).content ≠ (s.files e.receiver).content) :
    (s.files e.receiver).revision < ((s.exchange identities e).files e.receiver).revision := by
  obtain ⟨signed,ho⟩ := h.offers hw hs hfits
  obtain ⟨answer,file,own,hmerge,hfile⟩ := ho.merged hw hle
  have hlt := revision_merge_of_ne hmerge (by rw [ho.content,ho.contents]; exact hne)
  rw [hfile]
  exact ho.revisions e.receiver ▸ hlt

theorem revision_exchange_of_eq (hle : (s.files e.receiver).revision ≤ (s.files e.sender).revision)
    (heq : (s.files e.sender).content = (s.files e.receiver).content)
    (hseparates : ∀ i,Separates (identities i) (Set.range fun j => (identities j).gatewayNodeId))
    (htie : ¬ s.ExchangeTies identities e) :
    ((s.exchange identities e).files e.receiver).revision = (s.files e.sender).revision := by
  obtain ⟨signed,ho⟩ := h.offers hw hs hfits
  obtain ⟨answer,file,own,hmerge,hfile⟩ := ho.merged hw hle
  obtain ⟨huser,hnodes⟩ := ho.loaded.documents signed ho.circulates
  have hsub : ∀ id ∈ signed.directory.nodes,id ∈ Set.range fun j => (identities j).gatewayNodeId := by
    intro id hid
    obtain ⟨j,rfl,-⟩ := hnodes id hid
    exact ⟨j,rfl⟩
  rw [hfile]
  refine (revision_merge_of_eq (hw.wellFormed e.receiver) hmerge (by rw [ho.content,ho.contents,heq])
    (huser.trans (ho.loaded.users e.receiver).symm)
    (fun a ha b hb => hseparates e.receiver a (hsub a ha) b (hsub b hb))
    (fun ht => htie ⟨signed,ho.sent,ht⟩)).trans ho.revision

theorem Leads.exchange (hleads : s.Leads identities) : (s.exchange identities e).Leads identities := by
  have hupper : ∀ k,((s.exchange identities e).files k).content = (s.files k).content ∨
      ((s.exchange identities e).files k).content = (s.files k).content ⊔ (s.files e.sender).content := by
    intro k
    by_cases hk : k = e.receiver
    · subst hk
      rcases lt_or_ge (s.files e.sender).revision (s.files e.receiver).revision with hlt | hle
      · exact .inl (content_exchange_of_lt h hw hs hfits hlt).1
      · exact .inr (content_exchange_of_le h hw hs hfits hleads hle)
    · exact .inl (content_exchange_of_ne h hw hs hfits hk).1
  have hlower : ∀ k id,(s.files k).content id ≤ ((s.exchange identities e).files k).content id := by
    intro k id
    rcases hupper k with heq | heq
    · rw [heq]
    · rw [heq]
      exact le_sup_left
  intro i j
  rcases hupper i with heq | heq
  · rw [heq]
    exact (hleads i j).imp_right (fun hle => hle.trans (hlower j _))
  · rw [heq]
    rcases hleads i j with htop | hle
    · exact .inl (by rw [Pi.sup_apply,htop,top_sup_eq])
    rcases hleads e.sender j with htop | hle'
    · exact .inl (by rw [Pi.sup_apply,htop,sup_top_eq])
    · exact .inr ((sup_le hle hle').trans (hlower j _))

end

variable {exchanges : ℕ → Exchange ι}

theorem Sound.exchanged (h : s.Sound identities) (hw : OneWorkspace identities) (hleads : s.Leads identities)
    (hfair : Fair identities exchanges)
    (hfits : ∀ n,(s.exchanged identities exchanges n).ExchangeFits identities (exchanges n)) (n : ℕ) :
    (s.exchanged identities exchanges n).Sound identities ∧ (s.exchanged identities exchanges n).Leads identities := by
  induction n with
  | zero => exact ⟨h,hleads⟩
  | succ n ih =>
    obtain ⟨hn,hleadsn⟩ := ih
    have hs := hfair.senderSigns n
    exact ⟨hn.exchange hw hs (hfair.receiverSigns n) (hfits n),Leads.exchange hn hw hs (hfits n) hleadsn⟩

/-- Exchanges of directories are gossip about their contents. -/
theorem Sound.gossip (h : s.Sound identities) (hw : OneWorkspace identities) (hleads : s.Leads identities)
    (hfair : Fair identities exchanges)
    (hfits : ∀ n,(s.exchanged identities exchanges n).ExchangeFits identities (exchanges n))
    (hties : ∃ N,∀ n ≥ N,¬ (s.exchanged identities exchanges n).ExchangeTies identities (exchanges n))
    (hseparates : ∀ i,Separates (identities i) (Set.range fun j => (identities j).gatewayNodeId)) :
    Gossip (fun n i => ((s.exchanged identities exchanges n).files i).content)
      (fun n i => ((s.exchanged identities exchanges n).files i).revision)
      (fun n => (exchanges n).sender) (fun n => (exchanges n).receiver) where
  fair := hfair.fair
  others n _ hk := content_exchange_of_ne (h.exchanged hw hleads hfair hfits n).1 hw (hfair.senderSigns n) (hfits n) hk
  refuse n hlt := content_exchange_of_lt (h.exchanged hw hleads hfair hfits n).1 hw (hfair.senderSigns n) (hfits n) hlt
  join n hle :=
    content_exchange_of_le (h.exchanged hw hleads hfair hfits n).1 hw (hfair.senderSigns n) (hfits n)
      (h.exchanged hw hleads hfair hfits n).2 hle
  differ n hle hne :=
    revision_exchange_of_ne (h.exchanged hw hleads hfair hfits n).1 hw (hfair.senderSigns n) (hfits n) hle hne
  agree := by
    obtain ⟨N,hN⟩ := hties
    refine ⟨N,fun n hn hle heq => ?_⟩
    exact revision_exchange_of_eq (h.exchanged hw hleads hfair hfits n).1 hw (hfair.senderSigns n) (hfits n) hle
      heq hseparates (hN n hn)

omit [DecidableEq ι] in
theorem Sound.agreed (h : s.Sound identities)
    (hcontent : ∀ i j,(s.files i).content = (s.files j).content) : s.Agreed identities := by
  have hfiles : ∀ i j,(∀ id,id ∈ (s.files i).removedGatewayNodeIds ↔ id ∈ (s.files j).removedGatewayNodeIds) ∧
      ∀ id, (s.files i).gateways.get id = (s.files j).gateways.get id := by
    intro i j
    exact (contentOf_eq_iff (h.files i).get_removed (h.files j).get_removed).mp (hcontent i j)
  refine ⟨fun i j => (hfiles i j).2,fun i j => (hfiles i j).1,fun i j p hp hnot => ?_⟩
  obtain ⟨g,hg,hsemantics⟩ := h.own j p hp (fun hid => hnot (((hfiles i j).1 _).mpr hid))
  exact ⟨g,((hfiles i j).2 _).trans hg,hsemantics⟩

/-- After any history, nodes that settle come to hold one directory, with the descriptors that they published
last, and their revisions stay. -/
theorem converges_of_settles [Finite ι] (hw : OneWorkspace identities) {history : List (ι × Call)}
    (hadmitted : (started identities).Admitted identities history) {exchanges : ℕ → Exchange ι}
    (hfair : Fair identities exchanges) (h : Settles identities history exchanges) :
    Converges identities (((started identities).after identities history).exchanged identities exchanges) := by
  have hsound := (@sound_started ι identities).after hw.wellFormed hadmitted h.historyFits
  have hleads := h.ahead.leads
  obtain ⟨N,hN⟩ := (hsound.gossip hw hleads hfair h.exchangesFit h.ties h.separates).converges
  refine ⟨N,fun n hn => ⟨?_,fun i => ((hN n hn).2 i).2⟩⟩
  exact (hsound.exchanged hw hleads hfair h.exchangesFit n).1.agreed (hN n hn).1

/-- Whatever an exchange does to a file, it leaves the content or joins the one of the sender to it. -/
theorem content_exchange (e : Exchange ι) (k : ι) : ((s.exchange identities e).files k).content = (s.files k).content ∨
      ((s.exchange identities e).files k).content =
        joinContents (identities k) (s.files k).content (s.files e.sender).content := by
  have hload : (e.load.result (identities e.sender) (s.files e.sender)).2.content =
      (s.files e.sender).content := by
    cases htransact : e.load.operation.transact (identities e.sender) (s.files e.sender) with
    | error error => rw [result_of_error htransact]
    | ok outcome =>
      obtain ⟨answer,file⟩ := outcome
      obtain ⟨-,-,rfl⟩ := load_eq_ok htransact
      obtain ⟨own,hown⟩ := result_file htransact
      rw [hown]
      rfl
  have hloaded : ∀ i,((s.loaded identities e).files i).content = (s.files i).content := by
    intro i
    rw [loaded,files_call]
    split
    · next hi => exact hi ▸ hload
    · rfl
  unfold exchange
  split
  · exact .inl (hloaded k)
  · next signed hsent =>
    have hsigned : signed.directory.content = (s.files e.sender).content := by
      unfold sent at hsent
      split at hsent
      · next returned hreturned =>
        rw [hsent] at hreturned
        exact content_result_load hreturned
      · cases hsent
    split
    · rw [files_call]
      split
      · next hk =>
        subst hk
        cases htransact : (e.merge signed).operation.transact (identities e.receiver)
            ((s.loaded identities e).files e.receiver) with
        | error error =>
          rw [result_of_error htransact]
          exact .inl (hloaded _)
        | ok outcome =>
          obtain ⟨answer,file⟩ := outcome
          obtain ⟨own,hown⟩ := result_file htransact
          have hfile : file.content = _ := content_merge htransact
          rw [hloaded,hsigned] at hfile
          right
          rw [hown,← hfile]
          rfl
      · exact .inl (hloaded k)
    · exact .inl (hloaded k)

/-- One of two nodes is behind the copy of its own descriptor that the other one holds. -/
structure Behind (identities : Bool → GatewayPairingIdentity) (s : Network Bool) (own copy : Rank) : Prop where
  own : (s.files false).content (identities false).gatewayNodeId = ((own : WithBot Rank) : WithTop (WithBot Rank))
  copy : (s.files true).content (identities false).gatewayNodeId = ((copy : WithBot Rank) : WithTop (WithBot Rank))
  other : ∀ b, (s.files b).content (identities true).gatewayNodeId = ⊥

variable {own copy : Rank}

theorem Behind.exchange {identities : Bool → GatewayPairingIdentity} {s : Network Bool}
    (h : s.Behind identities own copy) (hle : own ≤ copy)
    (hids : (identities false).gatewayNodeId ≠ (identities true).gatewayNodeId) (e : Exchange Bool) :
    (s.exchange identities e).Behind identities own copy := by
  have hle' : ((own : WithBot Rank) : WithTop (WithBot Rank)) ≤ (copy : WithBot Rank) :=
    WithTop.coe_le_coe.mpr (WithBot.coe_le_coe.mpr hle)
  have hbot : ((own : WithBot Rank) : WithTop (WithBot Rank)) ≠ ⊥ :=
    fun heq => WithBot.coe_ne_bot (WithTop.coe_injective heq)
  have hsent : (s.files e.sender).content (identities false).gatewayNodeId ≤ (copy : WithBot Rank) ∧
      (s.files e.sender).content (identities false).gatewayNodeId ≠ ⊤ := by
    cases e.sender with
    | false =>
      rw [h.own]
      exact ⟨hle',WithTop.coe_ne_top⟩
    | true =>
      rw [h.copy]
      exact ⟨le_rfl,WithTop.coe_ne_top⟩
  refine ⟨?_,?_,fun b => ?_⟩
  · rcases content_exchange e false with heq | heq
    · rw [heq,h.own]
    · rw [heq,joinContents,if_pos ⟨rfl,h.own ▸ hbot,hsent.2⟩,h.own]
  · rcases content_exchange e true with heq | heq
    · rw [heq,h.copy]
    · rw [heq,joinContents,if_neg (fun hown => hids hown.1),h.copy]
      exact sup_eq_left.mpr hsent.1
  · rcases content_exchange e b with heq | heq
    · rw [heq,h.other b]
    · rw [heq,joinContents,h.other b,h.other e.sender,if_neg (fun hown => hown.2.1 rfl)]
      exact sup_idem _

theorem Behind.not_converges {identities : Bool → GatewayPairingIdentity} {s : Network Bool}
    (h : s.Behind identities own copy) (hlt : own < copy)
    (hids : (identities false).gatewayNodeId ≠ (identities true).gatewayNodeId) (exchanges : ℕ → Exchange Bool) :
    ¬ Converges identities (s.exchanged identities exchanges) := by
  have hrun : ∀ n,(s.exchanged identities exchanges n).Behind identities own copy := by
    intro n
    induction n with
    | zero => exact h
    | succ n ih => exact ih.exchange hlt.le hids (exchanges n)
  rintro ⟨N,hN⟩
  obtain ⟨⟨hgateways,hremoved,-⟩,-⟩ := hN N le_rfl
  have hsame : ((s.exchanged identities exchanges N).files false).content =
      ((s.exchanged identities exchanges N).files true).content := by
    funext id
    unfold WorkspaceDirectoryState.content contentOf
    simp only [hremoved false true id,hgateways false true id]
  have heq := congrFun hsame (identities false).gatewayNodeId
  rw [(hrun N).own,(hrun N).copy] at heq
  exact hlt.ne (WithBot.coe_injective (WithTop.coe_injective heq))

end Network

def sampleNodes (b : Bool) : GatewayPairingIdentity :=
  { sampleIdentity with gatewayNodeId := if b then "node-2" else "node-1" }

theorem sampleNodes_oneWorkspace : OneWorkspace sampleNodes where
  wellFormed _ := ⟨sampleIdentity_wellFormed.workspaceId,sampleIdentity_wellFormed.keyId,
    sampleIdentity_wellFormed.total,sampleIdentity_wellFormed.trans⟩
  workspaceId _ _ := rfl
  keyId _ _ := rfl
  verifyDirectory _ _ := rfl
  isUrl _ _ := rfl
  nodeIds := by
    intro b c h
    cases b <;> cases c <;> first | rfl | exact absurd h (by decide)

theorem sampleSigning_signs_nodes {directoryId : JsString} (h : isOpaqueId directoryId) (b : Bool) :
    (sampleSigning directoryId).Signs (sampleNodes b) :=
  ⟨h,(sampleSigning_signs h).schema,(sampleSigning_signs h).verifies⟩

def turn (sender : Bool) : Exchange Bool :=
  ⟨sender,!sender,20,20,sampleSigning "directory-5",sampleSigning "directory-6"⟩

theorem turn_sentAt (sender : Bool) : isTimestamp (turn sender).load.operation.now := by
  cases sender <;> decide

def takingTurns (n : ℕ) : Exchange Bool := turn (n % 2 = 1)

theorem takingTurns_fair : Network.Fair sampleNodes takingTurns where
  fair i j hne N := by
    cases i <;> cases j
    · exact absurd rfl hne
    · refine ⟨2 * N,by omega,?_⟩
      simp [takingTurns,turn]
    · refine ⟨2 * N + 1,by omega,?_⟩
      simp [takingTurns,turn]
    · exact absurd rfl hne
  senderSigns _ := sampleSigning_signs_nodes (by decide) _
  receiverSigns _ := sampleSigning_signs_nodes (by decide) _

def publishedAt (p : LocalPublication) (now : ℤ) : WorkspaceGatewayDescriptor := ⟨p.descriptor (sampleNodes false),now⟩

def directoryOf (directoryId : JsString) (revision : ℕ) (p : LocalPublication) (now : ℤ) :
    SignedWorkspaceGatewayDirectory :=
  ⟨⟨directoryId,"workspace-1",none,revision,[publishedAt p now],none,now⟩,⟨sampleKeyId,sampleSignature⟩⟩

def fileOf (directoryId : JsString) (revision : ℕ) (p : LocalPublication) (now : ℤ) : WorkspaceDirectoryState :=
  ⟨"workspace-1",none,revision,InsertionMap.empty.set "node-1" (publishedAt p now),[],
    some (directoryOf directoryId revision p now)⟩

def publishAt (directoryId : JsString) (p : LocalPublication) (now : ℤ) : Bool × Call :=
  (false,⟨.publishLocal p now,sampleSigning directoryId⟩)

def publishOnce : List (Bool × Call) := [publishAt "directory-1" samplePublication 1]

def spreadDirectory : SignedWorkspaceGatewayDirectory := directoryOf "directory-1" 1 samplePublication 1

def publishedNetwork : Network Bool where
  files b := if b then initialState "workspace-1" else fileOf "directory-1" 1 samplePublication 1
  documents := [spreadDirectory]
  published b := if b then none else some (samplePublication.descriptor (sampleNodes false))

/-- The second node has adopted the directory. -/
def adoptedNetwork : Network Bool :=
  { publishedNetwork with files := fun _ => fileOf "directory-1" 1 samplePublication 1 }

set_option maxRecDepth 100000

theorem after_publishOnce : (Network.started sampleNodes).after sampleNodes publishOnce = publishedNetwork := by
  apply Network.ext
  · funext b
    cases b <;> decide
  · decide
  · funext b
    cases b <;> decide

theorem exchange_publishedNetwork : publishedNetwork.exchange sampleNodes (turn false) = adoptedNetwork := by
  refine Network.ext ?_ ?_ (Network.published_exchange _)
  · funext b
    cases b <;> decide
  · decide

variable (b : Bool)

theorem exchange_adoptedNetwork : adoptedNetwork.exchange sampleNodes (turn b) = adoptedNetwork := by
  refine Network.ext ?_ ?_ (Network.published_exchange _)
  · funext k
    cases b <;> cases k <;> decide
  · cases b <;> decide

theorem exchanged_publishedNetwork (n : ℕ) :
    publishedNetwork.exchanged sampleNodes takingTurns (n + 1) = adoptedNetwork := by
  induction n with
  | zero => exact exchange_publishedNetwork
  | succ n ih =>
    change (publishedNetwork.exchanged sampleNodes takingTurns (n + 1)).exchange sampleNodes
      (turn ((n + 1) % 2 = 1)) = adoptedNetwork
    rw [ih]
    exact exchange_adoptedNetwork _

theorem publishedNetwork_fits : publishedNetwork.ExchangeFits sampleNodes (turn false) := by
  have hsent : publishedNetwork.sent sampleNodes (turn false) = some spreadDirectory := by decide
  refine ⟨fun _ => turn_sentAt false,fun signed hsigned _ => ?_⟩
  rw [hsent] at hsigned
  obtain rfl := some.inj hsigned
  refine fun _ _ _ => ⟨fun hsame => absurd hsame (by decide),fun _ hnot => absurd ?_ hnot⟩
  exact ⟨by decide,by decide⟩

theorem adoptedNetwork_sent : adoptedNetwork.sent sampleNodes (turn b) = some spreadDirectory ∧
    ((adoptedNetwork.loaded sampleNodes (turn b)).files (turn b).receiver).signed = some spreadDirectory := by
  cases b <;> decide

theorem adoptedNetwork_fits : adoptedNetwork.ExchangeFits sampleNodes (turn b) := by
  obtain ⟨hsent,hstored⟩ := adoptedNetwork_sent b
  refine ⟨fun _ => turn_sentAt b,fun signed hsigned _ => ?_⟩
  rw [hsent] at hsigned
  obtain rfl := some.inj hsigned
  refine fun _ _ _ => ⟨fun _ _ htie => ?_,fun hdiffers => ?_⟩
  · obtain ⟨own,hown,hlater⟩ := htie
    rw [hstored] at hown
    exact absurd ((JsString.le_total _ _).elim id id) (some.inj hown ▸ hlater)
  · refine absurd (hdiffers ?_) ?_
    · cases b <;> decide
    · cases b <;> decide

theorem adoptedNetwork_not_ties : ¬ adoptedNetwork.ExchangeTies sampleNodes (turn b) := by
  obtain ⟨hsent,hstored⟩ := adoptedNetwork_sent b
  rintro ⟨signed,hsigned,-,-,own,hown,hlater⟩
  rw [hsent] at hsigned
  rw [hstored] at hown
  obtain rfl := some.inj hsigned
  obtain rfl := some.inj hown
  exact hlater ((JsString.le_total _ _).elim id id)

theorem publishOnce_settles : Network.Settles sampleNodes publishOnce takingTurns where
  historyFits := by
    refine ⟨fun _ => ?_,trivial⟩
    exact ⟨by decide,by decide,.inr (by decide),⟨by decide,by decide⟩,fun id g hg => by cases hg⟩
  ahead := by
    rw [after_publishOnce]
    intro i j copy hcopy hnot
    have hlisted : ∀ i j,i = true ∨ j = true →
        (publishedNetwork.files i).gateways.get (sampleNodes j).gatewayNodeId = none := by decide
    by_cases hother : i = true ∨ j = true
    · rw [hlisted i j hother] at hcopy
      cases hcopy
    · rw [not_or,Bool.not_eq_true,Bool.not_eq_true] at hother
      obtain ⟨rfl,rfl⟩ := hother
      exact ⟨copy,hcopy,preferredGatewayDescriptor_eq_left.mpr le_rfl⟩
  exchangesFit n := by
    rw [after_publishOnce]
    cases n with
    | zero => exact publishedNetwork_fits
    | succ n =>
      rw [exchanged_publishedNetwork]
      exact adoptedNetwork_fits _
  ties := by
    rw [after_publishOnce]
    refine ⟨1,fun n hn => ?_⟩
    obtain ⟨m,rfl⟩ := Nat.exists_eq_add_of_le' hn
    rw [exchanged_publishedNetwork]
    exact adoptedNetwork_not_ties _
  separates i a _ b _ hab hba := by
    change sampleIdentity.localeCompare a b ≤ 0 at hab
    change sampleIdentity.localeCompare b a ≤ 0 at hba
    rw [sampleIdentity_localeCompare] at hab hba
    exact JsString.le_antisymm hab hba

theorem converges_of_settles_publishOnce : Network.Converges sampleNodes
    (((Network.started sampleNodes).after sampleNodes publishOnce).exchanged sampleNodes takingTurns) := by
  have hadmitted : (Network.started sampleNodes).Admitted sampleNodes publishOnce :=
    ⟨trivial,sampleSigning_signs_nodes (by decide) _,trivial⟩
  exact Network.converges_of_settles sampleNodes_oneWorkspace hadmitted takingTurns_fair publishOnce_settles

def renamed : LocalPublication := { samplePublication with gatewayName := "Renamed" }

/-- The first node publishes, the second one merges, and the clock of the first goes back before it publishes
again. -/
def clockBack : List (Bool × Call) :=
  [publishAt "directory-1" samplePublication 10,
    (true,⟨.merge (directoryOf "directory-1" 1 samplePublication 10) 11,sampleSigning "directory-2"⟩),
    publishAt "directory-3" renamed 5]

def clockBackNetwork : Network Bool where
  files b := if b then fileOf "directory-1" 1 samplePublication 10 else fileOf "directory-3" 2 renamed 5
  documents := [directoryOf "directory-3" 2 renamed 5,directoryOf "directory-1" 1 samplePublication 10]
  published b := if b then none else some (renamed.descriptor (sampleNodes false))

theorem after_clockBack : (Network.started sampleNodes).after sampleNodes clockBack = clockBackNetwork := by
  apply Network.ext
  · funext b
    cases b <;> decide
  · decide
  · funext b
    cases b <;> decide

theorem clockBack_behind : clockBackNetwork.Behind sampleNodes (publishedAt renamed 5).rank
    (publishedAt samplePublication 10).rank where
  own := rfl
  copy := rfl
  other b := by cases b <;> rfl

theorem clockBack_not_converges : ¬ ∀ (ι : Type) [DecidableEq ι] [Finite ι] (identities : ι → GatewayPairingIdentity),
    OneWorkspace identities → ∀ history : List (ι × Call),
      (Network.started identities).Admitted identities history → ∀ exchanges : ℕ → Exchange ι,
        Network.Fair identities exchanges → Network.Converges identities
          (((Network.started identities).after identities history).exchanged identities exchanges) := by
  intro h
  have hadmitted : (Network.started sampleNodes).Admitted sampleNodes clockBack := by
    refine ⟨trivial,sampleSigning_signs_nodes (by decide) _,?_,sampleSigning_signs_nodes (by decide) _,trivial,
      sampleSigning_signs_nodes (by decide) _,trivial⟩
    change directoryOf "directory-1" 1 samplePublication 10 ∈ _
    decide
  have hconverges := h Bool sampleNodes sampleNodes_oneWorkspace clockBack hadmitted takingTurns takingTurns_fair
  rw [after_clockBack] at hconverges
  exact clockBack_behind.not_converges (Prod.Lex.toLex_lt_toLex.mpr (.inl (by decide))) (by decide) takingTurns
    hconverges

end Malink.Directory
