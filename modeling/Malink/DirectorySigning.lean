import Malink.DirectoryMerging

/-!
# Calls that sign concurrently

A call whose first transaction leaves the revision unsigned drafts the document, signs it outside of the file, and
commits it. A node signs one document for each revision as long as no commit finds a signed one.
-/

namespace Malink.Directory

open Json (canonicalJson)

open Option

/-- Where a call that has to sign stands. -/
inductive Phase
  | drafting (now : ℤ) (attempt : ℕ)
  | signing (draft : Draft) (now : ℤ) (attempt : ℕ)

/-- The file and the calls that are about to sign, with the documents that this node has signed and stored
and those that calls have returned. -/
structure Calls where
  file : WorkspaceDirectoryState
  pending : InsertionMap ℕ Phase
  own : List SignedWorkspaceGatewayDirectory
  returned : List SignedWorkspaceGatewayDirectory

inductive Action
  | start (id : ℕ) (operation : Operation)
  | draft (id : ℕ)
  | commit (id : ℕ) (directoryId : JsString) (value : WorkspaceGatewayDirectory → JsString)

namespace Calls

variable (identity : GatewayPairingIdentity)

def started : Calls := ⟨initialState identity.workspaceId,.empty,[],[]⟩

/-- `verifyStored`: a document that fails the verification is thrown away. -/
def verifyStored (s : Calls) (signed : SignedWorkspaceGatewayDirectory) : Calls :=
  match verifyWorkspaceGatewayDirectory identity signed with
  | .ok _ => { s with returned := signed :: s.returned }
  | .error _ => s

def finish (s : Calls) (id : ℕ) : Calls := { s with pending := s.pending.delete id }

def startCall (s : Calls) (id : ℕ) (operation : Operation) : Calls :=
  match operation.transact identity s.file with
  | .error _ => s
  | .ok (.done,file) => { s with file }
  | .ok (.document signed,file) => { s with file }.verifyStored identity signed
  | .ok (.unsigned,file) => { s with file, pending := s.pending.set id (.drafting operation.now 0) }

/-- The draft transaction of `signCurrent` ends as a load does. -/
def draftCall (s : Calls) (id : ℕ) (now : ℤ) (attempt : ℕ) : Calls :=
  match load identity s.file with
  | .error _ => s.finish id
  | .ok (.document signed,_) => (s.finish id).verifyStored identity signed
  | .ok (_,_) => { s with pending := s.pending.set id (.signing (draftOf identity s.file) now attempt) }

def commitCall (s : Calls) (id : ℕ) (draft : Draft) (now : ℤ) (attempt : ℕ) (directoryId : JsString)
    (value : WorkspaceGatewayDirectory → JsString) : Calls :=
  match draft.sign identity directoryId value now with
  | .error _ => s.finish id
  | .ok signed =>
    match commit identity draft signed s.file with
    | .error _ => s.finish id
    | .ok (some committed,file) =>
      { s.finish id with file, own := committed :: s.own }.verifyStored identity committed
    | .ok (none,_) =>
      if attempt + 1 < 5 then { s with pending := s.pending.set id (.drafting now (attempt + 1)) }
      else s.finish id

def step (s : Calls) : Action → Option Calls
  | .start id operation => if s.pending.has id then none else some (s.startCall identity id operation)
  | .draft id =>
    match s.pending.get id with
    | some (.drafting now attempt) => some (s.draftCall identity id now attempt)
    | _ => none
  | .commit id directoryId value =>
    match s.pending.get id with
    | some (.signing draft now attempt) => some (s.commitCall identity id draft now attempt directoryId value)
    | _ => none

def run (s : Calls) : List Action → Option Calls
  | [] => some s
  | action :: actions => (s.step identity action).bind fun s' => s'.run actions

/-- Whether a commit finds a signed document of the revision that it was drafted for. -/
def overwrites (s : Calls) : Action → Bool
  | .commit id _ _ =>
    match s.pending.get id with
    | some (.signing draft _ _) => decide (s.file.revision = draft.revision) && s.file.currentSigned.isSome
    | _ => false
  | _ => false

/-- A run in which every commit finds its revision unsigned. -/
def SignsUnsigned (s : Calls) : List Action → Prop
  | [] => True
  | action :: actions => s.overwrites action = false ∧
      ∀ s' ∈ s.step identity action, SignsUnsigned s' actions

/-- Returned documents of one revision that this node has signed are identical. -/
def OneDocument (s : Calls) : Prop :=
  ∀ d ∈ s.returned, ∀ e ∈ s.returned, d ∈ s.own → e ∈ s.own →
    d.directory.revision = e.directory.revision → d = e

/-- The revision does not decrease, and a stored document of the current revision stays while the revision
does. -/
def Advances (file file' : WorkspaceDirectoryState) : Prop :=
  file.revision ≤ file'.revision ∧ ∀ d, file.currentSigned = some d →
    file'.revision = file.revision → file'.signed = some d

/-- The same of every state of a run, and of each of its steps. -/
def SignsOnce (s : Calls) : List Action → Prop
  | [] => s.OneDocument
  | action :: actions => s.OneDocument ∧
      ∀ s' ∈ s.step identity action, Advances s.file s'.file ∧ SignsOnce s' actions

end Calls

variable {identity : GatewayPairingIdentity} {state state' : WorkspaceDirectoryState} {answer : Answer}

theorem answer_document {d : SignedWorkspaceGatewayDirectory} (h : state.answer = .document d) :
    state.signed = some d := by
  unfold WorkspaceDirectoryState.answer at h
  split at h
  · next signed hsigned =>
    cases h
    exact (Option.filter_eq_some_iff.mp hsigned).1
  · cases h

theorem Promotion.moveSource_eq_ok {p : Promotion} {source : JsString} {now : ℤ}
    (h : p.moveSource identity source now state = .ok state') :
    state'.clientMatrixUserId = state.clientMatrixUserId ∧ ((state'.gateways = state.gateways.delete source ∧
        state'.removedGatewayNodeIds = sortIds (state.removedGatewayNodeIds ++ [source]).dedup) ∨
      (∃ kept : WorkspaceGatewayDescriptor,kept.routes = p.retained identity ∧
        state.gateways.has source ∧ state'.gateways = state.gateways.set source kept ∧
        state'.removedGatewayNodeIds = sortIds (state.removedGatewayNodeIds.filter (· ≠ source)))) := by
  unfold Promotion.moveSource at h
  split at h
  · cases h
    exact ⟨rfl,.inl ⟨rfl,rfl⟩⟩
  · split at h
    · cases h
    · next own hget =>
      simp only at h
      split at h
      · cases h
      · cases h
        exact ⟨rfl,.inr ⟨_,rfl,InsertionMap.has_iff.mpr ⟨own,hget⟩,rfl,rfl⟩⟩

/-- What a transaction may do to the file. -/
structure Transacts (state : WorkspaceDirectoryState) (answer : Answer) (state' : WorkspaceDirectoryState) : Prop where
  removed : state.removedGatewayNodeIds ⊆ state'.removedGatewayNodeIds
  matrixUserId : ∀ userId, state.clientMatrixUserId = some userId → state'.clientMatrixUserId = some userId
  returned : ∀ d, answer = .document d → state'.signed = some d
  changes : state' = state ∨ (state.signed = none ∧ ∃ d,d.directory.revision = state.revision ∧
    state' = { state with signed := some d }) ∨ (state.revision < state'.revision ∧ state'.UpToDate)

variable {operation : Operation}

theorem transacts (heq : operation.transact identity state = .ok (answer,state')) : Transacts state answer state' := by
  have hremoved := List.Subset.refl state.removedGatewayNodeIds
  have kept : Transacts state state.answer state := ⟨hremoved,fun _ h => h,fun _ => answer_document,.inl rfl⟩
  have unsigned : ∀ {s : WorkspaceDirectoryState},state.removedGatewayNodeIds ⊆ s.removedGatewayNodeIds →
      (∀ userId,state.clientMatrixUserId = some userId → s.clientMatrixUserId = some userId) →
      state.revision < s.revision → s.signed = none → Transacts state .unsigned s := by
    intro s hremoved huser hlt hnone
    refine ⟨hremoved,huser,nofun,.inr (.inr ⟨hlt,fun d hd => ?_⟩)⟩
    rw [hnone] at hd
    cases hd
  have added : ∀ other,state.removedGatewayNodeIds ⊆ sortIds (state.removedGatewayNodeIds ++ [other]).dedup := by
    intro other id hid
    rw [(sortIds_perm _).mem_iff,List.mem_dedup]
    exact List.mem_append_left _ hid
  have hlt := Nat.lt_succ_self state.revision
  cases operation with
  | setClientMatrixUserId userId =>
    obtain ⟨-,rfl,rfl | ⟨hnone,normalized,-,rfl⟩⟩ := setClientMatrixUserId_eq_ok heq
    · exact ⟨hremoved,fun _ h => h,nofun,.inl rfl⟩
    · refine ⟨hremoved,fun userId huser => ?_,nofun,.inr (.inr ⟨hlt,nofun⟩)⟩
      rw [hnone] at huser
      cases huser
  | publishLocal publication now =>
    obtain ⟨-,-,⟨-,rfl,rfl⟩ | ⟨-,rfl,rfl⟩⟩ := publishLocal_eq_ok heq
    · exact unsigned hremoved (fun _ h => h) hlt rfl
    · exact kept
  | merge signed now =>
    obtain ⟨-,-,-,-,⟨own,hown,-,-,rfl,rfl⟩ | ⟨hrevision,-,hsame⟩ | ⟨-,hunion⟩⟩ := merge_eq_ok heq
    · exact ⟨hremoved,fun _ h => h,fun d hd => by cases hd; exact hown,.inl rfl⟩
    · unfold mergeSame at hsame
      split at hsame
      · next hnone =>
        cases hsame
        exact ⟨hremoved,fun _ h => h,fun d hd => by cases hd; rfl,.inr (.inl ⟨hnone,signed,hrevision,rfl⟩)⟩
      · next own hown =>
        split at hsame <;> cases hsame
        · exact ⟨hremoved,fun _ h => h,fun d hd => by cases hd; exact hown,.inl rfl⟩
        · exact unsigned hremoved (fun _ h => h) hlt rfl
    · have hmem : state.removedGatewayNodeIds ⊆ sortIds (unionRemoved state signed.directory) :=
        fun id hid => (sortIds_perm _).mem_iff.mpr (mem_unionRemoved.mpr (.inl hid))
      have huser : ∀ userId,state.clientMatrixUserId = some userId →
          unionMatrixUserId state signed.directory = some userId := by
        intro userId huser
        rw [unionMatrixUserId,huser,some_or]
      simp only [mergeUnion] at hunion
      split at hunion
      · next hcontains =>
        cases hunion
        refine ⟨hmem,huser,fun d hd => by cases hd; rfl,.inr (.inr ⟨hcontains.2,fun d hd => ?_⟩)⟩
        exact some.inj hd ▸ rfl
      · cases hunion
        exact unsigned hmem huser (Nat.lt_succ_of_le (le_max_left _ _)) rfl
  | remove gatewayNodeId expected now =>
    obtain ⟨-,-,⟨-,rfl,rfl⟩ | ⟨-,-,rfl,rfl⟩⟩ := remove_eq_ok heq
    · exact kept
    · exact unsigned (added gatewayNodeId) (fun _ h => h) hlt rfl
  | promoteLocalOwnership source promotion now =>
    obtain ⟨hvalid,-,own,-,-,⟨rfl,rfl⟩ | ⟨moved,hmoved,-,rfl,-,rfl⟩⟩ := promoteLocalOwnership_eq_ok heq
    · exact kept
    · obtain ⟨huser,⟨-,hm⟩ | ⟨_,-,hhas,-,hm⟩⟩ := Promotion.moveSource_eq_ok hmoved
      · exact unsigned (hm ▸ added source) (fun _ h => huser.trans h) hlt rfl
      · refine unsigned (fun id hid => ?_) (fun _ h => huser.trans h) hlt rfl
        -- a source that keeps routes is listed, so it is not one of the removed nodes
        obtain ⟨g,hg⟩ := InsertionMap.has_iff.mp hhas
        have hnot := ((validateState_eq_ok.mp hvalid).listed source g hg).not_removed
        rw [hm,(sortIds_perm _).mem_iff,List.mem_filter,decide_eq_true_eq]
        exact ⟨hid,fun heq => hnot (heq ▸ hid)⟩
  | load now =>
    obtain ⟨-,rfl,rfl⟩ := load_eq_ok heq
    exact kept

namespace Calls

theorem Advances.refl (h : state.UpToDate) : Advances state state :=
  ⟨le_rfl,fun _ hd _ => h.currentSigned ▸ hd⟩

/-- A transaction either leaves the revision and the document as they are, or stores a document where there
was none, or takes a higher revision. -/
theorem advances_transact (h : state.UpToDate) (heq : operation.transact identity state = .ok (answer,state')) :
    Advances state state' ∧ state'.UpToDate := by
  obtain rfl | ⟨hnone,d,hrevision,rfl⟩ | ⟨hlt,hcurrent⟩ := (transacts heq).changes
  · exact ⟨.refl h,h⟩
  · refine ⟨⟨le_rfl,fun d hd => ?_⟩,fun d hd => some.inj hd ▸ hrevision⟩
    rw [h.currentSigned,hnone] at hd
    cases hd
  · exact ⟨⟨hlt.le,fun _ _ heq => absurd heq hlt.ne'⟩,hcurrent⟩

/-- The documents that this node has signed are of the past, or the stored one. -/
structure Sound (s : Calls) : Prop where
  upToDate : s.file.UpToDate
  bounded : ∀ d ∈ s.own, d.directory.revision ≤ s.file.revision
  stored : ∀ d ∈ s.own, d.directory.revision = s.file.revision → s.file.signed = some d
  unique : ∀ d ∈ s.own, ∀ e ∈ s.own, d.directory.revision = e.directory.revision → d = e

variable {s s' : Calls}

theorem sound_started : (started identity).Sound where
  upToDate d hd := by cases hd
  bounded d hd := by cases hd
  stored d hd := by cases hd
  unique d hd := by cases hd

theorem Sound.oneDocument (h : s.Sound) : s.OneDocument :=
  fun d _ e _ hd he heq => h.unique d hd e he heq

theorem Sound.advance (h : s.Sound) (ha : Advances s.file s'.file) (hcurrent : s'.file.UpToDate)
    (hown : s'.own = s.own) : s'.Sound where
  upToDate := hcurrent
  bounded d hd := (h.bounded d (hown ▸ hd)).trans ha.1
  stored d hd heq := by
    rw [hown] at hd
    have hle := h.bounded d hd
    have hsame : s'.file.revision = s.file.revision := le_antisymm (heq ▸ hle) ha.1
    refine ha.2 d ?_ hsame
    rw [h.upToDate.currentSigned]
    exact h.stored d hd (heq.trans hsame)
  unique := hown ▸ h.unique

def Waits (s : Calls) (draft : Draft) : Prop := ∃ id now attempt, s.pending.get id = some (.signing draft now attempt)

variable {id : ℕ} {draft : Draft}

theorem Waits.of_finish : (s.finish id).Waits draft → s.Waits draft := by
  rintro ⟨other,now,attempt,hget⟩
  rw [finish,InsertionMap.get_delete] at hget
  split at hget
  · cases hget
  · exact ⟨other,now,attempt,hget⟩

theorem Waits.of_set {phase : Phase} (hpending : s'.pending = s.pending.set id phase) (h : s'.Waits draft) :
    s.Waits draft ∨ ∃ now attempt, phase = .signing draft now attempt := by
  obtain ⟨other,now,attempt,hget⟩ := h
  rw [hpending,InsertionMap.get_set] at hget
  split at hget
  · exact .inr ⟨now,attempt,some.inj hget⟩
  · exact .inl ⟨other,now,attempt,hget⟩

theorem Waits.of_drafting {now : ℤ} {attempt : ℕ} (hpending : s'.pending = s.pending.set id (.drafting now attempt))
    (h : s'.Waits draft) : s.Waits draft := by
  obtain h | ⟨_,_,hphase⟩ := h.of_set hpending
  · exact h
  · cases hphase

theorem verifyStored_eq (signed : SignedWorkspaceGatewayDirectory) :
    ∃ returned, s.verifyStored identity signed = { s with returned } := by
  unfold verifyStored
  split
  · exact ⟨_,rfl⟩
  · exact ⟨s.returned,rfl⟩

variable {action : Action}

/-- What a step may do: a transaction, a draft, or a commit of a draft whose revision is the current one. -/
theorem step_cases (hs : s.step identity action = some s') :
    (∃ operation answer,Operation.transact identity operation s.file = .ok (answer,s'.file) ∧ s'.own = s.own ∧
        ∀ draft,s'.Waits draft → s.Waits draft) ∨
      (s'.file = s.file ∧ s'.own = s.own ∧ ∀ draft,s'.Waits draft → s.Waits draft ∨ draft = draftOf identity s.file) ∨
      ∃ id directoryId value draft now attempt committed, action = .commit id directoryId value ∧
        s.pending.get id = some (.signing draft now attempt) ∧ s.file.revision = draft.revision ∧
        committed.directory = draft.directory identity directoryId now ∧
        s'.file = { s.file with signed := some committed } ∧ s'.own = committed :: s.own ∧
        ∀ draft, s'.Waits draft → s.Waits draft := by
  cases action with
  | start id operation =>
    simp only [step] at hs
    split at hs <;> cases hs
    unfold startCall
    split
    · exact .inr (.inl ⟨rfl,rfl,fun _ => .inl⟩)
    · next heq => exact .inl ⟨operation,_,heq,rfl,fun _ hd => hd⟩
    · next signed file heq =>
      obtain ⟨_,hverify⟩ := @verifyStored_eq identity { s with file } signed
      rw [hverify]
      exact .inl ⟨operation,_,heq,rfl,fun _ hd => hd⟩
    · next heq => exact .inl ⟨operation,_,heq,rfl,fun _ => .of_drafting rfl⟩
  | draft id =>
    simp only [step] at hs
    split at hs <;> cases hs
    unfold draftCall
    refine .inr (.inl ?_)
    split
    · exact ⟨rfl,rfl,fun _ hd => .inl hd.of_finish⟩
    · next signed _ _ =>
      obtain ⟨_,hverify⟩ := @verifyStored_eq identity (s.finish id) signed
      rw [hverify]
      exact ⟨rfl,rfl,fun _ hd => .inl (Waits.of_finish hd)⟩
    · refine ⟨rfl,rfl,fun draft hd => ?_⟩
      obtain hd | ⟨_,_,hphase⟩ := hd.of_set rfl
      · exact .inl hd
      · cases hphase
        exact .inr rfl
  | commit id directoryId value =>
    simp only [step] at hs
    split at hs <;> cases hs
    next draft now attempt hget =>
    unfold commitCall
    split
    · exact .inr (.inl ⟨rfl,rfl,fun _ hd => .inl hd.of_finish⟩)
    · next signed hsign =>
      obtain ⟨-,hsigned⟩ := sign_eq_ok hsign
      split
      · exact .inr (.inl ⟨rfl,rfl,fun _ hd => .inl hd.of_finish⟩)
      · next committed file hcommit =>
        obtain ⟨-,⟨-,hnone,-⟩ | ⟨hrevision,hsome,rfl⟩⟩ := commit_eq_ok hcommit
        · cases hnone
        obtain rfl := some.inj hsome
        obtain ⟨_,hverify⟩ := @verifyStored_eq identity _ committed
        rw [hverify]
        exact .inr (.inr ⟨id,directoryId,value,draft,now,attempt,committed,rfl,hget,hrevision,
          congrArg SignedWorkspaceGatewayDirectory.directory hsigned,rfl,rfl,fun _ hd => Waits.of_finish hd⟩)
      · refine .inr (.inl ?_)
        split
        · exact ⟨rfl,rfl,fun _ hd => .inl (hd.of_drafting rfl)⟩
        · exact ⟨rfl,rfl,fun _ hd => .inl hd.of_finish⟩

/-- A commit that finds its revision unsigned stores the only document of the revision. -/
theorem Sound.step (h : s.Sound) (hs : s.step identity action = some s') (hunsigned : s.overwrites action = false) :
    Advances s.file s'.file ∧ s'.Sound := by
  obtain ⟨operation,answer,heq,hown,-⟩ | ⟨hfile,hown,-⟩ |
    ⟨id,directoryId,value,draft,now,attempt,committed,rfl,hget,hrevision,hdirectory,hfile,hown,-⟩ :=
    step_cases hs
  · obtain ⟨ha,hcurrent⟩ := advances_transact h.upToDate heq
    exact ⟨ha,h.advance ha hcurrent hown⟩
  · have ha : Advances s.file s'.file := hfile.symm ▸ .refl h.upToDate
    exact ⟨ha,h.advance ha (hfile ▸ h.upToDate) hown⟩
  · simp only [overwrites,hget,hrevision,decide_true,Bool.true_and] at hunsigned
    have hnone := not_isSome_iff_eq_none.mp (Bool.not_eq_true _ ▸ hunsigned)
    have hfresh : committed.directory.revision = s.file.revision := by
      rw [hdirectory,hrevision]
      rfl
    have hother : ∀ d ∈ s.own,d.directory.revision ≠ s.file.revision := by
      intro d hd heq
      rw [h.upToDate.currentSigned,h.stored d hd heq] at hnone
      cases hnone
    constructor
    · refine ⟨by rw [hfile],fun d hd => ?_⟩
      rw [hnone] at hd
      cases hd
    refine ⟨?_,fun d hd => ?_,fun d hd heq => ?_,fun d hd e he heq => ?_⟩
    · rw [hfile]
      intro d hd
      exact some.inj hd ▸ hfresh
    · rw [hfile]
      rcases List.mem_cons.mp (hown ▸ hd) with rfl | hd
      · exact hfresh.le
      · exact h.bounded d hd
    · rw [hfile] at heq ⊢
      rcases List.mem_cons.mp (hown ▸ hd) with rfl | hd
      · rfl
      · exact absurd heq (hother d hd)
    · rcases List.mem_cons.mp (hown ▸ hd) with rfl | hold
      · rcases List.mem_cons.mp (hown ▸ he) with rfl | hold
        · rfl
        · exact absurd (heq.symm.trans hfresh) (hother e hold)
      · rcases List.mem_cons.mp (hown ▸ he) with rfl | hold'
        · exact absurd (heq.trans hfresh) (hother d hold)
        · exact h.unique d hold e hold' heq

variable {actions : List Action}

theorem Sound.signsOnce (h : s.Sound) (hunsigned : s.SignsUnsigned identity actions) :
    s.SignsOnce identity actions := by
  induction actions generalizing s with
  | nil => exact h.oneDocument
  | cons action actions ih =>
    refine ⟨h.oneDocument,fun s' hs => ?_⟩
    obtain ⟨ha,hs'⟩ := h.step hs hunsigned.1
    exact ⟨ha,ih hs' (hunsigned.2 s' hs)⟩

/-- In every interleaving whose commits find their revision unsigned, a node signs one document for each
revision, the revision never decreases, and the stored document of the current revision stays. -/
theorem signsOnce_of_signsUnsigned (identity : GatewayPairingIdentity) (actions : List Action)
    (h : (started identity).SignsUnsigned identity actions) : (started identity).SignsOnce identity actions :=
  sound_started.signsOnce h

theorem SignsOnce.last (h : s.SignsOnce identity actions) (hrun : s.run identity actions = some s') :
    s'.OneDocument := by
  induction actions generalizing s with
  | nil => exact some.inj hrun ▸ h
  | cons action actions ih =>
    obtain ⟨t,ht,hrun⟩ := bind_eq_some_iff.mp hrun
    exact ih (h.2 t ht).2 hrun

end Calls

def sampleKeyId : JsString := "AAAAAAAAAAAAAAAAAAAAAAAAAAAAAAAAAAAAAAAAAAA"

def sampleSignature : JsString := "c2lnbmF0dXJl"

def sampleIdentity : GatewayPairingIdentity where
  workspaceId := "workspace-1"
  keyId := sampleKeyId
  verifyGrant _ _ := true
  verifyRevocation _ _ := true
  signGrant _ := sampleSignature
  signRevocation _ := sampleSignature
  localeCompare a b := if a = b then 0 else if a ≤ b then -1 else 1
  gatewayNodeId := "node-1"
  publicKey := ⟨sampleKeyId,sampleKeyId,sampleKeyId,true,true,false⟩
  verifyDirectory _ value := value = sampleSignature
  isUrl _ := true

def sampleDocument (directoryId : JsString) : SignedWorkspaceGatewayDirectory :=
  ⟨(draftOf sampleIdentity (initialState "workspace-1")).directory sampleIdentity directoryId 1,
    ⟨sampleKeyId,sampleSignature⟩⟩

def sampleTransport : Workspace.MatrixTransportBinding :=
  ⟨"https://matrix","!control","@gateway:matrix","DEVICE","0123456789abcdef"⟩

def samplePublication : LocalPublication :=
  ⟨"Gateway",sampleTransport,[⟨"project-1","!room-1","conversation-1"⟩],none,none,false⟩

def secondGateway : SignedWorkspaceGatewayDirectory :=
  ⟨⟨"directory-4","workspace-1",none,5,
      [⟨⟨"node-2","workspace-1","Gateway",none,none,false,sampleTransport,sampleIdentity.publicKey,
        some [⟨"project-2","!room-2","conversation-2"⟩]⟩,1⟩],none,2⟩,⟨sampleKeyId,sampleSignature⟩⟩

/-- A load drafts before the publication is signed, and commits after the merge has changed the revision. -/
def manyCalls : List Action :=
  [.start 0 (.publishLocal samplePublication 1),.start 1 (.load 1),.draft 1,.draft 0,
    .commit 0 "directory-1" (fun _ => sampleSignature),.start 2 (.merge secondGateway 2),
    .commit 1 "directory-2" (fun _ => sampleSignature),.draft 1,
    .commit 1 "directory-2" (fun _ => sampleSignature),.draft 2,.start 3 (.remove "node-2" none 3),.draft 3,
    .commit 3 "directory-3" (fun _ => sampleSignature)]

/-- Both loads draft before either commits. -/
def twoLoads : List Action :=
  [.start 0 (.load 1),.start 1 (.load 1),.draft 0,.draft 1,
    .commit 0 "directory-1" (fun _ => sampleSignature),.commit 1 "directory-2" (fun _ => sampleSignature)]

namespace Calls

instance decidableSignsUnsigned (identity : GatewayPairingIdentity) : (s : Calls) →
    (actions : List Action) → Decidable (s.SignsUnsigned identity actions)
  | _, [] => isTrue trivial
  | s, action :: actions =>
    have : ∀ s',Decidable (SignsUnsigned identity s' actions) :=
      fun s' => decidableSignsUnsigned identity s' actions
    inferInstanceAs (Decidable (s.overwrites action = false ∧
      ∀ s' ∈ s.step identity action,SignsUnsigned identity s' actions))

set_option maxRecDepth 100000 in
theorem signsOnce_of_signsUnsigned_manyCalls : (started sampleIdentity).SignsOnce sampleIdentity manyCalls :=
  signsOnce_of_signsUnsigned sampleIdentity manyCalls (by decide)

set_option maxRecDepth 100000 in
theorem twoLoads_not_signsOnce : ¬ ∀ (identity : GatewayPairingIdentity) (actions : List Action),
    (started identity).SignsOnce identity actions := by
  intro h
  have hdocuments : ((started sampleIdentity).run sampleIdentity twoLoads).map
      (fun s => (s.returned,s.own)) = some ([sampleDocument "directory-2",sampleDocument "directory-1"],
        [sampleDocument "directory-2",sampleDocument "directory-1"]) := by decide
  obtain ⟨s,hs,heq⟩ := map_eq_some_iff.mp hdocuments
  obtain ⟨hreturned,hown⟩ := Prod.mk.inj heq
  have hone := (h sampleIdentity twoLoads).last hs
  rw [OneDocument,hreturned,hown] at hone
  have hsame := hone _ List.mem_cons_self _ (List.mem_cons_of_mem _ List.mem_cons_self) List.mem_cons_self
    (List.mem_cons_of_mem _ List.mem_cons_self) (by decide)
  exact absurd hsame (by decide)

end Calls

end Malink.Directory
