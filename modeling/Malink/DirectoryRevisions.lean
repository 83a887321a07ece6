import Malink.DirectorySigning

/-!
# What a revision stands for

A call that changes what the directory says takes a higher revision, and none takes a removed node back. A
draft that is committed is therefore a draft of the directory as it stands.
-/

namespace Malink.Directory

variable {identity : GatewayPairingIdentity} {state state' state'' : WorkspaceDirectoryState} {answer : Answer}

/-- What the file says later on. -/
structure Follows (identity : GatewayPairingIdentity) (state state' : WorkspaceDirectoryState) : Prop where
  removed : state.removedGatewayNodeIds ⊆ state'.removedGatewayNodeIds
  revision : state.revision ≤ state'.revision
  content : state'.revision = state.revision → draftOf identity state' = draftOf identity state

theorem Follows.refl : Follows identity state state := ⟨List.Subset.refl _,le_rfl,fun _ => rfl⟩

theorem Follows.trans (h : Follows identity state state') (h' : Follows identity state' state'') :
    Follows identity state state'' where
  removed := List.Subset.trans h.removed h'.removed
  revision := h.revision.trans h'.revision
  content heq := by
    have hle := h.revision
    have hle' := h'.revision
    exact (h'.content (by omega)).trans (h.content (by omega))

theorem follows_transact {operation : Operation}
    (heq : operation.transact identity state = .ok (answer,state')) : Follows identity state state' := by
  obtain ⟨hremoved,-,-,rfl | ⟨-,d,-,rfl⟩ | ⟨hlt,-⟩⟩ := transacts heq
  · exact .refl
  · exact ⟨hremoved,le_rfl,fun _ => rfl⟩
  · exact ⟨hremoved,hlt.le,fun h => absurd h hlt.ne'⟩

namespace Calls

variable {s s' : Calls} {actions : List Action} {action : Action}

theorem follows_step (hs : s.step identity action = some s') : Follows identity s.file s'.file := by
  obtain ⟨_,_,heq,-⟩ | ⟨hfile,-⟩ | ⟨_,_,_,_,_,_,_,-,-,-,-,hfile,-⟩ := step_cases hs
  · exact follows_transact heq
  · exact hfile ▸ .refl
  · exact hfile ▸ ⟨List.Subset.refl _,le_rfl,fun _ => rfl⟩

/-- In every interleaving of calls the removed nodes stay removed, and a revision stands for one content. -/
theorem follows_run (hs : s.run identity actions = some s') : Follows identity s.file s'.file := by
  induction actions generalizing s with
  | nil => exact Option.some.inj hs ▸ .refl
  | cons action actions ih =>
    obtain ⟨t,ht,hs⟩ := Option.bind_eq_some_iff.mp hs
    exact (follows_step ht).trans (ih hs)

/-- A document whose revision is the current one says what the directory says. -/
structure Stands (identity : GatewayPairingIdentity) (file : WorkspaceDirectoryState) (d : WorkspaceGatewayDirectory) :
    Prop where
  revision : d.revision ≤ file.revision
  content : d.revision = file.revision → d = (draftOf identity file).directory identity d.directoryId d.issuedAt

theorem Stands.follow {d : WorkspaceGatewayDirectory} (h : Stands identity state d)
    (hf : Follows identity state state') : Stands identity state' d := by
  have hd := h.revision
  have hle := hf.revision
  refine ⟨hd.trans hle,fun heq => ?_⟩
  rw [hf.content (by omega)]
  exact h.content (by omega)

structure Current (identity : GatewayPairingIdentity) (s : Calls) : Prop where
  drafts : ∀ draft, s.Waits draft → ∀ directoryId now, Stands identity s.file (draft.directory identity directoryId now)
  own : ∀ d ∈ s.own, Stands identity s.file d.directory

theorem Current.step (h : s.Current identity) (hs : s.step identity action = some s') : s'.Current identity := by
  have hf := follows_step hs
  obtain ⟨_,_,-,hown,hwaits⟩ | ⟨hfile,hown,hwaits⟩ |
    ⟨_,_,_,draft,_,_,committed,-,hget,-,hdirectory,-,hown,hwaits⟩ := step_cases hs
  · exact ⟨fun draft hd id now => (h.drafts draft (hwaits draft hd) id now).follow hf,
      fun d hd => (h.own d (hown ▸ hd)).follow hf⟩
  · refine ⟨fun draft hd id now => ?_,fun d hd => (h.own d (hown ▸ hd)).follow hf⟩
    rcases hwaits draft hd with hold | rfl
    · exact (h.drafts draft hold id now).follow hf
    · exact hfile ▸ ⟨le_rfl,fun _ => rfl⟩
  · refine ⟨fun draft hd id now => (h.drafts draft (hwaits draft hd) id now).follow hf,fun d hd => ?_⟩
    rcases List.mem_cons.mp (hown ▸ hd) with rfl | hold
    · rw [hdirectory]
      exact (h.drafts draft ⟨_,_,_,hget⟩ _ _).follow hf
    · exact (h.own d hold).follow hf

theorem Current.run (h : s.Current identity) (hs : s.run identity actions = some s') : s'.Current identity := by
  induction actions generalizing s with
  | nil => exact Option.some.inj hs ▸ h
  | cons action actions ih =>
    obtain ⟨t,ht,hs⟩ := Option.bind_eq_some_iff.mp hs
    exact ih (h.step ht) hs

/-- In every interleaving a document that this node signed and stored says what the directory says, until that takes
another revision. -/
theorem own_stands (h : (started identity).run identity actions = some s) {d : SignedWorkspaceGatewayDirectory}
    (hd : d ∈ s.own) : Stands identity s.file d.directory := by
  have hstarted : (started identity).Current identity := ⟨fun _ ⟨_,_,_,h⟩ => (by cases h),fun _ h => by cases h⟩
  exact (hstarted.run h).own d hd

set_option maxRecDepth 100000

theorem manyCalls_run : ((started sampleIdentity).run sampleIdentity manyCalls).isSome := by decide

def manyCallsEnd : Calls := ((started sampleIdentity).run sampleIdentity manyCalls).get manyCalls_run

theorem follows_run_manyCalls : Follows sampleIdentity (started sampleIdentity).file manyCallsEnd.file :=
  follows_run (Option.some_get manyCalls_run).symm

/-- A publication, the merge of a second Gateway and its removal have been signed. -/
theorem own_stands_manyCalls : manyCallsEnd.own.map (·.directory.revision) = [7,6,1] ∧
    ∀ d ∈ manyCallsEnd.own, Stands sampleIdentity manyCallsEnd.file d.directory :=
  ⟨by decide,fun _ => own_stands (Option.some_get manyCalls_run).symm⟩

end Calls

end Malink.Directory
