import Malink.ProjectionApply
import Mathlib.Data.List.MinMax
import Mathlib.Data.List.TakeWhile

/-!
# Workspace snapshots

The workspace is made of the snapshots that a client was told of. One of a greater version takes the place of the
workspace, but any other still replaces some of its fields.
-/

namespace Malink.Client

open Mlp3 List

structure SnapshotEvent where
  event : Event
  snapshot : WorkspaceSnapshot
  payload_eq : event.payload = .workspaceSnapshot snapshot
  physicalEventId : JsString
  threadRootHint : Option JsString

namespace Projection

/-- One call of `applyEvent`. A call that throws leaves the projection as it was. -/
def receive (host : Host) (p : Projection) (e : SnapshotEvent) : Projection :=
  match p.applyEvent host e.event e.physicalEventId e.threadRootHint with
  | .ok (p',_) => p'
  | .error _ => p

def receiveAll (host : Host) (events : List SnapshotEvent) : Projection := events.foldl (receive host) .empty

end Projection

/-- The fields of the workspace are those of the snapshot. -/
structure Shows (host : Host) (s : WorkspaceSnapshot) (w : WorkspaceProjection) : Prop where
  snapshotVersion : w.snapshotVersion = s.snapshotVersion
  gatewayKeyId : w.gatewayKeyId = s.gatewayKeyId
  capabilities : w.capabilities = s.capabilities
  clientReleases : (Projection.mergeNativeClientReleases host [] (s.clientReleases.getD [])).map Prod.fst =
    .ok w.clientReleases
  gatewayDirectory : w.gatewayDirectory = s.gatewayDirectory
  pendingGatewayEnrollments : w.pendingGatewayEnrollments = s.pendingGatewayEnrollments.getD []
  gatewayUpdate : w.gatewayUpdate = s.gatewayUpdate

/-- The workspace is that of a snapshot of the greatest version among the received ones. -/
def ShowsGreatest (host : Host) (events : List SnapshotEvent) (p : Projection) : Prop :=
  events = [] ∨ ∃ e ∈ events, (∀ e' ∈ events,e'.snapshot.snapshotVersion ≤ e.snapshot.snapshotVersion) ∧
    ∃ w, p.workspace = some w ∧ Shows host e.snapshot w

/-- The snapshots that did not throw, in the order in which they came, and the releases that they brought. -/
structure Received where
  snapshots : List WorkspaceSnapshot
  releases : List NativeClientRelease

variable {s : WorkspaceSnapshot}

namespace Received

def next (host : Host) (r : Received) (s : WorkspaceSnapshot) : Received :=
  match Projection.mergeNativeClientReleases host r.releases (s.clientReleases.getD []) with
  | .ok (releases,_) => ⟨r.snapshots ++ [s],releases⟩
  | .error _ => r

def all (host : Host) (snapshots : List WorkspaceSnapshot) : Received := snapshots.foldl (next host) ⟨[],[]⟩

/-- The snapshots from the first one of the greatest version on. -/
def sinceGreatest (r : Received) : List WorkspaceSnapshot :=
  r.snapshots.dropWhile (fun s => r.snapshots.any (fun t => s.snapshotVersion < t.snapshotVersion))

theorem releases_next {host : Host} {r : Received} (h : r.snapshots = [] → r.releases = []) :
    (r.next host s).snapshots = [] → (r.next host s).releases = [] := by
  rw [next]
  split
  · intro hnil
    cases append_eq_nil_iff.mp hnil |>.2
  · exact h

/-- The version, the key and the capabilities of the first snapshot of the greatest version, the last
directory since then, the enrollments of the last snapshot and the last update status of all. -/
def workspace (r : Received) : Option WorkspaceProjection :=
  r.sinceGreatest.head?.map fun first =>
    { snapshotVersion := first.snapshotVersion
      gatewayKeyId := first.gatewayKeyId
      capabilities := first.capabilities
      clientReleases := r.releases
      gatewayDirectory := r.sinceGreatest.reverse.findSome? (·.gatewayDirectory)
      pendingGatewayEnrollments := (r.snapshots.getLast?.bind (·.pendingGatewayEnrollments)).getD []
      gatewayUpdate := r.snapshots.reverse.findSome? (·.gatewayUpdate) }

variable {r : Received}

theorem head_sinceGreatest {first : WorkspaceSnapshot} (h : r.sinceGreatest.head? = some first) :
    first ∈ r.snapshots ∧ ∀ t ∈ r.snapshots, t.snapshotVersion ≤ first.snapshotVersion := by
  constructor
  · exact (dropWhile_sublist _).mem (mem_of_mem_head? h)
  · intro t ht
    have hnot := head?_dropWhile_not
      (fun s : WorkspaceSnapshot => r.snapshots.any (fun t => s.snapshotVersion < t.snapshotVersion)) r.snapshots
    rw [sinceGreatest] at h
    rw [h] at hnot
    by_contra hlt
    apply Bool.false_ne_true
    rw [← hnot,any_eq_true]
    exact ⟨t,ht,decide_eq_true (Nat.lt_of_not_le hlt)⟩

theorem sinceGreatest_ne_nil (h : r.snapshots ≠ []) : r.sinceGreatest ≠ [] := by
  intro hnil
  obtain ⟨greatest,hgreatest⟩ : ∃ greatest,r.snapshots.argmax (·.snapshotVersion) = some greatest := by
    cases hmax : r.snapshots.argmax (·.snapshotVersion) with
    | none => exact absurd (argmax_eq_none.mp hmax) h
    | some greatest => exact ⟨greatest,rfl⟩
  have hall := dropWhile_eq_nil_iff.mp hnil greatest (argmax_mem hgreatest)
  obtain ⟨t,ht,hlt⟩ := any_eq_true.mp hall
  have hle := le_of_mem_argmax ht hgreatest
  rw [decide_eq_true_eq] at hlt
  omega

/-- A greater snapshot starts again, any other one is appended. -/
theorem sinceGreatest_append (s : WorkspaceSnapshot) (releases : List NativeClientRelease) :
    (⟨r.snapshots ++ [s],releases⟩ : Received).sinceGreatest =
      if ∀ t ∈ r.snapshots, t.snapshotVersion < s.snapshotVersion then [s] else r.sinceGreatest ++ [s] := by
  have hself : ¬ s.snapshotVersion < s.snapshotVersion := Nat.lt_irrefl _
  have hlast : (r.snapshots ++ [s]).any (fun t => decide (s.snapshotVersion < t.snapshotVersion)) =
      r.snapshots.any (fun t => decide (s.snapshotVersion < t.snapshotVersion)) := by
    rw [any_append,any_cons,any_nil,decide_eq_false hself,Bool.or_false,Bool.or_false]
  by_cases hless : ∀ t ∈ r.snapshots, t.snapshotVersion < s.snapshotVersion
  · rw [if_pos hless,sinceGreatest]
    have hnone : r.snapshots.any (fun t => decide (s.snapshotVersion < t.snapshotVersion)) = false := by
      rw [any_eq_false]
      intro t ht
      have hlt := hless t ht
      rw [decide_eq_true_eq]
      omega
    rw [dropWhile_append_of_pos,dropWhile_cons_of_neg]
    · rw [hlast,hnone]
      exact Bool.false_ne_true
    · intro t ht
      rw [any_append,any_cons,decide_eq_true (hless t ht),Bool.true_or,Bool.or_true]
  · rw [if_neg hless]
    -- Some earlier snapshot is at least as great, so the new one makes no other older.
    obtain ⟨great,hgreat,hle⟩ : ∃ t ∈ r.snapshots,s.snapshotVersion ≤ t.snapshotVersion := by
      by_contra hnone
      apply hless
      intro t ht
      by_contra hle
      exact hnone ⟨t,ht,Nat.le_of_not_lt hle⟩
    have hsame : ∀ x : WorkspaceSnapshot,
      (r.snapshots ++ [s]).any (fun t => decide (x.snapshotVersion < t.snapshotVersion)) =
        r.snapshots.any (fun t => decide (x.snapshotVersion < t.snapshotVersion)) := by
      intro x
      rw [any_append,any_cons,any_nil,Bool.or_false]
      by_cases hx : x.snapshotVersion < s.snapshotVersion
      · have hany : r.snapshots.any (fun t => decide (x.snapshotVersion < t.snapshotVersion)) :=
          any_eq_true.mpr ⟨great,hgreat,decide_eq_true (Nat.lt_of_lt_of_le hx hle)⟩
        rw [hany,Bool.true_or]
      · rw [decide_eq_false hx,Bool.or_false]
    have hne : r.snapshots ≠ [] := ne_nil_of_mem hgreat
    have hkept := sinceGreatest_ne_nil hne
    rw [sinceGreatest] at hkept ⊢
    simp only [hsame]
    rw [List.dropWhile_append,if_neg (by rwa [List.isEmpty_iff])]
    rfl

theorem findSome_concat {α β : Type} (f : α → Option β) (l : List α) (a : α) :
    (l ++ [a]).reverse.findSome? f = (f a).or (l.reverse.findSome? f) := by
  rw [reverse_append,reverse_singleton,singleton_append,findSome?_cons]
  cases f a with
  | none | some => rfl

theorem workspace_eq_none (h : r.workspace = none) : r.snapshots = [] := by
  rw [workspace,Option.map_eq_none_iff,head?_eq_none_iff] at h
  by_contra hne
  exact sinceGreatest_ne_nil hne h

variable {w : WorkspaceProjection}

theorem workspace_eq_some (h : r.workspace = some w) :
    ∃ first rest, r.sinceGreatest = first :: rest ∧ (∀ t ∈ r.snapshots,t.snapshotVersion ≤ first.snapshotVersion) ∧
      first ∈ r.snapshots ∧ w =
        { snapshotVersion := first.snapshotVersion
          gatewayKeyId := first.gatewayKeyId
          capabilities := first.capabilities
          clientReleases := r.releases
          gatewayDirectory := r.sinceGreatest.reverse.findSome? (·.gatewayDirectory)
          pendingGatewayEnrollments := (r.snapshots.getLast?.bind (·.pendingGatewayEnrollments)).getD []
          gatewayUpdate := r.snapshots.reverse.findSome? (·.gatewayUpdate) } := by
  rw [workspace,Option.map_eq_some_iff] at h
  obtain ⟨first,hfirst,rfl⟩ := h
  obtain ⟨hmem,hle⟩ := head_sinceGreatest hfirst
  cases hs : r.sinceGreatest with
  | nil =>
    rw [hs] at hfirst
    cases hfirst
  | cons head rest =>
    rw [hs,head?_cons] at hfirst
    obtain rfl := Option.some.inj hfirst
    exact ⟨head,rest,rfl,hle,hmem,rfl⟩

theorem workspace_append_older (h : r.workspace = some w) (hle : s.snapshotVersion ≤ w.snapshotVersion)
    (releases : List NativeClientRelease) : (⟨r.snapshots ++ [s],releases⟩ : Received).workspace = some { w with
      clientReleases := releases
      pendingGatewayEnrollments := s.pendingGatewayEnrollments.getD []
      gatewayDirectory := s.gatewayDirectory.or w.gatewayDirectory
      gatewayUpdate := s.gatewayUpdate.or w.gatewayUpdate } := by
  obtain ⟨first,rest,hsince,-,hmem,rfl⟩ := workspace_eq_some h
  have hnot : ¬ ∀ t ∈ r.snapshots,t.snapshotVersion < s.snapshotVersion := by
    intro hall
    exact Nat.not_lt_of_le hle (hall first hmem)
  rw [workspace,sinceGreatest_append,if_neg hnot,hsince]
  simp only [findSome_concat,getLast?_concat,Option.bind_some]
  rfl

theorem workspace_append_newer (h : ∀ w,r.workspace = some w → w.snapshotVersion < s.snapshotVersion)
    (releases : List NativeClientRelease) : (⟨r.snapshots ++ [s],releases⟩ : Received).workspace = some
      { snapshotVersion := s.snapshotVersion
        gatewayKeyId := s.gatewayKeyId
        capabilities := s.capabilities
        clientReleases := releases
        gatewayDirectory := s.gatewayDirectory
        pendingGatewayEnrollments := s.pendingGatewayEnrollments.getD []
        gatewayUpdate := s.gatewayUpdate.or (r.workspace.bind (·.gatewayUpdate)) } := by
  have hall : ∀ t ∈ r.snapshots,t.snapshotVersion < s.snapshotVersion := by
    intro t ht
    cases hw : r.workspace with
    | none =>
      rw [workspace_eq_none hw] at ht
      cases ht
    | some w =>
      have hlt := h w hw
      obtain ⟨first,rest,-,hle,-,rfl⟩ := workspace_eq_some hw
      exact Nat.lt_of_le_of_lt (hle t ht) hlt
  have hupdate : r.workspace.bind (·.gatewayUpdate) = r.snapshots.reverse.findSome? (·.gatewayUpdate) := by
    cases hw : r.workspace with
    | none =>
      rw [workspace_eq_none hw]
      rfl
    | some w =>
      obtain ⟨first,rest,-,-,-,rfl⟩ := workspace_eq_some hw
      rfl
  rw [workspace,sinceGreatest_append,if_pos hall,hupdate,findSome_concat,getLast?_concat]
  simp only [head?_cons,Option.map_some,Option.bind_some,reverse_singleton,findSome?_cons,findSome?_nil]
  cases s.gatewayDirectory with
  | none | some => rfl

end Received

namespace Projection

variable (host : Host) {p : Projection}

theorem reconcileWith_fields (status : Option GatewayUpdateStatus) (projectId : Option JsString) :
    (p.reconcileWith status projectId).workspace = p.workspace ∧
      (p.reconcileWith status projectId).gatewayUpdateObservation = p.gatewayUpdateObservation := by
  cases status with
  | none => exact ⟨rfl,rfl⟩
  | some status =>
    simp only [reconcileWith,reconcileGatewayMaintenanceSession]
    split
    · exact ⟨rfl,rfl⟩
    · split
      · split
        · exact ⟨rfl,rfl⟩
        · exact ⟨rfl,rfl⟩
      · exact ⟨rfl,rfl⟩

theorem releases_of_unchanged {current incoming releases : List NativeClientRelease}
    (h : mergeNativeClientReleases host current incoming = .ok (releases,false)) : releases = current := by
  rw [mergeNativeClientReleases] at h
  cases hmerge : mergeReleases (.ofEntries (current.map fun release => (nativeClientReleaseKey release,release)))
      incoming with
  | error error =>
    rw [hmerge] at h
    cases h
  | ok merged =>
    obtain ⟨merged,changed⟩ := merged
    rw [hmerge] at h
    have hresult := Except.ok.inj h
    cases changed with
    | true => cases congrArg Prod.snd hresult
    | false => exact (congrArg Prod.fst hresult).symm

theorem receive_snapshot {e : SnapshotEvent} {r : Received} (hw : p.workspace = r.workspace)
    (hr : r.snapshots = [] → r.releases = []) (hobs : p.gatewayUpdateObservation = none) :
    (p.receive host e).workspace = (r.next host e.snapshot).workspace ∧
      (p.receive host e).gatewayUpdateObservation = none := by
  have happly : p.applyEvent host e.event e.physicalEventId e.threadRootHint =
      p.applyWorkspaceSnapshot host e.event e.snapshot := by
    rw [applyEvent,e.payload_eq]
  have hreleases : (p.workspace.map (·.clientReleases)).getD [] = r.releases := by
    rw [hw]
    cases hr' : r.workspace with
    | none => exact (hr (Received.workspace_eq_none hr')).symm
    | some w =>
      obtain ⟨first,rest,-,-,-,rfl⟩ := Received.workspace_eq_some hr'
      rfl
  rw [receive,happly,applyWorkspaceSnapshot,hreleases,Received.next]
  cases hmerge : mergeNativeClientReleases host r.releases (e.snapshot.clientReleases.getD []) with
  | error error => exact ⟨hw,hobs⟩
  | ok merged =>
    obtain ⟨releases,changed⟩ := merged
    simp only [Except.map,hobs,Option.map_none,Option.none_or,hw]
    cases hr' : r.workspace with
    | none =>
      have hnewer : ∀ w,r.workspace = some w → w.snapshotVersion < e.snapshot.snapshotVersion := by
        rw [hr']
        intro w h
        cases h
      rw [Received.workspace_append_newer hnewer,hr']
      simp only [applyWorkspaceSnapshot.replaceWorkspace,reconcileWith_fields]
      exact ⟨trivial,hobs⟩
    | some w =>
      simp only
      split
      · next hle =>
        rw [Received.workspace_append_older hr' hle]
        split
        · next hsame =>
          simp only [Bool.and_eq_true,Bool.not_eq_true',decide_eq_true_eq,Option.isNone_iff_eq_none,
            Option.bind_some] at hsame
          obtain ⟨⟨⟨hunchanged,hdirectory⟩,henrollments⟩,hupdate⟩ := hsame
          have hkept : releases = w.clientReleases := by
            rw [hw,hr'] at hreleases
            have hcurrent := releases_of_unchanged host (hunchanged ▸ hmerge)
            rw [hcurrent,← hreleases]
            rfl
          rw [hw,hr',hkept,hdirectory,henrollments,hupdate]
          exact ⟨rfl,hobs⟩
        · simp only [reconcileWith_fields,Option.bind_some,Option.or_assoc,Option.or_self]
          exact ⟨trivial,hobs⟩
      · next hle =>
        have hnewer : ∀ w,r.workspace = some w → w.snapshotVersion < e.snapshot.snapshotVersion := by
          rw [hr']
          intro w' h
          rw [← Option.some.inj h]
          exact Nat.lt_of_not_le hle
        rw [Received.workspace_append_newer hnewer,hr']
        simp only [applyWorkspaceSnapshot.replaceWorkspace,reconcileWith_fields]
        exact ⟨trivial,hobs⟩

theorem workspace_receiveAll (events : List SnapshotEvent) :
    (receiveAll host events).workspace = (Received.all host (events.map (·.snapshot))).workspace := by
  have hrun : ∀ (events : List SnapshotEvent) (p : Projection) (r : Received),p.workspace = r.workspace →
      (r.snapshots = [] → r.releases = []) → p.gatewayUpdateObservation = none →
      (events.foldl (receive host) p).workspace =
        ((events.map (·.snapshot)).foldl (Received.next host) r).workspace := by
    intro events
    induction events with
    | nil => exact fun p r hw _ _ => hw
    | cons e events ih =>
      intro p r hw hr hobs
      obtain ⟨hnext,hobs'⟩ := receive_snapshot host hw hr hobs
      exact ih _ _ hnext (Received.releases_next hr) hobs'
  exact hrun events .empty ⟨[],[]⟩ rfl (fun _ => rfl) rfl

end Projection

/-- What the received snapshots have in common with the greatest one: the first snapshot of its version that did not
throw has its key and capabilities, the last directory since then is its directory, the last snapshot has its
enrollments, the last update status of all is its own and so are the releases. -/
structure AgreesWith (host : Host) (r : Received) (s : WorkspaceSnapshot) : Prop where
  first : ∃ first, r.sinceGreatest.head? = some first ∧ first.snapshotVersion = s.snapshotVersion ∧
    first.gatewayKeyId = s.gatewayKeyId ∧ first.capabilities = s.capabilities
  directory : r.sinceGreatest.reverse.findSome? (·.gatewayDirectory) = s.gatewayDirectory
  enrollments : (r.snapshots.getLast?.bind (·.pendingGatewayEnrollments)).getD [] =
    s.pendingGatewayEnrollments.getD []
  update : r.snapshots.reverse.findSome? (·.gatewayUpdate) = s.gatewayUpdate
  releases : (Projection.mergeNativeClientReleases host [] (s.clientReleases.getD [])).map Prod.fst = .ok r.releases

theorem shows_iff (host : Host) (r : Received) (s : WorkspaceSnapshot) :
    (∃ w,r.workspace = some w ∧ Shows host s w) ↔ AgreesWith host r s := by
  constructor
  · rintro ⟨w,hw,hshows⟩
    rw [Received.workspace,Option.map_eq_some_iff] at hw
    obtain ⟨first,hfirst,rfl⟩ := hw
    exact ⟨⟨first,hfirst,hshows.snapshotVersion,hshows.gatewayKeyId,hshows.capabilities⟩,
      hshows.gatewayDirectory,hshows.pendingGatewayEnrollments,hshows.gatewayUpdate,hshows.clientReleases⟩
  · intro h
    obtain ⟨first,hfirst,hversion,hkey,hcapabilities⟩ := h.first
    refine ⟨_,by rw [Received.workspace,hfirst,Option.map_some],?_⟩
    exact ⟨hversion,hkey,hcapabilities,h.releases,h.directory,h.enrollments,h.update⟩

/-- The workspace is that of the greatest snapshot, whatever the order and the repetitions, exactly when the
snapshots that were received after it or before it agree with it in what they replace. -/
theorem showsGreatest_iff (host : Host) (events : List SnapshotEvent) :
    ShowsGreatest host events (Projection.receiveAll host events) ↔
      events = [] ∨ ∃ e ∈ events, (∀ e' ∈ events,e'.snapshot.snapshotVersion ≤ e.snapshot.snapshotVersion) ∧
        AgreesWith host (Received.all host (events.map (·.snapshot))) e.snapshot := by
  rw [ShowsGreatest,Projection.workspace_receiveAll host events]
  simp only [shows_iff]

def sampleSnapshot (snapshotVersion : ℕ) (enrollments : List Json) : WorkspaceSnapshot where
  gatewayKeyId := "gateway-key"
  capabilities := .obj []
  clientReleases := none
  gatewayDirectory := none
  pendingGatewayEnrollments := some enrollments
  gatewayUpdate := none
  snapshotVersion

def sampleSnapshotEvent (snapshotVersion : ℕ) (enrollments : List Json) : SnapshotEvent where
  event :=
    { eventId := ("workspace-" : JsString) ++ JsString.ofNat snapshotVersion
      workspaceId := "workspace"
      projectId := some "project"
      sessionId := none
      occurredAt := snapshotVersion
      causationCommandId := none
      payload := .workspaceSnapshot (sampleSnapshot snapshotVersion enrollments) }
  snapshot := sampleSnapshot snapshotVersion enrollments
  payload_eq := rfl
  physicalEventId := "$snapshot"
  threadRootHint := none

/-- The second snapshot has an enrollment that the first one, which arrives late, did not have. -/
def lateSnapshot : List SnapshotEvent := [sampleSnapshotEvent 2 [.str "enrollment"],sampleSnapshotEvent 1 []]

theorem lateSnapshot_not_greatest :
    ¬ ShowsGreatest ⟨fun _ _ => 0⟩ lateSnapshot (Projection.receiveAll ⟨fun _ _ => 0⟩ lateSnapshot) := by
  rintro (h | ⟨e,he,hgreatest,w,hw,hshows⟩)
  · cases h
  · have hle := hgreatest (sampleSnapshotEvent 2 [.str "enrollment"]) mem_cons_self
    rcases mem_pair.mp he with rfl | rfl
    · have henrollments : ((Projection.receiveAll ⟨fun _ _ => 0⟩ lateSnapshot).workspace.map
          (·.pendingGatewayEnrollments)) = some [] := rfl
      rw [hw,Option.map_some,hshows.pendingGatewayEnrollments] at henrollments
      cases Option.some.inj henrollments
    · exact absurd hle (by decide)

end Malink.Client
