import Malink.DirectoryValidity
import Mathlib.Data.List.Dedup

/-!
# What a merge keeps of two directories

The merged map holds, for every node that neither side has removed, the one descriptor that is listed, or the
preferred one of two; of its own descriptor a node keeps its copy.
-/

namespace Malink.Directory

open Json (canonicalJson)
open Option (some)

variable {identity : GatewayPairingIdentity} {state : WorkspaceDirectoryState}

def WorkspaceGatewayDirectory.find (d : WorkspaceGatewayDirectory) (id : JsString) :
    Option WorkspaceGatewayDescriptor :=
  d.gateways.find? (fun g => g.gatewayNodeId = id)

def joinDescriptors (identity : GatewayPairingIdentity) (id : JsString) :
    Option WorkspaceGatewayDescriptor → Option WorkspaceGatewayDescriptor → Option WorkspaceGatewayDescriptor
  | some current, some gateway =>
    some (if id = identity.gatewayNodeId then current else preferredGatewayDescriptor current gateway)
  | some current, none => some current
  | none, other => other

variable {removed : List JsString} {g : WorkspaceGatewayDescriptor}

theorem get_mergeGateway {m : InsertionMap JsString WorkspaceGatewayDescriptor} (id : JsString) :
    (mergeGateway identity removed m g).get id =
      if id ∉ removed ∧ g.gatewayNodeId = id then joinDescriptors identity id (m.get id) (some g)
      else m.get id := by
  unfold mergeGateway
  by_cases hr : removed.contains g.gatewayNodeId
  · rw [if_pos hr,if_neg]
    rintro ⟨hnot,rfl⟩
    exact hnot (List.contains_iff_mem.mp hr)
  · rw [if_neg hr,InsertionMap.get_set]
    rw [List.contains_iff_mem] at hr
    by_cases hid : id = g.gatewayNodeId
    · subst hid
      rw [if_pos rfl,if_pos ⟨hr,rfl⟩]
      cases m.get g.gatewayNodeId <;> rfl
    · rw [if_neg hid,if_neg]
      rintro ⟨-,rfl⟩
      exact hid rfl

theorem get_foldl_mergeGateway {gs : List WorkspaceGatewayDescriptor} (hn : (gs.map (fun g => g.gatewayNodeId)).Nodup)
    (m : InsertionMap JsString WorkspaceGatewayDescriptor) (id : JsString) :
    (gs.foldl (mergeGateway identity removed) m).get id =
      if id ∈ removed then m.get id
      else joinDescriptors identity id (m.get id) (gs.find? (fun g => g.gatewayNodeId = id)) := by
  induction gs generalizing m with
  | nil =>
    rw [List.foldl_nil,List.find?_nil]
    split
    · rfl
    · cases m.get id <;> rfl
  | cons g gs ih =>
    rw [List.map_cons,List.nodup_cons] at hn
    rw [List.foldl_cons,ih hn.2,get_mergeGateway]
    by_cases hr : id ∈ removed
    · rw [if_pos hr,if_pos hr,if_neg (fun h => h.1 hr)]
    · rw [if_neg hr,if_neg hr]
      by_cases hid : g.gatewayNodeId = id
      · have hnone : gs.find? (fun g => g.gatewayNodeId = id) = none := by
          rw [List.find?_eq_none]
          intro g' hg' heq
          rw [decide_eq_true_eq] at heq
          exact hn.1 (List.mem_map.mpr ⟨g',hg',heq.trans hid.symm⟩)
        rw [if_pos ⟨hr,hid⟩,hnone,List.find?_cons_of_pos (by simpa using hid)]
        cases m.get id <;> rfl
      · rw [if_neg (fun h => hid h.2),List.find?_cons_of_neg (by simpa using hid)]

variable {incoming : WorkspaceGatewayDirectory}

theorem mem_unionRemoved {id : JsString} :
    id ∈ unionRemoved state incoming ↔ id ∈ state.removedGatewayNodeIds ∨ id ∈ incoming.removed := by
  rw [unionRemoved,List.mem_dedup,List.mem_append]

theorem get_mergeGateways (hn : (incoming.gateways.map (fun g => g.gatewayNodeId)).Nodup) (id : JsString) :
    (mergeGateways identity state incoming).get id =
      if id ∈ unionRemoved state incoming then none
      else joinDescriptors identity id (state.gateways.get id) (incoming.find id) := by
  rw [mergeGateways,get_foldl_mergeGateway hn]
  have hfilter : ∀ o : Option WorkspaceGatewayDescriptor,
      (state.gateways.filter (fun id _ => !(unionRemoved state incoming).contains id)).get id = o ↔
        (if id ∈ unionRemoved state incoming then none else state.gateways.get id) = o := by
    intro o
    suffices heq : (state.gateways.filter (fun id _ => !(unionRemoved state incoming).contains id)).get id =
        if id ∈ unionRemoved state incoming then none else state.gateways.get id by rw [heq]
    ext g
    rw [InsertionMap.get_filter,Bool.not_eq_true',← Bool.not_eq_true,List.contains_iff_mem]
    split <;> simp_all
  rw [(hfilter _).mpr rfl]
  split <;> rfl

/-- The descriptors that a merge keeps, said of the two sides. -/
def Kept (identity : GatewayPairingIdentity) (state : WorkspaceDirectoryState)
    (incoming : WorkspaceGatewayDirectory) (g : WorkspaceGatewayDescriptor) : Prop :=
  g.gatewayNodeId ∉ state.removedGatewayNodeIds ∧ g.gatewayNodeId ∉ incoming.removed ∧
    ((state.gateways.get g.gatewayNodeId = some g ∧ ∀ other,incoming.find g.gatewayNodeId = some other →
          g.gatewayNodeId = identity.gatewayNodeId ∨ preferredGatewayDescriptor g other = g) ∨
      (incoming.find g.gatewayNodeId = some g ∧ ∀ current,state.gateways.get g.gatewayNodeId = some current →
          g.gatewayNodeId ≠ identity.gatewayNodeId ∧ preferredGatewayDescriptor current g = g))

theorem preferredGatewayDescriptor_eq_or (left right : WorkspaceGatewayDescriptor) :
    preferredGatewayDescriptor left right = left ∨ preferredGatewayDescriptor left right = right := by
  unfold preferredGatewayDescriptor
  split
  · split
    · exact .inl rfl
    · exact .inr rfl
  · split
    · exact .inl rfl
    · exact .inr rfl

/-- A kept descriptor is one of the state or one that comes in, under its own node ID. -/
theorem kept_of_get_mergeGateways (hn : (incoming.gateways.map (fun g => g.gatewayNodeId)).Nodup)
    (hstate : ∀ id g,state.gateways.get id = some g → id = g.gatewayNodeId) {id : JsString}
    (h : (mergeGateways identity state incoming).get id = some g) :
    id = g.gatewayNodeId ∧ Kept identity state incoming g := by
  rw [get_mergeGateways hn] at h
  split at h
  · cases h
  · next hr =>
    rw [mem_unionRemoved,not_or] at hr
    have hfind : ∀ g',incoming.find id = some g' → id = g'.gatewayNodeId := by
      intro g' hg'
      have hnode := List.find?_some hg'
      exact (of_decide_eq_true hnode).symm
    cases hcurrent : state.gateways.get id with
    | none =>
      rw [hcurrent,joinDescriptors] at h
      obtain rfl := hfind g h
      exact ⟨rfl,hr.1,hr.2,.inr ⟨h,fun current hc => by rw [hcurrent] at hc; cases hc⟩⟩
    | some current =>
      obtain rfl := hstate id current hcurrent
      cases hother : incoming.find current.gatewayNodeId with
      | none =>
        rw [hcurrent,hother,joinDescriptors] at h
        obtain rfl := some.inj h
        exact ⟨rfl,hr.1,hr.2,.inl ⟨hcurrent,fun other ho => by rw [hother] at ho; cases ho⟩⟩
      | some other =>
        rw [hcurrent,hother,joinDescriptors] at h
        have hnode := hfind other hother
        split at h
        · next hown =>
          obtain rfl := some.inj h
          exact ⟨rfl,hr.1,hr.2,.inl ⟨hcurrent,fun _ _ => .inl hown⟩⟩
        · next hown =>
          rcases preferredGatewayDescriptor_eq_or current other with hp | hp
          · rw [hp] at h
            obtain rfl := some.inj h
            refine ⟨rfl,hr.1,hr.2,.inl ⟨hcurrent,fun other' ho => .inr ?_⟩⟩
            rw [hother] at ho
            exact some.inj ho ▸ hp
          · rw [hp] at h
            obtain rfl := some.inj h
            rw [Kept,← hnode]
            refine ⟨rfl,hr.1,hr.2,.inr ⟨hother,fun current' hc => ⟨hown,?_⟩⟩⟩
            rw [hcurrent] at hc
            exact some.inj hc ▸ hp

/-- The nodes that either side lists and neither has removed. -/
def unionNodes (state : WorkspaceDirectoryState) (incoming : WorkspaceGatewayDirectory) : List JsString :=
  (state.gateways.keys ++ incoming.gateways.map (fun g => g.gatewayNodeId)).dedup.filter
    (fun id => !(unionRemoved state incoming).contains id)

theorem size_mergeGateways_le (hn : (incoming.gateways.map (fun g => g.gatewayNodeId)).Nodup) :
    (mergeGateways identity state incoming).size ≤ (unionNodes state incoming).length := by
  apply InsertionMap.size_le_of_keys_subset
  intro id hmem
  obtain ⟨g,hg⟩ := InsertionMap.has_iff.mp (InsertionMap.has_iff_mem_keys.mpr hmem)
  rw [get_mergeGateways hn] at hg
  split at hg
  · cases hg
  · next hr =>
    rw [unionNodes,List.mem_filter,List.mem_dedup,List.mem_append,Bool.not_eq_true',← Bool.not_eq_true,
      List.contains_iff_mem]
    refine ⟨?_,hr⟩
    cases hcurrent : state.gateways.get id with
    | some current =>
      exact .inl (InsertionMap.has_iff_mem_keys.mp (InsertionMap.has_iff.mpr ⟨current,hcurrent⟩))
    | none =>
      rw [hcurrent,joinDescriptors] at hg
      exact .inr (List.mem_map.mpr ⟨g,List.mem_of_find?_eq_some hg,by simpa using List.find?_some hg⟩)

end Malink.Directory
