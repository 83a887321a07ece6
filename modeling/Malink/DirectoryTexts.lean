import Malink.WorkspaceDirectory

/-!
# Directories are determined by their text

The JSON values of descriptors and of documents are in order, so equal canonical texts mean equal values.
-/

namespace Malink.Directory

open Json (canonicalJson ofOptions Ordered ordered_ofOptions ordered_arr ofOptions_inj canonicalJson_inj)
open Workspace (MatrixTransportBinding Signature)

open List WorkspaceGatewayDescriptor Option

theorem PairingPublicKey.ordered_toJson (key : PairingPublicKey) : Ordered key.toJson := by
  apply ordered_ofOptions
  · simp only [map_cons,map_nil]
    decide
  · simp only [forall_mem_cons,some.injEq,forall_eq',Json.ordered_str,Json.ordered_num,
      true_and,not_mem_nil,false_implies,implies_true,and_true]
    apply ordered_ofOptions
    · simp only [map_cons,map_nil]
      decide
    · have hverify : Ordered (.arr [.str "verify"]) := ordered_arr (by simp)
      cases key.alg <;> cases key.ext <;> cases key.keyOps <;> simp [hverify]

theorem ordered_transportJson (transport : MatrixTransportBinding) : Ordered (transportJson transport) := by
  apply ordered_ofOptions
  · simp only [map_cons,map_nil]
    decide
  · simp

theorem WorkspaceProjectRoute.ordered_toJson (route : WorkspaceProjectRoute) : Ordered route.toJson := by
  apply ordered_ofOptions
  · simp only [map_cons,map_nil]
    decide
  · simp

theorem DescriptorSemantics.ordered_toJson (d : DescriptorSemantics) (issuedAt : Option ℤ) :
    Ordered (d.toJson issuedAt) := by
  apply ordered_ofOptions
  · simp only [map_cons,map_nil]
    decide
  · have hroutes : ∀ routes : List WorkspaceProjectRoute,
        Ordered (.arr (routes.map WorkspaceProjectRoute.toJson)) := by
      intro routes
      apply ordered_arr
      simp [WorkspaceProjectRoute.ordered_toJson]
    have honline : ∀ v,(if d.onlineUpdate then some (Json.bool true) else none) = some v → Ordered v := by
      cases d.onlineUpdate <;> simp
    simp only [forall_mem_cons,Option.map_eq_some_iff]
    simp only [forall_exists_index,and_imp,forall_apply_eq_imp_iff₂,some.injEq,forall_eq',
      Json.ordered_str,Json.ordered_num,hroutes,PairingPublicKey.ordered_toJson,ordered_transportJson,
      implies_true,not_mem_nil,false_implies,and_true,true_and]
    exact honline

theorem WorkspaceGatewayDescriptor.ordered_toJson (d : WorkspaceGatewayDescriptor) : Ordered d.toJson :=
  d.toDescriptorSemantics.ordered_toJson _

theorem WorkspaceGatewayDirectory.ordered_toJson (d : WorkspaceGatewayDirectory) : Ordered d.toJson := by
  apply ordered_ofOptions
  · simp only [map_cons,map_nil]
    decide
  · have hgateways : Ordered (.arr (d.gateways.map WorkspaceGatewayDescriptor.toJson)) := by
      apply ordered_arr
      simp [WorkspaceGatewayDescriptor.ordered_toJson]
    have hids : ∀ ids : List JsString,Ordered (.arr (ids.map .str)) := by
      intro ids
      apply ordered_arr
      simp
    simp only [forall_mem_cons,Option.map_eq_some_iff]
    simp only [forall_exists_index,and_imp,forall_apply_eq_imp_iff₂,some.injEq,forall_eq',
      Json.ordered_str,Json.ordered_num,hgateways,hids,implies_true,not_mem_nil,false_implies,and_true]

theorem SignedWorkspaceGatewayDirectory.ordered_toJson (signed : SignedWorkspaceGatewayDirectory) :
    Ordered signed.toJson := by
  apply ordered_ofOptions
  · simp only [map_cons,map_nil]
    decide
  · simp only [forall_mem_cons,some.injEq,forall_eq',WorkspaceGatewayDirectory.ordered_toJson,
      true_and,not_mem_nil,false_implies,implies_true,and_true]
    apply ordered_ofOptions
    · simp only [map_cons,map_nil]
      decide
    · simp

theorem map_eq_map_iff_of_inj {α β : Type} {f : α → β} (hf : ∀ a b,f a = f b → a = b) {xs ys : List α} :
    xs.map f = ys.map f ↔ xs = ys := by
  rw [(map_injective_iff.mpr fun a b h => hf a b h).eq_iff]

theorem present_inj {α : Type} {a : α} {b c : Bool} :
    (if b then some a else none) = (if c then some a else none) ↔ b = c := by
  cases b <;> cases c <;> simp

theorem PairingPublicKey.toJson_inj {key key' : PairingPublicKey} : key.toJson = key'.toJson ↔ key = key' := by
  refine ⟨fun h => ?_,fun h => h ▸ rfl⟩
  replace h := ofOptions_inj h rfl (by
    simp only [map_cons,map_nil]
    decide)
  simp only [List.cons.injEq,Prod.mk.injEq,some.injEq,true_and,and_true,Json.str.injEq] at h
  obtain ⟨hid,hkey⟩ := h
  replace hkey := ofOptions_inj hkey rfl (by
    simp only [map_cons,map_nil]
    decide)
  simp only [List.cons.injEq,Prod.mk.injEq,some.injEq,true_and,and_true,Json.str.injEq,present_inj] at hkey
  obtain ⟨halg,hext,hops,hx,hy⟩ := hkey
  obtain ⟨⟩ := key
  obtain ⟨⟩ := key'
  simp_all

theorem transportJson_inj {t t' : MatrixTransportBinding} : transportJson t = transportJson t' ↔ t = t' := by
  refine ⟨fun h => ?_,fun h => h ▸ rfl⟩
  replace h := ofOptions_inj h rfl (by
    simp only [map_cons,map_nil]
    decide)
  simp only [List.cons.injEq,Prod.mk.injEq,some.injEq,true_and,and_true,Json.str.injEq] at h
  obtain ⟨hdevice,hed,hhome,hroom,huser⟩ := h
  obtain ⟨⟩ := t
  obtain ⟨⟩ := t'
  simp_all

theorem WorkspaceProjectRoute.toJson_inj {r r' : WorkspaceProjectRoute} : r.toJson = r'.toJson ↔ r = r' := by
  refine ⟨fun h => ?_,fun h => h ▸ rfl⟩
  replace h := ofOptions_inj h rfl (by
    simp only [map_cons,map_nil]
    decide)
  simp only [List.cons.injEq,Prod.mk.injEq,some.injEq,true_and,and_true,Json.str.injEq] at h
  obtain ⟨hconversation,hproject,hroom⟩ := h
  obtain ⟨⟩ := r
  obtain ⟨⟩ := r'
  simp_all

theorem routesJson_inj {rs rs' : List WorkspaceProjectRoute} :
    (Json.arr (rs.map WorkspaceProjectRoute.toJson)) = .arr (rs'.map WorkspaceProjectRoute.toJson) ↔
      rs = rs' := by
  rw [Json.arr.injEq,map_eq_map_iff_of_inj fun _ _ => WorkspaceProjectRoute.toJson_inj.mp]

theorem DescriptorSemantics.toJson_inj {d e : DescriptorSemantics} {i j : Option ℤ} :
    d.toJson i = e.toJson j ↔ d = e ∧ i = j := by
  refine ⟨fun h => ?_,fun ⟨hd,hi⟩ => hd ▸ hi ▸ rfl⟩
  replace h := ofOptions_inj h rfl (by
    simp only [map_cons,map_nil]
    decide)
  simp only [List.cons.injEq,Prod.mk.injEq,some.injEq,true_and,and_true,Json.str.injEq,
    present_inj,PairingPublicKey.toJson_inj,transportJson_inj] at h
  obtain ⟨hbuild,hcomputer,hname,hnode,hissued,honline,hprojects,hkey,htransport,hworkspace⟩ := h
  have hbuild' := Option.map_injective (fun _ _ => Json.str.inj) hbuild
  have hcomputer' := Option.map_injective (fun _ _ => Json.str.inj) hcomputer
  have hissued' := Option.map_injective (fun _ _ => Json.num.inj) hissued
  have hprojects' := Option.map_injective (fun _ _ => routesJson_inj.mp) hprojects
  obtain ⟨⟩ := d
  obtain ⟨⟩ := e
  simp_all

variable {d e : WorkspaceGatewayDescriptor} {s t : SignedWorkspaceGatewayDirectory}

theorem WorkspaceGatewayDescriptor.toJson_inj : d.toJson = e.toJson ↔ d = e := by
  rw [WorkspaceGatewayDescriptor.toJson,WorkspaceGatewayDescriptor.toJson,DescriptorSemantics.toJson_inj,some.injEq]
  exact ⟨fun ⟨hd,hi⟩ => by cases d; cases e; simp_all,fun h => ⟨h ▸ rfl,h ▸ rfl⟩⟩

theorem WorkspaceGatewayDirectory.toJson_inj {d e : WorkspaceGatewayDirectory} : d.toJson = e.toJson ↔ d = e := by
  refine ⟨fun h => ?_,fun h => h ▸ rfl⟩
  replace h := ofOptions_inj h rfl (by
    simp only [map_cons,map_nil]
    decide)
  simp only [List.cons.injEq,Prod.mk.injEq,some.injEq,true_and,and_true,Json.str.injEq,
    Json.num.injEq,Json.arr.injEq,Nat.cast_inj] at h
  obtain ⟨hclient,hid,hgateways,hissued,hremoved,hrevision,hworkspace⟩ := h
  rw [map_eq_map_iff_of_inj fun _ _ => WorkspaceGatewayDescriptor.toJson_inj.mp] at hgateways
  have hclient' := Option.map_injective (fun _ _ => Json.str.inj) hclient
  have hremoved' := Option.map_injective (fun _ _ h =>
    (map_eq_map_iff_of_inj fun _ _ => Json.str.inj).mp (Json.arr.inj h)) hremoved
  obtain ⟨⟩ := d
  obtain ⟨⟩ := e
  simp_all

theorem SignedWorkspaceGatewayDirectory.toJson_inj : s.toJson = t.toJson ↔ s = t := by
  refine ⟨fun h => ?_,fun h => h ▸ rfl⟩
  replace h := ofOptions_inj h rfl (by
    simp only [map_cons,map_nil]
    decide)
  simp only [List.cons.injEq,Prod.mk.injEq,some.injEq,true_and,and_true,WorkspaceGatewayDirectory.toJson_inj] at h
  obtain ⟨hdirectory,hsignature⟩ := h
  replace hsignature := ofOptions_inj hsignature rfl (by
    simp only [map_cons,map_nil]
    decide)
  simp only [List.cons.injEq,Prod.mk.injEq,some.injEq,true_and,and_true,Json.str.injEq] at hsignature
  obtain ⟨d,k,v⟩ := s
  obtain ⟨e,l,w⟩ := t
  simp_all

theorem canonicalJson_semantics {d e : DescriptorSemantics} :
    canonicalJson (d.toJson none) = canonicalJson (e.toJson none) ↔ d = e := by
  rw [canonicalJson_inj (d.ordered_toJson none) (e.ordered_toJson none),DescriptorSemantics.toJson_inj]
  simp

theorem canonicalJson_descriptor : canonicalJson d.toJson = canonicalJson e.toJson ↔ d = e := by
  rw [canonicalJson_inj d.ordered_toJson e.ordered_toJson,toJson_inj]

theorem canonicalJson_signed : canonicalJson s.toJson = canonicalJson t.toJson ↔ s = t := by
  rw [canonicalJson_inj s.ordered_toJson t.ordered_toJson,SignedWorkspaceGatewayDirectory.toJson_inj]

theorem gatewaysText_eq_iff {identity : GatewayPairingIdentity} {gs hs : List WorkspaceGatewayDescriptor} :
    gatewaysText identity gs = gatewaysText identity hs ↔ sortGateways identity gs = sortGateways identity hs := by
  have hordered : ∀ xs : List WorkspaceGatewayDescriptor,
      Ordered (.arr (xs.map WorkspaceGatewayDescriptor.toJson)) := by
    intro xs
    apply ordered_arr
    simp [ordered_toJson]
  rw [gatewaysText,gatewaysText,canonicalJson_inj (hordered _) (hordered _),Json.arr.injEq,
    map_eq_map_iff_of_inj fun _ _ => toJson_inj.mp]

theorem idsText_eq_iff {ids ids' : List JsString} : idsText ids = idsText ids' ↔ sortIds ids = sortIds ids' := by
  refine ⟨fun h => ?_,fun h => by rw [idsText,idsText,h]⟩
  have hparse := congrArg Json.parse h
  rw [idsText,idsText,Json.parse_stringify,Json.parse_stringify] at hparse
  exact (map_eq_map_iff_of_inj fun _ _ => Json.str.inj).mp (Json.arr.inj (some.inj hparse))

end Malink.Directory
