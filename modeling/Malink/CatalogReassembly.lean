import Malink.CatalogPublication
import Malink.ProjectionApply

/-!
# The catalog that a client shows

A catalog is shown once every page of the revision of the manifest is there.
-/

namespace Malink.Client

open Mlp3 Catalogs List

structure ProjectedProviderModelCatalog where
  providerId : JsString
  revision : JsString
  status : CatalogStatus
  itemCount : ℕ
  pageCount : ℕ
  error : Option Json
  occurredAt : ℕ
  complete : Bool
  models : List Json

namespace Projection

/-- The pages that belong to a manifest, by their index. -/
def pagesOf (p : Projection) (manifest : ProjectedProviderCatalogManifest) : List ProjectedProviderCatalogPage :=
  (p.providerCatalogPages.values.filter (fun page => decide (page.providerId = manifest.providerId) &&
    decide (page.revision = manifest.revision) && decide (page.pageCount = manifest.pageCount))).insertionSort
      (fun left right => left.pageIndex ≤ right.pageIndex)

def catalogOf (p : Projection) (manifest : ProjectedProviderCatalogManifest) : ProjectedProviderModelCatalog :=
  let pages := p.pagesOf manifest
  let indexesComplete := decide (pages.length = manifest.pageCount) &&
    decide (pages.map (·.pageIndex) = range pages.length)
  let models := if indexesComplete then pages.flatMap (·.items) else []
  let complete := indexesComplete && decide (models.length = manifest.itemCount)
  { providerId := manifest.providerId
    revision := manifest.revision
    status := manifest.status
    itemCount := manifest.itemCount
    pageCount := manifest.pageCount
    error := manifest.error
    occurredAt := manifest.occurredAt
    complete
    models := if complete then models else [] }

def providerModelCatalogs (p : Projection) : List ProjectedProviderModelCatalog :=
  p.providerCatalogManifests.values.map p.catalogOf

/-- Events that arrive one after another. Each of them is carried by an event of the room. -/
def applyEvents (host : Host) (p : Projection) : List (Event × JsString) → Except ProjectionError Projection
  | [] => .ok p
  | (event,physicalEventId) :: events => do
    let (p',_) ← applyEvent host p event physicalEventId none
    applyEvents host p' events

end Projection

theorem map_eq_of_indexes {α β : Type} {l : List α} {values : List β} {index : α → ℕ} {value : α → β}
    (hindexes : l.map index = range values.length) (h : ∀ a ∈ l,values[index a]? = some (value a)) :
    l.map value = values := by
  have hsome : (l.map value).map some = values.map some := by
    calc (l.map value).map some = l.map fun a => values[index a]? := by
          rw [map_map]
          exact map_congr_left fun a ha => (h a ha).symm
      _ = (range values.length).map (values[·]?) := by rw [← hindexes,map_map]; rfl
      _ = values.map some := by apply ext_getElem <;> simp
  exact map_injective_iff.mpr (Option.some_injective _) hsome

theorem not_mem_units_ofNat (n : ℕ) : (0 : UInt16) ∉ (JsString.ofNat n).units := by
  intro h
  obtain ⟨c,hc,hu⟩ := mem_flatMap.mp h
  have hdigit := Nat.isDigit_of_mem_toDigits (by omega) (by omega) hc
  simp only [Char.isDigit,Bool.and_eq_true,decide_eq_true_eq] at hdigit
  have hlow : 48 ≤ c.toNat := hdigit.1
  have hhigh : c.toNat ≤ 57 := hdigit.2
  rw [JsString.encodeChar,if_pos (by omega),mem_singleton] at hu
  have hzero := congrArg UInt16.toNat hu
  rw [UInt16.toNat_zero,UInt16.toNat_ofNat'] at hzero
  omega

theorem ofNat_injective : Function.Injective JsString.ofNat := by
  intro n m h
  have hdigits := JsString.ofChars_injective h
  rw [← Nat.ofDigitChars_toDigits (b := 10) (n := n) (by omega) (by omega),hdigits,
    Nat.ofDigitChars_toDigits (by omega) (by omega)]

/-- What follows the last separator is read back. -/
theorem append_separator_inj {s t u v : JsString} (hu : (0 : UInt16) ∉ u.units) (hv : (0 : UInt16) ∉ v.units)
    (h : s ++ keySeparator ++ u = t ++ keySeparator ++ v) : s = t ∧ u = v := by
  obtain ⟨s⟩ := s
  obtain ⟨t⟩ := t
  obtain ⟨u⟩ := u
  obtain ⟨v⟩ := v
  have hunits : s ++ 0 :: u = t ++ 0 :: v := by
    have := congrArg JsString.units h
    simpa [keySeparator] using this
  rcases append_eq_append_iff.mp hunits with ⟨w,ht,hw⟩ | ⟨w,hs,hw⟩
  · cases w with
    | nil =>
      rw [append_nil] at ht
      obtain ⟨-,hw⟩ := cons.inj hw
      exact ⟨by rw [ht],by rw [hw]⟩
    | cons x w =>
      rw [cons_append] at hw
      obtain ⟨-,hw⟩ := cons.inj hw
      exact absurd (hw ▸ mem_append_right w mem_cons_self) hu
  · cases w with
    | nil =>
      rw [append_nil] at hs
      obtain ⟨-,hw⟩ := cons.inj hw
      exact ⟨by rw [hs],by rw [hw]⟩
    | cons x w =>
      rw [cons_append] at hw
      obtain ⟨-,hw⟩ := cons.inj hw
      exact absurd (hw ▸ mem_append_right w mem_cons_self) hv

theorem not_mem_units_of_isDigest {s : JsString} (h : isDigest s) : (0 : UInt16) ∉ s.units := by
  intro hmem
  simp only [isDigest,Bool.and_eq_true] at h
  exact absurd (all_eq_true.mp h.2 0 hmem) (by decide)

variable {revision : JsString} {m : Option JsString}

theorem providerCatalogPageKey_inj {providerId providerId' revision' : JsString} {i i' : ℕ}
    (hr : isDigest revision) (hr' : isDigest revision')
    (h : providerCatalogPageKey providerId revision i = providerCatalogPageKey providerId' revision' i') :
    providerId = providerId' ∧ revision = revision' ∧ i = i' := by
  rw [providerCatalogPageKey,providerCatalogPageKey] at h
  obtain ⟨hrest,hindex⟩ := append_separator_inj (not_mem_units_ofNat i) (not_mem_units_ofNat i') h
  obtain ⟨hprovider,hrevision⟩ :=
    append_separator_inj (not_mem_units_of_isDigest hr) (not_mem_units_of_isDigest hr') hrest
  exact ⟨hprovider,hrevision,ofNat_injective hindex⟩

variable {pages : List ProjectedProviderCatalogPage} {page : ProjectedProviderCatalogPage}

namespace Projection

/-- What `pruneProviderCatalogPages` sorts by: the revision of the manifest, then the later one. -/
def revisionBefore (manifestRevision : Option JsString) (left right : JsString × ℕ) : Prop :=
  (if (decide (manifestRevision = some left.1)) = (decide (manifestRevision = some right.1)) then
    decide (right.2 ≤ left.2) else decide (manifestRevision = some left.1)) = true

instance (manifestRevision : Option JsString) : DecidableRel (revisionBefore manifestRevision) :=
  fun _ _ => inferInstanceAs (Decidable (_ = true))

def retainedRevisions (p : Projection) (providerId : JsString) : List JsString :=
  (((p.catalogRevisions providerId).entries.insertionSort
    (revisionBefore ((p.providerCatalogManifests.get providerId).map (·.revision)))).take 2).map Prod.fst

theorem pages_prune (p : Projection) (providerId : JsString) :
    (p.pruneProviderCatalogPages providerId).providerCatalogPages =
      p.providerCatalogPages.filter
        (fun _ page => page.providerId ≠ providerId || page.revision ∈ p.retainedRevisions providerId) := rfl

theorem revisionBefore_iff {a b : JsString × ℕ} :
    revisionBefore m a b ↔ (m = some a.1 ∧ m ≠ some b.1) ∨ ((m = some a.1 ↔ m = some b.1) ∧ b.2 ≤ a.2) := by
  rw [revisionBefore]
  by_cases ha : m = some a.1 <;> by_cases hb : m = some b.1 <;>
    simp only [ha,hb,decide_true,decide_false] <;> grind

theorem revisionBefore_total (m : Option JsString) (a b : JsString × ℕ) :
    revisionBefore m a b ∨ revisionBefore m b a := by
  simp only [revisionBefore_iff]
  rcases Nat.le_total a.2 b.2 with h | h
  · tauto
  · tauto

theorem revisionBefore_trans {a b c : JsString × ℕ} (h : revisionBefore m a b)
    (h' : revisionBefore m b c) : revisionBefore m a c := by
  simp only [revisionBefore_iff] at h h' ⊢
  rcases h with h | ⟨h,hle⟩
  · rcases h' with h' | ⟨h',-⟩
    · exact absurd h'.1 h.2
    · exact .inl ⟨h.1,fun hc => h.2 (h'.mpr hc)⟩
  · rcases h' with h' | ⟨h',hle'⟩
    · exact .inl ⟨h.mpr h'.1,h'.2⟩
    · exact .inr ⟨h.trans h',Nat.le_trans hle' hle⟩

/-- Two revisions are kept: only that of the manifest may stand before the latest one. -/
theorem mem_take_two {entries : List (JsString × ℕ)} {latest : JsString × ℕ}
    (hkeys : (entries.map Prod.fst).Nodup) (hmem : latest ∈ entries)
    (hlatest : ∀ e ∈ entries,e.1 ≠ latest.1 → e.2 < latest.2) :
    latest ∈ (entries.insertionSort (revisionBefore m)).take 2 := by
  have htotal : Std.Total (revisionBefore m) := ⟨revisionBefore_total m⟩
  have htrans : IsTrans (JsString × ℕ) (revisionBefore m) := ⟨fun _ _ _ => revisionBefore_trans⟩
  have hsorted := pairwise_insertionSort (revisionBefore m) entries
  have hperm := perm_insertionSort (revisionBefore m) entries
  generalize entries.insertionSort (revisionBefore m) = sorted at hsorted hperm ⊢
  have hnodup : (sorted.map Prod.fst).Nodup := (hperm.map Prod.fst).nodup_iff.mpr hkeys
  obtain ⟨front,back,rfl⟩ := append_of_mem (hperm.mem_iff.mpr hmem)
  rw [map_append,map_cons] at hnodup
  -- Whatever stands before the latest revision is the revision of the manifest.
  have hfront : ∀ e ∈ front,m = some e.1 := by
    intro e he
    have hne : e.1 ≠ latest.1 := fun heq =>
      (nodup_append.mp hnodup).2.2 e.1 (mem_map_of_mem he) latest.1 mem_cons_self heq
    have hlt := hlatest e (hperm.mem_iff.mp (mem_append_left _ he)) hne
    have hbefore := (pairwise_append.mp hsorted).2.2 e he latest mem_cons_self
    rcases revisionBefore_iff.mp hbefore with h | ⟨-,h⟩
    · exact h.1
    · omega
  cases front with
  | nil => exact mem_cons_self
  | cons e front =>
    cases front with
    | nil => exact mem_cons_of_mem e mem_cons_self
    | cons e' front =>
      have heq : e.1 = e'.1 := Option.some.inj ((hfront e mem_cons_self).symm.trans
        (hfront e' (mem_cons_of_mem e mem_cons_self)))
      rw [map_cons,map_cons,heq] at hnodup
      exact absurd mem_cons_self (nodup_cons.mp hnodup).1

/-- One turn of the loop over the pages. -/
def observeRevision (revisions : InsertionMap JsString ℕ) (page : ProjectedProviderCatalogPage) :
    InsertionMap JsString ℕ :=
  revisions.set page.revision (max ((revisions.get page.revision).getD 0) page.occurredAt)

theorem catalogRevisions_eq (p : Projection) (providerId : JsString) : p.catalogRevisions providerId =
    (p.providerCatalogPages.values.filter (·.providerId = providerId)).foldl observeRevision .empty := rfl

variable {revisions : InsertionMap JsString ℕ} {time : ℕ}

theorem le_observeRevision (page : ProjectedProviderCatalogPage) (h : revisions.get revision = some time) :
    ∃ later, (observeRevision revisions page).get revision = some later ∧ time ≤ later := by
  rw [observeRevision,InsertionMap.get_set]
  by_cases hr : revision = page.revision
  · subst hr
    refine ⟨_,if_pos rfl,?_⟩
    rw [h]
    exact Nat.le_max_left _ _
  · exact ⟨time,by rw [if_neg hr,h],Nat.le_refl time⟩

theorem le_foldl_observeRevision (pages : List ProjectedProviderCatalogPage) (h : revisions.get revision = some time) :
    ∃ later, (pages.foldl observeRevision revisions).get revision = some later ∧ time ≤ later := by
  induction pages generalizing revisions time with
  | nil => exact ⟨time,h,Nat.le_refl time⟩
  | cons page pages ih =>
    obtain ⟨next,hnext,hle⟩ := le_observeRevision page h
    obtain ⟨later,hlater,hle'⟩ := ih hnext
    exact ⟨later,hlater,Nat.le_trans hle hle'⟩

/-- No page is later than what its revision is compared by. -/
theorem occurredAt_le_foldl (revisions : InsertionMap JsString ℕ) (h : page ∈ pages) :
    ∃ later, (pages.foldl observeRevision revisions).get page.revision = some later ∧ page.occurredAt ≤ later := by
  induction pages generalizing revisions with
  | nil => cases h
  | cons first pages ih =>
    rw [foldl_cons]
    rcases mem_cons.mp h with rfl | h
    · have hfirst := InsertionMap.get_set_self revisions page.revision
        (max ((revisions.get page.revision).getD 0) page.occurredAt)
      obtain ⟨later,hlater,hle⟩ := le_foldl_observeRevision pages hfirst
      exact ⟨later,hlater,Nat.le_trans (Nat.le_max_right _ _) hle⟩
    · exact ih _ h

/-- What a revision is compared by is the time of one of its pages. -/
theorem exists_of_foldl_observeRevision (h : (pages.foldl observeRevision revisions).get revision = some time) :
    revisions.get revision = some time ∨ ∃ page ∈ pages, page.revision = revision ∧ page.occurredAt = time := by
  induction pages generalizing revisions with
  | nil => exact .inl h
  | cons first pages ih =>
    rcases ih h with h | ⟨page,hpage,heq⟩
    · rw [observeRevision,InsertionMap.get_set] at h
      by_cases hr : revision = first.revision
      · rw [if_pos hr,Option.some.injEq] at h
        cases hget : revisions.get first.revision with
        | none =>
          rw [hget,Option.getD_none,Nat.zero_max] at h
          exact .inr ⟨first,mem_cons_self,hr.symm,h⟩
        | some known =>
          rw [hget,Option.getD_some] at h
          rcases Nat.le_total known first.occurredAt with hle | hle
          · rw [Nat.max_eq_right hle] at h
            exact .inr ⟨first,mem_cons_self,hr.symm,h⟩
          · rw [Nat.max_eq_left hle] at h
            exact .inl (by rw [hr,hget,h])
      · rw [if_neg hr] at h
        exact .inl h
    · exact .inr ⟨page,mem_cons_of_mem first hpage,heq⟩

/-- The latest revision of a provider is never pruned. -/
theorem mem_retainedRevisions {p : Projection} (hpage : page ∈ p.providerCatalogPages.values)
    (hlatest : ∀ other ∈ p.providerCatalogPages.values,other.providerId = page.providerId →
      other.revision ≠ page.revision → other.occurredAt < page.occurredAt) :
    page.revision ∈ p.retainedRevisions page.providerId := by
  have hmem : page ∈ p.providerCatalogPages.values.filter (·.providerId = page.providerId) :=
    mem_filter.mpr ⟨hpage,decide_eq_true rfl⟩
  obtain ⟨time,htime,hle⟩ := occurredAt_le_foldl .empty hmem
  rw [← catalogRevisions_eq] at htime
  refine mem_map.mpr ⟨(page.revision,time),?_,rfl⟩
  apply mem_take_two (p.catalogRevisions page.providerId).nodup_keys (InsertionMap.get_eq_some.mp htime)
  intro e he hne
  have hget := InsertionMap.get_eq_some.mpr he
  rw [catalogRevisions_eq] at hget
  rcases exists_of_foldl_observeRevision hget with h | ⟨other,hother,hrevision,hoccurred⟩
  · rw [InsertionMap.get_empty] at h
    cases h
  · rw [mem_filter,decide_eq_true_eq] at hother
    have hlt := hlatest other hother.1 hother.2 (by rw [hrevision]; exact hne)
    rw [hoccurred] at hlt
    exact Nat.lt_of_lt_of_le hlt hle

end Projection

end Malink.Client
