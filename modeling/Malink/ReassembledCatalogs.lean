import Malink.CatalogReassembly

/-!
# Catalogs that are put together

The client is told of pages and manifests in any order, with repetitions and older publications among them. Once it
was told of all events of the latest publication, it shows its models.
-/

namespace Malink.Client

open Mlp3 Catalogs List InsertionMap
open Option (some)
open Event (payload)

variable {sha256 : JsString → JsString} {host : Host} {p p' : Projection}

variable (sha256) in
def filedPage (publication : Publication) (pageCount pageIndex : ℕ) (items : List Json) :
    ProjectedProviderCatalogPage where
  logicalEventId := (pageEvent sha256 publication pageCount pageIndex items).eventId
  providerId := publication.catalog.providerId
  revision := publication.revision sha256
  pageIndex
  pageCount
  items
  occurredAt := publication.publishedAt

variable (sha256) in
def filedManifest (publication : Publication) (pageCount : ℕ) : ProjectedProviderCatalogManifest where
  logicalEventId := (manifestEvent sha256 publication pageCount).eventId
  providerId := publication.catalog.providerId
  revision := publication.revision sha256
  status := publication.catalog.status
  itemCount := publication.catalog.models.length
  pageCount
  error := publication.catalog.error
  occurredAt := publication.publishedAt

/-- Every page and every manifest that the client holds is from one of the publications. -/
structure Filed (sha256 : JsString → JsString) (publications : List Publication) (p : Projection) : Prop where
  pageKey : ∀ key page, p.providerCatalogPages.get key = some page →
    key = providerCatalogPageKey page.providerId page.revision page.pageIndex
  page : ∀ key page, p.providerCatalogPages.get key = some page →
    ∃ publication ∈ publications, ∃ pages, providerCatalogPages publication.catalog.models = .ok pages ∧
      ∃ i items, pages[i]? = some items ∧ page = filedPage sha256 publication pages.length i items
  manifestKey : ∀ key manifest, p.providerCatalogManifests.get key = some manifest → manifest.providerId = key
  manifest : ∀ key manifest, p.providerCatalogManifests.get key = some manifest →
    ∃ publication ∈ publications, ∃ pages, providerCatalogPages publication.catalog.models = .ok pages ∧
      manifest = filedManifest sha256 publication pages.length

/-- An event of one of the publications. -/
def IsPublished (sha256 : JsString → JsString) (publications : List Publication) (event : Event) : Prop :=
  ∃ publication ∈ publications, ∃ events, publishProviderCatalog sha256 publication = .ok events ∧ event ∈ events

variable {publication : Publication} {pages : List (List Json)} {event : Event} {i : ℕ}
  {items : List Json} {events : List Event}

theorem length_publishProviderCatalog (h : publishProviderCatalog sha256 publication = .ok events)
    (hpages : providerCatalogPages publication.catalog.models = .ok pages) : events.length = pages.length + 1 := by
  rw [publishProviderCatalog,hpages] at h
  rw [← Except.ok.inj h,length_append,length_mapIdx,length_singleton]

theorem mem_publishProviderCatalog (h : publishProviderCatalog sha256 publication = .ok events) :
    ∃ pages, providerCatalogPages publication.catalog.models = .ok pages ∧ ∀ event, event ∈ events ↔
      (∃ i items,pages[i]? = some items ∧ event = pageEvent sha256 publication pages.length i items) ∨
        event = manifestEvent sha256 publication pages.length := by
  obtain ⟨pages,hpages,hevents⟩ := bind_eq_ok.mp h
  refine ⟨pages,hpages,fun event => ?_⟩
  rw [← Except.ok.inj hevents,mem_append,mem_singleton,mem_mapIdx]
  apply or_congr_left
  constructor
  · rintro ⟨i,hi,heq⟩
    exact ⟨i,pages[i],getElem?_eq_getElem hi,heq.symm⟩
  · rintro ⟨i,items,hget,heq⟩
    obtain ⟨hi,hitems⟩ := List.getElem?_eq_some_iff.mp hget
    exact ⟨i,hi,by rw [heq,hitems]⟩

namespace Projection

def filePage (p : Projection) (page : ProjectedProviderCatalogPage) : Projection :=
  { p with
    providerCatalogPages := p.providerCatalogPages.set
      (providerCatalogPageKey page.providerId page.revision page.pageIndex) page }

def fileManifest (p : Projection) (manifest : ProjectedProviderCatalogManifest) : Projection :=
  { p with providerCatalogManifests := p.providerCatalogManifests.set manifest.providerId manifest }

end Projection

variable {currentId : JsString} {currentAt : ℕ}

theorem le_of_isNewerCatalogEvent (h : isNewerCatalogEvent host currentId currentAt event) :
    currentAt ≤ event.occurredAt := by
  simp only [isNewerCatalogEvent,Bool.or_eq_true,Bool.and_eq_true,decide_eq_true_eq] at h
  omega

theorem le_of_not_isNewerCatalogEvent (h : isNewerCatalogEvent host currentId currentAt event = false) :
    event.occurredAt ≤ currentAt := by
  simp only [isNewerCatalogEvent,Bool.or_eq_false_iff,decide_eq_false_iff_not] at h
  omega

variable (sha256 host p) in
/-- A page is dropped when a later one is held under its key, and filed otherwise. -/
theorem applyEvent_pageEvent (publication : Publication) (pageCount i : ℕ) (items : List Json)
    (physicalEventId : JsString) : ∃ p' changed, p.applyEvent host
        (pageEvent sha256 publication pageCount i items) physicalEventId none = .ok (p',changed) ∧
      ((p' = p.markSeen (pageEvent sha256 publication pageCount i items).eventId ∧
          ∃ current,p.providerCatalogPages.get (providerCatalogPageKey publication.catalog.providerId
            (publication.revision sha256) i) = some current ∧ publication.publishedAt ≤ current.occurredAt) ∨
        (p' = ((p.filePage (filedPage sha256 publication pageCount i items)).pruneProviderCatalogPages
            publication.catalog.providerId).markSeen (pageEvent sha256 publication pageCount i items).eventId ∧
          ∀ current,p.providerCatalogPages.get (providerCatalogPageKey publication.catalog.providerId
            (publication.revision sha256) i) = some current → current.occurredAt ≤ publication.publishedAt)) := by
  refine ⟨(p.applyCatalogPage host (pageEvent sha256 publication pageCount i items)
    (pagePayload sha256 publication pageCount i items)).1,_,rfl,?_⟩
  rw [Projection.applyCatalogPage]
  simp only
  split
  · next hnewer =>
    refine .inr ⟨rfl,fun current hget => ?_⟩
    rw [Option.all_eq_true] at hnewer
    exact le_of_isNewerCatalogEvent (hnewer current hget)
  · next hnewer =>
    refine .inl ⟨rfl,?_⟩
    rw [Bool.not_eq_true,Option.all_eq_false] at hnewer
    obtain ⟨current,hget,hold⟩ := hnewer
    exact ⟨current,hget,le_of_not_isNewerCatalogEvent hold⟩

variable (sha256 host p) in
theorem applyEvent_manifestEvent (publication : Publication) (pageCount : ℕ) (physicalEventId : JsString) :
    ∃ p' changed, p.applyEvent host (manifestEvent sha256 publication pageCount) physicalEventId none =
        .ok (p',changed) ∧ ((p' = p.markSeen (manifestEvent sha256 publication pageCount).eventId ∧
          ∃ current,p.providerCatalogManifests.get publication.catalog.providerId = some current ∧
            publication.publishedAt ≤ current.occurredAt) ∨
        (p' = ((p.fileManifest (filedManifest sha256 publication pageCount)).pruneProviderCatalogPages
            publication.catalog.providerId).markSeen (manifestEvent sha256 publication pageCount).eventId ∧
          ∀ current,p.providerCatalogManifests.get publication.catalog.providerId = some current →
            current.occurredAt ≤ publication.publishedAt)) := by
  refine ⟨(p.applyCatalogManifest host (manifestEvent sha256 publication pageCount)
    (manifestPayload sha256 publication pageCount)).1,_,rfl,?_⟩
  rw [Projection.applyCatalogManifest]
  simp only
  split
  · next hnewer =>
    refine .inr ⟨rfl,fun current hget => ?_⟩
    rw [Option.all_eq_true] at hnewer
    exact le_of_isNewerCatalogEvent (hnewer current hget)
  · next hnewer =>
    refine .inl ⟨rfl,?_⟩
    rw [Bool.not_eq_true,Option.all_eq_false] at hnewer
    obtain ⟨current,hget,hold⟩ := hnewer
    exact ⟨current,hget,le_of_not_isNewerCatalogEvent hold⟩

section Kept

variable {publications : List Publication}

theorem Filed.empty : Filed sha256 publications .empty where
  pageKey key page h := by cases h
  page key page h := by cases h
  manifestKey key manifest h := by cases h
  manifest key manifest h := by cases h

theorem Filed.markSeen (hf : Filed sha256 publications p) (eventId : JsString) :
    Filed sha256 publications (p.markSeen eventId) := ⟨hf.pageKey,hf.page,hf.manifestKey,hf.manifest⟩

theorem Filed.prune (hf : Filed sha256 publications p) (providerId : JsString) :
    Filed sha256 publications (p.pruneProviderCatalogPages providerId) where
  pageKey key page h := hf.pageKey key page (get_filter.mp h).1
  page key page h := hf.page key page (get_filter.mp h).1
  manifestKey := hf.manifestKey
  manifest := hf.manifest

section

variable (hf : Filed sha256 publications p) (hpublication : publication ∈ publications)
  (hpages : providerCatalogPages publication.catalog.models = .ok pages)
include hf hpublication hpages

theorem Filed.filePage (hi : pages[i]? = some items) :
    Filed sha256 publications (p.filePage (filedPage sha256 publication pages.length i items)) where
  pageKey key page h := by
    rw [Projection.filePage,get_set] at h
    split at h
    · next hkey =>
      rw [← some.inj h]
      exact hkey
    · exact hf.pageKey key page h
  page key page h := by
    rw [Projection.filePage,get_set] at h
    split at h
    · exact ⟨publication,hpublication,pages,hpages,i,items,hi,(some.inj h).symm⟩
    · exact hf.page key page h
  manifestKey := hf.manifestKey
  manifest := hf.manifest

theorem Filed.fileManifest :
    Filed sha256 publications (p.fileManifest (filedManifest sha256 publication pages.length)) where
  pageKey := hf.pageKey
  page := hf.page
  manifestKey key manifest h := by
    rw [Projection.fileManifest,get_set] at h
    split at h
    · next hkey =>
      rw [← some.inj h]
      exact hkey.symm
    · exact hf.manifestKey key manifest h
  manifest key manifest h := by
    rw [Projection.fileManifest,get_set] at h
    split at h
    · exact ⟨publication,hpublication,pages,hpages,(some.inj h).symm⟩
    · exact hf.manifest key manifest h

end

end Kept

/-- No publication of the provider is as late, but for those of the same catalog, and the digest tells the
contents of the catalogs apart. -/
structure Latest (sha256 : JsString → JsString) (publications : List Publication) (newest : Publication) : Prop where
  digest : ∀ text, isDigest (sha256 text)
  le : ∀ publication ∈ publications, publication.catalog.providerId = newest.catalog.providerId →
    publication.publishedAt ≤ newest.publishedAt
  catalog : ∀ publication ∈ publications, publication.catalog.providerId = newest.catalog.providerId →
    publication.publishedAt = newest.publishedAt → publication.catalog = newest.catalog
  contents : ∀ publication ∈ publications, publication.revision sha256 = newest.revision sha256 →
    publication.catalog.contents = newest.catalog.contents

/-- A page of the latest publication is held. -/
def PageArrived (sha256 : JsString → JsString) (newest : Publication) (i : ℕ) (p : Projection) : Prop :=
  ∃ page, p.providerCatalogPages.get (providerCatalogPageKey newest.catalog.providerId
    (newest.revision sha256) i) = some page ∧ page.occurredAt = newest.publishedAt

def ManifestArrived (newest : Publication) (p : Projection) : Prop :=
  ∃ manifest, p.providerCatalogManifests.get newest.catalog.providerId = some manifest ∧
    manifest.occurredAt = newest.publishedAt

section Arrivals

variable {publications : List Publication} {newest : Publication}

theorem Latest.isDigest_revision (hl : Latest sha256 publications newest) (publication : Publication) :
    isDigest (publication.revision sha256) := hl.digest _

variable {page : ProjectedProviderCatalogPage}

section

variable (hf : Filed sha256 publications p) (hl : Latest sha256 publications newest)
include hf hl

/-- What a page says about itself under a key of the latest publication. -/
theorem Filed.page_of_key (h : p.providerCatalogPages.get (providerCatalogPageKey
      newest.catalog.providerId (newest.revision sha256) i) = some page) :
    page.providerId = newest.catalog.providerId ∧ page.revision = newest.revision sha256 ∧ page.pageIndex = i := by
  obtain ⟨publication,hpublication,pages,hpages,j,items,hj,heq⟩ := hf.page _ page h
  have hrevision : isDigest page.revision := by
    rw [heq]
    exact hl.isDigest_revision publication
  obtain ⟨hprovider,hrevision,hindex⟩ :=
    providerCatalogPageKey_inj (hl.isDigest_revision newest) hrevision (hf.pageKey _ page h)
  exact ⟨hprovider.symm,hrevision.symm,hindex.symm⟩

theorem Filed.occurredAt_le {key : JsString} (hget : p.providerCatalogPages.get key = some page)
    (hprovider : page.providerId = newest.catalog.providerId) : page.occurredAt ≤ newest.publishedAt := by
  obtain ⟨publication,hpublication,pages,hpages,j,items,hj,rfl⟩ := hf.page key page hget
  exact hl.le publication hpublication hprovider

/-- A page of another revision of the provider is older. -/
theorem Filed.occurredAt_lt
    (hpage : page ∈ p.providerCatalogPages.values) (hprovider : page.providerId = newest.catalog.providerId)
    (hrevision : page.revision ≠ newest.revision sha256) : page.occurredAt < newest.publishedAt := by
  obtain ⟨key,hget⟩ := mem_values.mp hpage
  have hle := hf.occurredAt_le hl hget hprovider
  obtain ⟨publication,hpublication,pages,hpages,j,items,hj,rfl⟩ := hf.page _ page hget
  have hne : publication.publishedAt ≠ newest.publishedAt := by
    intro heq
    apply hrevision
    show publication.catalog.revision sha256 = newest.catalog.revision sha256
    rw [hl.catalog publication hpublication hprovider heq]
  exact Nat.lt_of_le_of_ne hle hne

end

variable {manifest : ProjectedProviderCatalogManifest}

theorem Filed.manifest_occurredAt_le (hf : Filed sha256 publications p) (hl : Latest sha256 publications newest)
    (hget : p.providerCatalogManifests.get newest.catalog.providerId = some manifest) :
    manifest.occurredAt ≤ newest.publishedAt := by
  have hprovider := hf.manifestKey _ manifest hget
  obtain ⟨publication,hpublication,pages,hpages,rfl⟩ := hf.manifest _ manifest hget
  exact hl.le publication hpublication hprovider

theorem PageArrived.prune (hf : Filed sha256 publications p) (hl : Latest sha256 publications newest)
    (h : PageArrived sha256 newest i p) (providerId : JsString) :
    PageArrived sha256 newest i (p.pruneProviderCatalogPages providerId) := by
  obtain ⟨page,hget,htime⟩ := h
  obtain ⟨hprovider,hrevision,hindex⟩ := hf.page_of_key hl hget
  refine ⟨page,?_,htime⟩
  rw [Projection.pages_prune,get_filter]
  refine ⟨hget,?_⟩
  rw [Bool.or_eq_true,decide_eq_true_eq,decide_eq_true_eq]
  by_cases hp : page.providerId = providerId
  · right
    rw [← hp]
    apply Projection.mem_retainedRevisions (mem_values.mpr ⟨_,hget⟩)
    intro other hother hsame hne
    rw [htime]
    exact hf.occurredAt_lt hl hother (hsame.trans hprovider) (by rw [← hrevision]; exact hne)
  · exact .inl hp

theorem pageArrived_filePage (hprovider : publication.catalog.providerId = newest.catalog.providerId)
    (hrevision : publication.revision sha256 = newest.revision sha256)
    (htime : publication.publishedAt = newest.publishedAt) (pageCount i : ℕ) (items : List Json) :
    PageArrived sha256 newest i (p.filePage (filedPage sha256 publication pageCount i items)) := by
  refine ⟨filedPage sha256 publication pageCount i items,?_,htime⟩
  rw [← hprovider,← hrevision]
  exact get_set_self _ _ _

theorem PageArrived.filePage (hl : Latest sha256 publications newest) (h : PageArrived sha256 newest i p)
    (hpublication : publication ∈ publications) {pageCount j : ℕ}
    (hnewer : ∀ current,p.providerCatalogPages.get (providerCatalogPageKey publication.catalog.providerId
      (publication.revision sha256) j) = some current → current.occurredAt ≤ publication.publishedAt) :
    PageArrived sha256 newest i (p.filePage (filedPage sha256 publication pageCount j items)) := by
  obtain ⟨page,hget,htime⟩ := h
  by_cases hkey : providerCatalogPageKey newest.catalog.providerId (newest.revision sha256) i =
      providerCatalogPageKey publication.catalog.providerId (publication.revision sha256) j
  · obtain ⟨hprovider,hrevision,rfl⟩ :=
      providerCatalogPageKey_inj (hl.isDigest_revision newest) (hl.isDigest_revision publication) hkey
    have hle := hl.le publication hpublication hprovider.symm
    have hge := hnewer page (by rw [← hkey]; exact hget)
    rw [htime] at hge
    exact pageArrived_filePage hprovider.symm hrevision.symm (Nat.le_antisymm hle hge) pageCount i items
  · refine ⟨page,?_,htime⟩
    exact (get_set_of_ne _ _ hkey).trans hget

theorem manifestArrived_fileManifest (hprovider : publication.catalog.providerId = newest.catalog.providerId)
    (htime : publication.publishedAt = newest.publishedAt) (pageCount : ℕ) :
    ManifestArrived newest (p.fileManifest (filedManifest sha256 publication pageCount)) := by
  refine ⟨filedManifest sha256 publication pageCount,?_,htime⟩
  rw [← hprovider]
  exact get_set_self _ _ _

section

variable (hl : Latest sha256 publications newest)
include hl

theorem ManifestArrived.fileManifest
    (h : ManifestArrived newest p) (hpublication : publication ∈ publications) {pageCount : ℕ}
    (hnewer : ∀ current,p.providerCatalogManifests.get publication.catalog.providerId = some current →
      current.occurredAt ≤ publication.publishedAt) :
    ManifestArrived newest (p.fileManifest (filedManifest sha256 publication pageCount)) := by
  obtain ⟨manifest,hget,htime⟩ := h
  by_cases hkey : newest.catalog.providerId = publication.catalog.providerId
  · have hle := hl.le publication hpublication hkey.symm
    have hge := hnewer manifest (by rw [← hkey]; exact hget)
    rw [htime] at hge
    exact manifestArrived_fileManifest hkey.symm (Nat.le_antisymm hle hge) pageCount
  · refine ⟨manifest,?_,htime⟩
    exact (get_set_of_ne _ _ hkey).trans hget

/-- What one event does to the pages and the manifest of the latest publication. -/
structure Advances (sha256 : JsString → JsString) (newest : Publication) (event : Event) (p p' : Projection) :
    Prop where
  pageKept : ∀ i, PageArrived sha256 newest i p → PageArrived sha256 newest i p'
  manifestKept : ManifestArrived newest p → ManifestArrived newest p'
  pageArrives : ∀ pageCount i items, event = pageEvent sha256 newest pageCount i items →
    PageArrived sha256 newest i p'
  manifestArrives : ∀ pageCount, event = manifestEvent sha256 newest pageCount → ManifestArrived newest p'

variable {pages : List (List Json)}

theorem advances_pageEvent (hf : Filed sha256 publications p) (hpublication : publication ∈ publications)
    (hpages : providerCatalogPages publication.catalog.models = .ok pages)
    (hi : pages[i]? = some items) (physicalEventId : JsString) :
    ∃ p' changed, p.applyEvent host (pageEvent sha256 publication pages.length i items) physicalEventId none =
      .ok (p',changed) ∧ Filed sha256 publications p' ∧
      Advances sha256 newest (pageEvent sha256 publication pages.length i items) p p' := by
  -- An event of the latest publication has its provider, revision, index and time.
  have hsame : ∀ pageCount j items',pageEvent sha256 publication pages.length i items =
      pageEvent sha256 newest pageCount j items' → publication.catalog.providerId = newest.catalog.providerId ∧
        publication.revision sha256 = newest.revision sha256 ∧ i = j ∧
        publication.publishedAt = newest.publishedAt := by
    intro pageCount j items' heq
    have hpayload := EventPayload.providerCatalogPage.inj (congrArg payload heq)
    exact ⟨congrArg ProviderCatalogPage.providerId hpayload,congrArg ProviderCatalogPage.revision hpayload,
      congrArg ProviderCatalogPage.pageIndex hpayload,congrArg Event.occurredAt heq⟩
  obtain ⟨p',changed,happly,⟨rfl,current,hget,hle⟩ | ⟨rfl,hnewer⟩⟩ :=
    applyEvent_pageEvent sha256 host p publication pages.length i items physicalEventId
  · refine ⟨_,changed,happly,hf.markSeen _,fun j h => h,fun h => h,?_,?_⟩
    · intro pageCount j items' heq
      obtain ⟨hprovider,hrevision,rfl,htime⟩ := hsame pageCount j items' heq
      rw [hprovider,hrevision] at hget
      obtain ⟨hcurrent,-,-⟩ := hf.page_of_key hl hget
      refine ⟨current,hget,Nat.le_antisymm (hf.occurredAt_le hl hget hcurrent) ?_⟩
      rw [← htime]
      exact hle
    · intro pageCount heq
      cases congrArg payload heq
  · have hfiled := hf.filePage hpublication hpages hi
    refine ⟨_,changed,happly,(hfiled.prune _).markSeen _,fun j h => ?_,fun h => h,?_,?_⟩
    · exact (h.filePage hl hpublication hnewer).prune hfiled hl _
    · intro pageCount j items' heq
      obtain ⟨hprovider,hrevision,rfl,htime⟩ := hsame pageCount j items' heq
      exact (pageArrived_filePage hprovider hrevision htime _ _ _).prune hfiled hl _
    · intro pageCount heq
      cases congrArg payload heq

theorem advances_manifestEvent (hf : Filed sha256 publications p) (hpublication : publication ∈ publications)
    (hpages : providerCatalogPages publication.catalog.models = .ok pages) (physicalEventId : JsString) :
    ∃ p' changed, p.applyEvent host (manifestEvent sha256 publication pages.length) physicalEventId none =
      .ok (p',changed) ∧ Filed sha256 publications p' ∧
      Advances sha256 newest (manifestEvent sha256 publication pages.length) p p' := by
  have hsame : ∀ pageCount,manifestEvent sha256 publication pages.length = manifestEvent sha256 newest pageCount →
      publication.catalog.providerId = newest.catalog.providerId ∧
        publication.publishedAt = newest.publishedAt := by
    intro pageCount heq
    have hpayload := EventPayload.providerCatalogManifest.inj (congrArg payload heq)
    exact ⟨congrArg ProviderCatalogManifest.providerId hpayload,congrArg Event.occurredAt heq⟩
  obtain ⟨p',changed,happly,⟨rfl,current,hget,hle⟩ | ⟨rfl,hnewer⟩⟩ :=
    applyEvent_manifestEvent sha256 host p publication pages.length physicalEventId
  · refine ⟨_,changed,happly,hf.markSeen _,fun j h => h,fun h => h,?_,?_⟩
    · intro pageCount j items heq
      cases congrArg payload heq
    · intro pageCount heq
      obtain ⟨hprovider,htime⟩ := hsame pageCount heq
      rw [hprovider] at hget
      refine ⟨current,hget,Nat.le_antisymm (hf.manifest_occurredAt_le hl hget) ?_⟩
      rw [← htime]
      exact hle
  · have hfiled := hf.fileManifest hpublication hpages
    refine ⟨_,changed,happly,(hfiled.prune _).markSeen _,fun j h => ?_,fun h => ?_,?_,?_⟩
    · have hkept : PageArrived sha256 newest j (p.fileManifest (filedManifest sha256 publication pages.length)) := h
      exact hkept.prune hfiled hl _
    · exact h.fileManifest hl hpublication hnewer
    · intro pageCount j items heq
      cases congrArg payload heq
    · intro pageCount heq
      obtain ⟨hprovider,htime⟩ := hsame pageCount heq
      exact manifestArrived_fileManifest hprovider htime _

variable (host) in
/-- Every event of a publication is applied. -/
theorem advances_applyEvent (hf : Filed sha256 publications p)
    (hevent : IsPublished sha256 publications event) (physicalEventId : JsString) :
    ∃ p' changed, p.applyEvent host event physicalEventId none = .ok (p',changed) ∧
      Filed sha256 publications p' ∧ Advances sha256 newest event p p' := by
  obtain ⟨publication,hpublication,published,hpublished,hmem⟩ := hevent
  obtain ⟨pages,hpages,hevents⟩ := mem_publishProviderCatalog hpublished
  rcases (hevents event).mp hmem with ⟨i,items,hi,rfl⟩ | rfl
  · exact advances_pageEvent hl hf hpublication hpages hi physicalEventId
  · exact advances_manifestEvent hl hf hpublication hpages physicalEventId

variable (host) in
theorem applyEvents_arrived {events : List (Event × JsString)} (hf : Filed sha256 publications p)
    (hevents : ∀ e ∈ events,IsPublished sha256 publications e.1) :
    ∃ p', p.applyEvents host events = .ok p' ∧ Filed sha256 publications p' ∧
      (∀ i,PageArrived sha256 newest i p → PageArrived sha256 newest i p') ∧
      (ManifestArrived newest p → ManifestArrived newest p') ∧
      (∀ pageCount i items,pageEvent sha256 newest pageCount i items ∈ events.map Prod.fst →
        PageArrived sha256 newest i p') ∧
      ∀ pageCount, manifestEvent sha256 newest pageCount ∈ events.map Prod.fst → ManifestArrived newest p' := by
  induction events generalizing p with
  | nil =>
    refine ⟨p,rfl,hf,fun i h => h,fun h => h,fun pageCount i items h => ?_,fun pageCount h => ?_⟩
    · cases h
    · cases h
  | cons e events ih =>
    obtain ⟨event,physicalEventId⟩ := e
    obtain ⟨p₁,changed,happly,hf₁,hadvances⟩ := advances_applyEvent host hl hf (hevents _ mem_cons_self) physicalEventId
    obtain ⟨p',hrun,hf',hpages,hmanifest,hpageEvents,hmanifestEvents⟩ :=
      ih hf₁ (fun e he => hevents e (mem_cons_of_mem _ he))
    refine ⟨p',?_,hf',fun i h => hpages i (hadvances.pageKept i h),
      fun h => hmanifest (hadvances.manifestKept h),?_,?_⟩
    · rw [Projection.applyEvents,happly]
      exact hrun
    · intro pageCount i items h
      rcases mem_cons.mp h with h | h
      · exact hpages i (hadvances.pageArrives pageCount i items h.symm)
      · exact hpageEvents pageCount i items h
    · intro pageCount h
      rcases mem_cons.mp h with h | h
      · exact hmanifest (hadvances.manifestArrives pageCount h.symm)
      · exact hmanifestEvents pageCount h

end

variable {catalog : ProjectedProviderModelCatalog}

theorem Filed.shown_manifest (hf : Filed sha256 publications p) (h : catalog ∈ p.providerModelCatalogs) :
    ∃ manifest, p.providerCatalogManifests.get catalog.providerId =
      some manifest ∧ catalog = p.catalogOf manifest := by
  obtain ⟨manifest,hmanifest,rfl⟩ := mem_map.mp h
  obtain ⟨key,hget⟩ := mem_values.mp hmanifest
  obtain rfl := hf.manifestKey key manifest hget
  exact ⟨manifest,hget,rfl⟩

theorem mem_pagesOf :
    page ∈ p.pagesOf manifest ↔ page ∈ p.providerCatalogPages.values ∧ page.providerId = manifest.providerId ∧
      page.revision = manifest.revision ∧ page.pageCount = manifest.pageCount := by
  rw [Projection.pagesOf,mem_insertionSort,mem_filter,Bool.and_eq_true,Bool.and_eq_true,
    decide_eq_true_eq,decide_eq_true_eq,decide_eq_true_eq,and_assoc]

theorem mem_models_catalogOf {model : Json} (h : model ∈ (p.catalogOf manifest).models) :
    ∃ page ∈ p.pagesOf manifest, model ∈ page.items := by
  simp only [Projection.catalogOf] at h
  split at h
  · split at h
    · exact mem_flatMap.mp h
    · cases h
  · rw [ite_self] at h
    cases h

theorem Filed.published_model (hf : Filed sha256 publications p) (hcatalog : catalog ∈ p.providerModelCatalogs)
    {model : Json} (hmodel : model ∈ catalog.models) :
    ∃ publication ∈ publications, publication.catalog.providerId = catalog.providerId ∧
      publication.revision sha256 = catalog.revision ∧ model ∈ publication.catalog.models := by
  obtain ⟨manifest,hget,rfl⟩ := hf.shown_manifest hcatalog
  obtain ⟨page,hpage,hitem⟩ := mem_models_catalogOf hmodel
  obtain ⟨hvalue,hprovider,hrevision,-⟩ := mem_pagesOf.mp hpage
  obtain ⟨key,hpageGet⟩ := mem_values.mp hvalue
  obtain ⟨publication,hpublication,pages,hpages,i,items,hi,rfl⟩ := hf.page key page hpageGet
  refine ⟨publication,hpublication,hprovider,hrevision,?_⟩
  rw [← flatten_providerCatalogPages hpages]
  exact mem_flatten.mpr ⟨items,mem_of_getElem? hi,hitem⟩

theorem eq_singleton_of_nodup {α : Type} {l : List α} {a : α} (hn : l.Nodup) (h : ∀ b,b ∈ l ↔ b = a) : l = [a] := by
  apply perm_singleton.mp
  rw [perm_ext_iff_of_nodup hn (nodup_singleton a)]
  intro b
  rw [h b,mem_singleton]

theorem Filed.nodup_pages (hf : Filed sha256 publications p) : p.providerCatalogPages.values.Nodup := by
  apply List.Nodup.of_map (fun page => providerCatalogPageKey page.providerId page.revision page.pageIndex)
  have hkeys : p.providerCatalogPages.values.map
      (fun page => providerCatalogPageKey page.providerId page.revision page.pageIndex) =
        p.providerCatalogPages.keys := by
    rw [values,InsertionMap.keys,map_map]
    apply map_congr_left
    intro e he
    exact (hf.pageKey e.1 e.2 (get_eq_some.mpr he)).symm
  rw [hkeys]
  exact p.providerCatalogPages.nodup_keys

theorem Filed.filter_catalogs (hf : Filed sha256 publications p) {providerId : JsString}
    (hget : p.providerCatalogManifests.get providerId = some manifest) :
    p.providerModelCatalogs.filter (fun catalog => catalog.providerId = providerId) = [p.catalogOf manifest] := by
  have hkeys : p.providerCatalogManifests.values.map (·.providerId) = p.providerCatalogManifests.keys := by
    rw [values,InsertionMap.keys,map_map]
    apply map_congr_left
    intro e he
    exact hf.manifestKey e.1 e.2 (get_eq_some.mpr he)
  have hnodup : p.providerCatalogManifests.values.Nodup := by
    apply List.Nodup.of_map (·.providerId)
    rw [hkeys]
    exact p.providerCatalogManifests.nodup_keys
  rw [Projection.providerModelCatalogs,filter_map]
  have hsingle : p.providerCatalogManifests.values.filter
      ((fun catalog => decide (catalog.providerId = providerId)) ∘ p.catalogOf) = [manifest] := by
    apply eq_singleton_of_nodup (hnodup.filter _)
    intro other
    rw [mem_filter,Function.comp_apply,decide_eq_true_eq]
    constructor
    · rintro ⟨hother,hprovider⟩
      obtain ⟨key,hkey⟩ := mem_values.mp hother
      have hsame : key = providerId := (hf.manifestKey key other hkey).symm.trans hprovider
      rw [hsame,hget] at hkey
      exact (some.inj hkey).symm
    · rintro rfl
      exact ⟨mem_values.mpr ⟨providerId,hget⟩,hf.manifestKey providerId other hget⟩
  rw [hsingle]
  rfl

/-- The pages of the revision that is shown are those of the latest publication, in their order. -/
theorem Filed.pagesOf_newest (hf : Filed sha256 publications p) (hl : Latest sha256 publications newest)
    (hpages : providerCatalogPages newest.catalog.models = .ok pages)
    (harrived : ∀ i < pages.length,PageArrived sha256 newest i p)
    (hprovider : manifest.providerId = newest.catalog.providerId)
    (hrevision : manifest.revision = newest.revision sha256) (hcount : manifest.pageCount = pages.length) :
    (p.pagesOf manifest).map (·.pageIndex) = range pages.length ∧
      ∀ page ∈ p.pagesOf manifest, pages[page.pageIndex]? = some page.items := by
  -- A page of the revision has an index of the publication.
  have hindex : ∀ page ∈ p.pagesOf manifest,page.pageIndex < pages.length := by
    intro page hpage
    obtain ⟨hvalue,-,hr,-⟩ := mem_pagesOf.mp hpage
    obtain ⟨key,hget⟩ := mem_values.mp hvalue
    obtain ⟨publication,hpublication,pages',hpages',i,items,hi,rfl⟩ := hf.page key page hget
    have hcontents := hl.contents publication hpublication (hr.trans hrevision)
    rw [← length_pages_of_contents hcontents hpages' hpages]
    exact (List.getElem?_eq_some_iff.mp hi).1
  have hkey : ∀ page ∈ p.pagesOf manifest,p.providerCatalogPages.get (providerCatalogPageKey
      newest.catalog.providerId (newest.revision sha256) page.pageIndex) = some page := by
    intro page hpage
    obtain ⟨hvalue,hpr,hr,-⟩ := mem_pagesOf.mp hpage
    obtain ⟨key,hget⟩ := mem_values.mp hvalue
    rw [← hprovider,← hrevision,← hpr,← hr,← hf.pageKey key page hget]
    exact hget
  have hitems : ∀ page ∈ p.pagesOf manifest,pages[page.pageIndex]? = some page.items := by
    intro page hpage
    obtain ⟨page',hget',htime⟩ := harrived page.pageIndex (hindex page hpage)
    have hget := hkey page hpage
    obtain rfl : page = page' := some.inj (hget.symm.trans hget')
    obtain ⟨hpr,-,-⟩ := hf.page_of_key hl hget
    obtain ⟨publication,hpublication,pages',hpages',i,items,hi,heq⟩ := hf.page _ page hget
    rw [heq] at hpr htime ⊢
    rw [hl.catalog publication hpublication hpr htime,hpages] at hpages'
    rw [Except.ok.inj hpages']
    exact hi
  refine ⟨?_,hitems⟩
  have hnodup : ((p.pagesOf manifest).map (·.pageIndex)).Nodup := by
    have hvalues : (p.pagesOf manifest).Nodup := (perm_insertionSort _ _).nodup_iff.mpr (hf.nodup_pages.filter _)
    apply hvalues.map_on
    intro page hpage page' hpage' hsame
    have hget := hkey page hpage
    rw [hsame,hkey page' hpage'] at hget
    exact (some.inj hget).symm
  have hperm : ((p.pagesOf manifest).map (·.pageIndex)).Perm (range pages.length) := by
    rw [perm_ext_iff_of_nodup hnodup nodup_range]
    intro i
    rw [mem_map,mem_range]
    constructor
    · rintro ⟨page,hpage,rfl⟩
      exact hindex page hpage
    · intro hi
      obtain ⟨page,hget,htime⟩ := harrived i hi
      obtain ⟨hpr,hr,hidx⟩ := hf.page_of_key hl hget
      refine ⟨page,mem_pagesOf.mpr ⟨mem_values.mpr ⟨_,hget⟩,hpr.trans hprovider.symm,hr.trans hrevision.symm,?_⟩,hidx⟩
      obtain ⟨publication,hpublication,pages',hpages',j,items,hj,heq⟩ := hf.page _ page hget
      rw [heq] at hr ⊢
      rw [hcount]
      exact length_pages_of_contents (hl.contents publication hpublication hr) hpages' hpages
  have htotal : Std.Total (fun left right : ProjectedProviderCatalogPage => left.pageIndex ≤ right.pageIndex) :=
    ⟨fun left right => Nat.le_total left.pageIndex right.pageIndex⟩
  have htrans : IsTrans ProjectedProviderCatalogPage (fun left right => left.pageIndex ≤ right.pageIndex) :=
    ⟨fun _ _ _ h h' => Nat.le_trans h h'⟩
  have hsorted : ((p.pagesOf manifest).map (·.pageIndex)).Pairwise (· ≤ ·) :=
    pairwise_map.mpr (pairwise_insertionSort _ _)
  exact hperm.eq_of_pairwise' hsorted pairwise_le_range

theorem catalogOf_complete (hindexes : (p.pagesOf manifest).map (·.pageIndex) = range manifest.pageCount)
    (hcount : ((p.pagesOf manifest).flatMap (·.items)).length = manifest.itemCount) :
    p.catalogOf manifest =
      { providerId := manifest.providerId
        revision := manifest.revision
        status := manifest.status
        itemCount := manifest.itemCount
        pageCount := manifest.pageCount
        error := manifest.error
        occurredAt := manifest.occurredAt
        complete := true
        models := (p.pagesOf manifest).flatMap (·.items) } := by
  have hlength : (p.pagesOf manifest).length = manifest.pageCount := by
    have h := congrArg List.length hindexes
    rw [length_map,length_range] at h
    exact h
  simp only [Projection.catalogOf,hlength,hindexes,hcount,decide_true,Bool.and_self,if_true]

variable (sha256) in
def publishedCatalog (publication : Publication) (pageCount : ℕ) : ProjectedProviderModelCatalog where
  providerId := publication.catalog.providerId
  revision := publication.revision sha256
  status := publication.catalog.status
  itemCount := publication.catalog.models.length
  pageCount
  error := publication.catalog.error
  occurredAt := publication.publishedAt
  complete := true
  models := publication.catalog.models

theorem Filed.catalogOf_newest (hf : Filed sha256 publications p) (hl : Latest sha256 publications newest)
    (hpages : providerCatalogPages newest.catalog.models = .ok pages)
    (harrived : ∀ i < pages.length,PageArrived sha256 newest i p)
    (hget : p.providerCatalogManifests.get newest.catalog.providerId = some manifest)
    (htime : manifest.occurredAt = newest.publishedAt) :
    p.catalogOf manifest = publishedCatalog sha256 newest pages.length := by
  have hprovider := hf.manifestKey _ manifest hget
  obtain ⟨publication,hpublication,pages',hpages',rfl⟩ := hf.manifest _ manifest hget
  have hcatalog := hl.catalog publication hpublication hprovider htime
  have hrevision : publication.revision sha256 = newest.revision sha256 := by
    rw [Publication.revision,Publication.revision,hcatalog]
  rw [hcatalog,hpages] at hpages'
  obtain rfl := Except.ok.inj hpages'
  obtain ⟨hindexes,hitems⟩ := hf.pagesOf_newest hl hpages harrived hprovider hrevision rfl
  have hmodels : (p.pagesOf (filedManifest sha256 publication pages.length)).flatMap (·.items) =
      newest.catalog.models := by
    rw [flatMap_def,map_eq_of_indexes hindexes hitems,flatten_providerCatalogPages hpages]
  rw [catalogOf_complete hindexes (by rw [hmodels,← hcatalog]; rfl),hmodels,publishedCatalog,← hcatalog,
    ← hrevision,← htime]
  rfl

/-- Whatever the order and the repetitions of the events, a model that is shown was published for the provider
and the revision that is shown, and once all events of the latest publication arrived its models are shown. -/
theorem providerModelCatalogs_reassembled (host : Host) {events : List (Event × JsString)}
    (hl : Latest sha256 publications newest) (hevents : ∀ e ∈ events,IsPublished sha256 publications e.1)
    {newestEvents : List Event} (hnewest : publishProviderCatalog sha256 newest = .ok newestEvents) :
    ∃ p, Projection.empty.applyEvents host events = .ok p ∧
      (∀ catalog ∈ p.providerModelCatalogs,∀ model ∈ catalog.models,∃ publication ∈ publications,
        publication.catalog.providerId = catalog.providerId ∧ publication.revision sha256 = catalog.revision ∧
          model ∈ publication.catalog.models) ∧
      (newestEvents ⊆ events.map Prod.fst →
        p.providerModelCatalogs.filter (fun catalog => catalog.providerId = newest.catalog.providerId) =
          [publishedCatalog sha256 newest (newestEvents.length - 1)]) := by
  obtain ⟨p,hrun,hf,-,-,hpageEvents,hmanifestEvents⟩ := applyEvents_arrived host hl Filed.empty hevents
  refine ⟨p,hrun,fun catalog hcatalog model hmodel => hf.published_model hcatalog hmodel,fun hall => ?_⟩
  obtain ⟨pages,hpages,hmem⟩ := mem_publishProviderCatalog hnewest
  have hlength : newestEvents.length - 1 = pages.length := by
    rw [length_publishProviderCatalog hnewest hpages,Nat.add_sub_cancel]
  have harrived : ∀ i < pages.length,PageArrived sha256 newest i p := by
    intro i hi
    have hevent := (hmem _).mpr (.inl ⟨i,pages[i],getElem?_eq_getElem hi,rfl⟩)
    exact hpageEvents pages.length i pages[i] (hall hevent)
  obtain ⟨manifest,hget,htime⟩ := hmanifestEvents pages.length (hall ((hmem _).mpr (.inr rfl)))
  rw [hf.filter_catalogs hget,hf.catalogOf_newest hl hpages harrived hget htime,hlength]

end Arrivals

def sampleCatalog (model : JsString) : ProviderModelCatalogSource where
  providerId := "codex"
  status := .ready
  error := none
  models := [.obj [("id",.str model)]]

/-- The digests of the two catalogs of the sample. -/
def sampleSha256 (text : JsString) : JsString :=
  if text = (sampleCatalog "gpt-1").contents then "Fs8aW0hiYj2e7VWxHukyh0DpdK3qJwOLeT0fNvM265o"
  else if text = (sampleCatalog "gpt-2").contents then "bcgBinKOtzKQAIrjQIZNHKbqKVMt196Tuonp26XLQx8"
  else ⟨replicate 43 65⟩

def samplePublication (model : JsString) (publishedAt : ℕ) : Publication where
  catalog := sampleCatalog model
  workspaceId := "workspace"
  projectId := "project"
  publishedAt

/-- The manifest arrives before its page, among the events of an older catalog, and the page arrives twice. -/
def sampleEvents : List Event :=
  let older := samplePublication "gpt-1" 10
  let newest := samplePublication "gpt-2" 20
  [manifestEvent sampleSha256 newest 1,pageEvent sampleSha256 older 1 0 older.catalog.models,
    pageEvent sampleSha256 newest 1 0 newest.catalog.models,manifestEvent sampleSha256 older 1,
    pageEvent sampleSha256 newest 1 0 newest.catalog.models]

theorem isDigest_sampleSha256 (text : JsString) : isDigest (sampleSha256 text) := by
  rw [sampleSha256]
  split
  · decide
  · split
    · decide
    · decide

theorem latest_sample : Latest sampleSha256 [samplePublication "gpt-1" 10,samplePublication "gpt-2" 20]
    (samplePublication "gpt-2" 20) where
  digest := isDigest_sampleSha256
  le publication hpublication _ := by
    rcases mem_pair.mp hpublication with rfl | rfl
    · decide
    · exact Nat.le_refl _
  catalog publication hpublication _ htime := by
    rcases mem_pair.mp hpublication with rfl | rfl
    · cases htime
    · rfl
  contents publication hpublication hrevision := by
    rcases mem_pair.mp hpublication with rfl | rfl
    · exact absurd hrevision (by decide)
    · rfl

theorem publishProviderCatalog_sample (model : JsString) (publishedAt : ℕ) :
    publishProviderCatalog sampleSha256 (samplePublication model publishedAt) = .ok
      [pageEvent sampleSha256 (samplePublication model publishedAt) 1 0 (sampleCatalog model).models,
        manifestEvent sampleSha256 (samplePublication model publishedAt) 1] := by
  have hopen : ¬ pageIsFull [] 2 (.obj [("id",.str model)]) := fun h => Nat.lt_irrefl 0 h.1
  have hpages : providerCatalogPages (sampleCatalog model).models = .ok [(sampleCatalog model).models] := by
    simp only [providerCatalogPages,sampleCatalog,cutPages,if_neg hopen]
    rfl
  rw [publishProviderCatalog,samplePublication,hpages,ok_bind,mapIdx_singleton]
  rfl

theorem isPublished_sample : ∀ e ∈ sampleEvents.map (fun event => (event,("$event" : JsString))),
    IsPublished sampleSha256 [samplePublication "gpt-1" 10,samplePublication "gpt-2" 20] e.1 := by
  intro e he
  obtain ⟨event,hevent,rfl⟩ := mem_map.mp he
  simp only [sampleEvents,mem_cons,not_mem_nil,or_false] at hevent
  have holder := publishProviderCatalog_sample "gpt-1" 10
  have hnewest := publishProviderCatalog_sample "gpt-2" 20
  rcases hevent with rfl | rfl | rfl | rfl | rfl
  · exact ⟨_,mem_cons_of_mem _ mem_cons_self,_,hnewest,mem_cons_of_mem _ mem_cons_self⟩
  · exact ⟨_,mem_cons_self,_,holder,mem_cons_self⟩
  · exact ⟨_,mem_cons_of_mem _ mem_cons_self,_,hnewest,mem_cons_self⟩
  · exact ⟨_,mem_cons_self,_,holder,mem_cons_of_mem _ mem_cons_self⟩
  · exact ⟨_,mem_cons_of_mem _ mem_cons_self,_,hnewest,mem_cons_self⟩

theorem providerModelCatalogs_reassembled_sample :
    ∃ p, Projection.empty.applyEvents ⟨fun _ _ => 0⟩ (sampleEvents.map fun event => (event,"$event")) = .ok p ∧
      p.providerModelCatalogs.filter
        (fun catalog => catalog.providerId = (samplePublication "gpt-2" 20).catalog.providerId) =
        [publishedCatalog sampleSha256 (samplePublication "gpt-2" 20) 1] := by
  obtain ⟨p,hrun,-,hshown⟩ := providerModelCatalogs_reassembled ⟨fun _ _ => 0⟩ latest_sample
    isPublished_sample (publishProviderCatalog_sample "gpt-2" 20)
  refine ⟨p,hrun,hshown fun event hevent => ?_⟩
  have hfst : (sampleEvents.map fun event => (event,("$event" : JsString))).map Prod.fst = sampleEvents := rfl
  rw [hfst]
  rcases mem_pair.mp hevent with rfl | rfl
  · exact mem_cons_of_mem _ (mem_cons_of_mem _ mem_cons_self)
  · exact mem_cons_self

end Malink.Client
