import Malink.CanonicalJson
import Malink.CheckedResults
import Malink.Mlp3Messages
import Malink.OutboxWal

/-!
# The publication of a model catalog

The Gateway cuts the models of a provider into pages, names the catalog by a digest of its contents, and
publishes the pages and then a manifest that counts them.
-/

namespace Malink.Catalogs

open Mlp3

/-- `PROVIDER_CATALOG_PAGE_BUDGET_BYTES` -/
def pageBudgetBytes : ℕ := 20 * 1024

/-- `PROVIDER_CATALOG_PAGE_ITEM_LIMIT` -/
def pageItemLimit : ℕ := 64

/-- The bytes of a model in its page, with a comma. -/
def itemBytes (model : Json) : ℕ := Outbox.byteLength (Json.stringify (Json.sortKeys model)) + 1

def pageIsFull (page : List Json) (bytes : ℕ) (model : Json) : Prop :=
  0 < page.length ∧ (pageItemLimit ≤ page.length ∨ pageBudgetBytes < bytes + itemBytes model)

instance (page : List Json) (bytes : ℕ) (model : Json) : Decidable (pageIsFull page bytes model) :=
  inferInstanceAs (Decidable (_ ∧ _))

/-- The loop over the models, with the pages that are closed and the page that is open. -/
def cutPages (pages : List (List Json)) (page : List Json) (bytes : ℕ) : List Json → List (List Json)
  | [] => if 0 < page.length then pages ++ [page] else pages
  | model :: models =>
    if pageIsFull page bytes model then cutPages (pages ++ [page]) [model] (2 + itemBytes model) models
    else cutPages pages (page ++ [model]) (bytes + itemBytes model) models

inductive CatalogError
  | tooManyPages
  deriving DecidableEq

def CatalogError.message : CatalogError → JsString
  | tooManyPages => "Provider model catalog exceeds the supported page count"

def providerCatalogPages (models : List Json) : Except CatalogError (List (List Json)) :=
  let pages := cutPages [] [] 2 models
  if 4096 < pages.length then .error .tooManyPages else .ok pages

structure ProviderModelCatalogSource where
  providerId : JsString
  status : CatalogStatus
  error : Option Json
  models : List Json

def statusText : CatalogStatus → JsString
  | .loading => "loading"
  | .ready => "ready"
  | .stale => "stale"
  | .error => "error"

variable (sha256 : JsString → JsString)

def ProviderModelCatalogSource.members (catalog : ProviderModelCatalogSource) : List (JsString × Option Json) :=
  [("providerId",some (.str catalog.providerId)),("status",some (.str (statusText catalog.status))),
    ("error",catalog.error),("models",some (.arr catalog.models))]

/-- The text that names a revision. -/
def ProviderModelCatalogSource.contents (catalog : ProviderModelCatalogSource) : JsString :=
  Json.canonicalJson (Json.ofOptions catalog.members)

def ProviderModelCatalogSource.revision (catalog : ProviderModelCatalogSource) : JsString := sha256 catalog.contents

/-- One call of `publishProviderCatalog`: for a project, at a time. -/
structure Publication where
  catalog : ProviderModelCatalogSource
  workspaceId : JsString
  projectId : JsString
  publishedAt : ℕ

def Publication.revision (publication : Publication) : JsString := publication.catalog.revision sha256

def logicalProviderCatalogEventId (publication : Publication) (part : JsString) : JsString :=
  let separator : JsString := ⟨[0]⟩
  sha256 (("malink-v3-provider-catalog" : JsString) ++ separator ++ publication.workspaceId ++ separator ++
    publication.projectId ++ separator ++ publication.catalog.providerId ++ separator ++
    publication.revision sha256 ++ separator ++ part ++ separator ++ JsString.ofNat publication.publishedAt)

def catalogEvent (publication : Publication) (part : JsString) (payload : EventPayload) : Event where
  eventId := logicalProviderCatalogEventId sha256 publication part
  workspaceId := publication.workspaceId
  projectId := some publication.projectId
  sessionId := none
  occurredAt := publication.publishedAt
  causationCommandId := none
  payload := payload

def pagePayload (publication : Publication) (pageCount pageIndex : ℕ) (items : List Json) : ProviderCatalogPage where
  providerId := publication.catalog.providerId
  revision := publication.revision sha256
  pageIndex
  pageCount
  items

def pageEvent (publication : Publication) (pageCount pageIndex : ℕ) (items : List Json) : Event :=
  catalogEvent sha256 publication (("page:" : JsString) ++ JsString.ofNat pageIndex)
    (.providerCatalogPage (pagePayload sha256 publication pageCount pageIndex items))

def manifestPayload (publication : Publication) (pageCount : ℕ) : ProviderCatalogManifest where
  providerId := publication.catalog.providerId
  revision := publication.revision sha256
  status := publication.catalog.status
  itemCount := publication.catalog.models.length
  pageCount
  error := publication.catalog.error

def manifestEvent (publication : Publication) (pageCount : ℕ) : Event :=
  catalogEvent sha256 publication "manifest" (.providerCatalogManifest (manifestPayload sha256 publication pageCount))

def publishProviderCatalog (publication : Publication) : Except CatalogError (List Event) := do
  let pages ← providerCatalogPages publication.catalog.models
  .ok (pages.mapIdx (fun pageIndex items => pageEvent sha256 publication pages.length pageIndex items) ++
    [manifestEvent sha256 publication pages.length])

theorem flatten_cutPages (models : List Json) (pages : List (List Json)) (page : List Json) (bytes : ℕ) :
    (cutPages pages page bytes models).flatten = pages.flatten ++ page ++ models := by
  induction models generalizing pages page bytes with
  | nil =>
    rw [cutPages]
    split
    · simp
    · next h =>
      have hpage : page = [] := List.length_eq_zero_iff.mp (Nat.eq_zero_of_not_pos h)
      simp [hpage]
  | cons model models ih =>
    rw [cutPages]
    split
    · rw [ih]
      simp
    · rw [ih]
      simp

variable {models : List Json} {pages : List (List Json)}

theorem eq_cutPages (h : providerCatalogPages models = .ok pages) : pages = cutPages [] [] 2 models := by
  simp only [providerCatalogPages] at h
  split at h
  · cases h
  · exact (Except.ok.inj h).symm

theorem flatten_providerCatalogPages (h : providerCatalogPages models = .ok pages) : pages.flatten = models := by
  rw [eq_cutPages h]
  exact flatten_cutPages models [] [] 2

variable {models' : List Json} {pages' : List (List Json)}

theorem length_cutPages_congr (h : models.map itemBytes = models'.map itemBytes) {page page' : List Json} {bytes : ℕ}
    (hpages : pages.length = pages'.length) (hpage : page.length = page'.length) :
    (cutPages pages page bytes models).length = (cutPages pages' page' bytes models').length := by
  induction models generalizing models' pages pages' page page' bytes with
  | nil =>
    cases models' with
    | nil =>
      rw [cutPages,cutPages,hpage]
      split
      · rw [List.length_append,List.length_append,hpages]
        rfl
      · exact hpages
    | cons model' models' => cases h
  | cons model models ih =>
    cases models' with
    | nil => cases h
    | cons model' models' =>
      rw [List.map_cons,List.map_cons] at h
      obtain ⟨hitem,hrest⟩ := List.cons.inj h
      have hfull : pageIsFull page bytes model ↔ pageIsFull page' bytes model' := by
        rw [pageIsFull,pageIsFull,hpage,hitem]
      rw [cutPages,cutPages,hitem]
      by_cases hf : pageIsFull page bytes model
      · rw [if_pos hf,if_pos (hfull.mp hf)]
        apply ih hrest
        · rw [List.length_append,List.length_append,hpages]
          rfl
        · rfl
      · rw [if_neg hf,if_neg (fun hf' => hf (hfull.mpr hf'))]
        apply ih hrest hpages
        rw [List.length_append,List.length_append,hpage]
        rfl

theorem map_itemBytes_of_sortElements (h : Json.sortElements models = Json.sortElements models') :
    models.map itemBytes = models'.map itemBytes := by
  induction models generalizing models' with
  | nil =>
    cases models' with
    | nil => rfl
    | cons model' models' => cases h
  | cons model models ih =>
    cases models' with
    | nil => cases h
    | cons model' models' =>
      rw [Json.sortElements,Json.sortElements] at h
      obtain ⟨hmodel,hrest⟩ := List.cons.inj h
      rw [List.map_cons,List.map_cons,ih hrest,itemBytes,itemBytes,hmodel]

theorem ProviderModelCatalogSource.names_nodup (catalog : ProviderModelCatalogSource) :
    (catalog.members.map Prod.fst).Nodup := by
  have hnames : (["providerId","status","error","models"] : List JsString).Nodup := by decide
  exact hnames

theorem length_pages_of_contents {catalog catalog' : ProviderModelCatalogSource}
    (h : catalog.contents = catalog'.contents) (hpages : providerCatalogPages catalog.models = .ok pages)
    (hpages' : providerCatalogPages catalog'.models = .ok pages') : pages.length = pages'.length := by
  have hsorted := Json.sortKeys_eq_of_canonicalJson h
  have hfield (c : ProviderModelCatalogSource) :
      (Json.sortKeys (Json.ofOptions c.members)).field "models" = some (.arr (Json.sortElements c.models)) := by
    rw [Json.field_sortKeys,
      Json.field_ofOptions (o := some (.arr c.models)) c.names_nodup (by simp [ProviderModelCatalogSource.members])]
    rfl
  have hmodels : Json.sortElements catalog.models = Json.sortElements catalog'.models := by
    have heq := (hfield catalog).symm.trans
      ((congrArg (fun v : Json => v.field "models") hsorted).trans (hfield catalog'))
    exact Json.arr.inj (Option.some.inj heq)
  rw [eq_cutPages hpages,eq_cutPages hpages']
  exact length_cutPages_congr (map_itemBytes_of_sortElements hmodels) rfl rfl

end Malink.Catalogs
