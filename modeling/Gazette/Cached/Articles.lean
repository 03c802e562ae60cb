import Gazette.Cached.Front

/-!
# Articles through a cache

Articles are looked up by slug through the cache; listings and comments are not.  Deleting an
article removes its cached copy.  After a unit of work has succeeded, the copies of whatever
its successful steps have deleted or updated are removed; after a failed one the cache is
still right.
-/

set_option autoImplicit false

namespace Gazette

/-- The slugs of the articles that have been deleted in a unit of work. -/
def deletedSlugs (record : List Performed) : List String :=
  record.filterMap fun performed =>
    match performed.step with
    | .deleteArticle _ slug => if performed.succeeded then some slug else none
    | _ => none

/-- The emails of the accounts that have been updated in a unit of work. -/
def updatedEmails (record : List Performed) : List String :=
  record.filterMap fun performed =>
    match performed.step with
    | .updateAccount email _ => if performed.succeeded then some email else none
    | _ => none

/-- The keys whose entries a unit of work has made stale. -/
def staleKeys (record : List Performed) : List String :=
  (deletedSlugs record).map CacheKey.articleBySlug ++
    (updatedEmails record).map CacheKey.userByEmail

namespace ArticleRepository

variable {σ β : Type}

/-- Keeps a copy of an article in the cache. -/
def keepArticle (front : CacheFront β) (article : Article) : Activity (Layered σ β) Unit :=
  front.keep Article.codec (CacheKey.articleBySlug article.slug) article

/-- Removes the cached copy of an article. -/
def invalidateArticle (front : CacheFront β) (slug : String) : Activity (Layered σ β) Unit :=
  front.invalidate (CacheKey.articleBySlug slug)

/-- The repository with a cache in front. -/
def cached (inner : ArticleRepository σ) (front : CacheFront β) :
    ArticleRepository (Layered σ β) where
  carryOut work := do
    let (outcome, record) ← (inner.carryOut work).onSource
    match outcome with
    | .error _ => return (outcome, record)
    | .ok () => do
      for key in staleKeys (record.getD []) do
        front.invalidate key
      return (outcome, record)
  save article := (inner.save article).onSource.also (keepArticle front)
  saveFresh article := (inner.saveFresh article).onSource
  find slug :=
    front.lookup CacheKey.articleBySlugDomain Article.codec (CacheKey.articleBySlug slug)
      (inner.find slug)
  findFresh slug := (inner.findFresh slug).onSource
  list criteria := (inner.list criteria).onSource
  delete authorId slug :=
    (inner.delete authorId slug).onSource.also fun () => invalidateArticle front slug
  saveComment slug comment := (inner.saveComment slug comment).onSource
  findComments slug := (inner.findComments slug).onSource
  deleteComment authorId slug id := (inner.deleteComment authorId slug id).onSource
  deleteComments authorId slug := (inner.deleteComments authorId slug).onSource
  deleteWithComments authorId slug :=
    (inner.deleteWithComments authorId slug).onSource.also fun _ => invalidateArticle front slug

/-- Several lookups through the cache at the same time. -/
def findMany (inner : ArticleRepository σ) (front : CacheFront β) (slugs : List String)
    (patience : Nat) : Activity (Layered σ β) (List (Except StorageError Article)) :=
  front.lookupMany CacheKey.articleBySlugDomain Article.codec
    (slugs.map fun slug => (CacheKey.articleBySlug slug, inner.find slug)) patience

end ArticleRepository

end Gazette
