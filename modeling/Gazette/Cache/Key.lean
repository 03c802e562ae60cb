/-!
# Cache keys

Every cached lookup has a domain, and its key is the domain with what is looked up.  All
keys of one deployment share a global start, so that several can use one cache.
-/

set_option autoImplicit false

namespace Gazette.CacheKey

/-- The domain of accounts looked up by email. -/
def userByEmailDomain : String := "user-by-email"

/-- The domain of articles looked up by slug. -/
def articleBySlugDomain : String := "article-by-slug"

/-- The key of the account with an email. -/
def userByEmail (email : String) : String :=
  userByEmailDomain ++ "." ++ email

/-- The key of the article with a slug. -/
def articleBySlug (slug : String) : String :=
  articleBySlugDomain ++ "." ++ slug

/-- The key within the keys of one deployment. -/
def namespaced (start key : String) : String :=
  start ++ key

end Gazette.CacheKey
