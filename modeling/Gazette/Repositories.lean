import Gazette.Cached.Accounts
import Gazette.Cached.Articles

/-!
# The repositories of an application

The operations on accounts and on articles belong together: they work on one database, and if
there is a cache in front of it, they share it.
-/

set_option autoImplicit false

namespace Gazette

/-- The operations on accounts and articles, and lookups of several at the same time. -/
structure Repositories (σ : Type) where
  accounts : AccountRepository σ
  articles : ArticleRepository σ
  accountsMany : List String → Activity σ (List (Except StorageError Account))
  articlesMany : List String → Activity σ (List (Except StorageError Article))

namespace Repositories

variable {β : Type}

/-- The repositories straight from the database, with a cache standing by unused. -/
def plain (tagBatch : Nat) : Repositories (Layered Database β) :=
  let accounts := Database.accountRepository.onSource
  let articles := (Database.articleRepository tagBatch).onSource
  { accounts, articles
    accountsMany := fun emails => emails.mapM accounts.find
    articlesMany := fun slugs => slugs.mapM articles.find }

/-- The repositories with a cache in front.  Lookups at the same time wait `patience` turns for
the database. -/
def cached (front : CacheFront β) (tagBatch patience : Nat) :
    Repositories (Layered Database β) :=
  let accounts := Database.accountRepository
  let articles := Database.articleRepository tagBatch
  { accounts := accounts.cached front
    articles := articles.cached front
    accountsMany := fun emails => accounts.findMany front emails patience
    articlesMany := fun slugs => articles.findMany front slugs patience }

end Repositories

end Gazette
