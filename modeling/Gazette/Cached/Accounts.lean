import Gazette.Cached.Front

/-!
# Accounts through a cache

Accounts are looked up by email through the cache.  Cached copies carry no credential, so a
lookup through the cache never shows one; a fresh lookup does.
-/

set_option autoImplicit false

namespace Gazette.AccountRepository

variable {σ β : Type}

/-- Keeps the redacted copy of an account in the cache. -/
def keepAccount (front : CacheFront β) (account : Account) : Activity (Layered σ β) Unit :=
  front.keep Account.codec (CacheKey.userByEmail account.email) account.redacted

/-- The redacted account with an email. -/
def findRedacted (inner : AccountRepository σ) (email : String) :
    Activity σ (Except StorageError Account) := do
  let found ← inner.find email
  return found.map Account.redacted

/-- Brings the cached copy of an account up to date, if there is one.  If the account cannot be
read again its copy is removed. -/
def refresh (inner : AccountRepository σ) (front : CacheFront β) (email : String) :
    Activity (Layered σ β) Unit := do
  let key := CacheKey.userByEmail email
  if ← front.holds key then
    match ← (inner.find email).onSource with
    | .ok account => keepAccount front account
    | .error _ => front.forget key

/-- The repository with a cache in front. -/
def cached (inner : AccountRepository σ) (front : CacheFront β) :
    AccountRepository (Layered σ β) where
  save account := (inner.save account).onSource.also (keepAccount front)
  update email patch := (inner.update email patch).onSource.also fun () => inner.refresh front email
  find email :=
    front.lookup CacheKey.userByEmailDomain Account.codec (CacheKey.userByEmail email)
      (inner.findRedacted email)
  findFresh email := (inner.findFresh email).onSource

/-- Several lookups through the cache at the same time. -/
def findMany (inner : AccountRepository σ) (front : CacheFront β) (emails : List String)
    (patience : Nat) : Activity (Layered σ β) (List (Except StorageError Account)) :=
  front.lookupMany CacheKey.userByEmailDomain Account.codec
    (emails.map fun email => (CacheKey.userByEmail email, inner.findRedacted email)) patience

end Gazette.AccountRepository
