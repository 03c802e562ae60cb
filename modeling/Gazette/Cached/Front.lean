import Gazette.Cache.Rotation

/-!
# Caches in front of repositories

A repository with a cache in front answers its point lookups from the cache, and keeps the
cache in step with its own writes.  The cache never makes an operation fail: what goes wrong
there is passed over.
-/

set_option autoImplicit false

namespace Gazette

/-- A store in front of a repository, and whether its lookups are observed. -/
structure CacheFront (β : Type) where
  store : CacheStore β
  observing : Bool := true

namespace CacheFront

variable {σ β α : Type}

/-- Puts a value under a key, whether that succeeds or not. -/
def keep (front : CacheFront β) (codec : Codec α) (key : String) (value : α) :
    Activity (Layered σ β) Unit :=
  .onCache do
    let _ ← front.store.set codec key value
    return

/-- Removes the entry under a key, whether that succeeds or not. -/
def forget (front : CacheFront β) (key : String) : Activity (Layered σ β) Unit :=
  .onCache do
    let _ ← front.store.delete key
    return

/-- Whether there is an entry under a key.  A failed look counts as finding none. -/
def holds (front : CacheFront β) (key : String) : Activity (Layered σ β) Bool := do
  match ← .onCache (front.store.contains key) with
  | .ok found => return found
  | .error _ => return false

/-- Removes the entry under a key if there is one. -/
def invalidate (front : CacheFront β) (key : String) : Activity (Layered σ β) Unit := do
  if ← front.holds key then front.forget key

/-- Notes how a lookup has gone. -/
def note (front : CacheFront β) (domain : String) (hit : Bool) : Activity (Layered σ β) Unit :=
  if front.observing then .ofTask (Layered.observe ⟨domain, hit⟩) else return

/-- A lookup through the cache.  Only a lookup that finds something is noted. -/
def lookup (front : CacheFront β) (domain : String) (codec : Codec α) (key : String)
    (read : Answers σ α) : Activity (Layered σ β) (Except StorageError α) := do
  let fetched ← (front.store.fetch codec key read).also fun fetched => front.note domain fetched.hit
  return fetched.map Fetched.value

/-- Several lookups through the cache at the same time.  They are noted in the order in which
they end.  A read of the source takes `patience` turns. -/
def lookupMany (front : CacheFront β) (domain : String) (codec : Codec α)
    (lookups : List (String × Answers σ α)) (patience : Nat) :
    Activity (Layered σ β) (List (Except StorageError α)) := do
  let calls := lookups.map fun (key, read) =>
    ((⟨key, codec, read.run⟩ : FetchCall σ α), ({ yields := patience } : Pace))
  let (results, order) ← .ofTask (front.store.fetchMany calls)
  for i in order do
    match results[i]? with
    | some (.ok fetched) => front.note domain fetched.hit
    | _ => pure ()
  return results.map fun result => result.map Fetched.value

end CacheFront

end Gazette
