import Gazette.Cache.Backend

/-!
# The cache in memory

A bounded cache that forgets the entry that has not been used for the longest time.  An entry
may have a deadline; after it the entry is as good as absent, but it keeps its place until
it is next touched.  Reading an entry makes it the most recently used one, and asking
whether it exists does not.
-/

set_option autoImplicit false

namespace Gazette

/-- An entry of the cache. -/
structure CacheEntry where
  key : String
  value : Payload
  deadline : Option Nat
  deriving DecidableEq

/-- Whether the deadline of an entry has passed. -/
def CacheEntry.isExpired (now : Nat) (entry : CacheEntry) : Bool :=
  match entry.deadline with
  | some deadline => deadline < now
  | none => false

/-- A cache in memory.  The entries stand in the order of their last use, the latest first. -/
structure MemoryCache where
  capacity : Nat
  entries : List CacheEntry := []
  deriving DecidableEq

namespace MemoryCache

/-- The first reading that the clock cannot show. -/
def clockEnd : Nat := 9223372036854775808 * Duration.second

/-- An empty cache.  There is always room for one entry. -/
def ofSize (size : Nat) : MemoryCache :=
  { capacity := max size 1 }

/-- The entry under a key, expired or not. -/
def entry? (cache : MemoryCache) (key : String) : Option CacheEntry :=
  cache.entries.find? fun entry => entry.key = key

/-- The cache without the entry under a key. -/
def erase (cache : MemoryCache) (key : String) : MemoryCache :=
  { cache with entries := cache.entries.filter fun entry => entry.key ≠ key }

/-- The cache with an entry in the first place, and with the last entries left out that no
longer fit. -/
def put (cache : MemoryCache) (entry : CacheEntry) : MemoryCache :=
  { cache with entries := (entry :: (cache.erase entry.key).entries).take cache.capacity }

/-- The payload under a key. -/
def get (cache : MemoryCache) (now : Nat) (key : String) : Option Payload × MemoryCache :=
  match cache.entry? key with
  | none => (none, cache)
  | some entry =>
    if entry.isExpired now then (none, cache.erase key) else (some entry.value, cache.put entry)

/-- The moment when an entry written now expires. -/
def deadline (now : Nat) (ttl : Option Duration) : Except DeadlineOverflow (Option Nat) :=
  match ttl with
  | none => .ok none
  | some ttl => if now + ttl < clockEnd then .ok (some (now + ttl)) else .error .deadlineOverflow

/-- The cache with a payload under a key. -/
def set (cache : MemoryCache) (now : Nat) (key : String) (value : Payload)
    (ttl : Option Duration) : Except DeadlineOverflow MemoryCache := do
  let deadline ← deadline now ttl
  return cache.put { key, value, deadline }

/-- Whether there is an entry under a key that has not expired. -/
def contains (cache : MemoryCache) (now : Nat) (key : String) : Bool × MemoryCache :=
  match cache.entry? key with
  | none => (false, cache)
  | some entry => if entry.isExpired now then (false, cache.erase key) else (true, cache)

end MemoryCache

/-- A cache in memory together with the reading of the clock. -/
structure TimedCache where
  cache : MemoryCache
  now : Nat := 0
  deriving DecidableEq

namespace TimedCache

/-- The state after some time has passed. -/
def elapse (state : TimedCache) (time : Duration) : TimedCache :=
  { state with now := state.now + time }

/-- The cache in memory as a backend. -/
def backend : Backend TimedCache where
  get key := Task.ofState fun state =>
    let (found, cache) := state.cache.get state.now key
    (.ok found, { state with cache })
  set key value ttl := ExceptT.mk fun state =>
    match state.cache.set state.now key value ttl with
    | .ok cache => (.ok (.ok ()), { state with cache })
    | .error overflow => (.error overflow, state)
  contains key := Task.ofState fun state =>
    let (found, cache) := state.cache.contains state.now key
    (.ok found, { state with cache })
  delete key := Task.ofState fun state => (.ok (), { state with cache := state.cache.erase key })

end TimedCache

end Gazette
