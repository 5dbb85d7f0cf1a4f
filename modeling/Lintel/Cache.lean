import Lintel.Cache.Disk

/-!
# The result cache

A cache keeps results in memory or on disk, or keeps nothing. A store that fails counts as a failure and
is otherwise taken for one that has no result, so a failing cache never changes what is reported.
-/

set_option autoImplicit false

namespace Lintel

/-- Results in memory, each key at most once. -/
structure MemoryCache where
  entries : List (CacheKey × List Diagnostic)
deriving Repr, DecidableEq

namespace MemoryCache

def empty : MemoryCache := ⟨[]⟩

def size (cache : MemoryCache) : Nat := cache.entries.length

def load (cache : MemoryCache) (key : CacheKey) : Option (List Diagnostic) :=
  (cache.entries.find? fun entry => entry.1 = key).map Prod.snd

def store (cache : MemoryCache) (key : CacheKey) (diagnostics : List Diagnostic) : MemoryCache :=
  ⟨(key, diagnostics) :: cache.entries.filter fun entry => entry.1 ≠ key⟩

end MemoryCache

/-- Where results are kept. -/
inductive CacheStore where
  | memory (cache : MemoryCache)
  | disk (cache : DiskCache)
deriving Repr, DecidableEq

namespace CacheStore

/-- The result kept under a key. -/
def load (store : CacheStore) (tree : FileTree) (key : CacheKey) :
    Except CacheError (Option (List Diagnostic)) :=
  match store with
  | memory cache => .ok (cache.load key)
  | disk cache => cache.load tree key

/-- Keeps a result under a key. -/
def store (store : CacheStore) (tree : FileTree) (key : CacheKey) (diagnostics : List Diagnostic) :
    Except CacheError Unit × CacheStore × FileTree :=
  match store with
  | memory cache => (.ok (), memory (cache.store key diagnostics), tree)
  | disk cache =>
    let (result, cache, tree) := cache.store tree key diagnostics
    (result, disk cache, tree)

end CacheStore

/-- How look-ups and stores went. -/
structure CacheStats where
  hits : Nat := 0
  misses : Nat := 0
  failures : Nat := 0
deriving Repr, DecidableEq

/-- A cache as a run uses it. Without a store it never has a result. -/
structure Cache where
  store : Option CacheStore
  stats : CacheStats := {}
deriving Repr, DecidableEq

namespace Cache

/-- A cache that keeps nothing. -/
def disabled : Cache := ⟨none, {}⟩

/-- A cache in memory. -/
def memory : Cache := ⟨some (.memory .empty), {}⟩

/-- A cache on disk, or one that keeps nothing if the directory cannot be used. -/
def disk (tree : FileTree) (directory : String) (processId : Nat) : Cache × FileTree :=
  match DiskCache.openAt tree directory processId with
  | (.ok store, tree) => (⟨some (.disk store), {}⟩, tree)
  | (.error _, tree) => (disabled, tree)

def isEnabled (cache : Cache) : Bool := cache.store.isSome

def countHit (cache : Cache) : Cache :=
  { cache with stats := { cache.stats with hits := cache.stats.hits + 1 } }

def countMiss (cache : Cache) : Cache :=
  { cache with stats := { cache.stats with misses := cache.stats.misses + 1 } }

def countFailure (cache : Cache) : Cache :=
  { cache with stats := { cache.stats with failures := cache.stats.failures + 1 } }

/-- Looks a result up. -/
def lookup (cache : Cache) (tree : FileTree) (key : CacheKey) : Option (List Diagnostic) × Cache :=
  match cache.store with
  | none => (none, cache.countMiss)
  | some store =>
    match store.load tree key with
    | .ok (some diagnostics) => (some diagnostics, cache.countHit)
    | .ok none => (none, cache.countMiss)
    | .error _ => (none, cache.countFailure.countMiss)

/-- Keeps a result. -/
def put (cache : Cache) (tree : FileTree) (key : CacheKey) (diagnostics : List Diagnostic) :
    Cache × FileTree :=
  match cache.store with
  | none => (cache, tree)
  | some store =>
    match store.store tree key diagnostics with
    | (.ok (), store, tree) => ({ cache with store := some store }, tree)
    | (.error _, store, tree) => ({ cache with store := some store }.countFailure, tree)

/-- The state of a cache in words. -/
def describe (cache : Cache) : String :=
  let stats := cache.stats
  s!"Cache \x7b enabled: {cache.isEnabled}, stats: CacheStats \x7b hits: {stats.hits}, "
    ++ s!"misses: {stats.misses}, failures: {stats.failures} \x7d \x7d"

end Cache

end Lintel
