import Delegation.Authority.Document
import Delegation.Authority.Operation
import Delegation.Chain.Basic
import Delegation.Settings.Federation

/-!
# Kept answers

A cache keeps a bounded number of values, those used last. A value is dropped when it has
not been read for a while, and for good some time after it was written. Answers of a remote
authority are kept by operation, members of the chain and the asked scope; authorities and
creation time of a chain do not count.
-/

namespace Delegation
namespace Authority

/-- The bounds of a cache. -/
structure CacheLimits where
  /-- The largest number of values. -/
  maxSize : Nat
  /-- How long an unread value is kept. -/
  idle : Duration
  /-- How long any value is kept. -/
  life : Duration
  deriving DecidableEq, Inhabited

/-- The bounds that settings ask for. -/
def CacheLimits.ofSettings (settings : CacheSettings) : CacheLimits where
  maxSize := settings.maxSize
  idle := settings.expireAfterAccess
  life := settings.expireAfterWrite

/-- A kept value with the times, in nanoseconds, of its last writing and its last use. -/
structure CacheEntry (κ ν : Type) where
  key : κ
  value : ν
  written : Nat
  used : Nat
  deriving DecidableEq

/-- A bounded store of values by key, the one used last in front. -/
structure Cache (κ ν : Type) where
  /-- The bounds. -/
  limits : CacheLimits
  /-- The kept values. -/
  entries : List (CacheEntry κ ν)
  deriving DecidableEq

namespace Cache

variable {κ ν : Type}

/-- The cache without values. -/
def empty (limits : CacheLimits) : Cache κ ν := ⟨limits, []⟩

/-- A value is still of use at a time. -/
def isLive (limits : CacheLimits) (now : Nat) (entry : CacheEntry κ ν) : Bool :=
  decide (now < entry.written + limits.life.nanos) &&
    decide (now < entry.used + limits.idle.nanos)

/-- Drop the values that are of no more use. -/
def purge (now : Nat) (cache : Cache κ ν) : Cache κ ν :=
  { cache with entries := cache.entries.filter (isLive cache.limits now) }

/-- The number of values that are of use at a time. -/
def sizeAt (now : Nat) (cache : Cache κ ν) : Nat :=
  (cache.purge now).entries.length

variable [DecidableEq κ]

/-- Drop the value of a key. -/
def invalidate (key : κ) (cache : Cache κ ν) : Cache κ ν :=
  { cache with entries := cache.entries.filter fun entry => decide (entry.key ≠ key) }

/-- The entry of a key that is of use at a time. -/
def find? (now : Nat) (key : κ) (cache : Cache κ ν) : Option (CacheEntry κ ν) :=
  cache.entries.find? fun entry => decide (entry.key = key) && isLive cache.limits now entry

/-- Put an entry in front, in place of the one with its key. -/
def pushFront (entry : CacheEntry κ ν) (cache : Cache κ ν) : Cache κ ν :=
  { cache with entries := entry :: (cache.invalidate entry.key).entries }

/-- Read the value of a key, which uses it. -/
def get? (now : Nat) (key : κ) (cache : Cache κ ν) : Option ν × Cache κ ν :=
  match cache.find? now key with
  | none => (none, cache)
  | some entry => (some entry.value, cache.pushFront { entry with used := now })

/-- Keep a value; when there are too many, those that were not used for the longest time
go. -/
def insert (now : Nat) (key : κ) (value : ν) (cache : Cache κ ν) : Cache κ ν :=
  let grown := (cache.purge now).pushFront ⟨key, value, now, now⟩
  { grown with entries := grown.entries.take cache.limits.maxSize }

end Cache

/-- What an answer is kept under. -/
structure CacheKey where
  /-- What was asked. -/
  operation : Operation
  /-- The members of the chain, as presented. -/
  members : List Identity
  /-- Further services were asked, too. -/
  includeRemote : Bool
  deriving DecidableEq

/-- The key of an operation for a chain. -/
def CacheKey.ofChain (operation : Operation) (chain : Chain) (includeRemote : Bool) : CacheKey :=
  ⟨operation, chain.members, includeRemote⟩

/-- A kept answer. -/
inductive CachedResponse
  /-- The labels of the members. -/
  | authorizations (set : AuthorizationSet)
  /-- The chain with the labels of the authority. -/
  | remoteIdentity (chain : Chain)
  deriving DecidableEq

/-- The kept answers of one remote authority. -/
abbrev ResponseCache := Cache CacheKey CachedResponse

namespace ResponseCache

/-- Every key that an answer for a chain can be kept under. -/
def keysFor (chain : Chain) : List CacheKey :=
  Operation.all.flatMap fun operation =>
    [true, false].map fun includeRemote => CacheKey.ofChain operation chain includeRemote

/-- Drop every answer that is kept for a chain. -/
def invalidateChain (chain : Chain) (cache : ResponseCache) : ResponseCache :=
  (keysFor chain).foldl (fun cache key => cache.invalidate key) cache

end ResponseCache
end Authority
end Delegation
