import Delegation.Authority.Task

/-!
# What a cache can hold

A cache makes no values: whatever it holds was put in, was not dropped since and is given
out only while it lives. A property of all kept values therefore survives every operation,
as long as the values that are put in have it.
-/

namespace Delegation
namespace Authority

namespace Cache

variable {κ ν : Type}
variable {property : κ → ν → Nat → Prop} {cache : Cache κ ν}

/-- Every kept value has a property, given its key and the time of its writing. -/
def Every (property : κ → ν → Nat → Prop) (cache : Cache κ ν) : Prop :=
  ∀ entry ∈ cache.entries, property entry.key entry.value entry.written

/-- Drop entries at will, as a cache may do when it makes room. -/
def lose (keeps : CacheEntry κ ν → Bool) (cache : Cache κ ν) : Cache κ ν :=
  { cache with entries := cache.entries.filter keeps }

@[simp] theorem limits_lose
    (keeps : CacheEntry κ ν → Bool)
    (cache : Cache κ ν) :
    (cache.lose keeps).limits = cache.limits := rfl

theorem every_empty (limits : CacheLimits) :
    (empty limits : Cache κ ν).Every property := by
  intro entry kept
  simp [empty] at kept

/-- A weaker property holds of every value, too. -/
theorem Every.imp
    {weaker : κ → ν → Nat → Prop}
    (every : cache.Every property)
    (weaken : ∀ key value written,
      property key value written → weaker key value written) :
    cache.Every weaker :=
  fun entry kept => weaken _ _ _ (every entry kept)

theorem Every.lose
    (every : cache.Every property)
    (keeps : CacheEntry κ ν → Bool) :
    (cache.lose keeps).Every property :=
  fun entry kept => every entry ((List.mem_filter.mp kept).1)

theorem Every.purge
    (every : cache.Every property)
    (now : Nat) :
    (cache.purge now).Every property :=
  fun entry kept => every entry ((List.mem_filter.mp kept).1)

variable [DecidableEq κ]

@[simp] theorem limits_invalidate
    (key : κ)
    (cache : Cache κ ν) :
    (cache.invalidate key).limits = cache.limits := rfl

@[simp] theorem limits_insert
    (now : Nat)
    (key : κ)
    (value : ν)
    (cache : Cache κ ν) :
    (cache.insert now key value).limits = cache.limits := rfl

@[simp] theorem limits_get?
    (now : Nat)
    (key : κ)
    (cache : Cache κ ν) :
    (cache.get? now key).2.limits = cache.limits := by
  unfold get?
  split <;> rfl

theorem Every.invalidate
    (every : cache.Every property)
    (key : κ) :
    (cache.invalidate key).Every property :=
  fun entry kept => every entry ((List.mem_filter.mp kept).1)

theorem Every.pushFront
    (every : cache.Every property)
    {entry : CacheEntry κ ν}
    (new : property entry.key entry.value entry.written) :
    (cache.pushFront entry).Every property := by
  intro other kept
  rcases List.mem_cons.mp kept with rfl | kept
  · exact new
  · exact every.invalidate entry.key other kept

/-- An entry that is found is kept under its key and was written not too long ago. -/
theorem find?_eq_some
    {now : Nat}
    {key : κ}
    {entry : CacheEntry κ ν}
    (found : cache.find? now key = some entry) :
    entry ∈ cache.entries ∧ entry.key = key ∧
      now < entry.written + cache.limits.life.nanos := by
  have passed := List.find?_some found
  simp only [isLive, Bool.and_eq_true, decide_eq_true_eq] at passed
  exact ⟨List.mem_of_find?_eq_some found, passed.1, passed.2.1⟩

/-- A value that is missing is not used. -/
theorem get?_of_missing
    {now : Nat}
    {key : κ}
    (missing : (cache.get? now key).1 = none) :
    (cache.get? now key).2 = cache := by
  unfold get? at missing ⊢
  split
  · rfl
  · rename_i entry located
    simp [located] at missing

/-- A value that is read has what every kept value has, and was written not too long ago. -/
theorem Every.get?_eq_some
    (every : cache.Every property)
    {now : Nat}
    {key : κ}
    {value : ν}
    (found : (cache.get? now key).1 = some value) :
    ∃ written, property key value written ∧ now < written + cache.limits.life.nanos := by
  unfold get? at found
  split at found
  · simp at found
  · rename_i entry located
    obtain ⟨kept, rfl, live⟩ := find?_eq_some located
    obtain rfl := Option.some.inj found
    exact ⟨entry.written, every entry kept, live⟩

/-- Reading uses a value and changes nothing else. -/
theorem Every.get?
    (every : cache.Every property)
    (now : Nat)
    (key : κ) :
    (cache.get? now key).2.Every property := by
  unfold Cache.get?
  split
  · exact every
  · rename_i entry located
    exact every.pushFront (every entry (find?_eq_some located).1)

theorem Every.insert
    (every : cache.Every property)
    {now : Nat}
    {key : κ}
    {value : ν}
    (new : property key value now) :
    (cache.insert now key value).Every property := by
  intro entry kept
  exact (every.purge now).pushFront new entry (List.mem_of_mem_take kept)

/-- Dropping the values of some keys loses these values and no others. -/
theorem foldl_invalidate
    (keys : List κ)
    (cache : Cache κ ν) :
    keys.foldl (fun cache key => cache.invalidate key) cache =
      cache.lose fun entry => decide (entry.key ∉ keys) := by
  induction keys generalizing cache with
  | nil => simp [lose, List.filter_eq_self.mpr]
  | cons key keys inductionHypothesis =>
      rw [List.foldl_cons, inductionHypothesis]
      simp only [lose, invalidate, List.filter_filter, List.mem_cons, not_or, mk.injEq, true_and]
      apply List.filter_congr
      intro entry _
      simp [Bool.and_comm]

/-- A key under which nothing is kept is not found. -/
theorem get?_of_forall_ne
    {key : κ}
    (absent : ∀ entry ∈ cache.entries, entry.key ≠ key)
    (now : Nat) :
    cache.get? now key = (none, cache) := by
  have missing : cache.find? now key = none := by
    rw [find?, List.find?_eq_none]
    intro entry kept
    simp [absent entry kept]
  rw [get?, missing]

end Cache

namespace ResponseCache

variable {property : CacheKey → CachedResponse → Nat → Prop}

theorem mem_keysFor
    {chain : Chain}
    {key : CacheKey} :
    key ∈ keysFor chain ↔ key.members = chain.members := by
  constructor
  · intro inside
    simp only [keysFor, List.mem_flatMap, List.mem_map] at inside
    obtain ⟨operation, -, includeRemote, -, rfl⟩ := inside
    rfl
  · intro same
    simp only [keysFor, List.mem_flatMap, List.mem_map]
    refine ⟨key.operation, key.operation.mem_all, key.includeRemote, ?_, ?_⟩
    · cases key.includeRemote <;> simp
    · rw [CacheKey.ofChain, ← same]

/-- Dropping the answers for a chain loses those for its members and no others. -/
theorem invalidateChain_eq
    (chain : Chain)
    (cache : ResponseCache) :
    invalidateChain chain cache =
      cache.lose fun entry => decide (entry.key.members ≠ chain.members) := by
  rw [invalidateChain, Cache.foldl_invalidate]
  simp only [mem_keysFor, ne_eq]

theorem every_invalidateChain
    {cache : ResponseCache}
    (every : cache.Every property)
    (chain : Chain) :
    (invalidateChain chain cache).Every property := by
  rw [invalidateChain_eq]
  exact every.lose _

/-- Dropping the answers for a chain leaves those for other members. -/
theorem mem_invalidateChain
    {chain : Chain}
    {cache : ResponseCache}
    {entry : CacheEntry CacheKey CachedResponse} :
    entry ∈ (invalidateChain chain cache).entries ↔
      entry ∈ cache.entries ∧ entry.key.members ≠ chain.members := by
  simp [invalidateChain_eq, Cache.lose]

@[simp] theorem limits_invalidateChain
    (chain : Chain)
    (cache : ResponseCache) :
    (invalidateChain chain cache).limits = cache.limits := by
  rw [invalidateChain_eq, Cache.limits_lose]

end ResponseCache

namespace Session

/-- Let the cache of a session drop entries at will. -/
def lose
    (keeps : CacheEntry CacheKey CachedResponse → Bool)
    (session : Session) : Session :=
  { session with cache := session.cache.lose keeps }

end Session

namespace Task

variable {property : CacheKey → CachedResponse → Nat → Prop}

/-- What the next step of a task puts into the cache, and its key. -/
def keeps? : Task → Option (CacheKey × CachedResponse)
  | keepLabels chain includeRemote _ set =>
      some (labelsKey chain includeRemote, .authorizations set)
  | keepIdentity chain remote => some (identityKey chain, .remoteIdentity remote)
  | _ => none

/-- A step keeps a property of all kept answers if the answer that it keeps has it. -/
theorem every_step
    {client : Client}
    {script : Script}
    {session : Session}
    {task : Task}
    (every : session.cache.Every property)
    (new : ∀ key response,
      task.keeps? = some (key, response) → property key response session.now) :
    (task.step client script session).2.cache.Every property := by
  cases task with
  | findIdentity chain => exact every.get? _ _
  | findLabels chain includeRemote purpose => exact every.get? _ _
  | askLabels chain includeRemote purpose => exact every
  | keepLabels chain includeRemote purpose set => exact every.insert (new _ _ rfl)
  | keepIdentity chain remote => exact every.insert (new _ _ rfl)
  | askFlush chain includeRemote => exact every
  | dropKept chain acknowledgement => exact ResponseCache.every_invalidateChain every chain
  | finished result => exact every

/-- No step changes the bounds of the cache. -/
@[simp] theorem limits_step
    (client : Client)
    (script : Script)
    (session : Session)
    (task : Task) :
    (task.step client script session).2.cache.limits = session.cache.limits := by
  cases task <;> simp [step, Session.find?, Session.call, Session.after, Session.keep, Session.drop]

/-- No step turns the time back. -/
theorem now_le_step
    (client : Client)
    (script : Script)
    (session : Session)
    (task : Task) :
    session.now ≤ (task.step client script session).2.now := by
  cases task <;> simp [step, Session.find?, Session.call, Session.after, Session.keep, Session.drop]

end Task
end Authority
end Delegation
