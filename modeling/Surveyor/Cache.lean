import Surveyor.Log
import Surveyor.Number.Binary64

/-!
A cache of one result, which is fresh for one identity and for a time. The clock is an argument, in seconds, so that
what the cache answers follows from its state alone.
-/
namespace Surveyor

structure CacheEntry (α : Type) where
  value : α
  timestamp : Rat
  identity : String

structure Cache (α : Type) where
  timeToLive : Binary64 := .finite false 30
  entry : Option (CacheEntry α) := none

namespace Cache

def isExpired {α : Type} (cache : Cache α) (now : Rat) (entry : CacheEntry α) : Bool :=
  cache.timeToLive.isAtMost (now - entry.timestamp)

private def note (message : String) : Logged Unit := Logged.write ⟨.debug, "cache", message, none⟩

def get {α : Type} (cache : Cache α) (now : Rat) (identity : String) : Logged (Option α) :=
  match cache.entry with
  | none => do
    note ("Cache miss for " ++ identity ++ ": empty")
    return none
  | some entry =>
    if entry.identity != identity then do
      note ("Cache miss for " ++ identity ++ ": cached workspace is " ++ entry.identity)
      return none
    else if cache.isExpired now entry then do
      note ("Cache miss for " ++ identity ++ ": entry expired")
      return none
    else do
      note ("Cache hit for " ++ identity)
      return some entry.value

/-- Puts a value in the place of whatever was there. -/
def store {α : Type} (cache : Cache α) (now : Rat) (identity : String) (value : α) : Cache α :=
  { cache with entry := some ⟨value, now, identity⟩ }

def invalidate {α : Type} (cache : Cache α) : Cache α := { cache with entry := none }

end Cache

end Surveyor
