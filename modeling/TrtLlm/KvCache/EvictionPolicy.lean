import TrtLlm.KvCache.State

/-! # The LRU eviction policy

`LRUEvictionPolicy` keeps one free queue per memory level and priority, an
iterator into a queue for each free block, and the blocks whose retention expires.
-/

namespace TrtLlm.WindowBlockManager

variable (s : WindowBlockManager)

/-- The first non-empty queue of a level, in the order of priorities. -/
def firstFree (level : CacheLevel) : Option (RetentionPriority × BlockId) :=
  (List.finRange 101).findSome? fun priority =>
    (s.freeQueues level priority).head?.map fun node => (priority, node.block)

/-- `LRUEvictionPolicy::getFreeBlock`: the block to take next, and whether it may be
offloaded first. The block stays in its queue. -/
def policyGetFreeBlock (config : WindowConfig) (level : CacheLevel) :
    Except Failure (BlockId × Bool) :=
  match s.firstFree level with
  | some (priority, block) =>
    .ok (block, level == .primary && config.secondaryOffloadMinPriority ≤ priority.val)
  | none => .error .noFreeBlock

/-- `list::erase` of an iterator, if there is one. -/
def eraseNode (queues : CacheLevel → RetentionPriority → List FreeNode) (handle : Option Nat) :
    CacheLevel → RetentionPriority → List FreeNode :=
  match handle with
  | none => queues
  | some handle => fun level priority =>
    (queues level priority).filter fun node => node.handle ≠ handle

/-- `list::insert` at the front or at the end of one queue. -/
def insertNode (queues : CacheLevel → RetentionPriority → List FreeNode) (level : CacheLevel)
    (priority : RetentionPriority) (node : FreeNode) (toFront : Bool) :
    CacheLevel → RetentionPriority → List FreeNode :=
  fun l p =>
    if l = level ∧ p = priority then
      if toFront then node :: queues l p else queues l p ++ [node]
    else queues l p

/-- Whether a released block will expire: it has a duration and a priority to lose. -/
def expires (block : BlockId) : Bool :=
  (s.durationMs block).isSome && s.priority block != kDefaultRetentionPriority

/-- `LRUEvictionPolicy::releaseBlock` -/
def releaseBlock (platform : Platform) (block : BlockId) (toFront : Bool) : WindowBlockManager :=
  { s with
    freeQueues := insertNode s.freeQueues (s.getCacheLevel block) (s.priority block)
      ⟨s.nextHandle, block⟩ toFront
    freeBlockIterators := Function.update s.freeBlockIterators block (some s.nextHandle)
    nextHandle := s.nextHandle + 1
    numFreeBlocksPerLevel := Function.update s.numFreeBlocksPerLevel (s.getCacheLevel block)
      (s.numFreeBlocksPerLevel (s.getCacheLevel block) + 1)
    expirationTime := if s.expires block then
        Function.update s.expirationTime block
          (some (platform.clock s.clockReads + (s.durationMs block).getD 0))
      else s.expirationTime
    expiringBlockHeap := if s.expires block then s.expiringBlockHeap.insert block
      else s.expiringBlockHeap
    clockReads := if s.expires block then s.clockReads + 1 else s.clockReads }

/-- `LRUEvictionPolicy::claimBlock`: take a block out of its queue if it is in one. -/
def claimBlock (block : BlockId) (priority : Option RetentionPriority)
    (durationMs : Option Nat) : WindowBlockManager :=
  { s with
    freeQueues := eraseNode s.freeQueues (s.freeBlockIterators block)
    freeBlockIterators := Function.update s.freeBlockIterators block none
    numFreeBlocksPerLevel := if (s.freeBlockIterators block).isSome then
        Function.update s.numFreeBlocksPerLevel (s.getCacheLevel block)
          (s.numFreeBlocksPerLevel (s.getCacheLevel block) - 1)
      else s.numFreeBlocksPerLevel
    priority := Function.update s.priority block (priority.getD (s.priority block))
    expiringBlockHeap := s.expiringBlockHeap.erase block
    durationMs := Function.update s.durationMs block durationMs }

/-- The order of `mExpiringBlockHeap`: by expiration time, then by address. -/
def expiresBefore (platform : Platform) (a b : BlockId) : Bool :=
  let time := fun block => ((s.expirationTime block).map (· + 1)).getD 0
  time a < time b || (time a == time b && platform.address a < platform.address b)

/-- `mExpiringBlockHeap.begin()` -/
def heapBegin (platform : Platform) : List BlockId → Option BlockId
  | [] => none
  | block :: rest =>
    match heapBegin platform rest with
    | none => some block
    | some other => if s.expiresBefore platform other block then some other else some block

/-- The body of the loop of `refresh` for an expired block: back to the default
priority, and at the end of that queue if the block is free. -/
def expireBlock (block : BlockId) : WindowBlockManager :=
  { s with
    freeQueues := if (s.freeBlockIterators block).isSome then
        insertNode (eraseNode s.freeQueues (s.freeBlockIterators block)) (s.getCacheLevel block)
          kDefaultRetentionPriority ⟨s.nextHandle, block⟩ false
      else s.freeQueues
    freeBlockIterators := if (s.freeBlockIterators block).isSome then
        Function.update s.freeBlockIterators block (some s.nextHandle)
      else s.freeBlockIterators
    nextHandle := if (s.freeBlockIterators block).isSome then s.nextHandle + 1 else s.nextHandle
    expiringBlockHeap := s.expiringBlockHeap.erase block
    priority := Function.update s.priority block kDefaultRetentionPriority }

/-- The loop of `refresh`; each round takes one block off the heap. -/
def refreshLoop (platform : Platform) : Nat → WindowBlockManager → WindowBlockManager
  | 0, s => s
  | rounds + 1, s =>
    match s.heapBegin platform s.expiringBlockHeap with
    | none => s
    | some block =>
      let now := platform.clock s.clockReads
      let s := { s with clockReads := s.clockReads + 1 }
      if (s.expirationTime block).any (now < ·) then s
      else refreshLoop platform rounds (s.expireBlock block)

/-- `LRUEvictionPolicy::refresh` -/
def refresh (platform : Platform) : WindowBlockManager :=
  refreshLoop platform s.expiringBlockHeap.length s

end TrtLlm.WindowBlockManager
