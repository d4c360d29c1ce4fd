import Mathlib.Data.List.AList
import TrtLlm.KvCache.BlockKey

/-! # State of a window block manager

A `WindowBlockManager` owns the blocks of one attention window: the block table, the free queues,
the reuse tree and the blocks of every live sequence. Part of the state are also the contents of the
memory pools, and a history of branches taken that no modelled function reads.
-/

namespace TrtLlm

abbrev BlockId := Nat

/-- `kPrimaryLevel` and `kSecondaryLevel` -/
inductive CacheLevel where
  | primary
  | secondary
  deriving DecidableEq, Repr

/-- `KVCacheIndex`: a slot of the primary or of the secondary pools. -/
structure KVCacheIndex where
  isPrimary : Bool
  get : Nat
  deriving DecidableEq, Repr

/-- A `BlockPtr` in the tree: the root `mCachedBlocksRoot` or a block of the manager. -/
inductive Node where
  | root
  | block (id : BlockId)
  deriving DecidableEq, Repr

/-- The key and value cache of one token: what it was computed from, which is the
token with all tokens before it, under one lora task and one cache salt. -/
structure Kv where
  loraTaskId : Option UInt64
  cacheSaltID : Option UInt64
  tokens : List UniqueToken
  deriving DecidableEq, Repr

inductive CacheType where
  | self
  | cross
  | selfKOnly
  deriving DecidableEq, Repr

/-- What is fixed when a window block manager is constructed. -/
structure WindowConfig where
  windowSize : Nat
  numPrimaryBlocks : Nat
  numSecondaryBlocks : Nat
  tokensPerBlock : Nat
  tokensPerBlock_pos : 0 < tokensPerBlock := by first | exact Nat.two_pos | decide
  isSWA : Bool := false
  onboardBlocks : Bool := true
  enablePartialReuse : Bool := true
  copyOnPartialReuse : Bool := true
  secondaryOffloadMinPriority : Nat := 30
  /-- Whether there is an event manager. -/
  events : Bool := false
  cacheType : CacheType := .self
  kvFactor : Nat := 2
  /-- `numLayers` of each pool. -/
  poolNumLayers : List Nat := [1]
  maxTokenNum : Nat
  temporaryAttentionWindow : Nat := 0
  maxBlocksPerSeq : Nat

/-- `mAllBlocksById.size()` -/
def WindowConfig.numBlocks (config : WindowConfig) : Nat :=
  config.numPrimaryBlocks + config.numSecondaryBlocks

/-- A window of four blocks of two tokens. -/
def WindowConfig.fourBlocks : WindowConfig where
  windowSize := 8
  numPrimaryBlocks := 4
  numSecondaryBlocks := 0
  tokensPerBlock := 2
  maxTokenNum := 8
  maxBlocksPerSeq := 4

/-- What the language and the machine leave open: the value of each successive
clock read, the addresses that order blocks expiring together, and the iteration
order of a hash map. -/
structure Platform where
  clock : Nat → Nat
  address : BlockId → Nat
  iterate : List (BlockKey × BlockId) → List (BlockKey × BlockId)
  iterate_perm : ∀ entries, (iterate entries).Perm entries

/-- A platform on which time passes with each read and nothing is reordered. -/
def Platform.plain : Platform where
  clock := id
  address := id
  iterate := id
  iterate_perm := List.Perm.refl

/-- The fields of `KVCacheBlock`, each as a function of the block. -/
structure BlockTable where
  memoryPoolBlockIndex : BlockId → KVCacheIndex
  refCount : BlockId → Nat
  blockKey : BlockId → BlockKey
  isFull : BlockId → Bool
  prevBlock : BlockId → Option Node
  prevBlockInSeq : BlockId → Option Node
  nextBlocks : Node → List (BlockKey × BlockId)
  priority : BlockId → RetentionPriority
  durationMs : BlockId → Option Nat
  expirationTime : BlockId → Option Nat
  blockHash : BlockId → UInt64

/-- A node of a free queue. Iterators are compared by handle: erasing one unlinks
its node from the list it is in. -/
structure FreeNode where
  handle : Nat
  block : BlockId
  deriving DecidableEq, Repr

/-- The fields of `LRUEvictionPolicy`. -/
structure LRUEvictionPolicy where
  freeQueues : CacheLevel → RetentionPriority → List FreeNode
  freeBlockIterators : BlockId → Option Nat
  numFreeBlocksPerLevel : CacheLevel → Int
  expiringBlockHeap : List BlockId
  nextHandle : Nat
  clockReads : Nat

/-- The blocks of a live sequence in one window: its list in
`mAllocatedBlocksPerSeq`, and the window's entries of `mCacheBlockIds` and
`mCacheBlockIndices` of its `GenerationRequest`. -/
structure SequenceBlocks where
  allocatedBlocks : List BlockId
  cacheBlockIds : List (List BlockId)
  cacheBlockIndices : Nat → Nat

/-- `getCacheBlockIds(mWindowSize).at(beamIdx)` -/
def SequenceBlocks.beamBlocks (sequence : SequenceBlocks) (beamIdx : Nat) : List BlockId :=
  sequence.cacheBlockIds.getD beamIdx []

/-- A block as a Stored event describes it. -/
structure StoredBlock where
  hash : UInt64
  uniqueTokens : List UniqueToken
  loraTaskId : Option UInt64
  cacheLevel : CacheLevel
  priority : RetentionPriority
  extraKeys : List MmKey
  deriving DecidableEq, Repr

/-- `KVCacheEventData` of the events a window emits. -/
inductive KVCacheEvent where
  | stored (parent : Option UInt64) (blocks : List StoredBlock)
  | removed (blockHashes : List UInt64)
  | levelUpdated (blockHash : UInt64) (before after : CacheLevel)
  | priorityUpdated (blockHash : UInt64) (before after : RetentionPriority)
  deriving DecidableEq, Repr

/-- A branch of the code that later results single out. -/
inductive Branch where
  /-- `getFreeBlock` took a block of the tree that had children. -/
  | evictedSubtree (block : BlockId)
  /-- A block was taken that a valid sequence lists although it is not the last owner, or takes the
  block itself; or it was taken without a look at the owner. -/
  | tookListed (block : BlockId)
  /-- A free leaf was taken out of the tree because it matches in part. -/
  | tookLeaf (block : BlockId)
  /-- The slot of the block to copy from was overwritten by the eviction that
  made room for the copy. -/
  | overwroteSource (block : BlockId)
  /-- A block that is in the tree was given a new key and parent. -/
  | relinked (block : BlockId)
  /-- A block was pinned while it had no reference. -/
  | pinnedFree (block : BlockId)
  /-- `offloadBlock` or `onboardBlock` was called on a block in a free queue. -/
  | movedFree (block : BlockId)
  /-- `offloadBlock` wrote to the slot of a free block that is in the tree. -/
  | overwroteLinked (block : BlockId)
  /-- A removed token released a block that was detached before. -/
  | releasedDetached (block : BlockId)
  deriving DecidableEq, Repr

/-- The state of `WindowBlockManager`, with its event queue and its pools. -/
structure WindowBlockManager extends BlockTable, LRUEvictionPolicy where
  sequences : AList (fun _ : RequestId => SequenceBlocks)
  blockToSequence : BlockId → Option RequestId
  isValidStoreForReuseSequence : RequestId → Option Bool
  eventQueue : List KVCacheEvent
  flushedEvents : List KVCacheEvent
  memory : KVCacheIndex → Nat → Option Kv
  history : List Branch

namespace WindowBlockManager

/-- The nodes of the initial queue of a level: blocks in id order, at the default priority. -/
def initialQueue (config : WindowConfig) : CacheLevel → List FreeNode
  | .primary => (List.range config.numPrimaryBlocks).map fun id => ⟨id, id⟩
  | .secondary => (List.range config.numSecondaryBlocks).map fun id =>
    ⟨config.numPrimaryBlocks + id, config.numPrimaryBlocks + id⟩

/-- The constructor, with `LRUEvictionPolicy::initialize`: primary blocks first, all free. -/
def initial (config : WindowConfig) : WindowBlockManager where
  memoryPoolBlockIndex := fun id =>
    if id < config.numPrimaryBlocks then ⟨true, id⟩ else ⟨false, id - config.numPrimaryBlocks⟩
  refCount := fun _ => 0
  blockKey := fun _ => {}
  isFull := fun _ => false
  prevBlock := fun _ => none
  prevBlockInSeq := fun _ => none
  nextBlocks := fun _ => []
  priority := fun _ => kDefaultRetentionPriority
  durationMs := fun _ => none
  expirationTime := fun _ => none
  blockHash := fun _ => 0
  freeQueues := fun level priority =>
    if priority = kDefaultRetentionPriority then initialQueue config level else []
  freeBlockIterators := fun id => if id < config.numBlocks then some id else none
  numFreeBlocksPerLevel := fun
    | .primary => config.numPrimaryBlocks
    | .secondary => config.numSecondaryBlocks
  expiringBlockHeap := []
  nextHandle := config.numBlocks
  clockReads := 0
  sequences := ∅
  blockToSequence := fun _ => none
  isValidStoreForReuseSequence := fun _ => none
  eventQueue := []
  flushedEvents := []
  memory := fun _ _ => none
  history := []

variable (s : WindowBlockManager)

def isPrimary (block : BlockId) : Bool := (s.memoryPoolBlockIndex block).isPrimary

/-- `LRUEvictionPolicy::getCacheLevel` -/
def getCacheLevel (block : BlockId) : CacheLevel :=
  if s.isPrimary block then .primary else .secondary

def hasRefs (block : BlockId) : Bool := 0 < s.refCount block

def isLeaf (node : Node) : Bool := (s.nextBlocks node).isEmpty

/-- `blockInRadixTree` -/
def blockInRadixTree (block : BlockId) : Bool :=
  !(s.blockKey block).uniqueTokens.isEmpty && (s.prevBlock block).isSome

def nodeHash : Node → UInt64
  | .root => 0
  | .block id => s.blockHash id

def incRefCount (block : BlockId) : WindowBlockManager :=
  { s with refCount := Function.update s.refCount block (s.refCount block + 1) }

/-- `decRefCount`, after its check that there is a reference. -/
def decRefCount (block : BlockId) : WindowBlockManager :=
  { s with refCount := Function.update s.refCount block (s.refCount block - 1) }

def setBlockKey (block : BlockId) (blockKey : BlockKey) (isFull : Bool) : WindowBlockManager :=
  { s with
    blockKey := Function.update s.blockKey block blockKey
    isFull := Function.update s.isFull block isFull }

/-- `setHash()`: the hash after the block before it in its sequence. -/
def setHash (block : BlockId) : WindowBlockManager :=
  { s with
    blockHash := Function.update s.blockHash block
      (BlockKeyHasher.hash (s.blockKey block) (((s.prevBlockInSeq block).map s.nodeHash).getD 0)) }

/-- `swapMemoryPoolBlockOffset` -/
def swapMemoryPoolBlockOffset (block other : BlockId) : WindowBlockManager :=
  { s with
    memoryPoolBlockIndex := fun id =>
      if id = block then s.memoryPoolBlockIndex other
      else if id = other then s.memoryPoolBlockIndex block
      else s.memoryPoolBlockIndex id }

def record (branch : Branch) : WindowBlockManager :=
  { s with history := s.history ++ [branch] }

/-- Record a branch that is taken under a condition. -/
def recordIf (taken : Bool) (branch : Branch) : WindowBlockManager :=
  { s with history := if taken then s.history ++ [branch] else s.history }

/-- `KVCacheTransferManager::copyBlock` in DRAM mode: all tokens of the slot when
`numTokensToCopy` is 0 or reaches the block size, else the first ones. -/
def copyBlock (config : WindowConfig) (src dst : BlockId) (numTokensToCopy : Nat) :
    WindowBlockManager :=
  let source := s.memory (s.memoryPoolBlockIndex src)
  let target := s.memory (s.memoryPoolBlockIndex dst)
  { s with
    memory := Function.update s.memory (s.memoryPoolBlockIndex dst) fun token =>
      if numTokensToCopy = 0 ∨ config.tokensPerBlock ≤ numTokensToCopy ∨ token < numTokensToCopy
      then source token else target token }

/-! ## The event manager

The queue of one window: in a manager of several windows the queues of the
windows are interleaved and a Removed event only absorbs one of its own window. -/

/-- `enqueueEvent`, when there is an event manager. -/
def enqueueEvent (config : WindowConfig) (event : KVCacheEvent) : WindowBlockManager :=
  { s with eventQueue := if config.events then s.eventQueue ++ [event] else s.eventQueue }

/-- `enqueueUpdatedEvent`, under the condition of the call. -/
def enqueueUpdatedEvent (config : WindowConfig) (called : Bool) (event : KVCacheEvent) :
    WindowBlockManager :=
  { s with
    eventQueue := if config.events && called then s.eventQueue ++ [event] else s.eventQueue }

/-- A Removed event at the end of the queue takes up further hashes. -/
def appendRemoved (hash : UInt64) : List KVCacheEvent → List KVCacheEvent
  | [] => [.removed [hash]]
  | [.removed blockHashes] => [.removed (blockHashes ++ [hash])]
  | event :: rest => event :: appendRemoved hash rest

/-- `enqueueRemovedEvent`, under the condition of the call. -/
def enqueueRemovedEvent (config : WindowConfig) (called : Bool) (block : BlockId) :
    WindowBlockManager :=
  { s with
    eventQueue := if config.events && called then
      appendRemoved (s.blockHash block) s.eventQueue else s.eventQueue }

def storedBlock (block : BlockId) : StoredBlock where
  hash := s.blockHash block
  uniqueTokens := (s.blockKey block).uniqueTokens
  loraTaskId := (s.blockKey block).loraTaskId
  cacheLevel := s.getCacheLevel block
  priority := s.priority block
  extraKeys := (s.blockKey block).extraKeys

/-- The hash of a Stored event's parent; the root has none. -/
def parentHash (block : BlockId) : Option UInt64 :=
  match s.prevBlock block with
  | some (.block parent) => some (s.blockHash parent)
  | _ => none

/-- `enqueueStoredEvent`: nothing for an empty list. -/
def enqueueStoredEvent (config : WindowConfig) (blocks : List BlockId) : WindowBlockManager :=
  match blocks with
  | [] => s
  | first :: _ =>
    s.enqueueEvent config (.stored (s.parentHash first) (blocks.map s.storedBlock))

/-- `KVCacheEventManager::flush` -/
def flushEvents : WindowBlockManager :=
  { s with eventQueue := [], flushedEvents := s.flushedEvents ++ s.eventQueue }

end WindowBlockManager

end TrtLlm
