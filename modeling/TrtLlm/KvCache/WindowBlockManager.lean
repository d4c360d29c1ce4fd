import TrtLlm.KvCache.RadixTree

/-! # Operations of a window block manager

Taking and moving blocks, loading a new sequence from the reuse tree, storing the
blocks of a sequence in it, and releasing them. The source's statistics counters
and the transfer modes that go through files are not modelled.
-/

namespace TrtLlm

/-- The fields of `GenerationRequest` that are shared by all windows. No value of
`currentPrepopulatedPromptLen` is the numeric limit it starts from. -/
structure GenerationRequest where
  requestId : RequestId
  numTokens : Nat
  beamWidth : Nat
  beamWidth_pos : 0 < beamWidth := by decide
  decodeRetentionPriority : RetentionPriority := kDefaultRetentionPriority
  decodeDurationMs : Option Nat := none
  numFrontBlocksRemoved : Nat := 0
  currentPrepopulatedPromptLen : Option Nat := none
  deriving DecidableEq, Repr

namespace WindowBlockManager

/-! ## Sequences -/

section Sequences

variable (s : WindowBlockManager)

/-- Change the record of a sequence that is there. -/
def modifySequence (requestId : RequestId) (change : SequenceBlocks → SequenceBlocks) :
    WindowBlockManager :=
  { s with
    sequences := match s.sequences.lookup requestId with
      | none => s.sequences
      | some sequence => s.sequences.insert requestId (change sequence) }

/-- The block behind which the next block of a beam is put. -/
def lastInBeam (requestId : RequestId) (beamIdx : Nat) : Option Node :=
  match s.sequences.lookup requestId with
  | none => none
  | some sequence => (sequence.beamBlocks beamIdx).getLast?.map Node.block

/-- `addCacheBlock` of one beam and `push_back` on the allocated blocks. -/
def pushBlock (block : BlockId) (beamIdx : Nat) (sequence : SequenceBlocks) : SequenceBlocks :=
  { sequence with
    allocatedBlocks := sequence.allocatedBlocks ++ [block]
    cacheBlockIds := sequence.cacheBlockIds.modify beamIdx (· ++ [block]) }

/-- `WindowBlockManager::addBlockToBeam` -/
def addBlockToBeam (requestId : RequestId) (block : BlockId) (beamIdx : Nat) :
    WindowBlockManager :=
  ((s.incRefCount block).setPrevBlockInSeq block (s.lastInBeam requestId beamIdx)).modifySequence
    requestId (pushBlock block beamIdx)

/-- `WindowBlockManager::addBlockToAllBeams` -/
def addBlockToAllBeams (seq : GenerationRequest) (block : BlockId) : WindowBlockManager :=
  (List.range seq.beamWidth).foldl (fun s beamIdx => s.addBlockToBeam seq.requestId block beamIdx) s

/-- The blocks of a sequence. -/
def allocated (requestId : RequestId) : List BlockId :=
  ((s.sequences.lookup requestId).map SequenceBlocks.allocatedBlocks).getD []

/-- Some sequence other than those marked invalid lists the block. -/
def listedByValid (valid : RequestId → Option Bool) (block : BlockId) : Bool :=
  s.sequences.entries.any fun entry =>
    entry.2.allocatedBlocks.contains block && valid entry.1 == some true

/-- Some valid sequence lists the block that is not its last owner, or that takes it itself. -/
def listedUnowned (requestId : RequestId) (block : BlockId) : Bool :=
  s.sequences.entries.any fun entry => entry.2.allocatedBlocks.contains block &&
    (s.isValidStoreForReuseSequence entry.1 == some true &&
      (s.blockToSequence block != some entry.1 || requestId == entry.1))

end Sequences

/-! ## Taking blocks -/

section Take

variable (config : WindowConfig) (platform : Platform) (s : WindowBlockManager)

/-- `WindowBlockManager::freeChildren` -/
def freeChildren (block : BlockId) : Except Failure WindowBlockManager :=
  (s.enqueueRemovedEvent config (s.blockInRadixTree block) block).freeBlockAndAllDescendants
    config platform block

/-- The validity flags after a block of another sequence is taken. -/
def invalidateOwner (requestId : RequestId) (block : BlockId) : RequestId → Option Bool :=
  match s.blockToSequence block with
  | none => s.isValidStoreForReuseSequence
  | some owner =>
    if (s.isValidStoreForReuseSequence owner).isSome ∧ requestId ≠ owner then
      Function.update s.isValidStoreForReuseSequence owner (some false)
    else s.isValidStoreForReuseSequence

/-- The end of `getFreeBlock`: the previous owner can no longer store its blocks,
and the taker becomes the owner. -/
def recordOwner (requestId : RequestId) (block : BlockId) : WindowBlockManager :=
  { s with
    isValidStoreForReuseSequence := s.invalidateOwner requestId block
    blockToSequence := Function.update s.blockToSequence block (some requestId) }

/-- The conditions under which `getFreeBlock` offloads a block before it is reused. -/
def canBeOffloaded (block : BlockId) (canOffload : Bool) : Bool :=
  !(s.blockKey block).uniqueTokens.isEmpty && canOffload &&
    decide (0 < s.numFreeBlocksPerLevel .secondary) && config.onboardBlocks

/-- The offloading branch of `getFreeBlock`: `block` moves to the secondary slot of
`offloadBlock`, which gets the primary slot in exchange. -/
def offloadForReuse (block offloadBlock : BlockId) : WindowBlockManager :=
  let s := (s.copyBlock config block offloadBlock 0).swapMemoryPoolBlockOffset block offloadBlock
  let s := s.enqueueUpdatedEvent config (s.blockInRadixTree block)
    (.levelUpdated (s.blockHash block) .primary .secondary)
  (s.claimBlock block none none).releaseBlock platform block false

/-- `getFreeBlock` up to the choice of the block that is handed out. -/
def chooseFreeBlock : Except Failure (BlockId × WindowBlockManager) := do
  let (block, canOffload) ← s.policyGetFreeBlock config .primary
  if s.canBeOffloaded config block canOffload then
    let (offloadBlock, _) ← s.policyGetFreeBlock config .secondary
    return (offloadBlock, s.offloadForReuse config platform block offloadBlock)
  return (block, s)

/-- `WindowBlockManager::getFreeBlock` -/
def getFreeBlock (requestId : RequestId) (priority : RetentionPriority)
    (durationMs : Option Nat) : Except Failure (BlockId × WindowBlockManager) := do
  let (block, s) ← s.chooseFreeBlock config platform
  let s := s.recordIf (s.blockInRadixTree block && !s.isLeaf (.block block)) (.evictedSubtree block)
  let s := s.recordIf (s.listedUnowned requestId block) (.tookListed block)
  let s ← s.freeChildren config platform block
  return (block, (s.claimBlock block (some priority) durationMs).recordOwner requestId block)

/-- `WindowBlockManager::onboardBlock` -/
def onboardBlock (requestId : RequestId) (offloadBlock : BlockId) :
    Except Failure WindowBlockManager :=
  if config.onboardBlocks && !s.isPrimary offloadBlock then do
    let (block, s) ← s.getFreeBlock config platform requestId kDefaultRetentionPriority none
    let s := (s.copyBlock config offloadBlock block 0).swapMemoryPoolBlockOffset offloadBlock block
    let s := s.enqueueUpdatedEvent config true
      (.levelUpdated (s.blockHash offloadBlock) .secondary .primary)
    return s.releaseBlock platform block false
  else return s

/-- `WindowBlockManager::offloadBlock` -/
def offloadBlock (block : BlockId) : Except Failure WindowBlockManager :=
  if config.onboardBlocks && s.isPrimary block then do
    let (offloadBlock, _) ← s.policyGetFreeBlock config .secondary
    let s := s.recordIf (s.prevBlock offloadBlock).isSome (.overwroteLinked offloadBlock)
    let s := s.recordIf (s.listedByValid s.isValidStoreForReuseSequence offloadBlock)
      (.tookListed offloadBlock)
    let s := s.claimBlock offloadBlock none none
    let s := (s.copyBlock config block offloadBlock 0).swapMemoryPoolBlockOffset block offloadBlock
    let s := s.enqueueUpdatedEvent config (s.blockInRadixTree block)
      (.levelUpdated (s.blockHash block) .primary .secondary)
    return s.releaseBlock platform offloadBlock false
  else return s

/-- `WindowBlockManager::hasFreeBlocks` -/
def hasFreeBlocks (numRequired : Nat) : Bool :=
  decide ((numRequired : Int) ≤ s.numFreeBlocksPerLevel .primary)

/-- `WindowBlockManager::allocateBlock` -/
def allocateBlock (seq : GenerationRequest) (shareAmongBeams : Bool) :
    Except Failure WindowBlockManager :=
  if s.hasFreeBlocks (if shareAmongBeams then 1 else seq.beamWidth) then
    if shareAmongBeams then do
      let (block, s) ← s.getFreeBlock config platform seq.requestId seq.decodeRetentionPriority
        seq.decodeDurationMs
      return s.addBlockToAllBeams seq block
    else
      (List.range seq.beamWidth).foldlM (fun s beamIdx => do
        let (block, s) ← s.getFreeBlock config platform seq.requestId seq.decodeRetentionPriority
          seq.decodeDurationMs
        return s.addBlockToBeam seq.requestId block beamIdx) s
  else .error .noFreeBlocksLeft

end Take

/-! ## Loading a sequence -/

section Load

variable (config : WindowConfig) (platform : Platform)

/-- The variables of the loop of `loadOrAllocateBlocks`: `blockKeys` are those from
`blockItr` on, and no `searchRoot` is the null pointer. -/
structure LoadState where
  manager : WindowBlockManager
  searchRoot : Option Node
  blockKeys : List BlockKey
  numMatchedTokens : Nat

/-- The match of the current key below the search root, if the code accepts it. -/
def LoadState.acceptedMatch (seq : GenerationRequest) (state : LoadState) :
    Option (BlockKey × BlockMatch) :=
  match state.searchRoot, state.blockKeys with
  | some searchRoot, blockKey :: _ =>
    match state.manager.findMatchingBlock platform searchRoot blockKey config.enablePartialReuse
        config.copyOnPartialReuse with
    | some found =>
      if seq.currentPrepopulatedPromptLen.all (state.numMatchedTokens + found.numMatched ≤ ·)
      then some (blockKey, found) else none
    | none => none
  | _, _ => none

/-- Whether a key fills its block. -/
def fillsBlock (blockKey : BlockKey) : Bool :=
  blockKey.uniqueTokens.length == config.tokensPerBlock

/-- A partial match of a block in use or with children: its tokens are copied to a free block. -/
def copyPartialMatch (s : WindowBlockManager) (requestId : RequestId) (blockKey : BlockKey)
    (found : BlockMatch) : Except Failure (BlockId × WindowBlockManager) := do
  let source := s.memoryPoolBlockIndex found.block
  let (newBlock, s) ← s.getFreeBlock config platform requestId (s.priority found.block)
    (s.durationMs found.block)
  let s := s.recordIf (newBlock == found.block && s.memoryPoolBlockIndex newBlock != source)
    (.overwroteSource newBlock)
  let s := s.copyBlock config found.block newBlock found.numMatched
  let s := s.setBlockKey newBlock blockKey (fillsBlock config blockKey)
  return (newBlock, s.setHash newBlock)

/-- A partial match of a free leaf: the block leaves the tree and becomes private. -/
def takeLeaf (s : WindowBlockManager) (retention : RetentionPriorityAndDuration)
    (block : BlockId) : Except Failure WindowBlockManager := do
  let s := s.record (.tookLeaf block)
  let s := s.recordIf (s.listedByValid s.isValidStoreForReuseSequence block) (.tookListed block)
  let s ← s.freeLeafBlock block
  return s.claimBlock block retention.retentionPriority retention.durationMs

/-- The branch of the loop for an accepted match, up to `onboardBlock`: the block
to use and the next search root. -/
def useMatch (s : WindowBlockManager) (requestId : RequestId)
    (retention : RetentionPriorityAndDuration) (blockKey : BlockKey) (found : BlockMatch) :
    Except Failure (BlockId × Option Node × WindowBlockManager) :=
  if found.partialMatch then
    if s.hasRefs found.block || !s.isLeaf (.block found.block) then do
      let (newBlock, s) ← copyPartialMatch config platform s requestId blockKey found
      return (newBlock, none, s)
    else do
      let s ← s.takeLeaf retention found.block
      return (found.block, none, s)
  else
    return (found.block, some (.block found.block),
      s.claimBlock found.block retention.retentionPriority retention.durationMs)

/-- The priority event of an accepted match. -/
def notifyPriority (s : WindowBlockManager) (retention : RetentionPriorityAndDuration)
    (block : BlockId) : WindowBlockManager :=
  match retention.retentionPriority with
  | none => s
  | some priority => s.enqueueUpdatedEvent config (s.priority block != priority)
      (.priorityUpdated (s.blockHash block) (s.priority block) priority)

/-- Give a freshly taken block the current key, if there is one left. -/
def setNextKey (s : WindowBlockManager) (block : BlockId) (blockKeys : List BlockKey) :
    WindowBlockManager :=
  match blockKeys with
  | [] => s
  | blockKey :: _ => s.setBlockKey block blockKey (fillsBlock config blockKey)

/-- One round of the loop over the context blocks that beams share. -/
def loadSharedBlock (seq : GenerationRequest) (state : LoadState)
    (retention : RetentionPriorityAndDuration) : Except Failure LoadState :=
  match state.acceptedMatch config platform seq with
  | some (blockKey, found) => do
      let s := notifyPriority config state.manager retention found.block
      let (block, searchRoot, s) ← useMatch config platform s seq.requestId retention blockKey found
      let s ← s.onboardBlock config platform seq.requestId block
      return {
        manager := s.addBlockToAllBeams seq block
        searchRoot := searchRoot
        blockKeys := state.blockKeys.tail
        numMatchedTokens := state.numMatchedTokens +
          if 0 < found.numMatched then found.numMatched else blockKey.uniqueTokens.length }
  | none => do
      let (block, s) ← state.manager.getFreeBlock config platform seq.requestId
        (retention.retentionPriority.getD kDefaultRetentionPriority) retention.durationMs
      let s := setNextKey config (s.addBlockToAllBeams seq block) block state.blockKeys
      return { state with
        manager := s.setHash block, searchRoot := none, blockKeys := state.blockKeys.tail }

/-- One beam of the loop over the context blocks that each beam has for itself. -/
def loadBeamBlock (seq : GenerationRequest) (retention : RetentionPriorityAndDuration)
    (state : LoadState) (beamIdx : Nat) : Except Failure LoadState := do
  let (block, s) ← state.manager.getFreeBlock config platform seq.requestId
    (retention.retentionPriority.getD kDefaultRetentionPriority) retention.durationMs
  let s := setNextKey config (s.addBlockToBeam seq.requestId block beamIdx) block state.blockKeys
  return { state with manager := s.setHash block, blockKeys := state.blockKeys.tail }

def loadUnsharedBlock (seq : GenerationRequest) (state : LoadState)
    (retention : RetentionPriorityAndDuration) : Except Failure LoadState := do
  let state ← (List.range seq.beamWidth).foldlM (loadBeamBlock config platform seq retention) state
  return { state with blockKeys := state.blockKeys.tail }

/-- `WindowBlockManager::loadOrAllocateBlocks`, without the update of
`currentPrepopulatedPromptLen` that ends it. -/
def loadOrAllocateBlocks (s : WindowBlockManager) (blockKeys : List BlockKey)
    (numContextBlocks : Nat) (seq : GenerationRequest)
    (perBlockRetentions : List RetentionPriorityAndDuration) :
    Except Failure (Nat × WindowBlockManager) := do
  let numSharedContextBlocks :=
    if 1 < seq.beamWidth then numContextBlocks - 1 else numContextBlocks
  let state ← (perBlockRetentions.take numSharedContextBlocks).foldlM
    (loadSharedBlock config platform seq) ⟨s, some .root, blockKeys, 0⟩
  let state ← (perBlockRetentions.drop numSharedContextBlocks).foldlM
    (loadUnsharedBlock config platform seq) state
  return (state.numMatchedTokens, state.manager)

/-- `setCurrentPrepopulatedPromptLen` -/
def setCurrentPrepopulatedPromptLen (seq : GenerationRequest) (promptLen : Nat) :
    Except Failure GenerationRequest :=
  if seq.currentPrepopulatedPromptLen.all (promptLen ≤ ·) then
    .ok { seq with currentPrepopulatedPromptLen := some promptLen }
  else .error .prepopulatedIncreased

/-- The record of a sequence without blocks; `fill` is the value the offset table is filled with. -/
def emptySequence (beamWidth fill : Nat) : SequenceBlocks where
  allocatedBlocks := []
  cacheBlockIds := List.replicate beamWidth []
  cacheBlockIndices := fun _ => fill

/-- `mAllocatedBlocksPerSeq.emplace`, with its check. -/
def emplaceSequence (s : WindowBlockManager) (seq : GenerationRequest) :
    Except Failure WindowBlockManager :=
  if (s.sequences.lookup seq.requestId).isSome then .error .sequenceExists
  else .ok { s with
    sequences := s.sequences.insert seq.requestId (emptySequence seq.beamWidth (2 ^ 31 - 1)) }

/-- The keys of a prompt: its last token is left out, because it is computed anyway. -/
def promptKeys (request : LlmRequest) (inputLength : Nat) : Except Failure (List BlockKey) := do
  let blockedUniqueTokens ←
    chopVectorIntoBlocks request.uniqueTokens (inputLength - 1) config.tokensPerBlock true
  let blockedUniqueTokens :=
    if inputLength % config.tokensPerBlock = 1 then blockedUniqueTokens ++ [[]]
    else blockedUniqueTokens
  return buildBlockKeys blockedUniqueTokens request

/-- `WindowBlockManager::addSequence` when block reuse is enabled. No KV cache
connector is modelled. -/
def addSequenceReuse (s : WindowBlockManager) (seq : GenerationRequest)
    (inputLength numContextBlocks : Nat) (request : LlmRequest) :
    Except Failure (WindowBlockManager × GenerationRequest × LlmRequest) := do
  let s ← s.emplaceSequence seq
  let blockKeys ← promptKeys config request inputLength
  let perBlockRetentions := (request.kvCacheRetentionConfig.getD
    {}).getPerBlockRetentionPriorityDuration config.tokensPerBlock inputLength
  if perBlockRetentions.length ≠ numContextBlocks then throw .retentionSize
  let (prepopulatedPromptLen, s) ←
    s.loadOrAllocateBlocks config platform blockKeys numContextBlocks seq perBlockRetentions
  let seq ← setCurrentPrepopulatedPromptLen seq prepopulatedPromptLen
  let request ← request.setPrepopulatedPromptLen prepopulatedPromptLen config.tokensPerBlock
  return (s, seq, request)

/-- `WindowBlockManager::addSequence` when block reuse is disabled. -/
def addSequenceNoReuse (s : WindowBlockManager) (seq : GenerationRequest) (numContextBlocks : Nat)
    (isShareLastContextBlock : Bool) : Except Failure WindowBlockManager := do
  let s ← s.emplaceSequence seq
  if numContextBlocks = 0 then throw .unsupported
  let s ← (List.range (numContextBlocks - 1)).foldlM
    (fun s _ => s.allocateBlock config platform seq true) s
  s.allocateBlock config platform seq isShareLastContextBlock

end Load

/-! ## Storing and releasing blocks -/

section Store

variable (config : WindowConfig) (platform : Platform)

/-- The variables of the loop of `storeBlocks`. -/
structure StoreState where
  manager : WindowBlockManager
  searchRoot : Node := .root
  needMatch : Bool := true
  storedBlocks : List BlockId := []
  pinnedBlockIds : List BlockId := []

/-- The branch of `storeBlocks` that inserts a block below the search root. -/
def insertBlock (s : WindowBlockManager) (searchRoot : Node) (blockKey : BlockKey)
    (block : BlockId) : WindowBlockManager :=
  let s := s.recordIf (s.prevBlock block).isSome (.relinked block)
  let s := s.setBlockKey block blockKey (fillsBlock config blockKey)
  let s := (s.setPrevBlock block (some searchRoot)).setPrevBlockInSeq block (some searchRoot)
  let s := s.addNextBlock searchRoot blockKey block
  { s with
    blockHash := Function.update s.blockHash block
      (BlockKeyHasher.hash blockKey (s.nodeHash searchRoot)) }

/-- The match or the insertion of one round, before pinning. -/
def storeOrMatch (state : StoreState) (blockKey : BlockKey) (block : BlockId) : StoreState :=
  match if state.needMatch then
      state.manager.findMatchingBlock platform state.searchRoot blockKey false false
    else none with
  | some found => { state with searchRoot := .block found.block }
  | none => { state with
      manager := insertBlock config state.manager state.searchRoot blockKey block
      searchRoot := .block block
      needMatch := false
      storedBlocks := state.storedBlocks ++ [block] }

/-- `searchRoot->incRefCount()` when the stored blocks are pinned. -/
def pinRoot (pinBlocks : Bool) (state : StoreState) : StoreState :=
  match pinBlocks, state.searchRoot with
  | true, .block block => { state with
      manager := (state.manager.recordIf (!state.manager.hasRefs block)
        (.pinnedFree block)).incRefCount block
      pinnedBlockIds := state.pinnedBlockIds ++ [block] }
  | _, _ => state

/-- The loop of `storeBlocks`; a block id that is out of range ends it. -/
def storeLoop (pinBlocks : Bool) : List (BlockKey × BlockId) → StoreState → StoreState
  | [], state => state
  | (blockKey, block) :: rest, state =>
    if block < config.numBlocks then
      storeLoop pinBlocks rest
        (pinRoot pinBlocks (storeOrMatch config platform state blockKey block))
    else state

/-- `WindowBlockManager::storeBlocks`: the ids it pinned and the new state. -/
def storeBlocks (s : WindowBlockManager) (blockKeys : List BlockKey) (blockIds : List BlockId)
    (pinBlocks : Bool) : List BlockId × WindowBlockManager :=
  let state := storeLoop config platform pinBlocks (blockKeys.zip blockIds) { manager := s }
  (state.pinnedBlockIds, state.manager.enqueueStoredEvent config state.storedBlocks)

/-- The keys of the usable tokens of a request. -/
def reuseKeys (request : LlmRequest) (allowPartial : Bool) : Except Failure (List BlockKey) := do
  let blockedUniqueTokens ← chopVectorIntoBlocks request.uniqueTokens
    request.getUsableUniqueTokenCountForReuse config.tokensPerBlock allowPartial
  return buildBlockKeys blockedUniqueTokens request

/-- The record of a sequence, which the source looks up with `at`. -/
def sequence? (s : WindowBlockManager) (requestId : RequestId) : Except Failure SequenceBlocks :=
  match s.sequences.lookup requestId with
  | some sequence => .ok sequence
  | none => .error .noSequence

/-- The body of `BlockManager::storeContextBlocks` for one window: full blocks
only, and nothing under a sliding window. -/
def storeContextBlocks (s : WindowBlockManager) (request : LlmRequest) :
    Except Failure WindowBlockManager :=
  if config.isSWA then .ok s
  else do
    let sequence ← s.sequence? request.requestId
    let blockKeys ← reuseKeys config request false
    return (storeBlocks config platform s blockKeys (sequence.beamBlocks 0) false).2

/-- The keys of `storeNewBlock`, which takes all tokens but the last to be computed. -/
def newBlockKeys (request : LlmRequest) : Except Failure (List BlockKey) := do
  let blockedUniqueTokens ← chopVectorIntoBlocks request.uniqueTokens
    (request.uniqueTokens.length - 1) config.tokensPerBlock true
  return buildBlockKeys blockedUniqueTokens request

/-- Whether the block at a position of a sequence has a parent in the tree. -/
def linkedAt (s : WindowBlockManager) (cacheBlockIds : List BlockId) (position : Nat) : Bool :=
  (cacheBlockIds[position]?).any fun block => (s.prevBlock block).isSome

/-- `WindowBlockManager::storeNewBlock`, skipped by the caller under a sliding window. -/
def storeNewBlock (s : WindowBlockManager) (request : LlmRequest) :
    Except Failure WindowBlockManager :=
  if config.isSWA || request.uniqueTokens.isEmpty ||
      (request.uniqueTokens.length - 1) % config.tokensPerBlock != 0 then .ok s
  else do
    let sequence ← s.sequence? request.requestId
    let cacheBlockIds := sequence.beamBlocks 0
    let blockKeys ← newBlockKeys config request
    if 2 ≤ blockKeys.length ∧ blockKeys.length ≤ cacheBlockIds.length ∧
        s.linkedAt cacheBlockIds (blockKeys.length - 2) ∧
        s.linkedAt cacheBlockIds (blockKeys.length - 1) then return s
    return (storeBlocks config platform s blockKeys cacheBlockIds false).2

/-- `WindowBlockManager::storeBlocksForReuse` -/
def storeBlocksForReuse (s : WindowBlockManager) (request : LlmRequest) (pinBlocks : Bool) :
    Except Failure (List BlockId × WindowBlockManager) := do
  let sequence ← s.sequence? request.requestId
  let blockKeys ← reuseKeys config request true
  return storeBlocks config platform s blockKeys (sequence.beamBlocks 0) pinBlocks

/-- One round of the releasing loop of `releaseBlocks`. -/
def releaseReference (s : WindowBlockManager) (block : BlockId) : WindowBlockManager :=
  let s := if s.hasRefs block then s.decRefCount block else s
  if s.hasRefs block then s else s.releaseBlock platform block false

/-- `isSequenceValidForStoreForReuse`, with its check that the sequence is known. -/
def isSequenceValidForStoreForReuse (s : WindowBlockManager) (requestId : RequestId) :
    Except Failure Bool :=
  match s.isValidStoreForReuseSequence requestId with
  | some valid => .ok valid
  | none => .error .noSequence

/-- The storing part of `releaseBlocks`. -/
def storeReleased (s : WindowBlockManager) (sequence : SequenceBlocks) (requestId : RequestId)
    (request : Option LlmRequest) : Except Failure WindowBlockManager :=
  match request with
  | none => .ok s
  | some request => do
      if ← s.isSequenceValidForStoreForReuse requestId then
        let blockKeys ← reuseKeys config request true
        return (storeBlocks config platform s blockKeys sequence.allocatedBlocks false).2
      else return s

/-- `WindowBlockManager::releaseBlocks`: the last block is released first, and
detached front blocks are not released again. -/
def releaseBlocks (s : WindowBlockManager) (seq : GenerationRequest)
    (request : Option LlmRequest) : Except Failure WindowBlockManager := do
  let sequence ← s.sequence? seq.requestId
  let s := { s with sequences := s.sequences.erase seq.requestId }
  let s ← storeReleased config platform s sequence seq.requestId request
  return (sequence.allocatedBlocks.drop seq.numFrontBlocksRemoved).reverse.foldl
    (releaseReference platform) s

/-- `decRefCount` with its check, then `releaseBlock` if that was the last reference. -/
def dropReference (s : WindowBlockManager) (block : BlockId) (toFront : Bool) :
    Except Failure WindowBlockManager :=
  if s.hasRefs block then
    let s := s.decRefCount block
    .ok (if s.hasRefs block then s else s.releaseBlock platform block toFront)
  else .error .notAllocated

/-- `pop_back` on the allocated blocks and on the ids of every beam. -/
def popBlock (sequence : SequenceBlocks) : SequenceBlocks :=
  { sequence with
    allocatedBlocks := sequence.allocatedBlocks.dropLast
    cacheBlockIds := sequence.cacheBlockIds.map List.dropLast }

/-- `WindowBlockManager::releaseLastBlock` -/
def releaseLastBlock (s : WindowBlockManager) (seq : GenerationRequest) :
    Except Failure WindowBlockManager := do
  let sequence ← s.sequence? seq.requestId
  match sequence.allocatedBlocks.getLast? with
  | none => throw .emptyAccess
  | some block =>
    let s := s.recordIf (sequence.allocatedBlocks.length ≤ seq.numFrontBlocksRemoved)
      (.releasedDetached block)
    let s ← dropReference platform s block true
    return s.modifySequence seq.requestId popBlock

/-- `WindowBlockManager::detachFrontBlock` -/
def detachFrontBlock (s : WindowBlockManager) (seq : GenerationRequest) :
    Except Failure (WindowBlockManager × GenerationRequest) := do
  if seq.beamWidth ≠ 1 then throw .unsupported
  let sequence ← s.sequence? seq.requestId
  match sequence.allocatedBlocks[seq.numFrontBlocksRemoved]? with
  | none => throw .emptyAccess
  | some block =>
    let s ← dropReference platform s block false
    return (s, { seq with numFrontBlocksRemoved := seq.numFrontBlocksRemoved + 1 })

/-- One id of `unpinBlocksById`. -/
def unpinBlock (s : WindowBlockManager) (block : BlockId) : Except Failure WindowBlockManager :=
  if block < config.numBlocks then dropReference platform s block false
  else .error .blockOutOfRange

/-- `WindowBlockManager::unpinBlocksById` -/
def unpinBlocksById (s : WindowBlockManager) (blockIds : List BlockId) :
    Except Failure WindowBlockManager :=
  blockIds.foldlM (unpinBlock config platform) s

end Store

/-! ## Offset tables -/

section Offsets

variable (config : WindowConfig)

/-- `flat_index` into an offset table of shape `numPools × beamWidth × 2 × maxBlocksPerSeq`. -/
def offsetIndex (beamWidth poolIdx beamIdx xIdx blockIdx : Nat) : Nat :=
  ((poolIdx * beamWidth + beamIdx) * 2 + xIdx) * config.maxBlocksPerSeq + blockIdx

/-- The offset of a slot in a pool: `flat_index3` at layer 0 and the field of K or V. -/
def blockOffset (slot numLayers xIdx : Nat) : Nat :=
  (slot * numLayers + 0) * config.kvFactor + if config.cacheType = .selfKOnly then 0 else xIdx

/-- `WindowBlockManager::setOffsets` -/
def setOffsets (s : WindowBlockManager) (beamWidth beamIdx blockIdx : Nat) (block : BlockId)
    (offsets : Nat → Nat) : Nat → Nat :=
  (List.range config.poolNumLayers.length).foldl (fun offsets poolIdx =>
    [0, 1].foldl (fun offsets xIdx =>
      Function.update offsets (offsetIndex config beamWidth poolIdx beamIdx xIdx blockIdx)
        (blockOffset config (s.memoryPoolBlockIndex block).get
          (config.poolNumLayers.getD poolIdx 0) xIdx)) offsets) offsets

/-- The rows of `updateSequenceCacheBlockOffsets`: all blocks of a beam. -/
def beamOffsets (s : WindowBlockManager) (beamWidth beamIdx : Nat) (blocks : List BlockId)
    (offsets : Nat → Nat) : Nat → Nat :=
  blocks.zipIdx.foldl (fun offsets entry =>
    setOffsets config s beamWidth beamIdx entry.2 entry.1 offsets) offsets

/-- `BlockManager::updateSequenceCacheBlockOffsets` for one window. -/
def updateSequenceCacheBlockOffsets (s : WindowBlockManager) (seq : GenerationRequest) :
    WindowBlockManager :=
  s.modifySequence seq.requestId fun sequence => { sequence with
    cacheBlockIndices := (List.range seq.beamWidth).foldl (fun offsets beamIdx =>
      beamOffsets config s seq.beamWidth beamIdx (sequence.beamBlocks beamIdx)
        offsets) sequence.cacheBlockIndices }

/-- The last block of a beam, as `updateLastCacheBlockOffsets` writes it. -/
def lastOffset (s : WindowBlockManager) (beamWidth beamIdx : Nat) (blocks : List BlockId)
    (offsets : Nat → Nat) : Nat → Nat :=
  match blocks.getLast? with
  | none => offsets
  | some block => setOffsets config s beamWidth beamIdx (blocks.length - 1) block offsets

/-- `WindowBlockManager::updateLastCacheBlockOffsets` -/
def updateLastCacheBlockOffsets (s : WindowBlockManager) (seq : GenerationRequest) :
    WindowBlockManager :=
  s.modifySequence seq.requestId fun sequence => { sequence with
    cacheBlockIndices := (List.range seq.beamWidth).foldl (fun offsets beamIdx =>
      lastOffset config s seq.beamWidth beamIdx (sequence.beamBlocks beamIdx)
        offsets) sequence.cacheBlockIndices }

end Offsets

/-! ## Growing a sequence -/

section Grow

variable (config : WindowConfig) (platform : Platform)

/-- The loop of `adjustBlocksIfNeeded` that detaches blocks out of the window. Each
round shortens the distance to the window by one block. -/
def detachLoop : Nat → WindowBlockManager → GenerationRequest →
    Except Failure (WindowBlockManager × GenerationRequest)
  | 0, s, seq => .ok (s, seq)
  | rounds + 1, s, seq =>
    if config.windowSize + config.tokensPerBlock ≤
        seq.numTokens - seq.numFrontBlocksRemoved * config.tokensPerBlock then
      if config.isSWA then do
        let (s, seq) ← detachFrontBlock platform s seq
        detachLoop rounds s seq
      else .error .unsupported
    else .ok (s, seq)

/-- `WindowBlockManager::adjustBlocksIfNeeded` -/
def adjustBlocksIfNeeded (s : WindowBlockManager) (seq : GenerationRequest) :
    Except Failure (WindowBlockManager × GenerationRequest) := do
  let (s, seq) ← detachLoop config platform seq.numTokens s seq
  if (seq.numTokens - 1) % config.tokensPerBlock = 0 then
    let s ← s.allocateBlock config platform seq (seq.beamWidth == 1)
    return (updateLastCacheBlockOffsets config s seq, seq)
  return (s, seq)

end Grow

end WindowBlockManager

end TrtLlm
