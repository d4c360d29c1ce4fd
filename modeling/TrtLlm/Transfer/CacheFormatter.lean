import TrtLlm.Transfer.CacheLayout

/-! # The cache formatter

A context rank splits the blocks of a sequence into one buffer for each target; a generation rank
picks the connections whose heads it needs and concatenates what it receives.
-/

namespace TrtLlm

/-- All numbers of heads per layer are the same one. -/
def sameHeadNum (state : CacheState) : Bool :=
  state.modelConfig.nbKvHeadsPerLayer.dedup.length == 1

namespace CacheFormatter

/-- `CacheFormatter::inquireSupport` -/
def inquireSupport (self dest : CacheState) : Bool :=
  self.dataType == dest.dataType && sameHeadNum self &&
    self.attentionType == dest.attentionType && self.kvFactor == dest.kvFactor &&
    self.attentionType != .mla &&
    !(self.parallelConfig.contextParallelism != 1 || dest.parallelConfig.contextParallelism != 1) &&
    sameHeadNum dest &&
    !(self.modelConfig.tokensPerBlock != dest.modelConfig.tokensPerBlock ||
      self.modelConfig.sizePerHead != dest.modelConfig.sizePerHead) &&
    self.modelConfig.nbKvHeadsPerLayer.length == dest.modelConfig.nbKvHeadsPerLayer.length

/-- `CacheFormatter::needSendCache`: of the ranks that hold the same heads only one
sends them. -/
def needSendCache (self dest : CacheState) (selfIdx : Nat) : Except ExchangeFailure Bool := do
  let targetInfo ← targetRanksInfoForDP dest self selfIdx
  if targetInfo.dupHeadFactor ≤ 1 then
    return true
  let selfTpRank := self.parallelConfig.tpRank selfIdx
  let selfTpRankInDpGroup :=
    if self.parallelConfig.enableAttentionDP then
      selfTpRank % (self.parallelConfig.tensorParallelism / self.parallelConfig.dpSize)
    else selfTpRank
  let destDPRank := dest.parallelConfig.effectiveDPRank
  return destDPRank % targetInfo.dupHeadFactor == selfTpRankInDpGroup % targetInfo.dupHeadFactor

/-- `CacheFormatter::pickRecvConnections`: of the targets that hold the same heads
only one is received from. -/
def pickRecvConnections (numConnections : Nat) (self : CacheState) (selfIdx : Nat)
    (dest : CacheState) : Except ExchangeFailure (List Nat) := do
  let targetInfo ← targetRanksInfoForDP dest self selfIdx
  if targetInfo.peerDupHeadFactor ≤ 1 then
    return List.range numConnections
  ensure (numConnections = targetInfo.iRanks.length) .check
  let selfDPRank := self.parallelConfig.effectiveDPRank
  return ((List.range targetInfo.domainTPSize).filter fun i =>
    i % targetInfo.peerDupHeadFactor == selfDPRank % targetInfo.peerDupHeadFactor).flatMap fun i =>
      (List.range targetInfo.domainPPSize).map fun j => i * targetInfo.domainPPSize + j

/-- The sizes of a layer of a block of an executor. -/
def layerShape (state : CacheState) : LayerShape where
  kvFactor := 2
  headNum := state.modelConfig.nbKvHeadsPerLayer.headD 0
  tokensPerBlock := state.modelConfig.tokensPerBlock
  dimsPerHead := state.modelConfig.sizePerHead

/-- The heads that are exchanged with one target. -/
def headNumDomainTP (state : CacheState) (targetInfo : TargetRanksInfo) : Nat :=
  state.modelConfig.nbKvHeadsPerLayer.headD 0 /
    (targetInfo.domainTPSize / targetInfo.peerDupHeadFactor)

/-- The number of layers of a rank. -/
def numLayers (state : CacheState) (rank : Nat) : Nat :=
  state.parallelConfig.attentionLayerNumPerPP.getD (state.parallelConfig.ppRank rank) 0

section Data

variable {α : Type}

/-- `splitKVCache` for one window of an attention that is not MLA. -/
def splitKVCache (dest self : CacheState) (selfIdx blockNum outputNum : Nat)
    (kvCacheBlocks outputSplitBlocks : Nat × Nat → α) :
    Except ExchangeFailure (Nat × Nat → α) := do
  let targetInfo ← targetRanksInfoForDP dest self selfIdx
  ensure (targetInfo.iRanks.length =
    targetInfo.domainPPSize * targetInfo.domainTPSize * targetInfo.domainCPSize) .check
  ensure (targetInfo.iRanks.length / targetInfo.peerDupHeadFactor = outputNum) .check
  ensure (0 < blockNum) .check
  ensure (targetInfo.domainTPSize / targetInfo.peerDupHeadFactor ≠ 0) .divisionByZero
  return splitKVCacheKernel (layerShape self) blockNum (numLayers self selfIdx)
    targetInfo.domainPPSize (headNumDomainTP self targetInfo)
    targetInfo.peerAttentionLayerNumInDomainPP kvCacheBlocks outputSplitBlocks

/-- `concatKVCache` for one window of an attention that is not MLA. -/
def concatKVCache (dest self : CacheState) (selfIdx blockNum inputNum : Nat)
    (inputSplitBlocks kvCacheBlocks : Nat × Nat → α) :
    Except ExchangeFailure (Nat × Nat → α) := do
  let targetInfo ← targetRanksInfoForDP dest self selfIdx
  ensure (targetInfo.iRanks.length = targetInfo.domainPPSize * targetInfo.domainTPSize) .check
  ensure (targetInfo.iRanks.length / targetInfo.peerDupHeadFactor = inputNum) .check
  ensure (0 < blockNum) .check
  ensure (targetInfo.domainTPSize / targetInfo.peerDupHeadFactor ≠ 0) .divisionByZero
  return concatKVCacheKernel (layerShape self) blockNum (numLayers self selfIdx)
    targetInfo.domainPPSize (headNumDomainTP self targetInfo)
    targetInfo.peerAttentionLayerNumInDomainPP inputSplitBlocks kvCacheBlocks

/-- `sendBufferFun`: the buffer that goes to a connection. Targets with the same
heads get the same buffer. -/
def sendBufferIdx (targetInfo : TargetRanksInfo) (processIdx : Nat) : Nat :=
  let bufferTpRank := processIdx / targetInfo.domainPPSize / targetInfo.peerDupHeadFactor
  bufferTpRank * targetInfo.domainPPSize + processIdx % targetInfo.domainPPSize

/-- What `format` sends to each of its connections, in their order. Nothing is sent
by a rank that need not. -/
def format (self dest : CacheState) (selfIdx blockNum : Nat)
    (kvCacheBlocks sendBuffers : Nat × Nat → α) :
    Except ExchangeFailure (List (Nat → α)) := do
  let targetInfo ← targetRanksInfoForDP dest self selfIdx
  let need ← needSendCache self dest selfIdx
  if !need then
    return []
  let bufferTargetNum := targetInfo.iRanks.length / targetInfo.peerDupHeadFactor
  let outputSplitCaches ←
    splitKVCache dest self selfIdx blockNum bufferTargetNum kvCacheBlocks sendBuffers
  return (List.range targetInfo.iRanks.length).map fun processIdx offset =>
    outputSplitCaches (sendBufferIdx targetInfo processIdx, offset)

/-- What a context rank sends to a generation rank: the message on the connection at
the generation rank's place among the targets. -/
def sentTo (context generation : CacheState) (blockNum : Nat) (contextBlocks : Nat → Nat × Nat → α)
    (sendBuffers : Nat → Nat × Nat → α) (contextRank generationRank : Nat) :
    Except ExchangeFailure (Option (Nat → α)) := do
  let targetInfo ← targetRanksInfoForDP generation context contextRank
  let messages ← format context generation contextRank blockNum (contextBlocks contextRank)
    (sendBuffers contextRank)
  return messages[targetInfo.iRanks.idxOf generationRank]?

/-- What `unformat` makes of the messages: those of the picked connections are
received in the order of the picks and concatenated. -/
def unformat (self dest : CacheState) (selfIdx blockNum : Nat) (received : Nat → Nat → α)
    (kvCacheBlocks : Nat × Nat → α) : Except ExchangeFailure (Nat × Nat → α) := do
  let targetInfo ← targetRanksInfoForDP dest self selfIdx
  let pickUpConnections ← pickRecvConnections targetInfo.iRanks.length self selfIdx dest
  concatKVCache dest self selfIdx blockNum pickUpConnections.length
    (fun place => received (pickUpConnections.getD place.1 0) place.2) kvCacheBlocks

end Data

end CacheFormatter

end TrtLlm
