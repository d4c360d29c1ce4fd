import TrtLlm.Transfer.CacheFormatter
import TrtLlm.Transfer.ContextParallel
import TrtLlm.Transfer.Domains

/-! # The MLA cache formatter

With MLA every tensor-parallel rank holds all heads, so one of them sends for all. A context rank
divides the blocks between the context-parallel ranks of the generation executor. The cache of the
indexer is left out.
-/

namespace TrtLlm

/-! ## Kernels -/

section Kernels

variable {α : Type}

/-- What the threads of the MLA split kernel work on, with the block's local index and
its context-parallel rank. -/
def mlaWorkItems (roundRobin : Bool) (shape : LayerShape)
    (inputBlockNum numLayers domainPPSize domainCPSize : Nat) (layerNums : List Nat) :
    List (WorkItem × Nat × Nat) :=
  (workItems shape inputBlockNum numLayers domainPPSize layerNums).flatMap fun item =>
    (getBlockPosition roundRobin domainCPSize inputBlockNum item.blockId).toList.map fun position =>
      (item, position)

/-- `splitKVCacheForMLAKernel` -/
def splitKVCacheForMLAKernel (roundRobin : Bool) (shape : LayerShape)
    (inputBlockNum numLayers domainPPSize domainCPSize : Nat) (layerNums : List Nat)
    (inputBlocks outputCaches : Nat × Nat → α) : Nat × Nat → α :=
  Copies.run ((mlaWorkItems roundRobin shape inputBlockNum numLayers domainPPSize domainCPSize
    layerNums).map fun work =>
      let item := work.1
      let blockIdInDomainCP := work.2.1
      let rankInDomainCP := work.2.2
      let outputCacheIdx := rankInDomainCP * domainPPSize + item.position.rankInDomainPP
      let outputOffset :=
        blockIdInDomainCP * (item.position.layerNumInSpecPP * shape.layerSize) +
          shape.offset item.position.layerIdInDomainPP item.element
      ((outputCacheIdx, outputOffset),
        inputBlocks (item.blockId, shape.offset item.layerId item.element))) outputCaches

/-- `concatKVCacheForMLAKernel` -/
def concatKVCacheForMLAKernel (shape : LayerShape) (outputBlockNum numLayers domainPPSize : Nat)
    (layerNums : List Nat) (inputCaches outputBlocks : Nat × Nat → α) : Nat × Nat → α :=
  Copies.run ((workItems shape outputBlockNum numLayers domainPPSize layerNums).map fun item =>
    let inputCacheIdx := item.position.rankInDomainPP
    let inputOffset :=
      item.blockId * (item.position.layerNumInSpecPP * shape.layerSize) +
        shape.offset item.position.layerIdInDomainPP item.element
    ((item.blockId, shape.offset item.layerId item.element),
      inputCaches (inputCacheIdx, inputOffset))) outputBlocks

theorem mem_mlaWorkItems {roundRobin : Bool} {shape : LayerShape}
    {num numLayers domainPPSize domainCPSize : Nat} {layerNums : List Nat}
    {work : WorkItem × Nat × Nat} :
    work ∈ mlaWorkItems roundRobin shape num numLayers domainPPSize domainCPSize layerNums ↔
      work.1 ∈ workItems shape num numLayers domainPPSize layerNums ∧
        getBlockPosition roundRobin domainCPSize num work.1.blockId = some work.2 := by
  simp only [mlaWorkItems, List.mem_flatMap, List.mem_map, Option.mem_toList]
  constructor
  · rintro ⟨item, mem, pos, found, rfl⟩
    exact ⟨mem, found⟩
  · intro facts
    exact ⟨_, facts.1, _, facts.2, rfl⟩

variable {roundRobin : Bool} {shape : LayerShape}
  {num numLayers domainPPSize domainCPSize : Nat} {layerNums : List Nat}
  {blocks caches : Nat × Nat → α} {layerId : Nat} {pos : LayerPosition} {element : Element}

/-- The buffer and the offset at which an element of a block is sent. -/
def mlaCachePlace (shape : LayerShape) (domainPPSize localBlock cpRank : Nat)
    (position : LayerPosition) (element : Element) : Nat × Nat :=
  (cpRank * domainPPSize + position.rankInDomainPP,
    shape.offset (localBlock * position.layerNumInSpecPP + position.layerIdInDomainPP) element)

/-- Two elements are not sent at one place. -/
theorem mlaCachePlace_inj (cpPositive : 0 < domainCPSize) {work other : WorkItem × Nat × Nat}
    (mem : work ∈ mlaWorkItems roundRobin shape num numLayers domainPPSize domainCPSize layerNums)
    (otherMember : other ∈ mlaWorkItems roundRobin shape num numLayers domainPPSize domainCPSize
      layerNums)
    (same : mlaCachePlace shape domainPPSize work.2.1 work.2.2 work.1.position work.1.element =
      mlaCachePlace shape domainPPSize other.2.1 other.2.2 other.1.position other.1.element) :
    work = other := by
  obtain ⟨item, localBlock, cpRank⟩ := work
  obtain ⟨otherItem, otherLocal, otherCP⟩ := other
  obtain ⟨itemMember, block⟩ := mem_mlaWorkItems.mp mem
  obtain ⟨otherItemMember, otherBlock⟩ := mem_mlaWorkItems.mp otherMember
  obtain ⟨blockBound, -, found, lt⟩ := mem_workItems.mp itemMember
  obtain ⟨otherBlockBound, -, otherFound, otherInside⟩ := mem_workItems.mp otherItemMember
  obtain ⟨rankLt, layer, layerBound, layerNum⟩ := getLayerPosition_eq_some found
  obtain ⟨otherRankBound, otherLayer, otherLayerBound, otherLayerNum⟩ :=
    getLayerPosition_eq_some otherFound
  have global := global_of_getBlockPosition cpPositive blockBound block
  have otherGlobal := global_of_getBlockPosition cpPositive otherBlockBound otherBlock
  obtain ⟨caches, offsets⟩ := Prod.mk.inj same
  obtain ⟨cpRanks, rank⟩ := Nat.mul_add_inj rankLt otherRankBound caches
  have layerNums : item.position.layerNumInSpecPP = otherItem.position.layerNumInSpecPP := by
    rw [layerNum, otherLayerNum, rank]
  obtain ⟨layers, elements⟩ := LayerShape.offset_inj lt otherInside offsets
  rw [← layerNums] at layers
  obtain ⟨locals, layerInDomain⟩ := Nat.mul_add_inj layerBound (layerNums ▸ otherLayerBound) layers
  -- The rank and the local index determine the block.
  have blockIds : item.blockId = otherItem.blockId := by
    dsimp only at cpRanks locals
    rw [← global, ← otherGlobal, cpRanks, locals]
  obtain ⟨itemBlock, itemLayer, ⟨_, _, _⟩, _⟩ := item
  obtain ⟨otherItemBlock, otherItemLayer, ⟨_, _, _⟩, _⟩ := otherItem
  simp only at *
  simp [*]

/-- A split buffer holds the elements of the blocks of its context-parallel rank. -/
theorem splitKVCacheForMLAKernel_apply {localBlock cpRank : Nat} (rankLt : cpRank < domainCPSize)
    (blockBound : localBlock < getBlockNumAccountingForCP cpRank domainCPSize num)
    (layerBound : layerId < numLayers)
    (found : getLayerPosition layerNums domainPPSize layerId = some pos)
    (lt : element.Inside shape) :
    splitKVCacheForMLAKernel roundRobin shape num numLayers domainPPSize domainCPSize layerNums
        blocks caches (mlaCachePlace shape domainPPSize localBlock cpRank pos element) =
      blocks (getGlobalBlockIdAccountingForCP roundRobin localBlock domainCPSize cpRank num,
        shape.offset layerId element) := by
  have mem : ((⟨getGlobalBlockIdAccountingForCP roundRobin localBlock domainCPSize cpRank num,
      layerId, pos, element⟩, localBlock, cpRank) : WorkItem × Nat × Nat) ∈
        mlaWorkItems roundRobin shape num numLayers domainPPSize domainCPSize layerNums :=
    mem_mlaWorkItems.mpr ⟨mem_workItems.mpr ⟨global_lt rankLt blockBound, layerBound, found, lt⟩,
        getBlockPosition_global rankLt blockBound⟩
  simp only [splitKVCacheForMLAKernel, LayerShape.block_add_offset]
  exact Copies.run_map mem fun other otherMember same =>
    mlaCachePlace_inj (Nat.zero_lt_of_lt rankLt) otherMember mem same

/-- A block holds after the concatenation what the buffers have at the places of its
elements. -/
theorem concatKVCacheForMLAKernel_apply {blockId : Nat} (blockBound : blockId < num)
    (layerBound : layerId < numLayers)
    (found : getLayerPosition layerNums domainPPSize layerId = some pos)
    (lt : element.Inside shape) :
    concatKVCacheForMLAKernel shape num numLayers domainPPSize layerNums caches blocks
        (blockId, shape.offset layerId element) = caches (pos.rankInDomainPP,
        shape.offset (blockId * pos.layerNumInSpecPP + pos.layerIdInDomainPP) element) := by
  have mem : (⟨blockId, layerId, pos, element⟩ : WorkItem) ∈
      workItems shape num numLayers domainPPSize layerNums :=
    mem_workItems.mpr ⟨blockBound, layerBound, found, lt⟩
  simp only [concatKVCacheForMLAKernel, LayerShape.block_add_offset]
  exact Copies.run_map mem fun other otherMember same => blockPlace_inj otherMember mem same

end Kernels

namespace MLACacheFormatter

/-- `MLACacheFormatter::needSendCache` -/
def needSendCache (self dest : CacheState) (selfIdx : Nat) : Bool :=
  let selfTpRank := self.parallelConfig.tpRank selfIdx
  let destTPNumInDPGroup := dest.parallelConfig.tpSizePerDPGroup
  let destDPRank := dest.parallelConfig.effectiveDPRank
  if self.parallelConfig.enableAttentionDP then
    let selfTPNumInDPGroup := self.parallelConfig.tensorParallelism / self.parallelConfig.dpSize
    let selfTPRankInDPGroup := selfTpRank % selfTPNumInDPGroup
    if selfTPNumInDPGroup ≤ destTPNumInDPGroup then true
    else
      let dupHeadFactor := selfTPNumInDPGroup / destTPNumInDPGroup
      selfTPRankInDPGroup % dupHeadFactor == destDPRank % dupHeadFactor
  else
    let selfTPNum := self.parallelConfig.tensorParallelism
    if selfTPNum ≤ destTPNumInDPGroup then true
    else
      let dupHeadFactor := selfTPNum / destTPNumInDPGroup
      selfTpRank % dupHeadFactor == destDPRank % dupHeadFactor

/-- `MLACacheFormatter::pickRecvConnections` -/
def pickRecvConnections (numConnections : Nat) (self : CacheState) (selfIdx : Nat)
    (dest : CacheState) : Except ExchangeFailure (List Nat) := do
  let targetInfo ← targetRanksInfoForDP dest self selfIdx
  ensure (targetInfo.domainCPSize = 1) .check
  ensure (numConnections = targetInfo.iRanks.length) .check
  let dpRank := self.parallelConfig.effectiveDPRank
  return (List.range targetInfo.domainPPSize).map fun i =>
    i + dpRank % targetInfo.domainTPSize * targetInfo.domainPPSize

/-- The sizes of a layer of a block of an executor. -/
def layerShape (state : CacheState) : LayerShape where
  kvFactor := state.kvFactor
  headNum := state.modelConfig.nbKvHeadsPerLayer.headD 0
  tokensPerBlock := state.modelConfig.tokensPerBlock
  dimsPerHead := state.modelConfig.sizePerHead

section Data

variable {α : Type}

/-- `splitKVCache` for MLA. -/
def splitKVCache (roundRobin : Bool) (dest self : CacheState) (selfIdx blockNum outputNum : Nat)
    (kvCacheBlocks outputSplitBlocks : Nat × Nat → α) :
    Except ExchangeFailure (Nat × Nat → α) := do
  let targetInfo ← targetRanksInfoForDP dest self selfIdx
  ensure (targetInfo.iRanks.length =
    targetInfo.domainPPSize * targetInfo.domainTPSize * targetInfo.domainCPSize) .check
  ensure (targetInfo.domainPPSize * targetInfo.domainCPSize = outputNum) .check
  ensure (0 < blockNum) .check
  ensure (targetInfo.domainTPSize / targetInfo.peerDupHeadFactor ≠ 0) .divisionByZero
  return splitKVCacheForMLAKernel roundRobin (layerShape self) blockNum
    (CacheFormatter.numLayers self selfIdx) targetInfo.domainPPSize targetInfo.domainCPSize
    targetInfo.peerAttentionLayerNumInDomainPP kvCacheBlocks outputSplitBlocks

/-- `concatKVCache` for MLA. -/
def concatKVCache (dest self : CacheState) (selfIdx blockNum inputNum : Nat)
    (inputSplitBlocks kvCacheBlocks : Nat × Nat → α) :
    Except ExchangeFailure (Nat × Nat → α) := do
  let targetInfo ← targetRanksInfoForDP dest self selfIdx
  ensure (targetInfo.iRanks.length = targetInfo.domainPPSize * targetInfo.domainTPSize) .check
  ensure (targetInfo.domainPPSize = inputNum) .check
  ensure (0 < blockNum) .check
  ensure (targetInfo.domainTPSize / targetInfo.peerDupHeadFactor ≠ 0) .divisionByZero
  return concatKVCacheForMLAKernel (layerShape self) blockNum
    (CacheFormatter.numLayers self selfIdx) targetInfo.domainPPSize
    targetInfo.peerAttentionLayerNumInDomainPP inputSplitBlocks kvCacheBlocks

/-- `sendBufferFun`: the buffer that goes to a connection. The connections are ordered
by the context-parallel rank first. -/
def sendCacheIdx (targetInfo : TargetRanksInfo) (connectionNum processIdx : Nat) : Nat :=
  let connectionsPerCPDomain := connectionNum / targetInfo.domainCPSize
  let cpDomainIdx := processIdx / connectionsPerCPDomain
  let ppDomainIdx := processIdx % connectionsPerCPDomain % targetInfo.domainPPSize
  cpDomainIdx * targetInfo.domainPPSize + ppDomainIdx

/-- What `format` sends to each of its connections, in their order. Nothing is sent
by a rank that need not. -/
def format (roundRobin : Bool) (self dest : CacheState) (selfIdx blockNum : Nat)
    (kvCacheBlocks sendBuffers : Nat × Nat → α) :
    Except ExchangeFailure (List (Nat → α)) := do
  let targetInfo ← targetRanksInfoForDP dest self selfIdx
  let connectionNum := targetInfo.iRanks.length
  ensure (connectionNum ≠ 0) .check
  if !needSendCache self dest selfIdx then
    return []
  let outputSplitCaches ← splitKVCache roundRobin dest self selfIdx blockNum
    (targetInfo.domainPPSize * targetInfo.domainCPSize) kvCacheBlocks sendBuffers
  ensure (connectionNum / targetInfo.domainCPSize > 0) .check
  return (List.range connectionNum).map fun processIdx offset =>
    outputSplitCaches (sendCacheIdx targetInfo connectionNum processIdx, offset)

/-- What a context rank sends to a generation rank: the message on the connection at
the generation rank's place among the targets. -/
def sentTo (roundRobin : Bool) (context generation : CacheState) (blockNum : Nat)
    (contextBlocks sendBuffers : Nat → Nat × Nat → α) (contextRank generationRank : Nat) :
    Except ExchangeFailure (Option (Nat → α)) := do
  let targetInfo ← targetRanksInfoForDP generation context contextRank
  let messages ← format roundRobin context generation contextRank blockNum
    (contextBlocks contextRank) (sendBuffers contextRank)
  return messages[targetInfo.iRanks.idxOf generationRank]?

/-- What `unformat` makes of the messages: those of the picked connections are
received in the order of the picks and concatenated. -/
def unformat (self dest : CacheState) (selfIdx blockNum : Nat) (received : Nat → Nat → α)
    (kvCacheBlocks : Nat × Nat → α) : Except ExchangeFailure (Nat × Nat → α) := do
  let targetInfo ← targetRanksInfoForDP dest self selfIdx
  let pickUpConnections ← pickRecvConnections targetInfo.iRanks.length self selfIdx dest
  concatKVCache dest self selfIdx blockNum pickUpConnections.length
    (fun place => received (pickUpConnections.getD place.1 0) place.2) kvCacheBlocks

end Data

end MLACacheFormatter

end TrtLlm
