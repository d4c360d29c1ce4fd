import TrtLlm.Transfer.MLATransferContents
import TrtLlm.Transfer.TransferContents

/-! # Buffers of a transfer

Each side has a preallocated buffer and divides it into slices, one for each target, as
long as they fit; a buffer that does not fit is allocated on its own. The sizes are
computed by each side from its own blocks. Only one attention window is modelled.
-/

namespace TrtLlm

open List

/-! ## The preallocated buffer -/

/-- What `CacheTransBufferManager` is constructed with, and the environment that it reads.
The granularity is that of fabric memory if it is used. -/
structure BufferSettings where
  maxNumTokens : Nat
  windowSize : Nat
  transferAllBlocksForWindow : Bool
  granularity : Option Nat
  deriving DecidableEq, Repr

/-- The number of elements of a block of a rank. -/
def blockSize (state : CacheState) (rank : Nat) : Nat :=
  CacheFormatter.numLayers state rank * (MLACacheFormatter.layerShape state).layerSize

/-- `CacheTransBufferManager::CacheTransBufferManager`: the bytes of one buffer. -/
def transferBufferSize (settings : BufferSettings) (state : CacheState)
    (rank dataSize : Nat) : Nat :=
  let tokensPerBlock := state.modelConfig.tokensPerBlock
  let blockElements :=
    state.modelConfig.nbKvHeadsPerLayer.headD 0 * tokensPerBlock * state.modelConfig.sizePerHead
  let kvCacheByteSizePerTokenPerLayer := blockElements * state.kvFactor * dataSize / tokensPerBlock
  let alignedWindowSize := (settings.windowSize + tokensPerBlock - 1) / tokensPerBlock *
    tokensPerBlock
  let validTokenNum :=
    if settings.transferAllBlocksForWindow then settings.maxNumTokens
    else if alignedWindowSize < settings.maxNumTokens then alignedWindowSize
    else settings.maxNumTokens
  -- One more block is added. All layers are in the same window.
  let size := CacheFormatter.numLayers state rank *
    ((validTokenNum + tokensPerBlock) * kvCacheByteSizePerTokenPerLayer)
  match settings.granularity with
  | some granularity =>
    if size = 0 then 0 else (size + granularity - 1) / granularity * granularity
  | none => size

/-- The number of elements of the preallocated buffer; there is none if its size is zero. -/
def numberOfElements (settings : BufferSettings) (state : CacheState) (rank dataSize : Nat) :
    Option Nat :=
  let size := transferBufferSize settings state rank dataSize
  if size = 0 then none else some (size / dataSize)

/-- A buffer for a target. -/
inductive SplitBuffer where
  /-- A slice of the preallocated buffer. -/
  | slice (offset size : Nat)
  /-- A buffer of its own. -/
  | dynamic (size : Nat)
  deriving DecidableEq, Repr

def SplitBuffer.size : SplitBuffer → Nat
  | .slice _ size => size
  | .dynamic size => size

/-- The loop of `getOrAllocateBuffers` over the targets: their buffers, and how many of
them are slices. -/
def allocateSlices (numberOfElements : Nat) : Nat → List Nat → List SplitBuffer × Nat
  | _, [] => ([], 0)
  | preBufferEleSize, requested :: rest =>
    if preBufferEleSize + requested ≤ numberOfElements then
      let later := allocateSlices numberOfElements (preBufferEleSize + requested) rest
      (.slice preBufferEleSize requested :: later.1, later.2 + 1)
    else
      let later := allocateSlices numberOfElements preBufferEleSize rest
      (.dynamic requested :: later.1, later.2)

/-- `getOrAllocateBuffers`: the buffers and `bufferCoverTargetNum`. -/
def getOrAllocateBuffers (capacity : Option Nat) (targetNum : Nat) (requested : List Nat) :
    Except ExchangeFailure (List SplitBuffer × Nat) := do
  ensure (targetNum ≤ requested.length) .check
  match capacity with
  | some numberOfElements => return allocateSlices numberOfElements 0 (requested.take targetNum)
  | none => return ((requested.take targetNum).map .dynamic, targetNum)

section Slices

variable {cap : Nat} {before idx : Nat} {sizes : List Nat}

theorem map_size_allocateSlices (before : Nat) (sizes : List Nat) :
    (allocateSlices cap before sizes).1.map SplitBuffer.size = sizes := by
  induction sizes generalizing before with
  | nil => rfl
  | cons size rest ih =>
    rw [allocateSlices]
    split
    · rw [map_cons, ih]
      rfl
    · rw [map_cons, ih]
      rfl

theorem cover_le_length (before : Nat) (sizes : List Nat) :
    (allocateSlices cap before sizes).2 ≤ sizes.length := by
  induction sizes generalizing before with
  | nil => exact Nat.le_refl 0
  | cons size rest ih =>
    rw [allocateSlices]
    split
    · exact Nat.succ_le_succ (ih _)
    · exact Nat.le_succ_of_le (ih _)

/-- If all targets are covered, their slices follow each other. -/
theorem getElem?_allocateSlices (covered : (allocateSlices cap before sizes).2 = sizes.length)
    (bound : idx < sizes.length) : (allocateSlices cap before sizes).1[idx]? =
      some (.slice (before + Segments.start sizes idx) (sizes.getD idx 0)) := by
  induction sizes generalizing before idx with
  | nil => exact absurd bound (Nat.not_lt_zero _)
  | cons size rest ih =>
    rw [allocateSlices] at covered ⊢
    split
    · rename_i fits
      rw [if_pos fits] at covered
      cases idx with
      | zero => simp
      | succ idx =>
        rw [getElem?_cons_succ, ih (Nat.succ.inj covered) (Nat.lt_of_succ_lt_succ bound)]
        simp [Segments.start, Nat.add_assoc]
    · rename_i tooLarge
      rw [if_neg tooLarge, length_cons] at covered
      have few : (allocateSlices cap before rest).2 ≤ rest.length := cover_le_length before rest
      dsimp only at covered
      omega

end Slices

/-- `getBufferSizeForTarget` in `CacheFormatter::format`: one size for each connection. -/
def CacheFormatter.sendBufferSizes (self : CacheState) (selfIdx blockNum : Nat)
    (targetInfo : TargetRanksInfo) : List Nat :=
  let allCacheBlockSize := blockNum * blockSize self selfIdx
  (List.range targetInfo.iRanks.length).map fun i =>
    allCacheBlockSize * targetInfo.peerDupHeadFactor / targetInfo.domainTPSize /
      CacheFormatter.numLayers self selfIdx * targetInfo.getPeerPPDomainLayerNum i

/-- `getTargetBufferEleSize` in `CacheFormatter::unformat`, with the checks before it: one
size for each picked connection. -/
def CacheFormatter.recvBufferSizes (self : CacheState) (selfIdx blockNum : Nat)
    (targetInfo : TargetRanksInfo) (pickUpConnections : List Nat) :
    Except ExchangeFailure (List Nat) := do
  let cacheBlockSizeSum := blockNum * blockSize self selfIdx
  let targetNum := pickUpConnections.length
  let selfAttentionLayerNum := CacheFormatter.numLayers self selfIdx
  ensure (cacheBlockSizeSum % targetNum = 0) .check
  let validTpSize := pickUpConnections.length / targetInfo.domainPPSize
  ensure (cacheBlockSizeSum % validTpSize = 0) .check
  ensure (cacheBlockSizeSum % (selfAttentionLayerNum * validTpSize) = 0) .check
  let cacheBlockSizePerLayer := cacheBlockSizeSum / (validTpSize * selfAttentionLayerNum)
  return pickUpConnections.map fun connection =>
    cacheBlockSizePerLayer * targetInfo.getPeerPPDomainLayerNum connection

/-- `getBufferSizeForTarget` in `MLACacheFormatter::format`: one size for each context and
pipeline rank of the domain. -/
def MLACacheFormatter.sendBufferSizes (self : CacheState) (selfIdx blockNum : Nat)
    (targetInfo : TargetRanksInfo) : List Nat :=
  let blockSizePerLayer := blockSize self selfIdx / CacheFormatter.numLayers self selfIdx
  (List.range (targetInfo.domainPPSize * targetInfo.domainCPSize)).map fun idx =>
    let cpDomainIdx := idx / targetInfo.domainPPSize
    let ppDomainIdx := idx % targetInfo.domainPPSize
    blockSizePerLayer * targetInfo.getPeerPPDomainLayerNum ppDomainIdx *
      getBlockNumAccountingForCP cpDomainIdx targetInfo.domainCPSize blockNum

/-- `getBufferSizeForTarget` in `MLACacheFormatter::unformat`: one size for each picked
connection. -/
def MLACacheFormatter.recvBufferSizes (self : CacheState) (selfIdx blockNum : Nat)
    (targetInfo : TargetRanksInfo) (pickUpConnections : List Nat) :
    Except ExchangeFailure (List Nat) := do
  ensure (CacheFormatter.numLayers self selfIdx ≠ 0) .check
  let cacheSizePerLayer :=
    blockSize self selfIdx * blockNum / CacheFormatter.numLayers self selfIdx
  return pickUpConnections.map fun connection =>
    cacheSizePerLayer * targetInfo.getPeerPPDomainLayerNum connection

end TrtLlm
