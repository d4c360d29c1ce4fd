import TrtLlm.Lib.Copies
import TrtLlm.Transfer.TargetRanks

/-! # Splitting and concatenating cache blocks

The kernels that copy the blocks of a sequence into one buffer for each target and back. The threads
visit every element of every layer of every block once. An element is copied as a whole.
-/

namespace TrtLlm

open Segments (start start_mono start_succ)

open List

/-- The sizes of one layer of a block or a buffer. -/
structure LayerShape where
  kvFactor : Nat
  headNum : Nat
  tokensPerBlock : Nat
  dimsPerHead : Nat
  deriving DecidableEq, Repr

/-- An element of a layer of a block. -/
structure Element where
  kvId : Nat
  headId : Nat
  tokenId : Nat
  channelId : Nat
  deriving DecidableEq, Repr

namespace LayerShape

/-- Where an element of a layer is, from the first layer on. -/
def offset (shape : LayerShape) (layerId : Nat) (element : Element) : Nat :=
  layerId * shape.kvFactor * shape.headNum * shape.tokensPerBlock * shape.dimsPerHead +
    element.headId * shape.tokensPerBlock * shape.dimsPerHead +
    element.kvId * (shape.headNum * shape.tokensPerBlock * shape.dimsPerHead) +
    element.tokenId * shape.dimsPerHead + element.channelId

/-- The number of elements of a layer. -/
def layerSize (shape : LayerShape) : Nat :=
  shape.kvFactor * shape.headNum * shape.tokensPerBlock * shape.dimsPerHead

/-- All elements of a layer. -/
def elements (shape : LayerShape) : List Element :=
  (List.range shape.kvFactor).flatMap fun kvId =>
    (List.range shape.headNum).flatMap fun headId =>
      (List.range shape.tokensPerBlock).flatMap fun tokenId =>
        (List.range shape.dimsPerHead).map fun channelId => ⟨kvId, headId, tokenId, channelId⟩

end LayerShape

/-- Where a layer is: in the cache of which pipeline rank of the domain, as which of
the layers exchanged with it, and how many these are. -/
structure LayerPosition where
  layerIdInDomainPP : Nat
  rankInDomainPP : Nat
  layerNumInSpecPP : Nat
  deriving DecidableEq, Repr

/-- `getLayerIdInDomainPPandRankInDomainPP`: the pipeline rank is found from the
prefix sums of the layers exchanged with each of them. -/
def getLayerPosition (layerNums : List Nat) (domainPPSize layerId : Nat) : Option LayerPosition :=
  let prefixLayerNum := Segments.start layerNums
  ((List.range domainPPSize).find? fun ppRank =>
    prefixLayerNum ppRank ≤ layerId ∧ layerId < prefixLayerNum (ppRank + 1)).map fun ppRank =>
      ⟨layerId - prefixLayerNum ppRank, ppRank, prefixLayerNum (ppRank + 1) - prefixLayerNum ppRank⟩

/-- A layer of a block that a thread block works on. -/
structure WorkItem where
  blockId : Nat
  layerId : Nat
  position : LayerPosition
  element : Element
  deriving DecidableEq, Repr

/-- What the threads of a kernel work on. -/
def workItems (shape : LayerShape) (blockNum numLayers domainPPSize : Nat)
    (layerNums : List Nat) : List WorkItem :=
  (List.range blockNum).flatMap fun blockId =>
    (List.range numLayers).flatMap fun layerId =>
      (getLayerPosition layerNums domainPPSize layerId).toList.flatMap fun position =>
        shape.elements.map fun element => ⟨blockId, layerId, position, element⟩

section Kernels

variable {α : Type}

/-- `splitKVCacheKernel`. Memories are indexed by the block or the buffer and the
offset in it. -/
def splitKVCacheKernel (shape : LayerShape) (inputBlockNum numLayers domainPPSize : Nat)
    (headNumDomainTP : Nat) (layerNums : List Nat) (inputBlocks outputCaches : Nat × Nat → α) :
    Nat × Nat → α :=
  let outputShape := { shape with headNum := headNumDomainTP }
  Copies.run ((workItems shape inputBlockNum numLayers domainPPSize layerNums).map fun item =>
    let outputCacheIdx :=
      item.element.headId / headNumDomainTP * domainPPSize + item.position.rankInDomainPP
    let headIdInDomainTP := item.element.headId % headNumDomainTP
    let outputOffset :=
      item.blockId * (item.position.layerNumInSpecPP * outputShape.layerSize) +
        outputShape.offset item.position.layerIdInDomainPP
          { item.element with headId := headIdInDomainTP }
    ((outputCacheIdx, outputOffset),
      inputBlocks (item.blockId, shape.offset item.layerId item.element))) outputCaches

/-- `concatKVCacheKernel` -/
def concatKVCacheKernel (shape : LayerShape) (outputBlockNum numLayers domainPPSize : Nat)
    (headNumDomainTP : Nat) (layerNums : List Nat) (inputCaches outputBlocks : Nat × Nat → α) :
    Nat × Nat → α :=
  let inputShape := { shape with headNum := headNumDomainTP }
  Copies.run ((workItems shape outputBlockNum numLayers domainPPSize layerNums).map fun item =>
    let inputCacheIdx :=
      item.element.headId / headNumDomainTP * domainPPSize + item.position.rankInDomainPP
    let headIdInDomainTP := item.element.headId % headNumDomainTP
    let inputOffset :=
      item.blockId * (item.position.layerNumInSpecPP * inputShape.layerSize) +
        inputShape.offset item.position.layerIdInDomainPP
          { item.element with headId := headIdInDomainTP }
    ((item.blockId, shape.offset item.layerId item.element),
      inputCaches (inputCacheIdx, inputOffset))) outputBlocks

end Kernels

/-! ## Places of elements -/

/-- The element exists in a layer of this shape. -/
structure Element.Inside (element : Element) (shape : LayerShape) : Prop where
  kvId : element.kvId < shape.kvFactor
  headId : element.headId < shape.headNum
  tokenId : element.tokenId < shape.tokensPerBlock
  channelId : element.channelId < shape.dimsPerHead

variable {shape : LayerShape}

/-- An element in the part of the heads that are exchanged together. -/
theorem Element.Inside.inDomain {element : Element} {headNumDomainTP : Nat}
    (lt : element.Inside shape) (pos : 0 < headNumDomainTP) :
    Element.Inside { element with headId := element.headId % headNumDomainTP }
      { shape with headNum := headNumDomainTP } :=
  ⟨lt.kvId, Nat.mod_lt _ pos, lt.tokenId, lt.channelId⟩

namespace LayerShape

variable {shape : LayerShape} {element other : Element}

theorem mem_elements : element ∈ shape.elements ↔ element.Inside shape := by
  simp only [elements, mem_flatMap, mem_map, mem_range]
  constructor
  · rintro ⟨kvId, kvBound, headId, headBound, tokenId, tokenBound, channelId, channelBound, rfl⟩
    exact ⟨kvBound, headBound, tokenBound, channelBound⟩
  · intro lt
    exact ⟨_, lt.kvId, _, lt.headId, _, lt.tokenId, _, lt.channelId, rfl⟩

/-- An offset is a number with the layer and the coordinates of the element as digits. -/
theorem offset_eq (layerId : Nat) : shape.offset layerId element =
    (((layerId * shape.kvFactor + element.kvId) * shape.headNum + element.headId) *
      shape.tokensPerBlock + element.tokenId) * shape.dimsPerHead + element.channelId := by
  simp only [offset]
  ring

/-- Different elements have different places. -/
theorem offset_inj {layerId otherLayer : Nat} (lt : element.Inside shape)
    (otherInside : other.Inside shape)
    (same : shape.offset layerId element = shape.offset otherLayer other) :
    layerId = otherLayer ∧ element = other := by
  rw [offset_eq, offset_eq] at same
  obtain ⟨tokens, channel⟩ := Nat.mul_add_inj lt.channelId otherInside.channelId same
  obtain ⟨heads, token⟩ := Nat.mul_add_inj lt.tokenId otherInside.tokenId tokens
  obtain ⟨kvs, head⟩ := Nat.mul_add_inj lt.headId otherInside.headId heads
  obtain ⟨layer, kv⟩ := Nat.mul_add_inj lt.kvId otherInside.kvId kvs
  refine ⟨layer, ?_⟩
  cases element
  cases other
  cases channel
  cases token
  cases head
  cases kv
  rfl

/-- The layer and the element at an offset. -/
def elementAt (shape : LayerShape) (offset : Nat) : Nat × Element :=
  let channels := offset / shape.dimsPerHead
  let tokens := channels / shape.tokensPerBlock
  let heads := tokens / shape.headNum
  (heads / shape.kvFactor, ⟨heads % shape.kvFactor, tokens % shape.headNum,
    channels % shape.tokensPerBlock, offset % shape.dimsPerHead⟩)

theorem elementAt_offset (lt : element.Inside shape) (layerId : Nat) :
    shape.elementAt (shape.offset layerId element) = (layerId, element) := by
  have digit {radix high low : Nat} (bound : low < radix) :
      (high * radix + low) / radix = high ∧ (high * radix + low) % radix = low := by
    rw [Nat.mul_comm, Nat.mul_add_div (Nat.zero_lt_of_lt bound), Nat.div_eq_of_lt bound,
      Nat.mul_add_mod, Nat.mod_eq_of_lt bound]
    exact ⟨rfl, rfl⟩
  simp only [elementAt, offset_eq, digit lt.channelId, digit lt.tokenId,
    digit lt.headId, digit lt.kvId]

/-- The blocks of a buffer follow each other, each with its layers. -/
theorem block_add_offset (blockId layerNum layerId : Nat) :
    blockId * (layerNum * shape.layerSize) + shape.offset layerId element =
      shape.offset (blockId * layerNum + layerId) element := by
  simp only [offset, layerSize]
  ring

end LayerShape

section Positions

variable {layerNums : List Nat} {domainPPSize layerId : Nat} {position : LayerPosition}

/-- The segment with a position in its range is the one that is found. -/
theorem find?_segment {sizes : List Nat} {count segment place : Nat} (bound : segment < count)
    (range : start sizes segment ≤ place ∧ place < start sizes (segment + 1)) :
    (List.range count).find? (fun segment => start sizes segment ≤ place ∧
      place < start sizes (segment + 1)) = some segment := by
  rw [find?_eq_some_iff_append]
  refine ⟨by simpa using range, List.range segment,
    List.range' (segment + 1) (count - (segment + 1)), ?_, ?_⟩
  · rw [← range'_succ, range_eq_range', range_eq_range']
    have split := range'_append_1 (s := 0) (m := segment) (n := count - (segment + 1) + 1)
    rw [Nat.zero_add] at split
    rw [split]
    congr 1
    omega
  · intro other otherMem
    have below := mem_range.mp otherMem
    have later : start sizes (other + 1) ≤ start sizes segment :=
      start_mono below
    simp
    omega

/-- The pipeline rank with the layer in its range is the one that is found. -/
theorem getLayerPosition_of_range {ppRank : Nat} (bound : ppRank < domainPPSize)
    (range : start layerNums ppRank ≤ layerId ∧
      layerId < start layerNums (ppRank + 1)) :
    getLayerPosition layerNums domainPPSize layerId = some
      ⟨layerId - start layerNums ppRank, ppRank, layerNums.getD ppRank 0⟩ := by
  simp only [getLayerPosition, find?_segment bound range, Option.map_some]
  rw [start_succ, Nat.add_sub_cancel_left]

/-- What is found is a pipeline rank of the domain with the layer in its range. -/
theorem getLayerPosition_eq_some
    (found : getLayerPosition layerNums domainPPSize layerId = some position) :
    position.rankInDomainPP < domainPPSize ∧
      layerId = start layerNums position.rankInDomainPP + position.layerIdInDomainPP ∧
      position.layerIdInDomainPP < position.layerNumInSpecPP ∧
      position.layerNumInSpecPP = layerNums.getD position.rankInDomainPP 0 := by
  simp only [getLayerPosition, Option.map_eq_some_iff] at found
  obtain ⟨ppRank, search, rfl⟩ := found
  have range := find?_some search
  have bound := mem_range.mp (mem_of_find?_eq_some search)
  simp only [start_succ, decide_eq_true_eq] at range
  simp only [start_succ]
  omega

end Positions

theorem mem_workItems {num numLayers domainPPSize : Nat} {layerNums : List Nat} {item : WorkItem} :
    item ∈ workItems shape num numLayers domainPPSize layerNums ↔
      item.blockId < num ∧ item.layerId < numLayers ∧
        getLayerPosition layerNums domainPPSize item.layerId = some item.position ∧
        item.element.Inside shape := by
  simp only [workItems, mem_flatMap, mem_map, mem_range, Option.mem_toList,
    LayerShape.mem_elements]
  constructor
  · rintro ⟨blockId, blockBound, layerId, layerBound, position, found, element, lt, rfl⟩
    exact ⟨blockBound, layerBound, found, lt⟩
  · rintro ⟨blockBound, layerBound, found, lt⟩
    exact ⟨_, blockBound, _, layerBound, _, found, _, lt, rfl⟩

/-! ## What the kernels copy -/

section Copied

variable {α : Type} {shape : LayerShape} {num numLayers domainPPSize headNumDomainTP : Nat}
  {layerNums : List Nat} {blocks caches : Nat × Nat → α} {blockId layerId : Nat}
  {position : LayerPosition} {element : Element} {item other : WorkItem}

/-- The buffer and the offset at which an element of a block is exchanged. -/
def cachePlace (shape : LayerShape) (domainPPSize headNumDomainTP blockId : Nat)
    (position : LayerPosition) (element : Element) : Nat × Nat :=
  (element.headId / headNumDomainTP * domainPPSize + position.rankInDomainPP,
    { shape with headNum := headNumDomainTP }.offset
      (blockId * position.layerNumInSpecPP + position.layerIdInDomainPP)
      { element with headId := element.headId % headNumDomainTP })

/-- Two elements are not exchanged at one place. -/
theorem cachePlace_inj (pos : 0 < headNumDomainTP)
    (mem : item ∈ workItems shape num numLayers domainPPSize layerNums)
    (otherMember : other ∈ workItems shape num numLayers domainPPSize layerNums)
    (same : cachePlace shape domainPPSize headNumDomainTP item.blockId item.position item.element =
      cachePlace shape domainPPSize headNumDomainTP other.blockId other.position other.element) :
    item = other := by
  obtain ⟨-, -, found, lt⟩ := mem_workItems.mp mem
  obtain ⟨-, -, otherFound, otherInside⟩ := mem_workItems.mp otherMember
  obtain ⟨rankLt, layer, layerBound, layerNum⟩ := getLayerPosition_eq_some found
  obtain ⟨otherRankBound, otherLayer, otherLayerBound, otherLayerNum⟩ :=
    getLayerPosition_eq_some otherFound
  obtain ⟨caches, offsets⟩ := Prod.mk.inj same
  obtain ⟨headGroup, rank⟩ := Nat.mul_add_inj rankLt otherRankBound caches
  -- The rank fixes the number of layers, so that the offsets have the same digits.
  have layerNums : item.position.layerNumInSpecPP = other.position.layerNumInSpecPP := by
    rw [layerNum, otherLayerNum, rank]
  obtain ⟨layers, elements⟩ := LayerShape.offset_inj (lt.inDomain pos)
    (otherInside.inDomain pos) offsets
  rw [← layerNums] at layers
  obtain ⟨block, layerInDomain⟩ := Nat.mul_add_inj layerBound (layerNums ▸ otherLayerBound) layers
  injection elements with kv headInDomain token channel
  have head : item.element.headId = other.element.headId := by
    rw [← Nat.div_add_mod item.element.headId headNumDomainTP, headGroup, headInDomain,
      Nat.div_add_mod]
  obtain ⟨itemBlock, itemLayer, ⟨_, _, _⟩, ⟨_, _, _, _⟩⟩ := item
  obtain ⟨otherBlock, otherLayerId, ⟨_, _, _⟩, ⟨_, _, _, _⟩⟩ := other
  simp only at *
  simp [*]

/-- A split buffer holds the elements of the blocks at their places. -/
theorem splitKVCacheKernel_apply (pos : 0 < headNumDomainTP) (blockBound : blockId < num)
    (layerBound : layerId < numLayers)
    (found : getLayerPosition layerNums domainPPSize layerId = some position)
    (lt : element.Inside shape) :
    splitKVCacheKernel shape num numLayers domainPPSize headNumDomainTP layerNums blocks caches
        (cachePlace shape domainPPSize headNumDomainTP blockId position element) =
      blocks (blockId, shape.offset layerId element) := by
  have mem : (⟨blockId, layerId, position, element⟩ : WorkItem) ∈
      workItems shape num numLayers domainPPSize layerNums :=
    mem_workItems.mpr ⟨blockBound, layerBound, found, lt⟩
  simp only [splitKVCacheKernel, LayerShape.block_add_offset]
  exact Copies.run_map mem fun other otherMember same =>
    cachePlace_inj pos otherMember mem same

/-- Two elements of the blocks are not at one place. -/
theorem blockPlace_inj (mem : item ∈ workItems shape num numLayers domainPPSize layerNums)
    (otherMember : other ∈ workItems shape num numLayers domainPPSize layerNums)
    (same : (item.blockId, shape.offset item.layerId item.element) =
      (other.blockId, shape.offset other.layerId other.element)) : item = other := by
  obtain ⟨-, -, found, lt⟩ := mem_workItems.mp mem
  obtain ⟨-, -, otherFound, otherInside⟩ := mem_workItems.mp otherMember
  obtain ⟨block, offsets⟩ := Prod.mk.inj same
  obtain ⟨layer, elements⟩ := LayerShape.offset_inj lt otherInside offsets
  rw [layer, otherFound] at found
  have positions := Option.some.inj found
  obtain ⟨itemBlock, itemLayer, itemPosition, itemElement⟩ := item
  obtain ⟨otherBlock, otherLayer, otherPosition, otherElement⟩ := other
  simp only at *
  simp [*]

/-- A block holds after the concatenation what the buffers have at the places of its
elements. -/
theorem concatKVCacheKernel_apply (blockBound : blockId < num) (layerBound : layerId < numLayers)
    (found : getLayerPosition layerNums domainPPSize layerId = some position)
    (lt : element.Inside shape) :
    concatKVCacheKernel shape num numLayers domainPPSize headNumDomainTP layerNums caches
        blocks (blockId, shape.offset layerId element) =
      caches (cachePlace shape domainPPSize headNumDomainTP blockId position element) := by
  have mem : (⟨blockId, layerId, position, element⟩ : WorkItem) ∈
      workItems shape num numLayers domainPPSize layerNums :=
    mem_workItems.mpr ⟨blockBound, layerBound, found, lt⟩
  simp only [concatKVCacheKernel, LayerShape.block_add_offset]
  exact Copies.run_map mem fun other otherMember same => blockPlace_inj otherMember mem same

end Copied

end TrtLlm
