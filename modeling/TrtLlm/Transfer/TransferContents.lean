import TrtLlm.Transfer.CacheFormatter
import TrtLlm.Transfer.Domains
import TrtLlm.Transfer.HeadShares

/-! # A transfer reconstructs the cache

Whatever the pipeline and tensor parallelism of two executors, a generation rank that concatenates
what the context ranks send holds its layers and heads of the cache that they hold.
-/

namespace TrtLlm

open List

namespace CacheFormatter

/-- Two executors of one model whose heads are divided between the ranks block by
block, several ranks having the same head if there are not enough of them. -/
structure Exchange (context generation : CacheState) (headNum : Nat) : Prop where
  contextWf : context.WellFormed
  generationWf : generation.WellFormed
  sameLayers : context.layerNum = generation.layerNum
  contextCP : context.parallelConfig.contextParallelism = 1
  generationCP : generation.parallelConfig.contextParallelism = 1
  headNum_pos : 0 < headNum
  contextHeads : context.modelConfig.nbKvHeadsPerLayer.headD 0 =
    Shares.count context.parallelConfig.tpSizePerDPGroup headNum
  generationHeads : generation.modelConfig.nbKvHeadsPerLayer.headD 0 =
    Shares.count generation.parallelConfig.tpSizePerDPGroup headNum
  contextShares : Divides context.parallelConfig.tpSizePerDPGroup headNum
  generationShares : Divides generation.parallelConfig.tpSizePerDPGroup headNum
  tokensPerBlock : context.modelConfig.tokensPerBlock = generation.modelConfig.tokensPerBlock
  sizePerHead : context.modelConfig.sizePerHead = generation.modelConfig.sizePerHead

/-- The head of the model that a rank has as one of its own. -/
def globalHead (state : CacheState) (headNum rank headId : Nat) : Nat :=
  Shares.first state.parallelConfig.tpSizePerDPGroup headNum
    (state.parallelConfig.tpRankInDPGroup rank) + headId

/-- The blocks of a rank hold its part of a cache, which is given by the block, the
layer of the model and the element with the head of the model. -/
def Holds {α : Type} (state : CacheState) (headNum : Nat) (cache : Nat → Nat → Element → α)
    (blockNum rank : Nat) (blocks : Nat × Nat → α) : Prop :=
  ∀ blockId < blockNum, ∀ layerId < numLayers state rank, ∀ element : Element,
    element.Inside (layerShape state) →
      blocks (blockId, (layerShape state).offset layerId element) =
        cache blockId (state.parallelConfig.startLayer rank + layerId)
          { element with headId := globalHead state headNum rank element.headId }

/-- The blocks of a rank with its part of a cache. -/
def heldBlocks {α : Type} (state : CacheState) (headNum : Nat) (cache : Nat → Nat → Element → α)
    (rank : Nat) : Nat × Nat → α := fun place =>
  let found := (layerShape state).elementAt place.2
  cache place.1 (state.parallelConfig.startLayer rank + found.1)
    { found.2 with headId := globalHead state headNum rank found.2.headId }

theorem holds_heldBlocks {α : Type} (st : CacheState) (headNum : Nat)
    (cache : Nat → Nat → Element → α) (num rank : Nat) :
    Holds st headNum cache num rank (heldBlocks st headNum cache rank) := by
  intro blockId _ layerId _ element lt
  simp only [heldBlocks, LayerShape.elementAt_offset lt]

theorem divides_of_isPowerOfTwo {a b : Nat} (first : a.isPowerOfTwo) (second : b.isPowerOfTwo) :
    Divides a b := by
  obtain ⟨i, rfl⟩ := first
  obtain ⟨j, rfl⟩ := second
  rcases Nat.le_total i j with order | order
  · exact .inl ⟨2 ^ (j - i), Nat.two_pow_pos _, by rw [← Nat.pow_add, Nat.add_sub_cancel' order]⟩
  · exact .inr ⟨2 ^ (i - j), Nat.two_pow_pos _, by rw [← Nat.pow_add, Nat.add_sub_cancel' order]⟩

section Pairs

variable {ctx gen : CacheState} {headNum : Nat} {ctxRank genRank sendTP sendPP recvTP recvPP : Nat}
  {send recv : TargetRanksInfo} {pp tp : Nat}

/-- Seen from the other side. -/
theorem Exchange.symm (exchange : Exchange ctx gen headNum) : Exchange gen ctx headNum where
  contextWf := exchange.generationWf
  generationWf := exchange.contextWf
  sameLayers := exchange.sameLayers.symm
  contextCP := exchange.generationCP
  generationCP := exchange.contextCP
  headNum_pos := exchange.headNum_pos
  contextHeads := exchange.generationHeads
  generationHeads := exchange.contextHeads
  contextShares := exchange.generationShares
  generationShares := exchange.contextShares
  tokensPerBlock := exchange.tokensPerBlock.symm
  sizePerHead := exchange.sizePerHead.symm

namespace Exchange

variable (exchange : Exchange ctx gen headNum)
include exchange

theorem receiver (bound : genRank < gen.parallelConfig.worldSize)
    (inGroup : gen.parallelConfig.InDPGroup genRank) :
    Located ctx gen genRank (targetRanksInfo ctx gen genRank) :=
  ⟨exchange.contextWf, exchange.generationWf, exchange.sameLayers, bound, inGroup, rfl⟩

theorem peerDupHeadFactor_eq (receiver : Located ctx gen genRank recv) : recv.peerDupHeadFactor =
    dupFactor (totalHeads ctx.parallelConfig.tpSizePerDPGroup headNum)
      (totalHeads gen.parallelConfig.tpSizePerDPGroup headNum) := by
  rw [totalHeads, totalHeads, ← exchange.contextHeads, ← exchange.generationHeads,
    ← receiver.isInfo]
  rfl

theorem dupHeadFactor_eq (sender : Located gen ctx ctxRank send) : send.dupHeadFactor =
    dupFactor (totalHeads ctx.parallelConfig.tpSizePerDPGroup headNum)
      (totalHeads gen.parallelConfig.tpSizePerDPGroup headNum) := by
  rw [totalHeads, totalHeads, ← exchange.contextHeads, ← exchange.generationHeads,
    ← sender.isInfo]
  rfl

theorem dupHeadFactor_pos (sender : Located gen ctx ctxRank send) : 0 < send.dupHeadFactor := by
  rw [exchange.dupHeadFactor_eq sender]
  apply dupFactor_pos
  exact Nat.mul_pos (Shares.count_pos exchange.generationWf.tp_pos) exchange.generationWf.tp_pos

/-- The two ranks of a pair agree on the heads that they exchange. -/
theorem headsAgree (pair : Pair ctx gen ctxRank genRank send recv sendTP sendPP recvTP recvPP) :
    HeadsAgree (ctx.modelConfig.nbKvHeadsPerLayer.headD 0)
      (gen.modelConfig.nbKvHeadsPerLayer.headD 0) send.domainTPSize recv.domainTPSize
      send.peerDupHeadFactor recv.peerDupHeadFactor
      (ctx.parallelConfig.tpRankInDPGroup ctxRank) sendTP recvTP
      (Shares.first ctx.parallelConfig.tpSizePerDPGroup headNum
        (ctx.parallelConfig.tpRankInDPGroup ctxRank))
      (Shares.first gen.parallelConfig.tpSizePerDPGroup headNum
        (gen.parallelConfig.tpRankInDPGroup genRank)) := by
  rw [exchange.peerDupHeadFactor_eq pair.receiver, exchange.symm.peerDupHeadFactor_eq pair.sender,
    exchange.contextHeads, exchange.generationHeads, ← pair.sender.isInfo, ← pair.receiver.isInfo]
  exact TrtLlm.headsAgree exchange.contextWf.tp_pos exchange.generationWf.tp_pos
    exchange.headNum_pos
    (divides_of_isPowerOfTwo exchange.contextWf.tp_power exchange.generationWf.tp_power)
    exchange.contextShares exchange.generationShares pair.sendIndex.tp_lt pair.recvIndex.tp_lt
    pair.sendIndex.tp_eq pair.recvIndex.tp_eq

/-- The ranks with the same heads divide the domain of a rank, and their groups divide
its heads. -/
theorem groups (receiver : Located ctx gen genRank recv) :
    0 < recv.peerDupHeadFactor ∧ recv.peerDupHeadFactor ∣ recv.domainTPSize ∧
      recv.domainTPSize / recv.peerDupHeadFactor ∣ gen.modelConfig.nbKvHeadsPerLayer.headD 0 := by
  obtain ⟨_, _, _, _, pair⟩ := exists_pair exchange.contextCP receiver receiver.tp_pos
    receiver.pp_pos
  have agree := exchange.headsAgree pair
  exact ⟨Nat.pos_of_dvd_of_pos agree.recvFactor_dvd receiver.tp_pos, agree.recvFactor_dvd,
    agree.groups_dvd⟩

theorem groups_ne_zero (receiver : Located ctx gen genRank recv) :
    recv.domainTPSize / recv.peerDupHeadFactor ≠ 0 := by
  obtain ⟨pos, divides, -⟩ := exchange.groups receiver
  exact (Nat.div_pos (Nat.le_of_dvd receiver.tp_pos divides) pos).ne'

theorem length_iRanks (receiver : Located ctx gen genRank recv) :
    recv.iRanks.length = recv.domainTPSize * recv.domainPPSize := by
  rw [receiver.iRanks_length, domainCPSize_generation exchange.contextCP receiver, Nat.one_mul]

/-- There is one buffer for each group of ranks with the same heads and each pipeline rank. -/
theorem bufferNum_eq (receiver : Located ctx gen genRank recv) :
    recv.iRanks.length / recv.peerDupHeadFactor =
      recv.domainTPSize / recv.peerDupHeadFactor * recv.domainPPSize := by
  obtain ⟨-, divides, -⟩ := exchange.groups receiver
  rw [exchange.length_iRanks receiver, Nat.mul_comm, Nat.mul_div_assoc _ divides, Nat.mul_comm]

end Exchange

/-! ## Who sends and who is picked -/

/-- A context rank sends if its DP rank is that of the receiver among the ranks with
the same heads. -/
theorem needSendCache_eq (exchange : Exchange ctx gen headNum)
    (sender : Located gen ctx ctxRank send) : needSendCache ctx gen ctxRank = .ok (decide
      (gen.parallelConfig.effectiveDPRank % send.dupHeadFactor =
        ctx.parallelConfig.tpRankInDPGroup ctxRank % send.dupHeadFactor)) := by
  rw [needSendCache, sender.computed]
  by_cases single : send.dupHeadFactor ≤ 1
  · have one : send.dupHeadFactor = 1 :=
      Nat.le_antisymm single (exchange.dupHeadFactor_pos sender)
    simp [one, bind, Except.bind, pure, Except.pure, Nat.mod_one]
  · simp only [bind, Except.bind, pure, Except.pure, if_neg single,
      exchange.contextWf.ite_tpRank_eq]
    rfl

/-- The picked connections of a generation rank: for each group of ranks with the
same heads, those of all pipeline ranks of one of them. -/
def pickedConnections (context generation : CacheState) (generationRank : Nat) : List Nat :=
  (List.range ((targetRanksInfo context generation generationRank).domainTPSize /
      (targetRanksInfo context generation generationRank).peerDupHeadFactor)).flatMap fun group =>
    (List.range (targetRanksInfo context generation generationRank).domainPPSize).map fun pp =>
      (group * (targetRanksInfo context generation generationRank).peerDupHeadFactor +
        generation.parallelConfig.effectiveDPRank %
          (targetRanksInfo context generation generationRank).peerDupHeadFactor) *
        (targetRanksInfo context generation generationRank).domainPPSize + pp

theorem pickRecvConnections_eq (exchange : Exchange ctx gen headNum)
    (receiver : Located ctx gen genRank recv) :
    pickRecvConnections recv.iRanks.length gen genRank ctx =
      .ok (pickedConnections ctx gen genRank) := by
  obtain ⟨pos, ⟨groups, domain⟩, -⟩ := exchange.groups receiver
  rw [pickRecvConnections, receiver.computed, pickedConnections, receiver.isInfo]
  by_cases single : recv.peerDupHeadFactor ≤ 1
  · have one : recv.peerDupHeadFactor = 1 := Nat.le_antisymm single pos
    simp only [one, bind, Except.bind, pure, Except.pure, Nat.le_refl, if_true, Nat.div_one,
      Nat.mul_one, Nat.mod_one, Nat.add_zero, flatMap_range_range, exchange.length_iRanks receiver]
  · simp only [bind, Except.bind, pure, Except.pure, if_neg single]
    rw [domain, filter_range_mod (Nat.mod_lt _ pos), Nat.mul_div_cancel_left _ pos,
      flatMap_map]
    rfl

/-! ## What a context rank sends -/

section Sending

variable {α : Type} {num : Nat} {contextBlocks sendBuffers : Nat → Nat × Nat → α}

/-- The buffers of a context rank after the split. -/
def splitBuffers (context generation : CacheState) (contextRank blockNum : Nat)
    (blocks buffers : Nat × Nat → α) : Nat × Nat → α :=
  splitKVCacheKernel (layerShape context) blockNum (numLayers context contextRank)
    (targetRanksInfo generation context contextRank).domainPPSize
    (headNumDomainTP context (targetRanksInfo generation context contextRank))
    (targetRanksInfo generation context contextRank).peerAttentionLayerNumInDomainPP blocks buffers

theorem splitKVCache_eq (exchange : Exchange ctx gen headNum) (blocksPos : 0 < num)
    (sender : Located gen ctx ctxRank send) (blocks buffers : Nat × Nat → α) :
    splitKVCache gen ctx ctxRank num (send.iRanks.length / send.peerDupHeadFactor) blocks buffers =
      .ok (splitBuffers ctx gen ctxRank num blocks buffers) := by
  have size : send.iRanks.length =
      send.domainPPSize * send.domainTPSize * send.domainCPSize := by
    rw [exchange.symm.length_iRanks sender, domainCPSize_generation exchange.generationCP sender,
      Nat.mul_one, Nat.mul_comm]
  simp only [splitKVCache, sender.computed, bind, Except.bind, pure, Except.pure]
  rw [ensure_of size, ensure_of trivial, ensure_of blocksPos,
    ensure_of (exchange.symm.groups_ne_zero sender), splitBuffers, sender.isInfo]

/-- The buffer for the target with given indices. -/
theorem sendBufferIdx_eq {info : TargetRanksInfo} (bound : pp < info.domainPPSize) :
    sendBufferIdx info (tp * info.domainPPSize + pp) =
      tp / info.peerDupHeadFactor * info.domainPPSize + pp := by
  have pos := Nat.zero_lt_of_lt bound
  rw [sendBufferIdx, Nat.mul_comm tp, Nat.mul_add_div pos, Nat.div_eq_of_lt bound,
    Nat.add_zero, Nat.mul_add_mod, Nat.mod_eq_of_lt bound]

/-- A context rank that sends splits its blocks and sends to each target the buffer
of its heads and layers. -/
theorem Exchange.sentTo_eq (exchange : Exchange ctx gen headNum) (blocksPos : 0 < num)
    (pair : Pair ctx gen ctxRank genRank send recv sendTP sendPP recvTP recvPP) :
    sentTo ctx gen num contextBlocks sendBuffers ctxRank genRank =
      .ok (if gen.parallelConfig.effectiveDPRank % recv.peerDupHeadFactor =
          recvTP % recv.peerDupHeadFactor then
        some fun offset => splitBuffers ctx gen ctxRank num
          (contextBlocks ctxRank) (sendBuffers ctxRank)
            (sendTP / send.peerDupHeadFactor * send.domainPPSize + sendPP, offset)
      else none) := by
  have buffers := splitKVCache_eq exchange blocksPos pair.sender
    (contextBlocks ctxRank) (sendBuffers ctxRank)
  have cp : gen.parallelConfig.cpRank genRank = 0 := by
    rw [ParallelConfig.cpRank, exchange.generationCP, Nat.mod_one]
  have place := pair.place
  have bound := (List.getElem?_eq_some_iff.mp (pair.sendIndex.getElem? pair.receiver.inGroup)).1
  rw [cp, Nat.zero_mul, Nat.zero_add] at place bound
  rw [pair.sender.isInfo] at bound
  rw [sentTo, format, pair.sender.computed, needSendCache_eq exchange pair.sender,
    exchange.dupHeadFactor_eq pair.sender, ← exchange.peerDupHeadFactor_eq pair.receiver,
    (exchange.headsAgree pair).residue]
  simp only [bind, Except.bind, pure, Except.pure, buffers, place]
  by_cases needed : gen.parallelConfig.effectiveDPRank % recv.peerDupHeadFactor =
    recvTP % recv.peerDupHeadFactor
  · simp [needed, bound, sendBufferIdx_eq pair.sendPP_lt]
  · simp [needed]

/-- The executors differ in the shape of a layer only by the number of heads. -/
theorem layerShape_with (exchange : Exchange ctx gen headNum) (heads : Nat) :
    ({ layerShape ctx with headNum := heads } : LayerShape) =
      { layerShape gen with headNum := heads } := by
  simp only [layerShape, exchange.tokensPerBlock, exchange.sizePerHead]

/-- A layer that both ranks have, as the receiver looks it up. -/
def exchangedLayer (context generation : CacheState)
    (contextRank generationRank recvPP layer : Nat) :
    LayerPosition :=
  ⟨layer - max (context.parallelConfig.startLayer contextRank)
      (generation.parallelConfig.startLayer generationRank), recvPP,
    min (context.parallelConfig.endLayer contextRank)
        (generation.parallelConfig.endLayer generationRank) -
      max (context.parallelConfig.startLayer contextRank)
        (generation.parallelConfig.startLayer generationRank)⟩

/-- The buffer for a receiver holds an element of the cache where the receiver looks
for it. -/
theorem Exchange.splitBuffers_apply (exchange : Exchange ctx gen headNum)
    (pair : Pair ctx gen ctxRank genRank send recv sendTP sendPP recvTP recvPP)
    {cache : Nat → Nat → Element → α} {blocks buffers : Nat × Nat → α}
    (holds : Holds ctx headNum cache num ctxRank blocks) {blockId layer : Nat}
    {element : Element} (blockBound : blockId < num)
    (lt : element.Inside (layerShape gen))
    (contextLayer : ctx.parallelConfig.HasLayer ctxRank layer)
    (generationLayer : gen.parallelConfig.HasLayer genRank layer)
    (group : element.headId / headNumDomainTP gen recv = recvTP / recv.peerDupHeadFactor) :
    splitBuffers ctx gen ctxRank num blocks buffers
        (sendTP / send.peerDupHeadFactor * send.domainPPSize + sendPP,
          (cachePlace (layerShape gen) recv.domainPPSize (headNumDomainTP gen recv) blockId
            (exchangedLayer ctx gen ctxRank genRank recvPP layer)
            element).2) =
      cache blockId layer
        { element with headId := globalHead gen headNum genRank element.headId } := by
  have agree := exchange.headsAgree pair
  obtain ⟨headBound, sameHead⟩ := agree.heads element.headId lt.headId group
  have width : headNumDomainTP ctx send = headNumDomainTP gen recv := agree.width
  have pos : 0 < headNumDomainTP gen recv := agree.width_pos
  -- The element of the context rank that the buffer has at this place.
  obtain ⟨sent, sentEq⟩ : ∃ sent : Element, sent = { element with
      headId := sendTP / send.peerDupHeadFactor * headNumDomainTP gen recv +
        element.headId % headNumDomainTP gen recv } := ⟨_, rfl⟩
  have sentInside : sent.Inside (layerShape ctx) := by
    rw [sentEq]
    exact ⟨lt.kvId, headBound, lt.tokenId.trans_eq exchange.tokensPerBlock.symm,
      lt.channelId.trans_eq exchange.sizePerHead.symm⟩
  have layerBound : layer - ctx.parallelConfig.startLayer ctxRank <
      numLayers ctx ctxRank := by
    have last := contextLayer.2
    rw [ParallelConfig.endLayer, Segments.start_succ] at last
    exact Nat.sub_lt_left_of_lt_add contextLayer.1 last
  have position := getLayerPosition_domain exchange.contextWf pair.sender.bound pair.sendIndex
    contextLayer generationLayer
  rw [pair.sender.isInfo] at position
  have copied : splitKVCacheKernel (layerShape ctx) num _ _ _ _ blocks buffers
      (cachePlace _ send.domainPPSize (headNumDomainTP ctx send) blockId _ sent) = _ :=
    splitKVCacheKernel_apply (width ▸ pos) blockBound layerBound position sentInside
  rw [holds blockId blockBound _ layerBound sent sentInside, Nat.add_sub_cancel' contextLayer.1]
    at copied
  have headGroup : sent.headId / headNumDomainTP gen recv = sendTP / send.peerDupHeadFactor := by
    rw [sentEq, Nat.mul_comm, Nat.mul_add_div pos, Nat.div_eq_of_lt (Nat.mod_lt _ pos),
      Nat.add_zero]
  have headInGroup : sent.headId % headNumDomainTP gen recv =
      element.headId % headNumDomainTP gen recv := by
    rw [sentEq, Nat.mul_comm, Nat.mul_add_mod, Nat.mod_mod]
  rw [cachePlace, width, headGroup, headInGroup, layerShape_with exchange, max_comm,
    min_comm] at copied
  rw [globalHead, ← sameHead, splitBuffers, pair.sender.isInfo, width]
  rw [sentEq] at copied
  exact copied

end Sending

/-! ## What a generation rank receives -/

section

variable (receiver : Located ctx gen genRank recv)
include receiver

theorem getElem?_pickedConnections {group : Nat}
    (groupBound : group < recv.domainTPSize / recv.peerDupHeadFactor)
    (ppBound : pp < recv.domainPPSize) :
    (pickedConnections ctx gen genRank)[group * recv.domainPPSize + pp]? =
      some ((group * recv.peerDupHeadFactor +
        gen.parallelConfig.effectiveDPRank % recv.peerDupHeadFactor) * recv.domainPPSize + pp) := by
  rw [pickedConnections, receiver.isInfo, getElem?_flatMap_of_length (fun _ _ => by simp) ppBound,
    getElem?_range groupBound, Option.bind_some, getElem?_map,
    getElem?_range ppBound, Option.map_some]

/-- The connections of a rank of the domain are picked if it is the one of the
receiver's DP rank among those with the same heads. -/
theorem mem_pickedConnections (divides : recv.peerDupHeadFactor ∣ recv.domainTPSize)
    (tpBound : tp < recv.domainTPSize) (ppBound : pp < recv.domainPPSize)
    (residue : gen.parallelConfig.effectiveDPRank % recv.peerDupHeadFactor =
      tp % recv.peerDupHeadFactor) :
    tp * recv.domainPPSize + pp ∈ pickedConnections ctx gen genRank := by
  have group := Nat.div_lt_div_of_lt_of_dvd divides tpBound
  have place := getElem?_pickedConnections receiver group ppBound
  rw [residue, Nat.div_add_mod'] at place
  exact mem_of_getElem? place

/-- Every picked connection is that of a rank of the domain. -/
theorem exists_of_mem_pickedConnections {conn : Nat}
    (divides : recv.peerDupHeadFactor ∣ recv.domainTPSize) (pos : 0 < recv.peerDupHeadFactor)
    (picked : conn ∈ pickedConnections ctx gen genRank) :
    ∃ tp < recv.domainTPSize, ∃ pp < recv.domainPPSize, conn = tp * recv.domainPPSize + pp ∧
      gen.parallelConfig.effectiveDPRank % recv.peerDupHeadFactor =
        tp % recv.peerDupHeadFactor := by
  rw [pickedConnections, receiver.isInfo] at picked
  obtain ⟨group, groupMem, inner⟩ := mem_flatMap.mp picked
  obtain ⟨pp, ppMem, rfl⟩ := mem_map.mp inner
  have remainder := Nat.mod_lt gen.parallelConfig.effectiveDPRank pos
  refine ⟨_, ?_, pp, mem_range.mp ppMem, rfl, ?_⟩
  · obtain ⟨groups, domain⟩ := divides
    have bound := mem_range.mp groupMem
    rw [domain, Nat.mul_div_cancel_left _ pos] at bound
    rw [domain, Nat.mul_comm _ groups]
    calc _ < (group + 1) * recv.peerDupHeadFactor := by
          rw [Nat.succ_mul]; omega
      _ ≤ _ := Nat.mul_le_mul_right _ bound
  · rw [Nat.mul_comm, Nat.mul_add_mod, Nat.mod_mod]

theorem length_pickedConnections : (pickedConnections ctx gen genRank).length =
    recv.domainTPSize / recv.peerDupHeadFactor * recv.domainPPSize := by
  rw [pickedConnections, receiver.isInfo, length_flatMap]
  simp only [length_map, length_range]
  rw [map_const', sum_replicate_nat, length_range]

theorem unformat_eq (exchange : Exchange ctx gen headNum) {α : Type} {num : Nat}
    (blocksPos : 0 < num) (received : Nat → Nat → α)
    (blocks : Nat × Nat → α) : unformat gen ctx genRank num received blocks =
      .ok (concatKVCacheKernel (layerShape gen) num (numLayers gen genRank) recv.domainPPSize
        (headNumDomainTP gen recv) recv.peerAttentionLayerNumInDomainPP (fun place => received
          ((pickedConnections ctx gen genRank).getD place.1 0) place.2) blocks) := by
  have size : recv.iRanks.length = recv.domainPPSize * recv.domainTPSize := by
    rw [exchange.length_iRanks receiver, Nat.mul_comm]
  have picked := pickRecvConnections_eq exchange receiver
  have inputs := (exchange.bufferNum_eq receiver).trans (length_pickedConnections receiver).symm
  simp only [unformat, concatKVCache, receiver.computed, picked, bind, Except.bind, pure,
    Except.pure]
  rw [ensure_of size, ensure_of inputs, ensure_of blocksPos,
    ensure_of (exchange.groups_ne_zero receiver)]

end

end Pairs

section Receiving

variable {α : Type} {ctx gen : CacheState} {headNum num ctxRank genRank : Nat}
  {send recv : TargetRanksInfo} {contextBlocks sendBuffers : Nat → Nat × Nat → α}

/-- Only targets are sent to. -/
theorem mem_iRanks_of_sentTo (exchange : Exchange ctx gen headNum) {data : Nat → α}
    (sender : Located gen ctx ctxRank send)
    (sent : sentTo ctx gen num contextBlocks sendBuffers ctxRank genRank = .ok (some data)) :
    genRank ∈ send.iRanks := by
  by_contra absent
  have place := idxOf_eq_length absent
  simp only [sentTo, format, sender.computed, needSendCache_eq exchange sender, bind,
    Except.bind, pure, Except.pure, place] at sent
  split at sent
  · cases sent
  · rename_i messages formatted
    have few : messages.length ≤ send.iRanks.length := by
      split at formatted
      · cases formatted
        exact Nat.zero_le _
      · split at formatted
        · cases formatted
        · cases formatted
          simp
    rw [getElem?_eq_none few] at sent
    cases sent

/-- Every head of a generation rank is in one of the groups that are exchanged. -/
theorem headGroup_lt (exchange : Exchange ctx gen headNum)
    (receiver : Located ctx gen genRank recv) {headId : Nat}
    (headBound : headId < gen.modelConfig.nbKvHeadsPerLayer.headD 0) :
    headId / headNumDomainTP gen recv < recv.domainTPSize / recv.peerDupHeadFactor := by
  obtain ⟨-, -, divides⟩ := exchange.groups receiver
  apply Nat.div_lt_of_lt_mul
  rwa [headNumDomainTP, Nat.div_mul_cancel divides]

/-- The messages of the picked connections hold the cache of a generation rank. -/
theorem holds_of_received (exchange : Exchange ctx gen headNum)
    (blocksPos : 0 < num) {cache : Nat → Nat → Element → α}
    (held : ∀ rank < ctx.parallelConfig.worldSize, ctx.parallelConfig.InDPGroup rank →
      Holds ctx headNum cache num rank (contextBlocks rank))
    (receiver : Located ctx gen genRank recv) {received : Nat → Nat → α}
    {blocks : Nat × Nat → α} (arrived : ∀ conn ∈ pickedConnections ctx gen genRank, ∀ rank,
      recv.iRanks[conn]? = some rank →
        sentTo ctx gen num contextBlocks sendBuffers rank genRank = .ok (some (received conn))) :
    Holds gen headNum cache num genRank
      (concatKVCacheKernel (layerShape gen) num (numLayers gen genRank) recv.domainPPSize
        (headNumDomainTP gen recv) recv.peerAttentionLayerNumInDomainPP (fun place => received
          ((pickedConnections ctx gen genRank).getD place.1 0) place.2) blocks) := by
  intro blockId blockBound layerId layerBound element lt
  obtain ⟨pos, divides, -⟩ := exchange.groups receiver
  -- The context pipeline rank that has the layer is at some index of the domain.
  obtain ⟨layer, layerEq, generationLayer, recvPP, ppBound, layers⟩ :=
    receiver.exists_layer layerBound
  -- The connection of the head's group and that pipeline rank is one of the picked ones.
  have connectionEq := getElem?_pickedConnections receiver
    (headGroup_lt exchange receiver lt.headId) ppBound
  have picked := mem_of_getElem? connectionEq
  obtain ⟨recvTP, tpBound, otherPP, otherBound, conn, residue⟩ :=
    exists_of_mem_pickedConnections receiver divides pos picked
  obtain ⟨tpEq, rfl⟩ := Nat.mul_add_inj ppBound otherBound conn
  rw [tpEq] at connectionEq picked
  obtain ⟨ctxRank, send, sendTP, sendPP, pair⟩ := exists_pair exchange.contextCP receiver tpBound
    ppBound
  obtain ⟨contextLayer, found⟩ := layers pair.recvIndex
  have msg := arrived _ picked ctxRank pair.target
  rw [exchange.sentTo_eq blocksPos pair, if_pos residue] at msg
  have data := Option.some.inj (Except.ok.inj msg)
  rw [concatKVCacheKernel_apply blockBound layerBound found lt, ← layerEq]
  have group : element.headId / headNumDomainTP gen recv = recvTP / recv.peerDupHeadFactor := by
    rw [← tpEq, Nat.mul_comm, Nat.mul_add_div pos, Nat.mod_div_self, Nat.add_zero]
  have value : splitBuffers ctx gen ctxRank num (contextBlocks ctxRank)
      (sendBuffers ctxRank) _ = _ :=
    exchange.splitBuffers_apply pair (held ctxRank pair.sender.bound pair.sender.inGroup)
      blockBound lt contextLayer generationLayer group
  dsimp only [cachePlace]
  rw [getD_eq_getElem?_getD, connectionEq, Option.getD_some, ← data]
  exact value

end Receiving

/-- What `inquireSupport` accepts has no context parallelism and blocks of one shape. -/
theorem exchange_of_supported {ctx gen : CacheState} {headNum : Nat}
    (supported : inquireSupport gen ctx = true) (contextWf : ctx.WellFormed)
    (generationWf : gen.WellFormed) (sameLayers : ctx.layerNum = gen.layerNum)
    (headNum_pos : 0 < headNum) (contextHeads : ctx.modelConfig.nbKvHeadsPerLayer.headD 0 =
      Shares.count ctx.parallelConfig.tpSizePerDPGroup headNum)
    (generationHeads : gen.modelConfig.nbKvHeadsPerLayer.headD 0 =
      Shares.count gen.parallelConfig.tpSizePerDPGroup headNum)
    (contextShares : Divides ctx.parallelConfig.tpSizePerDPGroup headNum)
    (generationShares : Divides gen.parallelConfig.tpSizePerDPGroup headNum) :
    Exchange ctx gen headNum := by
  simp only [inquireSupport, Bool.and_eq_true, Bool.not_eq_true', Bool.or_eq_false_iff,
    bne_eq_false_iff_eq] at supported
  obtain ⟨⟨⟨⟨-, generationCP, contextCP⟩, -⟩, tpb, sizePerHead⟩, -⟩ := supported
  exact ⟨contextWf, generationWf, sameLayers, contextCP, generationCP, headNum_pos, contextHeads,
    generationHeads, contextShares, generationShares, tpb.symm, sizePerHead.symm⟩

/-- For all supported executors of one model the context ranks that send are those whose connections
the generation rank picks, and after split, transfer and concatenation its blocks hold for each of
its layers and heads what the context ranks hold for that layer and head of the model. -/
theorem transfer_reconstructs_cache {α : Type} {context generation : CacheState} {headNum : Nat}
    (supported : inquireSupport generation context = true) (contextWf : context.WellFormed)
    (generationWf : generation.WellFormed) (sameLayers : context.layerNum = generation.layerNum)
    (headNum_pos : 0 < headNum)
    (contextHeads : context.modelConfig.nbKvHeadsPerLayer.headD 0 =
      Shares.count context.parallelConfig.tpSizePerDPGroup headNum)
    (generationHeads : generation.modelConfig.nbKvHeadsPerLayer.headD 0 =
      Shares.count generation.parallelConfig.tpSizePerDPGroup headNum)
    (contextShares : Divides context.parallelConfig.tpSizePerDPGroup headNum)
    (generationShares : Divides generation.parallelConfig.tpSizePerDPGroup headNum)
    {blockNum : Nat} (blocksPos : 0 < blockNum) {cache : Nat → Nat → Element → α}
    {contextBlocks : Nat → Nat × Nat → α} (sendBuffers : Nat → Nat × Nat → α)
    (held : ∀ rank < context.parallelConfig.worldSize, context.parallelConfig.InDPGroup rank →
      Holds context headNum cache blockNum rank (contextBlocks rank))
    {generationRank : Nat} (bound : generationRank < generation.parallelConfig.worldSize)
    (inGroup : generation.parallelConfig.InDPGroup generationRank) :
    ∃ targetInfo picked,
      targetRanksInfoForDP context generation generationRank = .ok targetInfo ∧
      pickRecvConnections targetInfo.iRanks.length generation generationRank context =
        .ok picked ∧
      (∀ connection ∈ picked, ∃ rank data, targetInfo.iRanks[connection]? = some rank ∧
        sentTo context generation blockNum contextBlocks sendBuffers rank generationRank =
          .ok (some data)) ∧
      (∀ rank < context.parallelConfig.worldSize, context.parallelConfig.InDPGroup rank →
        ∀ data, sentTo context generation blockNum contextBlocks sendBuffers rank generationRank =
          .ok (some data) → ∃ connection ∈ picked, targetInfo.iRanks[connection]? = some rank) ∧
      ∀ (received : Nat → Nat → α) (recvBlocks : Nat × Nat → α),
        (∀ connection ∈ picked, ∀ rank, targetInfo.iRanks[connection]? = some rank →
          sentTo context generation blockNum contextBlocks sendBuffers rank generationRank =
            .ok (some (received connection))) →
        ∃ blocks,
          unformat generation context generationRank blockNum received recvBlocks = .ok blocks ∧
          Holds generation headNum cache blockNum generationRank blocks := by
  have exchange := exchange_of_supported supported contextWf generationWf sameLayers headNum_pos
    contextHeads generationHeads contextShares generationShares
  have receiver := exchange.receiver bound inGroup
  obtain ⟨positive, divides, -⟩ := exchange.groups receiver
  refine ⟨_, _, receiver.computed, pickRecvConnections_eq exchange receiver, ?_, ?_, ?_⟩
  · intro connection picked
    obtain ⟨recvTP, tpBound, recvPP, ppBound, rfl, residue⟩ :=
      exists_of_mem_pickedConnections receiver divides positive picked
    obtain ⟨contextRank, _, _, _, pair⟩ := exists_pair exchange.contextCP receiver tpBound ppBound
    have message : sentTo context generation blockNum contextBlocks sendBuffers contextRank
        generationRank = _ := exchange.sentTo_eq blocksPos pair
    rw [if_pos residue] at message
    exact ⟨contextRank, _, pair.target, message⟩
  · intro rank rankBound rankGroup data sent
    have shared := (mem_iRanks_iff generationWf contextWf).mp
      (mem_iRanks_of_sentTo exchange (exchange.symm.receiver rankBound rankGroup) sent)
    obtain ⟨_, _, _, _, _, pair⟩ := exists_pair_of_shared exchange.contextCP receiver
      (shared.symm generationWf contextWf rankBound rankGroup)
    rw [exchange.sentTo_eq blocksPos pair] at sent
    split at sent
    · rename_i residue
      exact ⟨_, mem_pickedConnections receiver divides pair.recvTP_lt pair.recvPP_lt residue,
        pair.target⟩
    · cases sent
  · intro received recvBlocks arrived
    exact ⟨_, unformat_eq receiver exchange blocksPos received recvBlocks,
      holds_of_received exchange blocksPos held receiver arrived⟩

theorem uneven_grouped_reconstructs : ∃ targetInfo picked,
    targetRanksInfoForDP unevenContext groupedGeneration 14 = .ok targetInfo ∧
    pickRecvConnections targetInfo.iRanks.length groupedGeneration 14 unevenContext = .ok picked ∧
    (∀ connection ∈ picked, ∃ rank data, targetInfo.iRanks[connection]? = some rank ∧
      sentTo unevenContext groupedGeneration 3
        (heldBlocks unevenContext 8 fun blockId layer element => (blockId, layer, element))
        (fun _ _ => (0, 0, ⟨0, 0, 0, 0⟩)) rank 14 = .ok (some data)) ∧
    (∀ rank < unevenContext.parallelConfig.worldSize, unevenContext.parallelConfig.InDPGroup rank →
      ∀ data, sentTo unevenContext groupedGeneration 3
        (heldBlocks unevenContext 8 fun blockId layer element => (blockId, layer, element))
        (fun _ _ => (0, 0, ⟨0, 0, 0, 0⟩)) rank 14 = .ok (some data) →
          ∃ connection ∈ picked, targetInfo.iRanks[connection]? = some rank) ∧
    ∀ (received : Nat → Nat → Nat × Nat × Element) (recvBlocks : Nat × Nat → Nat × Nat × Element),
      (∀ connection ∈ picked, ∀ rank, targetInfo.iRanks[connection]? = some rank →
        sentTo unevenContext groupedGeneration 3
          (heldBlocks unevenContext 8 fun blockId layer element => (blockId, layer, element))
          (fun _ _ => (0, 0, ⟨0, 0, 0, 0⟩)) rank 14 = .ok (some (received connection))) →
      ∃ blocks, unformat groupedGeneration unevenContext 14 3 received recvBlocks = .ok blocks ∧
        Holds groupedGeneration 8 (fun blockId layer element => (blockId, layer, element)) 3 14
          blocks :=
  transfer_reconstructs_cache (by decide) unevenContext_wellFormed groupedGeneration_wellFormed rfl
    (by decide) rfl rfl (.inl ⟨4, by decide, rfl⟩) (.inl ⟨2, by decide, rfl⟩) (by decide) _
    (fun rank _ _ => holds_heldBlocks unevenContext 8 _ 3 rank) (by decide) (by decide)

end CacheFormatter

end TrtLlm
