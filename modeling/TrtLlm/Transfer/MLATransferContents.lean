import Mathlib.Data.Set.Function
import TrtLlm.Transfer.MLACacheFormatter

/-! # An MLA transfer reconstructs the cache

The context ranks hold all blocks of a sequence. After the transfer a local block of a generation
rank holds for each of its layers what they hold for the block that the distribution names.
-/

namespace TrtLlm

/-- The distribution of blocks between context-parallel ranks: every block is a local
block of exactly one of them, and each of them has its blocks in their order. -/
structure SoundDistribution (roundRobin : Bool) (cpSize blockNum : Nat) : Prop where
  bijOn : Set.BijOn
    (fun place : Nat × Nat =>
      getGlobalBlockIdAccountingForCP roundRobin place.2 cpSize place.1 blockNum)
    {place | place.1 < cpSize ∧ place.2 < getBlockNumAccountingForCP place.1 cpSize blockNum}
    (Set.Iio blockNum)
  increasing : ∀ cpRank < cpSize, StrictMono fun localBlock =>
    getGlobalBlockIdAccountingForCP roundRobin localBlock cpSize cpRank blockNum

theorem soundDistribution (roundRobin : Bool) {cpSize : Nat} (pos : 0 < cpSize)
    (num : Nat) : SoundDistribution roundRobin cpSize num where
  bijOn := by
    refine ⟨fun place lt => global_lt lt.1 lt.2, ?_, ?_⟩
    · intro place lt other otherInside same
      have found : getBlockPosition roundRobin cpSize num _ = _ := getBlockPosition_global lt.1 lt.2
      have otherFound : getBlockPosition roundRobin cpSize num _ = _ :=
        getBlockPosition_global otherInside.1 otherInside.2
      dsimp only at same
      rw [same, otherFound] at found
      obtain ⟨locals, ranks⟩ := Prod.mk.inj (Option.some.inj found)
      exact Prod.ext ranks.symm locals.symm
    · intro blockId bound
      obtain ⟨cpRank, rankLt, localBlock, localBound, global⟩ :=
        exists_global_eq roundRobin pos bound
      exact ⟨(cpRank, localBlock), ⟨rankLt, localBound⟩, global⟩
  increasing _ rankLt _ _ order := global_lt_global rankLt order

namespace MLACacheFormatter

/-- Two executors of one model with MLA, of which only the generation executor may have
context-parallel ranks. -/
structure Exchange (context generation : CacheState) : Prop where
  contextWf : context.WellFormed
  generationWf : generation.WellFormed
  sameLayers : context.layerNum = generation.layerNum
  contextCP : context.parallelConfig.contextParallelism = 1
  kvFactor : context.kvFactor = generation.kvFactor
  heads : context.modelConfig.nbKvHeadsPerLayer.headD 0 =
    generation.modelConfig.nbKvHeadsPerLayer.headD 0
  tokensPerBlock : context.modelConfig.tokensPerBlock = generation.modelConfig.tokensPerBlock
  sizePerHead : context.modelConfig.sizePerHead = generation.modelConfig.sizePerHead

/-- The blocks of a rank hold its layers of some of the blocks of a cache, which is given
by the block, the layer of the model and the element. -/
def Holds {α : Type} (state : CacheState) (cache : Nat → Nat → Element → α) (blockIds : Nat → Nat)
    (blockNum rank : Nat) (blocks : Nat × Nat → α) : Prop :=
  ∀ blockId < blockNum, ∀ layerId < CacheFormatter.numLayers state rank, ∀ element : Element,
    element.Inside (layerShape state) →
      blocks (blockId, (layerShape state).offset layerId element) =
        cache (blockIds blockId) (state.parallelConfig.startLayer rank + layerId) element

/-- The blocks of a rank with its layers of a cache. -/
def heldBlocks {α : Type} (state : CacheState) (cache : Nat → Nat → Element → α) (rank : Nat) :
    Nat × Nat → α := fun place =>
  let found := (layerShape state).elementAt place.2
  cache place.1 (state.parallelConfig.startLayer rank + found.1) found.2

theorem holds_heldBlocks {α : Type} (st : CacheState) (cache : Nat → Nat → Element → α)
    (num rank : Nat) : Holds st cache id num rank (heldBlocks st cache rank) := by
  intro blockId _ layerId _ element lt
  simp only [heldBlocks, LayerShape.elementAt_offset lt]
  rfl

section Pairs

variable {ctx gen : CacheState} {ctxRank genRank sendTP sendPP recvTP recvPP : Nat}
  {send recv : TargetRanksInfo}

theorem Exchange.layerShape_eq (exchange : Exchange ctx gen) : layerShape ctx = layerShape gen := by
  simp only [layerShape, exchange.kvFactor, exchange.heads, exchange.tokensPerBlock,
    exchange.sizePerHead]

section

variable {peer self : CacheState} {rank : Nat} {info : TargetRanksInfo}
  (located : Located peer self rank info)
  (heads : peer.modelConfig.nbKvHeadsPerLayer.headD 0 = self.modelConfig.nbKvHeadsPerLayer.headD 0)
include located heads

/-- With the same heads on all ranks, all ranks of a domain hold the same part. -/
theorem peerDupHeadFactor_eq : info.peerDupHeadFactor = info.domainTPSize := by
  have pos := located.ownWf.heads_pos
  have tp := located.ownWf.tp_pos
  simp only [← located.isInfo, targetRanksInfo, heads, Shares.count]
  by_cases finer : self.parallelConfig.tpSizePerDPGroup < peer.parallelConfig.tpSizePerDPGroup
  · rw [if_pos (Nat.mul_lt_mul_of_pos_left finer pos), if_pos finer.le,
      Nat.mul_div_mul_left _ _ pos]
  · rw [if_neg (fun less => finer (Nat.lt_of_mul_lt_mul_left less))]
    split
    · rename_i order
      rw [Nat.le_antisymm order (Nat.not_lt.mp finer), Nat.div_self]
      omega
    · rfl

theorem groups_ne_zero : info.domainTPSize / info.peerDupHeadFactor ≠ 0 := by
  rw [peerDupHeadFactor_eq located heads, Nat.div_self located.tp_pos]
  exact Nat.one_ne_zero

end

/-! ## Who sends and who is picked -/

/-- A context rank sends if it is the one of the receiver's DP rank among the ranks that
the receiver could get the cache from. -/
theorem needSendCache_eq
    (pair : Pair ctx gen ctxRank genRank send recv sendTP sendPP recvTP recvPP) :
    needSendCache ctx gen ctxRank =
      decide (gen.parallelConfig.effectiveDPRank % recv.domainTPSize = recvTP) := by
  have unified : needSendCache ctx gen ctxRank =
      if ctx.parallelConfig.tpSizePerDPGroup ≤ gen.parallelConfig.tpSizePerDPGroup then
        true
      else ctx.parallelConfig.tpRankInDPGroup ctxRank %
          (ctx.parallelConfig.tpSizePerDPGroup / gen.parallelConfig.tpSizePerDPGroup) ==
        gen.parallelConfig.effectiveDPRank % (ctx.parallelConfig.tpSizePerDPGroup /
            gen.parallelConfig.tpSizePerDPGroup) := by
    rw [← pair.sender.ownWf.ite_tpRank_eq, needSendCache]
    by_cases enabled : ctx.parallelConfig.enableAttentionDP
    · simp only [ParallelConfig.tpSizePerDPGroup, if_pos enabled]
      rfl
    · simp only [ParallelConfig.tpSizePerDPGroup, if_neg enabled]
      rfl
  have size : recv.domainTPSize =
      Shares.count gen.parallelConfig.tpSizePerDPGroup ctx.parallelConfig.tpSizePerDPGroup := by
    rw [← pair.receiver.isInfo]
    rfl
  have tpBound := pair.recvTP_lt
  have tpEq := pair.recvIndex.tp_eq
  rw [unified]
  rw [size] at tpBound ⊢
  by_cases few : ctx.parallelConfig.tpSizePerDPGroup ≤ gen.parallelConfig.tpSizePerDPGroup
  · have one : Shares.count gen.parallelConfig.tpSizePerDPGroup
        ctx.parallelConfig.tpSizePerDPGroup = 1 := by
      rw [Shares.count]
      split
      · rename_i order
        rw [Nat.le_antisymm few order, Nat.div_self pair.receiver.ownWf.tp_pos]
      · rfl
    rw [if_pos few, one, Nat.mod_one]
    have zero : 0 = recvTP := by omega
    exact (decide_eq_true zero).symm
  · have finer := (Nat.not_le.mp few).le
    rw [Shares.first, if_pos finer] at tpEq
    rw [Shares.count, if_pos finer] at tpBound
    rw [if_neg few, Shares.count, if_pos finer, tpEq, Nat.add_comm, Nat.add_mul_mod_self_right,
      Nat.mod_eq_of_lt tpBound, beq_eq_decide]
    exact decide_eq_decide.mpr eq_comm

/-- The picked connections of a generation rank: those of all pipeline ranks of one of
the tensor-parallel ranks. -/
def pickedConnections (context generation : CacheState) (generationRank : Nat) : List Nat :=
  (List.range (targetRanksInfo context generation generationRank).domainPPSize).map fun pp =>
    pp + generation.parallelConfig.effectiveDPRank %
        (targetRanksInfo context generation generationRank).domainTPSize *
      (targetRanksInfo context generation generationRank).domainPPSize

section

variable (receiver : Located ctx gen genRank recv)
include receiver

theorem pickRecvConnections_eq (exchange : Exchange ctx gen) :
    pickRecvConnections recv.iRanks.length gen genRank ctx =
      .ok (pickedConnections ctx gen genRank) := by
  simp only [pickRecvConnections, receiver.computed, bind, Except.bind, pure,
    Except.pure, domainCPSize_generation exchange.contextCP receiver, pickedConnections,
    receiver.isInfo]
  rfl

/-- The connection with given indices is picked if its rank sends. -/
theorem mem_pickedConnections (ppBound : recvPP < recv.domainPPSize) :
    recvTP * recv.domainPPSize + recvPP ∈ pickedConnections ctx gen genRank ↔
      gen.parallelConfig.effectiveDPRank % recv.domainTPSize = recvTP := by
  rw [pickedConnections, List.mem_map, receiver.isInfo]
  constructor
  · rintro ⟨pp, ppMem, same⟩
    rw [Nat.add_comm] at same
    exact (Nat.mul_add_inj (List.mem_range.mp ppMem) ppBound same).1
  · intro same
    exact ⟨recvPP, List.mem_range.mpr ppBound, by rw [same, Nat.add_comm]⟩

theorem getElem?_pickedConnections (ppBound : recvPP < recv.domainPPSize) :
    (pickedConnections ctx gen genRank)[recvPP]? = some
      (recvPP + gen.parallelConfig.effectiveDPRank % recv.domainTPSize * recv.domainPPSize) := by
  rw [pickedConnections, receiver.isInfo, List.getElem?_map, List.getElem?_range ppBound,
    Option.map_some]

/-- A target's connection is picked if and only if the target sends. -/
theorem picked_iff_needSendCache (exchange : Exchange ctx gen) {conn rank : Nat}
    (target : recv.iRanks[conn]? = some rank) :
    conn ∈ pickedConnections ctx gen genRank ↔ needSendCache ctx gen rank = true := by
  have shared := (mem_iRanks_iff exchange.contextWf exchange.generationWf).mp
    (receiver.isInfo ▸ List.mem_of_getElem? target)
  obtain ⟨_, _, _, recvTP, recvPP, pair⟩ := exists_pair_of_shared exchange.contextCP receiver shared
  obtain ⟨inRange, found⟩ := List.getElem?_eq_some_iff.mp target
  obtain ⟨pairRange, pairFound⟩ := List.getElem?_eq_some_iff.mp pair.target
  have distinct : (targetRanksInfo ctx gen genRank).iRanks.Nodup :=
    nodup_iRanks exchange.contextWf exchange.generationWf
  rw [receiver.isInfo] at distinct
  have place := distinct.getElem_inj_iff.mp (found.trans pairFound.symm)
  rw [place, mem_pickedConnections receiver pair.recvPP_lt, needSendCache_eq pair,
    decide_eq_true_eq]

end

/-! ## What a context rank sends -/

section Sending

variable {α : Type} {roundRobin : Bool} {num : Nat}
  {contextBlocks sendBuffers : Nat → Nat × Nat → α}

/-- The buffers of a context rank after the split. -/
def splitBuffers (roundRobin : Bool) (context generation : CacheState) (contextRank blockNum : Nat)
    (blocks buffers : Nat × Nat → α) : Nat × Nat → α :=
  splitKVCacheForMLAKernel roundRobin (layerShape context) blockNum
    (CacheFormatter.numLayers context contextRank)
    (targetRanksInfo generation context contextRank).domainPPSize
    (targetRanksInfo generation context contextRank).domainCPSize
    (targetRanksInfo generation context contextRank).peerAttentionLayerNumInDomainPP blocks buffers

theorem splitKVCache_eq (exchange : Exchange ctx gen) (blocksPos : 0 < num)
    (sender : Located gen ctx ctxRank send) (blocks buffers : Nat × Nat → α) :
    splitKVCache roundRobin gen ctx ctxRank num (send.domainPPSize * send.domainCPSize) blocks
        buffers = .ok (splitBuffers roundRobin ctx gen ctxRank num blocks buffers) := by
  have size : send.iRanks.length =
      send.domainPPSize * send.domainTPSize * send.domainCPSize := by
    rw [sender.iRanks_length, Nat.mul_comm, Nat.mul_comm send.domainCPSize, Nat.mul_assoc]
  simp only [splitKVCache, sender.computed, bind, Except.bind, pure, Except.pure]
  rw [ensure_of size, ensure_of trivial, ensure_of blocksPos,
    ensure_of (groups_ne_zero sender exchange.heads.symm), splitBuffers, sender.isInfo]

/-- The buffer for the target with given indices. -/
theorem sendCacheIdx_eq {info : TargetRanksInfo} {cp tp pp : Nat}
    (cpPositive : 0 < info.domainCPSize) (tpBound : tp < info.domainTPSize)
    (ppBound : pp < info.domainPPSize) : sendCacheIdx info
        (info.domainCPSize * info.domainTPSize * info.domainPPSize)
        ((cp * info.domainTPSize + tp) * info.domainPPSize + pp) = cp * info.domainPPSize + pp := by
  have perDomain : info.domainCPSize * info.domainTPSize * info.domainPPSize /
      info.domainCPSize = info.domainTPSize * info.domainPPSize := by
    rw [Nat.mul_assoc, Nat.mul_div_cancel_left _ cpPositive]
  have inner : tp * info.domainPPSize + pp < info.domainTPSize * info.domainPPSize := by
    calc tp * info.domainPPSize + pp
        < (tp + 1) * info.domainPPSize := by rw [Nat.succ_mul]; omega
      _ ≤ _ := Nat.mul_le_mul_right _ tpBound
  have digits : (cp * info.domainTPSize + tp) * info.domainPPSize + pp =
      info.domainTPSize * info.domainPPSize * cp + (tp * info.domainPPSize + pp) := by
    rw [Nat.add_mul, Nat.add_assoc, Nat.mul_assoc, Nat.mul_comm cp]
  rw [sendCacheIdx, perDomain, digits, Nat.mul_add_div (Nat.zero_lt_of_lt inner),
    Nat.div_eq_of_lt inner, Nat.add_zero, Nat.mul_add_mod, Nat.mod_eq_of_lt inner,
    Nat.mul_comm tp, Nat.mul_add_mod, Nat.mod_eq_of_lt ppBound]

/-- A context rank that sends splits its blocks and sends to each target the buffer of
its context-parallel rank and its layers. -/
theorem Exchange.sentTo_eq (exchange : Exchange ctx gen) (blocksPos : 0 < num)
    (pair : Pair ctx gen ctxRank genRank send recv sendTP sendPP recvTP recvPP) :
    sentTo roundRobin ctx gen num contextBlocks sendBuffers ctxRank genRank =
      .ok (if needSendCache ctx gen ctxRank then
        some fun offset => splitBuffers roundRobin ctx gen ctxRank num
          (contextBlocks ctxRank) (sendBuffers ctxRank)
            (gen.parallelConfig.cpRank genRank * send.domainPPSize + sendPP, offset)
      else none) := by
  have buffers : splitKVCache roundRobin gen ctx ctxRank num _ _ _ = _ :=
    splitKVCache_eq exchange blocksPos pair.sender (contextBlocks ctxRank) (sendBuffers ctxRank)
  have bound := (List.getElem?_eq_some_iff.mp (pair.sendIndex.getElem? pair.receiver.inGroup)).1
  rw [pair.sender.isInfo] at bound
  have cpPositive : 0 < send.domainCPSize := by
    rw [domainCPSize_context exchange.contextCP pair.sender]
    exact exchange.generationWf.cp_pos
  have perDomain : send.iRanks.length / send.domainCPSize > 0 := by
    rw [pair.sender.iRanks_length, Nat.mul_assoc, Nat.mul_div_cancel_left _ cpPositive]
    exact Nat.mul_pos pair.sender.tp_pos pair.sender.pp_pos
  simp only [sentTo, format, pair.sender.computed, bind, Except.bind, pure,
    Except.pure, ensure_of (Nat.ne_zero_of_lt bound), pair.place]
  by_cases needed : needSendCache ctx gen ctxRank
  · simp only [needed, Bool.not_true, Bool.false_eq_true, if_false, buffers, ensure_of perDomain,
      if_true, List.getElem?_map, List.getElem?_range bound, Option.map_some]
    rw [pair.sender.iRanks_length, sendCacheIdx_eq cpPositive pair.sendTP_lt pair.sendPP_lt]
  · simp [needed]

/-- The buffer for a receiver holds an element of the cache where the receiver looks
for it. -/
theorem Exchange.splitBuffers_apply (exchange : Exchange ctx gen)
    (pair : Pair ctx gen ctxRank genRank send recv sendTP sendPP recvTP recvPP)
    {cache : Nat → Nat → Element → α} {blocks buffers : Nat × Nat → α}
    (holds : Holds ctx cache id num ctxRank blocks) {localBlock layer : Nat} {element : Element}
    (blockBound : localBlock < getBlockNumAccountingForCP (gen.parallelConfig.cpRank genRank)
      gen.parallelConfig.contextParallelism num)
    (lt : element.Inside (layerShape gen))
    (contextLayer : ctx.parallelConfig.HasLayer ctxRank layer)
    (generationLayer : gen.parallelConfig.HasLayer genRank layer) :
    splitBuffers roundRobin ctx gen ctxRank num blocks buffers
        (gen.parallelConfig.cpRank genRank * send.domainPPSize + sendPP,
          (layerShape gen).offset (localBlock *
            (min (ctx.parallelConfig.endLayer ctxRank) (gen.parallelConfig.endLayer genRank) -
              max (ctx.parallelConfig.startLayer ctxRank)
                (gen.parallelConfig.startLayer genRank)) +
            (layer - max (ctx.parallelConfig.startLayer ctxRank)
              (gen.parallelConfig.startLayer genRank))) element) =
      cache (getGlobalBlockIdAccountingForCP roundRobin localBlock
        gen.parallelConfig.contextParallelism
        (gen.parallelConfig.cpRank genRank) num) layer element := by
  have rankLt := exchange.generationWf.cpRank_lt genRank
  have layerBound : layer - ctx.parallelConfig.startLayer ctxRank <
      CacheFormatter.numLayers ctx ctxRank := by
    have last := contextLayer.2
    rw [ParallelConfig.endLayer, Segments.start_succ] at last
    exact Nat.sub_lt_left_of_lt_add contextLayer.1 last
  have found := getLayerPosition_domain exchange.contextWf pair.sender.bound pair.sendIndex
    contextLayer generationLayer
  rw [max_comm, min_comm] at found
  rw [← exchange.layerShape_eq] at lt ⊢
  rw [← domainCPSize_context exchange.contextCP pair.sender] at rankLt blockBound ⊢
  obtain rfl := pair.sender.isInfo
  have copied : splitBuffers roundRobin ctx gen ctxRank num blocks buffers
      (mlaCachePlace _ _ localBlock _ _ element) = _ :=
    splitKVCacheForMLAKernel_apply rankLt blockBound layerBound found lt
  rw [holds _ (global_lt rankLt blockBound) _ layerBound element lt,
    Nat.add_sub_cancel' contextLayer.1] at copied
  exact copied

end Sending

/-! ## What a generation rank receives -/

section Receiving

variable {α : Type} {roundRobin : Bool} {num : Nat}
  {contextBlocks sendBuffers : Nat → Nat × Nat → α} (exchange : Exchange ctx gen)
  (receiver : Located ctx gen genRank recv)
include exchange receiver

theorem unformat_eq (blocksPos : 0 < num) (received : Nat → Nat → α) (blocks : Nat × Nat → α) :
    unformat gen ctx genRank num received blocks =
      .ok (concatKVCacheForMLAKernel (layerShape gen) num (CacheFormatter.numLayers gen genRank)
        recv.domainPPSize recv.peerAttentionLayerNumInDomainPP (fun place => received
          ((pickedConnections ctx gen genRank).getD place.1 0) place.2) blocks) := by
  have size : recv.iRanks.length = recv.domainPPSize * recv.domainTPSize := by
    rw [receiver.iRanks_length, domainCPSize_generation exchange.contextCP receiver, Nat.one_mul,
      Nat.mul_comm]
  have inputs : recv.domainPPSize = (pickedConnections ctx gen genRank).length := by
    rw [pickedConnections, receiver.isInfo, List.length_map, List.length_range]
  simp only [unformat, concatKVCache, receiver.computed,
    pickRecvConnections_eq receiver exchange, bind, Except.bind, pure, Except.pure]
  rw [ensure_of size, ensure_of inputs, ensure_of blocksPos,
    ensure_of (groups_ne_zero receiver exchange.heads)]

/-- The messages of the picked connections hold the cache of a generation rank. -/
theorem holds_of_received (blocksPos : 0 < num) {cache : Nat → Nat → Element → α}
    (held : ∀ rank < ctx.parallelConfig.worldSize, ctx.parallelConfig.InDPGroup rank →
      Holds ctx cache id num rank (contextBlocks rank))
    {received : Nat → Nat → α} {blocks : Nat × Nat → α}
    (arrived : ∀ conn ∈ pickedConnections ctx gen genRank, ∀ rank,
      recv.iRanks[conn]? = some rank →
        sentTo roundRobin ctx gen num contextBlocks sendBuffers rank
          genRank = .ok (some (received conn))) : Holds gen cache
      (fun localBlock => getGlobalBlockIdAccountingForCP roundRobin localBlock
        gen.parallelConfig.contextParallelism (gen.parallelConfig.cpRank genRank) num)
      (getBlockNumAccountingForCP (gen.parallelConfig.cpRank genRank)
        gen.parallelConfig.contextParallelism num) genRank
      (concatKVCacheForMLAKernel (layerShape gen)
        (getBlockNumAccountingForCP (gen.parallelConfig.cpRank genRank)
          gen.parallelConfig.contextParallelism num)
        (CacheFormatter.numLayers gen genRank) recv.domainPPSize
        recv.peerAttentionLayerNumInDomainPP (fun place => received
          ((pickedConnections ctx gen genRank).getD place.1 0) place.2) blocks) := by
  intro localBlock blockBound layerId layerBound element lt
  -- The context pipeline rank that has the layer, and the rank of it that sends.
  obtain ⟨layer, layerEq, generationLayer, recvPP, ppBound, layers⟩ :=
    receiver.exists_layer layerBound
  obtain ⟨ctxRank, send, sendTP, sendPP, pair⟩ := exists_pair exchange.contextCP receiver
    (Nat.mod_lt gen.parallelConfig.effectiveDPRank receiver.tp_pos) ppBound
  obtain ⟨contextLayer, found⟩ := layers pair.recvIndex
  have picked := (mem_pickedConnections receiver ppBound).mpr rfl
  have msg := arrived _ picked ctxRank pair.target
  rw [exchange.sentTo_eq blocksPos pair, needSendCache_eq pair,
    if_pos (decide_eq_true rfl)] at msg
  have data := Option.some.inj (Except.ok.inj msg)
  rw [concatKVCacheForMLAKernel_apply blockBound layerBound found lt, ← layerEq]
  rw [List.getD_eq_getElem?_getD, getElem?_pickedConnections receiver ppBound, Option.getD_some,
    Nat.add_comm recvPP, ← data]
  exact exchange.splitBuffers_apply pair (held ctxRank pair.sender.bound pair.sender.inGroup)
    blockBound lt contextLayer generationLayer

end Receiving

end Pairs

/-- The connections that a generation rank picks are those of its targets that send. After split,
transfer and concatenation its local blocks hold for each of its layers what the context ranks hold
for the blocks with their global indices. Every block is local to one context-parallel rank, in
order, and in contiguous mode the distribution is that of the prompt's tokens and positions. -/
theorem mla_transfer_reconstructs_cache {α : Type} {context generation : CacheState}
    (contextWf : context.WellFormed) (generationWf : generation.WellFormed)
    (sameLayers : context.layerNum = generation.layerNum)
    (contextCP : context.parallelConfig.contextParallelism = 1)
    (kvFactor : context.kvFactor = generation.kvFactor)
    (heads : context.modelConfig.nbKvHeadsPerLayer.headD 0 =
      generation.modelConfig.nbKvHeadsPerLayer.headD 0)
    (tokensPerBlock : context.modelConfig.tokensPerBlock = generation.modelConfig.tokensPerBlock)
    (sizePerHead : context.modelConfig.sizePerHead = generation.modelConfig.sizePerHead)
    (roundRobin : Bool) {blockNum : Nat} (blocksPos : 0 < blockNum)
    {cache : Nat → Nat → Element → α} {contextBlocks : Nat → Nat × Nat → α}
    (sendBuffers : Nat → Nat × Nat → α)
    (held : ∀ rank < context.parallelConfig.worldSize, context.parallelConfig.InDPGroup rank →
      Holds context cache id blockNum rank (contextBlocks rank))
    {generationRank : Nat} (bound : generationRank < generation.parallelConfig.worldSize)
    (inGroup : generation.parallelConfig.InDPGroup generationRank) :
    (∃ targetInfo picked,
      targetRanksInfoForDP context generation generationRank = .ok targetInfo ∧
      pickRecvConnections targetInfo.iRanks.length generation generationRank context =
        .ok picked ∧
      (∀ connection ∈ picked, ∃ rank data, targetInfo.iRanks[connection]? = some rank ∧
        sentTo roundRobin context generation blockNum contextBlocks sendBuffers rank
          generationRank = .ok (some data)) ∧
      (∀ connection rank, targetInfo.iRanks[connection]? = some rank →
        (connection ∈ picked ↔ needSendCache context generation rank = true)) ∧
      ∀ (received : Nat → Nat → α) (recvBlocks : Nat × Nat → α),
        (∀ connection ∈ picked, ∀ rank, targetInfo.iRanks[connection]? = some rank →
          sentTo roundRobin context generation blockNum contextBlocks sendBuffers rank
            generationRank = .ok (some (received connection))) →
        0 < getBlockNumAccountingForCP (generation.parallelConfig.cpRank generationRank)
          generation.parallelConfig.contextParallelism blockNum →
        ∃ blocks,
          unformat generation context generationRank
            (getBlockNumAccountingForCP (generation.parallelConfig.cpRank generationRank)
              generation.parallelConfig.contextParallelism blockNum) received recvBlocks =
            .ok blocks ∧
          Holds generation cache
            (fun localBlock => getGlobalBlockIdAccountingForCP roundRobin localBlock
              generation.parallelConfig.contextParallelism
              (generation.parallelConfig.cpRank generationRank) blockNum)
            (getBlockNumAccountingForCP (generation.parallelConfig.cpRank generationRank)
              generation.parallelConfig.contextParallelism blockNum) generationRank blocks) ∧
    SoundDistribution roundRobin generation.parallelConfig.contextParallelism blockNum ∧
    ∀ tokens : List Nat, 0 < generation.modelConfig.tokensPerBlock →
      blockCount generation.modelConfig.tokensPerBlock tokens.length = blockNum →
      generation.parallelConfig.contextParallelism ≤ blockNum →
        HelixAgrees generation.modelConfig.tokensPerBlock
          generation.parallelConfig.contextParallelism tokens := by
  have exchange : Exchange context generation :=
    ⟨contextWf, generationWf, sameLayers, contextCP, kvFactor, heads, tokensPerBlock, sizePerHead⟩
  have receiver : Located context generation generationRank _ :=
    ⟨contextWf, generationWf, sameLayers, bound, inGroup, rfl⟩
  refine ⟨⟨_, _, receiver.computed, pickRecvConnections_eq receiver exchange, ?_,
    fun connection rank target => picked_iff_needSendCache receiver exchange target, ?_⟩,
    soundDistribution roundRobin generationWf.cp_pos blockNum, ?_⟩
  · intro connection picked
    obtain ⟨recvPP, ppMem, rfl⟩ := List.mem_map.mp picked
    obtain ⟨contextRank, _, sendTP, sendPP, pair⟩ := exists_pair contextCP receiver
      (Nat.mod_lt generation.parallelConfig.effectiveDPRank receiver.tp_pos)
      (List.mem_range.mp ppMem)
    have target := pair.target
    rw [Nat.add_comm] at target
    have needed := (picked_iff_needSendCache receiver exchange target).mp picked
    have message : sentTo roundRobin context generation blockNum contextBlocks sendBuffers
        contextRank generationRank = _ := exchange.sentTo_eq blocksPos pair
    rw [if_pos needed] at message
    exact ⟨contextRank, _, target, message⟩
  · intro received recvBlocks arrived countPos
    exact ⟨_, unformat_eq exchange receiver countPos received recvBlocks,
      holds_of_received exchange receiver blocksPos held arrived⟩
  · intro tokens positive count enough
    exact helixAgrees positive (count ▸ enough)

/-- A context executor with MLA, two pipeline ranks of three and one layers and two
tensor-parallel ranks. -/
def latentContext : CacheState where
  modelConfig := ⟨[1, 1, 1, 1], 8, 2⟩
  parallelConfig := ⟨2, 2, 1, false, 0, 0, [3, 1]⟩
  dataType := .half
  attentionType := .mla
  kvFactor := 1

/-- A generation executor with two pipeline ranks of two layers each, two DP groups of
one tensor-parallel rank and two context-parallel ranks, seen from the second group. -/
def helixGeneration : CacheState where
  modelConfig := ⟨[1, 1, 1, 1], 8, 2⟩
  parallelConfig := ⟨2, 2, 2, true, 1, 2, [2, 2]⟩
  dataType := .half
  attentionType := .mla
  kvFactor := 1

theorem latentContext_wellFormed : latentContext.WellFormed where
  layers_length := rfl
  layers_pos := by decide
  tp_power := ⟨1, rfl⟩
  cp_power := ⟨0, rfl⟩
  groups := by decide
  heads_pos := by decide

theorem helixGeneration_wellFormed : helixGeneration.WellFormed where
  layers_length := rfl
  layers_pos := by decide
  tp_power := ⟨0, rfl⟩
  cp_power := ⟨1, rfl⟩
  groups := by decide
  heads_pos := by decide

theorem latent_helix_reconstructs :
    (∃ targetInfo picked,
      targetRanksInfoForDP latentContext helixGeneration 7 = .ok targetInfo ∧
      pickRecvConnections targetInfo.iRanks.length helixGeneration 7 latentContext = .ok picked ∧
      (∀ connection ∈ picked, ∃ rank data, targetInfo.iRanks[connection]? = some rank ∧
        sentTo false latentContext helixGeneration 5
          (heldBlocks latentContext fun blockId layer element => (blockId, layer, element))
          (fun _ _ => (0, 0, ⟨0, 0, 0, 0⟩)) rank 7 = .ok (some data)) ∧
      (∀ connection rank, targetInfo.iRanks[connection]? = some rank →
        (connection ∈ picked ↔ needSendCache latentContext helixGeneration rank = true)) ∧
      ∀ (received : Nat → Nat → Nat × Nat × Element) (recvBlocks : Nat × Nat → Nat × Nat × Element),
        (∀ connection ∈ picked, ∀ rank, targetInfo.iRanks[connection]? = some rank →
          sentTo false latentContext helixGeneration 5
            (heldBlocks latentContext fun blockId layer element => (blockId, layer, element))
            (fun _ _ => (0, 0, ⟨0, 0, 0, 0⟩)) rank 7 = .ok (some (received connection))) →
        0 < getBlockNumAccountingForCP 1 2 5 →
        ∃ blocks, unformat helixGeneration latentContext 7 (getBlockNumAccountingForCP 1 2 5)
            received recvBlocks = .ok blocks ∧
          Holds helixGeneration (fun blockId layer element => (blockId, layer, element))
            (fun localBlock => getGlobalBlockIdAccountingForCP false localBlock 2 1 5)
            (getBlockNumAccountingForCP 1 2 5) 7 blocks) ∧
    SoundDistribution false 2 5 ∧
    ∀ tokens : List Nat, 0 < 2 → blockCount 2 tokens.length = 5 → 2 ≤ 5 →
      HelixAgrees 2 2 tokens :=
  mla_transfer_reconstructs_cache latentContext_wellFormed helixGeneration_wellFormed
    rfl rfl rfl rfl
    rfl rfl false (by decide) _ (fun rank _ _ => holds_heldBlocks latentContext _ 5 rank)
      (by decide)
    (by decide)

end MLACacheFormatter

end TrtLlm
