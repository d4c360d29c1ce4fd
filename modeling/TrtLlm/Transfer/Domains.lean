import TrtLlm.Transfer.CacheLayout

/-! # Ranks in each other's domains

Two ranks that exchange a part of a cache find each other at some index of their
targets. What they say about the exchanged layers is the same on both sides.
-/

namespace TrtLlm

open Segments List

variable {peer self : CacheState} {selfRank rank : Nat} {cp tp pp layer : Nat}

/-- The rank is the one with these indices among the context, tensor and pipeline
ranks of the own targets. -/
structure DomainIndex (peer own : CacheState) (ownRank rank cp tp pp : Nat) : Prop where
  cp_eq : (targetCPRanks peer own ownRank)[cp]? = some (peer.parallelConfig.cpRank rank)
  tp_lt : tp < (targetRanksInfo peer own ownRank).domainTPSize
  tp_eq : peer.parallelConfig.tpRankInDPGroup rank =
    Shares.first own.parallelConfig.tpSizePerDPGroup peer.parallelConfig.tpSizePerDPGroup
      (own.parallelConfig.tpRankInDPGroup ownRank) + tp
  pp_eq : (targetPPRanks peer own ownRank)[pp]? = some (peer.parallelConfig.ppRank rank)

theorem length_targetTPRanks : (targetTPRanks peer self selfRank).length =
      (targetRanksInfo peer self selfRank).domainTPSize := by
  rw [targetTPRanks, length_range']
  rfl

theorem length_targetCPRanks : (targetCPRanks peer self selfRank).length =
      (targetRanksInfo peer self selfRank).domainCPSize := by
  rw [targetCPRanks, length_range']
  rfl

/-- The targets are ordered by their context, tensor and pipeline ranks. -/
theorem getElem?_iRanks (tpBound : tp < (targetRanksInfo peer self selfRank).domainTPSize)
    (ppBound : pp < (targetRanksInfo peer self selfRank).domainPPSize) :
    (targetRanksInfo peer self selfRank).iRanks[
        (cp * (targetRanksInfo peer self selfRank).domainTPSize + tp) *
          (targetRanksInfo peer self selfRank).domainPPSize + pp]? =
      (targetCPRanks peer self selfRank)[cp]?.bind fun cpRank =>
        (targetTPRanks peer self selfRank)[tp]?.bind fun tpRank =>
          (targetPPRanks peer self selfRank)[pp]?.map fun ppRank =>
            peer.parallelConfig.rankOf ppRank tpRank cpRank := by
  rw [iRanks_eq]
  have ppLength : ∀ tpRank cpRank, ((targetPPRanks peer self selfRank).map fun ppRank =>
      peer.parallelConfig.rankOf ppRank tpRank cpRank).length =
        (targetRanksInfo peer self selfRank).domainPPSize := by
    intro tpRank cpRank
    rw [length_map, domainPPSize_eq]
  have tpLength : ∀ cpRank, ((targetTPRanks peer self selfRank).flatMap fun tpRank =>
      (targetPPRanks peer self selfRank).map fun ppRank =>
        peer.parallelConfig.rankOf ppRank tpRank cpRank).length =
          (targetRanksInfo peer self selfRank).domainTPSize *
            (targetRanksInfo peer self selfRank).domainPPSize := by
    intro cpRank
    rw [length_flatMap]
    simp only [ppLength]
    rw [map_const', sum_replicate_nat, length_targetTPRanks]
  have inner : tp * (targetRanksInfo peer self selfRank).domainPPSize + pp <
      (targetRanksInfo peer self selfRank).domainTPSize *
        (targetRanksInfo peer self selfRank).domainPPSize := by
    calc tp * (targetRanksInfo peer self selfRank).domainPPSize + pp
        < (tp + 1) * (targetRanksInfo peer self selfRank).domainPPSize := by
          rw [Nat.succ_mul]; omega
      _ ≤ _ := Nat.mul_le_mul_right _ tpBound
  rw [Nat.add_mul, Nat.mul_assoc, Nat.add_assoc,
    getElem?_flatMap_of_length (fun cpRank _ => tpLength cpRank) inner]
  congr 1
  funext cpRank
  rw [getElem?_flatMap_of_length (fun tpRank _ => ppLength tpRank cpRank) ppBound]
  congr 1
  funext tpRank
  rw [getElem?_map]

namespace DomainIndex

variable {cp tp pp : Nat}

section

variable (idx : DomainIndex peer self selfRank rank cp tp pp)
include idx

theorem pp_lt : pp < (targetRanksInfo peer self selfRank).domainPPSize := by
  rw [domainPPSize_eq]
  exact (List.getElem?_eq_some_iff.mp idx.pp_eq).1

/-- The rank is at the place of its indices among the targets. -/
theorem getElem? (inGroup : peer.parallelConfig.InDPGroup rank) :
    (targetRanksInfo peer self selfRank).iRanks[
        (cp * (targetRanksInfo peer self selfRank).domainTPSize + tp) *
          (targetRanksInfo peer self selfRank).domainPPSize + pp]? = some rank := by
  have split := Nat.mod_add_div (peer.parallelConfig.tpRank rank)
    peer.parallelConfig.tpSizePerDPGroup
  rw [inGroup, Nat.mul_comm] at split
  have tpRank : (targetTPRanks peer self selfRank)[tp]? =
      some (peer.parallelConfig.tpRank rank) := by
    have inGroupRank := idx.tp_eq
    rw [ParallelConfig.tpRankInDPGroup] at inGroupRank
    have bound : tp < Shares.count self.parallelConfig.tpSizePerDPGroup
        peer.parallelConfig.tpSizePerDPGroup := idx.tp_lt
    rw [targetTPRanks, getElem?_range' bound, ← split]
    congr 1
    omega
  rw [getElem?_iRanks idx.tp_lt idx.pp_lt, idx.cp_eq, tpRank, idx.pp_eq]
  simp only [Option.bind_some, Option.map_some, ParallelConfig.rankOf_coordinates]

theorem idxOf (inGroup : peer.parallelConfig.InDPGroup rank) (peerWf : peer.WellFormed)
    (selfWf : self.WellFormed) : (targetRanksInfo peer self selfRank).iRanks.idxOf rank =
      (cp * (targetRanksInfo peer self selfRank).domainTPSize + tp) *
        (targetRanksInfo peer self selfRank).domainPPSize + pp := by
  obtain ⟨bound, found⟩ := List.getElem?_eq_some_iff.mp (idx.getElem? inGroup)
  have place := (nodup_iRanks peerWf selfWf).idxOf_getElem _ bound
  rwa [found] at place

end

end DomainIndex

/-- A rank that shares a part of the cache has a place among the targets. -/
theorem exists_domainIndex (peerWf : peer.WellFormed)
    (shared : SharesCache peer self selfRank rank) :
    ∃ cp tp pp, DomainIndex peer self selfRank rank cp tp pp := by
  obtain ⟨cp, cpEq⟩ := mem_iff_getElem?.mp (mem_targetCPRanks.mpr shared.blocks)
  obtain ⟨pp, ppEq⟩ := mem_iff_getElem?.mp
    (mem_targetPPRanks.mpr ⟨peerWf.ppRank_lt shared.inWorld, shared.layers⟩)
  obtain ⟨lower, upper⟩ := shared.heads
  exact ⟨cp, _, pp, cpEq, Nat.sub_lt_left_of_lt_add lower upper,
    (Nat.add_sub_cancel' lower).symm, ppEq⟩

/-- At every place of the domain there is a rank that shares a part of the cache. -/
theorem exists_rank_of_index (peerWf : peer.WellFormed) (selfWf : self.WellFormed)
    (cpBound : cp < (targetRanksInfo peer self selfRank).domainCPSize)
    (tpBound : tp < (targetRanksInfo peer self selfRank).domainTPSize)
    (ppBound : pp < (targetRanksInfo peer self selfRank).domainPPSize) :
    ∃ rank, SharesCache peer self selfRank rank ∧ DomainIndex peer self selfRank rank cp tp pp := by
  rw [← length_targetCPRanks] at cpBound
  rw [domainPPSize_eq] at ppBound
  obtain ⟨cpRank, cpEq⟩ : ∃ cpRank, (targetCPRanks peer self selfRank)[cp]? = some cpRank :=
    ⟨_, getElem?_eq_getElem cpBound⟩
  obtain ⟨ppRank, ppEq⟩ : ∃ ppRank, (targetPPRanks peer self selfRank)[pp]? = some ppRank :=
    ⟨_, getElem?_eq_getElem ppBound⟩
  have belongs : Shares.Belongs self.parallelConfig.tpSizePerDPGroup
      peer.parallelConfig.tpSizePerDPGroup (self.parallelConfig.tpRankInDPGroup selfRank)
      (Shares.first self.parallelConfig.tpSizePerDPGroup peer.parallelConfig.tpSizePerDPGroup
        (self.parallelConfig.tpRankInDPGroup selfRank) + tp) :=
    ⟨Nat.le_add_right _ _, Nat.add_lt_add_left tpBound _⟩
  have groupBound := groupRank_lt_of_belongs peerWf selfWf belongs
  have tpMem := mem_targetTPRanks.mpr ⟨_, rfl, belongs⟩
  have cpLt := cp_lt_of_target peerWf selfWf (mem_of_getElem? cpEq)
  have tpLt := tp_lt_of_target peerWf selfWf tpMem
  refine ⟨peer.parallelConfig.rankOf ppRank _ cpRank, (mem_iRanks_iff peerWf selfWf).mp ?_, ?_,
    tpBound, peerWf.tpRankInDPGroup_rankOf groupBound cpLt, ?_⟩
  · rw [iRanks_eq]
    exact mem_flatMap.mpr ⟨_, mem_of_getElem? cpEq, mem_flatMap.mpr ⟨_, tpMem,
      mem_map.mpr ⟨_, mem_of_getElem? ppEq, rfl⟩⟩⟩
  · rw [ParallelConfig.cpRank_rankOf cpLt]
    exact cpEq
  · rw [ParallelConfig.ppRank_rankOf tpLt cpLt]
    exact ppEq

/-- Where a layer of two ranks is exchanged between them: after those of the layers
that both of them have which are before it. -/
theorem getLayerPosition_domain (selfWf : self.WellFormed)
    (bound : selfRank < self.parallelConfig.worldSize)
    (idx : DomainIndex peer self selfRank rank cp tp pp)
    (own : self.parallelConfig.HasLayer selfRank layer)
    (other : peer.parallelConfig.HasLayer rank layer) :
    getLayerPosition (targetRanksInfo peer self selfRank).peerAttentionLayerNumInDomainPP
        (targetRanksInfo peer self selfRank).domainPPSize
        (layer - self.parallelConfig.startLayer selfRank) =
      some ⟨layer - max (peer.parallelConfig.startLayer rank)
          (self.parallelConfig.startLayer selfRank), pp,
        min (peer.parallelConfig.endLayer rank) (self.parallelConfig.endLayer selfRank) -
          max (peer.parallelConfig.startLayer rank) (self.parallelConfig.startLayer selfRank)⟩ := by
  obtain ⟨before, size⟩ := start_overlaps_of_getElem? (selfWf.startLayer_lt bound).le idx.pp_eq
  rw [← targetPPRanks, ← layerNums_eq] at before size
  have next : start (targetRanksInfo peer self selfRank).peerAttentionLayerNumInDomainPP (pp + 1) =
      start (targetRanksInfo peer self selfRank).peerAttentionLayerNumInDomainPP pp +
        (targetRanksInfo peer self selfRank).peerAttentionLayerNumInDomainPP.getD pp 0 :=
    start_succ pp
  rw [size, overlap] at next
  simp only [ParallelConfig.HasLayer, ParallelConfig.startLayer, ParallelConfig.endLayer] at *
  rw [getLayerPosition_of_range idx.pp_lt (by omega), size, overlap]
  congr 2
  omega

/-- The number of layers that two ranks exchange. -/
theorem DomainIndex.layerNum_eq (idx : DomainIndex peer self selfRank rank cp tp pp) :
    (targetRanksInfo peer self selfRank).peerAttentionLayerNumInDomainPP.getD pp 0 =
      min (peer.parallelConfig.endLayer rank) (self.parallelConfig.endLayer selfRank) -
        max (peer.parallelConfig.startLayer rank) (self.parallelConfig.startLayer selfRank) := by
  rw [layerNums_eq, getD_eq_getElem?_getD, getElem?_map, idx.pp_eq]
  rfl

/-- A layer of the own rank is a layer of the ranks at some pipeline index of the
domain. -/
theorem exists_domain_layer (selfWf : self.WellFormed) (sameLayers : peer.layerNum = self.layerNum)
    (bound : selfRank < self.parallelConfig.worldSize)
    (own : self.parallelConfig.HasLayer selfRank layer) :
    ∃ pp < (targetRanksInfo peer self selfRank).domainPPSize, ∀ {rank cp tp : Nat},
      DomainIndex peer self selfRank rank cp tp pp → peer.parallelConfig.HasLayer rank layer := by
  have total : layer < peer.parallelConfig.attentionLayerNumPerPP.sum :=
    (own.2.trans_le (selfWf.endLayer_le bound)).trans_eq sameLayers.symm
  obtain ⟨ppRank, first, last⟩ := exists_segment total
  have mem : ppRank ∈ targetPPRanks peer self selfRank :=
    mem_targetPPRanks.mpr ⟨lt_length_of_start_lt (first.trans_lt total), own.1.trans_lt last,
      first.trans_lt own.2⟩
  obtain ⟨pp, ppEq⟩ := List.mem_iff_getElem?.mp mem
  refine ⟨pp, ?_, ?_⟩
  · rw [domainPPSize_eq]
    exact (List.getElem?_eq_some_iff.mp ppEq).1
  · intro rank cp tp idx
    have found := idx.pp_eq
    rw [ppEq] at found
    rw [ParallelConfig.HasLayer, ParallelConfig.startLayer, ParallelConfig.endLayer,
      ← Option.some.inj found]
    exact ⟨first, last⟩

/-! ## Ranks that exchange a part of a cache -/

/-- A rank of an executor with its targets in another executor of the same model. -/
structure Located (peer own : CacheState) (ownRank : Nat) (info : TargetRanksInfo) : Prop where
  peerWf : peer.WellFormed
  ownWf : own.WellFormed
  sameLayers : peer.layerNum = own.layerNum
  bound : ownRank < own.parallelConfig.worldSize
  inGroup : own.parallelConfig.InDPGroup ownRank
  isInfo : targetRanksInfo peer own ownRank = info

namespace Located

variable {info : TargetRanksInfo} (located : Located peer self selfRank info)
include located

theorem computed : targetRanksInfoForDP peer self selfRank = .ok info :=
  located.isInfo ▸ targetRanksInfoForDP_eq located.peerWf located.ownWf located.sameLayers
    located.bound

/-- A layer of the own rank is a layer of the ranks at some pipeline index of the
domain, and has its place among those they exchange. -/
theorem exists_layer {layerId : Nat} (inside : layerId <
      self.parallelConfig.attentionLayerNumPerPP.getD (self.parallelConfig.ppRank selfRank) 0) :
    ∃ layer, layer = self.parallelConfig.startLayer selfRank + layerId ∧
      self.parallelConfig.HasLayer selfRank layer ∧ ∃ pp < info.domainPPSize, ∀ {rank cp tp : Nat},
        DomainIndex peer self selfRank rank cp tp pp → peer.parallelConfig.HasLayer rank layer ∧
          getLayerPosition info.peerAttentionLayerNumInDomainPP info.domainPPSize layerId =
            some ⟨layer - max (peer.parallelConfig.startLayer rank)
                (self.parallelConfig.startLayer selfRank), pp,
              min (peer.parallelConfig.endLayer rank) (self.parallelConfig.endLayer selfRank) -
                max (peer.parallelConfig.startLayer rank)
                  (self.parallelConfig.startLayer selfRank)⟩ := by
  have own : self.parallelConfig.HasLayer selfRank
      (self.parallelConfig.startLayer selfRank + layerId) := by
    rw [ParallelConfig.HasLayer, ParallelConfig.endLayer, start_succ]
    exact ⟨Nat.le_add_right _ _, Nat.add_lt_add_left inside _⟩
  obtain ⟨pp, bound, layers⟩ :=
    exists_domain_layer located.ownWf located.sameLayers located.bound own
  refine ⟨_, rfl, own, pp, located.isInfo ▸ bound, fun idx => ⟨layers idx, ?_⟩⟩
  have found := getLayerPosition_domain located.ownWf located.bound idx own (layers idx)
  rwa [Nat.add_sub_cancel_left, located.isInfo] at found

theorem tp_pos : 0 < info.domainTPSize := located.isInfo ▸ Shares.count_pos located.ownWf.tp_pos

theorem pp_pos : 0 < info.domainPPSize := by
  rw [← located.isInfo]
  exact Nat.pos_of_ne_zero (domainPPSize_ne_zero located.ownWf located.sameLayers located.bound)

theorem iRanks_length : info.iRanks.length =
    info.domainCPSize * info.domainTPSize * info.domainPPSize := by
  rw [← located.isInfo, iRanks_eq, length_flatMap]
  simp only [length_flatMap, length_map, ← domainPPSize_eq, map_const',
    sum_replicate_nat, length_targetTPRanks, length_targetCPRanks]
  rw [Nat.mul_assoc]

end Located

/-- A context rank and a generation rank that exchange a part of the cache, with their
targets and their indices in each other's domains. Only the generation executor may have
context-parallel ranks. -/
structure Pair (context generation : CacheState) (contextRank generationRank : Nat)
    (send recv : TargetRanksInfo) (sendTP sendPP recvTP recvPP : Nat) : Prop where
  sender : Located generation context contextRank send
  receiver : Located context generation generationRank recv
  sendIndex : DomainIndex generation context contextRank generationRank
    (generation.parallelConfig.cpRank generationRank) sendTP sendPP
  recvIndex : DomainIndex context generation generationRank contextRank 0 recvTP recvPP

section Pair

variable {ctx gen : CacheState} {ctxRank genRank sendTP sendPP recvTP recvPP : Nat}
  {send recv : TargetRanksInfo}

section

variable (pair : Pair ctx gen ctxRank genRank send recv sendTP sendPP recvTP recvPP)
include pair

/-- Where a sender finds its receiver. -/
theorem Pair.place : send.iRanks.idxOf genRank = (gen.parallelConfig.cpRank genRank *
    send.domainTPSize + sendTP) * send.domainPPSize + sendPP := by
  rw [← pair.sender.isInfo]
  exact pair.sendIndex.idxOf pair.receiver.inGroup pair.sender.peerWf pair.sender.ownWf

/-- Where a receiver finds its sender. -/
theorem Pair.target : recv.iRanks[recvTP * recv.domainPPSize + recvPP]? = some ctxRank := by
  have found := pair.recvIndex.getElem? pair.sender.inGroup
  rwa [Nat.zero_mul, Nat.zero_add, pair.receiver.isInfo] at found

theorem Pair.sendTP_lt : sendTP < send.domainTPSize := pair.sender.isInfo ▸ pair.sendIndex.tp_lt

theorem Pair.sendPP_lt : sendPP < send.domainPPSize := pair.sender.isInfo ▸ pair.sendIndex.pp_lt

theorem Pair.recvTP_lt : recvTP < recv.domainTPSize := pair.receiver.isInfo ▸ pair.recvIndex.tp_lt

theorem Pair.recvPP_lt : recvPP < recv.domainPPSize := pair.receiver.isInfo ▸ pair.recvIndex.pp_lt

/-- Both ranks know how many layers they exchange. -/
theorem Pair.layerNum_comm : send.peerAttentionLayerNumInDomainPP.getD sendPP 0 =
    recv.peerAttentionLayerNumInDomainPP.getD recvPP 0 := by
  rw [← pair.sender.isInfo, ← pair.receiver.isInfo, pair.sendIndex.layerNum_eq,
    pair.recvIndex.layerNum_eq, min_comm, max_comm]

end

section

variable (contextCP : ctx.parallelConfig.contextParallelism = 1)
include contextCP

/-- A context rank sends to all context-parallel ranks of the generation executor. -/
theorem targetCPRanks_context (generationWf : gen.WellFormed) (ctxRank : Nat) :
    targetCPRanks gen ctx ctxRank = List.range gen.parallelConfig.contextParallelism := by
  have pos : 1 ≤ gen.parallelConfig.contextParallelism := generationWf.cp_pos
  rw [targetCPRanks, ParallelConfig.cpRank, contextCP, Nat.mod_one, Shares.first,
    Shares.count, if_pos pos, if_pos pos, Nat.zero_mul, Nat.div_one, List.range_eq_range']

theorem targetCPRanks_generation (generationWf : gen.WellFormed) (genRank : Nat) :
    targetCPRanks ctx gen genRank = [0] := by
  have bound := generationWf.cpRank_lt genRank
  rw [targetCPRanks, contextCP, Shares.first, Shares.count]
  split
  · rename_i single
    have zero : gen.parallelConfig.cpRank genRank = 0 := by omega
    have one : gen.parallelConfig.contextParallelism = 1 := by omega
    rw [zero, one]
    rfl
  · rw [Nat.div_one, Nat.div_eq_of_lt bound]
    rfl

theorem domainCPSize_context (sender : Located gen ctx ctxRank send) :
    send.domainCPSize = gen.parallelConfig.contextParallelism := by
  rw [← sender.isInfo, ← length_targetCPRanks, targetCPRanks_context contextCP sender.peerWf,
    List.length_range]

variable (receiver : Located ctx gen genRank recv)
include receiver

theorem domainCPSize_generation : recv.domainCPSize = 1 := by
  rw [← receiver.isInfo, ← length_targetCPRanks,
    targetCPRanks_generation contextCP receiver.ownWf, List.length_singleton]

/-- A context rank that shares a part of the cache with a generation rank makes a pair with it. -/
theorem exists_pair_of_shared (shared : SharesCache ctx gen genRank ctxRank) :
    ∃ send sendTP sendPP recvTP recvPP,
      Pair ctx gen ctxRank genRank send recv sendTP sendPP recvTP recvPP := by
  obtain ⟨recvCP, recvTP, recvPP, recvIndex⟩ := exists_domainIndex receiver.peerWf shared
  obtain ⟨sendCP, sendTP, sendPP, sendIndex⟩ := exists_domainIndex receiver.ownWf
    (shared.symm receiver.peerWf receiver.ownWf receiver.bound receiver.inGroup)
  have recvZero : recvCP = 0 := by
    have found := (List.getElem?_eq_some_iff.mp recvIndex.cp_eq).1
    rw [targetCPRanks_generation contextCP receiver.ownWf, List.length_singleton] at found
    omega
  have sendRank : sendCP = gen.parallelConfig.cpRank genRank := by
    have found := sendIndex.cp_eq
    rw [targetCPRanks_context contextCP receiver.ownWf] at found
    obtain ⟨_, same⟩ := List.getElem?_eq_some_iff.mp found
    rwa [List.getElem_range] at same
  subst recvZero
  subst sendRank
  exact ⟨_, sendTP, sendPP, recvTP, recvPP, ⟨receiver.ownWf, receiver.peerWf,
    receiver.sameLayers.symm, shared.inWorld, shared.inGroup, rfl⟩, receiver, sendIndex, recvIndex⟩

/-- Every place of the domain of a generation rank is that of a context rank it
exchanges with. -/
theorem exists_pair (tpBound : recvTP < recv.domainTPSize) (ppBound : recvPP < recv.domainPPSize) :
    ∃ ctxRank send sendTP sendPP,
      Pair ctx gen ctxRank genRank send recv sendTP sendPP recvTP recvPP := by
  have cpBound : 0 < recv.domainCPSize :=
    (domainCPSize_generation contextCP receiver).symm ▸ Nat.one_pos
  rw [← receiver.isInfo] at cpBound tpBound ppBound
  obtain ⟨ctxRank, shared, recvIndex⟩ := exists_rank_of_index receiver.peerWf receiver.ownWf cpBound
    tpBound ppBound
  obtain ⟨send, sendTP, sendPP, _, _, pair⟩ := exists_pair_of_shared contextCP receiver shared
  exact ⟨ctxRank, send, sendTP, sendPP, pair.sender, receiver, pair.sendIndex, recvIndex⟩

end

end Pair

end TrtLlm
