import Mathlib.Algebra.BigOperators.Ring.List
import TrtLlm.Transfer.TransferBuffers

/-! # Sizes of the messages of a transfer

A slice of the preallocated buffer is sent as one message. Another buffer is staged through a slice
or through the whole preallocated buffer and sent in pieces, and the receiver decides on its own in
which pieces it receives. The sizes agree if and only if what the data of a connection pass through
can hold them on both sides, or has the same size. Sizes are in elements; both sides have the same
type.
-/

namespace TrtLlm

open List

namespace CacheFormatter

/-- `outputSplitCaches[index]` -/
def readBuffer (buffers : List SplitBuffer) (index : Nat) : Except ExchangeFailure SplitBuffer :=
  match buffers[index]? with
  | some buffer => .ok buffer
  | none => .error .outOfRange

/-- The number of sizes that fit into a buffer one after the other; one that does not is left
out. -/
def fitting (capacity : Nat) : Nat → List Nat → Nat
  | _, [] => 0
  | before, size :: rest =>
    if before + size ≤ capacity then fitting capacity (before + size) rest + 1
    else fitting capacity before rest

/-- The number of targets that are covered: all of them without a preallocated buffer. -/
def coverNum (capacity : Option Nat) (sizes : List Nat) : Nat :=
  match capacity with
  | some capacity => fitting capacity 0 sizes
  | none => sizes.length

section Stages

variable {stage size fuel left : Nat}

theorem fitting_eq (cap before : Nat) (sizes : List Nat) :
    fitting cap before sizes = (allocateSlices cap before sizes).2 := by
  induction sizes generalizing before with
  | nil => rfl
  | cons size rest ih =>
    rw [fitting, allocateSlices]
    split
    · rw [ih]
    · rw [ih]

/-- The buffers have the sizes that are requested for the targets. -/
theorem getOrAllocateBuffers_eq (cap : Option Nat) {targetNum : Nat} {requested sizes : List Nat}
    (few : targetNum ≤ requested.length) (first : requested.take targetNum = sizes) :
    ∃ buffers, getOrAllocateBuffers cap targetNum requested = .ok (buffers, coverNum cap sizes) ∧
      buffers.map SplitBuffer.size = sizes := by
  subst first
  cases cap with
  | none =>
    refine ⟨(requested.take targetNum).map .dynamic, ?_, ?_⟩
    · simp only [getOrAllocateBuffers, ensure_of few, bind, Except.bind, pure, Except.pure,
        coverNum, length_take, Nat.min_eq_left few]
    · rw [map_map]
      exact map_id _
  | some cap =>
    refine ⟨(allocateSlices cap 0 (requested.take targetNum)).1, ?_, map_size_allocateSlices 0 _⟩
    simp only [getOrAllocateBuffers, ensure_of few, bind, Except.bind, pure, Except.pure, coverNum,
      fitting_eq]

variable {buffers : List SplitBuffer} {sizes : List Nat} {idx : Nat}

theorem readBuffer_of_getElem? {buffer : SplitBuffer} (found : buffers[idx]? = some buffer) :
    readBuffer buffers idx = .ok buffer := by
  rw [readBuffer, found]

/-- The buffer at an index has the requested size. -/
theorem readBuffer_of_size (same : buffers.map SplitBuffer.size = sizes)
    (found : sizes[idx]? = some size) : ∃ buffer, readBuffer buffers idx = .ok buffer ∧
      buffer.size = size := by
  rw [← same, getElem?_map] at found
  obtain ⟨buffer, here, rfl⟩ := Option.map_eq_some_iff.mp found
  exact ⟨buffer, readBuffer_of_getElem? here, rfl⟩

variable (cap : Option Nat) (same : buffers.map SplitBuffer.size = sizes) (pos : 0 < size)
include same pos

end Stages

/-! ## The sizes of the buffers -/

/-- The elements of a layer of a block that are exchanged with one target. -/
def exchangedSize (state : CacheState) (targetInfo : TargetRanksInfo) : Nat :=
  state.kvFactor * headNumDomainTP state targetInfo * state.modelConfig.tokensPerBlock *
    state.modelConfig.sizePerHead

section Sizes

variable {peer self : CacheState} {rank num : Nat} {info : TargetRanksInfo}

theorem numLayers_pos (selfWf : self.WellFormed) (bound : rank < self.parallelConfig.worldSize) :
    0 < numLayers self rank := by
  have lt := selfWf.ppRank_lt bound
  rw [numLayers, getD_eq_getElem?_getD, getElem?_eq_getElem lt, Option.getD_some]
  exact selfWf.layers_pos _ (getElem_mem lt)

/-- A block is exchanged in as many parts as there are groups of ranks with the same heads. -/
theorem blockSize_eq (groups : info.domainTPSize / info.peerDupHeadFactor ∣
      self.modelConfig.nbKvHeadsPerLayer.headD 0) : blockSize self rank = numLayers self rank *
      (info.domainTPSize / info.peerDupHeadFactor * exchangedSize self info) := by
  have heads := Nat.mul_div_cancel' groups
  rw [← headNumDomainTP] at heads
  rw [blockSize, LayerShape.layerSize, MLACacheFormatter.layerShape]
  rw [← heads, exchangedSize]
  ring

theorem getPeerPPDomainLayerNum_mod (info : TargetRanksInfo) (idx : Nat) :
    info.getPeerPPDomainLayerNum idx =
      info.peerAttentionLayerNumInDomainPP.getD (idx % info.domainPPSize) 0 := rfl

/-- The size of a buffer that is sent: that of the exchanged layers. -/
theorem sendBufferSizes_eq (located : Located peer self rank info)
    (divides : info.peerDupHeadFactor ∣ info.domainTPSize)
    (groups : info.domainTPSize / info.peerDupHeadFactor ∣
      self.modelConfig.nbKvHeadsPerLayer.headD 0) :
    sendBufferSizes self rank num info = (List.range info.iRanks.length).map fun idx =>
      num * exchangedSize self info * info.getPeerPPDomainLayerNum idx := by
  have tpPositive := located.tp_pos
  have pos := Nat.pos_of_dvd_of_pos divides tpPositive
  have layers := numLayers_pos located.ownWf located.bound
  obtain ⟨groupNum, domain⟩ := divides
  have groupsPositive : 0 < groupNum := by
    rw [domain] at tpPositive
    exact Nat.pos_of_mul_pos_left tpPositive
  have size : blockSize self rank = _ := blockSize_eq groups
  rw [domain, Nat.mul_div_cancel_left _ pos] at size
  have scaled : num * blockSize self rank * info.peerDupHeadFactor =
      info.peerDupHeadFactor * groupNum * (numLayers self rank *
        (num * exchangedSize self info)) := by
    rw [size]
    ring
  simp only [sendBufferSizes, scaled]
  rw [domain, Nat.mul_div_cancel_left _ (Nat.mul_pos pos groupsPositive),
    Nat.mul_div_cancel_left _ layers]

/-- A rank shares at least one layer with each of its targets. -/
theorem getPeerPPDomainLayerNum_pos (located : Located peer self rank info) (idx : Nat) :
    0 < info.getPeerPPDomainLayerNum idx := by
  obtain rfl := located.isInfo
  have inRange : idx % (targetRanksInfo peer self rank).domainPPSize <
      (targetRanksInfo peer self rank).peerAttentionLayerNumInDomainPP.length := by
    rw [layerNums_eq, length_map, ← domainPPSize_eq]
    exact Nat.mod_lt _ located.pp_pos
  rw [getPeerPPDomainLayerNum_mod, getD_eq_getElem?_getD, getElem?_eq_getElem inRange,
    Option.getD_some]
  exact layerNums_pos located.peerWf located.ownWf located.bound (getElem_mem inRange)

/-- The sizes of the buffers of a rank: one for each group of peers with the same heads and each
pipeline rank of its domain. -/
def bufferSizes (state : CacheState) (targetInfo : TargetRanksInfo) (blockNum : Nat) : List Nat :=
  (List.range (targetInfo.domainTPSize / targetInfo.peerDupHeadFactor *
    targetInfo.domainPPSize)).map fun idx =>
      blockNum * exchangedSize state targetInfo * targetInfo.getPeerPPDomainLayerNum idx

end Sizes

section Agreement

variable {ctx gen : CacheState} {headNum ctxRank genRank num : Nat} {send recv : TargetRanksInfo}

section

variable (receiver : Located ctx gen genRank recv)
include receiver

/-- The connections that are picked, by their pipeline indices. -/
theorem pickedConnections_mod {idx : Nat}
    (bound : idx < (pickedConnections ctx gen genRank).length) :
    ∃ conn, (pickedConnections ctx gen genRank)[idx]? = some conn ∧
      conn % recv.domainPPSize = idx % recv.domainPPSize := by
  rw [length_pickedConnections receiver] at bound
  have group := (Nat.div_lt_iff_lt_mul receiver.pp_pos).mpr bound
  have found := getElem?_pickedConnections receiver group (Nat.mod_lt idx receiver.pp_pos)
  rw [Nat.div_add_mod'] at found
  exact ⟨_, found, by rw [Nat.mul_comm, Nat.mul_add_mod, Nat.mod_mod]⟩

/-- The sizes of the buffers that are received into. -/
theorem recvBufferSizes_eq (exchange : Exchange ctx gen headNum)
    (divisible : num * blockSize gen genRank % (pickedConnections ctx gen genRank).length = 0) :
    recvBufferSizes gen genRank num recv (pickedConnections ctx gen genRank) =
      .ok (bufferSizes gen recv num) := by
  obtain ⟨-, -, groups⟩ := exchange.groups receiver
  have layers := numLayers_pos exchange.generationWf receiver.bound
  have groupsPositive := Nat.pos_of_ne_zero (exchange.groups_ne_zero receiver)
  have valid : (pickedConnections ctx gen genRank).length / recv.domainPPSize =
      recv.domainTPSize / recv.peerDupHeadFactor := by
    rw [length_pickedConnections receiver, Nat.mul_div_cancel _ receiver.pp_pos]
  have scaled : num * blockSize gen genRank = recv.domainTPSize / recv.peerDupHeadFactor *
      numLayers gen genRank * (num * exchangedSize gen recv) := by
    rw [blockSize_eq groups]
    ring
  have byGroups : num * blockSize gen genRank % (recv.domainTPSize / recv.peerDupHeadFactor) =
      0 := by
    rw [scaled, Nat.mul_assoc, Nat.mul_mod_right]
  have byLayers : num * blockSize gen genRank % (numLayers gen genRank *
        (recv.domainTPSize / recv.peerDupHeadFactor)) = 0 := by
    rw [scaled, Nat.mul_comm (numLayers _ _), Nat.mul_mod_right]
  simp only [recvBufferSizes, bind, Except.bind, pure, Except.pure, valid, ensure_of divisible,
    ensure_of byGroups, ensure_of byLayers]
  rw [scaled, Nat.mul_div_cancel_left _ (Nat.mul_pos groupsPositive layers)]
  rw [bufferSizes, ← length_pickedConnections receiver]
  congr 1
  apply ext_getElem?
  intro idx
  rw [getElem?_map, getElem?_map]
  by_cases inRange : idx < (pickedConnections ctx gen genRank).length
  · obtain ⟨conn, found, residue⟩ := pickedConnections_mod receiver inRange
    rw [found, getElem?_range inRange, Option.map_some, Option.map_some,
      getPeerPPDomainLayerNum_mod, getPeerPPDomainLayerNum_mod, residue]
  · have outside := Nat.not_lt.mp inRange
    rw [getElem?_eq_none outside, getElem?_eq_none (by simpa using outside)]

end

/-! ## The messages on each connection -/

variable {idx : Nat}

/-- The index of a connection or a buffer with given indices. -/
theorem index_lt {outer inner high low : Nat} (highBound : high < outer) (lowBound : low < inner) :
    high * inner + low < outer * inner :=
  calc high * inner + low < (high + 1) * inner := by rw [Nat.succ_mul]; omega
    _ ≤ outer * inner := Nat.mul_le_mul_right _ highBound

/-- The sizes requested for the first buffers. -/
theorem take_sizes {count total : Nat} (few : count ≤ total) (size : Nat → Nat) :
    ((List.range total).map size).take count = (List.range count).map size := by
  rw [← map_take, take_range, Nat.min_eq_left few]

section

variable (exchange : Exchange ctx gen headNum)
include exchange

/-- The ranks of a pair exchange buffers of the same size. -/
theorem Exchange.exchangedSize_eq
    (kvFactor : ctx.kvFactor = gen.kvFactor) {sendTP sendPP recvTP recvPP : Nat}
    (pair : Pair ctx gen ctxRank genRank send recv sendTP sendPP recvTP recvPP) :
    exchangedSize ctx send = exchangedSize gen recv := by
  have width : headNumDomainTP ctx send = headNumDomainTP gen recv :=
    (exchange.headsAgree pair).width
  rw [exchangedSize, exchangedSize, kvFactor, width, exchange.tokensPerBlock, exchange.sizePerHead]

/-- The sender of a picked connection, with its indices. -/
theorem exists_pair_of_picked (receiver : Located ctx gen genRank recv) {conn rank : Nat}
    (picked : (pickedConnections ctx gen genRank)[idx]? = some conn)
    (target : recv.iRanks[conn]? = some rank) :
    needSendCache ctx gen rank = .ok true ∧ ∃ send sendTP sendPP recvTP,
      Pair ctx gen rank genRank send recv sendTP sendPP recvTP (idx % recv.domainPPSize) := by
  obtain ⟨pos, divides, -⟩ := exchange.groups receiver
  obtain ⟨recvTP, tpBound, recvPP, ppBound, rfl, residue⟩ :=
    exists_of_mem_pickedConnections receiver divides pos (List.mem_of_getElem? picked)
  obtain ⟨ctxRank, send, sendTP, sendPP, pair⟩ := exists_pair exchange.contextCP receiver tpBound
    ppBound
  cases target.symm.trans pair.target
  obtain ⟨same, here, remainder⟩ := pickedConnections_mod receiver
    (List.getElem?_eq_some_iff.mp picked).1
  rw [picked] at here
  cases here
  rw [Nat.mul_comm, Nat.mul_add_mod, Nat.mod_eq_of_lt ppBound] at remainder
  refine ⟨?_, send, sendTP, sendPP, recvTP, remainder ▸ pair⟩
  rw [needSendCache_eq exchange pair.sender, exchange.dupHeadFactor_eq pair.sender,
    ← exchange.peerDupHeadFactor_eq receiver, residue, (exchange.headsAgree pair).residue,
    decide_eq_true rfl]

end

section

variable (exchange : Exchange ctx gen headNum) (kvFactor : ctx.kvFactor = gen.kvFactor)
  (sized : 0 < gen.kvFactor * gen.modelConfig.tokensPerBlock * gen.modelConfig.sizePerHead)
include exchange kvFactor sized

end

end Agreement

end CacheFormatter

end TrtLlm
