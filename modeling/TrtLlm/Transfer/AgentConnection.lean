import TrtLlm.Lib.Run
import TrtLlm.Transfer.MessageSizes

/-! # One-sided writes

Over an agent connection the sender writes into the preallocated buffer of the receiver. It computes
the offset from the size of its own message and the numbers of layers of the picked connections
before it. The written intervals are the slots that the receiver reads (`agent_writes_fill_slots`).
-/

namespace TrtLlm

open List

/-- `MLACacheFormatter::inquireSupport`. The number of heads is checked twice on the own
side. -/
def MLACacheFormatter.inquireSupport (self dest : CacheState) : Bool :=
  self.dataType == dest.dataType &&
    !(self.attentionType != .mla || dest.attentionType != .mla) &&
    self.kvFactor == dest.kvFactor && sameHeadNum self && sameHeadNum dest &&
    !(self.modelConfig.tokensPerBlock != dest.modelConfig.tokensPerBlock ||
      self.modelConfig.sizePerHead != dest.modelConfig.sizePerHead) &&
    self.modelConfig.nbKvHeadsPerLayer.length == dest.modelConfig.nbKvHeadsPerLayer.length &&
    self.modelConfig.nbKvHeadsPerLayer.headD 0 == 1 &&
    !(self.parallelConfig.enableAttentionDP &&
      self.parallelConfig.tensorParallelism % self.parallelConfig.dpSize != 0) &&
    !(dest.parallelConfig.enableAttentionDP &&
      dest.parallelConfig.tensorParallelism % dest.parallelConfig.dpSize != 0) &&
    !(dest.parallelConfig.enableAttentionDP &&
      dest.parallelConfig.tensorParallelism != dest.parallelConfig.dpSize)

/-- An interval of the bytes of a buffer. -/
structure ByteRange where
  offset : Nat
  size : Nat
  deriving DecidableEq, Repr

def ByteRange.Contains (range : ByteRange) (byte : Nat) : Prop :=
  range.offset ≤ byte ∧ byte < range.offset + range.size

/-- The bytes of a slice of the preallocated buffer. -/
def SplitBuffer.byteRange (dataSize : Nat) : SplitBuffer → Option ByteRange
  | .slice offset size => some ⟨offset * dataSize, size * dataSize⟩
  | .dynamic _ => none

namespace AgentConnection

/-! ## Both formatters

`createCacheFormatter` makes a formatter for MLA or for another attention. -/

def inquireSupport (isMLA : Bool) (self dest : CacheState) : Bool :=
  if isMLA then MLACacheFormatter.inquireSupport self dest
  else CacheFormatter.inquireSupport self dest

def pickRecvConnections (isMLA : Bool) (numConnections : Nat) (self : CacheState) (selfIdx : Nat)
    (dest : CacheState) : Except ExchangeFailure (List Nat) :=
  if isMLA then MLACacheFormatter.pickRecvConnections numConnections self selfIdx dest
  else CacheFormatter.pickRecvConnections numConnections self selfIdx dest

/-- An agent needs all buffers to be slices of the preallocated one. -/
def checkCovered (capacity : Option Nat) (targetNum : Nat)
    (allocated : List SplitBuffer × Nat) : Except ExchangeFailure (List SplitBuffer) := do
  ensure (allocated.2 = targetNum) .check
  ensure capacity.isSome .check
  return allocated.1

/-- The buffers of `format` with an agent connection. -/
def sendBuffers (isMLA : Bool) (settings : BufferSettings) (self dest : CacheState)
    (selfIdx blockNum dataSize : Nat) : Except ExchangeFailure (List SplitBuffer) := do
  let targetInfo ← targetRanksInfoForDP dest self selfIdx
  ensure (0 < blockNum) .check
  let capacity := numberOfElements settings self selfIdx dataSize
  let targetNum :=
    if isMLA then targetInfo.domainPPSize * targetInfo.domainCPSize
    else targetInfo.iRanks.length / targetInfo.peerDupHeadFactor
  let sizes :=
    if isMLA then MLACacheFormatter.sendBufferSizes self selfIdx blockNum targetInfo
    else CacheFormatter.sendBufferSizes self selfIdx blockNum targetInfo
  let allocated ← getOrAllocateBuffers capacity targetNum sizes
  checkCovered capacity targetNum allocated

/-- The buffers of `unformat` with an agent connection. -/
def recvBuffers (isMLA : Bool) (settings : BufferSettings) (self dest : CacheState)
    (selfIdx blockNum dataSize : Nat) : Except ExchangeFailure (List SplitBuffer) := do
  let targetInfo ← targetRanksInfoForDP dest self selfIdx
  let pickUpConnections ← pickRecvConnections isMLA targetInfo.iRanks.length self selfIdx dest
  let sizes ←
    if isMLA then
      MLACacheFormatter.recvBufferSizes self selfIdx blockNum targetInfo pickUpConnections
    else CacheFormatter.recvBufferSizes self selfIdx blockNum targetInfo pickUpConnections
  let capacity := numberOfElements settings self selfIdx dataSize
  let allocated ← getOrAllocateBuffers capacity pickUpConnections.length sizes
  checkCovered capacity pickUpConnections.length allocated

/-- The buffer that goes to a connection. -/
def sendBufferIdx (isMLA : Bool) (targetInfo : TargetRanksInfo) (processIdx : Nat) : Nat :=
  if isMLA then MLACacheFormatter.sendCacheIdx targetInfo targetInfo.iRanks.length processIdx
  else CacheFormatter.sendBufferIdx targetInfo processIdx

/-! ## Writing -/

/-- `computeSendOffsetRatio`: the layers of the connections before and those of the own
one, from the targets of the receiver. -/
def computeSendOffsetRatio (peer : CacheState) (peerIdx : Nat) (self : CacheState)
    (connectionIdx : Nat) : Except ExchangeFailure (Nat × Nat) := do
  let peerTargetInfo ← targetRanksInfoForDP self peer peerIdx
  let offsetLayer := ((List.range connectionIdx).map peerTargetInfo.getPeerPPDomainLayerNum).sum
  return (offsetLayer, peerTargetInfo.getPeerPPDomainLayerNum connectionIdx)

/-- `AgentConnection::send`: where in the receiver's buffer data is written. -/
def send (offsetRatio : Nat × Nat) (size : Nat) : Except ExchangeFailure ByteRange := do
  ensure (offsetRatio.2 ≠ 0) .divisionByZero
  return ⟨size / offsetRatio.2 * offsetRatio.1, size⟩

/-- What a context rank writes into the buffer of a generation rank, whose request info
(`sendRequestInfo`) names the index of the connection among those it picked. -/
def write (isMLA : Bool) (settings : BufferSettings) (context generation : CacheState)
    (contextRank generationRank blockNum dataSize : Nat) (pickUpIdx : List Nat) (connection : Nat) :
    Except ExchangeFailure ByteRange := do
  let validConnectionIdx := pickUpIdx.idxOf connection
  let offsetRatio ← computeSendOffsetRatio generation generationRank context validConnectionIdx
  let buffers ← sendBuffers isMLA settings context generation contextRank blockNum dataSize
  let targetInfo ← targetRanksInfoForDP generation context contextRank
  let processIdx := targetInfo.iRanks.idxOf generationRank
  let buffer ← CacheFormatter.readBuffer buffers (sendBufferIdx isMLA targetInfo processIdx)
  send offsetRatio (buffer.size * dataSize)

/-! ## Slots -/

section Slots

variable {peer self : CacheState} {rank : Nat}

/-- The layers of the connections before one. -/
def layersBefore (targetInfo : TargetRanksInfo) (connectionIdx : Nat) : Nat :=
  ((List.range connectionIdx).map targetInfo.getPeerPPDomainLayerNum).sum

theorem layersBefore_succ (info : TargetRanksInfo) (connectionIdx : Nat) :
    layersBefore info (connectionIdx + 1) =
      layersBefore info connectionIdx + info.getPeerPPDomainLayerNum connectionIdx := by
  simp [layersBefore, range_succ]

theorem layersBefore_mono (info : TargetRanksInfo) : Monotone (layersBefore info) := by
  apply monotone_nat_of_le_succ
  intro connectionIdx
  rw [layersBefore_succ]
  exact Nat.le_add_right _ _

/-- What passes the agent's checks are slices that follow each other. -/
theorem getElem?_of_checkCovered {cap : Option Nat} {targetNum total unit : Nat}
    {info : TargetRanksInfo} {buffers : List SplitBuffer} (few : targetNum ≤ total)
    (passed : (do
      let allocated ← getOrAllocateBuffers cap targetNum ((List.range total).map fun idx =>
        unit * info.getPeerPPDomainLayerNum idx)
      checkCovered cap targetNum allocated) = .ok buffers) :
    buffers.length = targetNum ∧ ∀ idx < targetNum, buffers[idx]? = some
      (.slice (unit * layersBefore info idx)
        (unit * info.getPeerPPDomainLayerNum idx)) := by
  obtain ⟨allocated, allocation, checked⟩ := Except.bind_eq_ok.mp passed
  simp only [checkCovered, ensure_bind_eq_ok] at checked
  obtain ⟨covered, some, kept⟩ := checked
  cases kept
  obtain ⟨numberOfElements, rfl⟩ := Option.isSome_iff_exists.mp some
  simp only [getOrAllocateBuffers, ensure_bind_eq_ok] at allocation
  cases allocation.2
  rw [CacheFormatter.take_sizes few] at covered ⊢
  have length : targetNum = ((List.range targetNum).map fun idx =>
      unit * info.getPeerPPDomainLayerNum idx).length := by
    rw [length_map, length_range]
  refine ⟨?_, ?_⟩
  · have sizes : ((allocateSlices numberOfElements 0 _).1.map SplitBuffer.size).length = _ :=
      congrArg List.length (map_size_allocateSlices 0
        ((List.range targetNum).map fun idx => unit * info.getPeerPPDomainLayerNum idx))
    rwa [length_map, ← length] at sizes
  · intro idx bound
    rw [getElem?_allocateSlices (covered.trans length) (bound.trans_eq length), Nat.zero_add,
      Segments.start, CacheFormatter.take_sizes bound.le, sum_map_mul_left,
      getD_eq_getElem?_getD, getElem?_map, getElem?_range bound]
    rfl

end Slots

/-- What both formatters have in common: a generation rank has a slot for each connection
it picks, and the sender of the connection sends the layers that it shares with it, `unit`
elements for each of them. -/
structure SlotAgreement (isMLA : Bool) (context generation : CacheState)
    (generationRank blockNum unit : Nat) (picked : List Nat) : Prop where
  picks : pickRecvConnections isMLA
    (targetRanksInfo context generation generationRank).iRanks.length generation generationRank
      context = .ok picked
  nodup : picked.Nodup
  sender : ∀ connection ∈ picked, ∃ rank,
    (targetRanksInfo context generation generationRank).iRanks[connection]? = some rank
  slots : ∀ {settings : BufferSettings} {dataSize : Nat} {buffers : List SplitBuffer},
    recvBuffers isMLA settings generation context generationRank blockNum dataSize = .ok buffers →
      buffers.length = picked.length ∧ ∀ index < picked.length, buffers[index]? = some
        (.slice (unit * layersBefore (targetRanksInfo context generation generationRank) index)
          (unit * (targetRanksInfo context generation generationRank).getPeerPPDomainLayerNum
            index))
  sent : ∀ {index connection rank : Nat}, picked[index]? = some connection →
    (targetRanksInfo context generation generationRank).iRanks[connection]? = some rank →
      ∀ {settings : BufferSettings} {dataSize : Nat} {buffers : List SplitBuffer},
        sendBuffers isMLA settings context generation rank blockNum dataSize = .ok buffers →
          ∃ buffer, CacheFormatter.readBuffer buffers
              (sendBufferIdx isMLA (targetRanksInfo generation context rank)
                ((targetRanksInfo generation context rank).iRanks.idxOf generationRank)) =
                .ok buffer ∧
            buffer.size = unit *
              (targetRanksInfo context generation generationRank).getPeerPPDomainLayerNum index

section Writes

variable {isMLA : Bool} {ctx gen : CacheState} {genRank num unit : Nat}
  {picked : List Nat}

/-- The sender of a picked connection writes the slot of the connection. -/
theorem SlotAgreement.write_eq (agreement : SlotAgreement isMLA ctx gen genRank num unit picked)
    (receiver : Located ctx gen genRank (targetRanksInfo ctx gen genRank)) {idx conn rank : Nat}
    (found : picked[idx]? = some conn)
    (target : (targetRanksInfo ctx gen genRank).iRanks[conn]? = some rank)
    {settings : BufferSettings} {dataSize : Nat} {buffers : List SplitBuffer}
    (checked : sendBuffers isMLA settings ctx gen rank num dataSize = .ok buffers) :
    write isMLA settings ctx gen rank genRank num dataSize picked conn =
      .ok ⟨unit * layersBefore (targetRanksInfo ctx gen genRank) idx * dataSize,
        unit * (targetRanksInfo ctx gen genRank).getPeerPPDomainLayerNum idx * dataSize⟩ := by
  have rankLt : rank < ctx.parallelConfig.worldSize :=
    ((mem_iRanks_iff receiver.peerWf receiver.ownWf).mp (List.mem_of_getElem? target)).inWorld
  have layers := CacheFormatter.getPeerPPDomainLayerNum_pos receiver idx
  obtain ⟨inRange, here⟩ := List.getElem?_eq_some_iff.mp found
  have place := agreement.nodup.idxOf_getElem _ inRange
  rw [here] at place
  obtain ⟨buffer, read, size⟩ := agreement.sent found target checked
  have quotient : unit * (targetRanksInfo ctx gen genRank).getPeerPPDomainLayerNum idx * dataSize /
        (targetRanksInfo ctx gen genRank).getPeerPPDomainLayerNum idx = unit * dataSize := by
    rw [Nat.mul_right_comm, Nat.mul_div_cancel _ layers]
  simp only [write, computeSendOffsetRatio, receiver.computed, targetRanksInfoForDP_eq
    receiver.ownWf
      receiver.peerWf receiver.sameLayers.symm rankLt, checked, place,
    bind, Except.bind, pure, Except.pure, read, send, ensure_of layers.ne', size, quotient]
  rw [← layersBefore, Nat.mul_right_comm]

end Writes

section Heads

open CacheFormatter

variable {ctx gen : CacheState} {headNum genRank num : Nat}

theorem nodup_pickedConnections (pos : 0 < (targetRanksInfo ctx gen genRank).peerDupHeadFactor) :
    (pickedConnections ctx gen genRank).Nodup := by
  rw [pickedConnections, nodup_flatMap]
  refine ⟨?_, ?_⟩
  · intro group _
    exact nodup_range.map fun _ _ same => Nat.add_left_cancel same
  · refine nodup_range.imp ?_
    intro group other ne conn here there
    obtain ⟨pp, ppMem, rfl⟩ := mem_map.mp here
    obtain ⟨otherPP, otherMem, same⟩ := mem_map.mp there
    obtain ⟨ranks, -⟩ := Nat.mul_add_inj (mem_range.mp otherMem) (mem_range.mp ppMem) same
    exact ne (Nat.eq_of_mul_eq_mul_right pos (Nat.add_right_cancel ranks)).symm

/-- Buffers of the formatter for heads. -/
theorem slotAgreement_heads (exchange : Exchange ctx gen headNum)
    (kvFactor : ctx.kvFactor = gen.kvFactor)
    (receiver : Located ctx gen genRank (targetRanksInfo ctx gen genRank)) :
    SlotAgreement false ctx gen genRank num
      (num * exchangedSize gen (targetRanksInfo ctx gen genRank))
      (pickedConnections ctx gen genRank) := by
  obtain ⟨pos, divides, -⟩ := exchange.groups receiver
  have picks := pickRecvConnections_eq exchange receiver
  refine ⟨picks, nodup_pickedConnections pos, ?_, ?_, ?_⟩
  · intro conn mem
    obtain ⟨recvTP, tpBound, recvPP, ppBound, rfl, -⟩ :=
      exists_of_mem_pickedConnections receiver divides pos mem
    obtain ⟨rank, _, _, _, pair⟩ := exists_pair exchange.contextCP receiver tpBound ppBound
    exact ⟨rank, pair.target⟩
  · intro settings dataSize buffers received
    simp only [recvBuffers, pickRecvConnections, Bool.false_eq_true, if_false] at received
    obtain ⟨targetInfo, info, received⟩ := Except.bind_eq_ok.mp received
    rw [receiver.computed] at info
    cases info
    obtain ⟨picked, found, received⟩ := Except.bind_eq_ok.mp received
    rw [picks] at found
    cases found
    obtain ⟨sizes, computed, received⟩ := Except.bind_eq_ok.mp received
    have divisible := computed
    simp only [CacheFormatter.recvBufferSizes, ensure_bind_eq_ok] at divisible
    rw [recvBufferSizes_eq receiver exchange divisible.1, bufferSizes,
      ← length_pickedConnections receiver] at computed
    cases computed
    exact getElem?_of_checkCovered (Nat.le_refl _) received
  · intro idx conn rank found target settings dataSize buffers checked
    obtain ⟨-, sends, sendTP, sendPP, recvTP, pair⟩ :=
      exists_pair_of_picked exchange receiver found target
    obtain ⟨-, sendDivides, groups⟩ := exchange.symm.groups pair.sender
    obtain ⟨targetInfo, info, checked⟩ := Except.bind_eq_ok.mp checked
    rw [pair.sender.computed] at info
    cases info
    rw [ensure_bind_eq_ok, sendBufferSizes_eq pair.sender sendDivides groups] at checked
    have slices := (getElem?_of_checkCovered (Nat.div_le_self _ _) checked.2).2
    have place := pair.place
    rw [ParallelConfig.cpRank, exchange.generationCP, Nat.mod_one, Nat.zero_mul, Nat.zero_add]
      at place
    have bufferBound := index_lt
      (Nat.div_lt_div_of_lt_of_dvd sendDivides pair.sendTP_lt) pair.sendPP_lt
    have read := readBuffer_of_getElem?
      (slices _ (bufferBound.trans_eq (exchange.symm.bufferNum_eq pair.sender).symm))
    have bufferIdx : AgentConnection.sendBufferIdx false sends (sends.iRanks.idxOf genRank) =
        sendTP / sends.peerDupHeadFactor * sends.domainPPSize + sendPP := by
      rw [AgentConnection.sendBufferIdx, if_neg Bool.false_ne_true, place,
        sendBufferIdx_eq pair.sendPP_lt]
    rw [pair.sender.isInfo]
    refine ⟨_, (congrArg (readBuffer buffers) bufferIdx).trans read, ?_⟩
    rw [SplitBuffer.size, getPeerPPDomainLayerNum_mod, getPeerPPDomainLayerNum_mod,
      Nat.mul_comm (sendTP / _), Nat.mul_add_mod, Nat.mod_eq_of_lt pair.sendPP_lt,
      exchange.exchangedSize_eq kvFactor pair, pair.layerNum_comm]

end Heads

section Latent

open MLACacheFormatter

variable {ctx gen : CacheState} {genRank num : Nat}

section

variable (exchange : Exchange ctx gen)
include exchange

theorem latent_sendBufferSizes_eq
    (generationCP : gen.parallelConfig.contextParallelism = 1) {rank : Nat}
    {sends : TargetRanksInfo}
    (sender : Located gen ctx rank sends) : MLACacheFormatter.sendBufferSizes ctx rank num sends =
      (List.range (sends.domainPPSize * sends.domainCPSize)).map fun idx =>
        num * (layerShape gen).layerSize * sends.getPeerPPDomainLayerNum idx := by
  have layers := CacheFormatter.numLayers_pos exchange.contextWf sender.bound
  have one := (domainCPSize_context exchange.contextCP sender).trans generationCP
  simp only [MLACacheFormatter.sendBufferSizes, blockSize, one,
    Nat.mul_div_cancel_left _ layers, exchange.layerShape_eq]
  apply map_congr_left
  intro idx _
  rw [getBlockNumAccountingForCP, if_pos rfl, CacheFormatter.getPeerPPDomainLayerNum_mod,
    CacheFormatter.getPeerPPDomainLayerNum_mod, Nat.mod_mod]
  ring

variable (receiver : Located ctx gen genRank (targetRanksInfo ctx gen genRank))
include receiver

theorem latent_recvBufferSizes_eq :
    MLACacheFormatter.recvBufferSizes gen genRank num (targetRanksInfo ctx gen genRank)
        (pickedConnections ctx gen genRank) =
      .ok ((List.range (pickedConnections ctx gen genRank).length).map fun idx =>
        num * (layerShape gen).layerSize *
          (targetRanksInfo ctx gen genRank).getPeerPPDomainLayerNum idx) := by
  have layers := CacheFormatter.numLayers_pos exchange.generationWf receiver.bound
  simp only [MLACacheFormatter.recvBufferSizes, ensure_of layers.ne', bind, Except.bind, pure,
    Except.pure, blockSize]
  rw [Nat.mul_assoc, Nat.mul_div_cancel_left _ layers, Nat.mul_comm (layerShape gen).layerSize,
    pickedConnections, map_map, length_map, length_range]
  congr 1
  apply map_congr_left
  intro idx _
  dsimp only [Function.comp]
  rw [CacheFormatter.getPeerPPDomainLayerNum_mod, CacheFormatter.getPeerPPDomainLayerNum_mod,
    Nat.add_mul_mod_self_right]

/-- The sender of a picked connection, with its indices. -/
theorem latent_exists_pair {idx conn : Nat}
    (picked : (pickedConnections ctx gen genRank)[idx]? = some conn) :
    ∃ rank sends sendTP sendPP recvTP,
      (targetRanksInfo ctx gen genRank).iRanks[conn]? = some rank ∧
        Pair ctx gen rank genRank sends (targetRanksInfo ctx gen genRank) sendTP sendPP recvTP
          idx := by
  have inRange := (List.getElem?_eq_some_iff.mp picked).1
  rw [pickedConnections, List.length_map, List.length_range] at inRange
  rw [getElem?_pickedConnections receiver inRange] at picked
  obtain ⟨rank, sends, sendTP, sendPP, pair⟩ := exists_pair exchange.contextCP receiver
    (Nat.mod_lt gen.parallelConfig.effectiveDPRank receiver.tp_pos) inRange
  have target := pair.target
  rw [Nat.add_comm] at target
  cases picked
  exact ⟨rank, sends, sendTP, sendPP, _, target, pair⟩

/-- Buffers of the formatter for MLA. -/
theorem slotAgreement_latent (generationCP : gen.parallelConfig.contextParallelism = 1) :
    SlotAgreement true ctx gen genRank num (num * (layerShape gen).layerSize)
      (pickedConnections ctx gen genRank) := by
  have picks := pickRecvConnections_eq receiver exchange
  refine ⟨picks, ?_, ?_, ?_, ?_⟩
  · exact nodup_range.map fun _ _ same => Nat.add_right_cancel same
  · intro conn mem
    obtain ⟨idx, found⟩ := mem_iff_getElem?.mp mem
    obtain ⟨rank, _, _, _, _, target, -⟩ := latent_exists_pair exchange receiver found
    exact ⟨rank, target⟩
  · intro settings dataSize buffers received
    simp only [recvBuffers, AgentConnection.pickRecvConnections, if_true] at received
    obtain ⟨targetInfo, info, received⟩ := Except.bind_eq_ok.mp received
    rw [receiver.computed] at info
    cases info
    obtain ⟨picked, found, received⟩ := Except.bind_eq_ok.mp received
    rw [picks] at found
    cases found
    obtain ⟨sizes, computed, received⟩ := Except.bind_eq_ok.mp received
    rw [latent_recvBufferSizes_eq exchange receiver] at computed
    cases computed
    exact getElem?_of_checkCovered (Nat.le_refl _) received
  · intro idx conn rank found target settings dataSize buffers checked
    obtain ⟨sender, sends, sendTP, sendPP, recvTP, here, pair⟩ :=
      latent_exists_pair exchange receiver found
    rw [target] at here
    cases here
    obtain ⟨targetInfo, info, checked⟩ := Except.bind_eq_ok.mp checked
    rw [pair.sender.computed] at info
    cases info
    rw [ensure_bind_eq_ok, latent_sendBufferSizes_eq exchange generationCP pair.sender] at checked
    have slices := (getElem?_of_checkCovered (Nat.le_refl _) checked.2).2
    have one := (domainCPSize_context exchange.contextCP pair.sender).trans generationCP
    have cpRank : gen.parallelConfig.cpRank genRank = 0 := by
      rw [ParallelConfig.cpRank, generationCP, Nat.mod_one]
    have bufferIdx :
        AgentConnection.sendBufferIdx true sends (sends.iRanks.idxOf genRank) = sendPP := by
      rw [AgentConnection.sendBufferIdx, if_pos rfl, pair.place, pair.sender.iRanks_length,
        sendCacheIdx_eq (one ▸ Nat.one_pos) pair.sendTP_lt pair.sendPP_lt, cpRank,
        Nat.zero_mul, Nat.zero_add]
    have bufferBound : sendPP < sends.domainPPSize * sends.domainCPSize := by
      rw [one, Nat.mul_one]
      exact pair.sendPP_lt
    rw [pair.sender.isInfo]
    refine ⟨_, (congrArg (CacheFormatter.readBuffer buffers) bufferIdx).trans
      (CacheFormatter.readBuffer_of_getElem? (slices _ bufferBound)), ?_⟩
    rw [SplitBuffer.size, CacheFormatter.getPeerPPDomainLayerNum_mod,
      CacheFormatter.getPeerPPDomainLayerNum_mod, Nat.mod_eq_of_lt pair.sendPP_lt,
      Nat.mod_eq_of_lt pair.recvPP_lt, pair.layerNum_comm]

end

end Latent

/-- How the heads of a model are divided between the ranks of two executors: as parts of
all heads, or for MLA as one head on every rank. -/
inductive HeadDivision (context generation : CacheState) : Bool → Prop where
  | divided {headNum : Nat} (headNum_pos : 0 < headNum)
      (contextHeads : context.modelConfig.nbKvHeadsPerLayer.headD 0 =
        Shares.count context.parallelConfig.tpSizePerDPGroup headNum)
      (generationHeads : generation.modelConfig.nbKvHeadsPerLayer.headD 0 =
        Shares.count generation.parallelConfig.tpSizePerDPGroup headNum)
      (contextShares : Divides context.parallelConfig.tpSizePerDPGroup headNum)
      (generationShares : Divides generation.parallelConfig.tpSizePerDPGroup headNum) :
      HeadDivision context generation false
  | latent (contextHeads : context.modelConfig.nbKvHeadsPerLayer.headD 0 = 1) :
      HeadDivision context generation true

theorem exists_slotAgreement {isMLA : Bool} {ctx gen : CacheState}
    (supported : inquireSupport isMLA gen ctx = true)
    (contextCP : ctx.parallelConfig.contextParallelism = 1)
    (generationCP : gen.parallelConfig.contextParallelism = 1)
    (heads : HeadDivision ctx gen isMLA) {genRank : Nat}
    (receiver : Located ctx gen genRank (targetRanksInfo ctx gen genRank)) (num : Nat) :
    ∃ unit picked, SlotAgreement isMLA ctx gen genRank num unit picked := by
  cases heads with
  | divided headNum_pos contextHeads generationHeads contextShares generationShares =>
    have exchange := CacheFormatter.exchange_of_supported supported receiver.peerWf receiver.ownWf
      receiver.sameLayers headNum_pos contextHeads generationHeads contextShares generationShares
    simp only [inquireSupport, Bool.false_eq_true, if_false, CacheFormatter.inquireSupport,
      Bool.and_eq_true, beq_iff_eq] at supported
    exact ⟨_, _, slotAgreement_heads exchange supported.1.1.1.1.1.2.symm receiver⟩
  | latent contextHeads =>
    simp only [inquireSupport, if_true, MLACacheFormatter.inquireSupport, Bool.and_eq_true,
      Bool.not_eq_true', Bool.or_eq_false_iff, bne_eq_false_iff_eq, beq_iff_eq] at supported
    obtain ⟨⟨⟨⟨⟨⟨⟨⟨⟨-, kvFactor⟩, -⟩, -⟩, tpb, sizePerHead⟩, -⟩, generationHeads⟩, -⟩, -⟩, -⟩ :=
      supported
    have exchange : MLACacheFormatter.Exchange ctx gen :=
      ⟨receiver.peerWf, receiver.ownWf, receiver.sameLayers, contextCP, kvFactor.symm,
        contextHeads.trans generationHeads.symm, tpb.symm, sizePerHead.symm⟩
    exact ⟨_, _, slotAgreement_latent exchange receiver generationCP⟩

/-- The bytes of the slot at an index. -/
def SlotAt (dataSize : Nat) (slots : List SplitBuffer) (index : Nat) (range : ByteRange) : Prop :=
  ∃ slot, slots[index]? = some slot ∧ slot.byteRange dataSize = some range

/-- The bytes that the sender of a picked connection writes. -/
def WriteAt (isMLA : Bool) (settings : BufferSettings) (context generation : CacheState)
    (generationRank blockNum dataSize : Nat) (targetInfo : TargetRanksInfo) (picked : List Nat)
    (index : Nat) (range : ByteRange) : Prop :=
  ∃ connection rank, picked[index]? = some connection ∧
    targetInfo.iRanks[connection]? = some rank ∧
      write isMLA settings context generation rank generationRank blockNum dataSize picked
        connection = .ok range

/-- If the checks of both sides pass, the sender of each picked connection writes exactly the bytes
of the slot with the connection's index in the receiver's buffer. The writes of different senders
are disjoint, and together they are the slots. -/
theorem agent_writes_fill_slots {isMLA : Bool} {context generation : CacheState}
    (supported : inquireSupport isMLA generation context = true) (contextWf : context.WellFormed)
    (generationWf : generation.WellFormed) (sameLayers : context.layerNum = generation.layerNum)
    (contextCP : context.parallelConfig.contextParallelism = 1)
    (generationCP : generation.parallelConfig.contextParallelism = 1)
    (heads : HeadDivision context generation isMLA) {generationRank : Nat}
    (bound : generationRank < generation.parallelConfig.worldSize)
    (inGroup : generation.parallelConfig.InDPGroup generationRank)
    (sendSettings recvSettings : BufferSettings) (blockNum dataSize : Nat) :
    ∃ targetInfo picked,
      targetRanksInfoForDP context generation generationRank = .ok targetInfo ∧
      pickRecvConnections isMLA targetInfo.iRanks.length generation generationRank context =
        .ok picked ∧
      ∀ slots,
        recvBuffers isMLA recvSettings generation context generationRank blockNum dataSize =
          .ok slots →
        (∀ connection ∈ picked, ∀ rank, targetInfo.iRanks[connection]? = some rank →
          ∃ buffers, sendBuffers isMLA sendSettings context generation rank blockNum dataSize =
            .ok buffers) →
        slots.length = picked.length ∧
        (∀ index < picked.length, ∃ range, SlotAt dataSize slots index range) ∧
        (∀ index range, WriteAt isMLA sendSettings context generation generationRank
          blockNum dataSize
          targetInfo picked index range ↔ SlotAt dataSize slots index range) ∧
        ∀ index other range otherRange byte, index ≠ other →
          WriteAt isMLA sendSettings context generation generationRank blockNum dataSize targetInfo
            picked index range →
          WriteAt isMLA sendSettings context generation generationRank blockNum dataSize targetInfo
            picked other otherRange →
          ¬ (range.Contains byte ∧ otherRange.Contains byte) := by
  have receiver : Located context generation generationRank _ :=
    ⟨contextWf, generationWf, sameLayers, bound, inGroup, rfl⟩
  obtain ⟨unit, picked, agreement⟩ := exists_slotAgreement supported contextCP generationCP heads
    receiver blockNum
  refine ⟨_, picked, receiver.computed, agreement.picks, ?_⟩
  intro slots received checked
  obtain ⟨length, slices⟩ := agreement.slots received
  -- The slot at an index, and what the sender of its connection writes.
  obtain ⟨bytes, bytesEq⟩ : ∃ bytes : Nat → ByteRange, bytes = fun index =>
      ⟨unit * layersBefore (targetRanksInfo context generation generationRank) index * dataSize,
        unit * (targetRanksInfo context generation generationRank).getPeerPPDomainLayerNum index *
          dataSize⟩ := ⟨_, rfl⟩
  have slotAt : ∀ index range, SlotAt dataSize slots index range ↔
      index < picked.length ∧ range = bytes index := by
    intro index range
    constructor
    · rintro ⟨slot, found, same⟩
      have inRange := (List.getElem?_eq_some_iff.mp found).1.trans_eq length
      rw [slices index inRange] at found
      cases found
      exact ⟨inRange, by rw [bytesEq]; exact (Option.some.inj same).symm⟩
    · rintro ⟨inRange, rfl⟩
      exact ⟨_, slices index inRange, by rw [bytesEq]; rfl⟩
  have writeAt : ∀ index range, WriteAt isMLA sendSettings context generation generationRank
      blockNum dataSize (targetRanksInfo context generation generationRank) picked index range ↔
        index < picked.length ∧ range = bytes index := by
    intro index range
    constructor
    · rintro ⟨connection, rank, found, target, written⟩
      obtain ⟨buffers, sent⟩ := checked connection (List.mem_of_getElem? found) rank target
      rw [agreement.write_eq receiver found target sent] at written
      refine ⟨(List.getElem?_eq_some_iff.mp found).1, ?_⟩
      rw [bytesEq]
      exact (Except.ok.inj written).symm
    · rintro ⟨inRange, rfl⟩
      have found := List.getElem?_eq_getElem inRange
      obtain ⟨rank, target⟩ := agreement.sender _ (List.mem_of_getElem? found)
      obtain ⟨buffers, sent⟩ := checked _ (List.mem_of_getElem? found) rank target
      refine ⟨_, rank, found, target, ?_⟩
      rw [agreement.write_eq receiver found target sent, bytesEq]
  refine ⟨length, ?_, ?_, ?_⟩
  · intro index inRange
    exact ⟨_, (slotAt index _).mpr ⟨inRange, rfl⟩⟩
  · intro index range
    rw [writeAt, slotAt]
  · intro index other range otherRange byte different first second both
    obtain ⟨-, rfl⟩ := (writeAt index range).mp first
    obtain ⟨-, rfl⟩ := (writeAt other otherRange).mp second
    rw [bytesEq] at both
    obtain ⟨⟨lower, upper⟩, otherLower, otherUpper⟩ := both
    dsimp only at lower upper otherLower otherUpper
    rw [← Nat.add_mul, ← Nat.mul_add, ← layersBefore_succ] at upper otherUpper
    have ordered {earlier later : Nat} (order : earlier < later) :
        unit * layersBefore (targetRanksInfo context generation generationRank) (earlier + 1) *
            dataSize ≤
          unit * layersBefore (targetRanksInfo context generation generationRank)
              later * dataSize :=
      Nat.mul_le_mul_right _ (Nat.mul_le_mul_left _ (layersBefore_mono _ order))
    rcases Nat.lt_or_gt_of_ne different with before | after
    · have order := ordered before
      omega
    · have order := ordered after
      omega

/-- The second pipeline rank of `groupedGeneration` gets one layer from each pipeline rank
of `unevenContext`. -/
theorem uneven_grouped_writes :
    ∃ targetInfo picked slots,
      targetRanksInfoForDP unevenContext groupedGeneration 14 = .ok targetInfo ∧
      pickRecvConnections false targetInfo.iRanks.length groupedGeneration 14 unevenContext =
        .ok picked ∧
      recvBuffers false ⟨4, 16, false, none⟩ groupedGeneration unevenContext 14 3 2 = .ok slots ∧
      (∀ index < picked.length, ∃ range, SlotAt 2 slots index range) ∧
      ∀ index range, WriteAt false ⟨4, 16, false, none⟩ unevenContext groupedGeneration 14 3 2
        targetInfo picked index range ↔ SlotAt 2 slots index range := by
  obtain ⟨targetInfo, picked, info, picks, fills⟩ := agent_writes_fill_slots
    (show inquireSupport false groupedGeneration unevenContext = true from rfl)
    unevenContext_wellFormed groupedGeneration_wellFormed rfl rfl rfl
    (.divided (show 0 < 8 by decide) rfl rfl (.inl ⟨4, by decide, rfl⟩) (.inl ⟨2, by decide, rfl⟩))
    (show 14 < groupedGeneration.parallelConfig.worldSize by decide) (by decide)
    ⟨4, 16, false, none⟩ ⟨4, 16, false, none⟩ 3 2
  have received : recvBuffers false ⟨4, 16, false, none⟩ groupedGeneration unevenContext 14 3 2 =
      .ok [.slice 0 192, .slice 192 192] := rfl
  obtain ⟨-, slots, writes, -⟩ := fills _ received (by
    intro connection _ rank target
    cases info
    have sender : rank ∈ [1, 3] := List.mem_of_getElem? target
    rcases List.mem_pair.mp sender with rfl | rfl
    · exact ⟨_, rfl⟩
    · exact ⟨_, rfl⟩)
  exact ⟨targetInfo, picked, _, info, picks, received, slots, writes⟩

end AgentConnection

end TrtLlm
