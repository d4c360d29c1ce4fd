import Mathlib.Algebra.Order.Ring.Nat
import Mathlib.Data.List.Nodup
import Mathlib.Tactic.Ring
import TrtLlm.Lib.Segments

/-! # The ranks that a transfer talks to

Two executors divide the layers of a model between pipeline ranks and the heads between
tensor-parallel ranks, each in its own way. A rank of one side computes from both configurations
which ranks of the other hold a part of its cache; the results agree (`target_ranks_agree`).
-/

namespace TrtLlm

open List

/-- Why an exchange of caches is given up. -/
inductive ExchangeFailure where
  /-- A `TLLM_CHECK` does not hold. -/
  | check
  /-- An integer division by zero. -/
  | divisionByZero
  /-- An element is read past the end of a vector. -/
  | outOfRange
  deriving DecidableEq, Repr

/-- Goes on only if the condition holds. -/
def ensure (condition : Prop) [Decidable condition] (failure : ExchangeFailure) :
    Except ExchangeFailure Unit :=
  if condition then .ok () else .error failure

theorem ensure_of {condition : Prop} [Decidable condition] (holds : condition)
    (failure : ExchangeFailure) : ensure condition failure = .ok () :=
  if_pos holds

theorem ensure_bind_eq_ok {condition : Prop} [Decidable condition] {failure : ExchangeFailure}
    {α : Type} {next : Unit → Except ExchangeFailure α} {res : α} :
    ensure condition failure >>= next = .ok res ↔ condition ∧ next () = .ok res := by
  by_cases holds : condition
  · simp [ensure, holds, bind, Except.bind]
  · simp [ensure, holds, bind, Except.bind]

/-- `nvinfer1::DataType` -/
inductive DataType where
  | float | half | int8 | int32 | bool | uint8 | fp8 | bf16 | int64 | int4 | fp4
  deriving DecidableEq, Repr

/-- `CacheState::AttentionType` -/
inductive AttentionType where
  | default | mla
  deriving DecidableEq, Repr

/-- `CacheState::ModelConfig` -/
structure ModelConfig where
  nbKvHeadsPerLayer : List Nat
  sizePerHead : Nat
  tokensPerBlock : Nat
  deriving DecidableEq, Repr

/-- `CacheState::ParallelConfig`, with the rank in the DP group of the executor's
rank that the configuration is taken from. -/
structure ParallelConfig where
  tensorParallelism : Nat
  pipelineParallelism : Nat
  contextParallelism : Nat
  enableAttentionDP : Bool
  dpRank : Nat
  dpSize : Nat
  attentionLayerNumPerPP : List Nat
  deriving DecidableEq, Repr

/-- `CacheState` -/
structure CacheState where
  modelConfig : ModelConfig
  parallelConfig : ParallelConfig
  dataType : DataType
  attentionType : AttentionType
  kvFactor : Nat
  deriving DecidableEq, Repr

/-- `TargetRanksInfo` -/
structure TargetRanksInfo where
  domainPPSize : Nat
  domainTPSize : Nat
  domainCPSize : Nat
  iRanks : List Nat
  dupHeadFactor : Nat
  peerDupHeadFactor : Nat
  peerAttentionLayerNumInDomainPP : List Nat
  deriving DecidableEq, Repr

namespace ParallelConfig

variable (config : ParallelConfig)

def worldSize : Nat :=
  config.pipelineParallelism * (config.tensorParallelism * config.contextParallelism)

def cpRank (rank : Nat) : Nat := rank % config.contextParallelism

def tpRank (rank : Nat) : Nat :=
  rank % (config.tensorParallelism * config.contextParallelism) / config.contextParallelism

def ppRank (rank : Nat) : Nat :=
  rank / (config.tensorParallelism * config.contextParallelism)

/-- The number of tensor-parallel ranks that share one attention. -/
def tpSizePerDPGroup : Nat :=
  if config.enableAttentionDP then config.tensorParallelism / config.dpSize
  else config.tensorParallelism

/-- The DP rank that counts: there is only one if attention DP is not enabled. -/
def effectiveDPRank : Nat :=
  if config.enableAttentionDP then config.dpRank else 0

def tpRankInDPGroup (rank : Nat) : Nat :=
  config.tpRank rank % config.tpSizePerDPGroup

/-- The rank whose pipeline, tensor and context ranks are given. -/
def rankOf (ppRank tpRank cpRank : Nat) : Nat :=
  ppRank * config.tensorParallelism * config.contextParallelism +
    tpRank * config.contextParallelism + cpRank

/-- The first of the global layers of a rank. -/
def startLayer (rank : Nat) : Nat :=
  Segments.start config.attentionLayerNumPerPP (config.ppRank rank)

/-- The first global layer after those of a rank. -/
def endLayer (rank : Nat) : Nat :=
  Segments.start config.attentionLayerNumPerPP (config.ppRank rank + 1)

/-- A global layer is one of a rank. -/
abbrev HasLayer (rank layer : Nat) : Prop :=
  config.startLayer rank ≤ layer ∧ layer < config.endLayer rank

end ParallelConfig

/-- `isPowerOfTwo` -/
def isPowerOfTwo (n : Nat) : Bool :=
  0 < n && (n &&& (n - 1)) == 0

theorem isPowerOfTwo_of {n : Nat} (power : n.isPowerOfTwo) : isPowerOfTwo n := by
  have pos := Nat.pos_of_isPowerOfTwo power
  rw [← Nat.and_sub_one_eq_zero_iff_isPowerOfTwo pos.ne'] at power
  simp [isPowerOfTwo, pos, power]

/-- The loop over the peer's pipeline ranks: those that share a layer with the own
rank, and how many layers they share. -/
def targetPeerPP (selfStartLayerId selfEndLayerId : Nat) :
    List Nat → Nat → Nat → List (Nat × Nat)
  | [], _, _ => []
  | layerNum :: rest, ppRank, prePeerPPLayerId =>
    let peerPPStartLayerId := prePeerPPLayerId
    let peerPPEndLayerId := peerPPStartLayerId + layerNum
    let later := targetPeerPP selfStartLayerId selfEndLayerId rest (ppRank + 1)
      (prePeerPPLayerId + layerNum)
    if selfStartLayerId < peerPPEndLayerId ∧ selfEndLayerId > peerPPStartLayerId then
      (ppRank, min peerPPEndLayerId selfEndLayerId - max peerPPStartLayerId selfStartLayerId) ::
        later
    else later

/-- What `TargetRanksInfoForDP` computes. -/
def targetRanksInfo (peer self : CacheState) (selfRank : Nat) : TargetRanksInfo :=
  let peerConfig := peer.parallelConfig
  let selfConfig := self.parallelConfig
  let targetPP := targetPeerPP (selfConfig.startLayer selfRank) (selfConfig.endLayer selfRank)
    peerConfig.attentionLayerNumPerPP 0 0
  let domainPPSize := targetPP.length
  let peerPPRankStart := (targetPP.map Prod.fst).headD 0
  let selfTPSize := selfConfig.tpSizePerDPGroup
  let peerTPSize := peerConfig.tpSizePerDPGroup
  let domainTPSize := Shares.count selfTPSize peerTPSize
  let peerTPRankStart := Shares.first selfTPSize peerTPSize (selfConfig.tpRankInDPGroup selfRank) +
    peerConfig.effectiveDPRank * peerTPSize
  let selfCPNum := selfConfig.contextParallelism
  let peerCPNum := peerConfig.contextParallelism
  let domainCPSize := Shares.count selfCPNum peerCPNum
  let peerCPRankStart := Shares.first selfCPNum peerCPNum (selfConfig.cpRank selfRank)
  let selfHeads := self.modelConfig.nbKvHeadsPerLayer.headD 0 * selfTPSize
  let peerHeads := peer.modelConfig.nbKvHeadsPerLayer.headD 0 * peerTPSize
  { domainPPSize, domainTPSize, domainCPSize
    iRanks :=
      (List.range' peerCPRankStart domainCPSize).flatMap fun cpRank =>
        (List.range' peerTPRankStart domainTPSize).flatMap fun tpRank =>
          (List.range' peerPPRankStart domainPPSize).map fun ppRank =>
            peerConfig.rankOf ppRank tpRank cpRank
    dupHeadFactor := if selfHeads > peerHeads then selfHeads / peerHeads else 1
    peerDupHeadFactor := if peerHeads > selfHeads then peerHeads / selfHeads else 1
    peerAttentionLayerNumInDomainPP := targetPP.map Prod.snd }

/-- `TargetRanksInfoForDP`: the targets, if all checks on the way hold. -/
def targetRanksInfoForDP (peer self : CacheState) (selfRank : Nat) :
    Except ExchangeFailure TargetRanksInfo := do
  let peerConfig := peer.parallelConfig
  let selfConfig := self.parallelConfig
  let info := targetRanksInfo peer self selfRank
  ensure (selfConfig.tensorParallelism * selfConfig.contextParallelism ≠ 0) .divisionByZero
  ensure (peerConfig.attentionLayerNumPerPP.length = peerConfig.pipelineParallelism) .check
  ensure (selfConfig.attentionLayerNumPerPP.length = selfConfig.pipelineParallelism) .check
  ensure (selfConfig.ppRank selfRank < selfConfig.attentionLayerNumPerPP.length) .outOfRange
  ensure (info.domainPPSize ≠ 0) .outOfRange
  ensure (info.peerAttentionLayerNumInDomainPP.sum =
    selfConfig.attentionLayerNumPerPP.getD (selfConfig.ppRank selfRank) 0) .check
  ensure (selfConfig.enableAttentionDP → selfConfig.dpSize ≠ 0) .divisionByZero
  ensure (peerConfig.enableAttentionDP → peerConfig.dpSize ≠ 0) .divisionByZero
  ensure (self.modelConfig.nbKvHeadsPerLayer ≠ []) .outOfRange
  ensure (peer.modelConfig.nbKvHeadsPerLayer ≠ []) .outOfRange
  ensure (selfConfig.tpSizePerDPGroup ≠ 0) .divisionByZero
  ensure (isPowerOfTwo peerConfig.tpSizePerDPGroup) .check
  ensure (isPowerOfTwo selfConfig.tpSizePerDPGroup) .check
  ensure (isPowerOfTwo peerConfig.contextParallelism) .check
  ensure (isPowerOfTwo selfConfig.contextParallelism) .check
  -- The factors divide by the smaller number of heads.
  let selfHeads := self.modelConfig.nbKvHeadsPerLayer.headD 0 * selfConfig.tpSizePerDPGroup
  let peerHeads := peer.modelConfig.nbKvHeadsPerLayer.headD 0 * peerConfig.tpSizePerDPGroup
  ensure (selfHeads > peerHeads → peerHeads ≠ 0) .divisionByZero
  ensure (peerHeads > selfHeads → selfHeads ≠ 0) .divisionByZero
  return info

/-- `getPeerPPDomainLayerNum` -/
def TargetRanksInfo.getPeerPPDomainLayerNum (info : TargetRanksInfo) (targetRankIdx : Nat) : Nat :=
  info.peerAttentionLayerNumInDomainPP.getD (targetRankIdx % info.domainPPSize) 0

/-! ## Pipeline ranks -/

open Segments

/-- The loop finds the pipeline ranks that meet the own layers. -/
theorem targetPeerPP_append (first last : Nat) (before rest : List Nat) :
    targetPeerPP first last rest before.length before.sum =
      ((List.range' before.length rest.length).filter fun idx =>
        Meets (before ++ rest) first last idx).map fun idx =>
          (idx, overlap (before ++ rest) first last idx) := by
  induction rest generalizing before with
  | nil => rfl
  | cons layerNum rest ih =>
    have here : start (before ++ layerNum :: rest) before.length = before.sum := by
      simp [start]
    have next : start (before ++ layerNum :: rest) (before.length + 1) = before.sum + layerNum := by
      simp [start_succ, here]
    have later := ih (before ++ [layerNum])
    simp only [length_append, length_singleton, sum_append, sum_singleton,
      append_assoc, singleton_append] at later
    rw [length_cons, range'_succ, targetPeerPP]
    simp only [later]
    by_cases meets : Meets (before ++ layerNum :: rest) first last before.length
    · rw [filter_cons_of_pos (by simpa using meets), map_cons]
      simp only [Meets, here, next] at meets
      rw [if_pos meets, overlap, here, next]
    · rw [filter_cons_of_neg (by simpa using meets)]
      simp only [Meets, here, next] at meets
      rw [if_neg meets]

theorem targetPeerPP_eq (first last : Nat) (layers : List Nat) :
    targetPeerPP first last layers 0 0 =
      (meeting layers first last).map fun idx => (idx, overlap layers first last idx) := by
  have loop := targetPeerPP_append first last [] layers
  rwa [length_nil, sum_nil, nil_append, ← range_eq_range'] at loop

/-! ## Ranks and their coordinates -/

namespace ParallelConfig

variable {config : ParallelConfig} {rank pp tp cp : Nat}

/-- The rank belongs to the DP group of the configuration. -/
def InDPGroup (config : ParallelConfig) (rank : Nat) : Prop :=
  config.tpRank rank / config.tpSizePerDPGroup = config.effectiveDPRank
  deriving Decidable

theorem cpRank_rankOf (cpBound : cp < config.contextParallelism) :
    config.cpRank (config.rankOf pp tp cp) = cp := by
  rw [cpRank, rankOf, ← Nat.add_mul, Nat.mul_comm, Nat.mul_add_mod, Nat.mod_eq_of_lt cpBound]

theorem rankOf_eq (pp tp cp : Nat) : config.rankOf pp tp cp =
    config.tensorParallelism * config.contextParallelism * pp +
      (config.contextParallelism * tp + cp) := by
  simp only [rankOf]
  ring

section

variable (tpBound : tp < config.tensorParallelism) (cpBound : cp < config.contextParallelism)
include tpBound cpBound

theorem inner_lt :
    config.contextParallelism * tp + cp < config.tensorParallelism * config.contextParallelism := by
  calc config.contextParallelism * tp + cp
      < config.contextParallelism * (tp + 1) := by rw [Nat.mul_succ]; omega
    _ ≤ config.contextParallelism * config.tensorParallelism := Nat.mul_le_mul_left _ tpBound
    _ = config.tensorParallelism * config.contextParallelism := Nat.mul_comm _ _

theorem tpRank_rankOf : config.tpRank (config.rankOf pp tp cp) = tp := by
  rw [tpRank, rankOf_eq, Nat.mul_add_mod, Nat.mod_eq_of_lt (inner_lt tpBound cpBound),
    Nat.mul_add_div (Nat.zero_lt_of_lt cpBound), Nat.div_eq_of_lt cpBound, Nat.add_zero]

theorem ppRank_rankOf : config.ppRank (config.rankOf pp tp cp) = pp := by
  have inner := inner_lt tpBound cpBound
  rw [ppRank, rankOf_eq, Nat.mul_add_div (Nat.zero_lt_of_lt inner), Nat.div_eq_of_lt inner,
    Nat.add_zero]

end

theorem rankOf_lt (ppBound : pp < config.pipelineParallelism)
    (tpBound : tp < config.tensorParallelism) (cpBound : cp < config.contextParallelism) :
    config.rankOf pp tp cp < config.worldSize := by
  have inner := inner_lt tpBound cpBound
  rw [rankOf_eq, worldSize, Nat.mul_comm config.pipelineParallelism]
  calc _ < config.tensorParallelism * config.contextParallelism * (pp + 1) := by
        rw [Nat.mul_succ]; omega
    _ ≤ _ := Nat.mul_le_mul_left _ ppBound

/-- A rank is determined by its coordinates. -/
theorem rankOf_coordinates (rank : Nat) :
    config.rankOf (config.ppRank rank) (config.tpRank rank) (config.cpRank rank) = rank := by
  have outer := Nat.div_add_mod rank (config.tensorParallelism * config.contextParallelism)
  have inner := Nat.div_add_mod
    (rank % (config.tensorParallelism * config.contextParallelism)) config.contextParallelism
  have cp : rank % (config.tensorParallelism * config.contextParallelism) %
      config.contextParallelism = rank % config.contextParallelism :=
    Nat.mod_mul_left_mod _ _ _
  rw [rankOf_eq, ppRank, tpRank, cpRank, ← cp, inner, outer]

end ParallelConfig

/-! ## Configurations -/

/-- A configuration as executors are started with: every pipeline rank has layers, the sizes behind
the targets are powers of two, and the DP groups divide the tensor-parallel ranks. -/
structure CacheState.WellFormed (state : CacheState) : Prop where
  layers_length : state.parallelConfig.attentionLayerNumPerPP.length =
    state.parallelConfig.pipelineParallelism
  layers_pos : ∀ layerNum ∈ state.parallelConfig.attentionLayerNumPerPP, 0 < layerNum
  tp_power : state.parallelConfig.tpSizePerDPGroup.isPowerOfTwo
  cp_power : state.parallelConfig.contextParallelism.isPowerOfTwo
  groups : state.parallelConfig.enableAttentionDP → state.parallelConfig.dpSize ∣
    state.parallelConfig.tensorParallelism ∧
      state.parallelConfig.dpRank < state.parallelConfig.dpSize
  heads_pos : 0 < state.modelConfig.nbKvHeadsPerLayer.headD 0

/-- The number of layers of the model. -/
def CacheState.layerNum (state : CacheState) : Nat :=
  state.parallelConfig.attentionLayerNumPerPP.sum

theorem dvd_of_isPowerOfTwo {a b : Nat} (first : a.isPowerOfTwo) (second : b.isPowerOfTwo) :
    a ≤ b ∨ b ∣ a := by
  obtain ⟨i, rfl⟩ := first
  obtain ⟨j, rfl⟩ := second
  rcases Nat.le_total i j with order | order
  · exact .inl (Nat.pow_le_pow_right (by decide) order)
  · exact .inr (pow_dvd_pow 2 order)

namespace CacheState.WellFormed

variable {state : CacheState} {rank : Nat}

section

variable (wf : state.WellFormed)
include wf

theorem tp_pos : 0 < state.parallelConfig.tpSizePerDPGroup :=
  Nat.pos_of_isPowerOfTwo wf.tp_power

theorem cp_pos : 0 < state.parallelConfig.contextParallelism :=
  Nat.pos_of_isPowerOfTwo wf.cp_power

/-- The tensor-parallel ranks of a DP group are among all of them. -/
theorem groupRank_lt {tp : Nat} (bound : tp < state.parallelConfig.tpSizePerDPGroup) :
    tp + state.parallelConfig.effectiveDPRank * state.parallelConfig.tpSizePerDPGroup <
      state.parallelConfig.tensorParallelism := by
  unfold ParallelConfig.effectiveDPRank
  unfold ParallelConfig.tpSizePerDPGroup at *
  split at bound
  · rename_i enabled
    obtain ⟨divides, dpRank⟩ := wf.groups enabled
    rw [if_pos enabled, if_pos enabled]
    calc _ < (state.parallelConfig.dpRank + 1) *
          (state.parallelConfig.tensorParallelism / state.parallelConfig.dpSize) := by
          rw [Nat.succ_mul]; omega
      _ ≤ state.parallelConfig.dpSize *
          (state.parallelConfig.tensorParallelism / state.parallelConfig.dpSize) :=
          Nat.mul_le_mul_right _ dpRank
      _ = _ := Nat.mul_div_cancel' divides
  · rename_i disabled
    rw [if_neg disabled, Nat.zero_mul, Nat.add_zero]
    exact bound

theorem tensorParallelism_pos : 0 < state.parallelConfig.tensorParallelism :=
  Nat.zero_lt_of_lt (wf.groupRank_lt wf.tp_pos)

theorem ppRank_lt (bound : rank < state.parallelConfig.worldSize) :
    state.parallelConfig.ppRank rank < state.parallelConfig.attentionLayerNumPerPP.length := by
  rw [wf.layers_length, ParallelConfig.ppRank, Nat.div_lt_iff_lt_mul
    (Nat.mul_pos wf.tensorParallelism_pos wf.cp_pos)]
  exact bound

theorem cpRank_lt (rank : Nat) :
    state.parallelConfig.cpRank rank < state.parallelConfig.contextParallelism :=
  Nat.mod_lt _ wf.cp_pos

theorem tpRank_lt (rank : Nat) :
    state.parallelConfig.tpRank rank < state.parallelConfig.tensorParallelism := by
  rw [ParallelConfig.tpRank, Nat.div_lt_iff_lt_mul wf.cp_pos]
  exact Nat.mod_lt _ (Nat.mul_pos wf.tensorParallelism_pos wf.cp_pos)

/-- The rank in the group, as it is computed where the group size is not at hand. -/
theorem ite_tpRank_eq (rank : Nat) :
    (if state.parallelConfig.enableAttentionDP then state.parallelConfig.tpRank rank %
        (state.parallelConfig.tensorParallelism / state.parallelConfig.dpSize)
      else state.parallelConfig.tpRank rank) = state.parallelConfig.tpRankInDPGroup rank := by
  rw [ParallelConfig.tpRankInDPGroup, ParallelConfig.tpSizePerDPGroup]
  split
  · rfl
  · exact (Nat.mod_eq_of_lt (wf.tpRank_lt rank)).symm

theorem tpRankInDPGroup_rankOf {pp inGroup cp : Nat}
    (bound : inGroup < state.parallelConfig.tpSizePerDPGroup)
    (cpBound : cp < state.parallelConfig.contextParallelism) :
    state.parallelConfig.tpRankInDPGroup (state.parallelConfig.rankOf pp
      (inGroup + state.parallelConfig.effectiveDPRank * state.parallelConfig.tpSizePerDPGroup) cp) =
        inGroup := by
  rw [ParallelConfig.tpRankInDPGroup, ParallelConfig.tpRank_rankOf (wf.groupRank_lt bound) cpBound,
    Nat.add_mul_mod_self_right, Nat.mod_eq_of_lt bound]

/-- A rank has at least one layer. -/
theorem startLayer_lt (bound : rank < state.parallelConfig.worldSize) :
    state.parallelConfig.startLayer rank < state.parallelConfig.endLayer rank :=
  start_lt_succ wf.layers_pos (wf.ppRank_lt bound)

theorem endLayer_le (bound : rank < state.parallelConfig.worldSize) :
    state.parallelConfig.endLayer rank ≤ state.layerNum := by
  rw [CacheState.layerNum, ← start_of_length_le (Nat.le_refl _)]
  exact start_mono (wf.ppRank_lt bound)

end

end CacheState.WellFormed

/-! ## The targets of a rank -/

section Targets

variable {peer self : CacheState} {selfRank rank : Nat}

/-- The own rank and a rank of the peer hold parts of the same cache. -/
structure SharesCache (peer own : CacheState) (ownRank rank : Nat) : Prop where
  inWorld : rank < peer.parallelConfig.worldSize
  inGroup : peer.parallelConfig.InDPGroup rank
  layers : Meets peer.parallelConfig.attentionLayerNumPerPP
    (own.parallelConfig.startLayer ownRank) (own.parallelConfig.endLayer ownRank)
    (peer.parallelConfig.ppRank rank)
  heads : Shares.Belongs own.parallelConfig.tpSizePerDPGroup peer.parallelConfig.tpSizePerDPGroup
    (own.parallelConfig.tpRankInDPGroup ownRank) (peer.parallelConfig.tpRankInDPGroup rank)
  blocks : Shares.Belongs own.parallelConfig.contextParallelism
    peer.parallelConfig.contextParallelism (own.parallelConfig.cpRank ownRank)
    (peer.parallelConfig.cpRank rank)

/-- Sharing a part of the cache is mutual. -/
theorem SharesCache.symm (peerWf : peer.WellFormed) (selfWf : self.WellFormed)
    (inWorld : selfRank < self.parallelConfig.worldSize)
    (inGroup : self.parallelConfig.InDPGroup selfRank)
    (shared : SharesCache peer self selfRank rank) :
    SharesCache self peer rank selfRank where
  inWorld := inWorld
  inGroup := inGroup
  layers := ⟨shared.layers.2, shared.layers.1⟩
  heads := (Shares.belongs_symm selfWf.tp_pos peerWf.tp_pos).mp shared.heads
  blocks := (Shares.belongs_symm selfWf.cp_pos peerWf.cp_pos).mp shared.blocks

/-- The pipeline ranks of the targets. -/
def targetPPRanks (peer self : CacheState) (selfRank : Nat) : List Nat :=
  meeting peer.parallelConfig.attentionLayerNumPerPP (self.parallelConfig.startLayer selfRank)
    (self.parallelConfig.endLayer selfRank)

/-- The tensor-parallel ranks of the targets. -/
def targetTPRanks (peer self : CacheState) (selfRank : Nat) : List Nat :=
  List.range' (Shares.first self.parallelConfig.tpSizePerDPGroup
      peer.parallelConfig.tpSizePerDPGroup (self.parallelConfig.tpRankInDPGroup selfRank) +
    peer.parallelConfig.effectiveDPRank * peer.parallelConfig.tpSizePerDPGroup)
    (Shares.count self.parallelConfig.tpSizePerDPGroup peer.parallelConfig.tpSizePerDPGroup)

/-- The context-parallel ranks of the targets. -/
def targetCPRanks (peer self : CacheState) (selfRank : Nat) : List Nat :=
  List.range' (Shares.first self.parallelConfig.contextParallelism
      peer.parallelConfig.contextParallelism (self.parallelConfig.cpRank selfRank))
    (Shares.count self.parallelConfig.contextParallelism peer.parallelConfig.contextParallelism)

theorem domainPPSize_eq : (targetRanksInfo peer self selfRank).domainPPSize =
    (targetPPRanks peer self selfRank).length := by
  simp [targetRanksInfo, targetPeerPP_eq, targetPPRanks]

theorem layerNums_eq : (targetRanksInfo peer self selfRank).peerAttentionLayerNumInDomainPP =
    (targetPPRanks peer self selfRank).map (overlap peer.parallelConfig.attentionLayerNumPerPP
        (self.parallelConfig.startLayer selfRank) (self.parallelConfig.endLayer selfRank)) := by
  simp [targetRanksInfo, targetPeerPP_eq, targetPPRanks]

/-- The targets in the order of their connections: the pipeline rank changes first,
the context rank last. -/
theorem iRanks_eq : (targetRanksInfo peer self selfRank).iRanks =
    (targetCPRanks peer self selfRank).flatMap fun cp =>
      (targetTPRanks peer self selfRank).flatMap fun tp =>
        (targetPPRanks peer self selfRank).map fun pp => peer.parallelConfig.rankOf pp tp cp := by
  have ranks : (targetPeerPP (self.parallelConfig.startLayer selfRank)
      (self.parallelConfig.endLayer selfRank) peer.parallelConfig.attentionLayerNumPerPP 0 0).map
        Prod.fst = targetPPRanks peer self selfRank := by
    rw [targetPeerPP_eq, map_map]
    exact map_id _
  have size := congrArg List.length ranks
  rw [length_map] at size
  simp only [targetRanksInfo, ranks, size, targetCPRanks, targetTPRanks]
  rw [targetPPRanks, ← meeting_eq_range']

theorem mem_targetCPRanks {cp : Nat} : cp ∈ targetCPRanks peer self selfRank ↔
    Shares.Belongs self.parallelConfig.contextParallelism peer.parallelConfig.contextParallelism
      (self.parallelConfig.cpRank selfRank) cp := by
  rw [targetCPRanks, mem_range'_1]
  rfl

theorem mem_targetTPRanks {tp : Nat} : tp ∈ targetTPRanks peer self selfRank ↔
    ∃ inGroup, tp = inGroup +
      peer.parallelConfig.effectiveDPRank * peer.parallelConfig.tpSizePerDPGroup ∧
        Shares.Belongs self.parallelConfig.tpSizePerDPGroup peer.parallelConfig.tpSizePerDPGroup
          (self.parallelConfig.tpRankInDPGroup selfRank) inGroup := by
  rw [targetTPRanks, mem_range'_1]
  constructor
  · intro bounds
    refine ⟨tp - peer.parallelConfig.effectiveDPRank * peer.parallelConfig.tpSizePerDPGroup, ?_⟩
    simp only [Shares.Belongs]
    omega
  · rintro ⟨inGroup, rfl, belongs⟩
    simp only [Shares.Belongs] at belongs
    omega

theorem mem_targetPPRanks {pp : Nat} : pp ∈ targetPPRanks peer self selfRank ↔
    pp < peer.parallelConfig.attentionLayerNumPerPP.length ∧
      Meets peer.parallelConfig.attentionLayerNumPerPP
        (self.parallelConfig.startLayer selfRank) (self.parallelConfig.endLayer selfRank) pp :=
  mem_meeting

section

variable (peerWf : peer.WellFormed) (selfWf : self.WellFormed)
include peerWf selfWf

theorem cp_lt_of_target {cp : Nat} (mem : cp ∈ targetCPRanks peer self selfRank) :
    cp < peer.parallelConfig.contextParallelism :=
  Shares.lt_of_belongs (dvd_of_isPowerOfTwo selfWf.cp_power peerWf.cp_power)
    (selfWf.cpRank_lt selfRank) (mem_targetCPRanks.mp mem)

theorem groupRank_lt_of_belongs
    {inGroup : Nat} (belongs : Shares.Belongs self.parallelConfig.tpSizePerDPGroup
      peer.parallelConfig.tpSizePerDPGroup (self.parallelConfig.tpRankInDPGroup selfRank) inGroup) :
    inGroup < peer.parallelConfig.tpSizePerDPGroup :=
  Shares.lt_of_belongs (dvd_of_isPowerOfTwo selfWf.tp_power peerWf.tp_power)
    (Nat.mod_lt _ selfWf.tp_pos) belongs

theorem tp_lt_of_target {tp : Nat} (mem : tp ∈ targetTPRanks peer self selfRank) :
    tp < peer.parallelConfig.tensorParallelism := by
  obtain ⟨inGroup, rfl, belongs⟩ := mem_targetTPRanks.mp mem
  exact peerWf.groupRank_lt (groupRank_lt_of_belongs peerWf selfWf belongs)

/-- The targets are the ranks of the peer that share a part of the own cache. -/
theorem mem_iRanks_iff :
    rank ∈ (targetRanksInfo peer self selfRank).iRanks ↔ SharesCache peer self selfRank rank := by
  simp only [iRanks_eq, mem_flatMap, mem_map]
  constructor
  · rintro ⟨cp, cpMem, tp, tpMem, pp, ppMem, rfl⟩
    have cpBound := cp_lt_of_target peerWf selfWf cpMem
    have tpBound := tp_lt_of_target peerWf selfWf tpMem
    obtain ⟨ppBound, meets⟩ := mem_targetPPRanks.mp ppMem
    rw [peerWf.layers_length] at ppBound
    obtain ⟨inGroup, tpEq, belongs⟩ := mem_targetTPRanks.mp tpMem
    have groupBound := groupRank_lt_of_belongs peerWf selfWf belongs
    have tpRank : peer.parallelConfig.tpRank (peer.parallelConfig.rankOf pp tp cp) = tp :=
      ParallelConfig.tpRank_rankOf tpBound cpBound
    refine ⟨ParallelConfig.rankOf_lt ppBound tpBound cpBound, ?_, ?_, ?_, ?_⟩
    · rw [ParallelConfig.InDPGroup, tpRank, tpEq, Nat.add_mul_div_right _ _ peerWf.tp_pos,
        Nat.div_eq_of_lt groupBound, Nat.zero_add]
    · rw [ParallelConfig.ppRank_rankOf tpBound cpBound]
      exact meets
    · rw [tpEq, peerWf.tpRankInDPGroup_rankOf groupBound cpBound]
      exact belongs
    · rw [ParallelConfig.cpRank_rankOf cpBound]
      exact mem_targetCPRanks.mp cpMem
  · intro shared
    refine ⟨_, mem_targetCPRanks.mpr shared.blocks, _, mem_targetTPRanks.mpr
      ⟨_, ?_, shared.heads⟩, _,
      mem_targetPPRanks.mpr ⟨peerWf.ppRank_lt shared.inWorld, shared.layers⟩,
      ParallelConfig.rankOf_coordinates rank⟩
    have split := Nat.mod_add_div (peer.parallelConfig.tpRank rank)
      peer.parallelConfig.tpSizePerDPGroup
    rw [shared.inGroup, Nat.mul_comm] at split
    exact split.symm

theorem nodup_iRanks : (targetRanksInfo peer self selfRank).iRanks.Nodup := by
  rw [iRanks_eq, nodup_flatMap]
  have cps : (targetCPRanks peer self selfRank).Nodup := nodup_range'
  have tps : (targetTPRanks peer self selfRank).Nodup := nodup_range'
  have pps : (targetPPRanks peer self selfRank).Nodup := nodup_range.filter _
  refine ⟨?_, ?_⟩
  · intro cp cpMem
    have cpBound := cp_lt_of_target peerWf selfWf cpMem
    rw [nodup_flatMap]
    refine ⟨?_, ?_⟩
    · intro tp tpMem
      have tpBound := tp_lt_of_target peerWf selfWf tpMem
      apply pps.map_on
      intro pp _ other _ same
      have ranks := congrArg peer.parallelConfig.ppRank same
      rwa [ParallelConfig.ppRank_rankOf tpBound cpBound,
        ParallelConfig.ppRank_rankOf tpBound cpBound] at ranks
    · refine tps.imp_of_mem ?_
      intro tp other tpMem otherMem ne rank here there
      obtain ⟨pp, -, rfl⟩ := mem_map.mp here
      obtain ⟨otherPP, -, same⟩ := mem_map.mp there
      have ranks := congrArg peer.parallelConfig.tpRank same
      rw [ParallelConfig.tpRank_rankOf (tp_lt_of_target peerWf selfWf tpMem) cpBound,
        ParallelConfig.tpRank_rankOf (tp_lt_of_target peerWf selfWf otherMem) cpBound] at ranks
      exact ne ranks.symm
  · refine cps.imp_of_mem ?_
    intro cp other cpMem otherMem ne rank here there
    obtain ⟨tp, -, inner⟩ := mem_flatMap.mp here
    obtain ⟨pp, -, rfl⟩ := mem_map.mp inner
    obtain ⟨otherTP, -, otherInner⟩ := mem_flatMap.mp there
    obtain ⟨otherPP, -, same⟩ := mem_map.mp otherInner
    have ranks := congrArg peer.parallelConfig.cpRank same
    rw [ParallelConfig.cpRank_rankOf (cp_lt_of_target peerWf selfWf cpMem),
      ParallelConfig.cpRank_rankOf (cp_lt_of_target peerWf selfWf otherMem)] at ranks
    exact ne ranks.symm

end

/-- The layers that the targets share with the own rank are all of its layers. -/
theorem sum_layerNums (selfWf : self.WellFormed) (sameLayers : peer.layerNum = self.layerNum)
    (bound : selfRank < self.parallelConfig.worldSize) :
    (targetRanksInfo peer self selfRank).peerAttentionLayerNumInDomainPP.sum =
      self.parallelConfig.attentionLayerNumPerPP.getD (self.parallelConfig.ppRank selfRank) 0 := by
  rw [layerNums_eq, targetPPRanks, sum_meeting (selfWf.startLayer_lt bound).le
      ((selfWf.endLayer_le bound).trans sameLayers.ge),
    ParallelConfig.endLayer, start_succ, ParallelConfig.startLayer, Nat.add_sub_cancel_left]

theorem layerNums_pos (peerWf : peer.WellFormed) (selfWf : self.WellFormed)
    (bound : selfRank < self.parallelConfig.worldSize) {layerNum : Nat}
    (mem : layerNum ∈ (targetRanksInfo peer self selfRank).peerAttentionLayerNumInDomainPP) :
    0 < layerNum := by
  rw [layerNums_eq] at mem
  obtain ⟨pp, ppMem, rfl⟩ := mem_map.mp mem
  obtain ⟨ppBound, meets⟩ := mem_targetPPRanks.mp ppMem
  exact overlap_pos (start_lt_succ peerWf.layers_pos ppBound) (selfWf.startLayer_lt bound) meets

theorem domainPPSize_ne_zero (selfWf : self.WellFormed) (sameLayers : peer.layerNum = self.layerNum)
    (bound : selfRank < self.parallelConfig.worldSize) :
    (targetRanksInfo peer self selfRank).domainPPSize ≠ 0 := by
  rw [domainPPSize_eq, Ne, length_eq_zero_iff]
  exact meeting_ne_nil (selfWf.startLayer_lt bound) ((selfWf.endLayer_le bound).trans sameLayers.ge)

/-- No check fails on well-formed configurations of one model. -/
theorem targetRanksInfoForDP_eq (peerWf : peer.WellFormed) (selfWf : self.WellFormed)
    (sameLayers : peer.layerNum = self.layerNum)
    (bound : selfRank < self.parallelConfig.worldSize) :
    targetRanksInfoForDP peer self selfRank = .ok (targetRanksInfo peer self selfRank) := by
  have heads {state : CacheState} (wf : state.WellFormed) :
      state.modelConfig.nbKvHeadsPerLayer ≠ [] := by
    intro empty
    have pos := wf.heads_pos
    rw [empty] at pos
    exact absurd pos (Nat.lt_irrefl 0)
  have dpSize {state : CacheState} (wf : state.WellFormed)
      (enabled : state.parallelConfig.enableAttentionDP) : state.parallelConfig.dpSize ≠ 0 :=
    Nat.ne_zero_of_lt (wf.groups enabled).2
  have headNum {state : CacheState} (wf : state.WellFormed) :
      state.modelConfig.nbKvHeadsPerLayer.headD 0 * state.parallelConfig.tpSizePerDPGroup ≠ 0 :=
    (Nat.mul_pos wf.heads_pos wf.tp_pos).ne'
  have ranks := Nat.mul_pos selfWf.tensorParallelism_pos selfWf.cp_pos
  simp only [targetRanksInfoForDP, ensure_of ranks.ne', ensure_of peerWf.layers_length,
    ensure_of selfWf.layers_length, ensure_of (selfWf.ppRank_lt bound),
    ensure_of (domainPPSize_ne_zero selfWf sameLayers bound),
    ensure_of (sum_layerNums selfWf sameLayers bound), ensure_of (dpSize selfWf),
    ensure_of (dpSize peerWf), ensure_of (heads selfWf), ensure_of (heads peerWf),
    ensure_of selfWf.tp_pos.ne', ensure_of (isPowerOfTwo_of peerWf.tp_power),
    ensure_of (isPowerOfTwo_of selfWf.tp_power),
    ensure_of (isPowerOfTwo_of peerWf.cp_power),
    ensure_of (isPowerOfTwo_of selfWf.cp_power),
    ensure_of (fun _ => headNum peerWf), ensure_of (fun _ => headNum selfWf)]
  rfl

/-- A rank contacts a rank of the peer: the request information goes to all targets. -/
def contacts (peer self : CacheState) (rank selfRank : Nat) : Bool :=
  match targetRanksInfoForDP peer self selfRank with
  | .ok info => info.iRanks.contains rank
  | .error _ => false

/-- What one side finds out about its own targets. -/
structure SoundTargets (peer own : CacheState) (ownRank : Nat) (info : TargetRanksInfo) : Prop where
  computed : targetRanksInfoForDP peer own ownRank = .ok info
  nodup : info.iRanks.Nodup
  layers_pos : ∀ layerNum ∈ info.peerAttentionLayerNumInDomainPP, 0 < layerNum
  layers_sum : info.peerAttentionLayerNumInDomainPP.sum =
    own.parallelConfig.attentionLayerNumPerPP.getD (own.parallelConfig.ppRank ownRank) 0

section

variable (peerWf : peer.WellFormed) (selfWf : self.WellFormed)
  (sameLayers : peer.layerNum = self.layerNum) (bound : selfRank < self.parallelConfig.worldSize)
include peerWf selfWf sameLayers bound

theorem soundTargets : SoundTargets peer self selfRank (targetRanksInfo peer self selfRank) where
  computed := targetRanksInfoForDP_eq peerWf selfWf sameLayers bound
  nodup := nodup_iRanks peerWf selfWf
  layers_pos _ mem := layerNums_pos peerWf selfWf bound mem
  layers_sum := sum_layerNums selfWf sameLayers bound

theorem contacts_iff : contacts peer self rank selfRank ↔ SharesCache peer self selfRank rank := by
  rw [contacts, targetRanksInfoForDP_eq peerWf selfWf sameLayers bound]
  simp only [contains_iff_mem]
  exact mem_iRanks_iff peerWf selfWf

/-- The targets of a rank are the ranks of the peer's DP group that contact it. -/
theorem iRanks_perm_contacts (inGroup : self.parallelConfig.InDPGroup selfRank) :
    (targetRanksInfo peer self selfRank).iRanks.Perm
      ((List.range peer.parallelConfig.worldSize).filter fun rank =>
        peer.parallelConfig.InDPGroup rank && contacts self peer selfRank rank) := by
  rw [perm_ext_iff_of_nodup (nodup_iRanks peerWf selfWf) (nodup_range.filter _)]
  intro rank
  rw [mem_iRanks_iff peerWf selfWf]
  simp only [mem_filter, mem_range, Bool.and_eq_true, decide_eq_true_eq]
  constructor
  · intro shared
    refine ⟨shared.inWorld, shared.inGroup, ?_⟩
    rw [contacts_iff selfWf peerWf sameLayers.symm shared.inWorld]
    exact shared.symm peerWf selfWf bound inGroup
  · intro contacting
    obtain ⟨inWorld, ofGroup, contacted⟩ := contacting
    rw [contacts_iff selfWf peerWf sameLayers.symm inWorld] at contacted
    exact contacted.symm selfWf peerWf inWorld ofGroup

end

end Targets

/-- A generation rank has a context rank among its targets if and only if it is among the targets of
that one. The targets are distinct, the layers shared with them are the own layers, and a context
rank waits for as many requests as there are generation ranks of the DP group that contact it. -/
theorem target_ranks_agree {context generation : CacheState} (contextWf : context.WellFormed)
    (generationWf : generation.WellFormed) (sameLayers : context.layerNum = generation.layerNum)
    {contextRank generationRank : Nat}
    (contextBound : contextRank < context.parallelConfig.worldSize)
    (contextGroup : context.parallelConfig.InDPGroup contextRank)
    (generationBound : generationRank < generation.parallelConfig.worldSize)
    (generationGroup : generation.parallelConfig.InDPGroup generationRank) :
    ∃ ofContext ofGeneration : TargetRanksInfo,
      SoundTargets generation context contextRank ofContext ∧
      SoundTargets context generation generationRank ofGeneration ∧
      (contextRank ∈ ofGeneration.iRanks ↔ generationRank ∈ ofContext.iRanks) ∧
      ofContext.iRanks.length =
        ((List.range generation.parallelConfig.worldSize).filter fun rank =>
          generation.parallelConfig.InDPGroup rank &&
            contacts context generation contextRank rank).length := by
  refine ⟨_, _, soundTargets generationWf contextWf sameLayers.symm contextBound,
    soundTargets contextWf generationWf sameLayers generationBound, ?_, ?_⟩
  · rw [mem_iRanks_iff contextWf generationWf, mem_iRanks_iff generationWf contextWf]
    constructor
    · intro shared
      exact shared.symm contextWf generationWf generationBound generationGroup
    · intro shared
      exact shared.symm generationWf contextWf contextBound contextGroup
  · exact (iRanks_perm_contacts generationWf contextWf sameLayers.symm contextBound
      contextGroup).length_eq

/-- A context executor with two pipeline ranks of three and one layers and two
tensor-parallel ranks. -/
def unevenContext : CacheState where
  modelConfig := ⟨[4, 4, 4, 4], 8, 2⟩
  parallelConfig := ⟨2, 2, 1, false, 0, 0, [3, 1]⟩
  dataType := .half
  attentionType := .default
  kvFactor := 2

/-- A generation executor with two pipeline ranks of two layers each and two DP
groups of four tensor-parallel ranks, seen from the second group. -/
def groupedGeneration : CacheState where
  modelConfig := ⟨[2, 2, 2, 2], 8, 2⟩
  parallelConfig := ⟨8, 2, 1, true, 1, 2, [2, 2]⟩
  dataType := .half
  attentionType := .default
  kvFactor := 2

theorem unevenContext_wellFormed : unevenContext.WellFormed where
  layers_length := rfl
  layers_pos := by decide
  tp_power := ⟨1, rfl⟩
  cp_power := ⟨0, rfl⟩
  groups := by decide
  heads_pos := by decide

theorem groupedGeneration_wellFormed : groupedGeneration.WellFormed where
  layers_length := rfl
  layers_pos := by decide
  tp_power := ⟨2, rfl⟩
  cp_power := ⟨0, rfl⟩
  groups := by decide
  heads_pos := by decide

theorem uneven_grouped_agree :
    (targetRanksInfo groupedGeneration unevenContext 1).iRanks = [6, 14, 7, 15] ∧
      ∃ ofContext ofGeneration : TargetRanksInfo,
        SoundTargets groupedGeneration unevenContext 1 ofContext ∧
        SoundTargets unevenContext groupedGeneration 14 ofGeneration ∧
        (1 ∈ ofGeneration.iRanks ↔ 14 ∈ ofContext.iRanks) ∧
        ofContext.iRanks.length =
          ((List.range groupedGeneration.parallelConfig.worldSize).filter fun rank =>
            groupedGeneration.parallelConfig.InDPGroup rank &&
              contacts unevenContext groupedGeneration 1 rank).length :=
  ⟨by decide, target_ranks_agree unevenContext_wellFormed groupedGeneration_wellFormed rfl
    (by decide) (by decide) (by decide) (by decide)⟩

end TrtLlm
