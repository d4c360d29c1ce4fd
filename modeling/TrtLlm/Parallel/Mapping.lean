import TrtLlm.Lib.Grid
import TrtLlm.Lib.Run
import TrtLlm.Transfer.TargetRanks

/-! # The layout of the ranks

The ranks of a world are the points of a grid with a pipeline, a tensor and a context coordinate.
`Mapping` in Python, `WorldConfig` and `TargetRanksInfoForDP` compute coordinates and groups on
their own, and get the same. The groups of the experts divide a pipeline stage once more.
-/

namespace TrtLlm

namespace Parallel

/-! ## Mapping -/

inductive CpType where
  | ulysses | star | ring | helix
  deriving DecidableEq, Repr

/-- Why `Mapping` raises. -/
inductive MappingFailure where
  /-- "attn_cp_size must be 1 for now for ulysses, but got {attn_tp_size}, {attn_cp_size}." -/
  | attnCpSize
  /-- "world_size must equal to tp_size * pp_size * cp_size, but got …" -/
  | worldSize
  /-- "moe_tp_size * moe_ep_size * moe_cluster_size must equal to moe_world_size, but got …" -/
  | moeWorldSize
  /-- "tp_size * cp_size must equal to attn_tp_size * attn_cp_size, but got …" -/
  | attnSize
  /-- "CP {cp_type} doesn't support MoE tp/ep yet" -/
  | notImplemented
  | assertion
  /-- "Rank should be an integer between 0 and {self.world_size-1}, but got {rank}." -/
  | rank
  | zeroDivision
  /-- "{len(self.pp_partition)=} does not match {self.pp_size=}." -/
  | partitionLength
  /-- "{sum(self.pp_partition)=} does not match {num_layers=}." -/
  | partitionSum
  /-- "{layer_idx=} is out of range for {num_layers=}." -/
  | layerIdx
  /-- "Unreachable: invalid pp_partition." -/
  | unreachable
  | indexError
  deriving DecidableEq, Repr

/-- The arguments of `Mapping`, without those for nodes. No size stands for -1. -/
structure MappingArgs where
  worldSize : Nat := 1
  rank : Nat := 0
  cpSize : Nat := 1
  cpType : CpType := .ulysses
  tpSize : Nat := 1
  ppSize : Nat := 1
  ppPartition : Option (List Nat) := none
  moeClusterSize : Option Nat := none
  moeTpSize : Option Nat := none
  moeEpSize : Option Nat := none
  attnTpSize : Option Nat := none
  attnCpSize : Option Nat := none
  enableAttentionDp : Bool := false
  enableLmHeadTpInAdp : Bool := false

/-- `MpiTopology` -/
structure Mapping where
  worldSize : Nat
  rank : Nat
  cpSize : Nat
  tpSize : Nat
  ppSize : Nat
  ppPartition : Option (List Nat)
  moeClusterSize : Nat
  moeTpSize : Nat
  moeEpSize : Nat
  moeTpClusterEpSize : Nat
  ppGroups : List (List Nat) := []
  cpGroups : List (List Nat) := []
  tpGroups : List (List Nat) := []
  moeTpGroups : List (List Nat) := []
  moeClusterGroups : List (List Nat) := []
  moeEpGroups : List (List Nat) := []

/-- `if condition: raise failure` -/
def raiseIf (condition : Prop) [Decidable condition] (failure : MappingFailure) :
    Except MappingFailure Unit :=
  if condition then .error failure else .ok ()

theorem raiseIf_eq_ok {condition : Prop} [Decidable condition] {failure : MappingFailure}
    {res : Unit} : raiseIf condition failure = .ok res ↔ ¬condition := by
  unfold raiseIf
  split
  · rename_i holds
    exact ⟨fun raised => (nomatch raised), fun fails => absurd holds fails⟩
  · rename_i fails
    exact ⟨fun _ => fails, fun _ => rfl⟩

theorem raiseIf_of_not {condition : Prop} [Decidable condition] (fails : ¬condition)
    (failure : MappingFailure) : raiseIf condition failure = .ok () :=
  if_neg fails

/-- `a // b` -/
def floorDiv (dividend divisor : Nat) : Except MappingFailure Nat :=
  if divisor = 0 then .error .zeroDivision else .ok (dividend / divisor)

/-- The default values of the sizes of the expert groups. -/
def moeSizes (moeWorldSize moeClusterSize : Nat) :
    Option Nat → Option Nat → Except MappingFailure (Nat × Nat)
  | none, none => do pure (← floorDiv moeWorldSize moeClusterSize, 1)
  | none, some moeEpSize => do
      pure (← floorDiv moeWorldSize (moeEpSize * moeClusterSize), moeEpSize)
  | some moeTpSize, none => do
      pure (moeTpSize, ← floorDiv moeWorldSize (moeTpSize * moeClusterSize))
  | some moeTpSize, some moeEpSize => .ok (moeTpSize, moeEpSize)

/-- The default values of the sizes of the attention groups. -/
def attnSizes (cpType : CpType) (tpSize cpSize : Nat) :
    Option Nat → Option Nat → Except MappingFailure (Nat × Nat)
  | none, none => if cpType = .ulysses then .ok (tpSize * cpSize, 1) else .ok (tpSize, cpSize)
  | none, some attnCpSize => do pure (← floorDiv (tpSize * cpSize) attnCpSize, attnCpSize)
  | some attnTpSize, none => do pure (attnTpSize, ← floorDiv (tpSize * cpSize) attnTpSize)
  | some attnTpSize, some attnCpSize => .ok (attnTpSize, attnCpSize)

namespace Mapping

/-- `_init_parallel_groups` -/
def initParallelGroups (mapping : Mapping) : Mapping :=
  let tpCpSize := mapping.tpSize * mapping.cpSize
  let moeClusterEpSize := mapping.moeClusterSize * mapping.moeEpSize
  let cpSize := mapping.cpSize
  let moeEpSize := mapping.moeEpSize
  let moeTpClusterEpSize := mapping.moeTpClusterEpSize
  { mapping with
    ppGroups := (List.range tpCpSize).map fun i => Grid.stride i mapping.worldSize tpCpSize
    cpGroups := (List.range mapping.ppSize).flatMap fun i =>
      (List.range mapping.tpSize).map fun j =>
        Grid.stride (i * tpCpSize + j * cpSize) (i * tpCpSize + (j + 1) * cpSize) 1
    tpGroups := (List.range mapping.ppSize).flatMap fun i => (List.range cpSize).map fun j =>
      Grid.stride (i * tpCpSize + j) ((i + 1) * tpCpSize + j) cpSize
    moeTpGroups := (List.range mapping.ppSize).flatMap fun i =>
      (List.range moeClusterEpSize).map fun j =>
        Grid.stride (i * moeTpClusterEpSize + j) ((i + 1) * moeTpClusterEpSize) moeClusterEpSize
    moeClusterGroups := (List.range mapping.ppSize).flatMap fun i =>
      (List.range mapping.moeTpSize).map fun j =>
        Grid.stride (i * moeTpClusterEpSize + j * moeClusterEpSize)
          (i * moeTpClusterEpSize + (j + 1) * moeClusterEpSize) 1
    moeEpGroups := (List.range mapping.ppSize).flatMap fun i =>
      (List.range mapping.moeTpSize).flatMap fun j =>
        (List.range mapping.moeClusterSize).map fun k =>
          Grid.stride (i * moeTpClusterEpSize + j * moeClusterEpSize + k * moeEpSize)
            (i * moeTpClusterEpSize + j * moeClusterEpSize + (k + 1) * moeEpSize) 1 }

/-- `Mapping.__init__` -/
def init (args : MappingArgs) : Except MappingFailure Mapping := do
  let moeClusterSize := args.moeClusterSize.getD 1
  let moeWorldSize := if args.cpType = .ulysses then args.tpSize else args.tpSize * args.cpSize
  let (moeTpSize, moeEpSize) ← moeSizes moeWorldSize moeClusterSize args.moeTpSize args.moeEpSize
  let (attnTpSize, attnCpSize) ←
    attnSizes args.cpType args.tpSize args.cpSize args.attnTpSize args.attnCpSize
  raiseIf (attnCpSize ≠ 1 ∧ args.cpType = .ulysses) .attnCpSize
  raiseIf (args.tpSize * args.ppSize * args.cpSize ≠ args.worldSize) .worldSize
  let moeTpClusterEpSize := moeTpSize * moeEpSize * moeClusterSize
  raiseIf (moeTpClusterEpSize ≠ moeWorldSize) .moeWorldSize
  raiseIf (attnTpSize * attnCpSize ≠ args.tpSize * args.cpSize) .attnSize
  raiseIf (moeEpSize ≠ 1 ∧ args.cpSize > 1 ∧ args.cpType ≠ .helix) .notImplemented
  raiseIf (moeClusterSize > 1 ∧ moeEpSize ≠ 1) .assertion
  raiseIf (args.enableLmHeadTpInAdp ∧ ¬args.enableAttentionDp) .assertion
  raiseIf (¬args.enableAttentionDp ∧ args.worldSize ≤ args.rank) .rank
  pure (initParallelGroups
    { worldSize := args.worldSize
      rank := args.rank
      cpSize := args.cpSize
      tpSize := args.tpSize
      ppSize := args.ppSize
      ppPartition := args.ppPartition
      moeClusterSize := moeClusterSize
      moeTpSize := moeTpSize
      moeEpSize := moeEpSize
      moeTpClusterEpSize := moeTpClusterEpSize })

variable (mapping : Mapping)

def tpRank : Nat := mapping.rank % (mapping.tpSize * mapping.cpSize) / mapping.cpSize

def ppRank : Nat := mapping.rank / (mapping.tpSize * mapping.cpSize)

def cpRank : Nat := mapping.rank % mapping.cpSize

def moeTpRank : Nat := mapping.tpRank / (mapping.moeEpSize * mapping.moeClusterSize)

def moeClusterRank : Nat := mapping.tpRank % mapping.moeClusterSize

def moeEpRank : Nat := mapping.tpRank % mapping.moeEpSize

def tpGroup : Option (List Nat) :=
  mapping.tpGroups[mapping.ppRank * mapping.cpSize + mapping.cpRank]?

def ppGroup : Option (List Nat) :=
  mapping.ppGroups[mapping.tpRank * mapping.cpSize + mapping.cpRank]?

def cpGroup : Option (List Nat) :=
  mapping.cpGroups[mapping.ppRank * mapping.tpSize + mapping.tpRank]?

def moeTpGroup : Option (List Nat) :=
  mapping.moeTpGroups[mapping.ppRank * mapping.moeClusterSize * mapping.moeEpSize +
    mapping.moeClusterRank * mapping.moeEpSize + mapping.moeEpRank]?

def moeEpGroup : Option (List Nat) :=
  mapping.moeEpGroups[mapping.ppRank * mapping.moeTpSize * mapping.moeClusterSize +
    mapping.moeTpRank * mapping.moeClusterSize + mapping.moeClusterRank]?

def moeClusterGroup : Option (List Nat) :=
  mapping.moeClusterGroups[mapping.ppRank * mapping.moeTpSize + mapping.moeTpRank]?

def prevPpRank : Int :=
  let p : Int := mapping.rank - mapping.tpSize * mapping.cpSize
  if p < 0 then p + mapping.worldSize else p

def nextPpRank : Int :=
  let p : Int := mapping.rank + mapping.tpSize * mapping.cpSize
  if p ≥ mapping.worldSize then p - mapping.worldSize else p

def prevCpRank : Int :=
  if mapping.cpRank = 0 then mapping.rank + mapping.cpSize - 1 else mapping.rank - 1

def nextCpRank : Int :=
  if (mapping.cpRank : Int) = mapping.cpSize - 1 then mapping.rank - mapping.cpSize + 1
  else mapping.rank + 1

/-- The mapping of another rank of the same world. -/
def onRank (rank : Nat) : Mapping := { mapping with rank := rank }

end Mapping

/-! ## WorldConfig -/

/-- `WorldConfig`, without its devices. -/
structure WorldConfig where
  tensorParallelism : Nat
  pipelineParallelism : Nat
  contextParallelism : Nat
  rank : Nat

namespace WorldConfig

variable (world : WorldConfig)

def getSize : Nat :=
  world.tensorParallelism * world.pipelineParallelism * world.contextParallelism

def getPipelineParallelRank : Nat :=
  world.rank / (world.tensorParallelism * world.contextParallelism)

def getTensorParallelRank : Nat :=
  world.rank % (world.tensorParallelism * world.contextParallelism) / world.contextParallelism

def getContextParallelRank : Nat := world.rank % world.contextParallelism

def getPipelineParallelGroup : List Nat :=
  Grid.stride (world.getTensorParallelRank * world.contextParallelism +
    world.getContextParallelRank)
    world.getSize (world.tensorParallelism * world.contextParallelism)

def getTensorParallelGroup : List Nat :=
  (List.range world.tensorParallelism).map fun idx =>
    world.rank - world.getTensorParallelRank * world.contextParallelism +
      idx * world.contextParallelism

def getContextParallelGroup : List Nat :=
  (List.range world.contextParallelism).map fun idx =>
    world.rank - world.getContextParallelRank + idx

end WorldConfig

end Parallel

end TrtLlm
