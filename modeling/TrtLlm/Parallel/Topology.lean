import Mathlib.Data.Fintype.EquivFin
import TrtLlm.Parallel.Mapping

/-! # The groups of the ranks

Every list of groups that `Mapping` computes divides the world, and holds each rank at the index
of its coordinate. The groups of `WorldConfig` are the same.
-/

namespace TrtLlm

open List

namespace Parallel

open Mapping

/-- What holds of a mapping once it is constructed. -/
structure WellFormed (mapping : Mapping) : Prop where
  tpPos : 0 < mapping.tpSize
  ppPos : 0 < mapping.ppSize
  cpPos : 0 < mapping.cpSize
  world : mapping.worldSize = mapping.ppSize * (mapping.tpSize * mapping.cpSize)
  grouped : mapping.initParallelGroups = mapping
  moeWorld : mapping.moeTpClusterEpSize =
    mapping.moeTpSize * (mapping.moeClusterSize * mapping.moeEpSize)
  moeTp : mapping.cpSize = 1 → mapping.moeTpClusterEpSize = mapping.tpSize
  clusters : mapping.moeClusterSize ≤ 1 ∨ mapping.moeEpSize = 1

/-- The constructor checks the products. -/
theorem wellFormed_of_init {args : MappingArgs} {map : Mapping}
    (created : Mapping.init args = .ok map) (tpPos : 0 < args.tpSize)
    (ppPos : 0 < args.ppSize) (cpPos : 0 < args.cpSize) : WellFormed map := by
  unfold Mapping.init at created
  simp only [Except.bind_eq_ok, Except.pure_eq_ok, raiseIf_eq_ok, not_not, not_and, exists_const,
    Prod.exists] at created
  obtain ⟨moeTpSize, moeEpSize, _, attnTpSize, attnCpSize, _, _, world, moeWorld, _, _,
      clusters, _, _,
    rfl⟩ := created
  refine ⟨tpPos, ppPos, cpPos, ?_, rfl, ?_, ?_, ?_⟩
  · change args.worldSize = args.ppSize * (args.tpSize * args.cpSize)
    rw [← world, Nat.mul_comm args.tpSize, Nat.mul_assoc]
  · change moeTpSize * moeEpSize * args.moeClusterSize.getD 1 = _
    rw [Nat.mul_assoc, Nat.mul_comm moeEpSize]
    rfl
  · intro single
    change args.cpSize = 1 at single
    rw [single, Nat.mul_one, ite_self] at moeWorld
    exact moeWorld
  · change args.moeClusterSize.getD 1 ≤ 1 ∨ moeEpSize = 1
    rcases Nat.lt_or_ge 1 (args.moeClusterSize.getD 1) with several | one
    · exact .inr (clusters several)
    · exact .inl one

/-- The groups divide the world, and hold each rank at the index of its coordinate. -/
structure Divides (mapping : Mapping) (groups : List (List Nat))
    (group : Mapping → Option (List Nat)) (coordinate : Mapping → Nat) : Prop where
  partition : groups.flatten.Perm (List.range mapping.worldSize)
  holds : ∀ rank < mapping.worldSize, ∃ members, group (mapping.onRank rank) = some members ∧
    members ∈ groups ∧ members[coordinate (mapping.onRank rank)]? = some rank

/-- Groups of a grid that are found by the other coordinates. -/
theorem Divides.of_grid {map : Mapping} {groups : List (List Nat)}
    {group : Mapping → Option (List Nat)} {coordinate : Mapping → Nat} {outer count step : Nat}
    (isGrid : groups = Grid.groups outer count step)
    (world : map.worldSize = outer * (count * step)) (found : ∀ rank < map.worldSize,
      group (map.onRank rank) = some (Grid.group count step rank)) (idx : ∀ rank < map.worldSize,
      coordinate (map.onRank rank) = rank % (count * step) / step) :
    Divides map groups group coordinate := by
  subst isGrid
  refine ⟨?_, fun rank lt => ⟨Grid.group count step rank, found rank lt, ?_, ?_⟩⟩
  · rw [world]
    exact Grid.flatten_groups_perm outer count step
  · exact mem_of_getElem? (Grid.getElem?_groups (world ▸ lt))
  · rw [idx rank lt]
    exact Grid.getElem?_group (world ▸ lt)

namespace WellFormed

variable {map : Mapping} (wf : WellFormed map)
include wf

/-- Pipeline groups have one rank per stage. -/
theorem ppGroups_eq : map.ppGroups = Grid.groups 1 map.ppSize (map.tpSize * map.cpSize) := by
  refine (congrArg Mapping.ppGroups wf.grouped).symm.trans ?_
  simp only [initParallelGroups, Grid.groups, range_one, flatMap_singleton, Nat.zero_mul,
    Nat.zero_add, wf.world]
  refine map_congr_left fun i lt => ?_
  have lt := mem_range.mp lt
  refine Grid.stride_eq (by omega) (by omega)

/-- Context groups are runs of consecutive ranks. -/
theorem cpGroups_eq : map.cpGroups = Grid.groups (map.ppSize * map.tpSize) map.cpSize 1 := by
  rw [Grid.groups_one]
  refine (congrArg Mapping.cpGroups wf.grouped).symm.trans ?_
  refine flatMap_congr fun i _ => map_congr_left fun j _ => ?_
  refine Grid.stride_eq ?_ ?_
  all_goals
    rw [Nat.succ_mul]
    omega

/-- Tensor groups skip over the context ranks. -/
theorem tpGroups_eq : map.tpGroups = Grid.groups map.ppSize map.tpSize map.cpSize := by
  refine (congrArg Mapping.tpGroups wf.grouped).symm.trans ?_
  have cpPos := wf.cpPos
  refine flatMap_congr fun i _ => map_congr_left fun j _ => ?_
  refine Grid.stride_eq ?_ ?_
  all_goals
    rw [Nat.succ_mul]
    omega

/-- The group that a rank finds is its row of the grid. -/
theorem tpGroup_onRank {rank : Nat} (lt : rank < map.worldSize) :
    (map.onRank rank).tpGroup = some (Grid.group map.tpSize map.cpSize rank) := by
  rw [← Grid.getElem?_groups (wf.world ▸ lt), ← wf.tpGroups_eq]
  rfl

theorem cpGroup_onRank {rank : Nat} (lt : rank < map.worldSize) :
    (map.onRank rank).cpGroup = some (Grid.group map.cpSize 1 rank) := by
  have lt : rank < map.ppSize * map.tpSize * (map.cpSize * 1) := by
    rw [Nat.mul_one, Nat.mul_assoc, ← wf.world]
    exact lt
  rw [← Grid.getElem?_groups lt, ← wf.cpGroups_eq, Nat.mul_one, Nat.mod_one, Nat.mul_one,
    Nat.add_zero, ← Grid.div_mul_add map.tpSize]
  rfl

theorem ppGroup_onRank {rank : Nat} (lt : rank < map.worldSize) : (map.onRank rank).ppGroup =
      some (Grid.group map.ppSize (map.tpSize * map.cpSize) rank) := by
  have inOne : rank < 1 * (map.ppSize * (map.tpSize * map.cpSize)) := by
    rw [Nat.one_mul, ← wf.world]
    exact lt
  rw [← Grid.getElem?_groups inOne, ← wf.ppGroups_eq, ← wf.world,
    Nat.div_eq_of_lt lt, Nat.zero_mul, Nat.zero_add,
    ← Nat.div_add_mod' (rank % (map.tpSize * map.cpSize)) map.cpSize,
    Nat.mod_mul_left_mod]
  rfl

/-- Tensor groups divide the ranks. -/
theorem tpDivides : Divides map map.tpGroups tpGroup tpRank :=
  .of_grid wf.tpGroups_eq wf.world (fun _ => wf.tpGroup_onRank)
    fun _ _ => rfl

/-- Context groups divide the ranks. -/
theorem cpDivides : Divides map map.cpGroups cpGroup cpRank := by
  refine .of_grid wf.cpGroups_eq ?_ (fun _ => wf.cpGroup_onRank) fun rank _ => ?_
  · rw [wf.world, Nat.mul_one, Nat.mul_assoc]
  · rw [Nat.mul_one, Nat.div_one]
    rfl

/-- Pipeline groups divide the ranks. -/
theorem ppDivides : Divides map map.ppGroups ppGroup ppRank := by
  refine .of_grid wf.ppGroups_eq ?_ (fun _ => wf.ppGroup_onRank) fun rank lt => ?_
  · rw [wf.world, Nat.one_mul]
  · rw [← wf.world, Nat.mod_eq_of_lt lt]
    rfl

/-- The groups of the expert layers are rows of a finer grid. -/
theorem moeTpGroups_eq : map.moeTpGroups = Grid.groups map.ppSize map.moeTpSize
    (map.moeClusterSize * map.moeEpSize) := by
  refine (congrArg Mapping.moeTpGroups wf.grouped).symm.trans ?_
  refine flatMap_congr fun i _ => map_congr_left fun j lt => ?_
  have lt := mem_range.mp lt
  rw [wf.moeWorld]
  refine Grid.stride_eq ?_ ?_
  all_goals
    rw [Nat.succ_mul]
    omega

theorem moeClusterGroups_eq : map.moeClusterGroups = Grid.groups (map.ppSize * map.moeTpSize)
      (map.moeClusterSize * map.moeEpSize) 1 := by
  rw [Grid.groups_one]
  refine (congrArg Mapping.moeClusterGroups wf.grouped).symm.trans ?_
  refine flatMap_congr fun i _ => map_congr_left fun j _ => ?_
  rw [wf.moeWorld]
  refine Grid.stride_eq ?_ ?_
  all_goals
    rw [Nat.succ_mul]
    omega

theorem moeEpGroups_eq : map.moeEpGroups =
    Grid.groups (map.ppSize * (map.moeTpSize * map.moeClusterSize)) map.moeEpSize 1 := by
  rw [Grid.groups_one]
  refine (congrArg Mapping.moeEpGroups wf.grouped).symm.trans ?_
  refine flatMap_congr fun i _ => ?_
  rw [← flatMap_range_range, map_flatMap]
  refine flatMap_congr fun j _ => ?_
  rw [map_map]
  refine map_congr_left fun k _ => ?_
  rw [wf.moeWorld, Function.comp, Nat.add_mul (j * map.moeClusterSize),
    Nat.mul_assoc map.moeTpSize, Nat.mul_assoc j, ← Nat.add_assoc]
  refine Grid.stride_eq ?_ ?_
  all_goals
    rw [Nat.succ_mul]
    omega

section Experts

variable (single : map.cpSize = 1)
include single

/-- The expert sizes share the tensor and context ranks of a stage. -/
theorem tpSize_eq : map.tpSize * map.cpSize =
    map.moeTpSize * (map.moeClusterSize * map.moeEpSize) := by
  rw [single, Nat.mul_one, ← wf.moeTp single, wf.moeWorld]

/-- The finer grid has all ranks. -/
theorem moeWorldSize : map.worldSize =
    map.ppSize * (map.moeTpSize * (map.moeClusterSize * map.moeEpSize)) := by
  rw [wf.world, wf.tpSize_eq single]

theorem tpRank_onRank (rank : Nat) : (map.onRank rank).tpRank =
    rank % (map.moeTpSize * (map.moeClusterSize * map.moeEpSize)) := by
  rw [← wf.tpSize_eq single, tpRank, onRank]
  rw [single, Nat.div_one]

theorem ppRank_onRank (rank : Nat) : (map.onRank rank).ppRank =
    rank / (map.moeTpSize * (map.moeClusterSize * map.moeEpSize)) := by
  rw [← wf.tpSize_eq single]
  rfl

/-- One of the two coordinates inside a tensor-parallel rank of the experts is trivial. -/
theorem clusters_eq_one : map.moeClusterSize = 1 ∨ map.moeEpSize = 1 := by
  have pos := Nat.mul_pos wf.tpPos wf.cpPos
  rw [wf.tpSize_eq single] at pos
  have pos := Nat.pos_of_mul_pos_right (Nat.pos_of_mul_pos_left pos)
  exact wf.clusters.imp_left fun small => Nat.le_antisymm small pos

/-- Cluster and expert rank together number the ranks of a cluster group. -/
theorem clusterRank_mul_add (rank : Nat) :
    (map.onRank rank).moeClusterRank * map.moeEpSize + (map.onRank rank).moeEpRank =
      rank % (map.moeClusterSize * map.moeEpSize) := by
  change (map.onRank rank).tpRank % map.moeClusterSize * map.moeEpSize +
    (map.onRank rank).tpRank % map.moeEpSize = _
  rw [wf.tpRank_onRank single]
  rcases wf.clusters_eq_one single with one | one
  · rw [one, Nat.mod_one, Nat.zero_mul, Nat.zero_add, Nat.one_mul, Nat.mod_mul_left_mod]
  · rw [one, Nat.mod_one, Nat.mul_one, Nat.mul_one, Nat.add_zero, Nat.mod_mul_left_mod]

/-- Tensor groups of the expert layers divide the ranks. -/
theorem moeTpDivides : Divides map map.moeTpGroups moeTpGroup moeTpRank := by
  refine .of_grid wf.moeTpGroups_eq (wf.moeWorldSize single) (fun rank lt => ?_) fun rank _ => ?_
  · rw [← Grid.getElem?_groups (wf.moeWorldSize single ▸ lt),
      ← wf.moeTpGroups_eq, ← wf.clusterRank_mul_add single rank,
      ← wf.ppRank_onRank single, ← Nat.add_assoc, ← Nat.mul_assoc]
    rfl
  · rw [← wf.tpRank_onRank single, Nat.mul_comm map.moeClusterSize]
    rfl

/-- So do the cluster groups, for cluster and expert rank together, -/
theorem moeClusterDivides : Divides map map.moeClusterGroups moeClusterGroup
    fun map => map.moeClusterRank * map.moeEpSize + map.moeEpRank := by
  have world : map.worldSize = map.ppSize * map.moeTpSize *
      (map.moeClusterSize * map.moeEpSize * 1) := by
    rw [wf.moeWorldSize single, Nat.mul_one, Nat.mul_assoc]
  refine .of_grid wf.moeClusterGroups_eq world (fun rank lt => ?_) fun rank _ => ?_
  · rw [← Grid.getElem?_groups (world ▸ lt), ← wf.moeClusterGroups_eq, Nat.mul_one,
      Nat.mod_one, Nat.mul_one, Nat.add_zero, ← Grid.div_mul_add map.moeTpSize,
      ← wf.ppRank_onRank single, ← wf.tpRank_onRank single,
      Nat.mul_comm map.moeClusterSize]
    rfl
  · rw [Nat.mul_one, Nat.div_one]
    exact wf.clusterRank_mul_add single rank

/-- and the expert groups. -/
theorem moeEpDivides : Divides map map.moeEpGroups moeEpGroup moeEpRank := by
  have world : map.worldSize = map.ppSize * (map.moeTpSize * map.moeClusterSize) *
      (map.moeEpSize * 1) := by
    rw [wf.moeWorldSize single, Nat.mul_one, Nat.mul_assoc, Nat.mul_assoc]
  refine .of_grid wf.moeEpGroups_eq world (fun rank lt => ?_) fun rank _ => ?_
  · have stage : (map.onRank rank).ppRank * map.moeTpSize + (map.onRank rank).moeTpRank =
        rank / (map.moeClusterSize * map.moeEpSize) := by
      rw [← Grid.div_mul_add map.moeTpSize, ← wf.ppRank_onRank single,
        ← wf.tpRank_onRank single, Nat.mul_comm map.moeClusterSize]
      rfl
    have idx : (map.onRank rank).ppRank * map.moeTpSize * map.moeClusterSize +
        (map.onRank rank).moeTpRank * map.moeClusterSize +
          (map.onRank rank).moeClusterRank = rank / map.moeEpSize := by
      rw [← Nat.add_mul, stage]
      change _ + (map.onRank rank).tpRank % map.moeClusterSize = _
      rw [wf.tpRank_onRank single]
      rcases wf.clusters_eq_one single with one | one
      · rw [one, Nat.mod_one, Nat.mul_one, Nat.one_mul, Nat.add_zero]
      · rw [one, Nat.mul_one, Nat.mod_mul_left_mod, Nat.div_add_mod', Nat.div_one]
    rw [← Grid.getElem?_groups (world ▸ lt), ← wf.moeEpGroups_eq, Nat.mul_one,
      Nat.mod_one, Nat.mul_one, Nat.add_zero, ← idx]
    rfl
  · rw [Nat.mul_one, Nat.div_one]
    change (map.onRank rank).tpRank % map.moeEpSize = _
    rw [wf.tpRank_onRank single, ← Nat.mul_assoc, Nat.mod_mul_left_mod]

end Experts

end WellFormed

/-! ## Agreement -/

/-- The configurations of the same world and rank in the runtime and in the cache transfer. -/
structure SameWorld (mapping : Mapping) (world : WorldConfig) (config : ParallelConfig) : Prop where
  worldSizes : world.tensorParallelism = mapping.tpSize ∧
    world.pipelineParallelism = mapping.ppSize ∧ world.contextParallelism = mapping.cpSize
  worldRank : world.rank = mapping.rank
  configSizes : config.tensorParallelism = mapping.tpSize ∧
    config.pipelineParallelism = mapping.ppSize ∧ config.contextParallelism = mapping.cpSize

/-- The coordinates of the ranks of a world. -/
structure CoordinatesAgree (mapping : Mapping) : Prop where
  agree : ∀ rank world config, SameWorld (mapping.onRank rank) world config →
    world.getPipelineParallelRank = (mapping.onRank rank).ppRank ∧
      world.getTensorParallelRank = (mapping.onRank rank).tpRank ∧
      world.getContextParallelRank = (mapping.onRank rank).cpRank ∧
      config.ppRank rank = (mapping.onRank rank).ppRank ∧
      config.tpRank rank = (mapping.onRank rank).tpRank ∧
      config.cpRank rank = (mapping.onRank rank).cpRank
  bijective : Set.BijOn (fun rank => ((mapping.onRank rank).ppRank, (mapping.onRank rank).tpRank,
      (mapping.onRank rank).cpRank)) {rank | rank < mapping.worldSize}
    {place | place.1 < mapping.ppSize ∧ place.2.1 < mapping.tpSize ∧ place.2.2 < mapping.cpSize}

/-- The groups of the ranks of a world. -/
structure GroupsAgree (mapping : Mapping) : Prop where
  tp : Divides mapping mapping.tpGroups tpGroup tpRank
  pp : Divides mapping mapping.ppGroups ppGroup ppRank
  cp : Divides mapping mapping.cpGroups cpGroup cpRank
  agree : ∀ rank < mapping.worldSize, ∀ world config, SameWorld (mapping.onRank rank) world config →
    (mapping.onRank rank).tpGroup = some world.getTensorParallelGroup ∧
      (mapping.onRank rank).ppGroup = some world.getPipelineParallelGroup ∧
      (mapping.onRank rank).cpGroup = some world.getContextParallelGroup

section Neighbours

variable {map : Mapping} {rank : Nat}

/-- The last context rank goes on with the first of its group, -/
theorem nextCpRank_of_last (last : rank % map.cpSize + 1 = map.cpSize) :
    (map.onRank rank).nextCpRank = (rank : Int) - map.cpSize + 1 := by
  have isLast : ((rank % map.cpSize : Nat) : Int) = map.cpSize - 1 := by omega
  exact if_pos isLast

/-- every other one with its neighbour. -/
theorem nextCpRank_of_not_last (notLast : rank % map.cpSize + 1 ≠ map.cpSize) :
    (map.onRank rank).nextCpRank = (rank : Int) + 1 := by
  have isNotLast : ((rank % map.cpSize : Nat) : Int) ≠ map.cpSize - 1 := by omega
  exact if_neg isNotLast

/-- The first goes back to the last, -/
theorem prevCpRank_of_first (first : rank % map.cpSize = 0) :
    (map.onRank rank).prevCpRank = (rank : Int) + map.cpSize - 1 :=
  if_pos first

/-- every other one to its neighbour. -/
theorem prevCpRank_of_not_first (notFirst : rank % map.cpSize ≠ 0) :
    (map.onRank rank).prevCpRank = (rank : Int) - 1 :=
  if_neg notFirst

end Neighbours

/-- Two functions from ranks to ranks that undo each other. -/
def Inverse (mapping : Mapping) (next prev : Mapping → Int) : Prop :=
  ∀ rank < mapping.worldSize, ∃ other < mapping.worldSize,
    next (mapping.onRank rank) = (other : Nat) ∧ prev (mapping.onRank other) = rank

/-- On the ranks of a world an inverse on one side is one on both sides. -/
theorem Inverse.symm {map : Mapping} {next prev : Mapping → Int} (inverse : Inverse map next prev) :
    Inverse map prev next := by
  choose other lt isNext isPrev using inverse
  let move : Fin map.worldSize → Fin map.worldSize := fun rank =>
    ⟨other rank rank.isLt, lt rank rank.isLt⟩
  have injective : Function.Injective move := by
    intro first second same
    have isFirst := isPrev first first.isLt
    rw [show other first first.isLt = other second second.isLt from congrArg Fin.val same,
      isPrev second second.isLt] at isFirst
    exact Fin.ext (Int.ofNat_inj.mp isFirst.symm)
  intro rank bound
  obtain ⟨before, reaches⟩ := Finite.surjective_of_injective injective ⟨rank, bound⟩
  obtain rfl : other before before.isLt = rank := congrArg Fin.val reaches
  exact ⟨before, before.isLt, isPrev before before.isLt, isNext before before.isLt⟩

namespace WellFormed

variable {map : Mapping} (wf : WellFormed map)
include wf

/-- The runtime, the configurations and the mapping compute the same ranks, -/
theorem coordinatesAgree : CoordinatesAgree map := by
  refine ⟨fun rank world cfg same => ?_, ?_⟩
  · obtain ⟨⟨worldTp, _, worldCp⟩, worldRank, configTp, _, configCp⟩ := same
    unfold WorldConfig.getPipelineParallelRank WorldConfig.getTensorParallelRank
      WorldConfig.getContextParallelRank ParallelConfig.ppRank ParallelConfig.tpRank
      ParallelConfig.cpRank
    rw [worldTp, worldCp, worldRank, configTp, configCp]
    exact ⟨rfl, rfl, rfl, rfl, rfl, rfl⟩
  · rw [wf.world]
    exact Grid.coordinates_bijOn wf.tpPos wf.cpPos

/-- and the same groups. -/
theorem groupsAgree : GroupsAgree map := by
  refine ⟨wf.tpDivides, wf.ppDivides, wf.cpDivides, fun rank lt world cfg same => ?_⟩
  obtain ⟨⟨tp, pp, cp⟩, isRank, _⟩ := same
  change world.rank = rank at isRank
  change world.tensorParallelism = map.tpSize at tp
  change world.pipelineParallelism = map.ppSize at pp
  change world.contextParallelism = map.cpSize at cp
  have outerDigit := Nat.div_add_mod' rank (map.tpSize * map.cpSize)
  have innerDigit := Nat.div_add_mod' (rank % (map.tpSize * map.cpSize)) map.cpSize
  rw [Nat.mod_mul_left_mod] at innerDigit
  refine ⟨?_, ?_, ?_⟩
  · rw [wf.tpGroup_onRank lt, WorldConfig.getTensorParallelGroup,
      WorldConfig.getTensorParallelRank, Grid.group, tp, cp, isRank, Option.some_inj]
    refine map_congr_left fun idx _ => ?_
    rw [Nat.mul_comm idx]
    omega
  · have size : map.tpSize * map.ppSize * map.cpSize = map.worldSize := by
      rw [wf.world, Nat.mul_comm map.tpSize, Nat.mul_assoc]
    have low := Nat.mod_lt rank (Nat.mul_pos wf.tpPos wf.cpPos)
    have world := wf.world
    rw [wf.ppGroup_onRank lt, WorldConfig.getPipelineParallelGroup, WorldConfig.getSize,
      WorldConfig.getTensorParallelRank, WorldConfig.getContextParallelRank, tp, pp, cp, isRank,
      innerDigit, size, Grid.group, ← wf.world, Nat.div_eq_of_lt lt, Nat.zero_mul,
      Nat.zero_add, Option.some_inj]
    exact (Grid.stride_eq (by omega) (by omega)).symm
  · rw [wf.cpGroup_onRank lt, WorldConfig.getContextParallelGroup,
      WorldConfig.getContextParallelRank, Grid.group, cp, isRank, Option.some_inj]
    refine map_congr_left fun idx _ => ?_
    have digits := Nat.div_add_mod' rank map.cpSize
    rw [Nat.mul_one, Nat.mod_one, Nat.one_mul]
    omega

/-- Going to the next stage and back gives the same rank. -/
theorem ppInverse : Inverse map nextPpRank prevPpRank ∧ Inverse map prevPpRank nextPpRank := by
  have stage : map.tpSize * map.cpSize ≤ map.worldSize := by
    rw [wf.world]
    exact Nat.le_mul_of_pos_left _ wf.ppPos
  suffices inverse : Inverse map nextPpRank prevPpRank from ⟨inverse, inverse.symm⟩
  intro rank lt
  refine ⟨if map.worldSize ≤ rank + map.tpSize * map.cpSize then
    rank + map.tpSize * map.cpSize - map.worldSize
    else rank + map.tpSize * map.cpSize, ?_, ?_, ?_⟩
  · split <;> omega
  · unfold nextPpRank onRank
    dsimp only
    split <;> split <;> omega
  · unfold prevPpRank onRank
    dsimp only
    split <;> split <;> omega

/-- So does going around the context ranks. -/
theorem cpInverse : Inverse map nextCpRank prevCpRank ∧ Inverse map prevCpRank nextCpRank := by
  suffices inverse : Inverse map nextCpRank prevCpRank from ⟨inverse, inverse.symm⟩
  have cpPos := wf.cpPos
  intro rank lt
  -- a rank is a number of whole context groups and a coordinate in the last one
  obtain ⟨groups, coordinate, isCoordinate, rfl, whole⟩ : ∃ groups coordinate,
      coordinate < map.cpSize ∧ rank = map.cpSize * groups + coordinate ∧
        map.cpSize * groups + map.cpSize ≤ map.worldSize := by
    rw [wf.world, ← Nat.mul_assoc] at lt ⊢
    have whole := Nat.mul_le_mul_left map.cpSize
      (Nat.succ_le_of_lt ((Nat.div_lt_iff_lt_mul cpPos).mpr lt))
    refine ⟨rank / map.cpSize, rank % map.cpSize, Nat.mod_lt _ cpPos,
      (Nat.div_add_mod _ _).symm, ?_⟩
    rw [Nat.mul_comm (map.ppSize * map.tpSize), ← Nat.mul_succ]
    exact whole
  have isCpRank : ∀ {coordinate}, coordinate < map.cpSize →
      (map.cpSize * groups + coordinate) % map.cpSize = coordinate := by
    intro coordinate lt
    rw [Nat.mul_add_mod, Nat.mod_eq_of_lt lt]
  by_cases last : coordinate + 1 = map.cpSize
  · refine ⟨map.cpSize * groups + 0, by omega, ?_, ?_⟩
    · rw [nextCpRank_of_last ((isCpRank isCoordinate).symm ▸ last)]
      omega
    · rw [prevCpRank_of_first (isCpRank cpPos)]
      omega
  · have more : coordinate + 1 < map.cpSize := by omega
    refine ⟨map.cpSize * groups + (coordinate + 1), by omega, ?_, ?_⟩
    · rw [nextCpRank_of_not_last (by rw [isCpRank isCoordinate]; exact last)]
      omega
    · rw [prevCpRank_of_not_first (by rw [isCpRank more]; exact Nat.succ_ne_zero _)]
      omega

end WellFormed

end Parallel

end TrtLlm
