import Mathlib.Data.List.SplitLengths
import TrtLlm.Parallel.Topology

/-! # The layers of the pipeline stages

The layers of a model are divided between the pipeline ranks, evenly or as a list of sizes says.
`pp_layers` cuts the list of all layers, `pp_rank_of_layer` computes the rank from a layer, and the
runtime computes the first layer and the number of layers of a rank.
-/

namespace Segments

variable {sizes : List Nat}

/-- A range that is cut into segments. -/
theorem getElem?_splitLengths_range' (first : Nat) {total : Nat} (enough : sizes.sum ≤ total)
    (idx : Nat) : (sizes.splitLengths (List.range' first total))[idx]? =
      sizes[idx]?.map (List.range' (first + start sizes idx)) := by
  induction sizes generalizing first total idx with
  | nil => rfl
  | cons size sizes ih =>
    rw [List.sum_cons] at enough
    rw [List.splitLengths_cons, List.take_range'_of_length_ge (by omega), List.drop_range']
    cases idx with
    | zero => rfl
    | succ idx =>
      have less : sizes.sum ≤ total - size := by omega
      rw [List.getElem?_cons_succ, ih _ less, List.getElem?_cons_succ, start, start,
        List.take_succ_cons, List.sum_cons, Nat.mul_one, Nat.add_assoc]

/-- A position lies in a segment. -/
def Owns (sizes : List Nat) (position index : Nat) : Prop :=
  start sizes index ≤ position ∧ position < start sizes (index + 1)

theorem Owns.lt_length {pos idx : Nat} (owns : Owns sizes pos idx) : idx < sizes.length := by
  by_contra beyond
  have first : start sizes idx = sizes.sum := start_of_length_le (Nat.not_lt.mp beyond)
  have last : start sizes (idx + 1) = sizes.sum := start_of_length_le (by omega)
  have := owns.1
  have := owns.2
  omega

end Segments

namespace TrtLlm

open List

namespace Parallel

/-- The sizes of the pieces of `torch.tensor_split`. -/
def tensorSplit (length sections : Nat) : List Nat :=
  (List.range sections).map fun index =>
    length / sections + if index < length % sections then 1 else 0

/-- The loop of `pp_rank_of_layer` over the sizes of the stages. -/
def rankOfLayer (layerIdx : Nat) : List Nat → Nat → Nat → Except MappingFailure Nat
  | [], _, _ => .error .unreachable
  | size :: sizes, ppRank, stop =>
    let stop := stop + size
    if layerIdx < stop then .ok ppRank else rankOfLayer layerIdx sizes (ppRank + 1) stop

namespace Mapping

variable (mapping : Mapping)

/-- The piece of the own pipeline rank. -/
def ownPiece (sizes : List Nat) (numLayers : Nat) : Except MappingFailure (List Nat) :=
  match (sizes.splitLengths (List.range numLayers))[mapping.ppRank]? with
  | none => .error .indexError
  | some layers => .ok layers

def ppLayers (numLayers : Nat) : Except MappingFailure (List Nat) :=
  match mapping.ppPartition with
  | some ppPartition => do
      raiseIf (ppPartition.length ≠ mapping.ppSize) .partitionLength
      raiseIf (ppPartition.sum ≠ numLayers) .partitionSum
      mapping.ownPiece ppPartition numLayers
  | none => mapping.ownPiece (tensorSplit numLayers mapping.ppSize) numLayers

def ppRankOfLayer (layerIdx numLayers : Nat) : Except MappingFailure Nat := do
  raiseIf (numLayers ≤ layerIdx) .layerIdx
  if ¬mapping.ppSize > 1 then .ok 0
  else match mapping.ppPartition with
    | some ppPartition => do
        raiseIf (ppPartition.length ≠ mapping.ppSize) .partitionLength
        raiseIf (ppPartition.sum ≠ numLayers) .partitionSum
        rankOfLayer layerIdx ppPartition 0 0
    | none =>
      let base := numLayers / mapping.ppSize
      let rem := numLayers % mapping.ppSize
      if base = 0 then .ok layerIdx
      else
        let cutoff := (base + 1) * rem
        if layerIdx < cutoff then .ok (layerIdx / (base + 1))
        else .ok (rem + (layerIdx - cutoff) / base)

end Mapping

/-- `ModelConfig` of the runtime, with the number of layers only. -/
structure ModelConfig where
  nbLayers : Nat

namespace ModelConfig

variable (config : ModelConfig) (pipelineParallelism pipelineParallelismRank : Nat)

def getFirstLocalLayer : Nat :=
  let numBaseLayers := config.nbLayers / pipelineParallelism
  let numExtraLayers := config.nbLayers % pipelineParallelism
  pipelineParallelismRank * numBaseLayers + min pipelineParallelismRank numExtraLayers

def getNbLayers : Nat :=
  let numBaseLayers := config.nbLayers / pipelineParallelism
  let numExtraLayers := config.nbLayers % pipelineParallelism
  numBaseLayers + if pipelineParallelismRank < numExtraLayers then 1 else 0

end ModelConfig

/-! ## Even shares -/

section TensorSplit

variable {numLayers ppSize : Nat}

theorem start_tensorSplit {ppRank : Nat} (isRank : ppRank ≤ ppSize) :
    Segments.start (tensorSplit numLayers ppSize) ppRank =
      ppRank * (numLayers / ppSize) + min ppRank (numLayers % ppSize) := by
  rw [Segments.start, tensorSplit, ← map_take, take_range, sum_evenly,
    Nat.min_eq_left isRank, Nat.min_comm]

theorem sum_tensorSplit (pos : 0 < ppSize) : (tensorSplit numLayers ppSize).sum = numLayers := by
  have remainder := Nat.mod_lt numLayers pos
  rw [tensorSplit, sum_evenly, Nat.min_eq_left (Nat.le_of_lt remainder), Nat.div_add_mod]

/-- The rank that `pp_rank_of_layer` computes from a layer. -/
theorem owns_tensorSplit {layerIdx : Nat} (pos : 0 < ppSize) (isLayer : layerIdx < numLayers) :
    Segments.Owns (tensorSplit numLayers ppSize) layerIdx (if numLayers / ppSize = 0 then layerIdx
      else if layerIdx < (numLayers / ppSize + 1) * (numLayers % ppSize) then
        layerIdx / (numLayers / ppSize + 1)
      else numLayers % ppSize +
        (layerIdx - (numLayers / ppSize + 1) * (numLayers % ppSize)) / (numLayers / ppSize)) := by
  have remainder := Nat.mod_lt numLayers pos
  have total := Nat.div_add_mod' numLayers ppSize
  have starts : ∀ ppRank < ppSize, ppRank * (numLayers / ppSize) + min ppRank (numLayers % ppSize) ≤
      layerIdx → layerIdx < (ppRank + 1) * (numLayers / ppSize) +
        min (ppRank + 1) (numLayers % ppSize) →
      Segments.Owns (tensorSplit numLayers ppSize) layerIdx ppRank := by
    intro ppRank isRank low high
    rw [Segments.Owns, start_tensorSplit (Nat.le_of_lt isRank), start_tensorSplit isRank]
    exact ⟨low, high⟩
  generalize numLayers / ppSize = base at *
  generalize numLayers % ppSize = rem at *
  split
  · rename_i none
    subst none
    refine starts layerIdx (by omega) ?_ ?_
    · rw [Nat.mul_zero]
      omega
    · rw [Nat.mul_zero]
      omega
  · rename_i some
    have basePos := Nat.pos_of_ne_zero some
    split
    · rename_i early
      have isEarly : layerIdx / (base + 1) < rem := Nat.div_lt_of_lt_mul early
      have low := Nat.div_mul_le_self layerIdx (base + 1)
      have high := Nat.lt_div_mul_add (a := layerIdx) (Nat.succ_pos base)
      refine starts _ (by omega) ?_ ?_
      · rw [Nat.min_eq_left (Nat.le_of_lt isEarly), ← Nat.mul_succ]
        exact low
      · rw [Nat.min_eq_left isEarly, ← Nat.mul_succ, Nat.succ_mul]
        exact high
    · rename_i late
      have cutoff : (base + 1) * rem = rem * base + rem := by
        rw [Nat.mul_comm, Nat.mul_succ]
      rw [cutoff] at late ⊢
      have low := Nat.div_mul_le_self (layerIdx - (rem * base + rem)) base
      have high := Nat.lt_div_mul_add (a := layerIdx - (rem * base + rem)) basePos
      have isLate : (layerIdx - (rem * base + rem)) / base < ppSize - rem := by
        refine Nat.div_lt_of_lt_mul ?_
        rw [Nat.mul_sub, Nat.mul_comm base rem]
        omega
      generalize (layerIdx - (rem * base + rem)) / base = quotient at *
      refine starts _ (by omega) ?_ ?_
      · rw [Nat.min_eq_right (Nat.le_add_right _ _), Nat.add_mul]
        omega
      · rw [Nat.min_eq_right (by omega), Nat.succ_mul, Nat.add_mul]
        omega

end TensorSplit

theorem rankOfLayer_eq {layerIdx : Nat} {sizes : List Nat} {idx stop : Nat} (ppRank : Nat)
    (low : stop + Segments.start sizes idx ≤ layerIdx)
    (high : layerIdx < stop + Segments.start sizes (idx + 1)) :
    rankOfLayer layerIdx sizes ppRank stop = .ok (ppRank + idx) := by
  induction sizes generalizing ppRank idx stop with
  | nil =>
    simp only [Segments.start, take_nil, sum_nil] at low high
    omega
  | cons size sizes ih =>
    have cons : ∀ idx, Segments.start (size :: sizes) (idx + 1) =
        size + Segments.start sizes idx := fun idx => by
      rw [Segments.start, take_succ_cons, sum_cons, Segments.start]
    unfold rankOfLayer
    cases idx with
    | zero =>
      exact if_pos high
    | succ idx =>
      rw [cons] at low high
      have later : ¬layerIdx < stop + size := by omega
      have low : stop + size + Segments.start sizes idx ≤ layerIdx := by omega
      have high : layerIdx < stop + size + Segments.start sizes (idx + 1) := by omega
      rw [if_neg later, ih (ppRank + 1) low high, Nat.add_assoc, Nat.add_comm 1]

/-- The sizes of the pipeline stages. -/
def stageSizes (mapping : Mapping) (numLayers : Nat) : List Nat :=
  mapping.ppPartition.getD (tensorSplit numLayers mapping.ppSize)

/-- An explicit partition has a size for each stage, and the sizes of all layers. -/
def Fits (mapping : Mapping) (numLayers : Nat) : Prop :=
  ∀ ppPartition, mapping.ppPartition = some ppPartition →
    ppPartition.length = mapping.ppSize ∧ ppPartition.sum = numLayers

section Layers

variable {mapping : Mapping} {numLayers : Nat}

theorem length_stageSizes (fits : Fits mapping numLayers) :
    (stageSizes mapping numLayers).length = mapping.ppSize := by
  unfold stageSizes
  cases isPartition : mapping.ppPartition with
  | none => simp [tensorSplit]
  | some ppPartition => exact (fits ppPartition isPartition).1

variable (wellFormed : WellFormed mapping) (fits : Fits mapping numLayers)
include wellFormed fits

theorem sum_stageSizes : (stageSizes mapping numLayers).sum = numLayers := by
  unfold stageSizes
  cases isPartition : mapping.ppPartition with
  | none => exact sum_tensorSplit wellFormed.ppPos
  | some ppPartition => exact (fits ppPartition isPartition).2

theorem ppLayers_eq {rank : Nat} (lt : rank < mapping.worldSize) :
    (mapping.onRank rank).ppLayers numLayers =
      .ok (List.range' (Segments.start (stageSizes mapping numLayers) (mapping.onRank rank).ppRank)
        ((stageSizes mapping numLayers).getD (mapping.onRank rank).ppRank 0)) := by
  have isRank : (mapping.onRank rank).ppRank < (stageSizes mapping numLayers).length := by
    rw [length_stageSizes fits]
    exact (wellFormed.coordinatesAgree.bijective.mapsTo lt).1
  have piece : (mapping.onRank rank).ownPiece (stageSizes mapping numLayers) numLayers =
      .ok (List.range' (Segments.start (stageSizes mapping numLayers) (mapping.onRank rank).ppRank)
        ((stageSizes mapping numLayers).getD (mapping.onRank rank).ppRank 0)) := by
    have enough := Nat.le_of_eq (sum_stageSizes wellFormed fits)
    rw [Mapping.ownPiece, range_eq_range', Segments.getElem?_splitLengths_range' 0 enough,
      getD_eq_getElem?_getD, getElem?_eq_getElem isRank, Nat.zero_add]
    rfl
  rw [← piece]
  unfold Mapping.ppLayers stageSizes
  change (match mapping.ppPartition with | some _ => _ | none => _) = _
  cases isPartition : mapping.ppPartition with
  | none => rfl
  | some ppPartition =>
    obtain ⟨length, sum⟩ := fits ppPartition isPartition
    have sameLength : ¬ppPartition.length ≠ (mapping.onRank rank).ppSize := not_not.mpr length
    dsimp only
    rw [raiseIf_of_not sameLength, raiseIf_of_not (not_not.mpr sum)]
    rfl

theorem ppRankOfLayer_eq {layerIdx idx : Nat} (isLayer : layerIdx < numLayers)
    (owns : Segments.Owns (stageSizes mapping numLayers) layerIdx idx) (rank : Nat) :
    (mapping.onRank rank).ppRankOfLayer layerIdx numLayers = .ok idx := by
  have isIndex := owns.lt_length
  rw [length_stageSizes fits] at isIndex
  unfold Mapping.ppRankOfLayer
  rw [raiseIf_of_not (Nat.not_le.mpr isLayer)]
  dsimp only [bind, Except.bind]
  by_cases single : ¬(mapping.onRank rank).ppSize > 1
  · rw [if_pos single]
    change ¬mapping.ppSize > 1 at single
    rw [show idx = 0 by omega]
  · rw [if_neg single]
    unfold stageSizes at owns
    change (match mapping.ppPartition with | some _ => _ | none => _) = _
    cases isPartition : mapping.ppPartition with
    | none =>
      rw [isPartition] at owns
      have computed := owns_tensorSplit wellFormed.ppPos isLayer
      rw [Segments.segment_unique owns computed]
      have size : (mapping.onRank rank).ppSize = mapping.ppSize := rfl
      rw [size, apply_ite Except.ok, apply_ite Except.ok]
    | some ppPartition =>
      rw [isPartition] at owns
      obtain ⟨length, sum⟩ := fits ppPartition isPartition
      have sameLength : ¬ppPartition.length ≠ (mapping.onRank rank).ppSize := not_not.mpr length
      have low : 0 + Segments.start ppPartition idx ≤ layerIdx := by
        rw [Nat.zero_add]
        exact owns.1
      have high : layerIdx < 0 + Segments.start ppPartition (idx + 1) := by
        rw [Nat.zero_add]
        exact owns.2
      have found := rankOfLayer_eq 0 low high
      dsimp only
      rw [raiseIf_of_not sameLength, raiseIf_of_not (not_not.mpr sum)]
      rw [found, Nat.zero_add]

omit wellFormed fits in
theorem getD_stageSizes (even : mapping.ppPartition = none) {ppRank : Nat}
    (isRank : ppRank < mapping.ppSize) : (stageSizes mapping numLayers).getD ppRank 0 =
      (ModelConfig.mk numLayers).getNbLayers mapping.ppSize ppRank := by
  rw [stageSizes, even, Option.getD_none, tensorSplit, getD_eq_getElem?_getD, getElem?_map,
    getElem?_range isRank]
  rfl

end Layers

/-- The layers of the pipeline stages. -/
structure LayersAgree (mapping : Mapping) (numLayers : Nat) : Prop where
  partition : ∃ pieces : List (List Nat), pieces.length = mapping.ppSize ∧
    pieces.flatten = List.range numLayers ∧ ∀ rank < mapping.worldSize, ∃ layers,
      (mapping.onRank rank).ppLayers numLayers = .ok layers ∧
        pieces[(mapping.onRank rank).ppRank]? = some layers
  owner : ∀ rank < mapping.worldSize, ∀ layers,
    (mapping.onRank rank).ppLayers numLayers = .ok layers → ∀ layerIdx < numLayers,
      (layerIdx ∈ layers ↔
        (mapping.onRank rank).ppRankOfLayer layerIdx numLayers = .ok (mapping.onRank rank).ppRank)
  runtime : mapping.ppPartition = none → ∀ rank < mapping.worldSize,
    (mapping.onRank rank).ppLayers numLayers = .ok (List.range'
      ((ModelConfig.mk numLayers).getFirstLocalLayer mapping.ppSize (mapping.onRank rank).ppRank)
      ((ModelConfig.mk numLayers).getNbLayers mapping.ppSize (mapping.onRank rank).ppRank))

theorem WellFormed.layersAgree {mapping : Mapping} {numLayers : Nat}
    (wellFormed : WellFormed mapping) (fits : Fits mapping numLayers) :
    LayersAgree mapping numLayers := by
  have sum := sum_stageSizes wellFormed fits
  refine ⟨⟨(stageSizes mapping numLayers).splitLengths (List.range numLayers), ?_, ?_, ?_⟩, ?_, ?_⟩
  · rw [length_splitLengths, length_stageSizes fits]
  · refine flatten_splitLengths _ _ ?_
    rw [length_range, sum]
  · intro rank lt
    have isRank := (wellFormed.coordinatesAgree.bijective.mapsTo lt).1
    rw [← length_stageSizes fits] at isRank
    refine ⟨_, ppLayers_eq wellFormed fits lt, ?_⟩
    rw [range_eq_range', Segments.getElem?_splitLengths_range' 0 (Nat.le_of_eq sum),
      getD_eq_getElem?_getD, getElem?_eq_getElem isRank, Nat.zero_add]
    rfl
  · intro rank lt layers returned layerIdx isLayer
    rw [ppLayers_eq wellFormed fits lt] at returned
    cases returned
    rw [mem_range'_1, ← Segments.start_succ]
    obtain ⟨idx, owns⟩ := Segments.exists_segment (sum.symm ▸ isLayer)
    rw [ppRankOfLayer_eq wellFormed fits isLayer owns, Except.ok.injEq]
    constructor
    · exact fun here => Segments.segment_unique owns here
    · rintro rfl
      exact owns
  · intro even rank lt
    have isRank := (wellFormed.coordinatesAgree.bijective.mapsTo lt).1
    rw [ppLayers_eq wellFormed fits lt, getD_stageSizes even isRank, stageSizes, even,
      Option.getD_none, start_tensorSplit (Nat.le_of_lt isRank)]
    rfl

/-! ## All computations of the layout agree -/

/-- What holds of the ranks, groups and layers of a world. -/
structure TopologyAgrees (mapping : Mapping) : Prop where
  coordinates : CoordinatesAgree mapping
  groups : GroupsAgree mapping
  ppNeighbours : Inverse mapping Mapping.nextPpRank Mapping.prevPpRank ∧
    Inverse mapping Mapping.prevPpRank Mapping.nextPpRank
  cpNeighbours : Inverse mapping Mapping.nextCpRank Mapping.prevCpRank ∧
    Inverse mapping Mapping.prevCpRank Mapping.nextCpRank
  /-- A group of clusters also has the expert-parallel ranks if there is one cluster only. -/
  experts : mapping.cpSize = 1 →
    Divides mapping mapping.moeTpGroups Mapping.moeTpGroup Mapping.moeTpRank ∧
      Divides mapping mapping.moeEpGroups Mapping.moeEpGroup Mapping.moeEpRank ∧
      Divides mapping mapping.moeClusterGroups Mapping.moeClusterGroup fun mapping =>
        mapping.moeClusterRank * mapping.moeEpSize + mapping.moeEpRank
  layers : ∀ numLayers, Fits mapping numLayers → LayersAgree mapping numLayers

theorem topologies_agree :
    (∀ tpSize ppSize cpSize rank, 0 < tpSize → 0 < ppSize → 0 < cpSize →
      rank < tpSize * ppSize * cpSize → ∃ mapping, Mapping.init
        { worldSize := tpSize * ppSize * cpSize, rank := rank, tpSize := tpSize, ppSize := ppSize,
          cpSize := cpSize } = .ok mapping) ∧
    ∀ args mapping, 0 < args.tpSize → 0 < args.ppSize → 0 < args.cpSize →
      Mapping.init args = .ok mapping → TopologyAgrees mapping := by
  constructor
  · intro tpSize ppSize cpSize rank _ _ _ inside
    unfold Mapping.init
    simp [moeSizes, attnSizes, floorDiv, raiseIf, bind, Except.bind, pure, Except.pure,
      Nat.not_le.mpr inside]
  · intro args mapping tpPos ppPos cpPos created
    have wellFormed := wellFormed_of_init created tpPos ppPos cpPos
    exact ⟨wellFormed.coordinatesAgree, wellFormed.groupsAgree, wellFormed.ppInverse,
      wellFormed.cpInverse, fun single => ⟨wellFormed.moeTpDivides single,
        wellFormed.moeEpDivides single, wellFormed.moeClusterDivides single⟩,
      fun numLayers fits => wellFormed.layersAgree fits⟩

/-- Two pipeline stages with two ranks, and five layers. -/
theorem topologies_agree_fiveLayers : ∃ mapping,
    Mapping.init { worldSize := 4, rank := 3, tpSize := 2, ppSize := 2 } = .ok mapping ∧
      TopologyAgrees mapping ∧ mapping.ppLayers 5 = .ok [3, 4] := by
  obtain ⟨mapping, created⟩ := topologies_agree.1 2 2 1 3 (by decide) (by decide) (by decide)
    (by decide)
  refine ⟨mapping, created, topologies_agree.2 _ mapping (by decide) (by decide)
    (by decide) created,
    ?_⟩
  cases created
  decide

/-- With two expert-parallel ranks and one cluster, rank 1 is second in its cluster group, but its
rank in the cluster is 0. -/
theorem moeClusterGroup_twoExpertRanks : ∃ mapping,
    Mapping.init { worldSize := 2, rank := 1, tpSize := 2, moeEpSize := some 2 } = .ok mapping ∧
      mapping.cpSize = 1 ∧ mapping.moeClusterGroup = some [0, 1] ∧ mapping.moeClusterRank = 0 := by
  exact ⟨_, rfl, rfl, by decide, by decide⟩

end Parallel

end TrtLlm
