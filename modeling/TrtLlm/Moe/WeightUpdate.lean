import TrtLlm.Moe.GpuPlacement

/-! # Updating the weights in the slots

An update computes a placement and copies the weights of experts into the slots of the rank that
hold another one. The copying threads share the rows of a weight and the bytes that are left over.
Whatever their order, each slot holds the weights of its expert after every update.
-/

namespace TrtLlm

open List

/-- `MoeWeight`, without its pointer. -/
structure MoeWeight where
  height : Nat
  width : Nat
  pitch : Nat

namespace Moe

/-! ## Copying one weight -/

/-- The offsets of a byte in the weight that is written and in the one that is read. -/
abbrev ByteCopy := Nat × Nat

/-- The copies of some columns of a row. -/
def copyRow (src dst : MoeWeight) (row first last : Nat) : List ByteCopy :=
  (List.range' first (last - first)).map fun col =>
    (row * dst.pitch + col, row * src.pitch + col)

/-- A weight without gaps between its rows is copied as one row. -/
def asRows (src dst : MoeWeight) : MoeWeight × MoeWeight :=
  if src.pitch = src.width ∧ dst.pitch = dst.width then
    (⟨1, src.width * src.height, src.width * src.height⟩,
      ⟨1, src.width * src.height, src.width * src.height⟩)
  else (src, dst)

/-- `copyWeights`, with `cudaMemcpyAsync` or `cudaMemcpy2DAsync`. -/
def copyWeights (src dst : MoeWeight) : List ByteCopy :=
  let (src, dst) := asRows src dst
  (List.range src.height).flatMap fun row => copyRow src dst row 0 src.width

/-- `copyWeightsCpu` in one of the threads. -/
def copyWeightsCpu (src dst : MoeWeight) (rank size : Nat) : List ByteCopy :=
  let (src, dst) := asRows src dst
  let fullCopyCount := src.height / size * size
  let threadCopyCount := fullCopyCount / size
  let threadStartOffset := rank * src.width / size
  let threadEndOffset := (rank + 1) * src.width / size
  ((List.range' (rank * threadCopyCount) threadCopyCount).flatMap fun row =>
      copyRow src dst row 0 src.width) ++
    (List.range' fullCopyCount (src.height - fullCopyCount)).flatMap fun row =>
      copyRow src dst row threadStartOffset threadEndOffset

/-- The copies of a weight are those of all its bytes. -/
structure CopiesWhole (src dst : MoeWeight) (copies : List ByteCopy) : Prop where
  sound : ∀ copy ∈ copies, ∃ row < src.height, ∃ col < src.width,
    copy = (row * dst.pitch + col, row * src.pitch + col)
  complete : ∀ row < src.height, ∀ col < src.width,
    (row * dst.pitch + col, row * src.pitch + col) ∈ copies

variable {dst src : MoeWeight} {rankExperts : List (List Int)}

/-- The copies of all bytes, row by row. -/
def rowCopies (src dst : MoeWeight) : List ByteCopy :=
  (List.range src.height).flatMap fun row => copyRow src dst row 0 src.width

theorem mem_rowCopies {copy : ByteCopy} : copy ∈ rowCopies src dst ↔ ∃ row < src.height,
    ∃ col < src.width, copy = (row * dst.pitch + col, row * src.pitch + col) := by
  simp [rowCopies, copyRow, mem_flatMap, eq_comm]

theorem CopiesWhole.of_perm {copies : List ByteCopy} (perm : copies ~ rowCopies src dst) :
    CopiesWhole src dst copies where
  sound copy mem := mem_rowCopies.mp (perm.mem_iff.mp mem)
  complete row isRow col isCol :=
    perm.mem_iff.mpr (mem_rowCopies.mpr ⟨row, isRow, col, isCol, rfl⟩)

/-- Copying a weight without gaps as one row copies all its rows. -/
theorem rowCopies_asRows (shape : src.width = dst.width) :
    rowCopies (asRows src dst).1 (asRows src dst).2 = rowCopies src dst := by
  unfold asRows
  split
  · rename_i tight
    have rows := congrArg (List.map fun byte => (byte, byte))
      (flatMap_range_range src.height src.width)
    rw [map_flatMap, Nat.mul_comm] at rows
    simp only [rowCopies, copyRow, tight.1, tight.2, ← shape]
    simpa [← range_eq_range', Function.comp_def] using rows.symm
  · rfl

theorem flatMap_copyRow (src dst : MoeWeight) {value : Nat → Nat} (mono : Monotone value)
    (row size : Nat) :
    ((List.range size).flatMap fun rank => copyRow src dst row (value rank) (value (rank + 1))) =
      copyRow src dst row (value 0) (value size) := by
  unfold copyRow
  rw [← flatMap_intervals mono, map_flatMap]

/-- The threads together copy all bytes, each of them once. -/
theorem copyWeightsCpu_perm (shape : src.width = dst.width) {size : Nat} (threads : 0 < size) :
    ((List.range size).flatMap fun rank => copyWeightsCpu src dst rank size) ~
      rowCopies src dst := by
  rw [← rowCopies_asRows shape]
  unfold copyWeightsCpu
  generalize asRows src dst = rows
  obtain ⟨src, dst⟩ := rows
  simp only [Nat.mul_div_cancel _ threads]
  have rows := flatMap_intervals (fun _ _ le => Nat.mul_le_mul_right (src.height / size) le) size
  have cols := fun row => flatMap_copyRow src dst
    (fun _ _ le => Nat.div_le_div_right (c := size) (Nat.mul_le_mul_right src.width le)) row size
  have halves := range'_append_1 (s := 0) (m := src.height / size * size)
    (n := src.height - src.height / size * size)
  simp only [Nat.succ_mul, Nat.add_sub_cancel_left, Nat.zero_mul, Nat.sub_zero, Nat.zero_div,
    Nat.mul_div_cancel _ threads, Nat.zero_add, Nat.mul_comm size,
    Nat.add_sub_cancel' (Nat.div_mul_le_self ..)] at rows cols halves
  calc _ ~ _ := (flatMap_append_perm ..).symm
    _ ~ _ := (Perm.refl _).append (flatMap_comm ..)
    _ = _ := by
      simp only [← flatMap_assoc, rows, Nat.succ_mul, cols]
      rw [← flatMap_append, halves, rowCopies, range_eq_range']

/-- With gaps or without, each byte of the weight that is written is written once. -/
theorem nodup_rowCopies (pitched : src.width ≤ dst.pitch) :
    ((rowCopies src dst).map Prod.fst).Nodup := by
  simp only [rowCopies, copyRow, map_flatMap, map_map, nodup_flatMap]
  refine ⟨fun row _ => (nodup_range' ..).map fun _ _ same => Nat.add_left_cancel same,
    pairwise_lt_range.imp fun lt => ?_⟩
  simp only [Function.onFun, disjoint_left, mem_map, mem_range'_1]
  rintro _ ⟨col, isCol, rfl⟩ ⟨col', isCol', same⟩
  exact lt.ne (Nat.mul_add_inj (by omega) (by omega) same).1.symm

/-- Whatever the pitches and the number of threads are, they write each byte of each row once, from
the byte of the source that it stands for, and nothing else. -/
theorem copyWeightsCpu_exact {height width srcPitch dstPitch size : Nat}
    (dstPitched : width ≤ dstPitch) (threads : 0 < size) :
    let copies := (List.range size).flatMap fun rank =>
      copyWeightsCpu ⟨height, width, srcPitch⟩ ⟨height, width, dstPitch⟩ rank size
    (copies.map Prod.fst).Nodup ∧ ∀ copy, copy ∈ copies ↔ ∃ row < height, ∃ col < width,
      copy = (row * dstPitch + col, row * srcPitch + col) := by
  have shape : (⟨height, width, srcPitch⟩ : MoeWeight).width =
    (⟨height, width, dstPitch⟩ : MoeWeight).width := rfl
  have perm := copyWeightsCpu_perm shape threads
  refine ⟨(perm.map _).nodup_iff.mpr (nodup_rowCopies dstPitched), fun copy => ?_⟩
  rw [perm.mem_iff]
  exact mem_rowCopies

theorem copyWeightsCpu_exact_rest : 2 ≤ 4 ∧ 0 < 2 ∧ (((List.range 2).flatMap fun rank =>
    copyWeightsCpu ⟨3, 2, 2⟩ ⟨3, 2, 4⟩ rank 2).map Prod.fst).Nodup :=
  ⟨by decide, by decide, (copyWeightsCpu_exact (by decide) (by decide)).1⟩

/-! ## An update -/

variable {α : Type}

/-- A byte of the weight with a name in a slot, or of an expert. -/
abbrev WeightByte := String × Nat × Nat

/-- The weights of a layer, for each name those in the slots and those of the experts. -/
structure LayerWeights where
  names : List String
  weightSlots : String → Nat → MoeWeight
  hostWeights : String → Nat → MoeWeight

/-- What `finalizeWeights` and the checks before it ensure. -/
structure LayerWeights.Finalized (weights : LayerWeights) (metaInfo : MoeLoadBalanceMetaInfo) :
    Prop where
  sameShape : ∀ name ∈ weights.names, ∀ slotId < metaInfo.slotCountPerRank,
    ∀ expertId < metaInfo.expertCount,
    (weights.hostWeights name expertId).height = (weights.weightSlots name slotId).height ∧
      (weights.hostWeights name expertId).width = (weights.weightSlots name slotId).width
  pitched : ∀ name ∈ weights.names, ∀ slotId < metaInfo.slotCountPerRank,
    (weights.weightSlots name slotId).width ≤ (weights.weightSlots name slotId).pitch

/-- How weights are copied: by the GPU, or by some threads. -/
inductive CopyEngine where
  | gpuMemcpy
  | cpuThreads (count : Nat) (positive : 0 < count)

/-- The copies of one weight in all threads. -/
def CopyEngine.copies (engine : CopyEngine) (src dst : MoeWeight) : List ByteCopy :=
  match engine with
  | .gpuMemcpy => copyWeights src dst
  | .cpuThreads count _ => (List.range count).flatMap fun rank => copyWeightsCpu src dst rank count

theorem CopyEngine.copies_whole (engine : CopyEngine) (shape : src.width = dst.width) :
    CopiesWhole src dst (engine.copies src dst) := by
  cases engine with
  | gpuMemcpy => exact .of_perm (.of_eq (rowCopies_asRows shape))
  | cpuThreads count pos => exact .of_perm (copyWeightsCpu_perm shape pos)

variable (metaInfo : MoeLoadBalanceMetaInfo) (weights : LayerWeights) (engine : CopyEngine)
  (host : WeightByte → α)

/-- The writes into a slot that gets another expert. -/
def slotWrites (slotId expertId : Nat) : List (WeightByte × α) :=
  weights.names.flatMap fun name =>
    (engine.copies (weights.hostWeights name expertId) (weights.weightSlots name slotId)).map
      fun copy => ((name, slotId, copy.1), host (name, expertId, copy.2))

/-- One round of `updateWeights`: the writes into a slot, none if it keeps its expert. -/
def updateSlot (oldRankExpertIds rankExpertIds : List (List Int)) (slotId : Nat) :
    Except Failure (List (WeightByte × α)) :=
  let oldExpertId := slotExpert oldRankExpertIds metaInfo.epRank slotId
  let newExpertId := slotExpert rankExpertIds metaInfo.epRank slotId
  if ¬(0 ≤ oldExpertId ∧ oldExpertId < metaInfo.expertCount) then .error .expertId
  else if ¬(0 ≤ newExpertId ∧ newExpertId < metaInfo.expertCount) then .error .expertId
  else if oldExpertId = newExpertId then .ok []
  else .ok (slotWrites weights engine host slotId newExpertId.toNat)

/-- `updateWeights` in all threads: the writes. -/
def updateWeights (oldRankExpertIds rankExpertIds : List (List Int)) :
    Except Failure (List (WeightByte × α)) := do
  let writes ← (List.range metaInfo.slotCountPerRank).mapM
    (updateSlot metaInfo weights engine host oldRankExpertIds rankExpertIds)
  pure writes.flatten

/-- `SingleLayerMoeLoadBalancer`: the placement on the host, with the current one in
`oldRankExpertIds`, the one on the GPU, and the contents of the slots. -/
structure SingleLayerMoeLoadBalancer (α : Type) where
  oldRankExpertIds : List (List Int)
  rankExpertIds : List (List Int)
  placementInfoForGPU : MoePlacementInfo
  gpuPlacement : MoePlacementInfo
  slots : WeightByte → α

/-- The load factors of an update, and the order in which its writes are done. -/
structure Update (α : Type) where
  expertLoadFactor : Nat → Rat
  order : List (WeightByte × α) → List (WeightByte × α)
  perm : ∀ writes, (order writes).Perm writes

namespace SingleLayerMoeLoadBalancer

/-- `copyPlacementInfoToGpu` when the placement is in `rankExpertIds` and
`placementInfoForGPU`. -/
def copyPlacementInfoToGpu (layer : SingleLayerMoeLoadBalancer α) :
    SingleLayerMoeLoadBalancer α :=
  { layer with
    gpuPlacement := layer.placementInfoForGPU
    oldRankExpertIds := layer.rankExpertIds
    rankExpertIds := layer.oldRankExpertIds.map fun _ =>
      List.replicate metaInfo.slotCountPerRank (-1) }

/-- `updateWeightsRoutine`, or `updateWeightsRoutineByCpu`. -/
def updateWeightsRoutine (layer : SingleLayerMoeLoadBalancer α) (update : Update α) :
    Except Failure (SingleLayerMoeLoadBalancer α) := do
  let expertReplicaCount ← doReplication metaInfo update.expertLoadFactor
  let rankExpertIds ← doPlacement metaInfo update.expertLoadFactor expertReplicaCount
    layer.rankExpertIds
  let info ← prepareGpuPlacementInfo metaInfo expertReplicaCount rankExpertIds
    layer.placementInfoForGPU.globalSlotIds
  let writes ← updateWeights metaInfo weights engine host layer.oldRankExpertIds rankExpertIds
  pure (copyPlacementInfoToGpu metaInfo
    { layer with
      rankExpertIds := rankExpertIds
      placementInfoForGPU := info
      slots := Copies.run (update.order writes) layer.slots })

/-- `createResources`: no slot has an expert. -/
def createResources (slots : WeightByte → α) : SingleLayerMoeLoadBalancer α :=
  let empty := List.replicate metaInfo.epSize (List.replicate metaInfo.slotCountPerRank (-1))
  let info : MoePlacementInfo :=
    { expertReplicaCount := List.replicate metaInfo.expertCount 0
      expertReplicaStartOffset := List.replicate metaInfo.expertCount 0
      globalSlotIds := List.replicate (totalSlotCount metaInfo) 0 }
  { oldRankExpertIds := empty
    rankExpertIds := empty
    placementInfoForGPU := info
    gpuPlacement := info
    slots := slots }

/-- The experts that an assignment has for the slots of each rank. -/
def assignedExpertIds (initialWeightAssignments : List Int) : List (List Int) :=
  (List.range metaInfo.epSize).map fun rank =>
    (List.range metaInfo.slotCountPerRank).map fun localSlotId =>
      initialWeightAssignments.getD (rank * metaInfo.slotCountPerRank + localSlotId) (-1)

/-- The number of slots of each expert. -/
def replicaCounts (expertIds : List Int) : List Nat :=
  (List.range metaInfo.expertCount).map fun expertId : Nat => expertIds.count (expertId : Int)

/-- `setInitialWeightAssignments` -/
def setInitialWeightAssignments (layer : SingleLayerMoeLoadBalancer α)
    (initialWeightAssignments : List Int) : Except Failure (SingleLayerMoeLoadBalancer α) := do
  let rankExpertIds := assignedExpertIds metaInfo initialWeightAssignments
  if ∃ id ∈ rankExpertIds.flatten, ¬(0 ≤ id ∧ id < metaInfo.expertCount) then throw .expertId
  let expertReplicaCount := replicaCounts metaInfo rankExpertIds.flatten
  let info ← prepareGpuPlacementInfo metaInfo expertReplicaCount rankExpertIds
    layer.placementInfoForGPU.globalSlotIds
  pure (copyPlacementInfoToGpu metaInfo
    { layer with rankExpertIds := rankExpertIds, placementInfoForGPU := info })

end SingleLayerMoeLoadBalancer

/-! ## The slots hold the weights -/

variable {metaInfo weights engine host}

/-- Each slot of the rank holds the weights of the expert that a placement has for it. -/
def Holds (metaInfo : MoeLoadBalanceMetaInfo) (weights : LayerWeights) (host : WeightByte → α)
    (rankExpertIds : List (List Int)) (slots : WeightByte → α) : Prop :=
  ∀ slotId < metaInfo.slotCountPerRank, ∀ expertId : Nat,
    slotExpert rankExpertIds metaInfo.epRank slotId = expertId → ∀ name ∈ weights.names,
    ∀ row < (weights.weightSlots name slotId).height,
    ∀ col < (weights.weightSlots name slotId).width,
    slots (name, slotId, row * (weights.weightSlots name slotId).pitch + col) =
      host (name, expertId, row * (weights.hostWeights name expertId).pitch + col)

/-- The slots have experts. -/
def Assigned (metaInfo : MoeLoadBalanceMetaInfo) (rankExpertIds : List (List Int)) : Prop :=
  ∀ slotId < metaInfo.slotCountPerRank, ∃ expertId : Nat, expertId < metaInfo.expertCount ∧
    slotExpert rankExpertIds metaInfo.epRank slotId = expertId

theorem Consistent.assigned (valid : Valid metaInfo) {info : MoePlacementInfo}
    (consistent : Consistent metaInfo rankExperts info) : Assigned metaInfo rankExperts := by
  intro slotId isSlot
  obtain ⟨shaped, inRange⟩ := consistent.filled
  have isRank : metaInfo.epRank < rankExperts.length := shaped.1 ▸ valid.rank
  have isSlot : slotId < rankExperts[metaInfo.epRank].length :=
    shaped.2 _ (getElem_mem isRank) ▸ isSlot
  obtain ⟨nonnegative, bound⟩ := inRange _ (getElem_mem isRank) _ (getElem_mem isSlot)
  refine ⟨rankExperts[metaInfo.epRank][slotId].toNat, by omega, ?_⟩
  simp only [Int.toNat_of_nonneg nonnegative, slotExpert, getD_eq_getElem?_getD,
    getElem?_eq_getElem isRank, Option.getD_some, getElem?_eq_getElem isSlot]

/-- The writes are those of the slots that get another expert. -/
theorem updateWeights_spec {oldRankExpertIds : List (List Int)}
    (old : Assigned metaInfo oldRankExpertIds) (new : Assigned metaInfo rankExperts)
    (weights : LayerWeights) (engine : CopyEngine) (host : WeightByte → α) :
    ∃ writes, updateWeights metaInfo weights engine host oldRankExpertIds rankExperts = .ok writes ∧
      ∀ write, write ∈ writes ↔ ∃ slotId < metaInfo.slotCountPerRank,
        slotExpert oldRankExpertIds metaInfo.epRank slotId ≠
          slotExpert rankExperts metaInfo.epRank slotId ∧
        write ∈ slotWrites weights engine host slotId
          (slotExpert rankExperts metaInfo.epRank slotId).toNat := by
  have rounds : ∀ slotId ∈ List.range metaInfo.slotCountPerRank,
      updateSlot metaInfo weights engine host oldRankExpertIds rankExperts slotId =
        .ok (if slotExpert oldRankExpertIds metaInfo.epRank slotId =
            slotExpert rankExperts metaInfo.epRank slotId then []
          else slotWrites weights engine host slotId
            (slotExpert rankExperts metaInfo.epRank slotId).toNat) := by
    intro slotId isSlot
    obtain ⟨oldExpertId, oldBound, isOld⟩ := old slotId (mem_range.mp isSlot)
    obtain ⟨newExpertId, newBound, isNew⟩ := new slotId (mem_range.mp isSlot)
    unfold updateSlot
    rw [isOld, isNew, if_neg (not_not.mpr ⟨Int.natCast_nonneg _, Int.ofNat_lt.mpr oldBound⟩),
      if_neg (not_not.mpr ⟨Int.natCast_nonneg _, Int.ofNat_lt.mpr newBound⟩)]
    split
    · rfl
    · rfl
  have looped := mapM_eq_ok rounds
  refine ⟨List.flatten _, by rw [updateWeights, looped]; rfl, fun write => ?_⟩
  · rw [mem_flatten]
    constructor
    · rintro ⟨writes, isRound, mem⟩
      obtain ⟨slotId, isSlot, rfl⟩ := mem_map.mp isRound
      split at mem
      · cases mem
      · rename_i changed
        exact ⟨slotId, mem_range.mp isSlot, changed, mem⟩
    · rintro ⟨slotId, isSlot, changed, mem⟩
      refine ⟨_, mem_map.mpr ⟨slotId, mem_range.mpr isSlot, rfl⟩, ?_⟩
      rw [if_neg changed]
      exact mem

theorem mem_slotWrites {slotId expert : Nat} {write : WeightByte × α} :
    write ∈ slotWrites weights engine host slotId expert ↔ ∃ name ∈ weights.names,
      ∃ copy ∈ engine.copies (weights.hostWeights name expert) (weights.weightSlots name slotId),
        write = ((name, slotId, copy.1), host (name, expert, copy.2)) := by
  simp only [slotWrites, mem_flatMap, mem_map, eq_comm]

/-- After the writes of an update the slots hold the weights of their new experts. -/
theorem Holds.update (finalized : weights.Finalized metaInfo) {oldRankExpertIds : List (List Int)}
    {slots : WeightByte → α} (holds : Holds metaInfo weights host oldRankExpertIds slots)
    (new : Assigned metaInfo rankExperts) {writes : List (WeightByte × α)}
    (written : ∀ write, write ∈ writes ↔ ∃ slotId < metaInfo.slotCountPerRank,
      slotExpert oldRankExpertIds metaInfo.epRank slotId ≠
        slotExpert rankExperts metaInfo.epRank slotId ∧
      write ∈ slotWrites weights engine host slotId
        (slotExpert rankExperts metaInfo.epRank slotId).toNat) :
    Holds metaInfo weights host rankExperts (Copies.run writes slots) := by
  intro slotId isSlot expert isNew name isName row isRow col isCol
  obtain ⟨other, isExpert, same⟩ := new slotId isSlot
  obtain rfl : expert = other := Int.ofNat_inj.mp (isNew.symm.trans same)
  obtain ⟨height, width⟩ := finalized.sameShape name isName slotId isSlot expert isExpert
  have whole := engine.copies_whole width
  refine Copies.run_eq (fun write mem here => ?_) ?_
  · -- a write to this byte copies the same byte of the expert
    obtain ⟨slotId', _, _, mem⟩ := (written write).mp mem
    obtain ⟨name', _, copy, isCopy, rfl⟩ := mem_slotWrites.mp mem
    simp only [Prod.mk.injEq] at here
    obtain ⟨rfl, rfl, offset⟩ := here
    rw [isNew, Int.toNat_natCast] at isCopy ⊢
    obtain ⟨row', _, col', isCol', rfl⟩ := whole.sound copy isCopy
    have pitch := finalized.pitched name' isName slotId' isSlot
    obtain ⟨rfl, rfl⟩ := Nat.mul_add_inj (by omega) (by omega) offset
    rfl
  · by_cases kept : slotExpert oldRankExpertIds metaInfo.epRank slotId =
        slotExpert rankExperts metaInfo.epRank slotId
    · exact .inr (holds slotId isSlot expert (kept.trans isNew) name isName row isRow col isCol)
    · have copied := whole.complete row (height ▸ isRow) col (width ▸ isCol)
      have mem : ((name, slotId, row * (weights.weightSlots name slotId).pitch + col),
          host (name, expert, row * (weights.hostWeights name expert).pitch + col)) ∈
          slotWrites weights engine host slotId
            (slotExpert rankExperts metaInfo.epRank slotId).toNat := by
        rw [isNew, Int.toNat_natCast]
        exact mem_slotWrites.mpr ⟨name, isName, _, copied, rfl⟩
      exact .inl ⟨_, (written _).mpr ⟨slotId, isSlot, kept, mem⟩, rfl⟩

namespace SingleLayerMoeLoadBalancer

/-- The current placement is consistent, and the slots hold what it says. -/
structure Sound (metaInfo : MoeLoadBalanceMetaInfo) (weights : LayerWeights)
    (host : WeightByte → α) (layer : SingleLayerMoeLoadBalancer α) : Prop where
  consistent : Consistent metaInfo layer.oldRankExpertIds layer.gpuPlacement
  holds : Holds metaInfo weights host layer.oldRankExpertIds layer.slots
  cleared : Shaped metaInfo layer.rankExpertIds
  gpuSlots : layer.placementInfoForGPU.globalSlotIds.length = totalSlotCount metaInfo

theorem shaped_cleared (shaped : Shaped metaInfo rankExperts) :
    Shaped metaInfo (rankExperts.map fun _ => List.replicate metaInfo.slotCountPerRank (-1)) := by
  refine ⟨by rw [length_map, shaped.1], fun ids mem => ?_⟩
  obtain ⟨_, _, rfl⟩ := mem_map.mp mem
  exact length_replicate

theorem Sound.update (valid : Valid metaInfo) (finalized : weights.Finalized metaInfo)
    (engine : CopyEngine) {layer : SingleLayerMoeLoadBalancer α}
    (sound : layer.Sound metaInfo weights host)
    (update : Update α) :
    ∃ next, layer.updateWeightsRoutine metaInfo weights engine host update = .ok next ∧
      next.Sound metaInfo weights host := by
  obtain ⟨cnt, replicates, replicated⟩ := doReplication_spec valid update.expertLoadFactor
  obtain ⟨ids, places, placed⟩ := doPlacement_spec valid replicated sound.cleared
    update.expertLoadFactor
  obtain ⟨info, prepares, consistent, length⟩ := prepareGpuPlacementInfo_spec replicated placed
    sound.gpuSlots
  have new := consistent.assigned valid
  obtain ⟨writes, updates, written⟩ := updateWeights_spec (sound.consistent.assigned valid) new
    weights engine host
  have returns : layer.updateWeightsRoutine metaInfo weights engine host update =
      .ok (copyPlacementInfoToGpu metaInfo { layer with
          rankExpertIds := ids
          placementInfoForGPU := info
          slots := Copies.run (update.order writes) layer.slots }) := by
    unfold updateWeightsRoutine
    rw [replicates]
    dsimp only [bind, Except.bind]
    rw [places]
    dsimp only
    rw [prepares]
    rw [updates]
    rfl
  have ordered : ∀ write, write ∈ update.order writes ↔ _ := fun write =>
    (update.perm writes).mem_iff.trans (written write)
  exact ⟨_, returns, consistent, sound.holds.update finalized new ordered,
    shaped_cleared sound.consistent.filled.1, length⟩

/-- An assignment of the slots at the start, with a slot for each expert. -/
structure Initial (metaInfo : MoeLoadBalanceMetaInfo) (initialWeightAssignments : List Int) :
    Prop where
  length : initialWeightAssignments.length = totalSlotCount metaInfo
  inRange : ∀ id ∈ initialWeightAssignments, 0 ≤ id ∧ id < metaInfo.expertCount
  covers : ∀ expertId : Nat, expertId < metaInfo.expertCount →
    (expertId : Int) ∈ initialWeightAssignments

theorem shaped_assignedExpertIds (initialWeightAssignments : List Int) :
    Shaped metaInfo (assignedExpertIds metaInfo initialWeightAssignments) := by
  refine ⟨by simp [assignedExpertIds], fun ids mem => ?_⟩
  obtain ⟨_, _, rfl⟩ := mem_map.mp mem
  rw [length_map, length_range]

variable {initialWeightAssignments : List Int}

theorem Initial.flatten_eq (initial : Initial metaInfo initialWeightAssignments) :
    (assignedExpertIds metaInfo initialWeightAssignments).flatten = initialWeightAssignments := by
  have slots : (assignedExpertIds metaInfo initialWeightAssignments).flatten =
      (List.range (totalSlotCount metaInfo)).map (initialWeightAssignments.getD · (-1)) := by
    rw [totalSlotCount, ← flatMap_range_range, map_flatMap]
    simp only [map_map]
    rfl
  rw [slots, ← initial.length]
  refine ext_getElem (by simp) fun idx _ lt => ?_
  simp [lt]

theorem sum_indicator (expert experts : Nat) :
    ((List.range experts).map fun other : Nat => if (expert : Int) = (other : Int) then 1
      else 0).sum = if expert < experts then 1 else 0 := by
  induction experts with
  | zero => rfl
  | succ experts ih =>
    rw [range_succ, map_append, sum_append, ih, map_singleton,
      sum_singleton]
    split <;> split <;> split <;> omega

/-- Each slot is counted for one expert. -/
theorem sum_replicaCounts {ids : List Int}
    (inRange : ∀ id ∈ ids, 0 ≤ id ∧ id < metaInfo.expertCount) :
    (replicaCounts metaInfo ids).sum = ids.length := by
  unfold replicaCounts
  induction ids with
  | nil => simp
  | cons id ids ih =>
    obtain ⟨⟨nonnegative, bound⟩, others⟩ := forall_mem_cons.mp inRange
    obtain ⟨expert, rfl⟩ := Int.eq_ofNat_of_zero_le nonnegative
    simp only [count_cons, beq_iff_eq]
    rw [sum_map_add, ih others, sum_indicator, if_pos (Int.ofNat_lt.mp bound),
      length_cons]

theorem getD_replicaCounts (ids : List Int) {expert : Nat}
    (isExpert : expert < metaInfo.expertCount) :
    (replicaCounts metaInfo ids).getD expert 0 = ids.count (expert : Int) := by
  rw [replicaCounts, getD_eq_getElem?_getD, getElem?_map, getElem?_range isExpert]
  rfl

theorem Initial.replicated (initial : Initial metaInfo initialWeightAssignments) :
    Replicated metaInfo (replicaCounts metaInfo initialWeightAssignments) := by
  refine ⟨by simp [replicaCounts], fun expert isExpert => ?_, ?_⟩
  · rw [getD_replicaCounts _ isExpert]
    exact count_pos_iff.mpr (initial.covers expert isExpert)
  · rw [sum_replicaCounts initial.inRange, initial.length]

theorem Initial.placed (initial : Initial metaInfo initialWeightAssignments) :
    Placed metaInfo (replicaCounts metaInfo initialWeightAssignments)
      (assignedExpertIds metaInfo initialWeightAssignments) := by
  refine ⟨shaped_assignedExpertIds _, fun ids isRank id mem => ?_, fun expert isExpert => ?_⟩
  · refine initial.inRange id ?_
    rw [← initial.flatten_eq]
    exact mem_flatten.mpr ⟨ids, isRank, mem⟩
  · rw [initial.flatten_eq, getD_replicaCounts _ isExpert]

/-- The placement of the assignment is consistent, and holds if the slots hold it. -/
theorem Sound.initial (initial : Initial metaInfo initialWeightAssignments) {slots : WeightByte → α}
    (loaded : Holds metaInfo weights host (assignedExpertIds metaInfo initialWeightAssignments)
      slots) : ∃ layer, (createResources metaInfo slots).setInitialWeightAssignments metaInfo
        initialWeightAssignments = .ok layer ∧ layer.Sound metaInfo weights host := by
  obtain ⟨info, prepares, consistent, length⟩ := prepareGpuPlacementInfo_spec initial.replicated
    initial.placed (length_replicate (n := totalSlotCount metaInfo) (a := 0))
  have returns : (createResources metaInfo slots).setInitialWeightAssignments metaInfo
      initialWeightAssignments = .ok (copyPlacementInfoToGpu metaInfo
        { createResources metaInfo slots with
          rankExpertIds := assignedExpertIds metaInfo initialWeightAssignments
          placementInfoForGPU := info }) := by
    have valid : ¬∃ id ∈ initialWeightAssignments, ¬(0 ≤ id ∧ id < metaInfo.expertCount) := by
      rintro ⟨id, mem, outside⟩
      exact outside (initial.inRange id mem)
    unfold setInitialWeightAssignments
    dsimp only
    rw [initial.flatten_eq, if_neg valid]
    dsimp only [bind, Except.bind, pure, Except.pure, createResources]
    rw [prepares]
  refine ⟨_, returns, consistent, loaded, shaped_cleared ⟨?_, ?_⟩, length⟩
  · exact length_replicate
  · intro ids mem
    rw [eq_of_mem_replicate mem, length_replicate]

theorem placement_consistent (valid : Valid metaInfo) :
    (∀ (expertLoadFactor : Nat → Rat) (rankExpertIds : List (List Int)) (gpuSlotIds : List Nat),
      Shaped metaInfo rankExpertIds → gpuSlotIds.length = totalSlotCount metaInfo →
      ∃ counts ids info, doReplication metaInfo expertLoadFactor = .ok counts ∧
        doPlacement metaInfo expertLoadFactor counts rankExpertIds = .ok ids ∧
        prepareGpuPlacementInfo metaInfo counts ids gpuSlotIds = .ok info ∧
        Consistent metaInfo ids info) ∧
    ∀ (weights : LayerWeights) (engine : CopyEngine) (host slots : WeightByte → α)
      (initialWeightAssignments : List Int), weights.Finalized metaInfo →
      Initial metaInfo initialWeightAssignments →
      Holds metaInfo weights host (assignedExpertIds metaInfo initialWeightAssignments) slots →
      ∃ first, (createResources metaInfo slots).setInitialWeightAssignments metaInfo
          initialWeightAssignments = .ok first ∧
        ∀ layer, Run.Reaches (updateWeightsRoutine metaInfo weights engine host)
            (fun _ _ => True) first layer →
          Consistent metaInfo layer.oldRankExpertIds layer.gpuPlacement ∧
          Holds metaInfo weights host layer.oldRankExpertIds layer.slots ∧
          ∀ update, ∃ next,
            layer.updateWeightsRoutine metaInfo weights engine host update = .ok next := by
  constructor
  · intro expertLoadFactor rankExpertIds gpuSlotIds shaped length
    obtain ⟨counts, replicates, replicated⟩ := doReplication_spec valid expertLoadFactor
    obtain ⟨ids, places, placed⟩ := doPlacement_spec valid replicated shaped expertLoadFactor
    obtain ⟨info, prepares, consistent, _⟩ := prepareGpuPlacementInfo_spec replicated placed length
    exact ⟨counts, ids, info, replicates, places, prepares, consistent⟩
  · intro weights engine host slots initialWeightAssignments finalized initial loaded
    obtain ⟨first, returns, sound⟩ := Sound.initial initial loaded
    refine ⟨first, returns, fun layer reached => ?_⟩
    have sound : layer.Sound metaInfo weights host := by
      refine reached.invariant sound fun before update after sound _ updated => ?_
      obtain ⟨next, returns, kept⟩ := sound.update valid finalized engine update
      cases updated.symm.trans returns
      exact kept
    refine ⟨sound.consistent, sound.holds, fun update => ?_⟩
    obtain ⟨next, returns, _⟩ := sound.update valid finalized engine update
    exact ⟨next, returns⟩

/-- Two experts and three slots on each of two ranks. -/
def twoExperts : MoeLoadBalanceMetaInfo where
  expertCount := 2
  epRank := 1
  epSize := 2
  slotCountPerRank := 3

/-- One weight with a byte for each expert. -/
def oneByte : LayerWeights where
  names := ["w"]
  weightSlots := fun _ _ => ⟨1, 1, 1⟩
  hostWeights := fun _ _ => ⟨1, 1, 1⟩

/-- Expert 0 is in the first slot of the rank before an update, and expert 1 in the others. -/
theorem placement_consistent_twoExperts :
    (∃ counts ids info, doReplication twoExperts (fun expertId => expertId) = .ok counts ∧
      doPlacement twoExperts (fun expertId => expertId) counts
        (List.replicate 2 (List.replicate 3 (-1))) = .ok ids ∧
      prepareGpuPlacementInfo twoExperts counts ids (List.replicate 6 0) = .ok info ∧
      Consistent twoExperts ids info) ∧
    ∃ first, (createResources twoExperts fun byte => decide (byte.2.1 ≠
          0)).setInitialWeightAssignments twoExperts [0, 0, 0, 0, 1, 1] = .ok first ∧
      ∀ update, ∃ next, first.updateWeightsRoutine twoExperts oneByte .gpuMemcpy
        (fun byte => decide (byte.2.1 = 1)) update = .ok next := by
  have valid : Valid twoExperts := ⟨by decide, by decide, by decide⟩
  have finalized : oneByte.Finalized twoExperts :=
    ⟨fun _ _ _ _ _ _ => ⟨rfl, rfl⟩, fun _ _ _ _ => Nat.le_refl 1⟩
  have initial : Initial twoExperts [0, 0, 0, 0, 1, 1] := ⟨rfl, by decide, by decide⟩
  have loaded : Holds twoExperts oneByte (fun byte => decide (byte.2.1 = 1))
      (assignedExpertIds twoExperts [0, 0, 0, 0, 1, 1]) fun byte => decide (byte.2.1 ≠ 0) := by
    intro slotId isSlot expertId isExpert name _ row _ col _
    have held : ∀ slotId < 3,
        slotExpert (assignedExpertIds twoExperts [0, 0, 0, 0, 1, 1]) 1 slotId =
        if slotId ≠ 0 then 1 else 0 := by decide
    rw [show twoExperts.epRank = 1 from rfl, held slotId isSlot] at isExpert
    simp only [decide_eq_decide]
    split at isExpert <;> omega
  have consistent := @placement_consistent Bool twoExperts valid
  obtain ⟨first, returns, always⟩ := consistent.2 oneByte .gpuMemcpy _ _ _ finalized initial loaded
  exact ⟨consistent.1 _ _ _ ⟨rfl, by decide⟩ rfl, first, returns, (always first .refl).2.2⟩

/-- Without experts the slots cannot be shared among them. -/
theorem doReplication_noExperts : doReplication
    { expertCount := 0, epRank := 0, epSize := 1, slotCountPerRank := 1 } (fun _ => 0) =
      .error .zeroDivision := by
  rfl

end SingleLayerMoeLoadBalancer

end Moe

end TrtLlm
