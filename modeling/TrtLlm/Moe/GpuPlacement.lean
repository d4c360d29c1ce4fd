import Mathlib.Data.List.Perm.Subperm
import TrtLlm.Lib.Copies
import TrtLlm.Moe.Placement

/-! # The placement for the GPU

The GPU gets one list of global slot ids with a segment for each expert. The segments are
filled while the slots are visited in the order of their ids. Each segment lists the slots that
hold its expert, and all of them together are a permutation of the slots.
-/

namespace TrtLlm

open List

/-- `MoePlacementInfo` -/
structure MoePlacementInfo where
  expertReplicaCount : List Nat
  expertReplicaStartOffset : List Nat
  globalSlotIds : List Nat

namespace Moe

variable (metaInfo : MoeLoadBalanceMetaInfo)

/-- The first loop of `prepareGpuPlacementInfo`. -/
def startOffsets : Nat → List Nat → List Nat
  | _, [] => []
  | startOffset, replicas :: counts => startOffset :: startOffsets (startOffset + replicas) counts

/-- The state of the second loop: the slots of each expert so far, and the list for the GPU. -/
structure SlotLists where
  globalSlotIds : List (List Nat)
  gpuSlotIds : List Nat

/-- What a slot holds. -/
def slotExpert (rankExpertIds : List (List Int)) (rank slotId : Nat) : Int :=
  (rankExpertIds.getD rank []).getD slotId (-1)

/-- A global slot is added to the lists of an expert. -/
def SlotLists.record (lists : SlotLists) (expertReplicaStartOffset : List Nat) (expertId : Int)
    (globalSlotId : Nat) : Except Failure SlotLists :=
  if 0 ≤ expertId ∧ expertId < metaInfo.expertCount then
    let replicaId := (lists.globalSlotIds.getD expertId.toNat []).length
    let offset := expertReplicaStartOffset.getD expertId.toNat 0 + replicaId
    if offset < lists.gpuSlotIds.length then
      .ok
        { globalSlotIds := lists.globalSlotIds.modify expertId.toNat (· ++ [globalSlotId])
          gpuSlotIds := lists.gpuSlotIds.set offset globalSlotId }
    else .error .expertId
  else .error .expertId

/-- The slots of all ranks in the order of the two nested loops. -/
def allSlots : List (Nat × Nat) :=
  (List.range metaInfo.epSize).flatMap fun rank =>
    (List.range metaInfo.slotCountPerRank).map fun slotId => (rank, slotId)

/-- `prepareGpuPlacementInfo`, with the old contents of the list for the GPU. -/
def prepareGpuPlacementInfo (expertReplicaCount : List Nat) (rankExpertIds : List (List Int))
    (gpuSlotIds : List Nat) : Except Failure MoePlacementInfo := do
  let offsets := startOffsets 0 expertReplicaCount
  let lists ← (allSlots metaInfo).foldlM (fun (lists : SlotLists) (rank, slotId) =>
      lists.record metaInfo offsets (slotExpert rankExpertIds rank slotId)
        (rank * metaInfo.slotCountPerRank + slotId))
    { globalSlotIds := List.replicate metaInfo.expertCount [], gpuSlotIds := gpuSlotIds }
  pure
    { expertReplicaCount := expertReplicaCount
      expertReplicaStartOffset := offsets
      globalSlotIds := lists.gpuSlotIds }

variable {metaInfo} {expert other : Nat}

/-! ## Segments -/

theorem getD_startOffsets (startOffset : Nat) {counts : List Nat} (lt : expert < counts.length) :
    (startOffsets startOffset counts).getD expert 0 =
      startOffset + (counts.take expert).sum := by
  induction counts generalizing startOffset expert with
  | nil => cases lt
  | cons replicas counts ih =>
    cases expert with
    | zero => simp [startOffsets]
    | succ expert =>
      have later := ih (startOffset + replicas) (Nat.lt_of_succ_lt_succ lt)
      simp only [startOffsets, getD_cons_succ, later, take_succ_cons, sum_cons]
      omega

/-- The segment of an expert ends where the next one starts, or before. -/
theorem segment_le {counts : List Nat} (before : expert < other) (lt : expert < counts.length) :
    (counts.take expert).sum + counts.getD expert 0 ≤ (counts.take other).sum := by
  have next : (counts.take (expert + 1)).sum = (counts.take expert).sum + counts.getD expert 0 := by
    rw [take_add_one, sum_append, getElem?_eq_getElem lt, Option.toList_some,
      sum_singleton, getD_eq_getElem?_getD, getElem?_eq_getElem lt]
    rfl
  have more : (counts.take (expert + 1)).sum ≤ (counts.take other).sum := by
    obtain ⟨rest, rfl⟩ := Nat.exists_eq_add_of_le before
    conv_rhs => rw [take_add, sum_append]
    exact Nat.le_add_right _ _
  omega

/-- No two places of segments are the same. -/
theorem segment_inj {counts : List Nat} {idx index' : Nat} (lt : expert < counts.length)
    (isOther : other < counts.length) (bound : idx < counts.getD expert 0)
    (bound' : index' < counts.getD other 0)
    (same : (counts.take expert).sum + idx = (counts.take other).sum + index') :
    expert = other ∧ idx = index' := by
  rcases Nat.lt_trichotomy expert other with less | rfl | more
  · have := segment_le less lt
    omega
  · exact ⟨rfl, by omega⟩
  · have := segment_le more isOther
    omega

/-! ## The slots of an expert -/

variable {counts : List Nat} {rankExpertIds : List (List Int)}

/-- The expert in a global slot. -/
def holder (rankExpertIds : List (List Int)) (globalSlotId : Nat) : Int :=
  rankExpertIds.flatten.getD globalSlotId (-1)

/-- The slots that hold an expert, in the order of their ids. -/
def slotsOf (rankExpertIds : List (List Int)) (slots expertId : Nat) : List Nat :=
  (List.range slots).filter fun globalSlotId => holder rankExpertIds globalSlotId = expertId

theorem slotsOf_succ (slots expertId : Nat) : slotsOf rankExpertIds (slots + 1) expertId =
    if holder rankExpertIds slots = expertId then slotsOf rankExpertIds slots expertId ++ [slots]
    else slotsOf rankExpertIds slots expertId := by
  unfold slotsOf
  rw [range_succ, filter_append, filter_singleton]
  split
  · rename_i holds
    rw [decide_eq_true holds]
    rfl
  · rename_i holds
    rw [decide_eq_false holds]
    exact append_nil _

theorem Shaped.length_flatten (shaped : Shaped metaInfo rankExpertIds) :
    rankExpertIds.flatten.length = totalSlotCount metaInfo := by
  rw [List.length_flatten, List.map_eq_replicate_iff.mpr shaped.2, List.sum_replicate_nat, shaped.1]
  rfl

theorem Shaped.slotExpert_eq (shaped : Shaped metaInfo rankExpertIds) {rank slotId : Nat}
    (lt : slotId < metaInfo.slotCountPerRank) : slotExpert rankExpertIds rank slotId =
      holder rankExpertIds (rank * metaInfo.slotCountPerRank + slotId) := by
  have flat : rankExpertIds.flatten[rank * metaInfo.slotCountPerRank + slotId]? =
      rankExpertIds[rank]?.bind fun ids => ids[slotId]? := by
    rw [← flatMap_id]
    exact getElem?_flatMap_of_length shaped.2 lt
  simp only [holder, slotExpert, getD_eq_getElem?_getD, flat]
  cases rankExpertIds[rank]? with
  | none => rfl
  | some ids => rfl

theorem Placed.length_slotsOf (placed : Placed metaInfo counts rankExpertIds)
    (lt : expert < metaInfo.expertCount) :
    (slotsOf rankExpertIds (totalSlotCount metaInfo) expert).length = counts.getD expert 0 := by
  have all : (List.range (totalSlotCount metaInfo)).map (holder rankExpertIds) =
      rankExpertIds.flatten := by
    refine ext_getElem ?_ fun idx _ inFlat => ?_
    · rw [length_map, length_range, placed.shaped.length_flatten]
    · rw [getElem_map, getElem_range, holder, getD_eq_getElem?_getD,
        getElem?_eq_getElem inFlat]
      rfl
  rw [← placed.counted expert lt, ← all, List.count, countP_map, countP_eq_length_filter]
  rfl

/-- The expert in a slot. -/
theorem Placed.holder_eq (placed : Placed metaInfo counts rankExpertIds) {globalSlotId : Nat}
    (lt : globalSlotId < totalSlotCount metaInfo) :
    ∃ expertId : Nat, expertId < metaInfo.expertCount ∧
      holder rankExpertIds globalSlotId = expertId := by
  have inFlat : globalSlotId < rankExpertIds.flatten.length := placed.shaped.length_flatten ▸ lt
  have held : holder rankExpertIds globalSlotId = rankExpertIds.flatten[globalSlotId] := by
    rw [holder, getD_eq_getElem?_getD, getElem?_eq_getElem inFlat]
    rfl
  obtain ⟨ids, isRank, mem⟩ := mem_flatten.mp (getElem_mem inFlat)
  obtain ⟨nonnegative, bound⟩ := placed.inRange ids isRank _ mem
  rw [held]
  exact ⟨_, by omega, (Int.toNat_of_nonneg nonnegative).symm⟩

/-- What is known of the lists when some slots have been visited. -/
structure Lists (metaInfo : MoeLoadBalanceMetaInfo) (counts : List Nat)
    (rankExpertIds : List (List Int)) (slots : Nat) (lists : SlotLists) : Prop where
  experts : lists.globalSlotIds.length = metaInfo.expertCount
  slotIds : ∀ expertId < metaInfo.expertCount,
    lists.globalSlotIds.getD expertId [] = slotsOf rankExpertIds slots expertId
  length : lists.gpuSlotIds.length = totalSlotCount metaInfo
  segments : ∀ expertId < metaInfo.expertCount, ∀ index, 
    index < (slotsOf rankExpertIds slots expertId).length →
    lists.gpuSlotIds[(counts.take expertId).sum + index]? =
      (slotsOf rankExpertIds slots expertId)[index]?

section Record

variable {slots : Nat} {lists : SlotLists} (experts : counts.length = metaInfo.expertCount)
  (total : counts.sum = totalSlotCount metaInfo) (placed : Placed metaInfo counts rankExpertIds)
include experts total placed

/-- Visiting the next slot. -/
theorem Lists.record (known : Lists metaInfo counts rankExpertIds slots lists)
    (lt : slots < totalSlotCount metaInfo) :
    ∃ next, lists.record metaInfo (startOffsets 0 counts) (holder rankExpertIds slots) slots =
        .ok next ∧ Lists metaInfo counts rankExpertIds (slots + 1) next := by
  obtain ⟨expert, isExpert, held⟩ := placed.holder_eq lt
  have inCounts : expert < counts.length := experts ▸ isExpert
  -- the slot is one of those of its expert, and those before it are fewer
  have grown : ∀ other < metaInfo.expertCount,
      (slotsOf rankExpertIds (slots + 1) other).length ≤ counts.getD other 0 := by
    intro other isOther
    rw [← placed.length_slotsOf isOther]
    exact ((range_sublist.mpr lt).filter _).length_le
  have free : (slotsOf rankExpertIds slots expert).length < counts.getD expert 0 := by
    have grown := grown expert isExpert
    rw [slotsOf_succ, if_pos held, length_append] at grown
    exact grown
  have bound : (counts.take expert).sum + (slotsOf rankExpertIds slots expert).length <
      totalSlotCount metaInfo := by
    have ends := segment_le inCounts inCounts
    rw [take_length, total] at ends
    omega
  unfold SlotLists.record
  rw [held, if_pos ⟨Int.natCast_nonneg _, Int.ofNat_lt.mpr isExpert⟩, Int.toNat_natCast]
  rw [known.slotIds expert isExpert, getD_startOffsets 0 inCounts, Nat.zero_add, known.length,
    if_pos bound]
  refine ⟨_, rfl, ?_, fun other isOther => ?_, ?_, fun other isOther idx isIndex => ?_⟩
  · rw [length_modify, known.experts]
  · rw [slotsOf_succ, held]
    by_cases same : expert = other
    · subst same
      rw [getD_modify_self (known.experts ▸ isExpert), known.slotIds _ isExpert, if_pos rfl]
    · rw [getD_modify_ne same, known.slotIds other isOther, if_neg (by simpa using same)]
  · rw [length_set, known.length]
  · have within := Nat.lt_of_lt_of_le isIndex (grown other isOther)
    by_cases here : (counts.take expert).sum + (slotsOf rankExpertIds slots expert).length =
        (counts.take other).sum + idx
    · obtain ⟨rfl, rfl⟩ := segment_inj inCounts (experts ▸ isOther) free within here
      rw [getElem?_set_self (known.length ▸ bound), slotsOf_succ, if_pos held,
        getElem?_concat_length]
    · rw [getElem?_set_ne here]
      rw [slotsOf_succ, held] at isIndex ⊢
      split at isIndex
      · rename_i same
        obtain rfl : expert = other := Int.ofNat_inj.mp same
        rw [length_append, length_singleton] at isIndex
        have isOld : idx < (slotsOf rankExpertIds slots expert).length := by omega
        rw [if_pos rfl, getElem?_append_left isOld]
        exact known.segments expert isExpert idx isOld
      · rename_i ne
        rw [if_neg ne]
        exact known.segments other isOther idx isIndex

theorem foldlM_record (start : SlotLists)
    (initially : Lists metaInfo counts rankExpertIds 0 start) (visited : Nat)
    (bound : visited ≤ totalSlotCount metaInfo) :
    ∃ last, (List.range visited).foldlM (fun (lists : SlotLists) globalSlotId =>
        lists.record metaInfo (startOffsets 0 counts) (holder rankExpertIds globalSlotId)
          globalSlotId) start = .ok last ∧ Lists metaInfo counts rankExpertIds visited last := by
  induction visited with
  | zero => exact ⟨start, rfl, initially⟩
  | succ visited ih =>
    obtain ⟨before, looped, known⟩ := ih (Nat.le_of_succ_le bound)
    obtain ⟨last, recorded, known⟩ := known.record experts total placed bound
    refine ⟨last, ?_, known⟩
    rw [range_succ, foldlM_append, looped]
    dsimp only [bind, Except.bind]
    rw [foldlM_cons, recorded]
    rfl

end Record

/-- The two nested loops visit the slots in the order of their ids. -/
theorem foldlM_allSlots (shaped : Shaped metaInfo rankExpertIds) (offsets : List Nat)
    (start : SlotLists) : (allSlots metaInfo).foldlM (fun (lists : SlotLists) (rank, slotId) =>
      lists.record metaInfo offsets (slotExpert rankExpertIds rank slotId)
        (rank * metaInfo.slotCountPerRank + slotId)) start =
    (List.range (totalSlotCount metaInfo)).foldlM (fun (lists : SlotLists) globalSlotId =>
      lists.record metaInfo offsets (holder rankExpertIds globalSlotId) globalSlotId) start := by
  have ids : (allSlots metaInfo).map (fun slot => slot.1 * metaInfo.slotCountPerRank + slot.2) =
      List.range (totalSlotCount metaInfo) := by
    rw [allSlots, map_flatMap]
    simp only [map_map]
    exact flatMap_range_range metaInfo.epSize metaInfo.slotCountPerRank
  rw [← ids, foldlM_map]
  refine foldlM_congr (fun slot mem lists => ?_) start
  obtain ⟨rank, _, isSlot⟩ := mem_flatMap.mp mem
  obtain ⟨slotId, lt, rfl⟩ := mem_map.mp isSlot
  dsimp only
  rw [shaped.slotExpert_eq (mem_range.mp lt)]

/-- The placement for the GPU fits the experts in the slots. -/
structure Consistent (metaInfo : MoeLoadBalanceMetaInfo) (rankExpertIds : List (List Int))
    (info : MoePlacementInfo) : Prop where
  replicas : ∀ expertId < metaInfo.expertCount, 0 < info.expertReplicaCount.getD expertId 0
  filled : Shaped metaInfo rankExpertIds ∧
    ∀ ids ∈ rankExpertIds, ∀ id ∈ ids, 0 ≤ id ∧ id < metaInfo.expertCount
  slots : info.globalSlotIds.Perm (List.range (totalSlotCount metaInfo))
  segments : ∀ expertId < metaInfo.expertCount,
    (info.globalSlotIds.drop (info.expertReplicaStartOffset.getD expertId 0)).take
        (info.expertReplicaCount.getD expertId 0) =
      slotsOf rankExpertIds (totalSlotCount metaInfo) expertId

theorem prepareGpuPlacementInfo_spec (replicated : Replicated metaInfo counts)
    (placed : Placed metaInfo counts rankExpertIds) {gpuSlotIds : List Nat}
    (sameLength : gpuSlotIds.length = totalSlotCount metaInfo) :
    ∃ info, prepareGpuPlacementInfo metaInfo counts rankExpertIds gpuSlotIds = .ok info ∧
      Consistent metaInfo rankExpertIds info ∧
      info.globalSlotIds.length = totalSlotCount metaInfo := by
  have initially : Lists metaInfo counts rankExpertIds 0
      { globalSlotIds := List.replicate metaInfo.expertCount [], gpuSlotIds := gpuSlotIds } := by
    refine ⟨length_replicate, fun expertId lt => ?_, sameLength, fun _ _ _ none => ?_⟩
    · rw [getD_eq_getElem?_getD, getElem?_replicate, if_pos lt]
      rfl
    · cases none
  obtain ⟨last, looped, known⟩ := foldlM_record replicated.experts replicated.total placed _
    initially _ (Nat.le_refl _)
  have segments : ∀ expertId < metaInfo.expertCount,
      (last.gpuSlotIds.drop ((startOffsets 0 counts).getD expertId 0)).take
        (counts.getD expertId 0) = slotsOf rankExpertIds (totalSlotCount metaInfo) expertId := by
    intro expertId lt
    have inCounts : expertId < counts.length := replicated.experts ▸ lt
    rw [getD_startOffsets 0 inCounts, Nat.zero_add, ← placed.length_slotsOf lt]
    refine ext_getElem? fun idx => ?_
    rw [getElem?_take]
    split
    · rename_i isIndex
      rw [getElem?_drop]
      exact known.segments expertId lt idx isIndex
    · rename_i outside
      exact (getElem?_eq_none (Nat.le_of_not_lt outside)).symm
  refine ⟨⟨counts, startOffsets 0 counts, last.gpuSlotIds⟩, ?_,
    ⟨replicated.positive, ⟨placed.shaped, placed.inRange⟩, ?_, segments⟩, known.length⟩
  · unfold prepareGpuPlacementInfo
    dsimp only
    rw [foldlM_allSlots placed.shaped, looped]
    rfl
  · -- every slot is in the segment of its expert, and the list is not longer than that
    refine (List.Subperm.perm_of_length_le ?_ ?_).symm
    · refine nodup_range.subperm fun globalSlotId isSlot => ?_
      obtain ⟨expertId, lt, held⟩ := placed.holder_eq (mem_range.mp isSlot)
      have mem : globalSlotId ∈ slotsOf rankExpertIds (totalSlotCount metaInfo) expertId :=
        mem_filter.mpr ⟨isSlot, decide_eq_true held⟩
      rw [← segments expertId lt] at mem
      exact mem_of_mem_drop (mem_of_mem_take mem)
    · rw [length_range, known.length]

end Moe

end TrtLlm
