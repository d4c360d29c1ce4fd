import TrtLlm.Transfer.CacheLayout

/-! # Blocks of context-parallel ranks

The blocks of a sequence are divided between context-parallel ranks, in turns or in contiguous
parts; the ranks before `blocks % ranks` have one block more. The requests of a generation server
are divided in contiguous parts of the same sizes.
-/

namespace TrtLlm

open Segments (exists_segment lt_length_of_start_lt start start_mono start_of_length_le start_succ)

open List

/-- `getBlockNumAccountingForCP`. Every caller passes a rank below the number of
ranks, which the source checks. -/
def getBlockNumAccountingForCP (cpRank cpSize numTotalBlocks : Nat) : Nat :=
  if cpSize = 1 then numTotalBlocks
  else
    let numBlocksCurrRank := numTotalBlocks / cpSize
    if numTotalBlocks % cpSize > cpRank then numBlocksCurrRank + 1 else numBlocksCurrRank

/-- `getGlobalBlockIdAccountingForCP`; the flag is the value of
`TRTLLM_USE_ROUND_ROBIN_BLOCK_DIST_FOR_CP`. -/
def getGlobalBlockIdAccountingForCP (roundRobin : Bool) (localBlockIdx cpSize cpRank
    numTotalBlocks : Nat) : Nat :=
  if roundRobin then localBlockIdx * cpSize + cpRank
  else
    let minBlocksPerCPRank := numTotalBlocks / cpSize
    let minBlocksOnPrevCPRanks := minBlocksPerCPRank * cpRank
    let numOverflowRanks := numTotalBlocks % cpSize
    let overflowBlocksOnPrevCPRanks := min cpRank numOverflowRanks
    minBlocksOnPrevCPRanks + overflowBlocksOnPrevCPRanks + localBlockIdx

/-- The blocks of each of the ranks. -/
def cpBlockNums (cpSize numTotalBlocks : Nat) : List Nat :=
  (List.range cpSize).map fun cpRank => getBlockNumAccountingForCP cpRank cpSize numTotalBlocks

/-- `splitKVCacheForMLAKernel`: the rank that a block goes to and which of its blocks it
is. In contiguous mode it is found from the prefix sums of the numbers of blocks, as in
`getBlockIdInDomainCPandRankInDomainCP`. -/
def getBlockPosition (roundRobin : Bool) (domainCPSize inputBlockNum blockId : Nat) :
    Option (Nat × Nat) :=
  if domainCPSize > 1 ∧ !roundRobin then
    let prefixBlockNum := Segments.start (cpBlockNums domainCPSize inputBlockNum)
    ((List.range domainCPSize).find? fun cpRank =>
      prefixBlockNum cpRank ≤ blockId ∧ blockId < prefixBlockNum (cpRank + 1)).map fun cpRank =>
        (blockId - prefixBlockNum cpRank, cpRank)
  else some (blockId / domainCPSize, blockId % domainCPSize)

section Blocks

variable {roundRobin : Bool} {cpSize cpRank num blockId localBlock : Nat}

theorem getBlockNumAccountingForCP_eq (cpRank cpSize num : Nat) :
    getBlockNumAccountingForCP cpRank cpSize num =
      num / cpSize + if num % cpSize > cpRank then 1 else 0 := by
  unfold getBlockNumAccountingForCP
  split
  · rename_i one
    subst one
    rw [Nat.div_one, Nat.mod_one, if_neg (Nat.not_lt_zero _), Nat.add_zero]
  · dsimp only
    split <;> rfl

theorem getD_cpBlockNums (bound : cpRank < cpSize) : (cpBlockNums cpSize num).getD cpRank 0 =
      getBlockNumAccountingForCP cpRank cpSize num := by
  rw [getD_eq_getElem?_getD, cpBlockNums, getElem?_map, getElem?_range bound]
  rfl

/-- The blocks of the ranks before one. -/
theorem start_cpBlockNums (bound : cpRank ≤ cpSize) :
    start (cpBlockNums cpSize num) cpRank =
      num / cpSize * cpRank + min cpRank (num % cpSize) := by
  induction cpRank with
  | zero => simp
  | succ cpRank ih =>
    rw [start_succ, ih (Nat.le_of_succ_le bound), getD_cpBlockNums bound,
      getBlockNumAccountingForCP_eq, Nat.mul_succ]
    split <;> omega

/-- The ranks have all blocks together. -/
theorem sum_cpBlockNums (pos : 0 < cpSize) : (cpBlockNums cpSize num).sum = num := by
  have length : (cpBlockNums cpSize num).length = cpSize := by simp [cpBlockNums]
  have remainder := Nat.mod_lt num pos
  have division := Nat.div_add_mod num cpSize
  rw [Nat.mul_comm] at division
  rw [← start_of_length_le length.le, start_cpBlockNums (Nat.le_refl _)]
  omega

theorem start_cpBlockNums_all (pos : 0 < cpSize) :
    start (cpBlockNums cpSize num) cpSize = num := by
  rw [start_of_length_le (by simp [cpBlockNums]), sum_cpBlockNums pos]

theorem global_contiguous (bound : cpRank ≤ cpSize) :
    getGlobalBlockIdAccountingForCP false localBlock cpSize cpRank num =
      start (cpBlockNums cpSize num) cpRank + localBlock := by
  rw [start_cpBlockNums bound]
  rfl

theorem global_roundRobin : getGlobalBlockIdAccountingForCP true localBlock cpSize cpRank num =
    localBlock * cpSize + cpRank := rfl

/-- A local block is one of all blocks. -/
theorem global_lt (rankLt : cpRank < cpSize)
    (bound : localBlock < getBlockNumAccountingForCP cpRank cpSize num) :
    getGlobalBlockIdAccountingForCP roundRobin localBlock cpSize cpRank num < num := by
  have pos := Nat.zero_lt_of_lt rankLt
  cases roundRobin with
  | false =>
    have next : start (cpBlockNums cpSize num) (cpRank + 1) ≤ num :=
      (start_mono rankLt).trans_eq (start_cpBlockNums_all pos)
    rw [start_succ, getD_cpBlockNums rankLt] at next
    rw [global_contiguous rankLt.le]
    omega
  | true =>
    have division := Nat.div_add_mod num cpSize
    rw [getBlockNumAccountingForCP_eq] at bound
    rw [global_roundRobin]
    split at bound
    · have turns : localBlock * cpSize ≤ cpSize * (num / cpSize) := by
        rw [Nat.mul_comm]
        exact Nat.mul_le_mul_left _ (Nat.le_of_lt_succ bound)
      omega
    · have turns : (localBlock + 1) * cpSize ≤ cpSize * (num / cpSize) := by
        rw [Nat.mul_comm]
        exact Nat.mul_le_mul_left _ bound
      rw [Nat.succ_mul] at turns
      omega

/-- Every block is a local block of a rank. -/
theorem exists_global_eq (roundRobin : Bool) (pos : 0 < cpSize) (bound : blockId < num) :
    ∃ cpRank < cpSize, ∃ localBlock < getBlockNumAccountingForCP cpRank cpSize num,
      getGlobalBlockIdAccountingForCP roundRobin localBlock cpSize cpRank num = blockId := by
  cases roundRobin with
  | false =>
    have total : blockId < (cpBlockNums cpSize num).sum := by
      rwa [sum_cpBlockNums pos]
    obtain ⟨cpRank, first, last⟩ := exists_segment total
    have rankLt : cpRank < cpSize := by
      have bound := lt_length_of_start_lt (first.trans_lt total)
      simpa [cpBlockNums] using bound
    rw [start_succ, getD_cpBlockNums rankLt] at last
    refine ⟨cpRank, rankLt, blockId - start (cpBlockNums cpSize num) cpRank, by omega, ?_⟩
    rw [global_contiguous rankLt.le]
    omega
  | true =>
    refine ⟨blockId % cpSize, Nat.mod_lt _ pos, blockId / cpSize, ?_, ?_⟩
    · have division := Nat.div_add_mod num cpSize
      have blockDivision := Nat.div_add_mod blockId cpSize
      have order : blockId / cpSize ≤ num / cpSize := Nat.div_le_div_right bound.le
      rw [getBlockNumAccountingForCP_eq]
      split
      · omega
      · rcases Nat.lt_or_eq_of_le order with less | same
        · omega
        · rw [same] at blockDivision
          omega
    · rw [global_roundRobin, Nat.div_add_mod']

/-- The kernel finds the rank and the local index of a block. -/
theorem getBlockPosition_global (rankLt : cpRank < cpSize)
    (bound : localBlock < getBlockNumAccountingForCP cpRank cpSize num) :
    getBlockPosition roundRobin cpSize num
        (getGlobalBlockIdAccountingForCP roundRobin localBlock cpSize cpRank num) =
      some (localBlock, cpRank) := by
  have pos := Nat.zero_lt_of_lt rankLt
  cases roundRobin with
  | false =>
    rw [global_contiguous rankLt.le]
    have range : start (cpBlockNums cpSize num) cpRank ≤
        start (cpBlockNums cpSize num) cpRank + localBlock ∧
          start (cpBlockNums cpSize num) cpRank + localBlock <
            start (cpBlockNums cpSize num) (cpRank + 1) := by
      rw [start_succ, getD_cpBlockNums rankLt]
      omega
    unfold getBlockPosition
    split
    · simp only [find?_segment rankLt range, Option.map_some, Nat.add_sub_cancel_left]
    · rename_i single
      have one : cpSize = 1 := by
        simp at single
        omega
      subst one
      have zero : cpRank = 0 := by omega
      subst zero
      simp [Nat.mod_one]
  | true =>
    rw [global_roundRobin, getBlockPosition, if_neg (by simp), Nat.mul_comm,
      Nat.mul_add_div pos, Nat.div_eq_of_lt rankLt, Nat.add_zero, Nat.mul_add_mod,
      Nat.mod_eq_of_lt rankLt]

/-- What the kernel finds for a block is its rank and its local index. -/
theorem global_of_getBlockPosition (pos : 0 < cpSize) (bound : blockId < num)
    (found : getBlockPosition roundRobin cpSize num blockId = some (localBlock, cpRank)) :
    getGlobalBlockIdAccountingForCP roundRobin localBlock cpSize cpRank num = blockId := by
  obtain ⟨rank, rankLt, block, blockBound, rfl⟩ := exists_global_eq roundRobin pos bound
  rw [getBlockPosition_global rankLt blockBound] at found
  cases found
  rfl

/-- The blocks of a rank are in their order. -/
theorem global_lt_global {later : Nat} (rankLt : cpRank < cpSize) (order : localBlock < later) :
    getGlobalBlockIdAccountingForCP roundRobin localBlock cpSize cpRank num <
      getGlobalBlockIdAccountingForCP roundRobin later cpSize cpRank num := by
  cases roundRobin with
  | false =>
    exact Nat.add_lt_add_left order _
  | true =>
    have pos := Nat.zero_lt_of_lt rankLt
    exact Nat.add_lt_add_right (Nat.mul_lt_mul_of_pos_right order pos) _

end Blocks

/-! ## Requests of a generation server -/

/-- `torch.split`: consecutive parts of one size. -/
def splitEvery {α : Type} (size : Nat) : Nat → List α → List (List α)
  | 0, _ => []
  | count + 1, list => list.take size :: splitEvery size count (list.drop size)

/-- Consecutive parts of given sizes. -/
def splitSizes {α : Type} : List Nat → List α → List (List α)
  | [], _ => []
  | size :: sizes, list => list.take size :: splitSizes sizes (list.drop size)

/-- `torch.tensor_split` into a number of sections: the first `length % sections` of
them have one element more than the others. -/
def tensorSplit {α : Type} (sections : Nat) (list : List α) : List (List α) :=
  splitSizes ((List.range sections).map fun section_ =>
    if section_ < list.length % sections then list.length / sections + 1
    else list.length / sections) list

/-- `_merge_helix_requests`: the part of the tokens and of their positions that a rank
works on, or nothing if there are fewer blocks than ranks. -/
def mergeHelixRequest (tokensPerBlock numCpRanks currCpRank : Nat) (inputTokenIds : List Nat) :
    Option (List Nat × List Nat) :=
  let inputLen := inputTokenIds.length
  let numTotalBlocks := (inputLen + tokensPerBlock - 1) / tokensPerBlock
  if numTotalBlocks < numCpRanks then none
  else
    let paddingLen :=
      if inputLen % tokensPerBlock ≠ 0 then tokensPerBlock - inputLen % tokensPerBlock else 0
    let allInputIds := inputTokenIds ++ List.replicate paddingLen 0
    let allPositionIds := List.range (inputLen + paddingLen)
    let idBlocksPerRank := tensorSplit numCpRanks
      (splitEvery tokensPerBlock numTotalBlocks allInputIds)
    let positionBlocksPerRank :=
      tensorSplit numCpRanks (splitEvery tokensPerBlock numTotalBlocks allPositionIds)
    let inputIdsThisRank := (idBlocksPerRank.getD currCpRank []).flatten
    let positionIdsThisRank := (positionBlocksPerRank.getD currCpRank []).flatten
    if currCpRank = numCpRanks - 1 ∧ paddingLen > 0 then
      some (inputIdsThisRank.take (inputIdsThisRank.length - paddingLen),
        positionIdsThisRank.take (positionIdsThisRank.length - paddingLen))
    else some (inputIdsThisRank, positionIdsThisRank)

/-- The blocks of a list that a rank has in contiguous mode, joined. -/
def rankPart {α : Type} (tokensPerBlock cpSize cpRank blockNum : Nat) (list : List α) : List α :=
  (list.drop (getGlobalBlockIdAccountingForCP false 0 cpSize cpRank blockNum * tokensPerBlock)).take
    (getBlockNumAccountingForCP cpRank cpSize blockNum * tokensPerBlock)

variable {count : Nat}

section Splits

variable {α : Type}

theorem length_splitEvery (size count : Nat) (list : List α) :
    (splitEvery size count list).length = count := by
  induction count generalizing list with
  | zero => rfl
  | succ count ih => rw [splitEvery, length_cons, ih]

variable {size first : Nat} {list padding : List α}

/-- Consecutive parts are a part of the list. -/
theorem flatten_splitEvery (list : List α) :
    (splitEvery size count list).flatten = list.take (count * size) := by
  induction count generalizing list with
  | zero => simp [splitEvery]
  | succ count ih =>
    rw [splitEvery, flatten_cons, ih, Nat.succ_mul, Nat.add_comm, take_add]

theorem drop_splitEvery (list : List α) (bound : first ≤ count) :
    (splitEvery size count list).drop first =
      splitEvery size (count - first) (list.drop (first * size)) := by
  induction first generalizing count list with
  | zero => simp
  | succ first ih =>
    cases count with
    | zero => omega
    | succ count =>
      rw [splitEvery, drop_succ_cons, ih _ (Nat.le_of_succ_le_succ bound), drop_drop,
        Nat.succ_mul, Nat.add_comm size, Nat.succ_sub_succ]

theorem take_splitEvery (list : List α) (bound : first ≤ count) :
    (splitEvery size count list).take first = splitEvery size first list := by
  induction first generalizing count list with
  | zero => rfl
  | succ first ih =>
    cases count with
    | zero => omega
    | succ count =>
      rw [splitEvery, take_succ_cons, ih _ (Nat.le_of_succ_le_succ bound), splitEvery]

theorem getElem?_splitSizes {sizes : List Nat} {idx : Nat} (list : List α)
    (bound : idx < sizes.length) : (splitSizes sizes list)[idx]? =
      some ((list.drop (start sizes idx)).take (sizes.getD idx 0)) := by
  induction sizes generalizing idx list with
  | nil => simp at bound
  | cons size sizes ih =>
    cases idx with
    | zero => simp [splitSizes]
    | succ idx =>
      rw [splitSizes, getElem?_cons_succ, ih _ (Nat.lt_of_succ_lt_succ bound), drop_drop]
      simp [start]

/-- The sections have the sizes of the ranks' parts of the blocks. -/
theorem sizes_tensorSplit (sections length : Nat) : ((List.range sections).map fun section_ =>
      if section_ < length % sections then length / sections + 1 else length / sections) =
        cpBlockNums sections length := by
  apply map_congr_left
  intro section_ _
  rw [getBlockNumAccountingForCP_eq]
  split <;> rfl

/-- The blocks of a rank, joined, are a part of the list. -/
theorem flatten_tensorSplit {tpb cpSize cpRank num : Nat} (list : List α)
    (rankLt : cpRank < cpSize) :
    ((tensorSplit cpSize (splitEvery tpb num list)).getD cpRank []).flatten =
      rankPart tpb cpSize cpRank num list := by
  have pos := Nat.zero_lt_of_lt rankLt
  have next : start (cpBlockNums cpSize num) (cpRank + 1) ≤ num :=
    (start_mono rankLt).trans_eq (start_cpBlockNums_all pos)
  rw [start_succ, getD_cpBlockNums rankLt] at next
  rw [tensorSplit, length_splitEvery, sizes_tensorSplit, getD_eq_getElem?_getD,
    getElem?_splitSizes _ (by simpa [cpBlockNums] using rankLt), Option.getD_some,
    getD_cpBlockNums rankLt, drop_splitEvery _ (by omega), take_splitEvery _ (by omega),
    flatten_splitEvery, rankPart, global_contiguous rankLt.le, Nat.add_zero]

/-- A part that ends before the padding. -/
theorem take_drop_append (before : first + size ≤ list.length) :
    ((list ++ padding).drop first).take size = (list.drop first).take size := by
  rw [drop_append_of_le_length (by omega), take_append_of_le_length]
  rw [length_drop]
  omega

/-- The last part, without the padding. -/
theorem take_take_drop_append (lt : first ≤ list.length)
    (last : first + size = list.length + padding.length) :
    (((list ++ padding).drop first).take size).take
        ((((list ++ padding).drop first).take size).length - padding.length) =
      (list.drop first).take size := by
  have all : ((list ++ padding).drop first).take size = list.drop first ++ padding := by
    rw [drop_append_of_le_length lt]
    apply take_of_length_le
    rw [length_append, length_drop]
    omega
  rw [all, length_append, Nat.add_sub_cancel, take_left]
  symm
  apply take_of_length_le
  rw [length_drop]
  omega

end Splits

section Helix

variable {tpb cpSize cpRank : Nat} {length num : Nat}

/-- The number of blocks that tokens need. -/
def blockCount (tokensPerBlock length : Nat) : Nat :=
  (length + tokensPerBlock - 1) / tokensPerBlock

/-- The tokens of a block. -/
def tokensOfBlock (tokensPerBlock : Nat) (tokens : List Nat) (blockId : Nat) : List Nat :=
  (tokens.drop (blockId * tokensPerBlock)).take tokensPerBlock

/-- The last block has at least one token and at most as many as fit. -/
theorem blockCount_bounds (pos : 0 < tpb) (length : Nat) : length ≤ blockCount tpb length * tpb ∧
      blockCount tpb length * tpb < length + tpb := by
  have division := Nat.div_add_mod (length + tpb - 1) tpb
  have remainder := Nat.mod_lt (length + tpb - 1) pos
  rw [Nat.mul_comm] at division
  rw [blockCount]
  omega

theorem blockCount_unique (pos : 0 < tpb) (enough : length ≤ count * tpb)
    (needed : count * tpb < length + tpb) : blockCount tpb length = count := by
  obtain ⟨lower, upper⟩ := blockCount_bounds pos length
  apply Nat.le_antisymm
  · apply Nat.le_of_lt_succ
    apply Nat.lt_of_mul_lt_mul_right (a := tpb)
    rw [Nat.succ_mul]
    omega
  · apply Nat.le_of_lt_succ
    apply Nat.lt_of_mul_lt_mul_right (a := tpb)
    rw [Nat.succ_mul]
    omega

/-- With the padding all blocks are full. -/
theorem length_add_padding (pos : 0 < tpb) (length : Nat) :
    (length + if length % tpb ≠ 0 then tpb - length % tpb else 0) =
      blockCount tpb length * tpb := by
  have division := Nat.div_add_mod length tpb
  have remainder := Nat.mod_lt length pos
  rw [Nat.mul_comm] at division
  split
  · have count : blockCount tpb length = length / tpb + 1 := by
      apply blockCount_unique pos
      all_goals rw [Nat.succ_mul]; omega
    rw [count, Nat.succ_mul]
    omega
  · have count : blockCount tpb length = length / tpb := by
      apply blockCount_unique pos
      all_goals omega
    rw [count]
    omega

/-- If there are at least as many blocks as ranks, each of them has one. -/
theorem getBlockNumAccountingForCP_pos (pos : 0 < cpSize) (enough : cpSize ≤ num) (cpRank : Nat) :
    0 < getBlockNumAccountingForCP cpRank cpSize num := by
  rw [getBlockNumAccountingForCP_eq]
  exact Nat.add_pos_left (Nat.div_pos enough pos) _

/-- A block that is not after the last one starts before the end of the tokens. -/
theorem mul_le_length (needed : num * tpb < length + tpb) {blockId : Nat} (bound : blockId < num) :
    blockId * tpb ≤ length := by
  have order : (blockId + 1) * tpb ≤ num * tpb := Nat.mul_le_mul_right _ bound
  rw [Nat.succ_mul] at order
  omega

/-- The part of a rank ends where that of the next one begins. -/
theorem rankPart_end (rankLt : cpRank < cpSize) (tpb num : Nat) :
    getGlobalBlockIdAccountingForCP false 0 cpSize cpRank num * tpb +
      getBlockNumAccountingForCP cpRank cpSize num * tpb =
        start (cpBlockNums cpSize num) (cpRank + 1) * tpb := by
  rw [start_succ, getD_cpBlockNums rankLt, global_contiguous rankLt.le, Nat.add_zero,
    Nat.add_mul]

/-- Only the last rank has padding, and it is removed there. -/
theorem rankPart_padded {α : Type} (rankLt : cpRank < cpSize) (enough : cpSize ≤ num)
    (list padding : List α) (full : list.length + padding.length = num * tpb)
    (needed : padding.length < tpb) :
    (if cpRank = cpSize - 1 ∧ padding.length > 0 then
      (rankPart tpb cpSize cpRank num (list ++ padding)).take
        ((rankPart tpb cpSize cpRank num (list ++ padding)).length - padding.length)
      else rankPart tpb cpSize cpRank num (list ++ padding)) =
        rankPart tpb cpSize cpRank num list := by
  have pos := Nat.zero_lt_of_lt rankLt
  have last : num * tpb < list.length + tpb := by omega
  have size := rankPart_end rankLt tpb num
  split
  · rename_i lastRank
    have all : cpRank + 1 = cpSize := by omega
    apply take_take_drop_append
    · exact mul_le_length last (global_lt rankLt (getBlockNumAccountingForCP_pos pos enough cpRank))
    · rw [size, all, start_cpBlockNums_all pos, full]
  · rename_i notLast
    rcases Nat.eq_zero_or_pos padding.length with none | some
    · rw [length_eq_zero_iff.mp none, append_nil]
    · have later : cpRank + 1 < cpSize := by omega
      have bound : getGlobalBlockIdAccountingForCP false 0 cpSize (cpRank + 1) num < num :=
        global_lt later (getBlockNumAccountingForCP_pos pos enough _)
      rw [global_contiguous later.le, Nat.add_zero] at bound
      apply take_drop_append
      rw [size]
      exact mul_le_length last bound

variable {tokens : List Nat}

/-- A rank works on the tokens of its blocks and on their positions. -/
theorem mergeHelixRequest_eq (pos : 0 < tpb) (rankLt : cpRank < cpSize)
    (enough : cpSize ≤ blockCount tpb tokens.length) :
    mergeHelixRequest tpb cpSize cpRank tokens = some
      (rankPart tpb cpSize cpRank (blockCount tpb tokens.length) tokens,
        rankPart tpb cpSize cpRank (blockCount tpb tokens.length) (List.range tokens.length)) := by
  obtain ⟨pad, padEq⟩ : ∃ pad, pad = if tokens.length % tpb ≠ 0 then
      tpb - tokens.length % tpb else 0 := ⟨_, rfl⟩
  have full := length_add_padding pos tokens.length
  have needed := (blockCount_bounds pos tokens.length).2
  rw [← padEq] at full
  have ids := rankPart_padded rankLt enough tokens (List.replicate pad 0)
    (by rwa [length_replicate]) (by rw [length_replicate]; omega)
  have positions := rankPart_padded rankLt enough (List.range tokens.length)
    (List.range' tokens.length pad) (by rwa [length_range, length_range'])
    (by rw [length_range']; omega)
  have range : List.range tokens.length ++ List.range' tokens.length pad =
      List.range (tokens.length + pad) := by
    rw [range_eq_range', range_eq_range']
    simpa using range'_append_1 (s := 0) (m := tokens.length) (n := pad)
  rw [range, length_range'] at positions
  rw [length_replicate] at ids
  unfold mergeHelixRequest
  simp only [← padEq, flatten_tensorSplit _ rankLt]
  rw [← blockCount, if_neg (Nat.not_lt.mpr enough)]
  rw [← ids, ← positions]
  split <;> rfl

/-- A block of a rank's part is that of all tokens which the rank has as this block. -/
theorem tokensOfBlock_rankPart {localBlock : Nat} (rankLt : cpRank < cpSize)
    (bound : localBlock < getBlockNumAccountingForCP cpRank cpSize num) (tokens : List Nat) :
    tokensOfBlock tpb (rankPart tpb cpSize cpRank num tokens) localBlock = tokensOfBlock tpb tokens
        (getGlobalBlockIdAccountingForCP false localBlock cpSize cpRank num) := by
  have lt : (localBlock + 1) * tpb ≤ getBlockNumAccountingForCP cpRank cpSize num * tpb :=
    Nat.mul_le_mul_right _ bound
  rw [Nat.succ_mul] at lt
  rw [tokensOfBlock, rankPart, drop_take, drop_drop, take_take, Nat.min_eq_left (by omega),
    global_contiguous rankLt.le, global_contiguous rankLt.le, Nat.add_zero, ← Nat.add_mul]
  rfl

/-- A rank needs as many blocks for its part as it has. -/
theorem blockCount_rankPart (pos : 0 < tpb) (rankLt : cpRank < cpSize) :
    blockCount tpb (rankPart tpb cpSize cpRank (blockCount tpb tokens.length) tokens).length =
      getBlockNumAccountingForCP cpRank cpSize (blockCount tpb tokens.length) := by
  have cpPositive := Nat.zero_lt_of_lt rankLt
  have needed := (blockCount_bounds pos tokens.length).2
  have size := rankPart_end rankLt tpb (blockCount tpb tokens.length)
  have next : start (cpBlockNums cpSize (blockCount tpb tokens.length))
      (cpRank + 1) * tpb ≤ blockCount tpb tokens.length * tpb :=
    Nat.mul_le_mul_right _
      ((start_mono rankLt).trans_eq (start_cpBlockNums_all cpPositive))
  apply blockCount_unique pos
  · rw [rankPart, length_take]
    exact Nat.min_le_left _ _
  · rw [rankPart, length_take, length_drop]
    omega

/-- The generation server divides the tokens of a prompt and their positions between
the ranks as contiguous distribution divides the blocks. -/
def HelixAgrees (tokensPerBlock cpSize : Nat) (tokens : List Nat) : Prop :=
  ∀ cpRank < cpSize, ∃ ids positions,
    mergeHelixRequest tokensPerBlock cpSize cpRank tokens = some (ids, positions) ∧
    blockCount tokensPerBlock ids.length =
      getBlockNumAccountingForCP cpRank cpSize (blockCount tokensPerBlock tokens.length) ∧
    positions.length = ids.length ∧
    ∀ localBlock < getBlockNumAccountingForCP cpRank cpSize
        (blockCount tokensPerBlock tokens.length),
      tokensOfBlock tokensPerBlock ids localBlock = tokensOfBlock tokensPerBlock tokens
        (getGlobalBlockIdAccountingForCP false localBlock cpSize cpRank
          (blockCount tokensPerBlock tokens.length)) ∧
      tokensOfBlock tokensPerBlock positions localBlock =
        tokensOfBlock tokensPerBlock (List.range tokens.length)
          (getGlobalBlockIdAccountingForCP false localBlock cpSize cpRank
            (blockCount tokensPerBlock tokens.length))

theorem helixAgrees (pos : 0 < tpb) (enough : cpSize ≤ blockCount tpb tokens.length) :
    HelixAgrees tpb cpSize tokens := by
  intro cpRank rankLt
  refine ⟨_, _, mergeHelixRequest_eq pos rankLt enough,
    blockCount_rankPart pos rankLt, ?_, fun localBlock bound =>
      ⟨tokensOfBlock_rankPart rankLt bound _, tokensOfBlock_rankPart rankLt bound _⟩⟩
  simp only [rankPart, length_take, length_drop, length_range]

end Helix

end TrtLlm
