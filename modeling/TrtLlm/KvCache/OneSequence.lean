import TrtLlm.KvCache.Beams
import TrtLlm.KvCache.CoreRelease

/-! # One sequence with a single beam

What the calls for one sequence do to its own blocks and to the reference counts, in any state of
the window. The sequence owns one reference on each block it lists behind the detached ones, on top
of the references that were there before it.
-/

namespace TrtLlm.WindowBlockManager

open List

variable {cfg : WindowConfig} {plat : Platform} {s s' : WindowBlockManager}
  {block : BlockId} {seq : GenerationRequest} {rid : RequestId}

/-- Storing without pins changes no reference, no slot and no counter. -/
theorem storeBlocks_counters (cfg : WindowConfig) (plat : Platform) (s : WindowBlockManager)
    (blockKeys : List BlockKey) (blockIds : List BlockId) :
    (storeBlocks cfg plat s blockKeys blockIds false).2.refCount = s.refCount ∧
      (storeBlocks cfg plat s blockKeys blockIds false).2.memoryPoolBlockIndex =
        s.memoryPoolBlockIndex ∧
      (storeBlocks cfg plat s blockKeys blockIds false).2.numFreeBlocksPerLevel =
        s.numFreeBlocksPerLevel := by
  unfold storeBlocks
  dsimp only
  rw [enqueueStoredEvent_eq]
  refine storeLoop_invariant (fun st => st.manager.refCount = s.refCount ∧
    st.manager.memoryPoolBlockIndex = s.memoryPoolBlockIndex ∧
    st.manager.numFreeBlocksPerLevel = s.numFreeBlocksPerLevel) ?_ ⟨rfl, rfl, rfl⟩
  intro st key block _ _ same
  rcases storeOrMatch_cases cfg plat st key block with
    ⟨_, _, _, stored⟩ | ⟨_, stored⟩ <;> rw [stored] <;> exact same

/-! ## The blocks of the sequence -/

/-- The window lists the blocks for the only beam of the sequence, and the sequence has a reference
on each of them but the first ones, which are detached; `base` counts all other references. -/
structure Owns (base : BlockId → Nat) (requestId : RequestId) (front : Nat) (blocks : List BlockId)
    (s : WindowBlockManager) : Prop where
  recorded : ∃ sequence, s.sequences.lookup requestId = some sequence ∧
    sequence.allocatedBlocks = blocks ∧ sequence.cacheBlockIds = [blocks]
  counts : ∀ block, s.refCount block = base block + (blocks.drop front).count block

variable {base : BlockId → Nat} {front : Nat} {blocks : List BlockId}

theorem Owns.of_same (owns : Owns base rid front blocks s) (same : SameHolders s s') :
    Owns base rid front blocks s' :=
  ⟨same.sequences ▸ owns.recorded, same.refCount ▸ owns.counts⟩

/-- A change of the record that leaves the blocks alone. -/
theorem Owns.modifyRecord (owns : Owns base rid front blocks s)
    {change : SequenceBlocks → SequenceBlocks}
    (allocated : ∀ sq, (change sq).allocatedBlocks = sq.allocatedBlocks)
    (ids : ∀ sq, (change sq).cacheBlockIds = sq.cacheBlockIds) :
    Owns base rid front blocks (s.modifySequence rid change) := by
  obtain ⟨sq, found, listed, beam⟩ := owns.recorded
  exact ⟨⟨change sq, lookup_modifySequence_self found, (allocated _).trans listed,
    (ids _).trans beam⟩, owns.counts⟩

/-- A block is added to the only beam. -/
theorem Owns.push (owns : Owns base seq.requestId front blocks s) (single : seq.beamWidth = 1)
    (within : front ≤ blocks.length) (block : BlockId) :
    Owns base seq.requestId front (blocks ++ [block]) (s.addBlockToAllBeams seq block) := by
  obtain ⟨sq, found, rfl, beam⟩ := owns.recorded
  refine ⟨⟨pushBeams block seq.beamWidth sq, lookup_addBlockToAllBeams found, ?_, ?_⟩,
    fun other => ?_⟩
  · rw [single, allocatedBlocks_pushBeams]
    rfl
  · rw [single, pushBeams]
    simp only [range_one, foldl_cons, foldl_nil, pushBlock, beam]
    rfl
  · have counted : (s.addBlockToAllBeams seq block).refCount =
        Function.update s.refCount block (s.refCount block + 1) := by
      simp only [addBlockToAllBeams, single, range_one, foldl_cons, foldl_nil]
      rfl
    rw [counted, drop_append_of_le_length within, count_append]
    by_cases same : other = block
    · subst same
      rw [Function.update_self, owns.counts, count_singleton_self]
      omega
    · rw [Function.update_of_ne same, owns.counts, count_singleton, if_neg, Nat.add_zero]
      exact fun equal => same (beq_iff_eq.mp equal).symm

theorem Owns.allocateBlock (owns : Owns base seq.requestId front blocks s)
    (single : seq.beamWidth = 1) (within : front ≤ blocks.length)
    (allocated : s.allocateBlock cfg plat seq true = .ok s') :
    ∃ block, Owns base seq.requestId front (blocks ++ [block]) s' := by
  rcases allocateBlock_ok allocated with ⟨_, block, taken, took, rfl⟩ | ⟨unshared, _⟩
  · exact ⟨block, (owns.of_same (sameHolders_getFreeBlock took)).push
      single within block⟩
  · cases unshared

/-- One round of the loading loop adds one block. -/
theorem Owns.loadSharedBlock {st next : LoadState} {ret : RetentionPriorityAndDuration}
    (owns : Owns base seq.requestId front blocks st.manager) (single : seq.beamWidth = 1)
    (within : front ≤ blocks.length) (loaded : loadSharedBlock cfg plat seq st ret = .ok next) :
    ∃ block, Owns base seq.requestId front (blocks ++ [block]) next.manager := by
  rcases loadSharedBlock_ok loaded with
    ⟨_, _, block, _, _, _, _, _, useOk, onboardOk, rfl⟩ | ⟨block, taken, _, took, rfl⟩
  · exact ⟨block, (owns.of_same (sameHolders_match useOk onboardOk)).push single within block⟩
  · have taking := owns.of_same (sameHolders_getFreeBlock took)
    exact ⟨block, (taking.push single within block).of_same
      (sameHolders_setNextKey _ block st.blockKeys)⟩

/-- A sequence that is emplaced has no blocks yet. -/
theorem Owns.emplaceSequence (single : seq.beamWidth = 1)
    (emplaced : s.emplaceSequence seq = .ok s') : Owns s.refCount seq.requestId 0 [] s' := by
  obtain ⟨_, rfl⟩ := emplaceSequence_ok emplaced
  refine ⟨⟨_, AList.lookup_insert _, rfl, ?_⟩, fun _ => rfl⟩
  rw [single]
  rfl

/-- A loop that adds one block in each round. -/
theorem Owns.rounds {σ α : Type} (manager : σ → WindowBlockManager)
    {body : σ → α → Except Failure σ}
    (round : ∀ st item next blocks, Owns base rid 0 blocks (manager st) →
      body st item = .ok next → ∃ block, Owns base rid 0 (blocks ++ [block]) (manager next))
    {items : List α} {start res : σ} (owns : Owns base rid 0 blocks (manager start))
    (looped : items.foldlM body start = .ok res) :
    ∃ blocks', blocks'.length = blocks.length + items.length ∧
      Owns base rid 0 blocks' (manager res) := by
  induction items generalizing start blocks with
  | nil =>
    simp only [foldlM_nil, Except.pure_eq_ok] at looped
    exact ⟨blocks, rfl, looped ▸ owns⟩
  | cons item items ih =>
    simp only [foldlM_cons, Except.bind_eq_ok] at looped
    obtain ⟨next, stepped, continued⟩ := looped
    obtain ⟨block, more⟩ := round start item next blocks owns stepped
    obtain ⟨blocks', length, ends⟩ := ih more continued
    refine ⟨blocks', ?_, ends⟩
    simp only [length, length_append, length_cons, length_nil]
    omega

variable {seq' : GenerationRequest}

/-- A new sequence gets one block for each context block of its prompt. -/
theorem owns_addSequenceReuse {inputLength numContextBlocks : Nat} {req req' : LlmRequest}
    (single : seq.beamWidth = 1)
    (added : s.addSequenceReuse cfg plat seq inputLength numContextBlocks req =
      .ok (s', seq', req')) :
    ∃ blocks, blocks.length = numContextBlocks ∧ Owns s.refCount seq.requestId 0 blocks s' := by
  have sized := added
  simp only [addSequenceReuse, Except.bind_eq_ok] at sized
  obtain ⟨_, _, _, _, checked⟩ := sized
  split at checked
  · simp only [Except.throw_bind_eq_ok] at checked
  · rename_i sameSize
    obtain ⟨emplaced, blockKeys, prepopulated, emplaceOk, _, loadOk, _, _⟩ :=
      addSequenceReuse_ok added
    simp only [loadOrAllocateBlocks, single, Nat.lt_irrefl, ↓reduceIte, Except.bind_eq_ok,
      Except.pure_eq_ok, Prod.mk.injEq] at loadOk
    obtain ⟨shared, first, last, second, _, rfl⟩ := loadOk
    rw [not_not] at sameSize
    rw [drop_of_length_le (Nat.le_of_eq sameSize), foldlM_nil, Except.pure_eq_ok] at second
    rw [take_of_length_le (Nat.le_of_eq sameSize)] at first
    subst second
    obtain ⟨blocks, length, owns⟩ := Owns.rounds LoadState.manager
      (fun st item next blocks owns loaded => owns.loadSharedBlock single (Nat.zero_le _) loaded)
      (Owns.emplaceSequence single emplaceOk) first
    exact ⟨blocks, by rw [length, sameSize, length_nil, Nat.zero_add], owns⟩

theorem owns_addSequenceNoReuse {numContextBlocks : Nat} {share : Bool} (single : seq.beamWidth = 1)
    (added : s.addSequenceNoReuse cfg plat seq numContextBlocks share = .ok s') :
    ∃ blocks, blocks.length = numContextBlocks ∧ Owns s.refCount seq.requestId 0 blocks s' := by
  obtain ⟨emplaced, shared, emplaceOk, pos, loop, last⟩ := addSequenceNoReuse_ok added
  obtain ⟨blocks, length, owns⟩ := Owns.rounds id (fun st item next blocks owns allocated =>
      owns.allocateBlock single (Nat.zero_le _) allocated)
    (Owns.emplaceSequence single emplaceOk) loop
  -- with one beam it makes no difference whether the last block is shared
  have lastOwned : ∃ block, Owns s.refCount seq.requestId 0 (blocks ++ [block]) s' := by
    rcases allocateBlock_ok last with ⟨rfl, _⟩ | ⟨_, beams⟩
    · exact owns.allocateBlock single (Nat.zero_le _) last
    · simp only [single, range_one, foldlM_cons, foldlM_nil, Except.bind_eq_ok,
        Except.pure_eq_ok] at beams
      obtain ⟨_, ⟨⟨block, taken⟩, took, rfl⟩, rfl⟩ := beams
      have taking := owns.of_same (sameHolders_getFreeBlock took)
      have pushed := taking.push single (Nat.zero_le _) block
      simp only [addBlockToAllBeams, single, range_one, foldl_cons,
        foldl_nil] at pushed
      exact ⟨block, pushed⟩
  obtain ⟨block, ends⟩ := lastOwned
  refine ⟨blocks ++ [block], ?_, ends⟩
  rw [length_append, length, length_range, length_nil, length_singleton]
  omega

/-! ## Dropping references -/

theorem dropReference_refCount {toFront : Bool}
    (dropped : dropReference plat s block toFront = .ok s') :
    s'.refCount = Function.update s.refCount block (s.refCount block - 1) := by
  obtain ⟨_, rfl⟩ := dropReference_ok dropped
  split <;> rfl

/-- A block that is referenced can be dropped. -/
theorem dropReference_total (plat : Platform) (toFront : Bool) (referenced : 0 < s.refCount block) :
    ∃ s', dropReference plat s block toFront = .ok s' := by
  unfold dropReference
  rw [if_pos (by simpa [hasRefs] using referenced)]
  exact ⟨_, rfl⟩

/-- The counts after a reference of the sequence is dropped. -/
theorem Owns.counts_drop {rest : List BlockId} (owns : Owns base rid front blocks s)
    (listed : (blocks.drop front).Perm (block :: rest)) (other : BlockId) :
    Function.update s.refCount block (s.refCount block - 1) other =
        base other + rest.count other := by
  have counted := owns.counts other
  rw [listed.count_eq] at counted
  by_cases same : other = block
  · subst same
    rw [Function.update_self, counted, count_cons_self]
    omega
  · rw [Function.update_of_ne same, counted, count_cons_of_ne (Ne.symm same)]

/-- The first block that is not detached is detached. -/
theorem Owns.detachFrontBlock (owns : Owns base seq.requestId seq.numFrontBlocksRemoved blocks s)
    (detached : s.detachFrontBlock plat seq = .ok (s', seq')) :
    seq.numFrontBlocksRemoved < blocks.length ∧
      seq' = { seq with numFrontBlocksRemoved := seq.numFrontBlocksRemoved + 1 } ∧
      Owns base seq'.requestId seq'.numFrontBlocksRemoved blocks s' := by
  obtain ⟨sq, block, _, found, next, dropping, rfl⟩ := detachFrontBlock_ok detached
  obtain ⟨known, found', rfl, beam⟩ := owns.recorded
  rw [found] at found'
  cases found'
  obtain ⟨lt, rfl⟩ := List.getElem?_eq_some_iff.mp next
  refine ⟨lt, rfl, ⟨sq, (dropReference_sequences dropping) ▸ found, rfl, beam⟩, ?_⟩
  intro other
  rw [dropReference_refCount dropping]
  exact owns.counts_drop (List.drop_eq_getElem_cons lt ▸ .refl _) other

/-- The last block is released. -/
theorem Owns.releaseLastBlock (owns : Owns base seq.requestId front blocks s)
    (within : front < blocks.length) (released : s.releaseLastBlock plat seq = .ok s') :
    Owns base seq.requestId front blocks.dropLast s' := by
  obtain ⟨sq, block, dropped, found, last, dropping, rfl⟩ := releaseLastBlock_ok released
  obtain ⟨known, found', rfl, beam⟩ := owns.recorded
  rw [found] at found'
  cases found'
  have same := dropReference_sequences dropping
  refine ⟨⟨popBlock sq, lookup_modifySequence_self (same.symm ▸ found), rfl, ?_⟩, fun other => ?_⟩
  · simp only [popBlock, beam, map_cons, map_nil]
  · change dropped.refCount other = _
    rw [dropReference_refCount dropping]
    have listed : (sq.allocatedBlocks.drop front).Perm
        (block :: (sq.allocatedBlocks.dropLast.drop front)) := by
      obtain ⟨earlier, whole⟩ := getLast?_eq_some_iff.mp last
      rw [whole, length_append, length_singleton] at within
      rw [whole, dropLast_concat, drop_append_of_le_length (by omega)]
      exact perm_append_singleton _ _
    exact owns.counts_drop listed other

/-- The last block of a sequence that has blocks can be released. -/
theorem Owns.releaseLastBlock_total (plat : Platform)
    (owns : Owns base seq.requestId front blocks s) (within : front < blocks.length) :
    ∃ s', s.releaseLastBlock plat seq = .ok s' := by
  obtain ⟨sq, found, rfl, _⟩ := owns.recorded
  have nonempty : sq.allocatedBlocks ≠ [] := by
    rintro none
    rw [none] at within
    exact absurd within (Nat.not_lt_zero _)
  have last := getLast?_eq_some_getLast nonempty
  have mem : sq.allocatedBlocks.getLast nonempty ∈ sq.allocatedBlocks.drop front := by
    have some : sq.allocatedBlocks.drop front ≠ [] := by
      rw [ne_eq, drop_eq_nil_iff]
      omega
    exact getLast_drop some ▸ getLast_mem some
  have referenced : 0 < s.refCount (sq.allocatedBlocks.getLast nonempty) := by
    rw [owns.counts]
    have counted := count_pos_iff.mpr mem
    omega
  obtain ⟨dropped, dropping⟩ := dropReference_total plat true (s := s.recordIf
    (sq.allocatedBlocks.length ≤ seq.numFrontBlocksRemoved)
    (.releasedDetached (sq.allocatedBlocks.getLast nonempty))) referenced
  refine ⟨dropped.modifySequence seq.requestId popBlock, ?_⟩
  have looked : s.sequence? seq.requestId = .ok sq := by
    unfold sequence?
    rw [found]
  unfold WindowBlockManager.releaseLastBlock
  rw [looked]
  dsimp only [bind, Except.bind]
  rw [last]
  dsimp only
  rw [dropping]
  rfl

/-! ## A further token -/

/-- The detaching loop moves the front; the list of the blocks stays. -/
theorem Owns.detachLoop {rounds : Nat}
    (owns : Owns base seq.requestId seq.numFrontBlocksRemoved blocks s)
    (within : seq.numFrontBlocksRemoved ≤ blocks.length)
    (looped : detachLoop cfg plat rounds s seq = .ok (s', seq')) :
    Owns base seq.requestId seq'.numFrontBlocksRemoved blocks s' ∧
      seq.numFrontBlocksRemoved ≤ seq'.numFrontBlocksRemoved ∧
      seq'.numFrontBlocksRemoved ≤ blocks.length ∧
      seq' = { seq with numFrontBlocksRemoved := seq'.numFrontBlocksRemoved } := by
  refine detachLoop_invariant (fun st current =>
    Owns base seq.requestId current.numFrontBlocksRemoved blocks st ∧
      seq.numFrontBlocksRemoved ≤ current.numFrontBlocksRemoved ∧
      current.numFrontBlocksRemoved ≤ blocks.length ∧
      current = { seq with numFrontBlocksRemoved := current.numFrontBlocksRemoved }) ?_
    ⟨owns, Nat.le_refl _, within, rfl⟩ looped
  rintro st current next current' _ ⟨owns, more, _, named⟩ detached
  have sameId : current.requestId = seq.requestId := by rw [named]
  obtain ⟨lt, rfl, kept⟩ := Owns.detachFrontBlock (sameId ▸ owns) detached
  refine ⟨sameId ▸ kept, Nat.le_succ_of_le more, lt, ?_⟩
  rw [named]

/-- A token at the start of a block gives the sequence one more block. -/
theorem Owns.adjustBlocksIfNeeded
    (owns : Owns base seq.requestId seq.numFrontBlocksRemoved blocks s) (single : seq.beamWidth = 1)
    (within : seq.numFrontBlocksRemoved ≤ blocks.length)
    (adjusted : adjustBlocksIfNeeded cfg plat s seq = .ok (s', seq')) :
    (∃ blocks', Owns base seq.requestId seq'.numFrontBlocksRemoved blocks' s' ∧
      blocks'.length =
        blocks.length + if (seq.numTokens - 1) % cfg.tokensPerBlock = 0 then 1 else 0) ∧
      seq.numFrontBlocksRemoved ≤ seq'.numFrontBlocksRemoved ∧
      seq'.numFrontBlocksRemoved ≤ blocks.length ∧
      seq' = { seq with numFrontBlocksRemoved := seq'.numFrontBlocksRemoved } := by
  obtain ⟨detached, looped, ending⟩ := adjustBlocksIfNeeded_ok adjusted
  obtain ⟨kept, more, lt, named⟩ := owns.detachLoop within looped
  refine ⟨?_, more, lt, named⟩
  have tokens : seq'.numTokens = seq.numTokens := by rw [named]
  have width : seq'.beamWidth = 1 := by rw [named]; exact single
  have id : seq.requestId = seq'.requestId := by rw [named]
  rw [tokens] at ending
  rcases ending with ⟨aligned, allocated, allocating, rfl⟩ | ⟨unaligned, rfl⟩
  · rw [width] at allocating
    rw [id] at kept ⊢
    obtain ⟨block, grown⟩ := kept.allocateBlock width lt allocating
    refine ⟨blocks ++ [block], grown.modifyRecord (fun _ => rfl) (fun _ => rfl), ?_⟩
    rw [if_pos aligned, length_append, length_singleton]
  · exact ⟨blocks, kept, by rw [if_neg unaligned, Nat.add_zero]⟩

end TrtLlm.WindowBlockManager
