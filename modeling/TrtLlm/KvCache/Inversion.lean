import TrtLlm.Lib.Run
import TrtLlm.KvCache.KVCacheManager

/-! # What each operation does

One lemma for each fallible function of the block manager says what it did when it
returned. Functions on the reuse tree change the links of blocks and nothing else.
-/

namespace TrtLlm.WindowBlockManager

open List

open Except (bind_eq_ok pure_eq_ok throw_bind_eq_ok)

variable {cfg : WindowConfig} {plat : Platform} {s s' : WindowBlockManager}

/-! ## The policy -/

variable {block : BlockId} {rid : RequestId} {seq seq' : GenerationRequest}
  {bkey : BlockKey} {node : Node} {copyOnPartialReuse : Bool} {found : BlockMatch}
  {ret : RetentionPriorityAndDuration} {req req' : LlmRequest} {prio : RetentionPriority}
  {dur : Option Nat} {offloadBlock : BlockId} {st : LoadState} {numContextBlocks : Nat}
  {pinBlocks : Bool} {pairs : List (BlockKey × BlockId)} {sq : SequenceBlocks}

theorem policyGetFreeBlock_ok {level : CacheLevel} {canOffload : Bool}
    (took : s.policyGetFreeBlock cfg level = .ok (block, canOffload)) :
    ∃ prio node rest, s.freeQueues level prio = node :: rest ∧ node.block = block ∧
      canOffload = (level == .primary && decide (cfg.secondaryOffloadMinPriority ≤ prio.val)) := by
  unfold policyGetFreeBlock at took
  split at took
  · rename_i prio other found
    obtain ⟨tried, _, head⟩ := exists_of_findSome?_eq_some found
    obtain ⟨node, first, pair⟩ := Option.map_eq_some_iff.mp head
    obtain ⟨rest, split⟩ := head?_eq_some_iff.mp first
    cases pair
    cases took
    exact ⟨_, node, rest, split, rfl, rfl⟩
  · cases took

/-! ## Changes of the tree -/

/-- The states differ in the links of the reuse tree only. -/
def SameButTree (s s' : WindowBlockManager) : Prop :=
  s' = { s with prevBlock := s'.prevBlock, nextBlocks := s'.nextBlocks }

theorem SameButTree.refl (s : WindowBlockManager) : SameButTree s s := rfl

theorem SameButTree.trans {s'' : WindowBlockManager} (first : SameButTree s s')
    (second : SameButTree s' s'') : SameButTree s s'' := by
  unfold SameButTree at *
  rw [second, first]

theorem sameButTree_unlinkFromParent (s : WindowBlockManager) (block : BlockId) :
    SameButTree s (s.unlinkFromParent block) := by
  unfold unlinkFromParent
  cases s.prevBlock block with
  | none => exact .refl s
  | some par => rfl

theorem freeLeafBlock_ok (freed : s.freeLeafBlock block = .ok s') :
    s.isLeaf (.block block) ∧ s' = s.unlinkFromParent block := by
  unfold freeLeafBlock at freed
  split at freed
  · rename_i leaf
    exact ⟨leaf, by cases freed; rfl⟩
  · cases freed

theorem sameButTree_freeDescendants {fuel : Nat}
    (freed : freeDescendantsRecursively plat fuel s block = .ok s') : SameButTree s s' := by
  induction fuel generalizing s s' block with
  | zero => cases freed
  | succ fuel ih =>
    simp only [freeDescendantsRecursively, bind_eq_ok, pure_eq_ok] at freed
    obtain ⟨looped, loop, rfl⟩ := freed
    have same : SameButTree s looped := by
      refine foldlM_invariant (SameButTree s) ?_ (.refl s) loop
      intro st entry next _ same stepped
      simp only [bind_eq_ok, pure_eq_ok] at stepped
      obtain ⟨inner, recursed, rfl⟩ := stepped
      exact (same.trans (ih recursed)).trans rfl
    exact same.trans rfl

/-! ## Taking blocks -/

theorem chooseFreeBlock_ok (chose : s.chooseFreeBlock cfg plat = .ok (block, s')) :
    ∃ evicted canOffload, s.policyGetFreeBlock cfg .primary = .ok (evicted, canOffload) ∧
      ((s.canBeOffloaded cfg evicted canOffload = false ∧ block = evicted ∧ s' = s) ∨
        (s.canBeOffloaded cfg evicted canOffload = true ∧
          (∃ flag, s.policyGetFreeBlock cfg .secondary = .ok (block, flag)) ∧
          s' = s.offloadForReuse cfg plat evicted block)) := by
  simp only [chooseFreeBlock, bind_eq_ok] at chose
  obtain ⟨⟨evicted, canOffload⟩, took, rest⟩ := chose
  refine ⟨evicted, canOffload, took, ?_⟩
  split at rest
  · rename_i offload
    simp only [bind_eq_ok, pure_eq_ok, Prod.mk.injEq] at rest
    obtain ⟨⟨target, flag⟩, found, rfl, rfl⟩ := rest
    exact .inr ⟨offload, ⟨flag, found⟩, rfl⟩
  · rename_i offload
    obtain ⟨rfl, rfl⟩ := rest
    exact .inl ⟨by simpa using offload, rfl, rfl⟩

/-- The history that `getFreeBlock` leaves behind. -/
def markTaken (s : WindowBlockManager) (requestId : RequestId) (block : BlockId) :
    WindowBlockManager :=
  let s := s.recordIf (s.blockInRadixTree block && !s.isLeaf (.block block)) (.evictedSubtree block)
  s.recordIf (s.listedUnowned requestId block) (.tookListed block)

theorem getFreeBlock_ok (took : s.getFreeBlock cfg plat rid prio dur = .ok (block, s')) :
    ∃ chosen pruned, s.chooseFreeBlock cfg plat = .ok (block, chosen) ∧
      (chosen.markTaken rid block).freeChildren cfg plat block = .ok pruned ∧
      s' = (pruned.claimBlock block (some prio) dur).recordOwner rid block := by
  simp only [getFreeBlock, bind_eq_ok, pure_eq_ok, Prod.mk.injEq] at took
  obtain ⟨⟨other, chosen⟩, chose, pruned, freed, rfl, rfl⟩ := took
  exact ⟨chosen, pruned, chose, freed, rfl⟩

theorem freeChildren_ok (freed : s.freeChildren cfg plat block = .ok s') :
    SameButTree (s.enqueueRemovedEvent cfg (s.blockInRadixTree block) block) s' :=
  (sameButTree_unlinkFromParent _ block).trans (sameButTree_freeDescendants freed)

/-! The history only grows. -/

theorem history_recordIf (s : WindowBlockManager) (taken : Bool) (branch : Branch) :
    s.history ⊆ (s.recordIf taken branch).history := by
  cases taken with
  | false => exact fun _ => id
  | true => exact subset_append_left _ _

theorem history_chooseFreeBlock (chose : s.chooseFreeBlock cfg plat = .ok (block, s')) :
    s'.history = s.history := by
  obtain ⟨_, _, _, ⟨_, _, rfl⟩ | ⟨_, _, rfl⟩⟩ := chooseFreeBlock_ok chose <;> rfl

theorem history_getFreeBlock (took : s.getFreeBlock cfg plat rid prio dur = .ok (block, s')) :
    s.history ⊆ s'.history := by
  obtain ⟨chosen, pruned, chose, freed, rfl⟩ := getFreeBlock_ok took
  have same := freeChildren_ok freed
  rw [same, ← history_chooseFreeBlock chose]
  exact fun _ mem => history_recordIf _ _ _ (history_recordIf _ _ _ mem)

theorem onboardBlock_ok (onboarded : s.onboardBlock cfg plat rid offloadBlock = .ok s') :
    ((cfg.onboardBlocks = false ∨ s.isPrimary offloadBlock = true) ∧ s' = s) ∨
      (cfg.onboardBlocks = true ∧ s.isPrimary offloadBlock = false ∧
        ∃ block taken, s.getFreeBlock cfg plat rid kDefaultRetentionPriority none =
            .ok (block, taken) ∧
          s' = (((taken.copyBlock cfg offloadBlock block 0).swapMemoryPoolBlockOffset
            offloadBlock block).enqueueUpdatedEvent cfg true
              (.levelUpdated (taken.blockHash offloadBlock) .secondary .primary)).releaseBlock
                plat block false) := by
  unfold onboardBlock at onboarded
  split at onboarded
  · rename_i needed
    simp only [Bool.and_eq_true, Bool.not_eq_true'] at needed
    simp only [bind_eq_ok, pure_eq_ok] at onboarded
    obtain ⟨⟨block, taken⟩, took, rfl⟩ := onboarded
    exact .inr ⟨needed.1, needed.2, block, taken, took, rfl⟩
  · rename_i needless
    simp only [pure_eq_ok] at onboarded
    refine .inl ⟨?_, onboarded.symm⟩
    cases onboards : cfg.onboardBlocks <;> cases primary : s.isPrimary offloadBlock <;>
      simp_all

theorem history_onboardBlock (onboarded : s.onboardBlock cfg plat rid offloadBlock = .ok s') :
    s.history ⊆ s'.history := by
  rcases onboardBlock_ok onboarded with ⟨_, rfl⟩ | ⟨_, _, _, _, took, rfl⟩
  · exact fun _ => id
  · have grown := history_getFreeBlock took
    exact grown

/-- The history with what `offloadBlock` overwrites. -/
def markOverwritten (s : WindowBlockManager) (target : BlockId) : WindowBlockManager :=
  (s.recordIf (s.prevBlock target).isSome (.overwroteLinked target)).recordIf
    (s.listedByValid s.isValidStoreForReuseSequence target) (.tookListed target)

theorem offloadBlock_ok (offloaded : s.offloadBlock cfg plat block = .ok s') :
    s' = s ∨ ((cfg.onboardBlocks && s.isPrimary block) = true ∧ ∃ target flag,
      s.policyGetFreeBlock cfg .secondary = .ok (target, flag) ∧
      s' = (((((s.markOverwritten target).claimBlock target none none).copyBlock cfg block
        target 0).swapMemoryPoolBlockOffset block target).enqueueUpdatedEvent cfg
          (s.blockInRadixTree block)
          (.levelUpdated (s.blockHash block) .primary .secondary)).releaseBlock
            plat target false) := by
  unfold offloadBlock at offloaded
  split at offloaded
  · rename_i needed
    simp only [bind_eq_ok, pure_eq_ok] at offloaded
    obtain ⟨⟨target, flag⟩, took, rfl⟩ := offloaded
    exact .inr ⟨needed, target, flag, took, rfl⟩
  · simp only [pure_eq_ok] at offloaded
    exact .inl offloaded.symm

theorem allocateBlock_ok {shareAmongBeams : Bool}
    (allocated : s.allocateBlock cfg plat seq shareAmongBeams = .ok s') :
    (shareAmongBeams = true ∧ ∃ block taken,
      s.getFreeBlock cfg plat seq.requestId seq.decodeRetentionPriority
        seq.decodeDurationMs = .ok (block, taken) ∧ s' = taken.addBlockToAllBeams seq block) ∨
    (shareAmongBeams = false ∧ (List.range seq.beamWidth).foldlM (fun s beam => do
      let (block, s) ← s.getFreeBlock cfg plat seq.requestId seq.decodeRetentionPriority
        seq.decodeDurationMs
      return s.addBlockToBeam seq.requestId block beam) s = .ok s') := by
  unfold allocateBlock at allocated
  cases shareAmongBeams with
  | true =>
    by_cases free : s.hasFreeBlocks 1
    · simp only [↓reduceIte, free, bind_eq_ok, pure_eq_ok] at allocated
      obtain ⟨⟨block, taken⟩, took, rfl⟩ := allocated
      exact .inl ⟨rfl, block, taken, took, rfl⟩
    · simp [free] at allocated
  | false =>
    by_cases free : s.hasFreeBlocks seq.beamWidth
    · simp only [free, ↓reduceIte, Bool.false_eq_true] at allocated
      exact .inr ⟨rfl, allocated⟩
    · simp [free] at allocated

/-! ## Matching blocks -/

theorem mem_of_findNext (found : s.findNext node bkey = some block) :
    (bkey, block) ∈ s.nextBlocks node := by
  obtain ⟨entry, first, rfl⟩ := Option.map_eq_some_iff.mp found
  have key : entry.1 = bkey := by simpa using find?_some first
  have mem := mem_of_find?_eq_some first
  rw [← key]
  exact mem

/-- The best partial match is a child with that many matching tokens, or the start value. -/
theorem bestPartialMatch_cases {entries : List (BlockKey × BlockId)} (best : Nat × Option BlockId) :
    s.bestPartialMatch copyOnPartialReuse bkey entries best = best ∨
      ∃ entry ∈ entries, best.1 < entry.1.partialMatch bkey ∧
        s.bestPartialMatch copyOnPartialReuse bkey entries best =
          (entry.1.partialMatch bkey, some entry.2) := by
  induction entries generalizing best with
  | nil => exact .inl rfl
  | cons entry rest ih =>
    obtain ⟨key, block⟩ := entry
    unfold bestPartialMatch
    split
    · split
      · rename_i better
        rcases ih (key.partialMatch bkey, some block) with same | found
        · exact .inr ⟨(key, block), mem_cons_self, better, same⟩
        · obtain ⟨entry, mem, best', res⟩ := found
          exact .inr ⟨entry, mem_cons_of_mem _ mem, Nat.lt_trans better best', res⟩
      · rcases ih best with same | ⟨entry, mem, rest⟩
        · exact .inl same
        · exact .inr ⟨entry, mem_cons_of_mem _ mem, rest⟩
    · rcases ih best with same | ⟨entry, mem, rest⟩
      · exact .inl same
      · exact .inr ⟨entry, mem_cons_of_mem _ mem, rest⟩

section

variable {enablePartialReuse : Bool}
  (matched : s.findMatchingBlock plat node bkey enablePartialReuse copyOnPartialReuse = some found)
include matched

/-- A match is the child under the key itself, or a child that shares a first token with it. -/
theorem findMatchingBlock_some : bkey.uniqueTokens ≠ [] ∧
      ((s.findNext node bkey = some found.block ∧ found.partialMatch = !s.isFull found.block ∧
          found.numMatched = bkey.uniqueTokens.length) ∨
        (enablePartialReuse = true ∧ s.findNext node bkey = none ∧ found.partialMatch = true ∧
          ∃ key, (key, found.block) ∈ s.nextBlocks node ∧ 0 < found.numMatched ∧
            found.numMatched = key.partialMatch bkey)) := by
  unfold findMatchingBlock at matched
  split at matched
  · cases matched
  · rename_i nonempty
    refine ⟨by simpa using nonempty, ?_⟩
    split at matched
    · rename_i block next
      cases matched
      exact .inl ⟨next, rfl, rfl⟩
    · rename_i next
      split at matched
      · rename_i enabled
        refine .inr ⟨enabled, next, ?_⟩
        split at matched
        · rename_i numMatched block best
          cases matched
          rcases bestPartialMatch_cases (s := s) (0, none) with same | ⟨entry, mem, pos, res⟩
          · rw [best] at same
            cases same
          · rw [best] at res
            cases res
            have child := (plat.iterate_perm _).mem_iff.mp mem
            exact ⟨rfl, entry.1, child, pos, rfl⟩
        · cases matched
      · cases matched

theorem child_of_findMatchingBlock : ∃ key, (key, found.block) ∈ s.nextBlocks node := by
  obtain ⟨_, ⟨next, _⟩ | ⟨_, _, _, key, child, _⟩⟩ := findMatchingBlock_some matched
  · exact ⟨bkey, mem_of_findNext next⟩
  · exact ⟨key, child⟩

end

theorem acceptedMatch_some (accepted : st.acceptedMatch cfg plat seq = some (bkey, found)) :
    ∃ searchRoot rest, st.searchRoot = some searchRoot ∧ st.blockKeys = bkey :: rest ∧
      st.manager.findMatchingBlock plat searchRoot bkey cfg.enablePartialReuse
        cfg.copyOnPartialReuse = some found := by
  unfold LoadState.acceptedMatch at accepted
  split at accepted
  · rename_i searchRoot key rest root keys
    split at accepted
    · rename_i found' matched
      split at accepted
      · cases accepted
        exact ⟨searchRoot, rest, root, keys, matched⟩
      · cases accepted
    · cases accepted
  · cases accepted

/-! ## Loading blocks -/

/-- The branches that `takeLeaf` records. -/
def recordLeaf (s : WindowBlockManager) (block : BlockId) : WindowBlockManager :=
  (s.record (.tookLeaf block)).recordIf (s.listedByValid s.isValidStoreForReuseSequence block)
    (.tookListed block)

theorem takeLeaf_ok (took : s.takeLeaf ret block = .ok s') : s.isLeaf (.block block) = true ∧
      s' = ((s.recordLeaf block).unlinkFromParent block).claimBlock block ret.retentionPriority
        ret.durationMs := by
  simp only [takeLeaf, bind_eq_ok, pure_eq_ok] at took
  obtain ⟨freed, unlinked, rfl⟩ := took
  obtain ⟨leaf, rfl⟩ := freeLeafBlock_ok unlinked
  exact ⟨leaf, rfl⟩

theorem copyPartialMatch_ok {newBlock : BlockId}
    (copied : copyPartialMatch cfg plat s rid bkey found = .ok (newBlock, s')) :
    ∃ taken, s.getFreeBlock cfg plat rid (s.priority found.block)
        (s.durationMs found.block) = .ok (newBlock, taken) ∧
      s' = ((((taken.recordIf (newBlock == found.block &&
        taken.memoryPoolBlockIndex newBlock != s.memoryPoolBlockIndex found.block)
          (.overwroteSource newBlock)).copyBlock cfg found.block newBlock
            found.numMatched).setBlockKey newBlock bkey (fillsBlock cfg bkey)).setHash
              newBlock) := by
  simp only [copyPartialMatch, bind_eq_ok, pure_eq_ok, Prod.mk.injEq] at copied
  obtain ⟨⟨other, taken⟩, took, rfl, rfl⟩ := copied
  exact ⟨taken, took, rfl⟩

/-- The three ways in which a match is used. -/
theorem useMatch_ok {root : Option Node} (used : useMatch cfg plat s rid ret bkey found =
      .ok (block, root, s')) : (found.partialMatch = true ∧ root = none ∧
      (s.hasRefs found.block = true ∨ s.isLeaf (.block found.block) = false) ∧
      copyPartialMatch cfg plat s rid bkey found = .ok (block, s')) ∨
    (found.partialMatch = true ∧ root = none ∧ block = found.block ∧
      s.hasRefs found.block = false ∧ s.takeLeaf ret found.block = .ok s') ∨
    (found.partialMatch = false ∧ root = some (.block found.block) ∧ block = found.block ∧
      s' = s.claimBlock found.block ret.retentionPriority ret.durationMs) := by
  unfold useMatch at used
  split at used
  · rename_i part
    split at used
    · rename_i copies
      simp only [bind_eq_ok, pure_eq_ok, Prod.mk.injEq] at used
      obtain ⟨⟨newBlock, copied⟩, copy, rfl, rfl, rfl⟩ := used
      exact .inl ⟨part, rfl, by simpa using copies, copy⟩
    · rename_i keeps
      simp only [bind_eq_ok, pure_eq_ok, Prod.mk.injEq] at used
      obtain ⟨taken, took, rfl, rfl, rfl⟩ := used
      simp only [Bool.or_eq_true, not_or, Bool.not_eq_true] at keeps
      exact .inr (.inl ⟨part, rfl, rfl, keeps.1, took⟩)
  · rename_i whole
    obtain ⟨rfl, rfl, rfl⟩ := used
    exact .inr (.inr ⟨by simpa using whole, rfl, rfl, rfl⟩)

/-- One round of the loading loop: a match is used and brought to primary memory, or a
free block is taken. The priority event changes the queue of events only. -/
theorem loadSharedBlock_ok {next : LoadState}
    (loaded : loadSharedBlock cfg plat seq st ret = .ok next) :
    (∃ bkey found block root used onboarded events,
      st.acceptedMatch cfg plat seq = some (bkey, found) ∧
      useMatch cfg plat { st.manager with eventQueue := events }
        seq.requestId ret bkey found = .ok (block, root, used) ∧
      used.onboardBlock cfg plat seq.requestId block = .ok onboarded ∧
      next = ⟨onboarded.addBlockToAllBeams seq block, root, st.blockKeys.tail,
        st.numMatchedTokens + if 0 < found.numMatched then found.numMatched
          else bkey.uniqueTokens.length⟩) ∨ (∃ block taken, st.acceptedMatch cfg plat seq = none ∧
      st.manager.getFreeBlock cfg plat seq.requestId
        (ret.retentionPriority.getD kDefaultRetentionPriority) ret.durationMs = .ok (block, taken) ∧
      next = ⟨(setNextKey cfg (taken.addBlockToAllBeams seq block) block
        st.blockKeys).setHash block, none, st.blockKeys.tail, st.numMatchedTokens⟩) := by
  unfold loadSharedBlock at loaded
  split at loaded
  · rename_i bkey found accepted
    simp only [bind_eq_ok, pure_eq_ok] at loaded
    obtain ⟨⟨block, root, used⟩, useOk, onboarded, onboardOk, rfl⟩ := loaded
    have notified : ∃ events, notifyPriority cfg st.manager ret found.block =
        { st.manager with eventQueue := events } := by
      unfold notifyPriority
      split <;> exact ⟨_, rfl⟩
    obtain ⟨events, notified⟩ := notified
    rw [notified] at useOk
    exact .inl ⟨bkey, found, block, root, used, onboarded, events, accepted, useOk, onboardOk, rfl⟩
  · rename_i rejected
    simp only [bind_eq_ok, pure_eq_ok] at loaded
    obtain ⟨⟨block, taken⟩, took, rfl⟩ := loaded
    exact .inr ⟨block, taken, rejected, took, rfl⟩

/-- What both loops keep: one for the blocks of all beams, one for the blocks of each beam. -/
theorem loadOrAllocateBlocks_invariant (kept : WindowBlockManager → Prop)
    (shared : ∀ {st ret next}, kept st.manager → loadSharedBlock cfg plat seq st ret = .ok next →
      kept next.manager)
    (beam : ∀ {st : LoadState} {ret idx next}, kept st.manager →
      loadBeamBlock cfg plat seq ret st idx = .ok next → kept next.manager)
    {blockKeys : List BlockKey} {retentions : List RetentionPriorityAndDuration}
    {prepopulated : Nat}
    (initially : kept s) (loaded : s.loadOrAllocateBlocks cfg plat blockKeys numContextBlocks seq
      retentions = .ok (prepopulated, s')) : kept s' := by
  simp only [loadOrAllocateBlocks, bind_eq_ok, pure_eq_ok, Prod.mk.injEq] at loaded
  obtain ⟨between, first, last, second, _, rfl⟩ := loaded
  have keptShared : kept between.manager := foldlM_invariant (fun st : LoadState => kept st.manager)
    (fun _ _ _ _ => shared) initially first
  refine foldlM_invariant (fun st : LoadState => kept st.manager) ?_ keptShared second
  intro st ret next _ before stepped
  simp only [loadUnsharedBlock, bind_eq_ok, pure_eq_ok] at stepped
  obtain ⟨ended, loop, rfl⟩ := stepped
  have beams : kept ended.manager := foldlM_invariant (fun st : LoadState => kept st.manager)
    (fun _ _ _ _ => beam) before loop
  exact beams

/-! The reused prefix advances the request's context position. -/

theorem setContextChunkSize_ok {size : Int} (set : req.setContextChunkSize size = .ok req') :
    req' = { req with contextChunkSize := req'.contextChunkSize } := by
  unfold LlmRequest.setContextChunkSize at set
  split at set
  · cases set
    rfl
  · cases set

theorem setPrepopulatedPromptLen_ok {count kvTokensPerBlock : Nat}
    (advanced : req.setPrepopulatedPromptLen count kvTokensPerBlock = .ok req') :
    count < req.promptLen ∧ req' = { req with
      contextCurrentPosition := if count = 0 then req.contextCurrentPosition else count
      prepopulatedPromptLen := count
      contextChunkSize := req'.contextChunkSize } := by
  unfold LlmRequest.setPrepopulatedPromptLen at advanced
  by_cases long : req.promptLen ≤ count
  · simp only [long, ↓reduceIte, throw_bind_eq_ok] at advanced
  refine ⟨Nat.lt_of_not_le long, ?_⟩
  simp only [long, ↓reduceIte] at advanced
  split at advanced
  · rename_i none
    simp only [pure_eq_ok] at advanced
    rw [← advanced, if_pos none]
  rename_i some
  split at advanced
  · simp only [throw_bind_eq_ok] at advanced
  generalize (if count + req.contextChunkSize < req.promptLen then _ else _ : Int) = chunk
    at advanced
  split at advanced
  · simp only [throw_bind_eq_ok] at advanced
  simp only [bind_eq_ok] at advanced
  obtain ⟨chunked, set, advanced⟩ := advanced
  have same := setContextChunkSize_ok set
  split at advanced
  · simp only [throw_bind_eq_ok] at advanced
  simp only [pure_eq_ok] at advanced
  rw [← advanced, same, if_neg some]

theorem emplaceSequence_ok (emplaced : s.emplaceSequence seq = .ok s') :
    s.sequences.lookup seq.requestId = none ∧ s' = { s with
      sequences := s.sequences.insert seq.requestId
        (emptySequence seq.beamWidth (2 ^ 31 - 1)) } := by
  unfold emplaceSequence at emplaced
  split at emplaced
  · cases emplaced
  · rename_i absent
    cases emplaced
    exact ⟨by simpa using absent, rfl⟩

theorem addSequenceReuse_ok {inputLength : Nat}
    (added : s.addSequenceReuse cfg plat seq inputLength numContextBlocks req =
      .ok (s', seq', req')) :
    ∃ emplaced blockKeys prepopulated, s.emplaceSequence seq = .ok emplaced ∧
      promptKeys cfg req inputLength = .ok blockKeys ∧
      emplaced.loadOrAllocateBlocks cfg plat blockKeys numContextBlocks seq
        ((req.kvCacheRetentionConfig.getD {}).getPerBlockRetentionPriorityDuration
          cfg.tokensPerBlock inputLength) = .ok (prepopulated, s') ∧
      seq' = { seq with currentPrepopulatedPromptLen := some prepopulated } ∧
      req.setPrepopulatedPromptLen prepopulated cfg.tokensPerBlock = .ok req' := by
  simp only [addSequenceReuse, bind_eq_ok] at added
  obtain ⟨emplaced, emplaceOk, blockKeys, keys, rest⟩ := added
  split at rest
  · simp only [throw_bind_eq_ok] at rest
  · simp only [bind_eq_ok, pure_eq_ok, Prod.mk.injEq] at rest
    obtain ⟨⟨prepopulated, loaded⟩, loadOk, reused, advance, request'', shorten, rfl, rfl, rfl⟩ :=
      rest
    refine ⟨emplaced, blockKeys, prepopulated, emplaceOk, keys, loadOk, ?_, shorten⟩
    unfold setCurrentPrepopulatedPromptLen at advance
    split at advance
    · cases advance
      rfl
    · cases advance

theorem addSequenceNoReuse_ok {share : Bool}
    (added : s.addSequenceNoReuse cfg plat seq numContextBlocks share = .ok s') :
    ∃ emplaced shared, s.emplaceSequence seq = .ok emplaced ∧ 0 < numContextBlocks ∧
      (List.range (numContextBlocks - 1)).foldlM
        (fun s _ => s.allocateBlock cfg plat seq true) emplaced = .ok shared ∧
      shared.allocateBlock cfg plat seq share = .ok s' := by
  simp only [addSequenceNoReuse, bind_eq_ok] at added
  obtain ⟨emplaced, emplaceOk, rest⟩ := added
  split at rest
  · simp only [throw_bind_eq_ok] at rest
  · rename_i some
    simp only [bind_eq_ok] at rest
    obtain ⟨shared, loop, last⟩ := rest
    exact ⟨emplaced, shared, emplaceOk, Nat.pos_of_ne_zero some, loop, last⟩

/-! ## Storing blocks -/

theorem mem_children_insertBlock {root : Node} {entry : BlockKey × BlockId}
    (mem : entry ∈ (insertBlock cfg s root bkey block).nextBlocks node) :
    entry ∈ s.nextBlocks node ∨ (node = root ∧ entry = (bkey, block)) := by
  have unfolded : (insertBlock cfg s root bkey block).nextBlocks =
      if (s.findNext root bkey).isSome then s.nextBlocks
      else Function.update s.nextBlocks root (s.nextBlocks root ++ [(bkey, block)]) := rfl
  rw [unfolded] at mem
  split at mem
  · exact .inl mem
  · by_cases same : node = root
    · subst same
      rw [Function.update_self] at mem
      rcases mem_append.mp mem with before | new
      · exact .inl before
      · exact .inr ⟨rfl, mem_singleton.mp new⟩
    · rw [Function.update_of_ne same] at mem
      exact .inl mem

/-- The storing loop keeps what each of its rounds keeps. -/
theorem storeLoop_invariant (invariant : StoreState → Prop)
    (round : ∀ st bkey block, (bkey, block) ∈ pairs → block < cfg.numBlocks → invariant st →
        invariant (pinRoot pinBlocks (storeOrMatch cfg plat st bkey block))) {st : StoreState}
    (initially : invariant st) :
    invariant (storeLoop cfg plat pinBlocks pairs st) := by
  induction pairs generalizing st with
  | nil => exact initially
  | cons pair rest ih =>
    obtain ⟨bkey, block⟩ := pair
    unfold storeLoop
    split
    · rename_i bounded
      exact ih (fun st key other mem =>
          round st key other (mem_cons_of_mem _ mem))
        (round st bkey block mem_cons_self bounded initially)
    · exact initially

/-- One round matches a child of the search root or inserts the block there. -/
theorem storeOrMatch_cases (cfg : WindowConfig) (plat : Platform) (st : StoreState)
    (bkey : BlockKey) (block : BlockId) :
    (∃ child, st.needMatch = true ∧
      (bkey, child) ∈ st.manager.nextBlocks st.searchRoot ∧
      storeOrMatch cfg plat st bkey block =
        { st with searchRoot := .block child }) ∨
    ((st.needMatch = true → bkey.uniqueTokens ≠ [] →
        st.manager.findNext st.searchRoot bkey = none) ∧
      storeOrMatch cfg plat st bkey block =
        { st with
          manager := insertBlock cfg st.manager st.searchRoot bkey block
          searchRoot := .block block
          needMatch := false
          storedBlocks := st.storedBlocks ++ [block] }) := by
  unfold storeOrMatch
  split
  · rename_i found matched
    split at matched
    · rename_i needed
      obtain ⟨_, ⟨next, _⟩ | ⟨disabled, _⟩⟩ := findMatchingBlock_some matched
      · exact .inl ⟨found.block, needed, mem_of_findNext next, rfl⟩
      · cases disabled
    · cases matched
  · rename_i unmatched
    refine .inr ⟨fun needed nonempty => ?_, rfl⟩
    rw [if_pos needed] at unmatched
    unfold findMatchingBlock at unmatched
    cases next : st.manager.findNext st.searchRoot bkey with
    | none => rfl
    | some child => simp [next, nonempty] at unmatched

theorem storeOrMatch_pinned (cfg : WindowConfig) (plat : Platform) (state : StoreState)
    (bkey : BlockKey) (block : BlockId) : (storeOrMatch cfg plat state bkey block).pinnedBlockIds =
      state.pinnedBlockIds := by
  rcases storeOrMatch_cases cfg plat state bkey block with
    ⟨_, _, _, same⟩ | ⟨_, same⟩ <;> rw [same]

/-- Pinning adds a reference to the block at which the round ended, unless that is the root. -/
theorem pinRoot_cases (pinBlocks : Bool) (st : StoreState) :
    pinRoot pinBlocks st = st ∨
      ∃ block, pinBlocks = true ∧ st.searchRoot = .block block ∧
        pinRoot pinBlocks st = { st with
          manager := (st.manager.recordIf (!st.manager.hasRefs block)
            (.pinnedFree block)).incRefCount block
          pinnedBlockIds := st.pinnedBlockIds ++ [block] } := by
  unfold pinRoot
  split
  · rename_i block ends
    exact .inr ⟨block, rfl, ends, rfl⟩
  · exact .inl rfl

theorem history_storeOrMatch (cfg : WindowConfig) (plat : Platform) (st : StoreState)
    (bkey : BlockKey) (block : BlockId) :
    st.manager.history ⊆ (storeOrMatch cfg plat st bkey block).manager.history := by
  rcases storeOrMatch_cases cfg plat st bkey block with
    ⟨_, _, _, same⟩ | ⟨_, same⟩
  · rw [same]
    exact fun _ => id
  · rw [same]
    exact history_recordIf st.manager (st.manager.prevBlock block).isSome (.relinked block)

theorem history_pinRoot (pinBlocks : Bool) (st : StoreState) :
    st.manager.history ⊆ (pinRoot pinBlocks st).manager.history := by
  rcases pinRoot_cases pinBlocks st with same | ⟨block, _, _, same⟩
  · rw [same]
    exact fun _ => id
  · rw [same]
    exact history_recordIf st.manager (!st.manager.hasRefs block) (.pinnedFree block)

/-- Without pinning no ids are returned. -/
theorem storeLoop_unpinned {st : StoreState} (unpinned : st.pinnedBlockIds = []) :
    (storeLoop cfg plat false pairs st).pinnedBlockIds = [] := by
  refine storeLoop_invariant (fun st => st.pinnedBlockIds = []) ?_ unpinned
  intro st bkey block _ _ unpinned
  exact (storeOrMatch_pinned cfg plat st bkey block).trans unpinned

theorem sequence?_ok (found : s.sequence? rid = .ok sq) :
    s.sequences.lookup rid = some sq := by
  unfold sequence? at found
  split at found
  · rename_i looked
    cases found
    exact looked
  · cases found

theorem storeContextBlocks_ok (stored : s.storeContextBlocks cfg plat req = .ok s') :
    s' = s ∨ ∃ sq blockKeys, cfg.isSWA = false ∧ s.sequences.lookup req.requestId = some sq ∧
      reuseKeys cfg req false = .ok blockKeys ∧
      s' = (storeBlocks cfg plat s blockKeys (sq.beamBlocks 0) false).2 := by
  unfold storeContextBlocks at stored
  split at stored
  · cases stored
    exact .inl rfl
  · rename_i full
    simp only [bind_eq_ok, pure_eq_ok] at stored
    obtain ⟨sq, found, blockKeys, keys, rfl⟩ := stored
    exact .inr ⟨sq, blockKeys, by simpa using full, sequence?_ok found, keys, rfl⟩

theorem storeNewBlock_ok (stored : s.storeNewBlock cfg plat req = .ok s') :
    s' = s ∨ ∃ sq blockKeys, cfg.isSWA = false ∧ req.uniqueTokens ≠ [] ∧
      (req.uniqueTokens.length - 1) % cfg.tokensPerBlock = 0 ∧
      s.sequences.lookup req.requestId = some sq ∧ newBlockKeys cfg req = .ok blockKeys ∧
      s' = (storeBlocks cfg plat s blockKeys (sq.beamBlocks 0) false).2 := by
  unfold storeNewBlock at stored
  split at stored
  · cases stored
    exact .inl rfl
  · rename_i aligned
    simp only [Bool.or_eq_true, not_or, Bool.not_eq_true, isEmpty_eq_false_iff,
      bne_eq_false_iff_eq] at aligned
    simp only [bind_eq_ok] at stored
    obtain ⟨sq, found, blockKeys, keys, rest⟩ := stored
    split at rest
    · simp only [pure_eq_ok] at rest
      exact .inl rest.symm
    · simp only [pure_eq_ok] at rest
      exact .inr ⟨sq, blockKeys, aligned.1.1, aligned.1.2, aligned.2, sequence?_ok found,
        keys, rest.symm⟩

theorem storeBlocksForReuse_ok {pinned : List BlockId}
    (stored : s.storeBlocksForReuse cfg plat req pinBlocks = .ok (pinned, s')) :
    ∃ (sq : SequenceBlocks) (blockKeys : List BlockKey), reuseKeys cfg req true = .ok blockKeys ∧
      (pinned, s') = storeBlocks cfg plat s blockKeys (sq.beamBlocks 0) pinBlocks := by
  simp only [storeBlocksForReuse, bind_eq_ok, pure_eq_ok] at stored
  obtain ⟨sq, _, blockKeys, keys, same⟩ := stored
  exact ⟨sq, blockKeys, keys, same.symm⟩

theorem storeReleased_ok {req : Option LlmRequest}
    (stored : storeReleased cfg plat s sq rid req = .ok s') :
    s' = s ∨ ∃ known blockKeys, req = some known ∧ s.isValidStoreForReuseSequence rid = some true ∧
      reuseKeys cfg known true = .ok blockKeys ∧
      s' = (storeBlocks cfg plat s blockKeys sq.allocatedBlocks false).2 := by
  unfold storeReleased at stored
  split at stored
  · cases stored
    exact .inl rfl
  · rename_i known
    simp only [bind_eq_ok] at stored
    obtain ⟨valid, checked, rest⟩ := stored
    split at rest
    · rename_i isValid
      simp only [bind_eq_ok, pure_eq_ok] at rest
      obtain ⟨blockKeys, keys, rfl⟩ := rest
      refine .inr ⟨known, blockKeys, rfl, ?_, keys, rfl⟩
      unfold isSequenceValidForStoreForReuse at checked
      split at checked
      · rename_i flag found
        cases checked
        rw [found, isValid]
      · cases checked
    · simp only [pure_eq_ok] at rest
      exact .inl rest.symm

/-! ## References -/

/-- A block is released with the last reference to it. -/
theorem decRefCount_cases (released : WindowBlockManager) :
    (if (s.decRefCount block).hasRefs block then s.decRefCount block else released) =
      if s.refCount block - 1 = 0 then released else s.decRefCount block := by
  simp only [hasRefs, decRefCount, Function.update_self]
  by_cases last : s.refCount block - 1 = 0
  · simp only [last, Nat.lt_irrefl, decide_false, Bool.false_eq_true, ↓reduceIte]
  · simp only [last, Nat.pos_of_ne_zero last, decide_true, ↓reduceIte]

theorem dropReference_ok {toFront : Bool} (dropped : dropReference plat s block toFront = .ok s') :
    0 < s.refCount block ∧
      s' = if s.refCount block - 1 = 0 then (s.decRefCount block).releaseBlock plat block toFront
        else s.decRefCount block := by
  unfold dropReference at dropped
  split at dropped
  · rename_i referenced
    refine ⟨by simpa [hasRefs] using referenced, ?_⟩
    cases dropped
    exact decRefCount_cases _
  · cases dropped

/-- Releasing a reference that is there is `dropReference`. -/
theorem releaseReference_eq (referenced : 0 < s.refCount block) : releaseReference plat s block =
      if s.refCount block - 1 = 0 then (s.decRefCount block).releaseBlock plat block false
      else s.decRefCount block := by
  have before : s.hasRefs block = true := by simpa [hasRefs] using referenced
  simp only [releaseReference, before, ↓reduceIte]
  exact decRefCount_cases _

/-! ## Releasing blocks -/

theorem releaseBlocks_ok {req : Option LlmRequest}
    (released : s.releaseBlocks cfg plat seq req = .ok s') :
    ∃ sq stored, s.sequences.lookup seq.requestId = some sq ∧
      storeReleased cfg plat { s with sequences := s.sequences.erase seq.requestId }
        sq seq.requestId req = .ok stored ∧
      s' = (sq.allocatedBlocks.drop seq.numFrontBlocksRemoved).reverse.foldl
        (releaseReference plat) stored := by
  simp only [releaseBlocks, bind_eq_ok, pure_eq_ok] at released
  obtain ⟨sq, found, stored, storing, rfl⟩ := released
  exact ⟨sq, stored, sequence?_ok found, storing, rfl⟩

theorem releaseLastBlock_ok (released : s.releaseLastBlock plat seq = .ok s') :
    ∃ sq block dropped, s.sequences.lookup seq.requestId = some sq ∧
      sq.allocatedBlocks.getLast? = some block ∧ dropReference plat (s.recordIf
        (sq.allocatedBlocks.length ≤ seq.numFrontBlocksRemoved) (.releasedDetached block))
          block true = .ok dropped ∧ s' = dropped.modifySequence seq.requestId popBlock := by
  simp only [releaseLastBlock, bind_eq_ok] at released
  obtain ⟨sq, found, rest⟩ := released
  split at rest
  · cases rest
  · rename_i block last
    simp only [bind_eq_ok, pure_eq_ok] at rest
    obtain ⟨dropped, dropping, rfl⟩ := rest
    exact ⟨sq, block, dropped, sequence?_ok found, last, dropping, rfl⟩

theorem detachFrontBlock_ok (detached : s.detachFrontBlock plat seq = .ok (s', seq')) :
    ∃ sq block, seq.beamWidth = 1 ∧ s.sequences.lookup seq.requestId = some sq ∧
      sq.allocatedBlocks[seq.numFrontBlocksRemoved]? = some block ∧
      dropReference plat s block false = .ok s' ∧
      seq' = { seq with numFrontBlocksRemoved := seq.numFrontBlocksRemoved + 1 } := by
  unfold detachFrontBlock at detached
  split at detached
  · simp only [throw_bind_eq_ok] at detached
  · rename_i single
    simp only [bind_eq_ok] at detached
    obtain ⟨sq, found, rest⟩ := detached
    split at rest
    · cases rest
    · rename_i block next
      simp only [bind_eq_ok, pure_eq_ok, Prod.mk.injEq] at rest
      obtain ⟨dropped, dropping, rfl, rfl⟩ := rest
      exact ⟨sq, block, not_not.mp single, sequence?_ok found, next, dropping, rfl⟩

/-- The detaching loop keeps what each detached block keeps. -/
theorem detachLoop_invariant (invariant : WindowBlockManager → GenerationRequest → Prop)
    (round : ∀ s seq s' seq', cfg.isSWA = true → invariant s seq →
      s.detachFrontBlock plat seq = .ok (s', seq') → invariant s' seq') {rounds : Nat}
    (initially : invariant s seq)
    (looped : detachLoop cfg plat rounds s seq = .ok (s', seq')) : invariant s' seq' := by
  induction rounds generalizing s seq with
  | zero =>
    cases looped
    exact initially
  | succ rounds ih =>
    unfold detachLoop at looped
    split at looped
    · split at looped
      · rename_i sliding
        simp only [bind_eq_ok] at looped
        obtain ⟨⟨next, seqNext⟩, detached, continued⟩ := looped
        exact ih (round s seq next seqNext sliding initially detached) continued
      · cases looped
    · cases looped
      exact initially

theorem adjustBlocksIfNeeded_ok (adjusted : adjustBlocksIfNeeded cfg plat s seq = .ok (s', seq')) :
    ∃ detached, detachLoop cfg plat seq.numTokens s seq = .ok (detached, seq') ∧
      (((seq'.numTokens - 1) % cfg.tokensPerBlock = 0 ∧ ∃ allocated,
          detached.allocateBlock cfg plat seq' (seq'.beamWidth == 1) = .ok allocated ∧
          s' = updateLastCacheBlockOffsets cfg allocated seq') ∨
        ((seq'.numTokens - 1) % cfg.tokensPerBlock ≠ 0 ∧ s' = detached)) := by
  simp only [adjustBlocksIfNeeded, bind_eq_ok] at adjusted
  obtain ⟨⟨detached, seqNext⟩, looped, rest⟩ := adjusted
  split at rest
  · rename_i aligned
    simp only [bind_eq_ok, pure_eq_ok, Prod.mk.injEq] at rest
    obtain ⟨allocated, allocating, rfl, rfl⟩ := rest
    exact ⟨detached, looped, .inl ⟨aligned, allocated, allocating, rfl⟩⟩
  · rename_i lt
    obtain ⟨rfl, rfl⟩ := rest
    exact ⟨detached, looped, .inr ⟨lt, rfl⟩⟩

/-- `refresh` keeps what reading the clock and expiring a block keep. -/
theorem refresh_invariant (invariant : WindowBlockManager → Prop)
    (reads : ∀ s : WindowBlockManager, invariant s →
      invariant { s with clockReads := s.clockReads + 1 })
    (expires : ∀ (s : WindowBlockManager) (block : BlockId), invariant s →
      invariant (s.expireBlock block))
    (initially : invariant s) : invariant (s.refresh plat) := by
  unfold refresh
  generalize s.expiringBlockHeap.length = rounds
  induction rounds generalizing s with
  | zero => exact initially
  | succ rounds ih =>
    unfold refreshLoop
    split
    · exact initially
    · dsimp only
      split
      · exact reads s initially
      · exact ih (expires _ _ (reads s initially))

end TrtLlm.WindowBlockManager
