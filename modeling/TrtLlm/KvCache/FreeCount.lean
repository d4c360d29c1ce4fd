import TrtLlm.KvCache.OneSequence

/-! # The number of free blocks

How many free primary blocks the calls for one sequence take. Every block that a sequence gets takes
at most one, whether it is new, copied, reused or first brought to primary memory.
-/

namespace TrtLlm.WindowBlockManager

open Except (bind_eq_ok pure_eq_ok throw_bind_eq_ok)

variable {cfg : WindowConfig} {plat : Platform} {s s' s'' : WindowBlockManager}
  {block : BlockId} {seq : GenerationRequest} {rid : RequestId}

/-- `WindowBlockManager::getNumFreeBlocks`, in primary memory. -/
def getNumFreeBlocks (s : WindowBlockManager) : Int := s.numFreeBlocksPerLevel .primary

/-- Between the states at most `count` free blocks are taken. -/
def Takes (count : Int) (s s' : WindowBlockManager) : Prop :=
  s.getNumFreeBlocks ≤ s'.getNumFreeBlocks + count

variable {count count' : Int}

theorem Takes.of_same (same : s'.numFreeBlocksPerLevel = s.numFreeBlocksPerLevel) :
    Takes 0 s s' := by
  unfold Takes getNumFreeBlocks
  rw [same]
  omega

theorem Takes.trans (first : Takes count s s') (second : Takes count' s' s'') :
    Takes (count + count') s s'' := by
  unfold Takes at *
  omega

theorem Takes.mono (takes : Takes count s s') (more : count ≤ count') : Takes count' s s' := by
  unfold Takes at *
  omega

/-- A change of the state that leaves the counters alone. -/
theorem Takes.same (takes : Takes count s s')
    (same : s''.numFreeBlocksPerLevel = s'.numFreeBlocksPerLevel) : Takes count s s'' := by
  unfold Takes getNumFreeBlocks at *
  rwa [same]

/-- A loop with the same bound in every round. -/
theorem Takes.rounds {σ α : Type} (count : Int) (manager : σ → WindowBlockManager)
    {body : σ → α → Except Failure σ} (round : ∀ st item next, body st item = .ok next →
      Takes count (manager st) (manager next))
    {items : List α} {start res : σ} (looped : items.foldlM body start = .ok res) :
    Takes (items.length * count) (manager start) (manager res) := by
  induction items generalizing start with
  | nil =>
    simp only [List.foldlM_nil, pure_eq_ok] at looped
    rw [looped]
    exact (Takes.of_same rfl).mono (by simp)
  | cons item items ih =>
    simp only [List.foldlM_cons, bind_eq_ok] at looped
    obtain ⟨next, stepped, continued⟩ := looped
    refine ((round start item next stepped).trans (ih continued)).mono ?_
    rw [List.length_cons, Int.natCast_succ, Int.add_mul, Int.one_mul, Int.add_comm]

/-! ## The free queues -/

theorem takes_claimBlock (s : WindowBlockManager) (block : BlockId)
    (prio : Option RetentionPriority) (dur : Option Nat) :
    Takes (if s.isPrimary block then 1 else 0) s (s.claimBlock block prio dur) := by
  unfold Takes getNumFreeBlocks claimBlock getCacheLevel
  split <;> split <;> simp

theorem takes_releaseBlock (s : WindowBlockManager) (block : BlockId) (toFront : Bool) :
    Takes 0 s (s.releaseBlock plat block toFront) := by
  unfold Takes getNumFreeBlocks releaseBlock getCacheLevel
  dsimp only
  split <;> simp

/-- A block that is claimed and released at once is queued at its level. -/
theorem takes_requeueBlock (s : WindowBlockManager) (block : BlockId) :
    Takes 0 s ((s.claimBlock block none none).releaseBlock plat block false) := by
  unfold Takes getNumFreeBlocks releaseBlock claimBlock getCacheLevel isPrimary
  dsimp only
  split <;> split <;> simp

theorem takes_chooseFreeBlock (chose : s.chooseFreeBlock cfg plat = .ok (block, s')) :
    Takes 0 s s' := by
  obtain ⟨_, _, _, ⟨_, _, rfl⟩ | ⟨_, _, rfl⟩⟩ := chooseFreeBlock_ok chose
  · exact .of_same rfl
  · exact takes_requeueBlock _ _

section

variable {prio : RetentionPriority} {dur : Option Nat}
  (took : s.getFreeBlock cfg plat rid prio dur = .ok (block, s'))
include took

/-- A block that is handed out counts if it is in primary memory. -/
theorem takes_getFreeBlock : Takes (if s'.isPrimary block then 1 else 0) s s' := by
  obtain ⟨chosen, pruned, chose, freed, rfl⟩ := getFreeBlock_ok took
  have same := freeChildren_ok freed
  have kept : Takes 0 s pruned := (takes_chooseFreeBlock chose).same (by rw [same]; rfl)
  exact ((kept.trans (takes_claimBlock pruned block (some prio) dur)).same rfl).mono
    (Int.zero_add _).le

theorem takes_one_getFreeBlock : Takes 1 s s' :=
  (takes_getFreeBlock took).mono (by split <;> omega)

end

/-- A block that is brought to primary memory takes one free block. -/
theorem takes_onboardBlock {offloadBlock : BlockId}
    (onboarded : s.onboardBlock cfg plat rid offloadBlock = .ok s') :
    Takes (if s.isPrimary offloadBlock then 0 else 1) s s' := by
  rcases onboardBlock_ok onboarded with ⟨_, rfl⟩ | ⟨_, secondary, _, taken, took, rfl⟩
  · exact (Takes.of_same rfl).mono (by split <;> omega)
  · rw [secondary]
    refine Takes.mono (Takes.trans ?_ (takes_releaseBlock _ _ _)) (Int.add_zero _).le
    exact (takes_one_getFreeBlock took).same rfl

variable {ret : RetentionPriorityAndDuration} {st next : LoadState} {numContextBlocks : Nat}

/-- A match counts as it is used if it is in primary memory, and as it is brought there if not. -/
theorem takes_useMatch {key : BlockKey} {found : BlockMatch} {root : Option Node}
    (used : useMatch cfg plat s rid ret key found =
      .ok (block, root, s')) : Takes (if s'.isPrimary block then 1 else 0) s s' := by
  rcases useMatch_ok used with ⟨_, _, _, copied⟩ | ⟨_, _, rfl, _, took⟩ | ⟨_, _, rfl, rfl⟩
  · obtain ⟨taken, took, rfl⟩ := copyPartialMatch_ok copied
    have taking := takes_getFreeBlock took
    exact taking.same rfl
  · obtain ⟨_, rfl⟩ := takeLeaf_ok took
    have unlinked : ∀ t : WindowBlockManager, t.numFreeBlocksPerLevel = s.numFreeBlocksPerLevel →
        Takes 0 s (t.unlinkFromParent found.block) := by
      intro t counters
      have same := sameButTree_unlinkFromParent t found.block
      exact .of_same (by rw [same]; exact counters)
    refine Takes.mono (Takes.trans (unlinked _ ?_) (takes_claimBlock _ found.block _ _))
      (Int.zero_add _).le
    rfl
  · exact takes_claimBlock _ _ _ _

/-! ## Giving blocks to a sequence -/

theorem addBlockToAllBeams_counters (s : WindowBlockManager) (seq : GenerationRequest)
    (block : BlockId) :
    (s.addBlockToAllBeams seq block).numFreeBlocksPerLevel = s.numFreeBlocksPerLevel := by
  refine List.foldl_invariant (fun st : WindowBlockManager =>
    st.numFreeBlocksPerLevel = s.numFreeBlocksPerLevel) ?_ rfl
  exact fun _ _ _ same => same

theorem setNextKey_counters (s : WindowBlockManager) (block : BlockId) (blockKeys : List BlockKey) :
    ((setNextKey cfg s block blockKeys).setHash block).numFreeBlocksPerLevel =
      s.numFreeBlocksPerLevel := by
  cases blockKeys <;> rfl

/-- A block for all beams takes one free block, and one for each beam as many as there are beams. -/
theorem takes_allocateBlock {shareAmongBeams : Bool}
    (allocated : s.allocateBlock cfg plat seq shareAmongBeams = .ok s') :
    Takes (if shareAmongBeams then 1 else seq.beamWidth : Nat) s s' := by
  rcases allocateBlock_ok allocated with ⟨rfl, block, taken, took, rfl⟩ | ⟨rfl, beams⟩
  · exact (takes_one_getFreeBlock took).same (addBlockToAllBeams_counters _ _ _)
  · refine (Takes.rounds 1 id (fun st item next stepped => ?_) beams).mono (by simp)
    simp only [bind_eq_ok, pure_eq_ok] at stepped
    obtain ⟨⟨block, taken⟩, took, rfl⟩ := stepped
    exact (takes_one_getFreeBlock took).same rfl

theorem takes_loadSharedBlock (loaded : loadSharedBlock cfg plat seq st ret = .ok next) :
    Takes 1 st.manager next.manager := by
  rcases loadSharedBlock_ok loaded with
    ⟨_, _, block, _, used, onboarded, events, _, useOk, onboardOk, rfl⟩ |
    ⟨block, taken, _, took, rfl⟩
  · have notified : Takes 0 st.manager { st.manager with eventQueue := events } := .of_same rfl
    refine (((notified.trans (takes_useMatch useOk)).trans (takes_onboardBlock onboardOk)).same
      (addBlockToAllBeams_counters _ _ _)).mono ?_
    cases used.isPrimary block <;> decide
  · refine (takes_one_getFreeBlock took).same ?_
    exact (setNextKey_counters _ _ _).trans (addBlockToAllBeams_counters _ _ _)

theorem takes_loadUnsharedBlock (loaded : loadUnsharedBlock cfg plat seq st ret = .ok next) :
    Takes seq.beamWidth st.manager next.manager := by
  simp only [loadUnsharedBlock, bind_eq_ok, pure_eq_ok] at loaded
  obtain ⟨last, beams, rfl⟩ := loaded
  refine (Takes.rounds 1 LoadState.manager (fun st item next stepped => ?_) beams).mono (by simp)
  simp only [loadBeamBlock, bind_eq_ok, pure_eq_ok] at stepped
  obtain ⟨⟨block, taken⟩, took, rfl⟩ := stepped
  exact (takes_one_getFreeBlock took).same (setNextKey_counters _ _ _)

/-- With block reuse every beam has a last block of its own as soon as there are two beams. -/
theorem takes_addSequenceReuse {inputLength : Nat} {req req' : LlmRequest}
    {seq' : GenerationRequest}
    (added : s.addSequenceReuse cfg plat seq inputLength numContextBlocks req =
      .ok (s', seq', req')) : Takes (if 1 < seq.beamWidth ∧ 0 < numContextBlocks then
      (numContextBlocks - 1 + seq.beamWidth : Nat) else numContextBlocks) s s' := by
  have sized := added
  simp only [addSequenceReuse, bind_eq_ok] at sized
  obtain ⟨_, _, _, _, checked⟩ := sized
  split at checked
  · simp only [throw_bind_eq_ok] at checked
  rename_i sameSize
  rw [not_not] at sameSize
  obtain ⟨emplaced, blockKeys, prepopulated, emplaceOk, _, loadOk, _, _⟩ :=
    addSequenceReuse_ok added
  obtain ⟨_, rfl⟩ := emplaceSequence_ok emplaceOk
  simp only [loadOrAllocateBlocks, bind_eq_ok, pure_eq_ok, Prod.mk.injEq] at loadOk
  obtain ⟨shared, first, last, second, _, rfl⟩ := loadOk
  have sharing := Takes.rounds 1 LoadState.manager
    (fun _ _ _ loaded => takes_loadSharedBlock loaded) first
  have unsharing := Takes.rounds seq.beamWidth LoadState.manager
    (fun _ _ _ loaded => takes_loadUnsharedBlock loaded) second
  have taking := sharing.trans unsharing
  rw [List.length_take, List.length_drop, sameSize] at taking
  refine ((Takes.of_same rfl).trans taking).mono ?_
  by_cases beams : 1 < seq.beamWidth
  · by_cases some : 0 < numContextBlocks
    · rw [if_pos beams, if_pos (And.intro beams some), Nat.min_eq_left (Nat.sub_le _ _),
        Nat.sub_sub_self some]
      omega
    · rw [if_neg fun both : _ ∧ _ => some both.2, Nat.eq_zero_of_not_pos some]
      simp
  · rw [if_neg beams, if_neg fun both : _ ∧ _ => beams both.1, Nat.min_self, Nat.sub_self]
    simp

theorem takes_addSequenceNoReuse {share : Bool}
    (added : s.addSequenceNoReuse cfg plat seq numContextBlocks share = .ok s') :
    Takes (numContextBlocks - 1 + (if share then 1 else seq.beamWidth) : Nat) s s' ∧
      0 < numContextBlocks := by
  obtain ⟨emplaced, shared, emplaceOk, pos, loop, last⟩ := addSequenceNoReuse_ok added
  obtain ⟨_, rfl⟩ := emplaceSequence_ok emplaceOk
  have sharing := Takes.rounds 1 id
    (fun _ _ _ allocated => by exact takes_allocateBlock allocated) loop
  refine ⟨((Takes.of_same rfl).trans (sharing.trans (takes_allocateBlock last))).mono ?_, pos⟩
  rw [List.length_range]
  omega

end TrtLlm.WindowBlockManager
