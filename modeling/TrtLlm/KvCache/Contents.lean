import TrtLlm.KvCache.CoreRelease
import TrtLlm.KvCache.TreeOperations

/-! # Contents of blocks

A block has the contents of the slot it occupies. Offloading and onboarding move a
block together with its contents, so the only block of which an eviction changes the
contents is the one that it hands out.
-/

namespace TrtLlm.WindowBlockManager

variable {cfg : WindowConfig} {plat : Platform} {mode : Mode cfg}
  {front : RequestId → Nat} {owed pins hand : List BlockId} {s s' : WindowBlockManager}
  {block : BlockId}

/-- What a block holds for each of its tokens. -/
def contents (s : WindowBlockManager) (block : BlockId) : Nat → Option Kv :=
  s.memory (s.memoryPoolBlockIndex block)

/-- All blocks but one keep their contents. -/
def KeepsOthers (config : WindowConfig) (s : WindowBlockManager) (block : BlockId)
    (s' : WindowBlockManager) : Prop :=
  ∀ id < config.numBlocks, id ≠ block → s'.contents id = s.contents id

/-- A copy to the slot of another block, with which the block is then exchanged. -/
theorem contents_exchange {source target : BlockId}
    (slots : ∀ {id other}, id < cfg.numBlocks → other < cfg.numBlocks →
      s.memoryPoolBlockIndex id = s.memoryPoolBlockIndex other → id = other)
    (bounded : target < cfg.numBlocks) : KeepsOthers cfg s target
      ((s.copyBlock cfg source target 0).swapMemoryPoolBlockOffset source target) := by
  intro id within ne
  unfold contents
  rw [swap_slot]
  change Function.update s.memory (s.memoryPoolBlockIndex target) _
    (s.memoryPoolBlockIndex (Equiv.swap source target id)) = _
  by_cases moved : id = source
  · subst moved
    simp
  · rw [Equiv.swap_apply_of_ne_of_ne moved ne]
    have elsewhere : s.memoryPoolBlockIndex id ≠ s.memoryPoolBlockIndex target :=
      fun same => ne (slots within bounded same)
    rw [Function.update_of_ne elsewhere]

/-- The block that is handed out may have moved, and only then its contents changed. -/
structure ContentsTaken (config : WindowConfig) (s : WindowBlockManager) (block : BlockId)
    (s' : WindowBlockManager) : Prop where
  others : KeepsOthers config s block s'
  unmoved : s'.memoryPoolBlockIndex block = s.memoryPoolBlockIndex block →
    s'.contents block = s.contents block

section

variable (core : Core cfg mode front owed pins hand s)
include core

theorem Core.contents_chooseFreeBlock (chose : s.chooseFreeBlock cfg plat = .ok (block, s')) :
    ContentsTaken cfg s block s' := by
  obtain ⟨evicted, canOffload, primary, plain | ⟨_, ⟨flag, secondary⟩, rfl⟩⟩ :=
    chooseFreeBlock_ok chose
  · obtain ⟨_, _, rfl⟩ := plain
    exact ⟨fun _ _ _ => rfl, fun _ => rfl⟩
  · have ne := core.queue.levels_disjoint primary secondary
    obtain ⟨_, free⟩ := core.queue.free_of_policy primary
    obtain ⟨_, free'⟩ := core.queue.free_of_policy secondary
    have within := core.queue.free_lt free
    have within' := core.queue.free_lt free'
    have exchanged : KeepsOthers cfg s block
        ((s.copyBlock cfg evicted block 0).swapMemoryPoolBlockOffset evicted block) :=
      contents_exchange core.slots within'
    refine ⟨exchanged, fun same => absurd (core.slots within within' ?_) ne⟩
    change ((s.copyBlock cfg evicted block 0).swapMemoryPoolBlockOffset evicted
      block).memoryPoolBlockIndex block = _ at same
    rw [swap_slot, Equiv.swap_apply_right] at same
    exact same

theorem Core.contents_getFreeBlock {rid : RequestId} {prio : RetentionPriority} {dur : Option Nat}
    (took : s.getFreeBlock cfg plat rid prio dur = .ok (block, s')) :
    ContentsTaken cfg s block s' := by
  obtain ⟨chosen, pruned, chose, freed, rfl⟩ := getFreeBlock_ok took
  have kept := core.contents_chooseFreeBlock chose
  have same := freeChildren_ok freed
  rw [same]
  exact ⟨kept.others, kept.unmoved⟩

/-- A block is brought to primary memory with its contents. -/
theorem Core.contents_onboardBlock {rid : RequestId} {taken : WindowBlockManager}
    (took : s.getFreeBlock cfg plat rid kDefaultRetentionPriority none =
      .ok (block, taken)) (offloadBlock : BlockId) : KeepsOthers cfg s block
      ((((taken.copyBlock cfg offloadBlock block 0).swapMemoryPoolBlockOffset
        offloadBlock block).enqueueUpdatedEvent cfg true
          (.levelUpdated (taken.blockHash offloadBlock) .secondary .primary)).releaseBlock
            plat block false) := by
  intro id within ne
  have got := core.getFreeBlock took
  obtain ⟨handle, free⟩ := got.was_free
  have exchanged : KeepsOthers cfg taken block
      ((taken.copyBlock cfg offloadBlock block 0).swapMemoryPoolBlockOffset offloadBlock block) :=
    contents_exchange got.core.slots (core.queue.free_lt free)
  exact (exchanged id within ne).trans ((core.contents_getFreeBlock took).others id within ne)

/-- A copy to a block that has been handed out leaves the other blocks alone. -/
theorem Core.contents_copyBlock
    (source : BlockId) (bounded : block < cfg.numBlocks) (numTokens : Nat) :
    KeepsOthers cfg s block (s.copyBlock cfg source block numTokens) := by
  intro id within ne
  have elsewhere : s.memoryPoolBlockIndex id ≠ s.memoryPoolBlockIndex block :=
    fun same => ne (core.slots within bounded same)
  exact Function.update_of_ne elsewhere _ s.memory

end

/-- The first tokens of the source are in the block after the copy. -/
theorem contents_copied (cfg : WindowConfig) (s : WindowBlockManager) (source block : BlockId)
    {numTokens token : Nat}
    (lt : token < numTokens) : (s.copyBlock cfg source block numTokens).contents block token =
      s.contents source token := by
  change Function.update s.memory (s.memoryPoolBlockIndex block) _
    (s.memoryPoolBlockIndex block) token = _
  rw [Function.update_self]
  exact if_pos (.inr (.inr lt))

end TrtLlm.WindowBlockManager
