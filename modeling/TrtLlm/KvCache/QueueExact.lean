import Mathlib.Algebra.BigOperators.Group.Finset.Basic
import Mathlib.Data.Fintype.BigOperators
import TrtLlm.KvCache.QueueInvariant

/-! # Exact free queues

On top of the base invariant: a free block is in the queue of its memory level and
priority, the counter of each level is the length of its queues, and every block
without a reference is free. A block in `hand` was taken and is not yet referenced.
-/

namespace TrtLlm.WindowBlockManager

open Function (update update_self update_of_ne)

/-! ## Lengths of queues -/

/-- The number of nodes in the queues of a level. -/
def queueLength (queues : CacheLevel → RetentionPriority → List FreeNode) (level : CacheLevel) :
    Nat :=
  ∑ priority, (queues level priority).length

variable {at' : RetentionPriority} {home : CacheLevel} {node : FreeNode}

section Lengths

variable {queues : CacheLevel → RetentionPriority → List FreeNode}

theorem queueLength_insertNode (target level : CacheLevel) (at' : RetentionPriority)
    (node : FreeNode) (toFront : Bool) :
    queueLength (insertNode queues target at' node toFront) level =
      queueLength queues level + if level = target then 1 else 0 := by
  have each : ∀ prio, (insertNode queues target at' node toFront level prio).length =
      (queues level prio).length + if prio = at' then (if level = target then 1 else 0) else 0 := by
    intro prio
    unfold insertNode
    by_cases here : level = target <;> by_cases same : prio = at' <;> cases toFront <;>
      simp [here, same]
  unfold queueLength
  rw [Finset.sum_congr rfl fun prio _ => each prio, Finset.sum_add_distrib, Finset.sum_ite_eq']
  simp

/-- Erasing the only node with a handle shortens the queue that the node is in. -/
theorem queueLength_eraseNode (mem : node ∈ queues home at')
    (nodup : ∀ level prio, (queues level prio).Nodup)
    (only : ∀ level prio other, other ∈ queues level prio →
      other.handle = node.handle → other = node ∧ level = home ∧ prio = at') (level : CacheLevel) :
    queueLength queues level = queueLength (eraseNode queues (some node.handle)) level +
        if level = home then 1 else 0 := by
  have each : ∀ prio, (queues level prio).length =
      (eraseNode queues (some node.handle) level prio).length +
        if prio = at' then (if level = home then 1 else 0) else 0 := by
    intro prio
    have split := List.length_eq_length_filter_add
      (l := queues level prio) fun other => decide (other.handle ≠ node.handle)
    have matching : ((queues level prio).filter
        fun other => !decide (other.handle ≠ node.handle)).length =
          if prio = at' then (if level = home then 1 else 0) else 0 := by
      have erased : (queues level prio).filter (fun other => !decide (other.handle ≠ node.handle)) =
            (queues level prio).filter (fun other => other == node) := by
        refine List.filter_congr fun other lt => ?_
        by_cases same : other = node
        · simp [same]
        · have ne : other.handle ≠ node.handle := fun handles =>
            same (only level prio other lt handles).1
          simp [same, ne]
      rw [erased, ← List.countP_eq_length_filter]
      change (queues level prio).count node = _
      by_cases lt : node ∈ queues level prio
      · obtain ⟨_, rfl, rfl⟩ := only level prio node lt rfl
        rw [List.count_eq_one_of_mem (nodup level prio) lt]
        simp
      · rw [List.count_eq_zero_of_not_mem lt]
        by_cases same : prio = at' <;> by_cases here : level = home <;>
          simp_all
    rw [matching] at split
    exact split
  unfold queueLength
  rw [Finset.sum_congr rfl fun prio _ => each prio, Finset.sum_add_distrib, Finset.sum_ite_eq']
  simp

end Lengths

/-! ## The invariant -/

structure ExactInv (config : WindowConfig) (hand : List BlockId) (s : WindowBlockManager) :
    Prop where
  located : ∀ {level priority node}, node ∈ s.freeQueues level priority →
    s.getCacheLevel node.block = level ∧ s.priority node.block = priority
  counter : ∀ level, s.numFreeBlocksPerLevel level = queueLength s.freeQueues level
  queued_of_unreferenced : ∀ {block}, block < config.numBlocks → s.refCount block = 0 →
    block ∉ hand → ∃ handle, s.freeBlockIterators block = some handle

variable {cfg : WindowConfig} {plat : Platform} {hand : List BlockId}
  {s s' : WindowBlockManager} {block : BlockId}

theorem ExactInv.congr (exact : ExactInv cfg hand s) (queues : s'.freeQueues = s.freeQueues)
    (iterators : s'.freeBlockIterators = s.freeBlockIterators)
    (numFree : s'.numFreeBlocksPerLevel = s.numFreeBlocksPerLevel)
    (counts : s'.refCount = s.refCount) (slots : s'.memoryPoolBlockIndex = s.memoryPoolBlockIndex)
    (priorities : s'.priority = s.priority) : ExactInv cfg hand s' := by
  refine ⟨?_, ?_, ?_⟩
  · intro level prio node mem
    unfold getCacheLevel isPrimary
    rw [slots, priorities]
    exact exact.located (queues ▸ mem)
  · rw [queues, numFree]
    exact exact.counter
  · rw [iterators, counts]
    exact exact.queued_of_unreferenced

/-- A block may be taken for one in hand. -/
theorem ExactInv.mono (exact : ExactInv cfg hand s) {hand' : List BlockId}
    (subset : ∀ {block}, block ∈ hand → block ∈ hand' ∨ 0 < s.refCount block) :
    ExactInv cfg hand' s := by
  refine ⟨exact.located, exact.counter, fun bounded unreferenced absent => ?_⟩
  refine exact.queued_of_unreferenced bounded unreferenced fun mem => ?_
  rcases subset mem with lt | referenced
  · exact absent lt
  · omega

/-- A queued block is found at its own level and priority. -/
theorem ExactInv.mem_home (exact : ExactInv cfg hand s)
    (shape : QueueShape cfg s.toLRUEvictionPolicy) {handle : Nat}
    (queued : s.freeBlockIterators block = some handle) :
    ⟨handle, block⟩ ∈ s.freeQueues (s.getCacheLevel block) (s.priority block) := by
  obtain ⟨level, prio, mem⟩ := shape.mem_of_iterator queued
  obtain ⟨rfl, rfl⟩ := exact.located mem
  exact mem

/-- The node of a queued block is the only one with its handle. -/
theorem QueueShape.only_node (shape : QueueShape cfg s.toLRUEvictionPolicy)
    (mem : node ∈ s.freeQueues home at') (level : CacheLevel) (prio : RetentionPriority)
    (other : FreeNode) (lt : other ∈ s.freeQueues level prio)
    (handles : other.handle = node.handle) : other = node ∧ level = home ∧ prio = at' := by
  have found := shape.iterator_of_mem lt
  rw [handles] at found
  have blocks := shape.handle_injective found (shape.iterator_of_mem mem)
  have same : other = node := by
    cases other
    cases node
    simp_all
  subst same
  exact ⟨rfl, shape.queue_unique lt mem⟩

theorem QueueShape.queueLength_erase (shape : QueueShape cfg s.toLRUEvictionPolicy)
    (mem : node ∈ s.freeQueues home at') (level : CacheLevel) : queueLength s.freeQueues level =
      queueLength (eraseNode s.freeQueues (some node.handle)) level +
        if level = home then 1 else 0 :=
  queueLength_eraseNode mem shape.queue_nodup (shape.only_node mem) level

theorem ExactInv.claimBlock (exact : ExactInv cfg hand s)
    (shape : QueueShape cfg s.toLRUEvictionPolicy) (block : BlockId)
    (prio : Option RetentionPriority) (dur : Option Nat) :
    ExactInv cfg (block :: hand) (s.claimBlock block prio dur) := by
  refine ⟨?_, ?_, ?_⟩
  · intro level at' node mem
    obtain ⟨before, other⟩ := mem_eraseNode.mp mem
    have ne : node.block ≠ block := fun same =>
      other (same ▸ shape.iterator_of_mem before)
    obtain ⟨home, kept⟩ := exact.located before
    exact ⟨home, (update_of_ne ne _ _).trans kept⟩
  · intro level
    have before := exact.counter level
    cases found : s.freeBlockIterators block with
    | none =>
      simp only [WindowBlockManager.claimBlock, found, Option.isSome_none, Bool.false_eq_true,
        ↓reduceIte, eraseNode]
      exact before
    | some handle =>
      have length := shape.queueLength_erase (exact.mem_home shape found) level
      simp only [WindowBlockManager.claimBlock, found, Option.isSome_some, ↓reduceIte]
      by_cases home : level = s.getCacheLevel block
      · subst home
        simp only [↓reduceIte] at length
        rw [update_self, before, length]
        omega
      · simp only [home, ↓reduceIte, Nat.add_zero] at length
        rw [update_of_ne home, before, length]
  · intro other bounded unreferenced absent
    have ne : other ≠ block := fun same => absent (same ▸ List.mem_cons_self)
    obtain ⟨handle, queued⟩ := exact.queued_of_unreferenced bounded unreferenced
      fun mem => absent (List.mem_cons_of_mem _ mem)
    exact ⟨handle, by simpa [WindowBlockManager.claimBlock, ne] using queued⟩

theorem ExactInv.releaseBlock (exact : ExactInv cfg (block :: hand) s) (toFront : Bool) :
    ExactInv cfg hand (s.releaseBlock plat block toFront) := by
  refine ⟨?_, ?_, ?_⟩
  · intro level prio node mem
    rcases mem_insertNode.mp mem with before | ⟨rfl, rfl, rfl⟩
    · exact exact.located before
    · exact ⟨rfl, rfl⟩
  · intro level
    have before := exact.counter level
    change update s.numFreeBlocksPerLevel _ _ level =
      (queueLength (insertNode _ _ _ _ _) level : Int)
    rw [queueLength_insertNode]
    by_cases home : level = s.getCacheLevel block
    · subst home
      rw [update_self, before, if_pos rfl, Int.natCast_add, Int.natCast_one]
    · rw [update_of_ne home, before, if_neg home, Nat.add_zero]
  · intro other bounded unreferenced absent
    by_cases same : other = block
    · exact ⟨s.nextHandle, by simp [WindowBlockManager.releaseBlock, same]⟩
    · obtain ⟨handle, queued⟩ := exact.queued_of_unreferenced bounded unreferenced
        fun mem => absent ((List.mem_cons.mp mem).resolve_left same)
      exact ⟨handle, by simpa [WindowBlockManager.releaseBlock, same] using queued⟩

theorem ExactInv.expireBlock (exact : ExactInv cfg hand s)
    (shape : QueueShape cfg s.toLRUEvictionPolicy) (block : BlockId) :
    ExactInv cfg hand (s.expireBlock block) := by
  have queued : ∀ {other}, other < cfg.numBlocks → s.refCount other = 0 → other ∉ hand →
      ∃ handle, (s.expireBlock block).freeBlockIterators other = some handle := by
    intro other bounded unreferenced absent
    obtain ⟨handle, before⟩ := exact.queued_of_unreferenced bounded unreferenced absent
    rw [← Option.isSome_iff_exists, expireBlock_iterator_isSome, before]
    rfl
  cases found : s.freeBlockIterators block with
  | none =>
    obtain ⟨queues, _, _⟩ := expireBlock_of_unqueued found
    refine ⟨?_, ?_, queued⟩
    · intro level prio node mem
      rw [queues] at mem
      have ne : node.block ≠ block := by
        intro same
        have iterator := shape.iterator_of_mem mem
        rw [same] at iterator
        exact absurd (found.symm.trans iterator) (by simp)
      obtain ⟨home, kept⟩ := exact.located mem
      exact ⟨home, (update_of_ne ne _ _).trans kept⟩
    · rw [queues]
      exact exact.counter
  | some handle =>
    have queues : (s.expireBlock block).freeQueues =
        insertNode (eraseNode s.freeQueues (some handle)) (s.getCacheLevel block)
          kDefaultRetentionPriority ⟨s.nextHandle, block⟩ false := by
      simp [WindowBlockManager.expireBlock, found]
    refine ⟨?_, ?_, queued⟩
    · intro level prio node mem
      rw [queues] at mem
      rcases mem_insertNode.mp mem with before | ⟨rfl, rfl, rfl⟩
      · obtain ⟨lt, other⟩ := mem_eraseNode.mp before
        have ne : node.block ≠ block := by
          intro same
          have iterator := shape.iterator_of_mem lt
          rw [same] at iterator
          exact other (found.symm.trans iterator)
        obtain ⟨home, kept⟩ := exact.located lt
        exact ⟨home, (update_of_ne ne _ _).trans kept⟩
      · exact ⟨rfl, update_self _ _ _⟩
    · intro level
      have length := shape.queueLength_erase (exact.mem_home shape found) level
      rw [queues, queueLength_insertNode, ← length]
      exact exact.counter level

end TrtLlm.WindowBlockManager
