import Mathlib.Logic.Equiv.Basic
import TrtLlm.KvCache.Beams
import TrtLlm.KvCache.QueueExact

/-! # The core invariant

What every operation of the block manager keeps: the accounting of references and free blocks,
distinct memory slots, and, in the runs that allow it, exact free queues and resident sequences.
Each of the few steps that make up the operations is dealt with once here.
-/

namespace TrtLlm.WindowBlockManager

open List

/-- Which parts of the invariant a run keeps: exact queues need that no free block is
pinned or moved, resident sequences that no block in use is offloaded. -/
structure Mode (config : WindowConfig) where
  strict : Prop
  resident : Prop
  strict_of_resident : resident → strict
  onboards_of_resident : resident → config.onboardBlocks = true

theorem Mode.onboards_of_false (cfg : WindowConfig) (never : False) : cfg.onboardBlocks = true :=
  never.elim

/-- The blocks in `hand` are in no queue, though they need not be referenced yet. -/
structure Core (config : WindowConfig) (mode : Mode config) (front : RequestId → Nat)
    (owed pins hand : List BlockId) (s : WindowBlockManager) : Prop where
  queue : QueueInv config front owed pins s
  exact : mode.strict → ExactInv config hand s
  slots : ∀ {block other}, block < config.numBlocks → other < config.numBlocks →
    s.memoryPoolBlockIndex block = s.memoryPoolBlockIndex other → block = other
  primary : mode.resident → ∀ {block}, 0 < held front s block → s.isPrimary block = true
  unqueued : ∀ block ∈ hand, s.freeBlockIterators block = none ∧ block < config.numBlocks
  children_lt : ∀ {node entry}, entry ∈ s.nextBlocks node → entry.2 < config.numBlocks

variable {cfg : WindowConfig} {plat : Platform} {mode : Mode cfg}
  {front : RequestId → Nat}
  {owed pins hand : List BlockId} {s s' : WindowBlockManager} {block : BlockId} {other : BlockId}

/-- States that agree on everything the invariant looks at. -/
structure SameCore (s s' : WindowBlockManager) : Prop where
  queues : s'.freeQueues = s.freeQueues
  iterators : s'.freeBlockIterators = s.freeBlockIterators
  handles : s'.nextHandle = s.nextHandle
  numFree : s'.numFreeBlocksPerLevel = s.numFreeBlocksPerLevel
  counts : s'.refCount = s.refCount
  sequences : s'.sequences = s.sequences
  slots : s'.memoryPoolBlockIndex = s.memoryPoolBlockIndex
  priorities : s'.priority = s.priority

theorem QueueInv.sameCore (inv : QueueInv cfg front owed pins s) (same : SameCore s s') :
    QueueInv cfg front owed pins s' := by
  refine inv.owe [] (inv.toQueueShape.congr same.queues same.iterators same.handles) same.iterators
    same.counts (fun block => ?_) (forall_mem_nil _) ?_ ?_
  · rw [held, held, same.sequences, count_nil, Nat.zero_add]
  · rw [same.sequences]
    exact inv.listed_lt
  · rw [same.sequences]
    exact inv.front_le

theorem Core.congr (core : Core cfg mode front owed pins hand s) (same : SameCore s s')
    (children : ∀ {node entry}, entry ∈ s'.nextBlocks node → entry.2 < cfg.numBlocks) :
    Core cfg mode front owed pins hand s' := by
  refine ⟨core.queue.sameCore same, fun strict => (core.exact strict).congr same.queues
    same.iterators same.numFree same.counts same.slots same.priorities, ?_, ?_, ?_, children⟩
  · rw [same.slots]
    exact core.slots
  · intro resident block referenced
    have before : 0 < held front s block := by
      unfold held at referenced ⊢
      rwa [same.sequences] at referenced
    unfold isPrimary
    rw [same.slots]
    exact core.primary resident before
  · rw [same.iterators]
    exact core.unqueued

/-- A change of fields that the invariant does not look at. -/
theorem Core.frame (core : Core cfg mode front owed pins hand s) (same : SameCore s s')
    (children : s'.nextBlocks = s.nextBlocks) : Core cfg mode front owed pins hand s' :=
  core.congr same (children ▸ core.children_lt)

/-! ## Blocks in hand -/

theorem Core.unhand (core : Core cfg mode front owed pins (block :: hand) s)
    (referenced : 0 < s.refCount block) : Core cfg mode front owed pins hand s := by
  refine ⟨core.queue, fun strict => (core.exact strict).mono ?_, core.slots, core.primary,
    (forall_mem_cons.mp core.unqueued).2, core.children_lt⟩
  intro other member
  rcases mem_cons.mp member with rfl | inside
  · exact .inr referenced
  · exact .inl inside

theorem Core.claimBlock (core : Core cfg mode front owed pins hand s)
    (bounded : block < cfg.numBlocks) (priority : Option RetentionPriority) (dur : Option Nat) :
    Core cfg mode front owed pins (block :: hand) (s.claimBlock block priority dur) := by
  refine ⟨core.queue.claimBlock block priority dur, fun strict =>
    (core.exact strict).claimBlock core.queue.toQueueShape block priority dur, core.slots,
    core.primary, ?_, core.children_lt⟩
  intro other member
  rcases mem_cons.mp member with rfl | inside
  · exact ⟨claimBlock_iterator_self s other priority dur, bounded⟩
  · obtain ⟨unqueued, within⟩ := core.unqueued other inside
    exact ⟨claimBlock_iterator_none unqueued, within⟩

/-- A block in hand that nobody holds goes back to a free queue. -/
theorem Core.releaseBlock (core : Core cfg mode front owed pins (block :: hand) s)
    (absent : block ∉ hand) (unheld : held front s block = 0) (unowed : block ∉ owed)
    (toFront : Bool) : Core cfg mode front owed pins hand (s.releaseBlock plat block toFront) := by
  obtain ⟨unqueued, bounded⟩ := core.unqueued block mem_cons_self
  refine ⟨core.queue.releaseBlock bounded unqueued unheld unowed toFront,
    fun strict => (core.exact strict).releaseBlock toFront, core.slots, core.primary, ?_,
    core.children_lt⟩
  intro other mem
  have ne : other ≠ block := fun same => absent (same ▸ mem)
  obtain ⟨before, within⟩ := core.unqueued other (mem_cons_of_mem _ mem)
  exact ⟨(releaseBlock_iterator_of_ne ne).trans before, within⟩

/-- The slots after a swap are those before it, with the two blocks exchanged. -/
theorem swap_slot (s : WindowBlockManager) (block other id : BlockId) :
    (s.swapMemoryPoolBlockOffset block other).memoryPoolBlockIndex id =
      s.memoryPoolBlockIndex (Equiv.swap block other id) := by
  rw [Equiv.swap_apply_def]
  simp only [swapMemoryPoolBlockOffset]
  split
  · rfl
  · split <;> rfl

/-- Two blocks that are in no queue and held by nobody exchange their slots. -/
theorem Core.swap (core : Core cfg mode front owed pins hand s) (bounded : block < cfg.numBlocks)
    (bounded' : other < cfg.numBlocks) (unqueued : mode.strict → s.freeBlockIterators block = none)
    (unqueued' : mode.strict → s.freeBlockIterators other = none)
    (unheld : mode.resident → held front s block = 0)
    (unheld' : mode.resident → held front s other = 0) :
    Core cfg mode front owed pins hand (s.swapMemoryPoolBlockOffset block other) := by
  have kept : ∀ {id}, id ≠ block → id ≠ other →
      (s.swapMemoryPoolBlockOffset block other).memoryPoolBlockIndex id =
        s.memoryPoolBlockIndex id := by
    intro id ne different'
    rw [swap_slot, Equiv.swap_apply_of_ne_of_ne ne different']
  refine ⟨⟨core.queue.toQueueShape, core.queue.free_unheld, core.queue.refCount_eq,
    core.queue.owed_lt, core.queue.listed_lt, core.queue.front_le⟩, ?_, ?_, ?_, core.unqueued,
    core.children_lt⟩
  · intro strict
    refine ⟨?_, (core.exact strict).counter, (core.exact strict).queued_of_unreferenced⟩
    intro level prio node mem
    have found := core.queue.iterator_of_mem mem
    have ne : node.block ≠ block := fun same =>
      absurd ((same ▸ unqueued strict).symm.trans found) (by simp)
    have different' : node.block ≠ other := fun same =>
      absurd ((same ▸ unqueued' strict).symm.trans found) (by simp)
    obtain ⟨home, same⟩ := (core.exact strict).located mem
    refine ⟨?_, same⟩
    unfold getCacheLevel isPrimary
    rw [kept ne different']
    exact home
  · intro one two within within' same
    rw [swap_slot, swap_slot] at same
    have lt : ∀ {id}, id < cfg.numBlocks → Equiv.swap block other id < cfg.numBlocks := by
      intro id inside
      rw [Equiv.swap_apply_def]
      split
      · exact bounded'
      · split
        · exact bounded
        · exact inside
    exact (Equiv.swap block other).injective (core.slots (lt within) (lt within') same)
  · intro resident id pos
    have ne : id ≠ block := by
      rintro rfl
      exact absurd (unheld resident) (Nat.pos_iff_ne_zero.mp pos)
    have different' : id ≠ other := by
      rintro rfl
      exact absurd (unheld' resident) (Nat.pos_iff_ne_zero.mp pos)
    unfold isPrimary
    rw [kept ne different']
    exact core.primary resident pos

/-! ## Children -/

variable {entry : BlockKey × BlockId} {node : Node} {handle : Nat} {rid : RequestId}
  {level : CacheLevel} {handle' : Nat}

theorem mem_children_removeNextBlock {par : Node} {key : BlockKey}
    (mem : entry ∈ (s.removeNextBlock par key).nextBlocks node) : entry ∈ s.nextBlocks node := by
  by_cases same : node = par
  · subst same
    simp only [removeNextBlock, Function.update_self, mem_filter] at mem
    exact mem.1
  · simpa [removeNextBlock, same] using mem

theorem mem_children_unlinkFromParent (mem : entry ∈ (s.unlinkFromParent block).nextBlocks node) :
    entry ∈ s.nextBlocks node := by
  unfold unlinkFromParent at mem
  cases par : s.prevBlock block with
  | none =>
    rw [par] at mem
    exact mem
  | some parent' =>
    rw [par] at mem
    exact mem_children_removeNextBlock mem

theorem mem_children_freeDescendants {fuel : Nat}
    (freed : freeDescendantsRecursively plat fuel s block = .ok s')
    (mem : entry ∈ s'.nextBlocks node) : entry ∈ s.nextBlocks node := by
  induction fuel generalizing s s' block with
  | zero => cases freed
  | succ fuel ih =>
    simp only [freeDescendantsRecursively, Except.bind_eq_ok, Except.pure_eq_ok] at freed
    obtain ⟨looped, loop, rfl⟩ := freed
    change entry ∈ looped.nextBlocks node at mem
    revert mem
    refine foldlM_invariant (fun st : WindowBlockManager =>
      entry ∈ st.nextBlocks node → entry ∈ s.nextBlocks node) ?_ id loop
    intro st child next _ within stepped lt
    simp only [Except.bind_eq_ok, Except.pure_eq_ok] at stepped
    obtain ⟨inner, recursed, rfl⟩ := stepped
    exact within (ih recursed (mem_children_removeNextBlock lt))

theorem mem_children_freeChildren (freed : s.freeChildren cfg plat block = .ok s')
    (mem : entry ∈ s'.nextBlocks node) : entry ∈ s.nextBlocks node := by
  have kept := mem_children_unlinkFromParent (mem_children_freeDescendants freed mem)
  exact kept

/-! ## Taking a block -/

theorem eraseNode_insertNode (queues : CacheLevel → RetentionPriority → List FreeNode)
    (level : CacheLevel) (prio : RetentionPriority) (block : BlockId) {new : Nat}
    (ne : new ≠ handle) :
    eraseNode (insertNode queues level prio ⟨new, block⟩ false) (some handle) =
      insertNode (eraseNode queues (some handle)) level prio ⟨new, block⟩ false := by
  funext l p
  simp only [eraseNode, insertNode, Bool.false_eq_true, ↓reduceIte]
  split
  · simp [filter_append, ne]
  · rfl

/-- Offloading `block` and then claiming the block it was exchanged with has the
effect of claiming both, exchanging them, and releasing `block`. -/
theorem sameCore_offloadForReuse (plat : Platform) {offloadBlock : BlockId}
    (shape : QueueShape cfg s.toLRUEvictionPolicy)
    (queued : s.freeBlockIterators block = some handle)
    (queued' : s.freeBlockIterators offloadBlock = some handle') (ne : block ≠ offloadBlock)
    (prio : Option RetentionPriority) (dur : Option Nat) : SameCore
      ((((s.claimBlock block none none).claimBlock offloadBlock prio
        dur).swapMemoryPoolBlockOffset block offloadBlock).releaseBlock plat block false)
      ((s.offloadForReuse cfg plat block offloadBlock).claimBlock offloadBlock prio dur) := by
  have fresh : s.nextHandle ≠ handle' := Nat.ne_of_gt (shape.handle_lt queued')
  have commute := fun queues level prio =>
    eraseNode_insertNode queues level prio block fresh
  have different' := ne.symm
  constructor
  · simp [offloadForReuse, claimBlock, releaseBlock, swapMemoryPoolBlockOffset, copyBlock,
      enqueueUpdatedEvent, getCacheLevel, isPrimary, queued, queued', ne, different',
      commute]
  · exact Function.update_comm ne (some s.nextHandle) none
      (Function.update s.freeBlockIterators block none)
  · rfl
  · funext level
    cases level <;> cases first : (s.memoryPoolBlockIndex block).isPrimary <;>
      cases second : (s.memoryPoolBlockIndex offloadBlock).isPrimary <;>
      simp [offloadForReuse, claimBlock, releaseBlock, swapMemoryPoolBlockOffset, copyBlock,
        enqueueUpdatedEvent, getCacheLevel, isPrimary, queued, queued', ne, different',
        first, second]
  · rfl
  · rfl
  · rfl
  · rfl

theorem SameCore.trans {s'' : WindowBlockManager} (first : SameCore s s')
    (second : SameCore s' s'') : SameCore s s'' :=
  ⟨second.queues.trans first.queues, second.iterators.trans first.iterators,
    second.handles.trans first.handles, second.numFree.trans first.numFree,
    second.counts.trans first.counts, second.sequences.trans first.sequences,
    second.slots.trans first.slots, second.priorities.trans first.priorities⟩

/-- Marking, pruning and recording the owner leave the core of a claim alone. -/
theorem sameCore_claimPruned {pruned : WindowBlockManager}
    (freed : (s.markTaken rid block).freeChildren cfg plat block = .ok pruned)
    (prio : Option RetentionPriority) (dur : Option Nat) : SameCore (s.claimBlock block prio dur)
      ((pruned.claimBlock block prio dur).recordOwner rid block) := by
  have same := freeChildren_ok freed
  rw [same]
  constructor <;> rfl

theorem Core.handSwap (core : Core cfg mode front owed pins (block :: other :: hand) s) :
    Core cfg mode front owed pins (other :: block :: hand) s := by
  have perm : (block :: other :: hand).Perm (other :: block :: hand) := List.Perm.swap _ _ _
  refine ⟨core.queue, fun strict => (core.exact strict).mono fun mem =>
    .inl (perm.mem_iff.mp mem), core.slots, core.primary,
    fun id mem => core.unqueued id (perm.mem_iff.mpr mem), core.children_lt⟩

/-- What holds after `getFreeBlock`. -/
structure CoreTaken (config : WindowConfig) (mode : Mode config) (front : RequestId → Nat)
    (owed pins hand : List BlockId) (s : WindowBlockManager) (block : BlockId)
    (s' : WindowBlockManager) : Prop extends SameHolders s s' where
  core : Core config mode front owed pins (block :: hand) s'
  was_free : ∃ handle, s.freeBlockIterators block = some handle
  fresh : block ∉ hand
  unqueued : ∀ {other}, s.freeBlockIterators other = none → s'.freeBlockIterators other = none
  primary : mode.strict → s'.isPrimary block = true

theorem Core.free_notMem_hand (core : Core cfg mode front owed pins hand s)
    (free : s.freeBlockIterators block = some handle) : block ∉ hand := by
  intro mem
  exact absurd ((core.unqueued block mem).1.symm.trans free) (by simp)

theorem ExactInv.level_of_policy (exact : ExactInv cfg hand s) {flag : Bool}
    (took : s.policyGetFreeBlock cfg level = .ok (block, flag)) :
    s.getCacheLevel block = level := by
  obtain ⟨prio, node, rest, split, rfl, _⟩ := policyGetFreeBlock_ok took
  exact (exact.located (split ▸ mem_cons_self)).1

theorem isPrimary_of_level (level : s.getCacheLevel block = .primary) :
    s.isPrimary block = true := by
  by_contra secondary
  simp [getCacheLevel, secondary] at level

/-- Both heads are claimed, exchanged, and the one from primary memory is released. -/
theorem Core.exchange (plat : Platform) (core : Core cfg mode front owed pins hand s)
    {offloadBlock : BlockId} (queued : s.freeBlockIterators block = some handle)
    (queued' : s.freeBlockIterators offloadBlock = some handle') (ne : block ≠ offloadBlock)
    (prio : Option RetentionPriority) (dur : Option Nat) :
    Core cfg mode front owed pins (offloadBlock :: hand)
      ((((s.claimBlock block none none).claimBlock offloadBlock prio
        dur).swapMemoryPoolBlockOffset block offloadBlock).releaseBlock plat block false) := by
  have bounded := core.queue.free_lt queued
  have bounded' := core.queue.free_lt queued'
  have claimed := (core.claimBlock bounded none none).claimBlock bounded' prio dur
  have swapped := claimed.swap bounded bounded' (fun _ => (claimed.unqueued block (by simp)).1)
    (fun _ => (claimed.unqueued offloadBlock (by simp)).1)
    (fun _ => (core.queue.free_unheld queued).1) fun _ => (core.queue.free_unheld queued').1
  refine swapped.handSwap.releaseBlock ?_ (core.queue.free_unheld queued).1
    (core.queue.free_unheld queued).2 false
  simp only [mem_cons, not_or]
  exact ⟨ne, core.free_notMem_hand queued⟩

section

variable (core : Core cfg mode front owed pins hand s)
include core

theorem Core.getFreeBlock {prio : RetentionPriority} {dur : Option Nat}
    (took : s.getFreeBlock cfg plat rid prio dur = .ok (block, s')) :
    CoreTaken cfg mode front owed pins hand s block s' := by
  have holders := sameHolders_getFreeBlock took
  obtain ⟨chosen, pruned, chose, freed, rfl⟩ := getFreeBlock_ok took
  have same := sameCore_claimPruned freed (some prio) dur
  obtain ⟨evicted, canOffload, primary, plain | ⟨_, ⟨flag, secondary⟩, rfl⟩⟩ :=
    chooseFreeBlock_ok chose
  · obtain ⟨_, rfl, rfl⟩ := plain
    obtain ⟨handle, free⟩ := core.queue.free_of_policy primary
    refine ⟨holders, ?_, ⟨handle, free⟩, core.free_notMem_hand free, ?_, ?_⟩
    · refine (core.claimBlock (core.queue.free_lt free) (some prio) dur).congr same ?_
      intro node entry mem
      have before : entry ∈ (chosen.markTaken rid block).nextBlocks node :=
        mem_children_freeChildren freed mem
      exact core.children_lt before
    · intro other unqueued
      rw [same.iterators]
      exact claimBlock_iterator_none unqueued
    · intro strict
      have level := (core.exact strict).level_of_policy primary
      unfold isPrimary
      rw [same.slots]
      exact isPrimary_of_level level
  · have ne := core.queue.levels_disjoint primary secondary
    obtain ⟨handle, free⟩ := core.queue.free_of_policy secondary
    obtain ⟨evictedHandle, queued⟩ := core.queue.free_of_policy primary
    have exchanged := Core.exchange plat core queued free ne (some prio) dur
    have whole := (sameCore_offloadForReuse plat core.queue.toQueueShape queued free ne
      (some prio) dur).trans same
    refine ⟨holders, ?_, ⟨handle, free⟩, core.free_notMem_hand free, ?_, ?_⟩
    · refine exchanged.congr whole ?_
      intro node entry mem
      have before : entry ∈ ((s.offloadForReuse cfg plat evicted block).markTaken rid
          block).nextBlocks node := mem_children_freeChildren freed mem
      exact core.children_lt before
    · intro other unqueued
      have away : other ≠ evicted := by
        rintro rfl
        cases unqueued.symm.trans queued
      rw [whole.iterators, releaseBlock_iterator_of_ne away]
      change ((s.claimBlock evicted none none).claimBlock block (some prio) dur).freeBlockIterators
        other = none
      exact claimBlock_iterator_none (claimBlock_iterator_none unqueued)
    · intro strict
      have level := (core.exact strict).level_of_policy primary
      unfold isPrimary
      rw [whole.slots]
      change ((((s.claimBlock evicted none none).claimBlock block (some prio)
        dur).swapMemoryPoolBlockOffset evicted block).memoryPoolBlockIndex block).isPrimary = true
      rw [swap_slot, Equiv.swap_apply_right]
      exact isPrimary_of_level level

theorem Core.unheld_of_secondary
    (resident : mode.resident) (secondary : s.isPrimary block = false) :
    held front s block = 0 := by
  by_contra pos
  have primary := core.primary resident (Nat.pos_of_ne_zero pos)
  rw [secondary] at primary
  cases primary

/-- A block that is in no queue is brought to primary memory. -/
theorem Core.onboardBlock {offloadBlock : BlockId} (bounded : offloadBlock < cfg.numBlocks)
    (unqueued : mode.strict → (cfg.onboardBlocks && !s.isPrimary offloadBlock) = true →
      s.freeBlockIterators offloadBlock = none)
    (onboarded : s.onboardBlock cfg plat rid offloadBlock = .ok s') :
    Core cfg mode front owed pins hand s' ∧
      (mode.strict → cfg.onboardBlocks = true → s'.isPrimary offloadBlock = true) := by
  rcases onboardBlock_ok onboarded with
    ⟨needless, rfl⟩ | ⟨onboards, secondary, block, taken, took, rfl⟩
  · refine ⟨core, fun _ enabled => ?_⟩
    rcases needless with disabled | primary
    · rw [enabled] at disabled
      cases disabled
    · exact primary
  · have got := core.getFreeBlock took
    obtain ⟨handle, free⟩ := got.was_free
    have keeps : ∀ id, held front taken id = held front s id := fun id => by
      unfold held
      rw [got.sequences]
    have copied : Core cfg mode front owed pins (block :: hand)
        (taken.copyBlock cfg offloadBlock block 0) :=
      got.core.frame (by constructor <;> rfl) rfl
    have swapped := copied.swap bounded (core.queue.free_lt free)
      (fun strict => got.unqueued (unqueued strict (by simp [onboards, secondary])))
      (fun _ => (got.core.unqueued block mem_cons_self).1)
      (fun resident => (keeps offloadBlock).trans (core.unheld_of_secondary resident secondary))
      fun _ => (keeps block).trans (core.queue.free_unheld free).1
    have notified : Core cfg mode front owed pins (block :: hand)
        (((taken.copyBlock cfg offloadBlock block 0).swapMemoryPoolBlockOffset offloadBlock
          block).enqueueUpdatedEvent cfg true
            (.levelUpdated (taken.blockHash offloadBlock) .secondary .primary)) :=
      swapped.frame (by constructor <;> rfl) rfl
    refine ⟨notified.releaseBlock got.fresh ((keeps block).trans (core.queue.free_unheld free).1)
      (core.queue.free_unheld free).2 false, fun strict _ => ?_⟩
    change ((taken.swapMemoryPoolBlockOffset offloadBlock block).memoryPoolBlockIndex
      offloadBlock).isPrimary = true
    rw [swap_slot, Equiv.swap_apply_left]
    exact got.primary strict

/-- A block that is in no queue is moved to secondary memory. -/
theorem Core.offloadBlock (mayMove : ¬mode.resident) (bounded : block < cfg.numBlocks)
    (unqueued : mode.strict → (cfg.onboardBlocks && s.isPrimary block) = true →
      s.freeBlockIterators block = none)
    (offloaded : s.offloadBlock cfg plat block = .ok s') :
    Core cfg mode front owed pins hand s' := by
  rcases offloadBlock_ok offloaded with rfl | ⟨moves, target, flag, took, rfl⟩
  · exact core
  · obtain ⟨handle, free⟩ := core.queue.free_of_policy took
    have marked : Core cfg mode front owed pins hand (s.markOverwritten target) :=
      core.frame (by constructor <;> rfl) rfl
    have claimed := marked.claimBlock (core.queue.free_lt free) none none
    have copied : Core cfg mode front owed pins (target :: hand)
        (((s.markOverwritten target).claimBlock target none none).copyBlock cfg block target 0) :=
      claimed.frame (by constructor <;> rfl) rfl
    have stays : mode.strict → (s.claimBlock target none none).freeBlockIterators block = none :=
      fun strict => claimBlock_iterator_none (unqueued strict moves)
    have swapped := copied.swap bounded (core.queue.free_lt free) stays
      (fun _ => claimBlock_iterator_self s target none none)
      (fun resident => absurd resident mayMove) fun resident => absurd resident mayMove
    have notified : Core cfg mode front owed pins (target :: hand)
        ((((s.markOverwritten target).claimBlock target none none).copyBlock cfg block
          target 0).swapMemoryPoolBlockOffset block target |>.enqueueUpdatedEvent cfg
            (s.blockInRadixTree block)
              (.levelUpdated (s.blockHash block) .primary .secondary)) :=
      swapped.frame (by constructor <;> rfl) rfl
    exact notified.releaseBlock (core.free_notMem_hand free) (core.queue.free_unheld free).1
      (core.queue.free_unheld free).2 false

/-! ## Expiry -/

theorem Core.expireBlock (block : BlockId) :
    Core cfg mode front owed pins hand (s.expireBlock block) := by
  refine ⟨core.queue.expireBlock block, fun strict =>
    (core.exact strict).expireBlock core.queue.toQueueShape block, core.slots, core.primary, ?_,
    core.children_lt⟩
  intro other mem
  obtain ⟨unqueued, bounded⟩ := core.unqueued other mem
  refine ⟨?_, bounded⟩
  rw [← Option.isNone_iff_eq_none, ← Option.not_isSome, expireBlock_iterator_isSome, unqueued]
  rfl

theorem Core.refresh : Core cfg mode front owed pins hand (s.refresh plat) :=
  refresh_invariant (Core cfg mode front owed pins hand)
    (fun _ core => core.frame (by constructor <;> rfl) rfl) (fun _ _ core => core.expireBlock _)
    core

end

/-! ## The initial state -/

/-- The level a block starts in. -/
def initialLevel (config : WindowConfig) (block : BlockId) : CacheLevel :=
  if block < config.numPrimaryBlocks then .primary else .secondary

theorem mem_initialQueue {node : FreeNode} :
    node ∈ initialQueue cfg level ↔ node.handle = node.block ∧
      node.block < cfg.numBlocks ∧ level = initialLevel cfg node.block := by
  obtain ⟨handle, block⟩ := node
  cases level with
  | primary =>
    simp only [initialQueue, initialLevel, WindowConfig.numBlocks, mem_map, mem_range,
      FreeNode.mk.injEq]
    constructor
    · rintro ⟨id, within, rfl, rfl⟩
      exact ⟨rfl, Nat.lt_add_right _ within, by rw [if_pos within]⟩
    · rintro ⟨rfl, _, level⟩
      refine ⟨handle, ?_, rfl, rfl⟩
      by_contra outside
      rw [if_neg outside] at level
      cases level
  | secondary =>
    simp only [initialQueue, initialLevel, WindowConfig.numBlocks, mem_map, mem_range,
      FreeNode.mk.injEq]
    constructor
    · rintro ⟨id, within, rfl, rfl⟩
      exact ⟨rfl, Nat.add_lt_add_left within _,
        by rw [if_neg (Nat.not_lt.mpr (Nat.le_add_right _ _))]⟩
    · rintro ⟨rfl, within, level⟩
      have outside : ¬handle < cfg.numPrimaryBlocks := fun lt => by
        rw [if_pos lt] at level
        cases level
      have beyond : cfg.numPrimaryBlocks ≤ handle := Nat.le_of_not_lt outside
      exact ⟨handle - cfg.numPrimaryBlocks, Nat.sub_lt_left_of_lt_add beyond within,
        Nat.add_sub_cancel' beyond, Nat.add_sub_cancel' beyond⟩

theorem mem_initial {prio : RetentionPriority} {node : FreeNode}
    (mem : node ∈ (initial cfg).freeQueues level prio) :
    prio = kDefaultRetentionPriority ∧ node.handle = node.block ∧
      node.block < cfg.numBlocks ∧ level = initialLevel cfg node.block := by
  simp only [initial] at mem
  split at mem
  · rename_i same
    exact ⟨same, mem_initialQueue.mp mem⟩
  · cases mem

theorem initial_iterator {block : Nat} : (initial cfg).freeBlockIterators block = some handle ↔
      block < cfg.numBlocks ∧ handle = block := by
  by_cases bounded : block < cfg.numBlocks
  · simp [initial, bounded, eq_comm]
  · simp [initial, bounded]

theorem nodup_initialQueue (level : CacheLevel) : (initialQueue cfg level).Nodup := by
  cases level with
  | primary =>
    refine (nodup_range).map fun one two same => ?_
    exact congrArg FreeNode.handle same
  | secondary =>
    refine (nodup_range).map fun one two same => ?_
    have handles := congrArg FreeNode.handle same
    simpa using handles

theorem QueueShape.initial (cfg : WindowConfig) :
    QueueShape cfg (initial cfg).toLRUEvictionPolicy where
  iterator_of_mem mem := by
    obtain ⟨_, same, bounded, _⟩ := mem_initial mem
    exact initial_iterator.mpr ⟨bounded, same⟩
  mem_of_iterator {block handle} found := by
    obtain ⟨bounded, rfl⟩ := initial_iterator.mp found
    refine ⟨initialLevel cfg handle, kDefaultRetentionPriority, ?_⟩
    exact mem_initialQueue.mpr ⟨rfl, bounded, rfl⟩
  handle_injective found found' :=
    (initial_iterator.mp found).2.symm.trans (initial_iterator.mp found').2
  handle_lt found := by
    obtain ⟨bounded, rfl⟩ := initial_iterator.mp found
    exact bounded
  queue_nodup level prio := by
    change (if prio = kDefaultRetentionPriority then initialQueue cfg level else []).Nodup
    split
    · exact nodup_initialQueue level
    · exact nodup_nil
  queue_unique mem member' := by
    obtain ⟨rfl, _, _, rfl⟩ := mem_initial mem
    obtain ⟨rfl, _, _, rfl⟩ := mem_initial member'
    exact ⟨rfl, rfl⟩
  free_lt found := (initial_iterator.mp found).1

theorem queueLength_initial (level : CacheLevel) :
    queueLength (initial cfg).freeQueues level = (initialQueue cfg level).length := by
  unfold queueLength
  rw [Finset.sum_eq_single kDefaultRetentionPriority]
  · simp [initial]
  · intro prio _ ne
    simp [initial, ne]
  · intro absent
    exact absurd (Finset.mem_univ _) absent

theorem initial_level (block : BlockId) :
    (initial cfg).getCacheLevel block = initialLevel cfg block := by
  by_cases primary : block < cfg.numPrimaryBlocks <;>
    simp [getCacheLevel, isPrimary, initial, initialLevel, primary]

theorem ExactInv.initial (cfg : WindowConfig) : ExactInv cfg [] (initial cfg) where
  located mem := by
    obtain ⟨rfl, _, _, rfl⟩ := mem_initial mem
    exact ⟨initial_level _, rfl⟩
  counter level := by
    rw [queueLength_initial]
    cases level <;> simp [WindowBlockManager.initial, initialQueue]
  queued_of_unreferenced bounded _ _ := ⟨_, initial_iterator.mpr ⟨bounded, rfl⟩⟩

theorem Core.initial (cfg : WindowConfig) (mode : Mode cfg) (front : RequestId → Nat) :
    Core cfg mode front [] [] [] (initial cfg) := by
  have unheld : ∀ block, held front (WindowBlockManager.initial cfg) block = 0 := fun _ => rfl
  refine ⟨⟨.initial cfg, fun _ => ⟨unheld _, not_mem_nil⟩, fun _ => rfl,
    fun _ mem => absurd mem not_mem_nil, fun looked => ?_, fun looked => ?_⟩,
    fun _ => .initial cfg, ?_, ?_, fun _ mem => absurd mem not_mem_nil,
    fun mem => absurd mem not_mem_nil⟩
  · cases looked
  · cases looked
  · intro block other bounded bounded' same
    simp only [WindowBlockManager.initial] at same
    split at same <;> split at same <;> simp only [KVCacheIndex.mk.injEq] at same
    · exact same.2
    · cases same.1
    · cases same.1
    · rename_i beyond beyond'
      have back := Nat.sub_add_cancel (Nat.le_of_not_lt beyond)
      have back' := Nat.sub_add_cancel (Nat.le_of_not_lt beyond')
      rw [← back, ← back', same.2]
  · intro _ block pos
    cases pos

end TrtLlm.WindowBlockManager
