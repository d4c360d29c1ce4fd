import TrtLlm.Lib.Total
import TrtLlm.KvCache.Inversion

/-! # Free queues and references

The base invariant of the block manager. Queue nodes and iterators describe the same free blocks,
each once, and the reference count of a block is the number of places that hold it: active blocks of
live sequences, owed references and pins. A block that is held or owed is in no free queue.
-/

namespace TrtLlm.WindowBlockManager

open List

open Function (update update_self update_of_ne)

/-! ## Queues -/

variable {level : CacheLevel} {prio : RetentionPriority} {toFront : Bool}
  {dur : Option Nat} {handle : Nat} {other : BlockId} {rid : RequestId}
  {change : SequenceBlocks → SequenceBlocks} {seq : SequenceBlocks}

section Queues

variable {queues : CacheLevel → RetentionPriority → List FreeNode} {node inserted : FreeNode}
  {target : CacheLevel} {at' : RetentionPriority}

theorem mem_eraseNode {handle : Option Nat} :
    node ∈ eraseNode queues handle level prio ↔
      node ∈ queues level prio ∧ handle ≠ some node.handle := by
  cases handle with
  | none => simp [eraseNode]
  | some erased =>
    simp only [eraseNode, mem_filter, decide_eq_true_eq, ne_eq, Option.some.injEq]
    exact and_congr_right fun _ => not_congr eq_comm

theorem mem_insertNode :
    node ∈ insertNode queues target at' inserted toFront level prio ↔
      node ∈ queues level prio ∨ (level = target ∧ prio = at' ∧ node = inserted) := by
  unfold insertNode
  by_cases here : level = target ∧ prio = at'
  · cases toFront <;> simp [here, or_comm]
  · simp only [here, ↓reduceIte]
    tauto

theorem nodup_eraseNode {handle : Option Nat} (nodup : (queues level prio).Nodup) :
    (eraseNode queues handle level prio).Nodup := by
  cases handle with
  | none => exact nodup
  | some erased => exact nodup.filter _

theorem nodup_insertNode (nodup : (queues level prio).Nodup)
    (fresh : inserted ∉ queues level prio) :
    (insertNode queues target at' inserted toFront level prio).Nodup := by
  unfold insertNode
  split
  · cases toFront with
    | true => exact nodup_cons.mpr ⟨fresh, nodup⟩
    | false =>
      refine nodup_append'.mpr ⟨nodup, nodup_singleton _, ?_⟩
      simpa using fresh
  · exact nodup

end Queues

/-! ## The invariant -/

/-- How often the live sequences hold a block; `front` blocks of each are detached. -/
def held (front : RequestId → Nat) (s : WindowBlockManager) (block : BlockId) : Nat :=
  s.sequences.total fun requestId sequence =>
    (sequence.allocatedBlocks.drop (front requestId)).count block

/-- Queue nodes and iterators describe the same free blocks, each of them once. -/
structure QueueShape (config : WindowConfig) (policy : LRUEvictionPolicy) : Prop where
  iterator_of_mem : ∀ {level priority node}, node ∈ policy.freeQueues level priority →
    policy.freeBlockIterators node.block = some node.handle
  mem_of_iterator : ∀ {block handle}, policy.freeBlockIterators block = some handle →
    ∃ level priority, ⟨handle, block⟩ ∈ policy.freeQueues level priority
  handle_injective : ∀ {block other handle}, policy.freeBlockIterators block = some handle →
    policy.freeBlockIterators other = some handle → block = other
  handle_lt : ∀ {block handle}, policy.freeBlockIterators block = some handle →
    handle < policy.nextHandle
  queue_nodup : ∀ level priority, (policy.freeQueues level priority).Nodup
  queue_unique : ∀ {level priority level' priority' node},
    node ∈ policy.freeQueues level priority → node ∈ policy.freeQueues level' priority' →
      level = level' ∧ priority = priority'
  free_lt : ∀ {block handle}, policy.freeBlockIterators block = some handle →
    block < config.numBlocks

/-- The free blocks are well formed, and references are accounted for by `held`, by
the references in `owed` and by the pins. -/
structure QueueInv (config : WindowConfig) (front : RequestId → Nat) (owed pins : List BlockId)
    (s : WindowBlockManager) : Prop extends QueueShape config s.toLRUEvictionPolicy where
  free_unheld : ∀ {block handle}, s.freeBlockIterators block = some handle →
    held front s block = 0 ∧ block ∉ owed
  refCount_eq : ∀ block,
    s.refCount block = held front s block + owed.count block + pins.count block
  owed_lt : ∀ block ∈ owed, block < config.numBlocks
  listed_lt : ∀ {requestId sequence block}, s.sequences.lookup requestId = some sequence →
    block ∈ sequence.allocatedBlocks → block < config.numBlocks
  front_le : ∀ {requestId sequence}, s.sequences.lookup requestId = some sequence →
    front requestId ≤ sequence.allocatedBlocks.length

variable {cfg : WindowConfig} {plat : Platform} {front : RequestId → Nat}
  {owed pins : List BlockId} {s s' : WindowBlockManager} {block : BlockId} {flag : Bool}
  {offloadBlock : BlockId} {changed : SequenceBlocks} {beam : Nat}

/-- References that the sequences give up are owed from then on. -/
theorem QueueInv.owe (inv : QueueInv cfg front owed pins s) {front' : RequestId → Nat}
    (dropped : List BlockId)
    (shape : QueueShape cfg s'.toLRUEvictionPolicy)
    (iterators : s'.freeBlockIterators = s.freeBlockIterators) (cnt : s'.refCount = s.refCount)
    (moved : ∀ other, held front s other = dropped.count other + held front' s' other)
    (bounded : ∀ other ∈ dropped, other < cfg.numBlocks)
    (listed : ∀ {rid seq other}, s'.sequences.lookup rid = some seq →
      other ∈ seq.allocatedBlocks → other < cfg.numBlocks)
    (short : ∀ {rid seq}, s'.sequences.lookup rid = some seq →
      front' rid ≤ seq.allocatedBlocks.length) : QueueInv cfg front' (dropped ++ owed) pins s' := by
  refine ⟨shape, ?_, ?_, ?_, listed, short⟩
  · intro other handle queued
    obtain ⟨unheld, unowed⟩ := inv.free_unheld (iterators ▸ queued)
    rw [moved] at unheld
    refine ⟨by omega, fun mem => ?_⟩
    rcases mem_append.mp mem with new | old
    · have pos := count_pos_iff.mpr new
      omega
    · exact unowed old
  · intro other
    have counted := inv.refCount_eq other
    rw [moved] at counted
    rw [cnt, count_append]
    omega
  · exact forall_mem_append.mpr ⟨bounded, inv.owed_lt⟩

/-- The block that the policy hands out is free. -/
theorem QueueInv.free_of_policy (inv : QueueInv cfg front owed pins s)
    (took : s.policyGetFreeBlock cfg level = .ok (block, flag)) :
    ∃ handle, s.freeBlockIterators block = some handle := by
  obtain ⟨prio, node, rest, split, rfl, _⟩ := policyGetFreeBlock_ok took
  exact ⟨node.handle, inv.iterator_of_mem (split ▸ mem_cons_self)⟩

theorem claimBlock_iterator_some {prio : Option RetentionPriority}
    (found : (s.claimBlock block prio dur).freeBlockIterators other = some handle) :
    other ≠ block ∧ s.freeBlockIterators other = some handle := by
  by_cases same : other = block
  · simp [claimBlock, same] at found
  · exact ⟨same, by simpa [claimBlock, same] using found⟩

theorem QueueShape.claimBlock (shape : QueueShape cfg s.toLRUEvictionPolicy) (block : BlockId)
    (prio : Option RetentionPriority) (dur : Option Nat) :
    QueueShape cfg (s.claimBlock block prio dur).toLRUEvictionPolicy := by
  constructor
  · intro level at' node mem
    obtain ⟨before, other⟩ := mem_eraseNode.mp mem
    have found := shape.iterator_of_mem before
    have ne : node.block ≠ block := fun same => other (same ▸ found)
    simpa [WindowBlockManager.claimBlock, ne] using found
  · intro other handle found
    obtain ⟨ne, before⟩ := claimBlock_iterator_some found
    obtain ⟨level, at', mem⟩ := shape.mem_of_iterator before
    refine ⟨level, at', mem_eraseNode.mpr ⟨mem, fun claimed => ?_⟩⟩
    exact ne (shape.handle_injective before claimed)
  · exact fun found other => shape.handle_injective (claimBlock_iterator_some found).2
      (claimBlock_iterator_some other).2
  · exact fun found => shape.handle_lt (claimBlock_iterator_some found).2
  · exact fun level at' => nodup_eraseNode (shape.queue_nodup level at')
  · exact fun mem other =>
      shape.queue_unique (mem_eraseNode.mp mem).1 (mem_eraseNode.mp other).1
  · exact fun found => shape.free_lt (claimBlock_iterator_some found).2

theorem QueueInv.claimBlock (inv : QueueInv cfg front owed pins s) (block : BlockId)
    (prio : Option RetentionPriority) (dur : Option Nat) :
    QueueInv cfg front owed pins (s.claimBlock block prio dur) :=
  ⟨inv.toQueueShape.claimBlock block prio dur,
    fun found => inv.free_unheld (claimBlock_iterator_some found).2, inv.refCount_eq, inv.owed_lt,
    inv.listed_lt, inv.front_le⟩

theorem claimBlock_iterator_self (s : WindowBlockManager) (block : BlockId)
    (prio : Option RetentionPriority) (dur : Option Nat) :
    (s.claimBlock block prio dur).freeBlockIterators block = none := by
  simp [claimBlock]

theorem claimBlock_iterator_none {prio : Option RetentionPriority}
    (unqueued : s.freeBlockIterators other = none) :
    (s.claimBlock block prio dur).freeBlockIterators other = none := by
  by_cases same : other = block
  · rw [same]
    exact claimBlock_iterator_self s block prio dur
  · simpa [claimBlock, same] using unqueued

/-- A node with a new handle is in no queue. -/
theorem QueueShape.fresh (shape : QueueShape cfg s.toLRUEvictionPolicy) (block : BlockId)
    (level : CacheLevel) (prio : RetentionPriority) :
    (⟨s.nextHandle, block⟩ : FreeNode) ∉ s.freeQueues level prio := by
  intro mem
  exact absurd (shape.handle_lt (shape.iterator_of_mem mem)) (Nat.lt_irrefl _)

theorem releaseBlock_iterator_some
    (found : (s.releaseBlock plat block toFront).freeBlockIterators other = some handle) :
    (other = block ∧ handle = s.nextHandle) ∨
      (other ≠ block ∧ s.freeBlockIterators other = some handle) := by
  by_cases same : other = block
  · have handed : s.nextHandle = handle := by simpa [releaseBlock, same] using found
    exact .inl ⟨same, handed.symm⟩
  · exact .inr ⟨same, by simpa [releaseBlock, same] using found⟩

/-- A block that is in no queue can be put into one. -/
theorem QueueShape.releaseBlock (shape : QueueShape cfg s.toLRUEvictionPolicy)
    (bounded : block < cfg.numBlocks) (unqueued : s.freeBlockIterators block = none)
    (toFront : Bool) : QueueShape cfg (s.releaseBlock plat block toFront).toLRUEvictionPolicy := by
  constructor
  · intro level prio node mem
    rcases mem_insertNode.mp mem with before | ⟨_, _, rfl⟩
    · have found := shape.iterator_of_mem before
      have ne : node.block ≠ block := by
        intro same
        rw [same] at found
        exact absurd (unqueued.symm.trans found) (by simp)
      simpa [WindowBlockManager.releaseBlock, ne] using found
    · simp [WindowBlockManager.releaseBlock]
  · intro other handle found
    rcases releaseBlock_iterator_some found with ⟨rfl, rfl⟩ | ⟨_, before⟩
    · exact ⟨_, _, mem_insertNode.mpr (.inr ⟨rfl, rfl, rfl⟩)⟩
    · obtain ⟨level, prio, mem⟩ := shape.mem_of_iterator before
      exact ⟨level, prio, mem_insertNode.mpr (.inl mem)⟩
  · intro one other handle found also
    rcases releaseBlock_iterator_some found with ⟨rfl, rfl⟩ | ⟨_, before⟩ <;>
      rcases releaseBlock_iterator_some also with ⟨rfl, same⟩ | ⟨_, also⟩
    · rfl
    · exact absurd (shape.handle_lt also) (Nat.lt_irrefl _)
    · exact absurd (shape.handle_lt before) (same ▸ Nat.lt_irrefl _)
    · exact shape.handle_injective before also
  · intro other handle found
    rcases releaseBlock_iterator_some found with ⟨_, rfl⟩ | ⟨_, before⟩
    · exact Nat.lt_succ_self _
    · exact Nat.lt_succ_of_lt (shape.handle_lt before)
  · exact fun level prio =>
      nodup_insertNode (shape.queue_nodup level prio) (shape.fresh block level prio)
  · intro level prio level' priority' node mem also
    rcases mem_insertNode.mp mem with before | ⟨rfl, rfl, rfl⟩ <;>
      rcases mem_insertNode.mp also with also | ⟨rfl, rfl, same⟩
    · exact shape.queue_unique before also
    · exact absurd (same ▸ before) (shape.fresh block _ _)
    · exact absurd also (shape.fresh block _ _)
    · exact ⟨rfl, rfl⟩
  · intro other handle found
    rcases releaseBlock_iterator_some found with ⟨rfl, _⟩ | ⟨_, before⟩
    · exact bounded
    · exact shape.free_lt before

/-- A block that is nowhere held and in no queue can be put into one. -/
theorem QueueInv.releaseBlock (inv : QueueInv cfg front owed pins s)
    (bounded : block < cfg.numBlocks) (unqueued : s.freeBlockIterators block = none)
    (unheld : held front s block = 0) (unowed : block ∉ owed) (toFront : Bool) :
    QueueInv cfg front owed pins (s.releaseBlock plat block toFront) := by
  refine ⟨inv.toQueueShape.releaseBlock bounded unqueued toFront, ?_, inv.refCount_eq, inv.owed_lt,
    inv.listed_lt, inv.front_le⟩
  intro other handle found
  rcases releaseBlock_iterator_some found with ⟨rfl, _⟩ | ⟨_, before⟩
  · exact ⟨unheld, unowed⟩
  · exact inv.free_unheld before

/-- The shape only depends on the queues, the iterators and the next handle. -/
theorem QueueShape.congr {policy policy' : LRUEvictionPolicy} (shape : QueueShape cfg policy)
    (queues : policy'.freeQueues = policy.freeQueues)
    (iterators : policy'.freeBlockIterators = policy.freeBlockIterators)
    (handles : policy'.nextHandle = policy.nextHandle) : QueueShape cfg policy' := by
  obtain ⟨a, b, c, d, e, f, g⟩ := shape
  constructor <;> simp only [queues, iterators, handles] <;> assumption

theorem expireBlock_of_unqueued (unqueued : s.freeBlockIterators block = none) :
    (s.expireBlock block).freeQueues = s.freeQueues ∧
      (s.expireBlock block).freeBlockIterators = s.freeBlockIterators ∧
      (s.expireBlock block).nextHandle = s.nextHandle := by
  simp [expireBlock, unqueued]

/-- For a free block the round of `refresh` claims it at the default priority and
releases it again, with the counters left alone. -/
theorem expireBlock_of_queued (plat : Platform)
    (queued : s.freeBlockIterators block = some handle) :
    let released := (s.claimBlock block (some kDefaultRetentionPriority) none).releaseBlock
      plat block false
    (s.expireBlock block).freeQueues = released.freeQueues ∧
      (s.expireBlock block).freeBlockIterators = released.freeBlockIterators ∧
      (s.expireBlock block).nextHandle = released.nextHandle := by
  refine ⟨?_, ?_, ?_⟩
  · simp only [expireBlock, queued, releaseBlock, claimBlock, Option.isSome_some, ↓reduceIte,
      update_self, Option.getD_some]
    rfl
  · simp [expireBlock, queued, releaseBlock, claimBlock]
  · simp [expireBlock, queued, releaseBlock, claimBlock]

theorem QueueShape.expireBlock (shape : QueueShape cfg s.toLRUEvictionPolicy)
    (block : BlockId) : QueueShape cfg (s.expireBlock block).toLRUEvictionPolicy := by
  cases found : s.freeBlockIterators block with
  | none =>
    obtain ⟨queues, iterators, handles⟩ := expireBlock_of_unqueued found
    exact shape.congr queues iterators handles
  | some handle =>
    obtain ⟨queues, iterators, handles⟩ :=
      expireBlock_of_queued ⟨id, id, id, fun _ => .refl _⟩ found
    exact ((shape.claimBlock block (some kDefaultRetentionPriority) none).releaseBlock
      (shape.free_lt found) (claimBlock_iterator_self s block _ _) false).congr
        queues iterators handles

theorem expireBlock_iterator_isSome (block other : BlockId) :
    ((s.expireBlock block).freeBlockIterators other).isSome =
      (s.freeBlockIterators other).isSome := by
  cases found : s.freeBlockIterators block with
  | none => rw [(expireBlock_of_unqueued found).2.1]
  | some handle =>
    by_cases same : other = block
    · simp [expireBlock, found, same]
    · simp [expireBlock, found, same]

theorem QueueInv.expireBlock (inv : QueueInv cfg front owed pins s) (block : BlockId) :
    QueueInv cfg front owed pins (s.expireBlock block) := by
  refine ⟨inv.toQueueShape.expireBlock block, ?_, inv.refCount_eq, inv.owed_lt, inv.listed_lt,
    inv.front_le⟩
  intro other handle found
  have queued : (s.freeBlockIterators other).isSome := by
    rw [← expireBlock_iterator_isSome block other, found]
    rfl
  obtain ⟨before, was⟩ := Option.isSome_iff_exists.mp queued
  exact inv.free_unheld was

theorem releaseBlock_iterator_of_ne (ne : other ≠ block) :
    (s.releaseBlock plat block toFront).freeBlockIterators other = s.freeBlockIterators other := by
  simp [releaseBlock, ne]

/-! ## Taking blocks -/

/-- The heads of the primary and of the secondary queues are different blocks. -/
theorem QueueInv.levels_disjoint (inv : QueueInv cfg front owed pins s) {flag' : Bool}
    (primary : s.policyGetFreeBlock cfg .primary = .ok (block, flag))
    (secondary : s.policyGetFreeBlock cfg .secondary = .ok (other, flag')) : block ≠ other := by
  rintro rfl
  obtain ⟨p, ⟨handle, id⟩, rest, split, same, _⟩ := policyGetFreeBlock_ok primary
  obtain ⟨q, ⟨handle', id'⟩, rest', split', same', _⟩ := policyGetFreeBlock_ok secondary
  cases same
  cases same'
  have first : (⟨handle, id⟩ : FreeNode) ∈ s.freeQueues .primary p := split ▸ mem_cons_self
  have second : (⟨handle', id⟩ : FreeNode) ∈ s.freeQueues .secondary q :=
    split' ▸ mem_cons_self
  have handles : handle = handle' := Option.some.inj
    ((inv.iterator_of_mem first).symm.trans (inv.iterator_of_mem second))
  subst handles
  exact absurd (inv.queue_unique first second).1 (by simp)

/-! ## Sequences and references -/

theorem modifySequence_sequences (found : s.sequences.lookup rid = some seq) :
    (s.modifySequence rid change).sequences = s.sequences.insert rid (change seq) := by
  simp [modifySequence, found]

/-- A change of one sequence changes what is held by that sequence. -/
theorem held_modifySequence (front : RequestId → Nat) (change : SequenceBlocks → SequenceBlocks)
    (found : s.sequences.lookup rid = some seq) (block : BlockId) :
    held front (s.modifySequence rid change) block +
        (seq.allocatedBlocks.drop (front rid)).count block = held front s block +
        ((change seq).allocatedBlocks.drop (front rid)).count block := by
  unfold held
  rw [modifySequence_sequences found, AList.total_insert, AList.total_of_lookup _ found]
  omega

theorem lookup_modifySequence_self (found : s.sequences.lookup rid = some seq) :
    (s.modifySequence rid change).sequences.lookup rid = some (change seq) := by
  rw [modifySequence_sequences found, AList.lookup_insert]

theorem lookup_modifySequence_of_ne {other : RequestId} (ne : other ≠ rid) :
    (s.modifySequence rid change).sequences.lookup other = s.sequences.lookup other := by
  cases found : s.sequences.lookup rid with
  | none => simp [modifySequence, found]
  | some seq => rw [modifySequence_sequences found, AList.lookup_insert_ne ne]

/-- A lookup after a change of one sequence. -/
theorem lookup_modifySequence_cases {other : RequestId} (found : s.sequences.lookup rid = some seq)
    (looked : (s.modifySequence rid change).sequences.lookup other = some changed) :
    (other = rid ∧ changed = change seq) ∨
      (other ≠ rid ∧ s.sequences.lookup other = some changed) := by
  by_cases same : other = rid
  · subst same
    rw [lookup_modifySequence_self found] at looked
    exact .inl ⟨rfl, (Option.some.inj looked).symm⟩
  · rw [lookup_modifySequence_of_ne same] at looked
    exact .inr ⟨same, looked⟩

/-- A block added to a beam is held once more. -/
theorem held_addBlockToBeam (found : s.sequences.lookup rid = some seq)
    (short : front rid ≤ seq.allocatedBlocks.length) (block other : BlockId) (beam : Nat) :
    held front (s.addBlockToBeam rid block beam) other =
      held front s other + [block].count other := by
  let before := (s.incRefCount block).setPrevBlockInSeq block (s.lastInBeam rid beam)
  have present : before.sequences.lookup rid = some seq := found
  have changed := held_modifySequence front (pushBlock block beam) present other
  have appended : (pushBlock block beam seq).allocatedBlocks.drop (front rid) =
      seq.allocatedBlocks.drop (front rid) ++ [block] :=
    drop_append_of_le_length short
  have same : held front before other = held front s other := rfl
  rw [appended, count_append] at changed
  change held front (before.modifySequence rid (pushBlock block beam)) other = _
  omega

/-- A lookup after a block was added to a beam of another or the same sequence. -/
theorem lookup_addBlockToBeam_cases {other : RequestId} (found : s.sequences.lookup rid = some seq)
    (looked : (s.addBlockToBeam rid block beam).sequences.lookup other = some changed) :
    (other = rid ∧ changed = pushBlock block beam seq) ∨
      (other ≠ rid ∧ s.sequences.lookup other = some changed) :=
  lookup_modifySequence_cases (s := (s.incRefCount block).setPrevBlockInSeq block
    (s.lastInBeam rid beam)) found looked

theorem refCount_incRefCount (s : WindowBlockManager) (block other : BlockId) :
    (s.incRefCount block).refCount other = s.refCount other + [block].count other := by
  change update s.refCount block (s.refCount block + 1) other = _
  by_cases same : other = block
  · rw [same, update_self, count_singleton_self]
  · rw [update_of_ne same, count_singleton, if_neg (by simpa using Ne.symm same), Nat.add_zero]

/-- A block that is in no queue can be added to a beam of a live sequence. -/
theorem QueueInv.addBlockToBeam (inv : QueueInv cfg front owed pins s)
    (found : s.sequences.lookup rid = some seq) (bounded : block < cfg.numBlocks)
    (unqueued : s.freeBlockIterators block = none) (beam : Nat) :
    QueueInv cfg front owed pins (s.addBlockToBeam rid block beam) := by
  have added := fun other =>
    held_addBlockToBeam found (inv.front_le found) block other beam
  refine ⟨inv.toQueueShape, ?_, ?_, inv.owed_lt, ?_, ?_⟩
  · intro other handle queued
    have unheld := inv.free_unheld queued
    have ne : other ≠ block := by
      rintro rfl
      exact absurd (unqueued.symm.trans queued) (by simp)
    refine ⟨?_, unheld.2⟩
    rw [added, unheld.1, count_singleton]
    simpa using ne.symm
  · intro other
    have counted := inv.refCount_eq other
    rw [added]
    change (s.incRefCount block).refCount other = _
    rw [refCount_incRefCount]
    omega
  · intro other changed mem looked contained
    rcases lookup_addBlockToBeam_cases found looked with ⟨rfl, rfl⟩ | ⟨_, unchanged⟩
    · rcases mem_append.mp contained with old | new
      · exact inv.listed_lt found old
      · exact mem_singleton.mp new ▸ bounded
    · exact inv.listed_lt unchanged contained
  · intro other changed looked
    rcases lookup_addBlockToBeam_cases found looked with ⟨rfl, rfl⟩ | ⟨_, unchanged⟩
    · have short := inv.front_le found
      simp only [pushBlock, length_append, length_singleton]
      omega
    · exact inv.front_le unchanged

theorem lookup_addBlockToBeam (found : s.sequences.lookup rid = some seq) :
    (s.addBlockToBeam rid block beam).sequences.lookup rid = some (pushBlock block beam seq) :=
  lookup_modifySequence_self (s := (s.incRefCount block).setPrevBlockInSeq block
    (s.lastInBeam rid beam)) found

/-! ## References that are owed -/

/-- A reference that is owed is dropped; the block is released with the last one. -/
theorem QueueInv.dropOwed (inv : QueueInv cfg front (block :: owed) pins s) (toFront : Bool) :
    QueueInv cfg front owed pins
      (if s.refCount block - 1 = 0 then (s.decRefCount block).releaseBlock plat block toFront
        else s.decRefCount block) := by
  have unqueued : s.freeBlockIterators block = none := by
    cases found : s.freeBlockIterators block with
    | none => rfl
    | some handle => exact absurd mem_cons_self (inv.free_unheld found).2
  have dropped : QueueInv cfg front owed pins (s.decRefCount block) := by
    refine ⟨inv.toQueueShape, ?_, ?_, ?_, inv.listed_lt, inv.front_le⟩
    · intro other handle found
      have unheld := inv.free_unheld found
      exact ⟨unheld.1, fun mem => unheld.2 (mem_cons_of_mem _ mem)⟩
    · intro other
      have counted := inv.refCount_eq other
      change update s.refCount block (s.refCount block - 1) other = held front s other + _ + _
      by_cases same : other = block
      · subst same
        rw [count_cons_self] at counted
        rw [update_self]
        omega
      · rw [count_cons_of_ne (Ne.symm same)] at counted
        rw [update_of_ne same]
        exact counted
    · exact (forall_mem_cons.mp inv.owed_lt).2
  split
  · rename_i last
    have counted := inv.refCount_eq block
    rw [count_cons_self] at counted
    have unowed : block ∉ owed := count_eq_zero.mp (by omega)
    have unheld : held front (s.decRefCount block) block = 0 := by
      change held front s block = 0
      omega
    exact dropped.releaseBlock (inv.owed_lt block mem_cons_self) unqueued unheld unowed toFront
  · exact dropped

section

variable (inv : QueueInv cfg front owed pins s)
include inv

/-- A block that is owed has a reference. -/
theorem QueueInv.referenced_of_owed (mem : block ∈ owed) : 0 < s.refCount block := by
  have counted := inv.refCount_eq block
  have pos := count_pos_iff.mpr mem
  omega

/-- The order of the owed references does not matter. -/
theorem QueueInv.perm {owed' : List BlockId}
    (perm : owed.Perm owed') : QueueInv cfg front owed' pins s :=
  { inv with
    free_unheld := fun found =>
      ⟨(inv.free_unheld found).1, fun mem => (inv.free_unheld found).2 (perm.mem_iff.mpr mem)⟩
    refCount_eq := fun block => perm.count_eq block ▸ inv.refCount_eq block
    owed_lt := fun block mem => inv.owed_lt block (perm.mem_iff.mpr mem) }

/-- An erased sequence owes the references to its active blocks. -/
theorem QueueInv.eraseSequence (found : s.sequences.lookup rid = some seq) :
    QueueInv cfg front (seq.allocatedBlocks.drop (front rid) ++ owed) pins
      { s with sequences := s.sequences.erase rid } := by
  have others : ∀ {other kept}, (s.sequences.erase rid).lookup other = some kept →
      s.sequences.lookup other = some kept := by
    intro other kept looked
    by_cases same : other = rid
    · rw [same, AList.lookup_erase] at looked
      cases looked
    · rwa [AList.lookup_erase_ne same] at looked
  refine inv.owe _ inv.toQueueShape rfl rfl (fun block => AList.total_of_lookup _ found) ?_
    (fun looked => inv.listed_lt (others looked)) fun looked => inv.front_le (others looked)
  exact fun block active => inv.listed_lt found (mem_of_mem_drop active)

/-- A popped block is owed, if it was not detached. -/
theorem QueueInv.popBlock (found : s.sequences.lookup rid = some seq)
    (last : seq.allocatedBlocks.getLast? = some block)
    (active : front rid < seq.allocatedBlocks.length) :
    QueueInv cfg front (block :: owed) pins (s.modifySequence rid popBlock) := by
  obtain ⟨others, split⟩ := getLast?_eq_some_iff.mp last
  have within : front rid ≤ others.length := by
    rw [split, length_append, length_singleton] at active
    omega
  have popped : (WindowBlockManager.popBlock seq).allocatedBlocks = others := by
    simp [WindowBlockManager.popBlock, split]
  refine inv.owe [block] inv.toQueueShape rfl rfl ?_ ?_ ?_ ?_
  · intro other
    have moved := held_modifySequence front WindowBlockManager.popBlock found other
    rw [popped, split, drop_append_of_le_length within, count_append] at moved
    omega
  · exact forall_mem_singleton.mpr (inv.listed_lt found (mem_of_getLast? last))
  · intro other kept mem looked contained
    rcases lookup_modifySequence_cases found looked with ⟨rfl, rfl⟩ | ⟨_, unchanged⟩
    · rw [popped] at contained
      exact inv.listed_lt found (split ▸ mem_append_left _ contained)
    · exact inv.listed_lt unchanged contained
  · intro other kept looked
    rcases lookup_modifySequence_cases found looked with ⟨rfl, rfl⟩ | ⟨_, unchanged⟩
    · rw [popped]
      exact within
    · exact inv.front_le unchanged

/-- The block that is detached next is owed from then on. -/
theorem QueueInv.detach (found : s.sequences.lookup rid = some seq)
    (next : seq.allocatedBlocks[front rid]? = some block) :
    QueueInv cfg (update front rid (front rid + 1)) (block :: owed) pins s := by
  obtain ⟨bounded, rfl⟩ := List.getElem?_eq_some_iff.mp next
  refine inv.owe [_] inv.toQueueShape rfl rfl ?_ ?_ inv.listed_lt ?_
  · intro other
    unfold held
    rw [AList.total_of_lookup _ found, AList.total_of_lookup _ found, update_self,
      List.drop_eq_getElem_cons bounded, ← List.singleton_append, List.count_append]
    have rest : AList.total (fun other' seq => (seq.allocatedBlocks.drop
          (update front rid (front rid + 1) other')).count other) (s.sequences.erase rid) =
        AList.total (fun other' seq => (seq.allocatedBlocks.drop
          (front other')).count other) (s.sequences.erase rid) := by
      refine AList.total_congr fun other' kept looked => ?_
      have ne : other' ≠ rid := by
        rintro rfl
        rw [AList.lookup_erase] at looked
        cases looked
      rw [update_of_ne ne]
    omega
  · exact forall_mem_singleton.mpr (inv.listed_lt found (List.getElem_mem bounded))
  · intro other kept looked
    by_cases same : other = rid
    · subst same
      rw [found] at looked
      cases looked
      rw [update_self]
      exact bounded
    · rw [update_of_ne same]
      exact inv.front_le looked

/-- A pin on a block that is in no queue is a reference that is owed. -/
theorem QueueInv.pinOwed (bounded : block < cfg.numBlocks)
    (unqueued : s.freeBlockIterators block = none) :
    QueueInv cfg front (block :: owed) pins (s.incRefCount block) := by
  refine ⟨inv.toQueueShape, ?_, ?_, ?_, inv.listed_lt, inv.front_le⟩
  · intro other handle queued
    obtain ⟨unheld, unowed⟩ := inv.free_unheld queued
    refine ⟨unheld, fun mem => ?_⟩
    rcases mem_cons.mp mem with rfl | old
    · exact absurd (unqueued.symm.trans queued) (by simp)
    · exact unowed old
  · intro other
    have counted := inv.refCount_eq other
    rw [refCount_incRefCount, show block :: owed = [block] ++ owed from rfl, count_append]
    change _ = held front s other + _ + _
    omega
  · exact forall_mem_cons.mpr ⟨bounded, inv.owed_lt⟩

/-- A pin is counted as such, whatever the state of the block. -/
theorem QueueInv.pin (block : BlockId) :
    QueueInv cfg front owed (block :: pins) (s.incRefCount block) := by
  refine ⟨inv.toQueueShape, inv.free_unheld, ?_, inv.owed_lt, inv.listed_lt, inv.front_le⟩
  intro other
  have counted := inv.refCount_eq other
  rw [refCount_incRefCount, show block :: pins = [block] ++ pins from rfl, count_append]
  change _ = held front s other + _ + _
  omega

end

end TrtLlm.WindowBlockManager
