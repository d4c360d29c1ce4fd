import TrtLlm.KvCache.OneWindowCore

/-! # Free queues

A block is in the free queues exactly when nobody references it. Pins are references
that callers hold, so a run is followed together with the pins that were handed out
and not yet returned.
-/

namespace TrtLlm

open KVCacheManager WindowBlockManager

/-- A manager with the pins that callers hold. -/
structure Tracked where
  manager : KVCacheManager
  outstanding : List BlockId

namespace Tracked

variable (platform : Platform) (enableBlockReuse reuse : Bool)

def initial (configs : List WindowConfig) : Tracked where
  manager := KVCacheManager.initial configs
  outstanding := []

/-- A call, with the pins it hands out and takes back. -/
def step (t : Tracked) (op : Op) : Except Failure Tracked := do
  let (m, output) ← t.manager.exec platform enableBlockReuse op
  return ⟨m, output.pinnedBlockIds ++ t.outstanding.diff op.unpinned⟩

/-- Only ids that were returned as pinned are unpinned. -/
def ReturnsPins (t : Tracked) (op : Op) : Prop := op.unpinned.Subperm t.outstanding
  deriving Decidable

/-- The call pins no free block, moves no free block and releases no block twice. -/
def KeepsTrack (t : Tracked) (op : Op) : Prop :=
  t.manager.Avoids platform enableBlockReuse Branch.losesFree op
  deriving Decidable

/-- A run in which only pins are returned and every call keeps track of the free blocks. -/
abbrev Follows : Tracked → Tracked → Prop :=
  Run.Reaches (step platform enableBlockReuse)
    fun t op => t.ReturnsPins op ∧ t.KeepsTrack platform enableBlockReuse op

end Tracked

namespace WindowBlockManager

variable {cfg : WindowConfig} {platform : Platform} {mode : Mode cfg}
  {front : RequestId → Nat} {owed hand : List BlockId} {s : WindowBlockManager} {block : BlockId}

/-- How often a block is in a free queue. -/
def copies (s : WindowBlockManager) (block : BlockId) (level : CacheLevel)
    (priority : RetentionPriority) : Nat :=
  (s.freeQueues level priority).countP fun node => node.block = block

/-- The free queues hold the unreferenced blocks, each once and in its place. -/
structure QueuesExact (config : WindowConfig) (s : WindowBlockManager) : Prop where
  queued_iff : ∀ block < config.numBlocks,
    (∃ level priority, 0 < s.copies block level priority) ↔ s.refCount block = 0
  once : ∀ block < config.numBlocks, s.refCount block = 0 → ∀ level priority,
    s.copies block level priority =
      if level = s.getCacheLevel block ∧ priority = s.priority block then 1 else 0
  counter : ∀ level,
    s.numFreeBlocksPerLevel level = (∑ priority, (s.freeQueues level priority).length : Nat)
  policy_unreferenced : ∀ level block canOffload,
    s.policyGetFreeBlock config level = .ok (block, canOffload) → s.refCount block = 0
  taken_unreferenced : ∀ platform requestId priority durationMs block s',
    s.getFreeBlock config platform requestId priority durationMs = .ok (block, s') →
      s.refCount block = 0 ∧ s'.refCount block = 0

theorem copies_pos_iff {level : CacheLevel} {prio : RetentionPriority} :
    0 < s.copies block level prio ↔ ∃ node ∈ s.freeQueues level prio, node.block = block := by
  unfold copies
  simp [List.countP_pos_iff]

/-- A block that is in a queue is there in a single node. -/
theorem QueueShape.copies_eq (shape : QueueShape cfg s.toLRUEvictionPolicy) {handle : Nat}
    (queued : s.freeBlockIterators block = some handle) (level : CacheLevel)
    (prio : RetentionPriority) :
    s.copies block level prio = (s.freeQueues level prio).count ⟨handle, block⟩ := by
  refine List.countP_congr fun node mem => ?_
  obtain ⟨handle', other⟩ := node
  simp only [decide_eq_true_eq, beq_iff_eq, FreeNode.mk.injEq]
  constructor
  · rintro rfl
    have found := shape.iterator_of_mem mem
    rw [queued] at found
    exact ⟨(Option.some.inj found).symm, rfl⟩
  · exact And.right

theorem QueueInv.unreferenced_of_queued (inv : QueueInv cfg front owed [] s) {handle : Nat}
    (queued : s.freeBlockIterators block = some handle) : s.refCount block = 0 := by
  by_contra referenced
  have unqueued := inv.unqueued_of_referenced (Nat.pos_of_ne_zero referenced)
  rw [queued] at unqueued
  cases unqueued

theorem Core.queuesExact (core : Core cfg mode front owed [] [] s) (strict : mode.strict) :
    QueuesExact cfg s where
  queued_iff block bounded := by
    constructor
    · rintro ⟨level, prio, pos⟩
      obtain ⟨node, mem, rfl⟩ := copies_pos_iff.mp pos
      exact core.queue.unreferenced_of_queued (core.queue.iterator_of_mem mem)
    · intro unreferenced
      obtain ⟨handle, queued⟩ := (core.exact strict).queued_of_unreferenced bounded unreferenced
        List.not_mem_nil
      exact ⟨_, _, copies_pos_iff.mpr
        ⟨_, (core.exact strict).mem_home core.queue.toQueueShape queued, rfl⟩⟩
  once block bounded unreferenced level priority := by
    obtain ⟨handle, queued⟩ := (core.exact strict).queued_of_unreferenced bounded unreferenced
      List.not_mem_nil
    rw [core.queue.toQueueShape.copies_eq queued]
    split
    · rename_i home
      obtain ⟨rfl, rfl⟩ := home
      exact List.count_eq_one_of_mem (core.queue.queue_nodup _ _)
        ((core.exact strict).mem_home core.queue.toQueueShape queued)
    · rename_i elsewhere
      refine List.count_eq_zero_of_not_mem fun mem => elsewhere ?_
      obtain ⟨rfl, rfl⟩ := (core.exact strict).located mem
      exact ⟨rfl, rfl⟩
  counter := (core.exact strict).counter
  policy_unreferenced level block canOffload took := by
    obtain ⟨handle, queued⟩ := core.queue.free_of_policy took
    exact core.queue.unreferenced_of_queued queued
  taken_unreferenced platform rid prio dur block s' took := by
    have got := core.getFreeBlock took
    obtain ⟨handle, queued⟩ := got.was_free
    have unreferenced := core.queue.unreferenced_of_queued queued
    exact ⟨unreferenced, (congrFun got.refCount block).trans unreferenced⟩

end WindowBlockManager

namespace Tracked

variable {platform : Platform} {enableBlockReuse reuse : Bool} {cfg : WindowConfig} {t t' : Tracked}

/-- The accounting of free blocks is exact, and blocks in use may be offloaded. -/
def accounting (config : WindowConfig) : Mode config where
  strict := True
  resident := False
  strict_of_resident := False.elim
  onboards_of_resident := Mode.onboards_of_false config

/-- The invariant of a followed run: what callers have pinned is owed, and so is what is pinned
besides. -/
def Inv (config : WindowConfig) (besides : List BlockId) (t : Tracked) : Prop :=
  ∃ v : OneWindow, t.manager = v.manager config ∧
    v.CoreInv config (accounting config) (besides ++ t.outstanding) []

theorem Inv.initial (cfg : WindowConfig) : Inv cfg [] (Tracked.initial [cfg]) :=
  ⟨OneWindow.initial cfg, rfl, .initial cfg _⟩

/-- A followed call is a call on the window, after which no branch that loses a free
block has been taken. -/
theorem step_oneWindow {v : OneWindow} {op : Op} (same : t.manager = v.manager cfg)
    (keeps : t.KeepsTrack platform reuse op) (stepped : t.step platform reuse op = .ok t') :
    ∃ v' output, t'.manager = OneWindow.manager cfg v' ∧
      t'.outstanding = output.pinnedBlockIds ++ t.outstanding.diff op.unpinned ∧
      OneWindow.Step cfg platform reuse v op output v' ∧
      ∀ branch ∈ v'.window.history, branch.losesFree = false := by
  simp only [Tracked.step, Except.bind_eq_ok, Except.pure_eq_ok] at stepped
  obtain ⟨⟨m, output⟩, called, rfl⟩ := stepped
  unfold KeepsTrack Avoids at keeps
  rw [called] at keeps
  rw [same] at called
  obtain ⟨v', rfl, done⟩ := OneWindow.exec_step called
  exact ⟨v', output, rfl, rfl, done, keeps (cfg, v'.window) List.mem_cons_self⟩

theorem Inv.step {besides : List BlockId} (inv : Inv cfg besides t) {op : Op}
    (returned : t.ReturnsPins op) (keeps : t.KeepsTrack platform reuse op)
    (stepped : t.step platform reuse op = .ok t') : Inv cfg besides t' := by
  obtain ⟨v, same, core⟩ := inv
  obtain ⟨v', output, same', outstanding, done, clean⟩ := step_oneWindow same keeps stepped
  have kept := core.step_owed id done
    (returned.trans (List.sublist_append_right besides t.outstanding).subperm) clean
  refine ⟨v', same', kept.ids, kept.inv.permOwed (List.perm_iff_count.mpr fun block => ?_)⟩
  have fewer := returned.count_le block
  simp only [outstanding, List.count_append, List.count_diff]
  omega

theorem Inv.reaches {besides : List BlockId} (inv : Inv cfg besides t)
    (reached : Follows platform reuse t t') : Inv cfg besides t' :=
  reached.invariant inv fun _ _ _ inv allowed => inv.step allowed.1 allowed.2

/-- In every run of one window that returns only its pins and keeps track of the free
blocks, the free queues are exact after every call. -/
theorem queues_exact_of_reaches (platform : Platform) (enableBlockReuse : Bool)
    (config : WindowConfig)
    (reached : Run.Reaches (Tracked.step platform enableBlockReuse)
      (fun t op => t.ReturnsPins op ∧ t.KeepsTrack platform enableBlockReuse op)
      (Tracked.initial [config]) t) :
    ∃ window, t.manager.windows = [(config, window)] ∧ QueuesExact config window := by
  obtain ⟨v, same, core⟩ := (Inv.initial config).reaches reached
  exact ⟨v.window, by rw [same]; rfl, core.inv.core.queuesExact trivial⟩

/-- A prompt of three tokens, and the request once its prompt is processed. -/
def threeTokens (requestId : RequestId) (processed : Bool) : LlmRequest where
  requestId := requestId
  uniqueTokens := [⟨1, 0⟩, ⟨2, 0⟩, ⟨3, 0⟩]
  promptLen := 3
  contextCurrentPosition := if processed then 3 else 0
  contextChunkSize := if processed then 0 else 3

/-- A sequence is stored and pinned while it is live, and unpinned after it is removed. -/
def pinLive : List Op :=
  [.addSequence 1 3 1 (some (threeTokens 1 false)),
    .storeBlocksForReuse (threeTokens 1 true) true,
    .removeSequence 1 (some (threeTokens 1 true)), .unpinBlocksById [0]]

theorem queues_exact_pinLive : ∃ t,
    (Run.Reaches (Tracked.step .plain true)
      (fun t op => t.ReturnsPins op ∧ t.KeepsTrack .plain true op) (Tracked.initial [.fourBlocks])
      t ∧ decide (t.outstanding = []) = true) ∧
    ∃ window, t.manager.windows = [(.fourBlocks, window)] ∧ QueuesExact .fourBlocks window := by
  refine Exists.imp (fun t checked => ⟨checked, ?_⟩)
    (Run.exists_reaches pinLive (by decide +kernel))
  exact queues_exact_of_reaches .plain true .fourBlocks checked.1

/-- Once the ids that storing with pinning returned are unpinned, with any calls in between, every
block has the references of the live sequences and those that others have pinned. -/
theorem unpin_undoes_pin (platform : Platform) (enableBlockReuse : Bool) (config : WindowConfig)
    (reached : Follows platform enableBlockReuse (Tracked.initial [config]) t)
    (request : LlmRequest) {pinned unpinned : KVCacheManager} {blockIds : List BlockId}
    (keeps : t.KeepsTrack platform enableBlockReuse (.storeBlocksForReuse request true))
    (stored : t.manager.storeBlocksForReuse platform request true = .ok (pinned, blockIds))
    (others : Follows platform enableBlockReuse ⟨pinned, t.outstanding⟩ t')
    (keepsToo : t'.KeepsTrack platform enableBlockReuse (.unpinBlocksById blockIds))
    (returned : t'.manager.unpinBlocksById platform blockIds = .ok unpinned) :
    ∃ v : OneWindow, unpinned = v.manager config ∧ ∀ block,
      v.window.refCount block = held v.front v.window block + t'.outstanding.count block := by
  have owed : Inv config blockIds ⟨pinned, t.outstanding⟩ := by
    change Inv config [] ⟨pinned, blockIds ++ t.outstanding⟩
    refine ((Inv.initial config).reaches reached).step ?_ keeps ?_
    · exact List.nil_subperm
    · rw [Tracked.step, exec, stored]
      rfl
  have before : Inv config [] ⟨t'.manager, blockIds ++ t'.outstanding⟩ := owed.reaches others
  have after : Inv config [] ⟨unpinned, (blockIds ++ t'.outstanding).diff blockIds⟩ := by
    refine before.step ?_ keepsToo ?_
    · exact (List.sublist_append_left _ _).subperm
    · rw [Tracked.step, exec, returned]
      rfl
  obtain ⟨v, same, core⟩ := after
  refine ⟨v, same, fun block => ?_⟩
  simpa [List.count_diff] using core.inv.core.queue.refCount_eq block

theorem unpin_undoes_pin_threeTokens : ∃ t pinned unpinned,
    (Follows .plain true (Tracked.initial [.fourBlocks]) t ∧
      t.manager.storeBlocksForReuse .plain (threeTokens 1 true) true = .ok (pinned, [0]) ∧
      pinned.unpinBlocksById .plain [0] = .ok unpinned) ∧
    ∃ v : OneWindow, unpinned = v.manager .fourBlocks ∧ ∀ block,
      v.window.refCount block = held v.front v.window block + t.outstanding.count block := by
  obtain ⟨t, reached, keeps, ⟨pinned, _⟩, stored, rfl, keepsToo, unpinned, returned, -⟩ : ∃ t,
      Follows .plain true (Tracked.initial [.fourBlocks]) t ∧
      t.KeepsTrack .plain true (.storeBlocksForReuse (threeTokens 1 true) true) ∧ ∃ stored,
        t.manager.storeBlocksForReuse .plain (threeTokens 1 true) true = .ok stored ∧
        stored.2 = [0] ∧ KeepsTrack .plain true ⟨stored.1, []⟩ (.unpinBlocksById [0]) ∧
        ∃ unpinned, stored.1.unpinBlocksById .plain [0] = .ok unpinned ∧ True :=
    Run.exists_reaches [.addSequence 1 3 1 (some (threeTokens 1 false))] (by decide +kernel)
  have undone :=
    unpin_undoes_pin .plain true .fourBlocks reached _ keeps stored .refl keepsToo returned
  exact ⟨t, pinned, unpinned, ⟨reached, stored, returned⟩, undone⟩

/-- In such a run a block is in a free queue exactly if no live sequence holds it and no pin of it
is outstanding. -/
theorem free_iff_unheld (reached : Follows platform reuse (Tracked.initial [cfg]) t) :
    ∃ v : OneWindow, t.manager = v.manager cfg ∧ ∀ block < cfg.numBlocks,
      (∃ level priority, 0 < v.window.copies block level priority) ↔
        held v.front v.window block = 0 ∧ block ∉ t.outstanding := by
  obtain ⟨v, same, core⟩ := (Inv.initial cfg).reaches reached
  refine ⟨v, same, fun block lt => ?_⟩
  rw [(core.inv.core.queuesExact trivial).queued_iff block lt,
    core.inv.core.queue.refCount_eq block]
  simp [List.count_eq_zero]

theorem free_iff_unheld_pinLive : ∃ t,
    (Follows .plain true (Tracked.initial [.fourBlocks]) t ∧ t.outstanding = [0]) ∧
    ∃ v : OneWindow, t.manager = v.manager .fourBlocks ∧ ∀ block < 4,
      (∃ level priority, 0 < v.window.copies block level priority) ↔
        held v.front v.window block = 0 ∧ block ∉ t.outstanding :=
  (Run.exists_reaches (pinLive.take 3) (by decide +kernel)).imp fun _ checked =>
    ⟨checked, free_iff_unheld checked.1⟩

/-- Only the ids of the last window are returned, and only the first window takes them back: the
other one keeps a block of no sequence pinned. -/
theorem twoWindows_stay_pinned : ∃ t, Follows .plain true (Tracked.initial [.fourBlocks,
      { WindowConfig.fourBlocks with windowSize := 16, maxTokenNum := 16 }]) t ∧
    t.outstanding = [] ∧ t.manager.sequences.lookup 1 = none ∧
    (t.manager.windows.map fun entry => entry.2.refCount 0) = [0, 1] :=
  Run.exists_reaches pinLive (by decide +kernel)

/-- The second of two equal sequences is stored and pinned after the first is removed:
the block it matches is that of the first one, which is free. -/
def pinFree : List Op :=
  [.addSequence 1 3 1 (some (threeTokens 1 false)),
    .addSequence 2 3 1 (some (threeTokens 2 false)),
    .removeSequence 1 (some (threeTokens 1 true)),
    .storeBlocksForReuse (threeTokens 2 true) true]

/-- The pinned block is referenced and still in a free queue. -/
theorem pinFree_block_is_queued : ∃ t, Run.Reaches (Tracked.step .plain true)
      (fun t op => t.ReturnsPins op) (Tracked.initial [.fourBlocks]) t ∧
    (t.manager.windows.any fun (_, window) =>
      window.refCount 0 = 1 && window.copies 0 .primary kDefaultRetentionPriority = 1) = true :=
  Run.exists_reaches pinFree (by decide +kernel)

end Tracked

end TrtLlm
