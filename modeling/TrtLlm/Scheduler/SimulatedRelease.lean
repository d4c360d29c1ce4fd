import TrtLlm.Scheduler.BlockEstimates
import TrtLlm.Scheduler.MaxUtilization

/-! # Simulated and real release

The scheduler tries out the removal of sequences on a copy of the reference counts, which is right
as long as the sequences have references on all blocks they list. A block that a sliding window has
detached stays in the list: the simulated release then takes a reference away that the sequence does
not have, or fails because there is none.
-/

namespace TrtLlm

open WindowBlockManager List

namespace WindowBlockManager

variable {cfg : WindowConfig} {plat : Platform} {s s' s'' : WindowBlockManager}
  {released : List BlockId} {block : BlockId} {scheduling : Scheduling}
  {requestIds : List RequestId}

/-! ## The simulated release -/

/-- Sequences without detached blocks do not list more references than there are. -/
theorem QueueInv.count_allocated_le {front : RequestId → Nat} {owed pins : List BlockId}
    (inv : QueueInv cfg front owed pins s) (nodup : requestIds.Nodup)
    (attached : ∀ rid ∈ requestIds, front rid = 0) (block : BlockId) :
    (requestIds.flatMap s.allocated).count block ≤ s.refCount block := by
  have holders : held front s block ≤ s.refCount block := by
    have counted := inv.refCount_eq block
    omega
  refine le_trans (le_of_eq ?_) (le_trans (AList.sum_lookup_le_total _ nodup s.sequences) holders)
  rw [count_flatMap]
  refine congrArg List.sum (map_congr_left fun rid mem => ?_)
  simp only [Function.comp_apply, allocated]
  cases s.sequences.lookup rid with
  | none => rfl
  | some seq =>
    simp only [Option.map_some, Option.getD_some, Option.elim_some, attached rid mem,
      drop_zero]

theorem Simulates.releaseSequences (simulates : Simulates s released scheduling)
    (live : ∀ rid ∈ requestIds, (s.sequences.lookup rid).isSome)
    (enough : ∀ block, (released ++ requestIds.flatMap s.allocated).count block ≤
      s.refCount block) :
    ∃ next, requestIds.foldlM (fun scheduling rid =>
        s.schedulingReleaseBlocks rid scheduling) scheduling = .ok next ∧
      Simulates s (released ++ requestIds.flatMap s.allocated) next := by
  induction requestIds generalizing released scheduling with
  | nil => exact ⟨scheduling, rfl, by simpa using simulates⟩
  | cons rid rest ih =>
    rw [flatMap_cons, ← append_assoc] at enough ⊢
    obtain ⟨seq, found⟩ := Option.isSome_iff_exists.mp (live rid mem_cons_self)
    have blocks : s.allocated rid = seq.allocatedBlocks := by
      rw [allocated, found]
      rfl
    have here : ∀ block, (released ++ s.allocated rid).count block ≤ s.refCount block := by
      intro block
      have bound := enough block
      rw [count_append] at bound
      omega
    obtain ⟨between, first, simulated, _⟩ := simulates.releaseBlocks
      (fun block mem => listed_of_mem_allocated mem) here
    obtain ⟨next, others, ends⟩ := ih simulated
      (forall_mem_cons.mp live).2 enough
    refine ⟨next, ?_, ends⟩
    rw [foldlM_cons, schedulingReleaseBlocks, sequence?, found]
    dsimp only [bind, Except.bind]
    rw [← blocks, first]
    exact others

/-! ## The real release -/

/-- The window after some references were released. -/
structure Released (s : WindowBlockManager) (released : List BlockId) (s' : WindowBlockManager) :
    Prop where
  refCount : ∀ block, s'.refCount block + released.count block = s.refCount block
  slots : s'.memoryPoolBlockIndex = s.memoryPoolBlockIndex
  numFree : s'.getNumFreeBlocks = s.getNumFreeBlocks + freed s.refCount released

theorem Released.refl (s : WindowBlockManager) : Released s [] s where
  refCount _ := rfl
  slots := rfl
  numFree := (Int.add_zero _).symm

theorem Released.perm {other : List BlockId} (done : Released s released s')
    (perm : released.Perm other) : Released s other s' := by
  have cnt : ∀ block, released.count block = other.count block := fun block => perm.count_eq block
  refine ⟨fun block => cnt block ▸ done.refCount block, done.slots, ?_⟩
  have same : freed s.refCount released = freed s.refCount other := by
    unfold freed
    rw [toFinset_eq_of_perm _ _ perm]
    simp only [cnt]
  rw [← same]
  exact done.numFree

/-- The parts of the window that the release of references reads and changes are the same. -/
theorem Released.of_same (done : Released s released s') (cnt : s''.refCount = s'.refCount)
    (slots : s''.memoryPoolBlockIndex = s'.memoryPoolBlockIndex)
    (numFree : s''.numFreeBlocksPerLevel = s'.numFreeBlocksPerLevel) : Released s released s'' where
  refCount block := by
    rw [cnt]
    exact done.refCount block
  slots := slots.trans done.slots
  numFree := by
    unfold getNumFreeBlocks at *
    rw [numFree]
    exact done.numFree

/-- A reference on a primary block is released. -/
theorem Released.releaseReference (done : Released s released s')
    (primary : s.isPrimary block = true) (more : released.count block < s.refCount block) :
    Released s (released ++ [block]) (WindowBlockManager.releaseReference plat s' block) := by
  have here := done.refCount block
  have level : s'.getCacheLevel block = .primary := by
    unfold getCacheLevel isPrimary at *
    rw [done.slots, primary]
    rfl
  have cnt : ∀ other, (WindowBlockManager.releaseReference plat s' block).refCount other =
      if other = block then s'.refCount block - 1 else s'.refCount other := by
    intro other
    rw [releaseReference_eq (by omega)]
    split <;> exact Function.update_apply _ _ _ _
  rw [releaseReference_eq (by omega)] at cnt ⊢
  refine ⟨fun other => ?_, ?_, ?_⟩
  · rw [cnt, count_append, count_singleton]
    have before := done.refCount other
    by_cases same : other = block
    · subst same
      simp only [beq_self_eq_true, ↓reduceIte]
      omega
    · simp only [same, beq_eq_false_iff_ne.mpr (Ne.symm same), Bool.false_eq_true, ↓reduceIte]
      exact before
  · split <;> exact done.slots
  · have numFree := done.numFree
    rw [freed_append more]
    unfold getNumFreeBlocks at *
    have last : s'.refCount block - 1 = 0 ↔ released.count block + 1 = s.refCount block := by omega
    by_cases ends : released.count block + 1 = s.refCount block
    · rw [if_pos (last.mpr ends), if_pos ends]
      change Function.update s'.numFreeBlocksPerLevel (s'.getCacheLevel block)
        (s'.numFreeBlocksPerLevel (s'.getCacheLevel block) + 1) .primary = _
      rw [level, Function.update_self]
      omega
    · rw [if_neg (last.not.mpr ends), if_neg ends]
      exact numFree

theorem Released.releaseReferences {blocks : List BlockId} (done : Released s released s')
    (primary : ∀ block ∈ blocks, s.isPrimary block = true)
    (enough : ∀ block, (released ++ blocks).count block ≤ s.refCount block) :
    Released s (released ++ blocks)
        (blocks.foldl (WindowBlockManager.releaseReference plat) s') := by
  induction blocks generalizing released s' with
  | nil => rwa [append_nil]
  | cons block rest ih =>
    have more : released.count block < s.refCount block := by
      have bound := enough block
      rw [count_append, count_cons_self] at bound
      omega
    rw [append_cons]
    exact ih (done.releaseReference (primary block mem_cons_self) more)
      (forall_mem_cons.mp primary).2
      (by simpa using enough)

/-- A sequence without detached blocks gives up its references. -/
theorem Released.releaseBlocks {seq : GenerationRequest} {req : Option LlmRequest}
    {sq : SequenceBlocks} (done : Released s released s')
    (found : s'.sequences.lookup seq.requestId = some sq) (attached : seq.numFrontBlocksRemoved = 0)
    (primary : ∀ block ∈ sq.allocatedBlocks, s.isPrimary block = true)
    (enough : ∀ block, (released ++ sq.allocatedBlocks).count block ≤ s.refCount block)
    (removed : s'.releaseBlocks cfg plat seq req = .ok s'') :
    Released s (released ++ sq.allocatedBlocks) s'' ∧
      s''.sequences = s'.sequences.erase seq.requestId := by
  obtain ⟨sequence', stored, found', storing, rfl⟩ := releaseBlocks_ok removed
  obtain rfl := Option.some.inj (found.symm.trans found')
  rw [attached, drop_zero]
  have reversed : (released ++ sq.allocatedBlocks.reverse).Perm (released ++ sq.allocatedBlocks) :=
    (reverse_perm _).append_left released
  have kept : Released s released stored ∧ stored.sequences = s'.sequences.erase seq.requestId := by
    rcases storeReleased_ok storing with rfl | ⟨_, blockKeys, _, _, _, rfl⟩
    · exact ⟨done.of_same rfl rfl rfl, rfl⟩
    · obtain ⟨cnt, slots, numFree⟩ := storeBlocks_counters cfg plat
        { s' with sequences := s'.sequences.erase seq.requestId } blockKeys sq.allocatedBlocks
      exact ⟨done.of_same cnt slots numFree, storeBlocks_sequences⟩
  refine ⟨(kept.1.releaseReferences ?_ ?_).perm reversed,
    (releaseReferences_sequences _ _).trans kept.2⟩
  · exact fun block mem => primary block (mem_reverse.mp mem)
  · exact fun block => (reversed.count_eq block).trans_le (enough block)

end WindowBlockManager

/-! ## Removing sequences -/

namespace OneWindow

variable {cfg : WindowConfig} {plat : Platform} {reuse : Bool}
  {v v' v'' : OneWindow} {requestIds : List RequestId} {m : KVCacheManager}

/-- The sequence has references on all blocks it lists, and they are in primary memory. -/
def Attached (v : OneWindow) (requestId : RequestId) : Prop :=
  v.front requestId = 0 ∧ ∀ block ∈ v.window.allocated requestId, v.window.isPrimary block = true

/-- Some sequences were removed, and the others are as they were. -/
structure Removed (v : OneWindow) (requestIds : List RequestId) (v' : OneWindow) : Prop where
  released : Released v.window (requestIds.flatMap v.window.allocated) v'.window
  kept : ∀ requestId ∉ requestIds, v'.sequences.lookup requestId = v.sequences.lookup requestId ∧
    v'.window.sequences.lookup requestId = v.window.sequences.lookup requestId

theorem Removed.refl (v : OneWindow) : Removed v [] v :=
  ⟨.refl _, fun _ _ => ⟨rfl, rfl⟩⟩

theorem unhold_counters (managed : RequestId → Bool) (w : WindowBlockManager) (rid : RequestId) :
    (unhold managed w rid).refCount = w.refCount ∧
      (unhold managed w rid).memoryPoolBlockIndex = w.memoryPoolBlockIndex ∧
      (unhold managed w rid).numFreeBlocksPerLevel = w.numFreeBlocksPerLevel ∧
      (unhold managed w rid).sequences = w.sequences := by
  unfold unhold
  split <;> exact ⟨rfl, rfl, rfl, rfl⟩

/-- One more sequence is removed. -/
theorem Removed.removeSequence {rid : RequestId} {req : Option LlmRequest}
    (removed : Removed v requestIds v') (fresh : rid ∉ requestIds)
    (ids : ∀ {rid seq}, v.sequences.lookup rid = some seq → seq.requestId = rid)
    (live : (v.sequences.lookup rid).isSome) (attached : v.Attached rid)
    (enough : ∀ block, ((requestIds ++ [rid]).flatMap v.window.allocated).count block ≤
      v.window.refCount block)
    (removing : (v'.manager cfg).removeSequence plat reuse rid req = .ok m) :
    ∃ v'', m = v''.manager cfg ∧ Removed v (requestIds ++ [rid]) v'' := by
  obtain ⟨seq, found⟩ := Option.isSome_iff_exists.mp live
  obtain ⟨sameSeq, sameRecord⟩ := removed.kept rid fresh
  obtain ⟨v'', rfl, step⟩ := removeSequence_step removing
  refine ⟨v'', rfl, ?_⟩
  cases step with
  | storeNothing stores => rcases stores with ⟨_, same⟩ | ⟨_, same⟩ <;> cases same
  | removeUnknown absent =>
    rw [sameSeq, found] at absent
    cases absent
  | @remove _ _ seq' valid w found' checked releasing =>
    rw [sameSeq, found] at found'
    obtain rfl := Option.some.inj found'
    have id := ids found
    obtain ⟨sq, stored, recorded, _, _⟩ := releaseBlocks_ok releasing
    have blocks : v.window.allocated rid = sq.allocatedBlocks := by
      rw [allocated, ← sameRecord, ← id, recorded]
      rfl
    rw [flatMap_append, flatMap_singleton, blocks] at enough
    obtain ⟨done, erased⟩ := removed.released.releaseBlocks recorded
      ((front_eq found).symm.trans attached.1) (blocks ▸ attached.2) enough releasing
    obtain ⟨cnt, slots, numFree, seqs⟩ := unhold_counters v'.managed w rid
    constructor
    · rw [flatMap_append, flatMap_singleton, blocks]
      exact done.of_same cnt slots numFree
    · intro other absent
      rw [mem_append, mem_singleton, not_or] at absent
      obtain ⟨keptSeq, keptRecord⟩ := removed.kept other absent.1
      rw [seqs, erased, id, AList.lookup_erase_ne absent.2, AList.lookup_erase_ne absent.2]
      exact ⟨keptSeq, keptRecord⟩

theorem Removed.removeSequences {order : List RequestId} {requests : RequestId → Option LlmRequest}
    (removed : Removed v requestIds v') (nodup : (requestIds ++ order).Nodup)
    (ids : ∀ {rid seq}, v.sequences.lookup rid = some seq → seq.requestId = rid)
    (live : ∀ rid ∈ order, (v.sequences.lookup rid).isSome)
    (attached : ∀ rid ∈ order, v.Attached rid)
    (enough : ∀ block, ((requestIds ++ order).flatMap v.window.allocated).count block ≤
      v.window.refCount block)
    (removing : order.foldlM (fun m rid =>
      KVCacheManager.removeSequence plat reuse m rid (requests rid)) (v'.manager cfg) = .ok m) :
    ∃ v'', m = v''.manager cfg ∧ Removed v (requestIds ++ order) v'' := by
  induction order generalizing requestIds v' with
  | nil =>
    cases removing
    exact ⟨v', rfl, by rwa [append_nil]⟩
  | cons rid rest ih =>
    rw [append_cons] at nodup enough ⊢
    simp only [foldlM_cons, Except.bind_eq_ok] at removing
    obtain ⟨next, first, others⟩ := removing
    have fresh : rid ∉ requestIds := by
      intro mem
      have both := (nodup_append'.mp nodup).1
      exact (nodup_append'.mp both).2.2 mem mem_cons_self
    obtain ⟨between, rfl, here⟩ := removed.removeSequence fresh ids
      (live rid mem_cons_self) (attached rid mem_cons_self)
      (fun block => by
        have bound := enough block
        rw [flatMap_append, count_append] at bound
        omega) first
    exact ih here nodup (forall_mem_cons.mp live).2
      (forall_mem_cons.mp attached).2 enough others

theorem CoreInv.count_allocated_le {mode : Mode cfg} {owed : List BlockId}
    (core : v.CoreInv cfg mode owed []) (distinct : requestIds.Nodup)
    (attached : ∀ rid ∈ requestIds, v.Attached rid) (block : BlockId) :
    (requestIds.flatMap v.window.allocated).count block ≤ v.window.refCount block :=
  core.inv.core.queue.count_allocated_le distinct (fun rid mem => (attached rid mem).1) block

/-- The blocks that become free are those whose references are all released. -/
theorem CoreInv.numFree_removed {mode : Mode cfg} {owed : List BlockId} {order : List RequestId}
    {requests : RequestId → Option LlmRequest}
    (core : v.CoreInv cfg mode owed []) (distinct : requestIds.Nodup)
    (live : ∀ rid ∈ requestIds, (v.sequences.lookup rid).isSome)
    (attached : ∀ rid ∈ requestIds, v.Attached rid) (perm : order.Perm requestIds)
    (removing : order.foldlM (fun m rid =>
      KVCacheManager.removeSequence plat reuse m rid (requests rid)) (v.manager cfg) = .ok m) :
    m.getNumFreeBlocks = v.window.getNumFreeBlocks +
      freed v.window.refCount (requestIds.flatMap v.window.allocated) := by
  have sameBlocks := perm.flatMap_right v.window.allocated
  have enough := core.count_allocated_le distinct attached
  obtain ⟨v', rfl, done⟩ := (Removed.refl v).removeSequences (perm.nodup_iff.mpr distinct)
    core.ids (fun rid mem => live _ (perm.mem_iff.mp mem))
    (fun rid mem => attached _ (perm.mem_iff.mp mem))
    (fun block => (sameBlocks.count_eq block).trans_le (enough block)) removing
  rw [← (done.released.perm sameBlocks).numFree]
  simp [KVCacheManager.getNumFreeBlocks, manager]

/-- What the scheduler of maximum utilization counts for the requests it pauses is what removing
their sequences frees. -/
theorem CoreInv.freedBlocks_removed {mode : Mode cfg} {owed : List BlockId}
    {paused : List LlmRequest} {requests : RequestId → Option LlmRequest}
    (core : v.CoreInv cfg mode owed []) (distinct : (paused.map LlmRequest.requestId).Nodup)
    (live : ∀ req ∈ paused, (v.sequences.lookup req.requestId).isSome)
    (attached : ∀ req ∈ paused, v.Attached req.requestId)
    (removing : (paused.map LlmRequest.requestId).foldlM (fun m rid =>
      KVCacheManager.removeSequence plat reuse m rid (requests rid)) (v.manager cfg) = .ok m) :
    m.getNumFreeBlocks = v.window.getNumFreeBlocks + v.window.freedBlocks paused := by
  have freedAll := core.numFree_removed distinct (forall_mem_map.mpr live)
    (forall_mem_map.mpr attached) (.refl _) removing
  rwa [flatMap_map] at freedAll

end OneWindow

namespace Tracked

variable {plat : Platform} {reuse : Bool} {cfg : WindowConfig} {t : Tracked}

/-- The sequence has not slid, and its blocks are in primary memory. -/
def attached (m : KVCacheManager) (requestId : RequestId) : Bool :=
  m.notSlid requestId && m.windows.all fun entry =>
    (entry.2.allocated requestId).all entry.2.isPrimary

theorem attached_oneWindow {v : OneWindow} {rid : RequestId}
    (isAttached : attached (v.manager cfg) rid = true)
    (live : (v.sequences.lookup rid).isSome) : v.Attached rid := by
  obtain ⟨unslid, primary⟩ := Bool.and_eq_true_iff.mp isAttached
  obtain ⟨seq, found⟩ := Option.isSome_iff_exists.mp live
  refine ⟨(OneWindow.front_eq found).trans ((KVCacheManager.notSlid_iff found).mp unslid), ?_⟩
  simpa only [OneWindow.manager, all_cons, all_nil, Bool.and_true,
    all_eq_true] using primary

/-- In every state of a run of one window that returns only its pins and keeps track of the free
blocks, for every order of sequences that have references on all their blocks, in primary memory:
the simulated release fails no check, and counts the free blocks that there are after the sequences
are removed, in any order and with any blocks stored. -/
theorem simulated_release_exact (platform : Platform) (enableBlockReuse : Bool)
    (config : WindowConfig)
    (reached : Run.Reaches (Tracked.step platform enableBlockReuse)
      (fun t op => t.ReturnsPins op ∧ t.KeepsTrack platform enableBlockReuse op)
      (Tracked.initial [config]) t)
    (requestIds : List RequestId) (distinct : requestIds.Nodup)
    (live : ∀ requestId ∈ requestIds, (t.manager.sequences.lookup requestId).isSome)
    (areAttached : ∀ requestId ∈ requestIds, attached t.manager requestId = true)
    (left : BlockId → Nat) :
    ∃ window scheduling, t.manager.windows = [(config, window)] ∧
      requestIds.foldlM (fun scheduling requestId =>
        window.schedulingReleaseBlocks requestId scheduling) (window.startScheduling left) =
          .ok scheduling ∧
      ∀ (order : List RequestId) (requests : RequestId → Option LlmRequest) removed,
        order.Perm requestIds →
        order.foldlM (fun m requestId => KVCacheManager.removeSequence platform enableBlockReuse m
          requestId (requests requestId)) t.manager = .ok removed →
        removed.getNumFreeBlocks = scheduling.numFreeBlocks := by
  obtain ⟨v, same, core⟩ := (Inv.initial config).reaches reached
  rw [same] at live areAttached ⊢
  have attachedAll : ∀ requestId ∈ requestIds, v.Attached requestId :=
    fun requestId member => attached_oneWindow (areAttached _ member) (live _ member)
  obtain ⟨scheduling, simulated, simulates⟩ := (Simulates.start left).releaseSequences
    (fun requestId member => core.inv.recorded requestId (live _ member))
    (core.count_allocated_le distinct attachedAll)
  refine ⟨v.window, scheduling, rfl, simulated, fun order requests removed perm removing => ?_⟩
  have counted := core.numFree_removed distinct live attachedAll perm removing
  rw [counted, simulates.numFreeBlocks, nil_append, getNumFreeBlocks]

/-- The second of two equal prompts shares the first block. -/
def shareBlock : List KVCacheManager.Op :=
  [.addSequence 1 4 1 (some (fourTokens 1 .contextInit)),
    .storeContextBlocks (fourTokens 1 .generationInProgress),
    .addSequence 2 4 1 (some (fourTokens 2 .contextInit))]

theorem simulated_release_exact_shareBlock : ∃ t,
    (Run.Reaches (Tracked.step .plain true)
      (fun t op => t.ReturnsPins op ∧ t.KeepsTrack .plain true op) (Tracked.initial [.fourBlocks])
      t ∧ ∀ requestId ∈ [2, 1], (t.manager.sequences.lookup requestId).isSome ∧
        attached t.manager requestId = true) ∧
    ∃ window scheduling, t.manager.windows = [(.fourBlocks, window)] ∧
      [2, 1].foldlM (fun scheduling requestId =>
        window.schedulingReleaseBlocks requestId scheduling) (window.startScheduling fun _ => 0) =
          .ok scheduling ∧
      ∀ (order : List RequestId) (requests : RequestId → Option LlmRequest) removed,
        order.Perm [2, 1] →
        order.foldlM (fun m requestId => KVCacheManager.removeSequence .plain true m requestId
          (requests requestId)) t.manager = .ok removed →
        removed.getNumFreeBlocks = scheduling.numFreeBlocks := by
  refine Exists.imp (fun t checked => ⟨checked, ?_⟩)
    (Run.exists_reaches shareBlock (by decide +kernel))
  exact simulated_release_exact .plain true .fourBlocks checked.1 [2, 1] (by decide)
    (fun _ member => (checked.2 _ member).1) (fun _ member => (checked.2 _ member).2) _

/-- A sliding window of one block. -/
def oneBlockWindow : WindowConfig where
  windowSize := 2
  numPrimaryBlocks := 4
  numSecondaryBlocks := 0
  tokensPerBlock := 2
  isSWA := true
  maxTokenNum := 8
  maxBlocksPerSeq := 4

/-- With the fourth token the first block is detached. The simulated release of the sequence fails
its check on it, while the sequence can be removed and four blocks are free then. -/
theorem detached_block_fails_check : ∃ t,
    Run.Reaches (Tracked.step .plain false)
      (fun t op => t.ReturnsPins op ∧ t.KeepsTrack .plain false op)
      (Tracked.initial [oneBlockWindow]) t ∧
    (t.manager.sequences.lookup 1).isSome = true ∧
    (t.manager.windows.map fun entry =>
      (entry.2.schedulingReleaseBlocks 1 (entry.2.startScheduling fun _ => 0)).toBool) = [false] ∧
    (t.manager.removeSequence .plain false 1 none).passes
      (fun removed => decide (removed.getNumFreeBlocks = 4)) = true :=
  Run.exists_reaches [.addSequence 1 2 1 none, .addToken 1, .addToken 1] (by decide +kernel)

end Tracked

end TrtLlm
