import TrtLlm.KvCache.CoreOperations

/-! # Storing, pinning and releasing blocks

Storing changes the tree only. A reference that is given up is first owed and then
dropped, whether a sequence ends, loses its last block, detaches a front block or an
unpinned block returns its pin.
-/

namespace TrtLlm.WindowBlockManager

open List

open Function (update update_self update_of_ne update_eq_self)

variable {cfg : WindowConfig} {plat : Platform} {mode : Mode cfg}
  {front : RequestId → Nat} {live : RequestId → Prop} {seq : GenerationRequest}
  {owed pins hand : List BlockId} {s s' : WindowBlockManager} {block : BlockId} {st : StoreState}
  {pins' owed' : List BlockId}

/-! ## Storing -/

theorem Core.insertBlock (core : Core cfg mode front owed pins hand s) {root : Node}
    {key : BlockKey} (bounded : block < cfg.numBlocks) :
    Core cfg mode front owed pins hand (insertBlock cfg s root key block) := by
  refine core.congr (by constructor <;> rfl) fun mem => ?_
  rcases mem_children_insertBlock mem with before | ⟨_, rfl⟩
  · exact core.children_lt before
  · exact bounded

theorem Core.storeOrMatch (core : Core cfg mode front owed pins hand st.manager) (plat : Platform)
    (key : BlockKey) (bounded : block < cfg.numBlocks) : Core cfg mode front owed pins hand
      (storeOrMatch cfg plat st key block).manager := by
  rcases storeOrMatch_cases cfg plat st key block with
    ⟨_, _, _, same⟩ | ⟨_, same⟩
  · rw [same]
    exact core
  · rw [same]
    exact core.insertBlock bounded

/-- The block at which a round ends is one of the manager. -/
theorem Core.searchRoot_lt {root : BlockId} (core : Core cfg mode front owed pins hand st.manager)
    (plat : Platform) (key : BlockKey) (bounded : block < cfg.numBlocks)
    (ends : (WindowBlockManager.storeOrMatch cfg plat st key block).searchRoot = .block root) :
    root < cfg.numBlocks := by
  rcases storeOrMatch_cases cfg plat st key block with
    ⟨child, _, mem, same⟩ | ⟨_, same⟩
  · rw [same] at ends
    cases ends
    exact core.children_lt mem
  · rw [same] at ends
    cases ends
    exact bounded

/-- Without pins a referenced block is in no queue. -/
theorem QueueInv.unqueued_of_referenced (inv : QueueInv cfg front owed [] s)
    (referenced : 0 < s.refCount block) : s.freeBlockIterators block = none := by
  cases queued : s.freeBlockIterators block with
  | none => rfl
  | some handle =>
    obtain ⟨unheld, unowed⟩ := inv.free_unheld queued
    have counted := inv.refCount_eq block
    rw [unheld, count_eq_zero_of_not_mem unowed, count_nil] at counted
    omega

theorem Core.permPins (core : Core cfg mode front owed pins hand s) (perm : pins.Perm pins') :
    Core cfg mode front owed pins' hand s := by
  refine ⟨⟨core.queue.toQueueShape, core.queue.free_unheld, fun block => ?_, core.queue.owed_lt,
    core.queue.listed_lt, core.queue.front_le⟩, core.exact, core.slots, core.primary,
    core.unqueued, core.children_lt⟩
  rw [← perm.count_eq block]
  exact core.queue.refCount_eq block

theorem Core.permOwed (core : Core cfg mode front owed pins hand s) (perm : owed.Perm owed') :
    Core cfg mode front owed' pins hand s :=
  ⟨core.queue.perm perm, core.exact, core.slots, core.primary, core.unqueued, core.children_lt⟩

/-- One more reference, however it is accounted for. -/
theorem Core.incRefCount (core : Core cfg mode front owed pins hand s)
    (inv : QueueInv cfg front owed' pins' (s.incRefCount block)) :
    Core cfg mode front owed' pins' hand (s.incRefCount block) := by
  refine ⟨inv, fun strict => ⟨(core.exact strict).located, (core.exact strict).counter, ?_⟩,
    core.slots, core.primary, core.unqueued, core.children_lt⟩
  intro other bounded unreferenced
  change update s.refCount block (s.refCount block + 1) other = 0 at unreferenced
  have ne : other ≠ block := by
    rintro rfl
    rw [update_self] at unreferenced
    omega
  rw [update_of_ne ne] at unreferenced
  exact (core.exact strict).queued_of_unreferenced bounded unreferenced

variable {pairs : List (BlockKey × BlockId)} {pinBlocks : Bool} {blockIds : List BlockId}
  {seq' : GenerationRequest} {blockKeys : List BlockKey} {toFront : Bool} {rid : RequestId}
  {change : SequenceBlocks → SequenceBlocks}

/-- Storing keeps the invariant, with the pinned blocks counted as pins. -/
theorem Core.storeLoop (st : StoreState)
    (core : Core cfg mode front owed (st.pinnedBlockIds ++ pins) hand st.manager) :
    Core cfg mode front owed ((storeLoop cfg plat pinBlocks pairs st).pinnedBlockIds ++ pins) hand
      (storeLoop cfg plat pinBlocks pairs st).manager := by
  refine storeLoop_invariant (fun st => Core cfg mode front owed
    (st.pinnedBlockIds ++ pins) hand st.manager) ?_ core
  intro st key block _ bounded core
  have stored := core.storeOrMatch plat key bounded
  rw [← storeOrMatch_pinned cfg plat st key block] at stored
  generalize WindowBlockManager.storeOrMatch cfg plat st key block = after at stored
  rcases pinRoot_cases pinBlocks after with same | ⟨pinned, _, _, same⟩
  · rw [same]
    exact stored
  · rw [same]
    have marked : Core cfg mode front owed (after.pinnedBlockIds ++ pins) hand
        (after.manager.recordIf (!after.manager.hasRefs pinned) (.pinnedFree pinned)) :=
      stored.frame (by constructor <;> rfl) rfl
    have counted := marked.incRefCount (marked.queue.pin pinned)
    refine counted.permPins ?_
    simp only [append_assoc, singleton_append]
    exact perm_middle.symm

/-- The pinning loop keeps the invariant with the pins as owed references, if it pins
no free block. -/
theorem Core.storeLoop_owed (st : StoreState)
    (core : Core cfg mode front (st.pinnedBlockIds ++ owed) [] [] st.manager)
    (clean : ∀ block, .pinnedFree block ∉
      (WindowBlockManager.storeLoop cfg plat pinBlocks pairs st).manager.history) :
    Core cfg mode front
      ((WindowBlockManager.storeLoop cfg plat pinBlocks pairs st).pinnedBlockIds ++ owed)
      [] [] (WindowBlockManager.storeLoop cfg plat pinBlocks pairs st).manager := by
  revert clean
  -- The history only grows, so a clean end means that every round was clean.
  refine storeLoop_invariant (fun st => (∀ block, .pinnedFree block ∉ st.manager.history) →
    Core cfg mode front (st.pinnedBlockIds ++ owed) [] [] st.manager) ?_ fun _ => core
  intro st key block _ bounded before clean
  have core := before fun pinned mem => clean pinned
    (history_pinRoot pinBlocks _ (history_storeOrMatch cfg plat st key block mem))
  have stored := core.storeOrMatch plat key bounded
  have within : ∀ root, (WindowBlockManager.storeOrMatch cfg plat st key
      block).searchRoot = .block root → root < cfg.numBlocks :=
    fun root => core.searchRoot_lt plat key bounded
  rw [← storeOrMatch_pinned cfg plat st key block] at stored
  generalize WindowBlockManager.storeOrMatch cfg plat st key block = after at stored clean within
  rcases pinRoot_cases pinBlocks after with same | ⟨pinned, _, ends, same⟩
  · rw [same]
    exact stored
  · rw [same] at clean ⊢
    have referenced : 0 < after.manager.refCount pinned := by
      by_contra unreferenced
      have free : after.manager.hasRefs pinned = false := by simpa [hasRefs] using unreferenced
      refine clean pinned ?_
      change Branch.pinnedFree pinned ∈ if !after.manager.hasRefs pinned then _ else _
      rw [free]
      simp
    have marked : Core cfg mode front (after.pinnedBlockIds ++ owed) [] []
        (after.manager.recordIf (!after.manager.hasRefs pinned) (.pinnedFree pinned)) :=
      stored.frame (by constructor <;> rfl) rfl
    have counted := marked.incRefCount
      (marked.queue.pinOwed (within pinned ends) (stored.queue.unqueued_of_referenced referenced))
    refine counted.permOwed ?_
    simp only [append_assoc, singleton_append]
    exact perm_middle.symm

theorem enqueueStoredEvent_eq (s : WindowBlockManager) (blocks : List BlockId) :
    s.enqueueStoredEvent cfg blocks =
      { s with eventQueue := (s.enqueueStoredEvent cfg blocks).eventQueue } := by
  cases blocks with
  | nil => rfl
  | cons block rest => rfl

theorem Core.enqueueStoredEvent (core : Core cfg mode front owed pins hand s)
    (blocks : List BlockId) :
    Core cfg mode front owed pins hand (s.enqueueStoredEvent cfg blocks) := by
  rw [enqueueStoredEvent_eq]
  exact core.frame (by constructor <;> rfl) rfl

theorem storeLoop_sequences (state : StoreState) :
    (storeLoop cfg plat pinBlocks pairs state).manager.sequences = state.manager.sequences := by
  refine storeLoop_invariant (fun after => after.manager.sequences = state.manager.sequences) ?_ rfl
  intro after key block _ _ same
  rw [← same]
  have stored : (storeOrMatch cfg plat after key block).manager.sequences =
      after.manager.sequences := by
    rcases storeOrMatch_cases cfg plat after key block with
      ⟨_, _, _, same⟩ | ⟨_, same⟩ <;> rw [same]
    rfl
  rcases pinRoot_cases pinBlocks (storeOrMatch cfg plat after key block) with
    same | ⟨_, _, _, same⟩
  · rw [same, stored]
  · rw [same]
    exact stored

theorem storeBlocks_sequences :
    (storeBlocks cfg plat s blockKeys blockIds pinBlocks).2.sequences = s.sequences := by
  unfold storeBlocks
  dsimp only
  rw [enqueueStoredEvent_eq]
  exact storeLoop_sequences _

/-- Storing with the pins counted apart. -/
theorem WindowInv.storeBlocks (inv : WindowInv cfg mode front owed pins live s)
    (plat : Platform) (blockKeys : List BlockKey) (blockIds : List BlockId) (pinBlocks : Bool) :
    WindowInv cfg mode front owed
      ((storeBlocks cfg plat s blockKeys blockIds pinBlocks).1 ++ pins) live
      (WindowBlockManager.storeBlocks cfg plat s blockKeys blockIds pinBlocks).2 := by
  refine ⟨?_, inv.recorded_of_same storeBlocks_sequences⟩
  exact (Core.storeLoop { manager := s } inv.core).enqueueStoredEvent _

/-- Storing without pinning. -/
theorem WindowInv.storeBlocks_unpinned (inv : WindowInv cfg mode front owed pins live s)
    (plat : Platform) (blockKeys : List BlockKey) (blockIds : List BlockId) :
    WindowInv cfg mode front owed pins live
      (WindowBlockManager.storeBlocks cfg plat s blockKeys blockIds false).2 := by
  have stored := inv.storeBlocks plat blockKeys blockIds false
  have unpinned : (WindowBlockManager.storeBlocks cfg plat s blockKeys blockIds false).1 =
    [] := storeLoop_unpinned rfl
  rwa [unpinned] at stored

/-- Storing with the pins owed. -/
theorem WindowInv.storeBlocks_owed (inv : WindowInv cfg mode front owed [] live s)
    (clean : ∀ block, .pinnedFree block ∉
      (WindowBlockManager.storeBlocks cfg plat s blockKeys blockIds pinBlocks).2.history) :
    WindowInv cfg mode front
      ((WindowBlockManager.storeBlocks cfg plat s blockKeys blockIds pinBlocks).1 ++ owed) [] live
      (WindowBlockManager.storeBlocks cfg plat s blockKeys blockIds pinBlocks).2 := by
  refine ⟨?_, inv.recorded_of_same storeBlocks_sequences⟩
  refine Core.enqueueStoredEvent (Core.storeLoop_owed { manager := s } inv.core ?_) _
  unfold WindowBlockManager.storeBlocks at clean
  dsimp only at clean
  rw [enqueueStoredEvent_eq] at clean
  exact clean

/-! ## Dropping references -/

theorem ExactInv.decRefCount (exact : ExactInv cfg hand s) (block : BlockId) :
    ExactInv cfg (block :: hand) (s.decRefCount block) := by
  refine ⟨exact.located, exact.counter, fun {other} bounded unreferenced absent => ?_⟩
  simp only [mem_cons, not_or] at absent
  change update s.refCount block (s.refCount block - 1) other = 0 at unreferenced
  rw [update_of_ne absent.1] at unreferenced
  exact exact.queued_of_unreferenced bounded unreferenced absent.2

/-- A reference that is owed is dropped. -/
theorem Core.dropOwed (core : Core cfg mode front (block :: owed) pins [] s) (toFront : Bool) :
    Core cfg mode front owed pins []
      (if s.refCount block - 1 = 0 then (s.decRefCount block).releaseBlock plat block toFront
        else s.decRefCount block) := by
  have dropped : QueueInv cfg front owed pins (if s.refCount block - 1 = 0 then
      (s.decRefCount block).releaseBlock plat block toFront else s.decRefCount block) :=
    core.queue.dropOwed toFront
  split
  · rename_i last
    rw [if_pos last] at dropped
    exact ⟨dropped, fun strict => ((core.exact strict).decRefCount block).releaseBlock toFront,
      core.slots, core.primary, fun _ mem => absurd mem not_mem_nil, core.children_lt⟩
  · rename_i more
    rw [if_neg more] at dropped
    refine ⟨dropped, fun strict => ((core.exact strict).decRefCount block).mono ?_, core.slots,
      core.primary, core.unqueued, core.children_lt⟩
    intro other mem
    rw [mem_singleton] at mem
    refine .inr ?_
    subst mem
    change 0 < update s.refCount other (s.refCount other - 1) other
    rw [update_self]
    exact Nat.pos_of_ne_zero more

theorem Core.dropReference (core : Core cfg mode front (block :: owed) pins [] s)
    (dropped : dropReference plat s block toFront = .ok s') :
    Core cfg mode front owed pins [] s' := by
  obtain ⟨_, rfl⟩ := dropReference_ok dropped
  exact core.dropOwed toFront

theorem dropReference_sequences (dropped : dropReference plat s block toFront = .ok s') :
    s'.sequences = s.sequences := by
  obtain ⟨_, rfl⟩ := dropReference_ok dropped
  split <;> rfl

/-- The releasing loop drops what is owed. -/
theorem Core.releaseReferences {blocks : List BlockId}
    (core : Core cfg mode front (blocks ++ owed) pins [] s) :
    Core cfg mode front owed pins [] (blocks.foldl (releaseReference plat) s) := by
  induction blocks generalizing s with
  | nil => exact core
  | cons block rest ih =>
    refine ih ?_
    rw [releaseReference_eq (core.queue.referenced_of_owed mem_cons_self)]
    exact core.dropOwed false

theorem releaseReferences_sequences (blocks : List BlockId) (s : WindowBlockManager) :
    (blocks.foldl (releaseReference plat) s).sequences = s.sequences := by
  refine foldl_invariant (fun st : WindowBlockManager => st.sequences = s.sequences) ?_ rfl
  intro st block _ same
  rw [← same]
  unfold releaseReference
  dsimp only
  split
  · split <;> rfl
  · rfl

/-- A sequence that ends is released block by block. -/
theorem WindowInv.releaseBlocks (inv : WindowInv cfg mode front owed pins live s)
    {req : Option LlmRequest} (removed : seq.numFrontBlocksRemoved = front seq.requestId)
    (released : s.releaseBlocks cfg plat seq req = .ok s') :
    WindowInv cfg mode front owed pins (fun r => live r ∧ r ≠ seq.requestId) s' := by
  obtain ⟨sq, stored, found, storing, rfl⟩ := releaseBlocks_ok released
  have erased : WindowInv cfg mode front
      (sq.allocatedBlocks.drop (front seq.requestId) ++ owed) pins
      (fun r => live r ∧ r ≠ seq.requestId)
      { s with sequences := s.sequences.erase seq.requestId } := by
    refine ⟨inv.core.reassign (inv.core.queue.eraseSequence found) fun block => ?_, ?_⟩
    · rw [count_append]
      exact Nat.le_add_left _ _
    · rintro other ⟨alive, ne⟩
      rw [AList.lookup_erase_ne ne]
      exact inv.recorded other alive
  have kept : WindowInv cfg mode front (sq.allocatedBlocks.drop (front seq.requestId) ++ owed) pins
      (fun r => live r ∧ r ≠ seq.requestId) stored := by
    rcases storeReleased_ok storing with rfl | ⟨_, _, _, _, _, rfl⟩
    · exact erased
    · exact erased.storeBlocks_unpinned plat _ _
  rw [removed]
  refine ⟨(kept.core.permOwed ?_).releaseReferences, kept.recorded_of_same
    (releaseReferences_sequences _ _)⟩
  exact (reverse_perm _).symm.append_right owed

/-! ## Shrinking and growing -/

/-- Dropping a reference and changing the record of a sequence do not interfere. -/
theorem modifySequence_drop (rid : RequestId) (toFront : Bool)
    (change : SequenceBlocks → SequenceBlocks) :
    (if s.refCount block - 1 = 0 then (s.decRefCount block).releaseBlock plat block toFront
        else s.decRefCount block).modifySequence rid change =
      if (s.modifySequence rid change).refCount block - 1 = 0 then
        ((s.modifySequence rid change).decRefCount block).releaseBlock plat block toFront
      else (s.modifySequence rid change).decRefCount block := by
  by_cases last : s.refCount block - 1 = 0
  · rw [if_pos last, if_pos (show (s.modifySequence rid change).refCount block - 1 = 0 from last)]
    rfl
  · rw [if_neg last, if_neg (show ¬(s.modifySequence rid change).refCount block - 1 = 0 from last)]
    rfl

/-- The last block of a sequence is attached if popping it leaves no mark. -/
theorem attached_of_clean {sq : SequenceBlocks} (found : s.sequences.lookup seq.requestId = some sq)
    (released : s.releaseLastBlock plat seq = .ok s')
    (clean : ∀ block, .releasedDetached block ∉ s'.history) :
    seq.numFrontBlocksRemoved < sq.allocatedBlocks.length := by
  obtain ⟨other, block, dropped, found', last, dropping, rfl⟩ := releaseLastBlock_ok released
  obtain ⟨_, rfl⟩ := dropReference_ok dropping
  obtain rfl : sq = other := Option.some.inj (found.symm.trans found')
  by_contra short
  refine clean block ?_
  have marked : Branch.releasedDetached block ∈ (s.recordIf (decide
      (sq.allocatedBlocks.length ≤ seq.numFrontBlocksRemoved))
        (.releasedDetached block)).history := by
    rw [decide_eq_true (Nat.le_of_not_lt short)]
    simp [recordIf]
  split <;> exact marked

section

variable (inv : WindowInv cfg mode front owed pins live s)
include inv

theorem WindowInv.releaseLastBlock (attached : ∀ {sq}, s.sequences.lookup seq.requestId = some sq →
      sq.allocatedBlocks ≠ [] → front seq.requestId < sq.allocatedBlocks.length)
    (released : s.releaseLastBlock plat seq = .ok s') :
    WindowInv cfg mode front owed pins live s' := by
  obtain ⟨sq, block, dropped, found, last, dropping, rfl⟩ := releaseLastBlock_ok released
  obtain ⟨_, rfl⟩ := dropReference_ok dropping
  have nonempty : sq.allocatedBlocks ≠ [] := by
    intro empty
    rw [empty] at last
    cases last
  have marked : Core cfg mode front owed pins [] (s.recordIf (decide
      (sq.allocatedBlocks.length ≤ seq.numFrontBlocksRemoved)) (.releasedDetached block)) :=
    inv.core.frame (by constructor <;> rfl) rfl
  have popped := marked.reassign
    (marked.queue.popBlock found last (attached found nonempty)) fun other => by
      rw [count_cons]
      exact Nat.le_add_right _ _
  refine ⟨?_, fun other alive => ?_⟩
  · rw [modifySequence_drop]
    exact popped.dropOwed true
  · rw [isSome_lookup_modifySequence]
    refine inv.recorded_of_same ?_ other alive
    split <;> rfl

/-- Detaching a block counts one more removed front block of the sequence. -/
theorem WindowInv.detachFrontBlock (removed : seq.numFrontBlocksRemoved = front seq.requestId)
    (detached : s.detachFrontBlock plat seq = .ok (s', seq')) : WindowInv cfg mode
      (update front seq.requestId seq'.numFrontBlocksRemoved) owed pins live s' := by
  obtain ⟨sq, block, _, found, next, dropping, rfl⟩ := detachFrontBlock_ok detached
  rw [removed] at next
  have handed := inv.core.reassign (inv.core.queue.detach found next) fun other => by
    rw [count_cons]
    exact Nat.le_add_right _ _
  refine ⟨?_, inv.recorded_of_same (dropReference_sequences dropping)⟩
  rw [show ({ seq with numFrontBlocksRemoved := seq.numFrontBlocksRemoved + 1 } :
    GenerationRequest).numFrontBlocksRemoved = front seq.requestId + 1 from
      congrArg (· + 1) removed]
  exact handed.dropReference dropping

/-- Growing changes nothing of a sequence but its number of removed front blocks. -/
theorem WindowInv.detachLoop {rounds : Nat}
    (removed : seq.numFrontBlocksRemoved = front seq.requestId)
    (looped : detachLoop cfg plat rounds s seq = .ok (s', seq')) :
    WindowInv cfg mode
        (update front seq.requestId seq'.numFrontBlocksRemoved) owed pins live s' ∧
      seq' = { seq with numFrontBlocksRemoved := seq'.numFrontBlocksRemoved } := by
  let kept := fun (st : WindowBlockManager) (current : GenerationRequest) =>
    WindowInv cfg mode
        (update front seq.requestId current.numFrontBlocksRemoved) owed pins live st ∧
      current = { seq with numFrontBlocksRemoved := current.numFrontBlocksRemoved }
  refine detachLoop_invariant kept ?_ ⟨?_, rfl⟩ looped
  · rintro st current next current' _ ⟨inv, same⟩ detached
    have id : current.requestId = seq.requestId := by rw [same]
    have after := inv.detachFrontBlock (by rw [id, update_self]) detached
    rw [id, Function.update_idem] at after
    obtain ⟨_, _, _, _, _, _, rfl⟩ := detachFrontBlock_ok detached
    refine ⟨after, ?_⟩
    rw [same]
  · rw [removed, update_eq_self]
    exact inv

end

/-- A change of the record of a sequence that leaves its blocks alone. -/
theorem QueueInv.modifyRecord (inv : QueueInv cfg front owed pins s)
    (blocks : ∀ sq, (change sq).allocatedBlocks = sq.allocatedBlocks) :
    QueueInv cfg front owed pins (s.modifySequence rid change) := by
  have looks : ∀ {other kept}, (s.modifySequence rid change).sequences.lookup other =
      some kept → ∃ before, s.sequences.lookup other = some before ∧
        kept.allocatedBlocks = before.allocatedBlocks := by
    intro other kept looked
    cases found : s.sequences.lookup rid with
    | none =>
      simp only [modifySequence, found] at looked
      exact ⟨kept, looked, rfl⟩
    | some sq =>
      rcases lookup_modifySequence_cases found looked with ⟨rfl, rfl⟩ | ⟨_, before⟩
      · exact ⟨sq, found, blocks sq⟩
      · exact ⟨kept, before, rfl⟩
  have keeps : ∀ other, held front (s.modifySequence rid change) other =
      held front s other := by
    intro other
    cases found : s.sequences.lookup rid with
    | none =>
      simp only [modifySequence, found]
    | some sq =>
      have counted := held_modifySequence front change found other
      rw [blocks] at counted
      omega
  refine inv.owe [] inv.toQueueShape rfl rfl (fun other => ?_) (forall_mem_nil _) ?_ ?_
  · rw [keeps, count_nil, Nat.zero_add]
  · intro other kept mem looked contained
    obtain ⟨before, found, same⟩ := looks looked
    exact inv.listed_lt found (same ▸ contained)
  · intro other kept looked
    obtain ⟨before, found, same⟩ := looks looked
    rw [same]
    exact inv.front_le found

theorem WindowInv.modifyRecord (inv : WindowInv cfg mode front owed pins live s)
    (blocks : ∀ sq, (change sq).allocatedBlocks = sq.allocatedBlocks) :
    WindowInv cfg mode front owed pins live (s.modifySequence rid change) := by
  refine ⟨inv.core.reassign (inv.core.queue.modifyRecord blocks) fun _ => le_rfl, ?_⟩
  intro other alive
  rw [isSome_lookup_modifySequence]
  exact inv.recorded other alive

theorem WindowInv.adjustBlocksIfNeeded (inv : WindowInv cfg mode front owed pins live s)
    (removed : seq.numFrontBlocksRemoved = front seq.requestId) (isLive : live seq.requestId)
    (adjusted : adjustBlocksIfNeeded cfg plat s seq = .ok (s', seq')) :
    WindowInv cfg mode
        (update front seq.requestId seq'.numFrontBlocksRemoved) owed pins live s' ∧
      seq' = { seq with numFrontBlocksRemoved := seq'.numFrontBlocksRemoved } := by
  obtain ⟨detached, looped, ⟨_, allocated, allocating, rfl⟩ | ⟨_, rfl⟩⟩ :=
    adjustBlocksIfNeeded_ok adjusted
  · obtain ⟨shrunk, same⟩ := inv.detachLoop removed looped
    have id : seq'.requestId = seq.requestId := by rw [same]
    have isLive' : live seq'.requestId := id ▸ isLive
    exact ⟨(shrunk.allocateBlock isLive' allocating).modifyRecord fun _ => rfl, same⟩
  · exact inv.detachLoop removed looped

/-- Unpinned blocks return references that are owed. -/
theorem WindowInv.unpinBlocksById (inv : WindowInv cfg mode front (blockIds ++ owed) pins live s)
    (unpinned : unpinBlocksById cfg plat s blockIds = .ok s') :
    WindowInv cfg mode front owed pins live s' := by
  unfold WindowBlockManager.unpinBlocksById at unpinned
  induction blockIds generalizing s with
  | nil =>
    simp only [foldlM_nil, Except.pure_eq_ok] at unpinned
    exact unpinned ▸ inv
  | cons block rest ih =>
    simp only [foldlM_cons, Except.bind_eq_ok] at unpinned
    obtain ⟨next, dropped, continued⟩ := unpinned
    unfold unpinBlock at dropped
    split at dropped
    · exact ih ⟨inv.core.dropReference dropped,
        inv.recorded_of_same (dropReference_sequences dropped)⟩ continued
    · cases dropped

end TrtLlm.WindowBlockManager
