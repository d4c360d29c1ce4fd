import TrtLlm.KvCache.Keys
import TrtLlm.KvCache.OneWindow
import TrtLlm.KvCache.Tree

/-! # The reuse tree through the calls on one window

Every call keeps the tree coherent, unless it gives a new key and parent to a block
that is in the tree.
-/

namespace TrtLlm

open KVCacheManager

namespace WindowBlockManager

variable {cfg : WindowConfig} {plat : Platform} {s s' : WindowBlockManager}
  {block : BlockId} {seq : GenerationRequest} {blockIds : List BlockId} {rid : RequestId}

/-! ## Steps that leave the tree alone -/

/-- States with the same links and keys. -/
structure SameTree (s s' : WindowBlockManager) : Prop where
  children : s'.nextBlocks = s.nextBlocks
  parents : s'.prevBlock = s.prevBlock
  keys : s'.blockKey = s.blockKey

theorem SameTree.trans {s'' : WindowBlockManager} (first : SameTree s s')
    (second : SameTree s' s'') : SameTree s s'' :=
  ⟨second.children.trans first.children, second.parents.trans first.parents,
    second.keys.trans first.keys⟩

theorem SameTree.refl (s : WindowBlockManager) : SameTree s s := ⟨rfl, rfl, rfl⟩

/-- The invariant reads only the tree. -/
theorem TreeInv.same (tree : TreeInv s) (same : SameTree s s') : TreeInv s' :=
  tree.congr same.children same.parents same.keys

/-- Listing a block does not link it. -/
theorem sameTree_addBlockToAllBeams (s : WindowBlockManager) (seq : GenerationRequest)
    (block : BlockId) : SameTree s (s.addBlockToAllBeams seq block) := by
  refine List.foldl_invariant (SameTree s) (fun st beam _ same => ?_) (.refl s)
  exact same.trans ⟨rfl, rfl, rfl⟩

/-- A block stays in the tree when it becomes free. -/
theorem sameTree_dropReference {toFront : Bool}
    (dropped : dropReference plat s block toFront = .ok s') : SameTree s s' := by
  obtain ⟨_, rfl⟩ := dropReference_ok dropped
  split <;> exact ⟨rfl, rfl, rfl⟩

/-- So do all blocks of a sequence. -/
theorem sameTree_releaseReferences (blocks : List BlockId) (s : WindowBlockManager) :
    SameTree s (blocks.foldl (releaseReference plat) s) := by
  refine List.foldl_invariant (SameTree s) (fun st block _ same => same.trans ?_) (.refl s)
  unfold releaseReference
  dsimp only
  split
  · split <;> exact ⟨rfl, rfl, rfl⟩
  · exact ⟨rfl, rfl, rfl⟩

theorem sameTree_refresh (s : WindowBlockManager) : SameTree s (s.refresh plat) :=
  refresh_invariant (SameTree s) (fun _ same => same.trans ⟨rfl, rfl, rfl⟩)
    (fun _ _ same => same.trans ⟨rfl, rfl, rfl⟩) (.refl s)

/-- Unpinned blocks stay in the tree. -/
theorem sameTree_unpinBlocksById (unpinned : unpinBlocksById cfg plat s blockIds = .ok s') :
    SameTree s s' := by
  refine List.foldlM_invariant (SameTree s) ?_ (.refl s) unpinned
  intro st block next _ same dropped
  unfold unpinBlock at dropped
  split at dropped
  · exact same.trans (sameTree_dropReference dropped)
  · cases dropped

/-! ## Loading -/

/-- Onboarding takes a free block, which leaves the tree. -/
theorem TreeInv.onboardBlock (tree : TreeInv s) {offloadBlock : BlockId}
    (onboarded : s.onboardBlock cfg plat rid offloadBlock = .ok s') : TreeInv s' := by
  rcases onboardBlock_ok onboarded with ⟨_, rfl⟩ | ⟨_, _, _, _, took, rfl⟩
  · exact tree
  · exact (tree.getFreeBlock took).tree.congr rfl rfl rfl

/-- A further block leaves the tree before it is listed. -/
theorem TreeInv.allocateBlock (tree : TreeInv s) {shareAmongBeams : Bool}
    (allocated : s.allocateBlock cfg plat seq shareAmongBeams = .ok s') : TreeInv s' := by
  rcases allocateBlock_ok allocated with ⟨_, block, taken, took, rfl⟩ | ⟨_, loop⟩
  · exact (tree.getFreeBlock took).tree.same (sameTree_addBlockToAllBeams _ _ _)
  · refine List.foldlM_invariant TreeInv ?_ tree loop
    intro st beam next _ tree stepped
    simp only [Except.bind_eq_ok, Except.pure_eq_ok] at stepped
    obtain ⟨⟨block, taken⟩, took, rfl⟩ := stepped
    exact (tree.getFreeBlock took).tree.congr rfl rfl rfl

/-- A block outside the tree may get any key. -/
theorem TreeInv.setNextKey (tree : TreeInv s) (unlinked : s.prevBlock block = none)
    (blockKeys : List BlockKey) : TreeInv ((setNextKey cfg s block blockKeys).setHash block) := by
  cases blockKeys with
  | nil => exact tree.congr rfl rfl rfl
  | cons key rest => exact (tree.setBlockKey unlinked key (fillsBlock cfg key)).congr rfl rfl rfl

variable {key : BlockKey} {ret : RetentionPriorityAndDuration} {numContextBlocks : Nat}
  {seq' : GenerationRequest} {st : StoreState} {next : LoadState} {blockKeys : List BlockKey}
  {pinBlocks : Bool}

/-- A full match stays, a partial one leaves the tree or is copied. -/
theorem TreeInv.useMatch (tree : TreeInv s) {found : BlockMatch} {root : Option Node}
    (used : useMatch cfg plat s rid ret key found = .ok (block, root, s')) : TreeInv s' := by
  rcases useMatch_ok used with ⟨_, _, _, copied⟩ | ⟨_, _, rfl, _, took⟩ | ⟨_, _, rfl, rfl⟩
  · obtain ⟨taken, took, rfl⟩ := copyPartialMatch_ok copied
    have got := tree.getFreeBlock took
    have marked : TreeInv ((taken.recordIf (block == found.block &&
        taken.memoryPoolBlockIndex block != s.memoryPoolBlockIndex found.block)
          (.overwroteSource block)).copyBlock cfg found.block block found.numMatched) :=
      got.tree.congr rfl rfl rfl
    exact (marked.setBlockKey got.unlinked key (fillsBlock cfg key)).congr rfl rfl rfl
  · obtain ⟨leaf, rfl⟩ := takeLeaf_ok took
    have marked : TreeInv (s.recordLeaf found.block) := tree.congr rfl rfl rfl
    have childless : s.nextBlocks (.block found.block) = [] := by
      simpa [isLeaf] using leaf
    exact (marked.unlinkLeaf childless).congr rfl rfl rfl
  · exact tree.congr rfl rfl rfl

/-- One round for the shared blocks keeps the invariant. -/
theorem TreeInv.loadSharedBlock {st : LoadState} (tree : TreeInv st.manager)
    (loaded : loadSharedBlock cfg plat seq st ret = .ok next) : TreeInv next.manager := by
  rcases loadSharedBlock_ok loaded with
    ⟨_, _, block, _, _, onboarded, events, _, useOk, onboardOk, rfl⟩ |
    ⟨block, taken, _, took, rfl⟩
  · have notified : TreeInv { st.manager with eventQueue := events } := tree.congr rfl rfl rfl
    exact ((notified.useMatch useOk).onboardBlock onboardOk).same
      (sameTree_addBlockToAllBeams onboarded seq block)
  · have got := tree.getFreeBlock took
    have same := sameTree_addBlockToAllBeams taken seq block
    exact (got.tree.same same).setNextKey (by rw [same.parents]; exact got.unlinked) _

/-- So does a round for the blocks of single beams. -/
theorem TreeInv.loadBeamBlock {st : LoadState} (tree : TreeInv st.manager) {beam : Nat}
    (loaded : loadBeamBlock cfg plat seq ret st beam = .ok next) :
    TreeInv next.manager := by
  simp only [WindowBlockManager.loadBeamBlock, Except.bind_eq_ok, Except.pure_eq_ok] at loaded
  obtain ⟨⟨block, taken⟩, took, rfl⟩ := loaded
  have got := tree.getFreeBlock took
  have added : TreeInv (taken.addBlockToBeam seq.requestId block beam) := got.tree.congr rfl rfl rfl
  exact added.setNextKey got.unlinked _

/-- All rounds keep the invariant. -/
theorem TreeInv.loadOrAllocateBlocks (tree : TreeInv s) {prepopulated : Nat}
    {retentions : List RetentionPriorityAndDuration}
    (loaded : s.loadOrAllocateBlocks cfg plat blockKeys numContextBlocks seq retentions =
      .ok (prepopulated, s')) : TreeInv s' :=
  loadOrAllocateBlocks_invariant TreeInv (fun tree stepped => tree.loadSharedBlock stepped)
    (fun tree stepped => tree.loadBeamBlock stepped) tree loaded

/-- A new record is not in the tree. -/
theorem TreeInv.emplaceSequence (tree : TreeInv s) (emplaced : s.emplaceSequence seq = .ok s') :
    TreeInv s' := by
  obtain ⟨_, rfl⟩ := emplaceSequence_ok emplaced
  exact tree.congr rfl rfl rfl

/-- Adding a sequence keeps the invariant, with reuse -/
theorem TreeInv.addSequenceReuse (tree : TreeInv s) {inputLength : Nat} {req req' : LlmRequest}
    (added : s.addSequenceReuse cfg plat seq inputLength numContextBlocks req =
      .ok (s', seq', req')) : TreeInv s' := by
  obtain ⟨_, _, _, emplaceOk, _, loadOk, _, _⟩ := addSequenceReuse_ok added
  exact (tree.emplaceSequence emplaceOk).loadOrAllocateBlocks loadOk

/-- and without. -/
theorem TreeInv.addSequenceNoReuse (tree : TreeInv s) {share : Bool}
    (added : s.addSequenceNoReuse cfg plat seq numContextBlocks share = .ok s') : TreeInv s' := by
  obtain ⟨_, _, emplaceOk, _, loop, last⟩ := addSequenceNoReuse_ok added
  have looped := List.foldlM_invariant TreeInv
    (fun _ _ _ _ tree stepped => tree.allocateBlock stepped) (tree.emplaceSequence emplaceOk) loop
  exact looped.allocateBlock last

/-! ## Storing -/

/-- The tree inside the storing loop: the search root is in it, and has no children
once a block was inserted. -/
structure Storing (state : StoreState) : Prop where
  tree : TreeInv state.manager
  inTree : InTree state.manager state.searchRoot
  childless : state.needMatch = false → state.manager.nextBlocks state.searchRoot = []

/-- Without children nothing matches. -/
theorem findNext_of_childless {node : Node} (childless : s.nextBlocks node = [])
    (key : BlockKey) : s.findNext node key = none := by
  simp [findNext, childless]

/-- A block that is not linked a second time was outside the tree. -/
theorem unlinked_of_clean {root : Node}
    (clean : .relinked block ∉ (insertBlock cfg s root key block).history) :
    s.prevBlock block = none := by
  cases linked : s.prevBlock block with
  | none => rfl
  | some par =>
    refine absurd ?_ clean
    change Branch.relinked block ∈ if (s.prevBlock block).isSome then _ else _
    rw [linked]
    simp

/-- A round of the loop matches a child or inserts a block that is not in the tree. -/
theorem Storing.storeOrMatch (storing : Storing st) (nonempty : key.uniqueTokens ≠ [])
    (clean : .relinked block ∉ (storeOrMatch cfg plat st key block).manager.history) :
    Storing (storeOrMatch cfg plat st key block) := by
  rcases storeOrMatch_cases cfg plat st key block with
    ⟨child, needed, mem, same⟩ | ⟨unmatched, same⟩
  · rw [same]
    exact ⟨storing.tree, storing.tree.inTree_of_entry mem, fun unneeded =>
      absurd (needed.symm.trans unneeded) (by simp)⟩
  · rw [same] at clean ⊢
    have unlinked := unlinked_of_clean clean
    have absent : st.manager.findNext st.searchRoot key = none := by
      cases needed : st.needMatch with
      | true => exact unmatched needed nonempty
      | false => exact findNext_of_childless (storing.childless needed) key
    have inserted : TreeInv (insertBlock cfg st.manager st.searchRoot key block) :=
      storing.tree.insertBlock unlinked storing.inTree absent
    refine ⟨inserted, inserted.rooted (Function.update_self _ _ _), fun _ => ?_⟩
    refine List.eq_nil_iff_forall_not_mem.mpr fun entry mem => ?_
    rcases mem_children_insertBlock mem with before | ⟨here, _⟩
    · rw [storing.tree.leaf_of_unlinked unlinked] at before
      cases before
    · obtain ⟨par, linked⟩ := Path.inTree_linked (here ▸ storing.inTree)
      rw [unlinked] at linked
      cases linked

/-- Pinning the last stored block changes only its references. -/
theorem Storing.pinRoot (storing : Storing st) (pinBlocks : Bool) :
    Storing (pinRoot pinBlocks st) := by
  rcases pinRoot_cases pinBlocks st with same | ⟨block, _, _, same⟩
  · rw [same]
    exact storing
  · rw [same]
    obtain ⟨keys, path⟩ := storing.inTree
    exact ⟨storing.tree.congr rfl rfl rfl, ⟨keys, path.mono fun linked => ⟨linked, rfl⟩⟩,
      storing.childless⟩

/-- All stored blocks are linked below each other. -/
theorem Storing.storeLoop (storing : Storing st) {pairs : List (BlockKey × BlockId)}
    (nonempty : ∀ pair ∈ pairs, pair.1.uniqueTokens ≠ [])
    (clean : ∀ block, .relinked block ∉ (storeLoop cfg plat pinBlocks pairs st).manager.history) :
    Storing (storeLoop cfg plat pinBlocks pairs st) := by
  revert clean
  refine storeLoop_invariant (fun st => (∀ block, .relinked block ∉ st.manager.history) →
    Storing st) ?_ fun _ => storing
  intro st key block mem _ before clean
  have cleanStored : ∀ other, .relinked other ∉
      (WindowBlockManager.storeOrMatch cfg plat st key block).manager.history :=
    fun other lt => clean other (history_pinRoot pinBlocks _ lt)
  have storing := before fun other lt =>
    cleanStored other (history_storeOrMatch cfg plat st key block lt)
  exact (storing.storeOrMatch (nonempty _ mem) (cleanStored block)).pinRoot pinBlocks

theorem enqueueStoredEvent_history (s : WindowBlockManager) (blocks : List BlockId) :
    (s.enqueueStoredEvent cfg blocks).history = s.history := by
  cases blocks <;> rfl

theorem sameTree_enqueueStoredEvent (s : WindowBlockManager) (blocks : List BlockId) :
    SameTree s (s.enqueueStoredEvent cfg blocks) := by
  cases blocks <;> exact ⟨rfl, rfl, rfl⟩

/-- Storing the blocks of a sequence keeps the invariant. -/
theorem TreeInv.storeBlocks (tree : TreeInv s) (nonempty : ∀ key ∈ blockKeys, key.uniqueTokens ≠ [])
    (clean : ∀ block, .relinked block ∉
      (storeBlocks cfg plat s blockKeys blockIds pinBlocks).2.history) :
    TreeInv (storeBlocks cfg plat s blockKeys blockIds pinBlocks).2 := by
  have start : Storing { manager := s } := ⟨tree, ⟨[], .root⟩, fun unneeded => by cases unneeded⟩
  have untouched : ∀ block, .relinked block ∉ (WindowBlockManager.storeLoop cfg plat
      pinBlocks (blockKeys.zip blockIds) { manager := s }).manager.history := by
    intro block
    have unmarked := clean block
    unfold WindowBlockManager.storeBlocks at unmarked
    rwa [enqueueStoredEvent_history] at unmarked
  have stored := start.storeLoop (fun pair mem => nonempty _ (List.of_mem_zip mem).1) untouched
  exact stored.tree.same (sameTree_enqueueStoredEvent _ _)

/-! ## Releasing and growing -/

theorem releaseReferences_history (blocks : List BlockId) (s : WindowBlockManager) :
    (blocks.foldl (releaseReference plat) s).history = s.history := by
  refine List.foldl_invariant (fun st : WindowBlockManager => st.history = s.history)
    (fun st block _ same => ?_) rfl
  rw [← same]
  unfold releaseReference
  dsimp only
  split
  · split <;> rfl
  · rfl

/-- Removing a sequence keeps the invariant, stored or not. -/
theorem TreeInv.releaseBlocks (tree : TreeInv s) {req : Option LlmRequest}
    (released : s.releaseBlocks cfg plat seq req = .ok s')
    (clean : ∀ block, .relinked block ∉ s'.history) : TreeInv s' := by
  obtain ⟨sq, stored, _, storing, rfl⟩ := releaseBlocks_ok released
  rw [releaseReferences_history] at clean
  have erased : TreeInv { s with sequences := s.sequences.erase seq.requestId } :=
    tree.congr rfl rfl rfl
  refine TreeInv.same ?_ (sameTree_releaseReferences _ _)
  rcases storeReleased_ok storing with rfl | ⟨_, _, _, _, keys, rfl⟩
  · exact erased
  · exact erased.storeBlocks (reuseKeys_ne_nil keys) clean

/-- Detached blocks stay in the tree. -/
theorem TreeInv.detachLoop (tree : TreeInv s) {rounds : Nat}
    (looped : detachLoop cfg plat rounds s seq = .ok (s', seq')) : TreeInv s' := by
  refine detachLoop_invariant (fun st _ => TreeInv st) ?_ tree looped
  intro st current next current' _ tree detached
  obtain ⟨_, _, _, _, _, dropping, _⟩ := detachFrontBlock_ok detached
  exact tree.same (sameTree_dropReference dropping)

/-- A new token keeps the invariant. -/
theorem TreeInv.adjustBlocksIfNeeded (tree : TreeInv s)
    (adjusted : adjustBlocksIfNeeded cfg plat s seq = .ok (s', seq')) : TreeInv s' := by
  obtain ⟨detached, looped, ⟨_, allocated, allocating, rfl⟩ | ⟨_, rfl⟩⟩ :=
    adjustBlocksIfNeeded_ok adjusted
  · exact ((tree.detachLoop looped).allocateBlock allocating).congr rfl rfl rfl
  · exact tree.detachLoop looped

/-- A rewound token keeps the invariant. -/
theorem TreeInv.releaseLastBlock (tree : TreeInv s)
    (released : s.releaseLastBlock plat seq = .ok s') : TreeInv s' := by
  obtain ⟨sq, block, dropped, _, _, dropping, rfl⟩ := releaseLastBlock_ok released
  have same := sameTree_dropReference dropping
  exact tree.same ⟨same.children, same.parents, same.keys⟩

/-- Nothing is stored at first. -/
theorem TreeInv.initial (cfg : WindowConfig) : TreeInv (WindowBlockManager.initial cfg) := by
  refine ⟨fun mem => ?_, fun linked => ?_, fun _ => List.nodup_nil, fun _ => rfl, fun linked => ?_⟩
  · cases mem
  · cases linked
  · cases linked

end WindowBlockManager

namespace OneWindow

open WindowBlockManager

variable {cfg : WindowConfig} {plat : Platform} {reuse : Bool}
  {v v' : OneWindow} {op : Op} {output : Output}

/-- A call keeps the tree, unless it relinks a block. -/
theorem Step.tree (step : Step cfg plat reuse v op output v')
    (tree : TreeInv v.window) (clean : ∀ block, .relinked block ∉ v'.window.history) :
    TreeInv v'.window := by
  have holds : ∀ rid, TreeInv (v.hold rid) := by
    intro rid
    unfold hold
    split
    · exact tree
    · exact tree.congr rfl rfl rfl
  have unholds : ∀ {managed w rid}, TreeInv w → TreeInv (unhold managed w rid) := by
    intro managed w rid kept
    unfold unhold
    split
    · exact kept.congr rfl rfl rfl
    · exact kept
  have unholds_history : ∀ {managed w rid}, (unhold managed w rid).history = w.history := by
    intro managed w rid
    unfold unhold
    split <;> rfl
  cases step with
  | addReuse _ _ added => exact ((holds _).addSequenceReuse added).congr rfl rfl rfl
  | addNoReuse _ _ added => exact ((holds _).addSequenceNoReuse added).congr rfl rfl rfl
  | addToken _ adjusted => exact tree.adjustBlocksIfNeeded adjusted
  | noToken => exact tree
  | removeToken => exact tree
  | removeBlock _ _ _ _ released => exact tree.releaseLastBlock released
  | storeNothing => exact tree
  | storeContext _ _ stored =>
    rcases storeContextBlocks_ok stored with same | ⟨_, _, _, _, keys, same⟩
    · rw [same]
      exact tree
    · dsimp only at clean ⊢
      rw [same] at clean ⊢
      exact tree.storeBlocks (reuseKeys_ne_nil keys) clean
  | storeNew _ _ _ stored =>
    rcases storeNewBlock_ok stored with same | ⟨_, _, _, _, _, _, keys, same⟩
    · rw [same]
      exact tree
    · dsimp only at clean ⊢
      rw [same] at clean ⊢
      exact tree.storeBlocks (newBlockKeys_ne_nil keys) clean
  | storeForReuse _ stored =>
    obtain ⟨_, _, keys, same⟩ := storeBlocksForReuse_ok stored
    obtain ⟨rfl, rfl⟩ := Prod.mk.injEq _ _ _ _ ▸ same
    exact tree.storeBlocks (reuseKeys_ne_nil keys) clean
  | unpin unpinned => exact tree.same (sameTree_unpinBlocksById unpinned)
  | offload _ offloaded =>
    rcases offloadBlock_ok offloaded with same | ⟨_, _, _, _, same⟩
    · dsimp only
      rw [same]
      exact tree.congr rfl rfl rfl
    · dsimp only
      rw [same]
      exact tree.congr rfl rfl rfl
  | onboard _ onboarded =>
    refine TreeInv.onboardBlock ?_ onboarded
    exact tree.congr rfl rfl rfl
  | refresh => exact tree.same (sameTree_refresh v.window)
  | flush => exact tree.congr rfl rfl rfl
  | removeUnknown => exact unholds tree
  | remove _ _ released =>
    rw [unholds_history] at clean
    exact unholds (tree.releaseBlocks released clean)

end OneWindow

end TrtLlm
