import TrtLlm.KvCache.QueueInvariant

/-! # The blocks of the beams of a sequence

A block is added at the end of one beam, or of all beams one after another. Loading and
growing a sequence leave the records of the other sequences alone.
-/

namespace TrtLlm.WindowBlockManager

variable {cfg : WindowConfig} {plat : Platform} {s s' : WindowBlockManager}
  {sq : SequenceBlocks} {block : BlockId} {seq : GenerationRequest}

@[simp]
theorem length_pushBlock (beam : Nat) :
    (pushBlock block beam sq).cacheBlockIds.length = sq.cacheBlockIds.length :=
  List.length_modify _ _ _

/-- Only the beam that exists and is named gets the block. -/
theorem beamBlocks_pushBlock (beam other : Nat) : (pushBlock block beam sq).beamBlocks other =
      if other = beam ∧ beam < sq.cacheBlockIds.length then sq.beamBlocks other ++ [block]
      else sq.beamBlocks other := by
  unfold SequenceBlocks.beamBlocks pushBlock
  by_cases same : other = beam
  · subst same
    by_cases lt : other < sq.cacheBlockIds.length
    · simp [lt]
    · simp [lt]
  · simp [same, Ne.symm same]

/-- A block is pushed to the first beams. -/
def pushBeams (block : BlockId) (count : Nat) (sequence : SequenceBlocks) : SequenceBlocks :=
  (List.range count).foldl (fun sequence beamIdx => pushBlock block beamIdx sequence) sequence

/-- The last beam is served last. -/
theorem pushBeams_succ (count : Nat) :
    pushBeams block (count + 1) sq = pushBlock block count (pushBeams block count sq) := by
  simp [pushBeams, List.range_succ, List.foldl_append]

@[simp]
theorem length_pushBeams (count : Nat) :
    (pushBeams block count sq).cacheBlockIds.length = sq.cacheBlockIds.length := by
  induction count with
  | zero => rfl
  | succ count ih => rw [pushBeams_succ, length_pushBlock, ih]

/-- The block is listed once per beam. -/
theorem allocatedBlocks_pushBeams (count : Nat) : (pushBeams block count sq).allocatedBlocks =
      sq.allocatedBlocks ++ List.replicate count block := by
  induction count with
  | zero => simp [pushBeams]
  | succ count ih =>
    rw [pushBeams_succ, List.replicate_succ', ← List.append_assoc, ← ih]
    rfl

/-- Each of the first beams gets the block once. -/
theorem beamBlocks_pushBeams (count beam : Nat) : (pushBeams block count sq).beamBlocks beam =
      if beam < count ∧ beam < sq.cacheBlockIds.length then sq.beamBlocks beam ++ [block]
      else sq.beamBlocks beam := by
  induction count with
  | zero => simp [pushBeams]
  | succ count ih =>
    rw [pushBeams_succ, beamBlocks_pushBlock, ih, length_pushBeams]
    by_cases last : beam = count
    · subst last
      by_cases lt : beam < sq.cacheBlockIds.length <;> simp [lt]
    · have bound : beam < count + 1 ↔ beam < count := by omega
      simp [last, bound]

variable {rid : RequestId} {ret : RetentionPriorityAndDuration}
  {seq' : GenerationRequest} {other : RequestId} {beam numContextBlocks : Nat}
  {s'' : WindowBlockManager} {key : BlockKey} {found : BlockMatch} {root : Option Node}
  {st next : LoadState}

/-- Other sequences keep their lists. -/
theorem lookup_addBlockToBeam_of_ne (ne : other ≠ rid) :
    (s.addBlockToBeam rid block beam).sequences.lookup other = s.sequences.lookup other :=
  lookup_modifySequence_of_ne (s := (s.incRefCount block).setPrevBlockInSeq block
    (s.lastInBeam rid beam)) ne

/-- Adding a block to all beams pushes it to each of them. -/
theorem lookup_addBlockToAllBeams (found : s.sequences.lookup seq.requestId = some sq) :
    (s.addBlockToAllBeams seq block).sequences.lookup seq.requestId =
      some (pushBeams block seq.beamWidth sq) := by
  unfold addBlockToAllBeams
  generalize seq.beamWidth = count
  induction count with
  | zero => exact found
  | succ count ih =>
    rw [List.range_succ, List.foldl_append, pushBeams_succ]
    exact lookup_addBlockToBeam ih

/-- Other sequences keep their lists. -/
theorem lookup_addBlockToAllBeams_of_ne (ne : other ≠ seq.requestId) :
    (s.addBlockToAllBeams seq block).sequences.lookup other = s.sequences.lookup other := by
  refine List.foldl_invariant (fun st : WindowBlockManager =>
    st.sequences.lookup other = s.sequences.lookup other) ?_ rfl
  intro st beam _ same
  exact (lookup_addBlockToBeam_of_ne ne).trans same

/-! ## Other sequences -/

/-- The sequences and the references on blocks are the same. -/
structure SameHolders (s s' : WindowBlockManager) : Prop where
  sequences : s'.sequences = s.sequences
  refCount : s'.refCount = s.refCount

theorem SameHolders.trans (first : SameHolders s s') (second : SameHolders s' s'') :
    SameHolders s s'' :=
  ⟨second.sequences.trans first.sequences, second.refCount.trans first.refCount⟩

/-- A free block is taken before it is listed. -/
theorem sameHolders_getFreeBlock {prio : RetentionPriority} {dur : Option Nat}
    (took : s.getFreeBlock cfg plat rid prio dur = .ok (block, s')) : SameHolders s s' := by
  obtain ⟨chosen, pruned, chose, freed, rfl⟩ := getFreeBlock_ok took
  have same := freeChildren_ok freed
  rw [same]
  obtain ⟨_, _, _, ⟨_, _, rfl⟩ | ⟨_, _, rfl⟩⟩ := chooseFreeBlock_ok chose <;> exact ⟨rfl, rfl⟩

/-- Onboarding moves data, not references. -/
theorem sameHolders_onboardBlock {offloadBlock : BlockId}
    (onboarded : s.onboardBlock cfg plat rid offloadBlock = .ok s') : SameHolders s s' := by
  rcases onboardBlock_ok onboarded with ⟨_, rfl⟩ | ⟨_, _, _, taken, took, rfl⟩
  · exact ⟨rfl, rfl⟩
  · exact (sameHolders_getFreeBlock took).trans ⟨rfl, rfl⟩

/-- A matched block is claimed before it is listed. -/
theorem sameHolders_useMatch
    (used : useMatch cfg plat s rid ret key found = .ok (block, root, s')) :
    SameHolders s s' := by
  rcases useMatch_ok used with ⟨_, _, _, copied⟩ | ⟨_, _, _, _, took⟩ | ⟨_, _, _, rfl⟩
  · obtain ⟨taken, took, rfl⟩ := copyPartialMatch_ok copied
    exact (sameHolders_getFreeBlock took).trans ⟨rfl, rfl⟩
  · obtain ⟨_, rfl⟩ := takeLeaf_ok took
    have same := sameButTree_unlinkFromParent (s.recordLeaf found.block) found.block
    rw [same]
    exact ⟨rfl, rfl⟩
  · exact ⟨rfl, rfl⟩

/-- A key says nothing on who holds the block. -/
theorem sameHolders_setNextKey (s : WindowBlockManager) (block : BlockId)
    (blockKeys : List BlockKey) :
    SameHolders s ((setNextKey cfg s block blockKeys).setHash block) := by
  cases blockKeys <;> exact ⟨rfl, rfl⟩

/-- A match that is used and brought to primary memory. -/
theorem sameHolders_match {used : WindowBlockManager} {events : List KVCacheEvent}
    (useOk : useMatch cfg plat { s with eventQueue := events } rid ret key found =
      .ok (block, root, used)) (onboardOk : used.onboardBlock cfg plat rid block = .ok s') :
    SameHolders s s' := by
  refine .trans ?_ ((sameHolders_useMatch useOk).trans (sameHolders_onboardBlock onboardOk))
  exact ⟨rfl, rfl⟩

/-- The records of all sequences but one are the same. -/
def SameElsewhere (requestId : RequestId) (s s' : WindowBlockManager) : Prop :=
  ∀ other ≠ requestId, s'.sequences.lookup other = s.sequences.lookup other

theorem SameElsewhere.refl (rid : RequestId) (s : WindowBlockManager) :
    SameElsewhere rid s s := fun _ _ => rfl

theorem SameElsewhere.trans (first : SameElsewhere rid s s') (second : SameElsewhere rid s' s'') :
    SameElsewhere rid s s'' :=
  fun other ne => (second other ne).trans (first other ne)

/-- A step that keeps the records is one. -/
theorem SameElsewhere.of_sequences (same : s'.sequences = s.sequences) :
    SameElsewhere rid s s' := fun other _ => by rw [same]

theorem sameElsewhere_modifySequence (rid : RequestId) (change : SequenceBlocks → SequenceBlocks) :
    SameElsewhere rid s (s.modifySequence rid change) :=
  fun _ ne => lookup_modifySequence_of_ne ne

theorem sameElsewhere_addBlockToBeam (rid : RequestId) (beam : Nat) :
    SameElsewhere rid s (s.addBlockToBeam rid block beam) :=
  fun _ ne => lookup_addBlockToBeam_of_ne ne

/-- Only the sequence that gets the block changes. -/
theorem sameElsewhere_addBlockToAllBeams :
    SameElsewhere seq.requestId s (s.addBlockToAllBeams seq block) :=
  fun _ ne => lookup_addBlockToAllBeams_of_ne ne

/-- One round for the shared blocks changes one record. -/
theorem sameElsewhere_loadSharedBlock (loaded : loadSharedBlock cfg plat seq st ret = .ok next) :
    SameElsewhere seq.requestId st.manager next.manager := by
  rcases loadSharedBlock_ok loaded with
    ⟨_, _, block, _, _, _, _, _, useOk, onboardOk, rfl⟩ | ⟨block, taken, _, took, rfl⟩
  · have same := sameHolders_match useOk onboardOk
    exact (SameElsewhere.of_sequences same.sequences).trans sameElsewhere_addBlockToAllBeams
  · refine SameElsewhere.trans ?_
      (.of_sequences (sameHolders_setNextKey _ block st.blockKeys).sequences)
    exact (SameElsewhere.of_sequences (sameHolders_getFreeBlock took).sequences).trans
      sameElsewhere_addBlockToAllBeams

/-- So does a round for the blocks of single beams. -/
theorem sameElsewhere_loadBeamBlock (loaded : loadBeamBlock cfg plat seq ret st beam = .ok next) :
    SameElsewhere seq.requestId st.manager next.manager := by
  simp only [loadBeamBlock, Except.bind_eq_ok, Except.pure_eq_ok] at loaded
  obtain ⟨⟨block, taken⟩, took, rfl⟩ := loaded
  refine SameElsewhere.trans ?_
    (.of_sequences (sameHolders_setNextKey _ block st.blockKeys).sequences)
  exact (SameElsewhere.of_sequences (sameHolders_getFreeBlock took).sequences).trans
    (sameElsewhere_addBlockToBeam _ beam)

/-- All rounds are for one sequence. -/
theorem sameElsewhere_loadOrAllocateBlocks {blockKeys : List BlockKey} {prepopulated : Nat}
    {retentions : List RetentionPriorityAndDuration}
    (loaded : s.loadOrAllocateBlocks cfg plat blockKeys numContextBlocks seq retentions =
      .ok (prepopulated, s')) : SameElsewhere seq.requestId s s' :=
  loadOrAllocateBlocks_invariant (SameElsewhere seq.requestId s)
    (fun same stepped => same.trans (sameElsewhere_loadSharedBlock stepped))
    (fun same stepped => same.trans (sameElsewhere_loadBeamBlock stepped)) (.refl _ s) loaded

/-- A new record is the one of the sequence. -/
theorem sameElsewhere_emplaceSequence (emplaced : s.emplaceSequence seq = .ok s') :
    SameElsewhere seq.requestId s s' := by
  obtain ⟨_, rfl⟩ := emplaceSequence_ok emplaced
  exact fun _ ne => AList.lookup_insert_ne ne

/-- Adding a sequence changes one record. -/
theorem sameElsewhere_addSequenceReuse {inputLength : Nat} {req req' : LlmRequest}
    (added : s.addSequenceReuse cfg plat seq inputLength numContextBlocks req =
      .ok (s', seq', req')) : SameElsewhere seq.requestId s s' := by
  obtain ⟨_, _, _, emplaceOk, _, loadOk, _, _⟩ := addSequenceReuse_ok added
  exact (sameElsewhere_emplaceSequence emplaceOk).trans (sameElsewhere_loadOrAllocateBlocks loadOk)

/-- A further block changes one record. -/
theorem sameElsewhere_allocateBlock {shareAmongBeams : Bool}
    (allocated : s.allocateBlock cfg plat seq shareAmongBeams = .ok s') :
    SameElsewhere seq.requestId s s' := by
  rcases allocateBlock_ok allocated with ⟨_, block, taken, took, rfl⟩ | ⟨_, loop⟩
  · exact (SameElsewhere.of_sequences (sameHolders_getFreeBlock took).sequences).trans
      sameElsewhere_addBlockToAllBeams
  · refine List.foldlM_invariant (SameElsewhere seq.requestId s) ?_ (.refl _ s) loop
    intro st beam next _ same stepped
    simp only [Except.bind_eq_ok, Except.pure_eq_ok] at stepped
    obtain ⟨⟨block, taken⟩, took, rfl⟩ := stepped
    exact (same.trans (.of_sequences (sameHolders_getFreeBlock took).sequences)).trans
      (sameElsewhere_addBlockToBeam _ beam)

/-- Detached blocks stay listed, and only their number changes. -/
theorem detachLoop_sequences {rounds : Nat}
    (looped : detachLoop cfg plat rounds s seq = .ok (s', seq')) :
    s'.sequences = s.sequences ∧
      seq' = { seq with numFrontBlocksRemoved := seq'.numFrontBlocksRemoved } := by
  refine detachLoop_invariant (fun st current => st.sequences = s.sequences ∧
    current = { seq with numFrontBlocksRemoved := current.numFrontBlocksRemoved }) ?_ ⟨rfl, rfl⟩
    looped
  rintro st current next current' _ ⟨same, named⟩ detached
  obtain ⟨_, _, _, _, _, dropping, rfl⟩ := detachFrontBlock_ok detached
  obtain ⟨_, rfl⟩ := dropReference_ok dropping
  refine ⟨?_, by rw [named]⟩
  rw [← same]
  split <;> rfl

/-- A new token changes one record. -/
theorem sameElsewhere_adjustBlocksIfNeeded
    (adjusted : adjustBlocksIfNeeded cfg plat s seq = .ok (s', seq')) :
    SameElsewhere seq.requestId s s' := by
  obtain ⟨detached, looped, ending⟩ := adjustBlocksIfNeeded_ok adjusted
  obtain ⟨same, named⟩ := detachLoop_sequences looped
  have id : seq'.requestId = seq.requestId := by rw [named]
  rcases ending with ⟨_, allocated, allocating, rfl⟩ | ⟨_, rfl⟩
  · rw [← id]
    exact ((SameElsewhere.of_sequences same).trans (sameElsewhere_allocateBlock allocating)).trans
      (sameElsewhere_modifySequence seq'.requestId _)
  · exact .of_sequences same

end TrtLlm.WindowBlockManager
