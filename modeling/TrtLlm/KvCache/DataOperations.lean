import TrtLlm.KvCache.DataLoading

/-! # The data of sequences through the operations of a window

Growing, storing and releasing a sequence, and the whole of loading one. Blocks are
added behind what is computed, and only blocks of computed tokens are stored.
-/

namespace TrtLlm.WindowBlockManager

open Function (update update_self update_of_ne update_eq_self)
open Except (bind_eq_ok pure_eq_ok)

variable {cfg : WindowConfig} {plat : Platform} {mode : Mode cfg}
  {front : RequestId → Nat} {prog : Computed} {owed hand : List BlockId}
  {s s' : WindowBlockManager} {block : BlockId} {seq : GenerationRequest}
  {live : RequestId → Prop} {req : LlmRequest} {usable : Nat} {keys : List BlockKey}

/-! ## Blocks behind what is computed -/

/-- Every beam of a sequence has blocks for the first tokens. -/
def Covered (config : WindowConfig) (s : WindowBlockManager) (seq : GenerationRequest)
    (count : Nat) : Prop :=
  ∃ sequence, s.sequences.lookup seq.requestId = some sequence ∧
    sequence.cacheBlockIds.length = seq.beamWidth ∧
    ∀ beamIdx < seq.beamWidth,
      count ≤ (sequence.beamBlocks beamIdx).length * config.tokensPerBlock

variable {st next : LoadState} {beam count : Nat} {ret : RetentionPriorityAndDuration}
  {seq' : GenerationRequest} {rid : RequestId} {change : SequenceBlocks → SequenceBlocks}

theorem Loading.covered {idx : Nat} (loading : Loading cfg mode front live prog keys seq idx st) :
    Covered cfg st.manager seq st.numMatchedTokens := by
  obtain ⟨sq, found, width, lengths⟩ := loading.lengths
  refine ⟨sq, found, width, fun beam lt => ?_⟩
  rw [lengths beam lt]
  exact loading.matched_le

theorem Covered.addBlockToBeam (covered : Covered cfg s seq count) :
    Covered cfg (s.addBlockToBeam seq.requestId block beam) seq count := by
  obtain ⟨sq, found, width, lengths⟩ := covered
  refine ⟨_, lookup_addBlockToBeam found, by rwa [length_pushBlock], fun other lt => ?_⟩
  refine Nat.le_trans (lengths other lt) (Nat.mul_le_mul_right _ ?_)
  rw [beamBlocks_pushBlock]
  split
  · rw [List.length_append]
    exact Nat.le_add_right _ _
  · exact le_rfl

theorem Covered.of_same (covered : Covered cfg s seq count) (same : s'.sequences = s.sequences) :
    Covered cfg s' seq count := by
  unfold Covered at covered ⊢
  rwa [same]

/-- A block that is handed out for a beam comes after what is computed. -/
theorem DataInv.growBeam (data : DataInv cfg front prog s)
    (core : Core cfg mode front owed [] hand s) (tree : TreeInv s)
    (covered : Covered cfg s seq (prog.computed seq.requestId))
    (lt : beam < seq.beamWidth) {prio : RetentionPriority} {dur : Option Nat}
    {taken : WindowBlockManager}
    (took : s.getFreeBlock cfg plat seq.requestId prio dur = .ok (block, taken))
    (spared : Spared front taken) :
    DataInv cfg front prog (taken.addBlockToBeam seq.requestId block beam) := by
  have got := data.getFreeBlock core tree took spared
  have gotTree := tree.getFreeBlock took
  obtain ⟨sq, found, width, lengths⟩ := covered.of_same (core.getFreeBlock took).sequences
  refine got.data.addBlockToBeam found (by rwa [width])
    (.of_unused got.unused gotTree.unlinked fun token _ known => ?_)
  have bound := lengths beam lt
  omega

/-- The window while a sequence gets blocks for tokens that are still to be computed. -/
structure Filling (config : WindowConfig) (mode : Mode config) (front : RequestId → Nat)
    (live : RequestId → Prop) (progress : Computed) (seq : GenerationRequest)
    (s : WindowBlockManager) : Prop where
  inv : WindowInv config mode front [] [] live s
  tree : TreeInv s
  data : DataInv config front progress s
  covered : Covered config s seq (progress.computed seq.requestId)

theorem Filling.loadBeamBlock (filling : Filling cfg mode front live prog seq st.manager)
    (isLive : live seq.requestId) (lt : beam < seq.beamWidth)
    (loaded : loadBeamBlock cfg plat seq ret st beam = .ok next)
    (spared : Spared front next.manager) : Filling cfg mode front live prog seq next.manager := by
  have inv := filling.inv.loadBeamBlock isLive loaded
  have tree := filling.tree.loadBeamBlock loaded
  simp only [WindowBlockManager.loadBeamBlock, bind_eq_ok, pure_eq_ok] at loaded
  obtain ⟨⟨block, taken⟩, took, rfl⟩ := loaded
  rw [Spared, setNextKey_history] at spared
  have gotTree := filling.tree.getFreeBlock took
  have added := filling.data.growBeam filling.inv.core filling.tree filling.covered lt took spared
  refine ⟨inv, tree, added.setNextKey gotTree.unlinked _, ?_⟩
  refine Covered.of_same ?_ (sameHolders_setNextKey _ _ _).sequences
  exact (filling.covered.of_same (filling.inv.core.getFreeBlock took).sequences).addBlockToBeam

theorem history_loadBeamBlock (loaded : loadBeamBlock cfg plat seq ret st beam = .ok next) :
    st.manager.history ⊆ next.manager.history := by
  simp only [loadBeamBlock, bind_eq_ok, pure_eq_ok] at loaded
  obtain ⟨⟨block, taken⟩, took, rfl⟩ := loaded
  rw [setNextKey_history]
  change st.manager.history ⊆ taken.history
  exact history_getFreeBlock took

theorem loadBeamBlock_matched (loaded : loadBeamBlock cfg plat seq ret st beam = .ok next) :
    next.numMatchedTokens = st.numMatchedTokens := by
  simp only [loadBeamBlock, bind_eq_ok, pure_eq_ok] at loaded
  obtain ⟨_, _, rfl⟩ := loaded
  rfl

/-- A loop keeps what each of its rounds keeps, as long as its end is clean: the
history of every round is part of the last one. -/
theorem foldlM_spared {σ α : Type} (manager : σ → WindowBlockManager) (invariant : σ → Prop)
    {body : σ → α → Except Failure σ} {items : List α}
    (grows : ∀ {st item next}, body st item = .ok next →
      (manager st).history ⊆ (manager next).history)
    (round : ∀ st item next, item ∈ items → invariant st → body st item = .ok next →
      Spared front (manager next) → invariant next) {start ends : σ} (initially : invariant start)
    (looped : items.foldlM body start = .ok ends) (spared : Spared front (manager ends)) :
    invariant ends := by
  revert spared
  refine List.foldlM_invariant (fun st => Spared front (manager st) → invariant st)
    ?_ (fun _ => initially) looped
  intro st item next mem kept stepped spared
  exact round st item next mem (kept (spared.mono (grows stepped))) stepped spared

theorem loadUnsharedBlock_ok
    (loaded : loadUnsharedBlock cfg plat seq st ret = .ok next) :
    ∃ ended, (List.range seq.beamWidth).foldlM (loadBeamBlock cfg plat seq ret)
        st = .ok ended ∧ next = { ended with blockKeys := ended.blockKeys.tail } := by
  simp only [loadUnsharedBlock, bind_eq_ok, pure_eq_ok] at loaded
  obtain ⟨ended, loop, rfl⟩ := loaded
  exact ⟨ended, loop, rfl⟩

theorem history_loadUnsharedBlock (loaded : loadUnsharedBlock cfg plat seq st ret = .ok next) :
    st.manager.history ⊆ next.manager.history := by
  obtain ⟨ended, loop, rfl⟩ := loadUnsharedBlock_ok loaded
  change st.manager.history ⊆ ended.manager.history
  refine List.foldlM_invariant
    (fun after : LoadState => st.manager.history ⊆ after.manager.history) ?_ (fun _ => id) loop
  intro before beam after _ grown stepped branch mem
  exact history_loadBeamBlock stepped (grown mem)

theorem Filling.loadUnsharedBlock (filling : Filling cfg mode front live prog seq st.manager)
    (isLive : live seq.requestId) (loaded : loadUnsharedBlock cfg plat seq st ret = .ok next)
    (spared : Spared front next.manager) : Filling cfg mode front live prog seq next.manager := by
  obtain ⟨ended, loop, rfl⟩ := loadUnsharedBlock_ok loaded
  change Filling cfg mode front live prog seq ended.manager
  refine foldlM_spared LoadState.manager (fun st => Filling cfg mode front live prog seq st.manager)
    history_loadBeamBlock ?_ filling loop spared
  intro before beam after mem filling stepped spared
  exact filling.loadBeamBlock isLive (List.mem_range.mp mem) stepped spared

theorem loadUnsharedBlock_matched (loaded : loadUnsharedBlock cfg plat seq st ret = .ok next) :
    next.numMatchedTokens = st.numMatchedTokens := by
  obtain ⟨ended, loop, rfl⟩ := loadUnsharedBlock_ok loaded
  change ended.numMatchedTokens = st.numMatchedTokens
  refine List.foldlM_invariant
    (fun after : LoadState => after.numMatchedTokens = st.numMatchedTokens) ?_ rfl loop
  intro before beam after _ same stepped
  exact (loadBeamBlock_matched stepped).trans same

/-! ## Adding a sequence -/

theorem beamBlocks_emptySequence (beamWidth fill beam : Nat) :
    (emptySequence beamWidth fill).beamBlocks beam = [] := by
  unfold SequenceBlocks.beamBlocks emptySequence
  rw [List.getD_eq_getElem?_getD, List.getElem?_replicate]
  split <;> rfl

theorem DataInv.emplaceSequence (data : DataInv cfg front prog s)
    (unremoved : front seq.requestId = 0) (emplaced : s.emplaceSequence seq = .ok s') :
    DataInv cfg front prog s' := by
  obtain ⟨missing, rfl⟩ := emplaceSequence_ok emplaced
  have lists : ∀ {rid beam idx block}, Lists { s with
      sequences := s.sequences.insert seq.requestId
        (emptySequence seq.beamWidth (2 ^ 31 - 1)) } rid beam idx block →
      Lists s rid beam idx block := by
    rintro rid beam idx block ⟨sq, found, here⟩
    by_cases same : rid = seq.requestId
    · subst same
      rw [AList.lookup_insert] at found
      cases found
      rw [beamBlocks_emptySequence] at here
      cases here
    · dsimp only at found
      rw [AList.lookup_insert_ne same] at found
      exact ⟨sq, found, here⟩
  have same : SameTree s { s with
      sequences := s.sequences.insert seq.requestId
        (emptySequence seq.beamWidth (2 ^ 31 - 1)) } := ⟨rfl, rfl, rfl⟩
  refine data.fewer rfl lists (fun _ => id) ?_ same (fun _ => rfl) fun used =>
    ⟨lists used.1, used.2⟩
  intro rid sq found
  by_cases same : rid = seq.requestId
  · subst same
    rw [AList.lookup_insert] at found
    cases found
    refine ⟨fun mem => ?_, fun single => ?_, .inl unremoved⟩
    · rw [beamBlocks_emptySequence] at mem
      cases mem
    · have one : seq.beamWidth = 1 := by simpa [emptySequence] using single
      simp [emptySequence, one]
  · dsimp only at found
    rw [AList.lookup_insert_ne same] at found
    exact data.beams found

/-- The beginning of the loading loop. -/
theorem Loading.start (keys : List BlockKey) (inv : WindowInv cfg mode front [] [] live s)
    (tree : TreeInv s) (data : DataInv cfg front prog s) (unremoved : front seq.requestId = 0)
    (emplaced : s.emplaceSequence seq = .ok s') :
    Loading cfg mode front (fun r => live r ∨ r = seq.requestId) prog keys seq 0
      ⟨s', some .root, keys, 0⟩ := by
  have missing := (emplaceSequence_ok emplaced).1
  have restarted : DataInv cfg front (prog.load seq.requestId 0) s := by
    refine data.progress_congr (fun other recorded => ?_) fun other => ?_
    · have ne : other ≠ seq.requestId := by
        rintro rfl
        rw [missing] at recorded
        cases recorded
      simp only [Computed.load, update_of_ne ne, implies_true, and_self]
    · by_cases same : other = seq.requestId
      · simp only [Computed.load, same, update_self, le_refl]
      · simp only [Computed.load, update_of_ne same]
        exact data.reused_le other
  refine ⟨inv.emplaceSequence unremoved emplaced, tree.emplaceSequence emplaced,
    restarted.emplaceSequence unremoved emplaced, rfl, ?_, Nat.zero_le _, ?_⟩
  · obtain ⟨_, rfl⟩ := emplaceSequence_ok emplaced
    refine ⟨_, AList.lookup_insert _, ?_, fun beam _ => ?_⟩
    · simp [emptySequence]
    · rw [beamBlocks_emptySequence]
      rfl
  · rintro node ⟨⟩
    exact ⟨(Nat.zero_mul _).symm, .inl .root⟩

/-- Loading ends with the matched tokens in the blocks of every beam. -/
theorem DataInv.addSequenceReuse (data : DataInv cfg front prog s)
    (inv : WindowInv cfg mode front [] [] live s) (tree : TreeInv s)
    {inputLength numContextBlocks : Nat} {req' : LlmRequest}
    (unremoved : front seq.requestId = 0) (own : prog.own seq.requestId = req.kvAt)
    (added : s.addSequenceReuse cfg plat seq inputLength numContextBlocks req =
      .ok (s', seq', req')) (clean : Clean front s') : req'.prepopulatedPromptLen < req.promptLen ∧
      DataInv cfg front (prog.load seq.requestId req'.prepopulatedPromptLen) s' ∧
      Covered cfg s' seq req'.prepopulatedPromptLen := by
  obtain ⟨emplaced, blockKeys, prepopulated, emplaceOk, cut, loadOk, _, advanced⟩ :=
    addSequenceReuse_ok added
  obtain ⟨short, same⟩ := setPrepopulatedPromptLen_ok advanced
  have reused : req'.prepopulatedPromptLen = prepopulated := by rw [same]
  rw [reused]
  have isLive : live seq.requestId ∨ seq.requestId = seq.requestId := .inr rfl
  simp only [loadOrAllocateBlocks, bind_eq_ok, pure_eq_ok, Prod.mk.injEq] at loadOk
  obtain ⟨shared, first, last, second, rfl, rfl⟩ := loadOk
  have later : shared.manager.history ⊆ last.manager.history := List.foldlM_invariant
      (fun st : LoadState => shared.manager.history ⊆ st.manager.history)
      (fun _ _ _ _ grown stepped _ mem => history_loadUnsharedBlock stepped (grown mem))
      (fun _ => id) second
  have count : last.numMatchedTokens = shared.numMatchedTokens := List.foldlM_invariant
      (fun st : LoadState => st.numMatchedTokens = shared.numMatchedTokens)
      (fun _ _ _ _ same stepped => (loadUnsharedBlock_matched stepped).trans same) rfl second
  have loaded := (Loading.start blockKeys inv tree data unremoved emplaceOk).rounds isLive
    (promptKeys_cuts cut) own first (clean.mono later)
  have start : Filling cfg mode front (fun r => live r ∨ r = seq.requestId)
      (prog.load seq.requestId shared.numMatchedTokens) seq shared.manager := by
    refine ⟨loaded.inv, loaded.tree, loaded.data, ?_⟩
    simp only [Computed.load, update_self]
    exact loaded.covered
  have filled := foldlM_spared LoadState.manager
    (fun st => Filling cfg mode front (fun r => live r ∨ r = seq.requestId)
      (prog.load seq.requestId shared.numMatchedTokens) seq st.manager)
    history_loadUnsharedBlock
    (fun _ _ _ _ filling stepped spared => filling.loadUnsharedBlock isLive stepped spared)
    start second clean.spared
  have covered := filled.covered
  simp only [Computed.load, update_self] at covered
  rw [count]
  exact ⟨count ▸ short, filled.data, covered⟩

/-! ## Growing a sequence -/

theorem Covered.addBlockToAllBeams (covered : Covered cfg s seq count) :
    Covered cfg (s.addBlockToAllBeams seq block) seq count :=
  List.foldl_invariant (fun st => Covered cfg st seq count)
    (fun _ _ _ covered => covered.addBlockToBeam) covered

theorem Filling.allocateBlock (filling : Filling cfg mode front live prog seq s)
    (isLive : live seq.requestId)
    (allocated : s.allocateBlock cfg plat seq (seq.beamWidth == 1) = .ok s')
    (spared : Spared front s') : Filling cfg mode front live prog seq s' := by
  have inv := filling.inv.allocateBlock isLive allocated
  have tree := filling.tree.allocateBlock allocated
  rcases allocateBlock_ok allocated with ⟨single, block, taken, took, rfl⟩ | ⟨_, loop⟩
  · rw [Spared, addBlockToAllBeams_history] at spared
    have got := filling.data.getFreeBlock filling.inv.core filling.tree took spared
    have unlinked := (filling.tree.getFreeBlock took).unlinked
    have covered := filling.covered.of_same (filling.inv.core.getFreeBlock took).sequences
    obtain ⟨sq, found, width, lengths⟩ := covered
    have one : seq.beamWidth = 1 := beq_iff_eq.mp single
    have only : ∀ beam < seq.beamWidth, (sq.beamBlocks beam).length = (sq.beamBlocks 0).length := by
      intro beam lt
      rw [show beam = 0 by omega]
    refine ⟨inv, tree, got.data.addBlockToAllBeams ⟨sq, found, width, only⟩
      (.of_unused got.unused unlinked fun token _ known => ?_),
      Covered.addBlockToAllBeams ⟨sq, found, width, lengths⟩⟩
    have bound := lengths 0 seq.beamWidth_pos
    omega
  · refine foldlM_spared id (Filling cfg mode front live prog seq) ?_ ?_ filling loop spared
    · intro st beam next stepped
      simp only [bind_eq_ok, pure_eq_ok] at stepped
      obtain ⟨⟨block, taken⟩, took, rfl⟩ := stepped
      change st.history ⊆ taken.history
      exact history_getFreeBlock took
    · intro st beam next mem filling stepped spared
      simp only [bind_eq_ok, pure_eq_ok] at stepped
      obtain ⟨⟨block, taken⟩, took, rfl⟩ := stepped
      have got := filling.inv.core.getFreeBlock took
      refine ⟨?_, ?_, ?_, (filling.covered.of_same got.sequences).addBlockToBeam⟩
      · exact got.core.inv_addBlockToBeam (filling.inv.recorded_of_same got.sequences) isLive
          (fun resident => got.primary (mode.strict_of_resident resident)) beam
      · exact (filling.tree.getFreeBlock took).tree.congr rfl rfl rfl
      · exact filling.data.growBeam filling.inv.core filling.tree filling.covered
          (List.mem_range.mp mem) took spared

theorem sameBlocks_dropReference {toFront : Bool}
    (dropped : dropReference plat s block toFront = .ok s') : SameBlocks s s' := by
  refine ⟨sameTree_dropReference dropped, ?_, ?_, ?_, ?_⟩ <;>
    obtain ⟨_, rfl⟩ := dropReference_ok dropped <;> split <;> rfl

/-- A sequence with one beam no longer relies on a block that it detaches. -/
theorem DataInv.detach (data : DataInv cfg front prog s) (rid : RequestId)
    (removed : Nat) (later : front rid ≤ removed) (same : SameBlocks s s')
    (seqs : s'.sequences = s.sequences) (single : ∀ {sq}, s.sequences.lookup rid = some sq →
      sq.cacheBlockIds.length = 1) : DataInv cfg (update front rid removed) prog s' := by
  have fronts : front ≤ update front rid removed := le_update_self_iff.mpr later
  refine data.fewer same.full (fun listed => listed.of_same seqs)
    (fun _ => Nat.le_trans (fronts _)) ?_ same.toSameTree same.contents ?_
  · rw [seqs]
    intro other sq found
    have beams := data.beams found
    refine ⟨beams.listed, beams.single, ?_⟩
    by_cases here : other = rid
    · exact .inr (single (here ▸ found))
    · rw [update_of_ne here]
      exact beams.attached
  · rintro other beam idx block ⟨listed, relied⟩
    rw [same.valid] at relied
    exact ⟨listed.of_same seqs, relied.imp_left (Nat.le_trans (fronts other))⟩

theorem DataInv.detachLoop (data : DataInv cfg front prog s) {rounds : Nat}
    (covered : Covered cfg s seq count) (removed : seq.numFrontBlocksRemoved = front seq.requestId)
    (looped : detachLoop cfg plat rounds s seq = .ok (s', seq')) :
    DataInv cfg (update front seq.requestId seq'.numFrontBlocksRemoved) prog s' ∧
      Covered cfg s' seq count := by
  let kept := fun (st : WindowBlockManager) (current : GenerationRequest) =>
    current.requestId = seq.requestId ∧ current.beamWidth = seq.beamWidth ∧
      DataInv cfg (update front seq.requestId current.numFrontBlocksRemoved) prog
        st ∧ Covered cfg st seq count
  have ended : kept s' seq' := by
    refine detachLoop_invariant kept ?_ ⟨rfl, rfl, ?_, covered⟩ looped
    · rintro st current next current' _ ⟨id, width, data, covered⟩ detached
      obtain ⟨sq, block, single, _, _, dropping, rfl⟩ := detachFrontBlock_ok detached
      have same := dropReference_sequences dropping
      refine ⟨id, width, ?_, covered.of_same same⟩
      have detached := data.detach seq.requestId (current.numFrontBlocksRemoved + 1)
        (by rw [update_self]; omega) (sameBlocks_dropReference dropping) same
        fun {other} found => by
          obtain ⟨sq, found', beams, _⟩ := covered
          obtain rfl := Option.some.inj (found.symm.trans found')
          rw [beams, ← width, single]
      rwa [Function.update_idem] at detached
    · rw [removed, update_eq_self]
      exact data
  exact ⟨ended.2.2.1, ended.2.2.2⟩

/-- Without a sliding window nothing is detached. -/
theorem detachLoop_whole {rounds : Nat} (whole : cfg.isSWA = false)
    (looped : detachLoop cfg plat rounds s seq = .ok (s', seq')) : seq' = seq := by
  refine detachLoop_invariant (fun _ current => current = seq) ?_ rfl looped
  intro st current next current' sliding
  rw [whole] at sliding
  cases sliding

theorem lookup_modifyRecord {other : RequestId} {sequence' : SequenceBlocks}
    (found : (s.modifySequence rid change).sequences.lookup other = some sequence') :
    ∃ sq, s.sequences.lookup other = some sq ∧ (sequence' = sq ∨ sequence' = change sq) := by
  unfold modifySequence at found
  split at found
  · exact ⟨sequence', found, .inl rfl⟩
  · rename_i sq known
    by_cases same : other = rid
    · subst same
      rw [AList.lookup_insert] at found
      exact ⟨sq, known, .inr (Option.some.inj found).symm⟩
    · rw [AList.lookup_insert_ne same] at found
      exact ⟨sequence', found, .inl rfl⟩

/-- The offset table of a sequence is rewritten. -/
theorem DataInv.modifyRecord (data : DataInv cfg front prog s)
    (blocks : ∀ sq, (change sq).allocatedBlocks = sq.allocatedBlocks)
    (beamIds : ∀ sq, (change sq).cacheBlockIds = sq.cacheBlockIds) :
    DataInv cfg front prog (s.modifySequence rid change) := by
  have lists : ∀ {other beam idx block}, Lists (s.modifySequence rid change) other beam idx block →
        Lists s other beam idx block := by
    rintro other beam idx block ⟨sequence', found, here⟩
    obtain ⟨sq, known, rfl | rfl⟩ := lookup_modifyRecord found
    · exact ⟨sequence', known, here⟩
    · unfold SequenceBlocks.beamBlocks at here
      rw [beamIds] at here
      exact ⟨sq, known, here⟩
  have same : SameTree s (s.modifySequence rid change) := ⟨rfl, rfl, rfl⟩
  refine data.fewer rfl lists (fun _ => id) ?_ same (fun _ => rfl) fun used =>
    ⟨lists used.1, used.2⟩
  intro other sequence' found
  obtain ⟨sq, known, rfl | rfl⟩ := lookup_modifyRecord found
  · exact data.beams known
  · have beams := data.beams known
    refine ⟨fun mem => ?_, fun single => ?_, ?_⟩
    · unfold SequenceBlocks.beamBlocks at mem
      rw [beamIds] at mem
      rw [blocks]
      exact beams.listed mem
    · rw [beamIds] at single ⊢
      rw [blocks]
      exact beams.single single
    · rw [beamIds]
      exact beams.attached

theorem Covered.modifyRecord (covered : Covered cfg s seq count)
    (beamIds : ∀ sq, (change sq).cacheBlockIds = sq.cacheBlockIds) :
    Covered cfg (s.modifySequence seq.requestId change) seq count := by
  obtain ⟨sq, found, width, lengths⟩ := covered
  refine ⟨_, lookup_modifySequence_self found, by rwa [beamIds], fun beam lt => ?_⟩
  unfold SequenceBlocks.beamBlocks
  rw [beamIds]
  exact lengths beam lt

theorem Filling.adjustBlocksIfNeeded (filling : Filling cfg mode front live prog seq s)
    (isLive : live seq.requestId) (removed : seq.numFrontBlocksRemoved = front seq.requestId)
    (adjusted : adjustBlocksIfNeeded cfg plat s seq = .ok (s', seq'))
    (spared : (cfg.isSWA = false ∧ ∀ rid, front rid = 0) ∨
      ∀ block, .tookListed block ∉ s'.history) :
    Filling cfg mode (update front seq.requestId seq'.numFrontBlocksRemoved) live prog seq' s' := by
  obtain ⟨detached, looped, ending⟩ := adjustBlocksIfNeeded_ok adjusted
  obtain ⟨inv, same⟩ := filling.inv.detachLoop removed looped
  obtain ⟨data, covered⟩ := filling.data.detachLoop filling.covered removed looped
  have id : seq'.requestId = seq.requestId := by rw [same]
  have reached : Filling cfg mode
      (update front seq.requestId seq'.numFrontBlocksRemoved) live prog seq'
      detached := by
    refine ⟨inv, filling.tree.detachLoop looped, data, ?_⟩
    rw [same]
    exact covered
  have spares : Spared (update front seq.requestId seq'.numFrontBlocksRemoved) s' := by
    refine spared.imp_left fun ⟨whole, unremoved⟩ => ?_
    rw [detachLoop_whole whole looped, removed, update_eq_self]
    exact unremoved
  rcases ending with ⟨_, allocated, allocating, rfl⟩ | ⟨_, rfl⟩
  · have grown := reached.allocateBlock (by rwa [id]) allocating spares
    exact ⟨grown.inv.modifyRecord fun _ => rfl, grown.tree.congr rfl rfl rfl,
      grown.data.modifyRecord (fun _ => rfl) (fun _ => rfl),
      grown.covered.modifyRecord (fun _ => rfl)⟩
  · exact reached

end TrtLlm.WindowBlockManager
