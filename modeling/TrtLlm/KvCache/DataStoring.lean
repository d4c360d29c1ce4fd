import TrtLlm.KvCache.DataOperations

/-! # Storing computed blocks

The blocks of a sequence go into the reuse tree under the keys of its tokens. What a
key promises is in the block, because only computed tokens have keys, and no sequence
still writes to a block that is stored.
-/

namespace TrtLlm.WindowBlockManager

variable {cfg : WindowConfig} {plat : Platform} {front : RequestId → Nat}
  {prog : Computed} {s s' : WindowBlockManager} {block : BlockId}
  {seq : GenerationRequest} {req : LlmRequest} {usable : Nat} {keys : List BlockKey}

/-- Each block of a list can be stored under the key at its position. -/
structure Storable (config : WindowConfig) (front : RequestId → Nat) (progress : Computed)
    (request : LlmRequest) (keys : List BlockKey) (blocks : List BlockId)
    (s : WindowBlockManager) : Prop where
  holds : ∀ {index : Nat} {block blockKey}, blocks[index]? = some block →
    keys[index]? = some blockKey → ∀ token < blockKey.uniqueTokens.length,
      s.contents block token = some (request.kvAt (index * config.tokensPerBlock + token))
  complete : ∀ {index : Nat} {block blockKey}, blocks[index]? = some block →
    keys[index]? = some blockKey → ∀ {requestId beamIdx place},
      Lists s requestId beamIdx place block → front requestId ≤ place →
        (place + 1) * config.tokensPerBlock ≤ progress.computed requestId
  level : ∀ {index : Nat} {block blockKey}, blocks[index]? = some block →
    keys[index]? = some blockKey → ∀ {requestId beamIdx place},
      Uses front s requestId beamIdx place block → place = index

/-- States with the same contents of blocks and the same sequences. -/
structure SameData (s s' : WindowBlockManager) : Prop where
  memory : s'.memory = s.memory
  slots : s'.memoryPoolBlockIndex = s.memoryPoolBlockIndex
  valid : s'.isValidStoreForReuseSequence = s.isValidStoreForReuseSequence
  sequences : s'.sequences = s.sequences

theorem SameData.contents (same : SameData s s') (block : BlockId) :
    s'.contents block = s.contents block := by
  unfold WindowBlockManager.contents
  rw [same.memory, same.slots]

variable {idx : Nat} {rid : RequestId} {blocks : List BlockId} {sq : SequenceBlocks}

theorem SameData.uses (same : SameData s s') {beam : Nat}
    (used : Uses front s' rid beam idx block) : Uses front s rid beam idx block := by
  obtain ⟨listed, relied⟩ := used
  rw [same.valid] at relied
  exact ⟨listed.of_same same.sequences, relied⟩

/-- The storing loop after some of the keys: the search root is the end of their path. -/
structure StoringData (config : WindowConfig) (front : RequestId → Nat) (progress : Computed)
    (keys : List BlockKey) (s : WindowBlockManager) (index : Nat) (state : StoreState) :
    Prop where
  storing : Storing state
  data : DataInv config front progress state.manager
  path : Path state.manager state.searchRoot (keys.take index)
  same : SameData s state.manager

theorem take_succ_of_getElem? {α : Type} {items : List α} {item : α}
    (here : items[idx]? = some item) : items.take (idx + 1) = items.take idx ++ [item] := by
  rw [List.take_add_one, here]
  rfl

theorem StoringData.storeOrMatch {st : StoreState}
    (storing : StoringData cfg front prog keys s idx st) (cuts : Cuts cfg req usable keys)
    (storable : Storable cfg front prog req keys blocks s) {bkey : BlockKey}
    (nonempty : bkey.uniqueTokens ≠ []) (key : keys[idx]? = some bkey)
    (here : blocks[idx]? = some block)
    (clean : .relinked block ∉ (storeOrMatch cfg plat st bkey block).manager.history) :
    StoringData cfg front prog keys s (idx + 1) (storeOrMatch cfg plat st bkey block) := by
  have stored := storing.storing.storeOrMatch nonempty clean
  rcases storeOrMatch_cases cfg plat st bkey block with
    ⟨child, needed, mem, same⟩ | ⟨unmatched, same⟩
  · rw [same] at stored ⊢
    obtain ⟨childKey, par⟩ := storing.storing.tree.entry mem
    refine ⟨stored, storing.data, ?_, storing.same⟩
    rw [take_succ_of_getElem? key, ← childKey]
    exact .block par storing.path
  · rw [same] at stored clean ⊢
    have unlinked := unlinked_of_clean clean
    have lt : idx < keys.length := (List.getElem?_eq_some_iff.mp key).1
    refine ⟨stored, ?_, ?_, ?_⟩
    · refine storing.data.insertBlock storing.storing.tree unlinked storing.path ?_ ?_ ?_
      · intro token within
        rw [storing.same.contents, cuts.keyKv_eq key within]
        exact storable.holds here key token within
      · intro rid beam place listed
        exact storable.complete here key (listed.of_same storing.same.sequences)
      · intro rid beam place used
        rw [List.length_take_of_le (Nat.le_of_lt lt)]
        exact storable.level here key (storing.same.uses used)
    · have inserted : (insertBlock cfg st.manager st.searchRoot bkey block).blockKey
          block = bkey := Function.update_self _ _ _
      have linked : (insertBlock cfg st.manager st.searchRoot bkey block).prevBlock
          block = some st.searchRoot := Function.update_self _ _ _
      have path := Path.block linked (storing.path.insertBlock unlinked)
      rw [inserted] at path
      rw [take_succ_of_getElem? key]
      exact path
    · exact ⟨storing.same.memory, storing.same.slots, storing.same.valid, storing.same.sequences⟩

theorem history_storeLoop (pairs : List (BlockKey × BlockId)) (pinBlocks : Bool) (st : StoreState) :
    st.manager.history ⊆ (storeLoop cfg plat pinBlocks pairs st).manager.history := by
  refine storeLoop_invariant
    (fun after => st.manager.history ⊆ after.manager.history) ?_ fun _ => id
  intro before key block _ _ grown branch mem
  exact history_pinRoot pinBlocks _ (history_storeOrMatch cfg plat before key block (grown mem))

/-- The loop is followed by the position of the next key. -/
theorem StoringData.storeLoop {st : StoreState} (storing : StoringData cfg front prog keys s idx st)
    (cuts : Cuts cfg req usable keys) (storable : Storable cfg front prog req keys blocks s)
    (nonempty : ∀ bkey ∈ keys, bkey.uniqueTokens ≠ [])
    (clean : ∀ block, .relinked block ∉ (storeLoop cfg plat false
      ((keys.zip blocks).drop idx) st).manager.history) :
    DataInv cfg front prog (storeLoop cfg plat false ((keys.zip blocks).drop idx) st).manager := by
  generalize left : (keys.zip blocks).drop idx = pairs at clean ⊢
  induction pairs generalizing idx st with
  | nil => exact storing.data
  | cons pair rest ih =>
    obtain ⟨bkey, block⟩ := pair
    have first : (keys.zip blocks)[idx]? = some (bkey, block) := by
      have head := congrArg List.head? left
      rwa [List.head?_drop] at head
    obtain ⟨key, here⟩ := List.getElem?_zip_eq_some.mp first
    have later : (keys.zip blocks).drop (idx + 1) = rest := by
      rw [← List.drop_drop, left]
      rfl
    unfold WindowBlockManager.storeLoop at clean ⊢
    split at clean
    · rename_i bounded
      rw [if_pos bounded]
      refine ih ?_ later clean
      refine storing.storeOrMatch cuts storable (nonempty _ (List.mem_of_getElem? key)) key here
        fun mem => clean block (history_storeLoop rest false _ mem)
    · rename_i outside
      rw [if_neg outside]
      exact storing.data

theorem DataInv.storeBlocks (data : DataInv cfg front prog s) (tree : TreeInv s)
    (cuts : Cuts cfg req usable keys) (storable : Storable cfg front prog req keys blocks s)
    (nonempty : ∀ key ∈ keys, key.uniqueTokens ≠ [])
    (clean : ∀ block, .relinked block ∉ (storeBlocks cfg plat s keys blocks false).2.history) :
    DataInv cfg front prog (storeBlocks cfg plat s keys blocks false).2 := by
  unfold WindowBlockManager.storeBlocks at clean ⊢
  dsimp only at clean ⊢
  rw [enqueueStoredEvent_history] at clean
  have start : StoringData cfg front prog keys s 0 { manager := s } :=
    ⟨⟨tree, ⟨[], .root⟩, fun unneeded => by cases unneeded⟩, data, .root, ⟨rfl, rfl, rfl, rfl⟩⟩
  have stored := start.storeLoop cuts storable nonempty clean
  rw [enqueueStoredEvent_eq]
  exact stored.frame ⟨⟨rfl, rfl, rfl⟩, rfl, rfl, rfl, rfl⟩ rfl

/-! ## What a sequence stores -/

/-- Full blocks of computed tokens can be stored while the sequence goes on. -/
theorem DataInv.storable_live (data : DataInv cfg front prog s)
    (found : s.sequences.lookup req.requestId = some sq)
    (own : prog.own req.requestId = req.kvAt) (whole : front req.requestId = 0)
    (cuts : Cuts cfg req usable keys) (computed : usable ≤ prog.computed req.requestId)
    (full : ∀ {idx : Nat} {bkey}, keys[idx]? = some bkey →
      bkey.uniqueTokens.length = cfg.tokensPerBlock) :
    Storable cfg front prog req keys (sq.beamBlocks 0) s := by
  have uses : ∀ {idx block}, (sq.beamBlocks 0)[idx]? = some block →
      Uses front s req.requestId 0 idx block := fun here =>
    ⟨⟨sq, found, here⟩, .inl (whole ▸ Nat.zero_le _)⟩
  refine ⟨?_, ?_, ?_⟩
  · intro idx block bkey here key token lt
    rw [← own]
    refine data.written (uses here) token (Nat.lt_of_lt_of_le lt (cuts.length_le key)) ?_
    exact Nat.lt_of_lt_of_le (cuts.position_lt key lt) computed
  · intro idx block bkey here key rid beam place listed attached
    by_contra pending
    obtain ⟨_, alone⟩ := data.unshared listed attached (Nat.lt_of_not_le pending)
    obtain rfl := alone (uses here)
    obtain rfl := data.agree (uses here) ⟨listed, .inl attached⟩
    have last := cuts.position_lt key (Nat.pred_lt (by
      rw [full key]
      exact Nat.pos_iff_ne_zero.mp cfg.tokensPerBlock_pos))
    rw [full key, Nat.pred_eq_sub_one] at last
    rw [Nat.add_one_mul] at pending
    omega
  · intro idx block bkey here key rid beam place used
    exact data.agree used (uses here)

theorem Lists.of_erase {other : RequestId} {beam place : Nat}
    (listed : Lists { s with sequences := s.sequences.erase rid } other beam place block) :
    Lists s other beam place block ∧ other ≠ rid := by
  obtain ⟨sq, looked, here⟩ := listed
  obtain ⟨before, ne⟩ := AList.lookup_of_erase looked
  exact ⟨⟨sq, before, here⟩, ne⟩

section

variable (data : DataInv cfg front prog s) (found : s.sequences.lookup rid = some sq)
  (single : sq.cacheBlockIds.length = 1)
  (valid : s.isValidStoreForReuseSequence rid = some true)
include data found single valid

/-- A sequence relies on all of its blocks while it is valid. -/
theorem DataInv.uses_of_valid (here : sq.allocatedBlocks[idx]? = some block) :
    Uses front s rid 0 idx block := by
  refine ⟨⟨sq, found, ?_⟩, .inr valid⟩
  unfold SequenceBlocks.beamBlocks
  rw [(data.beams found).single single]
  exact here

/-- All blocks of a sequence that ends can be stored while it is valid. -/
theorem DataInv.storable_released
    (own : prog.own rid = req.kvAt) (cuts : Cuts cfg req usable keys)
    (computed : usable ≤ prog.computed rid) :
    Storable cfg front prog req keys sq.allocatedBlocks
      { s with sequences := s.sequences.erase rid } := by
  have uses : ∀ {idx block}, sq.allocatedBlocks[idx]? = some block →
      Uses front s rid 0 idx block := data.uses_of_valid found single valid
  refine ⟨?_, ?_, ?_⟩
  · intro idx block bkey here key token lt
    rw [← own]
    refine data.written (uses here) token (Nat.lt_of_lt_of_le lt (cuts.length_le key)) ?_
    exact Nat.lt_of_lt_of_le (cuts.position_lt key lt) computed
  · intro idx block bkey here key other beam place listed attached
    by_contra pending
    obtain ⟨before, ne⟩ := listed.of_erase
    obtain ⟨_, alone⟩ := data.unshared before attached (Nat.lt_of_not_le pending)
    exact ne (alone (uses here)).symm
  · intro idx block bkey here key other beam place used
    exact data.agree ⟨used.1.of_erase.1, used.2⟩ (uses here)

end

/-! ## Releasing -/

theorem DataInv.eraseSequence (data : DataInv cfg front prog s) (rid : RequestId) :
    DataInv cfg front prog { s with sequences := s.sequences.erase rid } := by
  have same : SameTree s { s with sequences := s.sequences.erase rid } := ⟨rfl, rfl, rfl⟩
  refine data.fewer rfl (fun listed => listed.of_erase.1) (fun _ => id) ?_ same (fun _ => rfl)
    fun used => ⟨used.1.of_erase.1, used.2⟩
  intro other sq looked
  exact data.beams (AList.lookup_of_erase looked).1

theorem sameBlocks_releaseReferences (blocks : List BlockId) (s : WindowBlockManager) :
    SameBlocks s (blocks.foldl (releaseReference plat) s) := by
  refine List.foldl_invariant (SameBlocks s) (fun st block _ same => same.trans ?_) (.refl s)
  unfold releaseReference
  dsimp only
  split
  · split <;> exact ⟨⟨rfl, rfl, rfl⟩, rfl, rfl, rfl, rfl⟩
  · exact ⟨⟨rfl, rfl, rfl⟩, rfl, rfl, rfl, rfl⟩

/-- A sequence stores the blocks of its computed tokens and gives up its references. -/
theorem DataInv.releaseBlocks (data : DataInv cfg front prog s) (tree : TreeInv s)
    {stored : Option LlmRequest} (computed : ∀ req, stored = some req →
      prog.own seq.requestId = req.kvAt ∧
        req.getUsableUniqueTokenCountForReuse ≤ prog.computed seq.requestId)
    (single : ∀ {sq}, stored.isSome → s.sequences.lookup seq.requestId = some sq →
      sq.cacheBlockIds.length = 1) (released : s.releaseBlocks cfg plat seq stored = .ok s')
    (clean : ∀ block, .relinked block ∉ s'.history) : DataInv cfg front prog s' := by
  obtain ⟨sq, ended, found, storing, rfl⟩ := releaseBlocks_ok released
  rw [releaseReferences_history] at clean
  refine DataInv.frame ?_ (sameBlocks_releaseReferences _ ended)
    (releaseReferences_sequences _ ended)
  have erased := data.eraseSequence seq.requestId
  rcases storeReleased_ok storing with rfl | ⟨req, keys, rfl, valid, built, rfl⟩
  · exact erased
  · obtain ⟨own, known⟩ := computed req rfl
    have storable := data.storable_released found (single rfl found) valid own
      (reuseKeys_cuts built) known
    exact erased.storeBlocks (tree.congr rfl rfl rfl) (reuseKeys_cuts built) storable
      (reuseKeys_ne_nil built) clean

theorem sameBlocks_refresh (s : WindowBlockManager) : SameBlocks s (s.refresh plat) :=
  refresh_invariant (SameBlocks s) (fun _ same => same.trans ⟨⟨rfl, rfl, rfl⟩, rfl, rfl, rfl, rfl⟩)
    (fun _ _ same => same.trans ⟨⟨rfl, rfl, rfl⟩, rfl, rfl, rfl, rfl⟩) (.refl s)

/-! ## Validity marks -/

/-- The marks of sequences without blocks do not matter, and a mark may be lost. -/
theorem DataInv.marks (data : DataInv cfg front prog s)
    {valid : RequestId → Option Bool}
    (kept : ∀ {rid}, (s.sequences.lookup rid).isSome →
      valid rid = some true → s.isValidStoreForReuseSequence rid = some true) :
    DataInv cfg front prog { s with isValidStoreForReuseSequence := valid } := by
  have same : SameTree s { s with isValidStoreForReuseSequence := valid } := ⟨rfl, rfl, rfl⟩
  refine data.fewer rfl id (fun _ => id) data.beams same (fun _ => rfl) ?_
  rintro rid beam idx block ⟨listed, relied⟩
  refine ⟨listed, relied.imp_right (kept ?_)⟩
  obtain ⟨sq, found, _⟩ := listed
  rw [found]
  rfl

/-- Only the counts of sequences with blocks matter. -/
theorem DataInv.transport (data : DataInv cfg front prog s) {front' : RequestId → Nat}
    (agree : ∀ rid, (s.sequences.lookup rid).isSome →
      front' rid = front rid) : DataInv cfg front' prog s := by
  have fronts : ∀ {rid beam idx block}, Lists s rid beam idx block → front' rid = front rid := by
    rintro rid beam idx block ⟨sq, found, _⟩
    exact agree rid (by rw [found]; rfl)
  refine data.fewer rfl id (fun listed => ?_) ?_ (.refl s) (fun _ => rfl) ?_
  · rw [fronts listed]
    exact id
  · intro rid sq found
    have beams := data.beams found
    refine ⟨beams.listed, beams.single, ?_⟩
    rw [agree rid (by rw [found]; rfl)]
    exact beams.attached
  · rintro rid beam idx block ⟨listed, relied⟩
    exact ⟨listed, by rwa [fronts listed] at relied⟩

end TrtLlm.WindowBlockManager
