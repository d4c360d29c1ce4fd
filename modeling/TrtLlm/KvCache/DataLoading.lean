import TrtLlm.KvCache.Beams
import TrtLlm.KvCache.Data

/-! # Loading a sequence from the reuse tree

While a prompt is matched against the tree, other blocks are evicted, offloaded and
onboarded. Each round of the loop adds a block to the sequence that holds the KV of
the sequence's own tokens as far as they are counted as matched.
-/

namespace TrtLlm.WindowBlockManager

open List

open Function (update_self update_of_ne)

variable {cfg : WindowConfig} {plat : Platform} {mode : Mode cfg}
  {front : RequestId → Nat} {prog : Computed} {owed hand : List BlockId}
  {s s' : WindowBlockManager} {block : BlockId} {seq : GenerationRequest}

/-! ## Adding blocks -/

theorem sameBlocks_addBlockToAllBeams (s : WindowBlockManager) (seq : GenerationRequest)
    (block : BlockId) : SameBlocks s (s.addBlockToAllBeams seq block) := by
  refine foldl_invariant (SameBlocks s) (fun state beam _ same => ?_) (.refl s)
  exact same.trans ⟨⟨rfl, rfl, rfl⟩, rfl, rfl, rfl, rfl⟩

variable {beam idx numTokens : Nat} {rid : RequestId} {sq : SequenceBlocks}
  {bkey : BlockKey} {found : BlockMatch} {ret : RetentionPriorityAndDuration}
  {root : Option Node} {state next : LoadState} {count : Nat} {req : LlmRequest} {usable : Nat}
  {keys : List BlockKey}

theorem Beams.pushBlock (beams : Beams front rid sq) (lt : beam < sq.cacheBlockIds.length) :
    Beams front rid (pushBlock block beam sq) := by
  refine ⟨?_, ?_, by simpa using beams.attached⟩
  · intro other id mem
    rw [beamBlocks_pushBlock] at mem
    split at mem
    · rcases mem_append.mp mem with before | last
      · exact mem_append_left _ (beams.listed before)
      · exact mem_append_right _ last
    · exact mem_append_left _ (beams.listed mem)
  · intro single
    rw [length_pushBlock] at single
    obtain rfl : beam = 0 := by omega
    have only := beams.single single
    change sq.cacheBlockIds.modify 0 (· ++ [block]) = _
    rw [only]
    rfl

theorem Beams.pushBeams (beams : Beams front rid sq) (within : count ≤ sq.cacheBlockIds.length) :
    Beams front rid (pushBeams block count sq) := by
  induction count with
  | zero => exact beams
  | succ count ih =>
    rw [pushBeams_succ]
    exact (ih (Nat.le_of_succ_le within)).pushBlock (by rwa [length_pushBeams])

/-- All beams of a sequence have a number of blocks. -/
abbrev Lengths (s : WindowBlockManager) (seq : GenerationRequest) (count : Nat) : Prop :=
  ∃ sequence, s.sequences.lookup seq.requestId = some sequence ∧
    sequence.cacheBlockIds.length = seq.beamWidth ∧
    ∀ beamIdx < seq.beamWidth, (sequence.beamBlocks beamIdx).length = count

/-- A block is added to all beams, which have the same length. -/
theorem DataInv.addBlockToAllBeams (data : DataInv cfg front prog s)
    (lengths : Lengths s seq idx) (fits : Fits cfg front prog s seq.requestId idx block) :
    DataInv cfg front prog (s.addBlockToAllBeams seq block) := by
  obtain ⟨sq, found, width, lengths⟩ := lengths
  refine data.push fits found (sameBlocks_addBlockToAllBeams s seq block)
    (lookup_addBlockToAllBeams found) (fun other => lookup_addBlockToAllBeams_of_ne) ?_
    ((data.beams found).pushBeams (le_of_eq width.symm))
  intro beam
  rw [beamBlocks_pushBeams]
  split
  · rename_i lt
    exact .inr ⟨rfl, lengths beam lt.1⟩
  · exact .inl rfl

/-- A block is added to one beam. -/
theorem DataInv.addBlockToBeam (data : DataInv cfg front prog s)
    (found : s.sequences.lookup rid = some sq) (lt : beam < sq.cacheBlockIds.length)
    (fits : Fits cfg front prog s rid (sq.beamBlocks beam).length block) :
    DataInv cfg front prog (s.addBlockToBeam rid block beam) := by
  refine data.push fits found ⟨⟨rfl, rfl, rfl⟩, rfl, rfl, rfl, rfl⟩ (lookup_addBlockToBeam found)
    (fun other => lookup_addBlockToBeam_of_ne) ?_ ((data.beams found).pushBlock lt)
  intro other
  rw [beamBlocks_pushBlock]
  split
  · rename_i same
    exact .inr ⟨rfl, by rw [same.1]⟩
  · exact .inl rfl

/-! ## Using a match -/

/-- A block whose first tokens are reused can join the sequence at an index: it has
its place in the tree, or else it is outside and nobody relies on it. -/
structure Joins (config : WindowConfig) (front : RequestId → Nat) (progress : Computed)
    (s : WindowBlockManager) (index numTokens : Nat) (block : BlockId) : Prop where
  fresh : numTokens < config.tokensPerBlock → s.prevBlock block = none ∧
    ∀ {other beam place}, ¬Uses front s other beam place block
  depth : ∀ {keys}, Path s (.block block) keys → keys.length = index + 1
  agree : ∀ {other beam place}, Uses front s other beam place block → place = index
  complete : ∀ {other beam place}, Lists s other beam place block → front other ≤ place →
    (place + 1) * config.tokensPerBlock ≤ progress.computed other

theorem Joins.of_unused (unused : ∀ {other beam place}, ¬Uses front s other beam place block)
    (unlinked : s.prevBlock block = none) : Joins cfg front prog s idx numTokens block where
  fresh _ := ⟨unlinked, unused⟩
  depth path := by
    cases path with
    | block linked _ =>
      rw [unlinked] at linked
      cases linked
  agree used := absurd used unused
  complete listed attached := absurd ⟨listed, .inl attached⟩ unused

/-- A block of the tree joins at its depth. -/
theorem DataInv.joins_of_path (data : DataInv cfg front prog s) {par : Node}
    {above : List BlockKey} (linked : s.prevBlock block = some par) (path : Path s par above)
    (whole : cfg.tokensPerBlock ≤ numTokens) :
    Joins cfg front prog s above.length numTokens block where
  fresh short := absurd short (Nat.not_lt_of_le whole)
  depth other := by
    rw [other.unique (.block linked path)]
    exact length_append
  agree used := by
    have depth := data.depth used (.block linked path)
    rw [length_append, length_singleton] at depth
    omega
  complete listed attached := by
    by_contra short
    have unlinked := (data.unshared listed attached (Nat.lt_of_not_le short)).1
    rw [linked] at unlinked
    cases unlinked

theorem Joins.mono (joins : Joins cfg front prog s idx numTokens block)
    (fewer : ∀ {id par}, s'.prevBlock id = some par → s.prevBlock id = some par)
    (keys : s'.blockKey = s.blockKey) (seqs : s'.sequences = s.sequences)
    (valid : ∀ {rid}, s'.isValidStoreForReuseSequence rid = some true →
      s.isValidStoreForReuseSequence rid = some true) :
    Joins cfg front prog s' idx numTokens block := by
  have uses : ∀ {rid beam place}, Uses front s' rid beam place block →
      Uses front s rid beam place block := fun used =>
    ⟨used.1.of_same seqs, used.2.imp_right valid⟩
  refine ⟨fun short => ?_, fun path => ?_, fun used => joins.agree (uses used),
    fun listed => joins.complete (listed.of_same seqs)⟩
  · obtain ⟨unlinked, unused⟩ := joins.fresh short
    refine ⟨Option.eq_none_iff_forall_ne_some.mpr fun par linked => ?_,
      fun used => unused (uses used)⟩
    exact ne_of_linked (fewer linked) unlinked rfl
  · exact joins.depth (path.mono fun linked => ⟨fewer linked, by rw [keys]⟩)

/-- What a match found holds, by the keys on its path. -/
theorem DataInv.contents_matched (data : DataInv cfg front prog s) (tree : TreeInv s)
    (cuts : Cuts cfg req usable keys) {node : Node} (here : keys[idx]? = some bkey)
    (path : Path s node (keys.take idx)) {enablePartialReuse copyOnPartialReuse : Bool}
    (matched : s.findMatchingBlock plat node bkey enablePartialReuse copyOnPartialReuse =
      some found) : s.prevBlock found.block = some node ∧ 0 < found.numMatched ∧
      found.numMatched ≤ cfg.tokensPerBlock ∧
      ∀ token < found.numMatched, s.contents found.block token =
        some (req.kvAt (idx * cfg.tokensPerBlock + token)) := by
  obtain ⟨nonempty, ⟨next, _, count⟩ | ⟨_, _, _, key, child, pos, count⟩⟩ :=
    findMatchingBlock_some matched
  · obtain ⟨key, linked⟩ := tree.entry (mem_of_findNext next)
    refine ⟨linked, ?_, ?_, fun token lt => ?_⟩
    · rw [count]
      exact length_pos_iff.mpr nonempty
    · rw [count]
      exact cuts.length_le here
    · rw [count] at lt
      rw [data.promised linked path token (key ▸ lt), key, cuts.keyKv_eq here lt]
  · obtain ⟨rfl, linked⟩ := tree.entry child
    have last : found.numMatched - 1 < (s.blockKey found.block).partialMatch bkey := by omega
    obtain ⟨_, _, short⟩ := keyKv_of_partialMatch (keys.take idx) last
    refine ⟨linked, pos, ?_, fun token lt => ?_⟩
    · have length := cuts.length_le here
      omega
    · rw [count] at lt
      obtain ⟨same, inKey, inBlock⟩ := keyKv_of_partialMatch (keys.take idx) lt
      rw [data.promised linked path token inKey, same, cuts.keyKv_eq here inBlock]

/-- What holds after a match was used, and still after it was onboarded. -/
structure MatchUsed (config : WindowConfig) (front : RequestId → Nat) (progress : Computed)
    (request : LlmRequest) (index numTokens : Nat) (block : BlockId) (s : WindowBlockManager) :
    Prop where
  data : DataInv config front progress s
  holds : ∀ token < numTokens, s.contents block token =
    some (request.kvAt (index * config.tokensPerBlock + token))
  joins : Joins config front progress s index numTokens block

section

variable (data : DataInv cfg front prog s) (core : Core cfg mode front owed [] hand s)
  (tree : TreeInv s)
include data core tree

/-- A match is copied to a block that was handed out. The block may be the match itself,
which then must not have been overwritten by the eviction. -/
theorem DataInv.copyPartialMatch (bounded : found.block < cfg.numBlocks)
    (holds : ∀ token < found.numMatched, s.contents found.block token =
      some (req.kvAt (idx * cfg.tokensPerBlock + token)))
    (copied : copyPartialMatch cfg plat s rid bkey found = .ok (block, s'))
    (clean : .overwroteSource block ∉ s'.history) (spared : Spared front s') :
    MatchUsed cfg front prog req idx found.numMatched block s' := by
  obtain ⟨taken, took, rfl⟩ := copyPartialMatch_ok copied
  have gotCore := core.getFreeBlock took
  have gotTree := tree.getFreeBlock took
  have gotContents := core.contents_getFreeBlock took
  obtain ⟨handle, free⟩ := gotCore.was_free
  have within := core.queue.free_lt free
  have grown : taken.history ⊆ _ := history_recordIf taken (block == found.block &&
    taken.memoryPoolBlockIndex block != s.memoryPoolBlockIndex found.block) (.overwroteSource block)
  have got := data.getFreeBlock core tree took (spared.mono grown)
  have source : taken.contents found.block = s.contents found.block := by
    by_cases same : found.block = block
    · rw [same]
      refine gotContents.unmoved ?_
      by_contra moved
      refine clean ?_
      change Branch.overwroteSource block ∈ if (block == found.block &&
        taken.memoryPoolBlockIndex block != s.memoryPoolBlockIndex found.block) then _ else _
      rw [same]
      simp [moved]
    · exact gotContents.others found.block bounded same
  have evicted : DataInv cfg front prog
      (taken.copyBlock cfg found.block block found.numMatched) := by
    exact got.data.evict (fun linked => ⟨linked, ne_of_linked linked gotTree.unlinked⟩)
      rfl rfl rfl id
      (gotCore.core.contents_copyBlock found.block within found.numMatched) got.unused
      (gotCore.core.linked_lt gotTree.tree) (gotCore.core.listed_lt got.data)
  refine ⟨?_, ?_, .of_unused got.unused gotTree.unlinked⟩
  · exact (evicted.setBlockKey gotTree.unlinked bkey).frame
      ⟨⟨rfl, rfl, rfl⟩, rfl, rfl, rfl, rfl⟩ rfl
  · intro token lt
    have copy := contents_copied cfg taken found.block block lt
    rw [source] at copy
    exact copy.trans (holds token lt)

/-- A leaf without references leaves the tree and keeps its contents. -/
theorem DataInv.takeLeaf (unreferenced : s.hasRefs block = false)
    (holds : ∀ token < numTokens, s.contents block token =
      some (req.kvAt (idx * cfg.tokensPerBlock + token)))
    (took : s.takeLeaf ret block = .ok s') (spared : Spared front s') :
    MatchUsed cfg front prog req idx numTokens block s' := by
  obtain ⟨leaf, rfl⟩ := takeLeaf_ok took
  have unheld : held front s block = 0 := by
    have counted := core.queue.refCount_eq block
    simp only [hasRefs, decide_eq_false_iff_not] at unreferenced
    omega
  have unlinked := unlinkFromParent_prevBlock (s.recordLeaf block) block
  have same := sameButTree_unlinkFromParent (s.recordLeaf block) block
  generalize (s.recordLeaf block).unlinkFromParent block = freed at unlinked same spared ⊢
  have recorded : s.listedByValid s.isValidStoreForReuseSequence block = true →
      .tookListed block ∈ freed.history := by
    intro listed
    rw [same]
    change Branch.tookListed block ∈ if s.listedByValid s.isValidStoreForReuseSequence block
      then _ else _
    rw [if_pos listed]
    simp
  have seqs : freed.sequences = s.sequences := by rw [same]; rfl
  have valid : freed.isValidStoreForReuseSequence = s.isValidStoreForReuseSequence := by
    rw [same]; rfl
  have contents : ∀ id, freed.contents id = s.contents id := fun id => by rw [same]; rfl
  have unused : ∀ {other beam place}, ¬Uses front (freed.claimBlock block
      ret.retentionPriority ret.durationMs) other beam place block :=
    data.unused_of_unheld unheld spared recorded seqs valid
  refine ⟨data.evict ?_ ?_ ?_ seqs (fun {rid} stores => valid ▸ stores)
      (fun id _ _ => contents id) unused (core.linked_lt tree) (core.listed_lt data),
    fun token lt => ?_, .of_unused unused ?_⟩
  · intro id par linked
    change freed.prevBlock id = some par at linked
    rw [unlinked] at linked
    by_cases here : id = block
    · rw [here, update_self] at linked
      cases linked
    · rw [update_of_ne here] at linked
      exact ⟨linked, here⟩
  · rw [same]
    rfl
  · rw [same]
    rfl
  · exact (congrFun (contents block) token).trans (holds token lt)
  · change freed.prevBlock block = none
    rw [unlinked]
    exact update_self _ _ _

theorem DataInv.useMatch (cuts : Cuts cfg req usable keys) {node : Node}
    (here : keys[idx]? = some bkey) (path : Path s node (keys.take idx))
    {enablePartialReuse copyOnPartialReuse : Bool}
    (matched : s.findMatchingBlock plat node bkey enablePartialReuse copyOnPartialReuse =
      some found) (used : useMatch cfg plat s rid ret bkey found =
      .ok (block, root, s')) (clean : ∀ id, .overwroteSource id ∉ s'.history)
    (spared : Spared front s') : MatchUsed cfg front prog req idx found.numMatched block s' ∧
      ∀ {top}, root = some top → found.numMatched = cfg.tokensPerBlock ∧
        Path s' top (keys.take (idx + 1)) := by
  obtain ⟨linked, pos, short, holds⟩ := data.contents_matched tree cuts here path matched
  have bounded := core.linked_lt tree linked
  rcases useMatch_ok used with ⟨_, rfl, _, copied⟩ | ⟨_, rfl, rfl, unreferenced, took⟩ |
    ⟨whole, rfl, rfl, rfl⟩
  · refine ⟨data.copyPartialMatch core tree bounded holds copied (clean block) spared, ?_⟩
    intro top none
    cases none
  · refine ⟨data.takeLeaf core tree unreferenced holds took spared, ?_⟩
    intro top none
    cases none
  · have within : idx < keys.length := (List.getElem?_eq_some_iff.mp here).1
    have depth : (keys.take idx).length = idx := by
      rw [List.length_take]
      exact Nat.min_eq_left (Nat.le_of_lt within)
    obtain ⟨_, ⟨next, part, count⟩ | ⟨_, _, part, _⟩⟩ := findMatchingBlock_some matched
    · rw [whole] at part
      obtain ⟨key, _⟩ := tree.entry (mem_of_findNext next)
      have full := data.full (show s.isFull found.block = true by simpa using part.symm)
      rw [key, ← count] at full
      have joins := data.joins_of_path linked path (le_of_eq full.symm)
      rw [depth] at joins
      refine ⟨⟨data.frame ⟨⟨rfl, rfl, rfl⟩, rfl, rfl, rfl, rfl⟩ rfl, holds,
        joins.mono id rfl rfl id⟩, ?_⟩
      rintro top ⟨⟩
      refine ⟨full, ?_⟩
      have chain : keys.take (idx + 1) = keys.take idx ++ [s.blockKey found.block] := by
        rw [key, List.take_add_one, here]
        rfl
      rw [chain]
      exact .block linked (path.mono fun before => ⟨before, rfl⟩)
    · rw [whole] at part
      cases part

end

/-- Bringing the block to primary memory may evict other blocks of the tree. -/
theorem MatchUsed.onboardBlock (used : MatchUsed cfg front prog req idx numTokens block s)
    (core : Core cfg mode front owed [] (block :: hand) s) (tree : TreeInv s)
    (onboarded : s.onboardBlock cfg plat rid block = .ok s') (spared : Spared front s') :
    MatchUsed cfg front prog req idx numTokens block s' ∧
      ∀ {node keys}, Path s node keys → Path s' node keys ∨ s'.nextBlocks node = [] := by
  obtain ⟨unqueued, bounded⟩ := core.unqueued block mem_cons_self
  obtain ⟨data, contents⟩ := used.data.onboardBlock core tree (fun _ => unqueued) bounded onboarded
    spared
  have holds : ∀ token < numTokens, s'.contents block token =
      some (req.kvAt (idx * cfg.tokensPerBlock + token)) := fun token lt => by
    rw [contents]
    exact used.holds token lt
  rcases onboardBlock_ok onboarded with ⟨_, rfl⟩ | ⟨_, _, evicted, taken, took, rfl⟩
  · exact ⟨used, .inl⟩
  · have got := tree.getFreeBlock took
    refine ⟨⟨data, holds, used.joins.mono got.fewer got.keys (core.getFreeBlock took).sequences
      fun stores => getFreeBlock_valid took stores⟩, fun path => ?_⟩
    refine (got.path_or_childless path).imp_left fun path => ?_
    exact path.mono fun linked => ⟨linked, rfl⟩

/-! ## The loop over the shared blocks -/

variable {live : RequestId → Prop} {used onboarded : WindowBlockManager}
  {events : List KVCacheEvent}

/-- The loop after `index` rounds. As long as there is a search root, all blocks so far
were matched in full, and the root is where their keys lead, unless it was evicted. -/
structure Loading (config : WindowConfig) (mode : Mode config) (front : RequestId → Nat)
    (live : RequestId → Prop) (progress : Computed) (keys : List BlockKey)
    (seq : GenerationRequest) (index : Nat) (state : LoadState) : Prop where
  inv : WindowInv config mode front [] [] live state.manager
  tree : TreeInv state.manager
  data : DataInv config front (progress.load seq.requestId state.numMatchedTokens) state.manager
  rest : state.blockKeys = keys.drop index
  lengths : ∃ sequence, state.manager.sequences.lookup seq.requestId = some sequence ∧
    sequence.cacheBlockIds.length = seq.beamWidth ∧
    ∀ beamIdx < seq.beamWidth, (sequence.beamBlocks beamIdx).length = index
  matched_le : state.numMatchedTokens ≤ index * config.tokensPerBlock
  root : ∀ {node}, state.searchRoot = some node →
    state.numMatchedTokens = index * config.tokensPerBlock ∧
      (Path state.manager node (keys.take index) ∨ state.manager.nextBlocks node = [])

/-- What no loading or storing may do: overwrite the source of a copy, or take a block
that a sequence may store. -/
structure Clean (front : RequestId → Nat) (s : WindowBlockManager) : Prop where
  source : ∀ block, .overwroteSource block ∉ s.history
  spared : Spared front s

theorem Clean.mono (clean : Clean front s') (grown : s.history ⊆ s'.history) : Clean front s :=
  ⟨fun block mem => clean.source block (grown mem), clean.spared.mono grown⟩

theorem bestPartialMatch_notified (events : List KVCacheEvent) (copyOnPartialReuse : Bool)
    (bkey : BlockKey) (entries : List (BlockKey × BlockId)) (best : Nat × Option BlockId) :
    { s with eventQueue := events }.bestPartialMatch copyOnPartialReuse bkey
      entries best = s.bestPartialMatch copyOnPartialReuse bkey entries best := by
  induction entries generalizing best with
  | nil => rfl
  | cons entry rest ih =>
    unfold bestPartialMatch
    rw [ih, ih]
    rfl

theorem findMatchingBlock_notified (events : List KVCacheEvent)
    (node : Node) (bkey : BlockKey) (enablePartialReuse copyOnPartialReuse : Bool) :
    { s with eventQueue := events }.findMatchingBlock plat node bkey enablePartialReuse
      copyOnPartialReuse = s.findMatchingBlock plat node bkey enablePartialReuse
        copyOnPartialReuse := by
  unfold findMatchingBlock
  rw [bestPartialMatch_notified]
  rfl

theorem DataInv.setNextKey (data : DataInv cfg front prog s)
    (unlinked : s.prevBlock block = none) (blockKeys : List BlockKey) :
    DataInv cfg front prog ((setNextKey cfg s block blockKeys).setHash block) := by
  cases blockKeys with
  | nil => exact data.frame ⟨⟨rfl, rfl, rfl⟩, rfl, rfl, rfl, rfl⟩ rfl
  | cons bkey rest =>
    exact (data.setBlockKey unlinked bkey).frame ⟨⟨rfl, rfl, rfl⟩, rfl, rfl, rfl, rfl⟩ rfl

/-- The lengths of the beams after a block was added to each. -/
theorem lengths_addBlockToAllBeams (lengths : Lengths s seq idx) :
    Lengths (s.addBlockToAllBeams seq block) seq (idx + 1) := by
  obtain ⟨sq, found, width, each⟩ := lengths
  refine ⟨_, lookup_addBlockToAllBeams found, by rwa [length_pushBeams], fun beam lt => ?_⟩
  rw [beamBlocks_pushBeams, if_pos ⟨lt, by rwa [width]⟩, length_append, each beam lt]
  rfl

/-- A round in which no match is accepted takes a free block. -/
theorem Loading.unmatched (loading : Loading cfg mode front live prog keys seq idx state)
    (isLive : live seq.requestId) {taken : WindowBlockManager}
    (took : state.manager.getFreeBlock cfg plat seq.requestId
      (ret.retentionPriority.getD kDefaultRetentionPriority) ret.durationMs =
        .ok (block, taken)) (loaded : loadSharedBlock cfg plat seq state ret = .ok next)
    (ends : next = ⟨(setNextKey cfg (taken.addBlockToAllBeams seq block) block
      state.blockKeys).setHash block, none, state.blockKeys.tail, state.numMatchedTokens⟩)
    (spared : Spared front taken) : Loading cfg mode front live prog keys seq (idx + 1) next := by
  have got := loading.data.getFreeBlock loading.inv.core loading.tree took spared
  have gotCore := loading.inv.core.getFreeBlock took
  have gotTree := loading.tree.getFreeBlock took
  have same := sameBlocks_addBlockToAllBeams taken seq block
  have lengths : Lengths taken seq idx := by
    rw [Lengths, gotCore.sequences]
    exact loading.lengths
  have fits : Fits cfg front (prog.load seq.requestId state.numMatchedTokens) taken
      seq.requestId idx block := by
    refine .of_unused got.unused gotTree.unlinked fun token _ known => ?_
    have bound := loading.matched_le
    simp only [Computed.load, update_self] at known
    omega
  have added := got.data.addBlockToAllBeams lengths fits
  have keyed := added.setNextKey (by rw [same.parents]; exact gotTree.unlinked) state.blockKeys
  have kept : ((setNextKey cfg (taken.addBlockToAllBeams seq block) block
      state.blockKeys).setHash block).sequences =
          (taken.addBlockToAllBeams seq block).sequences := by
    cases state.blockKeys <;> rfl
  have inv := loading.inv.loadSharedBlock isLive loaded
  have tree := loading.tree.loadSharedBlock loaded
  rw [ends] at inv tree ⊢
  refine ⟨inv, tree, keyed, ?_, ?_, ?_, fun none => by cases none⟩
  · rw [loading.rest, tail_drop]
  · rw [kept]
    exact lengths_addBlockToAllBeams lengths
  · exact Nat.le_trans loading.matched_le (Nat.mul_le_mul_right _ (Nat.le_succ _))

theorem Joins.fits (joins : Joins cfg front (prog.load rid count) s idx numTokens block)
    (own : prog.own rid = req.kvAt)
    (holds : ∀ token < numTokens, s.contents block token =
      some (req.kvAt (idx * cfg.tokensPerBlock + token))) : Fits cfg front
      (prog.load rid (idx * cfg.tokensPerBlock + numTokens)) s rid idx block where
  holds token _ known := by
    simp only [Computed.load, update_self] at known
    rw [holds token (by omega)]
    simp only [Computed.load, own]
  fresh pending := by
    simp only [Computed.load, update_self, Nat.add_one_mul] at pending
    obtain ⟨unlinked, unused⟩ := joins.fresh (by omega)
    exact ⟨unlinked, fun used => absurd used unused⟩
  depth := joins.depth
  agree := joins.agree
  others listed attached pending := by
    by_contra ne
    have complete := joins.complete listed attached
    simp only [Computed.load, update_of_ne ne] at complete pending
    omega

/-- The blocks of a sequence of which all blocks are matched in full. -/
theorem whole_of_lengths {place : Nat} (lengths : Lengths s seq idx)
    (listed : Lists s seq.requestId beam place block) : place < idx := by
  obtain ⟨sq, found, width, lengths⟩ := lengths
  obtain ⟨other, found', here⟩ := listed
  obtain rfl := Option.some.inj (found.symm.trans found')
  obtain ⟨bound, _⟩ := List.getElem?_eq_some_iff.mp here
  by_cases lt : beam < seq.beamWidth
  · rwa [lengths beam lt] at bound
  · have empty : sq.beamBlocks beam = [] := by
      unfold SequenceBlocks.beamBlocks
      rw [List.getD_eq_getElem?_getD, List.getElem?_eq_none (by omega)]
      rfl
    rw [empty] at bound
    cases bound

section

variable (loading : Loading cfg mode front live prog keys seq idx state)
  (cuts : Cuts cfg req usable keys)
  (accepted : state.acceptedMatch cfg plat seq = some (bkey, found))
  (useOk : useMatch cfg plat { state.manager with eventQueue := events }
    seq.requestId ret bkey found = .ok (block, root, used))
  (onboardOk : used.onboardBlock cfg plat seq.requestId block = .ok onboarded)
  (clean : Clean front onboarded)
include loading cuts accepted useOk onboardOk clean

/-- A match that is accepted in a round is used and brought to primary memory. -/
theorem Loading.reuse : MatchUsed cfg front (prog.load seq.requestId state.numMatchedTokens) req idx
        found.numMatched block onboarded ∧ onboarded.sequences = state.manager.sequences ∧
      state.numMatchedTokens = idx * cfg.tokensPerBlock ∧
      0 < found.numMatched ∧ found.numMatched ≤ cfg.tokensPerBlock ∧
      ∀ {top}, root = some top → found.numMatched = cfg.tokensPerBlock ∧
        (Path onboarded top (keys.take (idx + 1)) ∨ onboarded.nextBlocks top = []) := by
  obtain ⟨node, rest, searches, current, matched⟩ := acceptedMatch_some accepted
  obtain ⟨exactly, reached⟩ := loading.root searches
  have path : Path state.manager node (keys.take idx) := by
    refine reached.resolve_right fun childless => ?_
    obtain ⟨key, child⟩ := child_of_findMatchingBlock matched
    rw [childless] at child
    cases child
  have here : keys[idx]? = some bkey := by
    rw [loading.rest] at current
    have first := congrArg List.head? current
    rwa [head?_drop] at first
  -- The priority event changes nothing that the data or the tree depend on.
  have same : SameBlocks state.manager { state.manager with eventQueue := events } :=
    ⟨⟨rfl, rfl, rfl⟩, rfl, rfl, rfl, rfl⟩
  have core := loading.inv.core.notified events
  have tree := loading.tree.same same.toSameTree
  have data := loading.data.frame same rfl
  rw [← findMatchingBlock_notified events] at matched
  have climbs : Path { state.manager with eventQueue := events } node (keys.take idx) :=
    path.mono fun linked => ⟨linked, rfl⟩
  have grown := history_onboardBlock onboardOk
  obtain ⟨matchUsed, nextRoot⟩ := data.useMatch core tree cuts here climbs matched useOk
    (fun id mem => clean.source id (grown mem)) (clean.spared.mono grown)
  obtain ⟨linked, pos, short, _⟩ := data.contents_matched tree cuts here climbs matched
  have inHand := core.useMatch (core.linked_lt tree linked) useOk
  obtain ⟨ready, kept⟩ := matchUsed.onboardBlock inHand (tree.useMatch useOk) onboardOk clean.spared
  refine ⟨ready, (sameHolders_match useOk onboardOk).sequences, exactly, pos, short, fun ends => ?_⟩
  obtain ⟨full, climbs⟩ := nextRoot ends
  exact ⟨full, kept climbs⟩

/-- A round in which a match is used. -/
theorem Loading.matched (isLive : live seq.requestId) (own : prog.own seq.requestId = req.kvAt)
    (loaded : loadSharedBlock cfg plat seq state ret = .ok next)
    (same : next = ⟨onboarded.addBlockToAllBeams seq block, root, state.blockKeys.tail,
      state.numMatchedTokens + if 0 < found.numMatched then found.numMatched
        else bkey.uniqueTokens.length⟩) :
    Loading cfg mode front live prog keys seq (idx + 1) next := by
  obtain ⟨ready, seqs, exactly, pos, short, nextRoot⟩ :=
    loading.reuse cuts accepted useOk onboardOk clean
  have count : next.numMatchedTokens = idx * cfg.tokensPerBlock + found.numMatched := by
    rw [same, exactly, if_pos pos]
  have lengths : Lengths onboarded seq idx := by
    rw [Lengths, seqs]
    exact loading.lengths
  -- All earlier blocks are full, so that more can be counted before the block is added.
  have raised : DataInv cfg front (prog.load seq.requestId next.numMatchedTokens)
      onboarded := by
    refine ready.data.raise seq.requestId rfl (fun other ne => ?_) ?_ ?_ fun listed => ?_
    · simp only [Computed.load, update_of_ne ne, and_self]
    · simp only [Computed.load, update_self, count, exactly]
      exact Nat.le_add_right _ _
    · simp only [Computed.load, update_self, le_refl]
    · have before := whole_of_lengths lengths listed
      rw [Computed.load_limit, exactly]
      exact Nat.mul_le_mul_right _ before
  have fits := ready.joins.fits own ready.holds
  rw [← count] at fits
  refine ⟨loading.inv.loadSharedBlock isLive loaded, loading.tree.loadSharedBlock loaded, ?_, ?_,
    ?_, ?_, ?_⟩
  · have added := raised.addBlockToAllBeams lengths fits
    rw [same] at added ⊢
    exact added
  · rw [same, loading.rest]
    exact tail_drop
  · rw [same]
    exact lengths_addBlockToAllBeams lengths
  · rw [count, Nat.add_one_mul]
    omega
  · intro top ends
    rw [same] at ends
    obtain ⟨full, reached⟩ := nextRoot ends
    have added := sameBlocks_addBlockToAllBeams onboarded seq block
    refine ⟨by rw [count, full, Nat.add_one_mul], ?_⟩
    rw [same]
    rw [added.children]
    refine reached.imp_left fun climbs => climbs.mono fun linked => ?_
    exact ⟨by rw [added.parents]; exact linked, by rw [added.keys]⟩

end

/-! The history grows through the loop. -/

theorem history_useMatch (used : useMatch cfg plat s rid ret bkey found =
      .ok (block, root, s')) : s.history ⊆ s'.history := by
  rcases useMatch_ok used with ⟨_, _, _, copied⟩ | ⟨_, _, rfl, _, took⟩ | ⟨_, _, _, rfl⟩
  · obtain ⟨taken, took, rfl⟩ := copyPartialMatch_ok copied
    have marked := history_recordIf taken (block == found.block &&
      taken.memoryPoolBlockIndex block != s.memoryPoolBlockIndex found.block)
        (.overwroteSource block)
    exact fun _ mem => marked (history_getFreeBlock took mem)
  · obtain ⟨_, rfl⟩ := takeLeaf_ok took
    have same := sameButTree_unlinkFromParent (s.recordLeaf found.block) found.block
    rw [same]
    have marked := history_recordIf (s.record (.tookLeaf found.block)) (s.listedByValid
      s.isValidStoreForReuseSequence found.block) (.tookListed found.block)
    exact fun _ mem => marked (mem_append_left _ mem)
  · exact fun _ => id

theorem addBlockToAllBeams_history (s : WindowBlockManager) (seq : GenerationRequest)
    (block : BlockId) : (s.addBlockToAllBeams seq block).history = s.history := by
  refine foldl_invariant (fun state : WindowBlockManager => state.history = s.history) ?_ rfl
  intro state beam _ same
  exact same

theorem setNextKey_history (s : WindowBlockManager) (block : BlockId) (blockKeys : List BlockKey) :
    ((setNextKey cfg s block blockKeys).setHash block).history = s.history := by
  cases blockKeys <;> rfl

theorem history_loadSharedBlock (loaded : loadSharedBlock cfg plat seq state ret = .ok next) :
    state.manager.history ⊆ next.manager.history := by
  rcases loadSharedBlock_ok loaded with
    ⟨_, _, block, _, used, onboarded, _, _, useOk, onboardOk, rfl⟩ | ⟨block, taken, _, took, rfl⟩
  · rw [addBlockToAllBeams_history]
    exact fun _ mem => history_onboardBlock onboardOk (history_useMatch useOk mem)
  · dsimp only
    rw [setNextKey_history, addBlockToAllBeams_history]
    exact history_getFreeBlock took

theorem Loading.round (loading : Loading cfg mode front live prog keys seq idx state)
    (isLive : live seq.requestId) (cuts : Cuts cfg req usable keys)
    (own : prog.own seq.requestId = req.kvAt)
    (loaded : loadSharedBlock cfg plat seq state ret = .ok next)
    (clean : Clean front next.manager) :
    Loading cfg mode front live prog keys seq (idx + 1) next := by
  rcases loadSharedBlock_ok loaded with
    ⟨bkey, found, block, root, used, onboarded, _, accepted, useOk, onboardOk, same⟩ |
    ⟨block, taken, rejected, took, same⟩
  · refine loading.matched cuts accepted useOk onboardOk (clean.mono ?_) isLive own loaded same
    rw [same, addBlockToAllBeams_history]
    exact fun _ => id
  · refine loading.unmatched isLive took loaded same (clean.spared.mono ?_)
    rw [same, setNextKey_history, addBlockToAllBeams_history]
    exact fun _ => id

theorem Loading.rounds {ends : LoadState} {retentions : List RetentionPriorityAndDuration}
    (loading : Loading cfg mode front live prog keys seq idx state)
    (isLive : live seq.requestId) (cuts : Cuts cfg req usable keys)
    (own : prog.own seq.requestId = req.kvAt)
    (looped : retentions.foldlM (loadSharedBlock cfg plat seq) state = .ok ends)
    (clean : Clean front ends.manager) :
    Loading cfg mode front live prog keys seq (idx + retentions.length) ends := by
  induction retentions generalizing idx state with
  | nil =>
    simp only [foldlM_nil, Except.pure_eq_ok] at looped
    exact looped ▸ loading
  | cons ret rest ih =>
    simp only [foldlM_cons, Except.bind_eq_ok] at looped
    obtain ⟨next, stepped, continued⟩ := looped
    have later : next.manager.history ⊆ ends.manager.history := foldlM_invariant
        (fun state : LoadState => next.manager.history ⊆ state.manager.history)
        (fun _ _ _ _ grown stepped _ mem => history_loadSharedBlock stepped (grown mem))
        (fun _ => id) continued
    have after := ih (loading.round isLive cuts own stepped (clean.mono later)) continued
    rwa [Nat.add_assoc, Nat.add_comm 1, ← length_cons (a := ret)] at after

end TrtLlm.WindowBlockManager
