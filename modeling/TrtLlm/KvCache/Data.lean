import TrtLlm.KvCache.Contents

/-! # Whose KV the blocks hold

A block in the reuse tree holds the KV that the keys on its path promise, and a block that a
sequence relies on the sequence's own KV as far as it is computed. A block that is still to be
written is not in the tree, and one sequence only relies on it.
-/

namespace TrtLlm

open List

open Function (update update_self update_of_ne)

/-- What has been computed for each sequence: the KV of its tokens by position, and up
to which position it is in the cache, for the first beam and for the others. -/
structure Computed where
  own : RequestId → Nat → Kv
  computed : RequestId → Nat
  reused : RequestId → Nat

/-- The first position of a beam that is not known to be in the cache. -/
def Computed.limit (progress : Computed) (requestId : RequestId) (beamIdx : Nat) : Nat :=
  if beamIdx = 0 then progress.computed requestId else progress.reused requestId

/-- The matched tokens of a sequence that is being loaded are computed. -/
def Computed.load (progress : Computed) (requestId : RequestId) (count : Nat) : Computed :=
  { progress with
    computed := Function.update progress.computed requestId count
    reused := Function.update progress.reused requestId count }

theorem Computed.load_limit (prog : Computed) (rid : RequestId) (count b : Nat) :
    (prog.load rid count).limit rid b = count := by
  simp [limit, load]

namespace WindowBlockManager

variable {cfg : WindowConfig} {plat : Platform} {front : RequestId → Nat}
  {prog : Computed} {s s' : WindowBlockManager} {block : BlockId} {node : Node}
  {keys : List BlockKey}

/-- The block at an index of a beam of a live sequence. -/
def Lists (s : WindowBlockManager) (requestId : RequestId) (beamIdx index : Nat)
    (block : BlockId) : Prop :=
  ∃ sequence, s.sequences.lookup requestId = some sequence ∧
    (sequence.beamBlocks beamIdx)[index]? = some block

/-- A sequence relies on the blocks it has not detached, and on all of its blocks
while it may still store them. -/
def Uses (front : RequestId → Nat) (s : WindowBlockManager) (requestId : RequestId)
    (beamIdx index : Nat) (block : BlockId) : Prop :=
  Lists s requestId beamIdx index block ∧
    (front requestId ≤ index ∨ s.isValidStoreForReuseSequence requestId = some true)

/-- The blocks of the beams are allocated blocks; with one beam they are the same list,
and only then blocks are detached. -/
structure Beams (front : RequestId → Nat) (requestId : RequestId) (sequence : SequenceBlocks) :
    Prop where
  listed : ∀ {beamIdx block}, block ∈ sequence.beamBlocks beamIdx →
    block ∈ sequence.allocatedBlocks
  single : sequence.cacheBlockIds.length = 1 →
    sequence.cacheBlockIds = [sequence.allocatedBlocks]
  attached : front requestId = 0 ∨ sequence.cacheBlockIds.length = 1

structure DataInv (config : WindowConfig) (front : RequestId → Nat) (progress : Computed)
    (s : WindowBlockManager) : Prop where
  promised : ∀ {block parent above}, s.prevBlock block = some parent → Path s parent above →
    ∀ token < (s.blockKey block).uniqueTokens.length,
      s.contents block token = some (keyKv above (s.blockKey block) token)
  full : ∀ {block}, s.isFull block = true →
    (s.blockKey block).uniqueTokens.length = config.tokensPerBlock
  written : ∀ {requestId beamIdx index block}, Uses front s requestId beamIdx index block →
    ∀ token < config.tokensPerBlock,
      index * config.tokensPerBlock + token < progress.limit requestId beamIdx →
        s.contents block token =
          some (progress.own requestId (index * config.tokensPerBlock + token))
  unshared : ∀ {requestId beamIdx index block}, Lists s requestId beamIdx index block →
    front requestId ≤ index →
    progress.computed requestId < (index + 1) * config.tokensPerBlock →
      s.prevBlock block = none ∧ ∀ {other beam place}, Uses front s other beam place block →
        other = requestId
  depth : ∀ {requestId beamIdx index block keys}, Uses front s requestId beamIdx index block →
    Path s (.block block) keys → keys.length = index + 1
  agree : ∀ {requestId beamIdx index block other beam place},
    Uses front s requestId beamIdx index block → Uses front s other beam place block →
      index = place
  beams : ∀ {requestId sequence}, s.sequences.lookup requestId = some sequence →
    Beams front requestId sequence
  reused_le : ∀ requestId, progress.reused requestId ≤ progress.computed requestId

/-- States that agree on everything but the sequences. -/
structure SameBlocks (s s' : WindowBlockManager) : Prop extends SameTree s s' where
  full : s'.isFull = s.isFull
  memory : s'.memory = s.memory
  slots : s'.memoryPoolBlockIndex = s.memoryPoolBlockIndex
  valid : s'.isValidStoreForReuseSequence = s.isValidStoreForReuseSequence

theorem SameBlocks.contents (same : SameBlocks s s') (block : BlockId) :
    s'.contents block = s.contents block := by
  unfold WindowBlockManager.contents
  rw [same.memory, same.slots]

theorem SameBlocks.path (same : SameBlocks s s') (path : Path s' node keys) : Path s node keys :=
  path.mono fun linked => ⟨same.parents ▸ linked, by rw [same.keys]⟩

theorem SameBlocks.refl (s : WindowBlockManager) : SameBlocks s s :=
  ⟨.refl s, rfl, rfl, rfl, rfl⟩

theorem SameBlocks.trans {s'' : WindowBlockManager} (first : SameBlocks s s')
    (second : SameBlocks s' s'') : SameBlocks s s'' :=
  ⟨first.toSameTree.trans second.toSameTree, second.full.trans first.full,
    second.memory.trans first.memory, second.slots.trans first.slots,
    second.valid.trans first.valid⟩

theorem Lists.of_same {rid : RequestId} {b idx : Nat} (listed : Lists s' rid b idx block)
    (seqs : s'.sequences = s.sequences) : Lists s rid b idx block := by
  unfold Lists at listed ⊢
  rwa [seqs] at listed

section

variable (data : DataInv cfg front prog s)
include data

section

variable {front' : RequestId → Nat} (full : s'.isFull = s.isFull)
  (lists : ∀ {rid b idx block}, Lists s' rid b idx block → Lists s rid b idx block)
  (attached : ∀ {rid b idx block}, Lists s' rid b idx block → front' rid ≤ idx → front rid ≤ idx)
  (beams : ∀ {rid seq}, s'.sequences.lookup rid = some seq → Beams front' rid seq)
include full lists attached beams

/-- Links, blocks that are listed and blocks that are relied on may be lost, and the contents of
the others as well. -/
theorem DataInv.weaken (keys : s'.blockKey = s.blockKey)
    (links : ∀ {id par}, s'.prevBlock id = some par →
      s.prevBlock id = some par ∧ s'.contents id = s.contents id)
    (uses : ∀ {rid b idx block}, Uses front' s' rid b idx block → Uses front s rid b idx block ∧
      s'.contents block = s.contents block) : DataInv cfg front' prog s' := by
  have path : ∀ {node keys}, Path s' node keys → Path s node keys := fun path =>
    path.mono fun linked => ⟨(links linked).1, by rw [keys]⟩
  refine ⟨?_, ?_, ?_, ?_, ?_, ?_, beams, data.reused_le⟩
  · intro block par above linked climbs
    rw [keys, (links linked).2]
    exact data.promised (links linked).1 (path climbs)
  · intro block
    rw [full, keys]
    exact data.full
  · intro rid b idx block used
    rw [(uses used).2]
    exact data.written (uses used).1
  · intro rid b idx block listed reached pending
    obtain ⟨unlinked, alone⟩ := data.unshared (lists listed) (attached listed reached) pending
    refine ⟨Option.eq_none_iff_forall_ne_some.mpr fun par linked => ?_,
      fun used => alone (uses used).1⟩
    exact ne_of_linked (links linked).1 unlinked rfl
  · intro rid b idx block keys used climbs
    exact data.depth (uses used).1 (path climbs)
  · intro rid b idx block other beam place used used'
    exact data.agree (uses used).1 (uses used').1

/-- Sequences that are gone, blocks that are no longer listed and marks that are lost
leave less to show. -/
theorem DataInv.fewer (same : SameTree s s')
    (contents : ∀ block, s'.contents block = s.contents block)
    (uses : ∀ {rid b idx block}, Uses front' s' rid b idx block → Uses front s rid b idx block) :
    DataInv cfg front' prog s' :=
  data.weaken full lists attached beams same.keys
    (fun linked => ⟨same.parents ▸ linked, contents _⟩) fun used => ⟨uses used, contents _⟩

end

/-- A change of fields that the invariant does not look at. -/
theorem DataInv.frame (same : SameBlocks s s')
    (seqs : s'.sequences = s.sequences) : DataInv cfg front prog s' := by
  refine data.fewer same.full (fun listed => listed.of_same seqs) (fun _ => id) ?_ same.toSameTree
    same.contents ?_
  · rw [seqs]
    exact data.beams
  · rintro rid b idx block ⟨listed, relied⟩
    exact ⟨listed.of_same seqs, by rwa [same.valid] at relied⟩

/-- What is computed matters only for sequences with blocks, and their KV only as far as it
is computed. -/
theorem DataInv.progress_congr {progress' : Computed}
    (computed : ∀ rid, (s.sequences.lookup rid).isSome →
      progress'.computed rid = prog.computed rid ∧ progress'.reused rid = prog.reused rid ∧
        ∀ pos < prog.computed rid, progress'.own rid pos = prog.own rid pos)
    (reused : ∀ rid, progress'.reused rid ≤ progress'.computed rid) :
    DataInv cfg front progress' s := by
  have agree : ∀ {rid b idx block}, Lists s rid b idx block →
      progress'.computed rid = prog.computed rid ∧ progress'.reused rid = prog.reused rid ∧
        ∀ pos < prog.computed rid, progress'.own rid pos = prog.own rid pos := by
    rintro rid b idx block ⟨seq, found, _⟩
    exact computed rid (by rw [found]; rfl)
  refine ⟨data.promised, data.full, ?_, ?_, data.depth, data.agree, data.beams, reused⟩
  · intro rid b idx block used token lt known
    obtain ⟨same, again, own⟩ := agree used.1
    have limits : progress'.limit rid b = prog.limit rid b := by
      unfold Computed.limit
      rw [same, again]
    have below : prog.limit rid b ≤ prog.computed rid := by
      unfold Computed.limit
      split
      · exact le_rfl
      · exact data.reused_le rid
    rw [limits] at known
    rw [own _ (Nat.lt_of_lt_of_le known below)]
    exact data.written used token lt known
  · intro rid b idx block listed
    rw [(agree listed).1]
    exact data.unshared listed

/-! ## Eviction -/

/-- A block that nobody relies on any more leaves the tree, and its contents may change. -/
theorem DataInv.evict (fewer : ∀ {id par}, s'.prevBlock id = some par →
      s.prevBlock id = some par ∧ id ≠ block)
    (keys : s'.blockKey = s.blockKey) (full : s'.isFull = s.isFull)
    (seqs : s'.sequences = s.sequences)
    (valid : ∀ {rid}, s'.isValidStoreForReuseSequence rid = some true →
      s.isValidStoreForReuseSequence rid = some true) (others : KeepsOthers cfg s block s')
    (unused : ∀ {rid b idx}, ¬Uses front s' rid b idx block)
    (linked_lt : ∀ {id par}, s.prevBlock id = some par → id < cfg.numBlocks)
    (listed_lt : ∀ {rid b idx id}, Lists s rid b idx id →
      id < cfg.numBlocks) : DataInv cfg front prog s' := by
  refine data.weaken full (fun listed => listed.of_same seqs) (fun _ => id) ?_ keys
    (fun linked => ?_) fun {rid b idx id} used => ?_
  · rw [seqs]
    exact data.beams
  · obtain ⟨before, ne⟩ := fewer linked
    exact ⟨before, others _ (linked_lt before) ne⟩
  · have listed := used.1.of_same seqs
    have ne : id ≠ block := fun same => unused (same ▸ used)
    exact ⟨⟨listed, used.2.imp_right valid⟩, others _ (listed_lt listed) ne⟩

end

/-- Either blocks are never detached, or no block was taken that a sequence may store. -/
def Spared (front : RequestId → Nat) (s : WindowBlockManager) : Prop :=
  (∀ requestId, front requestId = 0) ∨ ∀ block, .tookListed block ∉ s.history

theorem Spared.mono (spared : Spared front s') (grown : s.history ⊆ s'.history) : Spared front s :=
  spared.imp_right fun clean block mem => clean block (grown mem)

variable {b idx : Nat} {rid other : RequestId} {seq : SequenceBlocks} {sequence' : SequenceBlocks}

theorem Beams.mem_drop (beams : Beams front rid seq)
    (here : (seq.beamBlocks b)[idx]? = some block) (attached : front rid ≤ idx) :
    block ∈ seq.allocatedBlocks.drop (front rid) := by
  rcases beams.attached with whole | single
  · rw [whole, drop_zero]
    exact beams.listed (mem_of_getElem? here)
  · have only := beams.single single
    unfold SequenceBlocks.beamBlocks at here
    rw [only] at here
    cases b with
    | zero =>
      refine mem_of_getElem? (i := idx - front rid) ?_
      rw [getElem?_drop, Nat.add_sub_cancel' attached]
      exact here
    | succ b => simp at here

section Taking

variable {mode : Mode cfg} {owed hand : List BlockId}

theorem Core.listed_lt (core : Core cfg mode front owed [] hand s)
    (data : DataInv cfg front prog s) (listed : Lists s rid b idx block) :
    block < cfg.numBlocks := by
  obtain ⟨seq, found, here⟩ := listed
  exact core.queue.listed_lt found ((data.beams found).listed (mem_of_getElem? here))

theorem Core.linked_lt (core : Core cfg mode front owed [] hand s) (tree : TreeInv s)
    {par : Node} (linked : s.prevBlock block = some par) : block < cfg.numBlocks :=
  core.children_lt (tree.linked linked)

/-- A sequence holds the blocks that it lists and has not detached. -/
theorem DataInv.held_of_attached (data : DataInv cfg front prog s)
    (listed : Lists s rid b idx block) (attached : front rid ≤ idx) : 0 < held front s block := by
  obtain ⟨seq, found, here⟩ := listed
  have mem := (data.beams found).mem_drop here attached
  have counted : (seq.allocatedBlocks.drop (front rid)).count block ≤
      held front s block :=
    AList.le_total_of_lookup (fun rid seq =>
      (seq.allocatedBlocks.drop (front rid)).count block) found
  exact Nat.lt_of_lt_of_le (count_pos_iff.mpr mem) counted

/-- Nobody relies on a block that is not held, unless a sequence may store it. -/
theorem DataInv.unused_of_unheld (data : DataInv cfg front prog s)
    (unheld : held front s block = 0) {valid : RequestId → Option Bool}
    {t : WindowBlockManager} (spared : Spared front t)
    (recorded : s.listedByValid valid block = true → .tookListed block ∈ t.history)
    (seqs : s'.sequences = s.sequences) (marks : s'.isValidStoreForReuseSequence = valid) :
    ¬Uses front s' rid b idx block := by
  rintro ⟨listed, relied⟩
  replace listed := listed.of_same seqs
  have detached : ¬front rid ≤ idx := fun attached =>
    absurd unheld (Nat.pos_iff_ne_zero.mp (data.held_of_attached listed attached))
  have stores := relied.resolve_left detached
  rcases spared with whole | clean
  · exact detached (by rw [whole]; exact Nat.zero_le _)
  · have unlisted := Bool.eq_false_iff.mpr fun listed => clean block (recorded listed)
    obtain ⟨seq, found, here⟩ := listed
    rw [marks] at stores
    have absent := any_eq_false.mp unlisted ⟨rid, seq⟩ (AList.mem_lookup_iff.mp found)
    simp only [stores, beq_self_eq_true, Bool.and_true, Bool.not_eq_true] at absent
    have mem := (data.beams found).listed (mem_of_getElem? here)
    rw [← contains_iff_mem, absent] at mem
    cases mem

/-- What holds after a block was handed out. -/
structure DataTaken (config : WindowConfig) (front : RequestId → Nat) (progress : Computed)
    (block : BlockId) (s' : WindowBlockManager) : Prop where
  data : DataInv config front progress s'
  unused : ∀ {requestId beamIdx index}, ¬Uses front s' requestId beamIdx index block

theorem invalidateOwner_true (valid : s.invalidateOwner rid block other = some true) :
    s.isValidStoreForReuseSequence other = some true := by
  unfold invalidateOwner at valid
  cases owned : s.blockToSequence block with
  | none => simpa only [owned] using valid
  | some owner =>
    simp only [owned] at valid
    split at valid
    · by_cases same : other = owner
      · rw [same, update_self] at valid
        cases valid
      · rwa [update_of_ne same] at valid
    · exact valid

/-- The last owner is marked invalid unless it takes the block itself, so that the sequences that
list the block and stay valid are the others and the taker. -/
theorem listedByValid_invalidateOwner (s : WindowBlockManager) (rid : RequestId)
    (block : BlockId) :
    s.listedByValid (s.invalidateOwner rid block) block = s.listedUnowned rid block := by
  unfold listedByValid listedUnowned
  congr 1
  funext entry
  congr 1
  unfold invalidateOwner
  cases owned : s.blockToSequence block with
  | none => simp
  | some owner =>
    by_cases same : entry.1 = owner
    · subst same
      cases marked : s.isValidStoreForReuseSequence entry.1 <;> by_cases own : rid = entry.1 <;>
        simp [marked, own]
    · have other : owner ≠ entry.1 := fun eq => same eq.symm
      dsimp only
      split <;> simp [update_of_ne same, other]

theorem chooseFreeBlock_marks (chose : s.chooseFreeBlock cfg plat = .ok (block, s')) :
    s'.sequences = s.sequences ∧ s'.isValidStoreForReuseSequence = s.isValidStoreForReuseSequence ∧
      s'.isFull = s.isFull := by
  obtain ⟨_, _, _, ⟨_, _, rfl⟩ | ⟨_, _, rfl⟩⟩ := chooseFreeBlock_ok chose <;>
    exact ⟨rfl, rfl, rfl⟩

/-- Taking a block can only end the validity of a sequence. -/
theorem getFreeBlock_valid {prio : RetentionPriority} {dur : Option Nat}
    (took : s.getFreeBlock cfg plat rid prio dur = .ok (block, s'))
    (valid : s'.isValidStoreForReuseSequence other = some true) :
    s.isValidStoreForReuseSequence other = some true := by
  obtain ⟨chosen, pruned, chose, freed, rfl⟩ := getFreeBlock_ok took
  have same := freeChildren_ok freed
  rw [same] at valid
  rw [← (chooseFreeBlock_marks chose).2.1]
  exact invalidateOwner_true (s := chosen) valid

section

variable (data : DataInv cfg front prog s) (core : Core cfg mode front owed [] hand s)
  (tree : TreeInv s)
include data core tree

/-- A block that no sequence relies on afterwards is handed out. -/
theorem DataInv.getFreeBlock {prio : RetentionPriority} {dur : Option Nat}
    (took : s.getFreeBlock cfg plat rid prio dur = .ok (block, s'))
    (spared : Spared front s') : DataTaken cfg front prog block s' := by
  have gotTree := tree.getFreeBlock took
  have gotCore := core.getFreeBlock took
  have gotContents := core.contents_getFreeBlock took
  obtain ⟨handle, free⟩ := gotCore.was_free
  obtain ⟨chosen, pruned, chose, freed, rfl⟩ := getFreeBlock_ok took
  obtain ⟨seqs, _, full⟩ := chooseFreeBlock_marks chose
  have same := freeChildren_ok freed
  have marks : ((pruned.claimBlock block (some prio) dur).recordOwner rid
      block).isValidStoreForReuseSequence = chosen.invalidateOwner rid block := by
    rw [same]
    rfl
  have recorded : s.listedByValid (chosen.invalidateOwner rid block) block = true →
      .tookListed block ∈ ((pruned.claimBlock block (some prio) dur).recordOwner rid
        block).history := by
    intro listed
    rw [same]
    change Branch.tookListed block ∈ if chosen.listedUnowned rid block then _ else _
    rw [← listedByValid_invalidateOwner, listedByValid, seqs, ← listedByValid, if_pos listed]
    simp
  have unused : ∀ {other b idx}, ¬Uses front ((pruned.claimBlock block (some prio)
      dur).recordOwner rid block) other b idx block :=
    data.unused_of_unheld (core.queue.free_unheld free).1 spared recorded gotCore.sequences marks
  refine ⟨data.evict ?_ gotTree.keys ?_ gotCore.sequences (getFreeBlock_valid took)
    gotContents.others unused (core.linked_lt tree) (core.listed_lt data), unused⟩
  · exact fun linked => ⟨gotTree.fewer linked, ne_of_linked linked gotTree.unlinked⟩
  · rw [same]
    exact full

/-- The contents of a block move with it to primary memory. -/
theorem DataInv.onboardBlock {offloadBlock : BlockId}
    (unqueued : (cfg.onboardBlocks && !s.isPrimary offloadBlock) = true →
      s.freeBlockIterators offloadBlock = none) (bounded : offloadBlock < cfg.numBlocks)
    (onboarded : s.onboardBlock cfg plat rid offloadBlock = .ok s') (spared : Spared front s') :
    DataInv cfg front prog s' ∧ s'.contents offloadBlock = s.contents offloadBlock := by
  rcases onboardBlock_ok onboarded with ⟨_, rfl⟩ | ⟨onboards, secondary, block, taken, took, rfl⟩
  · exact ⟨data, rfl⟩
  · have got := data.getFreeBlock core tree took spared
    have gotCore := core.getFreeBlock took
    have gotTree := tree.getFreeBlock took
    have kept := core.contents_onboardBlock took offloadBlock
    obtain ⟨handle, free⟩ := gotCore.was_free
    have ne : offloadBlock ≠ block := by
      rintro rfl
      rw [unqueued (by simp [onboards, secondary])] at free
      cases free
    have keptTaken : KeepsOthers cfg taken block
        ((taken.copyBlock cfg offloadBlock block 0).swapMemoryPoolBlockOffset offloadBlock block) :=
      contents_exchange gotCore.core.slots (core.queue.free_lt free)
    exact ⟨got.data.evict (fun linked => ⟨linked, ne_of_linked linked gotTree.unlinked⟩) rfl rfl rfl
      id keptTaken got.unused (gotCore.core.linked_lt gotTree.tree)
      (gotCore.core.listed_lt got.data), kept offloadBlock bounded ne⟩

/-- A block is moved to the slot of a free block outside the tree. -/
theorem DataInv.offloadBlock (offloaded : s.offloadBlock cfg plat block = .ok s')
    (clean : ∀ target, .overwroteLinked target ∉ s'.history) (spared : Spared front s') :
    DataInv cfg front prog s' := by
  rcases offloadBlock_ok offloaded with rfl | ⟨_, target, flag, took, rfl⟩
  · exact data
  · obtain ⟨handle, free⟩ := core.queue.free_of_policy took
    have bounded := core.queue.free_lt free
    have exchanged : KeepsOthers cfg s target
        ((s.copyBlock cfg block target 0).swapMemoryPoolBlockOffset block target) :=
      contents_exchange core.slots bounded
    have unlinked : s.prevBlock target = none := by
      cases linked : s.prevBlock target with
      | none => rfl
      | some par =>
        refine absurd ?_ (clean target)
        refine history_recordIf _ _ _ ?_
        simp [recordIf, linked]
    refine data.evict (fun linked => ⟨linked, ne_of_linked linked unlinked⟩) rfl rfl
      rfl id exchanged
      (data.unused_of_unheld (core.queue.free_unheld free).1 spared (fun listed => ?_) rfl rfl)
      (core.linked_lt tree) (core.listed_lt data)
    change s.listedByValid s.isValidStoreForReuseSequence target = true at listed
    change Branch.tookListed target ∈ if s.listedByValid s.isValidStoreForReuseSequence target
      then _ else _
    rw [if_pos listed]
    simp

end

end Taking

/-! ## Giving blocks to a sequence -/

/-- A block can become the block of a sequence at an index. -/
structure Fits (config : WindowConfig) (front : RequestId → Nat) (progress : Computed)
    (s : WindowBlockManager) (requestId : RequestId) (index : Nat) (block : BlockId) : Prop where
  holds : ∀ token < config.tokensPerBlock,
    index * config.tokensPerBlock + token < progress.computed requestId →
      s.contents block token =
        some (progress.own requestId (index * config.tokensPerBlock + token))
  fresh : progress.computed requestId < (index + 1) * config.tokensPerBlock →
    s.prevBlock block = none ∧ ∀ {other beam place}, Uses front s other beam place block →
      other = requestId
  depth : ∀ {keys}, Path s (.block block) keys → keys.length = index + 1
  agree : ∀ {other beam place}, Uses front s other beam place block → place = index
  others : ∀ {other beam place}, Lists s other beam place block → front other ≤ place →
    progress.computed other < (place + 1) * config.tokensPerBlock → other = requestId

/-- A block outside the tree on which nobody relies fits behind what is computed. -/
theorem Fits.of_unused (unused : ∀ {other beam place}, ¬Uses front s other beam place block)
    (unlinked : s.prevBlock block = none) (holds : ∀ token < cfg.tokensPerBlock,
      idx * cfg.tokensPerBlock + token < prog.computed rid → s.contents block token =
          some (prog.own rid (idx * cfg.tokensPerBlock + token))) :
    Fits cfg front prog s rid idx block where
  holds := holds
  fresh _ := ⟨unlinked, fun used => absurd used unused⟩
  depth path := by
    cases path with
    | block linked _ =>
      rw [unlinked] at linked
      cases linked
  agree used := absurd used unused
  others listed attached _ := absurd ⟨listed, .inl attached⟩ unused

theorem Lists.of_grown {place : Nat} {pushed : BlockId} (found : s.sequences.lookup rid = some seq)
    (found' : s'.sequences.lookup rid = some sequence')
    (elsewhere : ∀ other ≠ rid, s'.sequences.lookup other = s.sequences.lookup other)
    (grown : ∀ b, sequence'.beamBlocks b = seq.beamBlocks b ∨
      (sequence'.beamBlocks b = seq.beamBlocks b ++ [pushed] ∧
        (seq.beamBlocks b).length = idx)) (listed : Lists s' other b place block) :
    Lists s other b place block ∨ (other = rid ∧ place = idx ∧ block = pushed) := by
  obtain ⟨kept, looked, here⟩ := listed
  by_cases same : other = rid
  · subst same
    obtain rfl := Option.some.inj (found'.symm.trans looked)
    rcases grown b with unchanged | ⟨longer, length⟩
    · rw [unchanged] at here
      exact .inl ⟨seq, found, here⟩
    · rw [longer] at here
      by_cases before : place < (seq.beamBlocks b).length
      · rw [List.getElem?_append_left before] at here
        exact .inl ⟨seq, found, here⟩
      · rw [List.getElem?_append_right (Nat.le_of_not_lt before)] at here
        obtain ⟨bound, last⟩ := List.getElem?_eq_some_iff.mp here
        simp only [List.length_singleton] at bound
        simp only [List.getElem_singleton] at last
        exact .inr ⟨rfl, by omega, last.symm⟩
  · rw [elsewhere other same] at looked
    exact .inl ⟨kept, looked, here⟩

/-- A block that fits is added at the end of some beams of a sequence. -/
theorem DataInv.push (data : DataInv cfg front prog s) (fits : Fits cfg front prog s rid idx block)
    (found : s.sequences.lookup rid = some seq) (same : SameBlocks s s')
    (found' : s'.sequences.lookup rid = some sequence')
    (elsewhere : ∀ other ≠ rid, s'.sequences.lookup other = s.sequences.lookup other)
    (grown : ∀ b, sequence'.beamBlocks b = seq.beamBlocks b ∨
      (sequence'.beamBlocks b = seq.beamBlocks b ++ [block] ∧
        (seq.beamBlocks b).length = idx)) (beams : Beams front rid sequence') :
    DataInv cfg front prog s' := by
  have lists : ∀ {other b place id}, Lists s' other b place id →
      Lists s other b place id ∨ (other = rid ∧ place = idx ∧ id = block) :=
    Lists.of_grown found found' elsewhere grown
  have uses : ∀ {other b place id}, Uses front s' other b place id →
      Uses front s other b place id ∨ (other = rid ∧ place = idx ∧ id = block) := by
    rintro other b place id ⟨listed, relied⟩
    rw [same.valid] at relied
    exact (lists listed).imp_left fun before => ⟨before, relied⟩
  refine ⟨?_, ?_, ?_, ?_, ?_, ?_, ?_, data.reused_le⟩
  · intro id par above linked climbs
    rw [same.keys, same.contents]
    exact data.promised (same.parents ▸ linked) (same.path climbs)
  · intro id
    rw [same.full, same.keys]
    exact data.full
  · intro other b place id used token lt known
    rw [same.contents]
    rcases uses used with before | ⟨rfl, rfl, rfl⟩
    · exact data.written before token lt known
    · refine fits.holds token lt (Nat.lt_of_lt_of_le known ?_)
      unfold Computed.limit
      split
      · exact le_rfl
      · exact data.reused_le _
  · intro other b place id listed attached pending
    rw [same.parents]
    rcases lists listed with before | ⟨rfl, rfl, rfl⟩
    · obtain ⟨unlinked, alone⟩ := data.unshared before attached pending
      refine ⟨unlinked, fun used => ?_⟩
      rcases uses used with was | ⟨rfl, _, rfl⟩
      · exact alone was
      · exact (fits.others before attached pending).symm
    · obtain ⟨unlinked, alone⟩ := fits.fresh pending
      exact ⟨unlinked, fun used => (uses used).elim alone And.left⟩
  · intro other b place id keys used climbs
    rcases uses used with before | ⟨_, rfl, rfl⟩
    · exact data.depth before (same.path climbs)
    · exact fits.depth (same.path climbs)
  · intro other b place id other' beam place' used used'
    rcases uses used with before | ⟨_, rfl, rfl⟩
    · rcases uses used' with before' | ⟨_, rfl, rfl⟩
      · exact data.agree before before'
      · exact fits.agree before
    · rcases uses used' with before' | ⟨_, rfl, _⟩
      · exact (fits.agree before').symm
      · rfl
  · intro other kept looked
    by_cases here : other = rid
    · subst here
      obtain rfl := Option.some.inj (found'.symm.trans looked)
      exact beams
    · rw [elsewhere other here] at looked
      exact data.beams looked

/-- More is known to be computed once every block of the sequence is full. -/
theorem DataInv.raise (data : DataInv cfg front prog s) (rid : RequestId)
    {progress' : Computed} (own : progress'.own = prog.own)
    (others : ∀ other ≠ rid, progress'.computed other = prog.computed other ∧
      progress'.reused other = prog.reused other)
    (more : prog.computed rid ≤ progress'.computed rid)
    (reused : progress'.reused rid ≤ progress'.computed rid)
    (whole : ∀ {b idx block}, Lists s rid b idx block →
      (idx + 1) * cfg.tokensPerBlock ≤ prog.limit rid b) : DataInv cfg front progress' s := by
  have limits : ∀ {other b}, other ≠ rid → progress'.limit other b = prog.limit other b := by
    intro other b ne
    unfold Computed.limit
    rw [(others other ne).1, (others other ne).2]
  refine ⟨data.promised, data.full, ?_, ?_, data.depth, data.agree, data.beams, ?_⟩
  · intro other b idx block used token lt known
    rw [own]
    refine data.written used token lt ?_
    by_cases same : other = rid
    · subst same
      have full := whole used.1
      rw [Nat.add_one_mul] at full
      omega
    · rwa [limits same] at known
  · intro other b idx block listed attached pending
    refine data.unshared listed attached ?_
    by_cases same : other = rid
    · subst same
      exact Nat.lt_of_le_of_lt more pending
    · rwa [(others other same).1] at pending
  · intro other
    by_cases same : other = rid
    · subst same
      exact reused
    · rw [(others other same).1, (others other same).2]
      exact data.reused_le other

/-! ## Keys and links -/

theorem DataInv.setBlockKey (data : DataInv cfg front prog s)
    (unlinked : s.prevBlock block = none) (key : BlockKey) : DataInv cfg front prog
      (s.setBlockKey block key (fillsBlock cfg key)) := by
  have keyed : ∀ {id par}, s.prevBlock id = some par →
      (s.setBlockKey block key (fillsBlock cfg key)).blockKey id = s.blockKey id :=
    fun linked => update_of_ne (ne_of_linked linked unlinked) _ _
  have path : ∀ {node keys}, Path (s.setBlockKey block key (fillsBlock cfg key)) node keys →
        Path s node keys := fun path => path.mono fun linked => ⟨linked, keyed linked⟩
  refine ⟨?_, ?_, data.written, data.unshared, ?_, data.agree, data.beams, data.reused_le⟩
  · intro id par above linked climbs
    rw [keyed linked]
    exact data.promised linked (path climbs)
  · intro id full
    by_cases same : id = block
    · subst same
      change update s.isFull id (fillsBlock cfg key) id = true at full
      rw [update_self, fillsBlock, beq_iff_eq] at full
      change (update s.blockKey id key id).uniqueTokens.length = _
      rw [update_self]
      exact full
    · change update s.isFull block _ id = true at full
      change (update s.blockKey block key id).uniqueTokens.length = _
      rw [update_of_ne same] at full ⊢
      exact data.full full
  · intro rid b idx id keys used climbs
    exact data.depth used (path climbs)

/-- An inserted block is the end of one new path; the paths of the others stay. -/
theorem Path.of_insertBlock (tree : TreeInv s) {searchRoot : Node} {bkey : BlockKey}
    (unlinked : s.prevBlock block = none) (ne : node ≠ .block block)
    (path : Path (WindowBlockManager.insertBlock cfg s searchRoot bkey block) node keys) :
    Path s node keys := by
  induction path with
  | root => exact .root
  | @block id par keys linked above ih =>
    have other : id ≠ block := fun same => ne (congrArg Node.block same)
    change update s.prevBlock block (some searchRoot) id = some par at linked
    rw [update_of_ne other] at linked
    have outside : par ≠ .block block := by
      rintro rfl
      have child := tree.linked linked
      rw [tree.leaf_of_unlinked unlinked] at child
      cases child
    have key : (WindowBlockManager.insertBlock cfg s searchRoot bkey block).blockKey id =
        s.blockKey id := update_of_ne other _ _
    rw [key]
    exact .block linked (ih outside)

/-- A block whose contents are what its key promises is inserted below a chain of keys. -/
theorem DataInv.insertBlock (data : DataInv cfg front prog s) (tree : TreeInv s)
    {root : Node} {key : BlockKey} {above : List BlockKey}
    (unlinked : s.prevBlock block = none) (climbs : Path s root above)
    (holds : ∀ token < key.uniqueTokens.length,
      s.contents block token = some (keyKv above key token))
    (complete : ∀ {rid b idx}, Lists s rid b idx block → front rid ≤ idx →
        (idx + 1) * cfg.tokensPerBlock ≤ prog.computed rid)
    (level : ∀ {rid b idx}, Uses front s rid b idx block → idx = above.length) :
    DataInv cfg front prog (insertBlock cfg s root key block) := by
  have outside : root ≠ .block block := by
    rintro rfl
    obtain ⟨par, linked⟩ := Path.inTree_linked ⟨above, climbs⟩
    exact ne_of_linked linked unlinked rfl
  have keyed : ∀ {id}, id ≠ block →
      (WindowBlockManager.insertBlock cfg s root key block).blockKey id =
        s.blockKey id := fun ne => update_of_ne ne _ _
  have linkedBefore : ∀ {id par}, id ≠ block →
      (WindowBlockManager.insertBlock cfg s root key block).prevBlock id =
        some par → s.prevBlock id = some par := by
    intro id par ne linked
    change update s.prevBlock block (some root) id = some par at linked
    rwa [update_of_ne ne] at linked
  have linkedNow : (WindowBlockManager.insertBlock cfg s root key block).prevBlock
      block = some root := update_self _ _ _
  have keyNow : (WindowBlockManager.insertBlock cfg s root key block).blockKey
      block = key := update_self _ _ _
  refine ⟨?_, ?_, data.written, ?_, ?_, data.agree, data.beams, data.reused_le⟩
  · intro id par above' linked path
    by_cases same : id = block
    · subst same
      rw [linkedNow] at linked
      cases linked
      obtain rfl := (Path.of_insertBlock tree unlinked outside path).unique climbs
      rw [keyNow]
      exact holds
    · have before := linkedBefore same linked
      have parentOutside : par ≠ .block block := by
        rintro rfl
        have child := tree.linked before
        rw [tree.leaf_of_unlinked unlinked] at child
        cases child
      rw [keyed same]
      exact data.promised before (Path.of_insertBlock tree unlinked parentOutside path)
  · intro id
    exact (data.setBlockKey unlinked key).full
  · intro rid b idx id listed attached pending
    obtain ⟨free, alone⟩ := data.unshared listed attached pending
    have ne : id ≠ block := by
      rintro rfl
      exact absurd (complete listed attached) (Nat.not_le_of_lt pending)
    exact ⟨(update_of_ne ne _ _).trans free, alone⟩
  · intro rid b idx id keys used path
    by_cases same : id = block
    · subst same
      cases path with
      | block linked above' =>
        rw [linkedNow] at linked
        cases linked
        obtain rfl := (Path.of_insertBlock tree unlinked outside above').unique climbs
        rw [length_append, level used]
        rfl
    · exact data.depth used
        (Path.of_insertBlock tree unlinked (fun equal => same (Node.block.inj equal)) path)

/-! ## Writing -/

/-- A kernel writes the KV of one token into the slot of a block. -/
def writeToken (s : WindowBlockManager) (block : BlockId) (token : Nat) (kv : Option Kv) :
    WindowBlockManager :=
  { s with
    memory := Function.update s.memory (s.memoryPoolBlockIndex block)
      (Function.update (s.memory (s.memoryPoolBlockIndex block)) token kv) }

theorem contents_writeToken_self (s : WindowBlockManager) (block : BlockId) (token : Nat)
    (kv : Option Kv) : (s.writeToken block token kv).contents block =
      update (s.contents block) token kv :=
  update_self _ _ _

theorem contents_writeToken_of_ne
    (slots : ∀ {id other}, id < cfg.numBlocks → other < cfg.numBlocks →
      s.memoryPoolBlockIndex id = s.memoryPoolBlockIndex other → id = other)
    (bounded : block < cfg.numBlocks) (token : Nat) (kv : Option Kv) :
    KeepsOthers cfg s block (s.writeToken block token kv) := by
  intro id within ne
  have elsewhere : s.memoryPoolBlockIndex id ≠ s.memoryPoolBlockIndex block :=
    fun same => ne (slots within bounded same)
  exact update_of_ne elsewhere _ s.memory

section Writing

variable {mode : Mode cfg} {owed hand : List BlockId}

/-- A position that is not yet known to be computed may be written in a block outside
the tree. -/
theorem DataInv.writeToken (data : DataInv cfg front prog s)
    (core : Core cfg mode front owed [] hand s) (tree : TreeInv s)
    (bounded : block < cfg.numBlocks) (unlinked : s.prevBlock block = none) {token : Nat}
    (unknown : ∀ {rid b idx}, Uses front s rid b idx block →
      prog.limit rid b ≤ idx * cfg.tokensPerBlock + token)
    (kv : Option Kv) : DataInv cfg front prog (s.writeToken block token kv) := by
  have others := contents_writeToken_of_ne core.slots bounded token kv
  have path : ∀ {node keys}, Path (s.writeToken block token kv) node keys → Path s node keys :=
    fun path => path.mono fun linked => ⟨linked, rfl⟩
  refine ⟨?_, data.full, ?_, data.unshared, ?_, data.agree, data.beams, data.reused_le⟩
  · intro id par above linked climbs
    rw [others id (core.linked_lt tree linked) (ne_of_linked linked unlinked)]
    exact data.promised linked (path climbs)
  · intro rid b idx id used place lt known
    by_cases same : id = block
    · subst same
      have ne : place ≠ token := by
        rintro rfl
        exact absurd known (Nat.not_lt_of_le (unknown used))
      rw [contents_writeToken_self, update_of_ne ne]
      exact data.written used place lt known
    · rw [others id (core.listed_lt data used.1) same]
      exact data.written used place lt known
  · intro rid b idx id keys used climbs
    exact data.depth used (path climbs)

end Writing

/-- The next position of a sequence is known once its first beam holds it. -/
theorem DataInv.advance (data : DataInv cfg front prog s) (rid : RequestId)
    (holds : ∀ {idx token block}, Uses front s rid 0 idx block →
      token < cfg.tokensPerBlock →
      idx * cfg.tokensPerBlock + token = prog.computed rid →
        s.contents block token = some (prog.own rid (prog.computed rid))) :
    DataInv cfg front
      { prog with
        computed := update prog.computed rid
          (prog.computed rid + 1) } s := by
  have grows : prog.computed ≤ update prog.computed rid (prog.computed rid + 1) :=
    le_update_self_iff.mpr (Nat.le_succ _)
  refine ⟨data.promised, data.full, ?_, ?_, data.depth, data.agree, data.beams, ?_⟩
  · intro other b idx block used token lt known
    simp only [Computed.limit] at known
    by_cases next : other = rid ∧ b = 0 ∧ idx * cfg.tokensPerBlock + token = prog.computed rid
    · obtain ⟨rfl, rfl, here⟩ := next
      rw [holds used lt here]
      rw [here]
    · refine data.written used token lt ?_
      unfold Computed.limit
      split at known
      · rename_i first
        rw [if_pos first]
        by_cases same : other = rid
        · subst same
          rw [update_self] at known
          have elsewhere : idx * cfg.tokensPerBlock + token ≠ prog.computed other :=
            fun here => next ⟨rfl, first, here⟩
          omega
        · rwa [update_of_ne same] at known
      · rename_i later
        rw [if_neg later]
        exact known
  · intro other b idx block listed attached pending
    exact data.unshared listed attached (Nat.lt_of_le_of_lt (grows other) pending)
  · exact fun other => (data.reused_le other).trans (grows other)

end WindowBlockManager

end TrtLlm
