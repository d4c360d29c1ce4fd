import TrtLlm.KvCache.ServingData

/-! # Reuse serves own data

When a sequence is added, the blocks of its reused prefix hold the KV of its own tokens,
in every run of a window without sliding in which no call spoils the contents of a block.
-/

namespace TrtLlm

open KVCacheManager WindowBlockManager

namespace WindowBlockManager

/-- Every beam of a sequence has its first tokens in its blocks. -/
def HoldsPrefix (config : WindowConfig) (s : WindowBlockManager) (requestId : RequestId)
    (beamWidth : Nat) (request : LlmRequest) (count : Nat) : Prop :=
  ∃ sequence, s.sequences.lookup requestId = some sequence ∧
    ∀ beamIdx < beamWidth, ∀ position < count, ∃ block,
      (sequence.beamBlocks beamIdx)[position / config.tokensPerBlock]? = some block ∧
        s.contents block (position % config.tokensPerBlock) = some (request.kvAt position)

end WindowBlockManager

namespace Serving

variable {cfg : WindowConfig} {plat : Platform} {t : Serving} {v : OneWindow}
  {rid : RequestId} {request : LlmRequest}

/-- What is reused is in the blocks of every beam. -/
theorem Inv.holdsPrefix (inv : Inv cfg t v) {seq : GenerationRequest}
    (found : v.sequences.lookup rid = some seq) (attached : v.front rid = 0)
    (known : t.requests rid = some request)
    (reused : request.prepopulatedPromptLen = t.computed rid) :
    HoldsPrefix cfg v.window rid seq.beamWidth request request.prepopulatedPromptLen := by
  obtain ⟨sequence, recorded, _, lengths⟩ := inv.covered found
  rw [inv.core.ids found] at recorded
  refine ⟨sequence, recorded, fun beam lt position before => ?_⟩
  have pos := cfg.tokensPerBlock_pos
  have reached : position / cfg.tokensPerBlock < (sequence.beamBlocks beam).length := by
    rw [Nat.div_lt_iff_lt_mul pos]
    exact Nat.lt_of_lt_of_le (reused ▸ before) (lengths beam lt)
  refine ⟨_, List.getElem?_eq_getElem reached, ?_⟩
  have limit : t.progress.limit rid beam = request.prepopulatedPromptLen := by
    unfold Computed.limit
    split
    · exact reused.symm
    · simp only [progress, known, Option.elim_some]
  have used : Uses v.front v.window rid beam (position / cfg.tokensPerBlock)
      (sequence.beamBlocks beam)[position / cfg.tokensPerBlock] :=
    ⟨⟨sequence, recorded, List.getElem?_eq_getElem reached⟩, .inl (attached ▸ Nat.zero_le _)⟩
  have written := inv.data.written used (position % cfg.tokensPerBlock) (Nat.mod_lt position pos)
  rw [Nat.div_add_mod' position cfg.tokensPerBlock, limit, own_progress known] at written
  exact written before

/-- In a run of one window without sliding whose calls spare the contents of blocks, a sequence that
is added reuses fewer tokens than its prompt has, and its blocks hold its own KV there. -/
theorem holdsPrefix_of_addSequence (platform : Platform) (config : WindowConfig)
    (whole : config.isSWA = false)
    (reached : Run.Reaches (Serving.step platform)
      (fun t action => t.Proper action ∧ t.Spares platform false action)
      (Serving.initial [config]) t)
    {inputLength beamWidth : Nat} {positive : 0 < beamWidth} {t' : Serving}
    (proper : t.Proper (.call (.addSequence requestId inputLength beamWidth (some request)
      positive)))
    (spares : t.Spares platform false (.call (.addSequence requestId inputLength beamWidth
      (some request) positive)))
    (added : t.step platform (.call (.addSequence requestId inputLength beamWidth (some request)
      positive)) = .ok t') :
    ∃ window request', t'.manager.windows = [(config, window)] ∧
      t'.requests requestId = some request' ∧
      request'.prepopulatedPromptLen < request.promptLen ∧
      HoldsPrefix config window requestId beamWidth request request'.prepopulatedPromptLen := by
  rw [← whole] at reached spares
  obtain ⟨v, inv⟩ := inv_of_reaches reached
  simp only [Serving.step, Except.bind_eq_ok, Except.pure_eq_ok] at added
  obtain ⟨⟨m, output⟩, called, rfl⟩ := added
  change t.manager.Avoids platform true (Branch.spoils config.isSWA) _ at spares
  unfold Avoids at spares
  rw [called] at spares
  rw [inv.manager] at called
  obtain ⟨v', rfl, done⟩ := OneWindow.exec_step called
  have untouched := spares (config, v'.window) List.mem_cons_self
  have calls : t.ProperCall (.addSequence requestId inputLength beamWidth (some request)
    positive) := proper
  have inv' := inv.call calls done untouched
  cases done with
  | storeNothing stores => rcases stores with ⟨_, other⟩ | ⟨_, other⟩ <;> cases other
  | addNoReuse noReuse => cases noReuse
  | @addReuse _ _ _ _ request' _ seq window reuse absent adding =>
    obtain ⟨short, sameKv, _⟩ := inv.addReuse absent adding untouched
    obtain ⟨_, _, _, _, _, _, named, _⟩ := addSequenceReuse_ok adding
    have width : seq.beamWidth = beamWidth := by
      rw [named]
      rfl
    have known : (t.after (.addSequence requestId inputLength beamWidth (some request) positive)
        (OneWindow.manager config ⟨updateSequenceCacheBlockOffsets config window seq,
          v.sequences.insert requestId seq, Function.update v.managed requestId true⟩)
        { request := some request' }).requests requestId = some request' := by
      simp only [Serving.after, Function.update_self]
    refine ⟨_, request', rfl, known, short, ?_⟩
    have holds := inv'.holdsPrefix (AList.lookup_insert _) (inv'.attached whole requestId) known
      (by simp only [Serving.after, Function.update_self, Option.elim_some])
    rw [width] at holds
    unfold HoldsPrefix at holds ⊢
    rwa [sameKv] at holds

/-- Three primary and two secondary blocks of two tokens. -/
def twoLevels : WindowConfig where
  windowSize := 8
  numPrimaryBlocks := 3
  numSecondaryBlocks := 2
  tokensPerBlock := 2
  maxTokenNum := 8
  maxBlocksPerSeq := 4

/-- A request at the beginning of its prompt. -/
def prompt (requestId : RequestId) (tokenIds : List Int32)
    (retention : Option KvCacheRetentionConfig) : LlmRequest where
  requestId := requestId
  uniqueTokens := tokenIds.map fun tokenId => ⟨tokenId, 0⟩
  promptLen := tokenIds.length
  contextChunkSize := tokenIds.length
  kvCacheRetentionConfig := retention

/-- The first block of the prompt is to be evicted before the others, but still offloaded. -/
def firstBlockLow : KvCacheRetentionConfig where
  tokenRangeRetentionConfigs := [⟨0, some 2, ⟨30, by decide⟩, none⟩]

/-- A prompt of five tokens is computed and stored. -/
def storeFive : List Action :=
  [.call (.addSequence 1 5 1 (some (prompt 1 [1, 2, 3, 4, 5] (some firstBlockLow)))),
    .compute 1 fun _ => none, .compute 1 fun _ => none, .compute 1 fun _ => none,
    .compute 1 fun _ => none, .compute 1 fun _ => none, .advance 1 5,
    .call (.removeSequence 1 (some { prompt 1 [1, 2, 3, 4, 5] (some firstBlockLow) with
      contextCurrentPosition := 5 }))]

theorem holdsPrefix_storeFive : ∃ t t',
    (Run.Reaches (Serving.step .plain)
      (fun t action => t.Proper action ∧ t.Spares .plain false action)
      (Serving.initial [twoLevels]) t ∧
      t.step .plain (.call (.addSequence 2 5 1 (some (prompt 2 [1, 2, 3, 9, 9] none)))) = .ok t' ∧
      t'.computed 2 = 3) ∧
    ∃ window request', t'.manager.windows = [(twoLevels, window)] ∧
      t'.requests 2 = some request' ∧ request'.prepopulatedPromptLen < 5 ∧
      HoldsPrefix twoLevels window 2 1 (prompt 2 [1, 2, 3, 9, 9] none)
        request'.prepopulatedPromptLen := by
  obtain ⟨t, reached, proper, spares, t', added, three⟩ : ∃ t, Run.Reaches (Serving.step .plain)
      (fun t action => t.Proper action ∧ t.Spares .plain false action)
      (Serving.initial [twoLevels]) t ∧
      t.Proper (.call (.addSequence 2 5 1 (some (prompt 2 [1, 2, 3, 9, 9] none)))) ∧
      t.Spares .plain false
        (.call (.addSequence 2 5 1 (some (prompt 2 [1, 2, 3, 9, 9] none)))) ∧
      ∃ t', t.step .plain
          (.call (.addSequence 2 5 1 (some (prompt 2 [1, 2, 3, 9, 9] none)))) = .ok t' ∧
        t'.computed 2 = 3 := by
    exact Run.exists_reaches storeFive (by decide +kernel)
  exact ⟨t, t', ⟨reached, added, three⟩,
    holdsPrefix_of_addSequence .plain twoLevels rfl reached proper spares added⟩

/-- Two more sequences take one block each. The first of them moves the first block of the
stored prompt to the head of the secondary queue. -/
def fillPrimary : List Action :=
  storeFive ++ [.call (.addSequence 2 1 1 (some (prompt 2 [7] none))),
    .call (.addSequence 3 1 1 (some (prompt 3 [8] none)))]

/-- The block that a match is to be copied to is freed by offloading another one into the slot of
the match, which is handed out itself: at its reused position the sequence finds the KV of the third
token of the stored prompt. -/
theorem fillPrimary_serves_other : ∃ t, Run.Reaches (Serving.step .plain)
      (fun t action => t.Proper action) (Serving.initial [twoLevels]) t ∧
    (decide (t.Proper (.call (.addSequence 4 2 1 (some (prompt 4 [1, 9] none))))) &&
      match t.step .plain (.call (.addSequence 4 2 1 (some (prompt 4 [1, 9] none)))) with
      | .ok t' => t'.computed 4 == 1 && t'.manager.windows.any fun (_, window) =>
        (window.sequences.lookup 4).any fun sequence =>
          sequence.beamBlocks 0 == [0] &&
            window.contents 0 0 == some ((prompt 1 [1, 2, 3, 4, 5] none).kvAt 2) &&
            window.contents 0 0 != some ((prompt 4 [1, 9] none).kvAt 0)
      | .error _ => false) = true :=
  Run.exists_reaches fillPrimary (by decide +kernel)

/-! ## Live sequences -/

/-- The runs of one window in which no call spoils the contents of a block. -/
abbrev Runs (platform : Platform) (config : WindowConfig) : Serving → Prop :=
  Run.Reaches (Serving.step platform)
    (fun t action => t.Proper action ∧ t.Spares platform config.isSWA action)
    (Serving.initial [config])

/-- A sequence has a block at a place that it has not detached. -/
def Attends (v : OneWindow) (requestId : RequestId) (index : Nat) (block : BlockId) : Prop :=
  v.front requestId ≤ index ∧ Lists v.window requestId 0 index block

variable {index place token : Nat} {block : BlockId}

theorem Inv.contents_of_attends (inv : Inv cfg t v) (attends : Attends v rid index block)
    (known : t.requests rid = some request) (lt : token < cfg.tokensPerBlock)
    (before : index * cfg.tokensPerBlock + token < t.computed rid) :
    v.window.contents block token = some (request.kvAt (index * cfg.tokensPerBlock + token)) := by
  rw [← own_progress known]
  exact inv.data.written ⟨attends.2, .inl attends.1⟩ token lt before

/-- Every live sequence has the KV of its own computed tokens in the blocks that it has not
detached. -/
def ReadsOwn (config : WindowConfig) (t : Serving) : Prop :=
  ∃ v : OneWindow, t.manager = v.manager config ∧ ∀ requestId request position,
    v.live requestId → t.requests requestId = some request → position < t.computed requestId →
    v.front requestId ≤ position / config.tokensPerBlock →
    ∃ block, Attends v requestId (position / config.tokensPerBlock) block ∧
      v.window.contents block (position % config.tokensPerBlock) = some (request.kvAt position)

theorem reads_own (ran : Runs plat cfg t) : ReadsOwn cfg t := by
  obtain ⟨v, inv⟩ := inv_of_reaches ran
  refine ⟨v, inv.manager, fun requestId request position alive known before attached => ?_⟩
  have pos := cfg.tokensPerBlock_pos
  obtain ⟨seq, found⟩ := Option.isSome_iff_exists.mp alive
  obtain ⟨sequence, recorded, _, lengths⟩ := inv.covered found
  rw [inv.core.ids found] at recorded
  have within := (Nat.div_lt_iff_lt_mul pos).mpr (before.trans_le (lengths 0 seq.beamWidth_pos))
  have attends : Attends v requestId _ _ :=
    ⟨attached, sequence, recorded, List.getElem?_eq_getElem within⟩
  have holds := inv.contents_of_attends attends known (Nat.mod_lt position pos)
  rw [Nat.div_add_mod' position cfg.tokensPerBlock] at holds
  exact ⟨_, attends, holds before⟩

/-- Two prompts with a common first block are served at once. -/
def serveTwo : List Action :=
  storeFive ++ [.call (.addSequence 2 4 1 (some (prompt 2 [1, 2, 6, 7] none))),
    .compute 2 fun _ => none, .call (.addSequence 3 3 1 (some (prompt 3 [1, 2, 8] none)))]

theorem reads_own_serveTwo :
    ∃ t, (Runs .plain twoLevels t ∧ t.computed 2 = 3) ∧ ReadsOwn twoLevels t :=
  (Run.exists_reaches serveTwo (by decide +kernel)).imp fun _ checked =>
    ⟨checked, reads_own checked.1⟩

/-- A block that two sequences share is at one place in both and complete, and its tokens have
the same adapter, salt and tokens before them in both. -/
def SharesEqual (config : WindowConfig) (t : Serving) : Prop :=
  ∃ v : OneWindow, t.manager = v.manager config ∧
    ∀ first second index place block request request', first ≠ second →
      Attends v first index block → Attends v second place block →
      t.requests first = some request → t.requests second = some request' →
      index = place ∧ (index + 1) * config.tokensPerBlock ≤ t.computed first ∧
        ∀ token < config.tokensPerBlock, request.kvAt (index * config.tokensPerBlock + token) =
          request'.kvAt (index * config.tokensPerBlock + token)

theorem Inv.complete_of_shared (inv : Inv cfg t v) {other : RequestId} (ne : rid ≠ other)
    (attends : Attends v rid index block) (shares : Attends v other place block) :
    (index + 1) * cfg.tokensPerBlock ≤ t.computed rid := by
  by_contra pending
  obtain ⟨_, alone⟩ := inv.data.unshared attends.2 attends.1 (Nat.lt_of_not_le pending)
  exact ne (alone ⟨shares.2, .inl shares.1⟩).symm

theorem shares_equal (ran : Runs plat cfg t) : SharesEqual cfg t := by
  obtain ⟨v, inv⟩ := inv_of_reaches ran
  refine ⟨v, inv.manager, fun first second index place block _ _ ne here there known known' => ?_⟩
  obtain rfl : index = place :=
    inv.data.agree ⟨here.2, .inl here.1⟩ ⟨there.2, .inl there.1⟩
  have complete := inv.complete_of_shared ne here there
  have complete' := inv.complete_of_shared ne.symm there here
  refine ⟨rfl, complete, fun token lt => ?_⟩
  rw [Nat.add_one_mul] at complete complete'
  have same := inv.contents_of_attends here known lt (by omega)
  rw [inv.contents_of_attends there known' lt (by omega)] at same
  exact (Option.some.inj same).symm

theorem shares_equal_serveTwo :
    ∃ t, (Runs .plain twoLevels t ∧ t.computed 3 = 2) ∧ SharesEqual twoLevels t :=
  (Run.exists_reaches serveTwo (by decide +kernel)).imp fun _ checked =>
    ⟨checked, shares_equal checked.1⟩

end Serving

end TrtLlm
