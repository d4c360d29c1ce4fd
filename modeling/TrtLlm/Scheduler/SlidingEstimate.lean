import TrtLlm.KvCache.VariableWindows
import TrtLlm.Scheduler.BlockEstimates

/-! # The remaining estimate with a sliding window

The estimate subtracts the blocks that a sequence lists from those that fit the window, with one
more for the block that is taken before the next one is detached. Detached blocks stay in the list,
so the estimate is too low once the tokens of the request need more blocks than the window has.
-/

namespace TrtLlm

open WindowBlockManager List

namespace WindowBlockManager

variable {cfg : WindowConfig} {plat : Platform} {s s' : WindowBlockManager}
  {block : BlockId} {seq seq' : GenerationRequest} {base : BlockId → Nat} {blocks : List BlockId}

/-- The last reference on a primary block is dropped. -/
theorem takes_dropReference {toFront : Bool} (last : s.refCount block = 1)
    (primary : s.isPrimary block = true)
    (dropped : dropReference plat s block toFront = .ok s') : Takes (-1) s s' := by
  obtain ⟨_, rfl⟩ := dropReference_ok dropped
  rw [last, if_pos rfl]
  have level : s.getCacheLevel block = .primary := by
    unfold getCacheLevel
    rw [if_pos primary]
  unfold Takes getNumFreeBlocks
  change _ ≤ Function.update s.numFreeBlocksPerLevel (s.getCacheLevel block)
    (s.numFreeBlocksPerLevel (s.getCacheLevel block) + 1) .primary + -1
  rw [level, Function.update_self]
  omega

/-- Every detached block becomes free, if the sequence has the only reference on each. -/
theorem takes_detachLoop {rounds : Nat}
    (owns : Owns base seq.requestId seq.numFrontBlocksRemoved blocks s)
    (alone : ∀ block ∈ blocks.drop seq.numFrontBlocksRemoved,
      s.refCount block = 1 ∧ s.isPrimary block = true)
    (looped : detachLoop cfg plat rounds s seq = .ok (s', seq')) :
    Takes ((seq.numFrontBlocksRemoved : Int) - seq'.numFrontBlocksRemoved) s s' := by
  induction rounds generalizing s seq with
  | zero =>
    cases looped
    exact (Takes.of_same rfl).mono (by omega)
  | succ rounds ih =>
    unfold detachLoop at looped
    split at looped
    · split at looped
      · simp only [Except.bind_eq_ok] at looped
        obtain ⟨⟨next, seqNext⟩, detached, continued⟩ := looped
        obtain ⟨lt, rfl, kept⟩ := owns.detachFrontBlock detached
        obtain ⟨sq, block, _, found, front, dropping, _⟩ := detachFrontBlock_ok detached
        obtain ⟨known, found', rfl, _⟩ := owns.recorded
        obtain rfl := Option.some.inj (found.symm.trans found')
        obtain ⟨_, rfl⟩ := List.getElem?_eq_some_iff.mp front
        have split := List.drop_eq_getElem_cons lt
        obtain ⟨last, primary⟩ := alone _ (split ▸ List.mem_cons_self)
        have one := takes_dropReference last primary dropping
        refine (one.trans (ih kept ?_ continued)).mono (by dsimp only; omega)
        intro other mem
        obtain ⟨single, otherPrimary⟩ := alone other (split ▸ List.mem_cons_of_mem _ mem)
        -- a block that were listed twice would have two references
        have ne : other ≠ sq.allocatedBlocks[seq.numFrontBlocksRemoved] := by
          rintro rfl
          have counted := owns.counts (sq.allocatedBlocks[seq.numFrontBlocksRemoved])
          rw [split, List.count_cons_self] at counted
          have again := List.count_pos_iff.mpr mem
          dsimp only at again
          omega
        obtain ⟨_, rfl⟩ := dropReference_ok dropping
        refine ⟨?_, ?_⟩
        · rw [dropReference_refCount dropping, Function.update_of_ne ne]
          exact single
        · split <;> exact otherPrimary
      · cases looped
    · cases looped
      exact (Takes.of_same rfl).mono (by omega)

end WindowBlockManager

namespace KVCacheManager

variable {plat : Platform} {reuse : Bool} {m m' : KVCacheManager}
  {cfg : WindowConfig} {w : WindowBlockManager} {rid : RequestId}
  {first : WindowConfig × WindowBlockManager} {seq seq' : GenerationRequest}

/-- The sequence has the only reference on each of its blocks that is not detached, and they are in
primary memory. -/
def ownsAlone (m : KVCacheManager) (requestId : RequestId) : Bool :=
  (m.sequences.lookup requestId).all fun seq => m.windows.all fun entry =>
    ((entry.2.allocated requestId).drop seq.numFrontBlocksRemoved).all fun block =>
      entry.2.refCount block == 1 && entry.2.isPrimary block

/-! ## Free blocks while tokens are appended -/

/-- The step lemma: what a further token takes, less what it detaches. -/
theorem Slides.takes_addToken (slides : Slides rid first [] seq m)
    (slides' : Slides rid first [] seq' m') (alone : m.ownsAlone rid = true)
    (added : m.addToken plat rid = .ok m') :
    seq.numFrontBlocksRemoved ≤ seq'.numFrontBlocksRemoved ∧
    m.getNumFreeBlocks ≤ m'.getNumFreeBlocks +
      (((ceilDiv (seq.numTokens + 1) first.1.tokensPerBlock : Nat) -
        (ceilDiv seq.numTokens first.1.tokensPerBlock : Nat)) -
        ((seq'.numFrontBlocksRemoved : Int) - seq.numFrontBlocksRemoved)) := by
  obtain ⟨known, id, single, _, ⟨cfg, w⟩, rest, windows, here, others⟩ := slides
  cases others
  obtain ⟨sameConfig, blocks, owns, _, lt⟩ := here
  subst sameConfig
  obtain ⟨window', between, adjusted, rfl⟩ := addToken_single windows known added
  obtain rfl : between = seq' := Option.some.inj ((AList.lookup_insert _).symm.trans slides'.known)
  obtain ⟨sequence, found, rfl, _⟩ := owns.recorded
  have listed : w.allocated rid = sequence.allocatedBlocks := by
    rw [allocated, found]
    rfl
  have checked : ∀ block ∈ sequence.allocatedBlocks.drop seq.numFrontBlocksRemoved,
      w.refCount block = 1 ∧ w.isPrimary block = true := by
    simpa only [ownsAlone, known, windows, Option.all_some, all_cons, all_nil,
      Bool.and_true, all_eq_true, Bool.and_eq_true, beq_iff_eq, listed] using alone
  rw [← id] at owns
  obtain ⟨detached, detaching, ending⟩ := adjustBlocksIfNeeded_ok adjusted
  obtain ⟨_, more, _, named⟩ := Owns.detachLoop (by exact owns) (by exact lt) detaching
  have freeing := takes_detachLoop (by exact owns) (by exact checked) detaching
  have tokens : between.numTokens = seq.numTokens + 1 := by rw [named]
  have width : between.beamWidth = 1 := by rw [named]; exact single
  have taking : Takes (if seq.numTokens % first.1.tokensPerBlock = 0 then 1 else 0 : Nat) detached
      window' := by
    rw [tokens, Nat.add_sub_cancel] at ending
    rcases ending with ⟨start, allocated, allocating, rfl⟩ | ⟨inner, rfl⟩
    · rw [if_pos start]
      refine ((takes_allocateBlock allocating).same rfl).mono ?_
      simp [width]
    · rw [if_neg inner]
      exact .of_same rfl
  have both := freeing.trans taking
  refine ⟨more, ?_⟩
  rw [ceilDiv_succ first.1.tokensPerBlock_pos]
  simp only [KVCacheManager.getNumFreeBlocks, windows, map_cons, map_nil, sum_cons,
    sum_nil]
  unfold Takes at both
  dsimp only at both
  omega

/-- The run lemma. -/
theorem Slides.takes_addTokens {count : Nat} (slides : Slides rid first [] seq m)
    (alone : ∀ earlier < count, ∀ st, (List.replicate earlier TokenOp.addToken).foldlM
      (KVCacheManager.tokenStep plat rid) m = .ok st → st.ownsAlone rid = true)
    (added : (List.replicate count TokenOp.addToken).foldlM
      (KVCacheManager.tokenStep plat rid) m = .ok m') :
    ∃ seq', Slides rid first [] seq' m' ∧ seq'.numTokens = seq.numTokens + count ∧
      (0 < count → seq'.numTokens - seq'.numFrontBlocksRemoved * first.1.tokensPerBlock <
        first.1.windowSize + first.1.tokensPerBlock) ∧
      seq.numFrontBlocksRemoved ≤ seq'.numFrontBlocksRemoved ∧
      m.getNumFreeBlocks ≤ m'.getNumFreeBlocks +
        (((ceilDiv (seq.numTokens + count) first.1.tokensPerBlock : Nat) -
          (ceilDiv seq.numTokens first.1.tokensPerBlock : Nat)) -
          ((seq'.numFrontBlocksRemoved : Int) - seq.numFrontBlocksRemoved)) := by
  have leads : Leads first [] := fun _ none => absurd none not_mem_nil
  induction count generalizing m seq with
  | zero =>
    cases added
    exact ⟨seq, slides, rfl, fun none => absurd none (Nat.lt_irrefl 0), Nat.le_refl _, by
      rw [Nat.add_zero]; omega⟩
  | succ count ih =>
    rw [replicate_succ, foldlM_cons, Except.bind_eq_ok] at added
    obtain ⟨next, stepped, continued⟩ := added
    obtain ⟨between, kept, tokens, slid⟩ := slides.addToken leads stepped
    obtain ⟨grows, taking⟩ := slides.takes_addToken kept (alone 0 (Nat.succ_pos _) m rfl) stepped
    obtain ⟨seq', ends, more, later, further, taken⟩ := ih kept (fun earlier less st reached =>
      alone (earlier + 1) (Nat.succ_lt_succ less) st (by
        rw [replicate_succ, foldlM_cons, Except.bind_eq_ok]
        exact ⟨next, stepped, reached⟩)) continued
    rw [tokens, Nat.add_right_comm, Nat.add_assoc] at taken
    refine ⟨seq', ends, by omega, fun _ => ?_, by omega, by omega⟩
    rcases Nat.eq_zero_or_pos count with rfl | positive
    · cases continued
      obtain rfl := Option.some.inj (ends.known.symm.trans kept.known)
      exact slid
    · exact later positive

/-! ## The estimate -/

/-- The blocks of a beam that fit the window, as the estimate counts them. -/
def totalBlocks (config : WindowConfig) (req : LlmRequest) : Nat :=
  ceilDiv (min (req.promptLen + req.maxNewTokens)
    (config.windowSize + config.temporaryAttentionWindow)) config.tokensPerBlock

/-- The tokens of the request need no more blocks than fit the window, or one more, with blocks to
follow and room for the blocks that were detached. -/
def FitsBlocks (config : WindowConfig) (m : KVCacheManager) (req : LlmRequest) : Prop :=
  ceilDiv req.uniqueTokens.length config.tokensPerBlock ≤ totalBlocks config req ∨
    ceilDiv req.uniqueTokens.length config.tokensPerBlock ≤ totalBlocks config req + 1 ∧
    ceilDiv req.uniqueTokens.length config.tokensPerBlock <
      ceilDiv (req.promptLen + req.maxNewTokens) config.tokensPerBlock ∧
    (m.sequences.lookup req.requestId).all fun seq => decide
      (ceilDiv config.windowSize config.tokensPerBlock + seq.numFrontBlocksRemoved ≤
        totalBlocks config req)
  deriving Decidable

/-- The estimate while the tokens fit: what is missing to the blocks of the window, and one block
more if the sequence will have more than those. -/
theorem Slides.estimate {req : LlmRequest}
    (slides : Slides req.requestId (cfg, w) [] seq m) (selfAttention : cfg.cacheType ≠ .cross)
    (beams : req.beamWidth = 1) (prompt : req.promptLen ≤ seq.numTokens)
    (fits : FitsBlocks cfg m req) : ∃ w', m.windows = [(cfg, w')] ∧
      m.getRemainingBlocksToCompletion req cfg w' =
        totalBlocks cfg req - ceilDiv seq.numTokens cfg.tokensPerBlock + if totalBlocks cfg req <
              ceilDiv (req.promptLen + req.maxNewTokens) cfg.tokensPerBlock then 1 else 0 := by
  obtain ⟨known, _, _, _, ⟨_, w'⟩, rest, windows, here, others⟩ := slides
  cases others
  obtain ⟨sameConfig, blocks, owns, length, _⟩ := here
  dsimp only at sameConfig length owns
  rw [sameConfig] at windows
  refine ⟨w', windows, ?_⟩
  have pos := cfg.tokensPerBlock_pos
  have listed : m.numAllocBlocksPerBeam req.requestId w' =
      ceilDiv seq.numTokens cfg.tokensPerBlock := by
    obtain ⟨sq, found, rfl, beam⟩ := owns.recorded
    rw [numAllocBlocksPerBeam, known]
    rw [found, ← length]
    dsimp only
    rw [SequenceBlocks.beamBlocks, beam]
    rfl
  have ctx : min req.promptLen (cfg.windowSize + cfg.temporaryAttentionWindow) /
      cfg.tokensPerBlock ≤ ceilDiv seq.numTokens cfg.tokensPerBlock :=
    Nat.div_le_div_right (by omega)
  have slides : totalBlocks cfg req <
      ceilDiv (req.promptLen + req.maxNewTokens) cfg.tokensPerBlock →
      cfg.windowSize < req.promptLen + req.maxNewTokens := by
    intro more
    by_contra lt
    rw [totalBlocks, Nat.min_eq_left (by omega)] at more
    exact Nat.lt_irrefl _ more
  unfold getRemainingBlocksToCompletion
  rw [if_neg selfAttention, listed, beams]
  rw [if_neg (by omega)]
  unfold FitsBlocks at fits
  rw [← totalBlocks]
  by_cases more : totalBlocks cfg req <
      ceilDiv (req.promptLen + req.maxNewTokens) cfg.tokensPerBlock
  · have crosses : ceilDiv req.uniqueTokens.length cfg.tokensPerBlock <
        ceilDiv (req.promptLen + req.maxNewTokens) cfg.tokensPerBlock := by omega
    simp only [slides more, crosses, Int.ofNat_lt.mpr more, more, decide_true, Bool.and_self,
      ↓reduceIte]
    exact Int.mul_one _
  · have fewer : ¬((totalBlocks cfg req : Int) <
        ceilDiv (req.promptLen + req.maxNewTokens) cfg.tokensPerBlock) := by omega
    simp only [fewer, more, decide_false, Bool.and_false, Bool.false_eq_true, ↓reduceIte]
    exact Int.mul_one _

/-- The blocks of the window fit behind the detached ones. -/
theorem window_le_total {req : LlmRequest} (fits : FitsBlocks cfg m req)
    (known : m.sequences.lookup req.requestId = some seq) (within : WithinWindow cfg seq)
    (tokens : seq.numTokens ≤ req.uniqueTokens.length)
    (more : totalBlocks cfg req < ceilDiv (req.promptLen + req.maxNewTokens) cfg.tokensPerBlock) :
    ceilDiv cfg.windowSize cfg.tokensPerBlock + seq.numFrontBlocksRemoved ≤
      totalBlocks cfg req := by
  rcases fits with here | ⟨_, _, room⟩
  swap
  · rw [known] at room
    exact of_decide_eq_true room
  rcases within with unslid | slid
  · rw [unslid, Nat.add_zero]
    refine ceilDiv_mono _ (le_min ?_ (Nat.le_add_right _ _))
    by_contra lt
    rw [totalBlocks, Nat.min_eq_left (by omega)] at more
    exact Nat.lt_irrefl _ more
  · have pos := cfg.tokensPerBlock_pos
    refine Nat.le_trans ?_ here
    unfold ceilDiv
    rw [← Nat.add_mul_div_right _ _ pos]
    exact Nat.div_le_div_right (by omega)

/-- With one beam and a sliding window, as long as the tokens of the request fit the blocks of the
window, the estimate is not negative and covers the free blocks that the request takes up to
any later token, if the sequence has the only reference on each of its blocks. -/
theorem sliding_estimate_covers (platform : Platform) (enableBlockReuse : Bool) (m : KVCacheManager)
    (config : WindowConfig) (window : WindowBlockManager) (req : LlmRequest)
    (selfAttention : config.cacheType ≠ .cross) (single : m.windows = [(config, window)])
    (beams : req.beamWidth = 1)
    (prompt : req.promptLen ≤ config.maxTokenNum + config.temporaryAttentionWindow)
    {request request' : Option LlmRequest} {added now later : KVCacheManager}
    {generated count : Nat}
    (adding : m.addSequence platform enableBlockReuse req.requestId req.promptLen 1 Nat.one_pos
      request = .ok (added, request'))
    (generating : (List.replicate generated TokenOp.addToken).foldlM
      (tokenStep platform req.requestId) added = .ok now)
    (tokens : req.promptLen + generated ≤ req.uniqueTokens.length)
    (fits : FitsBlocks config now req)
    (alone : ∀ earlier < count, ∀ state, (List.replicate earlier TokenOp.addToken).foldlM
      (tokenStep platform req.requestId) now = .ok state → state.ownsAlone req.requestId = true)
    (completes : generated + count ≤ req.maxNewTokens)
    (appended : (List.replicate count TokenOp.addToken).foldlM
      (tokenStep platform req.requestId) now = .ok later) :
    ∃ window', now.windows = [(config, window')] ∧
      0 ≤ now.getRemainingBlocksToCompletion req config window' ∧
      now.getNumFreeBlocks - later.getNumFreeBlocks ≤
        now.getRemainingBlocksToCompletion req config window' := by
  have fitsPrompt : ∀ entry ∈ m.windows,
      req.promptLen ≤ entry.1.maxTokenNum + entry.1.temporaryAttentionWindow := by
    rw [single]
    intro entry member
    rw [List.mem_singleton.mp member]
    exact prompt
  obtain ⟨start, started, startTokens⟩ := Slides.addSequence single fitsPrompt adding
  obtain ⟨seq, slides, nowTokens, _⟩ :=
    started.addTokens (fun _ none => absurd none List.not_mem_nil) generating
  obtain ⟨seq', slides', laterTokens, slid, grows, taken⟩ := slides.takes_addTokens alone appended
  obtain ⟨window', windows, estimate⟩ := slides.estimate selfAttention beams (by omega) fits
  refine ⟨window', windows, ?_⟩
  rw [estimate]
  have within : WithinWindow config seq := slides.within
  dsimp only at slid taken
  have here : ceilDiv seq.numTokens config.tokensPerBlock ≤
      ceilDiv req.uniqueTokens.length config.tokensPerBlock := ceilDiv_mono _ (by omega)
  have there : ceilDiv (seq.numTokens + count) config.tokensPerBlock ≤
      ceilDiv (req.promptLen + req.maxNewTokens) config.tokensPerBlock :=
    ceilDiv_mono _ (by omega)
  by_cases more : totalBlocks config req <
      ceilDiv (req.promptLen + req.maxNewTokens) config.tokensPerBlock
  · rw [if_pos more]
    have listed : ceilDiv seq.numTokens config.tokensPerBlock ≤ totalBlocks config req + 1 :=
      Nat.le_trans here (fits.elim Nat.le_succ_of_le And.left)
    refine ⟨by omega, ?_⟩
    rcases Nat.eq_zero_or_pos count with rfl | positive
    · rw [Nat.add_zero] at taken
      omega
    · -- the blocks that are not detached at the end are those of the window and one more
      have held := ceilDiv_sub_le config.tokensPerBlock_pos (slid positive)
      rw [laterTokens] at held
      have window := window_le_total fits slides.known within (by omega) more
      omega
  · rw [if_neg more]
    have listed : ceilDiv seq.numTokens config.tokensPerBlock ≤ totalBlocks config req :=
      fits.elim (Nat.le_trans here) fun one => by omega
    constructor <;> omega

/-- A request in a window of four tokens that generates ten tokens after a prompt of two. -/
def longRequest (numTokens : Nat) : LlmRequest where
  requestId := 1
  uniqueTokens := List.replicate numTokens ⟨1, 0⟩
  promptLen := 2
  maxNewTokens := 10

/-- The window is full with four tokens, and slides while eight more follow. -/
theorem sliding_estimate_covers_fourTokens : ∃ now later,
    (∃ added, (initial [slidingWindow 4]).addSequence .plain false 1 2 1 Nat.one_pos none =
        .ok (added, none) ∧
      (List.replicate 2 TokenOp.addToken).foldlM (tokenStep .plain 1) added = .ok now ∧
      (List.replicate 8 TokenOp.addToken).foldlM (tokenStep .plain 1) now = .ok later ∧
      ∀ earlier < 8, ∀ state, (List.replicate earlier TokenOp.addToken).foldlM
        (tokenStep .plain 1) now = .ok state → state.ownsAlone 1 = true) ∧
    ∃ window', now.windows = [(slidingWindow 4, window')] ∧
      0 ≤ now.getRemainingBlocksToCompletion (longRequest 4) (slidingWindow 4) window' ∧
      now.getNumFreeBlocks - later.getNumFreeBlocks ≤
        now.getRemainingBlocksToCompletion (longRequest 4) (slidingWindow 4) window' := by
  obtain ⟨added, now, adding, generating, later, appended, owned⟩ : ∃ added now,
      (initial [slidingWindow 4]).addSequence .plain false 1 2 1 Nat.one_pos none =
        .ok (added, none) ∧
      (List.replicate 2 TokenOp.addToken).foldlM (tokenStep .plain 1) added = .ok now ∧
      ∃ later, (List.replicate 8 TokenOp.addToken).foldlM (tokenStep .plain 1) now = .ok later ∧
        ∀ earlier < 8, ∃ state, (List.replicate earlier TokenOp.addToken).foldlM
          (tokenStep .plain 1) now = .ok state ∧ state.ownsAlone 1 = true :=
    Except.exists_returns_both (by decide +kernel)
  have alone : ∀ earlier < 8, ∀ state, (List.replicate earlier TokenOp.addToken).foldlM
      (tokenStep .plain 1) now = .ok state → state.ownsAlone 1 = true := by
    intro earlier less state reached
    obtain ⟨_, returned, own⟩ := owned earlier less
    rw [reached] at returned
    cases returned
    exact own
  exact ⟨now, later, ⟨added, adding, generating, appended, alone⟩,
    sliding_estimate_covers .plain false (initial [slidingWindow 4]) (slidingWindow 4)
      (.initial (slidingWindow 4)) (longRequest 4) (by decide) rfl rfl (by decide) adding generating
      (by decide) (.inl (by decide)) alone (by decide) appended⟩

/-- After eight tokens two blocks are detached and four are listed: the estimate is -1, and the next
token takes a block. -/
theorem estimate_negative_after_detaching : ∃ added now later window',
    (initial [slidingWindow 4]).addSequence .plain false 1 2 1 Nat.one_pos none =
      .ok (added, none) ∧
    (List.replicate 6 TokenOp.addToken).foldlM (tokenStep .plain 1) added = .ok now ∧
    (List.replicate 1 TokenOp.addToken).foldlM (tokenStep .plain 1) now = .ok later ∧
    now.windows = [(slidingWindow 4, window')] ∧
    now.getRemainingBlocksToCompletion (longRequest 8) (slidingWindow 4) window' = -1 ∧
    now.getNumFreeBlocks - later.getNumFreeBlocks = 1 := by
  obtain ⟨added, now, adding, generating, negative, later, appended, one⟩ : ∃ added now,
      (initial [slidingWindow 4]).addSequence .plain false 1 2 1 Nat.one_pos none =
        .ok (added, none) ∧
      (List.replicate 6 TokenOp.addToken).foldlM (tokenStep .plain 1) added = .ok now ∧
      (∀ entry ∈ now.windows, now.getRemainingBlocksToCompletion (longRequest 8) (slidingWindow 4)
        entry.2 = -1) ∧
      ∃ later, (List.replicate 1 TokenOp.addToken).foldlM (tokenStep .plain 1) now = .ok later ∧
        now.getNumFreeBlocks - later.getNumFreeBlocks = 1 :=
    Except.exists_returns_both (by decide +kernel)
  have fits : ∀ entry ∈ (initial [slidingWindow 4]).windows,
      2 ≤ entry.1.maxTokenNum + entry.1.temporaryAttentionWindow := by decide
  obtain ⟨start, started, _⟩ := Slides.addSequence rfl fits adding
  obtain ⟨seq, slides, _⟩ :=
    started.addTokens (fun _ none => absurd none List.not_mem_nil) generating
  obtain ⟨⟨config, window'⟩, rest, windows, here, others⟩ := slides.windows
  cases others
  obtain rfl := here.config
  rw [windows] at negative
  refine ⟨added, now, later, window', adding, generating, appended, windows, ?_, one⟩
  simpa using negative

end KVCacheManager

end TrtLlm
