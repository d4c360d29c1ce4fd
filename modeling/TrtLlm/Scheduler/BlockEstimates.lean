import Mathlib.Algebra.Ring.Int.Defs
import TrtLlm.KvCache.FreeCount
import TrtLlm.KvCache.TokenSteps
import TrtLlm.Scheduler.CapacityScheduler

/-! # Block estimates with full attention

The scheduler reserves the blocks that a request will need to completion, or in its first step. The
estimates, and the allocation without block reuse, count a context block that the prompt fills once
for all beams; with block reuse every beam gets a last context block of its own.
-/

namespace TrtLlm

open WindowBlockManager

/-- The sizes of a window that no sequence outgrows, for self attention. -/
structure WindowConfig.FullAttention (config : WindowConfig) : Prop where
  unsliding : config.isSWA = false
  capacity : config.maxTokenNum = config.windowSize
  lasting : config.temporaryAttentionWindow = 0
  selfAttention : config.cacheType ≠ .cross

instance (config : WindowConfig) : Decidable config.FullAttention :=
  decidable_of_iff (config.isSWA = false ∧ config.maxTokenNum = config.windowSize ∧
      config.temporaryAttentionWindow = 0 ∧ config.cacheType ≠ .cross)
    ⟨fun ⟨a, b, c, d⟩ => ⟨a, b, c, d⟩, fun ⟨a, b, c, d⟩ => ⟨a, b, c, d⟩⟩

/-- The blocks for a number of tokens of which the beams share all whole blocks. -/
def beamBlocks (numTokens tokensPerBlock beamWidth : Nat) : Nat :=
  numTokens / tokensPerBlock + if numTokens % tokensPerBlock = 0 then 0 else beamWidth

variable {more : Nat}

theorem ceilDiv_mono {fewer : Nat} (denominator : Nat) (le : fewer ≤ more) :
    ceilDiv fewer denominator ≤ ceilDiv more denominator :=
  Nat.div_le_div_right (by omega)

theorem ceilDiv_lt_succ {numerator denominator : Nat} (pos : 0 < denominator)
    (below : more < numerator + denominator) :
    ceilDiv more denominator ≤ ceilDiv numerator denominator + 1 := by
  unfold ceilDiv
  rw [← Nat.add_div_right _ pos]
  exact Nat.div_le_div_right (by omega)

namespace KVCacheManager

variable {plat : Platform} {reuse : Bool} {m added grown : KVCacheManager}
  {cfg : WindowConfig} {w w' : WindowBlockManager} {rid : RequestId} {inputLength : Nat}

/-- `KVCacheManager::getNumFreeBlocks`, the sum over the windows. -/
def getNumFreeBlocks (m : KVCacheManager) : Int :=
  (m.windows.map fun entry => entry.2.getNumFreeBlocks).sum

/-- The estimates share the last context block in the same way as the allocation. -/
def SharesAlike (enableBlockReuse : Bool) (req : LlmRequest) (config : WindowConfig) : Prop :=
  enableBlockReuse = false ∨ req.beamWidth = 1 ∨ req.promptLen % config.tokensPerBlock ≠ 0

/-! ## Adding the sequence -/

theorem takes_addToWindow {carried carried' : GenerationRequest × Option LlmRequest}
    (full : cfg.FullAttention) (fits : inputLength ≤ cfg.windowSize)
    (alike : reuse = false ∨ carried.1.beamWidth = 1 ∨ inputLength % cfg.tokensPerBlock ≠ 0)
    (body : addToWindow plat reuse inputLength cfg w carried = .ok (w', carried')) :
    Takes (beamBlocks inputLength cfg.tokensPerBlock carried.1.beamWidth) w w' ∧
      ∃ prepopulated, carried'.1 =
          { carried.1 with currentPrepopulatedPromptLen := prepopulated } := by
  have effective : min inputLength (cfg.maxTokenNum + cfg.temporaryAttentionWindow) =
      inputLength := by
    rw [full.capacity, full.lasting]
    exact Nat.min_eq_left fits
  have blocks := ceilDiv_eq cfg.tokensPerBlock_pos inputLength
  obtain ⟨seq, req⟩ := carried
  unfold addToWindow at body
  rw [effective] at body
  dsimp only at alike ⊢
  unfold beamBlocks
  cases reuse with
  | true =>
    cases req with
    | none => simp [throw, throwThe, MonadExceptOf.throw] at body
    | some req =>
      simp only [↓reduceIte, Except.bind_eq_ok, Except.pure_eq_ok, Prod.mk.injEq] at body
      obtain ⟨⟨loaded, reused, shortened⟩, loading, rfl, rfl⟩ := body
      obtain ⟨_, _, prepopulated, _, _, _, rfl, _⟩ := addSequenceReuse_ok loading
      refine ⟨((takes_addSequenceReuse loading).same rfl).mono ?_, _, rfl⟩
      rw [blocks]
      rcases alike with off | one | part
      · cases off
      · simp only [one]
        split <;> omega
      · rw [if_neg part, if_neg part]
        split
        · omega
        · have := seq.beamWidth_pos
          omega
  | false =>
    simp only [Bool.false_eq_true, ↓reduceIte, Except.bind_eq_ok, Except.pure_eq_ok,
      Prod.mk.injEq] at body
    obtain ⟨loaded, loading, rfl, rfl⟩ := body
    obtain ⟨taking, pos⟩ := takes_addSequenceNoReuse loading
    rw [blocks] at pos taking
    refine ⟨(taking.same rfl).mono ?_, _, rfl⟩
    by_cases whole : inputLength % cfg.tokensPerBlock = 0
    · rw [if_pos whole, Nat.add_zero] at pos
      simp only [whole, ↓reduceIte, Nat.add_zero, beq_self_eq_true, Bool.or_true]
      omega
    · have own : (cfg.cacheType == .cross || inputLength % cfg.tokensPerBlock == 0) =
          false := by
        simp [full.selfAttention, whole]
      rw [own, if_neg whole, if_neg whole]
      simp

/-- A sequence of some tokens in the only window, which has not slid. -/
structure Holds (requestId : RequestId) (config : WindowConfig) (window : WindowBlockManager)
    (beamWidth numTokens : Nat) (m : KVCacheManager) : Prop where
  windows : m.windows = [(config, window)]
  known : ∃ seq, m.sequences.lookup requestId = some seq ∧ seq.beamWidth = beamWidth ∧
    seq.numTokens = numTokens ∧ seq.numFrontBlocksRemoved = 0

variable {beamWidth numTokens : Nat} {seq : GenerationRequest} {tpb : Nat} {req : LlmRequest}

theorem Holds.free (holds : Holds rid cfg w beamWidth numTokens m) :
    m.getNumFreeBlocks = w.getNumFreeBlocks := by
  rw [getNumFreeBlocks, holds.windows]
  simp

theorem Holds.addSequence {pos : 0 < beamWidth} {req req' : Option LlmRequest}
    (single : m.windows = [(cfg, w)]) (full : cfg.FullAttention)
    (fits : inputLength ≤ cfg.windowSize)
    (alike : reuse = false ∨ beamWidth = 1 ∨ inputLength % cfg.tokensPerBlock ≠ 0)
    (adding : m.addSequence plat reuse rid inputLength beamWidth pos req = .ok (added, req')) :
    ∃ w', Holds rid cfg w' beamWidth inputLength added ∧
      Takes (beamBlocks inputLength cfg.tokensPerBlock beamWidth) w w' := by
  have held : ∃ start, (m.holdSequence rid).windows = [(cfg, start)] ∧
      start.numFreeBlocksPerLevel = w.numFreeBlocksPerLevel := by
    unfold holdSequence
    split
    · exact ⟨w, single, rfl⟩
    · refine ⟨{ w with
        isValidStoreForReuseSequence :=
          Function.update w.isValidStoreForReuseSequence rid (some true) }, ?_, rfl⟩
      rw [single]
      rfl
  obtain ⟨start, windows, counters⟩ := held
  unfold KVCacheManager.addSequence at adding
  split at adding
  · simp only [Except.throw_bind_eq_ok] at adding
  · simp only [Except.bind_eq_ok, Except.pure_eq_ok, Prod.mk.injEq] at adding
    obtain ⟨⟨windows', seq, _⟩, looped, rfl, _⟩ := adding
    rw [windows] at looped
    obtain ⟨w', between, rest, body, last, rfl⟩ := forWindows_cons_ok looped
    cases last
    obtain ⟨taking, prepopulated, named⟩ := takes_addToWindow full fits (by exact alike) body
    dsimp only at named
    refine ⟨w', ⟨rfl, seq, AList.lookup_insert _, ?_⟩, ?_⟩
    · rw [named]
      exact ⟨rfl, rfl, rfl⟩
    · exact ((Takes.of_same counters).trans taking).mono (by simp [newSequence])

/-! ## Appending tokens -/

/-- Without a sliding window a further token fits, or the call fails. -/
theorem unslid_detachLoop {rounds : Nat} {s s' : WindowBlockManager} {seq' : GenerationRequest}
    (full : cfg.isSWA = false) (pos : 0 < rounds)
    (looped : detachLoop cfg plat rounds s seq = .ok (s', seq')) : s' = s ∧ seq' = seq ∧
      seq.numTokens - seq.numFrontBlocksRemoved * cfg.tokensPerBlock <
        cfg.windowSize + cfg.tokensPerBlock := by
  obtain ⟨rounds, rfl⟩ := Nat.exists_eq_succ_of_ne_zero pos.ne'
  unfold detachLoop at looped
  rw [full] at looped
  split at looped
  · simp at looped
  · rename_i fits
    cases looped
    exact ⟨rfl, rfl, Nat.lt_of_not_le fits⟩

/-- A further token with a single window. -/
theorem addToken_single (single : m.windows = [(cfg, w)])
    (found : m.sequences.lookup rid = some seq) (adding : m.addToken plat rid = .ok added) :
    ∃ w' seq', w.adjustBlocksIfNeeded cfg plat
        { seq with numTokens := seq.numTokens + 1 } = .ok (w', seq') ∧
      added = { m with
        windows := [(cfg, w')], sequences := m.sequences.insert rid seq' } := by
  obtain ⟨windows, seq', looped, rfl⟩ := addToken_ok found adding
  rw [single] at looped
  obtain ⟨w', between, rest, adjusted, last, rfl⟩ := forWindows_cons_ok looped
  cases last
  exact ⟨w', seq', adjusted, rfl⟩

theorem Holds.addToken (full : cfg.FullAttention) (holds : Holds rid cfg w beamWidth numTokens m)
    (adding : m.addToken plat rid = .ok added) :
    ∃ w', Holds rid cfg w' beamWidth (numTokens + 1) added ∧
      Takes (if numTokens % cfg.tokensPerBlock = 0 then beamWidth else 0 : Nat) w w' ∧
      numTokens + 1 < cfg.windowSize + cfg.tokensPerBlock := by
  obtain ⟨single, seq, found, width, tokens, front⟩ := holds
  obtain ⟨w', seq', adjusted, rfl⟩ := addToken_single single found adding
  obtain ⟨detached, detaching, blocks⟩ := adjustBlocksIfNeeded_ok adjusted
  obtain ⟨rfl, rfl, fits⟩ := unslid_detachLoop full.unsliding (Nat.succ_pos _) detaching
  rw [tokens, front, Nat.zero_mul, Nat.sub_zero] at fits
  rw [tokens, Nat.add_sub_cancel] at blocks
  refine ⟨w', ⟨rfl, _, AList.lookup_insert _, width, congrArg (· + 1) tokens, front⟩, ?_, fits⟩
  rcases blocks with ⟨first, allocated, allocating, rfl⟩ | ⟨lt, rfl⟩
  · rw [if_pos first]
    refine ((takes_allocateBlock allocating).same rfl).mono ?_
    rw [width]
    by_cases one : beamWidth = 1
    · simp [one]
    · simp [one]
  · rw [if_neg lt]
    exact .of_same rfl

/-- Some tokens one after another. -/
theorem Holds.addTokens {count : Nat} (full : cfg.FullAttention)
    (holds : Holds rid cfg w beamWidth numTokens m)
    (adding : (List.replicate count TokenOp.addToken).foldlM (tokenStep plat rid) m = .ok grown) :
    ∃ w', Holds rid cfg w' beamWidth (numTokens + count) grown ∧
      Takes (((ceilDiv (numTokens + count) cfg.tokensPerBlock : Nat) -
        (ceilDiv numTokens cfg.tokensPerBlock : Nat)) * beamWidth) w w' ∧
      (0 < count → numTokens + count < cfg.windowSize + cfg.tokensPerBlock) := by
  have kept := addTokens_invariant (fun tokens st => ∃ w', Holds rid cfg w' beamWidth tokens st ∧
      Takes (((ceilDiv tokens cfg.tokensPerBlock : Nat) -
        (ceilDiv numTokens cfg.tokensPerBlock : Nat)) * beamWidth) w w' ∧
      (numTokens < tokens → tokens < cfg.windowSize + cfg.tokensPerBlock))
    ?_ ⟨w, holds, (Takes.of_same rfl).mono (by simp), fun less => absurd less (Nat.lt_irrefl _)⟩
    adding
  · obtain ⟨w', ends, taken, fits⟩ := kept
    exact ⟨w', ends, taken, fun pos => fits (Nat.lt_add_of_pos_right pos)⟩
  · rintro tokens st next ⟨between, held, taken, _⟩ stepped
    obtain ⟨w', ends, taking, fits⟩ := held.addToken full stepped
    refine ⟨w', ends, (taken.trans taking).mono ?_, fun _ => fits⟩
    rw [ceilDiv_succ cfg.tokensPerBlock_pos tokens]
    split
    · push_cast
      rw [Int.sub_mul, Int.sub_mul, Int.add_mul, Int.one_mul]
      omega
    · simp

/-! ## The estimates -/

/-- The whole blocks once, and the other blocks for every beam. -/
theorem beamBlocks_eq (pos : 0 < tpb) (numTokens beamWidth : Nat) :
    (beamBlocks numTokens tpb beamWidth : Int) = (numTokens / tpb : Nat) +
        ((ceilDiv numTokens tpb : Nat) - (numTokens / tpb : Nat)) * (beamWidth : Int) := by
  rw [beamBlocks, ceilDiv_eq pos]
  split
  · simp
  · push_cast
    rw [add_sub_cancel_left, Int.one_mul]

/-- A sequence that has ended up in the window has no more blocks than the estimate counts for a
beam, with its extra block. -/
theorem ceilDiv_le_total {promptLen maxNewTokens windowSize : Nat} (pos : 0 < tpb)
    (fits : promptLen ≤ windowSize)
    (ended : 0 < maxNewTokens → promptLen + maxNewTokens < windowSize + tpb) :
    (ceilDiv (promptLen + maxNewTokens) tpb : Int) ≤
      ceilDiv (min (promptLen + maxNewTokens) windowSize) tpb +
        if decide (windowSize < promptLen + maxNewTokens) && decide (ceilDiv promptLen tpb <
              ceilDiv (promptLen + maxNewTokens) tpb) &&
            decide ((ceilDiv (min (promptLen + maxNewTokens) windowSize) tpb : Int) <
              ceilDiv (promptLen + maxNewTokens) tpb) then 1 else 0 := by
  by_cases lt : promptLen + maxNewTokens ≤ windowSize
  · rw [Nat.min_eq_left lt]
    split <;> omega
  · rw [Nat.min_eq_right (by omega)]
    have prompt := ceilDiv_mono tpb fits
    have next := ceilDiv_lt_succ pos (ended (by omega))
    split
    · omega
    · rename_i uncrossed
      simp only [Bool.and_eq_true, decide_eq_true_eq, not_and] at uncrossed
      omega

theorem le_getRemainingBlocksToCompletion (w : WindowBlockManager) (full : cfg.FullAttention)
    (absent : m.sequences.lookup req.requestId = none)
    (unstarted : req.uniqueTokens.length = req.promptLen) (fits : req.promptLen ≤ cfg.windowSize)
    (ended : 0 < req.maxNewTokens →
      req.promptLen + req.maxNewTokens < cfg.windowSize + cfg.tokensPerBlock) :
    beamBlocks req.promptLen cfg.tokensPerBlock req.beamWidth +
      ((ceilDiv (req.promptLen + req.maxNewTokens) cfg.tokensPerBlock : Nat) -
        (ceilDiv req.promptLen cfg.tokensPerBlock : Nat)) * req.beamWidth ≤
      m.getRemainingBlocksToCompletion req cfg w := by
  have enough := ceilDiv_le_total cfg.tokensPerBlock_pos fits ended
  have none : m.numAllocBlocksPerBeam req.requestId w = 0 := by
    rw [numAllocBlocksPerBeam, absent]
  unfold getRemainingBlocksToCompletion
  rw [if_neg full.selfAttention, none, full.lasting, Nat.add_zero, unstarted,
    Nat.min_eq_left fits, beamBlocks_eq cfg.tokensPerBlock_pos]
  dsimp only
  generalize (if decide (cfg.windowSize < req.promptLen + req.maxNewTokens) &&
      decide (ceilDiv req.promptLen cfg.tokensPerBlock <
        ceilDiv (req.promptLen + req.maxNewTokens) cfg.tokensPerBlock) &&
      decide ((ceilDiv (min (req.promptLen + req.maxNewTokens) cfg.windowSize)
        cfg.tokensPerBlock : Int) < ceilDiv (req.promptLen + req.maxNewTokens) cfg.tokensPerBlock)
    then (1 : Int) else 0) = extra at enough ⊢
  generalize (req.promptLen / cfg.tokensPerBlock : Nat) = ctx
  generalize (ceilDiv req.promptLen cfg.tokensPerBlock : Nat) = prompt
  generalize (ceilDiv (req.promptLen + req.maxNewTokens) cfg.tokensPerBlock : Nat) = all at *
  generalize (ceilDiv (min (req.promptLen + req.maxNewTokens) cfg.windowSize)
    cfg.tokensPerBlock : Nat) = total at *
  have beams : ((all : Int) - ctx) * (req.beamWidth : Int) ≤
      (total - ctx + extra) * req.beamWidth :=
    Int.mul_le_mul_of_nonneg_right (by omega) (Int.natCast_nonneg _)
  have split : ((prompt : Int) - ctx) * (req.beamWidth : Int) + (all - prompt) * req.beamWidth =
      (all - ctx) * req.beamWidth := by
    rw [← Int.add_mul]
    congr 1
    omega
  by_cases some : ctx = 0
  · subst some
    omega
  · rw [if_pos (by omega)]
    omega

/-- The first step takes what the beams share and their own last blocks. -/
theorem getNeededBlocksOneStep_first (full : cfg.FullAttention)
    (fits : req.promptLen ≤ cfg.windowSize) (undrafted : req.numDraftTokens = 0)
    (first : (req.isContextInitState && req.isFirstContextChunk) = true)
    (twoStepsLookAhead : Bool) :
    m.getNeededBlocksOneStep req twoStepsLookAhead cfg =
      .ok (beamBlocks req.promptLen cfg.tokensPerBlock req.beamWidth) := by
  unfold getNeededBlocksOneStep
  rw [first, Bool.true_or, if_pos rfl, if_neg full.selfAttention, undrafted]
  dsimp only
  rw [Nat.add_zero, Nat.min_eq_left (Nat.le_trans fits (Nat.le_add_right _ _)), beamBlocks,
    ceilDiv_eq cfg.tokensPerBlock_pos]
  have rest := Nat.mod_lt req.promptLen cfg.tokensPerBlock_pos
  rw [Nat.mod_eq_of_lt rest, Nat.div_eq_of_lt rest]
  split <;> simp

/-- With full attention both estimates cover what the request takes, whenever they share the last
context block as the allocation does: adding the sequence and all its new tokens, and adding it. -/
theorem estimates_suffice (platform : Platform) (enableBlockReuse : Bool) (m : KVCacheManager)
    (config : WindowConfig) (window : WindowBlockManager) (req : LlmRequest)
    (positive : 0 < req.beamWidth) (full : config.FullAttention)
    (single : m.windows = [(config, window)])
    (unstarted : req.uniqueTokens.length = req.promptLen) (fits : req.promptLen ≤ config.windowSize)
    (alike : SharesAlike enableBlockReuse req config)
    {added : KVCacheManager} {request : Option LlmRequest}
    (adding : m.addSequence platform enableBlockReuse req.requestId req.promptLen req.beamWidth
      positive (some req) = .ok (added, request)) :
    (∀ grown, (List.replicate req.maxNewTokens TokenOp.addToken).foldlM
        (tokenStep platform req.requestId) added = .ok grown →
      m.getNumFreeBlocks - grown.getNumFreeBlocks ≤
        m.getRemainingBlocksToCompletion req config window) ∧
    ∀ twoStepsLookAhead, req.isContextInitState = true → req.isFirstContextChunk = true →
      req.numDraftTokens = 0 →
      ∃ needed, m.getNeededBlocksOneStep req twoStepsLookAhead config = .ok needed ∧
        m.getNumFreeBlocks - added.getNumFreeBlocks ≤ needed := by
  have absent : m.sequences.lookup req.requestId = none := by
    unfold KVCacheManager.addSequence at adding
    split at adding
    · simp only [Except.throw_bind_eq_ok] at adding
    · rename_i unknown
      simpa using unknown
  have before : m.getNumFreeBlocks = window.getNumFreeBlocks := by
    rw [getNumFreeBlocks, single]
    simp
  obtain ⟨start, holds, context⟩ := Holds.addSequence single full fits alike adding
  constructor
  · intro grown appended
    obtain ⟨last, ends, tokens, ended⟩ := holds.addTokens full appended
    have taken := context.trans tokens
    have covered := le_getRemainingBlocksToCompletion window full absent unstarted fits ended
    rw [before, ends.free]
    unfold Takes at taken
    omega
  · intro twoStepsLookAhead initial first undrafted
    refine ⟨_, getNeededBlocksOneStep_first full fits undrafted (by rw [initial, first]; rfl)
      twoStepsLookAhead, ?_⟩
    rw [before, holds.free]
    unfold Takes at context
    omega

/-- A request with two beams for one new token. -/
def twoBeams (uniqueTokens : List UniqueToken) : LlmRequest where
  requestId := 1
  uniqueTokens := uniqueTokens
  promptLen := uniqueTokens.length
  contextChunkSize := uniqueTokens.length
  maxNewTokens := 1
  beamWidth := 2

/-- A prompt that ends inside a block. -/
theorem estimates_suffice_threeTokens : ∃ added request,
    (initial [.fourBlocks]).addSequence .plain true 1 3 2 Nat.two_pos
        (some (twoBeams [⟨1, 0⟩, ⟨2, 0⟩, ⟨3, 0⟩])) = .ok (added, request) ∧
    (∀ grown, (List.replicate 1 TokenOp.addToken).foldlM (tokenStep .plain 1) added = .ok grown →
      (initial [.fourBlocks]).getNumFreeBlocks - grown.getNumFreeBlocks ≤
        (initial [.fourBlocks]).getRemainingBlocksToCompletion
          (twoBeams [⟨1, 0⟩, ⟨2, 0⟩, ⟨3, 0⟩]) .fourBlocks (.initial .fourBlocks)) ∧
    ∀ twoStepsLookAhead, (twoBeams [⟨1, 0⟩, ⟨2, 0⟩, ⟨3, 0⟩]).isContextInitState = true →
      (twoBeams [⟨1, 0⟩, ⟨2, 0⟩, ⟨3, 0⟩]).isFirstContextChunk = true →
      (twoBeams [⟨1, 0⟩, ⟨2, 0⟩, ⟨3, 0⟩]).numDraftTokens = 0 →
      ∃ needed, (initial [.fourBlocks]).getNeededBlocksOneStep (twoBeams [⟨1, 0⟩, ⟨2, 0⟩, ⟨3, 0⟩])
          twoStepsLookAhead .fourBlocks = .ok needed ∧
        (initial [.fourBlocks]).getNumFreeBlocks - added.getNumFreeBlocks ≤ needed := by
  obtain ⟨⟨added, request⟩, adding, -⟩ : ∃ added, (initial [.fourBlocks]).addSequence .plain true 1
      3 2 Nat.two_pos (some (twoBeams [⟨1, 0⟩, ⟨2, 0⟩, ⟨3, 0⟩])) = .ok added ∧ True := by
    decide +kernel
  exact ⟨added, request, adding, estimates_suffice .plain true (initial [.fourBlocks]) .fourBlocks
    (.initial .fourBlocks) (twoBeams [⟨1, 0⟩, ⟨2, 0⟩, ⟨3, 0⟩]) Nat.two_pos (by decide) rfl rfl
    (by decide) (.inr (.inr (by decide))) adding⟩

/-- A prompt that fills its block, with block reuse: two blocks are taken where one is needed, and
four where three remain to completion. -/
theorem fullPrompt_exceeds_estimates : ∃ added request grown,
    (initial [.fourBlocks]).addSequence .plain true 1 2 2 Nat.two_pos
        (some (twoBeams [⟨1, 0⟩, ⟨2, 0⟩])) = .ok (added, request) ∧
    (List.replicate 1 TokenOp.addToken).foldlM (tokenStep .plain 1) added = .ok grown ∧
    ((initial [.fourBlocks]).getRemainingBlocksToCompletion (twoBeams [⟨1, 0⟩, ⟨2, 0⟩]) .fourBlocks
        (.initial .fourBlocks) = 3 ∧
      (initial [.fourBlocks]).getNumFreeBlocks - grown.getNumFreeBlocks = 4) ∧
    (initial [.fourBlocks]).getNeededBlocksOneStep (twoBeams [⟨1, 0⟩, ⟨2, 0⟩]) false .fourBlocks =
      .ok 1 ∧
    (initial [.fourBlocks]).getNumFreeBlocks - added.getNumFreeBlocks = 2 := by
  obtain ⟨⟨added, request⟩, adding, two, grown, stepped, four⟩ : ∃ added,
      (initial [.fourBlocks]).addSequence .plain true 1 2 2 Nat.two_pos
        (some (twoBeams [⟨1, 0⟩, ⟨2, 0⟩])) = .ok added ∧
      (initial [.fourBlocks]).getNumFreeBlocks - added.1.getNumFreeBlocks = 2 ∧ ∃ grown,
        (List.replicate 1 TokenOp.addToken).foldlM (tokenStep .plain 1) added.1 = .ok grown ∧
        (initial [.fourBlocks]).getNumFreeBlocks - grown.getNumFreeBlocks = 4 := by
    decide +kernel
  exact ⟨added, request, grown, adding, stepped, ⟨by decide, four⟩, rfl, two⟩

end KVCacheManager

end TrtLlm
