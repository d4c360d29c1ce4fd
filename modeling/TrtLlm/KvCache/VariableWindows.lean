import TrtLlm.KvCache.TokenSteps

/-! # Windows of several sizes

The windows of a manager share one count of removed front blocks for each sequence, and a further
token is handled from the smallest window on. That one slides; with the count it leaves behind no
larger window detaches a block. Removing the sequence gives all references back, as the count is
reset before the next window releases its blocks.
-/

namespace TrtLlm

open WindowBlockManager

variable {request : Option LlmRequest}

namespace WindowBlockManager

variable {cfg : WindowConfig} {plat : Platform} {s s' : WindowBlockManager}
  {seq seq' : GenerationRequest} {base : BlockId → Nat} {blocks : List BlockId}

/-! ## Releasing all references -/

theorem releaseReferences_refCount
    (cnt : ∀ block, s.refCount block = base block + blocks.count block) :
    (blocks.foldl (releaseReference plat) s).refCount = base := by
  induction blocks generalizing s with
  | nil => exact funext cnt
  | cons block rest ih =>
    apply ih
    intro other
    have here := cnt block
    rw [List.count_cons_self] at here
    have dropped : (releaseReference plat s block).refCount =
        Function.update s.refCount block (s.refCount block - 1) := by
      rw [releaseReference_eq (by omega)]
      split <;> rfl
    rw [dropped]
    by_cases same : other = block
    · subst same
      rw [Function.update_self]
      omega
    · rw [Function.update_of_ne same, cnt, List.count_cons_of_ne (Ne.symm same)]

/-- A sequence that is removed leaves the counts as they were without it. -/
theorem Owns.releaseBlocks (owns : Owns base seq.requestId seq.numFrontBlocksRemoved blocks s)
    (released : s.releaseBlocks cfg plat seq request = .ok s') : s'.refCount = base := by
  obtain ⟨sq, stored, found, storing, rfl⟩ := releaseBlocks_ok released
  obtain ⟨known, found', rfl, _⟩ := owns.recorded
  obtain rfl := Option.some.inj (found.symm.trans found')
  apply releaseReferences_refCount
  intro block
  have kept : stored.refCount = s.refCount := by
    rcases storeReleased_ok storing with rfl | ⟨_, blockKeys, _, _, _, rfl⟩
    · rfl
    · exact (storeBlocks_counters cfg plat _ blockKeys _).1
  rw [kept, List.count_reverse]
  exact owns.counts block

/-! ## What the detaching loop leaves -/

variable {rounds : Nat}

/-- The loop runs until the sequence fits the window and one block. -/
theorem detachLoop_ends
    (enough : seq.numTokens ≤ rounds + seq.numFrontBlocksRemoved * cfg.tokensPerBlock)
    (looped : detachLoop cfg plat rounds s seq = .ok (s', seq')) :
    seq'.numTokens - seq'.numFrontBlocksRemoved * cfg.tokensPerBlock <
      cfg.windowSize + cfg.tokensPerBlock := by
  have pos := cfg.tokensPerBlock_pos
  induction rounds generalizing s seq with
  | zero =>
    cases looped
    omega
  | succ rounds ih =>
    unfold detachLoop at looped
    split at looped
    · split at looped
      · simp only [Except.bind_eq_ok] at looped
        obtain ⟨⟨next, seqNext⟩, detached, continued⟩ := looped
        obtain ⟨_, _, _, _, _, _, rfl⟩ := detachFrontBlock_ok detached
        refine ih ?_ continued
        dsimp only
        rw [Nat.succ_mul]
        omega
      · cases looped
    · rename_i fits
      cases looped
      omega

/-- Nothing of the last `windowSize` tokens is in a removed block. -/
def WithinWindow (config : WindowConfig) (seq : GenerationRequest) : Prop :=
  seq.numFrontBlocksRemoved = 0 ∨
    seq.numFrontBlocksRemoved * config.tokensPerBlock + config.windowSize ≤ seq.numTokens

theorem WithinWindow.detachLoop (within : WithinWindow cfg seq)
    (looped : detachLoop cfg plat rounds s seq = .ok (s', seq')) : WithinWindow cfg seq' := by
  induction rounds generalizing s seq with
  | zero =>
    cases looped
    exact within
  | succ rounds ih =>
    unfold WindowBlockManager.detachLoop at looped
    split at looped
    · rename_i outside
      split at looped
      · simp only [Except.bind_eq_ok] at looped
        obtain ⟨⟨next, seqNext⟩, detached, continued⟩ := looped
        obtain ⟨_, _, _, _, _, _, rfl⟩ := detachFrontBlock_ok detached
        refine ih (.inr ?_) continued
        have pos := cfg.tokensPerBlock_pos
        dsimp only
        rw [Nat.succ_mul]
        omega
      · cases looped
    · cases looped
      exact within

/-- A sequence that fits the window and one block is left as it is. -/
theorem detachLoop_fits (fits : seq.numTokens - seq.numFrontBlocksRemoved * cfg.tokensPerBlock <
      cfg.windowSize + cfg.tokensPerBlock)
    (looped : detachLoop cfg plat rounds s seq = .ok (s', seq')) : s' = s ∧ seq' = seq := by
  cases rounds with
  | zero =>
    cases looped
    exact ⟨rfl, rfl⟩
  | succ rounds =>
    rw [detachLoop, if_neg (Nat.not_le.mpr fits)] at looped
    cases looped
    exact ⟨rfl, rfl⟩

/-- A further token in a window in which nothing is to be detached; what the window has detached
need not be what the sequence counts. -/
theorem Owns.adjustInside {front : Nat} (owns : Owns base seq.requestId front blocks s)
    (single : seq.beamWidth = 1) (within : front ≤ blocks.length)
    (fits : seq.numTokens - seq.numFrontBlocksRemoved * cfg.tokensPerBlock <
      cfg.windowSize + cfg.tokensPerBlock)
    (adjusted : WindowBlockManager.adjustBlocksIfNeeded cfg plat s seq = .ok (s', seq')) :
    seq' = seq ∧ ∃ blocks', Owns base seq.requestId front blocks' s' ∧ blocks'.length =
        blocks.length + if (seq.numTokens - 1) % cfg.tokensPerBlock = 0 then 1 else 0 := by
  obtain ⟨detached, looped, ending⟩ := adjustBlocksIfNeeded_ok adjusted
  obtain ⟨rfl, rfl⟩ := detachLoop_fits fits looped
  refine ⟨rfl, ?_⟩
  rcases ending with ⟨aligned, allocated, allocating, rfl⟩ | ⟨unaligned, rfl⟩
  · rw [single] at allocating
    obtain ⟨block, grown⟩ := owns.allocateBlock single within allocating
    refine ⟨blocks ++ [block], grown.modifyRecord (fun _ => rfl) (fun _ => rfl), ?_⟩
    rw [if_pos aligned, List.length_append, List.length_singleton]
  · exact ⟨blocks, owns, by rw [if_neg unaligned, Nat.add_zero]⟩

end WindowBlockManager

namespace KVCacheManager

variable {plat : Platform} {reuse : Bool} {m m' : KVCacheManager}
  {rid : RequestId} {numTokens front : Nat}
  {first : WindowConfig × WindowBlockManager}
  {rest rest' : List (WindowConfig × WindowBlockManager)}

/-- What the token calls keep: only the first window has detached blocks. -/
structure Slides (requestId : RequestId) (first : WindowConfig × WindowBlockManager)
    (rest : List (WindowConfig × WindowBlockManager)) (seq : GenerationRequest)
    (m : KVCacheManager) : Prop where
  known : m.sequences.lookup requestId = some seq
  id : seq.requestId = requestId
  single : seq.beamWidth = 1
  within : WithinWindow first.1 seq
  windows : ∃ first' rest', m.windows = first' :: rest' ∧
    Covers requestId seq.numTokens seq.numFrontBlocksRemoved first first' ∧
    List.Forall₂ (Covers requestId seq.numTokens 0) rest rest'

/-- The first window is the smallest, and all have blocks of the same size. -/
def Leads (first : WindowConfig × WindowBlockManager)
    (rest : List (WindowConfig × WindowBlockManager)) : Prop :=
  ∀ entry ∈ rest, first.1.windowSize ≤ entry.1.windowSize ∧
    entry.1.tokensPerBlock = first.1.tokensPerBlock

variable {windows : List (WindowConfig × WindowBlockManager)} {seq seq' : GenerationRequest}

/-! ## Adding the sequence -/

theorem Slides.addSequence {inputLength : Nat} {req' : Option LlmRequest}
    (windows : m.windows = first :: rest) (fits : ∀ entry ∈ m.windows,
      inputLength ≤ entry.1.maxTokenNum + entry.1.temporaryAttentionWindow)
    (added : m.addSequence plat reuse rid inputLength 1 Nat.one_pos request = .ok (m', req')) :
    ∃ seq, Slides rid first rest seq m' ∧ seq.numTokens = inputLength := by
  obtain ⟨covered, prepopulated, known⟩ := addSequence_covers fits added
  rw [windows] at covered
  obtain ⟨first', rest', here, others, split⟩ := List.forall₂_cons_left_iff.mp covered
  exact ⟨_, ⟨known, rfl, rfl, .inl rfl, first', rest', split, here, others⟩, rfl⟩

/-! ## A further token -/

/-- The larger windows detach nothing. -/
theorem adjustRest (covered : List.Forall₂ (Covers seq.requestId numTokens 0) rest rest')
    (single : seq.beamWidth = 1) (tokens : seq.numTokens = numTokens + 1)
    (fits : ∀ entry ∈ rest, seq.numTokens - seq.numFrontBlocksRemoved * entry.1.tokensPerBlock <
      entry.1.windowSize + entry.1.tokensPerBlock)
    (looped : forWindows (fun cfg w seq =>
      w.adjustBlocksIfNeeded cfg plat seq) rest' seq = .ok (windows, seq')) :
    seq' = seq ∧ List.Forall₂ (Covers seq.requestId (numTokens + 1) 0) rest windows := by
  induction covered generalizing windows with
  | nil =>
    cases looped
    exact ⟨rfl, .nil⟩
  | @cons before after rest rest' covers others ih =>
    obtain ⟨cfg, w⟩ := after
    obtain ⟨w', between, rest'', stepped, continued, rfl⟩ := forWindows_cons_ok looped
    obtain ⟨sameConfig, blocks, owns, length, _⟩ := covers
    subst sameConfig
    obtain ⟨rfl, blocks', grown, more⟩ :=
      owns.adjustInside single (Nat.zero_le _) (fits before List.mem_cons_self) stepped
    obtain ⟨rfl, rest⟩ := ih (List.forall_mem_cons.mp fits).2 continued
    refine ⟨rfl, .cons ⟨rfl, blocks', grown, ?_, Nat.zero_le _⟩ rest⟩
    rw [more, length, tokens, Nat.add_sub_cancel, ceilDiv_succ before.1.tokensPerBlock_pos]

/-- The step lemma: the first window slides as far as it can, and the others do not slide. -/
theorem Slides.addToken (leads : Leads first rest) (slides : Slides rid first rest seq m)
    (added : m.addToken plat rid = .ok m') :
    ∃ seq', Slides rid first rest seq' m' ∧ seq'.numTokens = seq.numTokens + 1 ∧
      seq'.numTokens - seq'.numFrontBlocksRemoved * first.1.tokensPerBlock <
        first.1.windowSize + first.1.tokensPerBlock := by
  obtain ⟨known, id, single, within, first', rest', windows, here, others⟩ := slides
  obtain ⟨windows', seq', looped, rfl⟩ := addToken_ok known added
  rw [windows] at looped
  obtain ⟨cfg, w⟩ := first'
  obtain ⟨w', between, rest'', stepped, continued, rfl⟩ := forWindows_cons_ok looped
  obtain ⟨sameConfig, blocks, owns, length, lt⟩ := here
  subst sameConfig
  rw [← id] at owns others
  obtain ⟨⟨blocks', grown, more⟩, _, behind, named⟩ :=
    Owns.adjustBlocksIfNeeded (by exact owns) (by exact single) (by exact lt) stepped
  obtain ⟨detached, detaching, _⟩ := adjustBlocksIfNeeded_ok stepped
  have ends := detachLoop_ends (Nat.le_add_right _ _) detaching
  have longer : WithinWindow first.1 { seq with numTokens := seq.numTokens + 1 } :=
    within.imp_right Nat.le_succ_of_le
  have kept := longer.detachLoop detaching
  have tokens : between.numTokens = seq.numTokens + 1 := by rw [named]
  have sameId : between.requestId = seq.requestId := by rw [named]
  have width : between.beamWidth = 1 := by rw [named]; exact single
  rw [← sameId] at others
  obtain ⟨rfl, rest⟩ := adjustRest others width tokens (fun entry mem => by
    obtain ⟨larger, sameBlocks⟩ := leads entry mem
    rw [sameBlocks]
    omega) continued
  rw [sameId] at rest
  refine ⟨seq', ⟨AList.lookup_insert _, sameId.trans id, width, kept, (first.1, w'), rest'', rfl,
    ⟨rfl, blocks', ?_, ?_, ?_⟩, ?_⟩, tokens, ends⟩
  · rw [← id]
    exact grown
  · rw [more, length, tokens]
    rw [Nat.add_sub_cancel, ceilDiv_succ first.1.tokensPerBlock_pos]
  · omega
  · rw [tokens, ← id]
    exact rest

/-- The run lemma. -/
theorem Slides.addTokens {count : Nat} (leads : Leads first rest)
    (slides : Slides rid first rest seq m)
    (added : (List.replicate count TokenOp.addToken).foldlM
      (KVCacheManager.tokenStep plat rid) m = .ok m') :
    ∃ seq', Slides rid first rest seq' m' ∧ seq'.numTokens = seq.numTokens + count ∧
      (0 < count → seq'.numTokens - seq'.numFrontBlocksRemoved * first.1.tokensPerBlock <
        first.1.windowSize + first.1.tokensPerBlock) := by
  have kept := addTokens_invariant (fun tokens st => ∃ seq', Slides rid first rest seq' st ∧
      seq'.numTokens = tokens ∧ (seq.numTokens < tokens →
        seq'.numTokens - seq'.numFrontBlocksRemoved * first.1.tokensPerBlock <
          first.1.windowSize + first.1.tokensPerBlock))
    ?_ ⟨seq, slides, rfl, fun less => absurd less (Nat.lt_irrefl _)⟩ added
  · obtain ⟨seq', ends, tokens, slid⟩ := kept
    exact ⟨seq', ends, tokens, fun pos => slid (Nat.lt_add_of_pos_right pos)⟩
  · rintro tokens st next ⟨between, kept, same, _⟩ stepped
    obtain ⟨seq', ends, more, slid⟩ := kept.addToken leads stepped
    exact ⟨seq', ends, same ▸ more, fun _ => slid⟩

/-! ## Removing the sequence -/

theorem releaseRest (covered : List.Forall₂ (Covers rid numTokens 0) rest rest')
    (id : seq.requestId = rid) (attached : seq.numFrontBlocksRemoved = 0)
    (looped : forWindows (releaseWindow plat request) rest' seq = .ok (windows, seq')) :
    List.Forall₂ (fun before after => after.2.refCount = before.2.refCount) rest windows := by
  induction covered generalizing windows seq with
  | nil =>
    cases looped
    exact .nil
  | @cons before after rest rest' covers others ih =>
    obtain ⟨w', between, rest'', stepped, continued, rfl⟩ := forWindows_cons_ok looped
    simp only [releaseWindow, Except.bind_eq_ok, Except.pure_eq_ok, Prod.mk.injEq] at stepped
    obtain ⟨_, released, rfl, rfl⟩ := stepped
    obtain ⟨sameConfig, blocks, owns, length, _⟩ := covers
    rw [← attached, ← id] at owns
    exact .cons (owns.releaseBlocks released) (ih (by exact id) rfl continued)

/-- No longer holding a sequence changes no count. -/
theorem releaseSequence_windows (m : KVCacheManager) (rid : RequestId) :
    ∃ mark : WindowConfig × WindowBlockManager → WindowConfig × WindowBlockManager,
      (m.releaseSequence rid).windows = m.windows.map mark ∧
      ∀ entry, (mark entry).2.refCount = entry.2.refCount := by
  unfold releaseSequence
  split
  · exact ⟨_, rfl, fun _ => rfl⟩
  · exact ⟨id, (List.map_id _).symm, fun _ => rfl⟩

theorem Slides.removeSequence (slides : Slides rid first rest seq m)
    (removed : m.removeSequence plat reuse rid request = .ok m') :
    List.Forall₂ (fun before after => after.2.refCount = before.2.refCount) (first :: rest)
      m'.windows := by
  obtain ⟨known, id, _, _, first', rest', windows, here, others⟩ := slides
  unfold KVCacheManager.removeSequence at removed
  rw [known] at removed
  simp only [KVCacheManager.releaseBlocks, Except.bind_eq_ok, Except.pure_eq_ok] at removed
  obtain ⟨_, ⟨valid, _, ⟨windows', last⟩, looped, rfl⟩, rfl⟩ := removed
  rw [windows] at looped
  obtain ⟨cfg, w⟩ := first'
  obtain ⟨w', between, rest'', stepped, continued, rfl⟩ := forWindows_cons_ok looped
  simp only [releaseWindow, Except.bind_eq_ok, Except.pure_eq_ok, Prod.mk.injEq] at stepped
  obtain ⟨released, releasing, rfl, rfl⟩ := stepped
  obtain ⟨_, blocks, owns, _, _⟩ := here
  rw [← id] at owns
  have all : List.Forall₂ (fun before after : WindowConfig × WindowBlockManager =>
      after.2.refCount = before.2.refCount) (first :: rest) ((cfg, released) :: rest'') :=
    .cons (owns.releaseBlocks releasing) (releaseRest others (by exact id) rfl continued)
  obtain ⟨mark, marked, same⟩ := releaseSequence_windows
    { m with sequences := m.sequences.erase rid, windows := (cfg, released) :: rest'' }
    rid
  rw [marked, List.forall₂_map_right_iff]
  exact all.imp fun before after equal => (same after).trans equal

/-! ## All windows -/

/-- The references that a sequence of some tokens has in a window, on top of those before it. -/
structure References (requestId : RequestId) (numTokens : Nat) (slid : Prop)
    (before after : WindowConfig × WindowBlockManager) (detached : Nat) : Prop where
  config : after.1 = before.1
  listed : (after.2.allocated requestId).length = ceilDiv numTokens before.1.tokensPerBlock
  counts : ∀ block, after.2.refCount block =
    before.2.refCount block + ((after.2.allocated requestId).drop detached).count block
  /-- A block with one of the last `windowSize` tokens is referenced. -/
  covered : ∀ position < (after.2.allocated requestId).length,
    numTokens < (position + 1) * before.1.tokensPerBlock + before.1.windowSize → detached ≤ position
  bounded : slid → ((after.2.allocated requestId).drop detached).length ≤
    ceilDiv before.1.windowSize before.1.tokensPerBlock + 1

/-- The blocks behind the detached ones are those of the window and one more. -/
theorem ceilDiv_sub_le {windowSize tpb : Nat} (pos : 0 < tpb)
    (slid : numTokens - front * tpb < windowSize + tpb) :
    ceilDiv numTokens tpb - front ≤ ceilDiv windowSize tpb + 1 := by
  have bound : ceilDiv numTokens tpb ≤ ceilDiv windowSize tpb + 1 + front := by
    unfold ceilDiv
    rw [← Nat.add_div_right _ pos, ← Nat.add_mul_div_right _ _ pos]
    exact Nat.div_le_div_right (by omega)
  omega

theorem Covers.references {before after : WindowConfig × WindowBlockManager} {slid : Prop}
    (covers : Covers rid numTokens front before after)
    (within : front = 0 ∨ front * before.1.tokensPerBlock + before.1.windowSize ≤ numTokens)
    (settled : slid → ceilDiv numTokens before.1.tokensPerBlock - front ≤
      ceilDiv before.1.windowSize before.1.tokensPerBlock + 1) :
    References rid numTokens slid before after front := by
  obtain ⟨cfg, blocks, owns, length, lt⟩ := covers
  obtain ⟨sq, found, rfl, _⟩ := owns.recorded
  have blocks : after.2.allocated rid = sq.allocatedBlocks := by
    rw [allocated, found]
    rfl
  refine ⟨cfg, blocks ▸ length, blocks ▸ owns.counts, fun pos _ recent => ?_, fun isSlid => ?_⟩
  · rcases within with rfl | kept
    · exact Nat.zero_le _
    · have below : front * before.1.tokensPerBlock < (pos + 1) * before.1.tokensPerBlock := by
        omega
      exact Nat.le_of_lt_succ (Nat.lt_of_mul_lt_mul_right below)
  · rw [blocks, List.length_drop, length]
    exact settled isSlid

/-- After a sequence with one beam is added and any number of tokens, every window references the
blocks of its last tokens; the smallest one once it has slid, and every one that is not outgrown,
references no more than it needs; and removing the sequence gives all references back. -/
theorem windows_hold_references (platform : Platform) (enableBlockReuse : Bool) (m : KVCacheManager)
    (sorted : m.windows.Pairwise fun entry other => entry.1.windowSize < other.1.windowSize)
    (sameBlocks : ∀ entry ∈ m.windows, ∀ other ∈ m.windows,
      entry.1.tokensPerBlock = other.1.tokensPerBlock)
    (several : m.windows ≠ []) {requestId inputLength count : Nat}
    (fits : ∀ entry ∈ m.windows,
      inputLength ≤ entry.1.maxTokenNum + entry.1.temporaryAttentionWindow)
    {request request' : Option LlmRequest} {added current : KVCacheManager}
    (adding : m.addSequence platform enableBlockReuse requestId inputLength 1 Nat.one_pos request =
      .ok (added, request'))
    (appended : (List.replicate count TokenOp.addToken).foldlM
      (tokenStep platform requestId) added =
      .ok current) :
    List.Forall₂ (fun before after => ∃ detached, References requestId (inputLength + count)
        ((∀ entry ∈ m.windows, before.1.windowSize ≤ entry.1.windowSize) ∧ 0 < count ∨
          ceilDiv (inputLength + count) before.1.tokensPerBlock ≤
            ceilDiv before.1.windowSize before.1.tokensPerBlock + 1)
        before after detached) m.windows current.windows ∧
    ∀ request removed, current.removeSequence platform enableBlockReuse requestId request =
        .ok removed →
      List.Forall₂ (fun before after => after.2.refCount = before.2.refCount) m.windows
        removed.windows := by
  obtain ⟨first, rest, windows⟩ := List.exists_cons_of_ne_nil several
  rw [windows] at sorted sameBlocks
  obtain ⟨smallest, _⟩ := List.pairwise_cons.mp sorted
  have leads : Leads first rest := fun entry member =>
    ⟨Nat.le_of_lt (smallest entry member),
      sameBlocks entry (List.mem_cons_of_mem _ member) first List.mem_cons_self⟩
  obtain ⟨start, started, tokens⟩ := Slides.addSequence windows fits adding
  obtain ⟨seq, slides, more, slid⟩ := started.addTokens leads appended
  rw [tokens] at more
  constructor
  · obtain ⟨known, id, _, within, first', rest', windows', here, others⟩ := slides
    rw [windows, windows', ← more]
    have larger := (List.forall₂_and_left rest rest').mpr ⟨smallest, others⟩
    refine .cons ⟨_, here.references within ?_⟩ (larger.imp ?_)
    · rintro (⟨_, positive⟩ | short)
      · exact ceilDiv_sub_le first.1.tokensPerBlock_pos (slid positive)
      · exact Nat.le_trans (Nat.sub_le _ _) short
    · rintro before after ⟨bigger, covers⟩
      refine ⟨0, covers.references (.inl rfl) ?_⟩
      rintro (⟨least, _⟩ | short)
      · exact absurd (least first List.mem_cons_self) (Nat.not_le.mpr bigger)
      · exact short
  · intro request removed removing
    rw [windows]
    exact slides.removeSequence removing

/-- A sliding window of the given size with blocks of two tokens. -/
def slidingWindow (windowSize : Nat) : WindowConfig where
  windowSize := windowSize
  numPrimaryBlocks := 8
  numSecondaryBlocks := 0
  tokensPerBlock := 2
  isSWA := true
  maxTokenNum := 16
  maxBlocksPerSeq := 8

/-- Five tokens: the window of two tokens has slid, that of four is not outgrown. -/
theorem windows_hold_references_fiveTokens : ∃ added current,
    ((initial [slidingWindow 2, slidingWindow 4]).addSequence .plain false 1 2 1 Nat.one_pos none =
        .ok (added, none) ∧
      (List.replicate 3 TokenOp.addToken).foldlM (tokenStep .plain 1) added = .ok current) ∧
    List.Forall₂ (fun before after => ∃ detached, References 1 (2 + 3)
        ((∀ entry ∈ (initial [slidingWindow 2, slidingWindow 4]).windows,
            before.1.windowSize ≤ entry.1.windowSize) ∧ 0 < 3 ∨
          ceilDiv (2 + 3) before.1.tokensPerBlock ≤
            ceilDiv before.1.windowSize before.1.tokensPerBlock + 1)
        before after detached) (initial [slidingWindow 2, slidingWindow 4]).windows
      current.windows ∧
    ∀ request removed, current.removeSequence .plain false 1 request = .ok removed →
      List.Forall₂ (fun before after => after.2.refCount = before.2.refCount)
        (initial [slidingWindow 2, slidingWindow 4]).windows removed.windows := by
  obtain ⟨added, current, adding, appended, -⟩ : ∃ added current,
      (initial [slidingWindow 2, slidingWindow 4]).addSequence .plain false 1 2 1 Nat.one_pos none =
        .ok (added, none) ∧
      (List.replicate 3 TokenOp.addToken).foldlM (tokenStep .plain 1) added = .ok current ∧ True :=
    Except.exists_returns_both (by decide +kernel)
  refine ⟨added, current, ⟨adding, appended⟩, windows_hold_references .plain false
    (initial [slidingWindow 2, slidingWindow 4]) ?_ ?_ ?_ ?_ adding appended⟩
  · simp [initial, slidingWindow]
  · simp [initial, slidingWindow]
  · exact List.cons_ne_nil _ _
  · simp [initial, slidingWindow]

/-- Seven tokens: the window of four tokens still has a reference on all four blocks, where it may
have three. -/
theorem larger_window_keeps_blocks : ∃ added current,
    (initial [slidingWindow 2, slidingWindow 4]).addSequence .plain false 1 2 1 Nat.one_pos none =
      .ok (added, none) ∧
    (List.replicate 5 TokenOp.addToken).foldlM (tokenStep .plain 1) added = .ok current ∧
    (current.windows.map fun entry =>
      ((entry.2.allocated 1).countP entry.2.hasRefs, ceilDiv entry.1.windowSize 2 + 1)) =
        [(2, 2), (4, 3)] :=
  Except.exists_returns_both (by decide +kernel)

end KVCacheManager

end TrtLlm
