import TrtLlm.KvCache.OneSequence

/-! # Adding and removing tokens

A sequence with one beam that has not slid has one block id for each started block of its tokens, in
every window. Whether a removed token was the first one of its block is decided from the number of
tokens modulo the window size, which is right if the window is made of whole blocks or is not
filled.
-/

namespace TrtLlm

open List

open Except (bind_eq_ok pure_eq_ok throw_bind_eq_ok)

open WindowBlockManager

variable {denominator : Nat}

/-- The whole blocks, and one more for a rest. -/
theorem ceilDiv_eq (pos : 0 < denominator) (numerator : Nat) :
    ceilDiv numerator denominator =
      numerator / denominator + if numerator % denominator = 0 then 0 else 1 := by
  have parts := Nat.div_add_mod numerator denominator
  have below := Nat.mod_lt numerator pos
  unfold ceilDiv
  generalize numerator / denominator = quotient at parts ⊢
  generalize numerator % denominator = remainder at parts below ⊢
  split
  · rw [show numerator + denominator - 1 = denominator - 1 + denominator * quotient by omega,
      Nat.add_mul_div_left _ _ pos, Nat.div_eq_of_lt (by omega)]
    omega
  · have succ : denominator * (quotient + 1) = denominator * quotient + denominator :=
      Nat.mul_succ _ _
    rw [show numerator + denominator - 1 = remainder - 1 + denominator * (quotient + 1) by omega,
      Nat.add_mul_div_left _ _ pos, Nat.div_eq_of_lt (by omega)]
    omega

/-- One more number needs one more block if it starts one. -/
theorem ceilDiv_succ (pos : 0 < denominator) (numerator : Nat) :
    ceilDiv (numerator + 1) denominator =
      ceilDiv numerator denominator + if numerator % denominator = 0 then 1 else 0 := by
  have next : ceilDiv (numerator + 1) denominator = numerator / denominator + 1 := by
    unfold ceilDiv
    rw [show numerator + 1 + denominator - 1 = numerator + denominator by omega,
      Nat.add_div_right _ pos]
  rw [next, ceilDiv_eq pos]
  split <;> omega

/-- The tests by which a block is added and removed agree on a number of tokens. -/
def WindowConfig.testsAgree (config : WindowConfig) (numTokens : Nat) : Bool :=
  (numTokens % config.windowSize % config.tokensPerBlock == 0) ==
    (numTokens % config.tokensPerBlock == 0)

theorem WindowConfig.testsAgree_iff {config : WindowConfig} {numTokens : Nat} :
    config.testsAgree numTokens = true ↔
      (numTokens % config.windowSize % config.tokensPerBlock = 0 ↔
      numTokens % config.tokensPerBlock = 0) := by
  rw [testsAgree, beq_iff_eq, Bool.eq_iff_iff, beq_iff_eq, beq_iff_eq]

variable {seq' : GenerationRequest}

namespace WindowBlockManager

variable {cfg : WindowConfig} {plat : Platform} {s s' : WindowBlockManager}
  {seq : GenerationRequest} {rid : RequestId} {numTokens : Nat}

/-- The number of block ids of a sequence, on its first beam. -/
def numBlockIds (s : WindowBlockManager) (requestId : RequestId) : Nat :=
  ((s.sequences.lookup requestId).map fun sequence => (sequence.beamBlocks 0).length).getD 0

/-- The sequence has a block for each started block of tokens, and holds all of them. -/
def ListsTokens (config : WindowConfig) (requestId : RequestId) (numTokens : Nat)
    (s : WindowBlockManager) : Prop :=
  ∃ base blocks, Owns base requestId 0 blocks s ∧
    blocks.length = ceilDiv numTokens config.tokensPerBlock

theorem ListsTokens.numBlockIds_eq (lists : ListsTokens cfg rid numTokens s) :
    s.numBlockIds rid = ceilDiv numTokens cfg.tokensPerBlock := by
  obtain ⟨base, blocks, owns, length⟩ := lists
  obtain ⟨sq, found, rfl, beam⟩ := owns.recorded
  rw [numBlockIds, found, ← length, Option.map_some, Option.getD_some, SequenceBlocks.beamBlocks,
    beam]
  rfl

/-- A further token in a window that has not slid. -/
theorem ListsTokens.adjustBlocksIfNeeded (lists : ListsTokens cfg seq.requestId numTokens s)
    (single : seq.beamWidth = 1) (tokens : seq.numTokens = numTokens + 1)
    (adjusted : adjustBlocksIfNeeded cfg plat s seq = .ok (s', seq'))
    (before : seq.numFrontBlocksRemoved = 0) (unslid : seq'.numFrontBlocksRemoved = 0) :
    ListsTokens cfg seq.requestId (numTokens + 1) s' := by
  obtain ⟨base, blocks, owns, length⟩ := lists
  obtain ⟨⟨blocks', kept, grown⟩, -⟩ :=
    Owns.adjustBlocksIfNeeded (before.symm ▸ owns) single (before.symm ▸ Nat.zero_le _) adjusted
  refine ⟨base, blocks', unslid ▸ kept, ?_⟩
  rw [grown, length, tokens, Nat.add_sub_cancel, ceilDiv_succ cfg.tokensPerBlock_pos]

/-- The last block is given back with its first token. -/
theorem ListsTokens.releaseLastBlock (plat : Platform)
    (lists : ListsTokens cfg seq.requestId (numTokens + 1) s)
    (first : numTokens % cfg.tokensPerBlock = 0) : ∃ s', s.releaseLastBlock plat seq = .ok s' ∧
      ListsTokens cfg seq.requestId numTokens s' := by
  obtain ⟨base, blocks, owns, length⟩ := lists
  rw [ceilDiv_succ cfg.tokensPerBlock_pos, if_pos first] at length
  have some : 0 < blocks.length := by omega
  obtain ⟨s', released⟩ := owns.releaseLastBlock_total plat some
  refine ⟨s', released, base, blocks.dropLast, owns.releaseLastBlock some released, ?_⟩
  rw [length_dropLast]
  omega

theorem ListsTokens.removeInside (lists : ListsTokens cfg rid (numTokens + 1) s)
    (lt : numTokens % cfg.tokensPerBlock ≠ 0) : ListsTokens cfg rid numTokens s := by
  obtain ⟨base, blocks, owns, length⟩ := lists
  rw [ceilDiv_succ cfg.tokensPerBlock_pos, if_neg lt] at length
  exact ⟨base, blocks, owns, length⟩

/-- The count of removed front blocks never goes down, and nothing else changes. -/
theorem front_le_adjustBlocksIfNeeded
    (adjusted : adjustBlocksIfNeeded cfg plat s seq = .ok (s', seq')) :
    seq.numFrontBlocksRemoved ≤ seq'.numFrontBlocksRemoved ∧
      seq' = { seq with numFrontBlocksRemoved := seq'.numFrontBlocksRemoved } := by
  obtain ⟨detached, looped, _⟩ := adjustBlocksIfNeeded_ok adjusted
  refine ⟨?_, (detachLoop_sequences looped).2⟩
  refine detachLoop_invariant (fun _ current =>
    seq.numFrontBlocksRemoved ≤ current.numFrontBlocksRemoved) ?_ (Nat.le_refl _) looped
  rintro st current next current' _ more stepped
  obtain ⟨_, _, _, _, _, _, rfl⟩ := detachFrontBlock_ok stepped
  exact Nat.le_succ_of_le more

end WindowBlockManager

namespace KVCacheManager

variable {plat : Platform} {reuse : Bool} {m m' : KVCacheManager}
  {rid : RequestId}

/-! ## The calls -/

/-- `KVCacheManager::rewindKVCache` -/
def rewindKVCache (platform : Platform) (m : KVCacheManager) (requestId : RequestId)
    (rewindLengths : Nat) : Except Failure KVCacheManager :=
  (List.range rewindLengths).foldlM (fun m _ => m.removeToken platform requestId) m

/-- The calls that change the number of tokens of a sequence. -/
inductive TokenOp where
  | addToken
  | removeToken
  | rewindKVCache (rewindLengths : Nat)
  deriving DecidableEq

def tokenStep (platform : Platform) (requestId : RequestId) (m : KVCacheManager) :
    TokenOp → Except Failure KVCacheManager
  | .addToken => m.addToken platform requestId
  | .removeToken => m.removeToken platform requestId
  | .rewindKVCache rewindLengths => m.rewindKVCache platform requestId rewindLengths

/-- No window of the sequence has slid. -/
def notSlid (m : KVCacheManager) (requestId : RequestId) : Bool :=
  (m.sequences.lookup requestId).all fun seq => seq.numFrontBlocksRemoved == 0

/-- The tests agree for all windows, with each number of tokens that some removals leave. -/
def aligned (m : KVCacheManager) (requestId : RequestId) (removals : Nat) : Bool :=
  m.windows.all fun entry => (m.sequences.lookup requestId).all fun seq =>
    (List.range removals).all fun removed => entry.1.testsAgree (seq.numTokens - 1 - removed)

/-- How many tokens a call removes. -/
def TokenOp.removals : TokenOp → Nat
  | .addToken => 0
  | .removeToken => 1
  | .rewindKVCache rewindLengths => rewindLengths

/-- Tokens are removed from aligned windows only. -/
def AlignedStep (requestId : RequestId) (m : KVCacheManager) (op : TokenOp) : Prop :=
  m.aligned requestId op.removals = true
  deriving Decidable

/-! ## Loops over the windows -/

variable {w : WindowBlockManager} {windows : List (WindowConfig × WindowBlockManager)}
  {σ : Type}
  {body : WindowConfig → WindowBlockManager → σ → Except Failure (WindowBlockManager × σ)}
  {cfg : WindowConfig} {rest windows' : List (WindowConfig × WindowBlockManager)}
  {carried carried' : σ} {w' : WindowBlockManager}

theorem forWindows_cons_ok
    (looped : forWindows body ((cfg, w) :: rest) carried = .ok (windows, carried')) :
    ∃ w' between rest', body cfg w carried = .ok (w', between) ∧
      forWindows body rest between = .ok (rest', carried') ∧ windows = (cfg, w') :: rest' := by
  simp only [forWindows, bind_eq_ok, pure_eq_ok, Prod.mk.injEq] at looped
  obtain ⟨⟨w', between⟩, stepped, ⟨rest', last⟩, tail, rfl, rfl⟩ := looped
  exact ⟨w', between, rest', stepped, tail, rfl⟩

theorem forWindows_cons {rest' : List (WindowConfig × WindowBlockManager)} {between : σ}
    (stepped : body cfg w carried = .ok (w', between))
    (continued : forWindows body rest between = .ok (rest', carried')) :
    forWindows body ((cfg, w) :: rest) carried = .ok ((cfg, w') :: rest', carried') := by
  rw [forWindows, stepped]
  dsimp only [bind, Except.bind]
  rw [continued]
  rfl

/-- A loop over the windows relates each of them to what becomes of it. -/
theorem forWindows_forall₂ (invariant : σ → Prop) (holds : WindowConfig × WindowBlockManager → Prop)
    (related : WindowConfig × WindowBlockManager → WindowConfig × WindowBlockManager → Prop)
    (round : ∀ cfg w carried w' carried', holds (cfg, w) → invariant carried →
      body cfg w carried = .ok (w', carried') → related (cfg, w) (cfg, w') ∧ invariant carried')
    (all : ∀ entry ∈ windows, holds entry) (initially : invariant carried)
    (looped : forWindows body windows carried = .ok (windows', carried')) :
    List.Forall₂ related windows windows' ∧ invariant carried' := by
  induction windows generalizing windows' carried with
  | nil =>
    cases looped
    exact ⟨.nil, initially⟩
  | cons entry rest ih =>
    obtain ⟨cfg, w⟩ := entry
    obtain ⟨w', between, rest', stepped, continued, rfl⟩ := forWindows_cons_ok looped
    obtain ⟨first, all⟩ := forall_mem_cons.mp all
    obtain ⟨here, kept⟩ := round cfg w carried w' between first initially stepped
    obtain ⟨others, ends⟩ := ih all kept continued
    exact ⟨.cons here others, ends⟩

theorem forWindows_configs (looped : forWindows body windows carried = .ok (windows', carried')) :
    windows'.map Prod.fst = windows.map Prod.fst := by
  induction windows generalizing windows' carried with
  | nil => cases looped; rfl
  | cons entry rest ih =>
    obtain ⟨w', between, rest', _, continued, rfl⟩ := forWindows_cons_ok looped
    rw [map_cons, map_cons, ih continued]

/-- The windows with the tokens of a sequence. -/
def ListsAll (requestId : RequestId) (numTokens : Nat)
    (windows : List (WindowConfig × WindowBlockManager)) : Prop :=
  ∀ entry ∈ windows, ListsTokens entry.1 requestId numTokens entry.2

/-- A window before and after a sequence was added that has got some tokens and from which `front`
blocks are detached. -/
structure Covers (requestId : RequestId) (numTokens front : Nat)
    (before after : WindowConfig × WindowBlockManager) : Prop where
  config : after.1 = before.1
  owns : ∃ blocks, Owns before.2.refCount requestId front blocks after.2 ∧
    blocks.length = ceilDiv numTokens before.1.tokensPerBlock ∧ front ≤ blocks.length

theorem Covers.lists {numTokens : Nat}
    (covered : List.Forall₂ (Covers rid numTokens 0) windows windows') :
    windows'.map Prod.fst = windows.map Prod.fst ∧ ListsAll rid numTokens windows' := by
  induction covered with
  | nil => exact ⟨rfl, forall_mem_nil _⟩
  | cons covers _ ih =>
    obtain ⟨cfg, blocks, owns, length, _⟩ := covers
    refine ⟨by rw [map_cons, map_cons, cfg, ih.1], ?_⟩
    exact forall_mem_cons.mpr ⟨⟨_, blocks, owns, cfg ▸ length⟩, ih.2⟩

/-- What the token calls keep of a sequence with one beam: as long as it has not slid, its lists are
exact. -/
structure Keeps (requestId : RequestId) (configs : List WindowConfig) (numTokens : Nat)
    (m : KVCacheManager) : Prop where
  configured : m.windows.map Prod.fst = configs
  known : ∃ seq, m.sequences.lookup requestId = some seq ∧ seq.requestId = requestId ∧
    seq.beamWidth = 1 ∧ seq.numTokens = numTokens ∧
    (seq.numFrontBlocksRemoved = 0 → ListsAll requestId numTokens m.windows)

variable {configs : List WindowConfig} {numTokens : Nat} {seq : GenerationRequest}
  {rewindLengths : Nat}

theorem Keeps.lists (keeps : Keeps rid configs numTokens m)
    (unslid : m.notSlid rid = true) : ListsAll rid numTokens m.windows := by
  obtain ⟨seq, found, _, _, _, lists⟩ := keeps.known
  rw [notSlid, found] at unslid
  exact lists (by simpa using unslid)

/-! ## Adding a sequence -/

/-- A new sequence gets the blocks of its prompt in a window, on top of the references there. -/
theorem addToWindow_owns {inputLength : Nat}
    {carried carried' : GenerationRequest × Option LlmRequest}
    (fits : inputLength ≤ cfg.maxTokenNum + cfg.temporaryAttentionWindow)
    (single : carried.1.beamWidth = 1)
    (body : addToWindow plat reuse inputLength cfg w carried = .ok (w', carried')) :
    (∃ blocks, Owns w.refCount carried.1.requestId 0 blocks w' ∧
      blocks.length = ceilDiv inputLength cfg.tokensPerBlock) ∧
      ∃ prepopulated, carried'.1 =
          { carried.1 with currentPrepopulatedPromptLen := prepopulated } := by
  have effective : min inputLength (cfg.maxTokenNum + cfg.temporaryAttentionWindow) =
      inputLength := Nat.min_eq_left fits
  obtain ⟨seq, req⟩ := carried
  unfold addToWindow at body
  rw [effective] at body
  cases reuse with
  | true =>
    cases req with
    | none => simp [throw, throwThe, MonadExceptOf.throw] at body
    | some req =>
      simp only [↓reduceIte, bind_eq_ok, pure_eq_ok, Prod.mk.injEq] at body
      obtain ⟨⟨loaded, reused, shortened⟩, loading, rfl, rfl⟩ := body
      obtain ⟨blocks, length, owns⟩ := owns_addSequenceReuse single loading
      obtain ⟨_, _, prepopulated, _, _, _, rfl, _⟩ := addSequenceReuse_ok loading
      exact ⟨⟨blocks, owns.modifyRecord (fun _ => rfl) (fun _ => rfl), length⟩, _, rfl⟩
  | false =>
    simp only [Bool.false_eq_true, ↓reduceIte, bind_eq_ok, pure_eq_ok, Prod.mk.injEq] at body
    obtain ⟨loaded, loading, rfl, rfl⟩ := body
    obtain ⟨blocks, length, owns⟩ := owns_addSequenceNoReuse single loading
    exact ⟨⟨blocks, owns.modifyRecord (fun _ => rfl) (fun _ => rfl), length⟩, _, rfl⟩

/-- Marking a sequence as held changes no window's sizes and counts. -/
theorem holdSequence_windows (m : KVCacheManager) (rid : RequestId) :
    ∃ mark : WindowConfig × WindowBlockManager → WindowConfig × WindowBlockManager,
      (m.holdSequence rid).windows = m.windows.map mark ∧
      ∀ entry, (mark entry).1 = entry.1 ∧ (mark entry).2.refCount = entry.2.refCount := by
  unfold holdSequence
  split
  · exact ⟨id, (map_id _).symm, fun _ => ⟨rfl, rfl⟩⟩
  · exact ⟨_, rfl, fun _ => ⟨rfl, rfl⟩⟩

section

variable {inputLength : Nat} {req req' : Option LlmRequest}
  (fits : ∀ entry ∈ m.windows, inputLength ≤ entry.1.maxTokenNum + entry.1.temporaryAttentionWindow)
  (added : m.addSequence plat reuse rid inputLength 1 Nat.one_pos req = .ok (m', req'))
include fits added

/-- A new sequence has the blocks of its prompt in every window. -/
theorem addSequence_covers : List.Forall₂ (Covers rid inputLength 0) m.windows m'.windows ∧
      ∃ prepopulated, m'.sequences.lookup rid = some
        { newSequence rid inputLength 1 Nat.one_pos req with
          currentPrepopulatedPromptLen := prepopulated } := by
  unfold KVCacheManager.addSequence at added
  split at added
  · simp only [throw_bind_eq_ok] at added
  · simp only [bind_eq_ok, pure_eq_ok, Prod.mk.injEq] at added
    obtain ⟨⟨windows', seq, _⟩, looped, rfl, _⟩ := added
    obtain ⟨mark, marked, same⟩ := holdSequence_windows m rid
    rw [marked] at looped
    have bounded : ∀ entry ∈ m.windows.map mark,
        inputLength ≤ entry.1.maxTokenNum + entry.1.temporaryAttentionWindow := by
      intro entry mem
      obtain ⟨other, known, rfl⟩ := mem_map.mp mem
      rw [(same other).1]
      exact fits other known
    obtain ⟨covered, prepopulated, named⟩ := forWindows_forall₂
      (fun carried => ∃ prepopulated, carried.1 =
        { newSequence rid inputLength 1 Nat.one_pos req with
          currentPrepopulatedPromptLen := prepopulated })
      (fun entry => inputLength ≤ entry.1.maxTokenNum + entry.1.temporaryAttentionWindow)
      (Covers rid inputLength 0)
      (fun cfg w carried w' carried' fits named body => by
        obtain ⟨earlier, named⟩ := named
        obtain ⟨⟨blocks, owns, length⟩, prepopulated, next⟩ :=
          addToWindow_owns fits (by rw [named]; rfl) body
        rw [named] at owns next
        exact ⟨⟨rfl, blocks, owns, length, Nat.zero_le _⟩, prepopulated, next⟩)
      bounded ⟨none, rfl⟩ looped
    refine ⟨(forall₂_map_left_iff.mp covered).imp ?_, prepopulated, ?_⟩
    · rintro before after ⟨cfg, blocks, owns, length, _⟩
      rw [(same before).1] at cfg length
      rw [(same before).2] at owns
      exact ⟨cfg, blocks, owns, length, Nat.zero_le _⟩
    · exact named ▸ AList.lookup_insert _

theorem Keeps.addSequence : Keeps rid (m.windows.map Prod.fst) inputLength m' := by
  obtain ⟨covered, prepopulated, known⟩ := addSequence_covers fits added
  obtain ⟨configured, lists⟩ := Covers.lists covered
  exact ⟨configured, _, known, rfl, rfl, rfl, fun _ => lists⟩

end

/-! ## Steps -/

/-- A further token in all windows, none of which slides. -/
theorem adjustWindows_lists
    (looped : forWindows (fun cfg w seq =>
      w.adjustBlocksIfNeeded cfg plat seq) windows seq = .ok (windows', seq'))
    (single : seq.beamWidth = 1) (tokens : seq.numTokens = numTokens + 1) :
    windows'.map Prod.fst = windows.map Prod.fst ∧
      seq.numFrontBlocksRemoved ≤ seq'.numFrontBlocksRemoved ∧
      seq' = { seq with numFrontBlocksRemoved := seq'.numFrontBlocksRemoved } ∧
      (seq'.numFrontBlocksRemoved = 0 → ListsAll seq.requestId numTokens windows →
        ListsAll seq.requestId (numTokens + 1) windows') := by
  induction windows generalizing windows' seq with
  | nil =>
    cases looped
    exact ⟨rfl, Nat.le_refl _, rfl, fun _ _ => forall_mem_nil _⟩
  | cons entry rest ih =>
    obtain ⟨w', between, rest', stepped, continued, rfl⟩ := forWindows_cons_ok looped
    obtain ⟨first, moved⟩ := front_le_adjustBlocksIfNeeded stepped
    have sameTokens : between.numTokens = numTokens + 1 := by rw [moved]; exact tokens
    have sameWidth : between.beamWidth = 1 := by rw [moved]; exact single
    have sameId : between.requestId = seq.requestId := by rw [moved]
    obtain ⟨configured, later, named, lists⟩ := ih continued sameWidth sameTokens
    refine ⟨by rw [map_cons, map_cons, configured], Nat.le_trans first later, ?_, ?_⟩
    · rw [named, moved]
    · intro unslid listed
      obtain ⟨here, others⟩ := forall_mem_cons.mp listed
      rw [sameId] at lists
      have now := here.adjustBlocksIfNeeded single tokens stepped (by omega) (by omega)
      exact forall_mem_cons.mpr ⟨now, lists unslid others⟩

/-- What a further token does to the windows and to the sequence. -/
theorem addToken_ok (found : m.sequences.lookup rid = some seq)
    (added : m.addToken plat rid = .ok m') :
    ∃ windows seq', forWindows (fun cfg w seq =>
        w.adjustBlocksIfNeeded cfg plat seq) m.windows
          { seq with numTokens := seq.numTokens + 1 } = .ok (windows, seq') ∧
      m' = { m with windows := windows, sequences := m.sequences.insert rid seq' } := by
  have got : m.getSequence rid = .ok seq := by rw [getSequence, found]
  unfold KVCacheManager.addToken at added
  rw [got] at added
  simp only [bind_eq_ok, pure_eq_ok, exists_eq_left', Except.ok.injEq] at added
  obtain ⟨⟨windows, seq'⟩, looped, rfl⟩ := added
  exact ⟨windows, seq', looped, rfl⟩

theorem Keeps.addToken (keeps : Keeps rid configs numTokens m)
    (added : m.addToken plat rid = .ok m') : Keeps rid configs (numTokens + 1) m' := by
  obtain ⟨seq, found, id, single, tokens, lists⟩ := keeps.known
  obtain ⟨windows, seq', looped, rfl⟩ := addToken_ok found added
  obtain ⟨configured, more, named, grown⟩ :=
    adjustWindows_lists looped single (congrArg (· + 1) tokens)
  refine ⟨configured.trans keeps.configured, seq', AList.lookup_insert _, ?_⟩
  have earlier : seq'.numFrontBlocksRemoved = 0 → seq.numFrontBlocksRemoved = 0 :=
    fun unslid => Nat.le_zero.mp (unslid ▸ more)
  refine ⟨by rw [named]; exact id, by rw [named]; exact single, by rw [named, tokens], ?_⟩
  exact fun unslid => id ▸ grown unslid (id.symm ▸ lists (earlier unslid))

/-- The windows after a token is removed. -/
theorem removeWindows_lists (plat : Platform) (seq : GenerationRequest)
    (lists : ListsAll seq.requestId (seq.numTokens + 1) windows)
    (aligned : ∀ entry ∈ windows, entry.1.testsAgree seq.numTokens = true) :
    ∃ windows', forWindows (fun cfg w (_ : Unit) =>
        if seq.numTokens % cfg.windowSize % cfg.tokensPerBlock = 0 then do
          let w ← w.releaseLastBlock plat seq
          return (w, ())
        else return (w, ())) windows () = .ok (windows', ()) ∧
      windows'.map Prod.fst = windows.map Prod.fst ∧
      ListsAll seq.requestId seq.numTokens windows' := by
  induction windows with
  | nil => exact ⟨[], rfl, rfl, forall_mem_nil _⟩
  | cons entry rest ih =>
    obtain ⟨cfg, w⟩ := entry
    obtain ⟨here, lists⟩ := forall_mem_cons.mp lists
    obtain ⟨agree, aligned⟩ := forall_mem_cons.mp aligned
    have whole := WindowConfig.testsAgree_iff.mp agree
    obtain ⟨rest', looped, configured, others⟩ := ih lists aligned
    have configs : ∀ w', (((cfg, w') :: rest').map Prod.fst) = cfg :: rest.map Prod.fst :=
      fun w' => by rw [map_cons, configured]
    by_cases first : seq.numTokens % cfg.tokensPerBlock = 0
    · obtain ⟨w', released, kept⟩ := here.releaseLastBlock plat first
      refine ⟨_, forWindows_cons ?_ looped, configs w', forall_mem_cons.mpr ⟨kept, others⟩⟩
      rw [if_pos (whole.mpr first), released]
      rfl
    · refine ⟨_, forWindows_cons ?_ looped, configs w,
        forall_mem_cons.mpr ⟨here.removeInside first, others⟩⟩
      rw [if_neg (whole.not.mpr first)]
      rfl

/-- The tests agree for all configurations, while tokens are removed. -/
def AlignedAt (configs : List WindowConfig) (numTokens removals : Nat) : Prop :=
  ∀ config ∈ configs, ∀ removed < removals, config.testsAgree (numTokens - 1 - removed) = true

theorem AlignedAt.one {removals : Nat} (aligned : AlignedAt configs numTokens (removals + 1)) :
    AlignedAt configs numTokens 1 :=
  fun cfg mem removed less => aligned cfg mem removed (by omega)

theorem AlignedAt.next {removals : Nat} (aligned : AlignedAt configs numTokens (removals + 1)) :
    AlignedAt configs (numTokens - 1) removals := by
  intro cfg mem removed less
  have later := aligned cfg mem (removed + 1) (Nat.succ_lt_succ less)
  rwa [Nat.add_comm, ← Nat.sub_sub] at later

theorem Keeps.alignedAt {removals : Nat} (keeps : Keeps rid configs numTokens m)
    (aligned : m.aligned rid removals = true) : AlignedAt configs numTokens removals := by
  obtain ⟨seq, found, _, _, tokens, _⟩ := keeps.known
  rw [← keeps.configured, ← tokens]
  simpa only [KVCacheManager.aligned, found, Option.all_some, all_eq_true, mem_range, AlignedAt,
    forall_mem_map] using aligned

theorem notSlid_iff (found : m.sequences.lookup rid = some seq) :
    m.notSlid rid = true ↔ seq.numFrontBlocksRemoved = 0 := by
  simp only [notSlid, found, Option.all_some, beq_iff_eq]

/-- A token can be removed from aligned windows that have not slid. -/
theorem Keeps.removeToken_total (plat : Platform)
    (keeps : Keeps rid configs (numTokens + 1) m) (unslid : m.notSlid rid = true)
    (aligned : AlignedAt configs (numTokens + 1) 1) :
    ∃ m', m.removeToken plat rid = .ok m' ∧ m'.notSlid rid = true ∧
      Keeps rid configs numTokens m' := by
  obtain ⟨seq, found, id, single, tokens, lists⟩ := keeps.known
  have front := (notSlid_iff found).mp unslid
  have shorter : seq.numTokens - 1 = numTokens := by rw [tokens, Nat.add_sub_cancel]
  obtain ⟨windows, looped, configured, kept⟩ :=
    removeWindows_lists plat { seq with numTokens := numTokens } (id.symm ▸ lists front)
      (fun entry mem => aligned entry.1 (keeps.configured ▸ mem_map_of_mem mem) 0 Nat.one_pos)
  have relisted : (m.sequences.insert rid { seq with numTokens := numTokens }).lookup rid =
      some { seq with numTokens := numTokens } := AList.lookup_insert _
  refine ⟨{ m with
    windows := windows, sequences := m.sequences.insert rid { seq with numTokens := numTokens } },
    ?_, ?_, configured.trans keeps.configured, _, relisted, id, single, rfl, fun _ => id ▸ kept⟩
  · simp only [KVCacheManager.removeToken, bind_eq_ok]
    refine ⟨seq, by rw [getSequence, found], ?_⟩
    rw [if_neg (by omega), if_neg (not_not_intro single)]
    simp only [bind_eq_ok, pure_eq_ok, shorter]
    exact ⟨(windows, ()), looped, rfl⟩
  · rw [notSlid_iff relisted]
    exact front

theorem Keeps.removeToken (keeps : Keeps rid configs numTokens m)
    (removed : m.removeToken plat rid = .ok m') (aligned : AlignedAt configs numTokens 1) :
    Keeps rid configs (numTokens - 1) m' := by
  obtain ⟨seq, found, id, single, tokens, lists⟩ := keeps.known
  have taken := removed
  simp only [KVCacheManager.removeToken, bind_eq_ok, getSequence, found, Except.ok.injEq,
    exists_eq_left'] at taken
  cases numTokens with
  | zero =>
    rw [if_pos tokens, pure_eq_ok] at taken
    exact taken ▸ keeps
  | succ numTokens =>
    by_cases front : seq.numFrontBlocksRemoved = 0
    · obtain ⟨next, stepped, _, kept⟩ :=
        keeps.removeToken_total plat ((notSlid_iff found).mpr front) aligned
      rw [removed] at stepped
      cases stepped
      exact kept
    · -- a sequence that has slid stays so
      rw [if_neg (by omega), if_neg (not_not_intro single)] at taken
      simp only [bind_eq_ok, pure_eq_ok] at taken
      obtain ⟨⟨windows, _⟩, looped, rfl⟩ := taken
      refine ⟨(forWindows_configs looped).trans keeps.configured, _, AList.lookup_insert _, id,
        single, ?_, ?_⟩
      · exact congrArg (· - 1) tokens
      · exact fun unslid => absurd unslid front

theorem rewindKVCache_succ (m : KVCacheManager) :
    m.rewindKVCache plat rid (rewindLengths + 1) =
      m.removeToken plat rid >>= fun next => next.rewindKVCache plat rid rewindLengths := by
  unfold rewindKVCache
  simp only [range_succ_eq_map, foldlM_cons, foldlM_map]

/-- Tokens can be removed again, from aligned windows that have not slid. -/
theorem Keeps.rewindKVCache_total (plat : Platform)
    (keeps : Keeps rid configs (numTokens + rewindLengths) m) (unslid : m.notSlid rid = true)
    (aligned : AlignedAt configs (numTokens + rewindLengths) rewindLengths) :
    ∃ m', m.rewindKVCache plat rid rewindLengths = .ok m' ∧
      m'.notSlid rid = true ∧ Keeps rid configs numTokens m' := by
  induction rewindLengths generalizing m with
  | zero => exact ⟨m, rfl, unslid, keeps⟩
  | succ rewindLengths ih =>
    obtain ⟨next, stepped, nextUnslid, kept⟩ := keeps.removeToken_total plat unslid aligned.one
    rw [rewindKVCache_succ, stepped]
    exact ih kept nextUnslid aligned.next

theorem Keeps.rewindKVCache (keeps : Keeps rid configs numTokens m)
    (rewound : m.rewindKVCache plat rid rewindLengths = .ok m')
    (aligned : AlignedAt configs numTokens rewindLengths) :
    ∃ fewer, Keeps rid configs fewer m' := by
  induction rewindLengths generalizing m numTokens with
  | zero =>
    cases rewound
    exact ⟨numTokens, keeps⟩
  | succ rewindLengths ih =>
    rw [rewindKVCache_succ, bind_eq_ok] at rewound
    obtain ⟨next, removed, rewound⟩ := rewound
    exact ih (keeps.removeToken removed aligned.one) rewound aligned.next

/-- The step lemma. -/
theorem Keeps.tokenStep {op : TokenOp} (keeps : Keeps rid configs numTokens m)
    (aligned : AlignedStep rid m op) (stepped : m.tokenStep plat rid op = .ok m') :
    ∃ tokens, Keeps rid configs tokens m' := by
  cases op with
  | addToken => exact ⟨_, keeps.addToken stepped⟩
  | removeToken =>
    exact ⟨_, keeps.removeToken stepped (keeps.alignedAt aligned)⟩
  | rewindKVCache rewindLengths =>
    exact keeps.rewindKVCache stepped (keeps.alignedAt aligned)

/-- What every further token keeps holds after some of them. -/
theorem addTokens_invariant {count : Nat} (holds : Nat → KVCacheManager → Prop)
    (round : ∀ tokens st next, holds tokens st → st.addToken plat rid = .ok next →
      holds (tokens + 1) next) (initially : holds numTokens m)
    (added : (List.replicate count TokenOp.addToken).foldlM (tokenStep plat rid) m =
      .ok m') : holds (numTokens + count) m' := by
  induction count generalizing m numTokens with
  | zero =>
    cases added
    exact initially
  | succ count ih =>
    rw [replicate_succ, foldlM_cons, bind_eq_ok] at added
    obtain ⟨next, stepped, continued⟩ := added
    have grown := ih (round _ _ _ initially stepped) continued
    rwa [Nat.add_right_comm] at grown

/-- In every state that the token calls reach without removing tokens from windows that are not
aligned, a sequence that has not slid has exactly the block ids that its tokens need, and further
tokens can be taken back with the block lists restored. -/
theorem block_lists_exact (platform : Platform) (enableBlockReuse : Bool) (m : KVCacheManager)
    {requestId inputLength : Nat} {request request' : Option LlmRequest} {added : KVCacheManager}
    (adding : m.addSequence platform enableBlockReuse requestId inputLength 1 Nat.one_pos request =
      .ok (added, request'))
    (fits : ∀ entry ∈ m.windows,
      inputLength ≤ entry.1.maxTokenNum + entry.1.temporaryAttentionWindow)
    {current : KVCacheManager}
    (reached : Run.Reaches (tokenStep platform requestId) (AlignedStep requestId) added current)
    (unslid : current.notSlid requestId = true) :
    (∃ seq, current.sequences.lookup requestId = some seq ∧ ∀ entry ∈ current.windows,
      entry.2.numBlockIds requestId = ceilDiv seq.numTokens entry.1.tokensPerBlock) ∧
    ∀ count grown, (List.replicate count TokenOp.addToken).foldlM (tokenStep platform requestId)
        current = .ok grown → grown.notSlid requestId = true →
          grown.aligned requestId count = true →
      ∃ rewound, grown.rewindKVCache platform requestId count = .ok rewound ∧
        (rewound.windows.map fun entry => entry.2.numBlockIds requestId) =
          current.windows.map fun entry => entry.2.numBlockIds requestId := by
  have kept : ∃ tokens, Keeps requestId (m.windows.map Prod.fst) tokens current := by
    apply reached.invariant
    · exact ⟨inputLength, Keeps.addSequence fits adding⟩
    · rintro before op after ⟨_, keeps⟩ aligned stepped
      exact keeps.tokenStep aligned stepped
  obtain ⟨tokens, keeps⟩ := kept
  have counted : ∀ {m : KVCacheManager} {configs : List WindowConfig},
      Keeps requestId configs tokens m → m.notSlid requestId = true →
      (m.windows.map fun entry => entry.2.numBlockIds requestId) =
        configs.map fun config => ceilDiv tokens config.tokensPerBlock := by
    intro m configs keeps unslid
    rw [← keeps.configured, List.map_map]
    exact List.map_congr_left fun entry member =>
      (keeps.lists unslid entry member).numBlockIds_eq
  constructor
  · obtain ⟨seq, found, _, _, same, _⟩ := keeps.known
    exact ⟨seq, found, fun entry member =>
      same ▸ (keeps.lists unslid entry member).numBlockIds_eq⟩
  · intro count grown adding grownUnslid aligned
    have more := addTokens_invariant (fun tokens => Keeps requestId _ tokens)
      (fun _ _ _ keeps => keeps.addToken) keeps adding
    obtain ⟨rewound, looped, rewoundUnslid, back⟩ :=
      more.rewindKVCache_total platform grownUnslid (more.alignedAt aligned)
    exact ⟨rewound, looped, (counted back rewoundUnslid).trans (counted keeps unslid).symm⟩

/-- A prompt of three tokens in a window of whole blocks, and two tokens of which one is removed. -/
theorem block_lists_exact_threeTokens : ∃ added current,
    ((initial [.fourBlocks]).addSequence .plain false 1 3 1 Nat.one_pos none = .ok (added, none) ∧
      Run.Reaches (tokenStep .plain 1) (AlignedStep 1) added current ∧
      current.notSlid 1 = true) ∧
    (∃ seq, current.sequences.lookup 1 = some seq ∧ ∀ entry ∈ current.windows,
      entry.2.numBlockIds 1 = ceilDiv seq.numTokens entry.1.tokensPerBlock) ∧
    ∀ count grown, (List.replicate count TokenOp.addToken).foldlM (tokenStep .plain 1) current =
        .ok grown → grown.notSlid 1 = true → grown.aligned 1 count = true →
      ∃ rewound, grown.rewindKVCache .plain 1 count = .ok rewound ∧
        (rewound.windows.map fun entry => entry.2.numBlockIds 1) =
          current.windows.map fun entry => entry.2.numBlockIds 1 := by
  obtain ⟨⟨added, request⟩, adding, nothing, traced⟩ : ∃ added,
      (initial [.fourBlocks]).addSequence .plain false 1 3 1 Nat.one_pos none = .ok added ∧
      added.2.isNone ∧ (Run.trace (tokenStep .plain 1) (AlignedStep 1)
        [.addToken, .addToken, .removeToken] added.1).any (fun current => current.notSlid 1) := by
    decide +kernel
  obtain ⟨current, reached, unslid⟩ := Run.exists_reaches_of_trace _ traced
  obtain rfl := Option.isNone_iff_eq_none.mp nothing
  refine ⟨added, current, ⟨adding, reached, unslid⟩,
    block_lists_exact .plain false (initial [.fourBlocks]) adding ?_ reached unslid⟩
  decide

/-- A sliding window of six tokens and blocks of four. -/
def windowOfSix : WindowConfig where
  windowSize := 6
  numPrimaryBlocks := 4
  numSecondaryBlocks := 0
  tokensPerBlock := 4
  isSWA := true
  maxTokenNum := 16
  maxBlocksPerSeq := 4

/-- The seventh token of a sequence is added and removed again: the six tokens that remain need two
blocks, and one block id is left. -/
theorem sixTokens_lose_block : ∃ added current,
    (initial [windowOfSix]).addSequence .plain false 1 6 1 Nat.one_pos none = .ok (added, none) ∧
    [TokenOp.addToken, .rewindKVCache 1].foldlM (tokenStep .plain 1) added = .ok current ∧
    (current.notSlid 1 = true ∧ (current.sequences.lookup 1).map (·.numTokens) = some 6 ∧
      (added.windows.map fun entry => entry.2.numBlockIds 1) = [2] ∧
      (current.windows.map fun entry => entry.2.numBlockIds 1) = [1] ∧
      ceilDiv 6 windowOfSix.tokensPerBlock = 2) :=
  Except.exists_returns_both (by decide +kernel)

end KVCacheManager

end TrtLlm
