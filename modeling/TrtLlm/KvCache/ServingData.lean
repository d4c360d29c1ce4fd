import TrtLlm.KvCache.Serving

/-! # The data of sequences through a run

In a run whose calls spare the contents of blocks, every block that a sequence relies on
holds the KV of its own tokens as far as it is computed, and every block in the reuse
tree holds what its path promises.
-/

namespace TrtLlm

open Function (update update_self update_of_ne update_eq_self)

open KVCacheManager WindowBlockManager

namespace WindowBlockManager

variable {cfg : WindowConfig} {mode : Mode cfg} {front : RequestId → Nat}
  {progress : Computed} {s : WindowBlockManager} {owed hand : List BlockId} {rid : RequestId}
  {sq : SequenceBlocks}

/-! ## Computing a token -/

theorem Core.setMemory (core : Core cfg mode front owed [] hand s)
    (memory : KVCacheIndex → Nat → Option Kv) :
    Core cfg mode front owed [] hand { s with memory := memory } :=
  core.frame (by constructor <;> rfl) rfl

/-- The state after some writes to the slots of the next position of a sequence. -/
structure Written (config : WindowConfig) (front : RequestId → Nat) (progress : Computed)
    (s s' : WindowBlockManager) : Prop where
  data : DataInv config front progress s'
  same : s' = { s with memory := s'.memory }

/-- The block of the next position is written by its sequence alone. -/
theorem Written.writeBeam {s' : WindowBlockManager} (written : Written cfg front progress s s')
    (core : Core cfg mode front owed [] hand s) (tree : TreeInv s)
    (found : s.sequences.lookup rid = some sq)
    (attached : front rid ≤ progress.computed rid / cfg.tokensPerBlock) (b : Nat) (kv : Option Kv) :
    Written cfg front progress s (writeBeam cfg sq (progress.computed rid) s' b kv) := by
  obtain ⟨data, same⟩ := written
  unfold WindowBlockManager.writeBeam
  split
  · exact ⟨data, same⟩
  · rename_i block here
    have pos := Nat.div_add_mod' (progress.computed rid) cfg.tokensPerBlock
    have lt := Nat.mod_lt (progress.computed rid) cfg.tokensPerBlock_pos
    have core' : Core cfg mode front owed [] hand s' := by
      rw [same]
      exact core.setMemory _
    have tree' : TreeInv s' := by
      rw [same]
      exact tree.congr rfl rfl rfl
    have found' : s'.sequences.lookup rid = some sq := by
      rw [same]
      exact found
    have listed : Lists s' rid b
        (progress.computed rid / cfg.tokensPerBlock) block := ⟨sq, found', here⟩
    obtain ⟨unlinked, alone⟩ := data.unshared listed attached (by
      rw [Nat.add_one_mul]
      omega)
    refine ⟨data.writeToken core' tree' (core'.listed_lt data listed) unlinked ?_ kv, ?_⟩
    · intro other beam place used
      obtain rfl := alone used
      obtain rfl := data.agree used ⟨listed, .inl attached⟩
      rw [pos]
      unfold Computed.limit
      split
      · exact le_rfl
      · exact data.reused_le other
    · rw [same]
      rfl

/-- Computing the next token of a sequence leaves it in the block of the first beam. -/
theorem DataInv.computeToken (data : DataInv cfg front progress s)
    (core : Core cfg mode front owed [] hand s) (tree : TreeInv s)
    (found : s.sequences.lookup rid = some sq)
    (attached : front rid ≤ progress.computed rid / cfg.tokensPerBlock) (others : Nat → Option Kv) :
    Written cfg front
      { progress with
        computed := update progress.computed rid
          (progress.computed rid + 1) } s
      (s.computeToken cfg rid (progress.computed rid)
        (progress.own rid (progress.computed rid)) others) := by
  unfold WindowBlockManager.computeToken
  rw [found]
  have start : Written cfg front progress s s := ⟨data, rfl⟩
  have beams : Written cfg front progress s ((List.range sq.cacheBlockIds.length).foldl
      (fun s beam => WindowBlockManager.writeBeam cfg sq (progress.computed rid)
        s beam (others beam)) s) :=
    List.foldl_invariant (Written cfg front progress s)
      (fun st beam _ written => written.writeBeam core tree found attached beam _) start
  have last := beams.writeBeam core tree found attached 0
    (some (progress.own rid (progress.computed rid)))
  refine ⟨last.data.advance rid ?_, last.same⟩
  -- the only block of the first beam with this position is the one that was written last
  intro idx token block used lt here
  obtain ⟨rfl, rfl⟩ : idx = progress.computed rid / cfg.tokensPerBlock ∧
      token = progress.computed rid % cfg.tokensPerBlock := by
    rw [← here, Nat.mul_comm idx, Nat.mul_add_div cfg.tokensPerBlock_pos, Nat.mul_add_mod,
      Nat.div_eq_of_lt lt, Nat.mod_eq_of_lt lt]
    exact ⟨rfl, rfl⟩
  obtain ⟨⟨recorded, looked, first⟩, _⟩ := used
  rw [last.same] at looked
  obtain rfl := Option.some.inj (found.symm.trans looked)
  unfold WindowBlockManager.writeBeam
  rw [first]
  rw [contents_writeToken_self, update_self]

end WindowBlockManager

namespace Serving

variable {plat : Platform} {cfg : WindowConfig} {t : Serving} {v v' : OneWindow}
  {requestId rid : RequestId} {req : LlmRequest} {op : Op} {output : Output} {pos : Nat}

/-! ## The invariant -/

/-- What the requests of a run say about the contents of blocks. -/
def progress (t : Serving) : Computed where
  own := fun requestId position =>
    (t.requests requestId).elim ⟨none, none, []⟩ fun request => request.kvAt position
  computed := t.computed
  reused := fun requestId => (t.requests requestId).elim 0 LlmRequest.prepopulatedPromptLen

theorem own_progress (known : t.requests rid = some req) : t.progress.own rid = req.kvAt := by
  funext pos
  simp only [progress, known, Option.elim_some]

/-- How far a request is when some of its tokens are computed. -/
structure Tracks (computed : Nat) (requestId : RequestId) (request : LlmRequest) : Prop where
  id : request.requestId = requestId
  position : request.contextCurrentPosition ≤ computed
  reused : request.prepopulatedPromptLen ≤ computed
  tokens : computed ≤ request.uniqueTokens.length
  length : request.uniqueTokens.length ≤ max request.promptLen (computed + 1)

/-- Tokens that a request takes to be usable are computed. -/
theorem Tracks.usable {computed : Nat} (tracks : Tracks computed rid req) :
    req.getUsableUniqueTokenCountForReuse ≤ computed := by
  have pos := tracks.position
  have length := tracks.length
  unfold LlmRequest.getUsableUniqueTokenCountForReuse
    LlmRequest.getMaterializedUniqueTokenCountForReuse LlmRequest.getContextRemainingLength
  split <;> omega

/-- Blocks in use may be offloaded, and the counts of free blocks do not matter. -/
def relaxed (config : WindowConfig) : Mode config where
  strict := False
  resident := False
  strict_of_resident := id
  onboards_of_resident := Mode.onboards_of_false config

structure Inv (config : WindowConfig) (t : Serving) (v : OneWindow) : Prop where
  manager : t.manager = v.manager config
  core : v.CoreInv config (relaxed config) [] []
  tree : TreeInv v.window
  data : DataInv config v.front t.progress v.window
  covered : ∀ {requestId seq}, v.sequences.lookup requestId = some seq →
    Covered config v.window seq (t.computed requestId)
  attached : config.isSWA = false → ∀ requestId, v.front requestId = 0
  tracks : ∀ {requestId request}, t.requests requestId = some request →
    Tracks (t.computed requestId) requestId request

theorem DataInv_initial (cfg : WindowConfig) (front : RequestId → Nat) (progress : Computed)
    (reused : ∀ rid, progress.reused rid ≤ progress.computed rid) :
    DataInv cfg front progress (WindowBlockManager.initial cfg) where
  promised linked := nomatch linked
  full full := nomatch full
  written used := nomatch used.1.choose_spec.1
  unshared listed := nomatch listed.choose_spec.1
  depth used := nomatch used.1.choose_spec.1
  agree used := nomatch used.1.choose_spec.1
  beams found := nomatch found
  reused_le := reused

theorem Inv.initial (cfg : WindowConfig) :
    Inv cfg (Serving.initial [cfg]) (OneWindow.initial cfg) where
  manager := rfl
  core := .initial cfg _
  tree := .initial cfg
  data := DataInv_initial cfg _ _ fun _ => le_rfl
  covered found := by cases found
  attached _ _ := rfl
  tracks known := by cases known

theorem reused_le (t : Serving) (tracks : ∀ {rid req}, t.requests rid = some req →
    Tracks (t.computed rid) rid req) (rid : RequestId) :
    t.progress.reused rid ≤ t.progress.computed rid := by
  unfold progress
  dsimp only
  cases known : t.requests rid with
  | none => exact Nat.zero_le _
  | some req => exact (tracks known).reused

/-! ## Steps on the requests -/

/-- The owner of a request changes it, but not its tokens as far as they are computed. -/
theorem Inv.modifyRequest (inv : Inv cfg t v) (rid : RequestId) {change : LlmRequest → LlmRequest}
    (same : ∀ {req}, t.requests rid = some req →
      (change req).prepopulatedPromptLen = req.prepopulatedPromptLen ∧
        ∀ pos < t.computed rid, (change req).kvAt pos = req.kvAt pos)
    (tracks : ∀ {req}, t.requests rid = some req → Tracks (t.computed rid) rid (change req)) :
    Inv cfg (t.modifyRequest rid change) v := by
  have tracked : ∀ {other req}, (t.modifyRequest rid change).requests other =
      some req → Tracks (t.computed other) other req := by
    intro other req known
    unfold Serving.modifyRequest at known
    dsimp only at known
    by_cases here : other = rid
    · subst here
      rw [update_self, Option.map_eq_some_iff] at known
      obtain ⟨before, found, rfl⟩ := known
      exact tracks found
    · rw [update_of_ne here] at known
      exact inv.tracks known
  refine ⟨inv.manager, inv.core, inv.tree, ?_, inv.covered, inv.attached, tracked⟩
  refine inv.data.progress_congr (fun other _ => ⟨rfl, ?_⟩) (reused_le _ tracked)
  by_cases here : other = rid
  · subst here
    unfold progress Serving.modifyRequest
    dsimp only
    rw [update_self]
    cases found : t.requests other with
    | none => exact ⟨rfl, fun _ _ => rfl⟩
    | some req => exact same found
  · unfold progress Serving.modifyRequest
    dsimp only
    rw [update_of_ne here]
    exact ⟨rfl, fun _ _ => rfl⟩

theorem Inv.advance (inv : Inv cfg t v) (proper : pos ≤ t.computed rid) :
    Inv cfg (t.modifyRequest rid fun req =>
      { req with contextCurrentPosition := pos }) v :=
  inv.modifyRequest rid (fun _ => ⟨rfl, fun _ _ => rfl⟩) fun known =>
    have before := inv.tracks known
    ⟨before.id, proper, before.reused, before.tokens, before.length⟩

theorem Inv.append (inv : Inv cfg t v) {token : UniqueToken}
    (proper : ∀ req ∈ t.requests rid,
      t.computed rid = req.uniqueTokens.length) :
    Inv cfg (t.modifyRequest rid fun req =>
      { req with uniqueTokens := req.uniqueTokens ++ [token] }) v := by
  refine inv.modifyRequest rid (fun {req} known => ⟨rfl, fun pos before => ?_⟩)
    fun {req} known => ?_
  · rw [proper req known] at before
    unfold LlmRequest.kvAt
    rw [List.take_append_of_le_length before]
  · have tracks := inv.tracks known
    have all := proper req known
    refine ⟨tracks.id, tracks.position, tracks.reused, ?_, ?_⟩ <;>
      simp only [List.length_append, List.length_singleton] <;> omega

/-! ## Computing -/

theorem hasBlock_manager (has : hasBlock (v.manager cfg) rid pos = true) :
    ∃ seq sq, v.sequences.lookup rid = some seq ∧ v.window.sequences.lookup rid = some sq ∧
      seq.numFrontBlocksRemoved ≤ pos / cfg.tokensPerBlock ∧ ∀ beam < seq.beamWidth,
        pos / cfg.tokensPerBlock < (sq.beamBlocks beam).length := by
  unfold hasBlock at has
  rw [Option.any_eq_true] at has
  obtain ⟨seq, found, windows⟩ := has
  simp only [OneWindow.manager, List.all_cons, List.all_nil, Bool.and_true, Bool.and_eq_true,
    decide_eq_true_eq, Option.any_eq_true, List.all_eq_true, List.mem_range] at windows
  obtain ⟨attached, sq, recorded, lengths⟩ := windows
  exact ⟨seq, sq, found, recorded, attached, lengths⟩

open OneWindow (unhold effectiveLength front_eq front_absent)

theorem Inv.compute (inv : Inv cfg t v) (others : Nat → Option Kv)
    (proper : t.Proper (.compute rid others)) : ∃ v', Inv cfg (t.compute rid others) v' := by
  obtain ⟨⟨req, known, short⟩, has⟩ := proper
  rw [inv.manager] at has
  obtain ⟨seq, sq, found, recorded, attached, lengths⟩ := hasBlock_manager has
  rw [← front_eq found] at attached
  have written := inv.data.computeToken inv.core.inv.core inv.tree recorded attached others
  rw [own_progress known] at written
  unfold Serving.compute
  rw [show t.requests rid = some req from known, inv.manager]
  change Written cfg v.front _ v.window (v.window.computeToken cfg rid
    (t.computed rid) (req.kvAt (t.computed rid)) others) at written
  simp only [OneWindow.manager, List.map_cons, List.map_nil]
  generalize v.window.computeToken cfg rid (t.computed rid)
    (req.kvAt (t.computed rid)) others = w at written ⊢
  have seqs : w.sequences = v.window.sequences := by rw [written.same]
  refine ⟨⟨w, v.sequences, v.managed⟩, rfl, ⟨inv.core.ids, ?_⟩, ?_, written.data, ?_,
    inv.attached, ?_⟩
  · change WindowInv cfg (relaxed cfg) v.front [] [] v.live w
    rw [written.same]
    exact inv.core.inv.frame (by constructor <;> rfl) rfl
  · change TreeInv w
    rw [written.same]
    exact inv.tree.congr rfl rfl rfl
  · intro other seq' looked
    refine Covered.of_same ?_ seqs
    by_cases here : other = rid
    · subst here
      obtain rfl := Option.some.inj (found.symm.trans looked)
      obtain ⟨sequence', recorded', width, _⟩ := inv.covered found
      rw [inv.core.ids found] at recorded'
      obtain rfl := Option.some.inj (recorded.symm.trans recorded')
      refine ⟨sq, by rwa [inv.core.ids found], width, fun beam lt => ?_⟩
      dsimp only
      rw [update_self]
      have next : t.computed other < t.computed other / cfg.tokensPerBlock *
          cfg.tokensPerBlock + cfg.tokensPerBlock :=
        Nat.lt_div_mul_add cfg.tokensPerBlock_pos
      have reached := Nat.mul_le_mul_right cfg.tokensPerBlock (lengths beam lt)
      rw [Nat.succ_mul] at reached
      omega
    · dsimp only
      rw [update_of_ne here]
      exact inv.covered looked
  · intro other req' known'
    have tracks := inv.tracks known'
    by_cases here : other = rid
    · subst here
      obtain rfl := Option.some.inj (known.symm.trans known')
      have length := tracks.length
      dsimp only
      rw [update_self]
      exact ⟨tracks.id, Nat.le_succ_of_le tracks.position, Nat.le_succ_of_le tracks.reused, short,
        by omega⟩
    · dsimp only
      rw [update_of_ne here]
      exact tracks

/-! ## Calls -/

/-- A history without the branches that spoil contents. -/
def Untouched (config : WindowConfig) (s : WindowBlockManager) : Prop :=
  ∀ branch ∈ s.history, branch.spoils config.isSWA = false

theorem Untouched.relinked {s : WindowBlockManager} (untouched : Untouched cfg s)
    (block : BlockId) : .relinked block ∉ s.history :=
  fun mem => Bool.noConfusion (untouched _ mem)

section

variable (inv : Inv cfg t v) {s : WindowBlockManager} (untouched : Untouched cfg s)
include inv untouched

theorem Inv.detaches_or_spares : (cfg.isSWA = false ∧ ∀ rid, v.front rid = 0) ∨
      ∀ block, .tookListed block ∉ s.history := by
  cases sliding : cfg.isSWA with
  | false => exact .inl ⟨rfl, inv.attached sliding⟩
  | true =>
    refine .inr fun block mem => ?_
    have kept := untouched _ mem
    rw [sliding] at kept
    exact Bool.noConfusion kept

theorem Inv.spared : Spared v.front s :=
  (inv.detaches_or_spares untouched).imp_left And.right

theorem Inv.clean : Clean v.front s :=
  ⟨fun _ mem => Bool.noConfusion (untouched _ mem), inv.spared untouched⟩

end

theorem Inv.hold (inv : Inv cfg t v) (rid : RequestId)
    (missing : v.window.sequences.lookup rid = none) :
    DataInv cfg v.front t.progress (v.hold rid) := by
  unfold OneWindow.hold
  split
  · exact inv.data
  · refine inv.data.marks fun {other} recorded marked => ?_
    have ne : other ≠ rid := by
      rintro rfl
      rw [missing] at recorded
      cases recorded
    rwa [update_of_ne ne] at marked

theorem hold_sequences (v : OneWindow) (rid : RequestId) :
    (v.hold rid).sequences = v.window.sequences := by
  unfold OneWindow.hold
  split <;> rfl

theorem unhold_sequences (managed : RequestId → Bool) (w : WindowBlockManager) (rid : RequestId) :
    (unhold managed w rid).sequences = w.sequences := by
  unfold unhold
  split <;> rfl

theorem unhold_history (managed : RequestId → Bool) (w : WindowBlockManager) (rid : RequestId) :
    (unhold managed w rid).history = w.history := by
  unfold unhold
  split <;> rfl

variable {w : WindowBlockManager} {req' : LlmRequest} {seq : GenerationRequest}
  {valid : Bool} {inputLength beamWidth : Nat}

theorem DataInv_unhold {front : RequestId → Nat} {progress : Computed}
    (data : DataInv cfg front progress w) (managed : RequestId → Bool) (rid : RequestId) :
    DataInv cfg front progress (unhold managed w rid) := by
  unfold unhold
  split
  · refine data.marks fun {other} _ marked => ?_
    by_cases here : other = rid
    · rw [here, update_self] at marked
      cases marked
    · rwa [update_of_ne here] at marked
  · exact data

/-- A request that is added reuses what its blocks hold. -/
theorem Inv.addReuse (inv : Inv cfg t v) {pos : 0 < beamWidth}
    (absent : v.sequences.lookup rid = none)
    (added : (v.hold rid).addSequenceReuse cfg plat
      (newSequence rid inputLength beamWidth pos (some req))
      (effectiveLength cfg inputLength)
      (ceilDiv (effectiveLength cfg inputLength) cfg.tokensPerBlock) req =
        .ok (w, seq, req')) (untouched : Untouched cfg w) :
    req'.prepopulatedPromptLen < req.promptLen ∧ req'.kvAt = req.kvAt ∧
      DataInv cfg v.front { t.progress.load rid req'.prepopulatedPromptLen with
        own := update t.progress.own rid req.kvAt } w ∧
      Covered cfg w seq req'.prepopulatedPromptLen := by
  obtain ⟨emplaced, _, prepopulated, emplaceOk, _, _, rfl, advanced⟩ := addSequenceReuse_ok added
  have missing : v.window.sequences.lookup rid = none := by
    rw [← hold_sequences v rid]
    exact (emplaceSequence_ok emplaceOk).1
  have unremoved : v.front rid = 0 := front_absent absent
  have renamed : DataInv cfg v.front { t.progress with
      own := update t.progress.own rid req.kvAt } (v.hold rid) := by
    refine (inv.hold rid missing).progress_congr (fun other recorded => ⟨rfl, rfl, ?_⟩)
      inv.data.reused_le
    have ne : other ≠ rid := by
      rintro rfl
      rw [hold_sequences, missing] at recorded
      cases recorded
    intro position _
    dsimp only
    rw [update_of_ne ne]
  have held : TreeInv (v.hold rid) := by
    unfold OneWindow.hold
    split
    · exact inv.tree
    · exact inv.tree.congr rfl rfl rfl
  obtain ⟨short, data, covered⟩ := renamed.addSequenceReuse (inv.core.hold rid) held
    unremoved (update_self _ _ _) added (inv.clean untouched)
  refine ⟨short, ?_, data, covered⟩
  rw [(setPrepopulatedPromptLen_ok advanced).2]
  rfl

/-- A sequence whose record a call leaves as it is. -/
theorem Inv.covered_of (inv : Inv cfg t v) (found : v.sequences.lookup rid = some seq)
    (same : w.sequences.lookup rid = v.window.sequences.lookup rid) :
    Covered cfg w seq (t.computed rid) := by
  obtain ⟨sq, recorded, covers⟩ := inv.covered found
  rw [inv.core.ids found, ← same, ← inv.core.ids found] at recorded
  exact ⟨sq, recorded, covers⟩

/-- A call that leaves the sequences as they are. -/
theorem Inv.setWindow (inv : Inv cfg t v)
    (core : OneWindow.CoreInv cfg (relaxed cfg) [] [] ⟨w, v.sequences, v.managed⟩)
    (tree : TreeInv w) (data : DataInv cfg v.front t.progress w)
    (same : w.sequences = v.window.sequences) :
    Inv cfg { t with
      manager := OneWindow.manager cfg ⟨w, v.sequences, v.managed⟩ }
      ⟨w, v.sequences, v.managed⟩ :=
  ⟨rfl, core, tree, data, fun found => (inv.covered found).of_same same, inv.attached, inv.tracks⟩

/-- A request at the beginning of its prompt goes on behind what it reuses. -/
theorem Tracks.added {count kvTokensPerBlock : Nat}
    (proper : req.requestId = rid ∧ req.uniqueTokens.length = req.promptLen ∧
      req.contextCurrentPosition = 0)
    (advanced : req.setPrepopulatedPromptLen count kvTokensPerBlock = .ok req') :
    Tracks req'.prepopulatedPromptLen rid req' := by
  obtain ⟨id, length, start⟩ := proper
  obtain ⟨short, changed⟩ := setPrepopulatedPromptLen_ok advanced
  rw [changed]
  refine ⟨id, ?_, le_rfl, ?_, ?_⟩ <;> dsimp only
  · split
    · omega
    · exact le_rfl
  · omega
  · omega

/-- The manager after a sequence was added. -/
theorem Inv.added (inv : Inv cfg t v) {pos : 0 < beamWidth}
    (proper : req.requestId = rid ∧ req.uniqueTokens.length = req.promptLen ∧
      req.contextCurrentPosition = 0) (absent : v.sequences.lookup rid = none)
    (added : (v.hold rid).addSequenceReuse cfg plat
      (newSequence rid inputLength beamWidth pos (some req))
      (effectiveLength cfg inputLength)
      (ceilDiv (effectiveLength cfg inputLength) cfg.tokensPerBlock) req =
        .ok (w, seq, req')) (untouched : Untouched cfg w)
    (next : v' = ⟨updateSequenceCacheBlockOffsets cfg w seq, v.sequences.insert rid seq,
      update v.managed rid true⟩) (core : v'.CoreInv cfg (relaxed cfg) [] [])
    (tree : TreeInv v'.window) :
    Inv cfg
      { manager := v'.manager cfg
        requests := update t.requests rid (some req')
        computed := update t.computed rid req'.prepopulatedPromptLen } v' := by
  obtain ⟨short, sameKv, data, covered⟩ := inv.addReuse absent added untouched
  obtain ⟨_, _, prepopulated, _, _, _, named, advanced⟩ := addSequenceReuse_ok added
  have unremoved : seq.numFrontBlocksRemoved = v.front rid := by
    rw [named, front_absent absent]
    rfl
  have fronts : v'.front = v.front := by
    rw [next, OneWindow.front_insert, unremoved, update_eq_self]
  have tracked : ∀ {other known}, update t.requests rid (some req') other =
      some known → Tracks (update t.computed rid req'.prepopulatedPromptLen other) other known := by
    intro other known found
    by_cases here : other = rid
    · subst here
      rw [update_self] at found ⊢
      obtain rfl := Option.some.inj found
      exact Tracks.added proper advanced
    · rw [update_of_ne here] at found ⊢
      exact inv.tracks found
  refine ⟨rfl, core, tree, ?_, ?_, fun whole => fronts ▸ inv.attached whole, tracked⟩
  · rw [fronts, next]
    have recorded : DataInv cfg v.front _ (updateSequenceCacheBlockOffsets cfg w seq) :=
      data.modifyRecord (fun _ => rfl) (fun _ => rfl)
    refine recorded.progress_congr ?_ ?_
    · intro other _
      by_cases here : other = rid
      · subst here
        simp only [progress, Computed.load, update_self, Option.elim_some, sameKv,
          implies_true, and_self]
      · simp only [progress, Computed.load, update_of_ne here, implies_true, and_self]
    · apply reused_le
      exact tracked
  · subst next
    intro other seq' looked
    dsimp only
    by_cases here : other = rid
    · subst here
      rw [AList.lookup_insert] at looked
      obtain rfl := Option.some.inj looked
      rw [update_self]
      exact covered.modifyRecord fun _ => rfl
    · rw [AList.lookup_insert_ne here] at looked
      rw [update_of_ne here]
      have id : seq.requestId = rid := by
        rw [named]
        rfl
      have kept : SameElsewhere seq.requestId w (updateSequenceCacheBlockOffsets cfg w seq) :=
        sameElsewhere_modifySequence seq.requestId _
      refine inv.covered_of looked ?_
      rw [kept other (id ▸ here), sameElsewhere_addSequenceReuse added other here, hold_sequences]

theorem Inv.addToken (inv : Inv cfg t v) {seq' : GenerationRequest}
    (found : v.sequences.lookup rid = some seq)
    (adjusted : v.window.adjustBlocksIfNeeded cfg plat
      { seq with numTokens := seq.numTokens + 1 } = .ok (w, seq'))
    (untouched : Untouched cfg w) (next : v' = ⟨w, v.sequences.insert rid seq', v.managed⟩)
    (core : v'.CoreInv cfg (relaxed cfg) [] []) (tree : TreeInv v'.window) :
    Inv cfg { t with manager := v'.manager cfg } v' := by
  have id := inv.core.ids found
  have live : v.live seq.requestId := by
    rw [id, OneWindow.live, found]
    rfl
  have removed : seq.numFrontBlocksRemoved = v.front seq.requestId := by
    rw [id, front_eq found]
  have start : Filling cfg (relaxed cfg) v.front v.live t.progress
      { seq with numTokens := seq.numTokens + 1 } v.window := by
    refine ⟨inv.core.inv, inv.tree, inv.data, ?_⟩
    have covered := inv.covered found
    rw [← id] at covered
    exact covered
  have grown := start.adjustBlocksIfNeeded live removed adjusted (inv.detaches_or_spares untouched)
  obtain ⟨detached, looped, _⟩ := adjustBlocksIfNeeded_ok adjusted
  obtain ⟨_, named⟩ := detachLoop_sequences looped
  have id' : seq'.requestId = rid := by
    rw [named]
    exact id
  have fronts : v'.front = update v.front seq.requestId seq'.numFrontBlocksRemoved := by
    rw [next, OneWindow.front_insert, id]
  refine ⟨rfl, core, tree, ?_, ?_, ?_, inv.tracks⟩
  · rw [fronts, next]
    exact grown.data
  · subst next
    intro other seq'' looked
    by_cases here : other = rid
    · subst here
      rw [AList.lookup_insert] at looked
      obtain rfl := Option.some.inj looked
      have covered := grown.covered
      rw [id'] at covered
      exact covered
    · rw [AList.lookup_insert_ne here] at looked
      exact inv.covered_of looked (sameElsewhere_adjustBlocksIfNeeded adjusted other (id ▸ here))
  · intro whole other
    rw [fronts, detachLoop_whole whole looped]
    rw [removed, update_eq_self]
    exact inv.attached whole other

theorem Inv.storeContext (inv : Inv cfg t v) (known : t.requests req.requestId = some req)
    (stored : v.window.storeContextBlocks cfg plat req = .ok w) (untouched : Untouched cfg w) :
    DataInv cfg v.front t.progress w ∧ w.sequences = v.window.sequences := by
  rcases storeContextBlocks_ok stored with rfl | ⟨sq, keys, whole, found, built, rfl⟩
  · exact ⟨inv.data, rfl⟩
  · have storable := inv.data.storable_live found (own_progress known)
      (inv.attached whole req.requestId) (reuseKeys_cuts built) (inv.tracks known).usable
      (reuseKeys_full built)
    exact ⟨inv.data.storeBlocks inv.tree (reuseKeys_cuts built) storable (reuseKeys_ne_nil built)
      untouched.relinked, storeBlocks_sequences⟩

theorem Inv.storeNew (inv : Inv cfg t v) (known : t.requests req.requestId = some req)
    (generating : req.getContextRemainingLength = 0)
    (stored : v.window.storeNewBlock cfg plat req = .ok w) (untouched : Untouched cfg w) :
    DataInv cfg v.front t.progress w ∧ w.sequences = v.window.sequences := by
  rcases storeNewBlock_ok stored with
    rfl | ⟨sq, keys, whole, _, full, found, built, rfl⟩
  · exact ⟨inv.data, rfl⟩
  · have computed : req.uniqueTokens.length - 1 ≤ t.progress.computed req.requestId := by
      have usable := (inv.tracks known).usable
      unfold LlmRequest.getUsableUniqueTokenCountForReuse
        LlmRequest.getMaterializedUniqueTokenCountForReuse at usable
      rw [generating] at usable
      exact usable
    have storable := inv.data.storable_live found (own_progress known)
      (inv.attached whole req.requestId) (newBlockKeys_cuts built) computed
      (newBlockKeys_full built full)
    exact ⟨inv.data.storeBlocks inv.tree (newBlockKeys_cuts built) storable
      (newBlockKeys_ne_nil built) untouched.relinked, storeBlocks_sequences⟩

theorem storableRequest_some {req : Option LlmRequest} {known : LlmRequest}
    (stored : storableRequest seq valid req = some known) :
    req = some known ∧ seq.beamWidth = 1 := by
  obtain ⟨same, condition⟩ := Option.filter_eq_some_iff.mp stored
  simp only [Bool.and_eq_true, decide_eq_true_eq] at condition
  have pos := seq.beamWidth_pos
  exact ⟨same, by omega⟩

section

variable (inv : Inv cfg t v) {stored : Option LlmRequest}
  (proper : ∀ known ∈ stored, t.requests rid = some known)
  (found : v.sequences.lookup rid = some seq)
  (released : v.window.releaseBlocks cfg plat seq (storableRequest seq valid stored) = .ok w)
  (untouched : Untouched cfg w)
include inv proper found released untouched

theorem Inv.release : DataInv cfg v.front t.progress w := by
  have id := inv.core.ids found
  refine inv.data.releaseBlocks inv.tree ?_ ?_ released untouched.relinked
  · intro known storing
    have same := proper known (storableRequest_some storing).1
    rw [id]
    exact ⟨own_progress same, (inv.tracks same).usable⟩
  · intro sq storing recorded
    obtain ⟨known, storing⟩ := Option.isSome_iff_exists.mp storing
    obtain ⟨sequence', recorded', width, _⟩ := inv.covered found
    obtain rfl := Option.some.inj (recorded.symm.trans recorded')
    rw [width]
    exact (storableRequest_some storing).2

theorem Inv.removed
    (next : v' = ⟨unhold v.managed w rid, v.sequences.erase rid, update v.managed rid false⟩)
    (core : v'.CoreInv cfg (relaxed cfg) [] []) (tree : TreeInv v'.window) :
    Inv cfg { t with manager := v'.manager cfg } v' := by
  subst next
  have id := inv.core.ids found
  have seqs := releaseBlocks_sequences released
  rw [id] at seqs
  have data := DataInv_unhold (inv.release proper found released untouched) v.managed rid
  refine ⟨rfl, core, tree, ?_, ?_, ?_, inv.tracks⟩
  · refine data.transport fun other recorded => ?_
    have ne : other ≠ rid := by
      rintro rfl
      rw [unhold_sequences, seqs, AList.lookup_erase] at recorded
      cases recorded
    rw [OneWindow.front, OneWindow.front, AList.lookup_erase_ne ne]
  · intro other seq' looked
    obtain ⟨before, ne⟩ := AList.lookup_of_erase looked
    refine inv.covered_of before ?_
    rw [unhold_sequences, seqs, AList.lookup_erase_ne ne]
  · intro whole other
    unfold OneWindow.front
    by_cases here : other = rid
    · rw [here, AList.lookup_erase]
      rfl
    · rw [AList.lookup_erase_ne here]
      exact inv.attached whole other

end

theorem ProperCall.unpinned (proper : t.ProperCall op)
    (step : OneWindow.Step cfg plat true v op output v') : output.pinnedBlockIds = [] := by
  cases step <;> first | rfl | exact proper.elim

theorem Inv.data_recordMove (inv : Inv cfg t v) (moves : Bool) (block : BlockId) :
    DataInv cfg v.front t.progress (recordMove v.window moves block) :=
  inv.data.frame ⟨⟨rfl, rfl, rfl⟩, rfl, rfl, rfl, rfl⟩ rfl

/-- A call keeps the invariant if it spares the contents of blocks. -/
theorem Inv.call (inv : Inv cfg t v) (proper : t.ProperCall op)
    (step : OneWindow.Step cfg plat true v op output v') (untouched : Untouched cfg v'.window) :
    Inv cfg (t.after op (v'.manager cfg) output) v' := by
  have core : v'.CoreInv cfg (relaxed cfg) [] [] := by
    have kept := inv.core.step_pins id step (fun blockIds same => by subst same; exact proper.elim)
      (fun same => by subst same; exact proper.elim)
    rwa [proper.unpinned step] at kept
  have tree := step.tree inv.tree untouched.relinked
  cases step with
  | @addReuse rid inputLength beamWidth req req' pos seq w reuse absent added =>
    exact inv.added (proper req rfl) absent added untouched rfl core tree
  | addNoReuse noReuse => cases noReuse
  | addToken found adjusted => exact inv.addToken found adjusted untouched rfl core tree
  | noToken => exact proper.elim
  | removeToken => exact proper.elim
  | removeBlock => exact proper.elim
  | storeNothing stores =>
    rcases stores with ⟨_, rfl⟩ | ⟨_, rfl⟩ <;>
      exact inv.setWindow core tree inv.data rfl
  | storeContext _ _ stored =>
    obtain ⟨data, same⟩ := inv.storeContext proper stored untouched
    exact inv.setWindow core tree data same
  | storeNew _ _ _ stored =>
    obtain ⟨data, same⟩ := inv.storeNew proper.1 proper.2 stored untouched
    exact inv.setWindow core tree data same
  | storeForReuse => exact proper.elim
  | unpin => exact proper.elim
  | @offload idx block w bounded offloaded =>
    have same : w.sequences = v.window.sequences := by
      rw [offloadBlock_sequences offloaded]
      rfl
    refine inv.setWindow core tree ?_ same
    exact (inv.data_recordMove _ block).offloadBlock (inv.core.inv.recordMove _ block).core
      (inv.tree.congr rfl rfl rfl) offloaded (fun _ mem => Bool.noConfusion (untouched _ mem))
      (inv.spared untouched)
  | @onboard idx rid block w bounded onboarded =>
    have unqueued := unqueued_of_clean (history_onboardBlock onboarded)
      fun mem => Bool.noConfusion (untouched _ mem)
    have same : w.sequences = v.window.sequences := by
      rw [(sameHolders_onboardBlock onboarded).sequences]
      rfl
    refine inv.setWindow core tree ?_ same
    exact ((inv.data_recordMove _ block).onboardBlock (inv.core.inv.recordMove _ block).core
      (inv.tree.congr rfl rfl rfl) unqueued bounded onboarded (inv.spared untouched)).1
  | refresh =>
    exact inv.setWindow core tree
      (inv.data.frame (sameBlocks_refresh v.window) (refresh_sequences v.window))
      (refresh_sequences v.window)
  | flush =>
    exact inv.setWindow core tree (inv.data.frame ⟨⟨rfl, rfl, rfl⟩, rfl, rfl, rfl, rfl⟩ rfl) rfl
  | @removeUnknown rid req absent =>
    have same := unhold_sequences v.managed v.window rid
    exact ⟨rfl, core, tree, DataInv_unhold inv.data v.managed rid,
      fun found => (inv.covered found).of_same same, inv.attached, inv.tracks⟩
  | @remove rid req seq valid w found checked released =>
    have kept : Untouched cfg w := by
      unfold Untouched at untouched
      rwa [unhold_history] at untouched
    exact inv.removed proper found released kept rfl core tree

/-- Every step of a run keeps the invariant. -/
theorem Inv.step (inv : Inv cfg t v) {action : Action} {t' : Serving}
    (proper : t.Proper action) (spares : t.Spares plat cfg.isSWA action)
    (stepped : t.step plat action = .ok t') : ∃ v', Inv cfg t' v' := by
  cases action with
  | call op =>
    simp only [Serving.step, Except.bind_eq_ok, Except.pure_eq_ok] at stepped
    obtain ⟨⟨m, output⟩, called, rfl⟩ := stepped
    change t.manager.Avoids plat true (Branch.spoils cfg.isSWA) op at spares
    unfold Avoids at spares
    rw [called] at spares
    rw [inv.manager] at called
    obtain ⟨v', rfl, done⟩ := OneWindow.exec_step called
    exact ⟨v', inv.call proper done (spares (cfg, v'.window) List.mem_cons_self)⟩
  | compute rid others =>
    cases stepped
    exact inv.compute others proper
  | advance rid pos =>
    cases stepped
    exact ⟨v, inv.advance proper⟩
  | append rid token =>
    cases stepped
    exact ⟨v, inv.append proper⟩

/-- The states of the runs that spare the contents of blocks. -/
theorem inv_of_reaches (reached : Run.Reaches (Serving.step plat)
      (fun t action => t.Proper action ∧ t.Spares plat cfg.isSWA action)
      (Serving.initial [cfg]) t) : ∃ v, Inv cfg t v := by
  let kept := fun t : Serving => ∃ v, Inv cfg t v
  have inv : kept t := by
    refine reached.invariant ⟨_, Inv.initial cfg⟩ ?_
    rintro before action next ⟨v, inv⟩ ⟨proper, spares⟩ stepped
    exact inv.step proper spares stepped
  exact inv

end Serving

end TrtLlm
