import TrtLlm.KvCache.Core

/-! # The core invariant through the operations of a window

Loading, storing, growing and releasing a sequence keep the core invariant, because
they are made of the steps of which each keeps it.
-/

namespace TrtLlm.WindowBlockManager

open List

variable {cfg : WindowConfig} {plat : Platform} {mode : Mode cfg}
  {front : RequestId → Nat}
  {owed pins hand : List BlockId} {s s' : WindowBlockManager} {block : BlockId}

/-! ## Adding blocks to a sequence -/

variable {rid : RequestId} {ret : RetentionPriorityAndDuration} {next st : LoadState}
  {numContextBlocks : Nat}

theorem Core.addBlockToBeam (core : Core cfg mode front owed pins hand s)
    {sq : SequenceBlocks} (found : s.sequences.lookup rid = some sq)
    (mem : block ∈ hand) (resides : mode.resident → s.isPrimary block = true) (beam : Nat) :
    Core cfg mode front owed pins hand (s.addBlockToBeam rid block beam) := by
  obtain ⟨unqueued, bounded⟩ := core.unqueued block mem
  refine ⟨core.queue.addBlockToBeam found bounded unqueued beam, ?_, core.slots, ?_,
    core.unqueued, core.children_lt⟩
  · intro strict
    refine ⟨(core.exact strict).located, (core.exact strict).counter, ?_⟩
    intro other within unreferenced absent
    have ne : other ≠ block := fun same => absent (same ▸ mem)
    change Function.update s.refCount block (s.refCount block + 1) other = 0 at unreferenced
    rw [Function.update_of_ne ne] at unreferenced
    exact (core.exact strict).queued_of_unreferenced within unreferenced absent
  · intro resident other pos
    rw [held_addBlockToBeam found (core.queue.front_le found)] at pos
    by_cases same : other = block
    · rw [same]
      exact resides resident
    · rw [count_eq_zero_of_not_mem (by simpa using same)] at pos
      exact core.primary resident pos

theorem isSome_lookup_modifySequence (s : WindowBlockManager) (rid other : RequestId)
    (change : SequenceBlocks → SequenceBlocks) :
    ((s.modifySequence rid change).sequences.lookup other).isSome =
      (s.sequences.lookup other).isSome := by
  by_cases same : other = rid
  · subst same
    cases found : s.sequences.lookup other with
    | none => simp only [modifySequence, found]
    | some sq => rw [lookup_modifySequence_self found]; rfl
  · rw [lookup_modifySequence_of_ne same]

theorem isSome_lookup_addBlockToBeam (s : WindowBlockManager) (rid other : RequestId)
    (block : BlockId) (beam : Nat) :
    ((s.addBlockToBeam rid block beam).sequences.lookup other).isSome =
      (s.sequences.lookup other).isSome :=
  isSome_lookup_modifySequence _ rid other (pushBlock block beam)

theorem isSome_lookup_addBlockToAllBeams (s : WindowBlockManager) (seq : GenerationRequest)
    (other : RequestId) (block : BlockId) :
    ((s.addBlockToAllBeams seq block).sequences.lookup other).isSome =
      (s.sequences.lookup other).isSome := by
  refine foldl_invariant (fun st : WindowBlockManager =>
    (st.sequences.lookup other).isSome = (s.sequences.lookup other).isSome) ?_ rfl
  intro st beam _ same
  exact (isSome_lookup_addBlockToBeam _ _ _ _ _).trans same

/-- A block in hand that is added to all beams is referenced. -/
theorem Core.addBlockToAllBeams (core : Core cfg mode front owed pins (block :: hand) s)
    {seq : GenerationRequest} (live : (s.sequences.lookup seq.requestId).isSome)
    (resides : mode.resident → s.isPrimary block = true) :
    Core cfg mode front owed pins hand (s.addBlockToAllBeams seq block) := by
  have referenced : 0 < (s.addBlockToAllBeams seq block).refCount block := by
    have grows : ∀ (beams : List Nat) (st : WindowBlockManager), st.refCount block +
        beams.length = (beams.foldl (fun s beam =>
          s.addBlockToBeam seq.requestId block beam) st).refCount block := by
      intro beams
      induction beams with
      | nil => intro st; rfl
      | cons beam rest ih =>
        intro st
        rw [foldl_cons, ← ih]
        change _ = Function.update st.refCount block (st.refCount block + 1) block + _
        rw [Function.update_self, length_cons]
        omega
    have counted := grows (List.range seq.beamWidth) s
    rw [length_range] at counted
    have pos := seq.beamWidth_pos
    unfold WindowBlockManager.addBlockToAllBeams
    omega
  refine Core.unhand ?_ referenced
  let kept := fun st : WindowBlockManager =>
    Core cfg mode front owed pins (block :: hand) st ∧ (st.sequences.lookup seq.requestId).isSome ∧
      (mode.resident → st.isPrimary block = true)
  suffices kept (s.addBlockToAllBeams seq block) from this.1
  refine foldl_invariant kept ?_ ⟨core, live, resides⟩
  rintro st beam _ ⟨core, live, resides⟩
  obtain ⟨sq, found⟩ := Option.isSome_iff_exists.mp live
  refine ⟨core.addBlockToBeam found mem_cons_self resides beam, ?_, resides⟩
  rw [lookup_addBlockToBeam found]
  rfl

/-- The core invariant between operations: nothing is in hand, and the sequences that
are taken to be live have a record. -/
structure WindowInv (config : WindowConfig) (mode : Mode config) (front : RequestId → Nat)
    (owed pins : List BlockId) (live : RequestId → Prop) (s : WindowBlockManager) : Prop where
  core : Core config mode front owed pins [] s
  recorded : ∀ requestId, live requestId → (s.sequences.lookup requestId).isSome

variable {live : RequestId → Prop} {seq : GenerationRequest}

section

variable (core : Core cfg mode front owed pins [block] s)
  (recorded : ∀ rid, live rid → (s.sequences.lookup rid).isSome) (isLive : live seq.requestId)
  (resides : mode.resident → s.isPrimary block = true)
include core recorded isLive resides

/-- A block in hand for a live sequence is added to all of its beams. -/
theorem Core.inv_addBlockToAllBeams :
    WindowInv cfg mode front owed pins live (s.addBlockToAllBeams seq block) := by
  refine ⟨core.addBlockToAllBeams (recorded _ isLive) resides, fun other alive => ?_⟩
  rw [isSome_lookup_addBlockToAllBeams]
  exact recorded other alive

/-- A block in hand for a live sequence is added to one of its beams. -/
theorem Core.inv_addBlockToBeam (beam : Nat) :
    WindowInv cfg mode front owed pins live (s.addBlockToBeam seq.requestId block beam) := by
  obtain ⟨sq, found⟩ := Option.isSome_iff_exists.mp (recorded _ isLive)
  refine ⟨(core.addBlockToBeam found mem_cons_self resides beam).unhand ?_,
    fun other alive => ?_⟩
  · change 0 < Function.update s.refCount block (s.refCount block + 1) block
    rw [Function.update_self]
    exact Nat.succ_pos _
  · rw [isSome_lookup_addBlockToBeam]
    exact recorded other alive

end

theorem WindowInv.recorded_of_same (inv : WindowInv cfg mode front owed pins live s)
    (same : s'.sequences = s.sequences) (rid : RequestId) (alive : live rid) :
    (s'.sequences.lookup rid).isSome := by
  rw [same]
  exact inv.recorded rid alive

theorem WindowInv.allocateBlock (inv : WindowInv cfg mode front owed pins live s)
    {shareAmongBeams : Bool} (isLive : live seq.requestId)
    (allocated : s.allocateBlock cfg plat seq shareAmongBeams = .ok s') :
    WindowInv cfg mode front owed pins live s' := by
  rcases allocateBlock_ok allocated with ⟨_, block, taken, took, rfl⟩ | ⟨_, loop⟩
  · have got := inv.core.getFreeBlock took
    exact got.core.inv_addBlockToAllBeams (inv.recorded_of_same got.sequences) isLive
      fun resident => got.primary (mode.strict_of_resident resident)
  · refine foldlM_invariant (WindowInv cfg mode front owed pins live) ?_ inv loop
    intro st beam next _ inv stepped
    simp only [Except.bind_eq_ok, Except.pure_eq_ok] at stepped
    obtain ⟨⟨block, taken⟩, took, rfl⟩ := stepped
    have got := inv.core.getFreeBlock took
    exact got.core.inv_addBlockToBeam (inv.recorded_of_same got.sequences) isLive
      (fun resident => got.primary (mode.strict_of_resident resident)) beam

section

variable (core : Core cfg mode front owed pins hand s)
include core

/-! ## Loading a sequence -/

theorem Core.unlinkFromParent (block : BlockId) :
    Core cfg mode front owed pins hand (s.unlinkFromParent block) := by
  have same := sameButTree_unlinkFromParent s block
  refine core.congr ?_ fun mem => core.children_lt (mem_children_unlinkFromParent mem)
  rw [same]
  constructor <;> rfl

/-- The block that a match is used through ends up in hand. -/
theorem Core.useMatch {key : BlockKey}
    {found : BlockMatch} {root : Option Node} (bounded : found.block < cfg.numBlocks)
    (used : useMatch cfg plat s rid ret key found = .ok (block, root, s')) :
    Core cfg mode front owed pins (block :: hand) s' := by
  rcases useMatch_ok used with ⟨_, _, _, copied⟩ | ⟨_, _, rfl, _, took⟩ | ⟨_, _, rfl, rfl⟩
  · obtain ⟨taken, took, rfl⟩ := copyPartialMatch_ok copied
    exact (core.getFreeBlock took).core.frame (by constructor <;> rfl) rfl
  · obtain ⟨_, rfl⟩ := takeLeaf_ok took
    have marked : Core cfg mode front owed pins hand (s.recordLeaf found.block) :=
      core.frame (by constructor <;> rfl) rfl
    exact (marked.unlinkFromParent found.block).claimBlock bounded _ _
  · exact core.claimBlock bounded _ _

theorem Core.notified (events : List KVCacheEvent) :
    Core cfg mode front owed pins hand { s with eventQueue := events } :=
  core.frame (by constructor <;> rfl) rfl

theorem Core.setNextKey (block : BlockId) (blockKeys : List BlockKey) :
    Core cfg mode front owed pins hand ((setNextKey cfg s block blockKeys).setHash block) ∧
      ((WindowBlockManager.setNextKey cfg s block blockKeys).setHash block).sequences =
        s.sequences := by
  cases blockKeys with
  | nil => exact ⟨core.frame (by constructor <;> rfl) rfl, rfl⟩
  | cons key rest => exact ⟨core.frame (by constructor <;> rfl) rfl, rfl⟩

end

theorem WindowInv.loadSharedBlock (inv : WindowInv cfg mode front owed pins live st.manager)
    (isLive : live seq.requestId) (loaded : loadSharedBlock cfg plat seq st ret = .ok next) :
    WindowInv cfg mode front owed pins live next.manager := by
  rcases loadSharedBlock_ok loaded with
    ⟨bkey, found, block, root, used, onboarded, events, accepted, useOk, onboardOk, rfl⟩ |
    ⟨block, taken, _, took, rfl⟩
  · obtain ⟨_, _, _, _, matched⟩ := acceptedMatch_some accepted
    obtain ⟨key, child⟩ := child_of_findMatchingBlock matched
    have inHand := (inv.core.notified events).useMatch (inv.core.children_lt child) useOk
    obtain ⟨unqueued, bounded⟩ := inHand.unqueued block mem_cons_self
    obtain ⟨moved, primary⟩ := inHand.onboardBlock bounded (fun _ _ => unqueued) onboardOk
    have same := sameHolders_match useOk onboardOk
    exact moved.inv_addBlockToAllBeams (inv.recorded_of_same same.sequences) isLive fun resident =>
        primary (mode.strict_of_resident resident) (mode.onboards_of_resident resident)
  · have got := inv.core.getFreeBlock took
    have added := got.core.inv_addBlockToAllBeams (inv.recorded_of_same got.sequences) isLive
      fun resident => got.primary (mode.strict_of_resident resident)
    obtain ⟨keyed, same⟩ := added.core.setNextKey block st.blockKeys
    exact ⟨keyed, added.recorded_of_same same⟩

theorem WindowInv.loadBeamBlock {beam : Nat}
    (inv : WindowInv cfg mode front owed pins live st.manager) (isLive : live seq.requestId)
    (loaded : loadBeamBlock cfg plat seq ret st beam = .ok next) :
    WindowInv cfg mode front owed pins live next.manager := by
  simp only [WindowBlockManager.loadBeamBlock, Except.bind_eq_ok, Except.pure_eq_ok] at loaded
  obtain ⟨⟨block, taken⟩, took, rfl⟩ := loaded
  have got := inv.core.getFreeBlock took
  have added := got.core.inv_addBlockToBeam (inv.recorded_of_same got.sequences) isLive
    (fun resident => got.primary (mode.strict_of_resident resident)) beam
  obtain ⟨keyed, same⟩ := added.core.setNextKey block st.blockKeys
  exact ⟨keyed, added.recorded_of_same same⟩

theorem WindowInv.loadOrAllocateBlocks {blockKeys : List BlockKey} {prepopulated : Nat}
    {retentions : List RetentionPriorityAndDuration}
    (inv : WindowInv cfg mode front owed pins live s) (isLive : live seq.requestId)
    (loaded : s.loadOrAllocateBlocks cfg plat blockKeys numContextBlocks seq retentions =
      .ok (prepopulated, s')) : WindowInv cfg mode front owed pins live s' :=
  loadOrAllocateBlocks_invariant (WindowInv cfg mode front owed pins live)
    (fun inv stepped => inv.loadSharedBlock isLive stepped)
    (fun inv stepped => inv.loadBeamBlock isLive stepped) inv loaded

/-- A new sequence has no blocks. -/
theorem QueueInv.insertEmpty (inv : QueueInv cfg front owed pins s) {sq : SequenceBlocks}
    (missing : s.sequences.lookup rid = none) (empty : sq.allocatedBlocks = [])
    (unremoved : front rid = 0) :
    QueueInv cfg front owed pins
      { s with sequences := s.sequences.insert rid sq } := by
  have keeps : ∀ other, held front
      { s with sequences := s.sequences.insert rid sq } other = held front s other := by
    intro other
    unfold held
    rw [AList.total_insert, AList.total_erase_of_lookup_none _ missing, empty]
    simp
  have looks : ∀ {other kept}, (s.sequences.insert rid sq).lookup other = some kept →
      (other = rid ∧ kept = sq) ∨ s.sequences.lookup other = some kept := by
    intro other kept looked
    by_cases same : other = rid
    · subst same
      rw [AList.lookup_insert] at looked
      cases looked
      exact .inl ⟨rfl, rfl⟩
    · rw [AList.lookup_insert_ne same] at looked
      exact .inr looked
  refine inv.owe [] inv.toQueueShape rfl rfl (fun other => ?_) (forall_mem_nil _) ?_ ?_
  · rw [keeps, count_nil, Nat.zero_add]
  · intro other kept mem looked contained
    rcases looks looked with ⟨_, rfl⟩ | before
    · rw [empty] at contained
      cases contained
    · exact inv.listed_lt before contained
  · intro other kept looked
    rcases looks looked with ⟨rfl, _⟩ | before
    · rw [unremoved]
      exact Nat.zero_le _
    · exact inv.front_le before

/-- References are handed from the sequences to what is owed. -/
theorem Core.reassign (core : Core cfg mode front owed pins hand s)
    {front' : RequestId → Nat} {owed' : List BlockId}
    {seqs : AList (fun _ : RequestId => SequenceBlocks)}
    (inv : QueueInv cfg front' owed' pins { s with sequences := seqs })
    (more : ∀ block, owed.count block ≤ owed'.count block) :
    Core cfg mode front' owed' pins hand { s with sequences := seqs } := by
  refine ⟨inv, fun strict => (core.exact strict).congr rfl rfl rfl rfl rfl rfl, core.slots, ?_,
    core.unqueued, core.children_lt⟩
  intro resident block pos
  have before := core.queue.refCount_eq block
  have after : s.refCount block = _ := inv.refCount_eq block
  have cnt := more block
  exact core.primary resident (by omega)

section

variable (inv : WindowInv cfg mode front owed pins live s)
include inv

theorem WindowInv.emplaceSequence
    (unremoved : front seq.requestId = 0) (emplaced : s.emplaceSequence seq = .ok s') :
    WindowInv cfg mode front owed pins (fun r => live r ∨ r = seq.requestId) s' := by
  obtain ⟨missing, rfl⟩ := emplaceSequence_ok emplaced
  refine ⟨inv.core.reassign (inv.core.queue.insertEmpty missing rfl unremoved) fun _ => le_rfl, ?_⟩
  intro other alive
  by_cases same : other = seq.requestId
  · rw [same, AList.lookup_insert]
    rfl
  · rw [AList.lookup_insert_ne same]
    exact inv.recorded other (alive.resolve_right same)

theorem WindowInv.addSequenceReuse
    {inputLength : Nat} {req req' : LlmRequest} {seq' : GenerationRequest}
    (unremoved : front seq.requestId = 0)
    (added : s.addSequenceReuse cfg plat seq inputLength numContextBlocks req =
      .ok (s', seq', req')) :
    WindowInv cfg mode front owed pins (fun r => live r ∨ r = seq.requestId) s' := by
  obtain ⟨emplaced, blockKeys, prepopulated, emplaceOk, _, loadOk, _, _⟩ :=
    addSequenceReuse_ok added
  exact (inv.emplaceSequence unremoved emplaceOk).loadOrAllocateBlocks (.inr rfl) loadOk

theorem WindowInv.addSequenceNoReuse {share : Bool} (unremoved : front seq.requestId = 0)
    (added : s.addSequenceNoReuse cfg plat seq numContextBlocks share = .ok s') :
    WindowInv cfg mode front owed pins (fun r => live r ∨ r = seq.requestId) s' := by
  obtain ⟨emplaced, shared, emplaceOk, _, loop, last⟩ := addSequenceNoReuse_ok added
  have looped := foldlM_invariant
    (WindowInv cfg mode front owed pins fun r => live r ∨ r = seq.requestId)
    (fun _ _ _ _ inv stepped => inv.allocateBlock (.inr rfl) stepped)
    (inv.emplaceSequence unremoved emplaceOk) loop
  exact looped.allocateBlock (.inr rfl) last

end

end TrtLlm.WindowBlockManager
