import TrtLlm.KvCache.CoreRelease
import TrtLlm.KvCache.OneWindow

/-! # The core invariant through the calls on one window

The number of removed front blocks of each sequence is known to the manager, and so
is which sequences are live. With that, the invariant of the window goes through
every call.
-/

namespace TrtLlm

open KVCacheManager WindowBlockManager

variable {rid : RequestId} {seq : GenerationRequest}

namespace WindowBlockManager

variable {cfg : WindowConfig} {plat : Platform} {mode : Mode cfg}
  {front front' : RequestId → Nat} {live live' : RequestId → Prop}
  {owed pins : List BlockId} {s s' : WindowBlockManager}

/-- Only the detached blocks of recorded sequences count. -/
theorem held_congr (agree : ∀ r, (s.sequences.lookup r).isSome → front' r = front r)
    (block : BlockId) : held front' s block = held front s block :=
  AList.total_congr fun r sq looked => by
    rw [agree r (by rw [looked]; rfl)]

/-- Only the live sequences matter. -/
theorem WindowInv.transport (inv : WindowInv cfg mode front owed pins live s)
    (agree : ∀ r, (s.sequences.lookup r).isSome → front' r = front r)
    (fewer : ∀ r, live' r → live r) : WindowInv cfg mode front' owed pins live' s := by
  have keeps := held_congr agree
  have queue := inv.core.queue
  refine ⟨⟨queue.owe [] queue.toQueueShape rfl rfl (fun block => ?_) (List.forall_mem_nil _)
    queue.listed_lt ?_, inv.core.exact, inv.core.slots, ?_, inv.core.unqueued,
    inv.core.children_lt⟩, fun r alive => inv.recorded r (fewer r alive)⟩
  · rw [keeps, List.count_nil, Nat.zero_add]
  · intro r sq looked
    rw [agree r (by rw [looked]; rfl)]
    exact queue.front_le looked
  · intro resident block pos
    rw [keeps] at pos
    exact inv.core.primary resident pos

/-- The invariant reads the core and the children. -/
theorem WindowInv.frame (inv : WindowInv cfg mode front owed pins live s)
    (same : SameCore s s') (children : s'.nextBlocks = s.nextBlocks) :
    WindowInv cfg mode front owed pins live s' :=
  ⟨inv.core.frame same children, inv.recorded_of_same same.sequences⟩

theorem refresh_sequences (s : WindowBlockManager) : (s.refresh plat).sequences = s.sequences :=
  refresh_invariant (fun st => st.sequences = s.sequences) (fun _ same => same)
    (fun _ _ same => same) rfl

section

variable (inv : WindowInv cfg mode front owed pins live s)
include inv

/-- Expired priorities change nothing that it reads. -/
theorem WindowInv.refresh : WindowInv cfg mode front owed pins live (s.refresh plat) :=
  ⟨inv.core.refresh, inv.recorded_of_same (refresh_sequences s)⟩

/-- The order of owed references does not matter. -/
theorem WindowInv.permOwed {owed' : List BlockId} (perm : owed.Perm owed') :
    WindowInv cfg mode front owed' pins live s :=
  ⟨inv.core.permOwed perm, inv.recorded⟩

/-- The history is not read. -/
theorem WindowInv.recordMove (moves : Bool) (block : BlockId) :
    WindowInv cfg mode front owed pins live (recordMove s moves block) :=
  inv.frame (by constructor <;> rfl) rfl

end

variable {block : BlockId}

/-- A block that is moved while it is not recorded is not free. -/
theorem unqueued_of_clean {moves : Bool} (grown : (recordMove s moves block).history ⊆ s'.history)
    (clean : .movedFree block ∉ s'.history) (moved : moves = true) :
    s.freeBlockIterators block = none := by
  cases queued : s.freeBlockIterators block with
  | none => rfl
  | some handle =>
    refine absurd (grown ?_) clean
    simp [KVCacheManager.recordMove, recordIf, queued, moved]

theorem history_offloadBlock (offloaded : s.offloadBlock cfg plat block = .ok s') :
    s.history ⊆ s'.history := by
  rcases offloadBlock_ok offloaded with rfl | ⟨_, target, _, _, rfl⟩
  · exact fun _ => id
  · exact fun _ mem => history_recordIf _ _ _ (history_recordIf _ _ _ mem)

theorem offloadBlock_sequences (offloaded : s.offloadBlock cfg plat block = .ok s') :
    s'.sequences = s.sequences := by
  rcases offloadBlock_ok offloaded with rfl | ⟨_, _, _, _, rfl⟩ <;> rfl

/-- A block that is in no queue may be offloaded. -/
theorem WindowInv.offloadBlock (inv : WindowInv cfg mode front owed pins live s)
    (mobile : ¬mode.resident) (bounded : block < cfg.numBlocks)
    (unqueued : mode.strict → (cfg.onboardBlocks && s.isPrimary block) = true →
      s.freeBlockIterators block = none)
    (offloaded : s.offloadBlock cfg plat block = .ok s') :
    WindowInv cfg mode front owed pins live s' :=
  ⟨inv.core.offloadBlock mobile bounded unqueued offloaded,
    inv.recorded_of_same (offloadBlock_sequences offloaded)⟩

/-- A block that is in no queue may be onboarded. -/
theorem WindowInv.onboardBlock (inv : WindowInv cfg mode front owed pins live s)
    (bounded : block < cfg.numBlocks) (unqueued : mode.strict →
      (cfg.onboardBlocks && !s.isPrimary block) = true → s.freeBlockIterators block = none)
    (onboarded : s.onboardBlock cfg plat rid block = .ok s') :
    WindowInv cfg mode front owed pins live s' := by
  obtain ⟨moved, _⟩ := inv.core.onboardBlock bounded unqueued onboarded
  exact ⟨moved, inv.recorded_of_same (sameHolders_onboardBlock onboarded).sequences⟩

/-- Only the record of the released sequence goes. -/
theorem releaseBlocks_sequences {req : Option LlmRequest}
    (released : s.releaseBlocks cfg plat seq req = .ok s') :
    s'.sequences = s.sequences.erase seq.requestId := by
  obtain ⟨sq, stored, _, storing, rfl⟩ := releaseBlocks_ok released
  rw [releaseReferences_sequences]
  rcases storeReleased_ok storing with rfl | ⟨_, _, _, _, _, rfl⟩
  · rfl
  · exact storeBlocks_sequences

end WindowBlockManager

/-- The calls of which the effect on references is settled within the call. -/
def KVCacheManager.Op.Settled : Op → Prop
  | .storeBlocksForReuse _ _ | .unpinBlocksById _ | .offloadBlock _ _ | .onboardBlock _ _ _ => False
  | _ => True

/-- The ids that a call gives back. -/
def KVCacheManager.Op.unpinned : Op → List BlockId
  | .unpinBlocksById blockIds => blockIds
  | _ => []

/-- A settled call returns no pin. -/
theorem KVCacheManager.Op.unpinned_of_settled (op : Op) (settled : op.Settled) :
    op.unpinned = [] := by
  cases op <;> first | rfl | exact settled.elim

/-- The branches that lose track of a free block: it is pinned or moved while it is in
a queue, or released a second time. -/
def Branch.losesFree : Branch → Bool
  | .pinnedFree _ | .movedFree _ | .releasedDetached _ => true
  | _ => false

namespace OneWindow

variable {cfg : WindowConfig} {plat : Platform} {reuses : Bool}
  {mode : Mode cfg} {owed pins : List BlockId} {v v' : OneWindow}
  {op : Op} {output : Output}

/-- The number of front blocks that a sequence has detached. -/
def front (v : OneWindow) (requestId : RequestId) : Nat :=
  ((v.sequences.lookup requestId).map GenerationRequest.numFrontBlocksRemoved).getD 0

/-- The manager has the sequence. -/
def live (v : OneWindow) (requestId : RequestId) : Prop :=
  (v.sequences.lookup requestId).isSome

/-- Sequences are kept under their ids, and the window is well formed for them. -/
structure CoreInv (config : WindowConfig) (mode : Mode config) (owed pins : List BlockId)
    (v : OneWindow) : Prop where
  ids : ∀ {requestId seq}, v.sequences.lookup requestId = some seq → seq.requestId = requestId
  inv : WindowInv config mode v.front owed pins v.live v.window

/-- The detached blocks of a sequence that is there. -/
theorem front_eq (found : v.sequences.lookup rid = some seq) :
    v.front rid = seq.numFrontBlocksRemoved := by
  rw [front, found]
  rfl

/-- A sequence that is not there has detached nothing. -/
theorem front_absent (absent : v.sequences.lookup rid = none) : v.front rid = 0 := by
  rw [front, absent]
  rfl

/-- A changed sequence changes its own number only. -/
theorem front_insert (w : WindowBlockManager) (managed : RequestId → Bool)
    (rid : RequestId) (seq : GenerationRequest) : front ⟨w, v.sequences.insert rid seq, managed⟩ =
      Function.update v.front rid seq.numFrontBlocksRemoved := by
  funext other
  by_cases same : other = rid
  · subst same
    rw [Function.update_self, front, AList.lookup_insert]
    rfl
  · rw [Function.update_of_ne same, front, AList.lookup_insert_ne same]
    rfl

variable {managed : RequestId → Bool} {w : WindowBlockManager}

/-- An inserted sequence is live, and no other becomes so. -/
theorem live_insert {other : RequestId}
    (alive : live ⟨w, v.sequences.insert rid seq, managed⟩ other) : v.live other ∨ other = rid := by
  by_cases same : other = rid
  · exact .inr same
  · unfold live at alive
    rw [AList.lookup_insert_ne same] at alive
    exact .inl alive

/-- A sequence is inserted under its id. -/
theorem ids_insert {other : RequestId} {seq' : GenerationRequest}
    (ids : ∀ {rid seq}, v.sequences.lookup rid = some seq → seq.requestId = rid)
    (id : seq.requestId = rid) (found : (v.sequences.insert rid seq).lookup other = some seq') :
    seq'.requestId = other := by
  by_cases same : other = rid
  · subst same
    rw [AList.lookup_insert] at found
    cases found
    exact id
  · rw [AList.lookup_insert_ne same] at found
    exact ids found

/-- The manager records a sequence of which the window knows. -/
theorem CoreInv.insert (core : CoreInv cfg mode owed pins v) (id : seq.requestId = rid)
    (inv : WindowInv cfg mode (Function.update v.front rid seq.numFrontBlocksRemoved)
      owed pins (fun r => v.live r ∨ r = rid) w) : CoreInv cfg mode owed pins
      ⟨w, v.sequences.insert rid seq, managed⟩ := by
  refine ⟨fun found => ids_insert core.ids id found, ?_⟩
  rw [front_insert]
  exact inv.transport (fun _ _ => rfl) fun _ => live_insert

/-- Marking a sequence as one to be stored keeps the invariant. -/
theorem CoreInv.hold (core : CoreInv cfg mode owed pins v) (rid : RequestId) :
    WindowInv cfg mode v.front owed pins v.live (v.hold rid) := by
  unfold OneWindow.hold
  split
  · exact core.inv
  · exact core.inv.frame (by constructor <;> rfl) rfl

/-- So does dropping the mark. -/
theorem WindowInv_unhold {front : RequestId → Nat} {live : RequestId → Prop}
    (inv : WindowInv cfg mode front owed pins live w) :
    WindowInv cfg mode front owed pins live (unhold managed w rid) := by
  unfold unhold
  split
  · exact inv.frame (by constructor <;> rfl) rfl
  · exact inv

/-- Every call that pins and unpins nothing keeps the invariant. -/
theorem CoreInv.step_settled (core : CoreInv cfg mode owed pins v)
    (step : Step cfg plat reuses v op output v') (settled : op.Settled)
    (attached : ∀ {rid seq sq}, op = .removeToken rid →
      v.sequences.lookup rid = some seq →
      v.window.releaseLastBlock plat { seq with numTokens := seq.numTokens - 1 } =
        .ok v'.window →
      v.window.sequences.lookup rid = some sq → sq.allocatedBlocks ≠ [] →
      seq.numFrontBlocksRemoved < sq.allocatedBlocks.length) :
    CoreInv cfg mode owed pins v' := by
  cases step with
  | @addReuse rid inputLength beamWidth req req' pos seq w reuse absent
      added =>
      have unremoved := front_absent absent
      have loaded := (core.hold rid).addSequenceReuse unremoved added
      obtain ⟨_, _, _, _, _, _, rfl, _⟩ := addSequenceReuse_ok added
      refine core.insert rfl ?_
      rw [Function.update_eq_self_iff.mpr (show _ = v.front rid from unremoved.symm)]
      exact loaded.modifyRecord fun _ => rfl
  | @addNoReuse rid inputLength beamWidth req pos w noReuse absent added =>
    have unremoved := front_absent absent
    have loaded := (core.hold rid).addSequenceNoReuse unremoved added
    refine core.insert rfl ?_
    rw [Function.update_eq_self_iff.mpr (show _ = v.front rid from unremoved.symm)]
    exact loaded.modifyRecord fun _ => rfl
  | @addToken rid seq seq' w found adjusted =>
    have id := core.ids found
    let longer : GenerationRequest := { seq with numTokens := seq.numTokens + 1 }
    have removed : longer.numFrontBlocksRemoved = v.front longer.requestId := by
      rw [id, front_eq found]
    have isLive : v.live longer.requestId := by
      rw [id, live, found]
      rfl
    obtain ⟨grown, same⟩ := core.inv.adjustBlocksIfNeeded removed isLive adjusted
    refine core.insert (by rw [same]; exact id) ?_
    rw [← id]
    exact grown.transport (fun _ _ => rfl) fun other alive => alive.elim (fun was => was)
      fun same => same ▸ isLive
  | noToken found none => exact core
  | @removeToken rid seq found some single lt =>
    have id := core.ids found
    refine core.insert id ?_
    rw [Function.update_eq_self_iff.mpr
      (show seq.numFrontBlocksRemoved = _ from (front_eq found).symm)]
    exact core.inv.transport (fun _ _ => rfl) fun other alive => alive.elim (fun was => was)
      fun same => by rw [same, live, found]; rfl
  | @removeBlock rid seq w found some single first released =>
    have id := core.ids found
    have removed := front_eq found
    have shrunk := core.inv.releaseLastBlock (fun {sq} recorded nonempty => by
      rw [id, removed]
      exact attached rfl found released (id ▸ recorded) nonempty) released
    refine core.insert id ?_
    rw [Function.update_eq_self_iff.mpr (show seq.numFrontBlocksRemoved = _ from removed.symm)]
    exact shrunk.transport (fun _ _ => rfl) fun other alive => alive.elim (fun was => was)
      fun same => by rw [same, live, found]; rfl
  | storeNothing stores => exact core
  | @storeContext req w found reuse stored =>
    refine ⟨core.ids, ?_⟩
    rcases storeContextBlocks_ok stored with rfl | ⟨_, _, _, _, _, rfl⟩
    · exact core.inv
    · exact core.inv.storeBlocks_unpinned plat _ _
  | @storeNew req seq w found single reuse stored =>
    refine ⟨core.ids, ?_⟩
    rcases storeNewBlock_ok stored with rfl | ⟨_, _, _, _, _, _, _, rfl⟩
    · exact core.inv
    · exact core.inv.storeBlocks_unpinned plat _ _
  | storeForReuse => exact settled.elim
  | unpin => exact settled.elim
  | offload => exact settled.elim
  | onboard => exact settled.elim
  | refresh => exact ⟨core.ids, core.inv.refresh⟩
  | flush => exact ⟨core.ids, core.inv.frame (by constructor <;> rfl) rfl⟩
  | @removeUnknown rid req absent => exact ⟨core.ids, WindowInv_unhold core.inv⟩
  | @remove rid req seq valid w found checked released =>
    have id := core.ids found
    have gone : w.sequences.lookup rid = none := by
      rw [releaseBlocks_sequences released, id]
      exact AList.lookup_erase _ _
    have ended := core.inv.releaseBlocks (by rw [id, front_eq found]) released
    refine ⟨?_, WindowInv_unhold (ended.transport ?_ ?_)⟩
    · intro other seq' looked
      by_cases same : other = rid
      · rw [same, AList.lookup_erase] at looked
        cases looked
      · rw [AList.lookup_erase_ne same] at looked
        exact core.ids looked
    · intro other recorded
      have ne : other ≠ rid := by
        rintro rfl
        rw [gone] at recorded
        cases recorded
      rw [front, front, AList.lookup_erase_ne ne]
    · intro other alive
      have ne : other ≠ rid := by
        rintro rfl
        rw [live, AList.lookup_erase] at alive
        cases alive
      rw [live, AList.lookup_erase_ne ne] at alive
      exact ⟨alive, id ▸ ne⟩

/-- The first state has no sequence. -/
theorem CoreInv.initial (cfg : WindowConfig) (mode : Mode cfg) :
    CoreInv cfg mode [] [] (OneWindow.initial cfg) := by
  refine ⟨fun found => ?_, Core.initial cfg mode _, fun _ alive => ?_⟩
  · cases found
  · cases alive

/-- A settled call reports no pinned block. -/
theorem Step.settled_output (step : Step cfg plat reuses v op output v')
    (settled : op.Settled) : output.pinnedBlockIds = [] := by
  cases step <;> first | rfl | exact settled.elim

theorem storeNothing_settled (stores : (∃ req, op = .storeContextBlocks req) ∨
    ∃ req, op = .storeNewBlock req) : op.Settled := by
  rcases stores with ⟨_, rfl⟩ | ⟨_, rfl⟩ <;> trivial

/-- A call keeps the invariant with its pins counted apart, as long as nothing is unpinned. -/
theorem CoreInv.step_pins (core : CoreInv cfg mode owed pins v) (loose : ¬mode.strict)
    (step : Step cfg plat reuses v op output v')
    (keepsPins : ∀ blockIds, op ≠ .unpinBlocksById blockIds)
    (attached : ∀ {rid seq sq}, op = .removeToken rid →
      v.sequences.lookup rid = some seq →
      v.window.releaseLastBlock plat { seq with numTokens := seq.numTokens - 1 } =
        .ok v'.window →
      v.window.sequences.lookup rid = some sq → sq.allocatedBlocks ≠ [] →
      seq.numFrontBlocksRemoved < sq.allocatedBlocks.length) :
    CoreInv cfg mode owed (output.pinnedBlockIds ++ pins) v' := by
  by_cases settled : op.Settled
  · rw [step.settled_output settled]
    exact core.step_settled step settled attached
  have mobile : ¬mode.resident := fun resident => loose (mode.strict_of_resident resident)
  cases step with
  | @storeForReuse req seq pinBlocks pinned w found stored =>
    obtain ⟨sq, blockKeys, _, same⟩ := storeBlocksForReuse_ok stored
    have kept := core.inv.storeBlocks plat blockKeys (sq.beamBlocks 0) pinBlocks
    rw [← same] at kept
    exact ⟨core.ids, kept⟩
  | unpin => exact absurd rfl (keepsPins _)
  | @offload idx block w bounded offloaded =>
    exact ⟨core.ids, (core.inv.recordMove _ block).offloadBlock mobile bounded
      (fun strict => absurd strict loose) offloaded⟩
  | @onboard idx rid block w bounded onboarded =>
    exact ⟨core.ids, (core.inv.recordMove _ block).onboardBlock bounded
      (fun strict => absurd strict loose) onboarded⟩
  | storeNothing stores => exact absurd (storeNothing_settled stores) settled
  | _ => exact absurd trivial settled

/-- A call keeps the invariant with its pins owed, if it takes none of the branches
that lose track of a free block. -/
theorem CoreInv.step_owed (core : CoreInv cfg mode owed [] v) (mobile : ¬mode.resident)
    (step : Step cfg plat reuses v op output v') (returned : op.unpinned.Subperm owed)
    (clean : ∀ branch ∈ v'.window.history, branch.losesFree = false) :
    CoreInv cfg mode (output.pinnedBlockIds ++ owed.diff op.unpinned) [] v' := by
  by_cases settled : op.Settled
  · rw [step.settled_output settled, op.unpinned_of_settled settled]
    refine core.step_settled step settled fun _ found released recorded _ => ?_
    rw [← core.ids found] at recorded
    exact attached_of_clean recorded released fun _ mem => Bool.noConfusion (clean _ mem)
  cases step with
  | @storeForReuse req seq pinBlocks pinned w found stored =>
    obtain ⟨sq, blockKeys, _, same⟩ := storeBlocksForReuse_ok stored
    obtain ⟨rfl, rfl⟩ := Prod.mk.injEq _ _ _ _ ▸ same
    exact ⟨core.ids, core.inv.storeBlocks_owed fun _ mem => Bool.noConfusion (clean _ mem)⟩
  | @unpin blockIds w unpinned =>
    have perm : owed.Perm (blockIds ++ owed.diff blockIds) := by
      refine List.perm_iff_count.mpr fun block => ?_
      have fewer := returned.count_le block
      rw [List.count_append, List.count_diff]
      exact (Nat.add_sub_cancel' fewer).symm
    exact ⟨core.ids, (WindowInv.permOwed core.inv perm).unpinBlocksById unpinned⟩
  | @offload idx block w bounded offloaded =>
    have unqueued := unqueued_of_clean (history_offloadBlock offloaded)
      fun mem => Bool.noConfusion (clean _ mem)
    exact ⟨core.ids, (core.inv.recordMove _ block).offloadBlock mobile bounded
      (fun _ => unqueued) offloaded⟩
  | @onboard idx rid block w bounded onboarded =>
    have unqueued := unqueued_of_clean (history_onboardBlock onboarded)
      fun mem => Bool.noConfusion (clean _ mem)
    exact ⟨core.ids, (core.inv.recordMove _ block).onboardBlock bounded
      (fun _ => unqueued) onboarded⟩
  | storeNothing stores => exact absurd (storeNothing_settled stores) settled
  | _ => exact absurd trivial settled

/-- With full attention no front block is ever removed. -/
theorem front_eq_zero_of_step (full : cfg.isSWA = false) (unremoved : v.front = fun _ => 0)
    (step : Step cfg plat reuses v op output v') : v'.front = fun _ => 0 := by
  have inserts : ∀ (w : WindowBlockManager) (managed : RequestId → Bool)
      (rid : RequestId) (seq : GenerationRequest), seq.numFrontBlocksRemoved = 0 →
      front ⟨w, v.sequences.insert rid seq, managed⟩ = fun _ => 0 := by
    intro w managed rid seq none
    rw [front_insert, unremoved, none]
    exact Function.update_eq_self rid _
  have known : ∀ {rid seq}, v.sequences.lookup rid = some seq →
      seq.numFrontBlocksRemoved = 0 := fun found => by
    rw [← front_eq found, unremoved]
  cases step with
  | addReuse _ _ added =>
    obtain ⟨_, _, _, _, _, _, rfl, _⟩ := addSequenceReuse_ok added
    exact inserts _ _ _ _ rfl
  | addNoReuse => exact inserts _ _ _ _ rfl
  | addToken found adjusted =>
    obtain ⟨_, looped, _⟩ := adjustBlocksIfNeeded_ok adjusted
    refine inserts _ _ _ _ ?_
    refine detachLoop_invariant (fun _ current => current.numFrontBlocksRemoved = 0)
      (fun _ _ _ _ sliding => ?_) ?_ looped
    · rw [full] at sliding
      cases sliding
    · exact (known found :)
  | removeToken found | removeBlock found => exact inserts _ _ _ _ (known found :)
  | @remove rid _ _ _ _ _ _ _ =>
    funext other
    by_cases same : other = rid
    · rw [same]
      exact front_absent (AList.lookup_erase _ _)
    · have kept : v.front other = 0 := by rw [unremoved]
      rw [front] at kept ⊢
      rw [AList.lookup_erase_ne same]
      exact kept
  | _ => exact unremoved

end OneWindow

end TrtLlm
