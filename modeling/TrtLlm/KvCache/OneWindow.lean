import TrtLlm.KvCache.Inversion

/-! # Managers with one window

What a call does to a manager that has a single window, case by case: the
operation of the window, and the change to the sequences the manager knows.
-/

namespace TrtLlm

open Except (bind_eq_ok pure_eq_ok)

open KVCacheManager WindowBlockManager

/-- The parts of a manager with one window. -/
structure OneWindow where
  window : WindowBlockManager
  sequences : AList (fun _ : RequestId => GenerationRequest)
  managed : RequestId → Bool

namespace OneWindow

variable (config : WindowConfig) (platform : Platform) (enableBlockReuse : Bool)

/-- The manager made of these parts. -/
def manager (v : OneWindow) : KVCacheManager where
  windows := [(config, v.window)]
  sequences := v.sequences
  managedSequences := v.managed

def initial : OneWindow where
  window := WindowBlockManager.initial config
  sequences := ∅
  managed := fun _ => false

/-- The window after `holdSequence`. -/
def hold (v : OneWindow) (requestId : RequestId) : WindowBlockManager :=
  if v.managed requestId then v.window
  else { v.window with
    isValidStoreForReuseSequence :=
      Function.update v.window.isValidStoreForReuseSequence requestId (some true) }

/-- The window after `releaseSequence`. -/
def unhold (managed : RequestId → Bool) (window : WindowBlockManager) (requestId : RequestId) :
    WindowBlockManager :=
  if managed requestId then
    { window with
      isValidStoreForReuseSequence :=
        Function.update window.isValidStoreForReuseSequence requestId none }
  else window

/-- The tokens of a prompt that get a block. -/
def effectiveLength (inputLength : Nat) : Nat :=
  min inputLength (config.maxTokenNum + config.temporaryAttentionWindow)

/-- What one call does. -/
inductive Step (v : OneWindow) : Op → Output → OneWindow → Prop
  | addReuse {requestId inputLength beamWidth : Nat} {request request' : LlmRequest}
      {positive : 0 < beamWidth} {seq : GenerationRequest} {window : WindowBlockManager}
      (reuse : enableBlockReuse = true) (absent : v.sequences.lookup requestId = none)
      (added : (v.hold requestId).addSequenceReuse config platform
        (newSequence requestId inputLength beamWidth positive (some request))
        (effectiveLength config inputLength)
        (ceilDiv (effectiveLength config inputLength) config.tokensPerBlock) request =
          .ok (window, seq, request')) :
      Step v (.addSequence requestId inputLength beamWidth (some request) positive)
        { request := some request' }
        ⟨updateSequenceCacheBlockOffsets config window seq, v.sequences.insert requestId seq,
          Function.update v.managed requestId true⟩
  | addNoReuse {requestId inputLength beamWidth : Nat} {request : Option LlmRequest}
      {positive : 0 < beamWidth} {window : WindowBlockManager}
      (noReuse : enableBlockReuse = false) (absent : v.sequences.lookup requestId = none)
      (added : (v.hold requestId).addSequenceNoReuse config platform
        (newSequence requestId inputLength beamWidth positive request)
        (ceilDiv (effectiveLength config inputLength) config.tokensPerBlock)
        (config.cacheType == .cross ||
          effectiveLength config inputLength % config.tokensPerBlock == 0) = .ok window) :
      Step v (.addSequence requestId inputLength beamWidth request positive)
        { request := request }
        ⟨updateSequenceCacheBlockOffsets config window
            (newSequence requestId inputLength beamWidth positive request),
          v.sequences.insert requestId
            (newSequence requestId inputLength beamWidth positive request),
          Function.update v.managed requestId true⟩
  | addToken {requestId : RequestId} {seq seq' : GenerationRequest} {window : WindowBlockManager}
      (found : v.sequences.lookup requestId = some seq)
      (adjusted : v.window.adjustBlocksIfNeeded config platform
        { seq with numTokens := seq.numTokens + 1 } = .ok (window, seq')) :
      Step v (.addToken requestId) {}
        ⟨window, v.sequences.insert requestId seq', v.managed⟩
  | noToken {requestId : RequestId} {seq : GenerationRequest}
      (found : v.sequences.lookup requestId = some seq) (none : seq.numTokens = 0) :
      Step v (.removeToken requestId) {} v
  | removeToken {requestId : RequestId} {seq : GenerationRequest}
      (found : v.sequences.lookup requestId = some seq) (some : seq.numTokens ≠ 0)
      (single : seq.beamWidth = 1)
      (inside : (seq.numTokens - 1) % config.windowSize % config.tokensPerBlock ≠ 0) :
      Step v (.removeToken requestId) {}
        ⟨v.window, v.sequences.insert requestId { seq with numTokens := seq.numTokens - 1 },
          v.managed⟩
  | removeBlock {requestId : RequestId} {seq : GenerationRequest} {window : WindowBlockManager}
      (found : v.sequences.lookup requestId = some seq) (some : seq.numTokens ≠ 0)
      (single : seq.beamWidth = 1)
      (first : (seq.numTokens - 1) % config.windowSize % config.tokensPerBlock = 0)
      (released : v.window.releaseLastBlock platform
        { seq with numTokens := seq.numTokens - 1 } = .ok window) :
      Step v (.removeToken requestId) {}
        ⟨window, v.sequences.insert requestId { seq with numTokens := seq.numTokens - 1 },
          v.managed⟩
  | storeNothing {op : Op} (stores : (∃ request, op = .storeContextBlocks request) ∨
      ∃ request, op = .storeNewBlock request) : Step v op {} v
  | storeContext {request : LlmRequest} {window : WindowBlockManager}
      (found : (v.sequences.lookup request.requestId).isSome)
      (reuse : enableBlockReuse = true)
      (stored : v.window.storeContextBlocks config platform request = .ok window) :
      Step v (.storeContextBlocks request) {} ⟨window, v.sequences, v.managed⟩
  | storeNew {request : LlmRequest} {seq : GenerationRequest} {window : WindowBlockManager}
      (found : v.sequences.lookup request.requestId = some seq) (single : seq.beamWidth ≤ 1)
      (reuse : enableBlockReuse = true)
      (stored : v.window.storeNewBlock config platform request = .ok window) :
      Step v (.storeNewBlock request) {} ⟨window, v.sequences, v.managed⟩
  | storeForReuse {request : LlmRequest} {seq : GenerationRequest} {pinBlocks : Bool}
      {pinned : List BlockId} {window : WindowBlockManager}
      (found : v.sequences.lookup request.requestId = some seq)
      (stored : v.window.storeBlocksForReuse config platform request pinBlocks =
        .ok (pinned, window)) :
      Step v (.storeBlocksForReuse request pinBlocks) { pinnedBlockIds := pinned }
        ⟨window, v.sequences, v.managed⟩
  | unpin {blockIds : List BlockId} {window : WindowBlockManager}
      (unpinned : v.window.unpinBlocksById config platform blockIds = .ok window) :
      Step v (.unpinBlocksById blockIds) {} ⟨window, v.sequences, v.managed⟩
  | offload {index : Nat} {block : BlockId} {window : WindowBlockManager}
      (bounded : block < config.numBlocks)
      (offloaded : (recordMove v.window (config.onboardBlocks && v.window.isPrimary block)
        block).offloadBlock config platform block = .ok window) :
      Step v (.offloadBlock index block) {} ⟨window, v.sequences, v.managed⟩
  | onboard {index : Nat} {requestId : RequestId} {block : BlockId} {window : WindowBlockManager}
      (bounded : block < config.numBlocks)
      (onboarded : (recordMove v.window (config.onboardBlocks && !v.window.isPrimary block)
        block).onboardBlock config platform requestId block = .ok window) :
      Step v (.onboardBlock index requestId block) {} ⟨window, v.sequences, v.managed⟩
  | refresh : Step v .refreshBlocks {} ⟨v.window.refresh platform, v.sequences, v.managed⟩
  | flush : Step v .flushEvents {} ⟨v.window.flushEvents, v.sequences, v.managed⟩
  | removeUnknown {requestId : RequestId} {request : Option LlmRequest}
      (absent : v.sequences.lookup requestId = none) :
      Step v (.removeSequence requestId request) {}
        ⟨unhold v.managed v.window requestId, v.sequences,
          Function.update v.managed requestId false⟩
  | remove {requestId : RequestId} {request : Option LlmRequest} {seq : GenerationRequest}
      {valid : Bool} {window : WindowBlockManager}
      (found : v.sequences.lookup requestId = some seq)
      (checked : v.window.isValidStoreForReuseSequence seq.requestId = some valid)
      (released : v.window.releaseBlocks config platform seq
        (storableRequest seq valid (if enableBlockReuse then request else none)) = .ok window) :
      Step v (.removeSequence requestId request) {}
        ⟨unhold v.managed window requestId, v.sequences.erase requestId,
          Function.update v.managed requestId false⟩

variable {config platform enableBlockReuse} {v : OneWindow}

theorem forWindows_singleton {σ : Type} {body : WindowConfig → WindowBlockManager → σ →
      Except Failure (WindowBlockManager × σ)} {w : WindowBlockManager}
    {carried carried' : σ} {windows : List (WindowConfig × WindowBlockManager)}
    (looped : forWindows body [(config, w)] carried = .ok (windows, carried')) :
    ∃ w', body config w carried = .ok (w', carried') ∧ windows = [(config, w')] := by
  simp only [forWindows, bind_eq_ok, pure_eq_ok, Prod.mk.injEq] at looped
  obtain ⟨⟨w', between⟩, stepped, ⟨rest, last⟩, tail, rfl, rfl⟩ := looped
  cases tail
  exact ⟨w', stepped, rfl⟩

variable {m : KVCacheManager} {rid : RequestId}

theorem getSequence_ok {seq : GenerationRequest} (got : m.getSequence rid = .ok seq) :
    m.sequences.lookup rid = some seq := by
  unfold getSequence at got
  split at got
  · rename_i found
    cases got
    exact found
  · cases got

theorem holdSequence_manager (rid : RequestId) : ((v.manager config).holdSequence rid) =
      (⟨v.hold rid, v.sequences, Function.update v.managed rid true⟩ :
        OneWindow).manager config := by
  cases held : v.managed rid with
  | true =>
    have same : Function.update v.managed rid true = v.managed := by
      rw [← held, Function.update_eq_self]
    simp [holdSequence, manager, hold, held, same]
  | false => simp [holdSequence, manager, hold, held]

theorem releaseSequence_manager (rid : RequestId) : ((v.manager config).releaseSequence rid) =
      (⟨unhold v.managed v.window rid, v.sequences,
        Function.update v.managed rid false⟩ : OneWindow).manager config := by
  cases held : v.managed rid with
  | true => simp [releaseSequence, manager, unhold, held]
  | false =>
    have same : Function.update v.managed rid false = v.managed := by
      rw [← held, Function.update_eq_self]
    simp [releaseSequence, manager, unhold, held, same]

theorem addSequence_step {rid inputLength beamWidth : Nat} {pos : 0 < beamWidth}
    {req req' : Option LlmRequest}
    (added : (v.manager config).addSequence platform enableBlockReuse rid inputLength
      beamWidth pos req = .ok (m, req')) :
    ∃ v', m = v'.manager config ∧ Step config platform enableBlockReuse v
      (.addSequence rid inputLength beamWidth req pos)
      { request := req' } v' := by
  unfold addSequence at added
  split at added
  · simp [throw, throwThe, MonadExceptOf.throw, bind, Except.bind] at added
  · rename_i absent
    have missing : v.sequences.lookup rid = none := by simpa [manager] using absent
    rw [holdSequence_manager] at added
    simp only [bind_eq_ok, pure_eq_ok, Prod.mk.injEq] at added
    obtain ⟨⟨windows, seq, request''⟩, looped, rfl, rfl⟩ := added
    obtain ⟨w, body, rfl⟩ := forWindows_singleton looped
    unfold addToWindow at body
    cases enableBlockReuse with
    | true =>
      cases req with
      | none => simp [throw, throwThe, MonadExceptOf.throw] at body
      | some known =>
        simp only [↓reduceIte, bind_eq_ok, pure_eq_ok, Prod.mk.injEq] at body
        obtain ⟨⟨loaded, reused, shortened⟩, loading, rfl, rfl, rfl⟩ := body
        exact ⟨_, rfl, .addReuse rfl missing loading⟩
    | false =>
      simp only [Bool.false_eq_true, ↓reduceIte, bind_eq_ok, pure_eq_ok, Prod.mk.injEq] at body
      obtain ⟨loaded, loading, rfl, rfl, rfl⟩ := body
      exact ⟨_, rfl, .addNoReuse rfl missing loading⟩

theorem removeToken_step (removed : (v.manager config).removeToken platform rid = .ok m) :
    ∃ v', m = v'.manager config ∧
      Step config platform enableBlockReuse v (.removeToken rid) {} v' := by
  simp only [KVCacheManager.removeToken, bind_eq_ok] at removed
  obtain ⟨seq, got, rest⟩ := removed
  have found := getSequence_ok got
  split at rest
  · rename_i empty
    simp only [pure_eq_ok] at rest
    exact ⟨v, rest.symm, .noToken found empty⟩
  · rename_i some
    split at rest
    · simp [throw, throwThe, MonadExceptOf.throw, bind, Except.bind] at rest
    · rename_i single
      simp only [bind_eq_ok, pure_eq_ok] at rest
      obtain ⟨⟨windows, _⟩, looped, rfl⟩ := rest
      obtain ⟨w, body, rfl⟩ := forWindows_singleton looped
      split at body
      · rename_i first
        simp only [bind_eq_ok, pure_eq_ok, Prod.mk.injEq, and_true] at body
        obtain ⟨released, releasing, rfl⟩ := body
        exact ⟨_, rfl, .removeBlock found some (not_not.mp single) first releasing⟩
      · rename_i lt
        simp only [pure_eq_ok, Prod.mk.injEq, and_true] at body
        subst body
        exact ⟨_, rfl, .removeToken found some (not_not.mp single) lt⟩

theorem storeContextBlocks_step {req : LlmRequest}
    (stored : (v.manager config).storeContextBlocks platform enableBlockReuse req = .ok m) :
    ∃ v', m = v'.manager config ∧
      Step config platform enableBlockReuse v (.storeContextBlocks req) {} v' := by
  unfold KVCacheManager.storeContextBlocks at stored
  split at stored
  · rename_i wanted
    simp only [bind_eq_ok, pure_eq_ok] at stored
    obtain ⟨⟨windows, _⟩, looped, rfl⟩ := stored
    obtain ⟨w, body, rfl⟩ := forWindows_singleton looped
    simp only [bind_eq_ok, pure_eq_ok, Prod.mk.injEq, and_true] at body
    obtain ⟨w', storing, rfl⟩ := body
    exact ⟨_, rfl, .storeContext wanted.1 wanted.2.1 storing⟩
  · simp only [pure_eq_ok] at stored
    exact ⟨v, stored.symm, .storeNothing (.inl ⟨req, rfl⟩)⟩

theorem storeNewBlock_step {req : LlmRequest}
    (stored : (v.manager config).storeNewBlock platform enableBlockReuse req = .ok m) :
    ∃ v', m = v'.manager config ∧
      Step config platform enableBlockReuse v (.storeNewBlock req) {} v' := by
  simp only [KVCacheManager.storeNewBlock, bind_eq_ok] at stored
  obtain ⟨seq, got, rest⟩ := stored
  split at rest
  · simp only [pure_eq_ok] at rest
    exact ⟨v, rest.symm, .storeNothing (.inr ⟨req, rfl⟩)⟩
  · rename_i wanted
    simp only [not_or, not_lt, not_not] at wanted
    simp only [bind_eq_ok, pure_eq_ok] at rest
    obtain ⟨⟨windows, _⟩, looped, rfl⟩ := rest
    obtain ⟨w, body, rfl⟩ := forWindows_singleton looped
    simp only [bind_eq_ok, pure_eq_ok, Prod.mk.injEq, and_true] at body
    obtain ⟨w', storing, rfl⟩ := body
    exact ⟨_, rfl, .storeNew (getSequence_ok got) wanted.1 wanted.2 storing⟩

theorem removeSequence_step {req : Option LlmRequest}
    (removed : (v.manager config).removeSequence platform enableBlockReuse rid req = .ok m) :
    ∃ v', m = v'.manager config ∧
      Step config platform enableBlockReuse v (.removeSequence rid req) {} v' := by
  unfold KVCacheManager.removeSequence at removed
  split at removed
  · rename_i absent
    cases removed
    exact ⟨_, releaseSequence_manager rid, .removeUnknown absent⟩
  · rename_i seq found
    simp only [bind_eq_ok, pure_eq_ok] at removed
    obtain ⟨released, releasing, rfl⟩ := removed
    simp only [KVCacheManager.releaseBlocks, bind_eq_ok, pure_eq_ok] at releasing
    obtain ⟨valid, checked, ⟨windows, _⟩, looped, rfl⟩ := releasing
    obtain ⟨w, body, rfl⟩ := forWindows_singleton looped
    simp only [releaseWindow, bind_eq_ok, pure_eq_ok, Prod.mk.injEq] at body
    obtain ⟨w', storing, rfl, _⟩ := body
    have isValid : v.window.isValidStoreForReuseSequence seq.requestId = some valid := by
      simp only [manager, allWindowsValid, bind_eq_ok, pure_eq_ok] at checked
      obtain ⟨flag, checking, rest, last, rfl⟩ := checked
      cases last
      unfold isSequenceValidForStoreForReuse at checking
      split at checking
      · rename_i known
        cases checking
        rw [known, Bool.and_true]
      · cases checking
    exact ⟨_, releaseSequence_manager (v := ⟨w', v.sequences.erase rid, v.managed⟩)
      rid, .remove found isValid storing⟩

theorem onWindow_step {idx : Nat}
    {body : WindowConfig → WindowBlockManager → Except Failure WindowBlockManager}
    (done : (v.manager config).onWindow idx body = .ok m) : ∃ w, body config v.window = .ok w ∧
      m = (⟨w, v.sequences, v.managed⟩ : OneWindow).manager config := by
  unfold onWindow at done
  cases idx with
  | zero =>
    simp only [manager, List.getElem?_cons_zero, bind_eq_ok, pure_eq_ok] at done
    obtain ⟨w, called, rfl⟩ := done
    exact ⟨w, called, rfl⟩
  | succ idx => simp [manager] at done

theorem returned_ok {call : Except Failure KVCacheManager} {output : Output}
    (called : (do return (← call, ({} : Output))) = .ok (m, output)) :
    call = .ok m ∧ {} = output := by
  simp only [bind_eq_ok, pure_eq_ok, Prod.mk.injEq] at called
  obtain ⟨_, returned, rfl, same⟩ := called
  exact ⟨returned, same⟩

/-- Every call on a manager with one window is one of the cases. -/
theorem exec_step {op : Op} {output : Output}
    (called : (v.manager config).exec platform enableBlockReuse op = .ok (m, output)) :
    ∃ v', m = v'.manager config ∧ Step config platform enableBlockReuse v op output v' := by
  cases op with
  | addSequence rid inputLength beamWidth req pos =>
    simp only [exec, bind_eq_ok, pure_eq_ok, Prod.mk.injEq] at called
    obtain ⟨⟨m', req'⟩, added, rfl, rfl⟩ := called
    exact addSequence_step added
  | addToken rid =>
    simp only [exec, KVCacheManager.addToken, bind_eq_ok, pure_eq_ok, Prod.mk.injEq] at called
    obtain ⟨m', ⟨seq, got, ⟨windows, seq'⟩, looped, rfl⟩, rfl, rfl⟩ := called
    obtain ⟨w, adjusted, rfl⟩ := forWindows_singleton looped
    exact ⟨_, rfl, .addToken (getSequence_ok got) adjusted⟩
  | removeToken rid =>
    obtain ⟨removed, rfl⟩ := returned_ok called
    exact removeToken_step removed
  | storeContextBlocks req =>
    obtain ⟨stored, rfl⟩ := returned_ok called
    exact storeContextBlocks_step stored
  | storeNewBlock req =>
    obtain ⟨stored, rfl⟩ := returned_ok called
    exact storeNewBlock_step stored
  | storeBlocksForReuse req pinBlocks =>
    simp only [exec, KVCacheManager.storeBlocksForReuse, bind_eq_ok, pure_eq_ok,
      Prod.mk.injEq] at called
    obtain ⟨⟨m', pinned⟩, ⟨seq, got, ⟨windows, last⟩, looped, rfl, rfl⟩, rfl, rfl⟩ := called
    obtain ⟨w, body, rfl⟩ := forWindows_singleton looped
    simp only [bind_eq_ok, pure_eq_ok, Prod.mk.injEq] at body
    obtain ⟨⟨ids, w'⟩, stored, rfl, rfl⟩ := body
    exact ⟨_, rfl, .storeForReuse (getSequence_ok got) stored⟩
  | unpinBlocksById blockIds =>
    simp only [exec, KVCacheManager.unpinBlocksById, manager, bind_eq_ok,
      pure_eq_ok, Prod.mk.injEq] at called
    obtain ⟨m', ⟨w, unpinned, rfl⟩, rfl, rfl⟩ := called
    exact ⟨⟨w, v.sequences, v.managed⟩, rfl, .unpin unpinned⟩
  | offloadBlock idx block =>
    obtain ⟨moved, rfl⟩ := returned_ok called
    obtain ⟨w, body, rfl⟩ := onWindow_step moved
    split at body
    · rename_i bounded
      exact ⟨_, rfl, .offload bounded body⟩
    · cases body
  | onboardBlock idx rid block =>
    obtain ⟨moved, rfl⟩ := returned_ok called
    obtain ⟨w, body, rfl⟩ := onWindow_step moved
    split at body
    · rename_i bounded
      exact ⟨_, rfl, .onboard bounded body⟩
    · cases body
  | refreshBlocks =>
    cases called
    exact ⟨_, rfl, .refresh⟩
  | flushEvents =>
    cases called
    exact ⟨_, rfl, .flush⟩
  | removeSequence rid req =>
    obtain ⟨removed, rfl⟩ := returned_ok called
    exact removeSequence_step removed

end OneWindow

end TrtLlm
