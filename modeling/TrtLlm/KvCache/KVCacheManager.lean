import TrtLlm.KvCache.WindowBlockManager

/-! # The KV cache manager

`KVCacheManager` and `BlockManager` on top of it apply each operation to the
managers of all windows. The functions here are the operations as callers see them,
and `exec` is one step of a run of them.
-/

namespace TrtLlm

open WindowBlockManager

/-- `KVCacheManager` with its `BlockManager`; the windows are in the order of their sizes. -/
structure KVCacheManager where
  windows : List (WindowConfig × WindowBlockManager)
  sequences : AList (fun _ : RequestId => GenerationRequest)
  managedSequences : RequestId → Bool

/-- `ceilDiv` -/
def ceilDiv (numerator denominator : Nat) : Nat := (numerator + denominator - 1) / denominator

namespace KVCacheManager

section Windows

variable {σ : Type}

/-- The loops of `BlockManager` over `mWindowBlockManagers`, with what they carry along. -/
def forWindows (body : WindowConfig → WindowBlockManager → σ →
      Except Failure (WindowBlockManager × σ)) :
    List (WindowConfig × WindowBlockManager) → σ →
      Except Failure (List (WindowConfig × WindowBlockManager) × σ)
  | [], carried => .ok ([], carried)
  | (config, window) :: rest, carried => do
      let (window, carried) ← body config window carried
      let (rest, carried) ← forWindows body rest carried
      return ((config, window) :: rest, carried)

end Windows

/-- A manager in which all blocks of all windows are free. -/
def initial (configs : List WindowConfig) : KVCacheManager where
  windows := configs.map fun config => (config, WindowBlockManager.initial config)
  sequences := ∅
  managedSequences := fun _ => false

section Operations

variable (platform : Platform) (enableBlockReuse : Bool) (m : KVCacheManager)

/-- `getSequence`, which is a lookup with `at`. -/
def getSequence (requestId : RequestId) : Except Failure GenerationRequest :=
  match m.sequences.lookup requestId with
  | some seq => .ok seq
  | none => .error .noSequence

/-- `holdSequence`, skipped for a sequence that is held. -/
def holdSequence (requestId : RequestId) : KVCacheManager :=
  if m.managedSequences requestId then m
  else { m with
    managedSequences := Function.update m.managedSequences requestId true
    windows := m.windows.map fun (config, window) =>
      (config, { window with
        isValidStoreForReuseSequence :=
          Function.update window.isValidStoreForReuseSequence requestId (some true) }) }

/-- `releaseSequence`, skipped for a sequence that is not held. -/
def releaseSequence (requestId : RequestId) : KVCacheManager :=
  if m.managedSequences requestId then
    { m with
      managedSequences := Function.update m.managedSequences requestId false
      windows := m.windows.map fun (config, window) =>
        (config, { window with
          isValidStoreForReuseSequence :=
            Function.update window.isValidStoreForReuseSequence requestId none }) }
  else m

/-- The blocks that `addSequence` gives a sequence in one window. The request is
needed, and changed, only with block reuse. -/
def addToWindow (inputLength : Nat) (config : WindowConfig) (window : WindowBlockManager)
    (carried : GenerationRequest × Option LlmRequest) :
    Except Failure (WindowBlockManager × GenerationRequest × Option LlmRequest) := do
  let effectiveInputLength :=
    min inputLength (config.maxTokenNum + config.temporaryAttentionWindow)
  let numContextBlocks := ceilDiv effectiveInputLength config.tokensPerBlock
  if enableBlockReuse then
    match carried.2 with
    | none => throw .noSequence
    | some request =>
      let (window, seq, request) ← window.addSequenceReuse config platform carried.1
        effectiveInputLength numContextBlocks request
      return (updateSequenceCacheBlockOffsets config window seq, seq, some request)
  else
    let window ← window.addSequenceNoReuse config platform carried.1 numContextBlocks
      (config.cacheType == .cross || effectiveInputLength % config.tokensPerBlock == 0)
    return (updateSequenceCacheBlockOffsets config window carried.1, carried)

/-- The `GenerationRequest` that `addSequence` constructs. -/
def newSequence (requestId inputLength beamWidth : Nat) (beamWidth_pos : 0 < beamWidth)
    (request : Option LlmRequest) : GenerationRequest :=
  let retention := ((request.bind LlmRequest.kvCacheRetentionConfig).getD {})
  { requestId := requestId
    numTokens := inputLength
    beamWidth := beamWidth
    beamWidth_pos := beamWidth_pos
    decodeRetentionPriority := retention.decodeRetentionPriority
    decodeDurationMs := retention.decodeDurationMs }

/-- `KVCacheManager::addSequence`; the request comes back with its reused prefix. -/
def addSequence (requestId : RequestId) (inputLength beamWidth : Nat)
    (beamWidth_pos : 0 < beamWidth) (request : Option LlmRequest) :
    Except Failure (KVCacheManager × Option LlmRequest) := do
  if (m.sequences.lookup requestId).isSome then throw .sequenceExists
  let m := m.holdSequence requestId
  let (windows, seq, request) ← forWindows (addToWindow platform enableBlockReuse inputLength)
    m.windows (newSequence requestId inputLength beamWidth beamWidth_pos request, request)
  return ({ m with windows := windows, sequences := m.sequences.insert requestId seq }, request)

/-- `KVCacheManager::addToken` -/
def addToken (requestId : RequestId) : Except Failure KVCacheManager := do
  let seq ← m.getSequence requestId
  let (windows, seq) ← forWindows (fun config window seq =>
    window.adjustBlocksIfNeeded config platform seq) m.windows
    { seq with numTokens := seq.numTokens + 1 }
  return { m with windows := windows, sequences := m.sequences.insert requestId seq }

/-- `KVCacheManager::removeToken` -/
def removeToken (requestId : RequestId) : Except Failure KVCacheManager := do
  let seq ← m.getSequence requestId
  if seq.numTokens = 0 then return m
  if seq.beamWidth ≠ 1 then throw .unsupported
  let seq := { seq with numTokens := seq.numTokens - 1 }
  let (windows, _) ← forWindows (fun config window (_ : Unit) =>
    if seq.numTokens % config.windowSize % config.tokensPerBlock = 0 then do
      let window ← window.releaseLastBlock platform seq
      return (window, ())
    else return (window, ())) m.windows ()
  return { m with windows := windows, sequences := m.sequences.insert requestId seq }

/-- `KVCacheManager::storeContextBlocks` -/
def storeContextBlocks (request : LlmRequest) : Except Failure KVCacheManager := do
  if (m.sequences.lookup request.requestId).isSome ∧ enableBlockReuse ∧ ¬request.isDummyRequest then
    let (windows, _) ← forWindows (fun config window (_ : Unit) => do
      let window ← window.storeContextBlocks config platform request
      return (window, ())) m.windows ()
    return { m with windows := windows }
  return m

/-- `KVCacheManager::storeNewBlock` -/
def storeNewBlock (request : LlmRequest) : Except Failure KVCacheManager := do
  let seq ← m.getSequence request.requestId
  if 1 < seq.beamWidth ∨ ¬enableBlockReuse then return m
  let (windows, _) ← forWindows (fun config window (_ : Unit) => do
    let window ← window.storeNewBlock config platform request
    return (window, ())) m.windows ()
  return { m with windows := windows }

/-- `KVCacheManager::storeBlocksForReuse`: the ids that the last window pinned. -/
def storeBlocksForReuse (request : LlmRequest) (pinBlocks : Bool) :
    Except Failure (KVCacheManager × List BlockId) := do
  let _ ← m.getSequence request.requestId
  let (windows, pinnedBlockIds) ← forWindows (fun config window (_ : List BlockId) => do
    let (pinnedBlockIds, window) ← window.storeBlocksForReuse config platform request pinBlocks
    return (window, pinnedBlockIds)) m.windows []
  return ({ m with windows := windows }, pinnedBlockIds)

/-- `BlockManager::unpinBlocksById`: the first window only. -/
def unpinBlocksById (blockIds : List BlockId) : Except Failure KVCacheManager :=
  match m.windows with
  | [] => .ok m
  | (config, window) :: rest => do
      let window ← window.unpinBlocksById config platform blockIds
      return { m with windows := (config, window) :: rest }

/-- Whether a sequence may store its blocks in every window. -/
def allWindowsValid (requestId : RequestId) : List (WindowConfig × WindowBlockManager) →
    Except Failure Bool
  | [] => .ok true
  | (_, window) :: rest => do
      let valid ← window.isSequenceValidForStoreForReuse requestId
      let others ← allWindowsValid requestId rest
      return valid && others

/-- The request under which `BlockManager::releaseBlocks` releases: none if nothing
is to be stored. -/
def storableRequest (seq : GenerationRequest) (valid : Bool) (request : Option LlmRequest) :
    Option LlmRequest :=
  request.filter fun request => !request.isDummyRequest && decide (seq.beamWidth ≤ 1) && valid

/-- One window of `BlockManager::releaseBlocks`; `clearCacheBlocks` resets the
count of removed front blocks, which the windows share. -/
def releaseWindow (request : Option LlmRequest) (config : WindowConfig)
    (window : WindowBlockManager) (seq : GenerationRequest) :
    Except Failure (WindowBlockManager × GenerationRequest) := do
  let window ← window.releaseBlocks config platform seq request
  return (window, { seq with numFrontBlocksRemoved := 0 })

/-- `BlockManager::releaseBlocks` -/
def releaseBlocks (seq : GenerationRequest) (request : Option LlmRequest) :
    Except Failure KVCacheManager := do
  let valid ← allWindowsValid seq.requestId m.windows
  let (windows, _) ← forWindows (releaseWindow platform (storableRequest seq valid request))
    m.windows seq
  return { m with windows := windows }

/-- `KVCacheManager::removeSequence` -/
def removeSequence (requestId : RequestId) (request : Option LlmRequest) :
    Except Failure KVCacheManager :=
  match m.sequences.lookup requestId with
  | none => .ok (m.releaseSequence requestId)
  | some seq => do
      let m ← { m with sequences := m.sequences.erase requestId }.releaseBlocks platform seq
        (if enableBlockReuse then request else none)
      return m.releaseSequence requestId

/-- `BlockManager::refreshBlocks` -/
def refreshBlocks : KVCacheManager :=
  { m with windows := m.windows.map fun (config, window) => (config, window.refresh platform) }

/-- `flushIterationEvents` -/
def flushEvents : KVCacheManager :=
  { m with windows := m.windows.map fun (config, window) => (config, window.flushEvents) }

/-- An operation on the manager of one window, given by its position. -/
def onWindow (index : Nat)
    (body : WindowConfig → WindowBlockManager → Except Failure WindowBlockManager) :
    Except Failure KVCacheManager :=
  match m.windows[index]? with
  | none => .error .noSequence
  | some (config, window) => do
      let window ← body config window
      return { m with windows := m.windows.set index (config, window) }

/-- Record that a block in a free queue is moved, if the call does not return at once. -/
def recordMove (window : WindowBlockManager) (moves : Bool) (block : BlockId) :
    WindowBlockManager :=
  window.recordIf (moves && (window.freeBlockIterators block).isSome) (.movedFree block)

/-- `BlockManager::offloadBlock` -/
def offloadBlock (index : Nat) (block : BlockId) : Except Failure KVCacheManager :=
  m.onWindow index fun config window =>
    if block < config.numBlocks then
      (recordMove window (config.onboardBlocks && window.isPrimary block) block).offloadBlock
        config platform block
    else .error .blockOutOfRange

/-- `BlockManager::onboardBlock` -/
def onboardBlock (index : Nat) (requestId : RequestId) (block : BlockId) :
    Except Failure KVCacheManager :=
  m.onWindow index fun config window =>
    if block < config.numBlocks then
      (recordMove window (config.onboardBlocks && !window.isPrimary block) block).onboardBlock
        config platform requestId block
    else .error .blockOutOfRange

end Operations

/-- A call on the manager. -/
inductive Op where
  | addSequence (requestId : RequestId) (inputLength beamWidth : Nat)
      (request : Option LlmRequest)
      (beamWidth_pos : 0 < beamWidth := by first | exact Nat.one_pos | decide)
  | addToken (requestId : RequestId)
  | removeToken (requestId : RequestId)
  | storeContextBlocks (request : LlmRequest)
  | storeNewBlock (request : LlmRequest)
  | storeBlocksForReuse (request : LlmRequest) (pinBlocks : Bool)
  | unpinBlocksById (blockIds : List BlockId)
  | offloadBlock (index : Nat) (block : BlockId)
  | onboardBlock (index : Nat) (requestId : RequestId) (block : BlockId)
  | refreshBlocks
  | flushEvents
  | removeSequence (requestId : RequestId) (request : Option LlmRequest)

/-- What a call returns besides its effect on the manager. -/
structure Output where
  request : Option LlmRequest := none
  pinnedBlockIds : List BlockId := []

/-- One call. A call that throws has no next state. -/
def exec (platform : Platform) (enableBlockReuse : Bool) (m : KVCacheManager) :
    Op → Except Failure (KVCacheManager × Output)
  | .addSequence requestId inputLength beamWidth request beamWidth_pos => do
      let (m, request) ←
        m.addSequence platform enableBlockReuse requestId inputLength beamWidth
          beamWidth_pos request
      return (m, { request := request })
  | .addToken requestId => do return (← m.addToken platform requestId, {})
  | .removeToken requestId => do return (← m.removeToken platform requestId, {})
  | .storeContextBlocks request => do
      return (← m.storeContextBlocks platform enableBlockReuse request, {})
  | .storeNewBlock request => do
      return (← m.storeNewBlock platform enableBlockReuse request, {})
  | .storeBlocksForReuse request pinBlocks => do
      let (m, pinnedBlockIds) ← m.storeBlocksForReuse platform request pinBlocks
      return (m, { pinnedBlockIds := pinnedBlockIds })
  | .unpinBlocksById blockIds => do return (← m.unpinBlocksById platform blockIds, {})
  | .offloadBlock index block => do return (← m.offloadBlock platform index block, {})
  | .onboardBlock index requestId block => do
      return (← m.onboardBlock platform index requestId block, {})
  | .refreshBlocks => .ok (m.refreshBlocks platform, {})
  | .flushEvents => .ok (m.flushEvents, {})
  | .removeSequence requestId request => do
      return (← m.removeSequence platform enableBlockReuse requestId request, {})

/-- A call as a step of a run. -/
def step (platform : Platform) (enableBlockReuse : Bool) (m : KVCacheManager) (op : Op) :
    Except Failure KVCacheManager := do
  let (m, _) ← m.exec platform enableBlockReuse op
  return m

/-- The call takes none of the given branches, in any window. A call can take several blocks, and a
branch is a condition on owners, lists and queues before one of them is taken, so the branches are
those that the steps of the call come to. -/
def Avoids (platform : Platform) (enableBlockReuse : Bool) (branches : Branch → Bool)
    (m : KVCacheManager) (op : Op) : Prop :=
  match m.exec platform enableBlockReuse op with
  | .ok (m, _) => ∀ window ∈ m.windows, ∀ branch ∈ window.2.history, branches branch = false
  | .error _ => True

instance (platform : Platform) (enableBlockReuse : Bool) (branches : Branch → Bool)
    (m : KVCacheManager) (op : Op) :
    Decidable (m.Avoids platform enableBlockReuse branches op) :=
  match called : m.exec platform enableBlockReuse op with
  | .ok (m, _) => decidable_of_iff
      (∀ window ∈ m.windows, ∀ branch ∈ window.2.history, branches branch = false)
      (by simp [Avoids, called])
  | .error _ => .isTrue (by simp [Avoids, called])

end KVCacheManager

end TrtLlm
