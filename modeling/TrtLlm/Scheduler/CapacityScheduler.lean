import TrtLlm.KvCache.KVCacheManager

/-! # The capacity scheduler

In every iteration the capacity scheduler picks, from the active requests, those that may use the
KV cache. The policy `MAX_UTILIZATION` decides by the blocks that requests need next. Cross
attention managers are not modelled, and an adapter takes the pages of `determineNumPages`.
-/

namespace TrtLlm

open WindowBlockManager

namespace LlmRequest

variable (request : LlmRequest)

def hasReachedState (state : LlmRequestState) : Bool := decide (state.value ≤ request.state.value)

/-- The position starts behind the reused prefix. -/
def isFirstContextChunk : Bool :=
  request.contextCurrentPosition == request.prepopulatedPromptLen

/-- A request that generates is in no other phase. -/
theorem phase_of_generating {request : LlmRequest}
    (generating : request.isGenerationInProgressState = true) :
    request.isContextInitState = false ∧ request.isDisaggGenerationInitState = false := by
  unfold isGenerationInProgressState at generating
  unfold isContextInitState isDisaggGenerationInitState
  generalize request.state = st at generating ⊢
  cases st <;> first | exact ⟨rfl, rfl⟩ | cases generating

end LlmRequest

/-- `BasePeftCacheManager`, as far as the scheduler asks it. -/
structure PeftCacheManager where
  maxDevicePages : Nat
  determineNumPages : LlmRequest → Nat

/-! ## Blocks that a request needs -/

namespace KVCacheManager

variable (m : KVCacheManager)

/-- `isVariableWindow` -/
def isVariableWindow : Bool := decide (1 < m.windows.length)

/-- `KVCacheManager::getNeededBlocksOneStep`; the sink bubble is 0 in every manager that
can be constructed. -/
def getNeededBlocksOneStep (req : LlmRequest) (twoStepsLookAhead : Bool) (config : WindowConfig) :
    Except Failure Int :=
  if (req.isContextInitState && req.isFirstContextChunk) || req.isDisaggGenerationInitState then
    let chunkSize := req.maxNewTokens
    let maxDraftTokensToAdd := req.numDraftTokens
    let promptCacheLen := min
      ((if config.cacheType = .cross then req.encoderOutputLen else req.promptLen) +
        maxDraftTokensToAdd) (config.windowSize + chunkSize)
    let numSharedBlocks := promptCacheLen / config.tokensPerBlock
    let numUnSharedTokens := promptCacheLen % config.tokensPerBlock
    let numUnSharedBlocks := ceilDiv numUnSharedTokens config.tokensPerBlock * req.beamWidth
    .ok (numSharedBlocks + numUnSharedBlocks : Nat)
  else if req.isGenerationInProgressState then
    if config.cacheType = .cross then .ok 0
    else do
      let seq ← m.getSequence req.requestId
      let numCurrTokens := seq.numTokens
      let generatedTokens : Int := numCurrTokens - req.promptLen
      let maxTokensToAddToKVCache := req.maxNewTokens - generatedTokens
      let tokensPerStep := req.numDraftTokens + 1
      let maxTokensToAdd :=
        min (((if twoStepsLookAhead then 2 else 1) * tokensPerStep : Nat) : Int)
          maxTokensToAddToKVCache
      -- at least 0: the sum of the current tokens and either bound is
      let numNextTokens := (numCurrTokens + maxTokensToAdd).toNat
      if config.maxTokenNum < numNextTokens then return 0
      let numCurrBlocks : Int := ceilDiv numCurrTokens config.tokensPerBlock
      let numNextBlocks : Int := ceilDiv numNextTokens config.tokensPerBlock
      return (numNextBlocks - numCurrBlocks) * req.beamWidth
  else .ok 0

/-- The blocks a sequence has in a window, counted on its first beam. -/
def numAllocBlocksPerBeam (requestId : RequestId) (window : WindowBlockManager) : Nat :=
  match m.sequences.lookup requestId with
  | none => 0
  | some _ =>
    match window.sequences.lookup requestId with
    | none => 0
    | some sequence => (sequence.beamBlocks 0).length

/-- `KVCacheManager::getRemainingBlocksToCompletion` -/
def getRemainingBlocksToCompletion (req : LlmRequest) (config : WindowConfig)
    (window : WindowBlockManager) : Int :=
  if config.cacheType = .cross then
    if req.isContextInitState && req.contextCurrentPosition == 0 then
      ceilDiv req.encoderOutputLen config.tokensPerBlock
    else 0
  else
    let numContextBlocks : Int :=
      (min req.promptLen (config.windowSize + config.temporaryAttentionWindow) /
        config.tokensPerBlock : Nat)
    let numTotalBlocksPerBeam : Int :=
      ceilDiv (min (req.promptLen + req.maxNewTokens)
        (config.windowSize + config.temporaryAttentionWindow)) config.tokensPerBlock
    let numGenBlocksPerBeam := numTotalBlocksPerBeam - numContextBlocks
    let numAllocBlocksPerBeam : Int := m.numAllocBlocksPerBeam req.requestId window
    let isSlidingWindow := decide (config.windowSize < req.promptLen + req.maxNewTokens)
    let currentSeqlenInBlocks := ceilDiv req.uniqueTokens.length config.tokensPerBlock
    let maxSeqlenInBlocks := ceilDiv (req.promptLen + req.maxNewTokens) config.tokensPerBlock
    let willCrossBlockBoundary := decide (currentSeqlenInBlocks < maxSeqlenInBlocks)
    let willCrossWindowBlockBoundary := decide (numTotalBlocksPerBeam < maxSeqlenInBlocks)
    let numExtraBlocksPerBeam : Int :=
      if isSlidingWindow && willCrossBlockBoundary && willCrossWindowBlockBoundary then 1 else 0
    if numAllocBlocksPerBeam < numContextBlocks then
      numContextBlocks - numAllocBlocksPerBeam +
        (numGenBlocksPerBeam + numExtraBlocksPerBeam) * req.beamWidth
    else
      (numTotalBlocksPerBeam - numAllocBlocksPerBeam + numExtraBlocksPerBeam) * req.beamWidth

end KVCacheManager

/-! ## Delaying requests that could reuse blocks -/

section Skip

variable (platform : Platform)

namespace WindowBlockManager

/-- The loop of `findNewContextBlock`: the tokens up to the first block that is not cached. -/
def newContextBlock (s : WindowBlockManager) : List BlockKey → Node → BlockKey → Option BlockKey
  | [], _, _ => none
  | blockKey :: rest, searchRoot, ret =>
    let ret := { ret with uniqueTokens := ret.uniqueTokens ++ blockKey.uniqueTokens }
    match s.findMatchingBlock platform searchRoot blockKey false false with
    | none => some ret
    | some found => newContextBlock s rest (.block found.block) ret

/-- `WindowBlockManager::findNewContextBlock` -/
def findNewContextBlock (config : WindowConfig) (s : WindowBlockManager) (request : LlmRequest) :
    Except Failure (Option BlockKey) := do
  let blockedUniqueTokens ← chopVectorIntoBlocks request.uniqueTokens request.uniqueTokens.length
    config.tokensPerBlock false
  return newContextBlock platform s (buildBlockKeys blockedUniqueTokens request) .root
    { loraTaskId := request.loraTaskId }

end WindowBlockManager

/-- `BlockManager::findNewContextBlock`: there must be a single window. -/
def KVCacheManager.findNewContextBlock (m : KVCacheManager) (request : LlmRequest) :
    Except Failure (Option BlockKey) :=
  match m.windows with
  | [(config, window)] => WindowBlockManager.findNewContextBlock platform config window request
  | _ => .error .unsupported

/-- `prefillWithChunkedContextsAlreadyExecuting`: the blocks that contexts under way contribute. -/
def prefillWithChunkedContextsAlreadyExecuting (m : KVCacheManager) (enableBlockReuse : Bool)
    (activeRequests : List LlmRequest) : Except Failure (List BlockKey) :=
  activeRequests.foldlM (fun newlyContributedContextBlocks req => do
    if req.isContextInitState && !req.isFirstContextChunk && enableBlockReuse then
      match ← m.findNewContextBlock platform req with
      | none => return newlyContributedContextBlocks
      | some newContextBlock => return newlyContributedContextBlocks.insert newContextBlock
    else return newlyContributedContextBlocks) []

/-- `beneficialToSkip`: whether another request contributes the first block that this one
misses; if none does, this one is noted to contribute it. -/
def beneficialToSkip (m : KVCacheManager) (enableBlockReuse : Bool) (req : LlmRequest)
    (newlyContributedContextBlocks : List BlockKey) : Except Failure (Bool × List BlockKey) :=
  if req.isContextInitState && req.isFirstContextChunk && enableBlockReuse then do
    match ← m.findNewContextBlock platform req with
    | none => return (false, newlyContributedContextBlocks)
    | some newContextBlock =>
      if newContextBlock ∈ newlyContributedContextBlocks then
        return (true, newlyContributedContextBlocks)
      else return (false, newlyContributedContextBlocks.insert newContextBlock)
  else .ok (false, newlyContributedContextBlocks)

end Skip

/-- The states between which a request is scheduled. -/
structure BaseCapacityScheduler where
  maxNumRequests : Nat
  noScheduleUntilState : LlmRequestState := .contextInit
  noScheduleAfterState : LlmRequestState := .generationComplete

/-- The request has reached the first of the states and not the second. -/
def BaseCapacityScheduler.inRange (scheduler : BaseCapacityScheduler) (req : LlmRequest) : Bool :=
  req.hasReachedState scheduler.noScheduleUntilState &&
    !req.hasReachedState scheduler.noScheduleAfterState

/-- A request that is not skipped at once; those that are to receive a cache are let
through, so that their blocks are allocated. -/
def BaseCapacityScheduler.schedulable (scheduler : BaseCapacityScheduler) (req : LlmRequest) :
    Bool :=
  req.isDisaggGenerationInitState || scheduler.inRange req

/-- Whether the adapter of a request has not been counted yet. -/
def isNewTask (seenTaskIds : List UInt64) (req : LlmRequest) : Bool :=
  req.loraTaskId.any fun taskId => !seenTaskIds.contains taskId

/-- The tasks seen after a request. -/
def seeTask (seenTaskIds : List UInt64) (req : LlmRequest) : List UInt64 :=
  match req.loraTaskId with
  | none => seenTaskIds
  | some taskId => seenTaskIds.insert taskId

/-- The pages that a request adds. -/
def numRequiredPeftPages (peftCacheManager : Option PeftCacheManager) (seenTaskIds : List UInt64)
    (req : LlmRequest) : Nat :=
  match peftCacheManager with
  | none => 0
  | some peft => if isNewTask seenTaskIds req then peft.determineNumPages req else 0

/-! ## MAX_UTILIZATION -/

/-- The references and the free blocks of a window while the scheduler tries out what
pausing requests would free: `mSchedulingRefCount` and `mSchedulingNumFreeBlocks`. -/
structure Scheduling where
  refCount : BlockId → Nat
  numFreeBlocks : Int

namespace WindowBlockManager

variable (s : WindowBlockManager)

/-- `WindowBlockManager::startScheduling`: blocks of no sequence keep the count that an
earlier call left. -/
def startScheduling (left : BlockId → Nat) : Scheduling where
  refCount := fun block =>
    if s.sequences.entries.any fun entry => entry.2.allocatedBlocks.contains block then
      s.refCount block
    else left block
  numFreeBlocks := s.numFreeBlocksPerLevel .primary

/-- One block of `schedulingReleaseBlocks`, with the check of `decSchedulingRefCount`. -/
def schedulingReleaseBlock (scheduling : Scheduling) (block : BlockId) :
    Except Failure Scheduling :=
  if 0 < scheduling.refCount block then
    .ok {
      refCount := Function.update scheduling.refCount block (scheduling.refCount block - 1)
      numFreeBlocks := if scheduling.refCount block - 1 = 0 then scheduling.numFreeBlocks + 1
        else scheduling.numFreeBlocks }
  else .error .notAllocated

/-- `WindowBlockManager::schedulingReleaseBlocks` -/
def schedulingReleaseBlocks (requestId : RequestId) (scheduling : Scheduling) :
    Except Failure Scheduling := do
  let sequence ← s.sequence? requestId
  sequence.allocatedBlocks.foldlM schedulingReleaseBlock scheduling

end WindowBlockManager

/-- One window as the scheduler sees it. -/
structure ScheduledWindow where
  config : WindowConfig
  window : WindowBlockManager
  scheduling : Scheduling
  /-- `mNumScheduledBlocks` of `MaxUtilizationScheduledBlocksManager` -/
  numScheduledBlocks : Int

structure MaxUtilizationScheduler extends BaseCapacityScheduler where
  twoStepsLookAhead : Bool := false

namespace MaxUtilizationScheduler

/-- The variables of the loop over the active requests. -/
structure State where
  windows : List ScheduledWindow
  numScheduledPeftPages : Nat := 0
  seenTaskIds : List UInt64 := []
  newlyContributedContextBlocks : List BlockKey
  scheduledRequests : List LlmRequest := []
  pausedRequests : List LlmRequest := []

section Loop

variable (scheduler : MaxUtilizationScheduler) (platform : Platform) (enableBlockReuse : Bool)
  (m : KVCacheManager) (peftCacheManager : Option PeftCacheManager)

/-- `startedReqLambda` -/
def startedReq (req : LlmRequest) : Bool :=
  scheduler.inRange req &&
    (req.isContextInitState && !req.isFirstContextChunk || req.isGenerationInProgressState)

/-- `prepareNewNumberOfBlocksIfWeEndUpScheduling`: nothing if a window has not enough
free blocks. -/
def prepareNewNumberOfBlocksIfWeEndUpScheduling (req : LlmRequest) :
    List ScheduledWindow → Except Failure (Option (List ScheduledWindow))
  | [] => .ok (some [])
  | entry :: rest => do
      let required ← m.getNeededBlocksOneStep req scheduler.twoStepsLookAhead entry.config
      let scheduledTotal := entry.numScheduledBlocks + required
      if scheduledTotal ≤ entry.scheduling.numFreeBlocks then
        let others ← prepareNewNumberOfBlocksIfWeEndUpScheduling req rest
        return others.map ({ entry with numScheduledBlocks := scheduledTotal } :: ·)
      else return none

/-- `trySchedulingRequestMaxUtilization`: nothing if the request cannot be scheduled. -/
def trySchedulingRequestMaxUtilization (req : LlmRequest) (state : State) :
    Except Failure (Option State) :=
  if state.scheduledRequests.length < scheduler.maxNumRequests then do
    let required := numRequiredPeftPages peftCacheManager state.seenTaskIds req
    let scheduledBlocksIfFitsKvCache ←
      scheduler.prepareNewNumberOfBlocksIfWeEndUpScheduling m req state.windows
    let fitsPeft := peftCacheManager.all fun peft =>
      decide (required + state.numScheduledPeftPages ≤ peft.maxDevicePages)
    match scheduledBlocksIfFitsKvCache, fitsPeft with
    | some windows, true => return some { state with
        windows := windows
        numScheduledPeftPages := state.numScheduledPeftPages + required
        seenTaskIds := seeTask state.seenTaskIds req
        scheduledRequests := state.scheduledRequests ++ [req] }
    | _, _ => return none
  else .ok none

/-- `schedulingRemoveSequence`, in every window. -/
def schedulingRemoveSequence (requestId : RequestId) (windows : List ScheduledWindow) :
    Except Failure (List ScheduledWindow) :=
  windows.mapM fun entry => do
    let scheduling ← entry.window.schedulingReleaseBlocks requestId entry.scheduling
    return { entry with scheduling := scheduling }

/-- The search from the end for a started request, with the requests before it. -/
def lastStarted : List LlmRequest → Option (List LlmRequest × LlmRequest)
  | [] => none
  | req :: rest =>
    match lastStarted rest with
    | some (before, victim) => some (req :: before, victim)
    | none => if scheduler.startedReq req then some ([], req) else none

theorem lastStarted_shorter {requests before : List LlmRequest} {victim : LlmRequest}
    (found : scheduler.lastStarted requests = some (before, victim)) :
    before.length < requests.length := by
  induction requests generalizing before with
  | nil => cases found
  | cons req rest ih =>
    unfold lastStarted at found
    split at found
    · rename_i inner _ later
      cases found
      exact Nat.succ_lt_succ (ih later)
    · split at found
      · cases found
        exact Nat.succ_pos _
      · cases found

/-- The loop of `operator()` over the requests between `reqIt` and `reqItEnd`. -/
def loop (requests : List LlmRequest) (state : State) : Except Failure State :=
  match requests with
  | [] => .ok state
  | req :: rest =>
    if !scheduler.schedulable req then loop rest state
    else do
      let (skip, newlyContributedContextBlocks) ← if !m.isVariableWindow then
          beneficialToSkip platform m enableBlockReuse req state.newlyContributedContextBlocks
        else .ok (false, state.newlyContributedContextBlocks)
      let state := { state with newlyContributedContextBlocks := newlyContributedContextBlocks }
      if skip then loop rest state
      else
        match ← scheduler.trySchedulingRequestMaxUtilization m peftCacheManager req state with
        | some state => loop rest state
        | none =>
          match _found : scheduler.lastStarted (req :: rest) with
          | some (before, victim) => do
              let windows ← schedulingRemoveSequence victim.requestId state.windows
              loop before { state with
                windows := windows, pausedRequests := state.pausedRequests ++ [victim] }
          | none => return state
termination_by requests.length
decreasing_by
  · simp
  · simp
  · simp
  · exact lastStarted_shorter scheduler _found

/-- `MaxUtilizationScheduler::operator()`: the scheduled and the paused requests. -/
def schedule (left : BlockId → Nat) (activeRequests : List LlmRequest) :
    Except Failure (List LlmRequest × List LlmRequest) := do
  let newlyContributedContextBlocks ←
    prefillWithChunkedContextsAlreadyExecuting platform m enableBlockReuse activeRequests
  let state ← scheduler.loop platform enableBlockReuse m peftCacheManager activeRequests {
    windows := m.windows.map fun (config, window) =>
      ⟨config, window, window.startScheduling left, 0⟩
    newlyContributedContextBlocks := newlyContributedContextBlocks }
  return (state.scheduledRequests, state.pausedRequests)

end Loop

end MaxUtilizationScheduler

end TrtLlm
