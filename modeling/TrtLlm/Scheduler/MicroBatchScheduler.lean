import Mathlib.Data.List.Sort
import TrtLlm.Scheduler.CapacityScheduler

/-! # The micro-batch scheduler

The micro-batch scheduler picks the requests of the next step, within a number of requests and of
tokens. Contexts that do not fit are divided into chunks, by one of two policies. Token counts are
unbounded integers here.
-/

namespace TrtLlm

namespace LlmRequest

variable (request : LlmRequest)

def isEncoderInitState : Bool := request.state == .encoderInit

def hasDraftTokens : Bool := request.numDraftTokens != 0

/-- `getNumTokens(0)` -/
def getNumTokens : Nat := request.uniqueTokens.length

def getContextChunkSize : Except Failure Nat :=
  if request.inChunkPhase then .ok request.contextChunkSize else .error .contextChunk

/-- `isLastContextChunk` with the check of `getContextChunkSize` that it runs into. -/
def isLastContextChunkChecked : Except Failure Bool :=
  if request.isDisaggGenerationInitState || request.isDisaggGenerationTransmissionComplete then
    .ok true
  else do
    let size ← request.getContextChunkSize
    return request.contextCurrentPosition + size == request.promptLen

def discardDraftTokens (numTokensToDiscard : Int) : Except Failure LlmRequest :=
  if 0 < numTokensToDiscard ∧ numTokensToDiscard ≤ request.numDraftTokens then
    .ok { request with
      numDraftTokens := (request.numDraftTokens - numTokensToDiscard).toNat }
  else .error .discardDraftTokens

/-- `kMaxBeamWidthArrayLength` -/
def kMaxBeamWidthArrayLength : Nat := 8

/-- `getBeamWidthByIter`, for the current iteration. -/
def getBeamWidthByIter : Except Failure Nat :=
  match request.beamWidthArray with
  | none => .ok request.beamWidth
  | some beamWidthArray =>
    match beamWidthArray[min request.decodingIter kMaxBeamWidthArrayLength - 1]? with
    | some beamWidth => .ok beamWidth
    | none => .error .emptyAccess

end LlmRequest

/-- `ContextChunkingPolicy` -/
inductive ContextChunkingPolicy where
  | equalProgress
  | firstComeFirstServed
  deriving DecidableEq, Repr

/-- `ContextChunkingConfig`; models are not set up with a unit size of 0. -/
structure ContextChunkingConfig where
  chunkingPolicy : ContextChunkingPolicy
  chunkUnitSize : Nat
  chunkUnitSize_pos : 0 < chunkUnitSize

structure MicroBatchScheduler where
  maxContextLength : Option Nat := none
  ctxChunkConfig : Option ContextChunkingConfig := none
  noScheduleUntilState : LlmRequestState := .contextInit
  noScheduleAfterState : LlmRequestState := .generationToComplete

namespace MicroBatchScheduler

/-! ## Chunk sizes -/

section Chunks

variable (ctxTokensCapacity : Option Int) (chunkUnitSize : Nat) (maxContextLength : Option Nat)

/-- A size cut down to a limit, if there is one. -/
def atMost (limit : Option Int) (size : Int) : Int :=
  match limit with
  | none => size
  | some limit => min limit size

/-- The draft tokens for which there is space: in the last unit of the chunk, before the
maximum context length and in the capacity. -/
def remainingSpaceForDraftTokens (numCtxTokens : Int) (chunkSize : Nat) : Int :=
  let remainder := chunkSize % chunkUnitSize
  let space : Int := if remainder = 0 then 0 else chunkUnitSize - remainder
  let space := atMost (maxContextLength.map fun length : Nat => (length - chunkSize : Int)) space
  atMost (ctxTokensCapacity.map fun capacity => capacity - numCtxTokens) space

/-- One request of the second loop of `fitDraftTokens`, with the tokens it adds to the count. -/
def fitDraftTokensOf (numCtxTokens : Int) (req : LlmRequest) :
    Except Failure (LlmRequest × Int) := do
  if (← req.isLastContextChunkChecked) && req.hasDraftTokens then
    let space := remainingSpaceForDraftTokens ctxTokensCapacity chunkUnitSize maxContextLength
      numCtxTokens (← req.getContextChunkSize)
    let added := if ctxTokensCapacity.isSome then space else 0
    let draftTokensToDiscard := req.numDraftTokens - space
    if 0 < draftTokensToDiscard then
      return (← req.discardDraftTokens draftTokensToDiscard, added)
    return (req, added)
  return (req, 0)

/-- A loop over the requests that changes each of them and adds up tokens. -/
def forRequests (body : Int → LlmRequest → Except Failure (LlmRequest × Int)) :
    List LlmRequest → Int → Except Failure (List LlmRequest × Int)
  | [], numTokens => .ok ([], numTokens)
  | req :: rest, numTokens => do
      let (req, added) ← body numTokens req
      let (rest, numTokens) ← forRequests body rest (numTokens + added)
      return (req :: rest, numTokens)

/-- The sum of the chunk sizes. -/
def numChunkTokens (contexts : List LlmRequest) : Except Failure Nat :=
  contexts.foldlM (fun numCtxTokens req => do
    return numCtxTokens + (← req.getContextChunkSize)) 0

def fitDraftTokens (contextsToBeChunked : List LlmRequest) : Except Failure (List LlmRequest) := do
  let numCtxTokens ← numChunkTokens contextsToBeChunked
  let (contexts, _) ← forRequests
    (fitDraftTokensOf ctxTokensCapacity chunkUnitSize maxContextLength) contextsToBeChunked
    numCtxTokens
  return contexts

/-- One request of a round of `kEQUAL_PROGRESS`: one more unit if it fits. -/
def extendChunk (numCtxTokens : Int) (req : LlmRequest) : Except Failure (LlmRequest × Int) := do
  let pastChunkSize ← req.getContextChunkSize
  let longer ← req.setContextChunkSize (pastChunkSize + chunkUnitSize : Nat)
  let actualChunkSize ← longer.getContextChunkSize
  let actualIncrement : Int := actualChunkSize - pastChunkSize
  if ctxTokensCapacity.any (fun capacity => capacity < numCtxTokens + actualIncrement) ||
      maxContextLength.any (fun maxContextLength => maxContextLength < actualChunkSize) then
    return (← longer.setContextChunkSize pastChunkSize, 0)
  return (longer, actualIncrement)

/-- The rounds of `kEQUAL_PROGRESS`. Every round but the last extends a chunk, so there are
at most as many as there are tokens. -/
def equalProgress : Nat → Int → List LlmRequest → Except Failure (List LlmRequest)
  | 0, _, _ => .error .diverges
  | rounds + 1, numCtxTokens, contexts =>
    if ctxTokensCapacity.all (fun capacity => numCtxTokens < capacity) then do
      let (contexts, total) ← forRequests
        (extendChunk ctxTokensCapacity chunkUnitSize maxContextLength) contexts numCtxTokens
      if total - numCtxTokens = 0 then return contexts
      else equalProgress rounds total contexts
    else .ok contexts

/-- The tokens of all contexts that are not processed yet. -/
def remainingTokens (contexts : List LlmRequest) : Nat :=
  (contexts.map LlmRequest.getContextRemainingLength).sum

/-- `setCtxRequestsChunkSize<kEQUAL_PROGRESS>` -/
def setCtxRequestsChunkSizeEqualProgress (contexts : List LlmRequest) :
    Except Failure (List LlmRequest) :=
  equalProgress ctxTokensCapacity chunkUnitSize maxContextLength (remainingTokens contexts + 2) 0
    contexts

/-- The chunk that is left within the limits, in whole units unless it is all of the
context. The integer division of the source rounds to 0. -/
def servedChunkSize (numCtxTokens suggestedChunkSize : Int) : Int :=
  let actualChunkSize := atMost (ctxTokensCapacity.map fun capacity => capacity - numCtxTokens)
    suggestedChunkSize
  let actualChunkSize := atMost (maxContextLength.map Int.ofNat) actualChunkSize
  if actualChunkSize ≠ suggestedChunkSize then
    Int.tdiv actualChunkSize chunkUnitSize * chunkUnitSize
  else actualChunkSize

/-- One request of `kFIRST_COME_FIRST_SERVED`, given the tokens taken before it. -/
def serveContext (numCtxTokens : Int) (req : LlmRequest) : Except Failure (LlmRequest × Int) := do
  let actualChunkSize := servedChunkSize ctxTokensCapacity chunkUnitSize maxContextLength
    numCtxTokens req.getContextRemainingLength
  return (← req.setContextChunkSize actualChunkSize, actualChunkSize)

/-- `setCtxRequestsChunkSize<kFIRST_COME_FIRST_SERVED>` -/
def setCtxRequestsChunkSizeFirstComeFirstServed (contexts : List LlmRequest) :
    Except Failure (List LlmRequest) := do
  let (contexts, _) ← forRequests
    (serveContext ctxTokensCapacity chunkUnitSize maxContextLength) contexts 0
  return contexts

/-- The `switch` on the policy. -/
def setChunkSizesByPolicy (ctxChunkPolicy : ContextChunkingPolicy) (contexts : List LlmRequest) :
    Except Failure (List LlmRequest) :=
  match ctxChunkPolicy with
  | .equalProgress =>
    setCtxRequestsChunkSizeEqualProgress ctxTokensCapacity chunkUnitSize maxContextLength contexts
  | .firstComeFirstServed =>
    setCtxRequestsChunkSizeFirstComeFirstServed ctxTokensCapacity chunkUnitSize maxContextLength
      contexts

/-- `setCtxRequestsChunkSize` -/
def setCtxRequestsChunkSize (ctxChunkPolicy : ContextChunkingPolicy)
    (contextsToBeChunked : List LlmRequest) : Except Failure (List LlmRequest) := do
  let contexts ← contextsToBeChunked.mapM fun req => req.setContextChunkSize 0
  let contexts ← setChunkSizesByPolicy ctxTokensCapacity chunkUnitSize maxContextLength
    ctxChunkPolicy contexts
  fitDraftTokens ctxTokensCapacity chunkUnitSize maxContextLength contexts

end Chunks

/-! ## Selection -/

/-- The variables of the loop over the active requests. -/
structure Selection where
  contextRequests : List LlmRequest := []
  generationRequests : List LlmRequest := []
  batchNumTokens : Nat := 0
  scheduledReqSize : Nat := 0
  /-- 0 as long as no generation request is scheduled. -/
  scheduledBeamWidth : Nat := 0
  contextsToBeChunked : List LlmRequest := []
  numChunkedTokens : Nat := 0
  allContextRequestsFit : Bool := true

/-- How the loop goes on after a request: without it, with it, or not at all. -/
inductive Selected where
  | skip
  | take (selection : Selection)
  | stop

section Select

variable (scheduler : MicroBatchScheduler) (maxNumTokensRuntime : Option Nat)

/-- Whether so many tokens are more than the limit. -/
def exceeds (numTokens : Nat) : Bool := maxNumTokensRuntime.any fun limit => limit < numTokens

/-- A request whose tokens are all in the batch or none. -/
def selectWhole (selection : Selection) (req : LlmRequest) (reqNumTokens : Nat) :
    Except Failure Selected :=
  if scheduler.maxContextLength.any fun maxContextLength => maxContextLength < reqNumTokens then
    .error .contextLimit
  else if exceeds maxNumTokensRuntime (selection.batchNumTokens + reqNumTokens) then .ok .stop
  else .ok (.take { selection with
    contextRequests := selection.contextRequests ++ [req]
    batchNumTokens := selection.batchNumTokens + reqNumTokens })

/-- A context that may be divided into chunks, counted with all that is left of it. -/
def selectContext (selection : Selection) (req : LlmRequest) : Except Failure Selected := do
  let req ← req.setContextChunkSize req.getContextRemainingLength
  let draftTokens := if (← req.isLastContextChunkChecked) && req.hasDraftTokens then
      req.numDraftTokens else 0
  let reqNumTokens := (← req.getContextChunkSize) + draftTokens
  let tooLong := scheduler.maxContextLength.any fun maxContextLength =>
    maxContextLength < reqNumTokens
  return .take { selection with
    contextsToBeChunked := selection.contextsToBeChunked ++ [req]
    numChunkedTokens := selection.numChunkedTokens +
      if tooLong then scheduler.maxContextLength.getD reqNumTokens else reqNumTokens
    allContextRequestsFit := selection.allContextRequestsFit && !tooLong }

/-- A request that generates; all of a batch have the same beam width. -/
def selectGeneration (selection : Selection) (req : LlmRequest) : Except Failure Selected := do
  let reqBeamWidth ← req.getBeamWidthByIter
  let reqNumTokens := reqBeamWidth + req.numDraftTokens
  if exceeds maxNumTokensRuntime (selection.batchNumTokens + reqNumTokens) then return .stop
  if selection.scheduledBeamWidth ≠ 0 ∧ selection.scheduledBeamWidth ≠ reqBeamWidth then
    return .skip
  return .take { selection with
    scheduledBeamWidth := reqBeamWidth
    generationRequests := selection.generationRequests ++ [req]
    batchNumTokens := selection.batchNumTokens + reqNumTokens }

/-- The request has reached the first of the states and not the second. -/
def inRange (req : LlmRequest) : Bool :=
  req.hasReachedState scheduler.noScheduleUntilState &&
    !req.hasReachedState scheduler.noScheduleAfterState

/-- The body of the loop over the active requests. -/
def select (inflightReqIds : List RequestId) (selection : Selection) (req : LlmRequest) :
    Except Failure Selected :=
  if !scheduler.inRange req then .ok .skip
  else if inflightReqIds.contains req.requestId then .ok .skip
  else if req.isEncoderInitState then
    scheduler.selectWhole maxNumTokensRuntime selection req req.encoderOutputLen
  else if req.isContextInitState then
    if scheduler.ctxChunkConfig.isNone then
      scheduler.selectWhole maxNumTokensRuntime selection req
        (req.getNumTokens + if req.hasDraftTokens then req.numDraftTokens else 0)
    else scheduler.selectContext selection req
  else selectGeneration maxNumTokensRuntime selection req

/-- The loop over the active requests. -/
def selectLoop (inflightReqIds : List RequestId) (maxBatchSizeRuntime : Nat) :
    List LlmRequest → Selection → Except Failure Selection
  | [], selection => .ok selection
  | req :: rest, selection => do
      match ← scheduler.select maxNumTokensRuntime inflightReqIds selection req with
      | .skip => selectLoop inflightReqIds maxBatchSizeRuntime rest selection
      | .stop => return selection
      | .take selection =>
        let selection := { selection with scheduledReqSize := selection.scheduledReqSize + 1 }
        if maxBatchSizeRuntime ≤ selection.scheduledReqSize then return selection
        else selectLoop inflightReqIds maxBatchSizeRuntime rest selection

end Select

/-! ## The batch -/

/-- `std::sort` by adapter. It leaves open the order of requests with the same one; here
they keep theirs. -/
def sortByLoraId (requests : List LlmRequest) : List LlmRequest :=
  requests.mergeSort fun lhs rhs => match lhs.loraTaskId, rhs.loraTaskId with
    | none, _ => true
    | some _, none => false
    | some lhs, some rhs => lhs ≤ rhs

/-- The partition of `sortRequests`: contexts that are not finished by this step first.
`std::partition` leaves the order of both parts open; here requests keep theirs. -/
def partitionLast : List LlmRequest → Except Failure (List LlmRequest × List LlmRequest)
  | [] => .ok ([], [])
  | req :: rest => do
      let last ← req.isLastContextChunkChecked
      let (unfinished, finished) ← partitionLast rest
      return if last then (unfinished, req :: finished) else (req :: unfinished, finished)

/-- The order of the context requests after `sortRequests`. -/
def sortContextRequests (contextRequests : List LlmRequest) (chunksPresent : Bool) :
    Except Failure (List LlmRequest) :=
  if chunksPresent then do
    let (unfinished, finished) ← partitionLast contextRequests
    return sortByLoraId unfinished ++ sortByLoraId finished
  else .ok (sortByLoraId contextRequests)

/-- What a call returns, with the contexts as it leaves them, also those of which no
token is in the batch. -/
structure Batch where
  contextRequests : List LlmRequest
  generationRequests : List LlmRequest
  contextsToBeChunked : List LlmRequest

section Schedule

variable (scheduler : MicroBatchScheduler) (inflightReqIds : List RequestId)
  (maxBatchSizeRuntime : Nat) (maxNumTokensRuntime : Option Nat)

/-- The second part of `operator()`: contexts that do not fit are divided. -/
def divideContexts (selection : Selection) : Except Failure (List LlmRequest × Bool) :=
  let allContextRequestsFit := selection.allContextRequestsFit &&
    !maxNumTokensRuntime.any fun limit : Nat =>
      decide ((limit - selection.batchNumTokens : Int) < selection.numChunkedTokens)
  if allContextRequestsFit then .ok (selection.contextsToBeChunked, true)
  else match scheduler.ctxChunkConfig with
    | none => .error .contextLimit
    | some ctxChunkConfig => do
        let contexts ← setCtxRequestsChunkSize
          (maxNumTokensRuntime.map fun limit : Nat => (limit - selection.batchNumTokens : Int))
          ctxChunkConfig.chunkUnitSize scheduler.maxContextLength ctxChunkConfig.chunkingPolicy
          selection.contextsToBeChunked
        return (contexts, false)

/-- `MicroBatchScheduler::operator()` -/
def schedule (activeRequests : List LlmRequest) : Except Failure Batch := do
  let selection ← scheduler.selectLoop maxNumTokensRuntime inflightReqIds maxBatchSizeRuntime
    activeRequests {}
  let (contexts, allContextRequestsFit) ← scheduler.divideContexts maxNumTokensRuntime selection
  let contextRequests ← sortContextRequests
    (selection.contextRequests ++ contexts.filter fun req => decide (0 < req.contextChunkSize))
    (!allContextRequestsFit)
  return {
    contextRequests := contextRequests
    generationRequests := sortByLoraId selection.generationRequests
    contextsToBeChunked := contexts }

end Schedule

end MicroBatchScheduler

end TrtLlm
