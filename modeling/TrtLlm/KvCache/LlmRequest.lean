import Mathlib.Algebra.Ring.Nat
import Mathlib.Data.List.Basic

/-! # Requests and retention configuration

The part of `LlmRequest` that the KV cache manager and the capacity scheduler
read or write, and `KvCacheRetentionConfig`. Draft models are not modelled, so
the target copies of the prompt positions are the only ones.
-/

namespace TrtLlm

abbrev RequestId := Nat

/-- Why a modelled call did not return: one constructor for each `TLLM_THROW`,
`TLLM_CHECK` or undefined access that the modelled functions can hit. -/
inductive Failure where
  /-- "No free block found. This shouldn't happen!" -/
  | noFreeBlock
  /-- "Can't allocate new blocks. No free blocks left." -/
  | noFreeBlocksLeft
  /-- "This block must be a leaf block" -/
  | notLeaf
  /-- "Can't remove link from block that is not allocated" -/
  | notAllocated
  /-- "Per block retention priorities must have the same size as context blocks" -/
  | retentionSize
  /-- "Invalid state: prepopulatedPromptLen (%d) >= promptLen (%d) for request %lu" -/
  | prepopulatedTooLong
  /-- "currentPrepopulatedPromptLen must be updated non-increasingly" -/
  | prepopulatedIncreased
  /-- A `TLLM_CHECK` on the context chunk size or on the phase it may be set in. -/
  | contextChunk
  /-- "usableSize=%d > %ld=vec.size()" -/
  | usableSize
  /-- "Sequence already exists" checks of the `emplace` calls. -/
  | sequenceExists
  /-- A lookup of a sequence that is not there. -/
  | noSequence
  /-- "A sliding window is needed to detach blocks" and the beam width checks. -/
  | unsupported
  /-- "Block id is out of range" -/
  | blockOutOfRange
  /-- A pop or a front access of an empty vector. -/
  | emptyAccess
  /-- Recursion through a cyclic child map does not return. -/
  | diverges
  /-- "The number of context tokens (%d) exceeds the limit value (%d)", or encoder tokens. -/
  | contextLimit
  /-- A `TLLM_CHECK` on the number of draft tokens to discard. -/
  | discardDraftTokens
  deriving DecidableEq, Repr

/-- `KvCacheRetentionConfig` restricts priorities to the range 0 to 100. -/
abbrev RetentionPriority := Fin 101

/-- `kDefaultRetentionPriority` -/
def kDefaultRetentionPriority : RetentionPriority := 35

structure TokenRangeRetentionConfig where
  tokenStart : Nat
  tokenEnd : Option Nat := none
  priority : RetentionPriority := kDefaultRetentionPriority
  durationMs : Option Nat := none
  deriving DecidableEq, Repr

/-- The token ranges are sorted by start and do not overlap once constructed. -/
structure KvCacheRetentionConfig where
  tokenRangeRetentionConfigs : List TokenRangeRetentionConfig := []
  decodeRetentionPriority : RetentionPriority := kDefaultRetentionPriority
  decodeDurationMs : Option Nat := none
  deriving DecidableEq, Repr

structure RetentionPriorityAndDuration where
  retentionPriority : Option RetentionPriority
  durationMs : Option Nat
  deriving DecidableEq, Repr

namespace KvCacheRetentionConfig

/-- Blocks that start before the first range: the first of the three loops. -/
def leadingBlocks (blockSize seqLen firstStart : Nat) : Nat → Nat → Nat
  | 0, tokenLoc => tokenLoc
  | fuel + 1, tokenLoc =>
    if tokenLoc < firstStart ∧ tokenLoc < seqLen then
      leadingBlocks blockSize seqLen firstStart fuel (tokenLoc + blockSize)
    else tokenLoc

/-- The loop over the ranges, continued by the loop that fills up with empty
retentions. One unit of fuel is spent on a block or on moving to the next range. -/
def rangeBlocks (blockSize seqLen : Nat) :
    Nat → Nat → List TokenRangeRetentionConfig → List RetentionPriorityAndDuration
  | 0, _, _ => []
  | fuel + 1, tokenLoc, ranges =>
    if tokenLoc < seqLen then
      match ranges with
      | [] => ⟨none, none⟩ :: rangeBlocks blockSize seqLen fuel (tokenLoc + blockSize) []
      | entry :: rest =>
        if entry.tokenEnd.any (fun tokenEnd => tokenEnd ≤ tokenLoc) then
          rangeBlocks blockSize seqLen fuel tokenLoc rest
        else
          (if tokenLoc < entry.tokenStart then ⟨none, none⟩
            else ⟨some entry.priority, entry.durationMs⟩) ::
            rangeBlocks blockSize seqLen fuel (tokenLoc + blockSize) (entry :: rest)
    else []

/-- `getPerBlockRetentionPriorityDuration`: one entry per block of `blockSize`
tokens, taken at the block's first token. -/
def getPerBlockRetentionPriorityDuration (config : KvCacheRetentionConfig)
    (blockSize seqLen : Nat) : List RetentionPriorityAndDuration :=
  let ranges := config.tokenRangeRetentionConfigs
  let start := match ranges with
    | [] => 0
    | first :: _ => leadingBlocks blockSize seqLen first.tokenStart seqLen 0
  List.replicate (start / blockSize) ⟨none, none⟩ ++
    rangeBlocks blockSize seqLen (seqLen + ranges.length) start ranges

end KvCacheRetentionConfig

/-- `UniqueToken`: a token id with the extra id of prompt tuning tables. -/
structure UniqueToken where
  tokenId : Int32
  tokenExtraId : UInt64 := 0
  deriving DecidableEq, Repr

/-- `LlmRequestState` -/
inductive LlmRequestState where
  | unknown
  | encoderInit
  | disaggGenerationInit
  | disaggGenerationTransInProgress
  | contextInit
  | disaggContextInitAndTrans
  | disaggGenerationTransComplete
  | generationInProgress
  | generationToComplete
  | generationComplete
  | disaggContextTransInProgress
  | disaggContextComplete
  | disaggTransError
  deriving DecidableEq, Repr

namespace LlmRequestState

/-- The enumerator's value: states are compared chronologically through it. -/
def value : LlmRequestState → Int
  | unknown => 0
  | encoderInit => 1
  | disaggGenerationInit => 8
  | disaggGenerationTransInProgress => 9
  | contextInit => 10
  | disaggContextInitAndTrans => 11
  | disaggGenerationTransComplete => 12
  | generationInProgress => 13
  | generationToComplete => 14
  | generationComplete => 20
  | disaggContextTransInProgress => 21
  | disaggContextComplete => 22
  | disaggTransError => -1

end LlmRequestState

/-- A multimodal item: its 256-bit hash as eight words, and the token span it fills. -/
structure MultimodalInput where
  hashes : List (Vector UInt32 8)
  positions : List Nat
  lengths : List Nat
  deriving DecidableEq, Repr

/-- The fields of `LlmRequest` that the KV cache code reads or writes. -/
structure LlmRequest where
  requestId : RequestId
  state : LlmRequestState := .contextInit
  /-- `mUniqueTokens.at(0)`: prompt and generated tokens. -/
  uniqueTokens : List UniqueToken
  promptLen : Nat
  maxNewTokens : Nat := 0
  /-- `getNumDraftTokens()` -/
  numDraftTokens : Nat := 0
  /-- `mSamplingConfig.beamWidth` -/
  beamWidth : Nat := 1
  /-- `mSamplingConfig.beamWidthArray`, of which the first row is read. -/
  beamWidthArray : Option (List Nat) := none
  decodingIter : Nat := 0
  /-- `getEncoderOutputLen()`, read for cross attention only. -/
  encoderOutputLen : Nat := 0
  contextCurrentPosition : Nat := 0
  prepopulatedPromptLen : Nat := 0
  contextChunkSize : Nat := 0
  /-- Whether `getInputTokensExtraIds()` has a value. -/
  usesExtraIds : Bool := false
  loraTaskId : Option UInt64 := none
  cacheSaltID : Option UInt64 := none
  multimodal : Option MultimodalInput := none
  kvCacheRetentionConfig : Option KvCacheRetentionConfig := none
  isDummyRequest : Bool := false
  deriving DecidableEq, Repr

namespace LlmRequest

variable (request : LlmRequest)

def isContextInitState : Bool :=
  request.state == .contextInit || request.state == .disaggContextInitAndTrans

def isGenerationInProgressState : Bool :=
  request.state == .generationInProgress || request.state == .generationToComplete ||
    request.state == .disaggGenerationTransComplete

def isDisaggGenerationInitState : Bool := request.state == .disaggGenerationInit

def isDisaggGenerationTransmissionComplete : Bool :=
  request.state == .disaggGenerationTransComplete

/-- `mPromptLen - getContextCurrentPosition()`; the position never passes the prompt. -/
def getContextRemainingLength : Nat := request.promptLen - request.contextCurrentPosition

/-- The phase check of `getContextChunkSize` and `setContextChunkSize`. -/
def inChunkPhase : Bool :=
  request.isContextInitState || request.isDisaggGenerationInitState ||
    request.isDisaggGenerationTransmissionComplete

def setContextChunkSize (size : Int) : Except Failure LlmRequest :=
  if request.inChunkPhase ∧ 0 ≤ size then
    .ok { request with
      contextChunkSize := min size.toNat request.getContextRemainingLength }
  else .error .contextChunk

def isLastContextChunk : Bool :=
  request.isDisaggGenerationInitState || request.isDisaggGenerationTransmissionComplete ||
    request.contextCurrentPosition + request.contextChunkSize == request.promptLen

/-- `setPrepopulatedPromptLen`: a reused prefix advances the context position and
the chunk is shortened to end at a block boundary. -/
def setPrepopulatedPromptLen (prepopulatedPromptLen kvTokensPerBlock : Nat) :
    Except Failure LlmRequest := do
  if request.promptLen ≤ prepopulatedPromptLen then throw .prepopulatedTooLong
  let request := { request with prepopulatedPromptLen := prepopulatedPromptLen }
  if prepopulatedPromptLen = 0 then return request
  if !request.inChunkPhase then throw .contextChunk
  let chunkSize : Int :=
    if prepopulatedPromptLen + request.contextChunkSize < request.promptLen then
      ((prepopulatedPromptLen + request.contextChunkSize) / kvTokensPerBlock * kvTokensPerBlock
        : Nat) - (prepopulatedPromptLen : Int)
    else request.contextChunkSize
  if request.contextChunkSize < chunkSize then throw .contextChunk
  let request ←
    { request with contextCurrentPosition := prepopulatedPromptLen }.setContextChunkSize chunkSize
  if !request.isLastContextChunk &&
      (request.contextCurrentPosition + request.contextChunkSize) % kvTokensPerBlock != 0 then
    throw .contextChunk
  return request

/-- `getMaterializedUniqueTokenCountForReuse`: while the prompt is being
processed only the tokens up to the context position have been computed. -/
def getMaterializedUniqueTokenCountForReuse : Nat :=
  if 0 < request.getContextRemainingLength then
    min request.uniqueTokens.length request.contextCurrentPosition
  else request.uniqueTokens.length

/-- `getUsableUniqueTokenCountForReuse`: the last token is never in the cache. -/
def getUsableUniqueTokenCountForReuse : Nat :=
  request.getMaterializedUniqueTokenCountForReuse - 1

end LlmRequest

end TrtLlm
