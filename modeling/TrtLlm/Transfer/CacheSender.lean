import Mathlib.Logic.Function.Basic
import TrtLlm.KvCache.LlmRequest
import TrtLlm.Lib.Run
import TrtLlm.Transfer.CacheTransBuffer

/-! # Sending side of a transfer

`CacheSender::Impl` answers the generation ranks that ask for the cache of a request. A response
thread receives their request infos and decides with the last one whether the request is sent; other
threads submit and cancel requests, and send threads send the data unless the connection manager is
an agent. A step is one access to the shared state. Termination is not modelled.
-/

namespace TrtLlm

/-- What is fixed for a sender. -/
structure SenderConfig where
  /-- Whether the connection manager is an `AgentConnectionManager`. -/
  isAgent : Bool := false
  /-- `getCounterpartsCount`: the generation ranks that ask for a request. -/
  counterparts : RequestId → Nat
  counterparts_pos : ∀ requestId, 0 < counterparts requestId
  /-- Whether this rank has data to send for a request. -/
  needSendCache : RequestId → Bool := fun _ => true
  onlyUseDynamicBuffer : Bool := false

/-- Where `sendAndRemoveResponse` is: before `format` has a buffer, in its sends,
before it frees the buffer, and before `release`. -/
inductive SendStage where
  | start
  | sending (bufferId : Option Nat)
  | freeing (bufferId : Option Nat)
  | releasing
  deriving DecidableEq, Repr

/-- Where the response thread is. -/
inductive ResponsePoint where
  /-- The head of the loop, where it waits for `mAnyReady`. -/
  | idle
  | checkReady
  | receiving
  | received (requestId : RequestId)
  | looking (requestId : RequestId)
  | lookingAgain (requestId : RequestId)
  | spinning (requestId : RequestId)
  /-- The start of `sendResponse`. -/
  | responding (requestId : RequestId)
  | deciding (requestId : RequestId)
  | signalling (requestId : RequestId) (isReady : Bool) (next : Nat)
  /-- The agent sends the data on the response thread. -/
  | delivering (requestId : RequestId)
  | removing (requestId : RequestId)
  | refusing (requestId : RequestId)
  | refused (requestId : RequestId)
  | removed (current : Option RequestId)
  | clearing (current : Option RequestId)
  | finishing (current : Option RequestId)
  /-- An exception has ended the thread. -/
  | dead
  deriving DecidableEq, Repr

/-- What happened to one request on this rank; no function of the sender reads it. -/
structure RequestTrace where
  submitted : Bool := false
  /-- The counterparts whose request infos arrived. -/
  arrived : List Nat := []
  /-- How many request infos were counted by `sendResponse`. -/
  handled : Nat := 0
  /-- What `sendResponse` decided. -/
  verdict : Option Bool := none
  /-- The ready signals that were sent. -/
  answers : List (Nat × Bool) := []
  /-- Whether `cancelRequest` has returned true. -/
  cancelAccepted : Bool := false
  /-- How often the data was sent. -/
  sends : Nat := 0
  /-- Whether `sendAndRemoveResponse` has returned without an exception. -/
  finished : Bool := false
  assigned : List Nat := []
  freed : List Nat := []
  deriving DecidableEq, Repr

structure CacheSender where
  readyResponses : List RequestId := []
  cancelledRequests : List RequestId := []
  currentRequest : Option RequestId := none
  remainSendCount : RequestId → Option Nat := fun _ => none
  anyReady : Bool := false
  /-- `mRequestToSession`: the counterparts whose connections are set. -/
  sessions : RequestId → Option (List Nat) := fun _ => none
  /-- `mAsyncSendResource.mSendQueue` -/
  sendQueue : List RequestId := []
  point : ResponsePoint := .idle
  /-- The calls of `sendAndRemoveResponse` that are running. -/
  tasks : RequestId → Option SendStage := fun _ => none
  /-- The calls of `sendAsync` between their two critical sections. -/
  announcing : List RequestId := []
  /-- Request infos that the connection manager has and the thread has not read. -/
  inbox : List (RequestId × Nat) := []
  sendResource : ConcurrenceResource
  traces : RequestId → RequestTrace := fun _ => {}

/-- The steps of all threads, and the arrival of a request info. -/
inductive SenderAction where
  | sendAsync (requestId : RequestId)
  | announce (requestId : RequestId)
  | cancelRequest (requestId : RequestId)
  | arrive (requestId : RequestId) (peer : Nat)
  | receive (index : Nat)
  | respond
  | respondThrows
  | startTask
  | task (requestId : RequestId)
  | taskThrows (requestId : RequestId)
  deriving DecidableEq, Repr

namespace CacheSender

def initial (sendBufferCount : Nat) : CacheSender :=
  { sendResource := ConcurrenceResource.initial sendBufferCount }

def modifyTrace (s : CacheSender) (requestId : RequestId) (f : RequestTrace → RequestTrace) :
    CacheSender :=
  { s with traces := Function.update s.traces requestId (f (s.traces requestId)) }

/-- The first critical section of `sendAsync`. -/
def sendAsync (s : CacheSender) (requestId : RequestId) : CacheSender :=
  { s with
    readyResponses := s.readyResponses.insert requestId
    announcing := s.announcing ++ [requestId] }.modifyTrace requestId
      fun trace => { trace with submitted := true }

/-- The second critical section of `sendAsync`. -/
def announce (s : CacheSender) (requestId : RequestId) : CacheSender :=
  { s with announcing := s.announcing.erase requestId, anyReady := true }

/-- If the request is not the current request and already in the ready queue, it
is marked; otherwise `cancelRequest` returns false. -/
def cancelRequest (s : CacheSender) (requestId : RequestId) : CacheSender :=
  if requestId ∈ s.readyResponses ∧ s.currentRequest ≠ some requestId then
    { s with cancelledRequests := s.cancelledRequests.insert requestId }.modifyTrace requestId
      fun trace => { trace with cancelAccepted := true }
  else s

def arrive (s : CacheSender) (requestId : RequestId) (peer : Nat) : CacheSender :=
  { s with inbox := s.inbox ++ [(requestId, peer)] }.modifyTrace requestId
    fun trace => { trace with arrived := trace.arrived ++ [peer] }

/-- `recvRequestInfo`: the connection manager hands out one of the infos it has. -/
def recvRequestInfo (s : CacheSender) (index : Nat) : Except TransferFailure CacheSender :=
  match s.point, s.inbox[index]? with
  | .receiving, some (requestId, peer) =>
    .ok { s with
      inbox := s.inbox.eraseIdx index
      sessions := Function.update s.sessions requestId
        (some ((s.sessions requestId).getD [] ++ [peer]))
      point := .received requestId }
  | _, _ => .error .waiting

/-- The count of `sendResponse`: only the last counterpart leads to a decision. -/
def countDown (s : CacheSender) (requestId : RequestId) : CacheSender :=
  match s.remainSendCount requestId with
  | some 1 => { s with
      remainSendCount := Function.update s.remainSendCount requestId none
      point := .deciding requestId }.modifyTrace requestId
        fun trace => { trace with handled := trace.handled + 1 }
  | some (count + 2) => { s with
      remainSendCount := Function.update s.remainSendCount requestId (some (count + 1))
      point := .finishing (some requestId) }.modifyTrace requestId
        fun trace => { trace with handled := trace.handled + 1 }
  -- `TLLM_CHECK(count >= 0)`
  | _ => { s with point := .dead }

/-- Once all counterparts have the ready signal, the data is sent on this thread
or queued for a send thread, or the request is dropped. -/
def afterSignals (s : CacheSender) (config : SenderConfig) (requestId : RequestId)
    (isReady : Bool) : CacheSender :=
  if isReady then
    if config.isAgent then
      { s with
        tasks := Function.update s.tasks requestId (some .start)
        point := .delivering requestId }
    else { s with sendQueue := s.sendQueue ++ [requestId], point := .removing requestId }
  else { s with point := .refusing requestId }

/-- The next step of the response thread, if it does not receive a request info. -/
def respond (s : CacheSender) (config : SenderConfig) : Except TransferFailure CacheSender :=
  match s.point with
  | .idle => if s.anyReady then .ok { s with point := .checkReady } else .error .waiting
  | .checkReady =>
    if s.readyResponses = [] then
      match s.currentRequest with
      | some requestId => .ok { s with point := .looking requestId }
      -- `mCurrentRequest.value()` throws.
      | none => .ok { s with point := .dead }
    else .ok { s with point := .receiving }
  | .receiving => .error .waiting
  | .received requestId => .ok { s with
      currentRequest := some requestId
      remainSendCount := Function.update s.remainSendCount requestId
        (some ((s.remainSendCount requestId).getD (config.counterparts requestId)))
      point := .looking requestId }
  | .looking requestId =>
    if requestId ∈ s.readyResponses then .ok { s with point := .responding requestId }
    else .ok { s with point := .lookingAgain requestId }
  | .lookingAgain requestId =>
    if requestId ∈ s.readyResponses then .ok { s with point := .responding requestId }
    else .ok { s with point := .spinning requestId }
  | .spinning requestId =>
    if s.anyReady ∧ requestId ∈ s.readyResponses then
      .ok { s with point := .responding requestId }
    else .error .waiting
  | .responding requestId => .ok (s.countDown requestId)
  | .deciding requestId =>
    let isReady := decide (requestId ∉ s.cancelledRequests)
    .ok ({ s with point := .signalling requestId isReady 0 }.modifyTrace requestId
      fun trace => { trace with verdict := some isReady })
  | .signalling requestId isReady next =>
    if next < config.counterparts requestId then
      .ok ({ s with point := .signalling requestId isReady (next + 1) }.modifyTrace requestId
        fun trace => { trace with answers := trace.answers ++ [(next, isReady)] })
    else .ok (s.afterSignals config requestId isReady)
  | .delivering requestId =>
    if (s.tasks requestId).isNone then .ok { s with point := .removing requestId }
    else .error .waiting
  | .removing requestId => .ok { s with
      readyResponses := s.readyResponses.erase requestId
      point := .removed (some requestId) }
  | .refusing requestId => .ok { s with
      readyResponses := s.readyResponses.erase requestId
      cancelledRequests := s.cancelledRequests.erase requestId
      remainSendCount := Function.update s.remainSendCount requestId none
      point := .refused requestId }
  | .refused _ => .ok { s with currentRequest := none, point := .removed none }
  | .removed current =>
    if s.readyResponses = [] then .ok { s with point := .clearing current }
    else .ok { s with point := .finishing current }
  | .clearing current => .ok { s with anyReady := false, point := .finishing current }
  | .finishing _ => .ok { s with currentRequest := none, point := .idle }
  | .dead => .error .waiting

/-- A network call of the response thread throws, which ends the thread. -/
def respondThrows (s : CacheSender) : Except TransferFailure CacheSender :=
  match s.point with
  | .receiving => .ok { s with point := .dead }
  | .signalling _ _ _ => .ok { s with point := .dead }
  | _ => .error .waiting

/-- A send thread takes the first response of the queue. -/
def startTask (s : CacheSender) : Except TransferFailure CacheSender :=
  match s.sendQueue with
  | requestId :: rest => .ok { s with
      sendQueue := rest
      tasks := Function.update s.tasks requestId (some .start) }
  | [] => .error .waiting

/-- `assignBufferIndexForSend` in `format`. -/
def assignForSend (s : CacheSender) (config : SenderConfig) (requestId : RequestId) :
    Except TransferFailure CacheSender := do
  if config.onlyUseDynamicBuffer then
    return { s with tasks := Function.update s.tasks requestId (some (.sending none)) }
  let (bufferId, sendResource) ← s.sendResource.assignBufferIndex
  return { s with
    sendResource
    tasks := Function.update s.tasks requestId (some (.sending (some bufferId))) }.modifyTrace
      requestId fun trace => { trace with assigned := trace.assigned ++ [bufferId] }

/-- `freeBufferIndexForSend` at the end of `format`. -/
def freeForSend (s : CacheSender) (requestId : RequestId) : Option Nat → CacheSender
  | some bufferId => { s with
      sendResource := s.sendResource.freeBufferIndex bufferId
      tasks := Function.update s.tasks requestId (some .releasing) }.modifyTrace requestId
        fun trace => { trace with freed := trace.freed ++ [bufferId] }
  | none => { s with tasks := Function.update s.tasks requestId (some .releasing) }

/-- The next step of `sendAndRemoveResponse` for a request: `sendSync` with its
`format`, then `release`. -/
def task (s : CacheSender) (config : SenderConfig) (requestId : RequestId) :
    Except TransferFailure CacheSender :=
  match s.tasks requestId with
  | none => .error .waiting
  | some .start =>
    if (s.sessions requestId).isNone then .error .noSession
    else if config.needSendCache requestId then s.assignForSend config requestId
    else .ok { s with tasks := Function.update s.tasks requestId (some .releasing) }
  | some (.sending bufferId) =>
    .ok ({ s with
      tasks := Function.update s.tasks requestId (some (.freeing bufferId)) }.modifyTrace
        requestId fun trace => { trace with sends := trace.sends + 1 })
  | some (.freeing bufferId) => .ok (s.freeForSend requestId bufferId)
  | some .releasing =>
    if (s.sessions requestId).isNone then .error .noSession
    else .ok ({ s with
      sessions := Function.update s.sessions requestId none
      tasks := Function.update s.tasks requestId none }.modifyTrace requestId
        fun trace => { trace with finished := true })

/-- A send of `format` throws: `sendAndRemoveResponse` stores the exception in the
promise and returns. -/
def taskThrows (s : CacheSender) (requestId : RequestId) : Except TransferFailure CacheSender :=
  match s.tasks requestId with
  | some (.sending _) => .ok { s with tasks := Function.update s.tasks requestId none }
  | _ => .error .waiting

def step (config : SenderConfig) (s : CacheSender) :
    SenderAction → Except TransferFailure CacheSender
  | .sendAsync requestId => .ok (s.sendAsync requestId)
  | .announce requestId =>
    if requestId ∈ s.announcing then .ok (s.announce requestId) else .error .waiting
  | .cancelRequest requestId => .ok (s.cancelRequest requestId)
  | .arrive requestId peer => .ok (s.arrive requestId peer)
  | .receive index => s.recvRequestInfo index
  | .respond => s.respond config
  | .respondThrows => s.respondThrows
  | .startTask => s.startTask
  | .task requestId => s.task config requestId
  | .taskThrows requestId => s.taskThrows requestId

/-- A request is submitted once, and each of its counterparts asks for it once. -/
def Proper (config : SenderConfig) (s : CacheSender) : SenderAction → Prop
  | .sendAsync requestId => (s.traces requestId).submitted = false
  | .arrive requestId peer =>
    peer < config.counterparts requestId ∧ peer ∉ (s.traces requestId).arrived
  | _ => True

/-- No network call throws. -/
def Succeeds : SenderAction → Prop
  | .respondThrows => False
  | .taskThrows _ => False
  | _ => True

instance (config : SenderConfig) (s : CacheSender) (action : SenderAction) :
    Decidable (Proper config s action) :=
  match action with
  | .sendAsync _ => inferInstanceAs (Decidable (_ = _))
  | .arrive _ _ => inferInstanceAs (Decidable (_ ∧ _))
  | .announce _ | .cancelRequest _ | .receive _ | .respond | .respondThrows | .startTask | .task _
  | .taskThrows _ => isTrue trivial

instance (action : SenderAction) : Decidable (Succeeds action) :=
  match action with
  | .respondThrows | .taskThrows _ => isFalse id
  | .sendAsync _ | .arrive _ _ | .announce _ | .cancelRequest _ | .receive _ | .respond
  | .startTask | .task _ => isTrue trivial

end CacheSender

end TrtLlm
