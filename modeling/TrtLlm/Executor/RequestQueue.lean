import Mathlib.Data.List.Nodup
import TrtLlm.Lib.Run

/-! # The request queues of the ranks

Requests, cancellations, control requests and the shutdown enter a queue on rank 0, which broadcasts
a batch in each fetch. Every rank works through the batch by itself up to a control request; rank 0
broadcasts what stands behind it again once it has been cleared.
-/

namespace TrtLlm

structure SchedulingParams where
  attentionDpRank : Option Int := none
  attentionDpRelax : Option Bool := none
  deriving DecidableEq, Repr

/-- `ExecutorRequest`, with the attribute that Python adds to it. -/
structure ExecutorRequest where
  inputTokenIds : List Nat
  pySchedulingParams : Option SchedulingParams := none
  deriving DecidableEq, Repr

structure RequestQueueItem where
  id : Int
  request : Option ExecutorRequest := none
  childReqIds : List Int := []
  isCanceledRequest : Bool := false
  deriving DecidableEq, Repr

namespace RequestQueueItem

def shutdownRequestId : Int := -1

def controlRequestId : Int := -2

def isShutdownRequest (item : RequestQueueItem) : Bool := item.id == shutdownRequestId

def isControlRequest (item : RequestQueueItem) : Bool := item.id == controlRequestId

def isNormalRequest (item : RequestQueueItem) : Bool :=
  !(item.isShutdownRequest || item.isCanceledRequest || item.isControlRequest)

/-- `getattr(req_item.request, 'py_scheduling_params', None)` -/
def schedulingParams (item : RequestQueueItem) : Option SchedulingParams :=
  item.request.bind (·.pySchedulingParams)

end RequestQueueItem

structure QueueConfig where
  maxBatchSize : Nat
  maxNumActiveRequests : Nat
  batchWaitTimeoutMs : Nat := 0
  disableMpi : Bool := false

inductive FetchFailure where
  /-- Rank 0 waits for an item. -/
  | waits
  /-- A target rank out of range. -/
  | indexError
  /-- One rank broadcasts or receives and another one does not. -/
  | unmatchedBroadcast
  /-- Values that Python cannot compare. -/
  | typeError
  /-- A rank that is not in the dictionary. -/
  | keyError
  /-- No rank at all. -/
  | zeroDivision
  /-- `heappop` on an empty heap. -/
  | emptyHeap
  deriving DecidableEq, Repr

/-- The queue of one rank. Only rank 0 has items in `requestQueue` and
`requestAccumulated`. -/
structure ExecutorRequestQueue where
  requestQueue : List RequestQueueItem := []
  waitingQueue : List RequestQueueItem := []
  canceledReqIds : List Int := []
  isShutdown : Bool := false
  controlRequests : List RequestQueueItem := []
  requestAccumulated : List RequestQueueItem := []
  /-- History: all items that were appended to the waiting queue. -/
  appended : List RequestQueueItem := []
  /-- History: all ids that were recorded as cancelled. -/
  recorded : List Int := []
  deriving DecidableEq

namespace ExecutorRequestQueue

variable (config : QueueConfig)

/-! ## Taking items from the request queue -/

/-- The items that are put into the queue while rank 0 looks at it, how many of them come
before the queue is found empty, and how many before the batch is closed. -/
structure Arrivals where
  items : List RequestQueueItem := []
  drained : Nat := 0
  inTime : Nat := 0

/-- How long to wait for the first item, `none` for no limit. -/
def fetchTimeout (totalNumActiveRequests : Nat) (q : ExecutorRequestQueue) : Option Nat :=
  if q.requestAccumulated.isEmpty && (totalNumActiveRequests == 0 && q.waitingQueue.isEmpty) then
    if config.disableMpi then some 1200 else none
  else some 0

/-- How many items the first loop of `_get_from_request_queue` takes: one if the queue is
empty and may be waited for, and otherwise what can be had without waiting. -/
def itemsAtOnce (timeout : Option Nat) (requestQueue : List RequestQueueItem)
    (arrivals : Arrivals) : Nat :=
  let available := (requestQueue ++ arrivals.items).length
  if requestQueue.isEmpty && timeout != some 0 then min 1 available
  else min (requestQueue.length + arrivals.drained) available

/-- How many items its second loop takes until the deadline. -/
def itemsInTime (atOnce : Nat) (arrivals : Arrivals) : Nat :=
  if config.batchWaitTimeoutMs == 0 then 0
  else min (config.maxBatchSize - atOnce) arrivals.inTime

/-- `_get_from_request_queue`: the items taken and those that stay. -/
def getFromRequestQueue (timeout : Option Nat) (requestQueue : List RequestQueueItem)
    (arrivals : Arrivals) : Except FetchFailure (List RequestQueueItem × List RequestQueueItem) :=
  let atOnce := itemsAtOnce timeout requestQueue arrivals
  let count := atOnce + itemsInTime config atOnce arrivals
  if timeout.isNone && atOnce == 0 then .error .waits
  else .ok ((requestQueue ++ arrivals.items).take count,
    (requestQueue ++ arrivals.items).drop count)

/-! ## Broadcasting -/

/-- `_collect_py_objects_from_requests` for the scheduling parameters, the last entry of an
id first. -/
def collectPyObjects (newRequests : List RequestQueueItem) : List (Int × SchedulingParams) :=
  (newRequests.reverse.filter (·.isNormalRequest)).filterMap fun item =>
    item.schedulingParams.map fun params => (item.id, params)

/-- An item as it is received: a request without the attribute that Python added. -/
def received (item : RequestQueueItem) : RequestQueueItem :=
  { item with request := item.request.map fun request =>
    { request with pySchedulingParams := none } }

/-- `_attach_py_objects_to_requests` -/
def attachPyObjects (pyRequestObjects : List (Int × SchedulingParams))
    (requests : List RequestQueueItem) : List RequestQueueItem :=
  requests.map fun item =>
    match item.request, pyRequestObjects.lookup item.id with
    | some request, some params =>
      { item with request := some { request with pySchedulingParams := some params } }
    | _, _ => item

/-! ## Special items -/

/-- `_handle_special_queue_items`: the queue of the rank, with the accepted requests. -/
def handleSpecialQueueItems (isRankZero : Bool) (q : ExecutorRequestQueue) :
    List RequestQueueItem → ExecutorRequestQueue × List RequestQueueItem
  | [] => (q, [])
  | item :: rest =>
    if item.isShutdownRequest then ({ q with isShutdown := true }, [])
    else if item.isCanceledRequest then
      handleSpecialQueueItems isRankZero
        { q with
          canceledReqIds := q.canceledReqIds ++ [item.id]
          recorded := q.recorded ++ [item.id] } rest
    else if item.isControlRequest then
      ({ q with
          controlRequests := q.controlRequests ++ [item]
          requestAccumulated :=
            if isRankZero then q.requestAccumulated ++ rest else q.requestAccumulated }, [])
    else
      let handled := handleSpecialQueueItems isRankZero q rest
      (handled.1, item :: handled.2)

/-! ## The waiting queue -/

/-- The position in a Python list, counted from the end if negative. -/
def pyPosition (length : Nat) (index : Int) : Option Nat :=
  let position := if index < 0 then index + length else index
  if 0 ≤ position ∧ position < length then some position.toNat else none

/-- `_can_process_attention_dp_request`, with the counts after the call. -/
def canProcessAttentionDpRequest (item : RequestQueueItem) (allRanksNumActiveRequests : List Nat) :
    Except FetchFailure (Bool × List Nat) :=
  match item.schedulingParams with
  | none => .ok (true, allRanksNumActiveRequests)
  | some params =>
    match params.attentionDpRank with
    | none => .ok (true, allRanksNumActiveRequests)
    | some targetDpRank =>
      if params.attentionDpRelax = some true then .ok (true, allRanksNumActiveRequests)
      else
        match pyPosition allRanksNumActiveRequests.length targetDpRank with
        | none => .error .indexError
        | some position =>
          if allRanksNumActiveRequests.getD position 0 < config.maxNumActiveRequests then
            .ok (true, allRanksNumActiveRequests.modify position (· + 1))
          else .ok (false, allRanksNumActiveRequests)

/-- The test of the loop below; without attention DP there are no counts. -/
def canProcess (item : RequestQueueItem) :
    Option (List Nat) → Except FetchFailure (Bool × Option (List Nat))
  | none => .ok (true, none)
  | some counts => do
      let (can, counts) ← canProcessAttentionDpRequest config item counts
      pure (can, some counts)

/-- The loop of `_get_from_waiting_queue`: the items taken, those that are put back, and the
rest of the queue. -/
def waitingQueueLoop (maxReqCount : Int) (reqCount : Nat) (counts : Option (List Nat)) :
    List RequestQueueItem →
      Except FetchFailure (List RequestQueueItem × List RequestQueueItem × List RequestQueueItem)
  | [] => .ok ([], [], [])
  | item :: rest =>
    if ¬(reqCount : Int) < maxReqCount ∨
        maxReqCount < ((reqCount + 1 + item.childReqIds.length : Nat) : Int) then
      .ok ([], [], item :: rest)
    else do
      let (can, counts) ← canProcess config item counts
      if can then
        let (items, pendingRequests, rest) ←
          waitingQueueLoop maxReqCount (reqCount + 1 + item.childReqIds.length) counts rest
        pure (item :: items, pendingRequests, rest)
      else
        let (items, pendingRequests, rest) ← waitingQueueLoop maxReqCount reqCount counts rest
        pure (items, item :: pendingRequests, rest)

/-- `_get_from_waiting_queue`: the items taken, and the waiting queue after the call. -/
def getFromWaitingQueue (waitingQueue : List RequestQueueItem) (maxReqCount : Int)
    (allRanksNumActiveRequests : Option (List Nat)) :
    Except FetchFailure (List RequestQueueItem × List RequestQueueItem) :=
  if maxReqCount ≤ 0 then .ok ([], waitingQueue)
  else do
    let (items, pendingRequests, rest) ←
      waitingQueueLoop config maxReqCount 0 allRanksNumActiveRequests waitingQueue
    pure (items, pendingRequests ++ rest)

/-- `update_waiting_queue` -/
def updateWaitingQueue (q : ExecutorRequestQueue) : ExecutorRequestQueue :=
  { q with waitingQueue := q.waitingQueue.filter fun item => item.id ∉ q.canceledReqIds }

/-- What `_handle_canceled_requests` does to the queue. -/
def handleCanceledRequests (stillPendingCanceledIds : List Int) (q : ExecutorRequestQueue) :
    ExecutorRequestQueue :=
  if q.canceledReqIds.isEmpty then q
  else { q.updateWaitingQueue with canceledReqIds := stillPendingCanceledIds }

/-- What `_handle_control_request` does to the queue. -/
def popControlRequest (q : ExecutorRequestQueue) : ExecutorRequestQueue :=
  { q with controlRequests := q.controlRequests.drop 1 }

/-! ## Fetching -/

/-- The active requests at a fetch, with their number on each rank for attention DP. -/
structure Active where
  totalNumActiveRequests : Nat
  totalMaxNumActiveRequests : Nat
  allRanksNumActiveRequests : Option (List Nat) := none

/-- What rank 0 does before it broadcasts: the new items, and its queue. -/
def takeNewRequests (q : ExecutorRequestQueue) (active : Active) (arrivals : Arrivals) :
    Except FetchFailure (List RequestQueueItem × ExecutorRequestQueue) := do
  let (items, requestQueue) ← getFromRequestQueue config
    (fetchTimeout config active.totalNumActiveRequests q) q.requestQueue arrivals
  pure (q.requestAccumulated ++ items,
    { q with requestQueue := requestQueue, requestAccumulated := [] })

/-- What a rank does with the new items: those that become active, and its queue. -/
def processNewRequests (isRankZero : Bool) (q : ExecutorRequestQueue)
    (newRequests : List RequestQueueItem) (pyRequestObjects : List (Int × SchedulingParams))
    (active : Active) : Except FetchFailure (List RequestQueueItem × ExecutorRequestQueue) := do
  let (q, accepted) := handleSpecialQueueItems isRankZero q newRequests
  let accepted := if isRankZero then accepted else attachPyObjects pyRequestObjects accepted
  let (items, waitingQueue) ← getFromWaitingQueue config (q.waitingQueue ++ accepted)
    ((active.totalMaxNumActiveRequests : Int) - active.totalNumActiveRequests)
    active.allRanksNumActiveRequests
  pure (items, { q with waitingQueue := waitingQueue, appended := q.appended ++ accepted })

end ExecutorRequestQueue

/-! ## All ranks -/

/-- Rank 0 and the other ranks. -/
structure RequestQueues where
  leader : ExecutorRequestQueue := {}
  followers : List ExecutorRequestQueue
  /-- History: all items that were put into the request queue of rank 0. -/
  enqueued : List RequestQueueItem := []
  /-- History: how many batches have been broadcast. -/
  broadcasts : Nat := 0

namespace RequestQueues

open ExecutorRequestQueue

inductive Action where
  | enqueue (item : RequestQueueItem)
  /-- All ranks fetch, with the same active requests. -/
  | fetchAndProcessRequests (active : Active) (arrivals : Arrivals)
  /-- All ranks clear their control request in the same iteration. -/
  | handleControlRequest
  /-- All ranks handle the cancelled requests, with the same ones left over. -/
  | handleCanceledRequests (stillPendingCanceledIds : List Int)

def mapRanks (s : RequestQueues) (f : ExecutorRequestQueue → ExecutorRequestQueue) :
    RequestQueues :=
  { s with leader := f s.leader, followers := s.followers.map f }

/-- `_fetch_and_process_requests` on all ranks. -/
def fetchAndProcessRequests (config : QueueConfig) (s : RequestQueues) (active : Active)
    (arrivals : Arrivals) : Except FetchFailure RequestQueues :=
  if !s.leader.controlRequests.isEmpty then
    -- rank 0 does not broadcast, so nobody may wait for it
    if s.followers.all (fun q => !q.controlRequests.isEmpty) then
      .ok { s with
        leader := { s.leader with requestQueue := s.leader.requestQueue ++ arrivals.items }
        enqueued := s.enqueued ++ arrivals.items }
    else .error .unmatchedBroadcast
  else if s.followers.all (fun q => q.controlRequests.isEmpty) then do
    let (newRequests, leader) ← takeNewRequests config s.leader active arrivals
    let pyRequestObjects := collectPyObjects newRequests
    let (_, leader) ← processNewRequests config true leader newRequests pyRequestObjects active
    let followers ← s.followers.mapM fun q => do
      let (_, q) ← processNewRequests config false q (newRequests.map received) pyRequestObjects
        active
      pure q
    pure { leader := leader, followers := followers, enqueued := s.enqueued ++ arrivals.items,
           broadcasts := s.broadcasts + 1 }
  else .error .unmatchedBroadcast

def step (config : QueueConfig) (s : RequestQueues) : Action → Except FetchFailure RequestQueues
  | .enqueue item => .ok { s with
      leader := { s.leader with requestQueue := s.leader.requestQueue ++ [item] }
      enqueued := s.enqueued ++ [item] }
  | .fetchAndProcessRequests active arrivals => fetchAndProcessRequests config s active arrivals
  | .handleControlRequest => .ok (s.mapRanks popControlRequest)
  | .handleCanceledRequests stillPendingCanceledIds =>
    .ok (s.mapRanks (·.handleCanceledRequests stillPendingCanceledIds))

/-- The items that rank 0 has not handed to the ranks. -/
def pending (s : RequestQueues) : List RequestQueueItem :=
  s.leader.requestAccumulated ++ s.leader.requestQueue

/-- The ids of the requests among some items. -/
def requestIds (items : List RequestQueueItem) : List Int :=
  (items.filter (·.isNormalRequest)).map (·.id)

/-- The ids come from a counter: no two requests that are still pending on rank 0 share one. -/
def Fresh (s : RequestQueues) : Action → Prop
  | .enqueue item => (requestIds (s.pending ++ [item])).Nodup
  | .fetchAndProcessRequests _ arrivals => (requestIds (s.pending ++ arrivals.items)).Nodup
  | .handleControlRequest => True
  | .handleCanceledRequests _ => True

instance (s : RequestQueues) (action : Action) : Decidable (s.Fresh action) :=
  match action with
  | .enqueue item => inferInstanceAs (Decidable (requestIds (s.pending ++ [item])).Nodup)
  | .fetchAndProcessRequests _ arrivals =>
    inferInstanceAs (Decidable (requestIds (s.pending ++ arrivals.items)).Nodup)
  | .handleControlRequest | .handleCanceledRequests _ => isTrue trivial

/-- The ranks at the start. -/
def initial (followers : Nat) : RequestQueues :=
  { followers := List.replicate followers {} }

end RequestQueues

end TrtLlm
