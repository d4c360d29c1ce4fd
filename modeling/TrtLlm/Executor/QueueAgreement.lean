import Mathlib.Data.List.Infix
import TrtLlm.Executor.RequestQueue

/-! # The ranks agree on the requests

All ranks have the same waiting queue, cancelled ids and shutdown flag after every fetch. What has
been handled, what a control request keeps back and what is in the request queue make up the stream,
so no request is lost, doubled or overtaken, and each is handled after a bounded number of batches.
-/

namespace TrtLlm

open ExecutorRequestQueue List

namespace RequestQueueItem

/-- The batch ends with this item, and what follows is kept back. -/
def interrupts (item : RequestQueueItem) : Bool :=
  item.isControlRequest && !item.isCanceledRequest && !item.isShutdownRequest

/-- The id is recorded as cancelled. -/
def cancels (item : RequestQueueItem) : Bool :=
  item.isCanceledRequest && !item.isShutdownRequest

end RequestQueueItem

/-- The items before a shutdown. -/
def beforeShutdown (items : List RequestQueueItem) : List RequestQueueItem :=
  items.takeWhile fun item => !item.isShutdownRequest

/-- The requests among some items. -/
def requestsOf (items : List RequestQueueItem) : List RequestQueueItem :=
  items.filter (·.isNormalRequest)

/-- The ids of the cancellations among some items. -/
def cancelledIds (items : List RequestQueueItem) : List Int :=
  (items.filter (·.cancels)).map (·.id)

/-- What is picked from the items before a shutdown comes first, each once and in order, and
what follows is from the items behind the shutdown. -/
def InOrder {β : Type} (pick : List RequestQueueItem → List β) (items : List RequestQueueItem)
    (picked : List β) : Prop :=
  ∃ later, picked = pick (beforeShutdown items) ++ later ∧
    later.Sublist (pick (items.drop (beforeShutdown items).length))

section InOrder

theorem requestsOf_append (first second : List RequestQueueItem) :
    requestsOf (first ++ second) = requestsOf first ++ requestsOf second :=
  filter_append first second

theorem cancelledIds_append (first second : List RequestQueueItem) :
    cancelledIds (first ++ second) = cancelledIds first ++ cancelledIds second := by
  simp only [cancelledIds, filter_append, map_append]

theorem beforeShutdown_append_of_any {items : List RequestQueueItem}
    (shutdown : items.any (·.isShutdownRequest)) (more : List RequestQueueItem) :
    beforeShutdown (items ++ more) = beforeShutdown items := by
  unfold beforeShutdown
  rw [takeWhile_append, if_neg]
  intro whole
  obtain ⟨item, mem, isShutdown⟩ := any_eq_true.mp shutdown
  rw [← (takeWhile_sublist _).eq_of_length whole] at mem
  simpa [isShutdown] using all_eq_true.mp all_takeWhile item mem

theorem beforeShutdown_append_of_not_any {items : List RequestQueueItem}
    (goesOn : ¬items.any (·.isShutdownRequest)) (more : List RequestQueueItem) :
    beforeShutdown (items ++ more) = items ++ beforeShutdown more := by
  refine takeWhile_append_of_pos fun item mem => ?_
  simpa using fun shutdown => goesOn (any_eq_true.mpr ⟨item, mem, shutdown⟩)

theorem beforeShutdown_of_not_any {items : List RequestQueueItem}
    (goesOn : ¬items.any (·.isShutdownRequest)) : beforeShutdown items = items := by
  simpa [beforeShutdown] using beforeShutdown_append_of_not_any goesOn []

theorem beforeShutdown_isPrefix (items : List RequestQueueItem) : beforeShutdown items <+: items :=
  takeWhile_prefix _

theorem beforeShutdown_isPrefix_append (items more : List RequestQueueItem) :
    beforeShutdown items <+: beforeShutdown (items ++ more) := by
  by_cases shutdown : items.any (·.isShutdownRequest)
  · rw [beforeShutdown_append_of_any shutdown]
  · rw [beforeShutdown_append_of_not_any shutdown, beforeShutdown_of_not_any shutdown]
    exact prefix_append _ _

variable {β : Type} {pick : List RequestQueueItem → List β} {items : List RequestQueueItem}
  {picked : List β} (additive : ∀ first second, pick (first ++ second) = pick first ++ pick second)
include additive

theorem pick_isPrefix {first second : List RequestQueueItem} (isPrefix : first <+: second) :
    pick first <+: pick second := by
  obtain ⟨rest, rfl⟩ := isPrefix
  rw [additive]
  exact prefix_append _ _

theorem InOrder.append (ordered : InOrder pick items picked) (batch : List RequestQueueItem) :
    InOrder pick (items ++ batch) (picked ++ pick (beforeShutdown batch)) := by
  obtain ⟨later, rfl, isLater⟩ := ordered
  by_cases shutdown : items.any (·.isShutdownRequest)
  · refine ⟨later ++ pick (beforeShutdown batch), ?_, ?_⟩
    · rw [beforeShutdown_append_of_any shutdown, append_assoc]
    · rw [beforeShutdown_append_of_any shutdown,
        drop_append_of_le_length (beforeShutdown_isPrefix items).length_le, additive]
      exact isLater.append (pick_isPrefix additive (beforeShutdown_isPrefix batch)).sublist
  · have none : pick [] = [] := self_eq_append_right.mp (additive [] [])
    rw [beforeShutdown_of_not_any shutdown, drop_length, none, sublist_nil] at isLater
    refine ⟨[], ?_, nil_sublist _⟩
    rw [isLater, beforeShutdown_of_not_any shutdown, beforeShutdown_append_of_not_any shutdown,
      additive, append_nil, append_nil]

/-- What is picked from the start of the stream does not change when it goes on. -/
theorem InOrder.isPrefix (ordered : InOrder pick items picked) {start : List RequestQueueItem}
    (isStart : start <+: items) : pick (beforeShutdown start) <+: picked := by
  obtain ⟨rest, rfl⟩ := isStart
  obtain ⟨later, rfl, _⟩ := ordered
  exact (pick_isPrefix additive (beforeShutdown_isPrefix_append start rest)).trans
    (prefix_append _ _)

end InOrder

namespace ExecutorRequestQueue

variable {cfg : QueueConfig} {q : ExecutorRequestQueue} {batch : List RequestQueueItem}

/-! ## One batch on one rank -/

/-- What a rank does with the special items: `handled` is done with, and `kept` stands behind a
control request. -/
structure Handles (isRankZero : Bool) (q : ExecutorRequestQueue)
    (result : ExecutorRequestQueue × List RequestQueueItem)
    (handled kept : List RequestQueueItem) : Prop where
  accepted : result.2 = requestsOf (beforeShutdown handled)
  recorded : result.1.recorded = q.recorded ++ cancelledIds (beforeShutdown handled)
  isShutdown : result.1.isShutdown = (q.isShutdown || handled.any (·.isShutdownRequest))
  accumulated : result.1.requestAccumulated =
    if isRankZero then q.requestAccumulated ++ kept else q.requestAccumulated
  requestQueue : result.1.requestQueue = q.requestQueue
  appended : result.1.appended = q.appended
  interrupted : kept ≠ [] → handled.any (·.interrupts)

section

attribute [local simp] requestsOf cancelledIds beforeShutdown RequestQueueItem.isNormalRequest
  RequestQueueItem.cancels

theorem handleSpecialQueueItems_handles (isRankZero : Bool) (q : ExecutorRequestQueue)
    (batch : List RequestQueueItem) : ∃ handled kept, batch = handled ++ kept ∧
      Handles isRankZero q (handleSpecialQueueItems isRankZero q batch) handled kept := by
  induction batch generalizing q with
  | nil =>
    refine ⟨[], [], rfl, ?_⟩
    constructor <;> simp [handleSpecialQueueItems]
  | cons item rest ih =>
    unfold handleSpecialQueueItems
    split
    · rename_i shutdown
      refine ⟨item :: rest, [], by simp, ?_⟩
      constructor <;> simp [shutdown]
    rename_i notShutdown
    split
    · rename_i cancelled
      obtain ⟨handled, kept, rfl, known⟩ := ih { q with
        canceledReqIds := q.canceledReqIds ++ [item.id], recorded := q.recorded ++ [item.id] }
      refine ⟨item :: handled, kept, rfl, ?_⟩
      refine ⟨?_, ?_, ?_, known.accumulated, known.requestQueue, known.appended, fun stands => ?_⟩
      · simp [known.accepted, notShutdown, cancelled]
      · simp [known.recorded, notShutdown, cancelled]
      · simp [known.isShutdown, notShutdown]
      · simp [known.interrupted stands]
    rename_i notCancelled
    split
    · rename_i control
      refine ⟨[item], rest, rfl, ?_⟩
      constructor <;> simp [RequestQueueItem.interrupts, notShutdown, notCancelled, control]
    · rename_i notControl
      obtain ⟨handled, kept, rfl, known⟩ := ih q
      refine ⟨item :: handled, kept, rfl, ?_⟩
      refine ⟨?_, ?_, ?_, known.accumulated, known.requestQueue, known.appended, fun stands => ?_⟩
      · simp [known.accepted, notShutdown, notCancelled, notControl]
      · simp [known.recorded, notShutdown, notCancelled]
      · simp [known.isShutdown, notShutdown]
      · simp [known.interrupted stands]

end

variable {next : ExecutorRequestQueue} {active : Active} {items : List RequestQueueItem}
  {arrivals : Arrivals}

/-- A batch on rank 0. -/
theorem processNewRequests_eq_ok {pyRequestObjects : List (Int × SchedulingParams)}
    (processed : processNewRequests cfg true q batch pyRequestObjects active = .ok (items, next)) :
    ∃ handled kept, batch = handled ++ kept ∧
      Handles true q ({ next with appended := q.appended }, requestsOf (beforeShutdown handled))
        handled kept ∧
      next.appended = q.appended ++ requestsOf (beforeShutdown handled) := by
  obtain ⟨handled, kept, parts, known⟩ := handleSpecialQueueItems_handles true q batch
  obtain ⟨⟨taken, waitingQueue⟩, _, returned⟩ := Except.bind_eq_ok.mp processed
  obtain ⟨rfl, rfl⟩ := returned
  refine ⟨handled, kept, parts, ?_, ?_⟩
  · exact { known with accepted := rfl, appended := rfl }
  · simp only [if_true, known.accepted, known.appended]

/-! ### The same batch on another rank -/

/-- The queue of a rank that has done what rank 0 has done. -/
def asFollower (q : ExecutorRequestQueue) : ExecutorRequestQueue :=
  { q with
    requestQueue := []
    requestAccumulated := []
    controlRequests := q.controlRequests.map received }

theorem asFollower_popControlRequest (q : ExecutorRequestQueue) :
    q.asFollower.popControlRequest = q.popControlRequest.asFollower := by
  simp [asFollower, popControlRequest]

theorem asFollower_handleCanceledRequests (ids : List Int) (q : ExecutorRequestQueue) :
    q.asFollower.handleCanceledRequests ids = (q.handleCanceledRequests ids).asFollower := by
  by_cases none : q.canceledReqIds.isEmpty
  · simp only [handleCanceledRequests, asFollower, none, if_true]
  · simp only [handleCanceledRequests, asFollower, none, updateWaitingQueue, Bool.false_eq_true,
      if_false]
    rfl

/-- Handling the cancelled requests takes items from the waiting queue only. -/
theorem handleCanceledRequests_eq (ids : List Int) (q : ExecutorRequestQueue) :
    ∃ waitingQueue canceledReqIds, q.handleCanceledRequests ids =
      { q with waitingQueue := waitingQueue, canceledReqIds := canceledReqIds } := by
  unfold handleCanceledRequests
  split
  · exact ⟨_, _, rfl⟩
  · exact ⟨_, _, rfl⟩

theorem handleSpecialQueueItems_received (q : ExecutorRequestQueue)
    (batch : List RequestQueueItem) :
    handleSpecialQueueItems false q.asFollower (batch.map received) =
      ((handleSpecialQueueItems true q batch).1.asFollower,
        (handleSpecialQueueItems true q batch).2.map received) := by
  induction batch generalizing q with
  | nil => rfl
  | cons item rest ih =>
    have kind : (received item).isShutdownRequest = item.isShutdownRequest ∧
        (received item).isCanceledRequest = item.isCanceledRequest ∧
        (received item).isControlRequest = item.isControlRequest := ⟨rfl, rfl, rfl⟩
    rw [map_cons]
    unfold handleSpecialQueueItems
    rw [kind.1, kind.2.1, kind.2.2]
    split
    · rfl
    split
    · exact ih { q with
        canceledReqIds := q.canceledReqIds ++ [item.id], recorded := q.recorded ++ [item.id] }
    split
    · simp [asFollower]
    · simp only [ih q, map_cons]

/-- The dictionary of the broadcast has the parameters of each request. -/
theorem lookup_collectPyObjects {item : RequestQueueItem} (member : item ∈ requestsOf batch)
    (distinct : ((requestsOf batch).map (·.id)).Nodup) :
    (collectPyObjects batch).lookup item.id = item.schedulingParams := by
  have same : batch.reverse.filter (·.isNormalRequest) = (requestsOf batch).reverse :=
    filter_reverse
  unfold collectPyObjects
  rw [same]
  replace member := mem_reverse.mpr member
  replace distinct := nodup_reverse.mpr distinct
  rw [← map_reverse] at distinct
  generalize (requestsOf batch).reverse = requests at member distinct
  induction requests with
  | nil => cases member
  | cons head rest ih =>
    obtain ⟨notAgain, distinct⟩ := nodup_cons.mp distinct
    rcases mem_cons.mp member with rfl | member
    · cases params : item.schedulingParams with
      | none =>
        rw [filterMap_cons_none (by rw [params]; rfl), lookup_eq_none_iff]
        intro entry isEntry
        obtain ⟨other, isOther, made⟩ := mem_filterMap.mp isEntry
        obtain ⟨_, _, rfl⟩ := Option.map_eq_some_iff.mp made
        simpa using fun same => notAgain (mem_map.mpr ⟨other, isOther, same.symm⟩)
      | some value =>
        rw [filterMap_cons_some (by rw [params]; rfl)]
        simp
    · have ne : item.id ≠ head.id := by
        intro same
        exact notAgain (mem_map.mpr ⟨item, member, same⟩)
      rw [← ih member distinct]
      cases params : head.schedulingParams with
      | none => rw [filterMap_cons_none (by rw [params]; rfl)]
      | some value =>
        rw [filterMap_cons_some (by rw [params]; rfl)]
        rw [lookup_cons, beq_false_of_ne ne]

/-- A rank that receives a request and attaches what is broadcast with it has the request of
rank 0. -/
theorem attachPyObjects_received (nodup : ((requestsOf batch).map (·.id)).Nodup)
    {accepted : List RequestQueueItem} (isRequest : accepted ⊆ requestsOf batch) :
    attachPyObjects (collectPyObjects batch) (accepted.map received) = accepted := by
  unfold attachPyObjects
  rw [map_map]
  refine (map_congr_left fun item mem => ?_).trans (map_id _)
  have found := lookup_collectPyObjects (isRequest mem) nodup
  obtain ⟨id, req, childReqIds, isCanceledRequest⟩ := item
  simp only [Function.comp_apply, found, received]
  cases req with
  | none => rfl
  | some req =>
    obtain ⟨inputTokenIds, pySchedulingParams⟩ := req
    cases pySchedulingParams with
    | none => rfl
    | some params => rfl

theorem processNewRequests_received (nodup : ((requestsOf batch).map (·.id)).Nodup)
    (active : Active)
    (processed : processNewRequests cfg true q batch (collectPyObjects batch) active =
      .ok (items, next)) :
    processNewRequests cfg false q.asFollower (batch.map received) (collectPyObjects batch)
      active = .ok (items, next.asFollower) := by
  obtain ⟨handled, kept, parts, known⟩ := handleSpecialQueueItems_handles true q batch
  have isRequest : (handleSpecialQueueItems true q batch).2 ⊆ requestsOf batch := by
    rw [known.accepted, parts]
    refine filter_subset _ fun item mem => ?_
    exact mem_append_left _ (takeWhile_subset _ mem)
  unfold processNewRequests at processed ⊢
  rw [handleSpecialQueueItems_received]
  simp only [if_true, Bool.false_eq_true, if_false, attachPyObjects_received nodup isRequest]
    at processed ⊢
  obtain ⟨⟨taken, waitingQueue⟩, got, returned⟩ := Except.bind_eq_ok.mp processed
  have got' : getFromWaitingQueue cfg
      ((handleSpecialQueueItems true q batch).1.asFollower.waitingQueue ++
        (handleSpecialQueueItems true q batch).2) _ _ = .ok (taken, waitingQueue) := got
  rw [got']
  cases returned
  rfl

/-! ### What rank 0 takes -/

theorem length_le_itemsAtOnce (timeout : Option Nat) (requestQueue : List RequestQueueItem)
    (arrivals : Arrivals) : requestQueue.length ≤ itemsAtOnce timeout requestQueue arrivals := by
  unfold itemsAtOnce
  dsimp only
  split
  · rename_i waits
    simp only [Bool.and_eq_true, List.isEmpty_iff] at waits
    simp [waits.1]
  · rw [List.length_append]
    omega

/-- Rank 0 takes all that was there when it looked. -/
theorem takeNewRequests_eq_ok (taken : takeNewRequests cfg q active arrivals = .ok (batch, next)) :
    ∃ count, batch = q.requestAccumulated ++ q.requestQueue ++ arrivals.items.take count ∧
      next = { q with
        requestQueue := arrivals.items.drop count
        requestAccumulated := [] } := by
  obtain ⟨⟨items, requestQueue⟩, got, returned⟩ := Except.bind_eq_ok.mp taken
  obtain ⟨rfl, rfl⟩ := returned
  unfold getFromRequestQueue at got
  dsimp only at got
  split at got
  · cases got
  have all := length_le_itemsAtOnce (fetchTimeout cfg active.totalNumActiveRequests q)
    q.requestQueue arrivals
  generalize itemsAtOnce _ _ _ = atOnce at got all
  generalize itemsInTime cfg atOnce arrivals = inTime at got
  obtain ⟨rfl, rfl⟩ := got
  refine ⟨atOnce + inTime - q.requestQueue.length, ?_, ?_⟩
  · rw [take_append, take_of_length_le (by omega), append_assoc]
  · rw [drop_append, drop_of_length_le (by omega), nil_append]

/-! ### Failures -/

/-- The loop fails only at a target rank, and there are none without attention DP. -/
def OutOfRange (counts : Option (List Nat)) (failure : FetchFailure) : Prop :=
  failure = .indexError ∧ counts.isSome

end ExecutorRequestQueue

namespace RequestQueues

variable {cfg : QueueConfig} {s t : RequestQueues} {q : ExecutorRequestQueue} {active : Active}
  {arrivals : Arrivals}

/-! ## All ranks -/

/-- The other ranks have done what rank 0 has done. -/
def Alike (s : RequestQueues) : Prop :=
  ∀ q ∈ s.followers, q = s.leader.asFollower

/-- What a batch does: `handled` is done with on all ranks, `kept` is kept back on rank 0, and
`later` has come in after the batch was closed. -/
structure Broadcasts (s t : RequestQueues) (arrived handled kept later : List RequestQueueItem) :
    Prop where
  batch : s.pending ++ arrived = handled ++ kept ++ later
  pending : t.pending = kept ++ later
  inBatch : s.pending.length ≤ (handled ++ kept).length
  enqueued : t.enqueued = s.enqueued ++ arrived
  broadcasts : t.broadcasts = s.broadcasts + 1
  appended : t.leader.appended = s.leader.appended ++ requestsOf (beforeShutdown handled)
  recorded : t.leader.recorded = s.leader.recorded ++ cancelledIds (beforeShutdown handled)
  isShutdown : t.leader.isShutdown = (s.leader.isShutdown || handled.any (·.isShutdownRequest))
  interrupted : kept ≠ [] → handled.any (·.interrupts)

section Fetch

variable {active : Active} {arrivals : Arrivals} {taken leader : ExecutorRequestQueue}
  {batch items : List RequestQueueItem} (alike : s.Alike)
  (fresh : s.Fresh (.fetchAndProcessRequests active arrivals))
  (took : takeNewRequests config s.leader active arrivals = .ok (batch, taken))
include fresh took

theorem requests_nodup : ((requestsOf batch).map (·.id)).Nodup := by
  obtain ⟨count, rfl, _⟩ := takeNewRequests_eq_ok took
  refine List.Nodup.sublist ?_ fresh
  exact (((take_sublist count _).append_left _).filter _).map _

include alike

/-- The other ranks do what rank 0 does. -/
theorem followers_process
    (processed : processNewRequests cfg true taken batch (collectPyObjects batch) active =
      .ok (items, leader)) :
    (s.followers.mapM fun q => do
      let (_, q) ← processNewRequests cfg false q (batch.map received)
        (collectPyObjects batch) active
      pure q) = .ok (s.followers.map fun _ => leader.asFollower) := by
  refine mapM_eq_ok fun q mem => ?_
  have same : q = taken.asFollower := by
    obtain ⟨count, _, rfl⟩ := takeNewRequests_eq_ok took
    exact alike q mem
  rw [same, processNewRequests_received (requests_nodup fresh took) active processed]
  rfl

end Fetch

/-- A fetch does nothing while a control request is pending, and otherwise hands over a batch. -/
theorem fetchAndProcessRequests_eq_ok (alike : s.Alike)
    (fresh : s.Fresh (.fetchAndProcessRequests active arrivals))
    (fetched : s.fetchAndProcessRequests cfg active arrivals = .ok t) :
    t.Alike ∧
      (t = { s with
          leader := { s.leader with requestQueue := s.leader.requestQueue ++ arrivals.items }
          enqueued := s.enqueued ++ arrivals.items } ∨
        ∃ handled kept later, Broadcasts s t arrivals.items handled kept later) := by
  unfold fetchAndProcessRequests at fetched
  split at fetched
  · split at fetched
    · cases fetched
      exact ⟨alike, .inl rfl⟩
    · cases fetched
  split at fetched
  · obtain ⟨⟨batch, taken⟩, took, fetched⟩ := Except.bind_eq_ok.mp fetched
    obtain ⟨⟨items, leader⟩, processed, fetched⟩ := Except.bind_eq_ok.mp fetched
    obtain ⟨followers, followed, fetched⟩ := Except.bind_eq_ok.mp fetched
    cases (followers_process alike fresh took processed).symm.trans followed
    cases fetched
    obtain ⟨handled, kept, rfl, known, appended⟩ := processNewRequests_eq_ok processed
    obtain ⟨count, parts, rfl⟩ := takeNewRequests_eq_ok took
    refine ⟨fun q mem => ?_, .inr ⟨handled, kept, arrivals.items.drop count, {
      batch := ?_
      pending := ?_
      inBatch := ?_
      enqueued := rfl
      broadcasts := rfl
      appended := appended
      recorded := known.recorded
      isShutdown := known.isShutdown
      interrupted := known.interrupted }⟩⟩
    · obtain ⟨_, _, rfl⟩ := mem_map.mp mem
      rfl
    · rw [parts, append_assoc, take_append_drop]
      rfl
    · exact congr (congrArg _ known.accumulated) known.requestQueue
    · rw [parts]
      exact (sublist_append_left _ _).length_le
  · cases fetched

/-- The stream is handled in its order. -/
structure Ordered (s : RequestQueues) (handled : List RequestQueueItem) : Prop where
  enqueued : s.enqueued = handled ++ s.pending
  isShutdown : s.leader.isShutdown = handled.any (·.isShutdownRequest)
  appended : InOrder requestsOf handled s.leader.appended
  recorded : InOrder cancelledIds handled s.leader.recorded

theorem Ordered.initial (followers : Nat) : (initial followers).Ordered [] where
  enqueued := rfl
  isShutdown := rfl
  appended := ⟨[], rfl, nil_sublist _⟩
  recorded := ⟨[], rfl, nil_sublist _⟩

variable {arrived handled : List RequestQueueItem} {start : RequestQueues}
  {now kept later : List RequestQueueItem} {action : Action}

theorem Ordered.broadcasts (ordered : s.Ordered handled)
    (batch : Broadcasts s t arrived now kept later) : t.Ordered (handled ++ now) where
  enqueued := by
    rw [batch.enqueued, ordered.enqueued, append_assoc, batch.batch, batch.pending]
    simp only [append_assoc]
  isShutdown := by rw [batch.isShutdown, ordered.isShutdown, any_append]
  appended := by
    rw [batch.appended]
    exact ordered.appended.append requestsOf_append now
  recorded := by
    rw [batch.recorded]
    exact ordered.recorded.append cancelledIds_append now

/-- Items come in, and nothing else changes in what is handled. -/
theorem Ordered.arrive (ordered : s.Ordered handled) (pending : t.pending = s.pending ++ arrived)
    (enqueued : t.enqueued = s.enqueued ++ arrived)
    (isShutdown : t.leader.isShutdown = s.leader.isShutdown)
    (appended : t.leader.appended = s.leader.appended)
    (recorded : t.leader.recorded = s.leader.recorded) : t.Ordered handled where
  enqueued := by rw [enqueued, ordered.enqueued, pending, append_assoc]
  isShutdown := isShutdown ▸ ordered.isShutdown
  appended := appended ▸ ordered.appended
  recorded := recorded ▸ ordered.recorded

/-- What a step does to the stream: items come in, and it may be a batch. -/
theorem step_cases (alike : s.Alike) (fresh : s.Fresh action)
    (stepped : s.step cfg action = .ok t) :
    t.Alike ∧ ((∃ arrived, t.pending = s.pending ++ arrived ∧ t.enqueued = s.enqueued ++ arrived ∧
        t.leader.isShutdown = s.leader.isShutdown ∧ t.leader.appended = s.leader.appended ∧
        t.leader.recorded = s.leader.recorded ∧ t.broadcasts = s.broadcasts) ∨
      ∃ arrived handled kept later, Broadcasts s t arrived handled kept later) := by
  cases action with
  | enqueue item =>
    cases stepped
    exact ⟨alike, .inl ⟨[item], (append_assoc ..).symm, rfl, rfl, rfl, rfl, rfl⟩⟩
  | fetchAndProcessRequests active arrivals =>
    obtain ⟨alike, rfl | ⟨handled, kept, later, batch⟩⟩ :=
      fetchAndProcessRequests_eq_ok alike fresh stepped
    · exact ⟨alike, .inl ⟨arrivals.items, (append_assoc ..).symm, rfl, rfl, rfl, rfl, rfl⟩⟩
    · exact ⟨alike, .inr ⟨_, handled, kept, later, batch⟩⟩
  | handleControlRequest =>
    cases stepped
    refine ⟨fun q mem => ?_, .inl ⟨[], ?_⟩⟩
    · obtain ⟨before, isFollower, rfl⟩ := mem_map.mp mem
      rw [alike before isFollower, asFollower_popControlRequest]
      rfl
    · simp [mapRanks, pending, popControlRequest]
  | handleCanceledRequests stillPendingCanceledIds =>
    cases stepped
    refine ⟨fun q mem => ?_, .inl ⟨[], ?_⟩⟩
    · obtain ⟨before, isFollower, rfl⟩ := mem_map.mp mem
      rw [alike before isFollower, asFollower_handleCanceledRequests]
      rfl
    · obtain ⟨_, _, handled⟩ := handleCanceledRequests_eq stillPendingCanceledIds s.leader
      simp [mapRanks, pending, handled]

/-- All the items that a state has seen are handled, or each of the batches since then went
on to one of the control requests among them. -/
def Advances (s t : RequestQueues) (handled : List RequestQueueItem) : Prop :=
  s.enqueued <+: t.enqueued ∧
    (s.enqueued.length ≤ handled.length ∨
      (s.enqueued.drop handled.length).countP (·.interrupts) + t.broadcasts ≤
        s.pending.countP (·.interrupts) + s.broadcasts)

theorem Advances.refl (ordered : s.Ordered handled) : Advances s s handled := by
  refine ⟨prefix_rfl, .inr (Nat.le_of_eq ?_)⟩
  rw [ordered.enqueued, drop_left]

theorem Advances.broadcasts (ordered : s.Ordered handled) (advances : Advances start s handled)
    (batch : Broadcasts s t arrived now kept later) :
    Advances start t (handled ++ now) := by
  obtain ⟨isPrefix, done | bounded⟩ := advances
  · refine ⟨?_, .inl ?_⟩
    · rw [batch.enqueued]
      exact isPrefix.trans (prefix_append _ _)
    · rw [length_append]
      omega
  refine ⟨?_, ?_⟩
  · rw [batch.enqueued]
    exact isPrefix.trans (prefix_append _ _)
  -- what is left of the stream that the start has seen is the start of the batch
  have left : start.enqueued.drop handled.length <+: now ++ kept := by
    have isPending : start.enqueued.drop handled.length <+: s.pending := by
      have dropped := List.IsPrefix.drop isPrefix handled.length
      rwa [ordered.enqueued, drop_left] at dropped
    refine prefix_of_prefix_length_le (isPending.trans (prefix_append _ arrived)) ?_
      (Nat.le_trans isPending.length_le batch.inBatch)
    rw [batch.batch]
    exact prefix_append _ _
  rw [length_append, ← drop_drop, batch.broadcasts]
  by_cases lt : (start.enqueued.drop handled.length).length ≤ now.length
  · left
    rw [length_drop] at lt
    omega
  · right
    have behind : kept ≠ [] := by
      rintro rfl
      rw [append_nil] at left
      exact lt left.length_le
    have one : 0 < now.countP (·.interrupts) := by
      obtain ⟨item, mem, interrupts⟩ := any_eq_true.mp (batch.interrupted behind)
      exact countP_pos_iff.mpr ⟨item, mem, interrupts⟩
    have split : start.enqueued.drop handled.length =
        now ++ (start.enqueued.drop handled.length).drop now.length := by
      have whole : now <+: start.enqueued.drop handled.length :=
        prefix_of_prefix_length_le (prefix_append _ _) left (by omega)
      obtain ⟨rest, is⟩ := whole
      rw [← is, drop_left]
    rw [split, countP_append] at bounded
    omega

/-- What holds along a run. -/
structure Inv (start s : RequestQueues) (handled : List RequestQueueItem) : Prop where
  alike : s.Alike
  ordered : s.Ordered handled
  advances : Advances start s handled

theorem Inv.step (inv : Inv start s handled) (fresh : s.Fresh action)
    (stepped : s.step cfg action = .ok t) : ∃ handled, Inv start t handled := by
  obtain ⟨alike, ⟨arrived, pending, enqueued, isShutdown, appended, recorded, broadcasts⟩ |
    ⟨arrived, now, kept, later, batch⟩⟩ := step_cases inv.alike fresh stepped
  · refine ⟨handled, alike,
      inv.ordered.arrive pending enqueued isShutdown appended recorded, ?_, ?_⟩
    · rw [enqueued]
      exact inv.advances.1.trans (prefix_append _ _)
    · rw [broadcasts]
      exact inv.advances.2
  · exact ⟨handled ++ now, alike, inv.ordered.broadcasts batch,
      inv.advances.broadcasts inv.ordered batch⟩

/-- A run that goes on from a state with the invariant. -/
theorem exists_inv_from (alike : start.Alike) (ordered : start.Ordered handled)
    (reached : Run.Reaches (step cfg) Fresh start t) : ∃ handled, Inv start t handled := by
  apply reached.invariant
  · exact ⟨handled, alike, ordered, .refl ordered⟩
  · intro before action after known fresh stepped
    obtain ⟨handled, inv⟩ := known
    exact inv.step fresh stepped

theorem exists_inv {size : Nat} (reached : Run.Reaches (step cfg) Fresh (initial size) s) :
    ∃ handled, s.Alike ∧ s.Ordered handled := by
  obtain ⟨handled, inv⟩ := exists_inv_from (fun q mem => (mem_replicate.mp mem).2)
    (Ordered.initial size) reached
  exact ⟨handled, inv.alike, inv.ordered⟩

/-- The ranks agree in a state. -/
structure Agreement (config : QueueConfig) (s : RequestQueues) : Prop where
  same : ∀ q ∈ s.followers, q.waitingQueue = s.leader.waitingQueue ∧
    q.canceledReqIds = s.leader.canceledReqIds ∧ q.isShutdown = s.leader.isShutdown
  /-- The stream up to some item is handled on every rank: each request and each cancellation
  before a shutdown once and in order. -/
  ordered : ∃ handled, handled <+: s.enqueued ∧ ∀ q ∈ s.leader :: s.followers,
    InOrder requestsOf handled q.appended ∧ InOrder cancelledIds handled q.recorded
  /-- A fetch goes on unless it waits for the first item or meets a target rank out of range. -/
  fetches : ∀ active arrivals, s.Fresh (.fetchAndProcessRequests active arrivals) →
    ∀ failure, s.fetchAndProcessRequests config active arrivals = .error failure →
    failure = .waits ∧ s.pending = [] ∧ arrivals.items = [] ∨
      OutOfRange active.allRanksNumActiveRequests failure

end RequestQueues

end TrtLlm
