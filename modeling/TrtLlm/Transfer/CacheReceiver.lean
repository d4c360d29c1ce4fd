import Mathlib.Logic.Function.Basic
import TrtLlm.KvCache.LlmRequest
import TrtLlm.Lib.Run
import TrtLlm.Transfer.CacheTransBuffer

/-! # Receiving side of a transfer

`CacheReceiver::Impl` runs `requestSync` for the requests of a queue: it sends the request info to
every counterpart, waits for their ready signals, and receives the data if all of them are ready.
The index for the indexer cache is not modelled.
-/

namespace TrtLlm

/-- What is fixed for a receiver. -/
structure ReceiverConfig where
  /-- Whether the connection manager is an `AgentConnectionManager`. -/
  isAgent : Bool := false
  /-- `getCounterparts`: the number of context ranks that are asked for a request. -/
  counterparts : RequestId → Nat
  onlyUseDynamicBuffer : Bool := false

/-- Where `requestSync` is. -/
inductive ReceiveStage where
  | start
  /-- The loop of `sendRequestInfo` over the counterparts. -/
  | informing (bufferId : Option Nat) (next : Nat)
  /-- The loop of `receiveReadySignal` over the counterparts. -/
  | awaiting (bufferId : Option Nat) (next : Nat) (isReadyFinal : Bool)
  /-- The start of `unformat`. -/
  | unformatting (bufferId : Option Nat)
  | receiving (bufferId : Option Nat)
  | freeing (bufferId : Option Nat)
  deriving DecidableEq, Repr

/-- How `requestSync` ended. -/
inductive ReceiveOutcome where
  /-- A counterpart was not ready: the request is in the error state. -/
  | refused
  | received
  | failed
  deriving DecidableEq, Repr

/-- What happened to one request; no modelled function reads it. -/
structure ReceiveTrace where
  submitted : Bool := false
  outcome : Option ReceiveOutcome := none
  assigned : List Nat := []
  freed : List Nat := []
  deriving DecidableEq, Repr

structure CacheReceiver where
  requestsQueue : List RequestId := []
  /-- The calls of `requestSync` that are running. -/
  tasks : RequestId → Option ReceiveStage := fun _ => none
  recvResource : ConcurrenceResource
  traces : RequestId → ReceiveTrace := fun _ => {}

inductive ReceiverAction where
  | receiveAsync (requestId : RequestId)
  | cancelRequest (requestId : RequestId)
  | startTask
  /-- The next step of `requestSync`, with the ready signal it reads if it reads one. -/
  | task (requestId : RequestId) (isReady : Bool)
  | taskThrows (requestId : RequestId)
  deriving DecidableEq, Repr

namespace CacheReceiver

def initial (recvBufferCount : Nat) : CacheReceiver :=
  { recvResource := ConcurrenceResource.initial recvBufferCount }

def modifyTrace (s : CacheReceiver) (requestId : RequestId) (f : ReceiveTrace → ReceiveTrace) :
    CacheReceiver :=
  { s with traces := Function.update s.traces requestId (f (s.traces requestId)) }

def goto (s : CacheReceiver) (requestId : RequestId) (stage : ReceiveStage) : CacheReceiver :=
  { s with tasks := Function.update s.tasks requestId (some stage) }

def finish (s : CacheReceiver) (requestId : RequestId) (outcome : ReceiveOutcome) : CacheReceiver :=
  { s with tasks := Function.update s.tasks requestId none }.modifyTrace requestId
    fun trace => { trace with outcome := some outcome }

def receiveAsync (s : CacheReceiver) (requestId : RequestId) : CacheReceiver :=
  { s with requestsQueue := s.requestsQueue ++ [requestId] }.modifyTrace requestId
    fun trace => { trace with submitted := true }

/-- `cancelRequest` only takes the request out of the queue. -/
def cancelRequest (s : CacheReceiver) (requestId : RequestId) : CacheReceiver :=
  { s with requestsQueue := s.requestsQueue.erase requestId }

def startTask (s : CacheReceiver) : Except TransferFailure CacheReceiver :=
  match s.requestsQueue with
  | requestId :: rest => .ok ({ s with requestsQueue := rest }.goto requestId .start)
  | [] => .error .waiting

/-- `assignBufferIndexForRecv`, and the stage that follows it. -/
def assignForRecv (s : CacheReceiver) (config : ReceiverConfig) (requestId : RequestId)
    (next : Option Nat → ReceiveStage) : Except TransferFailure CacheReceiver := do
  if config.onlyUseDynamicBuffer then return s.goto requestId (next none)
  let (bufferId, recvResource) ← s.recvResource.assignBufferIndex
  return ({ s with recvResource }.goto requestId (next (some bufferId))).modifyTrace requestId
    fun trace => { trace with assigned := trace.assigned ++ [bufferId] }

/-- `freeBufferIndexForRecv` at the end of `unformat`. -/
def freeForRecv (s : CacheReceiver) (requestId : RequestId) : Option Nat → CacheReceiver
  | some bufferId => { s with
      recvResource := s.recvResource.freeBufferIndex bufferId }.modifyTrace requestId
        fun trace => { trace with freed := trace.freed ++ [bufferId] }
  | none => s

/-- The next step of `requestSync`. -/
def task (s : CacheReceiver) (config : ReceiverConfig) (requestId : RequestId) (isReady : Bool) :
    Except TransferFailure CacheReceiver :=
  match s.tasks requestId with
  | none => .error .waiting
  | some .start =>
    -- The agent sends the index of its buffer with the request info.
    if config.isAgent then s.assignForRecv config requestId fun bufferId => .informing bufferId 0
    else .ok (s.goto requestId (.informing none 0))
  | some (.informing bufferId next) =>
    if next < config.counterparts requestId then
      .ok (s.goto requestId (.informing bufferId (next + 1)))
    else .ok (s.goto requestId (.awaiting bufferId 0 true))
  | some (.awaiting bufferId next isReadyFinal) =>
    if next < config.counterparts requestId then
      .ok (s.goto requestId (.awaiting bufferId (next + 1) (isReadyFinal && isReady)))
    else if isReadyFinal then .ok (s.goto requestId (.unformatting bufferId))
    else .ok (s.finish requestId .refused)
  | some (.unformatting bufferId) =>
    if config.isAgent then .ok (s.goto requestId (.receiving bufferId))
    else s.assignForRecv config requestId .receiving
  | some (.receiving bufferId) => .ok (s.goto requestId (.freeing bufferId))
  | some (.freeing bufferId) => .ok ((s.freeForRecv requestId bufferId).finish requestId .received)

/-- A network call of `requestSync` throws. -/
def taskThrows (s : CacheReceiver) (requestId : RequestId) :
    Except TransferFailure CacheReceiver :=
  match s.tasks requestId with
  | some (.informing _ _) => .ok (s.finish requestId .failed)
  | some (.awaiting _ _ _) => .ok (s.finish requestId .failed)
  | some (.receiving _) => .ok (s.finish requestId .failed)
  | _ => .error .waiting

def step (config : ReceiverConfig) (s : CacheReceiver) :
    ReceiverAction → Except TransferFailure CacheReceiver
  | .receiveAsync requestId => .ok (s.receiveAsync requestId)
  | .cancelRequest requestId => .ok (s.cancelRequest requestId)
  | .startTask => s.startTask
  | .task requestId isReady => s.task config requestId isReady
  | .taskThrows requestId => s.taskThrows requestId

/-- The stages and outcomes that a step of `requestSync` leads to. -/
inductive Follows (counterparts : Nat) (isReady : Bool) :
    Option ReceiveStage × Option ReceiveOutcome → Option ReceiveStage × Option ReceiveOutcome →
      Prop where
  | begin {bufferId outcome} :
      Follows counterparts isReady (some .start, outcome) (some (.informing bufferId 0), outcome)
  | inform {bufferId next outcome} (more : next < counterparts) :
      Follows counterparts isReady (some (.informing bufferId next), outcome)
        (some (.informing bufferId (next + 1)), outcome)
  | await {bufferId next outcome} (all : counterparts ≤ next) :
      Follows counterparts isReady (some (.informing bufferId next), outcome)
        (some (.awaiting bufferId 0 true), outcome)
  | signal {bufferId next isReadyFinal outcome} (more : next < counterparts) :
      Follows counterparts isReady (some (.awaiting bufferId next isReadyFinal), outcome)
        (some (.awaiting bufferId (next + 1) (isReadyFinal && isReady)), outcome)
  | proceed {bufferId next outcome} (all : counterparts ≤ next) :
      Follows counterparts isReady (some (.awaiting bufferId next true), outcome)
        (some (.unformatting bufferId), outcome)
  | refuse {bufferId next outcome} (all : counterparts ≤ next) :
      Follows counterparts isReady (some (.awaiting bufferId next false), outcome)
        (none, some .refused)
  | unformat {bufferId assigned outcome} :
      Follows counterparts isReady (some (.unformatting bufferId), outcome)
        (some (.receiving assigned), outcome)
  | data {bufferId outcome} :
      Follows counterparts isReady (some (.receiving bufferId), outcome)
        (some (.freeing bufferId), outcome)
  | done {bufferId outcome} :
      Follows counterparts isReady (some (.freeing bufferId), outcome) (none, some .received)

/-- Where `requestSync` is with a request, or how it ended. -/
def progress (s : CacheReceiver) (requestId : RequestId) :
    Option ReceiveStage × Option ReceiveOutcome :=
  (s.tasks requestId, (s.traces requestId).outcome)

variable {cfg : ReceiverConfig} {s t : CacheReceiver} {rid : RequestId}

theorem progress_goto (stage : ReceiveStage) : (s.goto rid stage).progress rid =
      (some stage, (s.traces rid).outcome) := by
  simp [progress, goto]

theorem progress_finish (outcome : ReceiveOutcome) :
    (s.finish rid outcome).progress rid = (none, some outcome) := by
  simp [progress, finish, modifyTrace]

theorem assignForRecv_progress {next : Option Nat → ReceiveStage}
    (assigned : s.assignForRecv cfg rid next = .ok t) : ∃ bufferId, t.progress rid =
      (some (next bufferId), (s.traces rid).outcome) := by
  unfold assignForRecv at assigned
  split at assigned
  · cases assigned
    exact ⟨none, progress_goto _⟩
  · obtain ⟨⟨bufferId, recvResource⟩, -, assigned⟩ := Except.bind_eq_ok.mp assigned
    cases assigned
    exact ⟨some bufferId, by simp [progress, goto, modifyTrace]⟩

theorem task_follows {isReady : Bool} (worked : s.task cfg rid isReady = .ok t) :
    Follows (cfg.counterparts rid) isReady (s.progress rid) (t.progress rid) := by
  have current : s.progress rid = (s.tasks rid, (s.traces rid).outcome) := rfl
  unfold task at worked
  split at worked
  case h_1 => cases worked
  case h_2 atStage =>
    rw [current, atStage]
    split at worked
    · obtain ⟨bufferId, reached⟩ := assignForRecv_progress worked
      rw [reached]
      exact .begin
    · cases worked
      rw [progress_goto]
      exact .begin
  case h_3 bufferId next atStage =>
    rw [current, atStage]
    split at worked <;> cases worked <;> rw [progress_goto]
    · rename_i more
      exact .inform more
    · rename_i all
      exact .await (Nat.le_of_not_lt all)
  case h_4 bufferId next isReadyFinal atStage =>
    rw [current, atStage]
    split at worked
    · rename_i more
      cases worked
      rw [progress_goto]
      exact .signal more
    · rename_i all
      split at worked <;> cases worked
      · rename_i ready
        rw [progress_goto, ready]
        exact .proceed (Nat.le_of_not_lt all)
      · rename_i refused
        rw [progress_finish, Bool.eq_false_iff.mpr refused]
        exact .refuse (Nat.le_of_not_lt all)
  case h_5 bufferId atStage =>
    rw [current, atStage]
    split at worked
    · cases worked
      rw [progress_goto]
      exact .unformat
    · obtain ⟨assigned, reached⟩ := assignForRecv_progress worked
      rw [reached]
      exact .unformat
  case h_6 bufferId atStage =>
    cases worked
    rw [current, atStage, progress_goto]
    exact .data
  case h_7 bufferId atStage =>
    cases worked
    rw [current, atStage, progress_finish]
    exact .done

end CacheReceiver

end TrtLlm
