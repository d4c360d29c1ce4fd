import TrtLlm.Transfer.CancelAgreement

/-! # Resources of a transfer

All that the sender and the receiver hold for a transfer is given back when it is over, if no
network call throws, no cancellation is accepted and no agent is refused.
-/

namespace TrtLlm

namespace ReceiveStage

def bufferId : ReceiveStage → Option Nat
  | .start => none
  | .informing bufferId _ => bufferId
  | .awaiting bufferId _ _ => bufferId
  | .unformatting bufferId => bufferId
  | .receiving bufferId => bufferId
  | .freeing bufferId => bufferId

/-- What can be at a stage: without an agent there is no buffer before `unformat`, and
an agent has only heard that its counterparts are ready. -/
def Possible (isAgent : Bool) : ReceiveStage → Prop
  | .informing bufferId _ => isAgent = false → bufferId = none
  | .awaiting bufferId _ isReadyFinal =>
    (isAgent = false → bufferId = none) ∧ (isAgent = true → isReadyFinal = true)
  | .unformatting bufferId => isAgent = false → bufferId = none
  | _ => True

end ReceiveStage

namespace CacheReceiver

variable {cfg : ReceiverConfig} {s t : CacheReceiver} {rid : RequestId}
  {recvBufferCount : Nat}

def holding (s : CacheReceiver) (requestId : RequestId) : Option Nat :=
  (s.tasks requestId).bind ReceiveStage.bufferId

/-- The buffers that were assigned and freed for a request up to a stage. -/
def BuffersAt (isAgent : Bool) (trace : ReceiveTrace) : Option ReceiveStage → Prop
  | some stage => trace.assigned = stage.bufferId.toList ∧ trace.freed = [] ∧
      trace.outcome = none ∧ stage.Possible isAgent
  | none => trace.assigned = trace.freed ∧ trace.assigned.length ≤ 1 ∧
      (trace.outcome = none → trace.assigned = [])

structure Inv (config : ReceiverConfig) (recvBufferCount : Nat) (s : CacheReceiver) : Prop where
  heldBy : ∃ held, s.recvResource.HeldBy s.holding held
  size : s.recvResource.bufferIndexFlag.length = recvBufferCount
  /-- A request is in the queue, running or over. -/
  once : ∀ requestId, s.requestsQueue.count requestId + (s.tasks requestId).isSome.toNat +
    (s.traces requestId).outcome.isSome.toNat ≤ (s.traces requestId).submitted.toNat
  buffers : ∀ requestId, BuffersAt config.isAgent (s.traces requestId) (s.tasks requestId)

theorem Inv.initial (cfg : ReceiverConfig) (recvBufferCount : Nat) :
    (initial recvBufferCount).Inv cfg recvBufferCount where
  heldBy := ⟨[], .initial recvBufferCount⟩
  size := List.length_replicate
  once rid := by simp [CacheReceiver.initial]
  buffers rid := ⟨rfl, Nat.zero_le 1, fun _ => rfl⟩

/-- A request is submitted once. -/
def Proper (s : CacheReceiver) : ReceiverAction → Prop
  | .receiveAsync requestId => (s.traces requestId).submitted = false
  | _ => True

/-- No network call throws, and the counterparts of an agent are ready. -/
def Succeeds (config : ReceiverConfig) : ReceiverAction → Prop
  | .taskThrows _ => False
  | .task _ isReady => config.isAgent = true → isReady = true
  | _ => True

instance (s : CacheReceiver) (action : ReceiverAction) : Decidable (Proper s action) :=
  match action with
  | .receiveAsync _ => inferInstanceAs (Decidable (_ = _))
  | .cancelRequest _ | .startTask | .task _ _ | .taskThrows _ => isTrue trivial

instance (config : ReceiverConfig) (action : ReceiverAction) :
    Decidable (Succeeds config action) :=
  match action with
  | .task _ _ => inferInstanceAs (Decidable (_ → _))
  | .taskThrows _ => isFalse id
  | .receiveAsync _ | .cancelRequest _ | .startTask => isTrue trivial

attribute [local simp] modifyTrace goto finish freeForRecv

section

variable (inv : s.Inv cfg recvBufferCount)
include inv

section

variable (rid : RequestId) (others : ∀ other, other ≠ rid →
      t.requestsQueue.count other = s.requestsQueue.count other ∧ t.tasks other = s.tasks other ∧
        t.traces other = s.traces other)
    (once : t.requestsQueue.count rid + (t.tasks rid).isSome.toNat +
      (t.traces rid).outcome.isSome.toNat ≤ (t.traces rid).submitted.toNat)
    (buffers : BuffersAt cfg.isAgent (t.traces rid) (t.tasks rid))
include others once buffers

/-- A step for one request keeps the invariant if it keeps it for that request. -/
theorem Inv.of_own (heldBy : ∃ held, t.recvResource.HeldBy t.holding held)
    (size : t.recvResource.bufferIndexFlag.length = recvBufferCount) :
    t.Inv cfg recvBufferCount := by
  refine ⟨heldBy, size, fun other => ?_, fun other => ?_⟩
  · by_cases own : other = rid
    · exact own ▸ once
    · obtain ⟨queue, task, trace⟩ := others other own
      rw [queue, task, trace]
      exact inv.once other
  · by_cases own : other = rid
    · exact own ▸ buffers
    · obtain ⟨-, task, trace⟩ := others other own
      rw [task, trace]
      exact inv.buffers other

/-- The same if the request holds the buffer it held. -/
theorem Inv.of_held (resource : t.recvResource = s.recvResource)
    (holds : t.holding rid = s.holding rid) : t.Inv cfg recvBufferCount := by
  have holding : t.holding = s.holding := by
    funext other
    by_cases own : other = rid
    · exact own ▸ holds
    · rw [CacheReceiver.holding, (others other own).2.1, CacheReceiver.holding]
  refine inv.of_own rid others once buffers ?_ ?_
  · rw [resource, holding]
    exact inv.heldBy
  · rw [resource]
    exact inv.size

end

/-- A stage with the same buffer follows. -/
theorem Inv.onward {stage next : ReceiveStage}
    (atStage : s.tasks rid = some stage) (same : next.bufferId = stage.bufferId)
    (possible : next.Possible cfg.isAgent) : (s.goto rid next).Inv cfg recvBufferCount := by
  have before := inv.buffers rid
  rw [atStage] at before
  refine inv.of_held rid (fun other ne => by simp [ne]) ?_ ?_ rfl ?_
  · simpa [atStage] using inv.once rid
  · simpa [BuffersAt, same] using ⟨before.1, before.2.1, before.2.2.1, possible⟩
  · simp [holding, atStage, same]

theorem Inv.assignForRecv {stage : ReceiveStage}
    {next : Option Nat → ReceiveStage} (atStage : s.tasks rid = some stage)
    (empty : stage.bufferId = none)
    (next_bufferId : ∀ bufferId, (next bufferId).bufferId = bufferId)
    (possible : ∀ bufferId, (next bufferId).Possible cfg.isAgent)
    (assigned : s.assignForRecv cfg rid next = .ok t) : t.Inv cfg recvBufferCount := by
  unfold CacheReceiver.assignForRecv at assigned
  split at assigned
  · cases assigned
    exact inv.onward atStage ((next_bufferId none).trans empty.symm) (possible none)
  · obtain ⟨⟨bufferId, recvResource⟩, taken, assigned⟩ := Except.bind_eq_ok.mp assigned
    cases assigned
    obtain ⟨held, heldBy⟩ := inv.heldBy
    have before := inv.buffers rid
    rw [atStage] at before
    obtain ⟨assigned, freed, outcome, -⟩ := before
    rw [empty] at assigned
    have idle : s.holding rid = none := by simp [holding, atStage, empty]
    refine inv.of_own rid (fun other ne => by simp [ne]) ?_ ?_ ⟨bufferId :: held, ?_⟩ ?_
    · simpa [atStage] using inv.once rid
    · simp [BuffersAt, next_bufferId, assigned, freed, outcome, possible]
    · refine heldBy.assign taken idle fun other => ?_
      by_cases own : other = rid
      · simp [holding, own, next_bufferId]
      · simp [holding, own]
    · exact (heldBy.holds.assign taken).2.2.trans inv.size

/-- A request that holds no buffer is over. -/
theorem Inv.ended {stage : ReceiveStage}
    (atStage : s.tasks rid = some stage) (empty : stage.bufferId = none)
    (outcome : ReceiveOutcome) : (s.finish rid outcome).Inv cfg recvBufferCount := by
  have before := inv.buffers rid
  rw [atStage] at before
  obtain ⟨assigned, freed, none, -⟩ := before
  rw [empty] at assigned
  refine inv.of_held rid (fun other ne => by simp [ne]) ?_ ?_ rfl ?_
  · simpa [atStage, none] using inv.once rid
  · simp [BuffersAt, assigned, freed]
  · simp [holding, atStage, empty]

/-- A request whose data was received gives its buffer back. -/
theorem Inv.finish_freed {bufferId : Option Nat}
    (atStage : s.tasks rid = some (.freeing bufferId)) :
    ((s.freeForRecv rid bufferId).finish rid .received).Inv cfg recvBufferCount := by
  cases bufferId with
  | none => exact inv.ended atStage rfl .received
  | some bufferId =>
    obtain ⟨held, heldBy⟩ := inv.heldBy
    have own : s.holding rid = some bufferId := by simp [holding, atStage, ReceiveStage.bufferId]
    have before := inv.buffers rid
    rw [atStage] at before
    obtain ⟨assigned, freed, none, -⟩ := before
    refine inv.of_own rid (fun other ne => by simp [ne]) ?_ ?_ ⟨held.erase bufferId, ?_⟩ ?_
    · simpa [atStage, none] using inv.once rid
    · simp [BuffersAt, assigned, freed, ReceiveStage.bufferId]
    · refine heldBy.free own fun other => ?_
      by_cases same : other = rid
      · simp [holding, same]
      · simp [holding, same]
    · simpa [ConcurrenceResource.freeBufferIndex] using inv.size

end

theorem Inv.task {isReady : Bool} (inv : s.Inv cfg recvBufferCount)
    (ready : cfg.isAgent = true → isReady = true)
    (worked : s.task cfg rid isReady = .ok t) : t.Inv cfg recvBufferCount := by
  have possible : ∀ stage, s.tasks rid = some stage → stage.Possible cfg.isAgent := by
    intro stage atStage
    have running := inv.buffers rid
    rw [atStage] at running
    exact running.2.2.2
  unfold CacheReceiver.task at worked
  split at worked
  case h_1 => cases worked
  case h_2 atStage =>
    split at worked
    · rename_i agent
      apply inv.assignForRecv atStage rfl _ _ worked
      · exact fun _ => rfl
      · intro bufferId direct
        rw [agent] at direct
        cases direct
    · cases worked
      exact inv.onward atStage rfl fun _ => rfl
  case h_3 bufferId next atStage =>
    have unassigned := possible _ atStage
    split at worked <;> cases worked
    · exact inv.onward atStage rfl unassigned
    · exact inv.onward atStage rfl ⟨unassigned, fun _ => rfl⟩
  case h_4 bufferId next isReadyFinal atStage =>
    obtain ⟨unassigned, heard⟩ := possible _ atStage
    split at worked
    · cases worked
      refine inv.onward atStage rfl ⟨unassigned, fun agent => ?_⟩
      rw [heard agent, ready agent]
      rfl
    · split at worked <;> cases worked
      · exact inv.onward atStage rfl unassigned
      · -- Only without an agent a request is refused, and then it has no buffer yet.
        rename_i refused
        have direct : cfg.isAgent = false := by
          by_contra agent
          exact refused (heard (by simpa using agent))
        exact inv.ended atStage (unassigned direct) .refused
  case h_5 bufferId atStage =>
    have unassigned := possible _ atStage
    split at worked
    · cases worked
      exact inv.onward atStage rfl trivial
    · rename_i direct
      apply inv.assignForRecv atStage (unassigned (by simpa using direct)) _ _ worked
      · exact fun _ => rfl
      · exact fun _ => trivial
  case h_6 bufferId atStage =>
    cases worked
    exact inv.onward atStage rfl trivial
  case h_7 bufferId atStage =>
    cases worked
    exact inv.finish_freed atStage

/-- Nothing is held for a request that is still in the queue. -/
theorem Inv.startTask (inv : s.Inv cfg recvBufferCount) {rest : List RequestId}
    (queue : s.requestsQueue = rid :: rest) :
    ({ s with requestsQueue := rest }.goto rid .start).Inv cfg recvBufferCount := by
  have waiting : (s.tasks rid).isSome = false ∧ (s.traces rid).outcome.isSome = false := by
    have alone := inv.once rid
    rw [queue, List.count_cons_self] at alone
    have bound := Bool.toNat_le (s.traces rid).submitted
    constructor
    · cases running : (s.tasks rid).isSome with
      | false => rfl
      | true => simp only [running, Bool.toNat_true] at alone; omega
    · cases ended : (s.traces rid).outcome.isSome with
      | false => rfl
      | true => simp only [ended, Bool.toNat_true] at alone; omega
  have idle : s.tasks rid = none := by simpa using waiting.1
  have pending : (s.traces rid).outcome = none := by simpa using waiting.2
  have before := inv.buffers rid
  rw [idle] at before
  obtain ⟨equal, -, unused⟩ := before
  have none := unused pending
  refine inv.of_held rid (fun other ne => by simp [queue, ne, Ne.symm ne]) ?_ ?_ rfl ?_
  · simpa [queue, idle, Nat.add_right_comm] using inv.once rid
  · simp [BuffersAt, none, equal ▸ none, pending, ReceiveStage.bufferId, ReceiveStage.Possible]
  · simp [holding, idle, ReceiveStage.bufferId]

theorem Inv.step {action : ReceiverAction} (inv : s.Inv cfg recvBufferCount)
    (proper : Proper s action) (succeeds : Succeeds cfg action)
    (stepped : CacheReceiver.step cfg s action = .ok t) : t.Inv cfg recvBufferCount := by
  cases action with
  | receiveAsync rid =>
    cases stepped
    have fresh : (s.traces rid).submitted = false := proper
    have before := inv.once rid
    simp only [fresh, Bool.toNat_false, Nat.le_zero, Nat.add_eq_zero_iff] at before
    refine inv.of_held rid (fun other ne => ?_) ?_ ?_ rfl rfl
    · simp [receiveAsync, ne, Ne.symm ne, List.count_append]
    · simp [receiveAsync, before]
    · simpa [receiveAsync, BuffersAt] using inv.buffers rid
  | cancelRequest rid =>
    cases stepped
    refine ⟨inv.heldBy, inv.size, fun other => ?_, inv.buffers⟩
    have fewer := (List.erase_sublist (a := rid) (l := s.requestsQueue)).count_le other
    have before := inv.once other
    simp only [CacheReceiver.cancelRequest]
    omega
  | startTask =>
    simp only [CacheReceiver.step, CacheReceiver.startTask] at stepped
    split at stepped <;> cases stepped
    rename_i rid rest queue
    exact inv.startTask queue
  | task rid isReady => exact inv.task succeeds stepped
  | taskThrows rid => exact succeeds.elim

theorem Inv.of_reaches (reached : Run.Reaches (CacheReceiver.step cfg)
      (fun s action => Proper s action ∧ Succeeds cfg action)
      (CacheReceiver.initial recvBufferCount) s) : s.Inv cfg recvBufferCount :=
  reached.invariant (Inv.initial cfg recvBufferCount) fun _ _ _ inv allowed stepped =>
    inv.step allowed.1 allowed.2 stepped

theorem Inv.freed_of_outcome (inv : s.Inv cfg recvBufferCount)
    (ended : (s.traces rid).outcome ≠ none) : (s.traces rid).assigned = (s.traces rid).freed ∧
      (s.traces rid).assigned.length ≤ 1 := by
  have buffers := inv.buffers rid
  cases running : s.tasks rid with
  | none =>
    rw [running] at buffers
    exact ⟨buffers.1, buffers.2.1⟩
  | some stage =>
    rw [running] at buffers
    exact (ended buffers.2.2.1).elim

end CacheReceiver

namespace CacheSender

variable {cfg : SenderConfig} {s t : CacheSender} {rid : RequestId}
  {sendBufferCount : Nat}

/-- No cancellation is accepted. -/
def AcceptsNone (s : CacheSender) : SenderAction → Prop
  | .cancelRequest requestId => requestId ∈ s.readyResponses → s.currentRequest = some requestId
  | _ => True

instance (s : CacheSender) (action : SenderAction) : Decidable (AcceptsNone s action) :=
  match action with
  | .cancelRequest _ => inferInstanceAs (Decidable (_ → _))
  | .sendAsync _ | .announce _ | .arrive _ _ | .receive _ | .respond | .respondThrows | .startTask
  | .task _ | .taskThrows _ => isTrue trivial

/-- All counterparts of the request were counted, and no thread deals with it. -/
structure Over (config : SenderConfig) (s : CacheSender) (requestId : RequestId) : Prop where
  counted : config.counterparts requestId ≤ (s.traces requestId).handled
  away : s.point.position requestId = .away
  unqueued : requestId ∉ s.sendQueue
  idle : s.tasks requestId = none

/-- Nothing is left of the request, and a buffer that it was assigned was freed once. -/
structure Released (s : CacheSender) (requestId : RequestId) : Prop where
  session : s.sessions requestId = none
  ready : requestId ∉ s.readyResponses
  remain : s.remainSendCount requestId = none
  cancelled : requestId ∉ s.cancelledRequests
  freed : (s.traces requestId).assigned = (s.traces requestId).freed
  single : (s.traces requestId).assigned.length ≤ 1

/-- A transfer that was not cancelled leaves nothing behind. -/
theorem Inv.released (inv : s.Inv cfg sendBufferCount)
    (uncancelled : (s.traces rid).cancelAccepted = false) (ended : Over cfg s rid) :
    s.Released rid := by
  obtain ⟨cnt, answers, delivery⟩ := inv.coherent rid
  have handled : (s.view rid).trace.handled = cfg.counterparts rid := by
    have total := cnt.total_le
    have counted : cfg.counterparts rid ≤ (s.view rid).trace.handled := ended.counted
    omega
  have away : (s.view rid).position = .away := ended.away
  have unready : rid ∉ s.readyResponses := by
    intro isReady
    obtain ⟨-, missing | deciding | decided⟩ := cnt.ready_iff.mp isReady
    · omega
    · rw [away] at deciding
      cases deciding
    · rw [away] at decided
      cases decided
  have idle : (s.view rid).task = none := ended.idle
  have finished : (s.traces rid).finished = true := by
    cases verdict : (s.view rid).trace.verdict with
    | none =>
      obtain missing | deciding := answers.verdict_none.mp verdict
      · omega
      · rw [away] at deciding
        cases deciding
    | some isReady =>
      have accepted := (inv.coherent rid).cancelAccepted_of_verdict verdict
      have sent := (inv.coherent rid).sends_of_quiet verdict (by rw [away]; rfl)
        (List.count_eq_zero.mpr ended.unqueued) idle
      have decided : isReady = true := by
        have unmarked : (s.view rid).trace.cancelAccepted = false := uncancelled
        rw [accepted] at unmarked
        simpa using unmarked
      exact sent.1.trans decided
  have buffers := delivery.buffers
  rw [idle] at buffers
  constructor
  · by_contra session
    have held := delivery.session_iff.mp (Option.isSome_iff_ne_none.mpr session)
    have unfinished : (s.traces rid).finished = false := held.2
    rw [finished] at unfinished
    cases unfinished
  · exact unready
  · have remain := cnt.remain_eq
    rw [if_pos (.inl handled)] at remain
    exact remain
  · exact fun marked => unready (answers.cancelled_ready marked)
  · exact buffers.1
  · exact buffers.2.1

theorem uncancelled_step {action : SenderAction} (accepts : AcceptsNone s action)
    (uncancelled : (s.traces rid).cancelAccepted = false)
    (stepped : step cfg s action = .ok t) : (t.traces rid).cancelAccepted = false := by
  obtain same | ⟨-, -, same⟩ | ⟨rfl, isReady, notCurrent, -⟩ | ⟨peer, -, -, same⟩ :=
    step_decision rid stepped
  · exact (congrArg (fun decision => decision.2.1) same).trans uncancelled
  · exact (congrArg Prod.fst same).trans uncancelled
  · exact (notCurrent (accepts isReady)).elim
  · exact same.trans uncancelled

/-- In runs in which no network call throws, no cancellation is accepted and no agent
is refused, nothing is left of a transfer that is ended, on either side, and an index
is assigned at once when no transfer is in progress. -/
theorem transfer_resources_released (config : SenderConfig) (receiver : ReceiverConfig)
    (sendBufferCount recvBufferCount : Nat) (sendPositive : 0 < sendBufferCount)
    (recvPositive : 0 < recvBufferCount) :
    (∀ s, Run.Reaches (step config)
        (fun s action => (Proper config s action ∧ Succeeds action) ∧ AcceptsNone s action)
        (initial sendBufferCount) s →
      (∀ requestId, Over config s requestId → s.Released requestId) ∧
      ((∀ requestId, s.tasks requestId = none) →
        ∃ bufferId next, s.sendResource.assignBufferIndex = .ok (bufferId, next))) ∧
    ∀ s, Run.Reaches (CacheReceiver.step receiver)
        (fun s action => CacheReceiver.Proper s action ∧ CacheReceiver.Succeeds receiver action)
        (CacheReceiver.initial recvBufferCount) s →
      (∀ requestId, (s.traces requestId).outcome ≠ none →
        (s.traces requestId).assigned = (s.traces requestId).freed ∧
          (s.traces requestId).assigned.length ≤ 1) ∧
      ((∀ requestId, s.tasks requestId = none) →
        ∃ bufferId next, s.recvResource.assignBufferIndex = .ok (bufferId, next)) := by
  constructor
  · intro s reached
    have inv : s.Inv config sendBufferCount ∧
        ∀ requestId, (s.traces requestId).cancelAccepted = false := by
      apply reached.invariant
      · exact ⟨Inv.initial config sendBufferCount, fun _ => rfl⟩
      · intro before action after inv allowed stepped
        exact ⟨inv.1.step allowed.1.1 allowed.1.2 stepped,
          fun requestId => uncancelled_step allowed.2 (inv.2 requestId) stepped⟩
    obtain ⟨held, buffers⟩ := inv.1.buffers
    refine ⟨fun requestId ended => inv.1.released (inv.2 requestId) ended, fun quiet => ?_⟩
    apply buffers.heldBy.assign_ok_of_idle
    · rw [buffers.size]
      exact sendPositive
    · exact fun requestId => holding_of_no_task (quiet requestId)
  · intro s reached
    have inv := CacheReceiver.Inv.of_reaches reached
    obtain ⟨held, heldBy⟩ := inv.heldBy
    refine ⟨fun requestId ended => inv.freed_of_outcome ended, fun quiet => ?_⟩
    apply heldBy.assign_ok_of_idle
    · rw [inv.size]
      exact recvPositive
    · intro requestId
      simp [CacheReceiver.holding, quiet]

/-- In every interleaving the transfers in progress have different buffers. -/
theorem buffers_exclusive (config : SenderConfig) (receiver : ReceiverConfig)
    (sendBufferCount recvBufferCount : Nat) :
    (∀ s, Run.Reaches (step config) (fun s action => Proper config s action ∧ Succeeds action)
        (initial sendBufferCount) s → s.sendResource.Exclusive s.holding) ∧
    ∀ s, Run.Reaches (CacheReceiver.step receiver)
        (fun s action => CacheReceiver.Proper s action ∧ CacheReceiver.Succeeds receiver action)
        (CacheReceiver.initial recvBufferCount) s → s.recvResource.Exclusive s.holding := by
  constructor
  · intro s reached
    obtain ⟨held, buffers⟩ := (Inv.of_reaches reached).buffers
    exact buffers.heldBy.exclusive
  · intro s reached
    obtain ⟨held, heldBy⟩ := (CacheReceiver.Inv.of_reaches reached).heldBy
    exact heldBy.exclusive

/-- Request 1 is submitted, its counterpart asks for it, and a send thread takes it
and has a buffer. -/
def submitAndDeliver : List SenderAction :=
  [.sendAsync 1, .announce 1, .arrive 1 0, .respond, .respond, .receive 0] ++
    List.replicate 10 .respond ++ [.startTask, .task 1]

def submitAndDeliverAll : List SenderAction := submitAndDeliver ++ List.replicate 3 (.task 1)

/-- Request 1 is received from one counterpart. -/
def receiveOne : List ReceiverAction :=
  [.receiveAsync 1, .startTask] ++ List.replicate 8 (.task 1 true)

/-- Two requests are being sent and two are being received, each from a buffer of its own. -/
theorem buffers_exclusive_twoTransfers :
    (∃ s : CacheSender, (s.holding 1 = some 0 ∧ s.holding 2 = some 1) ∧
      s.sendResource.Exclusive s.holding) ∧
    ∃ s : CacheReceiver, (s.holding 1 = some 0 ∧ s.holding 2 = some 1) ∧
      s.recvResource.Exclusive s.holding := by
  have exclusive := buffers_exclusive oneCounterpart { counterparts := fun _ => 1 } 2 2
  constructor
  · exact Exists.imp (fun s ⟨reached, held⟩ => ⟨held, exclusive.1 s reached⟩)
      (Run.exists_reaches (submitAndDeliver ++
        [.sendAsync 2, .announce 2, .arrive 2 0, .respond, .respond, .receive 0] ++
          List.replicate 10 .respond ++ [.startTask, .task 2]) (by decide +kernel))
  · exact Exists.imp (fun s ⟨reached, held⟩ => ⟨held, exclusive.2 s reached⟩)
      (Run.exists_reaches ([.receiveAsync 1, .startTask] ++ List.replicate 6 (.task 1 true) ++
        [.receiveAsync 2, .startTask] ++ List.replicate 6 (.task 2 true)) (by decide +kernel))

/-- A transfer that succeeds on both sides gives its buffers back. -/
theorem submitAndDeliver_released :
    (∃ s : CacheSender, s.Released 1 ∧ (s.traces 1).assigned = [0]) ∧
    ∃ s : CacheReceiver, (s.traces 1).assigned = (s.traces 1).freed ∧
      (s.traces 1).assigned = [0] := by
  have released := transfer_resources_released oneCounterpart { counterparts := fun _ => 1 } 1 1
    Nat.one_pos Nat.one_pos
  have sent : Run.trace (step oneCounterpart)
      (fun s action => (Proper oneCounterpart s action ∧ Succeeds action) ∧ AcceptsNone s action)
      submitAndDeliverAll (initial 1) = some (after submitAndDeliverAll) := by
    rfl
  have ended : Over oneCounterpart (after submitAndDeliverAll) 1 :=
    ⟨by decide +kernel, rfl, by decide +kernel, rfl⟩
  obtain ⟨s, reached, isOver, zero⟩ : ∃ s,
      Run.Reaches (CacheReceiver.step { counterparts := fun _ => 1 })
        (fun s action => CacheReceiver.Proper s action ∧
          CacheReceiver.Succeeds { counterparts := fun _ => 1 } action)
        (CacheReceiver.initial 1) s ∧ (s.traces 1).outcome ≠ none ∧ (s.traces 1).assigned = [0] :=
    Run.exists_reaches receiveOne (by decide +kernel)
  exact ⟨⟨_, (released.1 _ (Run.reaches_of_trace sent)).1 1 ended, rfl⟩,
    ⟨s, ((released.2 s reached).1 1 isOver).1, zero⟩⟩

/-- A send of `format` throws after the buffer was assigned. -/
def sendThrows : List SenderAction := submitAndDeliver ++ [.taskThrows 1]

/-- The only transfer is over, its session and its buffer index are kept, and the next
transfer would wait for the index for ever. -/
theorem sendThrows_leaks :
    ∃ s, Run.Reaches (step oneCounterpart) (Proper oneCounterpart) (initial 1) s ∧
      Over oneCounterpart s 1 ∧ (s.sessions 1).isSome = true ∧ (s.traces 1).assigned = [0] ∧
      (s.traces 1).freed = [] ∧ (∀ requestId, s.tasks requestId = none) ∧
      s.sendResource.assignBufferIndex = .error .waiting := by
  have traced : ∃ s, Run.trace (step oneCounterpart) (Proper oneCounterpart) sendThrows
      (initial 1) = some s ∧ s.point = .idle ∧ s.sendQueue = [] ∧ (s.traces 1).handled = 1 ∧
      (s.sessions 1).isSome = true ∧ (s.traces 1).assigned = [0] ∧ (s.traces 1).freed = [] ∧
      s.tasks = Function.update (Function.update (Function.update (fun _ => none) 1 (some .start))
        1 (some (.sending (some 0)))) 1 none ∧
      s.sendResource.assignBufferIndex = .error .waiting :=
    ⟨_, rfl, rfl, rfl, rfl, rfl, rfl, rfl, rfl, rfl⟩
  obtain ⟨s, traced, idle, queue, handled, session, assigned, freed, tasks, blocked⟩ := traced
  have quiet : ∀ requestId, s.tasks requestId = none := by
    intro requestId
    rw [tasks]
    by_cases own : requestId = 1
    · simp [own]
    · simp [own]
  refine ⟨s, Run.reaches_of_trace traced, ⟨?_, ?_, ?_, quiet 1⟩, session, assigned, freed, quiet,
    blocked⟩
  · rw [handled]
    exact Nat.le_refl 1
  · rw [idle]
    rfl
  · rw [queue]
    exact List.not_mem_nil

end CacheSender

end TrtLlm
