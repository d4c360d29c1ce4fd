import TrtLlm.Transfer.SenderInvariant

/-! # Progress of the sender

What the threads of a sender share: the buffers for sending and the flag that the response thread
sleeps on. A wakeup is lost if a request is submitted while the flag is being cleared.
-/

namespace TrtLlm

/-- The buffer that is assigned at a stage. -/
def SendStage.bufferId : SendStage → Option Nat
  | .sending bufferId => bufferId
  | .freeing bufferId => bufferId
  | _ => none

namespace ResponsePoint

/-- The points between the removal of a response and the clearing of the flag. -/
def isEmptying : ResponsePoint → Bool
  | .refused _ => true
  | .removed _ => true
  | .clearing _ => true
  | _ => false

def isClearing : ResponsePoint → Bool
  | .clearing _ => true
  | _ => false

end ResponsePoint

namespace CacheSender

/-- The buffer that the data of a request is being sent from. -/
def holding (s : CacheSender) (requestId : RequestId) : Option Nat :=
  (s.tasks requestId).bind SendStage.bufferId

/-- The indices in use are those of the running sends. -/
structure Buffers (sendBufferCount : Nat) (s : CacheSender) (held : List Nat) : Prop where
  heldBy : s.sendResource.HeldBy s.holding held
  size : s.sendResource.bufferIndexFlag.length = sendBufferCount

variable {cfg : SenderConfig} {s t : CacheSender} {rid : RequestId}
  {sendBufferCount : Nat} {held : List Nat}

theorem Buffers.initial (sendBufferCount : Nat) :
    (initial sendBufferCount).Buffers sendBufferCount [] where
  heldBy := .initial sendBufferCount
  size := List.length_replicate

theorem Buffers.of_same (buffers : s.Buffers sendBufferCount held)
    (resource : t.sendResource = s.sendResource) (same : ∀ rid, t.holding rid = s.holding rid) :
    t.Buffers sendBufferCount held where
  heldBy := by
    rw [resource, funext same]
    exact buffers.heldBy
  size := resource ▸ buffers.size

/-- A stage without a buffer follows one without a buffer. -/
theorem holding_update {stage : Option SendStage} (empty : s.holding rid = none)
    (unheld : stage.bind SendStage.bufferId = none) (other : RequestId) :
    (Function.update s.tasks rid stage other).bind SendStage.bufferId = s.holding other := by
  by_cases same : other = rid
  · simp [same, empty, unheld]
  · simp [same, holding]

attribute [local simp] holding SendStage.bufferId modifyTrace

theorem Coherent.underway_le (coherent : s.Coherent cfg) (rid : RequestId) :
    (s.view rid).underway ≤ 1 := by
  rw [(coherent rid).delivery.underway_eq]
  split <;> omega

theorem holding_of_no_task (idle : s.tasks rid = none) : s.holding rid = none := by
  simp [idle]

/-- Nothing is being sent for a request whose ready signals are being sent. -/
theorem Coherent.no_task_of_signalling (coherent : s.Coherent cfg) {isReady : Bool} {next : Nat}
    (atPoint : s.point = .signalling rid isReady next) : s.tasks rid = none := by
  have pos := position_of_focus (congrArg ResponsePoint.focus atPoint)
  have underway := (coherent rid).delivery.underway_eq
  rw [if_neg (by simp [pos, Position.isSignalling])] at underway
  cases running : s.tasks rid with
  | none => rfl
  | some stage => simp [RequestView.underway, view, running] at underway

/-- Nothing is being sent yet for a request in the queue. -/
theorem Coherent.no_task_of_queued (coherent : s.Coherent cfg) {rest : List RequestId}
    (queue : s.sendQueue = rid :: rest) : s.tasks rid = none := by
  have underway := coherent.underway_le rid
  cases running : s.tasks rid with
  | none => rfl
  | some stage =>
    simp only [RequestView.underway, view, running, queue, List.count_cons_self,
      Option.isSome_some, if_true] at underway
    omega

theorem Buffers.respond (buffers : s.Buffers sendBufferCount held) (coherent : s.Coherent cfg)
    (responded : s.respond cfg = .ok t) : t.Buffers sendBufferCount held := by
  unfold CacheSender.respond at responded
  split at responded
  case h_8 rid atPoint =>
    cases responded
    unfold countDown
    split
    all_goals exact buffers.of_same rfl fun _ => rfl
  case h_10 rid isReady next atPoint =>
    have idle := holding_of_no_task (coherent.no_task_of_signalling atPoint)
    split at responded <;> cases responded
    · exact buffers.of_same rfl fun _ => rfl
    · unfold afterSignals
      split
      · split
        · exact buffers.of_same rfl (holding_update idle rfl)
        · exact buffers.of_same rfl fun _ => rfl
      · exact buffers.of_same rfl fun _ => rfl
  all_goals
    repeat' split at responded
    all_goals
      cases responded
      try exact buffers.of_same rfl fun _ => rfl

theorem Buffers.startTask (buffers : s.Buffers sendBufferCount held)
    (coherent : s.Coherent cfg) (started : s.startTask = .ok t) :
    t.Buffers sendBufferCount held := by
  unfold CacheSender.startTask at started
  split at started <;> cases started
  rename_i rid rest queue
  have idle := holding_of_no_task (coherent.no_task_of_queued queue)
  exact buffers.of_same rfl (holding_update idle rfl)

/-- The index that `format` is assigned is held by its request alone. -/
theorem Buffers.assignForSend (buffers : s.Buffers sendBufferCount held)
    (atStart : s.tasks rid = some .start) (assigned : s.assignForSend cfg rid = .ok t) :
    ∃ held, t.Buffers sendBufferCount held := by
  have idle : s.holding rid = none := by simp [atStart]
  unfold CacheSender.assignForSend at assigned
  split at assigned
  · cases assigned
    exact ⟨held, buffers.of_same rfl (holding_update idle rfl)⟩
  · obtain ⟨⟨bufferId, sendResource⟩, taken, assigned⟩ := Except.bind_eq_ok.mp assigned
    cases assigned
    obtain ⟨-, -, size⟩ := buffers.heldBy.holds.assign taken
    refine ⟨bufferId :: held, buffers.heldBy.assign taken idle ?_, size.trans buffers.size⟩
    intro other
    by_cases same : other = rid
    · simp [same]
    · simp [same]

/-- The index that `format` frees is held by no request afterwards. -/
theorem Buffers.freeForSend {bufferId : Option Nat} (buffers : s.Buffers sendBufferCount held)
    (atStage : s.tasks rid = some (.freeing bufferId)) :
    ∃ held, (s.freeForSend rid bufferId).Buffers sendBufferCount held := by
  cases bufferId with
  | none =>
    have idle : s.holding rid = none := by simp [atStage]
    exact ⟨held, buffers.of_same rfl (holding_update idle rfl)⟩
  | some bufferId =>
    have own : s.holding rid = some bufferId := by
      simp [atStage]
    refine ⟨held.erase bufferId, buffers.heldBy.free own ?_, ?_⟩
    · intro other
      by_cases same : other = rid
      · simp [CacheSender.freeForSend, same]
      · simp [CacheSender.freeForSend, same]
    · simpa [CacheSender.freeForSend, ConcurrenceResource.freeBufferIndex]
        using buffers.size

theorem Buffers.task (buffers : s.Buffers sendBufferCount held)
    (worked : s.task cfg rid = .ok t) : ∃ held, t.Buffers sendBufferCount held := by
  unfold CacheSender.task at worked
  split at worked
  case h_1 => cases worked
  case h_2 atStart =>
    split at worked
    · cases worked
    · split at worked
      · exact buffers.assignForSend atStart worked
      · cases worked
        have idle : s.holding rid = none := by simp [atStart]
        exact ⟨held, buffers.of_same rfl (holding_update idle rfl)⟩
  case h_3 bufferId atStage =>
    cases worked
    refine ⟨held, buffers.of_same rfl fun other => ?_⟩
    by_cases same : other = rid
    · simp [same, atStage]
    · simp [same]
  case h_4 bufferId atStage =>
    cases worked
    exact buffers.freeForSend atStage
  case h_5 atStage =>
    split at worked <;> cases worked
    have idle : s.holding rid = none := by simp [atStage]
    exact ⟨held, buffers.of_same rfl (holding_update idle rfl)⟩

variable {action : SenderAction}

theorem Buffers.step (buffers : s.Buffers sendBufferCount held) (coherent : s.Coherent cfg)
    (succeeds : Succeeds action) (stepped : CacheSender.step cfg s action = .ok t) :
    ∃ held, t.Buffers sendBufferCount held := by
  cases action with
  | sendAsync rid =>
    cases stepped
    exact ⟨held, buffers.of_same rfl fun _ => rfl⟩
  | announce rid =>
    simp only [CacheSender.step] at stepped
    split at stepped <;> cases stepped
    exact ⟨held, buffers.of_same rfl fun _ => rfl⟩
  | cancelRequest rid =>
    cases stepped
    unfold cancelRequest
    split
    all_goals exact ⟨held, buffers.of_same rfl fun _ => rfl⟩
  | arrive rid peer =>
    cases stepped
    exact ⟨held, buffers.of_same rfl fun _ => rfl⟩
  | receive idx =>
    simp only [CacheSender.step, recvRequestInfo] at stepped
    split at stepped <;> cases stepped
    exact ⟨held, buffers.of_same rfl fun _ => rfl⟩
  | respond => exact ⟨held, buffers.respond coherent stepped⟩
  | respondThrows => exact succeeds.elim
  | startTask => exact ⟨held, buffers.startTask coherent stepped⟩
  | task rid => exact buffers.task stepped
  | taskThrows rid => exact succeeds.elim

/-- The session of a request stays until its data is sent. -/
theorem Coherent.session_of_task (coherent : s.Coherent cfg)
    (running : (s.tasks rid).isSome = true) : (s.sessions rid).isSome = true := by
  obtain ⟨counts, answers, delivery⟩ := coherent rid
  have underway := coherent.underway_le rid
  have underway_eq := delivery.underway_eq
  have task : (s.view rid).task.isSome = true := running
  simp only [RequestView.underway, task, if_true] at underway underway_eq
  have unfinished : (s.view rid).trace.finished = false := by
    by_contra finished
    simp only [Bool.not_eq_false] at finished
    simp only [finished, if_true] at underway
    omega
  have verdict : (s.view rid).trace.verdict = some true := by
    by_contra other
    have none : ¬ ((s.view rid).trace.verdict = some true ∧
        (s.view rid).position.isSignalling = false) := fun both => other both.1
    simp only [none, if_false] at underway_eq
    omega
  have handled : 0 < (s.view rid).trace.handled := by
    have decided := answers.verdict_none.not.mp (by simp [verdict])
    have pos := cfg.counterparts_pos rid
    grind -ring -linarith -order
  exact delivery.session_iff.mpr ⟨.inl handled, unfinished⟩

theorem task_step_of_holding {bufferId : Nat} (own : s.holding rid = some bufferId) :
    ∃ t, CacheSender.step cfg s (.task rid) = .ok t := by
  simp only [CacheSender.step, CacheSender.task]
  unfold holding at own
  split
  case h_3 => exact ⟨_, rfl⟩
  case h_4 => exact ⟨_, rfl⟩
  all_goals
    rename_i stage
    simp [stage] at own

/-- As long as a request is being sent, some send thread can go on: one that waits
for a buffer waits for another one that has it. -/
theorem Buffers.exists_task_step (buffers : s.Buffers sendBufferCount held)
    (coherent : s.Coherent cfg) (pos : 0 < sendBufferCount)
    (running : (s.tasks rid).isSome = true) :
    ∃ other t, CacheSender.step cfg s (.task other) = .ok t := by
  have session := coherent.session_of_task running
  by_cases full : held.length < sendBufferCount
  · -- There is a buffer for the request itself.
    refine ⟨rid, ?_⟩
    simp only [CacheSender.step, CacheSender.task]
    split
    case h_1 idle => simp [idle] at running
    case h_2 =>
      rw [if_neg (by simpa [Option.isSome_iff_ne_none] using session)]
      split
      · unfold CacheSender.assignForSend
        split
        · exact ⟨_, rfl⟩
        · obtain ⟨bufferId, next, taken⟩ := buffers.heldBy.holds.assign_ok (buffers.size ▸ full)
          exact ⟨_, by rw [taken]; rfl⟩
      · exact ⟨_, rfl⟩
    case h_3 => exact ⟨_, rfl⟩
    case h_4 => exact ⟨_, rfl⟩
    case h_5 =>
      rw [if_neg (by simpa [Option.isSome_iff_ne_none] using session)]
      exact ⟨_, rfl⟩
  · obtain ⟨bufferId, mem⟩ := List.exists_mem_of_length_pos (l := held) (by omega)
    obtain ⟨other, own⟩ := (buffers.heldBy.held_iff bufferId).mp mem
    exact ⟨other, task_step_of_holding own⟩

/-- What holds in every state of a run without exceptions. -/
structure Inv (config : SenderConfig) (sendBufferCount : Nat) (s : CacheSender) : Prop where
  shared : s.Shared
  coherent : s.Coherent config
  buffers : ∃ held, s.Buffers sendBufferCount held

theorem view_initial (rid : RequestId) :
    (CacheSender.initial sendBufferCount).view rid = .unknown := by
  simp [view, CacheSender.initial, RequestView.unknown, ResponsePoint.position, ResponsePoint.focus]

theorem Inv.initial (cfg : SenderConfig) (sendBufferCount : Nat) :
    (initial sendBufferCount).Inv cfg sendBufferCount where
  shared := ⟨List.nodup_nil, List.nodup_nil, .inr rfl⟩
  coherent rid := by
    rw [view_initial]
    exact .unknown (cfg.counterparts_pos rid)
  buffers := ⟨[], .initial sendBufferCount⟩

theorem Inv.step (inv : s.Inv cfg sendBufferCount) (proper : Proper cfg s action)
    (succeeds : Succeeds action) (stepped : CacheSender.step cfg s action = .ok t) :
    t.Inv cfg sendBufferCount := by
  obtain ⟨shared, coherent, held, buffers⟩ := inv
  exact ⟨shared.step stepped, coherent.step shared proper succeeds stepped,
    buffers.step coherent succeeds stepped⟩

theorem Inv.of_reaches (reached : Run.Reaches (CacheSender.step cfg)
      (fun s action => Proper cfg s action ∧ Succeeds action)
      (CacheSender.initial sendBufferCount) s) : s.Inv cfg sendBufferCount :=
  reached.invariant (Inv.initial cfg sendBufferCount) fun _ _ _ inv allowed stepped =>
    inv.step allowed.1 allowed.2 stepped

/-- The flag is cleared only when there is no request, and `sendAsync` has set it
before the response of its request is removed. -/
def KeepsWakeups (s : CacheSender) : SenderAction → Prop
  | .respond => s.point.isClearing = true → s.readyResponses = []
  | .announce requestId => requestId ∈ s.readyResponses
  | _ => True

instance (s : CacheSender) (action : SenderAction) : Decidable (KeepsWakeups s action) :=
  match action with
  | .respond => inferInstanceAs (Decidable (_ → _))
  | .announce _ => inferInstanceAs (Decidable (_ ∈ _))
  | .sendAsync _ | .cancelRequest _ | .arrive _ _ | .receive _ | .respondThrows | .startTask
  | .task _ | .taskThrows _ => isTrue trivial

/-- The flag is set while there are requests to respond to. -/
structure Flagged (s : CacheSender) : Prop where
  occupied : s.anyReady = true → s.readyResponses ≠ [] ∨ s.point.isEmptying = true
  announced : ∀ requestId ∈ s.readyResponses, requestId ∉ s.announcing → s.anyReady = true

/-- The response thread is awake as long as there are requests to respond to. -/
structure Awake (s : CacheSender) : Prop extends Flagged s where
  alive : s.point ≠ .dead
  checking : s.point = .checkReady → s.anyReady = true

theorem Flagged.initial (sendBufferCount : Nat) : (initial sendBufferCount).Flagged := by
  constructor <;> simp [CacheSender.initial]

theorem Awake.initial (sendBufferCount : Nat) : (initial sendBufferCount).Awake :=
  { Flagged.initial sendBufferCount with
    alive := by simp [CacheSender.initial]
    checking := by simp [CacheSender.initial] }

theorem Flagged.respond (flagged : s.Flagged) (keeps : KeepsWakeups s .respond)
    (responded : s.respond cfg = .ok t) : t.Flagged := by
  obtain ⟨occupied, announced⟩ := flagged
  unfold CacheSender.respond at responded
  split at responded
  all_goals constructor
  all_goals grind -ring -linarith -order [ResponsePoint.isEmptying, ResponsePoint.isClearing,
    KeepsWakeups, afterSignals, countDown, modifyTrace, List.mem_of_mem_erase]

theorem Flagged.step (flagged : s.Flagged) (keeps : KeepsWakeups s action)
    (stepped : CacheSender.step cfg s action = .ok t) : t.Flagged := by
  obtain ⟨occupied, announced⟩ := flagged
  cases action with
  | sendAsync rid =>
    cases stepped
    refine ⟨fun _ => .inl (List.ne_nil_of_mem List.mem_insert_self), ?_⟩
    intro other isReady unannounced
    simp only [sendAsync, modifyTrace, List.mem_insert_iff, List.mem_append,
      List.mem_singleton, not_or] at isReady unannounced
    exact announced other (isReady.resolve_left unannounced.2) unannounced.1
  | announce rid =>
    simp only [CacheSender.step] at stepped
    split at stepped <;> cases stepped
    exact ⟨fun _ => .inl (List.ne_nil_of_mem keeps), fun _ _ _ => rfl⟩
  | cancelRequest rid =>
    cases stepped
    unfold cancelRequest
    split <;> exact ⟨occupied, announced⟩
  | arrive rid peer =>
    cases stepped
    exact ⟨occupied, announced⟩
  | receive idx =>
    simp only [CacheSender.step, recvRequestInfo] at stepped
    split at stepped <;> cases stepped
    rename_i atPoint atIndex
    rw [atPoint] at occupied
    exact ⟨fun isSet => .inl ((occupied isSet).resolve_right Bool.false_ne_true), announced⟩
  | respond => exact Flagged.respond ⟨occupied, announced⟩ keeps stepped
  | respondThrows =>
    simp only [CacheSender.step, CacheSender.respondThrows] at stepped
    split at stepped <;> cases stepped
    all_goals
      rename_i atPoint
      rw [atPoint] at occupied
      exact ⟨fun isSet => .inl ((occupied isSet).resolve_right Bool.false_ne_true), announced⟩
  | startTask =>
    simp only [CacheSender.step, CacheSender.startTask] at stepped
    split at stepped <;> cases stepped
    exact ⟨occupied, announced⟩
  | task rid =>
    rw [task_frame stepped]
    exact ⟨occupied, announced⟩
  | taskThrows rid =>
    simp only [CacheSender.step, CacheSender.taskThrows] at stepped
    split at stepped <;> cases stepped
    exact ⟨occupied, announced⟩

theorem Awake.respond (awake : s.Awake) (coherent : s.Coherent cfg)
    (responded : s.respond cfg = .ok t) :
    t.point ≠ .dead ∧ (t.point = .checkReady → t.anyReady = true) := by
  obtain ⟨⟨occupied, announced⟩, alive, checking⟩ := awake
  unfold CacheSender.respond at responded
  split at responded
  case h_8 rid atPoint =>
    obtain ⟨left, remain⟩ := coherent.remain_of_responding atPoint
    cases responded
    unfold countDown
    cases left
    all_goals grind -ring -linarith -order [modifyTrace]
  all_goals grind -ring -linarith -order [ResponsePoint.isEmptying, afterSignals, modifyTrace]

theorem Awake.step (awake : s.Awake) (coherent : s.Coherent cfg) (succeeds : Succeeds action)
    (keeps : KeepsWakeups s action) (stepped : CacheSender.step cfg s action = .ok t) :
    t.Awake := by
  have ends : t.point ≠ .dead ∧ (t.point = .checkReady → t.anyReady = true) := by
    cases action with
    | respond => exact awake.respond coherent stepped
    | respondThrows | taskThrows rid => exact succeeds.elim
    | task rid =>
      rw [task_frame stepped]
      exact ⟨awake.alive, awake.checking⟩
    | sendAsync rid | arrive rid peer =>
      cases stepped
      exact ⟨awake.alive, awake.checking⟩
    | cancelRequest rid =>
      cases stepped
      unfold cancelRequest
      split <;> exact ⟨awake.alive, awake.checking⟩
    | announce rid =>
      simp only [CacheSender.step] at stepped
      split at stepped <;> cases stepped
      exact ⟨awake.alive, fun _ => rfl⟩
    | receive idx =>
      simp only [CacheSender.step, recvRequestInfo] at stepped
      split at stepped <;> cases stepped
      simp
    | startTask =>
      simp only [CacheSender.step, CacheSender.startTask] at stepped
      split at stepped <;> cases stepped
      exact ⟨awake.alive, awake.checking⟩
  exact { awake.toFlagged.step keeps stepped with alive := ends.1, checking := ends.2 }

end CacheSender

end TrtLlm
