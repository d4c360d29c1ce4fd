import TrtLlm.Transfer.SenderProgress

/-! # Cancelled requests are not sent

On one context rank a request whose cancellation was accepted is never sent, and its counterparts
all get the same ready signal once they have all asked. The signal fails when a request is submitted
while the response thread clears `mAnyReady`: the thread then sleeps although there is a request.
-/

namespace TrtLlm

open ResponsePoint (focus position)

/-- The steps that the threads of the sender take on their own. -/
def SenderAction.isInternal : SenderAction → Bool
  | .announce _ => true
  | .receive _ => true
  | .respond => true
  | .startTask => true
  | .task _ => true
  | _ => false

namespace CacheSender

/-- No thread can go on before a new call or a new request info. -/
def Resting (config : SenderConfig) (s : CacheSender) : Prop :=
  ∀ action t, action.isInternal = true → step config s action ≠ .ok t

/-- The response thread has an info of a request that is not submitted here yet,
and waits for it. -/
def AwaitsSubmission (s : CacheSender) : Prop :=
  ∃ requestId, s.point = .spinning requestId ∧ (s.traces requestId).submitted = false

variable {cfg : SenderConfig} {s : CacheSender} {rid : RequestId}
  {sendBufferCount : Nat}

section

variable (resting : Resting cfg s)
include resting

theorem Resting.no_announcing : s.announcing = [] := by
  apply List.eq_nil_iff_forall_not_mem.mpr
  intro rid mem
  exact resting (.announce rid) _ rfl (if_pos mem)

theorem Resting.no_queue : s.sendQueue = [] := by
  cases queue : s.sendQueue with
  | nil => rfl
  | cons rid rest =>
    exact absurd (by simp [step, startTask, queue]; rfl) (resting .startTask _ rfl)

theorem Resting.no_task (inv : s.Inv cfg sendBufferCount)
    (pos : 0 < sendBufferCount) (rid : RequestId) : s.tasks rid = none := by
  cases running : s.tasks rid with
  | none => rfl
  | some stage =>
    obtain ⟨held, buffers⟩ := inv.buffers
    obtain ⟨other, t, stepped⟩ := buffers.exists_task_step inv.coherent pos
      (Option.isSome_iff_exists.mpr ⟨stage, running⟩)
    exact (resting (.task other) t rfl stepped).elim

theorem Resting.inbox_nil (atPoint : s.point = .receiving) : s.inbox = [] := by
  cases infos : s.inbox with
  | nil => rfl
  | cons info rest =>
    exact absurd (by simp [step, recvRequestInfo, infos, atPoint]; rfl) (resting (.receive 0) _ rfl)

/-- The ready signals of a request are sent without waiting. -/
theorem Resting.quiet (rid : RequestId) : (s.view rid).position.isSignalling = false := by
  unfold view position
  cases atPoint : s.point with
  | signalling other isReady next =>
    exfalso
    have waits : ∀ t, s.respond cfg ≠ .ok t := fun t => resting .respond t rfl
    simp only [respond, atPoint] at waits
    split at waits
    all_goals exact waits _ rfl
  | _ =>
    simp only [focus]
    try split
    all_goals rfl

/-- A thread that rests and is alive waits for a flag, an info or a request. -/
theorem Resting.point_cases (inv : s.Inv cfg sendBufferCount)
    (pos : 0 < sendBufferCount) (alive : s.point ≠ .dead) :
    s.point = .idle ∧ s.anyReady = false ∨ s.point = .receiving ∨ ∃ rid, s.point = .spinning rid ∧
        ¬ (s.anyReady = true ∧ rid ∈ s.readyResponses) := by
  have waits : ∀ t, s.respond cfg ≠ .ok t := fun t => resting .respond t rfl
  unfold respond at waits
  split at waits
  case h_1 atPoint =>
    split at waits
    · exact (waits _ rfl).elim
    · rename_i unset
      exact .inl ⟨atPoint, Bool.not_eq_true _ ▸ unset⟩
  case h_3 atPoint => exact .inr (.inl atPoint)
  case h_7 rid atPoint =>
    split at waits
    · exact (waits _ rfl).elim
    · rename_i unset
      exact .inr (.inr ⟨rid, atPoint, unset⟩)
  case h_11 rid atPoint =>
    rw [if_pos (by simp [resting.no_task inv pos rid])] at waits
    exact (waits _ rfl).elim
  case h_18 atPoint => exact (alive atPoint).elim
  all_goals
    repeat' split at waits
    all_goals exact (waits _ rfl).elim

/-- When the sender rests, a request that all counterparts asked for is settled. -/
theorem Resting.settled (inv : s.Inv cfg sendBufferCount)
    (awake : s.Awake) (pos : 0 < sendBufferCount) (free : ¬ s.AwaitsSubmission)
    (submitted : (s.traces rid).submitted = true)
    (asked : (s.traces rid).arrived.length = cfg.counterparts rid) :
    cfg.counterparts rid ≤ (s.traces rid).handled ∧ (s.view rid).position = .away := by
  have counts := (inv.coherent rid).counts
  have unannounced := resting.no_announcing
  obtain ⟨atPoint, unset⟩ | atPoint | ⟨other, atPoint, waiting⟩ :=
    resting.point_cases inv pos awake.alive
  · -- Without the flag there is no request left to respond to.
    have away : (s.view rid).position = .away := by
      simp [view, atPoint, position, focus]
    refine ⟨?_, away⟩
    by_contra missing
    have isReady : rid ∈ s.readyResponses :=
      counts.ready_iff.mpr ⟨submitted, .inl (Nat.lt_of_not_le missing)⟩
    have set := awake.announced rid isReady (by simp [unannounced])
    rw [unset] at set
    cases set
  · have away : (s.view rid).position = .away := by
      simp [view, atPoint, position, focus]
    have counted := counts.counted
    have none : (s.view rid).waiting = 0 := by
      simp [view, resting.inbox_nil atPoint]
    rw [away, none] at counted
    refine ⟨?_, away⟩
    rw [← asked]
    exact Nat.le_of_eq (counted.trans (Nat.zero_add _))
  · -- A request that the thread waits for would be found once it is submitted.
    exfalso
    have position : (s.view other).position = .looking :=
      position_of_focus (congrArg focus atPoint)
    have known : (s.traces other).submitted = true := by
      by_contra unknown
      exact free ⟨other, atPoint, Bool.not_eq_true _ ▸ unknown⟩
    have missing : (s.view other).trace.handled < cfg.counterparts other := by
      have total := (inv.coherent other).counts.total_le
      rw [position] at total
      simp only [Position.inHand] at total
      omega
    have isReady : other ∈ s.readyResponses :=
      (inv.coherent other).counts.ready_iff.mpr ⟨known, .inl missing⟩
    exact waiting ⟨awake.announced other isReady (by simp [unannounced]), isReady⟩

end

theorem Awake.of_reaches (reached : Run.Reaches (CacheSender.step cfg)
      (fun s action => (Proper cfg s action ∧ Succeeds action) ∧ KeepsWakeups s action)
      (CacheSender.initial sendBufferCount) s) : s.Inv cfg sendBufferCount ∧ s.Awake := by
  apply reached.invariant
  · exact ⟨Inv.initial cfg sendBufferCount, Awake.initial sendBufferCount⟩
  · intro before action after inv allowed stepped
    exact ⟨inv.1.step allowed.1.1 allowed.1.2 stepped,
      inv.2.step inv.1.coherent allowed.1.2 allowed.2 stepped⟩

/-- In every state of a run without exceptions a request whose cancellation was accepted is not
sent, the counterparts got the same ready signal, and data is sent once at most and only after all
were told so. If no wakeup is lost, each counterpart of a request that all asked for has its signal
when the sender rests, and the data was sent if and only if it is true. -/
theorem cancelled_not_sent (config : SenderConfig) (sendBufferCount : Nat)
    (positive : 0 < sendBufferCount) :
    (∀ s, Run.Reaches (step config) (fun s action => Proper config s action ∧ Succeeds action)
        (initial sendBufferCount) s →
      ∀ requestId, ((s.traces requestId).cancelAccepted = true → (s.traces requestId).sends = 0) ∧
        (∃ isReady count, count ≤ config.counterparts requestId ∧
          (s.traces requestId).answers = RequestView.signals isReady count) ∧
        (s.traces requestId).sends ≤ 1 ∧
        (0 < (s.traces requestId).sends → (s.traces requestId).answers =
          RequestView.signals true (config.counterparts requestId))) ∧
    ∀ s, Run.Reaches (step config)
        (fun s action => (Proper config s action ∧ Succeeds action) ∧ KeepsWakeups s action)
        (initial sendBufferCount) s →
      Resting config s → ¬ s.AwaitsSubmission →
      ∀ requestId, (s.traces requestId).submitted = true →
        (s.traces requestId).arrived.length = config.counterparts requestId →
        ∃ isReady, (s.traces requestId).answers =
            RequestView.signals isReady (config.counterparts requestId) ∧
          (s.traces requestId).finished = isReady ∧
          (s.traces requestId).sends =
            if config.needSendCache requestId && isReady then 1 else 0 := by
  constructor
  · intro s reached requestId
    have coherent := (Inv.of_reaches reached).coherent requestId
    exact ⟨coherent.no_send_of_cancelAccepted, coherent.answers_signals, coherent.sends_le,
      fun sent => (coherent.answers_of_sends sent).2⟩
  · intro s reached resting free requestId submitted asked
    obtain ⟨inv, awake⟩ := Awake.of_reaches reached
    obtain ⟨counted, away⟩ := resting.settled inv awake positive free submitted asked
    exact (inv.coherent requestId).settled counted away (by simp [view, resting.no_queue])
      (resting.no_task inv positive requestId)

/-- One counterpart for each request. -/
def oneCounterpart : SenderConfig where
  counterparts _ := 1
  counterparts_pos _ := Nat.one_pos

/-- Request 1 is submitted and cancelled, and its counterpart asks for it. -/
def cancelThenAsk : List SenderAction :=
  [.sendAsync 1, .announce 1, .cancelRequest 1, .arrive 1 0, .respond, .respond, .receive 0] ++
    List.replicate 11 .respond

/-- Request 2 is submitted between the check that there is no request left and the
clearing of `mAnyReady`; its counterpart asks for it. -/
def submitWhileClearing : List SenderAction :=
  cancelThenAsk.take 16 ++ [.sendAsync 2, .announce 2, .respond, .respond, .arrive 2 0]

/-- The state after some actions on a fresh sender. -/
def after (actions : List SenderAction) : CacheSender :=
  (Run.trace (step oneCounterpart)
    (fun s action => Proper oneCounterpart s action ∧ Succeeds action) actions (initial 1)).getD
    (initial 1)

/-- A sender without anything to do rests. -/
theorem resting_of_idle (idle : s.point = .idle) (unset : s.anyReady = false)
    (unannounced : s.announcing = []) (unqueued : s.sendQueue = [])
    (quiet : ∀ rid, s.tasks rid = none) : Resting cfg s := by
  intro action t internal stepped
  cases action with
  | announce rid => simp [step, unannounced] at stepped
  | receive idx => simp [step, recvRequestInfo, idle] at stepped
  | respond => simp [step, respond, idle, unset] at stepped
  | startTask => simp [step, startTask, unqueued] at stepped
  | task rid => simp [step, task, quiet] at stepped
  | _ => cases internal

theorem not_awaits_of_idle (idle : s.point = .idle) : ¬ s.AwaitsSubmission := by
  intro waits
  obtain ⟨rid, atPoint, -⟩ := waits
  rw [idle] at atPoint
  cases atPoint

/-- The counterpart of the cancelled request is told so, and nothing is sent. -/
theorem cancelThenAsk_refused :
    (((after cancelThenAsk).traces 1).cancelAccepted = true →
      ((after cancelThenAsk).traces 1).sends = 0) ∧
    ∃ isReady, ((after cancelThenAsk).traces 1).answers = RequestView.signals isReady 1 ∧
      ((after cancelThenAsk).traces 1).finished = isReady ∧
      ((after cancelThenAsk).traces 1).sends = if true && isReady then 1 else 0 := by
  have traced : Run.trace (step oneCounterpart)
      (fun s action => Proper oneCounterpart s action ∧ Succeeds action) cancelThenAsk
      (initial 1) = some (after cancelThenAsk) := by
    rfl
  have kept : Run.trace (step oneCounterpart)
      (fun s action => (Proper oneCounterpart s action ∧ Succeeds action) ∧ KeepsWakeups s action)
      cancelThenAsk (initial 1) = some (after cancelThenAsk) := by
    rfl
  have result := cancelled_not_sent oneCounterpart 1 Nat.one_pos
  have resting : Resting oneCounterpart (after cancelThenAsk) :=
    resting_of_idle rfl rfl rfl rfl fun _ => rfl
  exact ⟨(result.1 _ (Run.reaches_of_trace traced) 1).1,
    result.2 _ (Run.reaches_of_trace kept) resting (not_awaits_of_idle rfl) 1 rfl rfl⟩

/-- The sender rests with request 2 submitted and its counterpart waiting for a
ready signal that it never got. -/
theorem submitWhileClearing_unanswered :
    ∃ s, Run.Reaches (step oneCounterpart)
        (fun s action => Proper oneCounterpart s action ∧ Succeeds action) (initial 1) s ∧
      Resting oneCounterpart s ∧ ¬ s.AwaitsSubmission ∧ (s.traces 2).submitted = true ∧
      (s.traces 2).arrived.length = oneCounterpart.counterparts 2 ∧ (s.traces 2).answers = [] := by
  have traced : Run.trace (step oneCounterpart)
      (fun s action => Proper oneCounterpart s action ∧ Succeeds action) submitWhileClearing
      (initial 1) = some (after submitWhileClearing) := by
    rfl
  have resting : Resting oneCounterpart (after submitWhileClearing) :=
    resting_of_idle rfl rfl rfl rfl fun _ => rfl
  exact ⟨_, Run.reaches_of_trace traced, resting, not_awaits_of_idle rfl, rfl, rfl, rfl⟩

/-- While no critical section is left half way, the flag says whether there are responses, if it is
cleared only when there is none and set only for a response that is still there. -/
theorem anyReady_iff (config : SenderConfig) (sendBufferCount : Nat) {s : CacheSender}
    (reached : Run.Reaches (step config) KeepsWakeups (initial sendBufferCount) s)
    (called : s.announcing = []) (removed : s.point.isEmptying = false) :
    (s.anyReady = true ↔ s.readyResponses ≠ []) ∧
      (s.point = .idle → s.readyResponses ≠ [] → s.respond config ≠ .error .waiting) := by
  have flagged : s.Flagged := reached.invariant (.initial sendBufferCount)
    fun _ _ _ flagged keeps stepped => flagged.step keeps stepped
  have set : s.readyResponses ≠ [] → s.anyReady = true := by
    intro some
    obtain ⟨rid, isReady⟩ := List.exists_mem_of_ne_nil _ some
    exact flagged.announced rid isReady (by simp [called])
  refine ⟨⟨fun isSet => (flagged.occupied isSet).resolve_right (by simp [removed]), set⟩, ?_⟩
  intro idle some
  simp [respond, idle, set some]

theorem anyReady_iff_submitted : ∃ s, Run.Reaches (step oneCounterpart) KeepsWakeups (initial 1) s ∧
    s.readyResponses = [1] ∧ s.anyReady = true := by
  obtain ⟨s, reached, ready, called, removed⟩ : ∃ s,
      Run.Reaches (step oneCounterpart) KeepsWakeups (initial 1) s ∧ s.readyResponses = [1] ∧
        s.announcing = [] ∧ s.point.isEmptying = false :=
    Run.exists_reaches [.sendAsync 1, .announce 1] (by decide)
  exact ⟨s, reached, ready, (anyReady_iff oneCounterpart 1 reached called removed).1.mpr
    (by simp [ready])⟩

/-- The thread sleeps with request 2 ready. -/
theorem anyReady_lost : ∃ s, Run.Reaches (step oneCounterpart) (fun _ _ => True) (initial 1) s ∧
    s.announcing = [] ∧ s.point = .idle ∧ s.readyResponses = [2] ∧ s.anyReady = false :=
  Run.exists_reaches submitWhileClearing (by decide)

end CacheSender

end TrtLlm
