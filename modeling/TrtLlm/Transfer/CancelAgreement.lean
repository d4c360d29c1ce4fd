import TrtLlm.Transfer.CacheReceiver
import TrtLlm.Transfer.CancelSafety

/-! # Cancelling a request of several context ranks

Each of the context ranks that a generation rank asks decides for itself whether the request was
cancelled, and the generation rank gives up as soon as one says so. They agree only if the
cancellation reaches all of them or none before the first one decides.
-/

namespace TrtLlm

/-- The context ranks of a request and the generation rank that asks them for it. -/
structure Cluster (ranks : Nat) where
  senders : Fin ranks → CacheSender
  receiver : CacheReceiver

structure ClusterConfig (ranks : Nat) where
  senders : Fin ranks → SenderConfig
  receiver : ReceiverConfig
  requestId : RequestId
  /-- The generation rank is the only counterpart of each context rank. -/
  sender_counterparts : ∀ rank, (senders rank).counterparts requestId = 1
  receiver_counterparts : receiver.counterparts requestId = ranks
  sendBufferCount : Nat
  recvBufferCount : Nat

inductive ClusterAction (ranks : Nat) where
  | send (rank : Fin ranks) (action : SenderAction)
  /-- The next step of `requestSync` on the generation rank. -/
  | receive
  deriving DecidableEq, Repr

namespace Cluster

variable {ranks : Nat}

def trace (c : Cluster ranks) (config : ClusterConfig ranks) (rank : Fin ranks) : RequestTrace :=
  (c.senders rank).traces config.requestId

def setSender (c : Cluster ranks) (rank : Fin ranks) (sender : CacheSender) : Cluster ranks :=
  { c with senders := Function.update c.senders rank sender }

@[simp]
theorem setSender_receiver (c : Cluster ranks) (rank : Fin ranks) (sender : CacheSender) :
    (c.setSender rank sender).receiver = c.receiver := rfl

def initial (config : ClusterConfig ranks) : Cluster ranks where
  senders _ := CacheSender.initial config.sendBufferCount
  receiver := (CacheReceiver.initial config.recvBufferCount).goto config.requestId .start

def receiveStep (config : ClusterConfig ranks) (c : Cluster ranks) (isReady : Bool) :
    Except TransferFailure (Cluster ranks) := do
  let receiver ← c.receiver.task config.receiver config.requestId isReady
  return { c with receiver }

/-- The generation rank goes on: its request infos arrive at the context ranks, and
it waits for their ready signals and their data. -/
def receive (config : ClusterConfig ranks) (c : Cluster ranks) :
    Except TransferFailure (Cluster ranks) :=
  match c.receiver.tasks config.requestId with
  | some (.informing _ next) =>
    if known : next < ranks then
      receiveStep config (c.setSender ⟨next, known⟩
        ((c.senders ⟨next, known⟩).arrive config.requestId 0)) false
    else receiveStep config c false
  | some (.awaiting _ next _) =>
    if known : next < ranks then
      match (c.trace config ⟨next, known⟩).answers.lookup 0 with
      | some isReady => receiveStep config c isReady
      | none => .error .waiting
    else receiveStep config c false
  | some (.receiving _) =>
    if ∀ rank, (config.senders rank).needSendCache config.requestId = true →
        0 < (c.trace config rank).sends then
      receiveStep config c false
    else .error .waiting
  | _ => receiveStep config c false

def step (config : ClusterConfig ranks) (c : Cluster ranks) :
    ClusterAction ranks → Except TransferFailure (Cluster ranks)
  | .send rank action => do
      let sender ← (c.senders rank).step (config.senders rank) action
      return c.setSender rank sender
  | .receive => c.receive config

/-- The infos of the request come from the generation rank; other requests come and
go as they like. -/
def Proper (config : ClusterConfig ranks) (c : Cluster ranks) : ClusterAction ranks → Prop
  | .send rank action =>
    (CacheSender.Proper (config.senders rank) (c.senders rank) action ∧
      CacheSender.Succeeds action) ∧ ∀ peer, action ≠ .arrive config.requestId peer
  | .receive => True

instance (config : ClusterConfig ranks) (c : Cluster ranks) (action : ClusterAction ranks) :
    Decidable (Proper config c action) :=
  match action with
  | .send rank (.arrive requestId peer) =>
    if same : requestId = config.requestId then
      isFalse fun proper => proper.2 peer (by rw [same])
    else
      decidable_of_iff
        (CacheSender.Proper (config.senders rank) (c.senders rank) (.arrive requestId peer))
        ⟨fun proper => ⟨⟨proper, trivial⟩, fun _ equal => same (SenderAction.arrive.inj equal).1⟩,
          fun proper => proper.1.1⟩
  | .send rank (.sendAsync requestId) => decidable_of_iff
      (CacheSender.Proper (config.senders rank) (c.senders rank) (.sendAsync requestId))
      ⟨fun proper => ⟨⟨proper, trivial⟩, nofun⟩, fun proper => proper.1.1⟩
  | .send _ (.announce _) | .send _ (.cancelRequest _) | .send _ (.receive _) | .send _ .respond
  | .send _ .startTask | .send _ (.task _) => isTrue ⟨⟨trivial, trivial⟩, nofun⟩
  | .send _ .respondThrows | .send _ (.taskThrows _) => isFalse fun proper => proper.1.2
  | .receive => isTrue trivial

/-- The generation rank has been told by all ranks that they send. -/
def proceeds (config : ClusterConfig ranks) (c : Cluster ranks) : Bool :=
  match c.receiver.tasks config.requestId with
  | some (.unformatting _) => true
  | some (.receiving _) => true
  | some (.freeing _) => true
  | some _ => false
  | none => (c.receiver.traces config.requestId).outcome == some .received

/-- The generation rank has put the request in the error state. -/
def givesUp (config : ClusterConfig ranks) (c : Cluster ranks) : Bool :=
  match c.receiver.tasks config.requestId with
  | none => (c.receiver.traces config.requestId).outcome == some .refused
  | some _ => false

/-- A cancellation is accepted by all ranks or by none before the first of them
decides, and by none afterwards. -/
def CancelsTogether (config : ClusterConfig ranks) (c : Cluster ranks) : ClusterAction ranks → Prop
  | .send rank .respond => (c.senders rank).point = .deciding config.requestId →
      ∀ other, (c.trace config other).cancelAccepted = (c.trace config rank).cancelAccepted
  | .send rank (.cancelRequest requestId) => requestId = config.requestId →
      requestId ∈ (c.senders rank).readyResponses →
      (c.senders rank).currentRequest ≠ some requestId →
      ∀ other, (c.trace config other).verdict = none
  | _ => True

instance (config : ClusterConfig ranks) (c : Cluster ranks) (action : ClusterAction ranks) :
    Decidable (CancelsTogether config c action) :=
  match action with
  | .send _ .respond => inferInstanceAs (Decidable (_ → _))
  | .send _ (.cancelRequest _) => inferInstanceAs (Decidable (_ → _ → _ → _))
  | .send _ (.sendAsync _) | .send _ (.announce _) | .send _ (.arrive _ _) | .send _ (.receive _)
  | .send _ .respondThrows | .send _ .startTask | .send _ (.task _) | .send _ (.taskThrows _)
  | .receive => isTrue trivial

end Cluster

variable {action : SenderAction}

namespace CacheSender

variable {cfg : SenderConfig} {s t : CacheSender} {rid : RequestId}

/-- What was decided about a request, whether its cancellation was accepted, and who
has asked for it. -/
def decision (s : CacheSender) (requestId : RequestId) : Option Bool × Bool × List Nat :=
  ((s.traces requestId).verdict, (s.traces requestId).cancelAccepted,
    (s.traces requestId).arrived)

attribute [local simp] decision modifyTrace

theorem decision_modifyTrace {f : RequestTrace → RequestTrace}
    (keeps : ∀ trace, (f trace).verdict = trace.verdict ∧
      (f trace).cancelAccepted = trace.cancelAccepted ∧ (f trace).arrived = trace.arrived)
      (other : RequestId) :
    (s.modifyTrace rid f).decision other = s.decision other := by
  by_cases same : other = rid
  · simp [same, keeps]
  · simp [same]

theorem task_decision (worked : s.task cfg rid = .ok t) (other : RequestId) :
    t.decision other = s.decision other := by
  unfold task at worked
  split at worked
  case h_1 => cases worked
  case h_2 =>
    split at worked
    · cases worked
    · split at worked
      · unfold assignForSend at worked
        split at worked
        · cases worked
          rfl
        · obtain ⟨⟨bufferId, sendResource⟩, -, assigned⟩ := Except.bind_eq_ok.mp worked
          cases assigned
          apply decision_modifyTrace
          exact fun _ => ⟨rfl, rfl, rfl⟩
      · cases worked
        rfl
  case h_3 =>
    cases worked
    apply decision_modifyTrace
    exact fun _ => ⟨rfl, rfl, rfl⟩
  case h_4 bufferId atStage =>
    cases worked
    cases bufferId with
    | none => rfl
    | some bufferId =>
      unfold freeForSend
      apply decision_modifyTrace
      exact fun _ => ⟨rfl, rfl, rfl⟩
  case h_5 =>
    split at worked <;> cases worked
    apply decision_modifyTrace
    exact fun _ => ⟨rfl, rfl, rfl⟩

theorem respond_decision (undecided : s.point ≠ .deciding rid)
    (responded : s.respond cfg = .ok t) : t.decision rid = s.decision rid := by
  unfold respond at responded
  split at responded
  case h_8 other atPoint =>
    cases responded
    unfold countDown
    split
    · apply decision_modifyTrace
      exact fun _ => ⟨rfl, rfl, rfl⟩
    · apply decision_modifyTrace
      exact fun _ => ⟨rfl, rfl, rfl⟩
    · rfl
  case h_9 other atPoint =>
    cases responded
    have ne : rid ≠ other := fun same => undecided (same ▸ atPoint)
    simp [ne]
  case h_10 other isReady next atPoint =>
    split at responded <;> cases responded
    · apply decision_modifyTrace
      exact fun _ => ⟨rfl, rfl, rfl⟩
    · unfold afterSignals
      repeat' split
      all_goals rfl
  all_goals
    repeat' split at responded
    all_goals
      cases responded
      try rfl

/-- Only the response thread at its decision, an accepted cancellation and a new
request info change the decision about a request. -/
theorem step_decision (rid : RequestId) (stepped : step cfg s action = .ok t) :
    t.decision rid = s.decision rid ∨ action = .respond ∧ s.point = .deciding rid ∧
        (t.decision rid).2 = (s.decision rid).2 ∨
      action = .cancelRequest rid ∧ rid ∈ s.readyResponses ∧ s.currentRequest ≠ some rid ∧
        (t.traces rid).verdict = (s.traces rid).verdict ∧
        (t.traces rid).arrived = (s.traces rid).arrived ∨ ∃ peer, action = .arrive rid peer ∧
        (t.traces rid).verdict = (s.traces rid).verdict ∧
        (t.traces rid).cancelAccepted = (s.traces rid).cancelAccepted := by
  cases action with
  | sendAsync other =>
    cases stepped
    apply Or.inl
    apply decision_modifyTrace
    exact fun _ => ⟨rfl, rfl, rfl⟩
  | announce other =>
    simp only [step] at stepped
    split at stepped <;> cases stepped
    exact .inl rfl
  | cancelRequest other =>
    cases stepped
    unfold cancelRequest
    split
    · rename_i accepted
      by_cases same : rid = other
      · subst same
        exact .inr (.inr (.inl ⟨rfl, accepted.1, accepted.2, by simp,
          by simp⟩))
      · exact .inl (by simp [same])
    · exact .inl rfl
  | arrive other peer =>
    cases stepped
    by_cases same : rid = other
    · subst same
      exact .inr (.inr (.inr ⟨peer, rfl, by simp [arrive],
        by simp [arrive]⟩))
    · exact .inl (by simp [arrive, same])
  | receive idx =>
    simp only [step, recvRequestInfo] at stepped
    split at stepped <;> cases stepped
    exact .inl rfl
  | respond =>
    by_cases atPoint : s.point = .deciding rid
    · simp only [step, respond, atPoint] at stepped
      cases stepped
      exact .inr (.inl ⟨rfl, atPoint, by simp⟩)
    · exact .inl (respond_decision atPoint stepped)
  | respondThrows =>
    simp only [step, respondThrows] at stepped
    split at stepped <;> cases stepped
    all_goals exact .inl rfl
  | startTask =>
    simp only [step, startTask] at stepped
    split at stepped <;> cases stepped
    exact .inl rfl
  | task other => exact .inl (task_decision stepped rid)
  | taskThrows other =>
    simp only [step, taskThrows] at stepped
    split at stepped <;> cases stepped
    exact .inl rfl

/-- What is decided stays decided. -/
theorem Inv.decision_kept {sendBufferCount : Nat} (inv : s.Inv cfg sendBufferCount)
    (decided : (s.traces rid).verdict ≠ none) (stepped : CacheSender.step cfg s action = .ok t) :
    (t.traces rid).verdict = (s.traces rid).verdict := by
  have coherent := inv.coherent rid
  obtain same | ⟨-, atPoint, -⟩ | ⟨-, isReady, notCurrent, -⟩ | ⟨peer, -, kept⟩ :=
    step_decision rid stepped
  · exact congrArg Prod.fst same
  · have pos : (s.view rid).position = .deciding :=
      position_of_focus (congrArg ResponsePoint.focus atPoint)
    exact (decided (coherent.answers.verdict_none.mpr (.inr pos))).elim
  · -- The response thread has not begun with a request that can be cancelled.
    have expected := coherent.counts.ready_iff.mp isReady
    have pos := inv.shared.position_of_not_current notCurrent
    have missing : (s.view rid).trace.handled < cfg.counterparts rid := by
      obtain ⟨-, still⟩ := expected
      grind -ring -linarith -order [Position.decided]
    exact (decided (coherent.answers.verdict_none.mpr (.inl missing))).elim
  · exact kept.1

end CacheSender

namespace Cluster

variable {ranks : Nat} {cfg : ClusterConfig ranks} {c next : Cluster ranks}
  {verdict : Fin ranks → Option Bool} {outcome : Option ReceiveOutcome} {bufferId : Option Nat}
  {isReady : Bool} {rank : Fin ranks}

/-- Whether a rank has been asked for the request. -/
def asked (stage : Option ReceiveStage) (rank : Fin ranks) : Bool :=
  match stage with
  | some .start => false
  | some (.informing _ next) => decide (rank.val < next)
  | _ => true

/-- What the generation rank has heard from the context ranks. -/
def Heard (verdict : Fin ranks → Option Bool) (outcome : Option ReceiveOutcome) :
    Option ReceiveStage → Prop
  | some .start => True
  | some (.informing _ _) => True
  | some (.awaiting _ next true) => ∀ rank, rank.val < next → verdict rank = some true
  | some (.awaiting _ _ false) => ∃ rank, verdict rank = some false
  | some (.unformatting _) => ∀ rank, verdict rank = some true
  | some (.receiving _) => ∀ rank, verdict rank = some true
  | some (.freeing _) => ∀ rank, verdict rank = some true
  | none => outcome = some .refused ∧ (∃ rank, verdict rank = some false) ∨
      outcome = some .received ∧ ∀ rank, verdict rank = some true

theorem Heard.mono {later : Fin ranks → Option Bool} {stage : Option ReceiveStage}
    (heard : Heard verdict outcome stage)
    (kept : ∀ rank isReady, verdict rank = some isReady → later rank = some isReady) :
    Heard later outcome stage := by
  unfold Heard at heard ⊢
  split
  all_goals grind -ring -linarith -order

theorem Heard.signal {isReadyFinal : Bool} (rank : Fin ranks)
    (heard : Heard verdict outcome (some (.awaiting bufferId rank.val isReadyFinal)))
    (told : verdict rank = some isReady) :
    Heard verdict outcome (some (.awaiting bufferId (rank.val + 1) (isReadyFinal && isReady))) := by
  cases isReadyFinal with
  | false => exact heard
  | true =>
    cases isReady with
    | false => exact ⟨rank, told⟩
    | true =>
      intro other earlier
      obtain before | same := Nat.lt_or_eq_of_le (Nat.le_of_lt_succ earlier)
      · exact heard other before
      · rw [Fin.ext same]
        exact told

structure Inv (config : ClusterConfig ranks) (c : Cluster ranks) : Prop where
  sender : ∀ rank, (c.senders rank).Inv (config.senders rank) config.sendBufferCount
  unasked : ∀ rank, asked (c.receiver.tasks config.requestId) rank = false →
    (c.trace config rank).arrived = []
  heard : Heard (fun rank => (c.trace config rank).verdict)
    (c.receiver.traces config.requestId).outcome (c.receiver.tasks config.requestId)
  agree : ∀ rank other, (c.trace config rank).verdict ≠ none →
    (c.trace config rank).cancelAccepted = (c.trace config other).cancelAccepted

theorem Inv.initial (cfg : ClusterConfig ranks) : (initial cfg).Inv cfg where
  sender rank := .initial _ _
  unasked rank _ := rfl
  heard := by
    simp [Cluster.initial, CacheReceiver.goto, Heard]
  agree rank other decided := (decided rfl).elim

theorem Inv.send {sender : CacheSender} (inv : c.Inv cfg)
    (proper : Proper cfg c (.send rank action))
    (together : CancelsTogether cfg c (.send rank action))
    (stepped : (c.senders rank).step (cfg.senders rank) action = .ok sender) :
    (c.setSender rank sender).Inv cfg := by
  obtain ⟨⟨allowed, succeeds⟩, foreign⟩ := proper
  have traces : ∀ other, (c.setSender rank sender).trace cfg other =
        if other = rank then sender.traces cfg.requestId else c.trace cfg other := by
    intro other
    by_cases same : other = rank <;> simp [trace, setSender, same]
  -- A step of a rank changes the decision about the request in one of two ways.
  have effect : (sender.traces cfg.requestId).arrived = (c.trace cfg rank).arrived ∧
      ((sender.traces cfg.requestId).cancelAccepted = (c.trace cfg rank).cancelAccepted ∧
          ((sender.traces cfg.requestId).verdict = (c.trace cfg rank).verdict ∨
            ∀ other, (c.trace cfg other).cancelAccepted = (c.trace cfg rank).cancelAccepted) ∨
        (sender.traces cfg.requestId).verdict = none ∧
          ∀ other, (c.trace cfg other).verdict = none) := by
    obtain same | ⟨rfl, atPoint, same⟩ | ⟨rfl, isReady, notCurrent, verdict, arrived⟩ |
      ⟨peer, arrive, -⟩ := CacheSender.step_decision cfg.requestId stepped
    · simp only [CacheSender.decision, Prod.mk.injEq] at same
      exact ⟨same.2.2, .inl ⟨same.2.1, .inl same.1⟩⟩
    · simp only [CacheSender.decision, Prod.mk.injEq] at same
      exact ⟨same.2, .inl ⟨same.1, .inr (together atPoint)⟩⟩
    · have undecided := together rfl isReady notCurrent
      exact ⟨arrived, .inr ⟨verdict.trans (undecided rank), undecided⟩⟩
    · exact (foreign peer arrive).elim
  constructor
  · intro other
    by_cases same : other = rank
    · simpa [setSender, same] using (inv.sender rank).step allowed succeeds stepped
    · simpa [setSender, same] using inv.sender other
  · intro other unasked
    have before := inv.unasked other unasked
    rw [traces]
    split
    · rename_i same
      rw [effect.1, ← same]
      exact before
    · exact before
  · apply inv.heard.mono
    intro other isReady verdict
    have decided : (c.trace cfg other).verdict = some isReady := verdict
    simp only [traces]
    split
    · rename_i same
      subst same
      have kept := (inv.sender other).decision_kept (by rw [← trace, decided]; nofun) stepped
      exact kept.trans decided
    · exact decided
  · have agree := inv.agree
    intro first second
    grind -ring -linarith -order

/-- The request info for the next rank may be on its way already. -/
structure Asking (config : ClusterConfig ranks) (c : Cluster ranks) : Prop where
  sender : ∀ rank, (c.senders rank).Inv (config.senders rank) config.sendBufferCount
  start : c.receiver.tasks config.requestId = some .start →
    ∀ rank, (c.trace config rank).arrived = []
  informing : ∀ bufferId next, c.receiver.tasks config.requestId = some (.informing bufferId next) →
    ∀ rank : Fin ranks, next < rank.val → (c.trace config rank).arrived = []
  heard : Heard (fun rank => (c.trace config rank).verdict)
    (c.receiver.traces config.requestId).outcome (c.receiver.tasks config.requestId)
  agree : ∀ rank other, (c.trace config rank).verdict ≠ none →
    (c.trace config rank).cancelAccepted = (c.trace config other).cancelAccepted

theorem Inv.asking (inv : c.Inv cfg) : c.Asking cfg where
  sender := inv.sender
  start atStage rank := inv.unasked rank (by rw [atStage]; rfl)
  informing bufferId next atStage rank later := by
    apply inv.unasked rank
    rw [atStage]
    exact decide_eq_false (Nat.not_lt_of_lt later)
  heard := inv.heard
  agree := inv.agree

/-- What the generation rank hears is what the context ranks have decided. -/
theorem Asking.receiveStep (asking : c.Asking cfg)
    (signal : ∀ bufferId next isReadyFinal, c.receiver.tasks cfg.requestId =
      some (.awaiting bufferId next isReadyFinal) → ∀ rank : Fin ranks, rank.val = next →
        (c.trace cfg rank).verdict = some isReady)
        (received : c.receiveStep cfg isReady = .ok next) :
    next.Inv cfg := by
  obtain ⟨receiver, worked, received⟩ := Except.bind_eq_ok.mp received
  cases received
  obtain ⟨sender, start, informing, heard, agree⟩ := asking
  have follows := CacheReceiver.task_follows worked
  rw [cfg.receiver_counterparts] at follows
  -- The stage and the outcome after the step, each from the ones before it.
  obtain ⟨stage, atStage⟩ : ∃ stage, receiver.tasks cfg.requestId = stage := ⟨_, rfl⟩
  obtain ⟨outcome, ended⟩ : ∃ outcome, (receiver.traces cfg.requestId).outcome = outcome := ⟨_, rfl⟩
  simp only [CacheReceiver.progress, atStage, ended] at follows
  have traces : ∀ rank, { c with receiver }.trace cfg rank = c.trace cfg rank := fun _ => rfl
  refine ⟨sender, ?_, ?_, agree⟩
  · intro rank
    generalize c.receiver.tasks cfg.requestId = before at *
    cases follows <;> grind -ring -linarith -order [asked]
  · simp only [atStage, ended, traces]
    generalize c.receiver.tasks cfg.requestId = before at *
    cases follows with
    | signal more => exact heard.signal ⟨_, more⟩ (signal _ _ _ rfl ⟨_, more⟩ rfl)
    | _ => grind -ring -linarith -order [Heard]

/-- A request info that is sent to the next rank arrives there. -/
theorem Inv.asking_arrive (inv : c.Inv cfg) (rank : Fin ranks)
    (atStage : c.receiver.tasks cfg.requestId = some (.informing bufferId rank.val)) :
    (c.setSender rank ((c.senders rank).arrive cfg.requestId 0)).Asking cfg := by
  have fresh : (c.trace cfg rank).arrived = [] :=
    inv.unasked rank (by rw [atStage]; exact decide_eq_false (Nat.lt_irrefl _))
  have proper : CacheSender.Proper (cfg.senders rank) (c.senders rank)
      (.arrive cfg.requestId 0) := by
    refine ⟨?_, ?_⟩
    · rw [cfg.sender_counterparts]
      exact Nat.one_pos
    · have none : ((c.senders rank).traces cfg.requestId).arrived = [] := fresh
      simp [none]
  have traces : ∀ other,
      (c.setSender rank ((c.senders rank).arrive cfg.requestId 0)).trace cfg other =
        if other = rank then { c.trace cfg rank with arrived := [0] }
        else c.trace cfg other := by
    intro other
    have none : ((c.senders rank).traces cfg.requestId).arrived = [] := fresh
    by_cases same : other = rank
    · simp [trace, setSender, same, CacheSender.arrive, CacheSender.modifyTrace, none]
    · simp [trace, setSender, same]
  constructor
  · intro other
    by_cases same : other = rank
    · simpa [setSender, same] using (inv.sender rank).step proper trivial rfl
    · simpa [setSender, same] using inv.sender other
  · intro atStart
    rw [setSender_receiver, atStage] at atStart
    cases atStart
  · intro bufferId next atNext other later
    rw [setSender_receiver, atStage] at atNext
    cases atNext
    have ne : other ≠ rank := fun same => Nat.lt_irrefl _ (same ▸ later)
    rw [traces, if_neg ne]
    exact inv.asking.informing _ _ atStage other later
  · apply inv.heard.mono
    intro other isReady verdict
    have decided : (c.trace cfg other).verdict = some isReady := verdict
    simp only [traces]
    split
    · rename_i same
      exact same ▸ decided
    · exact decided
  · have agree := inv.agree
    intro first second
    grind -ring -linarith -order

theorem Inv.receive (inv : c.Inv cfg) (received : c.receive cfg = .ok next) :
    next.Inv cfg := by
  unfold Cluster.receive at received
  split at received
  case h_1 bufferId idx atStage =>
    split at received
    · rename_i known
      apply (inv.asking_arrive ⟨idx, known⟩ atStage).receiveStep _ received
      simp [atStage]
    · apply inv.asking.receiveStep _ received
      simp [atStage]
  case h_2 bufferId idx isReadyFinal atStage =>
    split at received
    · rename_i known
      split at received
      · rename_i isReady told
        apply inv.asking.receiveStep _ received
        intro bufferId next isReadyFinal awaiting rank same
        rw [atStage] at awaiting
        cases awaiting
        cases same
        obtain ⟨first, rest, answers, -⟩ := List.lookup_eq_some_iff.mp told
        have mem : (0, isReady) ∈ (c.trace cfg rank).answers := by
          rw [answers]
          exact List.mem_append_right _ List.mem_cons_self
        exact ((inv.sender rank).coherent cfg.requestId).verdict_of_answer mem
      · cases received
    · rename_i known
      apply inv.asking.receiveStep _ received
      intro bufferId next isReadyFinal awaiting rank same
      rw [atStage] at awaiting
      cases awaiting
      exact (known (same ▸ rank.isLt)).elim
  case h_3 bufferId atStage =>
    split at received
    · apply inv.asking.receiveStep _ received
      simp [atStage]
    · cases received
  case h_4 notInforming notAwaiting notReceiving =>
    apply inv.asking.receiveStep _ received
    intro bufferId next isReadyFinal awaiting
    exact (notAwaiting _ _ _ awaiting).elim

theorem Inv.step {action : ClusterAction ranks} (inv : c.Inv cfg)
    (proper : Proper cfg c action) (together : CancelsTogether cfg c action)
    (stepped : c.step cfg action = .ok next) : next.Inv cfg := by
  cases action with
  | send rank action =>
    obtain ⟨sender, sent, reached⟩ := Except.bind_eq_ok.mp stepped
    cases reached
    exact inv.send proper together sent
  | receive => exact inv.receive stepped

/-- Once a rank has decided, the ranks that decide agree with it. -/
theorem Inv.no_send_of_refused (inv : c.Inv cfg) (refused : (c.trace cfg rank).verdict = some false)
    (other : Fin ranks) :
    (c.trace cfg other).sends = 0 := by
  have accepted : (c.trace cfg rank).cancelAccepted = true :=
    ((inv.sender rank).coherent cfg.requestId).cancelAccepted_of_verdict refused
  have agree := inv.agree rank other (by rw [refused]; nofun)
  apply ((inv.sender other).coherent cfg.requestId).no_send_of_cancelAccepted
  exact agree ▸ accepted

/-- A rank that decided to send has sent its data when it rests. -/
theorem Inv.sends_of_accepted (inv : c.Inv cfg) (pos : 0 < cfg.sendBufferCount)
    (accepted : (c.trace cfg rank).verdict = some true)
    (resting : (c.senders rank).Resting (cfg.senders rank)) : (c.trace cfg rank).sends =
      if (cfg.senders rank).needSendCache cfg.requestId then 1 else 0 := by
  have sender := inv.sender rank
  have sent := (sender.coherent cfg.requestId).sends_of_quiet accepted
    (resting.quiet cfg.requestId) (by simp [CacheSender.view, resting.no_queue])
    (resting.no_task sender pos cfg.requestId)
  rw [Bool.and_true] at sent
  exact sent.2

/-- If a cancellation reaches all context ranks or none of them before the first one
decides, then no rank sends data once the generation rank gives up, and each rank
sends its data exactly once if it proceeds. -/
theorem cancel_agreement (config : ClusterConfig ranks) (positive : 0 < config.sendBufferCount)
    (c : Cluster ranks)
    (reached : Run.Reaches (step config)
      (fun c action => Proper config c action ∧ CancelsTogether config c action)
      (initial config) c) :
    (c.givesUp config = true → ∀ rank, (c.trace config rank).sends = 0) ∧
    (c.proceeds config = true → ∀ rank, (c.trace config rank).sends ≤ 1 ∧
      ((c.senders rank).Resting (config.senders rank) → (c.trace config rank).sends =
        if (config.senders rank).needSendCache config.requestId then 1 else 0)) := by
  have inv : c.Inv config := by
    apply reached.invariant (Inv.initial config)
    intro before action after inv allowed stepped
    exact inv.step allowed.1 allowed.2 stepped
  have heard := inv.heard
  constructor
  · intro gaveUp rank
    have refused : ∃ other, (c.trace config other).verdict = some false := by
      unfold givesUp at gaveUp
      grind -ring -linarith -order [Heard]
    obtain ⟨other, refused⟩ := refused
    exact inv.no_send_of_refused refused rank
  · intro proceeded rank
    have accepted : (c.trace config rank).verdict = some true := by
      unfold proceeds at proceeded
      grind -ring -linarith -order [Heard]
    exact ⟨((inv.sender rank).coherent config.requestId).sends_le,
      inv.sends_of_accepted positive accepted⟩

/-- Two context ranks and request 1, without agents. -/
def twoRanks : ClusterConfig 2 where
  senders _ := CacheSender.oneCounterpart
  receiver := { counterparts := fun _ => 2 }
  requestId := 1
  sender_counterparts _ := rfl
  receiver_counterparts := rfl
  sendBufferCount := 1
  recvBufferCount := 1

def submitBoth : List (ClusterAction 2) :=
  [.send 0 (.sendAsync 1), .send 0 (.announce 1), .send 1 (.sendAsync 1), .send 1 (.announce 1)]

/-- The generation rank asks both ranks, and they read and answer its infos in
a number of steps. -/
def askBoth (first second : Nat) : List (ClusterAction 2) :=
  List.replicate 4 .receive ++
    [.send 0 .respond, .send 0 .respond, .send 0 (.receive 0)] ++
    List.replicate first (.send 0 .respond) ++
    [.send 1 .respond, .send 1 .respond, .send 1 (.receive 0)] ++
    List.replicate second (.send 1 .respond) ++ List.replicate 3 .receive

def deliver (rank : Fin 2) : List (ClusterAction 2) :=
  .send rank .startTask :: List.replicate 4 (.send rank (.task 1))

/-- With the request cancelled on no rank both send it, and with the request cancelled
on both ranks none does. -/
theorem cancelOnBoth_agree :
    (∃ c : Cluster 2, c.proceeds twoRanks = true ∧ (c.trace twoRanks 0).sends ≤ 1 ∧
      (c.trace twoRanks 0).sends = 1) ∧
    ∃ c : Cluster 2, c.givesUp twoRanks = true ∧
      ∀ rank, (c.trace twoRanks rank).sends = 0 := by
  obtain ⟨c, reached, proceeds, once⟩ : ∃ c : Cluster 2, Run.Reaches (step twoRanks)
      (fun c action => Proper twoRanks c action ∧ CancelsTogether twoRanks c action)
      (initial twoRanks) c ∧ c.proceeds twoRanks = true ∧ (c.trace twoRanks 0).sends = 1 :=
    Run.exists_reaches (submitBoth ++ askBoth 10 10 ++ deliver 0 ++ deliver 1) (by decide +kernel)
  obtain ⟨d, reachedToo, gaveUp⟩ : ∃ d : Cluster 2, Run.Reaches (step twoRanks)
      (fun c action => Proper twoRanks c action ∧ CancelsTogether twoRanks c action)
      (initial twoRanks) d ∧ d.givesUp twoRanks = true :=
    Run.exists_reaches (submitBoth ++ [.send 0 (.cancelRequest 1), .send 1 (.cancelRequest 1)] ++
      askBoth 11 11) (by decide +kernel)
  exact ⟨⟨c, proceeds, ((cancel_agreement twoRanks Nat.one_pos c reached).2 proceeds 0).1, once⟩,
    ⟨d, gaveUp, (cancel_agreement twoRanks Nat.one_pos d reachedToo).1 gaveUp⟩⟩

/-- The request is cancelled on rank 0 only: the generation rank gives up, and rank 1
sends its data. -/
theorem cancelOnOne_disagree :
    ∃ c : Cluster 2, Run.Reaches (step twoRanks) (Proper twoRanks) (initial twoRanks) c ∧
      c.givesUp twoRanks = true ∧ (c.trace twoRanks 1).sends = 1 :=
  Run.exists_reaches (submitBoth ++ [.send 0 (.cancelRequest 1)] ++ askBoth 11 10 ++ deliver 1)
    (by decide +kernel)

end Cluster

end TrtLlm
