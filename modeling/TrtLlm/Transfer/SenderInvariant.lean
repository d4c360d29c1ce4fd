import TrtLlm.Transfer.SenderRequest

/-! # Every request of a sender

A step of the sender makes one of the changes of `RequestView.Change` to one
request and leaves its view of the others as it is.
-/

namespace TrtLlm

namespace ResponsePoint

/-- The value of `mCurrentRequest` while the thread is at a point. -/
def current : ResponsePoint → Option RequestId
  | .idle => none
  | .checkReady => none
  | .receiving => none
  | .received _ => none
  | .looking requestId => some requestId
  | .lookingAgain requestId => some requestId
  | .spinning requestId => some requestId
  | .responding requestId => some requestId
  | .deciding requestId => some requestId
  | .signalling requestId _ _ => some requestId
  | .delivering requestId => some requestId
  | .removing requestId => some requestId
  | .refusing requestId => some requestId
  | .refused requestId => some requestId
  | .removed current => current
  | .clearing current => current
  | .finishing current => current
  | .dead => none

/-- The request that the thread deals with at a point, and where it is with it. -/
def focus : ResponsePoint → Option (RequestId × CacheSender.Position)
  | .received requestId => some (requestId, .received)
  | .looking requestId => some (requestId, .looking)
  | .lookingAgain requestId => some (requestId, .looking)
  | .spinning requestId => some (requestId, .looking)
  | .responding requestId => some (requestId, .responding)
  | .deciding requestId => some (requestId, .deciding)
  | .signalling requestId isReady next => some (requestId, .signalling isReady next)
  | .delivering requestId => some (requestId, .delivering)
  | .removing requestId => some (requestId, .removing)
  | .refusing requestId => some (requestId, .refusing)
  | _ => none

def position (point : ResponsePoint) (requestId : RequestId) : CacheSender.Position :=
  match point.focus with
  | some (other, position) => if other = requestId then position else .away
  | none => .away

end ResponsePoint

namespace CacheSender

open ResponsePoint (position focus)

def view (s : CacheSender) (requestId : RequestId) : RequestView where
  ready := requestId ∈ s.readyResponses
  cancelled := requestId ∈ s.cancelledRequests
  remain := s.remainSendCount requestId
  session := s.sessions requestId
  waiting := s.inbox.countP (fun info => info.1 = requestId)
  queued := s.sendQueue.count requestId
  task := s.tasks requestId
  position := s.point.position requestId
  trace := s.traces requestId

/-- What does not belong to one request. -/
structure Shared (s : CacheSender) : Prop where
  ready_nodup : s.readyResponses.Nodup
  cancelled_nodup : s.cancelledRequests.Nodup
  current_eq : s.point = .dead ∨ s.currentRequest = s.point.current

/-- A step changes at most the view of one request. -/
def Touches (config : SenderConfig) (s t : CacheSender) : Prop :=
  ∀ requestId, t.view requestId = s.view requestId ∨
    RequestView.Change (config.counterparts requestId) (config.needSendCache requestId)
      (s.view requestId) (t.view requestId)

variable {cfg : SenderConfig} {s t : CacheSender} {rid : RequestId}

theorem Touches.of_change (rid : RequestId) {w : RequestView}
    (changed : RequestView.Change (cfg.counterparts rid) (cfg.needSendCache rid) (s.view rid) w)
    (own : t.view rid = w) (others : ∀ other, other ≠ rid → t.view other = s.view other) :
    Touches cfg s t := by
  intro other
  by_cases same : other = rid
  · rw [same, own]
    exact .inr changed
  · exact .inl (others other same)

theorem Touches.of_same (same : ∀ rid, t.view rid = s.view rid) : Touches cfg s t :=
  fun rid => .inl (same rid)

theorem Shared.position_of_not_current (shared : s.Shared)
    (notCurrent : s.currentRequest ≠ some rid) :
    (s.view rid).position = .away ∨ (s.view rid).position = .received := by
  unfold view position
  obtain dead | current := shared.current_eq
  · simp [dead, focus]
  · rw [current] at notCurrent
    cases atPoint : s.point <;>
      grind -ring -linarith -order [ResponsePoint.current, focus]

/-- Where the thread is with the request it deals with. -/
theorem position_of_focus {pos : Position} (focus : s.point.focus = some (rid, pos)) :
    (s.view rid).position = pos := by
  simp [view, position, focus]

open Touches (of_same of_change)

/-- The thread goes on to a point where it is as far with its request. -/
theorem goto_touches {point : ResponsePoint} (same : point.focus = s.point.focus) :
    Touches cfg s { s with point } := by
  apply of_same
  intro other
  simp [view, position, same]

/-- The thread finds the response of its request. -/
theorem found_touches (looks : s.point.focus = some (rid, .looking))
    (isReady : rid ∈ s.readyResponses) :
    Touches cfg s { s with point := .responding rid } := by
  apply of_change rid (.found (position_of_focus looks) isReady)
  · simp [view, position, focus]
  · intro other ne
    have next : (ResponsePoint.responding rid).focus = some (rid, .responding) := rfl
    simp [view, position, looks, next, Ne.symm ne]

attribute [local simp] view position focus modifyTrace

theorem sendAsync_touches (fresh : (s.traces rid).submitted = false) :
    Touches cfg s (s.sendAsync rid) := by
  apply of_change rid (.submit fresh)
  · simp [sendAsync]
  · intro other ne
    simp [sendAsync, ne]

theorem cancelRequest_touches (shared : s.Shared) : Touches cfg s (s.cancelRequest rid) := by
  unfold cancelRequest
  split
  · rename_i accepted
    obtain ⟨isReady, notCurrent⟩ := accepted
    have pos := shared.position_of_not_current notCurrent
    apply of_change rid (.cancel isReady pos)
    · simp
    · intro other ne
      simp [ne]
  · exact of_same fun _ => rfl

theorem arrive_touches {peer : Nat} (lt : peer < cfg.counterparts rid)
    (fresh : peer ∉ (s.traces rid).arrived) : Touches cfg s (s.arrive rid peer) := by
  apply of_change rid (.arrive lt fresh)
  · simp [arrive]
  · intro other ne
    simp [arrive, ne, Ne.symm ne]

theorem recvRequestInfo_touches {idx : Nat} (received : s.recvRequestInfo idx = .ok t) :
    Touches cfg s t := by
  unfold recvRequestInfo at received
  split at received
  · rename_i rid peer atPoint atIndex
    cases received
    obtain ⟨bound, entry⟩ := List.getElem?_eq_some_iff.mp atIndex
    -- The count of the infos of each request, before the one at the index is taken.
    have counted : ∀ other, s.inbox.countP (fun info => info.1 = other) =
        (s.inbox.eraseIdx idx).countP (fun info => info.1 = other) +
          if rid = other then 1 else 0 := by
      intro other
      rw [← (List.getElem_cons_eraseIdx_perm bound).countP_eq, List.countP_cons, entry]
      simp
    have arrived : (s.view rid).waiting =
        (s.inbox.eraseIdx idx).countP (fun info => info.1 = rid) + 1 := by
      simpa using counted rid
    have away : (s.view rid).position = .away := by
      simp [atPoint]
    apply of_change rid (.receive arrived away)
    · simp
      rfl
    · intro other ne
      simp [atPoint, ne, Ne.symm ne, counted other]
  · cases received

/-- Every request is in one of the states that the changes lead to. -/
def Coherent (config : SenderConfig) (s : CacheSender) : Prop :=
  ∀ requestId, (s.view requestId).Coherent (config.counterparts requestId)
    (config.needSendCache requestId)

/-- An info that is being counted is still expected. -/
theorem Coherent.remain_of_responding (coherent : s.Coherent cfg)
    (atPoint : s.point = .responding rid) : ∃ left, s.remainSendCount rid = some (left + 1) := by
  have pos := position_of_focus (congrArg focus atPoint)
  have cnt := (coherent rid).counts
  have missing : (s.view rid).trace.handled < cfg.counterparts rid := by
    have total := cnt.total_le
    simp only [pos, Position.inHand] at total
    omega
  have remain := cnt.remain_eq
  rw [if_neg (by simp [-view, pos, Nat.ne_of_lt missing])] at remain
  obtain ⟨left, size⟩ := Nat.exists_eq_succ_of_ne_zero (Nat.sub_ne_zero_of_lt missing)
  rw [size] at remain
  exact ⟨left, remain⟩

theorem countDown_touches (coherent : s.Coherent cfg) (atPoint : s.point = .responding rid) :
    Touches cfg s (s.countDown rid) := by
  have pos := position_of_focus (congrArg focus atPoint)
  obtain ⟨left, remain⟩ := coherent.remain_of_responding atPoint
  unfold countDown
  split
  · rename_i last
    apply of_change rid (.countLast pos last)
    · simp
    · intro other ne
      simp [atPoint, ne, Ne.symm ne]
  · rename_i count more
    apply of_change rid (.count pos more)
    · simp
    · intro other ne
      simp [atPoint, ne, Ne.symm ne]
  · rename_i notOne notMore
    exfalso
    rw [remain] at notOne notMore
    cases left with
    | zero => exact notOne rfl
    | succ left => exact notMore left rfl

theorem afterSignals_touches {isReady : Bool} {next : Nat}
    (atPoint : s.point = .signalling rid isReady next) (all : cfg.counterparts rid ≤ next) :
    Touches cfg s (s.afterSignals cfg rid isReady) := by
  have pos := position_of_focus (congrArg focus atPoint)
  unfold afterSignals
  split
  · rename_i decided
    rw [decided] at pos
    split
    · apply of_change rid (.deliver pos all)
      · simp
      · intro other ne
        simp [atPoint, ne, Ne.symm ne]
    · apply of_change rid (.enqueue pos all)
      · simp
      · intro other ne
        simp [atPoint, Ne.symm ne]
  · rename_i decided
    rw [Bool.not_eq_true] at decided
    rw [decided] at pos
    apply of_change rid (.reject pos all)
    · simp
    · intro other ne
      simp [atPoint, Ne.symm ne]

theorem respond_touches (shared : s.Shared) (coherent : s.Coherent cfg)
    (responded : s.respond cfg = .ok t) : Touches cfg s t := by
  unfold respond at responded
  split at responded
  case h_1 atPoint =>
    split at responded <;> cases responded
    exact goto_touches (congrArg focus atPoint).symm
  case h_2 atPoint =>
    have idle : s.currentRequest = none := by
      simpa [atPoint, ResponsePoint.current] using shared.current_eq
    rw [idle] at responded
    split at responded <;> cases responded
    all_goals exact goto_touches (congrArg focus atPoint).symm
  case h_3 => cases responded
  case h_4 rid atPoint =>
    cases responded
    have pos := position_of_focus (congrArg focus atPoint)
    apply of_change rid (.adopt pos)
    · simp
    · intro other ne
      simp [atPoint, ne, Ne.symm ne]
  case h_5 rid atPoint =>
    have focus := congrArg focus atPoint
    split at responded <;> cases responded
    · rename_i isReady
      exact found_touches focus isReady
    · exact goto_touches focus.symm
  case h_6 rid atPoint =>
    have focus := congrArg focus atPoint
    split at responded <;> cases responded
    · rename_i isReady
      exact found_touches focus isReady
    · exact goto_touches focus.symm
  case h_7 rid atPoint =>
    split at responded <;> cases responded
    rename_i isReady
    exact found_touches (congrArg focus atPoint) isReady.2
  case h_8 rid atPoint =>
    cases responded
    exact countDown_touches coherent atPoint
  case h_9 rid atPoint =>
    cases responded
    have pos := position_of_focus (congrArg focus atPoint)
    have unmarked : decide (rid ∉ s.cancelledRequests) = true ↔
        ¬ (s.view rid).cancelled := decide_eq_true_iff
    apply of_change rid (.decide pos unmarked)
    · simp
    · intro other ne
      simp [atPoint, ne, Ne.symm ne]
  case h_10 rid isReady next atPoint =>
    split at responded
    · rename_i more
      cases responded
      have pos := position_of_focus (congrArg focus atPoint)
      apply of_change rid (.signal pos more)
      · simp
      · intro other ne
        simp [atPoint, ne, Ne.symm ne]
    · rename_i all
      cases responded
      exact afterSignals_touches atPoint (Nat.le_of_not_lt all)
  case h_11 rid atPoint =>
    split at responded <;> cases responded
    have pos := position_of_focus (congrArg focus atPoint)
    apply of_change rid (.delivered pos)
    · simp
    · intro other ne
      simp [atPoint, Ne.symm ne]
  case h_12 rid atPoint =>
    cases responded
    have pos := position_of_focus (congrArg focus atPoint)
    apply of_change rid (.remove pos)
    · simp [shared.ready_nodup.mem_erase_iff]
    · intro other ne
      simp [atPoint, Ne.symm ne, List.mem_erase_of_ne ne]
  case h_13 rid atPoint =>
    cases responded
    have pos := position_of_focus (congrArg focus atPoint)
    apply of_change rid (.refuse pos)
    · simp [shared.ready_nodup.mem_erase_iff, shared.cancelled_nodup.mem_erase_iff]
    · intro other ne
      simp [atPoint, ne, Ne.symm ne, List.mem_erase_of_ne ne]
  case h_14 rid atPoint =>
    cases responded
    exact goto_touches (s := { s with currentRequest := none })
      (congrArg focus atPoint).symm
  case h_15 current atPoint =>
    split at responded <;> cases responded
    all_goals exact goto_touches (congrArg focus atPoint).symm
  case h_16 current atPoint =>
    cases responded
    exact goto_touches (s := { s with anyReady := false })
      (congrArg focus atPoint).symm
  case h_17 current atPoint =>
    cases responded
    exact goto_touches (s := { s with currentRequest := none })
      (congrArg focus atPoint).symm
  case h_18 => cases responded

theorem startTask_touches (started : s.startTask = .ok t) : Touches cfg s t := by
  unfold startTask at started
  split at started <;> cases started
  rename_i rid rest queue
  have queued : (s.view rid).queued = rest.count rid + 1 := by
    simp [queue]
  apply of_change rid (.startTask queued)
  · simp
  · intro other ne
    simp [queue, ne, Ne.symm ne]

theorem assignForSend_touches (atStart : s.tasks rid = some .start)
    (needed : cfg.needSendCache rid = true)
    (assigned : s.assignForSend cfg rid = .ok t) : Touches cfg s t := by
  unfold assignForSend at assigned
  split at assigned
  · cases assigned
    apply of_change rid (.assignDynamic atStart needed)
    · simp
    · intro other ne
      simp [ne]
  · obtain ⟨⟨bufferId, sendResource⟩, -, assigned⟩ := Except.bind_eq_ok.mp assigned
    cases assigned
    apply of_change rid (.assign atStart needed)
    · simp
      rfl
    · intro other ne
      simp [ne]

theorem freeForSend_touches {bufferId : Option Nat}
    (atStage : s.tasks rid = some (.freeing bufferId)) :
    Touches cfg s (s.freeForSend rid bufferId) := by
  cases bufferId with
  | none =>
    apply of_change rid (.freeDynamic atStage)
    · simp [freeForSend]
    · intro other ne
      simp [freeForSend, ne]
  | some bufferId =>
    apply of_change rid (.free atStage)
    · simp [freeForSend]
    · intro other ne
      simp [freeForSend, ne]

theorem task_touches (worked : s.task cfg rid = .ok t) : Touches cfg s t := by
  unfold task at worked
  split at worked
  case h_1 => cases worked
  case h_2 atStart =>
    split at worked
    · cases worked
    · split at worked
      · rename_i needed
        exact assignForSend_touches atStart needed worked
      · rename_i unneeded
        cases worked
        apply of_change rid (.skip atStart (Bool.not_eq_true _ ▸ unneeded))
        · simp
        · intro other ne
          simp [ne]
  case h_3 bufferId atStage =>
    cases worked
    apply of_change rid (.send atStage)
    · simp
    · intro other ne
      simp [ne]
  case h_4 bufferId atStage =>
    cases worked
    exact freeForSend_touches atStage
  case h_5 atStage =>
    split at worked <;> cases worked
    apply of_change rid (.release atStage)
    · simp
    · intro other ne
      simp [ne]

/-- `sendAndRemoveResponse` changes its own stage, the session and the buffers. -/
theorem task_frame (worked : s.task cfg rid = .ok t) :
    t = { s with
      sessions := t.sessions, tasks := t.tasks, sendResource := t.sendResource
      traces := t.traces } := by
  unfold task at worked
  split at worked
  case h_1 => cases worked
  case h_2 =>
    split at worked
    · cases worked
    · split at worked
      · unfold assignForSend at worked
        split at worked
        · cases worked
          rfl
        · obtain ⟨⟨bufferId, sendResource⟩, -, assigned⟩ := Except.bind_eq_ok.mp worked
          cases assigned
          rfl
      · cases worked
        rfl
  case h_3 =>
    cases worked
    rfl
  case h_4 bufferId atStage =>
    cases worked
    cases bufferId <;> rfl
  case h_5 =>
    split at worked <;> cases worked
    rfl

theorem Shared.respond (shared : s.Shared) (responded : s.respond cfg = .ok t) : t.Shared := by
  obtain ⟨ready_nodup, cancelled_nodup, current_eq⟩ := shared
  unfold CacheSender.respond at responded
  split at responded
  all_goals constructor
  all_goals grind -ring -linarith -order [ResponsePoint.current, countDown, afterSignals,
    modifyTrace, List.Nodup.erase]

theorem Shared.step {action : SenderAction} (shared : s.Shared)
    (stepped : CacheSender.step cfg s action = .ok t) : t.Shared := by
  cases action with
  | respond => exact shared.respond stepped
  | task rid =>
    rw [task_frame stepped]
    exact ⟨shared.ready_nodup, shared.cancelled_nodup, shared.current_eq⟩
  | _ =>
    obtain ⟨ready_nodup, cancelled_nodup, current_eq⟩ := shared
    constructor
    all_goals grind -ring -linarith -order [CacheSender.step, sendAsync, announce,
      cancelRequest, arrive, recvRequestInfo, respondThrows, startTask, taskThrows, modifyTrace,
      ResponsePoint.current, List.Nodup.insert]

section

variable {action : SenderAction} (shared : s.Shared) (coherent : s.Coherent cfg)
  (proper : Proper cfg s action) (succeeds : Succeeds action)
include shared coherent proper succeeds

/-- A step of a run without exceptions changes one request. -/
theorem step_touches (stepped : step cfg s action = .ok t) : Touches cfg s t := by
  cases action with
  | sendAsync rid =>
    cases stepped
    exact sendAsync_touches proper
  | announce rid =>
    simp only [step] at stepped
    split at stepped <;> cases stepped
    exact of_same fun _ => rfl
  | cancelRequest rid =>
    cases stepped
    exact cancelRequest_touches shared
  | arrive rid peer =>
    cases stepped
    exact arrive_touches proper.1 proper.2
  | receive idx => exact recvRequestInfo_touches stepped
  | respond => exact respond_touches shared coherent stepped
  | respondThrows => exact succeeds.elim
  | startTask => exact startTask_touches stepped
  | task rid => exact task_touches stepped
  | taskThrows rid => exact succeeds.elim

theorem Coherent.step (stepped : CacheSender.step cfg s action = .ok t) : t.Coherent cfg := by
  intro rid
  obtain same | changed := step_touches shared coherent proper succeeds stepped rid
  · rw [same]
    exact coherent rid
  · exact (coherent rid).change (cfg.counterparts_pos rid) changed

end

end CacheSender

end TrtLlm
