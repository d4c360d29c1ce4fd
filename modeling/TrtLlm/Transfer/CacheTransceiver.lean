import Mathlib.Data.List.Dedup
import TrtLlm.KvCache.LlmRequest
import TrtLlm.Lib.Run

/-! # Completion of context transfers

In `CacheTransceiver::checkContextTransferStatus` the ranks of a sync group gather the requests
whose send futures are ready and complete those that are ready everywhere. A call that asks for a
minimum adds requests in the order of their insertion, and each rank waits for its own futures.
-/

namespace TrtLlm

open List

/-- What a send future holds when it is ready: a value or a stored exception. -/
inductive FutureResult where
  | value
  | exception
  deriving DecidableEq, Repr

/-- An entry of `mSenderFutures`. The result is there when the future is ready. -/
structure SenderFuture where
  requestId : RequestId
  result : Option FutureResult := none
  deriving DecidableEq, Repr

/-- Why a call of the status check does not return. -/
inductive StatusFailure where
  /-- `future.get()` of a transfer that does not end. -/
  | blocked
  deriving DecidableEq, Repr

/-- What a status check leaves on one rank: the remaining futures, and the requests
it finalized with their new states. -/
structure StatusOutcome where
  senderFutures : List SenderFuture
  finalized : List (RequestId × LlmRequestState)
  deriving DecidableEq, Repr

namespace CacheTransceiver

/-- The requests of one rank whose futures are ready. -/
def contextCompleteRequestIds (senderFutures : List SenderFuture) : List RequestId :=
  (senderFutures.filter fun future => future.result.isSome).map SenderFuture.requestId

/-- `gatherRequestIds`: the lists of all ranks in the order of the ranks. -/
def gatherRequestIds (ranks : List (List SenderFuture)) : List RequestId :=
  ranks.flatMap contextCompleteRequestIds

/-- The requests whose frequency is the size of the group. The order in which the
frequencies are sorted has no effect on the set. -/
def completeIdSet (size : Nat) (gathered : List RequestId) : List RequestId :=
  gathered.dedup.filter fun requestId => gathered.count requestId == size

/-- The loop that makes sure there are at least `atLeastRequestNum` requests. -/
def fillToAtLeast (atLeastRequestNum : Int) :
    List SenderFuture → List RequestId → List RequestId
  | [], toCompleteIdSet => toCompleteIdSet
  | future :: rest, toCompleteIdSet =>
    if (toCompleteIdSet.length : Int) < atLeastRequestNum then
      fillToAtLeast atLeastRequestNum rest (toCompleteIdSet.insert future.requestId)
    else toCompleteIdSet

/-- The state of a request after its future was consumed. -/
def finalState : FutureResult → LlmRequestState
  | .value => .disaggContextComplete
  | .exception => .disaggTransError

/-- The wait for one future; `late` is what it holds at the end of the wait if it
was not ready before. Without a timeout `future.get()` waits for the result. -/
def waitFuture (senderFutureTimeoutMs : Option Nat) (late : Option FutureResult)
    (future : SenderFuture) : Except StatusFailure (Option FutureResult) :=
  match future.result <|> late with
  | some result => .ok (some result)
  | none => if senderFutureTimeoutMs.isSome then .ok none else .error .blocked

/-- The loop that completes the selected requests. -/
def completeRequests (senderFutureTimeoutMs : Option Nat)
    (late : RequestId → Option FutureResult) (selected : RequestId → Bool) :
    List SenderFuture → Except StatusFailure StatusOutcome
  | [] => .ok ⟨[], []⟩
  | future :: rest => do
      if selected future.requestId then
        match ← waitFuture senderFutureTimeoutMs (late future.requestId) future with
        | some result =>
          let outcome ← completeRequests senderFutureTimeoutMs late selected rest
          return { outcome with
            finalized := (future.requestId, finalState result) :: outcome.finalized }
        | none =>
          let outcome ← completeRequests senderFutureTimeoutMs late selected rest
          return { outcome with senderFutures := future :: outcome.senderFutures }
      else
        let outcome ← completeRequests senderFutureTimeoutMs late selected rest
        return { outcome with senderFutures := future :: outcome.senderFutures }

/-- Which requests a rank completes: all of them without a minimum, else those
in `toCompleteIdSet`. -/
def isSelected (size : Nat) (gathered : List RequestId) (atLeastRequestNum : Option Int)
    (senderFutures : List SenderFuture) (requestId : RequestId) : Bool :=
  let toCompleteIdSet := fillToAtLeast (atLeastRequestNum.getD 0) senderFutures
    (completeIdSet size gathered)
  atLeastRequestNum.isNone || toCompleteIdSet.contains requestId

/-- `checkContextTransferStatus` on one rank, after the gathering. -/
def checkContextTransferStatus (kvTransferSenderFutureTimeoutMs : Option Nat) (size : Nat)
    (gathered : List RequestId) (atLeastRequestNum : Option Int)
    (late : RequestId → Option FutureResult) (senderFutures : List SenderFuture) :
    Except StatusFailure StatusOutcome :=
  let blockAll := atLeastRequestNum.isNone
  let senderFutureTimeoutMs := if blockAll then none else kvTransferSenderFutureTimeoutMs
  completeRequests senderFutureTimeoutMs late
    (isSelected size gathered atLeastRequestNum senderFutures) senderFutures

/-- The collective call: every rank runs the check with what all of them gathered. -/
def checkRanks (kvTransferSenderFutureTimeoutMs : Option Nat) (size : Nat)
    (gathered : List RequestId) (atLeastRequestNum : Option Int) :
    List (List SenderFuture) → List (RequestId → Option FutureResult) →
    Except StatusFailure (List StatusOutcome)
  | [], _ => .ok []
  | senderFutures :: ranks, waits => do
      let outcome ← checkContextTransferStatus kvTransferSenderFutureTimeoutMs size gathered
        atLeastRequestNum (waits.headD fun _ => none) senderFutures
      let outcomes ← checkRanks kvTransferSenderFutureTimeoutMs size gathered
        atLeastRequestNum ranks waits.tail
      return outcome :: outcomes

/-- What happens in a sync group: a request is added on all ranks, a transfer ends
on one rank, or all ranks check the status with the same minimum. -/
inductive Action where
  | add (requestId : RequestId)
  | transferred (rank : Nat) (requestId : RequestId) (result : FutureResult)
  | check (atLeastRequestNum : Option Int) (waits : List (RequestId → Option FutureResult))

def markReady (requestId : RequestId) (result : FutureResult) (future : SenderFuture) :
    SenderFuture :=
  if future.requestId = requestId then { future with result := future.result <|> some result }
  else future

/-- One action on the futures of all ranks. -/
def step (kvTransferSenderFutureTimeoutMs : Option Nat) (ranks : List (List SenderFuture)) :
    Action → Except StatusFailure (List (List SenderFuture))
  | .add requestId => .ok (ranks.map fun senderFutures => senderFutures ++ [{ requestId }])
  | .transferred rank requestId result =>
    .ok (ranks.modify rank fun senderFutures => senderFutures.map (markReady requestId result))
  | .check atLeastRequestNum waits => do
      let outcomes ← checkRanks kvTransferSenderFutureTimeoutMs ranks.length
        (gatherRequestIds ranks) atLeastRequestNum ranks waits
      return outcomes.map StatusOutcome.senderFutures

/-- A group in which nothing was sent yet. -/
def initial (size : Nat) : List (List SenderFuture) := List.replicate size []

/-- A request is added once. -/
def Fresh (ranks : List (List SenderFuture)) : Action → Prop
  | .add requestId => ∀ senderFutures ∈ ranks,
      requestId ∉ senderFutures.map SenderFuture.requestId
  | .transferred _ _ _ => True
  | .check _ _ => True

/-- A check with a sender timeout asks for no more requests than are ready on
every rank; other checks ask for what they like. -/
def Agrees (kvTransferSenderFutureTimeoutMs : Option Nat) (ranks : List (List SenderFuture)) :
    Action → Prop
  | .check atLeastRequestNum _ => kvTransferSenderFutureTimeoutMs = none ∨
      atLeastRequestNum = none ∨
      atLeastRequestNum.getD 0 ≤ (completeIdSet ranks.length (gatherRequestIds ranks)).length
  | .add _ => True
  | .transferred _ _ _ => True

instance (ranks : List (List SenderFuture)) (action : Action) : Decidable (Fresh ranks action) :=
  match action with
  | .add _ => inferInstanceAs (Decidable (∀ senderFutures ∈ ranks, _))
  | .transferred _ _ _ | .check _ _ => isTrue trivial

instance (timeoutMs : Option Nat) (ranks : List (List SenderFuture)) (action : Action) :
    Decidable (Agrees timeoutMs ranks action) :=
  match action with
  | .check _ _ => inferInstanceAs (Decidable (_ ∨ _ ∨ _))
  | .add _ | .transferred _ _ _ => isTrue trivial

/-! ## One rank -/

variable {timeoutMs : Option Nat} {late : RequestId → Option FutureResult}

variable {future : SenderFuture} {senderFutures : List SenderFuture} {atLeast : Option Int}
  {requestId rid : RequestId} {ranks : List (List SenderFuture)}
  {waits : List (RequestId → Option FutureResult)} {selected : RequestId → Bool}
  {outcome : StatusOutcome} {first second : List SenderFuture} {size : Nat}
  {gathered ids : List RequestId} {outcomes : List StatusOutcome}

theorem waitFuture_ok {waited : Option FutureResult} {late : Option FutureResult}
    (returned : waitFuture timeoutMs late future = .ok waited) :
    waited = none → timeoutMs.isSome = true ∧ future.result = none := by
  intro timedOut
  subst timedOut
  unfold waitFuture at returned
  split at returned
  · cases returned
  · rename_i nothing
    split at returned
    · rename_i timed
      cases ready : future.result with
      | none => exact ⟨timed, rfl⟩
      | some res => simp [ready] at nothing
    · cases returned

/-- One round of the loop: the future is consumed, or it stays since it was not
selected or since its wait timed out. -/
theorem completeRequests_cons
    (returned : completeRequests timeoutMs late selected (future :: senderFutures) = .ok outcome) :
    ∃ inner, completeRequests timeoutMs late selected senderFutures = .ok inner ∧
      ((selected future.requestId = true ∧ ∃ state,
          outcome = ⟨inner.senderFutures, (future.requestId, state) :: inner.finalized⟩) ∨
        (outcome = ⟨future :: inner.senderFutures, inner.finalized⟩ ∧
          (selected future.requestId = true → timeoutMs.isSome = true ∧
              future.result = none))) := by
  unfold completeRequests at returned
  split at returned
  · rename_i chosen
    obtain ⟨res, waited, continued⟩ := Except.bind_eq_ok.mp returned
    cases res with
    | some res =>
      obtain ⟨inner, innerReturned, built⟩ := Except.bind_eq_ok.mp continued
      cases built
      exact ⟨inner, innerReturned, .inl ⟨chosen, _, rfl⟩⟩
    | none =>
      obtain ⟨inner, innerReturned, built⟩ := Except.bind_eq_ok.mp continued
      cases built
      exact ⟨inner, innerReturned, .inr ⟨rfl, fun _ => waitFuture_ok waited rfl⟩⟩
  · rename_i skipped
    obtain ⟨inner, innerReturned, built⟩ := Except.bind_eq_ok.mp returned
    cases built
    exact ⟨inner, innerReturned, .inr ⟨rfl, fun chosen => absurd chosen skipped⟩⟩

/-- If no selected wait can time out, exactly the selected requests are finalized. -/
theorem completeRequests_ok
    (waited : ∀ future ∈ senderFutures, selected future.requestId = true →
      timeoutMs = none ∨ future.result.isSome = true)
    (returned : completeRequests timeoutMs late selected senderFutures = .ok outcome) :
    outcome.finalized.map Prod.fst = (senderFutures.map SenderFuture.requestId).filter selected ∧
      outcome.senderFutures.map SenderFuture.requestId =
        (senderFutures.map SenderFuture.requestId).filter fun rid => !selected rid := by
  induction senderFutures generalizing outcome with
  | nil =>
    cases returned
    exact ⟨rfl, rfl⟩
  | cons future rest ih =>
    obtain ⟨inner, innerReturned, round⟩ := completeRequests_cons returned
    obtain ⟨finalized, kept⟩ := ih (forall_mem_cons.mp waited).2 innerReturned
    rcases round with ⟨chosen, state, rfl⟩ | ⟨rfl, timedOut⟩
    · simp [chosen, finalized, kept]
    · have skipped : ¬ selected future.requestId = true := by
        intro chosen
        obtain ⟨timed, pending⟩ := timedOut chosen
        rcases waited future mem_cons_self chosen with untimed | ready
        · simp [untimed] at timed
        · simp [pending] at ready
      simp [skipped, finalized, kept]

/-- A selected request whose future is ready is finalized, whatever the others do. -/
theorem mem_finalized_of_ready (mem : future ∈ senderFutures)
    (chosen : selected future.requestId = true) (ready : future.result.isSome = true)
    (returned : completeRequests timeoutMs late selected senderFutures = .ok outcome) :
    future.requestId ∈ outcome.finalized.map Prod.fst := by
  induction senderFutures generalizing outcome with
  | nil => cases mem
  | cons head rest ih =>
    obtain ⟨inner, innerReturned, round⟩ := completeRequests_cons returned
    rcases mem_cons.mp mem with rfl | inRest
    · rcases round with ⟨-, state, rfl⟩ | ⟨-, timedOut⟩
      · simp
      · have pending := (timedOut chosen).2
        simp [pending] at ready
    · have found := ih inRest innerReturned
      rcases round with ⟨-, state, rfl⟩ | ⟨rfl, -⟩
      · exact mem_cons_of_mem _ found
      · exact found

/-- Which requests are added depends on the requests alone, not on the futures. -/
theorem fillToAtLeast_congr {atLeast : Int}
    (same : first.map SenderFuture.requestId = second.map SenderFuture.requestId)
    (ids : List RequestId) :
    fillToAtLeast atLeast first ids = fillToAtLeast atLeast second ids := by
  induction first generalizing second ids with
  | nil =>
    cases second with
    | nil => rfl
    | cons _ _ => cases same
  | cons head rest ih =>
    cases second with
    | nil => cases same
    | cons other others =>
      obtain ⟨heads, tails⟩ := List.cons.inj same
      simp only [fillToAtLeast, heads, ih tails]

theorem isSelected_congr
    (same : first.map SenderFuture.requestId = second.map SenderFuture.requestId) :
    isSelected size gathered atLeast first = isSelected size gathered atLeast second := by
  funext rid
  simp only [isSelected, fillToAtLeast_congr same]

theorem subset_fillToAtLeast {atLeast : Int} (mem : rid ∈ ids) :
    rid ∈ fillToAtLeast atLeast senderFutures ids := by
  induction senderFutures generalizing ids with
  | nil => exact mem
  | cons head rest ih =>
    unfold fillToAtLeast
    split
    · exact ih (mem_insert_of_mem mem)
    · exact mem

theorem fillToAtLeast_of_le {atLeast : Int} (enough : atLeast ≤ ids.length) :
    fillToAtLeast atLeast senderFutures ids = ids := by
  cases senderFutures with
  | nil => rfl
  | cons head rest => simp [fillToAtLeast, Int.not_lt.mpr enough]

/-! ## The group -/

/-- All ranks have the same requests in the same order. -/
def SameRequests (ranks : List (List SenderFuture)) : Prop :=
  ∃ ids : List RequestId, ids.Nodup ∧
    ∀ senderFutures ∈ ranks, senderFutures.map SenderFuture.requestId = ids

theorem SameRequests.nodup (same : SameRequests ranks) (rank : senderFutures ∈ ranks) :
    (senderFutures.map SenderFuture.requestId).Nodup := by
  obtain ⟨ids, nodup, listed⟩ := same
  rw [listed senderFutures rank]
  exact nodup

theorem count_complete_le_one (nodup : (senderFutures.map SenderFuture.requestId).Nodup) :
    (contextCompleteRequestIds senderFutures).count rid ≤ 1 := by
  apply nodup_iff_count_le_one.mp
  exact nodup.sublist (List.Sublist.map _ filter_sublist)

theorem ready_of_mem_complete (nodup : (senderFutures.map SenderFuture.requestId).Nodup)
    (mem : future ∈ senderFutures)
    (complete : future.requestId ∈ contextCompleteRequestIds senderFutures) :
    future.result.isSome = true := by
  obtain ⟨other, inFilter, same⟩ := mem_map.mp complete
  obtain ⟨otherMember, ready⟩ := mem_filter.mp inFilter
  have equal : other = future := inj_on_of_nodup_map nodup otherMember mem same
  rw [equal] at ready
  exact ready

/-- If no rank names a request twice, all of them together name it as often as there
are ranks exactly when each of them names it. -/
theorem count_gather (rid : RequestId)
    (once : ∀ senderFutures ∈ ranks, (contextCompleteRequestIds senderFutures).count rid ≤ 1) :
    (gatherRequestIds ranks).count rid ≤ ranks.length ∧
      ((gatherRequestIds ranks).count rid = ranks.length ↔
        ∀ senderFutures ∈ ranks, rid ∈ contextCompleteRequestIds senderFutures) := by
  induction ranks with
  | nil => simp [gatherRequestIds]
  | cons first rest ih =>
    obtain ⟨le, all⟩ := ih (forall_mem_cons.mp once).2
    have one := once first mem_cons_self
    have named : rid ∈ contextCompleteRequestIds first ↔ _ := count_pos_iff.symm
    rw [forall_mem_cons, ← all, named]
    simp only [gatherRequestIds, flatMap_cons, count_append, length_cons] at *
    omega

/-- The gathered set has the requests that every rank names. -/
theorem mem_completeIdSet (same : SameRequests ranks) (some_rank : ranks ≠ []) :
    rid ∈ completeIdSet ranks.length (gatherRequestIds ranks) ↔
      ∀ senderFutures ∈ ranks, rid ∈ contextCompleteRequestIds senderFutures := by
  have counted := (count_gather rid fun _ rank => count_complete_le_one (same.nodup rank)).2
  rw [← counted, completeIdSet, mem_filter, mem_dedup, beq_iff_eq]
  constructor
  · exact fun complete => complete.2
  · intro frequency
    have some_id : 0 < (gatherRequestIds ranks).count rid :=
      frequency ▸ length_pos_iff.mpr some_rank
    exact ⟨count_pos_iff.mp some_id, frequency⟩

theorem checkRanks_ok
    (called : checkRanks timeoutMs size gathered atLeast ranks waits = .ok outcomes) :
    ∀ outcome ∈ outcomes, ∃ senderFutures ∈ ranks, ∃ late,
      checkContextTransferStatus timeoutMs size gathered atLeast late senderFutures =
        .ok outcome := by
  induction ranks generalizing waits outcomes with
  | nil =>
    cases called
    simp
  | cons first rest ih =>
    obtain ⟨outcome, returned, continued⟩ := Except.bind_eq_ok.mp called
    obtain ⟨others, othersReturned, built⟩ := Except.bind_eq_ok.mp continued
    cases built
    intro found mem
    rcases mem_cons.mp mem with rfl | inRest
    · exact ⟨first, mem_cons_self, _, returned⟩
    · obtain ⟨futures, inRanks, late, checked⟩ := ih othersReturned found inRest
      exact ⟨futures, mem_cons_of_mem _ inRanks, late, checked⟩

/-- In a call that meets the condition no selected wait can time out. -/
theorem untimed_of_agrees (same : SameRequests ranks)
    (agrees : Agrees timeoutMs ranks (.check atLeast waits)) (rank : senderFutures ∈ ranks)
    (mem : future ∈ senderFutures)
    (chosen : isSelected ranks.length (gatherRequestIds ranks) atLeast senderFutures
      future.requestId = true) :
    (if atLeast.isNone then none else timeoutMs) = none ∨ future.result.isSome = true := by
  rcases agrees with untimed | blockAll | enough
  · left
    simp [untimed]
  · left
    simp [blockAll]
  · rw [isSelected, fillToAtLeast_of_le enough] at chosen
    rcases Bool.or_eq_true_iff.mp chosen with blockAll | listed
    · left
      simp [blockAll]
    · right
      have everywhere := (mem_completeIdSet same (ne_nil_of_mem rank)).mp
          (contains_iff_mem.mp listed)
      exact ready_of_mem_complete (same.nodup rank) mem (everywhere senderFutures rank)

/-- What one rank does in a call that meets the condition, by the requests alone. -/
theorem outcome_of_agrees (same : SameRequests ranks)
    (agrees : Agrees timeoutMs ranks (.check atLeast waits))
    (called : checkRanks timeoutMs ranks.length (gatherRequestIds ranks) atLeast ranks waits =
      .ok outcomes) : ∃ finalized kept : List RequestId, kept.Nodup ∧ ∀ outcome ∈ outcomes,
      outcome.finalized.map Prod.fst = finalized ∧
        outcome.senderFutures.map SenderFuture.requestId = kept := by
  have sameAgain := same
  obtain ⟨ids, nodup, listed⟩ := same
  -- The futures of a rank enter its selection only through their requests.
  let selected := isSelected ranks.length (gatherRequestIds ranks) atLeast
    (ids.map fun rid => { requestId := rid })
  refine ⟨ids.filter selected, ids.filter fun rid => !selected rid, nodup.filter _, ?_⟩
  intro outcome mem
  obtain ⟨senderFutures, rank, late, checked⟩ := checkRanks_ok called outcome mem
  have requests := listed senderFutures rank
  have selection : isSelected ranks.length (gatherRequestIds ranks) atLeast senderFutures =
      selected := by
    apply isSelected_congr
    simp [requests, Function.comp_def]
  have done := completeRequests_ok
    (fun future inFutures chosen => untimed_of_agrees sameAgain agrees rank inFutures chosen)
      checked
  rw [selection, requests] at done
  exact done

/-! ## Runs -/

theorem SameRequests.initial (size : Nat) : SameRequests (initial size) :=
  ⟨[], nodup_nil, by simp [CacheTransceiver.initial]⟩

theorem markReady_requestId (rid : RequestId) (res : FutureResult)
    (senderFutures : List SenderFuture) :
    (senderFutures.map (markReady rid res)).map SenderFuture.requestId =
      senderFutures.map SenderFuture.requestId := by
  rw [map_map]
  apply map_congr_left
  intro future _
  simp only [Function.comp_apply, markReady]
  split <;> rfl

theorem SameRequests.step {next : List (List SenderFuture)} {action : Action}
    (same : SameRequests ranks) (fresh : Fresh ranks action)
    (agrees : Agrees timeoutMs ranks action) (stepped : step timeoutMs ranks action = .ok next) :
    SameRequests next := by
  cases action with
  | add rid =>
    cases stepped
    cases ranks with
    | nil => exact ⟨[], nodup_nil, by simp⟩
    | cons first rest =>
      obtain ⟨ids, nodup, listed⟩ := same
      have unused : rid ∉ ids := by
        rw [← listed first mem_cons_self]
        exact fresh first mem_cons_self
      refine ⟨ids ++ [rid], ?_, ?_⟩
      · rw [← concat_eq_append]
        exact nodup.concat unused
      · intro futures mem
        obtain ⟨before, inRanks, rfl⟩ := mem_map.mp mem
        simp [listed before inRanks]
  | transferred rank rid res =>
    cases stepped
    obtain ⟨ids, nodup, listed⟩ := same
    refine ⟨ids, nodup, ?_⟩
    intro futures mem
    obtain ⟨idx, found⟩ := mem_iff_getElem?.mp mem
    rw [getElem?_modify] at found
    obtain ⟨before, atIndex, rfl⟩ := Option.map_eq_some_iff.mp found
    have inRanks := mem_of_getElem? atIndex
    split
    · rw [markReady_requestId]
      exact listed before inRanks
    · exact listed before inRanks
  | check atLeast waits =>
    obtain ⟨outcomes, called, built⟩ := Except.bind_eq_ok.mp stepped
    cases built
    obtain ⟨finalized, kept, nodup, done⟩ := outcome_of_agrees same agrees called
    refine ⟨kept, nodup, ?_⟩
    intro futures mem
    obtain ⟨outcome, inOutcomes, rfl⟩ := mem_map.mp mem
    exact (done outcome inOutcomes).2

/-- In a run whose checks with a sender timeout ask for no more requests than are
ready everywhere, all ranks finalize the same requests in each check, and a request
that is ready on every rank before a check is finalized on every rank in it. -/
theorem finalized_agree {size : Nat} {ranks : List (List SenderFuture)} {atLeast : Option Int}
    {waits : List (RequestId → Option FutureResult)} {outcomes : List StatusOutcome}
    (reached : Run.Reaches (fun ranks action => step timeoutMs ranks action)
      (fun ranks action => Fresh ranks action ∧ Agrees timeoutMs ranks action)
      (initial size) ranks)
    (agrees : Agrees timeoutMs ranks (.check atLeast waits))
    (called : checkRanks timeoutMs ranks.length (gatherRequestIds ranks) atLeast ranks waits =
      .ok outcomes) :
    (∀ first ∈ outcomes, ∀ second ∈ outcomes,
        first.finalized.map Prod.fst = second.finalized.map Prod.fst) ∧
      ∀ requestId, (∀ senderFutures ∈ ranks, requestId ∈ contextCompleteRequestIds senderFutures) →
        ∀ outcome ∈ outcomes, requestId ∈ outcome.finalized.map Prod.fst := by
  have same : SameRequests ranks := reached.invariant (SameRequests.initial size)
    fun _ _ _ same allowed stepped => same.step allowed.1 allowed.2 stepped
  constructor
  · obtain ⟨finalized, kept, -, done⟩ := outcome_of_agrees same agrees called
    intro first inFirst second inSecond
    rw [(done first inFirst).1, (done second inSecond).1]
  · intro requestId ready outcome member
    obtain ⟨senderFutures, rank, late, checked⟩ := checkRanks_ok called outcome member
    obtain ⟨future, inFilter, rfl⟩ := List.mem_map.mp (ready senderFutures rank)
    obtain ⟨inFutures, isReady⟩ := List.mem_filter.mp inFilter
    have complete := (mem_completeIdSet same (List.ne_nil_of_mem rank)).mpr ready
    have chosen : isSelected ranks.length (gatherRequestIds ranks) atLeast senderFutures
        future.requestId = true := by
      rw [isSelected, Bool.or_eq_true_iff]
      exact .inr (List.contains_iff_mem.mpr (subset_fillToAtLeast complete))
    exact mem_finalized_of_ready inFutures chosen isReady checked

/-- Two ranks; the transfer of the second request has ended on both of them, that
of the first one on rank 0 only. -/
def twoRanks : List Action :=
  [.add 1, .add 2, .transferred 0 1 .value, .transferred 0 2 .value, .transferred 1 2 .value]

/-- With a minimum of one the second request is finalized on both ranks. -/
theorem twoRanks_agree :
    ∃ ranks outcomes, Run.Reaches (fun ranks action => step (some 10) ranks action)
        (fun ranks action => Fresh ranks action ∧ Agrees (some 10) ranks action)
        (initial 2) ranks ∧
      checkRanks (some 10) ranks.length (gatherRequestIds ranks) (some 1) ranks [] =
        .ok outcomes ∧
      ((∀ first ∈ outcomes, ∀ second ∈ outcomes,
          first.finalized.map Prod.fst = second.finalized.map Prod.fst) ∧
        ∀ requestId,
          (∀ senderFutures ∈ ranks, requestId ∈ contextCompleteRequestIds senderFutures) →
          ∀ outcome ∈ outcomes, requestId ∈ outcome.finalized.map Prod.fst) := by
  obtain ⟨ranks, reached, agrees, outcomes, called, -⟩ : ∃ ranks,
      Run.Reaches (fun ranks action => step (some 10) ranks action)
        (fun ranks action => Fresh ranks action ∧ Agrees (some 10) ranks action)
        (initial 2) ranks ∧ Agrees (some 10) ranks (.check (some 1) []) ∧
      ∃ outcomes, checkRanks (some 10) ranks.length (gatherRequestIds ranks) (some 1) ranks [] =
        .ok outcomes ∧ True :=
    Run.exists_reaches twoRanks (by decide +kernel)
  exact ⟨ranks, outcomes, reached, called, finalized_agree reached agrees called⟩

/-- With a minimum of two the first request is added to the set. Rank 0 finalizes
it, rank 1 waits in vain and keeps it. -/
theorem twoRanks_disagree :
    ∃ ranks outcomes, Run.Reaches (fun ranks action => step (some 10) ranks action) Fresh
        (initial 2) ranks ∧
      checkRanks (some 10) ranks.length (gatherRequestIds ranks) (some 2) ranks [] =
        .ok outcomes ∧
      outcomes.map (fun outcome => outcome.finalized.map Prod.fst) = [[1, 2], [2]] := by
  simp only [exists_and_left]
  exact Run.exists_reaches twoRanks (by decide +kernel)

end CacheTransceiver

end TrtLlm
