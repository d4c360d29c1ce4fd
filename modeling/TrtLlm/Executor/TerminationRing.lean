import Mathlib.Data.Fin.Basic
import Mathlib.Data.List.Nodup
import Mathlib.Logic.Function.Basic
import TrtLlm.KvCache.LlmRequest
import TrtLlm.Lib.Run

/-! # The termination ring of the pipeline ranks

With disaggregated serving and block reuse, the ranks of a pipeline free a request together. A
message goes around the ring with their votes on what rank 0 proposes, and with what the last rank
has decided in the iteration before.
-/

namespace TrtLlm

open List

open Function (update update_self update_of_ne)

/-- The message that goes around: votes, and the requests to be terminated. -/
structure TermState where
  ready : List (RequestId × Nat)
  term : List RequestId
  deriving DecidableEq, Repr

/-- `DisaggPPTerminationHandler`, with the keys of its dictionary of requests. -/
structure DisaggPPTerminationHandler where
  pendingTermination : List RequestId := []
  terminatingIteration : Nat := 0

namespace DisaggPPTerminationHandler

def terminate (handler : DisaggPPTerminationHandler) (requestId : RequestId) :
    DisaggPPTerminationHandler :=
  { handler with pendingTermination := handler.pendingTermination.insert requestId }

variable (isFirstPpRank isLastPpRank : Bool) (ppSize : Nat)

/-- The votes after a rank has added its own; rank 0 starts a new ballot. -/
def vote (pending : List RequestId) (ready : List (RequestId × Nat)) : List (RequestId × Nat) :=
  if isFirstPpRank then pending.map fun requestId => (requestId, 1)
  else ready.map fun (requestId, numRanks) =>
    (requestId, if requestId ∈ pending then numRanks + 1 else numRanks)

/-- The message that a rank sends; the last one decides. -/
def newTermState (ready : List (RequestId × Nat)) (term : List RequestId) : TermState :=
  if isLastPpRank then
    { ready := []
      term := (ready.filter fun (_, numRanks) => numRanks = ppSize).map Prod.fst }
  else { ready := ready, term := term }

/-- The requests that stay pending when some are terminated. -/
def pendingAfter (handler : DisaggPPTerminationHandler) (terminateReqIds : List RequestId) :
    List RequestId :=
  handler.pendingTermination.filter (· ∉ terminateReqIds)

/-- `terminate_pending_requests` with the message that is received, or an empty one: the
requests that are terminated, the message that is sent, and the handler after the call. -/
def terminatePendingRequests (handler : DisaggPPTerminationHandler) (termState : TermState) :
    List RequestId × TermState × DisaggPPTerminationHandler :=
  let pending := handler.pendingAfter termState.term
  (termState.term.filter (· ∈ handler.pendingTermination),
    newTermState isLastPpRank ppSize (vote isFirstPpRank pending termState.ready) termState.term,
    { pendingTermination := pending
      terminatingIteration := handler.terminatingIteration + 1 })

end DisaggPPTerminationHandler

/-! ## The ring -/

/-- The ranks with the channels between them, and what has happened so far. -/
structure TerminationRing (ppSize : Nat) where
  handlers : Fin ppSize → DisaggPPTerminationHandler := fun _ => {}
  /-- The messages that the previous rank has sent and a rank has not received. -/
  inbox : Fin ppSize → List TermState := fun _ => []
  /-- History: the iteration before which `terminate` was called. -/
  requestedAt : Fin ppSize → RequestId → Option Nat := fun _ _ => none
  /-- History: which rank terminated which request in which iteration. -/
  terminated : List (Fin ppSize × RequestId × Nat) := []

namespace TerminationRing

/-- The calls of the ranks. -/
inductive Action (ppSize : Nat) where
  | terminate (rank : Fin ppSize) (requestId : RequestId)
  | terminatePendingRequests (rank : Fin ppSize)

/-- The rank waits for a message, or for its own last message to be received. -/
inductive Blocked where
  | waits
  deriving DecidableEq, Repr

variable {ppSize : Nat} [NeZero ppSize]

def isFirstPpRank (rank : Fin ppSize) : Bool := rank == 0

def isLastPpRank (rank : Fin ppSize) : Bool := rank.val + 1 == ppSize

def nextPpRank (rank : Fin ppSize) : Fin ppSize :=
  ⟨(rank.val + 1) % ppSize, Nat.mod_lt _ (Nat.pos_of_neZero ppSize)⟩

/-- The ring after a call of `terminate`. -/
def request (s : TerminationRing ppSize) (rank : Fin ppSize) (requestId : RequestId) :
    TerminationRing ppSize :=
  { s with
    handlers := Function.update s.handlers rank ((s.handlers rank).terminate requestId)
    requestedAt := Function.update s.requestedAt rank
      (Function.update (s.requestedAt rank) requestId
        (some (s.handlers rank).terminatingIteration)) }

/-- A rank has its message and sends the next one. -/
def proceed (s : TerminationRing ppSize) (rank : Fin ppSize) (termState : TermState) :
    TerminationRing ppSize :=
  let done := (s.handlers rank).terminatePendingRequests (isFirstPpRank rank) (isLastPpRank rank)
    ppSize termState
  let inbox := Function.update s.inbox rank (s.inbox rank).tail
  { s with
    handlers := Function.update s.handlers rank done.2.2
    inbox := Function.update inbox (nextPpRank rank) (inbox (nextPpRank rank) ++ [done.2.1])
    terminated := s.terminated ++ done.1.map fun requestId =>
      (rank, requestId, (s.handlers rank).terminatingIteration) }

/-- The message for the next iteration of a rank, where rank 0 starts without one. -/
def receive (s : TerminationRing ppSize) (rank : Fin ppSize) : Option TermState :=
  if isFirstPpRank rank && (s.handlers rank).terminatingIteration == 0 then
    some { ready := [], term := [] }
  else (s.inbox rank).head?

/-- One call. If `rendezvous` holds, the handle of a send is done only when the message has
been received, and otherwise as soon as it is in the channel. -/
def step (rendezvous : Bool) (s : TerminationRing ppSize) :
    Action ppSize → Except Blocked (TerminationRing ppSize)
  | .terminate rank requestId => .ok (s.request rank requestId)
  | .terminatePendingRequests rank =>
    if rendezvous && !(s.inbox (nextPpRank rank)).isEmpty then .error .waits
    else match s.receive rank with
      | none => .error .waits
      | some termState => .ok (s.proceed rank termState)

/-- `terminate` is called at most once for a request on each rank. -/
def Once (s : TerminationRing ppSize) : Action ppSize → Prop
  | .terminate rank requestId => s.requestedAt rank requestId = none
  | .terminatePendingRequests _ => True

instance (s : TerminationRing ppSize) (action : Action ppSize) : Decidable (s.Once action) :=
  match action with
  | .terminate rank requestId => inferInstanceAs (Decidable (s.requestedAt rank requestId = none))
  | .terminatePendingRequests _ => isTrue trivial

/-! ## The invariant -/

/-- All ranks had the request pending before their iteration `iteration - 1`. -/
def Agreed (s : TerminationRing ppSize) (iteration : Nat) (requestId : RequestId) : Prop :=
  ∀ rank, ∃ before < iteration, s.requestedAt rank requestId = some before

/-- The iteration in which a request is terminated. -/
def Due (s : TerminationRing ppSize) (iteration : Nat) (requestId : RequestId) : Prop :=
  s.Agreed iteration requestId ∧ ¬s.Agreed (iteration - 1) requestId

/-- A rank votes for the request in an iteration. -/
def Votes (s : TerminationRing ppSize) (iteration : Nat) (rank : Fin ppSize)
    (requestId : RequestId) : Prop :=
  (∃ before ≤ iteration, s.requestedAt rank requestId = some before) ∧
    ¬s.Agreed iteration requestId

/-- The votes of the first ranks: a request has them all if and only if all of them vote. -/
structure Ballot (s : TerminationRing ppSize) (round voters : Nat)
    (ready : List (RequestId × Nat)) : Prop where
  nodup : (ready.map Prod.fst).Nodup
  counted : ∀ {requestId numRanks}, (requestId, numRanks) ∈ ready → numRanks ≤ voters ∧
    (numRanks = voters ↔ ∀ rank : Fin ppSize, rank.val < voters → s.Votes round rank requestId)
  complete : ∀ {requestId},
    (∀ rank : Fin ppSize, rank.val < voters → s.Votes round rank requestId) →
    ∃ numRanks, (requestId, numRanks) ∈ ready

/-- What the message for a rank says. -/
structure Says (s : TerminationRing ppSize) (round : Nat) (turn : Nat) (message : TermState) :
    Prop where
  term : ∀ requestId, requestId ∈ message.term ↔ s.Due round requestId
  term_nodup : message.term.Nodup
  ready : 0 < turn → s.Ballot round turn message.ready

/-- The ranks before `turn` have done iteration `round`, and the others are to do it. -/
structure Inv (s : TerminationRing ppSize) (round : Nat) (turn : Fin ppSize) : Prop where
  iteration : ∀ rank, (s.handlers rank).terminatingIteration =
    if rank < turn then round + 1 else round
  message : (round = 0 ∧ turn = 0 ∧ s.inbox turn = []) ∨
    ¬(round = 0 ∧ turn = 0) ∧ ∃ message, s.inbox turn = [message] ∧ s.Says round turn message
  others : ∀ rank, rank ≠ turn → s.inbox rank = []
  pending : ∀ rank requestId, requestId ∈ (s.handlers rank).pendingTermination ↔
    (s.requestedAt rank requestId).isSome ∧
      ¬s.Agreed ((s.handlers rank).terminatingIteration - 1) requestId
  pending_nodup : ∀ rank, (s.handlers rank).pendingTermination.Nodup
  requested_le : ∀ {rank requestId before}, s.requestedAt rank requestId = some before →
    before ≤ (s.handlers rank).terminatingIteration
  terminated : ∀ rank requestId iteration, (rank, requestId, iteration) ∈ s.terminated ↔
    iteration < (s.handlers rank).terminatingIteration ∧ s.Due iteration requestId
  terminated_nodup : s.terminated.Nodup

variable {s : TerminationRing ppSize} {round : Nat} {turn : Fin ppSize} {msg : TermState}
  {requestId rid : RequestId} {ready : List (RequestId × Nat)}

omit [NeZero ppSize] in
theorem Agreed.mono {earlier later : Nat} (le : earlier ≤ later)
    (agreed : s.Agreed earlier rid) : s.Agreed later rid := by
  intro rank
  obtain ⟨before, less, requested⟩ := agreed rank
  exact ⟨before, Nat.lt_of_lt_of_le less le, requested⟩

theorem not_agreed_zero : ¬s.Agreed 0 rid := by
  intro agreed
  obtain ⟨before, less, _⟩ := agreed 0
  exact Nat.not_lt_zero before less

theorem Inv.initial : Inv ({} : TerminationRing ppSize) 0 0 where
  iteration _ := by simp
  message := .inl ⟨rfl, rfl, rfl⟩
  others _ _ := rfl
  pending rank rid := by simp
  pending_nodup _ := nodup_nil
  requested_le := fun requested => nomatch requested
  terminated rank rid iteration := by simp
  terminated_nodup := nodup_nil

/-! ### A request becomes pending -/

section Request

variable {rank voter : Fin ppSize} {other : RequestId}

omit [NeZero ppSize] in
theorem request_iteration (rank voter : Fin ppSize) (rid : RequestId) :
    ((s.request rank rid).handlers voter).terminatingIteration =
      (s.handlers voter).terminatingIteration := by
  by_cases same : voter = rank
  · subst same
    simp only [request, Function.update_self, DisaggPPTerminationHandler.terminate]
  · simp only [request, Function.update_of_ne same]

omit [NeZero ppSize] in
theorem request_requestedAt (ne : ¬(voter = rank ∧ other = rid)) :
    (s.request rank rid).requestedAt voter other = s.requestedAt voter other := by
  unfold request
  by_cases same : voter = rank
  · subst same
    have differentId : other ≠ rid := fun sameId => ne ⟨rfl, sameId⟩
    simp only [Function.update_self, Function.update_of_ne differentId]
  · simp only [Function.update_of_ne same]

omit [NeZero ppSize] in
theorem request_requestedAt_isSome (rank voter : Fin ppSize) (rid other : RequestId) :
    ((s.request rank rid).requestedAt voter other).isSome ↔
      voter = rank ∧ other = rid ∨ (s.requestedAt voter other).isSome := by
  by_cases same : voter = rank ∧ other = rid
  · obtain ⟨rfl, rfl⟩ := same
    simp [request]
  · simp [request_requestedAt same, same]

omit [NeZero ppSize] in
theorem mem_request_pending (rank voter : Fin ppSize) (rid other : RequestId) :
    other ∈ ((s.request rank rid).handlers voter).pendingTermination ↔
      voter = rank ∧ other = rid ∨ other ∈ (s.handlers voter).pendingTermination := by
  by_cases same : voter = rank
  · subst same
    simp [request, DisaggPPTerminationHandler.terminate]
  · simp [request, same]

omit [NeZero ppSize] in
theorem request_requestedAt_self (rank : Fin ppSize) (rid : RequestId) :
    (s.request rank rid).requestedAt rank rid = some (s.handlers rank).terminatingIteration := by
  simp only [request, Function.update_self]

variable (fresh : s.requestedAt rank rid = none) {iteration : Nat}

include fresh

omit [NeZero ppSize] in
/-- A call does not change who was asked before an iteration that the rank has begun. -/
theorem requestedAt_request (bound : Nat → Prop)
    (late : ¬bound (s.handlers rank).terminatingIteration) (voter : Fin ppSize)
    (other : RequestId) :
    (∃ before, bound before ∧ (s.request rank rid).requestedAt voter other = some before) ↔
      ∃ before, bound before ∧ s.requestedAt voter other = some before := by
  by_cases same : voter = rank ∧ other = rid
  · obtain ⟨rfl, rfl⟩ := same
    rw [request_requestedAt_self, fresh]
    constructor
    · rintro ⟨before, bounded, is⟩
      cases is
      exact absurd bounded late
    · rintro ⟨_, _, is⟩
      cases is
  · rw [request_requestedAt same]

omit [NeZero ppSize] in
theorem agreed_request (early : iteration ≤ (s.handlers rank).terminatingIteration)
    (other : RequestId) :
    (s.request rank rid).Agreed iteration other ↔ s.Agreed iteration other :=
  forall_congr' fun voter => requestedAt_request fresh (· < iteration)
    (Nat.not_lt.mpr early) voter other

omit [NeZero ppSize] in
theorem due_request (early : iteration ≤ (s.handlers rank).terminatingIteration)
    (other : RequestId) :
    (s.request rank rid).Due iteration other ↔ s.Due iteration other := by
  unfold Due
  rw [agreed_request fresh early, agreed_request fresh (Nat.le_trans (Nat.sub_le _ _) early)]

theorem Inv.request (inv : s.Inv round turn) : (s.request rank rid).Inv round turn := by
  have reached : ∀ voter, round ≤ (s.handlers voter).terminatingIteration ∧
      (s.handlers voter).terminatingIteration ≤ round + 1 := by
    intro voter
    rw [inv.iteration]
    split <;> omega
  have agreed : ∀ {iteration}, iteration ≤ round → ∀ other,
      (s.request rank rid).Agreed iteration other ↔ s.Agreed iteration other :=
    fun early => agreed_request fresh (Nat.le_trans early (reached rank).1)
  -- a rank that has voted in this round is in the next iteration already
  have votes : ∀ voter : Fin ppSize, voter.val < turn.val → ∀ other,
      (s.request rank rid).Votes round voter other ↔ s.Votes round voter other := by
    intro voter voted other
    unfold Votes
    rw [agreed (Nat.le_refl _)]
    refine and_congr_left fun _ => ?_
    by_cases same : voter = rank
    · subst same
      refine requestedAt_request fresh (· ≤ round) ?_ voter other
      rw [inv.iteration, if_pos (Fin.lt_def.mpr voted)]
      omega
    · rw [request_requestedAt fun both => same both.1]
  refine {
    iteration := fun voter => ?_
    message := ?_
    others := inv.others
    pending := fun voter other => ?_
    pending_nodup := fun voter => ?_
    requested_le := fun {voter other before} requested => ?_
    terminated := fun voter other iteration => ?_
    terminated_nodup := inv.terminated_nodup }
  · rw [request_iteration]
    exact inv.iteration voter
  · refine inv.message.imp id fun ⟨started, msg, only, carried⟩ => ⟨started, msg, only, ?_⟩
    refine ⟨fun other => ?_, carried.term_nodup, fun later => ?_⟩
    · rw [carried.term]
      exact (due_request fresh (reached rank).1 other).symm
    · have unchanged : ∀ other, (∀ voter : Fin ppSize, voter.val < turn.val →
          (s.request rank rid).Votes round voter other) ↔
          ∀ voter : Fin ppSize, voter.val < turn.val → s.Votes round voter other :=
        fun other => forall_congr' fun voter => forall_congr' fun voted => votes voter voted other
      have ballot := carried.ready later
      refine ⟨ballot.nodup, fun {other _} mem => ?_, fun {other} all => ?_⟩
      · rw [unchanged]
        exact ballot.counted mem
      · exact ballot.complete ((unchanged other).mp all)
  · rw [request_iteration, agreed (Nat.sub_le_of_le_add (reached voter).2), mem_request_pending,
      request_requestedAt_isSome, inv.pending, or_and_right]
    refine or_congr_left (iff_self_and.mpr ?_)
    rintro ⟨rfl, rfl⟩ settled
    obtain ⟨before, _, requested⟩ := settled voter
    cases fresh.symm.trans requested
  · by_cases same : voter = rank
    · subst same
      simp only [TerminationRing.request, update_self]
      exact (inv.pending_nodup voter).insert
    · simp only [TerminationRing.request, update_of_ne same]
      exact inv.pending_nodup voter
  · rw [request_iteration]
    by_cases same : voter = rank ∧ other = rid
    · obtain ⟨rfl, rfl⟩ := same
      rw [request_requestedAt_self] at requested
      exact (Option.some.inj requested).ge
    · rw [request_requestedAt same] at requested
      exact inv.requested_le requested
  · rw [request_iteration]
    refine (inv.terminated voter other iteration).trans (and_congr_right fun done => ?_)
    have := reached voter
    have := reached rank
    exact (due_request fresh (by omega) other).symm

end Request

/-! ### A rank does its iteration -/

open DisaggPPTerminationHandler

/-- The votes after a rank has added its own. -/
theorem Ballot.vote {pending : List RequestId} (ballot : 0 < turn.val → s.Ballot round turn ready)
    (pending_nodup : pending.Nodup) (votes : ∀ rid, rid ∈ pending ↔ s.Votes round turn rid) :
    s.Ballot round (turn.val + 1) (vote (isFirstPpRank turn) pending ready) := by
  have all_votes : ∀ rid, (∀ rank : Fin ppSize, rank.val < turn.val + 1 → s.Votes round rank rid) ↔
        (∀ rank : Fin ppSize, rank.val < turn.val → s.Votes round rank rid) ∧ rid ∈ pending := by
    intro rid
    rw [votes]
    constructor
    · intro all
      exact ⟨fun rank before => all rank (Nat.lt_succ_of_lt before), all turn (Nat.lt_succ_self _)⟩
    · rintro ⟨others, own⟩ rank before
      rcases Nat.lt_succ_iff_lt_or_eq.mp before with before | same
      · exact others rank before
      · exact Fin.ext same ▸ own
  unfold DisaggPPTerminationHandler.vote
  split
  · rename_i first
    have zero : turn.val = 0 := by
      simp only [isFirstPpRank, beq_iff_eq] at first
      simp [first]
    refine ⟨?_, fun {rid numRanks} mem => ?_, fun {rid} all => ?_⟩
    · simpa [Function.comp_def] using pending_nodup
    · obtain ⟨_, isPending, is⟩ := mem_map.mp mem
      cases is
      refine ⟨by omega, fun _ => (all_votes rid).mpr ⟨fun rank before => ?_, isPending⟩,
        fun _ => by omega⟩
      omega
    · exact ⟨1, mem_map.mpr ⟨rid, ((all_votes rid).mp all).2, rfl⟩⟩
  · rename_i notFirst
    have pos : 0 < turn.val := by
      refine Nat.pos_of_ne_zero fun zero => notFirst ?_
      simpa [isFirstPpRank] using Fin.ext zero
    have ballot := ballot pos
    refine ⟨?_, fun {rid numRanks} mem => ?_, fun {rid} all => ?_⟩
    · simpa [Function.comp_def] using ballot.nodup
    · obtain ⟨⟨other, before⟩, isReady, is⟩ := mem_map.mp mem
      cases is
      obtain ⟨le, full⟩ := ballot.counted isReady
      rw [all_votes, ← full]
      split
      · rename_i isPending
        simp only [isPending, and_true]
        omega
      · rename_i notPending
        simp only [notPending, and_false, iff_false]
        omega
    · obtain ⟨numRanks, isReady⟩ := ballot.complete ((all_votes rid).mp all).1
      exact ⟨_, mem_map.mpr ⟨_, isReady, rfl⟩⟩

/-- The last rank decides for the requests of which all ranks agree for the first time. -/
theorem Ballot.decided (ballot : s.Ballot round ppSize ready) (rid : RequestId) :
    rid ∈ (ready.filter fun (_, numRanks) => numRanks = ppSize).map Prod.fst ↔
      s.Due (round + 1) rid := by
  have unanimous : (∀ rank : Fin ppSize, rank.val < ppSize → s.Votes round rank rid) ↔
      s.Due (round + 1) rid := by
    constructor
    · intro all
      refine ⟨fun rank => ?_, (all 0 (Fin.isLt 0)).2⟩
      obtain ⟨before, le, requested⟩ := (all rank rank.isLt).1
      exact ⟨before, Nat.lt_succ_of_le le, requested⟩
    · rintro ⟨agreed, new⟩ rank _
      obtain ⟨before, less, requested⟩ := agreed rank
      exact ⟨⟨before, Nat.le_of_lt_succ less, requested⟩, new⟩
  rw [← unanimous]
  constructor
  · intro mem
    obtain ⟨⟨_, numRanks⟩, kept, rfl⟩ := mem_map.mp mem
    obtain ⟨isReady, full⟩ := mem_filter.mp kept
    exact (ballot.counted isReady).2.mp (of_decide_eq_true full)
  · intro all
    obtain ⟨numRanks, isReady⟩ := ballot.complete all
    have full := (ballot.counted isReady).2.mpr all
    exact mem_map.mpr ⟨_, mem_filter.mpr ⟨isReady, decide_eq_true full⟩, rfl⟩

section Proceed

variable (inv : s.Inv round turn)
include inv

theorem Inv.turn_iteration : (s.handlers turn).terminatingIteration = round := by
  rw [inv.iteration, if_neg (Fin.lt_irrefl turn)]

theorem Inv.turn_requested (rid : RequestId) : (s.requestedAt turn rid).isSome ↔
    ∃ before ≤ round, s.requestedAt turn rid = some before := by
  rw [Option.isSome_iff_exists]
  refine exists_congr fun before => (and_iff_right_of_imp fun is => ?_).symm
  exact inv.turn_iteration ▸ inv.requested_le is

/-- What is pending after the decisions of a message is what the rank votes for. -/
theorem Inv.mem_pendingAfter (carried : s.Says round turn msg) (rid : RequestId) :
    rid ∈ (s.handlers turn).pendingAfter msg.term ↔ s.Votes round turn rid := by
  have kept : ¬s.Agreed (round - 1) rid ∧ ¬s.Due round rid ↔ ¬s.Agreed round rid := by
    constructor
    · rintro ⟨new, notDue⟩ agreed
      exact notDue ⟨agreed, new⟩
    · intro undecided
      exact ⟨fun agreed => undecided (agreed.mono (Nat.sub_le round 1)), fun due => undecided due.1⟩
  rw [pendingAfter, mem_filter, decide_eq_true_eq, inv.pending, inv.turn_iteration,
    carried.term, and_assoc, kept, inv.turn_requested]
  rfl

/-- All that the message decides is pending. -/
theorem Inv.terminates (carried : s.Says round turn msg) :
    msg.term.filter (· ∈ (s.handlers turn).pendingTermination) = msg.term := by
  refine filter_eq_self.mpr fun rid mem => decide_eq_true ?_
  obtain ⟨agreed, new⟩ := (carried.term rid).mp mem
  obtain ⟨before, _, requested⟩ := agreed turn
  rw [inv.pending, inv.turn_iteration]
  exact ⟨Option.isSome_iff_exists.mpr ⟨before, requested⟩, new⟩

/-- The message that is sent, and whose turn it is then. -/
theorem Inv.sends (carried : s.Says round turn msg) : ∃ round', s.Says round' (nextPpRank turn)
        (newTermState (isLastPpRank turn) ppSize
          (vote (isFirstPpRank turn) ((s.handlers turn).pendingAfter msg.term) msg.ready)
          msg.term) ∧ ¬(round' = 0 ∧ nextPpRank turn = 0) ∧
      ∀ rank, (if rank = turn then round + 1 else (s.handlers rank).terminatingIteration) =
        if rank < nextPpRank turn then round' + 1 else round' := by
  have ballot := Ballot.vote carried.ready ((inv.pending_nodup turn).filter _)
    (inv.mem_pendingAfter carried)
  unfold newTermState
  split
  · rename_i last
    have last : turn.val + 1 = ppSize := by simpa [isLastPpRank] using last
    have zero : nextPpRank turn = 0 := Fin.ext (by simp [nextPpRank, last])
    rw [last] at ballot
    refine ⟨round + 1, ⟨ballot.decided, ?_, fun later => ?_⟩, ?_, fun rank => ?_⟩
    · exact ballot.nodup.sublist (filter_sublist.map Prod.fst)
    · simp [zero] at later
    · simp
    · have before : rank ≠ turn → rank < turn := fun ne => by omega
      rw [zero, if_neg (Fin.not_lt_zero rank), inv.iteration]
      split
      · rfl
      · rw [if_pos (before ‹_›)]
  · rename_i notLast
    have notLast : turn.val + 1 ≠ ppSize := by simpa [isLastPpRank] using notLast
    have next : (nextPpRank turn).val = turn.val + 1 := Nat.mod_eq_of_lt (by omega)
    refine ⟨round, ⟨carried.term, carried.term_nodup, fun _ => next ▸ ballot⟩, ?_, fun rank => ?_⟩
    · rintro ⟨_, zero⟩
      simp [zero] at next
    · rw [inv.iteration]
      have reached : rank.val < turn.val + 1 ↔ rank.val = turn.val ∨ rank.val < turn.val := by omega
      simp only [Fin.lt_def, next, Fin.ext_iff, reached, ite_or]

omit inv in
/-- What a message says is about the history of the calls of `terminate` only. -/
theorem Says.proceed {rank : Fin ppSize} {other : TermState} (carried : s.Says round turn msg) :
    (s.proceed rank other).Says round turn msg where
  term := carried.term
  term_nodup := carried.term_nodup
  ready later :=
    { nodup := (carried.ready later).nodup
      counted := (carried.ready later).counted
      complete := (carried.ready later).complete }

theorem Inv.proceed (carried : s.Says round turn msg) :
    ∃ round', (s.proceed turn msg).Inv round' (nextPpRank turn) := by
  obtain ⟨round', sent, started, turns⟩ := inv.sends carried
  have emptied : ∀ rank, update s.inbox turn (s.inbox turn).tail rank = [] := by
    intro rank
    by_cases same : rank = turn
    · subst same
      rw [update_self]
      obtain ⟨_, _, none⟩ | ⟨_, _, one, _⟩ := inv.message
      · rw [none, tail_nil]
      · rw [one, tail_cons]
    · rw [update_of_ne same]
      exact inv.others rank same
  have iteration : ∀ rank, ((s.proceed turn msg).handlers rank).terminatingIteration =
      if rank = turn then round + 1 else (s.handlers rank).terminatingIteration := by
    intro rank
    split
    · rename_i same
      subst same
      simp [TerminationRing.proceed, terminatePendingRequests, inv.turn_iteration]
    · rename_i ne
      simp [TerminationRing.proceed, ne]
  have self : (s.proceed turn msg).handlers turn =
      { pendingTermination := (s.handlers turn).pendingAfter msg.term
        terminatingIteration := round + 1 } := by
    simp [TerminationRing.proceed, terminatePendingRequests, inv.turn_iteration]
  have other : ∀ {rank}, rank ≠ turn → (s.proceed turn msg).handlers rank = s.handlers rank :=
    fun ne => update_of_ne ne _ _
  have terminated : (s.proceed turn msg).terminated =
      s.terminated ++ msg.term.map fun rid => (turn, rid, round) := by
    simp only [TerminationRing.proceed, terminatePendingRequests, inv.terminates carried,
      inv.turn_iteration]
  refine ⟨round', {
    iteration := fun rank => (iteration rank).trans (turns rank)
    message := .inr ⟨started, _, ?_, sent.proceed⟩
    others := fun rank ne => ?_
    pending := fun rank rid => ?_
    pending_nodup := fun rank => ?_
    requested_le := fun {rank rid before} requested => ?_
    terminated := fun rank rid decidedIn => ?_
    terminated_nodup := ?_ }⟩
  · simp only [TerminationRing.proceed, update_self, emptied, nil_append]
    rfl
  · exact (update_of_ne ne _ _).trans (emptied rank)
  · by_cases same : rank = turn
    · subst same
      rw [self, inv.mem_pendingAfter carried, Nat.add_sub_cancel]
      exact and_congr_left fun _ => (inv.turn_requested rid).symm
    · rw [other same]
      exact inv.pending rank rid
  · by_cases same : rank = turn
    · subst same
      rw [self]
      exact (inv.pending_nodup rank).filter _
    · rw [other same]
      exact inv.pending_nodup rank
  · refine Nat.le_trans (inv.requested_le requested) ?_
    rw [iteration]
    split
    · rename_i same
      subst same
      exact inv.turn_iteration ▸ Nat.le_succ round
    · exact Nat.le_refl _
  · rw [terminated, mem_append, inv.terminated, iteration]
    have recent : (rank, rid, decidedIn) ∈ msg.term.map (fun rid => (turn, rid, round)) ↔
        rank = turn ∧ decidedIn = round ∧ s.Due decidedIn rid := by
      simp only [mem_map, Prod.mk.injEq]
      constructor
      · rintro ⟨_, mem, rfl, rfl, rfl⟩
        exact ⟨rfl, rfl, (carried.term _).mp mem⟩
      · rintro ⟨rfl, rfl, due⟩
        exact ⟨rid, (carried.term rid).mpr due, rfl, rfl, rfl⟩
    rw [recent, ← and_assoc, ← or_and_right]
    refine and_congr_left fun _ => ?_
    split
    · rename_i same
      subst same
      rw [inv.turn_iteration, and_iff_right rfl]
      exact Nat.lt_succ_iff_lt_or_eq.symm
    · rename_i ne
      simp only [ne, false_and, or_false]
  · rw [terminated]
    refine nodup_append.mpr ⟨inv.terminated_nodup, ?_, ?_⟩
    · exact carried.term_nodup.map fun _ _ same => (Prod.mk.inj (Prod.mk.inj same).2).1
    · rintro _ old _ new rfl
      obtain ⟨rid, _, rfl⟩ := mem_map.mp new
      have earlier := ((inv.terminated _ _ _).mp old).1
      exact Nat.lt_irrefl round (inv.turn_iteration ▸ earlier)

end Proceed

/-! ## Runs -/

variable {rendezvous : Bool} {iteration : Nat}

theorem Inv.receive_turn (inv : s.Inv round turn) :
    ∃ msg, s.receive turn = some msg ∧ s.Says round turn msg := by
  unfold receive
  rw [inv.turn_iteration]
  obtain ⟨rfl, rfl, _⟩ | ⟨started, msg, one, carried⟩ := inv.message
  · refine ⟨_, if_pos (by simp [isFirstPpRank]), fun rid => ?_, nodup_nil, fun later => ?_⟩
    · simp [Due, not_agreed_zero]
    · simp at later
  · refine ⟨msg, ?_, carried⟩
    rw [if_neg, one, head?_cons]
    intro start
    simp only [isFirstPpRank, Bool.and_eq_true, beq_iff_eq] at start
    exact started ⟨start.2, start.1⟩

/-- Only the rank whose turn it is can do its iteration. -/
theorem Inv.receive_of_ne (inv : s.Inv round turn) {rank : Fin ppSize} (ne : rank ≠ turn) :
    s.receive rank = none := by
  unfold receive
  rw [if_neg, inv.others rank ne, head?_nil]
  intro start
  simp only [isFirstPpRank, Bool.and_eq_true, beq_iff_eq] at start
  obtain ⟨rfl, new⟩ := start
  rw [inv.iteration, if_pos (Fin.pos_iff_ne_zero.mpr ne.symm)] at new
  cases new

theorem Inv.step (inv : s.Inv round turn) {action : Action ppSize} (once : s.Once action)
    {next : TerminationRing ppSize} (stepped : s.step rendezvous action = .ok next) :
    ∃ round' turn', next.Inv round' turn' := by
  cases action with
  | terminate rank rid =>
    cases stepped
    exact ⟨round, turn, inv.request once⟩
  | terminatePendingRequests rank =>
    unfold TerminationRing.step at stepped
    dsimp only at stepped
    split at stepped
    · cases stepped
    by_cases same : rank = turn
    · subst same
      obtain ⟨msg, received, carried⟩ := inv.receive_turn
      rw [received] at stepped
      cases stepped
      obtain ⟨round', kept⟩ := inv.proceed carried
      exact ⟨round', _, kept⟩
    · rw [inv.receive_of_ne same] at stepped
      cases stepped

/-- The rank whose turn it is is not held up by its last message, which has been received. -/
theorem Inv.progresses (inv : s.Inv round turn) (ring : rendezvous = true → 2 ≤ ppSize) :
    ∃ next, s.step rendezvous (.terminatePendingRequests turn) = .ok next := by
  obtain ⟨msg, received, _⟩ := inv.receive_turn
  have free : (rendezvous && !(s.inbox (nextPpRank turn)).isEmpty) = false := by
    cases rendezvous with
    | false => rfl
    | true =>
      have large := ring rfl
      have ne : nextPpRank turn ≠ turn := by
        intro same
        have same := congrArg Fin.val same
        simp only [nextPpRank] at same
        rcases Nat.lt_or_ge (turn.val + 1) ppSize with lt | outside
        · rw [Nat.mod_eq_of_lt lt] at same
          omega
        · have last : turn.val + 1 = ppSize := by omega
          rw [last, Nat.mod_self] at same
          omega
      rw [inv.others _ ne]
      rfl
  refine ⟨s.proceed turn msg, ?_⟩
  simp only [TerminationRing.step, free, received, Bool.false_eq_true, if_false]

theorem exists_inv (reached : Run.Reaches (step rendezvous) Once {} s) :
    ∃ round, ∃ turn : Fin ppSize, s.Inv round turn := by
  apply reached.invariant
  · exact ⟨0, 0, Inv.initial⟩
  · intro before action after known once stepped
    obtain ⟨round, turn, inv⟩ := known
    exact inv.step once stepped

/-- What holds in a state of the ring. -/
structure Agreement (rendezvous : Bool) (s : TerminationRing ppSize) : Prop where
  /-- Some rank can do its iteration. -/
  moves : ∃ rank next, s.step rendezvous (.terminatePendingRequests rank) = .ok next
  /-- No rank is left behind: the iterations differ by one at most. -/
  balanced : ∀ rank other, (s.handlers rank).terminatingIteration ≤
    (s.handlers other).terminatingIteration + 1
  unanimous : ∀ {rank requestId iteration}, (rank, requestId, iteration) ∈ s.terminated →
    ∀ other, ∃ before < iteration, s.requestedAt other requestId = some before
  same : ∀ {rank other requestId iteration iteration'},
    (rank, requestId, iteration) ∈ s.terminated → (other, requestId, iteration') ∈ s.terminated →
    iteration = iteration'
  everywhere : ∀ {rank requestId iteration}, (rank, requestId, iteration) ∈ s.terminated →
    ∀ other, iteration < (s.handlers other).terminatingIteration →
    (other, requestId, iteration) ∈ s.terminated
  once : s.terminated.Nodup
  prompt : ∀ {requestId iteration},
    (∀ rank, ∃ before ≤ iteration, s.requestedAt rank requestId = some before) →
    ∀ rank, iteration + 1 < (s.handlers rank).terminatingIteration →
    ∃ decidedIn ≤ iteration + 1, (rank, requestId, decidedIn) ∈ s.terminated

omit [NeZero ppSize] in
theorem Due.le {iteration' : Nat} (due : s.Due iteration rid) (agreed : s.Agreed iteration' rid) :
    iteration ≤ iteration' := by
  by_contra later
  exact due.2 (agreed.mono (by omega))

theorem Agreed.exists_due (agreed : s.Agreed iteration rid) :
    ∃ decidedIn ≤ iteration, s.Due decidedIn rid := by
  induction iteration with
  | zero => exact absurd agreed not_agreed_zero
  | succ iteration ih =>
    by_cases earlier : s.Agreed iteration rid
    · obtain ⟨decidedIn, le, due⟩ := ih earlier
      exact ⟨decidedIn, Nat.le_succ_of_le le, due⟩
    · exact ⟨iteration + 1, Nat.le_refl _, agreed, earlier⟩

/-- In every interleaving of the ranks' calls, the ring does not halt, and a request is terminated
on all ranks in the same iteration and once, after all have it pending, in the iteration after the
one before which they did at the latest. The handler exists only for two ranks or more; for one rank
alone the send must not wait for its own receive. -/
theorem terminates_together (ring : rendezvous = true → 2 ≤ ppSize)
    (reached : Run.Reaches (step rendezvous) Once {} s) : s.Agreement rendezvous := by
  obtain ⟨round, turn, inv⟩ := exists_inv reached
  refine {
    moves := ⟨turn, inv.progresses ring⟩
    balanced := fun rank other => ?_
    unanimous := fun terminated => ((inv.terminated _ _ _).mp terminated).2.1
    same := fun terminated terminated' => ?_
    everywhere := fun terminated other done => ?_
    once := inv.terminated_nodup
    prompt := fun {requestId iteration} requested rank done => ?_ }
  · rw [inv.iteration, inv.iteration]
    split <;> split <;> omega
  · have due := ((inv.terminated _ _ _).mp terminated).2
    have due' := ((inv.terminated _ _ _).mp terminated').2
    exact Nat.le_antisymm (due.le due'.1) (due'.le due.1)
  · exact (inv.terminated _ _ _).mpr ⟨done, ((inv.terminated _ _ _).mp terminated).2⟩
  · have agreed : s.Agreed (iteration + 1) requestId := by
      intro rank
      obtain ⟨before, le, is⟩ := requested rank
      exact ⟨before, Nat.lt_succ_of_le le, is⟩
    obtain ⟨decidedIn, le, due⟩ := agreed.exists_due
    exact ⟨decidedIn, le, (inv.terminated _ _ _).mpr ⟨Nat.lt_of_le_of_lt le done, due⟩⟩

/-- Request 7 becomes pending on the first rank before its first iteration and on the second
one before its second iteration. -/
def twoRanks (first second : Fin ppSize) : List (Action ppSize) :=
  [.terminate first 7, .terminatePendingRequests first, .terminatePendingRequests second,
    .terminate second 7, .terminatePendingRequests first, .terminatePendingRequests second,
    .terminatePendingRequests first, .terminatePendingRequests second]

theorem terminates_together_twoRanks : ∃ s : TerminationRing 2,
    (Run.Reaches (step true) Once {} s ∧
      decide (s.terminated = [(0, 7, 2), (1, 7, 2)]) = true) ∧ s.Agreement true := by
  refine Exists.imp (fun s checked => ⟨checked, ?_⟩)
    (Run.exists_reaches (twoRanks 0 1) (by decide))
  exact terminates_together (fun _ => Nat.le_refl 2) checked.1

end TerminationRing

end TrtLlm
