import Mathlib.Algebra.Order.Ring.Nat
import Mathlib.Data.List.Basic

/-! # Waiting with context requests under attention DP

The ranks tell each other how many requests they have scheduled, and each decides by itself whether
it withholds its context requests: until all ranks have some, up to a timeout, and then some
iterations more. They decide alike, and do not wait for ever.
-/

namespace TrtLlm.PyExecutor

/-- The settings of an executor that the decision depends on. -/
structure AdpConfig where
  maxBatchSize : Nat
  attentionDpEnableBalance : Bool
  attentionDpTimeOutIters : Int
  attentionDpBatchingWaitIters : Int

/-- The counters of a rank. -/
structure AdpCounters where
  adpCtxWaitingItersCount : Nat := 0
  adpCtxBatchingWaitItersCount : Nat := 0
  deriving DecidableEq, Repr

/-- `_balance_adp_requests`: whether the context requests are withheld, with the counters after it.
A response has the numbers of context and of generation requests of a rank. -/
def adpDecision (config : AdpConfig) (counters : AdpCounters) (responsesList : List (Nat × Nat)) :
    AdpCounters × Bool :=
  let allRanksHaveFreeCtxSlots := responsesList.all fun response => response.2 < config.maxBatchSize
  let allRanksHaveCtxRequests := responsesList.all fun response => 0 < response.1
  let allRanksHaveGenRequests := responsesList.all fun response => 0 < response.2
  if config.attentionDpEnableBalance then
    if allRanksHaveFreeCtxSlots && allRanksHaveCtxRequests then
      let counters := { counters with adpCtxWaitingItersCount := 0 }
      if allRanksHaveGenRequests then
        if counters.adpCtxBatchingWaitItersCount < config.attentionDpBatchingWaitIters then
          ({ counters with
            adpCtxBatchingWaitItersCount := counters.adpCtxBatchingWaitItersCount + 1 }, true)
        else ({ counters with adpCtxBatchingWaitItersCount := 0 }, false)
      else (counters, false)
    else
      let waitingItersCount := counters.adpCtxWaitingItersCount + 1
      if config.attentionDpTimeOutIters ≤ waitingItersCount || !allRanksHaveGenRequests then
        ({ counters with adpCtxWaitingItersCount := 0 }, false)
      else ({ counters with adpCtxWaitingItersCount := waitingItersCount }, true)
  else (counters, false)

/-- The decisions of all ranks in each of some iterations. The ranks gather the same numbers. -/
def decisions (config : AdpConfig) : List AdpCounters → List (List (Nat × Nat)) → List (List Bool)
  | _, [] => []
  | ranks, responsesList :: iterations =>
    let decided := ranks.map fun counters => adpDecision config counters responsesList
    decided.map Prod.snd :: decisions config (decided.map Prod.fst) iterations

variable {config : AdpConfig} {counters : AdpCounters} {responsesList : List (Nat × Nat)}
  {iterations : List (List (Nat × Nat))} {tpSize : Nat}

/-- The iterations in which a rank may withhold until it releases: a timeout and one for each
batching wait that is left, and the rest of the present timeout. -/
def withholdsLeft (config : AdpConfig) (counters : AdpCounters) : Nat :=
  (config.attentionDpBatchingWaitIters.toNat - counters.adpCtxBatchingWaitItersCount) *
      ((config.attentionDpTimeOutIters - 1).toNat + 1) +
    ((config.attentionDpTimeOutIters - 1).toNat - counters.adpCtxWaitingItersCount)

/-- A rank withholds for larger batches, or because some rank is not ready and the timeout is not
reached. -/
theorem adpDecision_withheld {after : AdpCounters}
    (decided : adpDecision config counters responsesList = (after, true)) :
    ((counters.adpCtxBatchingWaitItersCount : Int) < config.attentionDpBatchingWaitIters ∧
      after = ⟨0, counters.adpCtxBatchingWaitItersCount + 1⟩) ∨
    ((counters.adpCtxWaitingItersCount + 1 : Int) < config.attentionDpTimeOutIters ∧
      after = ⟨counters.adpCtxWaitingItersCount + 1, counters.adpCtxBatchingWaitItersCount⟩) := by
  unfold adpDecision at decided
  dsimp only at decided
  split at decided
  · split at decided
    · split at decided
      · split at decided
        · rename_i waits
          cases decided
          exact .inl ⟨waits, rfl⟩
        · cases decided
      · cases decided
    · split at decided
      · cases decided
      · rename_i early
        cases decided
        simp only [Bool.or_eq_true, decide_eq_true_eq, not_or, Int.not_le] at early
        exact .inr ⟨early.1, rfl⟩
  · cases decided

/-- The step lemma: a rank that withholds has one iteration less. -/
theorem withholdsLeft_lt {after : AdpCounters}
    (decided : adpDecision config counters responsesList = (after, true)) :
    withholdsLeft config after < withholdsLeft config counters := by
  rcases adpDecision_withheld decided with ⟨waits, rfl⟩ | ⟨early, rfl⟩
  · have more : config.attentionDpBatchingWaitIters.toNat - counters.adpCtxBatchingWaitItersCount =
        config.attentionDpBatchingWaitIters.toNat -
          (counters.adpCtxBatchingWaitItersCount + 1) + 1 := by omega
    rw [withholdsLeft, withholdsLeft, more, Nat.succ_mul]
    dsimp only
    omega
  · rw [withholdsLeft, withholdsLeft]
    dsimp only
    omega

/-- Ranks with equal counters decide as one of them would, and then have equal counters. -/
theorem decisions_cons : decisions config (List.replicate tpSize counters)
      (responsesList :: iterations) =
    List.replicate tpSize (adpDecision config counters responsesList).2 ::
      decisions config (List.replicate tpSize (adpDecision config counters responsesList).1)
        iterations := by
  simp [decisions]

theorem decisions_agree : ∀ decided ∈ decisions config (List.replicate tpSize counters) iterations,
    ∃ withheld, decided = List.replicate tpSize withheld := by
  induction iterations generalizing counters with
  | nil => exact fun _ mem => absurd mem List.not_mem_nil
  | cons responsesList iterations ih =>
    intro decided mem
    rw [decisions_cons] at mem
    rcases List.mem_cons.mp mem with rfl | later
    · exact ⟨_, rfl⟩
    · exact ih decided later

/-- The run lemma: the withholding iterations from here on. -/
theorem length_le_withholdsLeft {withheld later : List (List Bool)}
    (split : decisions config (List.replicate tpSize counters) iterations = withheld ++ later)
    (held : ∀ decided ∈ withheld, true ∈ decided) :
    withheld.length ≤ withholdsLeft config counters := by
  induction withheld generalizing counters iterations with
  | nil => exact Nat.zero_le _
  | cons decided withheld ih =>
    cases iterations with
    | nil => cases split
    | cons responsesList iterations =>
      rw [decisions_cons] at split
      obtain ⟨rfl, rest⟩ := List.cons.inj split
      have own := List.eq_of_mem_replicate (held _ List.mem_cons_self)
      have less := withholdsLeft_lt (Prod.ext rfl own.symm)
      have bound := ih rest (List.forall_mem_cons.mp held).2
      exact Nat.succ_le_of_lt (Nat.lt_of_le_of_lt bound less)

/-- Ranks with equal counters and the same settings make the same decision in each iteration, and
with timeout `T` and batching wait `N` they withhold in at most `N + (N + 1) * max (T - 1) 0`
iterations in a row; a negative `N` counts as zero. -/
theorem context_waiting_agreed (config : AdpConfig) (counters : AdpCounters) (tpSize : Nat)
    (iterations : List (List (Nat × Nat))) :
    (∀ decided ∈ decisions config (List.replicate tpSize counters) iterations,
      ∃ withheld, decided = List.replicate tpSize withheld) ∧
    ∀ earlier withheld later,
      decisions config (List.replicate tpSize counters) iterations = earlier ++ withheld ++ later →
      (∀ decided ∈ withheld, true ∈ decided) →
      (withheld.length : Int) ≤ max config.attentionDpBatchingWaitIters 0 +
        (max config.attentionDpBatchingWaitIters 0 + 1) *
          max (config.attentionDpTimeOutIters - 1) 0 := by
  refine ⟨decisions_agree, fun earlier withheld later split held => ?_⟩
  induction earlier generalizing counters iterations with
  | nil =>
    have left := length_le_withholdsLeft split held
    have most : withholdsLeft config counters ≤ config.attentionDpBatchingWaitIters.toNat *
        ((config.attentionDpTimeOutIters - 1).toNat + 1) +
          (config.attentionDpTimeOutIters - 1).toNat :=
      Nat.add_le_add (Nat.mul_le_mul_right _ (Nat.sub_le ..)) (Nat.sub_le ..)
    have bound := Int.ofNat_le.mpr (left.trans most)
    rw [List.nil_append, Nat.mul_succ] at bound
    push_cast [Int.ofNat_toNat] at bound
    rw [Int.add_mul, Int.one_mul]
    omega
  | cons decided earlier ih =>
    cases iterations with
    | nil => cases split
    | cons responsesList iterations =>
      rw [decisions_cons] at split
      exact ih _ _ (List.cons.inj split).2

/-- Two ranks wait for the second one to have a context request, and release with the timeout. -/
example : decisions ⟨8, true, 3, 0⟩ [{}, {}] (List.replicate 3 [(1, 1), (0, 1)]) =
    [[true, true], [true, true], [false, false]] := by decide

end TrtLlm.PyExecutor
