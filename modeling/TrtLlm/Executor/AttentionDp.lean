import Mathlib.Data.List.GetD
import Mathlib.Data.List.MinMax
import Mathlib.Data.List.Sort
import TrtLlm.Executor.RequestQueue
import TrtLlm.Lib.PriorityQueue

/-! # Balancing requests with attention DP

The items that the ranks can take together leave the waiting queue. They go to their target ranks as
long as these have room, and otherwise to the rank with the fewest tokens. There is room for all of
them, and no rank takes more than it may.
-/

namespace TrtLlm

open List

namespace ExecutorRequestQueue

variable (config cfg : QueueConfig)

/-- `get_relax_value`: an item without parameters counts as relaxed. -/
def getRelaxValue (item : RequestQueueItem) : Option Bool :=
  match item.schedulingParams with
  | none => some true
  | some params => params.attentionDpRelax

/-- `sorted(new_requests, key=get_relax_value, reverse=True)`, relaxed items first. Python
compares each key with another one if there are two, and `None` cannot be compared. -/
def sortByRelaxValue (newRequests : List RequestQueueItem) :
    Except FetchFailure (List RequestQueueItem) :=
  if 2 ≤ newRequests.length ∧ ∃ item ∈ newRequests, getRelaxValue item = none then
    .error .typeError
  else .ok (newRequests.insertionSort fun first second =>
    getRelaxValue second = some true → getRelaxValue first = some true)

/-- `len(x.request.input_token_ids)`, or 0 if there is no request. -/
def tokenCount (item : RequestQueueItem) : Nat :=
  match item.request with
  | none => 0
  | some request => request.inputTokenIds.length

/-- The items sorted by token count, descending. -/
def sortByTokenCount (newRequests : List RequestQueueItem) : List RequestQueueItem :=
  newRequests.insertionSort fun first second => tokenCount second ≤ tokenCount first

/-- The state of the first pass. -/
structure TargetPass where
  allRanksNumActiveRequests : List Nat
  allRanksNewRequests : List (List RequestQueueItem)
  remainingUnscheduled : List RequestQueueItem := []

/-- One item in the first pass. -/
def TargetPass.schedule (pass : TargetPass) (item : RequestQueueItem) :
    Except FetchFailure TargetPass :=
  let unscheduled := { pass with remainingUnscheduled := pass.remainingUnscheduled ++ [item] }
  match item.schedulingParams.bind (·.attentionDpRank) with
  | none => .ok unscheduled
  | some targetDpRank =>
    match pyPosition pass.allRanksNumActiveRequests.length targetDpRank with
    | none => .error .indexError
    | some position =>
      if pass.allRanksNumActiveRequests.getD position 0 < config.maxNumActiveRequests then
        if targetDpRank < 0 then .error .keyError
        else .ok
          { pass with
            allRanksNumActiveRequests :=
              pass.allRanksNumActiveRequests.modify position (· + 1)
            allRanksNewRequests := pass.allRanksNewRequests.modify position (· ++ [item]) }
      else .ok unscheduled

/-- An entry of the heap, without its list of requests. -/
structure HeapVal where
  numTokens : Nat
  numRequests : Nat
  rank : Nat

namespace HeapVal

/-- Tuples are compared from left to right. -/
def before (first second : HeapVal) : Bool :=
  first.numTokens < second.numTokens || first.numTokens == second.numTokens &&
    (first.numRequests < second.numRequests || first.numRequests == second.numRequests &&
      first.rank < second.rank)

def addRequest (val : HeapVal) (item : RequestQueueItem) : HeapVal :=
  { val with
    numTokens := val.numTokens + tokenCount item
    numRequests := val.numRequests + 1 }

end HeapVal

/-- The ranks that have room, before they are made a heap. -/
def newRequestsHeap (expectedNumActiveRequests : Nat) (allRanksNumActiveRequests
    allRanksNumActiveTokens : List Nat) : List HeapVal :=
  (allRanksNumActiveRequests.zipIdx.map fun (val, tpRank) =>
    { numTokens := allRanksNumActiveTokens.getD tpRank 0, numRequests := val,
      rank := tpRank }).filter
      fun val => val.numRequests < expectedNumActiveRequests

/-- `_balance_requests_across_ranks` -/
def balanceRequestsAcrossRanks (expectedNumActiveRequests : Nat)
    (newRequests : List RequestQueueItem) (allRanksNewRequests : List (List RequestQueueItem))
    (allRanksNumActiveRequests allRanksNumActiveTokens : List Nat) :
    Except FetchFailure (List (List RequestQueueItem)) :=
  if newRequests.isEmpty then .ok allRanksNewRequests
  else
    match PriorityQueue.place HeapVal.before HeapVal.rank HeapVal.numRequests HeapVal.addRequest
        expectedNumActiveRequests (sortByTokenCount newRequests)
        (newRequestsHeap expectedNumActiveRequests allRanksNumActiveRequests
          allRanksNumActiveTokens)
        (allRanksNewRequests.map fun _ => []) with
    | none => .error .emptyHeap
    | some (_, allRanksNewScheduledRequests) =>
      .ok (List.zipWith (· ++ ·) allRanksNewRequests allRanksNewScheduledRequests)

/-- The limit of the second pass. -/
def expectedNumActiveRequests (allRanksNumActiveRequests : List Nat)
    (numNewRequestsAllRanks : Nat) : Nat :=
  max ((allRanksNumActiveRequests.sum + numNewRequestsAllRanks +
    allRanksNumActiveRequests.length - 1) / allRanksNumActiveRequests.length)
    (allRanksNumActiveRequests.foldr max 0)

/-- `_schedule_attention_dp_requests` -/
def scheduleAttentionDpRequests (newRequests : List RequestQueueItem)
    (allRanksNumActiveRequests allRanksNumActiveTokens : List Nat) :
    Except FetchFailure (List (List RequestQueueItem)) := do
  let newRequests ← sortByRelaxValue newRequests
  let pass ← newRequests.foldlM (TargetPass.schedule config)
    { allRanksNumActiveRequests := allRanksNumActiveRequests
      allRanksNewRequests := allRanksNumActiveRequests.map fun _ => [] }
  if pass.allRanksNumActiveRequests.length = 0 then .error .zeroDivision
  else
    balanceRequestsAcrossRanks
      (expectedNumActiveRequests pass.allRanksNumActiveRequests pass.remainingUnscheduled.length)
      pass.remainingUnscheduled pass.allRanksNewRequests pass.allRanksNumActiveRequests
      allRanksNumActiveTokens

/-- The number of items that the ranks can take together. -/
def maxReqCount (allRanksNumActiveRequests : List Nat) : Int :=
  ((allRanksNumActiveRequests.length * config.maxNumActiveRequests : Nat) : Int) -
    (allRanksNumActiveRequests.sum : Nat)

/-- What a fetch does to the waiting queue, and the items for each rank. -/
structure Fetched where
  items : List RequestQueueItem
  waitingQueue : List RequestQueueItem
  allRanksNewRequests : List (List RequestQueueItem)

/-- `_fetch_new_requests_attention_dp`, with the active requests and active tokens of each rank,
from the waiting queue on. -/
def fetchNewRequestsAttentionDp (waitingQueue : List RequestQueueItem)
    (responsesList : List (Nat × Nat)) : Except FetchFailure Fetched := do
  let allRanksNumActiveRequests := responsesList.map Prod.fst
  let allRanksNumActiveTokens := responsesList.map Prod.snd
  let (items, waitingQueue) ← getFromWaitingQueue config waitingQueue
    (maxReqCount config allRanksNumActiveRequests) (some allRanksNumActiveRequests)
  let allRanksNewRequests ← scheduleAttentionDpRequests config items allRanksNumActiveRequests
    allRanksNumActiveTokens
  pure { items, waitingQueue, allRanksNewRequests }

variable {config cfg} {queue : List RequestQueueItem} {count limit : Nat}

/-! ## The items that leave the waiting queue -/

/-- The target ranks of the items exist. -/
def TargetsExist (numRanks : Nat) (items : List RequestQueueItem) : Prop :=
  ∀ item ∈ items, ∀ targetDpRank, item.schedulingParams.bind (·.attentionDpRank) =
    some targetDpRank → 0 ≤ targetDpRank ∧ targetDpRank < numRanks

/-- The item names a rank as its target. -/
def targets (rank : Nat) (item : RequestQueueItem) : Bool :=
  item.schedulingParams.bind (·.attentionDpRank) == some (rank : Int)

/-- The item names a rank and may not go to another one. -/
def targetsStrictly (rank : Nat) (item : RequestQueueItem) : Bool :=
  targets rank item && getRelaxValue item != some true

theorem pyPosition_of_exists {length : Nat} {idx : Int} (exist : 0 ≤ idx ∧ idx < length) :
    pyPosition length idx = some idx.toNat ∧ idx.toNat < length := by
  have notNegative : ¬idx < 0 := by omega
  refine ⟨?_, by omega⟩
  unfold pyPosition
  rw [if_neg notNegative]
  exact if_pos exist

section Admission

variable (config) (counts : List Nat) (queue : List RequestQueueItem)

/-- The ranks of an item of the queue have room for it behind the strict items before it. -/
def hasRoom (entry : RequestQueueItem × Nat) : Bool :=
  (List.range counts.length).all fun rank => !targetsStrictly rank entry.1 ||
    counts.getD rank 0 + (queue.take entry.2).countP (targetsStrictly rank) <
      config.maxNumActiveRequests

/-- The requests in front of a position for which there is room, with their children. -/
def load (position : Nat) : Nat :=
  (((queue.zipIdx.take position).filter (hasRoom config counts queue)).map
    fun entry => 1 + entry.1.childReqIds.length).sum

/-- The ranks together have room for an item of the queue and those in front of it. -/
def fits (entry : RequestQueueItem × Nat) : Bool :=
  ((load config counts queue entry.2 + (1 + entry.1.childReqIds.length) : Nat) : Int) ≤
    maxReqCount config counts

/-- An item of the queue has room, and everything up to it fits. -/
def admits (entry : RequestQueueItem × Nat) : Bool :=
  hasRoom config counts queue entry &&
    (queue.zipIdx.take (entry.2 + 1)).all (fits config counts queue)

/-- The items of the queue that a fetch is to take. -/
def admitted : List RequestQueueItem :=
  (queue.zipIdx.filter (admits config counts queue)).map Prod.fst

end Admission

/-- A test of an item: a strict one is taken if its rank has room, and is counted there. -/
structure Tests (config : QueueConfig) (item : RequestQueueItem) (counts : List Nat) (can : Bool)
    (counts' : List Nat) : Prop where
  length : counts'.length = counts.length
  loose : (∀ rank, targetsStrictly rank item = false) → can = true
  room : ∀ rank, targetsStrictly rank item = true →
    (can = true ↔ counts.getD rank 0 < config.maxNumActiveRequests)
  counted : ∀ rank, counts'.getD rank 0 =
    counts.getD rank 0 + if can && targetsStrictly rank item then 1 else 0

theorem Tests.of_loose {item : RequestQueueItem} {cnt : List Nat}
    (loose : ∀ rank, targetsStrictly rank item = false) : Tests cfg item cnt true cnt :=
  ⟨rfl, fun _ => rfl, fun rank strict => by simp [loose] at strict, fun rank => by simp [loose]⟩

theorem canProcessAttentionDpRequest_total (cfg : QueueConfig) {item : RequestQueueItem}
    {cnt : List Nat} (exist : TargetsExist cnt.length [item]) :
    ∃ can counts', canProcessAttentionDpRequest cfg item cnt = .ok (can, counts') ∧
      Tests cfg item cnt can counts' := by
  unfold canProcessAttentionDpRequest
  split
  · rename_i missing
    exact ⟨true, cnt, rfl, .of_loose fun rank => by simp [targetsStrictly, targets, missing]⟩
  rename_i params given
  split
  · rename_i missing
    exact ⟨true, cnt, rfl, .of_loose fun rank => by
      simp [targetsStrictly, targets, given, missing]⟩
  rename_i targetDpRank target
  have isTarget : item.schedulingParams.bind (·.attentionDpRank) = some targetDpRank := by
    rw [given]
    exact target
  split
  · rename_i relaxed
    exact ⟨true, cnt, rfl, .of_loose fun rank => by
      simp [targetsStrictly, getRelaxValue, given, relaxed]⟩
  rename_i strict
  have strictly : ∀ rank : Nat, targetsStrictly rank item = true ↔ targetDpRank.toNat = rank := by
    intro rank
    have nonneg := (exist item mem_cons_self targetDpRank isTarget).1
    have relaxValue : getRelaxValue item = params.attentionDpRelax := by rw [getRelaxValue, given]
    rw [targetsStrictly, targets, isTarget, relaxValue, Bool.and_eq_true, beq_iff_eq, bne_iff_ne,
      Option.some.injEq, and_iff_left strict]
    omega
  obtain ⟨pos, lt⟩ := pyPosition_of_exists (exist item mem_cons_self targetDpRank isTarget)
  rw [pos]
  dsimp only
  split
  · rename_i room
    refine ⟨true, _, rfl, length_modify .., fun _ => rfl, fun rank named => ?_, fun rank => ?_⟩
    · exact iff_of_true rfl ((strictly rank).mp named ▸ room)
    · rw [getD_modify_succ _ lt]
      simp only [Bool.true_and, strictly]
      split <;> rfl
  · rename_i full
    refine ⟨false, cnt, rfl, rfl, fun none => ?_, fun rank named => ?_, fun rank => rfl⟩
    · exact absurd ((strictly _).mpr rfl) (by simp [none])
    · exact iff_of_false Bool.false_ne_true ((strictly rank).mp named ▸ full)

/-- The items that a call takes from a queue, and those that stay in it. -/
structure Takes (queue items left : List RequestQueueItem) : Prop where
  perm : (items ++ left).Perm queue
  ordered : left.Sublist queue

/-- The loop counts the strict items for each rank up to its room. -/
def CountsUpTo (config : QueueConfig) (counts : List Nat) (before : List RequestQueueItem)
    (current : List Nat) : Prop :=
  current.length = counts.length ∧ ∀ rank,
    (counts.getD rank 0 + before.countP (targetsStrictly rank) ≤ config.maxNumActiveRequests →
      current.getD rank 0 = counts.getD rank 0 + before.countP (targetsStrictly rank)) ∧
    (config.maxNumActiveRequests ≤ counts.getD rank 0 + before.countP (targetsStrictly rank) →
      config.maxNumActiveRequests ≤ current.getD rank 0)

section

variable {whole : List RequestQueueItem} {counts cnt counts' : List Nat} {position : Nat}
  {item : RequestQueueItem} {can : Bool}
  (counted : CountsUpTo cfg counts (whole.take position) cnt)
  (tests : Tests cfg item cnt can counts')
include counted tests

/-- The test tells whether the ranks have room behind the items before. -/
theorem CountsUpTo.hasRoom_eq (exist : TargetsExist cnt.length [item]) :
    hasRoom cfg counts whole (item, position) = can := by
  rw [Bool.eq_iff_iff, hasRoom, all_eq_true]
  simp only [mem_range, Bool.or_eq_true, Bool.not_eq_true', decide_eq_true_eq]
  constructor
  · intro room
    by_cases none : ∀ rank, targetsStrictly rank item = false
    · exact tests.loose none
    · obtain ⟨rank, strict⟩ := not_forall.mp none
      rw [Bool.not_eq_false] at strict
      have lt : rank < counts.length := by
        simp only [targetsStrictly, targets, Bool.and_eq_true, beq_iff_eq] at strict
        exact Int.ofNat_lt.mp (counted.1 ▸ (exist item mem_cons_self rank strict.1).2)
      have free := (room rank lt).resolve_left (by simp [strict])
      refine (tests.room rank strict).mpr ?_
      rwa [(counted.2 rank).1 (Nat.le_of_lt free)]
  · intro yes rank _
    refine or_iff_not_imp_left.mpr fun strict => ?_
    have free := (tests.room rank (by simpa using strict)).mp yes
    exact Nat.lt_of_not_le fun full => Nat.not_le.mpr free ((counted.2 rank).2 full)

theorem CountsUpTo.next (here : whole[position]? = some item) :
    CountsUpTo cfg counts (whole.take (position + 1)) counts' := by
  refine ⟨tests.length.trans counted.1, fun rank => ?_⟩
  have before := counted.2 rank
  rw [take_add_one, here, Option.toList_some, countP_append, countP_singleton, tests.counted]
  by_cases strict : targetsStrictly rank item = true
  · have free := tests.room rank strict
    simp only [strict, Bool.and_true, free, ↓reduceIte]
    split <;> omega
  · rw [if_neg strict, Bool.not_eq_true _ |>.mp strict, Bool.and_false]
    exact before

end

/-- The loop takes the items that are admitted. -/
theorem waitingQueueLoop_takes (cfg : QueueConfig) {whole : List RequestQueueItem}
    {counts cnt : List Nat} (exist : TargetsExist counts.length whole) {position : Nat}
    (isRest : whole.drop position = queue)
    (fitting : ∀ entry ∈ whole.zipIdx.take position, fits cfg counts whole entry = true)
    (counted : CountsUpTo cfg counts (whole.take position) cnt) :
    ∃ items pendingRequests rest, waitingQueueLoop cfg (maxReqCount cfg counts)
        (load cfg counts whole position) (some cnt) queue = .ok (items, pendingRequests, rest) ∧
      Takes queue items (pendingRequests ++ rest) ∧
      items = ((queue.zipIdx position).filter (admits cfg counts whole)).map Prod.fst ∧
      (items ≠ [] →
        (load cfg counts whole position + items.length : Int) ≤ maxReqCount cfg counts) := by
  induction queue generalizing position cnt with
  | nil => exact ⟨[], [], [], rfl, ⟨.refl _, .refl _⟩, rfl, fun some => absurd rfl some⟩
  | cons item queue ih =>
    have here : whole[position]? = some item := by
      rw [← List.head?_drop, isRest]
      rfl
    have seen : whole.zipIdx.take (position + 1) = whole.zipIdx.take position ++
        [(item, position)] := by
      rw [take_add_one, getElem?_zipIdx, here]
      simp
    unfold waitingQueueLoop
    split
    · rename_i stops
      refine ⟨[], [], item :: queue, rfl, ⟨.refl _, .refl _⟩, ?_, fun some => absurd rfl some⟩
      -- the item does not fit, and so nothing behind it is admitted
      rw [eq_comm, map_eq_nil_iff, filter_eq_nil_iff]
      intro entry mem admitted
      have behind := le_snd_of_mem_zipIdx mem
      simp only [admits, Bool.and_eq_true, all_eq_true] at admitted
      have fit := admitted.2 (item, position) ((take_prefix_take_left (by omega)).subset
        (seen ▸ mem_append_right _ mem_cons_self))
      simp only [fits, decide_eq_true_eq] at fit
      omega
    rename_i continues
    have isRest' : whole.drop (position + 1) = queue := by
      rw [← drop_drop, isRest]
      rfl
    have fitting' : ∀ entry ∈ whole.zipIdx.take (position + 1),
        fits cfg counts whole entry = true := by
      rw [seen, forall_mem_append, forall_mem_singleton]
      refine ⟨fitting, ?_⟩
      simp only [fits, decide_eq_true_eq]
      omega
    have exist' : TargetsExist cnt.length [item] := by
      rw [counted.1]
      exact fun other mem => exist other (mem_singleton.mp mem ▸ mem_of_getElem? here)
    obtain ⟨can, counts', tested, tests⟩ := canProcessAttentionDpRequest_total cfg exist'
    have tested : canProcess cfg item (some cnt) = .ok (can, some counts') := by
      simp only [canProcess, tested]
      rfl
    have roomy := counted.hasRoom_eq tests exist'
    have admission : admits cfg counts whole (item, position) = can := by
      rw [admits, roomy, all_eq_true.mpr fitting', Bool.and_true]
    have loaded : load cfg counts whole (position + 1) = load cfg counts whole position +
        if can then 1 + item.childReqIds.length else 0 := by
      rw [load, seen, filter_append, map_append, sum_append, load, filter_singleton, roomy]
      cases can <;> simp
    rw [tested]
    dsimp only [bind, Except.bind]
    obtain ⟨items, pendingRequests, rest, looped, takes, taken, bound⟩ :=
      ih isRest' fitting' (counted.next tests here)
    rw [loaded] at looped bound
    rw [zipIdx_cons, filter_cons, admission]
    cases can with
    | true =>
      rw [if_pos rfl] at looped bound
      rw [if_pos rfl, Nat.add_assoc, looped]
      refine ⟨item :: items, pendingRequests, rest, rfl, ?_, ?_, fun _ => ?_⟩
      · exact ⟨takes.perm.cons item, takes.ordered.cons item⟩
      · rw [if_pos rfl, map_cons, taken]
      · by_cases more : items = []
        · subst more
          simp only [length_singleton]
          omega
        · have := bound more
          rw [length_cons]
          omega
    | false =>
      simp only [Bool.false_eq_true, ↓reduceIte, Nat.add_zero] at looped bound ⊢
      rw [looped]
      refine ⟨items, item :: pendingRequests, rest, rfl, ?_, taken, bound⟩
      exact ⟨perm_middle.trans (takes.perm.cons item), takes.ordered.cons_cons item⟩

theorem getFromWaitingQueue_takes (cfg : QueueConfig) {cnt : List Nat}
    (exist : TargetsExist cnt.length queue) :
    ∃ left, getFromWaitingQueue cfg queue (maxReqCount cfg cnt) (some cnt) =
        .ok (admitted cfg cnt queue, left) ∧ Takes queue (admitted cfg cnt queue) left ∧
      (admitted cfg cnt queue ≠ [] →
        ((admitted cfg cnt queue).length : Int) ≤ maxReqCount cfg cnt) := by
  have start : CountsUpTo cfg cnt (queue.take 0) cnt :=
    ⟨rfl, fun rank => ⟨fun _ => rfl, fun full => full⟩⟩
  obtain ⟨items, pendingRequests, rest, looped, takes, taken, bound⟩ :=
    waitingQueueLoop_takes cfg exist drop_zero (fun entry mem => absurd mem not_mem_nil) start
  have isAdmitted : items = admitted cfg cnt queue := taken
  have zero : load cfg cnt queue 0 = 0 := rfl
  rw [isAdmitted, zero] at looped bound
  rw [isAdmitted] at takes
  unfold getFromWaitingQueue
  split
  · have none : admitted cfg cnt queue = [] := by
      by_contra some
      have := bound some
      have := length_pos_iff.mpr some
      omega
    rw [none]
    exact ⟨queue, rfl, ⟨.refl _, .refl _⟩, fun some => absurd rfl some⟩
  · rw [looped]
    exact ⟨pendingRequests ++ rest, rfl, takes, fun some => by simpa using bound some⟩

/-! ## The first pass -/

/-- What is known of the first pass after some items: a rank has the first items that name it, as
many as it has room for. -/
structure TargetPass.Placed (config : QueueConfig) (counts : List Nat)
    (items : List RequestQueueItem) (pass : TargetPass) : Prop where
  ranks : pass.allRanksNumActiveRequests.length = counts.length
  lists : pass.allRanksNewRequests.length = counts.length
  perm : (pass.allRanksNewRequests.flatten ++ pass.remainingUnscheduled).Perm items
  counted : ∀ rank, pass.allRanksNumActiveRequests.getD rank 0 =
    counts.getD rank 0 + (pass.allRanksNewRequests.getD rank []).length
  limited : ∀ rank, pass.allRanksNumActiveRequests.getD rank 0 ≤
    max (counts.getD rank 0) config.maxNumActiveRequests
  total : pass.allRanksNumActiveRequests.sum + pass.remainingUnscheduled.length =
    counts.sum + items.length
  named : ∀ rank, pass.allRanksNewRequests.getD rank [] ++
    pass.remainingUnscheduled.filter (targets rank) = items.filter (targets rank)
  full : ∀ rank, pass.remainingUnscheduled.filter (targets rank) ≠ [] →
    config.maxNumActiveRequests ≤ pass.allRanksNumActiveRequests.getD rank 0

theorem eq_of_targets {item : RequestQueueItem} {rank other : Nat} (one : targets rank item = true)
    (two : targets other item = true) : rank = other := by
  simp only [targets, beq_iff_eq] at one two
  rw [one] at two
  exact Int.ofNat_inj.mp (Option.some.inj two)

namespace TargetPass

variable {pass : TargetPass} {cnt : List Nat} {items : List RequestQueueItem}
  {item : RequestQueueItem}

theorem Placed.initial (cfg : QueueConfig) (cnt : List Nat) :
    Placed cfg cnt []
      { allRanksNumActiveRequests := cnt
        allRanksNewRequests := cnt.map fun _ => [] } := by
  refine ⟨rfl, length_map .., ?_, fun rank => ?_, fun rank => Nat.le_max_left .., rfl,
    fun rank => ?_, fun _ some => absurd rfl some⟩
  all_goals simp

/-- An item stays unscheduled if it has no target rank or the rank is full. -/
theorem Placed.leave (before : Placed cfg cnt items pass)
    (full : ∀ rank, targets rank item = true →
      cfg.maxNumActiveRequests ≤ pass.allRanksNumActiveRequests.getD rank 0) :
    Placed cfg cnt (items ++ [item])
      { pass with remainingUnscheduled := pass.remainingUnscheduled ++ [item] } where
  ranks := before.ranks
  lists := before.lists
  perm := by
    rw [← append_assoc]
    exact before.perm.append_right [item]
  counted := before.counted
  limited := before.limited
  total := by
    have := before.total
    simp only [length_append, length_singleton]
    omega
  named rank := by
    rw [filter_append, filter_append, ← append_assoc, before.named rank]
  full rank some := by
    rw [filter_append, filter_singleton] at some
    by_cases names : targets rank item = true
    · exact full rank names
    · rw [Bool.not_eq_true _ |>.mp names, cond_false, append_nil] at some
      exact before.full rank some

/-- An item goes to its target rank if it has room. -/
theorem Placed.place (before : Placed cfg cnt items pass) {target : Nat} (lt : target < cnt.length)
    (isTarget : targets target item = true)
    (room : pass.allRanksNumActiveRequests.getD target 0 < cfg.maxNumActiveRequests) :
    Placed cfg cnt (items ++ [item])
      { pass with
        allRanksNumActiveRequests := pass.allRanksNumActiveRequests.modify target (· + 1)
        allRanksNewRequests := pass.allRanksNewRequests.modify target (· ++ [item]) } := by
  have added : (pass.allRanksNewRequests.modify target (· ++ [item])).getD target [] =
      pass.allRanksNewRequests.getD target [] ++ [item] := getD_modify_self (before.lists ▸ lt) _ _
  refine ⟨?_, ?_, ?_, fun rank => ?_, fun rank => ?_, ?_, fun rank => ?_, fun rank some => ?_⟩
  · rw [length_modify, before.ranks]
  · rw [length_modify, before.lists]
  · refine ((PriorityQueue.flatten_modify_perm (before.lists ▸ lt) item).append_right
      _).trans ?_
    rw [append_assoc]
    refine (perm_append_comm.append_left _).trans ?_
    rw [← append_assoc]
    exact before.perm.append_right [item]
  · rw [getD_modify_succ _ (before.ranks ▸ lt), before.counted]
    split
    · rename_i same
      subst same
      rw [added, length_append, length_singleton, Nat.add_assoc]
    · rename_i ne
      rw [getD_modify_ne ne]
  · have limited := before.limited rank
    rw [getD_modify_succ _ (before.ranks ▸ lt)]
    split
    · rename_i same
      subst same
      omega
    · exact limited
  · have := before.total
    rw [sum_modify_succ _ (before.ranks ▸ lt), length_append, length_singleton]
    dsimp only
    omega
  · have names := before.named rank
    rw [filter_append, filter_singleton, ← names]
    by_cases same : target = rank
    · -- no item that names a rank with room is unscheduled
      subst same
      have none : pass.remainingUnscheduled.filter (targets target) = [] := by
        by_contra some
        exact absurd (before.full target some) (Nat.not_le.mpr room)
      rw [added, none, isTarget, append_nil, append_nil, cond_true]
    · rw [getD_modify_ne same, show targets rank item = false from
        Bool.eq_false_iff.mpr fun names => same (eq_of_targets isTarget names),
          cond_false, append_nil]
  · rw [getD_modify_succ _ (before.ranks ▸ lt)]
    exact Nat.le_trans (before.full rank some) (by split <;> omega)

theorem Placed.schedule (before : Placed cfg cnt items pass)
    (exist : TargetsExist cnt.length [item]) :
    ∃ next, pass.schedule cfg item = .ok next ∧ Placed cfg cnt (items ++ [item]) next := by
  unfold TargetPass.schedule
  cases target : item.schedulingParams.bind (·.attentionDpRank) with
  | none => exact ⟨_, rfl, before.leave fun rank named => by simp [targets, target] at named⟩
  | some targetDpRank =>
    have exist := exist item mem_cons_self targetDpRank target
    obtain ⟨pos, lt⟩ := pyPosition_of_exists exist
    have named : ∀ rank : Nat, targets rank item = true ↔ targetDpRank.toNat = rank := by
      intro rank
      rw [targets, target, beq_iff_eq, Option.some.injEq]
      omega
    dsimp only
    rw [before.ranks, pos]
    dsimp only
    split
    · rename_i room
      rw [if_neg (by omega)]
      exact ⟨_, rfl, before.place lt ((named _).mpr rfl) room⟩
    · rename_i full
      exact ⟨_, rfl, before.leave fun rank names => (named rank).mp names ▸ Nat.not_lt.mp full⟩

theorem Placed.foldlM (before : Placed cfg cnt items pass)
    {more : List RequestQueueItem} (exist : TargetsExist cnt.length more) :
    ∃ next, more.foldlM (TargetPass.schedule cfg) pass = .ok next ∧
      Placed cfg cnt (items ++ more) next := by
  induction more generalizing items pass with
  | nil => exact ⟨pass, rfl, by rwa [append_nil]⟩
  | cons item more ih =>
    obtain ⟨next, stepped, placed⟩ := before.schedule fun other mem =>
      exist other (mem_cons.mpr (.inl (mem_singleton.mp mem)))
    obtain ⟨last, looped, placed⟩ := ih placed fun other mem =>
      exist other (mem_cons_of_mem _ mem)
    refine ⟨last, ?_, ?_⟩
    · rw [foldlM_cons, stepped]
      exact looped
    · rwa [append_assoc] at placed

end TargetPass

/-! ## The second pass -/

theorem le_expected {cnt : List Nat} (mem : count ∈ cnt) (numNew : Nat) :
    count ≤ expectedNumActiveRequests cnt numNew :=
  Nat.le_trans (le_max_of_le mem (Nat.le_refl _)) (Nat.le_max_right ..)

/-- The ranks have room for all new items up to the expected number. -/
theorem sum_le_expected (cnt : List Nat) (numNew : Nat) (ranks : 0 < cnt.length) :
    cnt.sum + numNew ≤ cnt.length * expectedNumActiveRequests cnt numNew := by
  have rounded := Nat.div_add_mod (cnt.sum + numNew + cnt.length - 1) cnt.length
  have remainder := Nat.mod_lt (cnt.sum + numNew + cnt.length - 1) ranks
  have enough := Nat.mul_le_mul_left cnt.length
    (Nat.le_max_left ((cnt.sum + numNew + cnt.length - 1) / cnt.length) (cnt.foldr max 0))
  unfold expectedNumActiveRequests
  omega

/-- The expected number is within a limit if the ranks are and have room for the new items. -/
theorem expected_le {cnt : List Nat} {numNew : Nat} (ranks : 0 < cnt.length)
    (limited : ∀ count ∈ cnt, count ≤ limit) (room : cnt.sum + numNew ≤ cnt.length * limit) :
    expectedNumActiveRequests cnt numNew ≤ limit := by
  refine Nat.max_le.mpr ⟨?_, max_le_of_forall_le _ _ limited⟩
  refine Nat.le_of_lt_succ ((Nat.div_lt_iff_lt_mul ranks).mpr ?_)
  rw [Nat.succ_mul, Nat.mul_comm]
  omega

/-- A rank without room adds none. -/
theorem room_filter (limit : Nat) (vals : List HeapVal) :
    PriorityQueue.room HeapVal.numRequests limit (vals.filter fun val => val.numRequests < limit) =
      (vals.map fun val => limit - val.numRequests).sum := by
  induction vals with
  | nil => rfl
  | cons val vals ih =>
    rw [map_cons, sum_cons, ← ih]
    by_cases free : val.numRequests < limit
    · rw [filter_cons, if_pos (decide_eq_true free)]
      rfl
    · rw [filter_cons, if_neg (by simpa using free)]
      omega

variable {cnt : List Nat} {numNew : Nat} {lists : List (List RequestQueueItem)}

theorem le_room_newRequestsHeap (numNew : Nat) (tokens : List Nat) (ranks : 0 < cnt.length) :
    numNew ≤ PriorityQueue.room HeapVal.numRequests (expectedNumActiveRequests cnt numNew)
      (newRequestsHeap (expectedNumActiveRequests cnt numNew) cnt tokens) := by
  have enough := sum_le_expected cnt numNew ranks
  have left := sum_sub_add_sum fun count (mem : count ∈ cnt) => le_expected mem numNew
  rw [newRequestsHeap, room_filter, map_map]
  have same : cnt.zipIdx.map ((fun val : HeapVal =>
      expectedNumActiveRequests cnt numNew - val.numRequests) ∘ fun (val, tpRank) =>
        { numTokens := tokens.getD tpRank 0, numRequests := val, rank := tpRank }) =
      (cnt.zipIdx.map Prod.fst).map (expectedNumActiveRequests cnt numNew - ·) := by
    rw [map_map]
    rfl
  rw [same, zipIdx_map_fst]
  omega

theorem fits_newRequestsHeap (tokens : List Nat) (numNew : Nat)
    (ranks : lists.length = cnt.length) :
    PriorityQueue.Fits HeapVal.rank HeapVal.numRequests (expectedNumActiveRequests cnt numNew)
      (cnt.getD · 0) (newRequestsHeap (expectedNumActiveRequests cnt numNew) cnt tokens)
      (lists.map fun _ => ([] : List RequestQueueItem)) := by
  have entry : ∀ val ∈ newRequestsHeap (expectedNumActiveRequests cnt numNew) cnt tokens,
      val.numRequests < expectedNumActiveRequests cnt numNew ∧
        cnt[val.rank]? = some val.numRequests := by
    intro val mem
    obtain ⟨isVal, free⟩ := mem_filter.mp mem
    obtain ⟨⟨count, rank⟩, isEntry, rfl⟩ := mem_map.mp isVal
    exact ⟨of_decide_eq_true free, mem_zipIdx_iff_getElem?.mp isEntry⟩
  have empty : ∀ rank,
      ((lists.map fun _ => ([] : List RequestQueueItem)).getD rank []).length = 0 := by
    simp
  refine ⟨fun val mem => (entry val mem).1, fun val mem => ?_, ?_, fun val mem => ?_,
    fun rank lt => ?_⟩
  · rw [length_map, ranks]
    exact (List.getElem?_eq_some_iff.mp (entry val mem).2).1
  · refine Nodup.sublist (filter_sublist.map _) ?_
    rw [map_map]
    have ranks : cnt.zipIdx.map (HeapVal.rank ∘ fun (val, tpRank) =>
        { numTokens := tokens.getD tpRank 0, numRequests := val, rank := tpRank }) =
        cnt.zipIdx.map Prod.snd := rfl
    rw [ranks, zipIdx_map_snd]
    exact nodup_range'
  · rw [empty, getD_eq_getElem?_getD, (entry val mem).2]
    rfl
  · rw [length_map, ranks] at lt
    rw [empty, getD_eq_getElem?_getD, getElem?_eq_getElem lt]
    exact le_expected (getElem_mem lt) numNew

theorem flatten_zipWith_append_perm {first second : List (List RequestQueueItem)}
    (sameLength : first.length = second.length) :
    (zipWith (· ++ ·) first second).flatten.Perm (first.flatten ++ second.flatten) := by
  induction first generalizing second with
  | nil =>
    cases second with
    | nil => exact .refl _
    | cons => cases sameLength
  | cons list first ih =>
    cases second with
    | nil => cases sameLength
    | cons other second =>
      simp only [zipWith_cons_cons, flatten_cons, append_assoc]
      refine List.Perm.append_left list ?_
      refine ((ih (Nat.succ.inj sameLength)).append_left other).trans ?_
      rw [← append_assoc, ← append_assoc]
      exact perm_append_comm.append_right _

theorem getD_zipWith_append {first second : List (List RequestQueueItem)}
    (sameLength : first.length = second.length) (rank : Nat) :
    (zipWith (· ++ ·) first second).getD rank [] = first.getD rank [] ++ second.getD rank [] := by
  simp only [getD_eq_getElem?_getD, getElem?_zipWith]
  rcases Nat.lt_or_ge rank first.length with lt | ge
  · rw [getElem?_eq_getElem lt, getElem?_eq_getElem (sameLength ▸ lt)]
    rfl
  · rw [getElem?_eq_none ge, getElem?_eq_none (sameLength ▸ ge)]
    rfl

/-- Each rank gets some of the new requests, up to the expected number. -/
theorem balanceRequestsAcrossRanks_spec (tokens : List Nat) (ranks : 0 < cnt.length)
    (sameLength : lists.length = cnt.length) (newRequests : List RequestQueueItem) :
    ∃ scheduled, balanceRequestsAcrossRanks (expectedNumActiveRequests cnt newRequests.length)
        newRequests lists cnt tokens = .ok (zipWith (· ++ ·) lists scheduled) ∧
      scheduled.length = lists.length ∧ scheduled.flatten.Perm newRequests ∧
      ∀ rank < cnt.length, cnt.getD rank 0 + (scheduled.getD rank []).length ≤
        expectedNumActiveRequests cnt newRequests.length := by
  unfold balanceRequestsAcrossRanks
  split
  · rename_i none
    refine ⟨lists.map fun _ => [], ?_, length_map .., ?_, fun rank lt => ?_⟩
    · rw [zipWith_map_right, zipWith_self]
      simp
    · rw [isEmpty_iff.mp none]
      simp
    · rw [getD_eq_getElem?_getD, getElem?_eq_getElem lt]
      simpa using le_expected (getElem_mem lt) _
  · have sorted : (sortByTokenCount newRequests).Perm newRequests := perm_insertionSort _ _
    have enough := le_room_newRequestsHeap newRequests.length tokens ranks
    obtain ⟨_, scheduled, placed, fits, _, length, perm⟩ :=
      PriorityQueue.place_fits (fun (val : HeapVal) _ => (rfl : (val.addRequest _).numRequests = _))
        HeapVal.before (fun _ _ => rfl) (fits_newRequestsHeap tokens newRequests.length sameLength)
        (Nat.le_trans (Nat.le_of_eq sorted.length_eq) enough)
    rw [length_map] at length
    rw [placed]
    refine ⟨scheduled, rfl, length, perm.trans ?_, fun rank lt => ?_⟩
    · simpa using sorted
    · exact fits.limited rank (length ▸ sameLength ▸ lt)

/-! ## A fetch -/

/-- The items of a fetch are assigned. -/
structure Balanced (config : QueueConfig) (queue : List RequestQueueItem) (counts : List Nat)
    (fetched : Fetched) : Prop where
  /-- Each item that is taken is assigned to one rank. -/
  assigned : fetched.allRanksNewRequests.length = counts.length ∧
    fetched.allRanksNewRequests.flatten.Perm fetched.items
  /-- Nothing else leaves the queue, and what stays keeps its order. -/
  takes : Takes queue fetched.items fetched.waitingQueue
  /-- No rank gets more than it may have, if it had not before. -/
  limited : (∀ count ∈ counts, count ≤ config.maxNumActiveRequests) → ∀ rank < counts.length,
    counts.getD rank 0 + (fetched.allRanksNewRequests.getD rank []).length ≤
      config.maxNumActiveRequests

/-- Items can be sorted by their relax values if there are not two of them, or each has one. -/
def Sortable (items : List RequestQueueItem) : Prop :=
  items.length ≤ 1 ∨ ∀ item ∈ items, getRelaxValue item ≠ none

theorem sortable_of_sortByRelaxValue {items sorted : List RequestQueueItem}
    (sorts : sortByRelaxValue items = .ok sorted) : Sortable items := by
  unfold sortByRelaxValue at sorts
  split at sorts
  · cases sorts
  · rename_i sortable
    refine or_iff_not_imp_left.mpr fun two item mem missing =>
      sortable ⟨by omega, item, mem, missing⟩

theorem exists_sortByRelaxValue {items : List RequestQueueItem} (sortable : Sortable items) :
    ∃ sorted, sortByRelaxValue items = .ok sorted ∧ sorted.Perm items ∧
      sorted.Pairwise fun first second =>
        getRelaxValue second = some true → getRelaxValue first = some true := by
  refine ⟨_, if_neg ?_, perm_insertionSort _ _, @pairwise_insertionSort _ _ _ ⟨?_⟩ ⟨?_⟩ _⟩
  · rintro ⟨two, item, mem, missing⟩
    rcases sortable with one | known
    · omega
    · exact known item mem missing
  · intro first second
    by_cases relaxed : getRelaxValue first = some true
    · exact .inl fun _ => relaxed
    · exact .inr fun yes => absurd yes relaxed
  · exact fun first second third one two last => one (two last)

/-- The two passes over items, which have been sorted. -/
structure Scheduled (config : QueueConfig) (counts : List Nat)
    (items sorted : List RequestQueueItem) (pass : TargetPass)
    (scheduled : List (List RequestQueueItem)) : Prop where
  samePerm : sorted.Perm items
  ordered : sorted.Pairwise fun first second =>
    getRelaxValue second = some true → getRelaxValue first = some true
  placed : pass.Placed config counts sorted
  length : pass.allRanksNewRequests.length = scheduled.length
  perm : scheduled.flatten.Perm pass.remainingUnscheduled
  limited : (∀ count ∈ counts, count ≤ config.maxNumActiveRequests) →
    counts.sum + items.length ≤ counts.length * config.maxNumActiveRequests →
    ∀ rank < counts.length, pass.allRanksNumActiveRequests.getD rank 0 +
      (scheduled.getD rank []).length ≤ config.maxNumActiveRequests

theorem scheduleAttentionDpRequests_spec (cfg : QueueConfig) {items : List RequestQueueItem}
    (tokens : List Nat) (ranks : 0 < cnt.length) (exist : TargetsExist cnt.length items)
    (sortable : Sortable items) :
    ∃ sorted pass scheduled, scheduleAttentionDpRequests cfg items cnt tokens =
        .ok (zipWith (· ++ ·) pass.allRanksNewRequests scheduled) ∧
      Scheduled cfg cnt items sorted pass scheduled := by
  obtain ⟨sorted, sorts, samePerm, ordered⟩ := exists_sortByRelaxValue sortable
  obtain ⟨pass, looped, placed⟩ := (TargetPass.Placed.initial cfg cnt).foldlM
    fun item mem => exist item (samePerm.mem_iff.mp mem)
  rw [nil_append] at placed
  have ranks' : 0 < pass.allRanksNumActiveRequests.length := placed.ranks ▸ ranks
  obtain ⟨scheduled, balanced, length, perm, limited⟩ := balanceRequestsAcrossRanks_spec tokens
    ranks' (placed.lists.trans placed.ranks.symm) pass.remainingUnscheduled
  refine ⟨sorted, pass, scheduled, ?_, samePerm, ordered, placed, length.symm, perm,
    fun below room rank lt => Nat.le_trans (limited rank (placed.ranks ▸ lt)) ?_⟩
  · unfold scheduleAttentionDpRequests
    rw [sorts]
    dsimp only [bind, Except.bind]
    rw [looped]
    dsimp only
    rw [if_neg (Nat.ne_of_gt ranks')]
    exact balanced
  · refine expected_le ranks' (fun count mem => ?_) ?_
    · obtain ⟨other, within, rfl⟩ := mem_iff_getElem.mp mem
      have known := placed.limited other
      rw [getD_eq_getElem?_getD, getElem?_eq_getElem within] at known
      have within' : other < cnt.length := placed.ranks ▸ within
      rw [getD_eq_getElem?_getD, getElem?_eq_getElem within', Option.getD_some,
        Option.getD_some] at known
      exact Nat.le_trans known (Nat.max_le.mpr
        ⟨below _ (getElem_mem within'), Nat.le_refl _⟩)
    · rw [placed.total, samePerm.length_eq, placed.ranks]
      exact room

variable {responsesList : List (Nat × Nat)} {counts : List Nat}

/-- A fetch that returns has sorted what is admitted. -/
theorem sortable_of_fetch {fetched : Fetched} (isCounts : responsesList.map Prod.fst = counts)
    (exist : TargetsExist counts.length queue)
    (ends : fetchNewRequestsAttentionDp cfg queue responsesList = .ok fetched) :
    Sortable (admitted cfg counts queue) := by
  obtain ⟨left, got, -⟩ := getFromWaitingQueue_takes cfg exist
  unfold fetchNewRequestsAttentionDp at ends
  dsimp only at ends
  rw [isCounts, got] at ends
  obtain ⟨_, ⟨⟩, ends⟩ := Except.bind_eq_ok.mp ends
  obtain ⟨assigned, scheduled, -⟩ := Except.bind_eq_ok.mp ends
  unfold scheduleAttentionDpRequests at scheduled
  obtain ⟨sorted, sorts, -⟩ := Except.bind_eq_ok.mp scheduled
  exact sortable_of_sortByRelaxValue sorts

/-- The fetch schedules what is admitted, if it can be sorted. -/
theorem fetchNewRequestsAttentionDp_spec (isCounts : responsesList.map Prod.fst = counts)
    (ranks : responsesList ≠ []) (exist : TargetsExist counts.length queue)
    (sortable : Sortable (admitted cfg counts queue)) :
    ∃ left sorted pass scheduled, fetchNewRequestsAttentionDp cfg queue responsesList =
        .ok ⟨admitted cfg counts queue, left, zipWith (· ++ ·) pass.allRanksNewRequests scheduled⟩ ∧
      Takes queue (admitted cfg counts queue) left ∧
      ((∀ count ∈ counts, count ≤ cfg.maxNumActiveRequests) →
        counts.sum + (admitted cfg counts queue).length ≤
          counts.length * cfg.maxNumActiveRequests) ∧
      Scheduled cfg counts (admitted cfg counts queue) sorted pass scheduled := by
  have isPos : 0 < counts.length := by
    rw [← isCounts, length_map]
    exact length_pos_iff.mpr ranks
  obtain ⟨left, got, takes, bound⟩ := getFromWaitingQueue_takes cfg exist
  obtain ⟨sorted, pass, scheduled, ends, spec⟩ := scheduleAttentionDpRequests_spec cfg
    (responsesList.map Prod.snd) isPos
    (fun item member => exist item (takes.perm.mem_iff.mp (mem_append_left _ member))) sortable
  refine ⟨left, sorted, pass, scheduled, ?_, takes, fun below => ?_, spec⟩
  · unfold fetchNewRequestsAttentionDp
    dsimp only
    rw [isCounts, got]
    dsimp only [bind, Except.bind]
    rw [ends]
    rfl
  · by_cases none : admitted cfg counts queue = []
    · have total := sum_sub_add_sum below
      rw [none, length_nil]
      omega
    · have enough := bound none
      unfold maxReqCount at enough
      omega

/-- The fetch assigns each item that it takes to one rank, without finding the heap empty, and no
rank gets more than it may have, exactly if the items that are admitted can be sorted by their relax
values. -/
theorem fetch_balances {queue : List RequestQueueItem} {responsesList : List (Nat × Nat)}
    (ranks : responsesList ≠ []) (exist : TargetsExist responsesList.length queue) :
    (∃ fetched, fetchNewRequestsAttentionDp config queue responsesList = .ok fetched ∧
      Balanced config queue (responsesList.map Prod.fst) fetched) ↔
      Sortable (admitted config (responsesList.map Prod.fst) queue) := by
  rw [← length_map (f := Prod.fst)] at exist
  refine ⟨fun ⟨_, ends, _⟩ => sortable_of_fetch rfl exist ends, fun sortable => ?_⟩
  obtain ⟨left, sorted, pass, scheduled, ends, takes, room, spec⟩ :=
    fetchNewRequestsAttentionDp_spec rfl ranks exist sortable
  refine ⟨_, ends, ⟨?_, ?_⟩, takes, fun below rank lt => ?_⟩
  · rw [length_zipWith, ← spec.length, Nat.min_self, spec.placed.lists]
  · refine (flatten_zipWith_append_perm spec.length).trans ?_
    exact (spec.perm.append_left _).trans (spec.placed.perm.trans spec.samePerm)
  · have limited := spec.limited below (room below) rank lt
    rw [spec.placed.counted] at limited
    rw [getD_zipWith_append spec.length, length_append]
    omega

/-- At most two requests on each rank. -/
def twoEach : QueueConfig := { maxBatchSize := 4, maxNumActiveRequests := 2 }

/-- Requests for rank 0 with the given relax values. -/
def forRankZero (relaxValues : List (Option Bool)) : List RequestQueueItem :=
  relaxValues.zipIdx.map fun (relax, index) =>
    { id := index
      request := some
        { inputTokenIds := [1]
          pySchedulingParams := some { attentionDpRank := some 0, attentionDpRelax := relax } } }

theorem targetsExist_forRankZero (relaxValues : List (Option Bool)) :
    TargetsExist 2 (forRankZero relaxValues) := by
  intro item mem targetDpRank target
  obtain ⟨_, _, rfl⟩ := mem_map.mp mem
  cases target
  decide

/-- The relaxed requests are placed first, and the strict one goes to rank 1. -/
theorem fetch_balances_forRankZero :
    ∃ fetched, fetchNewRequestsAttentionDp twoEach (forRankZero [some false, some true, some true])
        [(0, 0), (1, 5)] = .ok fetched ∧
      Balanced twoEach (forRankZero [some false, some true, some true]) [0, 1] fetched :=
  (fetch_balances (cons_ne_nil (0, 0) [(1, 5)]) (targetsExist_forRankZero _)).mpr
    (.inr (by decide))

/-- Two requests that name a target rank and leave the relax value at its default are taken
from the waiting queue, and then cannot be sorted. -/
theorem fetch_forRankZero_default :
    getFromWaitingQueue twoEach (forRankZero [none, none]) (maxReqCount twoEach [0, 0])
        (some [0, 0]) = .ok (forRankZero [none, none], []) ∧
      TargetsExist 2 (forRankZero [none, none]) ∧
      fetchNewRequestsAttentionDp twoEach (forRankZero [none, none]) [(0, 0), (0, 0)] =
        .error .typeError :=
  ⟨rfl, targetsExist_forRankZero _, rfl⟩

/-! ## Strict requests -/

/-- The item names the rank, and its relax value is false. -/
def isStrict (rank : Nat) (item : RequestQueueItem) : Bool :=
  targets rank item && getRelaxValue item == some false

/-- The fetch puts the item on the rank, and on no other. -/
def PlacedOn (result : Except FetchFailure Fetched) (rank : Nat) (item : RequestQueueItem) : Prop :=
  ∃ fetched, result = .ok fetched ∧ item ∈ fetched.allRanksNewRequests.getD rank [] ∧
    ∀ other ≠ rank, item ∉ fetched.allRanksNewRequests.getD other []

/-- The rank has room for all admitted items that name it, if one of them is strict; and then the
items can be sorted. -/
def LeavesRoom (config : QueueConfig) (counts : List Nat) (items : List RequestQueueItem)
    (rank : Nat) : Prop :=
  (∃ item ∈ items, isStrict rank item = true) → Sortable items ∧
    counts.getD rank 0 + items.countP (targets rank) ≤ config.maxNumActiveRequests

section

variable {items sorted : List RequestQueueItem} {pass : TargetPass}
  {scheduled : List (List RequestQueueItem)} {rank : Nat} {item : RequestQueueItem}
  (spec : Scheduled cfg cnt items sorted pass scheduled)
include spec

theorem Scheduled.mem_remaining {other : Nat} (mem : item ∈ scheduled.getD other []) :
    item ∈ pass.remainingUnscheduled := by
  refine spec.perm.mem_iff.mp (mem_flatten.mpr ⟨_, ?_, mem⟩)
  rw [getD_eq_getElem?_getD] at mem ⊢
  cases found : scheduled[other]? with
  | none => simp [found] at mem
  | some list => simpa using mem_of_getElem? found

/-- The items that name a rank are placed there or unscheduled. -/
theorem Scheduled.count_eq (rank : Nat) : items.countP (targets rank) =
    (pass.allRanksNewRequests.getD rank []).length +
      (pass.remainingUnscheduled.filter (targets rank)).length := by
  rw [← spec.samePerm.countP_eq, countP_eq_length_filter, ← spec.placed.named, length_append]

theorem Scheduled.placed_of_room
    (room : cnt.getD rank 0 + items.countP (targets rank) ≤ cfg.maxNumActiveRequests)
    (mem : item ∈ items) (names : targets rank item = true) :
    item ∈ (zipWith (· ++ ·) pass.allRanksNewRequests scheduled).getD rank [] ∧
      ∀ other ≠ rank,
        item ∉ (zipWith (· ++ ·) pass.allRanksNewRequests scheduled).getD other [] := by
  have none : pass.remainingUnscheduled.filter (targets rank) = [] := by
    by_contra some
    have full := spec.placed.full rank some
    have pos := length_pos_iff.mpr some
    rw [spec.count_eq] at room
    rw [spec.placed.counted] at full
    omega
  have here : item ∈ pass.allRanksNewRequests.getD rank [] := by
    have named := spec.placed.named rank
    rw [none, append_nil] at named
    rw [named]
    exact mem_filter.mpr ⟨spec.samePerm.mem_iff.mpr mem, names⟩
  refine ⟨?_, fun other ne there => ?_⟩
  · rw [getD_zipWith_append spec.length]
    exact mem_append_left _ here
  · rw [getD_zipWith_append spec.length] at there
    rcases mem_append.mp there with first | second
    · have named : item ∈ sorted.filter (targets other) :=
        spec.placed.named other ▸ mem_append_left _ first
      exact ne (eq_of_targets (mem_filter.mp named).2 names)
    · have left : item ∈ pass.remainingUnscheduled.filter (targets rank) :=
        mem_filter.mpr ⟨spec.mem_remaining second, names⟩
      rw [none] at left
      cases left

/-- The last item that names a rank is strict if one is, as relaxed items are sorted first. -/
theorem Scheduled.isStrict_getLast (sortable : Sortable items) (mem : item ∈ items)
    (strict : isStrict rank item = true) (some : sorted.filter (targets rank) ≠ []) :
    isStrict rank ((sorted.filter (targets rank)).getLast some) = true := by
  rw [isStrict, Bool.and_eq_true, beq_iff_eq] at strict ⊢
  have last := getLast_mem some
  have named : item ∈ sorted.filter (targets rank) :=
    mem_filter.mpr ⟨spec.samePerm.mem_iff.mpr mem, strict.1⟩
  refine ⟨(mem_filter.mp last).2, ?_⟩
  have ordered := spec.ordered.filter (targets rank)
  rw [← dropLast_append_getLast some] at ordered named
  rcases mem_append.mp named with earlier | same
  · have loose := (pairwise_append.mp ordered).2.2 _ earlier _ mem_cons_self
    rw [strict.2] at loose
    rcases sortable with one | known
    · have two := length_pos_of_mem earlier
      have few : (sorted.filter (targets rank)).length ≤ _ := filter_sublist.length_le
      rw [length_dropLast] at two
      rw [spec.samePerm.length_eq] at few
      omega
    · have value := known _ (spec.samePerm.mem_iff.mp (mem_filter.mp last).1)
      generalize getRelaxValue ((sorted.filter (targets rank)).getLast some) = relax at *
      rcases relax with _ | _ | _
      · exact absurd rfl value
      · rfl
      · cases loose rfl
  · rw [mem_singleton.mp same] at strict
    exact strict.2

theorem Scheduled.room_of_placed (sortable : Sortable items)
    (below : ∀ count ∈ cnt, count ≤ cfg.maxNumActiveRequests)
    (room : cnt.sum + items.length ≤ cnt.length * cfg.maxNumActiveRequests)
    (lt : rank < cnt.length) (mem : item ∈ items) (strict : isStrict rank item = true)
    (placed : ∀ item ∈ items, isStrict rank item = true → ∀ other ≠ rank,
      item ∉ (zipWith (· ++ ·) pass.allRanksNewRequests scheduled).getD other []) :
    cnt.getD rank 0 + items.countP (targets rank) ≤ cfg.maxNumActiveRequests := by
  have limited := spec.limited below room rank lt
  by_contra more
  have some : pass.remainingUnscheduled.filter (targets rank) ≠ [] := by
    intro none
    rw [spec.count_eq, none, length_nil] at more
    rw [spec.placed.counted] at limited
    omega
  have full := spec.placed.full rank some
  have strictLast := spec.isStrict_getLast sortable mem strict (by
    rw [← spec.placed.named]
    exact append_ne_nil_of_right_ne_nil _ some)
  simp only [← spec.placed.named, getLast_append_of_ne_nil _ some] at strictLast
  have last := mem_filter.mp (getLast_mem some)
  generalize (pass.remainingUnscheduled.filter (targets rank)).getLast some = item at *
  obtain ⟨list, isList, inList⟩ := mem_flatten.mp (spec.perm.mem_iff.mpr last.1)
  obtain ⟨other, found⟩ := mem_iff_getElem?.mp isList
  have here : item ∈ scheduled.getD other [] := by
    rwa [getD_eq_getElem?_getD, found]
  refine placed item ?_ strictLast other ?_ ?_
  · exact spec.samePerm.mem_iff.mp (spec.placed.perm.mem_iff.mp (mem_append_right _ last.1))
  · rintro rfl
    have := length_pos_of_mem here
    omega
  · rw [getD_zipWith_append spec.length]
    exact mem_append_right _ here

end

/-- The items taken from the queue are the admitted ones. Each strict one is placed on its rank if
the ranks of all strict ones have room for all that name them; if no rank is too full before, only
then. -/
theorem strict_requests_placed {queue : List RequestQueueItem} {responsesList : List (Nat × Nat)}
    (ranks : responsesList ≠ []) (exist : TargetsExist responsesList.length queue) :
    (∃ left, getFromWaitingQueue config queue (maxReqCount config (responsesList.map Prod.fst))
      (some (responsesList.map Prod.fst)) =
        .ok (admitted config (responsesList.map Prod.fst) queue, left)) ∧
    ((∀ rank, LeavesRoom config (responsesList.map Prod.fst)
        (admitted config (responsesList.map Prod.fst) queue) rank) →
      ∀ rank, ∀ item ∈ admitted config (responsesList.map Prod.fst) queue,
        isStrict rank item = true →
          PlacedOn (fetchNewRequestsAttentionDp config queue responsesList) rank item) ∧
    ((∀ count ∈ responsesList.map Prod.fst, count ≤ config.maxNumActiveRequests) →
      (∀ rank, ∀ item ∈ admitted config (responsesList.map Prod.fst) queue,
        isStrict rank item = true →
          PlacedOn (fetchNewRequestsAttentionDp config queue responsesList) rank item) →
      ∀ rank, LeavesRoom config (responsesList.map Prod.fst)
        (admitted config (responsesList.map Prod.fst) queue) rank) := by
  rw [← length_map (f := Prod.fst)] at exist
  obtain ⟨left, got, takes, -⟩ := getFromWaitingQueue_takes config exist
  refine ⟨⟨left, got⟩, fun leaves rank item mem strict => ?_, fun below placed rank => ?_⟩
  · obtain ⟨sortable, room⟩ := leaves rank ⟨item, mem, strict⟩
    obtain ⟨left, sorted, pass, scheduled, ends, -, -, spec⟩ :=
      fetchNewRequestsAttentionDp_spec rfl ranks exist sortable
    rw [isStrict, Bool.and_eq_true] at strict
    exact ⟨_, ends, spec.placed_of_room room mem strict.1⟩
  · rintro ⟨item, mem, strict⟩
    obtain ⟨fetched, ends, -⟩ := placed rank item mem strict
    have sortable := sortable_of_fetch rfl exist ends
    obtain ⟨left, sorted, pass, scheduled, ends, -, room, spec⟩ :=
      fetchNewRequestsAttentionDp_spec rfl ranks exist sortable
    refine ⟨sortable, spec.room_of_placed sortable below (room below) ?_ mem strict
      fun other mem strict => ?_⟩
    · have inQueue := takes.perm.mem_iff.mp (mem_append_left _ mem)
      simp only [isStrict, targets, Bool.and_eq_true, beq_iff_eq] at strict
      exact Int.ofNat_lt.mp (exist item inQueue rank strict.1).2
    · obtain ⟨fetched, same, -, elsewhere⟩ := placed rank other mem strict
      cases ends.symm.trans same
      exact elsewhere

/-- A relaxed request and a strict one for rank 0, which has room for both. -/
theorem strict_requests_placed_forRankZero : ∃ item ∈ forRankZero [some true, some false],
    isStrict 0 item = true ∧ PlacedOn (fetchNewRequestsAttentionDp twoEach
      (forRankZero [some true, some false]) [(0, 0), (1, 5)]) 0 item := by
  have items : admitted twoEach [0, 1] (forRankZero [some true, some false]) =
    forRankZero [some true, some false] := by decide
  have leaves : ∀ rank, LeavesRoom twoEach [0, 1] (forRankZero [some true, some false]) rank := by
    rintro rank ⟨item, mem, strict⟩
    rw [isStrict, Bool.and_eq_true] at strict
    have named : ∀ item ∈ forRankZero [some true, some false], targets 0 item = true := by decide
    obtain rfl := eq_of_targets strict.1 (named item mem)
    exact ⟨.inr (by decide), by decide⟩
  rw [← items] at leaves
  have placed := (strict_requests_placed (cons_ne_nil (0, 0) [(1, 5)])
    (targetsExist_forRankZero _)).2.1 leaves 0
  obtain ⟨item, mem, strict⟩ : ∃ item ∈ forRankZero [some true, some false],
    isStrict 0 item = true := by decide
  exact ⟨item, mem, strict, placed item (items ▸ mem) strict⟩

/-- Two relaxed requests behind a strict one: the relaxed ones are placed first and fill rank 0, and
the strict one goes to rank 1. -/
theorem strict_request_misplaced : ∃ item fetched,
    fetchNewRequestsAttentionDp twoEach (forRankZero [some false, some true, some true])
      [(0, 0), (1, 5)] = .ok fetched ∧
    getFromWaitingQueue twoEach (forRankZero [some false, some true, some true])
      (maxReqCount twoEach [0, 1]) (some [0, 1]) = .ok (fetched.items, fetched.waitingQueue) ∧
    item ∈ fetched.items ∧ item.schedulingParams = some ⟨some 0, some false⟩ ∧
    item ∉ fetched.allRanksNewRequests.getD 0 [] ∧ item ∈ fetched.allRanksNewRequests.getD 1 [] :=
  ⟨⟨0, some ⟨[1], some ⟨some 0, some false⟩⟩, [], false⟩, _, rfl, rfl, by decide, rfl, by decide,
    by decide⟩

end ExecutorRequestQueue

end TrtLlm
