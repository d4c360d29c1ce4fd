import Mathlib.Algebra.Order.Ring.Rat
import Mathlib.Data.List.GetD
import Mathlib.Data.List.Sort
import TrtLlm.Lib.PriorityQueue
import TrtLlm.Lib.Run
import TrtLlm.Lib.Segments

/-! # Placing the replicas of the experts

An update decides how many replicas each expert gets and puts them into the slots of the ranks. Both
passes are greedy: a replica more goes to the expert with the largest load for each, and the largest
replica to the least loaded rank with a free slot. All slots are filled in the end.
-/

namespace TrtLlm

open PriorityQueue (exists_pop perm_of_pop place place_fits pop pop_map room)

open List

/-- `MoeLoadBalanceMetaInfo`, without the number of experts for each token. -/
structure MoeLoadBalanceMetaInfo where
  expertCount : Nat
  epRank : Nat
  epSize : Nat
  slotCountPerRank : Nat

namespace Moe

inductive Failure where
  /-- `top` of an empty priority queue. -/
  | emptyQueue
  /-- An integer division by zero. -/
  | zeroDivision
  /-- An `assert`. -/
  | assertion
  /-- The check of `localSlotId`. -/
  | localSlotId
  /-- The check of an expert id, or an index out of range. -/
  | expertId
  deriving DecidableEq, Repr

variable (metaInfo info : MoeLoadBalanceMetaInfo) (expertLoadFactor : Nat → Rat)

def totalSlotCount : Nat := metaInfo.epSize * metaInfo.slotCountPerRank

/-! ## Replication -/

/-- The order of the pairs of slot size and expert id in a queue with the largest on top. -/
def largerSlot (first second : Rat × Nat) : Bool :=
  second.1 < first.1 || first.1 == second.1 && second.2 < first.2

/-- The loop of `doReplication`, with the number of slots that are still to be assigned. -/
def replicateGreedily : Nat → List (Rat × Nat) → List Nat → Except Failure (List Nat)
  | 0, _, expertReplicaCount => .ok expertReplicaCount
  | slots + 1, pq, expertReplicaCount =>
    match PriorityQueue.pop largerSlot pq with
    | none => .error .emptyQueue
    | some ((_, expertId), pq) =>
      let expertReplicaCount := expertReplicaCount.modify expertId (· + 1)
      let newSlotSize := expertLoadFactor expertId / (expertReplicaCount.getD expertId 0 : Nat)
      replicateGreedily slots ((newSlotSize, expertId) :: pq) expertReplicaCount

/-- `doReplication`: the number of replicas of each expert. -/
def doReplication : Except Failure (List Nat) :=
  if totalSlotCount metaInfo = metaInfo.expertCount then
    .ok (List.replicate metaInfo.expertCount 1)
  else if ((List.range metaInfo.expertCount).map expertLoadFactor).foldl (· + ·) 0 = 0 then
    if metaInfo.expertCount = 0 then .error .zeroDivision
    else .ok ((List.range metaInfo.expertCount).map fun expertId =>
      totalSlotCount metaInfo / metaInfo.expertCount +
        if expertId < totalSlotCount metaInfo % metaInfo.expertCount then 1 else 0)
  else replicateGreedily expertLoadFactor (totalSlotCount metaInfo - metaInfo.expertCount)
    ((List.range metaInfo.expertCount).map fun expertId => (expertLoadFactor expertId, expertId))
    (List.replicate metaInfo.expertCount 1)

/-! ## Placement -/

structure ReplicaInfo where
  slotSize : Rat
  expertId : Nat

/-- `operator<` of `ReplicaInfo`: larger replicas come first. -/
def ReplicaInfo.before (first second : ReplicaInfo) : Bool :=
  if first.slotSize ≠ second.slotSize then second.slotSize < first.slotSize
  else first.expertId < second.expertId

/-- All replicas, with the load of an expert shared by its replicas. -/
def allReplicas (expertReplicaCount : List Nat) : List ReplicaInfo :=
  (List.range metaInfo.expertCount).flatMap fun expertId =>
    List.replicate (expertReplicaCount.getD expertId 0)
      { slotSize := expertLoadFactor expertId / (expertReplicaCount.getD expertId 0 : Nat)
        expertId := expertId }

/-- The replicas as `std::sort` leaves them. -/
def sortReplicas (replicas : List ReplicaInfo) : List ReplicaInfo :=
  replicas.insertionSort fun first second => ¬second.before first

/-- The order of the pairs of load and rank in a queue with the smallest on top. -/
def lessLoaded (first second : Rat × Nat) : Bool :=
  first.1 < second.1 || first.1 == second.1 && first.2 < second.2

/-- The state of the assignment. -/
structure Assignment where
  pq : List (Rat × Nat)
  currentRankSlots : List Nat
  rankExpertIds : List (List Int)

/-- One round of the assignment. -/
def Assignment.assign (state : Assignment) (replica : ReplicaInfo) : Except Failure Assignment :=
  match PriorityQueue.pop lessLoaded state.pq with
  | none => .error .emptyQueue
  | some ((currentLoad, bestRank), pq) =>
    let localSlotId := state.currentRankSlots.getD bestRank 0
    if localSlotId < metaInfo.slotCountPerRank then
      let currentRankSlots := state.currentRankSlots.modify bestRank (· + 1)
      .ok
        { pq :=
            if currentRankSlots.getD bestRank 0 < metaInfo.slotCountPerRank then
              (currentLoad + replica.slotSize, bestRank) :: pq
            else pq
          currentRankSlots := currentRankSlots
          rankExpertIds := state.rankExpertIds.modify bestRank
            (·.set localSlotId replica.expertId) }
    else .error .localSlotId

/-- `doPlacement`: the experts in the slots of each rank. -/
def doPlacement (expertReplicaCount : List Nat) (rankExpertIds : List (List Int)) :
    Except Failure (List (List Int)) := do
  if ∃ expertId < metaInfo.expertCount, expertReplicaCount.getD expertId 0 = 0 then
    throw .assertion
  let replicas := allReplicas metaInfo expertLoadFactor expertReplicaCount
  if replicas.length ≠ totalSlotCount metaInfo then throw .assertion
  let state ← (sortReplicas replicas).foldlM (Assignment.assign metaInfo)
    { pq := (List.range metaInfo.epSize).map fun rank => (0, rank)
      currentRankSlots := List.replicate metaInfo.epSize 0
      rankExpertIds := rankExpertIds }
  if !state.pq.isEmpty then throw .assertion
  pure state.rankExpertIds

/-! ## Every expert has a replica -/

/-- There is an expert and a slot for each of them, and the rank is one of the ranks. -/
structure Valid (metaInfo : MoeLoadBalanceMetaInfo) : Prop where
  rank : metaInfo.epRank < metaInfo.epSize
  experts : 0 < metaInfo.expertCount
  enough : metaInfo.expertCount ≤ totalSlotCount metaInfo

variable {metaInfo info} {expertLoadFactor}

/-- The replicas take all slots, and there is one of each expert. -/
structure Replicated (metaInfo : MoeLoadBalanceMetaInfo)
    (expertReplicaCount : List Nat) : Prop where
  experts : expertReplicaCount.length = metaInfo.expertCount
  positive : ∀ expertId < metaInfo.expertCount, 0 < expertReplicaCount.getD expertId 0
  total : expertReplicaCount.sum = totalSlotCount metaInfo

/-- Each round of the loop adds one replica to one expert. -/
theorem replicateGreedily_spec (slots : Nat) {pq : List (Rat × Nat)} {cnt : List Nat}
    (nonempty : pq ≠ []) (experts : ∀ entry ∈ pq, entry.2 < cnt.length) :
    ∃ counts', replicateGreedily expertLoadFactor slots pq cnt = .ok counts' ∧
      counts'.length = cnt.length ∧ counts'.sum = cnt.sum + slots ∧
      ∀ expert, cnt.getD expert 0 ≤ counts'.getD expert 0 := by
  induction slots generalizing pq cnt with
  | zero => exact ⟨cnt, rfl, rfl, rfl, fun _ => Nat.le_refl _⟩
  | succ slots ih =>
    obtain ⟨⟨size, expert⟩, others, popped⟩ := exists_pop largerSlot nonempty
    have perm := perm_of_pop popped
    have lt := experts _ (perm.mem_iff.mpr mem_cons_self)
    have experts : ∀ entry ∈ (expertLoadFactor expert /
        ((cnt.modify expert (· + 1)).getD expert 0 : Nat), expert) :: others,
        entry.2 < (cnt.modify expert (· + 1)).length := by
      rw [length_modify]
      refine forall_mem_cons.mpr ⟨lt, fun entry mem => ?_⟩
      exact experts entry (perm.mem_iff.mpr (mem_cons_of_mem _ mem))
    obtain ⟨counts', replicated, length, sum, grown⟩ := ih (cons_ne_nil _ _) experts
    refine ⟨counts', ?_, ?_, ?_, fun other => Nat.le_trans ?_ (grown other)⟩
    · unfold replicateGreedily
      rw [popped]
      exact replicated
    · rw [length, length_modify]
    · rw [sum, sum_modify_succ _ lt]
      omega
    · rw [getD_modify_succ _ lt]
      split <;> omega

theorem doReplication_spec (valid : Valid info) (expertLoadFactor : Nat → Rat) :
    ∃ cnt, doReplication info expertLoadFactor = .ok cnt ∧ Replicated info cnt := by
  have experts := valid.experts
  have enough := valid.enough
  unfold doReplication
  split
  · rename_i same
    refine ⟨_, rfl, length_replicate, fun expert lt => ?_, ?_⟩
    · rw [getD_replicate _ lt]
      exact Nat.one_pos
    · rw [sum_replicate_nat, Nat.mul_one, same]
  split
  · rw [if_neg (Nat.ne_of_gt experts)]
    refine ⟨_, rfl, ?_, fun expert lt => ?_, ?_⟩
    · rw [length_map, length_range]
    · rw [getD_eq_getElem?_getD, getElem?_map, getElem?_range lt]
      have := Nat.div_pos enough experts
      exact Nat.add_pos_left this _
    · have remainder := Nat.mod_lt (totalSlotCount info) experts
      rw [sum_evenly, Nat.min_eq_left (Nat.le_of_lt remainder), Nat.div_add_mod]
  · have nonempty : (List.range info.expertCount).map
        (fun expert => (expertLoadFactor expert, expert)) ≠ [] := by
      rw [ne_eq, map_eq_nil_iff, range_eq_nil]
      omega
    have lt : ∀ entry ∈ (List.range info.expertCount).map
        (fun expert => (expertLoadFactor expert, expert)),
        entry.2 < (List.replicate info.expertCount 1).length := by
      intro entry mem
      obtain ⟨expert, lt, rfl⟩ := mem_map.mp mem
      rw [length_replicate]
      exact mem_range.mp lt
    obtain ⟨cnt, replicated, length, sum, grown⟩ := replicateGreedily_spec
      (totalSlotCount info - info.expertCount) nonempty lt
    refine ⟨cnt, replicated, ?_, fun expert lt => ?_, ?_⟩
    · rw [length, length_replicate]
    · have grown := grown expert
      rw [getD_replicate _ lt] at grown
      exact grown
    · rw [sum, sum_replicate_nat, Nat.mul_one]
      omega

/-! ## Every slot is filled -/

/-- An entry of the queue with the number of slots that `currentRankSlots` has for its rank. -/
structure RankEntry where
  load : Rat
  slots : Nat
  rank : Nat

namespace RankEntry

/-- The pair that the queue of `doPlacement` holds. -/
def pair (entry : RankEntry) : Rat × Nat := (entry.load, entry.rank)

def add (entry : RankEntry) (replica : ReplicaInfo) : RankEntry :=
  { entry with load := entry.load + replica.slotSize, slots := entry.slots + 1 }

theorem add_slots (entry : RankEntry) (replica : ReplicaInfo) :
    (entry.add replica).slots = entry.slots + 1 := rfl

theorem add_rank (entry : RankEntry) (replica : ReplicaInfo) :
    (entry.add replica).rank = entry.rank := rfl

def before (first second : RankEntry) : Bool := lessLoaded first.pair second.pair

end RankEntry

/-- The state of the assignment while the ranks are filled as bins. -/
structure Fills (rankExpertIds : List (List Int)) (state : Assignment) (queue : List RankEntry)
    (bins : List (List ReplicaInfo)) : Prop where
  pq : state.pq = queue.map RankEntry.pair
  counters : state.currentRankSlots.length = bins.length
  slots : ∀ rank, state.currentRankSlots.getD rank 0 = (bins.getD rank []).length
  ranks : state.rankExpertIds.length = rankExpertIds.length
  ids : ∀ rank, state.rankExpertIds.getD rank [] =
    ((bins.getD rank []).map fun replica => (replica.expertId : Int)) ++
      (rankExpertIds.getD rank []).drop (bins.getD rank []).length

variable {rankExperts : List (List Int)} {state : Assignment} {queue : List RankEntry}
  {bins : List (List ReplicaInfo)}

/-- The ranks and their slots. -/
def Shaped (metaInfo : MoeLoadBalanceMetaInfo) (rankExpertIds : List (List Int)) : Prop :=
  rankExpertIds.length = metaInfo.epSize ∧
    ∀ ids ∈ rankExpertIds, ids.length = metaInfo.slotCountPerRank

open RankEntry (rank before pair add_slots add_rank)

/-- A round puts the replica into the next slot of the rank with the least load. -/
theorem Fills.assign (shaped : Shaped info rankExperts)
    (fills : Fills rankExperts state queue bins) (sameRanks : bins.length = info.epSize)
    (fits : PriorityQueue.Fits rank RankEntry.slots info.slotCountPerRank
      (fun _ => 0) queue bins) {least : RankEntry} {others : List RankEntry}
    (popped : pop before queue = some (least, others))
    (replica : ReplicaInfo) : ∃ next, state.assign info replica = .ok next ∧ Fills rankExperts next
        (if (least.add replica).slots < info.slotCountPerRank then least.add replica :: others
          else others) (bins.modify least.rank (· ++ [replica])) := by
  have perm := perm_of_pop popped
  have isLeast := perm.mem_iff.mpr mem_cons_self
  have lt := fits.inside least isLeast
  have free := fits.free least isLeast
  have loaded := fits.loaded least isLeast
  rw [Nat.zero_add] at loaded
  have counted := fills.slots least.rank
  have top : pop lessLoaded state.pq = some (least.pair, others.map pair) := by
    rw [fills.pq, pop_map]
    exact congrArg (Option.map _) popped
  have after : (state.currentRankSlots.modify least.rank (· + 1)).getD least.rank 0 =
      (least.add replica).slots := by
    rw [getD_modify_succ _ (fills.counters ▸ lt), if_pos rfl, counted, ← loaded]
    rfl
  unfold Assignment.assign
  rw [top]
  dsimp only [pair]
  rw [if_pos (by omega), after]
  refine ⟨_, rfl, ?_, ?_, fun rank => ?_, ?_, fun rank => ?_⟩
  · dsimp only
    split
    · rfl
    · rfl
  · rw [length_modify, length_modify, fills.counters]
  · dsimp only
    rw [getD_modify_succ _ (fills.counters ▸ lt)]
    split
    · rename_i same
      subst same
      rw [getD_modify_self lt, length_append, counted]
      rfl
    · rename_i ne
      rw [getD_modify_ne ne, fills.slots]
  · rw [length_modify, fills.ranks]
  · have isRank : least.rank < rankExperts.length := shaped.1 ▸ sameRanks ▸ lt
    by_cases same : least.rank = rank
    · subst same
      -- the slot is the first one that the replicas of the rank have not taken
      have length : (rankExperts.getD least.rank []).length = info.slotCountPerRank := by
        rw [getD_eq_getElem?_getD, getElem?_eq_getElem isRank]
        exact shaped.2 _ (getElem_mem isRank)
      have next : (bins.getD least.rank []).length < (rankExperts.getD least.rank []).length := by
        omega
      rw [getD_modify_self (fills.ranks ▸ isRank), getD_modify_self lt, fills.ids,
        counted, length_append, map_append, length_singleton,
        set_append_right _ _ (Nat.le_of_eq (length_map _)), length_map,
        Nat.sub_self, drop_eq_getElem_cons next, set_cons_zero, append_assoc]
      rfl
    · rw [getD_modify_ne same, getD_modify_ne same]
      exact fills.ids rank

/-- The loop fills the ranks as the bins are filled. -/
theorem Fills.foldlM (shaped : Shaped info rankExperts) {replicas : List ReplicaInfo}
    {left : List RankEntry} {filled : List (List ReplicaInfo)}
    (fills : Fills rankExperts state queue bins) (sameRanks : bins.length = info.epSize)
    (fits : PriorityQueue.Fits rank RankEntry.slots info.slotCountPerRank
      (fun _ => 0) queue bins)
    (placed : place before rank RankEntry.slots RankEntry.add
      info.slotCountPerRank replicas queue bins = some (left, filled)) :
    ∃ last, replicas.foldlM (Assignment.assign info) state = .ok last ∧
      Fills rankExperts last left filled := by
  induction replicas generalizing state queue bins with
  | nil =>
    cases placed
    exact ⟨state, rfl, fills⟩
  | cons replica replicas ih =>
    unfold place at placed
    split at placed
    · cases placed
    rename_i least others popped
    obtain ⟨next, assigned, fills⟩ := fills.assign shaped sameRanks fits popped replica
    obtain ⟨last, looped, fills⟩ := ih fills (by rw [length_modify, sameRanks])
      ((fits.perm (perm_of_pop popped)).requeue add_slots
        add_rank replica) placed
    refine ⟨last, ?_, fills⟩
    rw [foldlM_cons, assigned]
    exact looped

/-- What `doPlacement` returns: the ranks hold the replicas, in some order. -/
structure Placed (metaInfo : MoeLoadBalanceMetaInfo) (counts : List Nat)
    (rankExpertIds : List (List Int)) : Prop where
  shaped : Shaped metaInfo rankExpertIds
  inRange : ∀ ids ∈ rankExpertIds, ∀ id ∈ ids, 0 ≤ id ∧ id < metaInfo.expertCount
  counted : ∀ expertId : Nat, expertId < metaInfo.expertCount →
    rankExpertIds.flatten.count (expertId : Int) = counts.getD expertId 0

theorem length_allReplicas {cnt : List Nat} (experts : cnt.length = info.expertCount)
    (expertLoadFactor : Nat → Rat) : (allReplicas info expertLoadFactor cnt).length = cnt.sum := by
  rw [allReplicas, length_flatMap, ← experts]
  simp only [length_replicate]
  rw [map_getD_range]

theorem count_allReplicas {expert : Nat} (lt : expert < info.expertCount)
    (cnt : List Nat) (expertLoadFactor : Nat → Rat) :
    ((allReplicas info expertLoadFactor cnt).map fun replica =>
      (replica.expertId : Int)).count (expert : Int) = cnt.getD expert 0 := by
  have upTo : ∀ bound, (((List.range bound).flatMap fun other =>
      List.replicate (cnt.getD other 0) (other : Int))).count (expert : Int) =
      if expert < bound then cnt.getD expert 0 else 0 := by
    intro bound
    induction bound with
    | zero => rfl
    | succ bound ih =>
      rw [range_succ, flatMap_append, count_append, ih, flatMap_singleton,
        count_replicate]
      by_cases same : bound = expert
      · subst same
        simp
      · have ne : ¬((bound : Int) == (expert : Int)) = true := by
          simpa using same
        split <;> split <;> omega
  rw [allReplicas, map_flatMap]
  simp only [map_replicate]
  rw [upTo, if_pos lt]

/-- All ranks are in the queue at first, and have room for the replicas. -/
theorem fits_ranks (pos : 0 < info.slotCountPerRank) :
    PriorityQueue.Fits rank RankEntry.slots info.slotCountPerRank (fun _ => 0)
      ((List.range info.epSize).map fun rank => { load := 0, slots := 0, rank := rank })
      (List.replicate info.epSize ([] : List ReplicaInfo)) := by
  have empty : ∀ rank, ((List.replicate info.epSize ([] : List ReplicaInfo)).getD rank
      []).length = 0 := by
    intro rank
    rw [getD_eq_getElem?_getD, getElem?_replicate]
    split <;> rfl
  refine ⟨fun entry mem => ?_, fun entry mem => ?_, ?_, fun entry mem => ?_, fun rank _ => ?_⟩
  · obtain ⟨rank, _, rfl⟩ := mem_map.mp mem
    exact pos
  · obtain ⟨rank, isRank, rfl⟩ := mem_map.mp mem
    rw [length_replicate]
    exact mem_range.mp isRank
  · rw [map_map]
    exact map_id _ ▸ nodup_range
  · obtain ⟨rank, _, rfl⟩ := mem_map.mp mem
    rw [empty]
  · rw [empty]
    exact Nat.zero_le _

theorem room_ranks : room RankEntry.slots info.slotCountPerRank
    ((List.range info.epSize).map fun rank => { load := 0, slots := 0, rank := rank }) =
      totalSlotCount info := by
  rw [room, map_map]
  have same : (List.range info.epSize).map ((fun entry : RankEntry =>
      info.slotCountPerRank - entry.slots) ∘ fun rank => { load := 0, slots := 0, rank := rank }) =
      List.replicate info.epSize info.slotCountPerRank := by
    rw [map_eq_replicate_iff.mpr, length_range]
    exact fun _ _ => rfl
  rw [same, sum_replicate_nat]
  rfl

theorem Fills.initial (rankExperts : List (List Int)) : Fills rankExperts
    { pq := (List.range info.epSize).map fun rank => (0, rank)
      currentRankSlots := List.replicate info.epSize 0
      rankExpertIds := rankExperts }
    ((List.range info.epSize).map fun rank => { load := 0, slots := 0, rank := rank })
    (List.replicate info.epSize []) := by
  have empty : ∀ rank, (List.replicate info.epSize ([] : List ReplicaInfo)).getD rank [] = [] := by
    intro rank
    rw [getD_eq_getElem?_getD, getElem?_replicate]
    split <;> rfl
  refine ⟨?_, ?_, fun rank => ?_, rfl, fun rank => ?_⟩
  · rw [map_map]
    rfl
  · rw [length_replicate, length_replicate]
  · rw [empty, getD_eq_getElem?_getD, getElem?_replicate]
    split <;> rfl
  · rw [empty]
    rfl

/-- When all ranks are full, nothing of the old ids is left. -/
theorem Fills.ids_eq (shaped : Shaped info rankExperts)
    (fills : Fills rankExperts state queue bins) (sameRanks : bins.length = info.epSize)
    (full : ∀ bin ∈ bins, bin.length = info.slotCountPerRank) :
    state.rankExpertIds = bins.map fun bin => bin.map fun replica => (replica.expertId : Int) := by
  refine ext_getElem ?_ fun rank isRank isBin => ?_
  · rw [length_map, fills.ranks, shaped.1, sameRanks]
  · rw [length_map] at isBin
    have isOld : rank < rankExperts.length := fills.ranks ▸ isRank
    have ids := fills.ids rank
    simp only [getD_eq_getElem?_getD, getElem?_eq_getElem isRank,
      getElem?_eq_getElem isBin, getElem?_eq_getElem isOld, Option.getD_some] at ids
    rw [ids, getElem_map, drop_of_length_le, append_nil]
    rw [shaped.2 _ (getElem_mem isOld), full _ (getElem_mem isBin)]

theorem bins_full {base : Nat → Nat} (sameRanks : bins.length = info.epSize)
    (fits : PriorityQueue.Fits rank RankEntry.slots info.slotCountPerRank base queue
      bins) (all : bins.flatten.length = totalSlotCount info) :
    ∀ bin ∈ bins, bin.length = info.slotCountPerRank := by
  intro bin mem
  have limited : ∀ count ∈ bins.map List.length, count ≤ info.slotCountPerRank := by
    intro count isCount
    obtain ⟨other, isOther, rfl⟩ := mem_map.mp isCount
    obtain ⟨rank, lt, rfl⟩ := mem_iff_getElem.mp isOther
    have limited := fits.limited rank lt
    rw [getD_eq_getElem?_getD, getElem?_eq_getElem lt] at limited
    exact Nat.le_trans (Nat.le_add_left _ _) limited
  refine eq_of_sum_eq limited ?_ bin.length (mem_map_of_mem mem)
  rw [← length_flatten, all, length_map, sameRanks]
  rfl

theorem doPlacement_spec (valid : Valid info) {cnt : List Nat}
    (replicated : Replicated info cnt) (shaped : Shaped info rankExperts)
    (expertLoadFactor : Nat → Rat) :
    ∃ placed, doPlacement info expertLoadFactor cnt rankExperts = .ok placed ∧
      Placed info cnt placed := by
  have pos : 0 < info.slotCountPerRank := by
    have total := Nat.lt_of_lt_of_le valid.experts valid.enough
    exact Nat.pos_of_mul_pos_left total
  have all := (length_allReplicas replicated.experts expertLoadFactor).trans replicated.total
  have sorted : (sortReplicas (allReplicas info expertLoadFactor cnt)).Perm
      (allReplicas info expertLoadFactor cnt) := perm_insertionSort _ _
  obtain ⟨left, filled, placed, fits, room, ranks, perm⟩ := place_fits
    add_slots before add_rank (fits_ranks pos)
    (Nat.le_of_eq (sorted.length_eq.trans (all.trans room_ranks.symm)))
  rw [length_replicate] at ranks
  rw [room_ranks, sorted.length_eq, all] at room
  have perm : filled.flatten.Perm (allReplicas info expertLoadFactor cnt) := by
    rw [flatten_replicate_nil, nil_append] at perm
    exact perm.trans sorted
  have full := bins_full ranks fits (perm.length_eq.trans all)
  obtain ⟨last, looped, fills⟩ := (Fills.initial rankExperts).foldlM shaped length_replicate
    (fits_ranks pos) placed
  have done : last.pq = [] := by
    rw [fills.pq, fits.eq_nil (by omega), map_nil]
  have ids := fills.ids_eq shaped ranks full
  have flat : (last.rankExpertIds.flatten).Perm ((allReplicas info expertLoadFactor cnt).map
      fun replica => (replica.expertId : Int)) := by
    rw [ids, ← map_flatten]
    exact perm.map _
  refine ⟨last.rankExpertIds, ?_, ⟨?_, fun rankIds isRank id mem => ?_, fun expert lt => ?_⟩⟩
  · have pos : ¬∃ expert < info.expertCount, cnt.getD expert 0 = 0 := by
      rintro ⟨expert, lt, none⟩
      exact Nat.ne_of_gt (replicated.positive expert lt) none
    unfold doPlacement
    rw [if_neg pos]
    dsimp only [bind, Except.bind, pure, Except.pure]
    rw [if_neg (not_not.mpr all), looped]
    dsimp only
    rw [done]
    rfl
  · refine ⟨by rw [ids, length_map, ranks], fun rankIds isRank => ?_⟩
    rw [ids] at isRank
    obtain ⟨bin, isBin, rfl⟩ := mem_map.mp isRank
    rw [length_map]
    exact full bin isBin
  · have mem := flat.mem_iff.mp (mem_flatten.mpr ⟨rankIds, isRank, mem⟩)
    obtain ⟨replica, isReplica, rfl⟩ := mem_map.mp mem
    obtain ⟨expert, isExpert, isReplica⟩ := mem_flatMap.mp isReplica
    obtain ⟨_, rfl⟩ := mem_replicate.mp isReplica
    exact ⟨Int.natCast_nonneg _, Int.ofNat_lt.mpr (mem_range.mp isExpert)⟩
  · rw [flat.count_eq]
    exact count_allReplicas lt cnt expertLoadFactor

end Moe

end TrtLlm
