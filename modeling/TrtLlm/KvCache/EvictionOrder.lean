import TrtLlm.Lib.PriorityQueue
import TrtLlm.KvCache.Core

/-! # The order of eviction and the end of a retention

The calls of the eviction policy are followed together with the free blocks in release order; each
free queue is the part of that order with its level and priority. Offloading and onboarding exchange
slots of claimed blocks, as `sameCore_offloadForReuse` states. A priority that came with a duration
ends with it, unless a claim without a priority drops the duration only.
-/

namespace TrtLlm

open List

open Function (update update_self update_of_ne)
open WindowBlockManager

/-- The calls of `LRUEvictionPolicy` that change it, and `swapMemoryPoolBlockOffset`. -/
inductive PolicyCall where
  | claim (block : BlockId) (priority : Option RetentionPriority) (durationMs : Option Nat)
  | release (block : BlockId) (toFront : Bool)
  | exchange (block other : BlockId)
  | refresh

/-- A policy with its free blocks in release order. Each block has the time of its last release, and
the duration that its priority was assigned with. -/
structure FollowedPolicy where
  manager : WindowBlockManager
  order : List BlockId
  releasedAt : BlockId → Nat
  assigned : BlockId → Option Nat

namespace FollowedPolicy

/-- The blocks that the loop of `refresh` demotes. -/
def demoted (platform : Platform) : Nat → WindowBlockManager → List BlockId
  | 0, _ => []
  | rounds + 1, s =>
    match s.heapBegin platform s.expiringBlockHeap with
    | none => []
    | some block =>
      if (s.expirationTime block).any (platform.clock s.clockReads < ·) then []
      else block ::
        demoted platform rounds ({ s with clockReads := s.clockReads + 1 }.expireBlock block)

/-- A free block that is demoted comes to the end of the order. -/
def demote (order : List BlockId) (block : BlockId) : List BlockId :=
  if block ∈ order then order.filter (· ≠ block) ++ [block] else order

def initial (config : WindowConfig) : FollowedPolicy where
  manager := .initial config
  order := List.range config.numBlocks
  releasedAt := fun _ => 0
  assigned := fun _ => none

def step (platform : Platform) (t : FollowedPolicy) : PolicyCall → Except Failure FollowedPolicy
  | .claim block priority durationMs => .ok
      { t with
        manager := t.manager.claimBlock block priority durationMs
        order := t.order.filter (· ≠ block)
        assigned := if priority.isSome then update t.assigned block durationMs else t.assigned }
  | .release block toFront => .ok
      { t with
        manager := t.manager.releaseBlock platform block toFront
        order := if toFront then block :: t.order else t.order ++ [block]
        releasedAt := update t.releasedAt block (platform.clock t.manager.clockReads) }
  | .exchange block other => .ok
      { t with manager := t.manager.swapMemoryPoolBlockOffset block other }
  | .refresh => .ok
      { t with
        manager := t.manager.refresh platform
        order := (demoted platform t.manager.expiringBlockHeap.length t.manager).foldl demote
          t.order }

/-- A block is released when it is claimed, and moved only then. -/
def Paired (config : WindowConfig) (t : FollowedPolicy) : PolicyCall → Prop
  | .release block _ => block < config.numBlocks ∧ block ∉ t.order
  | .exchange block other => block ∉ t.order ∧ other ∉ t.order
  | _ => True

instance (config : WindowConfig) (t : FollowedPolicy) :
    (call : PolicyCall) → Decidable (t.Paired config call)
  | .claim _ _ _ | .refresh => isTrue trivial
  | .release _ _ | .exchange _ _ => inferInstanceAs (Decidable (_ ∧ _))

end FollowedPolicy

open FollowedPolicy

namespace WindowBlockManager

variable {cfg : WindowConfig} {plat : Platform} {s s' : WindowBlockManager} {block : BlockId}
  {order : List BlockId}

/-! ## The queues follow the order -/

structure Ordered (config : WindowConfig) (s : WindowBlockManager) (order : List BlockId) :
    Prop where
  shape : QueueShape config s.toLRUEvictionPolicy
  queues : ∀ level priority, (s.freeQueues level priority).map FreeNode.block =
    order.filter fun block => s.getCacheLevel block = level ∧ s.priority block = priority

section

variable (ordered : Ordered cfg s order)
include ordered

theorem Ordered.mem_iff : block ∈ order ↔ (s.freeBlockIterators block).isSome := by
  constructor
  · intro mem
    have home : block ∈ order.filter fun id => s.getCacheLevel id = s.getCacheLevel block ∧
        s.priority id = s.priority block := by simp [mem]
    rw [← ordered.queues] at home
    obtain ⟨node, queued, rfl⟩ := mem_map.mp home
    rw [ordered.shape.iterator_of_mem queued]
    rfl
  · intro free
    obtain ⟨handle, found⟩ := Option.isSome_iff_exists.mp free
    obtain ⟨level, prio, queued⟩ := ordered.shape.mem_of_iterator found
    have mem := mem_map_of_mem (f := FreeNode.block) queued
    rw [ordered.queues] at mem
    exact (mem_filter.mp mem).1

theorem Ordered.unqueued (absent : block ∉ order) : s.freeBlockIterators block = none := by
  rw [ordered.mem_iff] at absent
  simpa using absent

/-- The order depends on the queues, and on the places of the blocks that are in them. -/
theorem Ordered.congr (queues : s'.freeQueues = s.freeQueues)
    (iterators : s'.freeBlockIterators = s.freeBlockIterators)
    (handles : s'.nextHandle = s.nextHandle)
    (places : ∀ block ∈ order, s'.getCacheLevel block = s.getCacheLevel block ∧
      s'.priority block = s.priority block) : Ordered cfg s' order := by
  refine ⟨ordered.shape.congr queues iterators handles, fun level prio => ?_⟩
  rw [queues, ordered.queues]
  apply filter_congr
  intro block mem
  rw [(places block mem).1, (places block mem).2]

theorem Ordered.claimBlock (block : BlockId) (prio : Option RetentionPriority) (dur : Option Nat) :
    Ordered cfg (s.claimBlock block prio dur) (order.filter (· ≠ block)) := by
  refine ⟨ordered.shape.claimBlock block prio dur, fun level at' => ?_⟩
  -- The node that is erased is that of the block, wherever it is.
  have erased : (eraseNode s.freeQueues (s.freeBlockIterators block) level at').map
      FreeNode.block = ((s.freeQueues level at').map FreeNode.block).filter (· ≠ block) := by
    have named : ∀ node ∈ s.freeQueues level at',
        s.freeBlockIterators block = some node.handle ↔ node.block = block := by
      intro node mem
      have found := ordered.shape.iterator_of_mem mem
      exact ⟨fun same => ordered.shape.handle_injective found same, fun same => same ▸ found⟩
    rw [filter_map]
    congr 1
    cases claimed : s.freeBlockIterators block with
    | none =>
      refine (filter_eq_self.mpr fun node mem => ?_).symm
      simpa [claimed] using named node mem
    | some handle =>
      apply filter_congr
      intro node mem
      have iff := named node mem
      rw [claimed, Option.some.injEq, eq_comm] at iff
      simp [iff]
  change (eraseNode s.freeQueues (s.freeBlockIterators block) level at').map _ = _
  rw [erased, ordered.queues, filter_filter, filter_filter]
  apply filter_congr
  intro other _
  by_cases same : other = block
  · simp [same]
  · have kept : (s.claimBlock block prio dur).priority other = s.priority other :=
      update_of_ne same _ _
    rw [kept, Bool.and_comm]
    rfl

theorem Ordered.releaseBlock (bounded : block < cfg.numBlocks) (absent : block ∉ order)
    (toFront : Bool) : Ordered cfg (s.releaseBlock plat block toFront)
      (if toFront then block :: order else order ++ [block]) := by
  refine ⟨ordered.shape.releaseBlock bounded (ordered.unqueued absent) toFront, fun level at' => ?_⟩
  change (insertNode s.freeQueues (s.getCacheLevel block) (s.priority block) _ toFront level
    at').map _ = List.filter (fun id => s.getCacheLevel id = level ∧ s.priority id = at') _
  unfold insertNode
  have before := ordered.queues level at'
  by_cases home : level = s.getCacheLevel block ∧ at' = s.priority block
  · obtain ⟨rfl, rfl⟩ := home
    cases toFront <;> simp [filter_append, before]
  · have elsewhere : ¬(s.getCacheLevel block = level ∧ s.priority block = at') :=
      fun here => home ⟨here.1.symm, here.2.symm⟩
    cases toFront <;> simp [home, elsewhere, filter_append, before]

theorem Ordered.expireBlock (block : BlockId) :
    Ordered cfg (s.expireBlock block) (demote order block) := by
  unfold demote
  split
  · rename_i mem
    obtain ⟨handle, found⟩ := Option.isSome_iff_exists.mp (ordered.mem_iff.mp mem)
    obtain ⟨queues, iterators, handles⟩ := expireBlock_of_queued .plain found
    have claimed := ordered.claimBlock block (some kDefaultRetentionPriority) none
    exact (claimed.releaseBlock (ordered.shape.free_lt found) (by simp) false).congr queues
      iterators handles fun _ _ => ⟨rfl, rfl⟩
  · rename_i absent
    obtain ⟨queues, iterators, handles⟩ := expireBlock_of_unqueued (ordered.unqueued absent)
    refine ordered.congr queues iterators handles fun other mem => ⟨rfl, ?_⟩
    have ne : other ≠ block := fun same => absent (same ▸ mem)
    exact update_of_ne ne _ _

theorem Ordered.swap {other : BlockId} (absent : block ∉ order) (absent' : other ∉ order) :
    Ordered cfg (s.swapMemoryPoolBlockOffset block other) order := by
  refine ordered.congr rfl rfl rfl fun id mem => ⟨?_, rfl⟩
  have ne : id ≠ block := fun same => absent (same ▸ mem)
  have ne' : id ≠ other := fun same => absent' (same ▸ mem)
  have slot : (s.swapMemoryPoolBlockOffset block other).memoryPoolBlockIndex id =
      s.memoryPoolBlockIndex id := by simp [swapMemoryPoolBlockOffset, ne, ne']
  unfold getCacheLevel isPrimary
  rw [slot]

end

theorem Ordered.refreshLoop (ordered : Ordered cfg s order) (plat : Platform) (rounds : Nat) :
    Ordered cfg (refreshLoop plat rounds s) ((demoted plat rounds s).foldl demote order) := by
  induction rounds generalizing s order with
  | zero => exact ordered
  | succ rounds ih =>
    unfold WindowBlockManager.refreshLoop demoted
    cases s.heapBegin plat s.expiringBlockHeap with
    | none => exact ordered
    | some block =>
      have read : Ordered cfg { s with clockReads := s.clockReads + 1 } order :=
        ordered.congr rfl rfl rfl fun _ _ => ⟨rfl, rfl⟩
      dsimp only
      split
      · exact read
      · exact ih (read.expireBlock block)

theorem Ordered.initial (cfg : WindowConfig) :
    Ordered cfg (initial cfg) (List.range cfg.numBlocks) := by
  refine ⟨.initial cfg, fun level prio => ?_⟩
  change (if prio = kDefaultRetentionPriority then initialQueue cfg level else []).map _ =
    List.filter (fun id => (WindowBlockManager.initial cfg).getCacheLevel id = level ∧
      kDefaultRetentionPriority = prio) _
  by_cases default : prio = kDefaultRetentionPriority
  · subst default
    have low : ∀ id ∈ List.range cfg.numPrimaryBlocks, initialLevel cfg id = .primary :=
      fun id mem => if_pos (mem_range.mp mem)
    have high : ∀ id ∈ (List.range cfg.numSecondaryBlocks).map (cfg.numPrimaryBlocks + ·),
        initialLevel cfg id = .secondary := by
      intro id mem
      obtain ⟨place, _, rfl⟩ := mem_map.mp mem
      exact if_neg (Nat.not_lt.mpr (Nat.le_add_right _ _))
    simp only [initial_level, WindowConfig.numBlocks, range_add, filter_append]
    cases level with
    | primary =>
      rw [filter_eq_self.mpr (by simpa using low), filter_eq_nil_iff.mpr]
      · simp [initialQueue, Function.comp_def]
      · intro id mem
        simp [high id mem]
    | secondary =>
      rw [filter_eq_nil_iff.mpr, filter_eq_self.mpr (by simpa using high)]
      · simp [initialQueue, Function.comp_def]
      · intro id mem
        simp [low id mem]
  · simp [default, Ne.symm default]

/-! ## The block that is taken -/

theorem firstFree_first (s : WindowBlockManager) (level : CacheLevel) :
    match s.firstFree level with
    | some (prio, id) => (∃ node rest, s.freeQueues level prio = node :: rest ∧ node.block = id) ∧
        ∀ lower < prio, s.freeQueues level lower = []
    | none => ∀ prio, s.freeQueues level prio = [] := by
  unfold firstFree
  split
  · rename_i prio id found
    obtain ⟨before, tried, after, split, head, earlier⟩ := findSome?_eq_some_iff.mp found
    obtain ⟨node, first, pair⟩ := Option.map_eq_some_iff.mp head
    cases pair
    obtain ⟨rest, queue⟩ := head?_eq_some_iff.mp first
    refine ⟨⟨node, rest, queue, rfl⟩, fun lower below => ?_⟩
    have mem : lower ∈ before := by
      have listed := mem_finRange lower
      rw [split, mem_append, mem_cons] at listed
      have sorted := pairwise_lt_finRange 101
      rw [split, pairwise_append, pairwise_cons] at sorted
      rcases listed with mem | rfl | later
      · exact mem
      · exact absurd below (lt_irrefl _)
      · exact absurd (sorted.2.1.1 lower later) (lt_asymm below)
    simpa using earlier lower mem
  · rename_i found
    intro prio
    simpa using findSome?_eq_none_iff.mp found prio (mem_finRange prio)

/-- A block comes first among the blocks of lowest priority of its level. -/
def FirstOfLowest (s : WindowBlockManager) (order : List BlockId) (level : CacheLevel)
    (block : BlockId) : Prop :=
  s.getCacheLevel block = level ∧ ∃ before after, order = before ++ block :: after ∧
    (∀ other ∈ before, s.getCacheLevel other = level → s.priority block < s.priority other) ∧
    ∀ other ∈ after, s.getCacheLevel other = level → s.priority block ≤ s.priority other

theorem Ordered.policyGetFreeBlock (ordered : Ordered cfg s order) (level : CacheLevel) :
    (s.policyGetFreeBlock cfg level).Ends (fun taken => FirstOfLowest s order level taken.1)
      fun _ => ∀ block ∈ order, s.getCacheLevel block ≠ level := by
  have first := firstFree_first s level
  have absent : ∀ {prio}, s.freeQueues level prio = [] → ∀ block ∈ order,
      s.getCacheLevel block = level → s.priority block ≠ prio := by
    intro prio empty block mem here same
    have queue := ordered.queues level prio
    rw [empty, map_nil, eq_comm, filter_eq_nil_iff] at queue
    exact queue block mem (by simp [here, same])
  unfold WindowBlockManager.policyGetFreeBlock
  split
  · rename_i prio block found
    rw [found] at first
    obtain ⟨⟨node, rest, split, rfl⟩, lower⟩ := first
    have queue := ordered.queues level prio
    rw [split, map_cons, eq_comm, filter_eq_cons_iff] at queue
    obtain ⟨before, after, rfl, earlier, here, _⟩ := queue
    obtain ⟨home, rfl⟩ := of_decide_eq_true here
    have least : ∀ other ∈ before ++ node.block :: after, s.getCacheLevel other = level →
        s.priority node.block ≤ s.priority other := by
      intro other mem same
      apply le_of_not_gt
      exact fun below => absent (lower _ below) other mem same rfl
    refine ⟨home, before, after, rfl, fun other mem same => ?_, fun other mem => ?_⟩
    · have ne : s.priority other ≠ s.priority node.block := fun equal =>
        earlier other mem (decide_eq_true ⟨same, equal⟩)
      exact lt_of_le_of_ne (least other (mem_append_left _ mem) same) ne.symm
    · exact least other (mem_append_right _ (mem_cons_of_mem _ mem))
  · rename_i found
    rw [found] at first
    exact fun block mem here => absent (first _) block mem here rfl

end WindowBlockManager

namespace FollowedPolicy

variable {cfg : WindowConfig} {plat : Platform} {t t' : FollowedPolicy}

theorem ordered_step (ordered : Ordered cfg t.manager t.order) {call : PolicyCall}
    (paired : t.Paired cfg call) (stepped : t.step plat call = .ok t') :
    Ordered cfg t'.manager t'.order := by
  cases call <;> cases stepped
  case claim block prio dur => exact ordered.claimBlock block prio dur
  case release block toFront => exact ordered.releaseBlock paired.1 paired.2 toFront
  case exchange block other => exact ordered.swap paired.1 paired.2
  case refresh => exact ordered.refreshLoop plat _

/-- After every paired history, `getFreeBlock` takes the block that comes first in release order
among the free blocks of lowest priority of the level, and fails only if there is none. -/
theorem takes_first_of_lowest (platform : Platform) (config : WindowConfig) (level : CacheLevel)
    (reached : Run.Reaches (step platform) (Paired config) (initial config) t) :
    (t.manager.policyGetFreeBlock config level).Ends
      (fun taken => FirstOfLowest t.manager t.order level taken.1)
      fun _ => ∀ block ∈ t.order, t.manager.getCacheLevel block ≠ level := by
  have ordered : Ordered config t.manager t.order :=
    reached.invariant (.initial config) fun _ _ _ ordered paired => ordered_step ordered paired
  exact ordered.policyGetFreeBlock level

/-- Two blocks are claimed; the first is released behind the free ones, the second before them. -/
theorem takes_first_of_lowest_front : ∃ t,
    Run.Reaches (step .plain) (Paired .fourBlocks) (initial .fourBlocks) t ∧
      t.order = [1, 2, 3, 0] ∧ (t.manager.policyGetFreeBlock .fourBlocks .primary).Ends
        (fun taken => FirstOfLowest t.manager t.order .primary taken.1)
        fun _ => ∀ block ∈ t.order, t.manager.getCacheLevel block ≠ .primary := by
  refine Exists.imp (fun t checked => ⟨checked.1, checked.2, ?_⟩) (Run.exists_reaches
    [.claim 0 none none, .claim 1 none none, .release 0 false, .release 1 true]
    (by decide +kernel))
  exact takes_first_of_lowest .plain .fourBlocks .primary checked.1

end FollowedPolicy

/-! ## Retention that ends -/

namespace WindowBlockManager

open PriorityQueue

variable {plat : Platform} {s : WindowBlockManager} {block : BlockId}

/-- The first key of `ExpiringBlockComparator`; no time comes before every time. -/
def expiry (s : WindowBlockManager) (block : BlockId) : Nat :=
  ((s.expirationTime block).map (· + 1)).getD 0

theorem heapBegin_eq (heap : List BlockId) :
    s.heapBegin plat heap = (pop (s.expiresBefore plat) heap).map Prod.fst := by
  induction heap with
  | nil => rfl
  | cons block rest ih =>
    rw [heapBegin, pop, ih]
    cases pop (s.expiresBefore plat) rest with
    | none => rfl
    | some popped =>
      dsimp only [Option.map_some]
      split <;> rfl

theorem heapBegin_none {heap : List BlockId} (none : s.heapBegin plat heap = none) : heap = [] := by
  rw [heapBegin_eq, Option.map_eq_none_iff] at none
  exact eq_nil_of_pop none

/-- The first block of the heap expires first. -/
theorem heapBegin_min {heap : List BlockId} (first : s.heapBegin plat heap = some block) :
    block ∈ heap ∧ ∀ other ∈ heap, s.expiry block ≤ s.expiry other := by
  rw [heapBegin_eq, Option.map_eq_some_iff] at first
  obtain ⟨⟨_, others⟩, popped, rfl⟩ := first
  refine ⟨(perm_of_pop popped).mem_iff.mpr mem_cons_self, le_of_pop popped fun one two => ?_⟩
  split
  · rename_i before
    simp only [expiresBefore, Bool.or_eq_true, Bool.and_eq_true, decide_eq_true_eq, beq_iff_eq]
      at before
    exact before.elim Nat.le_of_lt fun tie => Nat.le_of_eq tie.1
  · rename_i after
    simp only [expiresBefore, Bool.or_eq_true, decide_eq_true_eq, not_or] at after
    exact Nat.le_of_not_lt after.1

/-- What is left in the heap by `refresh` expires after the time at which it began. -/
theorem refreshLoop_pending (steady : Monotone plat.clock) {rounds time : Nat}
    (enough : s.expiringBlockHeap.length = rounds)
    (pending : block ∈ (refreshLoop plat rounds s).expiringBlockHeap)
    (expires : s.expirationTime block = some time) : plat.clock s.clockReads < time := by
  induction rounds generalizing s with
  | zero =>
    rw [length_eq_zero_iff] at enough
    unfold refreshLoop at pending
    rw [enough] at pending
    cases pending
  | succ rounds ih =>
    unfold refreshLoop at pending
    cases first : s.heapBegin plat s.expiringBlockHeap with
    | none =>
      rw [first, heapBegin_none first] at pending
      cases pending
    | some head =>
      obtain ⟨mem, least⟩ := heapBegin_min first
      rw [first] at pending
      dsimp only at pending
      split at pending
      · rename_i later
        have order := least block pending
        cases known : s.expirationTime head with
        | none => simp [known] at later
        | some other =>
          simp only [known, Option.any_some, decide_eq_true_eq] at later
          simp only [expiry, known, expires, Option.map_some, Option.getD_some] at order
          omega
      · have shorter := length_erase_of_mem mem
        rw [enough] at shorter
        exact Nat.lt_of_le_of_lt (steady (Nat.le_succ _)) (ih shorter pending expires)

end WindowBlockManager

namespace FollowedPolicy

variable {cfg : WindowConfig} {plat : Platform} {t t' : FollowedPolicy} {block : BlockId}
  {dur : Nat}

/-- A claim without a priority is not made of a block whose priority has a duration. -/
def Renews (t : FollowedPolicy) : PolicyCall → Prop
  | .claim block none _ =>
    t.assigned block = none ∨ t.manager.priority block = kDefaultRetentionPriority
  | _ => True

instance (t : FollowedPolicy) : (call : PolicyCall) → Decidable (t.Renews call)
  | .claim _ none _ => inferInstanceAs (Decidable (_ ∨ _))
  | .claim _ (some _) _ | .release _ _ | .exchange _ _ | .refresh => isTrue trivial

/-- A block keeps the duration of its priority, and is in the heap while it is free. -/
structure Timed (t : FollowedPolicy) : Prop where
  kept : ∀ {block dur}, t.assigned block = some dur →
    t.manager.priority block ≠ kDefaultRetentionPriority → t.manager.durationMs block = some dur
  pending : ∀ {block dur}, block ∈ t.order → t.assigned block = some dur →
    t.manager.priority block ≠ kDefaultRetentionPriority →
      block ∈ t.manager.expiringBlockHeap ∧
        t.manager.expirationTime block = some (t.releasedAt block + dur)

section

variable (timed : t.Timed)
include timed

theorem Timed.claim {prio : Option RetentionPriority} {dur : Option Nat}
    (renews : t.Renews (.claim block prio dur))
    (stepped : t.step plat (.claim block prio dur) = .ok t') : t'.Timed := by
  cases stepped
  have others : ∀ {other}, other ≠ block →
      (if prio.isSome then update t.assigned block dur else t.assigned) other = t.assigned other ∧
        (t.manager.claimBlock block prio dur).priority other = t.manager.priority other := by
    intro other ne
    refine ⟨?_, update_of_ne ne _ _⟩
    split
    · exact update_of_ne ne _ _
    · rfl
  constructor
  · intro other given assigned raised
    by_cases same : other = block
    · subst same
      cases prio with
      | none =>
        dsimp only [claimBlock] at raised
        rw [update_self] at raised
        rcases renews with untimed | default
        · exact absurd (untimed.symm.trans assigned) (by simp)
        · exact absurd default raised
      | some prio =>
        change update t.assigned other dur other = some given at assigned
        rw [update_self] at assigned
        exact (update_self _ _ _).trans assigned
    · dsimp only at assigned raised
      rw [(others same).1] at assigned
      rw [(others same).2] at raised
      exact (update_of_ne same _ _).trans (timed.kept assigned raised)
  · intro other given mem assigned raised
    obtain ⟨mem, ne⟩ := mem_filter.mp mem
    have ne : other ≠ block := by simpa using ne
    dsimp only at assigned raised
    rw [(others ne).1] at assigned
    rw [(others ne).2] at raised
    obtain ⟨queued, expires⟩ := timed.pending mem assigned raised
    exact ⟨(mem_erase_of_ne ne).mpr queued, expires⟩

theorem Timed.release {toFront : Bool} (absent : block ∉ t.order)
    (stepped : t.step plat (.release block toFront) = .ok t') : t'.Timed := by
  cases stepped
  refine ⟨timed.kept, ?_⟩
  intro other given mem assigned raised
  dsimp only [releaseBlock]
  by_cases same : other = block
  · subst same
    have duration := timed.kept assigned raised
    have expires : t.manager.expires other = true := by
      simp only [WindowBlockManager.expires, duration, Option.isSome_some,
        Bool.true_and, bne_iff_ne]
      exact raised
    simp [expires, duration]
  · have mem : other ∈ t.order := by
      cases toFront <;> simpa [same] using mem
    obtain ⟨queued, expires⟩ := timed.pending mem assigned raised
    rw [update_of_ne same]
    split
    · exact ⟨mem_insert_of_mem queued, (update_of_ne same _ _).trans expires⟩
    · exact ⟨queued, expires⟩

end

/-- `refresh` changes priorities to the default only, and takes only such blocks off the heap. -/
theorem refresh_keeps (plat : Platform) (s : WindowBlockManager) :
    (s.refresh plat).durationMs = s.durationMs ∧
      (s.refresh plat).expirationTime = s.expirationTime ∧
      ∀ block, (s.refresh plat).priority block ≠ kDefaultRetentionPriority →
        s.priority block ≠ kDefaultRetentionPriority ∧
          (block ∈ s.expiringBlockHeap → block ∈ (s.refresh plat).expiringBlockHeap) := by
  refine refresh_invariant (fun s' : WindowBlockManager => s'.durationMs = s.durationMs ∧
    s'.expirationTime = s.expirationTime ∧ ∀ block, s'.priority block ≠ kDefaultRetentionPriority →
      s.priority block ≠ kDefaultRetentionPriority ∧
        (block ∈ s.expiringBlockHeap → block ∈ s'.expiringBlockHeap)) (fun _ => id) ?_
    ⟨rfl, rfl, fun _ raised => ⟨raised, id⟩⟩
  rintro s' expired ⟨durations, times, kept⟩
  refine ⟨durations, times, fun block raised => ?_⟩
  have ne : block ≠ expired := by
    rintro rfl
    exact raised (update_self _ _ _)
  rw [show (s'.expireBlock expired).priority block = s'.priority block from
    update_of_ne ne _ _] at raised
  exact ⟨(kept block raised).1, fun mem => (mem_erase_of_ne ne).mpr ((kept block raised).2 mem)⟩

theorem mem_foldl_demote (blocks order : List BlockId) (block : BlockId) :
    block ∈ blocks.foldl demote order ↔ block ∈ order := by
  refine foldl_invariant (fun now => block ∈ now ↔ block ∈ order) ?_ Iff.rfl
  intro now item _ same
  rw [← same]
  unfold demote
  split
  · rename_i mem
    by_cases equal : block = item
    · simp [equal, mem]
    · simp [equal]
  · rfl

theorem Timed.refresh (timed : t.Timed) (plat : Platform)
    (stepped : t.step plat .refresh = .ok t') : t'.Timed := by
  cases stepped
  obtain ⟨durations, times, kept⟩ := refresh_keeps plat t.manager
  constructor
  · intro block given assigned raised
    dsimp only
    rw [durations]
    exact timed.kept assigned (kept block raised).1
  · intro block given mem assigned raised
    obtain ⟨before, stays⟩ := kept block raised
    obtain ⟨queued, expires⟩ := timed.pending ((mem_foldl_demote _ _ _).mp mem) assigned before
    exact ⟨stays queued, (congrFun times block).trans expires⟩

theorem Timed.step (timed : t.Timed) {call : PolicyCall} (paired : t.Paired cfg call)
    (renews : t.Renews call) (stepped : t.step plat call = .ok t') : t'.Timed := by
  cases call with
  | claim block prio dur => exact timed.claim renews stepped
  | release block toFront => exact timed.release paired.2 stepped
  | exchange block other =>
    cases stepped
    exact ⟨timed.kept, timed.pending⟩
  | refresh => exact timed.refresh plat stepped

theorem Timed.initial (cfg : WindowConfig) : (initial cfg).Timed := by
  constructor
  · intro block dur assigned
    cases assigned
  · intro block dur free assigned
    cases assigned

/-- A free block whose priority was assigned with a duration is in the default queue of its level
after each `refresh` that begins once the duration has passed since its release. -/
theorem timed_priority_expires (platform : Platform) (steady : Monotone platform.clock)
    (config : WindowConfig)
    (reached : Run.Reaches (step platform) (fun t call => t.Paired config call ∧ t.Renews call)
      (initial config) t) {block : BlockId} {durationMs : Nat} (free : block ∈ t.order)
    (assigned : t.assigned block = some durationMs)
    (due : t.releasedAt block + durationMs ≤ platform.clock t.manager.clockReads) :
    (t.manager.refresh platform).priority block = kDefaultRetentionPriority ∧
      block ∈ ((t.manager.refresh platform).freeQueues ((t.manager.refresh platform).getCacheLevel
        block) kDefaultRetentionPriority).map FreeNode.block := by
  let Inv (t : FollowedPolicy) := Ordered config t.manager t.order ∧ t.Timed
  have inv : Inv t := by
    refine reached.invariant ⟨.initial config, .initial config⟩ ?_
    intro before call after inv allowed stepped
    exact ⟨ordered_step inv.1 allowed.1 stepped, inv.2.step allowed.1 allowed.2 stepped⟩
  have ordered := inv.1.refreshLoop platform t.manager.expiringBlockHeap.length
  have timed := inv.2.refresh platform rfl
  have default : (t.manager.refresh platform).priority block = kDefaultRetentionPriority := by
    by_contra raised
    obtain ⟨queued, expires⟩ := timed.pending ((mem_foldl_demote _ _ _).mpr free) assigned raised
    have later := refreshLoop_pending steady rfl queued
      ((congrFun (refresh_keeps platform t.manager).2.1 block).symm.trans expires)
    exact absurd due (Nat.not_le_of_lt later)
  refine ⟨default, ?_⟩
  have queue := ordered.queues ((t.manager.refresh platform).getCacheLevel block)
    kDefaultRetentionPriority
  rw [show refreshLoop platform _ t.manager = t.manager.refresh platform from rfl] at queue
  rw [queue, mem_filter]
  exact ⟨(mem_foldl_demote _ _ _).mpr free, decide_eq_true ⟨rfl, default⟩⟩

/-- A window with one secondary block. -/
def oneSecondary : WindowConfig := { WindowConfig.fourBlocks with numSecondaryBlocks := 1 }

/-- A block is claimed at a high priority for one unit of time, and released. -/
def timedRelease (priority : RetentionPriority) : List PolicyCall :=
  [.claim 0 (some priority) (some 1), .release 0 false]

theorem timed_priority_expires_once : ∃ t,
    Run.Reaches (step .plain) (fun t call => t.Paired oneSecondary call ∧ t.Renews call)
      (initial oneSecondary) t ∧ t.manager.priority 0 = 80 ∧
      (t.manager.refresh .plain).priority 0 = kDefaultRetentionPriority := by
  obtain ⟨t, reached, free, assigned, due, raised⟩ : ∃ t, Run.Reaches (step .plain)
      (fun t call => t.Paired oneSecondary call ∧ t.Renews call) (initial oneSecondary) t ∧
      0 ∈ t.order ∧ t.assigned 0 = some 1 ∧
      t.releasedAt 0 + 1 ≤ Platform.plain.clock t.manager.clockReads ∧ t.manager.priority 0 = 80 :=
    Run.exists_reaches (timedRelease 80) (by decide +kernel)
  exact ⟨t, reached, raised,
    (timed_priority_expires .plain (fun _ _ le => le) oneSecondary reached free assigned due).1⟩

/-- The block is offloaded before the duration has passed, as in `offloadForReuse`; time passes with
the release of another block. -/
def timedOffload (priority : RetentionPriority) : List PolicyCall :=
  timedRelease priority ++ [.claim 0 none none, .claim 4 (some kDefaultRetentionPriority) none,
    .exchange 0 4, .release 0 false, .claim 1 (some priority) (some 5), .release 1 false]

/-- The offloaded block keeps its priority when the duration has passed. -/
theorem offloaded_keeps_priority : ∃ t,
    Run.Reaches (step .plain) (Paired oneSecondary) (initial oneSecondary) t ∧
      0 ∈ t.order ∧ t.assigned 0 = some 1 ∧
      t.releasedAt 0 + 1 ≤ Platform.plain.clock t.manager.clockReads ∧
      (t.manager.refresh .plain).priority 0 = 80 :=
  Run.exists_reaches (timedOffload 80) (by decide +kernel)

end FollowedPolicy

end TrtLlm
