import Mathlib.Algebra.Ring.Int.Defs
import Mathlib.Data.Finset.Card
import TrtLlm.KvCache.FreeQueues
import TrtLlm.Scheduler.CapacityScheduler

/-! # Scheduling for maximum utilization

When a request does not fit, the last one that was started is paused. What a pause frees is tried
out on a copy of the reference counts. The copy is exact, so what the scheduled requests need is
there once the paused ones are removed, also when blocks are shared.
-/

namespace TrtLlm

open LlmRequest (phase_of_generating requestId)

open WindowBlockManager List

namespace WindowBlockManager

/-! ## Blocks that removed sequences free -/

/-- The blocks whose references are all among the released ones. -/
def freed (refCount : BlockId → Nat) (released : List BlockId) : Nat :=
  (released.toFinset.filter fun block => released.count block = refCount block).card

/-- The references that the sequences of some requests hold. -/
def allocatedTo (s : WindowBlockManager) (requests : List LlmRequest) : List BlockId :=
  requests.flatMap fun req => s.allocated req.requestId

/-- How many blocks are freed by removing the sequences of some requests. -/
def freedBlocks (s : WindowBlockManager) (requests : List LlmRequest) : Nat :=
  freed s.refCount (s.allocatedTo requests)

/-- The references of a block account for the sequences that list it. -/
structure Accounted (s : WindowBlockManager) : Prop where
  referenced : ∀ block,
    (s.sequences.total fun _ sequence => sequence.allocatedBlocks.count block) ≤ s.refCount block
  numFree_nonneg : 0 ≤ s.numFreeBlocksPerLevel .primary

variable {s : WindowBlockManager} {refCount : BlockId → Nat} {released : List BlockId}
  {block : BlockId} {scheduling : Scheduling}

/-- A released reference frees the block if it is the last one. -/
theorem freed_append (more : released.count block < refCount block) :
    freed refCount (released ++ [block]) =
      freed refCount released + if released.count block + 1 = refCount block then 1 else 0 := by
  unfold freed
  have cnt : ∀ other, (released ++ [block]).count other =
      released.count other + if other = block then 1 else 0 := by
    intro other
    by_cases same : other = block
    · simp [same]
    · simp [same, Ne.symm same]
  have unfreed : block ∉ released.toFinset.filter fun other =>
      released.count other = refCount other := by
    rw [Finset.mem_filter]
    exact fun mem => absurd mem.2 (Nat.ne_of_lt more)
  split
  · rename_i last
    rw [← Finset.card_insert_of_notMem unfreed]
    congr 1
    ext other
    by_cases same : other = block
    · simp [cnt, same, last]
    · simp [cnt, same]
  · rename_i shared
    rw [Nat.add_zero]
    congr 1
    ext other
    by_cases same : other = block
    · simp [cnt, same, shared, Nat.ne_of_lt more]
    · simp [cnt, same]

/-- Some sequence lists the block. -/
def listed (s : WindowBlockManager) (block : BlockId) : Bool :=
  s.sequences.entries.any fun entry => entry.2.allocatedBlocks.contains block

theorem listed_of_mem_allocated {rid : RequestId}
    (mem : block ∈ s.allocated rid) : s.listed block = true := by
  unfold allocated at mem
  cases found : s.sequences.lookup rid with
  | none => simp [found] at mem
  | some seq =>
    rw [found] at mem
    refine any_eq_true.mpr ⟨⟨rid, seq⟩, AList.mem_lookup_iff.mp found, ?_⟩
    exact contains_iff_mem.mpr mem

/-- The sequences of different requests do not hold more references than there are. -/
theorem Accounted.count_le (accounted : s.Accounted) {requests : List LlmRequest}
    (nodup : (requests.map requestId).Nodup) (block : BlockId) :
    (s.allocatedTo requests).count block ≤ s.refCount block := by
  refine le_trans (le_of_eq ?_) (le_trans (AList.sum_lookup_le_total
    (fun _ seq => seq.allocatedBlocks.count block) nodup s.sequences)
    (accounted.referenced block))
  rw [allocatedTo, count_flatMap, map_map]
  refine congrArg List.sum (map_congr_left fun req _ => ?_)
  simp only [Function.comp_apply, allocated]
  cases s.sequences.lookup req.requestId with
  | none => rfl
  | some seq => rfl

/-- The scheduler's copy of the reference counts after some references were released. -/
structure Simulates (s : WindowBlockManager) (released : List BlockId) (scheduling : Scheduling) :
    Prop where
  refCount : ∀ block, s.listed block = true →
    scheduling.refCount block + released.count block = s.refCount block
  numFreeBlocks :
    scheduling.numFreeBlocks = s.numFreeBlocksPerLevel .primary + freed s.refCount released

theorem Simulates.start (left : BlockId → Nat) : Simulates s [] (s.startScheduling left) where
  refCount block isListed := by
    change (if s.listed block = true then s.refCount block else left block) + 0 = _
    rw [if_pos isListed, Nat.add_zero]
  numFreeBlocks := by
    change s.numFreeBlocksPerLevel .primary = _ + ((0 : Nat) : Int)
    omega

theorem Simulates.releaseBlock (simulates : Simulates s released scheduling)
    (isListed : s.listed block = true) (more : released.count block < s.refCount block) :
    ∃ next, schedulingReleaseBlock scheduling block = .ok next ∧
      Simulates s (released ++ [block]) next ∧ scheduling.numFreeBlocks ≤ next.numFreeBlocks := by
  have here := simulates.refCount block isListed
  have pos : 0 < scheduling.refCount block := by omega
  unfold schedulingReleaseBlock
  rw [if_pos pos]
  refine ⟨_, rfl, ⟨?_, ?_⟩, ?_⟩
  · intro other otherListed
    have before := simulates.refCount other otherListed
    rw [count_append, count_singleton]
    by_cases same : other = block
    · subst same
      simp only [Function.update_self, beq_self_eq_true, ↓reduceIte]
      omega
    · simp only [Function.update_of_ne same, beq_eq_false_iff_ne.mpr (Ne.symm same),
        Bool.false_eq_true, ↓reduceIte]
      exact before
  · rw [freed_append more]
    have last : scheduling.refCount block - 1 = 0 ↔
        released.count block + 1 = s.refCount block := by
      omega
    simp only [last, simulates.numFreeBlocks]
    split <;> omega
  · dsimp only
    split <;> omega

theorem Simulates.releaseBlocks {blocks : List BlockId}
    (simulates : Simulates s released scheduling)
    (areListed : ∀ block ∈ blocks, s.listed block = true)
    (enough : ∀ block, (released ++ blocks).count block ≤ s.refCount block) :
    ∃ next, blocks.foldlM schedulingReleaseBlock scheduling = .ok next ∧
      Simulates s (released ++ blocks) next ∧ scheduling.numFreeBlocks ≤ next.numFreeBlocks := by
  induction blocks generalizing released scheduling with
  | nil => exact ⟨scheduling, rfl, by rwa [append_nil], le_refl _⟩
  | cons block rest ih =>
    have more : released.count block < s.refCount block := by
      have bound := enough block
      rw [count_append, count_cons_self] at bound
      omega
    obtain ⟨next, first, simulates, grows⟩ :=
      simulates.releaseBlock (areListed block mem_cons_self) more
    obtain ⟨final, others, done, growsOn⟩ := ih simulates
      (forall_mem_cons.mp areListed).2
      (by simpa using enough)
    refine ⟨final, ?_, by simpa using done, le_trans grows growsOn⟩
    rw [foldlM_cons, first]
    exact others

end WindowBlockManager

/-- The manager has the sequence of a request, in its records and in its window. -/
def OneWindow.HasSequence (v : OneWindow) (requestId : RequestId) : Prop :=
  (v.sequences.lookup requestId).isSome ∧ (v.window.sequences.lookup requestId).isSome

namespace MaxUtilizationScheduler

variable {sched : MaxUtilizationScheduler} {plat : Platform} {reuse : Bool}
  {peftCacheManager : Option PeftCacheManager} {cfg : WindowConfig} {v : OneWindow}

/-! ## The search for a victim -/

theorem lastStarted_none {requests : List LlmRequest} (found : sched.lastStarted requests = none) :
    ∀ req ∈ requests, sched.startedReq req = false := by
  induction requests with
  | nil => exact fun _ mem => absurd mem not_mem_nil
  | cons req rest ih =>
    unfold lastStarted at found
    split at found
    · cases found
    · rename_i later
      split at found
      · cases found
      · rename_i unstarted
        intro other mem
        rcases mem_cons.mp mem with rfl | inside
        · exact Bool.eq_false_iff.mpr unstarted
        · exact ih later other inside

variable {before : List LlmRequest} {victim : LlmRequest}

theorem lastStarted_some {requests : List LlmRequest}
    (found : sched.lastStarted requests = some (before, victim)) :
    ∃ after, requests = before ++ victim :: after ∧ sched.startedReq victim = true ∧
      ∀ req ∈ after, sched.startedReq req = false := by
  induction requests generalizing before with
  | nil => cases found
  | cons req rest ih =>
    unfold lastStarted at found
    split at found
    · rename_i inner _ later
      cases found
      obtain ⟨after, split, started, others⟩ := ih later
      exact ⟨after, by rw [split]; rfl, started, others⟩
    · rename_i later
      split at found
      · rename_i started
        cases found
        exact ⟨rest, rfl, started, lastStarted_none later⟩
      · cases found

/-! ## Skipping -/

theorem findNewContextBlock_total (plat : Platform) (cfg : WindowConfig) (v : OneWindow)
    (req : LlmRequest) : ∃ block, (v.manager cfg).findNewContextBlock plat req = .ok block := by
  simp only [KVCacheManager.findNewContextBlock, OneWindow.manager,
    WindowBlockManager.findNewContextBlock, chopVectorIntoBlocks, le_refl, ↓reduceIte]
  exact ⟨_, rfl⟩

/-- Whether to skip is decided, and a started request is not skipped. -/
theorem beneficialToSkip_total (plat : Platform) (reuse : Bool)
    (cfg : WindowConfig) (v : OneWindow) (sched : MaxUtilizationScheduler)
    (req : LlmRequest) (contributed : List BlockKey) :
    ∃ skip next, beneficialToSkip plat (v.manager cfg) reuse req contributed =
      .ok (skip, next) ∧ (sched.startedReq req = true → skip = false) := by
  unfold beneficialToSkip
  split
  · rename_i first
    have unstarted : sched.startedReq req = true → False := by
      simp only [Bool.and_eq_true] at first
      simp only [startedReq, first, Bool.and_eq_true, Bool.or_eq_true, Bool.not_true,
        Bool.and_false, Bool.false_eq_true, false_or, and_imp]
      intro _ generating
      rw [(phase_of_generating generating).1] at first
      exact Bool.false_ne_true first.1.1
    obtain ⟨block, found⟩ := findNewContextBlock_total plat cfg v req
    rw [found]
    cases block with
    | none => exact ⟨false, contributed, rfl, fun _ => rfl⟩
    | some newContextBlock =>
      change ∃ skip next, (if newContextBlock ∈ contributed then
        pure (true, contributed) else pure (false, contributed.insert newContextBlock) :
          Except Failure (Bool × List BlockKey)) = .ok (skip, next) ∧ _
      split
      · exact ⟨true, contributed, rfl, fun started => (unstarted started).elim⟩
      · exact ⟨false, _, rfl, fun _ => rfl⟩
  · exact ⟨false, contributed, rfl, fun _ => rfl⟩

theorem prefill_total (activeRequests : List LlmRequest) :
    ∃ contributed, prefillWithChunkedContextsAlreadyExecuting plat (v.manager cfg)
      reuse activeRequests = .ok contributed := by
  refine foldlM_total (fun _ => True) _ activeRequests ?_ trivial
  intro contributed req _ _
  split
  · obtain ⟨block, found⟩ := findNewContextBlock_total plat cfg v req
    rw [found]
    cases block with
    | none => exact ⟨contributed, rfl, trivial⟩
    | some newContextBlock => exact ⟨_, rfl, trivial⟩
  · exact ⟨contributed, rfl, trivial⟩

/-! ## One request -/

/-- The blocks that a request needs for its next step. -/
def needed (scheduler : MaxUtilizationScheduler) (config : WindowConfig) (v : OneWindow)
    (req : LlmRequest) : Except Failure Int :=
  (v.manager config).getNeededBlocksOneStep req scheduler.twoStepsLookAhead config

theorem startedReq_of_generating {req : LlmRequest} (schedulable : sched.schedulable req = true)
    (generating : req.isGenerationInProgressState = true) : sched.startedReq req = true := by
  unfold BaseCapacityScheduler.schedulable at schedulable
  rw [(phase_of_generating generating).2, Bool.false_or] at schedulable
  rw [startedReq, schedulable, generating, Bool.or_true, Bool.and_self]

theorem startedReq_of_unschedulable {req : LlmRequest}
    (unschedulable : (!sched.schedulable req) = true) : sched.startedReq req = false := by
  simp only [BaseCapacityScheduler.schedulable, Bool.not_eq_true', Bool.or_eq_false_iff]
    at unschedulable
  rw [startedReq, unschedulable.2, Bool.false_and]

theorem needed_total {req : LlmRequest} (schedulable : sched.schedulable req = true)
    (live : sched.startedReq req = true → v.HasSequence req.requestId) :
    ∃ count, needed sched cfg v req = .ok count := by
  unfold needed KVCacheManager.getNeededBlocksOneStep
  split
  · exact ⟨_, rfl⟩
  · rename_i later
    split
    · rename_i generating
      split
      · exact ⟨0, rfl⟩
      · have started := startedReq_of_generating schedulable generating
        obtain ⟨seq, found⟩ := Option.isSome_iff_exists.mp (live started).1
        have known : (v.manager cfg).getSequence req.requestId = .ok seq := by
          simp only [KVCacheManager.getSequence, OneWindow.manager, found]
        rw [known]
        dsimp only [bind, Except.bind]
        generalize (if sched.twoStepsLookAhead = true then 2 else 1) = steps
        split
        · exact ⟨_, rfl⟩
        · exact ⟨_, rfl⟩
    · exact ⟨0, rfl⟩

/-- What the scheduled requests need is counted, and would be free without the paused ones. -/
structure Fits (scheduler : MaxUtilizationScheduler) (config : WindowConfig) (v : OneWindow)
    (state : State) : Prop where
  room : state.scheduledRequests.length ≤ scheduler.maxNumRequests
  window : ∃ scheduling total,
    state.windows = [⟨config, v.window, scheduling, total⟩] ∧
    Simulates v.window (v.window.allocatedTo state.pausedRequests) scheduling ∧
    total ≤ scheduling.numFreeBlocks ∧
    ∃ counts, state.scheduledRequests.mapM (needed scheduler config v) = .ok counts ∧
      counts.sum = total

variable {st : State} {req : LlmRequest}

/-- A request is scheduled if it fits, and otherwise the state stays as it is. -/
theorem Fits.trySchedule (fits : Fits sched cfg v st) (peftCacheManager : Option PeftCacheManager)
    (counted : ∃ count, needed sched cfg v req = .ok count) :
    sched.trySchedulingRequestMaxUtilization (v.manager cfg) peftCacheManager req st = .ok none ∨
      ∃ next, sched.trySchedulingRequestMaxUtilization (v.manager cfg) peftCacheManager req
          st = .ok (some next) ∧ Fits sched cfg v next ∧
        next.scheduledRequests = st.scheduledRequests ++ [req] ∧
        next.pausedRequests = st.pausedRequests := by
  obtain ⟨room, scheduling, total, windows, simulates, _, cnt, before, sum⟩ := fits
  obtain ⟨count, needs⟩ := counted
  unfold trySchedulingRequestMaxUtilization
  split
  · rename_i free
    have prepared : sched.prepareNewNumberOfBlocksIfWeEndUpScheduling (v.manager cfg) req
        st.windows = .ok (if total + count ≤ scheduling.numFreeBlocks then
          some [⟨cfg, v.window, scheduling, total + count⟩] else none) := by
      rw [windows]
      change (needed sched cfg v req >>= _) = _
      rw [needs]
      dsimp only [bind, Except.bind]
      split <;> rfl
    rw [prepared]
    dsimp only [bind, Except.bind]
    split
    · rename_i next _ enough _
      split at enough
      · rename_i below
        cases enough
        refine .inr ⟨_, rfl, ⟨?_, scheduling, total + count, rfl, simulates, below,
          cnt ++ [count], ?_, ?_⟩, rfl, rfl⟩
        · rw [length_append, length_singleton]
          exact free
        · rw [mapM_append, before, mapM_cons, needs]
          rfl
        · rw [sum_append, sum_singleton, sum]
      · cases enough
    · exact .inl rfl
  · exact .inl rfl

/-- A request with a sequence can be paused. -/
theorem Fits.pause (fits : Fits sched cfg v st) (accounted : v.window.Accounted)
    (live : v.HasSequence victim.requestId)
    (nodup : ((st.pausedRequests ++ [victim]).map requestId).Nodup) :
    ∃ windows, schedulingRemoveSequence victim.requestId st.windows = .ok windows ∧
      Fits sched cfg v
        { st with windows, pausedRequests := st.pausedRequests ++ [victim] } := by
  obtain ⟨room, scheduling, total, windows, simulates, below, cnt, needs, sum⟩ := fits
  obtain ⟨seq, found⟩ := Option.isSome_iff_exists.mp live.2
  have blocks : v.window.allocated victim.requestId = seq.allocatedBlocks := by
    rw [allocated, found]
    rfl
  have together : v.window.allocatedTo (st.pausedRequests ++ [victim]) =
      v.window.allocatedTo st.pausedRequests ++ seq.allocatedBlocks := by
    rw [allocatedTo, flatMap_append, flatMap_singleton, blocks]
    rfl
  have enough := accounted.count_le nodup
  rw [together] at enough
  obtain ⟨next, released, simulates, grows⟩ := simulates.releaseBlocks
    (fun block mem => listed_of_mem_allocated (blocks ▸ mem)) enough
  refine ⟨[⟨cfg, v.window, next, total⟩], ?_, room, next, total, rfl, ?_, ?_, cnt, needs, sum⟩
  · rw [windows, schedulingRemoveSequence, mapM_cons]
    simp only [schedulingReleaseBlocks, sequence?, found]
    change ((seq.allocatedBlocks.foldlM schedulingReleaseBlock scheduling >>= _) >>= _) = _
    rw [released]
    rfl
  · rw [together]
    exact simulates
  · exact le_trans below grows

/-! ## The loop -/

/-- What the loop returns from a point on: of the requests that are left, it schedules some
and pauses some that come after them, the last one first. No started request is left out. -/
def Outcome (scheduler : MaxUtilizationScheduler) (config : WindowConfig) (v : OneWindow)
    (requests : List LlmRequest) (state : State) (result : Except Failure State) : Prop :=
  ∃ final scheduled paused, result = .ok final ∧ Fits scheduler config v final ∧
    final.scheduledRequests = state.scheduledRequests ++ scheduled ∧
    final.pausedRequests = state.pausedRequests ++ paused ∧
    (scheduled ++ paused.reverse).Sublist requests ∧
    ∀ req ∈ requests, scheduler.startedReq req = true → req ∈ scheduled ∨ req ∈ paused

variable {requests rest : List LlmRequest} {next : State} {res : Except Failure State}

theorem Outcome.stop (fits : Fits sched cfg v st)
    (unstarted : ∀ req ∈ requests, sched.startedReq req = false) :
    Outcome sched cfg v requests st (.ok st) := by
  refine ⟨st, [], [], rfl, fits, by simp, by simp, by simp, fun req mem started => ?_⟩
  rw [unstarted req mem] at started
  cases started

theorem Outcome.skip (unstarted : sched.startedReq req = false)
    (scheduledSame : next.scheduledRequests = st.scheduledRequests)
    (pausedSame : next.pausedRequests = st.pausedRequests)
    (outcome : Outcome sched cfg v rest next res) : Outcome sched cfg v (req :: rest) st res := by
  obtain ⟨final, scheduled, paused, returned, fits, first, second, order, complete⟩ := outcome
  refine ⟨final, scheduled, paused, returned, fits, scheduledSame ▸ first, pausedSame ▸ second,
    order.cons req, fun other mem started => ?_⟩
  rcases mem_cons.mp mem with rfl | inside
  · rw [unstarted] at started
    cases started
  · exact complete other inside started

theorem Outcome.schedule (added : next.scheduledRequests = st.scheduledRequests ++ [req])
    (pausedSame : next.pausedRequests = st.pausedRequests)
    (outcome : Outcome sched cfg v rest next res) : Outcome sched cfg v (req :: rest) st res := by
  obtain ⟨final, scheduled, paused, returned, fits, first, second, order, complete⟩ := outcome
  refine ⟨final, req :: scheduled, paused, returned, fits, ?_, pausedSame ▸ second,
    order.cons_cons req, fun other mem started => ?_⟩
  · rw [first, added, append_assoc, singleton_append]
  · rcases mem_cons.mp mem with rfl | inside
    · exact .inl mem_cons_self
    · exact (complete other inside started).imp (mem_cons_of_mem _) id

theorem Outcome.pause {after : List LlmRequest}
    (unstarted : ∀ req ∈ after, sched.startedReq req = false)
    (scheduledSame : next.scheduledRequests = st.scheduledRequests)
    (added : next.pausedRequests = st.pausedRequests ++ [victim])
    (outcome : Outcome sched cfg v before next res) :
    Outcome sched cfg v (before ++ victim :: after) st res := by
  obtain ⟨final, scheduled, paused, returned, fits, first, second, order, complete⟩ := outcome
  refine ⟨final, scheduled, victim :: paused, returned, fits, scheduledSame ▸ first, ?_, ?_,
    fun other mem started => ?_⟩
  · rw [second, added, append_assoc, singleton_append]
  · rw [reverse_cons, ← append_assoc]
    exact order.append ((nil_sublist after).cons_cons victim)
  · rcases mem_append.mp mem with inside | inside
    · exact (complete other inside started).imp id (mem_cons_of_mem _)
    · rcases mem_cons.mp inside with rfl | later
      · exact .inr mem_cons_self
      · rw [unstarted other later] at started
        cases started

/-- A victim is moved from the requests to the paused ones. -/
theorem nodup_of_victim {paused after : List LlmRequest}
    (nodup : ((paused ++ (before ++ victim :: after)).map requestId).Nodup) :
    ((paused ++ [victim]).map requestId).Nodup ∧
      (((paused ++ [victim]) ++ before).map requestId).Nodup := by
  have kept : (before ++ [victim]).Sublist (before ++ victim :: after) :=
    ((nil_sublist after).cons_cons victim).append_left before
  have moved : ((paused ++ [victim]) ++ before).Perm (paused ++ (before ++ [victim])) := by
    rw [append_assoc]
    exact (perm_append_comm).append_left paused
  have all := (moved.map requestId).nodup_iff.mpr
    (nodup.sublist ((kept.append_left paused).map _))
  exact ⟨all.sublist ((sublist_append_left _ before).map _), all⟩

theorem loop_outcome (plat : Platform) (reuse : Bool)
    (peftCacheManager : Option PeftCacheManager) (accounted : v.window.Accounted)
    (requests : List LlmRequest) (st : State) (fits : Fits sched cfg v st)
    (nodup : ((st.pausedRequests ++ requests).map requestId).Nodup)
    (live : ∀ req ∈ requests, sched.startedReq req = true → v.HasSequence req.requestId) :
    Outcome sched cfg v requests st (sched.loop plat reuse (v.manager cfg) peftCacheManager requests
        st) := by
  -- each round shortens the list of requests, from the front or from the end
  induction hlength : requests.length using Nat.strong_induction_on generalizing requests st with
  | _ length ih =>
  cases requests with
  | nil =>
    rw [loop]
    exact .stop fits fun _ mem => absurd mem not_mem_nil
  | cons req rest =>
    have shorter : rest.length < length := by rw [← hlength]; exact Nat.lt_succ_self _
    have distinctRest : ((st.pausedRequests ++ rest).map requestId).Nodup :=
      nodup.sublist (((sublist_cons_self req rest).append_left _).map _)
    have liveRest := fun other mem => live other (mem_cons_of_mem req mem)
    rw [loop]
    split
    · rename_i unschedulable
      refine .skip ?_ rfl rfl (ih _ shorter rest st fits distinctRest liveRest rfl)
      exact startedReq_of_unschedulable unschedulable
    · rename_i schedulable
      have single : (!(v.manager cfg).isVariableWindow) = true := rfl
      obtain ⟨skip, contributed, decided, keepsStarted⟩ := beneficialToSkip_total plat
        reuse cfg v sched req st.newlyContributedContextBlocks
      rw [if_pos single, decided]
      dsimp only [bind, Except.bind]
      have fitsNext : Fits sched cfg v
        { st with newlyContributedContextBlocks := contributed } := ⟨fits.room, fits.window⟩
      split
      · rename_i skipped
        refine .skip ?_ rfl rfl (ih _ shorter rest _ fitsNext distinctRest liveRest rfl)
        refine Bool.eq_false_iff.mpr fun started => ?_
        exact Bool.false_ne_true ((keepsStarted started).symm.trans skipped)
      · have counted : ∃ count, needed sched cfg v req = .ok count :=
          needed_total (by simpa using schedulable) (live req mem_cons_self)
        rcases fitsNext.trySchedule peftCacheManager counted with
          refused | ⟨next, accepted, fitsAfter, added, pausedSame⟩
        · rw [refused]
          dsimp only
          split
          · rename_i before victim found
            have fewer : before.length < length := hlength ▸ lastStarted_shorter sched found
            obtain ⟨after, split, started, unstarted⟩ := lastStarted_some found
            rw [split] at nodup live ⊢
            obtain ⟨distinctVictim, distinctBefore⟩ := nodup_of_victim nodup
            obtain ⟨windows, removed, fitsAfter⟩ :=
              fitsNext.pause accounted (live victim (by simp) started) distinctVictim
            rw [removed]
            refine Outcome.pause unstarted ?_ ?_ (ih _ fewer before _ fitsAfter distinctBefore
              (fun other mem => live other (mem_append_left _ mem)) rfl)
            · rfl
            · rfl
          · rename_i found
            exact .stop fitsNext (lastStarted_none found)
        · rw [accepted]
          exact .schedule added pausedSame (ih _ shorter rest next fitsAfter
            (pausedSame ▸ distinctRest) liveRest rfl)

/-- What one call promises of the requests it schedules and pauses. -/
structure Schedules (scheduler : MaxUtilizationScheduler) (config : WindowConfig) (v : OneWindow)
    (activeRequests scheduled paused : List LlmRequest) : Prop where
  scheduled_active : scheduled ⊆ activeRequests
  paused_active : paused ⊆ activeRequests
  scheduled_nodup : scheduled.Nodup
  paused_nodup : paused.Nodup
  disjoint : scheduled.Disjoint paused
  started_kept : ∀ req ∈ activeRequests, scheduler.startedReq req = true →
    req ∈ scheduled ∨ req ∈ paused
  room : scheduled.length ≤ scheduler.maxNumRequests
  /-- What the scheduled requests need in their next step is free once the paused ones are
  removed. -/
  blocks : ∃ counts, scheduled.mapM (fun req => (v.manager config).getNeededBlocksOneStep req
      scheduler.twoStepsLookAhead config) = .ok counts ∧
    counts.sum ≤ v.window.numFreeBlocksPerLevel .primary + v.window.freedBlocks paused

/-- One call returns, and every started request is either scheduled or paused. -/
theorem maxUtilization_schedules (scheduler : MaxUtilizationScheduler) (platform : Platform)
    (enableBlockReuse : Bool) (peftCacheManager : Option PeftCacheManager) (left : BlockId → Nat)
    (config : WindowConfig) (v : OneWindow) (accounted : v.window.Accounted)
    (activeRequests : List LlmRequest)
    (distinct : (activeRequests.map LlmRequest.requestId).Nodup)
    (live : ∀ req ∈ activeRequests, scheduler.startedReq req = true →
      v.HasSequence req.requestId) :
    ∃ scheduled paused,
      scheduler.schedule platform enableBlockReuse (v.manager config) peftCacheManager left
        activeRequests = .ok (scheduled, paused) ∧
      Schedules scheduler config v activeRequests scheduled paused := by
  obtain ⟨contributed, prefilled⟩ : ∃ contributed, prefillWithChunkedContextsAlreadyExecuting
      platform (v.manager config) enableBlockReuse activeRequests = .ok contributed :=
    prefill_total activeRequests
  let start : State := {
    windows := [⟨config, v.window, v.window.startScheduling left, 0⟩]
    newlyContributedContextBlocks := contributed }
  have fits : Fits scheduler config v start :=
    ⟨Nat.zero_le _, _, 0, rfl, .start left, accounted.numFree_nonneg, [], rfl, rfl⟩
  obtain ⟨final, scheduled, paused, returned, ⟨room, scheduling, total, _, simulates, below, counts,
    needs, sum⟩, first, second, order, complete⟩ := loop_outcome platform enableBlockReuse
      peftCacheManager accounted activeRequests start fits distinct live
  rw [List.nil_append] at first second
  have together := (distinct.of_map _).sublist order
  obtain ⟨nodupScheduled, nodupPaused, apart⟩ := List.nodup_append'.mp together
  refine ⟨scheduled, paused, ?_, {
    scheduled_active := fun req member => order.subset (List.mem_append_left _ member)
    paused_active := fun req member =>
      order.subset (List.mem_append_right _ (List.mem_reverse.mpr member))
    scheduled_nodup := nodupScheduled
    paused_nodup := List.nodup_reverse.mp nodupPaused
    disjoint := fun req inScheduled inPaused => apart inScheduled (List.mem_reverse.mpr inPaused)
    started_kept := complete
    room := first ▸ room
    blocks := ⟨counts, first ▸ needs, ?_⟩ }⟩
  · unfold schedule
    rw [prefilled]
    change (scheduler.loop platform enableBlockReuse (v.manager config) peftCacheManager
      activeRequests start >>= _) = _
    rw [returned, ← first, ← second]
    rfl
  · rw [sum, freedBlocks, ← second, ← simulates.numFreeBlocks]
    exact below

end MaxUtilizationScheduler

namespace Tracked

variable {plat : Platform} {reuse : Bool} {cfg : WindowConfig} {t : Tracked}

/-- The invariant of a followed run with full attention: no front block is removed. -/
def FullInv (config : WindowConfig) (t : Tracked) : Prop :=
  ∃ v : OneWindow, t.manager = v.manager config ∧
    v.CoreInv config (accounting config) t.outstanding [] ∧ v.front = fun _ => 0

/-- In a run that returns only its pins and keeps track of the free blocks, the references
account for the sequences. -/
theorem accounted_of_reaches (full : cfg.isSWA = false)
    (reached : Follows plat reuse (Tracked.initial [cfg]) t) :
    ∃ v : OneWindow, t.manager = v.manager cfg ∧ v.window.Accounted := by
  have inv : FullInv cfg t := by
    refine reached.invariant ⟨.initial cfg, rfl, .initial cfg _, rfl⟩ ?_
    rintro before op after ⟨v, same, core, unremoved⟩ ⟨returned, keeps⟩ stepped
    obtain ⟨v', output, same', outstanding, done, clean⟩ := step_oneWindow same keeps stepped
    exact ⟨v', same', outstanding ▸ core.step_owed id done returned clean,
      OneWindow.front_eq_zero_of_step full unremoved done⟩
  obtain ⟨v, same, core, unremoved⟩ := inv
  refine ⟨v, same, fun block => ?_, ?_⟩
  · have counted := core.inv.core.queue.refCount_eq block
    rw [unremoved] at counted
    have holders : held (fun _ => 0) v.window block ≤ v.window.refCount block := by omega
    simpa only [held, drop_zero] using holders
  · rw [(core.inv.core.exact trivial).counter]
    exact Int.natCast_nonneg _

end Tracked

/-- A prompt of four tokens, with the request in the state given. -/
def fourTokens (requestId : RequestId) (state : LlmRequestState) : LlmRequest where
  requestId := requestId
  state := state
  uniqueTokens := [⟨1, 0⟩, ⟨2, 0⟩, ⟨3, 0⟩, ⟨4, 0⟩]
  promptLen := 4
  maxNewTokens := 4
  contextCurrentPosition := if state = .contextInit then 0 else 4
  contextChunkSize := if state = .contextInit then 4 else 0

/-- Two sequences that fill the cache. -/
def fillCache : List KVCacheManager.Op :=
  [.addSequence 1 4 1 (some (fourTokens 1 .contextInit)),
    .addSequence 2 4 1 (some (fourTokens 2 .contextInit))]

/-- The sequences of both requests are there. -/
def haveSequences (t : Tracked) : Bool :=
  [1, 2].all fun requestId => (t.manager.sequences.lookup requestId).isSome &&
    t.manager.windows.all fun (_, window) => (window.sequences.lookup requestId).isSome

/-- Both requests need a block for their next token, and none is free. -/
theorem maxUtilization_schedules_fillCache : ∃ v scheduled paused,
    MaxUtilizationScheduler.schedule { maxNumRequests := 8 } .plain true
      (OneWindow.manager .fourBlocks v) none (fun _ => 0)
      [fourTokens 1 .generationInProgress, fourTokens 2 .generationInProgress] =
        .ok (scheduled, paused) ∧
    MaxUtilizationScheduler.Schedules { maxNumRequests := 8 } .fourBlocks v
      [fourTokens 1 .generationInProgress, fourTokens 2 .generationInProgress] scheduled
      paused := by
  have traced : (Run.trace (Tracked.step .plain true)
      (fun t op => t.ReturnsPins op ∧ t.KeepsTrack .plain true op) fillCache
      (Tracked.initial [.fourBlocks])).any haveSequences = true := by
    decide +kernel
  obtain ⟨t, reached, present⟩ := Run.exists_reaches_of_trace _ traced
  obtain ⟨v, same, accounted⟩ := Tracked.accounted_of_reaches rfl reached
  simp only [haveSequences, same, OneWindow.manager, List.all_cons, List.all_nil, Bool.and_true,
    Bool.and_eq_true] at present
  refine ⟨v, MaxUtilizationScheduler.maxUtilization_schedules _ _ _ _ _ _ v accounted _ ?_ ?_⟩
  · decide
  · intro req member _
    simp only [List.mem_cons, List.not_mem_nil, or_false] at member
    rcases member with rfl | rfl
    · exact present.1
    · exact present.2

end TrtLlm
