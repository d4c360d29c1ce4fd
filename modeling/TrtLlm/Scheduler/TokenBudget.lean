import TrtLlm.Scheduler.ChunkSizes

/-! # The token budget of a micro-batch

A batch stays within the number of requests and of tokens, whatever the active requests
are and whichever policy divides the contexts.
-/

namespace TrtLlm

open List

namespace MicroBatchScheduler

open LlmRequest

/-- The tokens that a request adds to a step: those of an encoder input, of a context, or
one for each beam and draft token. -/
def stepTokens (req : LlmRequest) : Nat :=
  if req.isEncoderInitState then req.encoderOutputLen
  else if req.isContextInitState then contextTokens req
  else req.getBeamWidthByIter.toOption.getD 0 + req.numDraftTokens

/-- A request in encoder phase processes no context. -/
theorem not_context_of_encoder {req : LlmRequest} (encoder : req.isEncoderInitState = true) :
    req.isContextInitState = false := by
  rw [isEncoderInitState, beq_iff_eq] at encoder
  rw [isContextInitState, encoder]
  rfl

theorem stepTokens_context {req : LlmRequest} (ctx : req.isContextInitState = true) :
    stepTokens req = contextTokens req := by
  have notEncoder : req.isEncoderInitState = false := by
    by_contra encoder
    rw [not_context_of_encoder (by simpa using encoder)] at ctx
    cases ctx
  rw [stepTokens, notEncoder, ctx]
  rfl

/-! ## Selection -/

/-- What holds after each request of the loop over the active requests. -/
structure Selection.Inv (scheduler : MicroBatchScheduler) (maxNumTokensRuntime : Option Nat)
    (allowed : LlmRequest → Prop) (selection : Selection) : Prop where
  tokens : selection.batchNumTokens =
    ((selection.contextRequests ++ selection.generationRequests).map stepTokens).sum
  within : ∀ limit ∈ maxNumTokensRuntime, selection.batchNumTokens ≤ limit
  encoders : ∀ req ∈ selection.contextRequests, req.isEncoderInitState = true
  contexts : ∀ req ∈ selection.contextsToBeChunked, req.isContextInitState = true ∧
    req.contextChunkSize = req.getContextRemainingLength
  fit : selection.allContextRequestsFit = true →
    selection.numChunkedTokens = (selection.contextsToBeChunked.map contextTokens).sum ∧
      ∀ req ∈ selection.contextsToBeChunked, ∀ length ∈ scheduler.maxContextLength,
        contextTokens req ≤ length
  ids : ∀ req, req ∈ selection.contextRequests ∨ req ∈ selection.generationRequests ∨
    req ∈ selection.contextsToBeChunked → allowed req

/-- What is said of a request stays true of it when the scheduler has changed it. -/
def Stable (allowed : LlmRequest → Prop) : Prop :=
  ∀ {before after}, allowed before → Rescheduled before after → allowed after

/-- Only requests in the encoder phase, and beam widths that cannot be read, make a call fail. -/
structure Faults (allowed : LlmRequest → Prop) (fails : Failure → Prop) : Prop where
  encoder : ∀ {req failure}, allowed req → req.isEncoderInitState = true → failure ≠ .diverges →
    fails failure
  beams : ∀ {req failure}, allowed req → req.isContextInitState = false →
    req.getBeamWidthByIter = .error failure → fails failure

/-- The number of requests that were taken. -/
def Selection.count (selection : Selection) : Nat :=
  selection.contextRequests.length + selection.generationRequests.length +
    selection.contextsToBeChunked.length

variable {sched : MicroBatchScheduler} {chunking : ContextChunkingConfig}
  {maxNumTokensRuntime : Option Nat} {allowed : LlmRequest → Prop} {fails : Failure → Prop}
  {selection : Selection} {req : LlmRequest}

/-- A request was taken or not. -/
def Selects (scheduler : MicroBatchScheduler) (maxNumTokensRuntime : Option Nat)
    (allowed : LlmRequest → Prop) (selection : Selection) : Selected → Prop
  | .skip | .stop => True
  | .take next => next.Inv scheduler maxNumTokensRuntime allowed ∧
      next.count = selection.count + 1 ∧ next.scheduledReqSize = selection.scheduledReqSize

theorem not_exceeds {numTokens : Nat} (fits : ¬exceeds maxNumTokensRuntime numTokens = true) :
    ∀ limit ∈ maxNumTokensRuntime, numTokens ≤ limit := by
  intro limit found
  cases found
  simpa [exceeds] using fits

theorem selectWhole_encoder (faults : Faults allowed fails)
    (inv : selection.Inv sched maxNumTokensRuntime allowed)
    (encoder : req.isEncoderInitState = true) (isAllowed : allowed req) :
    (sched.selectWhole maxNumTokensRuntime selection req req.encoderOutputLen).Ends
      (Selects sched maxNumTokensRuntime allowed selection) fails := by
  unfold selectWhole
  split
  · exact faults.encoder isAllowed encoder (fun same => nomatch same)
  · split
    · trivial
    · rename_i fits
      refine ⟨⟨?_, not_exceeds fits, ?_, inv.contexts, inv.fit, ?_⟩, ?_, rfl⟩
      · have one : stepTokens req = req.encoderOutputLen := if_pos encoder
        simp only [inv.tokens, map_append, sum_append, map_cons, map_nil,
          sum_cons, sum_nil, one]
        omega
      · exact forall_mem_append.mpr ⟨inv.encoders, forall_mem_singleton.mpr encoder⟩
      · intro other mem
        simp only [mem_append, mem_singleton] at mem
        rcases mem with (inside | rfl) | inside
        · exact inv.ids other (.inl inside)
        · exact isAllowed
        · exact inv.ids other (.inr inside)
      · simp only [Selection.count, length_append, length_singleton]
        omega

theorem selectContext_ends (stable : Stable allowed)
    (inv : selection.Inv sched maxNumTokensRuntime allowed)
    (ctx : req.isContextInitState = true) (isAllowed : allowed req) :
    (sched.selectContext selection req).Ends
      (Selects sched maxNumTokensRuntime allowed selection) fails := by
  let whole : LlmRequest := { req with contextChunkSize := req.getContextRemainingLength }
  have isContext : whole.isContextInitState = true := ctx
  unfold selectContext
  rw [setContextChunkSize_eq ctx (Int.natCast_nonneg _), Int.toNat_natCast, Nat.min_self]
  change (whole.isLastContextChunkChecked >>= _).Ends _ _
  rw [isLastContextChunkChecked_eq isContext]
  rw [getContextChunkSize_eq isContext]
  have tokens : (whole.contextChunkSize +
      if (whole.isLastContextChunk && whole.hasDraftTokens) = true
      then whole.numDraftTokens else 0) = contextTokens whole := by
    unfold contextTokens hasDraftTokens
    cases whole.isLastContextChunk with
    | false => rfl
    | true => by_cases none : whole.numDraftTokens = 0 <;> simp [none]
  dsimp only [bind, Except.bind]
  rw [tokens]
  refine ⟨⟨inv.tokens, inv.within, inv.encoders, ?_, ?_, ?_⟩, ?_, rfl⟩
  · exact forall_mem_append.mpr ⟨inv.contexts, forall_mem_singleton.mpr ⟨isContext, rfl⟩⟩
  · intro fits
    simp only [Bool.and_eq_true, Bool.not_eq_true'] at fits
    obtain ⟨counted, short⟩ := inv.fit fits.1
    refine ⟨?_, forall_mem_append.mpr ⟨short, forall_mem_singleton.mpr fun length found => ?_⟩⟩
    · rw [fits.2, counted, map_append, sum_append]
      rfl
    · have := fits.2
      rw [Option.mem_def.mp found] at this
      simpa using this
  · intro other mem
    simp only [mem_append, mem_singleton] at mem
    rcases mem with inside | inside | inside | rfl
    · exact inv.ids other (.inl inside)
    · exact inv.ids other (.inr (.inl inside))
    · exact inv.ids other (.inr (.inr inside))
    · exact stable isAllowed rfl
  · simp only [Selection.count, length_append, length_singleton]
    omega

theorem selectGeneration_ends (faults : Faults allowed fails)
    (inv : selection.Inv sched maxNumTokensRuntime allowed)
    (notEncoder : req.isEncoderInitState = false) (notContext : req.isContextInitState = false)
    (isAllowed : allowed req) : (selectGeneration maxNumTokensRuntime selection req).Ends
      (Selects sched maxNumTokensRuntime allowed selection) fails := by
  unfold selectGeneration
  cases width : req.getBeamWidthByIter with
  | error failure => exact faults.beams isAllowed notContext width
  | ok reqBeamWidth =>
    have tokens : stepTokens req = reqBeamWidth + req.numDraftTokens := by
      rw [stepTokens, notEncoder, notContext, width]
      rfl
    dsimp only [bind, Except.bind]
    split
    · trivial
    · rename_i fits
      split
      · trivial
      · refine ⟨⟨?_, not_exceeds fits, inv.encoders, inv.contexts, inv.fit, ?_⟩, ?_, rfl⟩
        · simp only [inv.tokens, map_append, sum_append, map_cons, map_nil,
            sum_cons, sum_nil, tokens]
          omega
        · intro other mem
          simp only [mem_append, mem_singleton] at mem
          rcases mem with inside | (inside | rfl) | inside
          · exact inv.ids other (.inl inside)
          · exact inv.ids other (.inr (.inl inside))
          · exact isAllowed
          · exact inv.ids other (.inr (.inr inside))
        · simp only [Selection.count, length_append, length_singleton]
          omega

variable {inflightReqIds : List RequestId} {requests : List LlmRequest}

theorem select_ends (stable : Stable allowed) (faults : Faults allowed fails)
    (chunked : sched.ctxChunkConfig = some chunking)
    (inv : selection.Inv sched maxNumTokensRuntime allowed)
    (isAllowed : req.requestId ∉ inflightReqIds → allowed req) :
    (sched.select maxNumTokensRuntime inflightReqIds selection req).Ends
      (Selects sched maxNumTokensRuntime allowed selection) fails := by
  unfold select
  split
  · trivial
  · split
    · trivial
    · rename_i idle
      have granted := isAllowed fun mem => idle (contains_iff_mem.mpr mem)
      split
      · rename_i encoder
        exact selectWhole_encoder faults inv encoder granted
      · rename_i notEncoder
        split
        · rename_i ctx
          rw [chunked]
          exact selectContext_ends stable inv ctx granted
        · rename_i notContext
          exact selectGeneration_ends faults inv (Bool.eq_false_iff.mpr notEncoder)
            (Bool.eq_false_iff.mpr notContext) granted

/-- The loop over the active requests keeps the invariant, and takes one request or no more
than the batch may have. -/
theorem selectLoop_ends (stable : Stable allowed) (faults : Faults allowed fails)
    (chunked : sched.ctxChunkConfig = some chunking) {maxBatchSizeRuntime : Nat}
    (isAllowed : ∀ req ∈ requests, req.requestId ∉ inflightReqIds → allowed req)
    (inv : selection.Inv sched maxNumTokensRuntime allowed)
    (counted : selection.scheduledReqSize = selection.count)
    (room : selection.count < max 1 maxBatchSizeRuntime) :
    (sched.selectLoop maxNumTokensRuntime inflightReqIds maxBatchSizeRuntime requests
      selection).Ends (fun final => final.Inv sched maxNumTokensRuntime allowed ∧
        final.count ≤ max 1 maxBatchSizeRuntime) fails := by
  induction requests generalizing selection with
  | nil => exact ⟨inv, room.le⟩
  | cons req rest ih =>
    have allowedRest := fun other mem => isAllowed other (mem_cons_of_mem req mem)
    refine (select_ends stable faults chunked inv (isAllowed req mem_cons_self)).bind fun selected
      selects => ?_
    cases selected with
    | skip => exact ih allowedRest inv counted room
    | stop => exact ⟨inv, room.le⟩
    | take next =>
      obtain ⟨invNext, more, size⟩ := selects
      have invCounted : Selection.Inv sched maxNumTokensRuntime allowed
          { next with scheduledReqSize := next.scheduledReqSize + 1 } :=
        ⟨invNext.tokens, invNext.within, invNext.encoders, invNext.contexts, invNext.fit,
          invNext.ids⟩
      have countNext : next.scheduledReqSize + 1 = next.count := by omega
      dsimp only
      split
      · exact ⟨invCounted, show next.count ≤ _ by omega⟩
      · exact ih allowedRest invCounted countNext (show next.count < _ by omega)

/-! ## The batch -/

/-- The contexts as they are after they were divided. -/
structure Contexts (scheduler : MicroBatchScheduler) (chunkUnitSize : Nat)
    (allowed : LlmRequest → Prop) (room : Option Int) (count : Nat) (contexts : List LlmRequest) :
    Prop where
  length : contexts.length = count
  sized : ∀ req ∈ contexts, Sized chunkUnitSize scheduler.maxContextLength req
  granted : ∀ req ∈ contexts, allowed req
  tokens : Within room (contexts.map contextTokens).sum

/-- Each context that was divided comes from one that was selected. -/
theorem exists_divided {unit : Nat} {maxLen : Option Nat} {contexts after : List LlmRequest}
    (divided : List.Forall₂ (Divided unit maxLen) contexts after) (mem : req ∈ after) :
    ∃ before ∈ contexts, Divided unit maxLen before req := by
  induction divided with
  | nil => cases mem
  | @cons before after _ _ here _ ih =>
    rcases mem_cons.mp mem with rfl | inside
    · exact ⟨before, mem_cons_self, here⟩
    · obtain ⟨other, found, rest⟩ := ih inside
      exact ⟨other, mem_cons_of_mem _ found, rest⟩

theorem divideContexts_total (stable : Stable allowed)
    (chunked : sched.ctxChunkConfig = some chunking)
    (inv : selection.Inv sched maxNumTokensRuntime allowed) :
    ∃ contexts fits, sched.divideContexts maxNumTokensRuntime selection = .ok (contexts, fits) ∧
      Contexts sched chunking.chunkUnitSize allowed
        (maxNumTokensRuntime.map fun limit : Nat => (limit - selection.batchNumTokens : Int))
        selection.contextsToBeChunked.length contexts := by
  unfold divideContexts
  dsimp only
  split
  · rename_i fits
    simp only [Bool.and_eq_true, Bool.not_eq_true', Option.any_eq_false, decide_eq_false_iff_not,
      not_lt] at fits
    obtain ⟨counted, short⟩ := inv.fit fits.1
    refine ⟨_, _, rfl, rfl, fun req mem => ?_, fun req mem => inv.ids req (.inr (.inr mem)),
      fun cap found => ?_⟩
    · obtain ⟨ctx, whole⟩ := inv.contexts req mem
      exact ⟨ctx, le_of_eq whole, .inr whole, fun length found =>
        le_trans (Nat.le_add_right _ _) (short req mem length found)⟩
    · obtain ⟨limit, isLimit, rfl⟩ := Option.mem_map.mp found
      rw [← counted]
      exact fits.2 limit isLimit
  · rw [chunked]
    have room : Within (maxNumTokensRuntime.map fun limit : Nat =>
        (limit - selection.batchNumTokens : Int)) 0 := by
      intro cap found
      obtain ⟨limit, isLimit, rfl⟩ := Option.mem_map.mp found
      have := inv.within limit isLimit
      omega
    obtain ⟨contexts, done, divided, within⟩ := setCtxRequestsChunkSize_total
      chunking.chunkingPolicy sched.maxContextLength chunking.chunkUnitSize_pos
      (fun req mem => (inv.contexts req mem).1) room
    refine ⟨contexts, false, ?_, divided.length_eq.symm, fun req mem => ?_,
      fun req mem => ?_, within⟩
    · dsimp only
      rw [done]
      rfl
    · obtain ⟨_, _, here⟩ := exists_divided divided mem
      exact here.sized
    · obtain ⟨before, inside, here⟩ := exists_divided divided mem
      exact stable (inv.ids before (.inr (.inr inside))) here.same

/-- The order of a batch is a permutation of what was selected. -/
theorem partitionLast_ends
    (checked : ∀ req ∈ requests, req.isContextInitState = true ∨ fails .contextChunk) :
    (partitionLast requests).Ends (fun parts => (parts.1 ++ parts.2).Perm requests) fails := by
  induction requests with
  | nil => exact .nil
  | cons req rest ih =>
    have first : (req.isLastContextChunkChecked).Ends (fun _ => True) fails := by
      rcases checked req mem_cons_self with ctx | failing
      · rw [isLastContextChunkChecked_eq ctx]
        trivial
      · unfold isLastContextChunkChecked getContextChunkSize
        split
        · trivial
        · split
          · trivial
          · exact failing
    refine first.bind fun last _ =>
      (ih (forall_mem_cons.mp checked).2).bind fun parts perm => ?_
    cases last with
    | false => exact perm.cons req
    | true => exact (perm_middle).trans (perm.cons req)

theorem sortContextRequests_ends (chunksPresent : Bool)
    (checked : ∀ req ∈ requests, req.isContextInitState = true ∨ fails .contextChunk) :
    (sortContextRequests requests chunksPresent).Ends (fun sorted => sorted.Perm requests)
      fails := by
  unfold sortContextRequests
  split
  · refine (partitionLast_ends checked).bind fun parts perm => ?_
    exact ((mergeSort_perm _ _).append (mergeSort_perm _ _)).trans perm
  · exact mergeSort_perm _ _

/-- A batch within the limits, made of requests that the scheduler may take. -/
structure Scheduled (scheduler : MicroBatchScheduler) (chunkUnitSize : Nat)
    (allowed : LlmRequest → Prop) (maxBatchSizeRuntime : Nat) (maxNumTokensRuntime : Option Nat)
    (batch : Batch) : Prop where
  size : (batch.contextRequests ++ batch.generationRequests).length ≤ max 1 maxBatchSizeRuntime
  tokens : ∀ limit ∈ maxNumTokensRuntime,
    ((batch.contextRequests ++ batch.generationRequests).map stepTokens).sum ≤ limit
  sized : ∀ req ∈ batch.contextRequests, req.isContextInitState = true →
    Sized chunkUnitSize scheduler.maxContextLength req ∧ 0 < req.contextChunkSize
  granted : ∀ req, req ∈ batch.contextRequests ∨ req ∈ batch.generationRequests ∨
    req ∈ batch.contextsToBeChunked → allowed req

theorem schedule_ends (stable : Stable allowed) (faults : Faults allowed fails)
    (chunked : sched.ctxChunkConfig = some chunking) (maxBatchSizeRuntime : Nat)
    (maxNumTokensRuntime : Option Nat) {activeRequests : List LlmRequest}
    (isAllowed : ∀ req ∈ activeRequests, req.requestId ∉ inflightReqIds → allowed req) :
    (sched.schedule inflightReqIds maxBatchSizeRuntime maxNumTokensRuntime activeRequests).Ends
      (Scheduled sched chunking.chunkUnitSize allowed maxBatchSizeRuntime maxNumTokensRuntime)
      fails := by
  have start : Selection.Inv sched maxNumTokensRuntime allowed {} :=
    ⟨rfl, fun _ _ => Nat.zero_le _, by simp, by simp, fun _ => ⟨rfl, by simp⟩, by simp⟩
  refine (selectLoop_ends stable faults chunked isAllowed start rfl
    (Nat.lt_of_lt_of_le Nat.one_pos (Nat.le_max_left _ _))).bind fun selection ⟨inv, size⟩ => ?_
  obtain ⟨contexts, fits, divided, facts⟩ := divideContexts_total stable chunked inv
  rw [divided]
  -- the contexts that got tokens
  set served := contexts.filter fun req => decide (0 < req.contextChunkSize) with kept
  have divides : ∀ req ∈ served, req ∈ contexts ∧ 0 < req.contextChunkSize := by simp [kept]
  have checked : ∀ req ∈ selection.contextRequests ++ served,
      req.isContextInitState = true ∨ fails .contextChunk := by
    refine forall_mem_append.mpr ⟨fun req mem => .inr ?_, fun req mem => .inl ?_⟩
    · exact faults.encoder (inv.ids req (.inl mem)) (inv.encoders req mem)
        (fun same => nomatch same)
    · exact (facts.sized req (divides req mem).1).context
  refine (sortContextRequests_ends _ checked).bind fun contextRequests perm => ?_
  have generations : (sortByLoraId selection.generationRequests).Perm
    selection.generationRequests := mergeSort_perm _ _
  have whole := perm.append generations
  have origin : ∀ req ∈ contextRequests, req ∈ selection.contextRequests ∨
      req ∈ contexts ∧ 0 < req.contextChunkSize := by
    intro req mem
    exact (mem_append.mp (perm.mem_iff.mp mem)).imp id (divides req)
  refine ⟨?_, fun limit found => ?_, fun req mem ctx => ?_, fun req mem => ?_⟩
  · have shorter : served.length ≤ contexts.length := length_filter_le _ _
    have length := facts.length
    rw [whole.length_eq]
    simp only [length_append, Selection.count] at size ⊢
    omega
  · have counted := inv.tokens
    have fewer : (served.map contextTokens).sum ≤ _ :=
      (filter_sublist.map contextTokens).sum_le_sum fun _ _ => Nat.zero_le _
    have room := facts.tokens _ (Option.mem_map_of_mem _ found)
    have contextSum : (served.map stepTokens).sum = (served.map contextTokens).sum :=
      congrArg List.sum (map_congr_left fun req mem =>
        stepTokens_context (facts.sized req (divides req mem).1).context)
    rw [(whole.map stepTokens).sum_eq]
    simp only [map_append, sum_append] at counted ⊢
    omega
  · rcases origin req mem with inside | ⟨inside, some⟩
    · rw [not_context_of_encoder (inv.encoders req inside)] at ctx
      cases ctx
    · exact ⟨facts.sized req inside, some⟩
  · rcases mem with inside | inside | inside
    · rcases origin req inside with selected | ⟨divided, _⟩
      · exact inv.ids req (.inl selected)
      · exact facts.granted req divided
    · exact inv.ids req (.inr (.inl (generations.mem_iff.mp inside)))
    · exact facts.granted req inside

/-- What a batch promises. -/
structure Budget (scheduler : MicroBatchScheduler) (chunkUnitSize : Nat)
    (inflightReqIds : List RequestId) (maxBatchSizeRuntime : Nat) (maxNumTokensRuntime : Option Nat)
    (activeRequests : List LlmRequest) (batch : Batch) : Prop where
  size : (batch.contextRequests ++ batch.generationRequests).length ≤ maxBatchSizeRuntime
  tokens : ∀ limit ∈ maxNumTokensRuntime,
    ((batch.contextRequests ++ batch.generationRequests).map stepTokens).sum ≤ limit
  short : ∀ req ∈ batch.contextRequests, req.isContextInitState = true →
    ∀ length ∈ scheduler.maxContextLength, req.contextChunkSize ≤ length
  aligned : ∀ req ∈ batch.contextRequests, req.isContextInitState = true →
    req.isLastContextChunk = false → chunkUnitSize ∣ req.contextChunkSize
  idle : ∀ req ∈ batch.contextRequests ++ batch.generationRequests,
    req.requestId ∉ inflightReqIds
  active : ∀ req ∈ batch.contextRequests ++ batch.generationRequests,
    ∃ original ∈ activeRequests, Rescheduled original req

/-- A chunk that is not the last one is a number of units. -/
theorem Sized.unit_dvd {unit : Nat} {maxLen : Option Nat}
    (sized : Sized unit maxLen req) (pos : 0 < req.contextChunkSize)
    (unfinished : req.isLastContextChunk = false) : unit ∣ req.contextChunkSize := by
  refine sized.aligned.resolve_right fun whole => ?_
  rw [isLastContextChunk_of_remaining sized.context whole pos] at unfinished
  cases unfinished

theorem getBeamWidthByIter_error {failure : Failure}
    (failed : req.getBeamWidthByIter = .error failure) : failure ≠ .diverges := by
  unfold getBeamWidthByIter at failed
  split at failed
  · cases failed
  · split at failed
    · cases failed
    · cases failed
      exact fun same => nomatch same

/-- A call ends, and what it returns is within the budget. -/
theorem schedule_within_budget (scheduler : MicroBatchScheduler) (chunking : ContextChunkingConfig)
    (chunked : scheduler.ctxChunkConfig = some chunking) (inflightReqIds : List RequestId)
    (maxBatchSizeRuntime : Nat) (positive : 0 < maxBatchSizeRuntime)
    (maxNumTokensRuntime : Option Nat) (activeRequests : List LlmRequest) :
    (scheduler.schedule inflightReqIds maxBatchSizeRuntime maxNumTokensRuntime activeRequests).Ends
      (Budget scheduler chunking.chunkUnitSize inflightReqIds maxBatchSizeRuntime
        maxNumTokensRuntime activeRequests) (· ≠ .diverges) := by
  let allowed : LlmRequest → Prop := fun req =>
    req.requestId ∉ inflightReqIds ∧ ∃ original ∈ activeRequests, Rescheduled original req
  have stable : Stable allowed := by
    rintro before after ⟨idle, original, found, same⟩ changed
    have id : after.requestId = before.requestId := by rw [changed]
    exact ⟨id ▸ idle, original, found, same.trans changed⟩
  have faults : Faults allowed (· ≠ .diverges) :=
    ⟨fun _ _ other => other, fun _ _ failed => getBeamWidthByIter_error failed⟩
  refine (schedule_ends stable faults chunked maxBatchSizeRuntime maxNumTokensRuntime
    fun req member idle => ⟨idle, req, member, rfl⟩).imp fun batch scheduled => ?_
  have granted : ∀ req ∈ batch.contextRequests ++ batch.generationRequests, allowed req :=
    fun req member => scheduled.granted req ((List.mem_append.mp member).imp id .inl)
  exact {
    size := le_trans scheduled.size (Nat.max_le.mpr ⟨positive, Nat.le_refl _⟩)
    tokens := scheduled.tokens
    short := fun req member context => (scheduled.sized req member context).1.short
    aligned := fun req member context =>
      (scheduled.sized req member context).1.unit_dvd (scheduled.sized req member context).2
    idle := fun req member => (granted req member).1
    active := fun req member => (granted req member).2 }

/-- Two requests with a prompt of five tokens. -/
def fiveTokenPrompt (requestId : RequestId) : LlmRequest where
  requestId := requestId
  uniqueTokens := [⟨1, 0⟩, ⟨2, 0⟩, ⟨3, 0⟩, ⟨4, 0⟩, ⟨5, 0⟩]
  promptLen := 5
  numDraftTokens := 2

/-- Chunks of two tokens, shared out among all contexts. -/
def chunksOfTwo : MicroBatchScheduler where
  ctxChunkConfig := some ⟨.equalProgress, 2, Nat.two_pos⟩

theorem schedule_within_budget_fiveTokenPrompt :
    ∃ batch, chunksOfTwo.schedule [] 2 (some 7) [fiveTokenPrompt 1, fiveTokenPrompt 2] = .ok batch ∧
      Budget chunksOfTwo 2 [] 2 (some 7) [fiveTokenPrompt 1, fiveTokenPrompt 2] batch := by
  have ends := schedule_within_budget chunksOfTwo ⟨.equalProgress, 2, Nat.two_pos⟩ rfl [] 2
    Nat.two_pos (some 7) [fiveTokenPrompt 1, fiveTokenPrompt 2]
  have returns : (chunksOfTwo.schedule [] 2 (some 7)
      [fiveTokenPrompt 1, fiveTokenPrompt 2]).toOption.isSome = true := by decide +kernel
  generalize chunksOfTwo.schedule [] 2 (some 7) [fiveTokenPrompt 1, fiveTokenPrompt 2] = result at *
  cases result with
  | error failure => cases returns
  | ok batch => exact ⟨batch, rfl, ends⟩

/-- The limit is compared after a request was taken, so one is taken with a limit of 0. -/
theorem schedule_batch_limit_zero :
    (chunksOfTwo.schedule [] 0 none [fiveTokenPrompt 1]).toOption.map
      (fun batch => (batch.contextRequests ++ batch.generationRequests).length) = some 1 := by
  decide +kernel

end MicroBatchScheduler

end TrtLlm
