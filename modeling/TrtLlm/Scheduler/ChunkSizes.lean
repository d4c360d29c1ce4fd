import Mathlib.Algebra.Order.Group.Nat
import Mathlib.Algebra.Order.BigOperators.Group.List
import Mathlib.Algebra.Ring.Int.Defs
import TrtLlm.Lib.Run
import TrtLlm.Scheduler.MicroBatchScheduler

/-! # Chunk sizes

What the loops over the contexts do to one request is stated once, and the sums follow: with either
policy chunks and kept draft tokens fit into the capacity, and chunks that are not last are whole
units.
-/

namespace TrtLlm

open List

variable {size : Int}

namespace LlmRequest

variable {req : LlmRequest}

section

variable (ctx : req.isContextInitState = true)
include ctx

/-! ## One context -/

theorem inChunkPhase_of_context : req.inChunkPhase = true := by
  rw [inChunkPhase, ctx, Bool.true_or, Bool.true_or]

theorem getContextChunkSize_eq : req.getContextChunkSize = .ok req.contextChunkSize := by
  rw [getContextChunkSize, if_pos (inChunkPhase_of_context ctx)]

theorem setContextChunkSize_eq (nonneg : 0 ≤ size) :
    req.setContextChunkSize size =
      .ok { req with contextChunkSize := min size.toNat req.getContextRemainingLength } := by
  rw [setContextChunkSize, if_pos ⟨inChunkPhase_of_context ctx, nonneg⟩]

/-- A request that processes its context receives no cache. -/
theorem not_receiving_of_context : req.isDisaggGenerationInitState = false ∧
      req.isDisaggGenerationTransmissionComplete = false := by
  unfold isContextInitState at ctx
  unfold isDisaggGenerationInitState isDisaggGenerationTransmissionComplete
  generalize req.state = st at ctx ⊢
  cases st <;> first | exact ⟨rfl, rfl⟩ | cases ctx

theorem isLastContextChunk_eq :
    req.isLastContextChunk =
        (req.contextCurrentPosition + req.contextChunkSize == req.promptLen) := by
  obtain ⟨first, second⟩ := not_receiving_of_context ctx
  rw [isLastContextChunk, first, second, Bool.false_or, Bool.false_or]

theorem isLastContextChunkChecked_eq :
    req.isLastContextChunkChecked = .ok req.isLastContextChunk := by
  obtain ⟨first, second⟩ := not_receiving_of_context ctx
  rw [isLastContextChunk_eq ctx, isLastContextChunkChecked, first, second,
    getContextChunkSize_eq ctx]
  rfl

/-- A chunk of all that is left, of a context that is not processed, is the last one. -/
theorem isLastContextChunk_of_remaining
    (whole : req.contextChunkSize = req.getContextRemainingLength)
    (pos : 0 < req.contextChunkSize) : req.isLastContextChunk = true := by
  rw [isLastContextChunk_eq ctx, beq_iff_eq]
  unfold getContextRemainingLength at whole
  omega

end

end LlmRequest

namespace MicroBatchScheduler

open LlmRequest

/-! ## The loops over the contexts -/

variable {numTokens : Int} {limit : Option Int}

theorem forRequests_total (body : Int → LlmRequest → Except Failure (LlmRequest × Int))
    {before : LlmRequest → Prop} {relation : LlmRequest → LlmRequest × Int → Prop}
    {bound : Int → Prop} (round : ∀ numTokens req, before req → bound numTokens → ∃ res,
      body numTokens req = .ok res ∧ relation req res ∧ bound (numTokens + res.2))
    {requests : List LlmRequest} (holds : ∀ req ∈ requests, before req)
    (bounded : bound numTokens) :
    ∃ results, forRequests body requests numTokens =
        .ok (results.map Prod.fst, numTokens + (results.map Prod.snd).sum) ∧
      List.Forall₂ relation requests results ∧ bound (numTokens + (results.map Prod.snd).sum) := by
  induction requests generalizing numTokens with
  | nil => exact ⟨[], by simp [forRequests], .nil, by simpa using bounded⟩
  | cons req rest ih =>
    obtain ⟨res, done, related, boundedNext⟩ :=
      round numTokens req (holds req mem_cons_self) bounded
    obtain ⟨results, looped, others, boundedLast⟩ :=
      ih (forall_mem_cons.mp holds).2 boundedNext
    have assoc : numTokens + res.2 + (results.map Prod.snd).sum =
        numTokens + ((res :: results).map Prod.snd).sum := by
      rw [map_cons, sum_cons]
      omega
    refine ⟨res :: results, ?_, .cons related others, assoc ▸ boundedLast⟩
    rw [forRequests, done]
    dsimp only [bind, Except.bind]
    rw [looped]
    rw [assoc]
    rfl

/-- The sum of the chunk sizes. -/
def chunkTotal (contexts : List LlmRequest) : Nat := (contexts.map contextChunkSize).sum

/-- The tokens counted so far are within the capacity. -/
def Within (ctxTokensCapacity : Option Int) (numTokens : Int) : Prop :=
  ∀ capacity ∈ ctxTokensCapacity, numTokens ≤ capacity

/-- A context with a chunk that is a number of units or all that is left. -/
structure Sized (chunkUnitSize : Nat) (maxContextLength : Option Nat) (req : LlmRequest) :
    Prop where
  context : req.isContextInitState = true
  le_remaining : req.contextChunkSize ≤ req.getContextRemainingLength
  aligned : chunkUnitSize ∣ req.contextChunkSize ∨
    req.contextChunkSize = req.getContextRemainingLength
  short : ∀ length ∈ maxContextLength, req.contextChunkSize ≤ length

/-- Another chunk is set, and the tokens that it has more are counted. -/
structure Rechunked (chunkUnitSize : Nat) (maxContextLength : Option Nat) (req : LlmRequest)
    (result : LlmRequest × Int) : Prop where
  same : result.1 = { req with contextChunkSize := result.1.contextChunkSize }
  counted : result.2 = (result.1.contextChunkSize : Int) - req.contextChunkSize
  grown : req.contextChunkSize ≤ result.1.contextChunkSize
  sized : Sized chunkUnitSize maxContextLength result.1

variable {ctxTokensCapacity : Option Int} {unitSize : Nat} {maxLen : Option Nat}
  {req : LlmRequest}

/-- The size of a chunk with one more unit. -/
def extended (chunkUnitSize : Nat) (req : LlmRequest) : Nat :=
  min (req.contextChunkSize + chunkUnitSize) req.getContextRemainingLength

/-- The tokens of one more unit are within the limits. -/
def Extends (ctxTokensCapacity : Option Int) (chunkUnitSize : Nat) (maxContextLength : Option Nat)
    (numTokens : Int) (req : LlmRequest) : Prop :=
  Within ctxTokensCapacity (numTokens + (extended chunkUnitSize req - req.contextChunkSize)) ∧
    ∀ length ∈ maxContextLength, extended chunkUnitSize req ≤ length

/-- A round extends a chunk by a unit or leaves it. -/
theorem extendChunk_cases (ctxTokensCapacity : Option Int) (numTokens : Int)
    (sized : Sized unitSize maxLen req) :
    (Extends ctxTokensCapacity unitSize maxLen numTokens req ∧
      extendChunk ctxTokensCapacity unitSize maxLen numTokens req =
        .ok ({ req with contextChunkSize := extended unitSize req },
          extended unitSize req - req.contextChunkSize)) ∨
    extendChunk ctxTokensCapacity unitSize maxLen numTokens req = .ok (req, 0) := by
  have ctx := sized.context
  have sets : ∀ size other : Nat, ({ req with contextChunkSize := other } :
      LlmRequest).setContextChunkSize size =
        .ok { req with contextChunkSize := min size req.getContextRemainingLength } :=
    fun size other => setContextChunkSize_eq (by exact ctx) (Int.natCast_nonneg size)
  have gets : ∀ size : Nat, ({ req with contextChunkSize := size } :
      LlmRequest).getContextChunkSize = .ok size :=
    fun size => getContextChunkSize_eq (by exact ctx)
  unfold extendChunk
  rw [getContextChunkSize_eq ctx]
  dsimp only [bind, Except.bind]
  rw [sets _ req.contextChunkSize, ← extended]
  dsimp only
  rw [gets]
  dsimp only
  split
  · rw [sets, Nat.min_eq_left sized.le_remaining]
    exact .inr rfl
  · rename_i fits
    simp only [Bool.or_eq_true, Option.any_eq_true, decide_eq_true_eq, not_or, not_exists, not_and,
      not_lt] at fits
    exact .inl ⟨fits, rfl⟩

theorem extendChunk_total (sized : Sized unitSize maxLen req)
    (within : Within ctxTokensCapacity numTokens) :
    ∃ res, extendChunk ctxTokensCapacity unitSize maxLen numTokens req =
        .ok res ∧ Rechunked unitSize maxLen req res ∧
      Within ctxTokensCapacity (numTokens + res.2) := by
  have le := sized.le_remaining
  rcases extendChunk_cases ctxTokensCapacity numTokens sized with ⟨⟨fits, short⟩, done⟩ | done
  · refine ⟨_, done, ⟨rfl, rfl, ?_, sized.context, Nat.min_le_right _ _, ?_, short⟩, fits⟩
    · exact Nat.le_min.mpr ⟨Nat.le_add_right _ _, le⟩
    · change unitSize ∣ extended unitSize req ∨
        extended unitSize req = req.getContextRemainingLength
      unfold extended
      rcases Nat.le_total (req.contextChunkSize + unitSize) req.getContextRemainingLength with
        whole | rest
      · rcases sized.aligned with divides | last
        · rw [Nat.min_eq_left whole]
          exact .inl (Nat.dvd_add divides (Nat.dvd_refl _))
        · exact .inr (by omega)
      · exact .inr (Nat.min_eq_right rest)
  · refine ⟨_, done, ⟨rfl, (Int.sub_self _).symm, Nat.le_refl _, sized⟩, ?_⟩
    rw [Int.add_zero]
    exact within

theorem atMost_le_size : atMost limit size ≤ size := by
  cases limit with
  | none => exact le_refl _
  | some limit => exact min_le_right _ _

theorem atMost_le_limit {bound : Int} (found : bound ∈ limit) : atMost limit size ≤ bound := by
  cases found
  exact min_le_left _ _

theorem atMost_nonneg (nonneg : 0 ≤ size) (limits : ∀ bound ∈ limit, 0 ≤ bound) :
    0 ≤ atMost limit size := by
  cases limit with
  | none => exact nonneg
  | some limit => exact le_min (limits limit rfl) nonneg

theorem servedChunkSize_le (maxLen : Option Nat) (pos : 0 < unitSize)
    {suggested : Int} (within : Within ctxTokensCapacity numTokens) (nonneg : 0 ≤ suggested) :
    let size := servedChunkSize ctxTokensCapacity unitSize maxLen numTokens suggested
    0 ≤ size ∧ size ≤ suggested ∧ ((unitSize : Int) ∣ size ∨ size = suggested) ∧
      Within ctxTokensCapacity (numTokens + size) ∧ ∀ length ∈ maxLen, size ≤ length := by
  unfold servedChunkSize
  dsimp only
  generalize hcapped : atMost (ctxTokensCapacity.map fun capacity => capacity - numTokens)
    suggested = capped
  generalize hlimited : atMost (maxLen.map Int.ofNat) capped = limited
  have cap : 0 ≤ capped ∧ capped ≤ suggested ∧ Within ctxTokensCapacity (numTokens + capped) := by
    subst hcapped
    refine ⟨atMost_nonneg nonneg ?_, atMost_le_size, fun capacity found => ?_⟩
    · rintro limit found
      obtain ⟨capacity, isCapacity, rfl⟩ := Option.mem_map.mp found
      have := within capacity isCapacity
      omega
    · have : atMost _ suggested ≤ _ :=
        atMost_le_limit (Option.mem_map_of_mem (fun capacity => capacity - numTokens) found)
      omega
  have limit : 0 ≤ limited ∧ limited ≤ capped ∧ ∀ length ∈ maxLen, limited ≤ length := by
    subst hlimited
    refine ⟨atMost_nonneg cap.1 ?_, atMost_le_size, fun length found =>
      atMost_le_limit (Option.mem_map_of_mem Int.ofNat found)⟩
    rintro limit found
    obtain ⟨length, _, rfl⟩ := Option.mem_map.mp found
    exact Int.natCast_nonneg length
  -- rounding makes the chunk smaller only
  have rounded : 0 ≤ Int.tdiv limited unitSize * unitSize ∧
      Int.tdiv limited unitSize * unitSize ≤ limited := by
    rw [Int.tdiv_eq_ediv_of_nonneg limit.1]
    have unit : (0 : Int) < unitSize := by omega
    exact ⟨Int.mul_nonneg (Int.ediv_nonneg limit.1 unit.le) unit.le,
      Int.ediv_mul_le _ (Int.ne_of_gt unit)⟩
  have smaller : ∀ size, size ≤ limited → Within ctxTokensCapacity (numTokens + size) ∧
      ∀ length ∈ maxLen, size ≤ length := by
    intro size le
    refine ⟨fun capacity found => ?_, fun length found => le_trans le (limit.2.2 length found)⟩
    have := cap.2.2 capacity found
    omega
  split
  · exact ⟨rounded.1, by omega, .inl ⟨_, Int.mul_comm _ _⟩, smaller _ rounded.2⟩
  · rename_i whole
    exact ⟨limit.1, by omega, .inr (not_not.mp whole), smaller _ (le_refl _)⟩

/-- One context is served with what is left of the capacity, from a chunk of size 0. -/
theorem serveContext_total (pos : 0 < unitSize) (ctx : req.isContextInitState = true)
    (empty : req.contextChunkSize = 0) (within : Within ctxTokensCapacity numTokens) :
    ∃ res, serveContext ctxTokensCapacity unitSize maxLen numTokens req =
        .ok res ∧ Rechunked unitSize maxLen req res ∧
      Within ctxTokensCapacity (numTokens + res.2) := by
  obtain ⟨nonneg, le, aligned, fits, short⟩ := servedChunkSize_le maxLen
    pos within (Int.natCast_nonneg req.getContextRemainingLength)
  unfold serveContext
  generalize servedChunkSize ctxTokensCapacity unitSize maxLen numTokens
    req.getContextRemainingLength = size at *
  lift size to Nat using nonneg
  dsimp only
  rw [setContextChunkSize_eq ctx (Int.natCast_nonneg size), Int.toNat_natCast,
    Nat.min_eq_left (Int.ofNat_le.mp le)]
  refine ⟨_, rfl, ⟨rfl, by simp [empty], by simp [empty], ctx, Int.ofNat_le.mp le, ?_, ?_⟩, fits⟩
  · exact aligned.imp Int.natCast_dvd_natCast.mp Int.ofNat_inj.mp
  · exact fun length found => Int.ofNat_le.mp (short length found)

/-! ## The policies -/

/-- The contexts are the same but for their chunks. -/
def Resized (chunkUnitSize : Nat) (maxContextLength : Option Nat) :
    List LlmRequest → List LlmRequest → Prop :=
  List.Forall₂ fun before after =>
    after = { before with contextChunkSize := after.contextChunkSize } ∧
      Sized chunkUnitSize maxContextLength after

variable {contexts after : List LlmRequest} {results : List (LlmRequest × Int)}

theorem Resized.sized (resized : Resized unitSize maxLen contexts after) :
    ∀ req ∈ after, Sized unitSize maxLen req := by
  induction resized with
  | nil => exact fun _ mem => absurd mem not_mem_nil
  | cons here _ ih =>
    intro req mem
    rcases mem_cons.mp mem with rfl | inside
    · exact here.2
    · exact ih req inside

theorem Resized.trans {between : List LlmRequest} (first : Resized unitSize maxLen contexts between)
    (second : Resized unitSize maxLen between after) : Resized unitSize maxLen contexts after := by
  induction first generalizing after with
  | nil => exact second
  | cons here _ ih =>
    cases second with
    | cons there rest =>
      refine .cons ⟨?_, there.2⟩ (ih rest)
      rw [there.1, here.1]

/-- What a loop over the contexts adds up is what their chunks have more. -/
theorem resized_of_rechunked
    (rechunked : List.Forall₂ (Rechunked unitSize maxLen) contexts results) :
    Resized unitSize maxLen contexts (results.map Prod.fst) ∧
      (chunkTotal (results.map Prod.fst) : Int) = chunkTotal contexts + (results.map Prod.snd).sum ∧
      chunkTotal contexts ≤ chunkTotal (results.map Prod.fst) ∧
      remainingTokens (results.map Prod.fst) = remainingTokens contexts := by
  induction rechunked with
  | nil => exact ⟨.nil, rfl, Nat.le_refl _, rfl⟩
  | @cons req res _ _ here _ ih =>
    obtain ⟨resized, total, grown, left⟩ := ih
    have unmoved : res.1.getContextRemainingLength = req.getContextRemainingLength := by
      rw [here.same]
      rfl
    have counted := here.counted
    have more := here.grown
    simp only [chunkTotal, remainingTokens, map_cons, sum_cons, unmoved] at *
    refine ⟨.cons ⟨here.same, here.sized⟩ resized, ?_, ?_, ?_⟩ <;> omega

theorem chunkTotal_le_remaining (sized : ∀ req ∈ contexts, Sized unitSize maxLen req) :
    chunkTotal contexts ≤ remainingTokens contexts :=
  sum_le_sum fun req mem => (sized req mem).le_remaining

/-- The rounds end: each of them but the last takes another token. -/
theorem equalProgress_total (rounds : Nat) (sized : ∀ req ∈ contexts, Sized unitSize maxLen req)
    (within : Within ctxTokensCapacity (chunkTotal contexts))
    (enough : remainingTokens contexts < chunkTotal contexts + rounds) :
    ∃ after, equalProgress ctxTokensCapacity unitSize maxLen rounds
        (chunkTotal contexts) contexts = .ok after ∧ Resized unitSize maxLen contexts after ∧
      Within ctxTokensCapacity (chunkTotal after) := by
  induction rounds generalizing contexts with
  | zero => exact absurd (chunkTotal_le_remaining sized) (by omega)
  | succ rounds ih =>
    unfold equalProgress
    split
    · obtain ⟨results, looped, rechunked, bounded⟩ := forRequests_total
        (extendChunk ctxTokensCapacity unitSize maxLen)
        (fun _ _ sized within => extendChunk_total sized within) sized within
      obtain ⟨resized, total, grown, left⟩ := resized_of_rechunked rechunked
      rw [looped]
      dsimp only [bind, Except.bind]
      rw [← total] at bounded ⊢
      split
      · exact ⟨_, rfl, resized, bounded⟩
      · obtain ⟨after, done, rest, within⟩ := ih resized.sized bounded (by omega)
        exact ⟨after, done, resized.trans rest, within⟩
    · refine ⟨contexts, rfl, ?_, within⟩
      exact forall₂_same.mpr fun req mem => ⟨rfl, sized req mem⟩

/-- Chunks of size 0, from which both policies start. -/
theorem mapM_setContextChunkSize_zero
    (ctx : ∀ req ∈ contexts, req.isContextInitState = true) :
    contexts.mapM (fun req => req.setContextChunkSize 0) =
      .ok (contexts.map fun req => { req with contextChunkSize := 0 }) :=
  mapM_eq_ok fun req mem => setContextChunkSize_eq (ctx req mem) (Int.le_refl 0)

/-- Before a policy runs, no context has a chunk. -/
theorem sized_zero (ctx : ∀ req ∈ contexts, req.isContextInitState = true) :
    ∀ req ∈ contexts.map (fun req => { req with contextChunkSize := 0 }),
      Sized unitSize maxLen req ∧ req.contextChunkSize = 0 := by
  intro req mem
  obtain ⟨original, lt, rfl⟩ := mem_map.mp mem
  exact ⟨⟨ctx original lt, Nat.zero_le _, .inl (Nat.dvd_zero _), fun _ _ => Nat.zero_le _⟩, rfl⟩

/-- Either policy gives chunks that fit into the capacity. -/
theorem setChunkSizesByPolicy_total (ctxChunkPolicy : ContextChunkingPolicy) (maxLen : Option Nat)
    (pos : 0 < unitSize)
    (sized : ∀ req ∈ contexts, Sized unitSize maxLen req ∧ req.contextChunkSize = 0)
    (room : Within ctxTokensCapacity 0) :
    ∃ after, setChunkSizesByPolicy ctxTokensCapacity unitSize maxLen ctxChunkPolicy
        contexts = .ok after ∧ Resized unitSize maxLen contexts after ∧
      Within ctxTokensCapacity (chunkTotal after) := by
  have none : chunkTotal contexts = 0 := sum_eq_zero fun size mem => by
    obtain ⟨req, lt, rfl⟩ := mem_map.mp mem
    exact (sized req lt).2
  cases ctxChunkPolicy with
  | equalProgress =>
    have within : Within ctxTokensCapacity (chunkTotal contexts) := none ▸ room
    have ends := equalProgress_total (remainingTokens contexts + 2)
      (fun req mem => (sized req mem).1) within (by omega)
    rw [none] at ends
    exact ends
  | firstComeFirstServed =>
    obtain ⟨results, looped, rechunked, bounded⟩ := forRequests_total
      (serveContext ctxTokensCapacity unitSize maxLen)
      (fun _ req before within => serveContext_total pos before.1.context before.2 within)
      sized room
    obtain ⟨resized, total, _, _⟩ := resized_of_rechunked rechunked
    refine ⟨results.map Prod.fst, ?_, resized, ?_⟩
    · rw [setChunkSizesByPolicy, setCtxRequestsChunkSizeFirstComeFirstServed, looped]
      rfl
    · rw [total, none]
      exact bounded

/-! ## Draft tokens -/

/-- The tokens of a context in the batch: its chunk, and behind the last one the drafts. -/
def contextTokens (req : LlmRequest) : Nat :=
  req.contextChunkSize + if req.isLastContextChunk then req.numDraftTokens else 0

theorem contextTokens_le (req : LlmRequest) :
    contextTokens req ≤ req.contextChunkSize + req.numDraftTokens := by
  unfold contextTokens
  split <;> omega

/-- Draft tokens are discarded so that the others fit into the tokens that are counted. -/
structure Fitted (req : LlmRequest) (counts : Bool) (result : LlmRequest × Int) : Prop where
  same : result.1 = { req with numDraftTokens := result.1.numDraftTokens }
  counted : counts = true → (contextTokens result.1 : Int) ≤ req.contextChunkSize + result.2

theorem remainingSpace_nonneg (pos : 0 < unitSize)
    (sized : Sized unitSize maxLen req) (within : Within ctxTokensCapacity numTokens) :
    0 ≤ remainingSpaceForDraftTokens ctxTokensCapacity unitSize maxLen numTokens
      req.contextChunkSize := by
  have remainder := Nat.mod_lt req.contextChunkSize pos
  refine atMost_nonneg (atMost_nonneg ?_ ?_) ?_
  · split <;> omega
  · rintro limit found
    obtain ⟨length, isLength, rfl⟩ := Option.mem_map.mp found
    have := sized.short length isLength
    omega
  · rintro limit found
    obtain ⟨cap, isCapacity, rfl⟩ := Option.mem_map.mp found
    have := within cap isCapacity
    omega

theorem remainingSpace_le (unitSize : Nat) (maxLen : Option Nat) (numTokens : Int)
    (chunkSize : Nat) {cap : Int} (found : cap ∈ ctxTokensCapacity) :
    remainingSpaceForDraftTokens ctxTokensCapacity unitSize maxLen numTokens
      chunkSize ≤ cap - numTokens :=
  atMost_le_limit (Option.mem_map_of_mem (fun cap => cap - numTokens) found)

/-- Draft tokens for which there is no space are discarded. -/
theorem fitDraftTokensOf_total (pos : 0 < unitSize)
    (sized : Sized unitSize maxLen req) (within : Within ctxTokensCapacity numTokens) :
    ∃ res, fitDraftTokensOf ctxTokensCapacity unitSize maxLen numTokens req =
        .ok res ∧ Fitted req ctxTokensCapacity.isSome res ∧
      Within ctxTokensCapacity (numTokens + res.2) := by
  have nonneg := remainingSpace_nonneg pos sized within
  have below : ∀ cap ∈ ctxTokensCapacity, _ := fun cap found =>
    remainingSpace_le unitSize maxLen numTokens req.contextChunkSize found
  unfold fitDraftTokensOf
  rw [isLastContextChunkChecked_eq sized.context]
  dsimp only [bind, Except.bind]
  split
  · rename_i drafted
    rw [getContextChunkSize_eq sized.context]
    dsimp only
    generalize remainingSpaceForDraftTokens ctxTokensCapacity unitSize maxLen
      numTokens req.contextChunkSize = space at *
    have fits : Within ctxTokensCapacity
        (numTokens + if ctxTokensCapacity.isSome then space else 0) := by
      intro cap found
      have := below cap found
      omega
    split
    · rename_i tooMany
      rw [discardDraftTokens, if_pos ⟨tooMany, by omega⟩]
      refine ⟨_, rfl, ⟨rfl, fun cnt => ?_⟩, fits⟩
      rw [if_pos cnt]
      refine le_trans (Int.ofNat_le.mpr (contextTokens_le _)) ?_
      dsimp only
      omega
    · refine ⟨_, rfl, ⟨rfl, fun cnt => ?_⟩, fits⟩
      rw [if_pos cnt]
      refine le_trans (Int.ofNat_le.mpr (contextTokens_le _)) ?_
      dsimp only
      omega
  · rename_i undrafted
    refine ⟨_, rfl, ⟨rfl, fun _ => ?_⟩, by rwa [Int.add_zero]⟩
    have alone : contextTokens req = req.contextChunkSize := by
      unfold contextTokens
      split
      · rename_i last
        rw [last, Bool.true_and, hasDraftTokens, bne_iff_ne, not_not] at undrafted
        omega
      · rfl
    dsimp only
    omega

/-- The scheduler changes the chunk of a request and its draft tokens. -/
def Rescheduled (before after : LlmRequest) : Prop :=
  after = { before with
    contextChunkSize := after.contextChunkSize, numDraftTokens := after.numDraftTokens }

theorem Rescheduled.trans {first second third : LlmRequest} (left : Rescheduled first second)
    (right : Rescheduled second third) : Rescheduled first third := by
  unfold Rescheduled at *
  rw [right, left]

/-- What is left of a context after a call. -/
structure Divided (chunkUnitSize : Nat) (maxContextLength : Option Nat)
    (before after : LlmRequest) : Prop where
  same : Rescheduled before after
  sized : Sized chunkUnitSize maxContextLength after

/-- Discarding draft tokens leaves the chunks as they are. -/
theorem divided_of_fitted {cnt : Bool} (resized : Resized unitSize maxLen contexts after)
    (fitted : List.Forall₂ (fun req res => Fitted req cnt res) after results) :
    List.Forall₂ (Divided unitSize maxLen) contexts (results.map Prod.fst) ∧
      (cnt = true → (((results.map Prod.fst).map contextTokens).sum : Int) ≤
        chunkTotal after + (results.map Prod.snd).sum) := by
  induction resized generalizing results with
  | nil =>
    cases fitted
    exact ⟨.nil, fun _ => Int.le_refl 0⟩
  | @cons before req _ _ here _ ih =>
    cases fitted with
    | @cons _ res _ _ fits rest =>
      obtain ⟨divided, counted⟩ := ih rest
      have sized : Sized unitSize maxLen res.1 := by
        rw [fits.same]
        exact ⟨here.2.context, here.2.le_remaining, here.2.aligned, here.2.short⟩
      refine ⟨.cons ⟨?_, sized⟩ divided, fun cnt => ?_⟩
      · unfold Rescheduled
        rw [fits.same, here.1]
      · have others := counted cnt
        have first := fits.counted cnt
        simp only [chunkTotal, map_cons, sum_cons] at *
        omega

theorem numChunkTokens_eq (sized : ∀ req ∈ contexts, Sized unitSize maxLen req) :
    numChunkTokens contexts = .ok (chunkTotal contexts) := by
  have accumulated : ∀ start, contexts.foldlM (fun numCtxTokens req => do
      return numCtxTokens + (← req.getContextChunkSize)) start =
        (.ok (start + chunkTotal contexts) : Except Failure Nat) := by
    induction contexts with
    | nil => exact fun _ => rfl
    | cons req rest ih =>
      intro start
      rw [foldlM_cons, getContextChunkSize_eq (sized req mem_cons_self).context]
      change rest.foldlM _ (start + req.contextChunkSize) = _
      rw [ih (forall_mem_cons.mp sized).2, Nat.add_assoc]
      rfl
  rw [numChunkTokens, accumulated, Nat.zero_add]

/-- `setCtxRequestsChunkSize` returns, and the tokens of the contexts are within the capacity. -/
theorem setCtxRequestsChunkSize_total (ctxChunkPolicy : ContextChunkingPolicy)
    (maxLen : Option Nat) (pos : 0 < unitSize)
    (ctx : ∀ req ∈ contexts, req.isContextInitState = true) (room : Within ctxTokensCapacity 0) :
    ∃ after, setCtxRequestsChunkSize ctxTokensCapacity unitSize maxLen ctxChunkPolicy
        contexts = .ok after ∧ List.Forall₂ (Divided unitSize maxLen) contexts after ∧
      Within ctxTokensCapacity (after.map contextTokens).sum := by
  obtain ⟨chunked, ran, resized, within⟩ := setChunkSizesByPolicy_total ctxChunkPolicy maxLen pos
    (sized_zero ctx) room
  obtain ⟨results, looped, fitted, bounded⟩ := forRequests_total
    (fitDraftTokensOf ctxTokensCapacity unitSize maxLen)
    (fun _ _ sized within => fitDraftTokensOf_total pos sized within) resized.sized within
  obtain ⟨divided, counted⟩ := divided_of_fitted resized fitted
  refine ⟨results.map Prod.fst, ?_, ?_, fun cap found => ?_⟩
  · rw [setCtxRequestsChunkSize, mapM_setContextChunkSize_zero ctx]
    dsimp only [bind, Except.bind]
    rw [ran]
    dsimp only
    rw [fitDraftTokens, numChunkTokens_eq resized.sized]
    dsimp only [bind, Except.bind]
    rw [looped]
    rfl
  · refine (forall₂_map_left_iff.mp divided).imp fun before after divided => ?_
    exact ⟨divided.same, divided.sized⟩
  · have cnt : ctxTokensCapacity.isSome = true := by rw [Option.mem_def.mp found]; rfl
    exact le_trans (counted cnt) (bounded cap found)

end MicroBatchScheduler

end TrtLlm
