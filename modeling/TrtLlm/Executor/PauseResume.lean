import TrtLlm.KvCache.LlmRequest
import TrtLlm.Lib.Run

/-!
# Pausing a request and computing it again

`pause` moves the generated tokens of a request into its prompt. It is modelled for the only beam of
a request, with the token and the log probability that the decoder reports in each iteration. Tokens
survive any number of pauses, log probabilities only those of the original prompt.
-/

namespace TrtLlm

open List

/-- `std::vector::resize` -/
def resize {α : Type} (fill : α) (size : Nat) (list : List α) : List α :=
  list.take size ++ List.replicate (size - list.length) fill

theorem resize_of_le {α : Type} {fill : α} {size : Nat} {list : List α}
    (shorter : size ≤ list.length) : resize fill size list = list.take size := by
  rw [resize, Nat.sub_eq_zero_of_le shorter]
  exact append_nil _

/-- The fields of `GenericLlmRequest` that `pause` reads or writes. -/
structure PausableRequest (LogProb : Type) where
  state : LlmRequestState := .contextInit
  /-- Whether there are encoder tokens or encoder input features. -/
  hasEncoderInput : Bool := false
  tokens : List Int32
  uniqueTokens : List UniqueToken
  promptLen : Nat
  origPromptLen : Nat
  maxNewTokens : Int
  returnLogProbs : Bool
  logProbs : List LogProb := []
  contextCurrentPosition : Nat := 0
  prepopulatedPromptLen : Nat := 0
  contextChunkSize : Nat
  seqSlot : Option Nat := none

namespace PausableRequest

variable {LogProb : Type} [Zero LogProb]

/-- `initialize` -/
def create (inputTokens : List UniqueToken) (maxNewTokens : Int) (returnLogProbs : Bool) :
    PausableRequest LogProb where
  tokens := inputTokens.map UniqueToken.tokenId
  uniqueTokens := inputTokens
  promptLen := inputTokens.length
  origPromptLen := inputTokens.length
  maxNewTokens := maxNewTokens
  returnLogProbs := returnLogProbs
  contextChunkSize := inputTokens.length

def addNewToken (request : PausableRequest LogProb) (token : Int32) : PausableRequest LogProb :=
  { request with
    tokens := request.tokens ++ [token]
    uniqueTokens := request.uniqueTokens ++ [{ tokenId := token, tokenExtraId := 0 }] }

def setLogProbs (request : PausableRequest LogProb) (logProbs : List LogProb) :
    PausableRequest LogProb :=
  { request with
    logProbs := resize 0 (request.promptLen - request.origPromptLen) request.logProbs ++ logProbs }

/-- `pause`; a negative size of the log probabilities is a `std::length_error`. -/
def pause (request : PausableRequest LogProb) (maxInputLen : Nat) :
    Except Unit (PausableRequest LogProb) :=
  -- `mPromptLen + getMaxNumGeneratedTokens()` is the number of tokens
  let newPromptLen := min maxInputLen request.tokens.length
  if request.returnLogProbs ∧ newPromptLen < request.promptLen then .error ()
  else .ok { request with
    tokens := resize 0 newPromptLen request.tokens
    uniqueTokens := resize { tokenId := 0 } newPromptLen request.uniqueTokens
    logProbs := if request.returnLogProbs then
        resize 0 (newPromptLen - request.promptLen) request.logProbs
      else request.logProbs
    maxNewTokens := request.maxNewTokens - ((newPromptLen : Int) - request.promptLen)
    promptLen := newPromptLen
    state := if request.hasEncoderInput then .encoderInit else .contextInit
    contextCurrentPosition := 0
    prepopulatedPromptLen := 0
    contextChunkSize := newPromptLen
    seqSlot := none }

/-- What happens to a request: an accepted token, or a pause. -/
inductive Event (LogProb : Type) where
  | generate (token : Int32) (logProb : LogProb)
  | pause (maxInputLen : Nat)

/-- A request with the tokens after its original prompt as the decoder reported them. -/
structure Decoding (LogProb : Type) where
  request : PausableRequest LogProb
  reported : List (Int32 × LogProb) := []

/-- The decoder has the log probabilities from the current prompt on, and all of them are set with
each token. -/
def Decoding.step (d : Decoding LogProb) : Event LogProb → Except Unit (Decoding LogProb)
  | .generate token logProb =>
    let reported := d.reported ++ [(token, logProb)]
    let decoded := (reported.drop (d.request.promptLen - d.request.origPromptLen)).map Prod.snd
    .ok { request := { d.request.addNewToken token with
            logProbs := if d.request.returnLogProbs then (d.request.setLogProbs decoded).logProbs
              else d.request.logProbs }
          reported }
  | .pause maxInputLen => do
      let request ← d.request.pause maxInputLen
      return { request, reported := d.reported.take (request.promptLen - request.origPromptLen) }

/-- A pause comes while no generated token has been moved into the prompt. -/
def Decoding.Original (d : Decoding LogProb) : Event LogProb → Prop
  | .generate _ _ => True
  | .pause _ => d.request.promptLen = d.request.origPromptLen

instance (d : Decoding LogProb) : (event : Event LogProb) → Decidable (d.Original event)
  | .generate _ _ => isTrue trivial
  | .pause _ => inferInstanceAs (Decidable (_ = _))

variable {d next : Decoding LogProb} {maxInputLen : Nat} {events : List (Event LogProb)}

/-- A pause, with what its check leaves. -/
theorem step_pause (stepped : d.step (.pause maxInputLen) = .ok next) :
    (d.request.returnLogProbs = true →
      d.request.promptLen ≤ min maxInputLen d.request.tokens.length) ∧
      d.request.pause maxInputLen = .ok next.request ∧
      next.reported = d.reported.take (next.request.promptLen - next.request.origPromptLen) := by
  simp only [Decoding.step, Except.bind_eq_ok, Except.pure_eq_ok] at stepped
  obtain ⟨request, paused, rfl⟩ := stepped
  refine ⟨fun returned => Nat.le_of_not_lt fun shorter => ?_, paused, rfl⟩
  simp [pause, returned, shorter] at paused

/-! ## Tokens -/

/-- What every event keeps. -/
structure Kept (total : Int) (request : PausableRequest LogProb) : Prop where
  budget : request.promptLen + request.maxNewTokens = total
  unique : request.uniqueTokens.map UniqueToken.tokenId = request.tokens
  prompt : request.promptLen ≤ request.tokens.length

/-- A pause keeps the tokens up to the maximum input length. -/
theorem Kept.pause {total : Int} {request paused : PausableRequest LogProb}
    (kept : Kept total request) (stepped : request.pause maxInputLen = .ok paused) :
    Kept total paused ∧ paused.tokens = request.tokens.take maxInputLen := by
  obtain ⟨budget, unique, prompt⟩ := kept
  have sameLength : request.uniqueTokens.length = request.tokens.length := by
    rw [← unique, length_map]
  unfold PausableRequest.pause at stepped
  dsimp only at stepped
  split at stepped
  · cases stepped
  · cases stepped
    rw [resize_of_le (Nat.min_le_right _ _), resize_of_le (sameLength ▸ Nat.min_le_right _ _),
      ← take_eq_take_min]
    refine ⟨⟨by dsimp only; omega, ?_, ?_⟩, rfl⟩
    · dsimp only
      rw [sameLength.symm, ← take_eq_take_min, map_take, unique]
    · exact Nat.le_of_eq (length_take ..).symm

theorem Kept.step {total : Int} {event : Event LogProb} (kept : Kept total d.request)
    (stepped : d.step event = .ok next) : Kept total next.request := by
  cases event with
  | generate token logProb =>
    cases stepped
    refine ⟨kept.budget, ?_, ?_⟩
    · simp [addNewToken, kept.unique]
    · simpa [addNewToken] using Nat.le_succ_of_le kept.prompt
  | pause maxInputLen => exact (kept.pause (step_pause stepped).2.1).1

/-! ## Log probabilities -/

/-- The log probabilities are those reported for the tokens after the original prompt. -/
structure Lined (prompt : List Int32) (d : Decoding LogProb) : Prop where
  returned : d.request.returnLogProbs = true
  orig : d.request.origPromptLen = prompt.length
  bounds : prompt.length ≤ d.request.promptLen ∧
    d.request.promptLen ≤ prompt.length + d.reported.length
  tokens : d.request.tokens = prompt ++ d.reported.map Prod.fst
  logProbs : d.request.logProbs = d.reported.map Prod.snd

variable {prompt : List Int32}

theorem Lined.generate (lined : Lined prompt d) {token : Int32} {logProb : LogProb}
    (stepped : d.step (.generate token logProb) = .ok next) :
    Lined prompt next := by
  obtain ⟨returned, orig, bounds, tokens, logProbs⟩ := lined
  cases stepped
  refine ⟨returned, orig, ?_, ?_, ?_⟩
  · simp only [addNewToken, length_append, length_cons, length_nil]
    omega
  · simp [addNewToken, tokens]
  · -- the part before the current prompt is kept, the rest is set again
    have moved : d.request.promptLen - d.request.origPromptLen ≤ d.reported.length := by omega
    simp only [returned, if_true, setLogProbs, logProbs,
      resize_of_le (Nat.le_trans moved (Nat.le_of_eq (length_map _).symm)),
      drop_append_of_le_length moved, map_append, map_drop, ← append_assoc,
      take_append_drop]

/-- A pause of the original prompt keeps the log probabilities of the tokens that it keeps. -/
theorem Lined.pause (lined : Lined prompt d) (original : d.Original (.pause maxInputLen))
    (stepped : d.step (.pause maxInputLen) = .ok next) : Lined prompt next := by
  obtain ⟨returned, orig, -, tokens, logProbs⟩ := lined
  obtain ⟨longer, paused, reported⟩ := step_pause stepped
  have length : d.request.tokens.length = prompt.length + d.reported.length := by simp [tokens]
  have longer := longer returned
  have first : d.request.promptLen = prompt.length := original.trans orig
  simp only [PausableRequest.pause, returned, Nat.not_lt.mpr longer, and_false, if_false, if_true]
    at paused
  have same := Except.ok.inj paused
  rw [← same] at reported
  dsimp only at reported
  rw [orig] at reported
  refine ⟨same ▸ rfl, same ▸ orig, ?_, ?_, ?_⟩
  · rw [← same, reported, length_take]
    dsimp only
    omega
  · rw [← same, reported]
    dsimp only
    rw [resize_of_le (Nat.min_le_right _ _), length, tokens, take_append, map_take,
      take_of_length_le (by omega)]
  · rw [← same, reported]
    dsimp only
    rw [logProbs, first, resize_of_le (by rw [length_map]; omega), map_take]

theorem Lined.step {event : Event LogProb} (lined : Lined prompt d) (original : d.Original event)
    (stepped : d.step event = .ok next) : Lined prompt next := by
  cases event with
  | generate token logProb => exact lined.generate stepped
  | pause maxInputLen => exact lined.pause original stepped

/-- Any number of cycles keeps the token budget and the unique tokens, and a pause keeps the tokens
within the maximum input length. The log probabilities line up with the tokens after the original
prompt if it is paused only while its prompt is the original one, as at the first pause. -/
theorem pause_resume (inputTokens : List UniqueToken) (maxNewTokens : Int) (returnLogProbs : Bool)
    {result : Decoding LogProb}
    (ran : events.foldlM Decoding.step
      { request := create inputTokens maxNewTokens returnLogProbs } = .ok result) :
    result.request.promptLen + result.request.maxNewTokens = inputTokens.length + maxNewTokens ∧
      result.request.uniqueTokens.map UniqueToken.tokenId = result.request.tokens ∧
      (∀ maxInputLen paused, result.request.tokens.length ≤ maxInputLen →
        result.request.pause maxInputLen = .ok paused →
          paused.tokens = result.request.tokens) ∧
      (returnLogProbs = true →
        Run.Reaches Decoding.step Decoding.Original
          { request := create inputTokens maxNewTokens returnLogProbs } result →
        result.request.tokens =
            inputTokens.map UniqueToken.tokenId ++ result.reported.map Prod.fst ∧
          result.request.logProbs = result.reported.map Prod.snd) := by
  have kept : Kept (inputTokens.length + maxNewTokens) result.request :=
    List.foldlM_invariant (fun d : Decoding LogProb => Kept _ d.request)
      (fun _ _ _ _ kept stepped => kept.step stepped)
      ⟨rfl, rfl, Nat.le_of_eq (List.length_map _).symm⟩ ran
  refine ⟨kept.budget, kept.unique, ?_, ?_⟩
  · intro maxInputLen paused short stepped
    rw [(kept.pause stepped).2, List.take_of_length_le short]
  · intro returned reached
    have start : Lined (inputTokens.map UniqueToken.tokenId)
        ({ request := create inputTokens maxNewTokens returnLogProbs } : Decoding LogProb) :=
      ⟨returned, by simp [create], by simp [create], by simp [create], rfl⟩
    have lined := reached.invariant start fun _ _ _ lined original => lined.step original
    exact ⟨lined.tokens, lined.logProbs⟩

/-- A pause before the first token, a token, a pause, and a second token. -/
theorem pause_resume_once : ∃ result : Decoding Nat,
    [.pause 4, .generate 7 1, .pause 4, .generate 8 2].foldlM Decoding.step
        { request := create [{ tokenId := 5 }] 3 true } = .ok result ∧
      result.request.tokens = [5, 7, 8] ∧ result.request.logProbs = [1, 2] := by
  let events : List (Event Nat) := [.pause 4, .generate 7 1, .pause 4, .generate 8 2]
  let start : Decoding Nat := { request := create [{ tokenId := 5 }] 3 true }
  obtain ⟨result, traced, ran⟩ : ∃ result,
      Run.trace Decoding.step Decoding.Original events start = some result ∧
        events.foldlM Decoding.step start = .ok result := ⟨_, rfl, rfl⟩
  have lined := (pause_resume _ _ _ ran).2.2.2 rfl (Run.reaches_of_trace traced)
  cases ran
  exact ⟨_, rfl, lined⟩

/-- The second pause cuts the log probabilities to the one token that it moves. -/
theorem second_pause_loses_logProb : ∃ result : Decoding Nat,
    [.generate 7 1, .pause 4, .generate 8 2, .pause 4].foldlM Decoding.step
        { request := create [{ tokenId := 5 }] 3 true } = .ok result ∧
      result.request.tokens = [5, 7, 8] ∧ result.request.logProbs = [1] :=
  ⟨_, rfl, rfl, rfl⟩

end PausableRequest

end TrtLlm
