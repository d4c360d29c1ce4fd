import TrtLlm.KvCache.KVCacheManager

/-!
# The attention window that a block capacity allows

`calculateMaxAttentionWindow` inverts `calculateMaxBlockRequirements`, but leaves out the extra
block of a sliding window and the context tokens that do not fill a block. The blocks needed under
the window are within the capacity where neither counts.
-/

namespace TrtLlm

namespace KVCacheManager

/-- `kSWAExtraBlock` -/
def kSWAExtraBlock : Nat := 1

def getSinkBubbleLength (sinkTokenLen tokensPerBlock : Nat) : Nat :=
  let sinkTokensInLastBlock := sinkTokenLen % tokensPerBlock
  if sinkTokensInLastBlock = 0 then 0 else tokensPerBlock - sinkTokensInLastBlock

def calculateMaxBlockRequirementsPerBeam
    (sequenceLength sinkTokenLength windowSize tokensPerBlock : Nat) : Nat :=
  let actualMaxTokenNum :=
    min sequenceLength windowSize + getSinkBubbleLength sinkTokenLength tokensPerBlock
  let numBlocks := ceilDiv actualMaxTokenNum tokensPerBlock
  if windowSize < sequenceLength then numBlocks + kSWAExtraBlock else numBlocks

def calculateMaxBlockRequirements
    (inputLength outputLength sinkTokenLength windowSize beamWidth tokensPerBlock : Nat) : Nat :=
  let wholeSequenceLength := inputLength + outputLength
  if beamWidth = 1 then
    calculateMaxBlockRequirementsPerBeam wholeSequenceLength sinkTokenLength windowSize
      tokensPerBlock
  else if windowSize ≤ outputLength then
    calculateMaxBlockRequirementsPerBeam outputLength sinkTokenLength windowSize tokensPerBlock *
      beamWidth
  else
    let numContextTokensInAttentionWindow := min windowSize wholeSequenceLength - outputLength
    let sinkBubbleLength := getSinkBubbleLength sinkTokenLength tokensPerBlock
    let numContextBlocks := (numContextTokensInAttentionWindow + sinkBubbleLength) / tokensPerBlock
    -- `leftoverContextToken` is negative where the bubble completes a block, so it is added to the
    -- output before the context blocks are taken off; a sum below zero rounds up to no block
    let numOutputBlocks := ceilDiv
      (outputLength + numContextTokensInAttentionWindow - numContextBlocks * tokensPerBlock)
      tokensPerBlock
    numContextBlocks +
      (if windowSize < wholeSequenceLength then numOutputBlocks + kSWAExtraBlock
        else numOutputBlocks) * beamWidth

def calculateMaxAttentionWindow
    (inputLength outputLength sinkTokenLength blockCapacity beamWidth tokensPerBlock : Nat) : Nat :=
  let outputBlockRequirements := calculateMaxBlockRequirements 0 outputLength sinkTokenLength
    outputLength beamWidth tokensPerBlock
  if blockCapacity < outputBlockRequirements then blockCapacity / beamWidth * tokensPerBlock
  else
    min (outputLength + (blockCapacity - outputBlockRequirements) * tokensPerBlock)
      (inputLength + outputLength)

/-- What the inversion leaves out does no harm. -/
def WindowFits
    (inputLength outputLength sinkTokenLength blockCapacity beamWidth tokensPerBlock : Nat) :
    Prop :=
  let bubble := getSinkBubbleLength sinkTokenLength tokensPerBlock
  let outputBlocks := ceilDiv (outputLength + bubble) tokensPerBlock
  let leftover := blockCapacity - outputBlocks * beamWidth
  if blockCapacity < outputBlocks * beamWidth then
    -- The output alone is too long, but only for the bubble: the sequence does not slide, or the
    -- bubble makes the first block one of the context, and the capacity has a block to spare.
    let window := blockCapacity / beamWidth * tokensPerBlock
    beamWidth ≠ 1 ∧ outputLength < window ∧ (inputLength + outputLength ≤ window ∨
      tokensPerBlock + outputLength ≤ window + bubble ∧ blockCapacity % beamWidth ≠ 0)
  else if inputLength ≤ leftover * tokensPerBlock then
    -- The sequence does not slide. The context tokens that do not fill a block need no output
    -- block, or there is one for each beam.
    let contextBlocks := (inputLength + bubble) / tokensPerBlock
    beamWidth = 1 ∨
      ceilDiv (outputLength + inputLength - contextBlocks * tokensPerBlock) tokensPerBlock ≤
        outputBlocks ∨ contextBlocks + beamWidth ≤ leftover
  else
    -- The sequence slides, over the output only, or the bubble has been given the extra block.
    beamWidth ≠ 1 ∧ (leftover = 0 ∨ ceilDiv outputLength tokensPerBlock < outputBlocks)

section Fits

variable {inputLength outputLength sinkTokenLength blockCapacity beamWidth tpb : Nat}

/-- The blocks of the output alone, whose window is its own length: it never slides. -/
theorem outputRequirements_eq : calculateMaxBlockRequirements 0 outputLength sinkTokenLength
      outputLength beamWidth tpb =
    ceilDiv (outputLength + getSinkBubbleLength sinkTokenLength tpb) tpb * beamWidth := by
  unfold calculateMaxBlockRequirements calculateMaxBlockRequirementsPerBeam
  by_cases single : beamWidth = 1
  · simp [single]
  · simp [single]

theorem ceilDiv_le_iff (positive : 0 < tpb) {tokens blocks : Nat} :
    ceilDiv tokens tpb ≤ blocks ↔ tokens ≤ blocks * tpb := by
  unfold ceilDiv
  rw [← Nat.lt_succ_iff, Nat.div_lt_iff_lt_mul positive, Nat.succ_mul]
  omega

theorem ceilDiv_add_mul (positive : 0 < tpb) (tokens blocks : Nat) :
    ceilDiv (tokens + blocks * tpb) tpb = ceilDiv tokens tpb + blocks := by
  unfold ceilDiv
  rw [← Nat.add_mul_div_right _ _ positive]
  congr 1
  omega

theorem bubble_lt (sinkTokenLength : Nat) (positive : 0 < tpb) :
    getSinkBubbleLength sinkTokenLength tpb < tpb := by
  unfold getSinkBubbleLength
  dsimp only
  split
  · exact positive
  · omega

variable {bubble outputBlocks : Nat} (positive : 0 < tpb)
  (isBubble : getSinkBubbleLength sinkTokenLength tpb = bubble)
  (isOutput : ceilDiv (outputLength + bubble) tpb = outputBlocks)

include isBubble

theorem requirementsPerBeam_eq (sequenceLength window : Nat) :
    calculateMaxBlockRequirementsPerBeam sequenceLength sinkTokenLength window tpb =
      ceilDiv (min sequenceLength window + bubble) tpb +
        if window < sequenceLength then kSWAExtraBlock else 0 := by
  unfold calculateMaxBlockRequirementsPerBeam
  rw [isBubble]
  dsimp only
  split
  · rfl
  · rfl

/-- The requirements of several beams under a window longer than the output. -/
theorem requirements_of_context {context : Nat} (several : beamWidth ≠ 1) (pos : 0 < context) :
    calculateMaxBlockRequirements inputLength outputLength sinkTokenLength
        (outputLength + context) beamWidth tpb =
      (min context inputLength + bubble) / tpb + (ceilDiv (outputLength + min context inputLength -
          (min context inputLength + bubble) / tpb * tpb) tpb +
        if context < inputLength then kSWAExtraBlock else 0) * beamWidth := by
  unfold calculateMaxBlockRequirements
  rw [if_neg several, if_neg (by omega), Nat.add_comm inputLength, Nat.add_min_add_left,
    Nat.add_sub_cancel_left, isBubble]
  simp only [Nat.add_lt_add_iff_left]
  split
  · rfl
  · rfl

include isOutput

/-- The requirements of several beams under the window of the output. -/
theorem requirements_of_output (several : beamWidth ≠ 1) :
    calculateMaxBlockRequirements inputLength outputLength sinkTokenLength outputLength beamWidth
      tpb = outputBlocks * beamWidth := by
  rw [calculateMaxBlockRequirements, if_neg several, if_pos (Nat.le_refl _),
    requirementsPerBeam_eq isBubble, Nat.min_self, if_neg (Nat.lt_irrefl _), Nat.add_zero, isOutput]

include positive

/-- The whole sequence is in the window. -/
theorem requirements_whole {leftover : Nat} (fits : inputLength ≤ leftover * tpb) :
    calculateMaxBlockRequirements inputLength outputLength sinkTokenLength
        (outputLength + inputLength) beamWidth tpb ≤ outputBlocks * beamWidth + leftover ↔
      beamWidth = 1 ∨
        ceilDiv (outputLength + inputLength - (inputLength + bubble) / tpb * tpb) tpb ≤
          outputBlocks ∨ (inputLength + bubble) / tpb + beamWidth ≤ leftover := by
  have held : outputLength + bubble ≤ outputBlocks * tpb :=
    (ceilDiv_le_iff positive).mp (Nat.le_of_eq isOutput)
  by_cases single : beamWidth = 1
  · subst single
    refine iff_of_true ?_ (.inl rfl)
    rw [calculateMaxBlockRequirements, if_pos rfl, requirementsPerBeam_eq isBubble,
      Nat.add_comm inputLength, Nat.min_self, if_neg (Nat.lt_irrefl _), Nat.mul_one, Nat.add_zero,
      ceilDiv_le_iff positive, Nat.add_mul]
    omega
  rw [or_iff_right single]
  have short := isBubble ▸ bubble_lt sinkTokenLength positive
  have rest := Nat.mod_lt (inputLength + bubble) positive
  have blocks := Nat.div_add_mod' (inputLength + bubble) tpb
  have context : (inputLength + bubble) / tpb ≤ leftover := by
    apply Nat.le_of_lt_succ
    rw [Nat.div_lt_iff_lt_mul positive, Nat.succ_mul]
    omega
  rcases Nat.eq_zero_or_pos inputLength with empty | pos
  · refine iff_of_true ?_ (.inl ((ceilDiv_le_iff positive).mpr (by omega)))
    rw [empty, Nat.add_zero, requirements_of_output isBubble isOutput single]
    exact Nat.le_add_right _ _
  · rw [requirements_of_context isBubble single pos, Nat.min_self, if_neg (Nat.lt_irrefl _),
      Nat.add_zero]
    have most : ceilDiv (outputLength + inputLength - (inputLength + bubble) / tpb * tpb) tpb ≤
        outputBlocks + 1 := by
      rw [ceilDiv_le_iff positive, Nat.succ_mul]
      omega
    constructor
    · intro within
      refine or_iff_not_imp_left.mpr fun more => ?_
      rw [Nat.le_antisymm most (Nat.lt_of_not_le more), Nat.succ_mul] at within
      omega
    · rintro (few | spare)
      · have bound := Nat.mul_le_mul_right beamWidth few
        omega
      · have bound := Nat.mul_le_mul_right beamWidth most
        rw [Nat.succ_mul] at bound
        omega

/-- The window slides over the whole output and a part of the context. -/
theorem requirements_sliding {leftover : Nat} (beams : 0 < beamWidth)
    (few : leftover * tpb < inputLength) :
    calculateMaxBlockRequirements inputLength outputLength sinkTokenLength
        (outputLength + leftover * tpb) beamWidth tpb ≤ outputBlocks * beamWidth + leftover ↔
      beamWidth ≠ 1 ∧ (leftover = 0 ∨ ceilDiv outputLength tpb < outputBlocks) := by
  by_cases single : beamWidth = 1
  · subst single
    refine iff_of_false ?_ fun several => several.1 rfl
    rw [calculateMaxBlockRequirements, if_pos rfl, requirementsPerBeam_eq isBubble,
      Nat.min_eq_right (by omega), if_pos (by omega), Nat.add_right_comm, ceilDiv_add_mul positive,
      isOutput, kSWAExtraBlock]
    omega
  rw [and_iff_right single]
  rcases Nat.eq_zero_or_pos leftover with empty | pos
  · refine iff_of_true ?_ (.inl empty)
    rw [empty, Nat.zero_mul, Nat.add_zero, requirements_of_output isBubble isOutput single]
    exact Nat.le_add_right _ _
  · have context : (leftover * tpb + bubble) / tpb = leftover := by
      rw [Nat.add_comm, Nat.add_mul_div_right _ _ positive,
        Nat.div_eq_of_lt (isBubble ▸ bubble_lt sinkTokenLength positive), Nat.zero_add]
    rw [requirements_of_context isBubble single (Nat.mul_pos pos positive),
      Nat.min_eq_left (Nat.le_of_lt few), context, Nat.add_sub_cancel, if_pos few, Nat.add_comm,
      Nat.add_le_add_iff_right, Nat.mul_le_mul_right_iff beams, or_iff_right (by omega)]
    rfl

section Short

variable {blocks : Nat} (fewer : blocks < outputBlocks)
include fewer

omit isBubble in
/-- Fewer blocks than those of the output end before its bubble. -/
theorem window_lt_output : blocks * tpb < outputLength + bubble := by
  rw [← Nat.not_le, ← ceilDiv_le_iff positive, isOutput]
  exact Nat.not_le.mpr fewer

/-- A window of such blocks that ends in the sequence needs a block more than it has. -/
theorem lt_requirementsPerBeam {length : Nat} (within : blocks * tpb ≤ length)
    (longer : outputLength ≤ length) :
    blocks < calculateMaxBlockRequirementsPerBeam length sinkTokenLength (blocks * tpb) tpb := by
  have reaches := window_lt_output positive isOutput fewer
  rw [requirementsPerBeam_eq isBubble, Nat.min_eq_right within]
  split
  · rw [Nat.add_comm _ bubble, ceilDiv_add_mul positive, kSWAExtraBlock]
    omega
  · rw [Nat.add_zero, ← Nat.not_le, ceilDiv_le_iff positive]
    omega

/-- Several beams under a window of such blocks that is longer than the output. -/
theorem requirements_short_context {spare : Nat} (several : beamWidth ≠ 1)
    (part : spare < beamWidth) (longer : outputLength < blocks * tpb) :
    calculateMaxBlockRequirements inputLength outputLength sinkTokenLength (blocks * tpb) beamWidth
        tpb ≤ blocks * beamWidth + spare ↔
      inputLength + outputLength ≤ blocks * tpb ∨
        tpb + outputLength ≤ blocks * tpb + bubble ∧ spare ≠ 0 := by
  have small := isBubble ▸ bubble_lt sinkTokenLength positive
  have reaches := window_lt_output positive isOutput fewer
  obtain ⟨context, isWindow⟩ := Nat.exists_eq_add_of_le (Nat.le_of_lt longer)
  have first : blocks = (blocks - 1) + 1 := by
    have : 0 < blocks := Nat.pos_of_mul_pos_right (Nat.zero_lt_of_lt longer)
    omega
  have beamBlocks : blocks * beamWidth = (blocks - 1) * beamWidth + beamWidth := by
    rw [← Nat.succ_mul, Nat.succ_eq_add_one, ← first]
  -- the bubble completes at most one context block
  have one : ∀ context', context' ≤ context →
      (context' + bubble) / tpb = if context' + bubble < tpb then 0 else 1 := by
    intro context' le
    split
    · exact Nat.div_eq_of_lt ‹_›
    · exact Nat.div_eq_of_lt_le (by omega) (by omega)
  rw [isWindow, requirements_of_context isBubble several (by omega), one _ (Nat.min_le_left _ _)]
  rcases Nat.lt_or_ge context inputLength with slide | whole
  · have rest : ∀ n, ceilDiv (blocks * tpb - n * tpb) tpb = blocks - n := by
      intro n
      have zero : ceilDiv 0 tpb = 0 := Nat.le_zero.mp ((ceilDiv_le_iff positive).mpr (by omega))
      rw [← Nat.sub_mul, ← Nat.zero_add ((blocks - n) * tpb), ceilDiv_add_mul positive, zero,
        Nat.zero_add]
    rw [Nat.min_eq_left (Nat.le_of_lt slide), if_pos slide, ← isWindow, rest, kSWAExtraBlock]
    split
    · rw [Nat.sub_zero, Nat.succ_mul]
      omega
    · rw [← first]
      omega
  · refine iff_of_true ?_ (.inl (by omega))
    rw [Nat.min_eq_right whole, if_neg (Nat.not_lt.mpr whole), Nat.add_zero]
    split
    · have few : ceilDiv (outputLength + inputLength - 0 * tpb) tpb ≤ blocks :=
        (ceilDiv_le_iff positive).mpr (by omega)
      have bound := Nat.mul_le_mul_right beamWidth few
      omega
    · have few : ceilDiv (outputLength + inputLength - 1 * tpb) tpb ≤ blocks - 1 := by
        rw [ceilDiv_le_iff positive, Nat.sub_mul]
        omega
      have bound := Nat.mul_le_mul_right beamWidth few
      omega

end Short

/-- The capacity is too small for the output. -/
theorem requirements_short (beams : 0 < beamWidth)
    (short : blockCapacity < outputBlocks * beamWidth) :
    calculateMaxBlockRequirements inputLength outputLength sinkTokenLength
        (blockCapacity / beamWidth * tpb) beamWidth tpb ≤ blockCapacity ↔
      beamWidth ≠ 1 ∧ outputLength < blockCapacity / beamWidth * tpb ∧
        (inputLength + outputLength ≤ blockCapacity / beamWidth * tpb ∨
          tpb + outputLength ≤ blockCapacity / beamWidth * tpb + bubble ∧
            blockCapacity % beamWidth ≠ 0) := by
  have fewer : blockCapacity / beamWidth < outputBlocks :=
    Nat.div_lt_of_lt_mul (by rwa [Nat.mul_comm])
  have capacity := Nat.div_add_mod' blockCapacity beamWidth
  have part := Nat.mod_lt blockCapacity beams
  generalize blockCapacity / beamWidth = blocks at *
  generalize blockCapacity % beamWidth = spare at *
  have reaches := window_lt_output positive isOutput fewer
  by_cases single : beamWidth = 1
  · subst single
    refine iff_of_false ?_ fun several => several.1 rfl
    rw [calculateMaxBlockRequirements, if_pos rfl]
    have whole : blockCapacity = blocks := by omega
    subst whole
    rcases Nat.le_total (blockCapacity * tpb) (inputLength + outputLength) with within | fits
    · exact Nat.not_le.mpr
        (lt_requirementsPerBeam positive isBubble isOutput fewer within (by omega))
    · rw [requirementsPerBeam_eq isBubble, Nat.min_eq_left fits, if_neg (by omega), Nat.add_zero,
        ceilDiv_le_iff positive]
      omega
  rw [and_iff_right single]
  rcases Nat.lt_or_ge outputLength (blocks * tpb) with longer | within
  · rw [and_iff_right longer, ← capacity]
    exact requirements_short_context positive isBubble isOutput fewer single part longer
  · refine iff_of_false ?_ (by omega)
    rw [calculateMaxBlockRequirements, if_neg single, if_pos within]
    have bound := Nat.mul_le_mul_right beamWidth
      (lt_requirementsPerBeam positive isBubble isOutput fewer within (Nat.le_refl _))
    rw [Nat.succ_mul] at bound
    omega

omit isBubble isOutput in
/-- The requirements under the window computed from a capacity are within the capacity exactly if
the window fits. -/
theorem requirements_le_capacity (beams : 0 < beamWidth) :
    calculateMaxBlockRequirements inputLength outputLength sinkTokenLength
        (calculateMaxAttentionWindow inputLength outputLength sinkTokenLength blockCapacity
          beamWidth tpb) beamWidth tpb ≤ blockCapacity ↔
      WindowFits inputLength outputLength sinkTokenLength blockCapacity beamWidth tpb := by
  unfold calculateMaxAttentionWindow WindowFits
  rw [outputRequirements_eq]
  dsimp only
  split
  case isTrue short => exact requirements_short positive rfl rfl beams short
  case isFalse room =>
    obtain ⟨leftover, capacity⟩ := Nat.exists_eq_add_of_le (Nat.le_of_not_lt room)
    rw [capacity, Nat.add_sub_cancel_left, Nat.add_comm inputLength, Nat.add_min_add_left]
    split
    case isTrue fits =>
      rw [Nat.min_eq_right fits]
      exact requirements_whole positive rfl rfl fits
    case isFalse few =>
      rw [Nat.min_eq_left (Nat.le_of_not_le few)]
      exact requirements_sliding positive rfl rfl beams (Nat.lt_of_not_le few)

end Fits

/-- Two beams whose window slides over the output only. -/
theorem requirements_le_capacity_twoBeams :
    calculateMaxBlockRequirements 100 64 0 (calculateMaxAttentionWindow 100 64 0 2 2 64) 2 64 ≤
      2 :=
  (requirements_le_capacity (by decide) (by decide)).mpr (by unfold WindowFits; decide)

/-- The output does not fit, and the window of the blocks per beam still slides over it: four beams
need an extra block each. -/
theorem fourBeams_exceed_capacity :
    calculateMaxAttentionWindow 1024 255 0 12 4 64 = 192 ∧
      ¬ calculateMaxBlockRequirements 1024 255 0 192 4 64 ≤ 12 := by
  decide

end KVCacheManager

end TrtLlm
