import Mathlib.Data.List.Sort
import TrtLlm.KvCache.KVCacheManager

/-! # The retention of the blocks of a prompt

The constructor of `KvCacheRetentionConfig` sorts the token ranges and rejects ranges that overlap.
The loops that give each block its retention go over the sorted ranges once. Each block gets the
retention of the only range its first token is in.
-/

namespace TrtLlm

open List

namespace KvCacheRetentionConfig

/-- Why the constructor throws. The positions of a range are natural numbers here, so that the
check for negative ones is left out. -/
inductive InvalidArgument where
  /-- "Invalid use of end indicator." -/
  | endIndicator
  /-- "Range must have a positive, non-zero length." -/
  | emptyRange
  /-- "Token ranges must be non-overlapping." -/
  | overlap
  deriving DecidableEq, Repr

/-- The loop of the constructor over the sorted ranges. -/
def checkRanges : List TokenRangeRetentionConfig → Except InvalidArgument Unit
  | [] => .ok ()
  | entry :: rest =>
    if entry.tokenEnd = none ∧ rest ≠ [] then .error .endIndicator
    else if entry.tokenEnd.any (· ≤ entry.tokenStart) then .error .emptyRange
    else if rest.head?.any fun next => entry.tokenEnd.any (next.tokenStart < ·) then
      .error .overlap
    else checkRanges rest

/-- The constructor. -/
def create (tokenRangeRetentionPriorities : List TokenRangeRetentionConfig)
    (decodeRetentionPriority : RetentionPriority) (decodeDurationMs : Option Nat) :
    Except InvalidArgument KvCacheRetentionConfig := do
  let sorted := tokenRangeRetentionPriorities.insertionSort (·.tokenStart ≤ ·.tokenStart)
  checkRanges sorted
  return ⟨sorted, decodeRetentionPriority, decodeDurationMs⟩

/-! ## Ranges that do not overlap -/

/-- The tokens of a range. -/
def covers (token : Nat) (range : TokenRangeRetentionConfig) : Bool :=
  range.tokenStart ≤ token && range.tokenEnd.all (token < ·)

/-- What a token is retained with: the first range it is in, if any. -/
def retentionAt (ranges : List TokenRangeRetentionConfig) (token : Nat) :
    RetentionPriorityAndDuration :=
  match ranges.find? (covers token) with
  | some range => ⟨some range.priority, range.durationMs⟩
  | none => ⟨none, none⟩

/-- A range ends before another one starts. -/
def Before (range next : TokenRangeRetentionConfig) : Prop :=
  ∃ tokenEnd ∈ range.tokenEnd, range.tokenStart < tokenEnd ∧ tokenEnd ≤ next.tokenStart

variable {ranges sorted : List TokenRangeRetentionConfig} {entry : TokenRangeRetentionConfig}
  {token blockSize seqLen tokenLoc : Nat}

theorem pairwise_before (checked : checkRanges ranges = .ok ()) : ranges.Pairwise Before := by
  induction ranges with
  | nil => exact .nil
  | cons entry rest ih =>
    unfold checkRanges at checked
    split_ifs at checked with ends positive overlaps
    have later := ih checked
    refine .cons ?_ later
    cases rest with
    | nil => simp
    | cons next rest =>
      obtain ⟨tokenEnd, isEnd⟩ := Option.ne_none_iff_exists'.mp fun none => ends ⟨none, by simp⟩
      simp only [isEnd, Option.any_some, head?_cons, decide_eq_true_eq, not_le, not_lt]
        at positive overlaps
      have first : Before entry next := ⟨tokenEnd, isEnd, positive, overlaps⟩
      rintro range (_ | ⟨_, mem⟩)
      · exact first
      · obtain ⟨nextEnd, -, nonempty, le⟩ := rel_of_pairwise_cons later mem
        exact ⟨tokenEnd, isEnd, positive, by omega⟩

theorem covers_of_lt (lt : token < entry.tokenStart) : covers token entry = false := by
  simp only [covers, Nat.not_le.mpr lt, decide_false, Bool.false_and]

/-- After the end of a range no other range that is before it has the token. -/
theorem Before.covers_eq_false {next : TokenRangeRetentionConfig} (before : Before entry next)
    (covered : covers token entry) : covers token next = false := by
  obtain ⟨tokenEnd, isEnd, -, le⟩ := before
  simp only [covers, Option.mem_def.mp isEnd, Option.all_some, Bool.and_eq_true,
    decide_eq_true_eq] at covered
  exact covers_of_lt (by omega)

/-- No two ranges share a token. -/
theorem length_filter_covers (apart : ranges.Pairwise Before) (token : Nat) :
    (ranges.filter (covers token)).length ≤ 1 := by
  induction apart with
  | nil => simp
  | @cons entry rest first _ ih =>
    cases covered : covers token entry with
    | true =>
      have others : rest.filter (covers token) = [] := filter_eq_nil_iff.mpr fun next mem => by
        simp [(first next mem).covers_eq_false covered]
      simp [covered, others]
    | false => simpa [covered] using ih

theorem retentionAt_perm (perm : sorted ~ ranges)
    (few : (sorted.filter (covers token)).length ≤ 1) :
    retentionAt sorted token = retentionAt ranges token := by
  have same : sorted.filter (covers token) = ranges.filter (covers token) := by
    have filtered := perm.filter (covers token)
    match sorted.filter (covers token), few, filtered with
    | [], _, filtered => exact filtered.nil_eq
    | [_], _, filtered => exact filtered.singleton_eq
  unfold retentionAt
  rw [← head?_filter, same, head?_filter]

/-! ## The loops -/

theorem retentionAt_of_lt (apart : (entry :: ranges).Pairwise Before)
    (lt : token < entry.tokenStart) : retentionAt (entry :: ranges) token = ⟨none, none⟩ := by
  have out : (entry :: ranges).find? (covers token) = none := by
    refine find?_eq_none.mpr ?_
    rintro range (_ | ⟨_, mem⟩)
    · simp [covers_of_lt lt]
    · obtain ⟨tokenEnd, -, positive, le⟩ := rel_of_pairwise_cons apart mem
      simp [covers_of_lt (by omega : token < range.tokenStart)]
  rw [retentionAt, out]

theorem ceilDiv_sub (pos : 0 < blockSize) (lt : tokenLoc < seqLen) :
    ceilDiv (seqLen - tokenLoc) blockSize =
      ceilDiv (seqLen - (tokenLoc + blockSize)) blockSize + 1 := by
  unfold ceilDiv
  rcases Nat.le_total seqLen (tokenLoc + blockSize) with last | more
  · rw [Nat.sub_eq_zero_of_le last, Nat.div_eq_of_lt (by omega : 0 + blockSize - 1 < blockSize)]
    exact Nat.div_eq_of_lt_le (by omega) (by omega)
  · rw [← Nat.add_div_right _ pos]
    congr 1
    omega

/-- The retentions of the blocks from a token on. -/
def retentionsFrom (ranges : List TokenRangeRetentionConfig) (blockSize seqLen tokenLoc : Nat) :
    List RetentionPriorityAndDuration :=
  (List.range (ceilDiv (seqLen - tokenLoc) blockSize)).map fun block =>
    retentionAt ranges (tokenLoc + block * blockSize)

theorem retentionsFrom_step (pos : 0 < blockSize) (lt : tokenLoc < seqLen) :
    retentionsFrom ranges blockSize seqLen tokenLoc =
      retentionAt ranges tokenLoc ::
        retentionsFrom ranges blockSize seqLen (tokenLoc + blockSize) := by
  simp [retentionsFrom, ceilDiv_sub pos lt, range_succ_eq_map, Nat.succ_mul, Nat.add_assoc,
    Nat.add_comm blockSize, Function.comp_def]

theorem retentionsFrom_end (pos : 0 < blockSize) (le : seqLen ≤ tokenLoc) :
    retentionsFrom ranges blockSize seqLen tokenLoc = [] := by
  rw [retentionsFrom, Nat.sub_eq_zero_of_le le, ceilDiv, Nat.div_eq_of_lt (by omega)]
  rfl

theorem retentionsFrom_of_ended (ended : entry.tokenEnd.any (· ≤ tokenLoc)) :
    retentionsFrom (entry :: ranges) blockSize seqLen tokenLoc =
      retentionsFrom ranges blockSize seqLen tokenLoc := by
  obtain ⟨tokenEnd, isEnd, past⟩ := (Option.any_eq_true ..).mp ended
  have past := of_decide_eq_true past
  refine map_congr_left fun block _ => ?_
  have out : covers (tokenLoc + block * blockSize) entry = false := by
    simp [covers, isEnd]
    omega
  rw [retentionAt, find?_cons_of_neg (by simp [out]), retentionAt]

theorem rangeBlocks_eq (pos : 0 < blockSize) {fuel : Nat}
    (enough : seqLen - tokenLoc + ranges.length ≤ fuel) (apart : ranges.Pairwise Before) :
    rangeBlocks blockSize seqLen fuel tokenLoc ranges =
      retentionsFrom ranges blockSize seqLen tokenLoc := by
  induction fuel generalizing tokenLoc ranges with
  | zero => rw [rangeBlocks, retentionsFrom_end pos (by omega)]
  | succ fuel ih =>
    unfold rangeBlocks
    split
    · rename_i lt
      split
      · rw [ih (by omega) apart, retentionsFrom_step pos lt]
        rfl
      · rename_i entry rest
        rw [length_cons] at enough
        split
        · rename_i ended
          rw [ih (by omega) apart.of_cons, retentionsFrom_of_ended ended]
        · rename_i lasts
          rw [ih (by rw [length_cons]; omega) apart, retentionsFrom_step pos lt]
          congr 1
          split
          · rename_i early
            exact (retentionAt_of_lt apart early).symm
          · rename_i begun
            have inside : covers tokenLoc entry = true := by
              cases isEnd : entry.tokenEnd <;> simp_all [covers]
            rw [retentionAt, find?_cons_of_pos inside]
    · exact (retentionsFrom_end pos (by omega)).symm

/-- The first loop passes some blocks that start before the first range. -/
theorem leadingBlocks_eq (pos : 0 < blockSize) (apart : (entry :: ranges).Pairwise Before)
    (fuel tokenLoc : Nat) : ∃ count, leadingBlocks blockSize seqLen entry.tokenStart fuel tokenLoc =
        tokenLoc + count * blockSize ∧
      retentionsFrom (entry :: ranges) blockSize seqLen tokenLoc =
        replicate count ⟨none, none⟩ ++
          retentionsFrom (entry :: ranges) blockSize seqLen (tokenLoc + count * blockSize) := by
  induction fuel generalizing tokenLoc with
  | zero => exact ⟨0, by simp [leadingBlocks]⟩
  | succ fuel ih =>
    unfold leadingBlocks
    split
    · rename_i early
      obtain ⟨count, reached, rest⟩ := ih (tokenLoc + blockSize)
      have next : tokenLoc + (count + 1) * blockSize = tokenLoc + blockSize +
          count * blockSize := by
        rw [Nat.succ_mul]
        omega
      refine ⟨count + 1, by rw [reached, next], ?_⟩
      rw [retentionsFrom_step pos early.2, retentionAt_of_lt apart early.1, rest, next]
      rfl
    · exact ⟨0, by simp⟩

theorem perBlock_eq (config : KvCacheRetentionConfig) (pos : 0 < blockSize) (seqLen : Nat)
    (apart : config.tokenRangeRetentionConfigs.Pairwise Before) :
    config.getPerBlockRetentionPriorityDuration blockSize seqLen =
      retentionsFrom config.tokenRangeRetentionConfigs blockSize seqLen 0 := by
  unfold getPerBlockRetentionPriorityDuration
  cases ranges : config.tokenRangeRetentionConfigs with
  | nil => simp [rangeBlocks_eq pos]
  | cons entry rest =>
    rw [ranges] at apart
    obtain ⟨count, reached, all⟩ := leadingBlocks_eq pos apart seqLen 0
    dsimp only
    rw [reached, all, rangeBlocks_eq pos (by omega) apart, Nat.zero_add,
      Nat.mul_div_cancel _ pos]

/-- Each block of a prompt gets the retention of the only range its first token is in. -/
theorem perBlock_retention {ranges : List TokenRangeRetentionConfig} {priority : RetentionPriority}
    {duration : Option Nat} {config : KvCacheRetentionConfig} {blockSize : Nat}
    (created : create ranges priority duration = .ok config) (pos : 1 ≤ blockSize) (seqLen : Nat) :
    (config.getPerBlockRetentionPriorityDuration blockSize seqLen).length =
        ceilDiv seqLen blockSize ∧
      ∀ block < ceilDiv seqLen blockSize,
        (ranges.filter (covers (block * blockSize))).length ≤ 1 ∧
        (config.getPerBlockRetentionPriorityDuration blockSize seqLen)[block]? =
          some (retentionAt ranges (block * blockSize)) := by
  simp only [create, bind, Except.bind] at created
  split at created
  · cases created
  · rename_i checked
    cases created
    have apart := pairwise_before checked
    have perm := perm_insertionSort (·.tokenStart ≤ ·.tokenStart) ranges
    rw [perBlock_eq _ pos seqLen apart]
    refine ⟨by simp [retentionsFrom], fun block lt => ?_⟩
    have few := length_filter_covers apart (block * blockSize)
    refine ⟨(perm.filter _).length_eq ▸ few, ?_⟩
    simp [retentionsFrom, lt, retentionAt_perm perm few]

theorem perBlock_retention_unsorted :
    ∃ config, create [⟨4, none, 80, none⟩, ⟨0, some 2, 30, none⟩] 35 none = .ok config ∧
      (config.getPerBlockRetentionPriorityDuration 2 5)[2]? = some ⟨some 80, none⟩ :=
  Exists.imp (fun _ created =>
    ⟨created, ((perBlock_retention created (by decide) 5).2 2 (by decide)).2⟩) ⟨_, rfl⟩

end KvCacheRetentionConfig

end TrtLlm
