import Mathlib.Algebra.Ring.Nat
import Mathlib.Algebra.BigOperators.Group.List.Basic
import Mathlib.Data.List.Sort
import Mathlib.Order.Monotone.Basic

/-! # Two divisions of one range

A range is divided into a number of equal shares, or into segments of given sizes. For two divisions
it is said which parts of one meet a part of the other, and in how many positions.
-/

namespace Shares

/-- How many of the `peer` shares belong to one of the `own` shares. -/
def count (own peer : Nat) : Nat :=
  if own ≤ peer then peer / own else 1

/-- The first of the `peer` shares that belong to a share of the `own` ones. -/
def first (own peer index : Nat) : Nat :=
  if own ≤ peer then index * (peer / own) else index / (own / peer)

/-- The share of the peer belongs to the own share. -/
def Belongs (own peer index other : Nat) : Prop :=
  first own peer index ≤ other ∧ other < first own peer index + count own peer

variable {own peer idx other : Nat}

theorem count_pos (pos : 0 < own) : 0 < count own peer := by
  unfold count
  split
  · rename_i finer
    exact Nat.div_pos finer pos
  · exact Nat.one_pos

theorem belongs_iff_of_le (pos : 0 < own) (finer : own ≤ peer) :
    Belongs own peer idx other ↔ other / (peer / own) = idx := by
  have ratio : 0 < peer / own := Nat.div_pos finer pos
  simp only [Belongs, first, count, if_pos finer]
  rw [Nat.div_eq_iff ratio, Nat.mul_comm idx]
  omega

theorem belongs_iff_of_lt (coarser : peer < own) :
    Belongs own peer idx other ↔ idx / (own / peer) = other := by
  simp only [Belongs, first, count, if_neg (Nat.not_le.mpr coarser)]
  omega

/-- A share of one division belongs to a share of the other one in both directions. -/
theorem belongs_symm (ownPositive : 0 < own) (peerPositive : 0 < peer) :
    Belongs own peer idx other ↔ Belongs peer own other idx := by
  obtain finer | same | coarser := Nat.lt_trichotomy own peer
  · rw [belongs_iff_of_le ownPositive finer.le, belongs_iff_of_lt finer]
  · subst same
    rw [belongs_iff_of_le ownPositive (Nat.le_refl _),
      belongs_iff_of_le ownPositive (Nat.le_refl _),
      Nat.div_self ownPositive, Nat.div_one, Nat.div_one]
    exact eq_comm
  · rw [belongs_iff_of_lt coarser, belongs_iff_of_le peerPositive coarser.le]

/-- Only shares of the peer belong to an own share. -/
theorem lt_of_belongs (divides : own ≤ peer ∨ peer ∣ own) (bound : idx < own)
    (belongs : Belongs own peer idx other) : other < peer := by
  have pos : 0 < own := Nat.zero_lt_of_lt bound
  by_cases finer : own ≤ peer
  · rw [belongs_iff_of_le pos finer] at belongs
    have scaled : other < own * (peer / own) := by
      rw [← Nat.div_lt_iff_lt_mul (Nat.div_pos finer pos), belongs]
      exact bound
    exact scaled.trans_le (Nat.mul_div_le peer own)
  · have coarser := Nat.not_le.mp finer
    rw [belongs_iff_of_lt coarser] at belongs
    have dvd := divides.resolve_left finer
    have ratio : 0 < own / peer := Nat.div_pos coarser.le (Nat.pos_of_dvd_of_pos dvd pos)
    rw [← belongs, Nat.div_lt_iff_lt_mul ratio, Nat.mul_div_cancel' dvd]
    exact bound

end Shares

namespace Segments

open List

/-- The first position of a segment. -/
def start (sizes : List Nat) (index : Nat) : Nat :=
  (sizes.take index).sum

/-- How many positions of the interval from `first` to before `last` lie in a segment. -/
def overlap (sizes : List Nat) (first last index : Nat) : Nat :=
  min (start sizes (index + 1)) last - max (start sizes index) first

/-- The segment and the interval from `first` to before `last` meet. -/
def Meets (sizes : List Nat) (first last index : Nat) : Prop :=
  first < start sizes (index + 1) ∧ start sizes index < last
  deriving Decidable

variable {sizes : List Nat} {first last idx : Nat} {pos : Nat}

@[simp]
theorem start_zero : start sizes 0 = 0 := rfl

theorem start_succ (idx : Nat) : start sizes (idx + 1) = start sizes idx + sizes.getD idx 0 := by
  simp only [start, take_add_one, sum_append]
  cases found : sizes[idx]? <;> simp [List.getD, found]

theorem start_mono : Monotone (start sizes) := by
  apply monotone_nat_of_le_succ
  intro idx
  rw [start_succ]
  exact Nat.le_add_right _ _

theorem start_of_length_le (bound : sizes.length ≤ idx) : start sizes idx = sizes.sum := by
  rw [start, take_of_length_le bound]

theorem lt_length_of_start_lt (below : start sizes idx < sizes.sum) : idx < sizes.length := by
  by_contra beyond
  rw [start_of_length_le (Nat.not_lt.mp beyond)] at below
  exact Nat.lt_irrefl _ below

theorem start_lt_succ (pos : ∀ size ∈ sizes, 0 < size) (bound : idx < sizes.length) :
    start sizes idx < start sizes (idx + 1) := by
  have size : 0 < sizes.getD idx 0 := by
    rw [getD_eq_getElem?_getD, getElem?_eq_getElem bound]
    exact pos _ (getElem_mem bound)
  rw [start_succ]
  omega

/-- Every position lies in a segment. -/
theorem exists_segment (bound : pos < sizes.sum) :
    ∃ idx, start sizes idx ≤ pos ∧ pos < start sizes (idx + 1) := by
  have reached : ∃ idx, pos < start sizes (idx + 1) :=
    ⟨sizes.length, by rwa [start_of_length_le (Nat.le_succ _)]⟩
  refine ⟨Nat.find reached, ?_, Nat.find_spec reached⟩
  cases found : Nat.find reached with
  | zero => exact Nat.zero_le _
  | succ idx =>
    have before : idx < Nat.find reached := by omega
    exact Nat.not_lt.mp (Nat.find_min reached before)

/-- A position lies in one segment only. -/
theorem segment_unique {other : Nat} (here : start sizes idx ≤ pos ∧ pos < start sizes (idx + 1))
    (there : start sizes other ≤ pos ∧ pos < start sizes (other + 1)) : idx = other := by
  obtain below | same | above := Nat.lt_trichotomy idx other
  · have later : start sizes (idx + 1) ≤ start sizes other := start_mono below
    omega
  · exact same
  · have later : start sizes (other + 1) ≤ start sizes idx := start_mono above
    omega

theorem overlap_pos (segment : start sizes idx < start sizes (idx + 1)) (interval : first < last)
    (meets : Meets sizes first last idx) : 0 < overlap sizes first last idx := by
  simp only [Meets] at meets
  simp only [overlap]
  omega

theorem overlap_eq_zero (apart : ¬ Meets sizes first last idx) :
    overlap sizes first last idx = 0 := by
  simp only [Meets] at apart
  simp only [overlap]
  omega

/-- The segments up to one cover the interval up to its end. -/
theorem sum_overlap (ordered : first ≤ last) (count : Nat) :
    ((List.range count).map (overlap sizes first last)).sum =
      min (start sizes count) last - first := by
  induction count with
  | zero => simp
  | succ count ih =>
    have later : start sizes count ≤ start sizes (count + 1) := start_mono (Nat.le_succ count)
    rw [range_succ, map_append, sum_append, ih]
    simp only [overlap, map_cons, map_nil, sum_cons, sum_nil]
    omega

/-- The segments that meet an interval follow each other. -/
theorem Meets.between {lower upper : Nat} (low : Meets sizes first last lower)
    (high : Meets sizes first last upper) (above : lower ≤ idx) (below : idx ≤ upper) :
    Meets sizes first last idx :=
  ⟨low.1.trans_le (start_mono (Nat.succ_le_succ above)), (start_mono below).trans_lt high.2⟩

end Segments

namespace List

open List

/-- An increasing list without gaps is an interval. -/
theorem eq_range'_of_convex {list : List Nat} (sorted : list.Pairwise (· < ·))
    (convex : ∀ lower ∈ list, ∀ upper ∈ list, ∀ idx, lower ≤ idx → idx ≤ upper → idx ∈ list) :
    list = List.range' (list.headD 0) list.length := by
  induction list with
  | nil => rfl
  | cons head tail ih =>
    rw [pairwise_cons] at sorted
    have tailConvex : ∀ lower ∈ tail, ∀ upper ∈ tail, ∀ idx, lower ≤ idx → idx ≤ upper →
        idx ∈ tail := by
      intro lower lowerMem upper upperMem idx above below
      have mem := convex lower (mem_cons_of_mem _ lowerMem) upper
        (mem_cons_of_mem _ upperMem) idx above below
      have := sorted.1 lower lowerMem
      exact (mem_cons.mp mem).resolve_left (by omega)
    have interval := ih sorted.2 tailConvex
    rw [headD_cons, length_cons, range'_succ]
    cases tail with
    | nil => rfl
    | cons next rest =>
      -- The position after the head is in the list, so that the next element is that one.
      have above := sorted.1 next mem_cons_self
      have mem : head + 1 ∈ head :: next :: rest :=
        convex head mem_cons_self next (mem_cons_of_mem _ mem_cons_self)
          (head + 1) (Nat.le_succ _) above
      have following : head + 1 = next := by
        have rest : head + 1 = next ∨ head + 1 ∈ rest := by simpa using mem
        obtain same | later := rest
        · exact same
        · have := (pairwise_cons.mp sorted.2).1 _ later
          omega
      rw [following]
      exact congrArg (head :: ·) interval

/-- Equal shares, of which the first ones get one more. -/
theorem sum_evenly (count base remainder : Nat) :
    ((List.range count).map fun idx => base + if idx < remainder then 1 else 0).sum =
      count * base + min remainder count := by
  induction count with
  | zero => simp
  | succ count ih =>
    rw [range_succ, map_append, sum_append, ih, map_singleton,
      sum_singleton, Nat.succ_mul]
    split <;> omega

/-- The numbers of a range with one remainder. -/
theorem filter_range_mod {modulus remainder : Nat} (bound : remainder < modulus) (count : Nat) :
    (List.range (modulus * count)).filter (fun idx => idx % modulus == remainder) =
      (List.range count).map fun idx => idx * modulus + remainder := by
  induction count with
  | zero => rfl
  | succ count ih =>
    have only : ((List.range modulus).map (modulus * count + ·)).filter
        (fun idx => idx % modulus == remainder) = [count * modulus + remainder] := by
      rw [filter_map]
      have residue : (List.range modulus).filter
          ((fun idx => idx % modulus == remainder) ∘ (modulus * count + ·)) =
            (List.range modulus).filter (· == remainder) := by
        apply filter_congr
        intro idx inRange
        rw [Function.comp_apply, Nat.mul_add_mod, Nat.mod_eq_of_lt (mem_range.mp inRange)]
      rw [residue, filter_beq, count_eq_one_of_mem nodup_range
        (mem_range.mpr bound), Nat.mul_comm]
      rfl
    rw [Nat.mul_succ, range_add, filter_append, ih, only, range_succ,
      map_append]
    rfl

end List

namespace Segments

open List

variable {sizes : List Nat} {first last : Nat} {idx segment : Nat}

/-- The segments that meet an interval, in order. -/
def meeting (sizes : List Nat) (first last : Nat) : List Nat :=
  (List.range sizes.length).filter fun index => Meets sizes first last index

theorem mem_meeting :
    idx ∈ meeting sizes first last ↔ idx < sizes.length ∧ Meets sizes first last idx := by
  simp [meeting]

theorem meeting_eq_range' : meeting sizes first last =
    List.range' ((meeting sizes first last).headD 0) (meeting sizes first last).length := by
  apply eq_range'_of_convex
  · exact pairwise_lt_range.filter _
  · intro lower lowerMem upper upperMem idx above below
    rw [mem_meeting] at *
    exact ⟨by omega, lowerMem.2.between upperMem.2 above below⟩

/-- Segments that do not meet the interval add nothing. -/
theorem sum_filter_overlap (indices : List Nat) :
    ((indices.filter fun idx => Meets sizes first last idx).map
      (overlap sizes first last)).sum = (indices.map (overlap sizes first last)).sum := by
  induction indices with
  | nil => rfl
  | cons idx rest ih =>
    by_cases meets : Meets sizes first last idx
    · rw [filter_cons_of_pos (by simpa using meets), map_cons, map_cons,
        sum_cons, sum_cons, ih]
    · rw [filter_cons_of_neg (by simpa using meets), ih, map_cons, sum_cons,
        overlap_eq_zero meets, Nat.zero_add]

/-- An interval inside of the range is covered by the segments that meet it. -/
theorem sum_meeting (ordered : first ≤ last) (lt : last ≤ sizes.sum) :
    ((meeting sizes first last).map (overlap sizes first last)).sum = last - first := by
  rw [meeting, sum_filter_overlap, sum_overlap ordered, start_of_length_le (Nat.le_refl _)]
  omega

theorem meeting_ne_nil (ordered : first < last) (lt : last ≤ sizes.sum) :
    meeting sizes first last ≠ [] := by
  intro empty
  have total := sum_meeting ordered.le lt
  rw [empty] at total
  simp at total
  omega

/-- The segments that meet an interval follow each other from the first one on. -/
theorem getElem?_meeting (found : (meeting sizes first last)[idx]? = some segment) :
    segment = (meeting sizes first last).headD 0 + idx := by
  obtain ⟨bound, at_index⟩ := List.getElem?_eq_some_iff.mp found
  rw [meeting_eq_range', List.getElem?_range' bound] at found
  simpa using (Option.some.inj found).symm

/-- The interval starts in the first segment that meets it. -/
theorem start_head_le (nonempty : meeting sizes first last ≠ []) :
    start sizes ((meeting sizes first last).headD 0) ≤ first := by
  have headMem : (meeting sizes first last).headD 0 ∈ meeting sizes first last := by
    cases list : meeting sizes first last with
    | nil => exact absurd list nonempty
    | cons head tail => exact mem_cons_self
  obtain ⟨bound, meets⟩ := mem_meeting.mp headMem
  cases head : (meeting sizes first last).headD 0 with
  | zero => exact Nat.zero_le _
  | succ before =>
    -- The segment before the first one does not meet the interval.
    have absent : before ∉ meeting sizes first last := by
      intro mem
      rw [meeting_eq_range', mem_range'_1] at mem
      omega
    rw [mem_meeting] at absent
    rw [head] at bound meets
    have ordered : start sizes before ≤ start sizes (before + 1) := start_mono (Nat.le_succ _)
    simp only [Meets] at absent meets
    omega

/-- The overlaps of the segments before one fill the interval up to that segment. -/
theorem start_overlaps (ordered : first ≤ last) (bound : idx ≤ (meeting sizes first last).length) :
    start ((meeting sizes first last).map (overlap sizes first last)) idx =
      min (start sizes ((meeting sizes first last).headD 0 + idx)) last - first := by
  induction idx with
  | zero =>
    by_cases empty : meeting sizes first last = []
    · simp [empty]
    · have := start_head_le empty
      simp only [start_zero, Nat.add_zero]
      omega
  | succ idx ih =>
    obtain ⟨segment, found⟩ : ∃ segment, (meeting sizes first last)[idx]? = some segment :=
      ⟨_, getElem?_eq_getElem bound⟩
    have place := getElem?_meeting found
    have size : ((meeting sizes first last).map (overlap sizes first last)).getD idx 0 =
        overlap sizes first last segment := by
      rw [getD_eq_getElem?_getD, getElem?_map, found]
      rfl
    have later : start sizes segment ≤ start sizes (segment + 1) := start_mono (Nat.le_succ _)
    rw [start_succ, size, ih (Nat.le_of_succ_le bound), ← Nat.add_assoc, ← place, overlap]
    omega

/-- The segment at an index of those that meet the interval begins in it after the
overlaps of the ones before. -/
theorem start_overlaps_of_getElem? (ordered : first ≤ last)
    (found : (meeting sizes first last)[idx]? = some segment) :
    first + start ((meeting sizes first last).map (overlap sizes first last)) idx =
        max (start sizes segment) first ∧
      ((meeting sizes first last).map (overlap sizes first last)).getD idx 0 =
        overlap sizes first last segment := by
  obtain ⟨bound, -⟩ := List.getElem?_eq_some_iff.mp found
  obtain ⟨-, meets⟩ := mem_meeting.mp (List.mem_of_getElem? found)
  refine ⟨?_, ?_⟩
  · rw [start_overlaps ordered bound.le, ← getElem?_meeting found]
    simp only [Meets] at meets
    omega
  · rw [List.getD_eq_getElem?_getD, List.getElem?_map, found]
    rfl

end Segments

/-- The elements of a list by their indices. -/
theorem List.map_getD_range (list : List Nat) :
    ((List.range list.length).map fun idx => list.getD idx 0) = list := by
  refine List.ext_getElem (by simp) fun idx _ lt => ?_
  simp [lt]
