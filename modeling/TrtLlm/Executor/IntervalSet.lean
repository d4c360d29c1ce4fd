import Mathlib.Data.Finset.Card
import Mathlib.Data.List.TakeWhile

/-! # Interval sets

A set of numbers is stored as a vector of ordered and disjoint intervals. An insertion extends an
interval, merges two of them, or adds one.
-/

namespace TrtLlm

structure Interval where
  lowerEnd : Int
  upperEnd : Int

structure IntervalSet where
  intervals : List Interval := []
  numElements : Nat := 0

namespace IntervalSet

/-- The binary search of `contains`, in the places from `left` to before `right`. -/
def search (intervals : List Interval) (num : Int) (left right : Nat) : Bool :=
  if left < right then
    let mid := left + (right - 1 - left) / 2
    match intervals[mid]? with
    | none => false
    | some interval =>
      if interval.lowerEnd ≤ num ∧ num ≤ interval.upperEnd then true
      else if num < interval.lowerEnd then search intervals num left mid
      else search intervals num (mid + 1) right
  else false
termination_by right - left

def contains (s : IntervalSet) (num : Int) : Bool :=
  search s.intervals num 0 s.intervals.length

/-- The intervals before a new number, from the last one on, that it does not extend, and the lower
end of its own. -/
def extendLeft (num : Int) : List Interval → List Interval × Int
  | [] => ([], num)
  | previous :: before =>
    if previous.upperEnd + 1 = num then (before, previous.lowerEnd) else (previous :: before, num)

/-- The intervals behind a new number that it does not extend, and the upper end of its own. -/
def extendRight (num : Int) : List Interval → List Interval × Int
  | [] => ([], num)
  | current :: after =>
    if current.lowerEnd - 1 = num then (after, current.upperEnd) else (current :: after, num)

/-- `insert`, with the intervals before the `lower_bound` from the last one on. -/
def insert (s : IntervalSet) (num : Int) : IntervalSet :=
  let before := (s.intervals.takeWhile (·.lowerEnd < num)).reverse
  let after := s.intervals.dropWhile (·.lowerEnd < num)
  if after.head?.any (·.lowerEnd = num) || before.head?.any (num ≤ ·.upperEnd) then s
  else
    let (before, lowerEnd) := extendLeft num before
    let (after, upperEnd) := extendRight num after
    { intervals := before.reverse ++ ⟨lowerEnd, upperEnd⟩ :: after
      numElements := s.numElements + 1 }

/-- Sorted, disjoint and not adjacent. -/
structure Ordered (intervals : List Interval) : Prop where
  nonempty : ∀ interval ∈ intervals, interval.lowerEnd ≤ interval.upperEnd
  apart : intervals.Pairwise fun first second => first.upperEnd + 1 < second.lowerEnd

def Covers (intervals : List Interval) (num : Int) : Prop :=
  ∃ interval ∈ intervals, interval.lowerEnd ≤ num ∧ num ≤ interval.upperEnd

variable {intervals before after : List Interval} {num : Int}

theorem search_iff (ordered : Ordered intervals) {left right : Nat}
    (within : right ≤ intervals.length) :
    search intervals num left right = true ↔ ∃ idx interval, left ≤ idx ∧ idx < right ∧
      intervals[idx]? = some interval ∧ interval.lowerEnd ≤ num ∧ num ≤ interval.upperEnd := by
  -- an interval on the other side of `mid` lies on the other side of its ends
  have later : ∀ {idx idx' : Nat} {first second : Interval}, intervals[idx]? = some first →
      intervals[idx']? = some second → idx < idx' → first.upperEnd + 1 < second.lowerEnd := by
    intro idx idx' first second found found' lt
    obtain ⟨bound, rfl⟩ := List.getElem?_eq_some_iff.mp found
    obtain ⟨bound', rfl⟩ := List.getElem?_eq_some_iff.mp found'
    exact List.pairwise_iff_getElem.mp ordered.apart _ _ bound bound' lt
  fun_induction search intervals num left right with
  | case1 left right lt mid missing =>
    have := List.getElem?_eq_none_iff.mp missing
    omega
  | case2 left right lt mid interval found inside =>
    exact ⟨fun _ => ⟨mid, interval, by omega, by omega, found, inside⟩, fun _ => rfl⟩
  | case3 left right lt mid interval found outside below ih =>
    refine (ih (by omega)).trans ⟨?_, ?_⟩
    · rintro ⟨idx, other, above, lt, rest⟩
      exact ⟨idx, other, above, by omega, rest⟩
    · rintro ⟨idx, other, above, lt, found', inside⟩
      have len := ordered.nonempty interval (List.mem_of_getElem? found)
      refine ⟨idx, other, above, ?_, found', inside⟩
      rcases Nat.lt_trichotomy idx mid with lt | rfl | gt
      · exact lt
      · cases found.symm.trans found'
        omega
      · have := later found found' gt
        omega
  | case4 left right lt mid interval found outside above ih =>
    refine (ih within).trans ⟨?_, ?_⟩
    · rintro ⟨idx, other, above, rest⟩
      exact ⟨idx, other, by omega, rest⟩
    · rintro ⟨idx, other, above, lt, found', inside⟩
      refine ⟨idx, other, ?_, lt, found', inside⟩
      rcases Nat.lt_trichotomy idx mid with lt | rfl | gt
      · have := later found' found lt
        omega
      · cases found.symm.trans found'
        omega
      · exact gt
  | case5 left right empty =>
    simp only [Bool.false_eq_true, false_iff]
    rintro ⟨idx, other, above, lt, -⟩
    omega

theorem contains_iff {s : IntervalSet} (ordered : Ordered s.intervals) :
    s.contains num = true ↔ Covers s.intervals num := by
  rw [contains, search_iff ordered (Nat.le_refl _)]
  constructor
  · rintro ⟨idx, interval, -, -, found, inside⟩
    exact ⟨interval, List.mem_of_getElem? found, inside⟩
  · rintro ⟨interval, mem, inside⟩
    obtain ⟨idx, lt, rfl⟩ := List.getElem_of_mem mem
    exact ⟨idx, _, Nat.zero_le _, lt, List.getElem?_eq_getElem lt, inside⟩

/-- The new number extends its neighbours or is an interval of its own. -/
theorem extend_spec {rest rest' : List Interval} {lowerEnd upperEnd : Int}
    (ordered : Ordered (before.reverse ++ after))
    (below : ∀ interval ∈ before, interval.upperEnd < num)
    (above : ∀ interval ∈ after, num < interval.lowerEnd)
    (left : extendLeft num before = (rest, lowerEnd))
    (right : extendRight num after = (rest', upperEnd)) :
    Ordered (rest.reverse ++ ⟨lowerEnd, upperEnd⟩ :: rest') ∧
      ∀ other, Covers (rest.reverse ++ ⟨lowerEnd, upperEnd⟩ :: rest') other ↔
        Covers (before.reverse ++ after) other ∨ other = num := by
  obtain ⟨nonempty, apart⟩ := ordered
  rw [List.pairwise_append, List.pairwise_reverse] at apart
  simp only [List.mem_append, List.mem_reverse] at nonempty apart
  cases before <;> cases after
  all_goals simp only [extendLeft, extendRight] at left right
  all_goals refine ⟨⟨?_, ?_⟩, fun other => ?_⟩
  all_goals simp only [Covers, List.mem_append, List.mem_reverse, List.mem_cons, or_and_right,
    exists_or, exists_eq_left, List.pairwise_append, List.pairwise_reverse, List.pairwise_cons] at *
  all_goals grind -ring -linarith -order [List.pairwise_cons]

/-- The intervals store the elements of a set. -/
structure Represents (s : IntervalSet) (elements : Finset Int) : Prop where
  ordered : Ordered s.intervals
  covers : ∀ num, Covers s.intervals num ↔ num ∈ elements
  counted : s.numElements = elements.card

theorem Represents.insert {s : IntervalSet} {elements : Finset Int}
    (represents : Represents s elements) (num : Int) :
    Represents (s.insert num) (Insert.insert num elements) := by
  obtain ⟨ordered, covers, counted⟩ := represents
  have cut := s.intervals.takeWhile_append_dropWhile (p := fun interval => interval.lowerEnd < num)
  have lower : ∀ interval ∈ s.intervals.takeWhile (·.lowerEnd < num), interval.lowerEnd < num :=
    fun interval mem => by simpa using List.mem_takeWhile_imp mem
  have upper := s.intervals.head?_dropWhile_not (·.lowerEnd < num)
  unfold IntervalSet.insert
  rw [← List.reverse_reverse (s.intervals.takeWhile _)] at cut lower
  rw [← cut] at ordered covers
  generalize (s.intervals.takeWhile (·.lowerEnd < num)).reverse = before at *
  generalize s.intervals.dropWhile (·.lowerEnd < num) = after at *
  have apart := ordered.apart
  rw [List.pairwise_append, List.pairwise_reverse] at apart
  have nonempty := ordered.nonempty
  dsimp only
  split
  · rename_i found
    have present : num ∈ elements := by
      rw [← covers]
      simp only [Covers, List.mem_append, List.mem_reverse] at nonempty lower ⊢
      cases before <;> cases after
      all_goals grind -ring -linarith -order
    rw [Finset.insert_eq_self.mpr present]
    exact ⟨cut ▸ ordered, cut ▸ covers, counted⟩
  · rename_i missing
    have below : ∀ interval ∈ before, interval.upperEnd < num := by
      cases before <;> grind -ring -linarith -order [List.pairwise_cons]
    have above : ∀ interval ∈ after, num < interval.lowerEnd := by
      cases after <;> grind -ring -linarith -order [List.pairwise_cons]
    have fresh : num ∉ elements := by
      rw [← covers]
      simp only [Covers, List.mem_append, List.mem_reverse]
      grind -ring -linarith -order
    obtain ⟨ordered', covers'⟩ := extend_spec ordered below above rfl rfl
    refine ⟨ordered', fun other => ?_, ?_⟩
    · rw [Finset.mem_insert, or_comm, ← covers]
      exact covers' other
    · rw [Finset.card_insert_of_notMem fresh, ← counted]

theorem Represents.insertAll {s : IntervalSet} {elements : Finset Int}
    (represents : Represents s elements) (nums : List Int) :
    Represents (nums.foldl IntervalSet.insert s) (elements ∪ nums.toFinset) := by
  induction nums generalizing s elements with
  | nil => simpa using represents
  | cons num nums ih =>
    rw [List.toFinset_cons, Finset.union_insert, ← Finset.insert_union]
    exact ih (represents.insert num)

/-- After any insertions the intervals are sorted, disjoint and not adjacent, and they hold each
inserted number and no other one. -/
theorem insertions_form_set (nums : List Int) :
    Ordered (nums.foldl insert {}).intervals ∧
      (∀ num, (nums.foldl insert {}).contains num = true ↔ num ∈ nums) ∧
      (nums.foldl insert {}).numElements = nums.toFinset.card := by
  have empty : Represents {} ∅ := ⟨⟨by simp, .nil⟩, by simp [Covers], rfl⟩
  obtain ⟨ordered, covers, counted⟩ := empty.insertAll nums
  rw [Finset.empty_union] at covers counted
  refine ⟨ordered, fun num => ?_, counted⟩
  rw [contains_iff ordered, covers, List.mem_toFinset]

end IntervalSet

end TrtLlm
