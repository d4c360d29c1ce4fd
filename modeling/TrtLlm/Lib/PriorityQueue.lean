import Mathlib.Algebra.BigOperators.Group.List.Basic
import Mathlib.Algebra.Order.BigOperators.Group.List
import Mathlib.Algebra.Order.Ring.Nat
import Mathlib.Data.List.Perm.Basic

/-! # Priority queues, and bins that are filled from one

The entries of the queue stand for bins of a limited size: an item goes into the bin of the least
entry, which goes back into the queue while its bin has room. Every item finds a bin if the bins
together have room for all of them, whatever the order is.
-/

/-! ## Counters -/

variable {α : Type} {idx pos limit : Nat} {cnt : List Nat}

theorem List.getD_modify_self {list : List α} (lt : idx < list.length) (change : α → α)
    (fallback : α) :
    (list.modify idx change).getD idx fallback = change (list.getD idx fallback) := by
  rw [List.getD_eq_getElem?_getD, List.getD_eq_getElem?_getD, List.getElem?_modify_eq,
    List.getElem?_eq_getElem lt]
  rfl

theorem List.getD_modify_ne {list : List α} {other : Nat} (ne : idx ≠ other) (change : α → α)
    (fallback : α) :
    (list.modify idx change).getD other fallback = list.getD other fallback := by
  rw [List.getD_eq_getElem?_getD, List.getD_eq_getElem?_getD, List.getElem?_modify_ne _ _ ne]

theorem List.getD_modify_succ (cnt : List Nat) (lt : pos < cnt.length) (idx : Nat) :
    (cnt.modify pos (· + 1)).getD idx 0 =
      if pos = idx then cnt.getD idx 0 + 1 else cnt.getD idx 0 := by
  split
  · rename_i same
    subst same
    exact List.getD_modify_self lt _ _
  · rename_i ne
    exact List.getD_modify_ne ne _ _

theorem List.sum_modify_succ (cnt : List Nat) (lt : pos < cnt.length) :
    (cnt.modify pos (· + 1)).sum = cnt.sum + 1 := by
  induction cnt generalizing pos with
  | nil => cases lt
  | cons count cnt ih =>
    cases pos with
    | zero =>
      rw [List.modify_zero_cons, List.sum_cons, List.sum_cons]
      omega
    | succ pos =>
      rw [List.modify_succ_cons, List.sum_cons, List.sum_cons, ih (Nat.lt_of_succ_lt_succ lt)]
      omega

/-- What is left of some counters up to a limit. -/
theorem List.sum_sub_add_sum (limited : ∀ count ∈ cnt, count ≤ limit) :
    (cnt.map (limit - ·)).sum + cnt.sum = cnt.length * limit := by
  induction cnt with
  | nil => simp
  | cons count cnt ih =>
    have first := limited count List.mem_cons_self
    have rest := ih (List.forall_mem_cons.mp limited).2
    rw [List.map_cons, List.sum_cons, List.sum_cons, List.length_cons, Nat.succ_mul]
    omega

/-- Counters that are full together are full each. -/
theorem List.eq_of_sum_eq (limited : ∀ count ∈ cnt, count ≤ limit)
    (full : cnt.sum = cnt.length * limit) :
    ∀ count ∈ cnt, count = limit := by
  intro count mem
  have left := List.sum_sub_add_sum limited
  have none : limit - count = 0 := by
    have bound := List.le_sum_of_mem (List.mem_map_of_mem (f := (limit - ·)) mem)
    omega
  have := limited count mem
  omega

/-! ## The queue -/

namespace PriorityQueue

open List

variable {β ι : Type} (before : β → β → Bool)

/-- The least entry, the first of them, and the other entries. -/
def pop : List β → Option (β × List β)
  | [] => none
  | entry :: rest =>
    match pop rest with
    | none => some (entry, [])
    | some (least, others) =>
      if before least entry then some (least, entry :: others) else some (entry, rest)

variable {before} {queue : List β}

theorem exists_pop (before : β → β → Bool) (nonempty : queue ≠ []) :
    ∃ least others, pop before queue = some (least, others) := by
  cases queue with
  | nil => exact absurd rfl nonempty
  | cons entry rest =>
    unfold pop
    split
    · exact ⟨_, _, rfl⟩
    · split
      · exact ⟨_, _, rfl⟩
      · exact ⟨_, _, rfl⟩

theorem eq_nil_of_pop (none : pop before queue = none) : queue = [] := by
  by_contra nonempty
  obtain ⟨_, _, some⟩ := exists_pop before nonempty
  rw [some] at none
  cases none

variable {others : List β} {least : β} (popped : pop before queue = some (least, others))
include popped

theorem perm_of_pop : queue.Perm (least :: others) := by
  induction queue generalizing least others with
  | nil => cases popped
  | cons entry rest ih =>
    unfold pop at popped
    split at popped
    · rename_i none
      cases popped
      rw [eq_nil_of_pop none]
    · rename_i least' others' some
      split at popped
      · cases popped
        exact ((ih some).cons entry).trans (.swap ..)
      · cases popped
        exact .refl _

/-- No entry is below the one that is taken. -/
theorem le_of_pop {κ : Type} [Preorder κ] {key : β → κ} (ordered : ∀ first second,
      if before first second then key first ≤ key second else key second ≤ key first) :
    ∀ entry ∈ queue, key least ≤ key entry := by
  induction queue generalizing least others with
  | nil => cases popped
  | cons entry rest ih =>
    unfold pop at popped
    split at popped
    · rename_i none
      cases popped
      simp [eq_nil_of_pop none]
    · rename_i least' others' some
      have below := ih some
      have compared := ordered least' entry
      split at popped
      · rename_i first
        cases popped
        rw [if_pos first] at compared
        exact forall_mem_cons.mpr ⟨compared, below⟩
      · rename_i second
        cases popped
        rw [if_neg second] at compared
        exact forall_mem_cons.mpr ⟨le_refl _, fun other mem => compared.trans (below other mem)⟩

omit popped

/-- A queue whose entries carry more than what they are ordered by. -/
theorem pop_map {α : Type} (before : β → β → Bool) (view : α → β) (queue : List α) :
    pop before (queue.map view) =
      (pop (fun first second => before (view first) (view second)) queue).map
        (Prod.map view (List.map view)) := by
  induction queue with
  | nil => rfl
  | cons entry rest ih =>
    simp only [map_cons, pop, ih]
    cases pop (fun first second => before (view first) (view second)) rest with
    | none => rfl
    | some popped =>
      simp only [Option.map_some, Prod.map]
      split
      · rfl
      · rfl

/-! ## Bins -/

section Bins

variable (before) (bin load : β → Nat) (add : β → ι → β) (limit : Nat)

/-- Each item goes into the bin of the least entry. What is left of the queue, and the bins. -/
def place : List ι → List β → List (List ι) → Option (List β × List (List ι))
  | [], queue, bins => some (queue, bins)
  | item :: items, queue, bins =>
    match pop before queue with
    | none => none
    | some (least, others) =>
      place items
        (if load (add least item) < limit then add least item :: others else others)
        (bins.modify (bin least) (· ++ [item]))

/-- How many items the bins of a queue can take. -/
def room (queue : List β) : Nat := (queue.map fun entry => limit - load entry).sum

variable {before bin load add limit} {queue other : List β}

theorem room_perm (perm : queue.Perm other) :
    room load limit queue = room load limit other :=
  (perm.map _).sum_eq

variable (adds : ∀ entry item, load (add entry item) = load entry + 1) {least : β}
  {base : Nat → Nat} {bins : List (List ι)}

include adds

/-- An item takes one place. -/
theorem room_requeue (free : load least < limit) (others : List β) (item : ι) :
    room load limit
        (if load (add least item) < limit then add least item :: others else others) + 1 =
      room load limit (least :: others) := by
  simp only [room, map_cons, sum_cons]
  split
  · rw [map_cons, sum_cons, adds]
    omega
  · rename_i full
    rw [adds] at full
    omega

/-- What is known of the queue while the bins are filled. `base` is what is in a bin at first. -/
structure Fits (bin load : β → Nat) (limit : Nat) (base : Nat → Nat) (queue : List β)
    (bins : List (List ι)) : Prop where
  free : ∀ entry ∈ queue, load entry < limit
  inside : ∀ entry ∈ queue, bin entry < bins.length
  distinct : (queue.map bin).Nodup
  loaded : ∀ entry ∈ queue, load entry = base (bin entry) + (bins.getD (bin entry) []).length
  limited : ∀ index < bins.length, base index + (bins.getD index []).length ≤ limit

omit adds in
theorem Fits.perm (fits : Fits bin load limit base queue bins) (perm : queue.Perm other) :
    Fits bin load limit base other bins where
  free entry member := fits.free entry (perm.mem_iff.mpr member)
  inside entry member := fits.inside entry (perm.mem_iff.mpr member)
  distinct := (perm.map bin).nodup_iff.mp fits.distinct
  loaded entry member := fits.loaded entry (perm.mem_iff.mpr member)
  limited := fits.limited

theorem Fits.requeue (keeps : ∀ entry item, bin (add entry item) = bin entry) {others : List β}
    (fits : Fits bin load limit base (least :: others) bins) (item : ι) : Fits bin load limit base
      (if load (add least item) < limit then add least item :: others else others)
      (bins.modify (bin least) (· ++ [item])) := by
  have lt := fits.inside least mem_cons_self
  have free := fits.free least mem_cons_self
  have loaded := fits.loaded least mem_cons_self
  obtain ⟨notAgain, nodup⟩ := nodup_cons.mp fits.distinct
  have limited : ∀ idx < (bins.modify (bin least) (· ++ [item])).length,
      base idx + ((bins.modify (bin least) (· ++ [item])).getD idx []).length ≤ limit := by
    intro idx within
    rw [length_modify] at within
    by_cases same : bin least = idx
    · subst same
      rw [getD_modify_self lt, length_append, length_singleton]
      omega
    · rw [getD_modify_ne same]
      exact fits.limited idx within
  have rest : Fits bin load limit base others (bins.modify (bin least) (· ++ [item])) := by
    refine ⟨fun entry mem => ?_, fun entry mem => ?_, nodup, fun entry mem => ?_, limited⟩
    · exact fits.free entry (mem_cons_of_mem _ mem)
    · rw [length_modify]
      exact fits.inside entry (mem_cons_of_mem _ mem)
    · have ne : bin least ≠ bin entry := fun same => notAgain (same ▸ mem_map_of_mem mem)
      rw [getD_modify_ne ne]
      exact fits.loaded entry (mem_cons_of_mem _ mem)
  split
  · rename_i more
    refine ⟨?_, ?_, ?_, ?_, limited⟩
    · exact forall_mem_cons.mpr ⟨more, rest.free⟩
    · refine forall_mem_cons.mpr ⟨?_, rest.inside⟩
      rw [keeps, length_modify]
      exact lt
    · rw [map_cons, keeps]
      exact fits.distinct
    · refine forall_mem_cons.mpr ⟨?_, rest.loaded⟩
      rw [keeps, adds, getD_modify_self lt, length_append, length_singleton]
      omega
  · exact rest

omit adds in
/-- An item that goes into a bin is in the bins. -/
theorem flatten_modify_perm {idx : Nat} (lt : idx < bins.length) (item : ι) :
    (bins.modify idx (· ++ [item])).flatten.Perm (bins.flatten ++ [item]) := by
  induction bins generalizing idx with
  | nil => cases lt
  | cons first rest ih =>
    cases idx with
    | zero =>
      simp only [modify_zero_cons, flatten_cons, append_assoc]
      exact (perm_append_comm).append_left first
    | succ idx =>
      simp only [modify_succ_cons, flatten_cons, append_assoc]
      exact (ih (Nat.lt_of_succ_lt_succ lt)).append_left first

/-- If the bins have room for all items, every item is in one of them, and none is too full. -/
theorem place_fits (before : β → β → Bool) (keeps : ∀ entry item, bin (add entry item) = bin entry)
    {items : List ι} (fits : Fits bin load limit base queue bins)
    (enough : items.length ≤ room load limit queue) :
    ∃ left filled, place before bin load add limit items queue bins = some (left, filled) ∧
      Fits bin load limit base left filled ∧
      room load limit left + items.length = room load limit queue ∧
      filled.length = bins.length ∧ filled.flatten.Perm (bins.flatten ++ items) := by
  induction items generalizing queue bins with
  | nil =>
    refine ⟨queue, bins, rfl, fits, rfl, rfl, ?_⟩
    rw [append_nil]
  | cons item items ih =>
    have nonempty : queue ≠ [] := by
      rintro rfl
      exact Nat.not_succ_le_zero _ enough
    obtain ⟨least, others, popped⟩ := exists_pop before nonempty
    have perm := perm_of_pop popped
    have fits := fits.perm perm
    have free := fits.free least mem_cons_self
    have taken := room_requeue adds free others item
    have lt := fits.inside least mem_cons_self
    rw [room_perm perm, ← taken, length_cons] at enough
    obtain ⟨left, filled, placed, fits, sameRoom, sameLength, samePerm⟩ :=
      ih (fits.requeue adds keeps item) (Nat.le_of_succ_le_succ enough)
    rw [length_modify] at sameLength
    refine ⟨left, filled, ?_, fits, ?_, sameLength, ?_⟩
    · unfold place
      rw [popped]
      exact placed
    · rw [room_perm perm, ← taken, ← sameRoom, length_cons]
      rfl
    · refine samePerm.trans ?_
      rw [append_cons]
      exact (flatten_modify_perm lt item).append_right items

omit adds in
/-- If there is no room left, no bin is in the queue. -/
theorem Fits.eq_nil (fits : Fits bin load limit base queue bins)
    (full : room load limit queue = 0) :
    queue = [] := by
  cases queue with
  | nil => rfl
  | cons entry queue =>
    have free := fits.free entry mem_cons_self
    simp only [room, map_cons, sum_cons] at full
    omega

end Bins

end PriorityQueue
