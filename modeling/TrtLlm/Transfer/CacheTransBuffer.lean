import Mathlib.Data.List.Basic
import Mathlib.Data.List.Nodup
import Mathlib.Data.List.Perm.Subperm

/-! # Indices of transfer buffers

`CacheTransBufferManager` has a fixed number of preallocated buffers for sending
and for receiving. A transfer is assigned the index of a buffer and frees it when
it is done.
-/

namespace TrtLlm

open List

/-- Why a step of a transfer is not taken. -/
inductive TransferFailure where
  /-- The thread waits at this point. -/
  | waiting
  /-- " assignBufferIndex: Buffer index already assigned" -/
  | noBufferIndex
  /-- `TLLM_CHECK(it != mRequestToSession.end())` -/
  | noSession
  deriving DecidableEq, Repr

/-- `ConcurrenceResource`: which buffers are in use, and how many. -/
structure ConcurrenceResource where
  bufferIndexFlag : List Bool
  concurrence : Int
  deriving DecidableEq, Repr

namespace ConcurrenceResource

def initial (bufferCount : Nat) : ConcurrenceResource :=
  ⟨List.replicate bufferCount false, 0⟩

/-- `assignBufferIndex` with preallocated buffers: it waits while all of them are
in use and takes the first one that is not. -/
def assignBufferIndex (resource : ConcurrenceResource) :
    Except TransferFailure (Nat × ConcurrenceResource) :=
  -- The counter is cast to an unsigned number before the comparison.
  if 0 ≤ resource.concurrence ∧ resource.concurrence < resource.bufferIndexFlag.length then
    match resource.bufferIndexFlag.findIdx? (fun flag => !flag) with
    | some bufferId =>
      .ok (bufferId, ⟨resource.bufferIndexFlag.set bufferId true, resource.concurrence + 1⟩)
    | none => .error .noBufferIndex
  else .error .waiting

/-- Flag, counter and notification are one step here. The source lowers the counter and notifies
outside the mutex, so that a waiter which has just read the counter can miss the wake-up; that is
outside the model. -/
def freeBufferIndex (resource : ConcurrenceResource) (bufferId : Nat) : ConcurrenceResource :=
  ⟨resource.bufferIndexFlag.set bufferId false, resource.concurrence - 1⟩

/-- The indices in use are the held ones, and the counter counts them. -/
structure Holds (resource : ConcurrenceResource) (held : List Nat) : Prop where
  distinct : held.Nodup
  flagged : ∀ bufferId, resource.bufferIndexFlag[bufferId]? = some true ↔ bufferId ∈ held
  counted : resource.concurrence = held.length

variable {resource next : ConcurrenceResource} {held : List Nat}

theorem Holds.initial (bufferCount : Nat) : (initial bufferCount).Holds [] where
  distinct := nodup_nil
  flagged buf := by
    simp only [ConcurrenceResource.initial, getElem?_replicate, not_mem_nil, iff_false]
    split <;> simp
  counted := rfl

variable {buf : Nat}

/-- An assigned index was not held before. -/
theorem Holds.assign (holds : resource.Holds held)
    (assigned : resource.assignBufferIndex = .ok (buf, next)) :
    buf ∉ held ∧ next.Holds (buf :: held) ∧
      next.bufferIndexFlag.length = resource.bufferIndexFlag.length := by
  unfold assignBufferIndex at assigned
  split at assigned
  · split at assigned
    · rename_i found
      cases assigned
      obtain ⟨bound, free, -⟩ := findIdx?_eq_some_iff_getElem.mp found
      have unflagged : resource.bufferIndexFlag[buf] = false := by simpa using free
      have fresh : buf ∉ held := by
        intro mem
        have flag := (holds.flagged buf).mpr mem
        rw [getElem?_eq_getElem bound, unflagged] at flag
        cases flag
      refine ⟨fresh, ⟨nodup_cons.mpr ⟨fresh, holds.distinct⟩, ?_, ?_⟩, by simp⟩
      · intro other
        rw [mem_cons, ← holds.flagged other, getElem?_set]
        by_cases same : buf = other
        · simp [same, same ▸ bound]
        · simp [same, Ne.symm same]
      · simp only [length_cons, holds.counted]
        omega
    · cases assigned
  · cases assigned

/-- A freed index is no longer held. -/
theorem Holds.free (holds : resource.Holds held) (mem : buf ∈ held) :
    (resource.freeBufferIndex buf).Holds (held.erase buf) where
  distinct := holds.distinct.erase _
  flagged other := by
    simp only [freeBufferIndex, holds.distinct.mem_erase_iff, getElem?_set]
    by_cases same : buf = other
    · simp [same]
    · simp [same, Ne.symm same, holds.flagged other]
  counted := by
    have pos : 0 < held.length := length_pos_of_mem mem
    simp only [freeBufferIndex, holds.counted, length_erase_of_mem mem]
    omega

/-- As long as fewer indices are held than there are buffers, one is assigned. -/
theorem Holds.assign_ok (holds : resource.Holds held)
    (room : held.length < resource.bufferIndexFlag.length) :
    ∃ buf next, resource.assignBufferIndex = .ok (buf, next) := by
  unfold assignBufferIndex
  rw [if_pos ⟨by rw [holds.counted]; omega, by rw [holds.counted]; omega⟩]
  cases found : resource.bufferIndexFlag.findIdx? (fun flag => !flag) with
  | some buf => exact ⟨buf, _, rfl⟩
  | none =>
    -- All flags are set, so that all indices are held.
    exfalso
    have flags := findIdx?_eq_none_iff.mp found
    have all : List.range resource.bufferIndexFlag.length ⊆ held := by
      intro buf inRange
      have bound := mem_range.mp inRange
      apply (holds.flagged buf).mp
      rw [getElem?_eq_getElem bound]
      have flag := flags _ (getElem_mem bound)
      simpa using flag
    have length := (nodup_range.subperm all).length_le
    rw [length_range] at length
    omega

/-- The held indices are those of the holders, each held by one of them. -/
structure HeldBy {α : Type} (resource : ConcurrenceResource) (holding : α → Option Nat)
    (held : List Nat) : Prop where
  holds : resource.Holds held
  held_iff : ∀ bufferId, bufferId ∈ held ↔ ∃ holder, holding holder = some bufferId
  distinct : ∀ first second bufferId, holding first = some bufferId →
    holding second = some bufferId → first = second

section HeldBy

variable {α : Type} {holding later : α → Option Nat} {holder : α}

theorem HeldBy.initial (bufferCount : Nat) :
    (initial bufferCount).HeldBy (fun _ : α => none) [] where
  holds := .initial bufferCount
  held_iff := by simp
  distinct := by simp

/-- As long as nobody holds an index, one is assigned. -/
theorem HeldBy.assign_ok_of_idle (heldBy : resource.HeldBy holding held)
    (pos : 0 < resource.bufferIndexFlag.length) (idle : ∀ holder, holding holder = none) :
    ∃ buf next, resource.assignBufferIndex = .ok (buf, next) := by
  have none : held = [] := by
    apply eq_nil_iff_forall_not_mem.mpr
    intro buf mem
    obtain ⟨holder, own⟩ := (heldBy.held_iff buf).mp mem
    rw [idle] at own
    cases own
  apply heldBy.holds.assign_ok
  rw [none]
  exact pos

/-- No two holders have one index, a new one has an index that nobody has, and it waits only while
all indices are held. -/
def Exclusive (resource : ConcurrenceResource) (holding : α → Option Nat) : Prop :=
  (∀ first second bufferId, holding first = some bufferId → holding second = some bufferId →
    first = second) ∧
  match resource.assignBufferIndex with
  | .ok (bufferId, _) => ∀ holder, holding holder ≠ some bufferId
  | .error failure => failure = .waiting ∧
    ∀ bufferId < resource.bufferIndexFlag.length, ∃ holder, holding holder = some bufferId

theorem HeldBy.exclusive (heldBy : resource.HeldBy holding held) : resource.Exclusive holding := by
  refine ⟨heldBy.distinct, ?_⟩
  cases taken : resource.assignBufferIndex with
  | ok pair =>
    intro holder own
    exact (heldBy.holds.assign taken).1 ((heldBy.held_iff _).mpr ⟨holder, own⟩)
  | error failure =>
    have full : ¬held.length < resource.bufferIndexFlag.length := by
      intro room
      obtain ⟨_, _, assigned⟩ := heldBy.holds.assign_ok room
      cases taken.symm.trans assigned
    constructor
    · have counted := heldBy.holds.counted
      rw [assignBufferIndex, if_neg (by omega)] at taken
      cases taken
      rfl
    · intro bufferId lt
      -- As many distinct indices as there are buffers are all of them.
      have within : held ⊆ range resource.bufferIndexFlag.length := by
        intro index mem
        have flag := (heldBy.holds.flagged index).mpr mem
        simpa using (List.getElem?_eq_some_iff.mp flag).1
      have all := (subperm_of_subset heldBy.holds.distinct within).perm_of_length_le
        (by simpa using full)
      exact (heldBy.held_iff bufferId).mp (all.mem_iff.mpr (mem_range.mpr lt))

variable [DecidableEq α]

/-- An assigned index is held by its holder alone. -/
theorem HeldBy.assign (heldBy : resource.HeldBy holding held)
    (assigned : resource.assignBufferIndex = .ok (buf, next)) (idle : holding holder = none)
    (later_eq : ∀ other, later other = if other = holder then some buf else holding other) :
    next.HeldBy later (buf :: held) := by
  obtain ⟨fresh, holds, -⟩ := heldBy.holds.assign assigned
  have unheld : ∀ other, holding other ≠ some buf := fun other held =>
    fresh ((heldBy.held_iff buf).mpr ⟨other, held⟩)
  have nodup := heldBy.distinct
  refine ⟨holds, ?_, ?_⟩
  · intro idx
    simp only [later_eq, mem_cons, heldBy.held_iff idx]
    constructor
    · intro mem
      obtain same | ⟨other, held⟩ := mem
      · exact ⟨holder, by simp [same]⟩
      · have ne : other ≠ holder := fun same => by simp [same, idle] at held
        exact ⟨other, by simpa [ne] using held⟩
    · intro mem
      obtain ⟨other, held⟩ := mem
      split at held
      · exact .inl (Option.some.inj held).symm
      · exact .inr ⟨other, held⟩
  · intro first second idx
    grind -ring -linarith -order

/-- A freed index is held by no holder. -/
theorem HeldBy.free (heldBy : resource.HeldBy holding held) (own : holding holder = some buf)
    (later_eq : ∀ other, later other = if other = holder then none else holding other) :
    (resource.freeBufferIndex buf).HeldBy later (held.erase buf) := by
  have mem : buf ∈ held := (heldBy.held_iff buf).mpr ⟨holder, own⟩
  have nodup := heldBy.distinct
  refine ⟨heldBy.holds.free mem, ?_, ?_⟩
  · intro idx
    simp only [later_eq, heldBy.holds.distinct.mem_erase_iff, heldBy.held_iff idx]
    grind -ring -linarith -order
  · intro first second idx
    grind -ring -linarith -order

end HeldBy

end ConcurrenceResource

end TrtLlm
