import Mathlib.Data.List.Basic
import Mathlib.Data.Multiset.Bind
import Mathlib.Logic.Function.Basic

/-! # Elements copied into a memory

A parallel copy is a list of writes in any order. If no two of them write different
elements to one place, then each place holds what is written to it.
-/

namespace Copies

variable {ι α : Type} [DecidableEq ι]

/-- The memory after the writes. -/
def run (writes : List (ι × α)) (memory : ι → α) : ι → α :=
  writes.foldl (fun memory write => Function.update memory write.1 write.2) memory

theorem run_eq {writes : List (ι × α)} {memory : ι → α} {place : ι} {element : α}
    (agree : ∀ write ∈ writes, write.1 = place → write.2 = element)
    (written : (∃ write ∈ writes, write.1 = place) ∨ memory place = element) :
    run writes memory place = element := by
  induction writes generalizing memory with
  | nil => simpa [run] using written
  | cons write rest ih =>
    apply ih
    · intro later mem
      exact agree later (List.mem_cons_of_mem _ mem)
    · -- What the first write leaves at the place is the element, or a later one writes it.
      dsimp only
      by_cases here : write.1 = place
      · right
        rw [← here, Function.update_self]
        exact agree write List.mem_cons_self here
      · rw [Function.update_of_ne (Ne.symm here)]
        obtain ⟨later, mem, there⟩ | kept := written
        · have ne : later ≠ write := fun same => here (same ▸ there)
          exact .inl ⟨later, List.mem_of_ne_of_mem ne mem, there⟩
        · exact .inr kept

/-- Writes to distinct places are all kept. -/
theorem run_map {κ : Type} {indices : List κ} {place : κ → ι} {element : κ → α} {memory : ι → α}
    {index : κ} (mem : index ∈ indices)
    (nodup : ∀ other ∈ indices, place other = place index → other = index) :
    run (indices.map fun index => (place index, element index)) memory (place index) =
      element index := by
  apply run_eq
  · intro write written same
    obtain ⟨other, otherMem, rfl⟩ := List.mem_map.mp written
    rw [nodup other otherMem same]
  · exact .inl ⟨_, List.mem_map.mpr ⟨index, mem, rfl⟩, rfl⟩

end Copies

/-- The digits of a number in a radix are determined. -/
theorem Nat.mul_add_inj {radix high low otherHigh otherLow : Nat} (bound : low < radix)
    (otherBound : otherLow < radix) (same : high * radix + low = otherHigh * radix + otherLow) :
    high = otherHigh ∧ low = otherLow := by
  have pos : 0 < radix := Nat.zero_lt_of_lt bound
  have highs := congrArg (· / radix) same
  have lows := congrArg (· % radix) same
  simp only [Nat.mul_comm _ radix, Nat.mul_add_div pos, Nat.div_eq_of_lt bound,
    Nat.div_eq_of_lt otherBound, Nat.add_zero] at highs
  simp only [Nat.mul_comm _ radix, Nat.mul_add_mod, Nat.mod_eq_of_lt bound,
    Nat.mod_eq_of_lt otherBound] at lows
  exact ⟨highs, lows⟩

/-- A list of lists of one length is indexed by a number of two digits. -/
theorem List.getElem?_flatMap_of_length {α β : Type} {list : List α} {inner : α → List β}
    {length : Nat} (lengths : ∀ x ∈ list, (inner x).length = length) {index offset : Nat}
    (bound : offset < length) : (list.flatMap inner)[index * length + offset]? =
      list[index]?.bind fun x => (inner x)[offset]? := by
  induction list generalizing index with
  | nil => simp
  | cons head tail ih =>
    have headLength := lengths head List.mem_cons_self
    rw [List.flatMap_cons]
    cases index with
    | zero =>
      rw [Nat.zero_mul, Nat.zero_add, List.getElem?_append_left (headLength ▸ bound)]
      rfl
    | succ index =>
      have shift : (index + 1) * length + offset = length + (index * length + offset) := by
        rw [Nat.succ_mul]; omega
      rw [shift, ← headLength, List.getElem?_append_right (Nat.le_add_right _ _),
        Nat.add_sub_cancel_left, headLength,
        ih (List.forall_mem_cons.mp lengths).2]
      rfl

/-- The numbers of two digits in their order. -/
theorem List.flatMap_range_range (count radix : Nat) :
    ((List.range count).flatMap fun high => (List.range radix).map fun low => high * radix + low) =
      List.range (count * radix) := by
  induction count with
  | zero => simp
  | succ count ih =>
    rw [List.range_succ, List.flatMap_append, ih, List.flatMap_singleton, Nat.succ_mul,
      List.range_add]

/-- The intervals between the values of a sequence, one after the other. -/
theorem List.flatMap_intervals {value : Nat → Nat} (mono : Monotone value) (count : Nat) :
    ((List.range count).flatMap fun idx => range' (value idx) (value (idx + 1) - value idx)) =
      range' (value 0) (value count - value 0) := by
  induction count with
  | zero => simp
  | succ count ih =>
    have joined := range'_append_1 (s := value 0) (m := value count - value 0)
      (n := value (count + 1) - value count)
    rw [Nat.add_sub_cancel' (mono (Nat.zero_le count)), Nat.add_comm (value count - _),
      Nat.sub_add_sub_cancel (mono count.le_succ) (mono (Nat.zero_le count))] at joined
    rw [range_succ, flatMap_append, ih, flatMap_singleton, joined]

theorem List.flatMap_comm {α β γ : Type} (xs : List α) (ys : List β) (f : α → β → List γ) :
    (xs.flatMap fun x => ys.flatMap (f x)).Perm (ys.flatMap fun y => xs.flatMap (f · y)) := by
  rw [← Multiset.coe_eq_coe]
  simpa only [Multiset.coe_bind] using Multiset.bind_bind (xs : Multiset α) (ys : Multiset β)
    (f := fun x y => (f x y : Multiset γ))
