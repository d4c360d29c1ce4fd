import Mathlib.Data.Multiset.Bind
import Mathlib.Data.Set.Function
import TrtLlm.Lib.Copies

/-! # Grids of numbers

The numbers below a product are the points of a grid: the quotient and the remainders are the
coordinates of a point. The points that differ in one coordinate only form a group, and the groups
of one direction divide the grid.
-/

namespace Grid

open List

/-- The numbers from a first one below a last one, with a distance between them. -/
def stride (start stop step : Nat) : List Nat :=
  (List.range ((stop - start + step - 1) / step)).map fun index => start + step * index

theorem stride_eq {start stop step count : Nat} (enough : stop ≤ start + count * step)
    (notMore : start + count * step < stop + step) :
    stride start stop step = (List.range count).map fun index => start + step * index := by
  have length : (stop - start + step - 1) / step = count := by
    rw [Nat.div_eq_iff (by omega)]
    omega
  rw [stride, length]

/-- The groups of points that differ in the middle one of three coordinates. -/
def groups (outer count step : Nat) : List (List Nat) :=
  (List.range outer).flatMap fun high => (List.range step).map fun low =>
    (List.range count).map fun index => high * (count * step) + low + step * index

/-- Two nested loops can be exchanged. -/
theorem flatMap_map_comm {α β γ : Type} (first : List α) (second : List β) (f : α → β → γ) :
    (first.flatMap fun x => second.map fun y => f x y).Perm
      (second.flatMap fun y => first.map fun x => f x y) := by
  rw [← Multiset.coe_eq_coe]
  have exchanged := Multiset.bind_map_comm (first : Multiset α) (second : Multiset β) (f := f)
  simpa only [Multiset.map_coe, Multiset.coe_bind] using exchanged

variable (outer count step : Nat)

theorem flatten_groups_perm :
    (groups outer count step).flatten.Perm (List.range (outer * (count * step))) := by
  have inner : ∀ high, ((List.range step).map fun low => (List.range count).map fun index =>
      high * (count * step) + low + step * index).flatten.Perm
        ((List.range (count * step)).map fun offset => high * (count * step) + offset) := by
    intro high
    rw [← flatMap_range_range, map_flatMap, ← flatMap_def]
    refine (flatMap_map_comm _ _ _).trans (List.Perm.of_eq ?_)
    simp only [map_map]
    refine flatMap_congr fun index _ => map_congr_left fun low _ => ?_
    rw [Function.comp, Nat.mul_comm step]
    omega
  rw [groups, ← flatMap_id, flatMap_assoc, ← flatMap_range_range]
  simp only [flatMap_id]
  exact List.Perm.flatMap_left _ fun high _ => inner high

variable {outer count step}

/-- The group of a point. -/
def group (count step point : Nat) : List Nat :=
  (List.range count).map fun index =>
    point / (count * step) * (count * step) + point % step + step * index

/-- The group of a point is found by the other coordinates. -/
theorem getElem?_groups {point : Nat} (lt : point < outer * (count * step)) :
    (groups outer count step)[point / (count * step) * step + point % step]? =
      some (group count step point) := by
  have isHigh : point / (count * step) < outer := Nat.div_lt_of_lt_mul (Nat.mul_comm outer _ ▸ lt)
  have low : point % step < step := Nat.mod_lt point
      (Nat.pos_of_mul_pos_left (Nat.pos_of_lt_mul_left lt))
  rw [groups, getElem?_flatMap_of_length (fun _ _ => by rw [length_map, length_range])
    low, getElem?_range isHigh, Option.bind_some, getElem?_map, getElem?_range low]
  rfl

/-- A point is in its group at the index of its coordinate. -/
theorem getElem?_group {point : Nat} (lt : point < outer * (count * step)) :
    (group count step point)[point % (count * step) / step]? = some point := by
  have isIndex : point % (count * step) / step < count :=
    Nat.div_lt_of_lt_mul (Nat.mul_comm count step ▸ Nat.mod_lt _ (Nat.pos_of_lt_mul_left lt))
  rw [group, getElem?_map, getElem?_range isIndex, Option.map_some, Option.some_inj]
  have outerDigit := Nat.div_add_mod' point (count * step)
  have innerDigit := Nat.div_add_mod (point % (count * step)) step
  rw [Nat.mod_mul_left_mod] at innerDigit
  omega

/-- Groups of consecutive points, found by two nested loops. -/
theorem groups_one (outer middle count : Nat) : groups (outer * middle) count 1 =
    (List.range outer).flatMap fun high => (List.range middle).map fun mid =>
      (List.range count).map fun index => high * (middle * count) + mid * count + 1 * index := by
  rw [groups, ← flatMap_range_range, flatMap_assoc]
  refine flatMap_congr fun high _ => ?_
  rw [flatMap_map, ← flatMap_pure_eq_map]
  refine flatMap_congr fun mid _ => ?_
  simp only [range_one, map_singleton, Nat.mul_one, Nat.add_zero]
  rw [Nat.add_mul, Nat.mul_assoc]
  rfl

/-- The index of a point in a grid of two coordinates. -/
theorem div_mul_add (middle inner point : Nat) :
    point / (middle * inner) * middle + point % (middle * inner) / inner = point / inner := by
  rw [Nat.mul_comm middle, ← Nat.div_div_eq_div_mul, Nat.mul_comm inner, Nat.mod_mul_left_div_self,
    Nat.div_add_mod']

/-- The three coordinates of a point. -/
def coordinates (middle inner point : Nat) : Nat × Nat × Nat :=
  (point / (middle * inner), point % (middle * inner) / inner, point % inner)

theorem coordinates_bijOn {outer middle inner : Nat} (middlePos : 0 < middle)
    (innerPos : 0 < inner) :
    Set.BijOn (coordinates middle inner) {point | point < outer * (middle * inner)}
      {place | place.1 < outer ∧ place.2.1 < middle ∧ place.2.2 < inner} := by
  have pos : 0 < middle * inner := Nat.mul_pos middlePos innerPos
  refine ⟨fun point lt => ⟨?_, ?_, ?_⟩, fun point _ other _ same => ?_, fun place lt => ?_⟩
  · exact Nat.div_lt_of_lt_mul (Nat.mul_comm outer _ ▸ lt)
  · exact Nat.div_lt_of_lt_mul (Nat.mul_comm middle inner ▸ Nat.mod_lt _ pos)
  · exact Nat.mod_lt _ innerPos
  · simp only [coordinates, Prod.mk.injEq] at same
    obtain ⟨high, mid, low⟩ := same
    have mods : point % (middle * inner) = other % (middle * inner) := by
      rw [← Nat.div_add_mod (point % (middle * inner)) inner, ← Nat.div_add_mod
        (other % (middle * inner)) inner, Nat.mod_mul_left_mod, Nat.mod_mul_left_mod, mid, low]
    rw [← Nat.div_add_mod point (middle * inner), ← Nat.div_add_mod other (middle * inner), high,
      mods]
  · obtain ⟨high, mid, low⟩ := place
    obtain ⟨isHigh, isMid, isLow⟩ := lt
    dsimp only at isHigh isMid isLow
    have rest : mid * inner + low < middle * inner := by
      have := Nat.mul_le_mul_right inner (Nat.succ_le_of_lt isMid)
      rw [Nat.succ_mul] at this
      omega
    refine ⟨high * (middle * inner) + (mid * inner + low), ?_, ?_⟩
    · have := Nat.mul_le_mul_right (middle * inner) (Nat.succ_le_of_lt isHigh)
      rw [Nat.succ_mul] at this
      exact Nat.lt_of_lt_of_le (Nat.add_lt_add_left rest _) this
    · have quotient : (high * (middle * inner) + (mid * inner + low)) /
          (middle * inner) = high := by
        rw [Nat.mul_comm high, Nat.mul_add_div pos, Nat.div_eq_of_lt rest, Nat.add_zero]
      have remainder : (high * (middle * inner) + (mid * inner + low)) % (middle * inner) =
          mid * inner + low := by
        rw [Nat.mul_comm high, Nat.mul_add_mod, Nat.mod_eq_of_lt rest]
      rw [coordinates, quotient, remainder, ← Nat.mod_mul_left_mod _ middle inner, remainder,
        Nat.mul_comm mid, Nat.mul_add_div innerPos, Nat.mul_add_mod, Nat.div_eq_of_lt isLow,
        Nat.mod_eq_of_lt isLow, Nat.add_zero]

end Grid
