import Mathlib.Logic.Relation
import Mathlib.Data.List.Basic

/-! # Streams and events

The commands of one stream run in the order of their issue. Other streams are ordered only through
events: all that precedes the record of an event precedes all that follows a later wait for it. An
event is a fresh object each time one is recorded.
-/

namespace Streams

variable {σ ω : Type}

/-- What can be issued to a stream. -/
inductive Command (ω : Type) where
  | work (item : ω)
  | record (event : Nat)
  | wait (event : Nat)
  deriving DecidableEq, Repr

/-- The commands in the order of their issue, each with its stream. -/
abbrev Log (σ ω : Type) := List (σ × Command ω)

/-- Two commands that one stream orders, or one event. -/
def Linked (earlier later : σ × Command ω) : Prop :=
  earlier.1 = later.1 ∨ ∃ event, earlier.2 = .record event ∧ later.2 = .wait event

instance [DecidableEq σ] [DecidableEq ω] (earlier later : σ × Command ω) :
    Decidable (Linked earlier later) :=
  decidable_of_iff (earlier.1 = later.1 ∨ (match earlier.2 with
    | .record event => decide (later.2 = .wait event)
    | _ => false) = true) (by unfold Linked; cases earlier.2 <;> simp)

/-- The positions of two commands that are ordered without a third one. -/
def Direct (log : Log σ ω) (first second : Nat) : Prop :=
  first < second ∧ ∃ earlier later,
    log[first]? = some earlier ∧ log[second]? = some later ∧ Linked earlier later

/-- The command at one position has run when the one at another position starts. -/
def Before (log : Log σ ω) : Nat → Nat → Prop := Relation.TransGen (Direct log)

theorem getElem?_append_of_some {α : Type} {items more : List α} {idx : Nat} {item : α}
    (found : items[idx]? = some item) : (items ++ more)[idx]? = some item := by
  have bound : idx < items.length := (List.getElem?_eq_some_iff.mp found).1
  rw [List.getElem?_append_left bound]
  exact found

variable {first second event : Nat} {log : Log σ ω} {stream : σ} {position : Nat}

theorem Direct.append (direct : Direct log first second) (more : Log σ ω) :
    Direct (log ++ more) first second := by
  obtain ⟨lt, earlier, later, atFirst, atSecond, linked⟩ := direct
  exact ⟨lt, earlier, later, getElem?_append_of_some atFirst, getElem?_append_of_some atSecond,
    linked⟩

/-- What is issued later does not change the order of what was issued. -/
theorem Before.append (ordered : Before log first second) (more : Log σ ω) :
    Before (log ++ more) first second :=
  Relation.TransGen.mono (fun _ _ direct => Direct.append direct more) _ _ ordered

/-- Two commands of one stream are ordered. -/
theorem before_of_stream {earlier later : Command ω} (lt : first < second)
    (atFirst : log[first]? = some (stream, earlier))
    (atSecond : log[second]? = some (stream, later)) : Before log first second :=
  .single ⟨lt, _, _, atFirst, atSecond, .inl rfl⟩

/-- A record is ordered before a later wait for its event. -/
theorem before_of_wait {other : σ} (lt : first < second)
    (atFirst : log[first]? = some (stream, .record event))
    (atSecond : log[second]? = some (other, .wait event)) : Before log first second :=
  .single ⟨lt, _, _, atFirst, atSecond, .inr ⟨event, rfl, rfl⟩⟩

/-- A set of positions that no direct order leaves separates two unordered commands. -/
theorem not_before_of_closed (inside : Nat → Bool)
    (closed : ∀ first second : Fin log.length, first < second → inside first = true →
      inside second = false → ¬ Linked (log.get first) (log.get second))
    (starts : inside first = true) (ends : inside second = false) : ¬ Before log first second := by
  have stays : ∀ {first second : Nat}, inside first = true → Direct log first second →
      inside second = true := by
    intro first second starts direct
    obtain ⟨lt, earlier, later, atFirst, atSecond, linked⟩ := direct
    obtain ⟨firstBound, rfl⟩ := List.getElem?_eq_some_iff.mp atFirst
    obtain ⟨secondBound, rfl⟩ := List.getElem?_eq_some_iff.mp atSecond
    by_contra leaves
    exact closed ⟨first, firstBound⟩ ⟨second, secondBound⟩ lt starts (by simpa using leaves) linked
  intro ordered
  have reached : inside second = true := by
    clear ends
    induction ordered with
    | single direct => exact stays starts direct
    | tail _ direct ih => exact stays ih direct
  rw [ends] at reached
  cases reached

/-- An event was recorded after a command had run. -/
def Covers (log : Log σ ω) (event position : Nat) : Prop :=
  ∃ recorded stream, log[recorded]? = some (stream, .record event) ∧ Before log position recorded

theorem Covers.append (covered : Covers log event position) (more : Log σ ω) :
    Covers (log ++ more) event position := by
  obtain ⟨recorded, stream, atRecord, ordered⟩ := covered
  exact ⟨recorded, stream, getElem?_append_of_some atRecord, ordered.append more⟩

/-- What an event covers runs before all that a stream is given after it was made
to wait for the event. -/
theorem Covers.before_of_wait {waits rest : Log σ ω} {next : Nat} {command : Command ω}
    (covered : Covers log event position) (waited : (stream, .wait event) ∈ waits)
    (later : log.length + waits.length ≤ next)
    (atNext : (log ++ (waits ++ rest))[next]? = some (stream, command)) :
    Before (log ++ (waits ++ rest)) position next := by
  obtain ⟨recorded, other, atRecord, ordered⟩ := covered
  obtain ⟨idx, atIndex⟩ := List.getElem?_of_mem waited
  have recordedBound : recorded < log.length := (List.getElem?_eq_some_iff.mp atRecord).1
  have indexBound : idx < waits.length := (List.getElem?_eq_some_iff.mp atIndex).1
  have atWait : (log ++ (waits ++ rest))[log.length + idx]? = some (stream, .wait event) := by
    rw [List.getElem?_append_right (by omega), Nat.add_sub_cancel_left]
    exact getElem?_append_of_some atIndex
  have recordThenWait : Before (log ++ (waits ++ rest)) recorded (log.length + idx) :=
    Streams.before_of_wait (by omega) (getElem?_append_of_some atRecord) atWait
  have waitThenNext : Before (log ++ (waits ++ rest)) (log.length + idx) next :=
    before_of_stream (by omega) atWait atNext
  exact ((ordered.append _).trans recordThenWait).trans waitThenNext

end Streams
