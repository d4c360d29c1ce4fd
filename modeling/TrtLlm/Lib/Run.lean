import Mathlib.Logic.Relation

/-! # Fallible steps, loops and runs

A step returns a new state or fails, and a failing step ends the run. A property
that holds at the start and is kept by every allowed step holds in every state of
every run; the same rule serves the loops inside a step.
-/

section Steps

variable {α β σ ε : Type} {first : Except ε α} {next : α → Except ε β} {res : β}
  {returns : α → Prop} {fails : ε → Prop} {body : σ → α → Except ε σ} {items : List α} {start : σ}

theorem Except.bind_eq_ok :
    (first >>= next) = .ok res ↔ ∃ value, first = .ok value ∧ next value = .ok res := by
  cases first with
  | error failure => simp [bind, Except.bind]
  | ok value => simp [bind, Except.bind]

theorem Except.pure_eq_ok {value res : α} : (pure value : Except ε α) = .ok res ↔ value = res := by
  simp [pure, Except.pure]

/-- Nothing follows a failure. -/
theorem Except.throw_bind_eq_ok {failure : ε} :
    ((throw failure : Except ε α) >>= next) = .ok res ↔ False :=
  ⟨fun continued => (nomatch continued), False.elim⟩

/-- A call returns a value that passes a check. -/
def Except.passes (check : α → Bool) : Except ε α → Bool
  | .ok value => check value
  | .error _ => false

theorem Except.exists_ok {holds : α → Prop} {value : α} :
    (∃ returned, (.ok value : Except ε α) = .ok returned ∧ holds returned) ↔ holds value := by
  simp

theorem Except.not_exists_error {holds : α → Prop} {failure : ε} :
    ¬∃ returned, (.error failure : Except ε α) = .ok returned ∧ holds returned := by
  simp

/-- What a call returns is decided by calling it. -/
instance Except.decidableReturns {holds : α → Prop} [DecidablePred holds] :
    (res : Except ε α) → Decidable (∃ value, res = .ok value ∧ holds value)
  | .ok value => decidable_of_iff (holds value) Except.exists_ok.symm
  | .error _ => isFalse Except.not_exists_error

/-- A call that has nothing to give back, and one after it. -/
theorem Except.exists_returns_both {first : Except ε (α × Option β)} {next : α → Except ε σ}
    {holds : α → σ → Prop}
    (returns : ∃ value, first = .ok value ∧ value.2.isNone ∧
      ∃ state, next value.1 = .ok state ∧ holds value.1 state) :
    ∃ value state, first = .ok (value, none) ∧ next value = .ok state ∧ holds value state := by
  obtain ⟨⟨value, rest⟩, returned, nothing, state, continued, held⟩ := returns
  obtain rfl := Option.isNone_iff_eq_none.mp nothing
  exact ⟨value, state, returned, continued, held⟩

/-- A call returns a value with one property or fails with another. -/
def Except.Ends (returns : α → Prop) (fails : ε → Prop) : Except ε α → Prop
  | .ok value => returns value
  | .error failure => fails failure

theorem Except.Ends.bind {returns' : β → Prop} (ends : first.Ends returns fails)
    (continues : ∀ value, returns value → (next value).Ends returns' fails) :
    (first >>= next).Ends returns' fails := by
  cases first with
  | error failure => exact ends
  | ok value => exact continues value ends

theorem Except.Ends.imp {returns' : α → Prop} {res : Except ε α} (ends : res.Ends returns fails)
    (weaker : ∀ value, returns value → returns' value) :
    res.Ends returns' fails := by
  cases res with
  | error failure => exact ends
  | ok value => exact weaker value ends

/-- A loop keeps what each of its rounds keeps. -/
theorem List.foldlM_invariant (invariant : σ → Prop)
    (round : ∀ state item next, item ∈ items → invariant state → body state item = .ok next →
      invariant next) {res : σ} (initially : invariant start)
    (looped : items.foldlM body start = .ok res) : invariant res := by
  induction items generalizing start with
  | nil =>
    simp only [List.foldlM_nil, Except.pure_eq_ok] at looped
    exact looped ▸ initially
  | cons item rest ih =>
    simp only [List.foldlM_cons, Except.bind_eq_ok] at looped
    obtain ⟨next, stepped, continued⟩ := looped
    exact ih (fun state item next mem => round state item next (List.mem_cons_of_mem _ mem))
      (round start item next List.mem_cons_self initially stepped) continued

/-- A loop returns if each of its rounds returns where the loop may come. -/
theorem List.foldlM_total (reachable : σ → Prop) (body : σ → α → Except ε σ) (items : List α)
    (round : ∀ state item, item ∈ items → reachable state →
      ∃ next, body state item = .ok next ∧ reachable next) (initially : reachable start) :
    ∃ res, items.foldlM body start = .ok res := by
  induction items generalizing start with
  | nil => exact ⟨start, rfl⟩
  | cons item rest ih =>
    obtain ⟨next, stepped, kept⟩ := round start item List.mem_cons_self initially
    obtain ⟨res, looped⟩ :=
      ih (fun state item mem => round state item (List.mem_cons_of_mem _ mem)) kept
    exact ⟨res, by rw [List.foldlM_cons, stepped]; exact looped⟩

/-- Two loops do the same if their rounds do. -/
theorem List.foldlM_congr {other : σ → α → Except ε σ}
    (round : ∀ item ∈ items, ∀ state, body state item = other state item) (start : σ) :
    items.foldlM body start = items.foldlM other start := by
  induction items generalizing start with
  | nil => rfl
  | cons item rest ih =>
    rw [List.foldlM_cons, List.foldlM_cons, round item List.mem_cons_self]
    exact bind_congr fun next =>
      ih (List.forall_mem_cons.mp round).2 next

/-- A loop returns what its rounds return. -/
theorem List.mapM_eq_ok {body : α → Except ε β} {res : α → β}
    (round : ∀ item ∈ items, body item = .ok (res item)) :
    items.mapM body = .ok (items.map res) := by
  induction items with
  | nil => rfl
  | cons item rest ih =>
    have others := ih (List.forall_mem_cons.mp round).2
    rw [List.mapM_cons, round item List.mem_cons_self, others]
    rfl

/-- A loop without failures keeps what each of its rounds keeps. -/
theorem List.foldl_invariant (invariant : σ → Prop) {body : σ → α → σ}
    (round : ∀ state item, item ∈ items → invariant state → invariant (body state item))
    (initially : invariant start) : invariant (items.foldl body start) := by
  induction items generalizing start with
  | nil => exact initially
  | cons item rest ih =>
    exact ih (fun state item mem => round state item (List.mem_cons_of_mem _ mem))
      (round start item List.mem_cons_self initially)

end Steps

namespace Run

variable {σ α ε : Type} (step : σ → α → Except ε σ) (allowed : σ → α → Prop)

/-- One allowed action that does not fail. -/
def Move (before after : σ) : Prop :=
  ∃ action, allowed before action ∧ step before action = .ok after

/-- The states of the runs that start in a given state. -/
def Reaches : σ → σ → Prop := Relation.ReflTransGen (Move step allowed)

variable {step allowed} {start state : σ}

theorem Reaches.invariant {predicate : σ → Prop} (reached : Reaches step allowed start state)
    (initially : predicate start)
    (preserved : ∀ before action after, predicate before → allowed before action →
      step before action = .ok after → predicate after) : predicate state := by
  induction reached with
  | refl => exact initially
  | tail _ moved ih =>
    obtain ⟨action, permitted, stepped⟩ := moved
    exact preserved _ action _ ih permitted stepped

/-- A run given by its actions. -/
theorem Reaches.cons {next : σ} (reached : Reaches step allowed next state) (action : α)
    (permitted : allowed start action) (stepped : step start action = .ok next) :
    Reaches step allowed start state :=
  Relation.ReflTransGen.head ⟨action, permitted, stepped⟩ reached

section Trace

variable (step allowed) [∀ state action, Decidable (allowed state action)]

/-- The state after a list of actions, if all of them are allowed and none fails. -/
def trace : List α → σ → Option σ
  | [], state => some state
  | action :: rest, state =>
    if allowed state action then
      match step state action with
      | .ok next => trace rest next
      | .error _ => none
    else none

variable {step allowed} {actions : List α} {start : σ}

theorem reaches_of_trace {state : σ} (traced : trace step allowed actions start = some state) :
    Reaches step allowed start state := by
  induction actions generalizing start with
  | nil =>
    cases traced
    exact .refl
  | cons action rest ih =>
    unfold trace at traced
    split at traced
    · rename_i permitted
      split at traced
      · rename_i next stepped
        exact (ih traced).cons action permitted stepped
      · cases traced
    · cases traced

/-- A run ends in a state with a property that can be checked. -/
theorem exists_reaches_of_trace (check : σ → Bool)
    (traced : (trace step allowed actions start).any check = true) :
    ∃ state, Reaches step allowed start state ∧ check state = true := by
  cases ended : trace step allowed actions start with
  | none => simp [ended] at traced
  | some state =>
    rw [ended] at traced
    exact ⟨state, reaches_of_trace ended, traced⟩

theorem exists_reaches {holds : σ → Prop} [DecidablePred holds] (actions : List α)
    (traced : (trace step allowed actions start).any (fun state => decide (holds state)) = true) :
    ∃ state, Reaches step allowed start state ∧ holds state := by
  obtain ⟨state, reached, checked⟩ := exists_reaches_of_trace _ traced
  exact ⟨state, reached, of_decide_eq_true checked⟩

end Trace

end Run
