import Mathlib.Logic.Relation
import Mathlib.Tactic.Choose

/-! # Programs that meet in broadcasts

Ranks run programs that take part in the broadcasts of their groups. A broadcast takes place when
every member of its group has come to it, and every member goes on with the root's message; a run is
any interleaving of broadcasts. The ranks cannot deadlock if one list of broadcasts, the plan, has
every rank's broadcasts in its order: whichever group is first, what remains still describes all.
-/

namespace Collectives

open List

variable {ρ γ μ β : Type}

/-- What a rank still does: it has finished, or it takes part in a broadcast of a group with a
buffer of its own and goes on with the message it gets. -/
inductive Program (γ μ β : Type) where
  | done (result : β)
  | bcast (group : γ) (own : μ) (next : μ → Program γ μ β)

/-- The groups of the ranks; a buffer must fit the message that is written to it. -/
structure Network (ρ γ μ : Type) where
  Member : γ → ρ → Prop
  root : γ → ρ
  root_member : ∀ group, Member group (root group)
  Fits : μ → μ → Prop

variable (net : Network ρ γ μ)

/-- The group's broadcast of a message takes place. -/
structure Fires (group : γ) (message : μ) (before after : ρ → Program γ μ β) : Prop where
  sent : ∃ next, before (net.root group) = .bcast group message next
  received : ∀ rank, net.Member group rank → ∃ own next,
    before rank = .bcast group own next ∧ net.Fits own message ∧ after rank = next message
  others : ∀ rank, ¬ net.Member group rank → after rank = before rank

/-- One broadcast of some group. -/
def Step (before after : ρ → Program γ μ β) : Prop :=
  ∃ group message, Fires net group message before after

/-- The rank comes to its broadcasts of the plan in the plan's order, sends the plan's message
where it is the root, and finishes with the result. -/
def Follows (rank : ρ) (result : β) : List (γ × μ) → Program γ μ β → Prop
  | [], program => program = .done result
  | (group, message) :: rest, program =>
    (net.Member group rank → ∃ own next, program = .bcast group own next ∧
      (rank = net.root group → own = message) ∧ net.Fits own message ∧
      Follows rank result rest (next message)) ∧
    (¬ net.Member group rank → Follows rank result rest program)

variable {net}

section Follows

variable {rank : ρ} {res : β} {group : γ} {message : μ} {rest : List (γ × μ)} {own : μ}
  {next : μ → Program γ μ β} {plan earlier : List (γ × μ)} {program : Program γ μ β}

theorem Follows.bcast (mem : net.Member group rank) (sends : rank = net.root group → own = message)
    (fits : net.Fits own message) (follows : Follows net rank res rest (next message)) :
    Follows net rank res ((group, message) :: rest) (.bcast group own next) :=
  ⟨fun _ => ⟨own, next, rfl, sends, fits, follows⟩, fun outside => absurd mem outside⟩

open scoped Classical in
/-- What a plan has for the groups of a rank. -/
noncomputable def part (net : Network ρ γ μ) (rank : ρ) (plan : List (γ × μ)) : List (γ × μ) :=
  plan.filter fun entry => net.Member entry.1 rank

/-- The broadcasts of several groups, each group's together. -/
def each {δ : Type} (keys : List δ) (group : δ → γ) (messages : δ → List μ) : List (γ × μ) :=
  keys.flatMap fun key => (messages key).map fun message => (group key, message)

/-- A group some rank waits in has a broadcast in the plan; this is its first one. -/
theorem Follows.first_of_waiting (follows : Follows net rank res plan (.bcast group own next)) :
    ∃ earlier message later, plan = earlier ++ (group, message) :: later ∧
      ∀ entry ∈ earlier, entry.1 ≠ group := by
  induction plan with
  | nil => cases follows
  | cons entry plan ih =>
    by_cases same : entry.1 = group
    · exact ⟨[], entry.2, plan, by rw [← same]; rfl, fun _ none => absurd none (not_mem_nil)⟩
    · have outside : ¬ net.Member entry.1 rank := fun mem => by
        obtain ⟨own, next, waits, -⟩ := follows.1 mem
        cases waits
        exact same rfl
      obtain ⟨earlier, message, later, rfl, before⟩ := ih (follows.2 outside)
      refine ⟨entry :: earlier, message, later, rfl, ?_⟩
      simpa [same] using before

/-- A rank that waits in a group has no part in what the plan has before the group's first
broadcast. -/
theorem Follows.received (before : ∀ entry ∈ earlier, entry.1 ≠ group) (mem : net.Member group rank)
    (follows : Follows net rank res (earlier ++ (group, message) :: rest) (.bcast group own next)) :
    (rank = net.root group → own = message) ∧
      Follows net rank res (earlier ++ rest) (next message) := by
  induction earlier with
  | nil =>
    obtain ⟨own', next', waits, sends, -, continued⟩ := follows.1 mem
    cases waits
    exact ⟨sends, continued⟩
  | cons entry earlier ih =>
    have outside : ¬ net.Member entry.1 rank := fun lt => by
      obtain ⟨own', next', waits, -⟩ := follows.1 lt
      cases waits
      exact before entry mem_cons_self rfl
    obtain ⟨sends, continued⟩ :=
      ih (forall_mem_cons.mp before).2 (follows.2 outside)
    exact ⟨sends, fun lt => absurd lt outside, fun _ => continued⟩

/-- A rank outside the group does not miss the group's broadcast. -/
theorem Follows.unaffected (outside : ¬ net.Member group rank)
    (follows : Follows net rank res (earlier ++ (group, message) :: rest) program) :
    Follows net rank res (earlier ++ rest) program := by
  induction earlier generalizing program with
  | nil => exact follows.2 outside
  | cons entry earlier ih =>
    refine ⟨fun mem => ?_, fun absent => ih (follows.2 absent)⟩
    obtain ⟨own, next, waits, sends, fits, continued⟩ := follows.1 mem
    exact ⟨own, next, waits, sends, fits, ih continued⟩

end Follows

section Runs

variable {results : ρ → β} {plan : List (γ × μ)} {before after : ρ → Program γ μ β}

/-- The step lemma: whichever group broadcasts, the rest of the plan describes every rank. -/
theorem Step.follows (follows : ∀ rank, Follows net rank (results rank) plan (before rank))
    (step : Step net before after) : ∃ left, left.length + 1 = plan.length ∧
      ∀ rank, Follows net rank (results rank) left (after rank) := by
  obtain ⟨group, message, fires⟩ := step
  obtain ⟨sentNext, sent⟩ := fires.sent
  obtain ⟨earlier, planned, later, rfl, first⟩ := (sent ▸ follows (net.root group)).first_of_waiting
  obtain ⟨sends, -⟩ := (sent ▸ follows (net.root group)).received first (net.root_member group)
  obtain rfl := sends rfl
  refine ⟨earlier ++ later, by simp only [length_append, length_cons]; omega, ?_⟩
  intro rank
  by_cases mem : net.Member group rank
  · obtain ⟨own, next, waits, -, moved⟩ := fires.received rank mem
    rw [moved]
    exact ((waits ▸ follows rank).received first mem).2
  · rw [fires.others rank mem]
    exact (follows rank).unaffected mem

end Runs

end Collectives
