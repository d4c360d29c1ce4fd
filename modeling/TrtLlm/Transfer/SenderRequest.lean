import TrtLlm.Transfer.CacheSender

/-! # One request on the sending side

`RequestView` collects what the sender holds about one request, `RequestView.Change` lists the
changes that steps make to it, and `Counts`, `Answers` and `Delivery` are what these keep.
-/

namespace TrtLlm

namespace SendStage

/-- Whether the data has been sent, if there is any. -/
def sent : SendStage → Bool
  | .freeing _ => true
  | .releasing => true
  | _ => false

/-- Whether the stage is inside `format`, past the check of `needSendCache`. -/
def formatting : SendStage → Bool
  | .sending _ => true
  | .freeing _ => true
  | _ => false

end SendStage

namespace CacheSender

/-- Where the response thread is with a given request. -/
inductive Position where
  | away
  | received
  | looking
  | responding
  | deciding
  | signalling (isReady : Bool) (next : Nat)
  | delivering
  | removing
  | refusing
  deriving DecidableEq, Repr

namespace Position

/-- The request infos that were received and are not counted yet. -/
def inHand : Position → Nat
  | .received => 1
  | .looking => 1
  | .responding => 1
  | _ => 0

/-- Whether the thread has decided on the request and still holds its response. -/
def decided : Position → Bool
  | .signalling _ _ => true
  | .delivering => true
  | .removing => true
  | .refusing => true
  | _ => false

def isSignalling : Position → Bool
  | .signalling _ _ => true
  | _ => false

end Position

/-- What the sender holds about one request. -/
structure RequestView where
  ready : Prop
  cancelled : Prop
  remain : Option Nat
  session : Option (List Nat)
  waiting : Nat
  queued : Nat
  task : Option SendStage
  position : Position
  trace : RequestTrace

namespace RequestView

/-- A submitted request is ready until the thread has removed it. -/
def Expected (n : Nat) (v : RequestView) : Prop :=
  v.trace.submitted = true ∧
    (v.trace.handled < n ∨ v.position = .deciding ∨ v.position.decided = true)

/-- The ready signal to each of the first counterparts. -/
def signals (isReady : Bool) (count : Nat) : List (Nat × Bool) :=
  (List.range count).map fun peer => (peer, isReady)

theorem signals_zero (isReady : Bool) : signals isReady 0 = [] := rfl

theorem signals_succ (isReady : Bool) (count : Nat) :
    signals isReady (count + 1) = signals isReady count ++ [(count, isReady)] := by
  simp [signals, List.range_succ]

/-- How often the data of a request is queued, being sent, or was sent. -/
def underway (v : RequestView) : Nat :=
  v.queued + (if v.task.isSome then 1 else 0) + (if v.trace.finished then 1 else 0)

/-- The buffer indices assigned and freed up to a stage. -/
def BuffersAt (finished : Bool) (assigned freed : List Nat) : Option SendStage → Prop
  | some .start => assigned = [] ∧ freed = []
  | some (.sending bufferId) => assigned = bufferId.toList ∧ freed = []
  | some (.freeing bufferId) => assigned = bufferId.toList ∧ freed = []
  | some .releasing => assigned = freed ∧ assigned.length ≤ 1
  | none => assigned = freed ∧ assigned.length ≤ 1 ∧ (finished = false → assigned = [])

/-- The request infos are counted, and the count leads to one decision. -/
structure Counts (n : Nat) (v : RequestView) : Prop where
  arrived_nodup : v.trace.arrived.Nodup
  arrived_lt : ∀ peer ∈ v.trace.arrived, peer < n
  counted : v.trace.arrived.length = v.waiting + v.position.inHand + v.trace.handled
  remain_eq : v.remain =
    if v.trace.handled = n ∨ v.trace.handled = 0 ∧ v.position ≠ .looking ∧ v.position ≠ .responding
      then none else some (n - v.trace.handled)
  submitted_of_handled : 0 < v.trace.handled → v.trace.submitted = true
  submitted_of_responding : v.position = .responding → v.trace.submitted = true
  handled_of_deciding : v.position = .deciding ∨ v.position.decided = true → v.trace.handled = n
  ready_iff : v.ready ↔ v.Expected n

/-- The ready signals follow the decision, which follows the cancelled mark. -/
structure Answers (n : Nat) (v : RequestView) : Prop where
  verdict_none : v.trace.verdict = none ↔ v.trace.handled < n ∨ v.position = .deciding
  signalling : ∀ {isReady next}, v.position = .signalling isReady next →
    v.trace.verdict = some isReady ∧ next ≤ n ∧
      v.trace.answers = signals isReady next
  answers_none : v.trace.verdict = none → v.trace.answers = []
  answers_some : ∀ {isReady}, v.position.isSignalling = false → v.trace.verdict = some isReady →
    v.trace.answers = signals isReady n
  sent_of_position : v.position = .delivering ∨ v.position = .removing →
    v.trace.verdict = some true
  refused_of_position : v.position = .refusing → v.trace.verdict = some false
  cancelled_ready : v.cancelled → v.ready
  cancelled_verdict : v.cancelled → v.trace.verdict ≠ some true
  accepted : v.trace.cancelAccepted = true → v.cancelled ∨ v.trace.verdict = some false
  accepted_of_cancelled : v.cancelled → v.trace.cancelAccepted = true
  accepted_of_refused : v.trace.verdict = some false → v.trace.cancelAccepted = true

/-- The data of a request that is sent passes through the stages once. -/
structure Delivery (needSend : Bool) (v : RequestView) : Prop where
  underway_eq : v.underway =
    if v.trace.verdict = some true ∧ v.position.isSignalling = false then 1 else 0
  sends_eq : v.trace.sends =
    if needSend && (v.trace.finished || v.task.any SendStage.sent) then 1 else 0
  needed : v.task.any SendStage.formatting = true → needSend = true
  session_iff : v.session.isSome = true ↔
    (0 < v.trace.handled ∨ v.position.inHand = 1) ∧ v.trace.finished = false
  buffers : BuffersAt v.trace.finished v.trace.assigned v.trace.freed v.task

/-- The changes that the steps of the threads make to one request. -/
inductive Change (n : Nat) (needSend : Bool) : RequestView → RequestView → Prop where
  | submit {v : RequestView} (fresh : v.trace.submitted = false) :
      Change n needSend v { v with ready := True, trace := { v.trace with submitted := true } }
  | cancel {v : RequestView} (isReady : v.ready)
      (position : v.position = .away ∨ v.position = .received) :
      Change n needSend v { v with
        cancelled := True, trace := { v.trace with cancelAccepted := true } }
  | arrive {v : RequestView} {peer : Nat} (lt : peer < n) (fresh : peer ∉ v.trace.arrived) :
      Change n needSend v { v with
        waiting := v.waiting + 1, trace := { v.trace with arrived := v.trace.arrived ++ [peer] } }
  | receive {v : RequestView} {waiting : Nat} {peers : List Nat} (arrived : v.waiting = waiting + 1)
      (position : v.position = .away) :
      Change n needSend v { v with waiting, session := some peers, position := .received }
  | adopt {v : RequestView} (position : v.position = .received) :
      Change n needSend v { v with
        remain := some (v.remain.getD n), position := .looking }
  | found {v : RequestView} (position : v.position = .looking) (isReady : v.ready) :
      Change n needSend v { v with position := .responding }
  | count {v : RequestView} {left : Nat} (position : v.position = .responding)
      (remain : v.remain = some (left + 2)) :
      Change n needSend v { v with
        remain := some (left + 1), position := .away
        trace := { v.trace with handled := v.trace.handled + 1 } }
  | countLast {v : RequestView} (position : v.position = .responding)
      (remain : v.remain = some 1) :
      Change n needSend v { v with
        remain := none, position := .deciding
        trace := { v.trace with handled := v.trace.handled + 1 } }
  | decide {v : RequestView} {isReady : Bool} (position : v.position = .deciding)
      (unmarked : isReady = true ↔ ¬ v.cancelled) :
      Change n needSend v { v with
        position := .signalling isReady 0
        trace := { v.trace with verdict := some isReady } }
  | signal {v : RequestView} {isReady : Bool} {next : Nat}
      (position : v.position = .signalling isReady next) (lt : next < n) :
      Change n needSend v { v with
        position := .signalling isReady (next + 1)
        trace := { v.trace with answers := v.trace.answers ++ [(next, isReady)] } }
  | deliver {v : RequestView} {next : Nat} (position : v.position = .signalling true next)
      (all : n ≤ next) :
      Change n needSend v { v with task := some .start, position := .delivering }
  | enqueue {v : RequestView} {next : Nat} (position : v.position = .signalling true next)
      (all : n ≤ next) :
      Change n needSend v { v with queued := v.queued + 1, position := .removing }
  | reject {v : RequestView} {next : Nat} (position : v.position = .signalling false next)
      (all : n ≤ next) :
      Change n needSend v { v with position := .refusing }
  | delivered {v : RequestView} (position : v.position = .delivering) :
      Change n needSend v { v with position := .removing }
  | remove {v : RequestView} (position : v.position = .removing) :
      Change n needSend v { v with ready := False, position := .away }
  | refuse {v : RequestView} (position : v.position = .refusing) :
      Change n needSend v { v with
        ready := False, cancelled := False, remain := none, position := .away }
  | startTask {v : RequestView} {queued : Nat} (next : v.queued = queued + 1) :
      Change n needSend v { v with queued, task := some .start }
  | assignDynamic {v : RequestView} (task : v.task = some .start) (needed : needSend = true) :
      Change n needSend v { v with task := some (.sending none) }
  | assign {v : RequestView} {bufferId : Nat} (task : v.task = some .start)
      (needed : needSend = true) :
      Change n needSend v { v with
        task := some (.sending (some bufferId))
        trace := { v.trace with assigned := v.trace.assigned ++ [bufferId] } }
  | skip {v : RequestView} (task : v.task = some .start) (unneeded : needSend = false) :
      Change n needSend v { v with task := some .releasing }
  | send {v : RequestView} {bufferId : Option Nat} (task : v.task = some (.sending bufferId)) :
      Change n needSend v { v with
        task := some (.freeing bufferId), trace := { v.trace with sends := v.trace.sends + 1 } }
  | freeDynamic {v : RequestView} (task : v.task = some (.freeing none)) :
      Change n needSend v { v with task := some .releasing }
  | free {v : RequestView} {bufferId : Nat} (task : v.task = some (.freeing (some bufferId))) :
      Change n needSend v { v with
        task := some .releasing
        trace := { v.trace with freed := v.trace.freed ++ [bufferId] } }
  | release {v : RequestView} (task : v.task = some .releasing) :
      Change n needSend v { v with
        session := none, task := none, trace := { v.trace with finished := true } }

variable {n : Nat} {needSend : Bool} {v w : RequestView}

theorem Counts.total_le (counts : v.Counts n) :
    v.waiting + v.position.inHand + v.trace.handled ≤ n := by
  have bound : v.trace.arrived ⊆ List.range n := fun peer mem =>
    List.mem_range.mpr (counts.arrived_lt peer mem)
  have length := (counts.arrived_nodup.subperm bound).length_le
  rw [List.length_range, counts.counted] at length
  exact length

theorem Counts.change (pos : 0 < n) (counts : v.Counts n)
    (changed : Change n needSend v w) : w.Counts n := by
  have total := counts.total_le
  obtain ⟨nodup, lt, counted, remain_eq, submitted_of_handled, submitted_of_responding,
    handled_of_deciding, ready_iff⟩ := counts
  -- Only the changes up to the removal of the response touch the counts.
  cases changed
  all_goals constructor
  all_goals grind -ring -linarith -order [Expected, Position.inHand, Position.decided]

theorem Answers.change (counts : v.Counts n) (answers : v.Answers n)
    (changed : Change n needSend v w) : w.Answers n := by
  have ready_iff := counts.ready_iff
  have handled_of_deciding := counts.handled_of_deciding
  have remain_eq := counts.remain_eq
  obtain ⟨verdict_none, signalling, answers_none, answers_some, sent_of_position,
    refused_of_position, cancelled_ready, cancelled_verdict, accepted, accepted_of_cancelled,
    accepted_of_refused⟩ := answers
  cases changed
  all_goals constructor
  all_goals grind -ring -linarith -order [Expected, Position.inHand, Position.decided,
    Position.isSignalling, signals_zero, signals_succ]

theorem Delivery.change (pos : 0 < n) (counts : v.Counts n) (answers : v.Answers n)
    (delivery : v.Delivery needSend) (changed : Change n needSend v w) : w.Delivery needSend := by
  have total := counts.total_le
  have verdict_none := answers.verdict_none
  have signalling : ∀ {isReady next}, v.position = .signalling isReady next →
      v.trace.verdict = some isReady := fun position => (answers.signalling position).1
  obtain ⟨underway_eq, sends_eq, needed, session_iff, buffers⟩ := delivery
  cases changed
  all_goals constructor
  all_goals grind -ring -linarith -order [underway, BuffersAt, Position.inHand,
    Position.isSignalling, Position.decided, SendStage.sent, SendStage.formatting,
      Option.not_isSome_iff_eq_none]

/-- What holds about a request in every state of a run without exceptions. -/
structure Coherent (n : Nat) (needSend : Bool) (v : RequestView) : Prop where
  counts : v.Counts n
  answers : v.Answers n
  delivery : v.Delivery needSend

theorem Coherent.change (pos : 0 < n) (coherent : v.Coherent n needSend)
    (changed : Change n needSend v w) : w.Coherent n needSend where
  counts := coherent.counts.change pos changed
  answers := coherent.answers.change coherent.counts changed
  delivery := coherent.delivery.change pos coherent.counts coherent.answers changed

/-- Of a request that is not known yet the sender holds nothing. -/
def unknown : RequestView :=
  { ready := False, cancelled := False, remain := none, session := none, waiting := 0
    queued := 0, task := none, position := .away, trace := {} }

theorem Coherent.unknown (pos : 0 < n) : unknown.Coherent n needSend where
  counts := by
    constructor
    all_goals simp [RequestView.unknown, Expected, Position.inHand, Position.decided, pos]
  answers := by
    constructor
    all_goals simp [RequestView.unknown, Position.isSignalling, pos]
  delivery := by
    constructor
    all_goals simp [RequestView.unknown, underway, BuffersAt, Position.inHand]

section

variable (coherent : v.Coherent n needSend)
include coherent

theorem Coherent.sends_le : v.trace.sends ≤ 1 := by
  rw [coherent.delivery.sends_eq]
  split <;> omega

/-- Data is sent only after every counterpart was told so. -/
theorem Coherent.answers_of_sends (sent : 0 < v.trace.sends) :
    v.trace.verdict = some true ∧ v.trace.answers = signals true n := by
  have sends_eq := coherent.delivery.sends_eq
  have underway_eq := coherent.delivery.underway_eq
  have decided : v.trace.verdict = some true ∧ v.position.isSignalling = false := by
    by_contra undecided
    cases task : v.task with
    | none => grind -ring -linarith -order [underway]
    | some stage => grind -ring -linarith -order [underway]
  exact ⟨decided.1, coherent.answers.answers_some decided.2 decided.1⟩

theorem Coherent.no_send_of_cancelAccepted
    (cancelled : v.trace.cancelAccepted = true) : v.trace.sends = 0 := by
  by_contra sent
  have verdict := (coherent.answers_of_sends (Nat.pos_of_ne_zero sent)).1
  obtain marked | refused := coherent.answers.accepted cancelled
  · exact coherent.answers.cancelled_verdict marked verdict
  · rw [verdict] at refused
    cases refused

/-- What was decided tells whether a cancellation was accepted. -/
theorem Coherent.cancelAccepted_of_verdict {isReady : Bool}
    (verdict : v.trace.verdict = some isReady) : v.trace.cancelAccepted = !isReady := by
  cases isReady with
  | false => exact coherent.answers.accepted_of_refused verdict
  | true =>
    by_contra accepted
    obtain marked | refused := coherent.answers.accepted (by simpa using accepted)
    · exact coherent.answers.cancelled_verdict marked verdict
    · rw [verdict] at refused
      cases refused

/-- A counterpart is told what was decided. -/
theorem Coherent.verdict_of_answer {peer : Nat} {isReady : Bool}
    (told : (peer, isReady) ∈ v.trace.answers) : v.trace.verdict = some isReady := by
  have value : ∀ {decided count}, (peer, isReady) ∈ signals decided count → decided = isReady := by
    intro decided count mem
    obtain ⟨_, -, entry⟩ := List.mem_map.mp mem
    exact (Prod.mk.inj entry).2
  cases verdict : v.trace.verdict with
  | none =>
    rw [coherent.answers.answers_none verdict] at told
    cases told
  | some decided =>
    cases quiet : v.position.isSignalling with
    | false =>
      rw [coherent.answers.answers_some quiet verdict] at told
      rw [value told]
    | true =>
      cases pos : v.position with
      | signalling current next =>
        obtain ⟨same, -, answers⟩ := coherent.answers.signalling pos
        rw [answers] at told
        rw [← verdict, same, value told]
      | _ => simp [pos, Position.isSignalling] at quiet

/-- At any time the first counterparts have been told the same. -/
theorem Coherent.answers_signals :
    ∃ isReady count, count ≤ n ∧ v.trace.answers = signals isReady count := by
  cases verdict : v.trace.verdict with
  | none => exact ⟨true, 0, Nat.zero_le n, coherent.answers.answers_none verdict⟩
  | some isReady =>
    cases pos : v.position with
    | signalling isReady next =>
      obtain ⟨-, bound, answers⟩ := coherent.answers.signalling pos
      exact ⟨isReady, next, bound, answers⟩
    | _ =>
      exact ⟨isReady, n, Nat.le_refl n, coherent.answers.answers_some (by rw [pos]; rfl) verdict⟩

/-- When nothing is under way, the data of a request was sent if so decided. -/
theorem Coherent.sends_of_quiet {isReady : Bool}
    (verdict : v.trace.verdict = some isReady) (quiet : v.position.isSignalling = false)
    (unqueued : v.queued = 0) (idle : v.task = none) :
    v.trace.finished = isReady ∧ v.trace.sends = if needSend && isReady then 1 else 0 := by
  have finished : v.trace.finished = isReady := by
    have underway_eq := coherent.delivery.underway_eq
    simp only [underway, unqueued, idle, verdict, quiet] at underway_eq
    cases isReady <;> cases done : v.trace.finished <;> simp [done] at underway_eq ⊢
  refine ⟨finished, ?_⟩
  rw [coherent.delivery.sends_eq, idle, finished]
  simp

/-- Once all infos are counted and nothing is under way, all counterparts have been
told the same, and the data was sent if they were told so. -/
theorem Coherent.settled (counted : n ≤ v.trace.handled)
    (away : v.position = .away) (unqueued : v.queued = 0) (idle : v.task = none) :
    ∃ isReady, v.trace.answers = signals isReady n ∧ v.trace.finished = isReady ∧
      v.trace.sends = if needSend && isReady then 1 else 0 := by
  have quiet : v.position.isSignalling = false := by rw [away]; rfl
  cases verdict : v.trace.verdict with
  | none =>
    obtain missing | deciding := coherent.answers.verdict_none.mp verdict
    · omega
    · rw [away] at deciding
      cases deciding
  | some isReady =>
    exact ⟨isReady, coherent.answers.answers_some quiet verdict,
      coherent.sends_of_quiet verdict quiet unqueued idle⟩

end

end RequestView

end CacheSender

end TrtLlm
