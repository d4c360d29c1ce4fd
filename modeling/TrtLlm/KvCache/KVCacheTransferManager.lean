import Mathlib.Logic.Function.Basic
import TrtLlm.KvCache.State
import TrtLlm.Lib.Run
import TrtLlm.Lib.Streams

/-! # Transfer manager

`KVCacheTransferManager` copies blocks between memory slots on two streams of its own, ordered by
events for pending reads and writes. The events are kept by the index of the slot in its pool,
without the level of the pool. Modelled is the mode `DRAM`, which uses the streams.
-/

namespace TrtLlm

open List

open Function (update update_self update_of_ne)

/-- The streams of `mOnboardManager`, `mOffloadManager` and `mBufferManager`. -/
inductive TransferStream where
  | onboard
  | offload
  | buffer
  deriving DecidableEq, Repr

/-- A copy in one pool. The interval counts the synchronizations before the copy. -/
structure BlockCopy where
  pool : Nat
  source : KVCacheIndex
  target : KVCacheIndex
  interval : Nat
  deriving DecidableEq, Repr

namespace BlockCopy

/-- Two copies touch one memory slot and at least one of them writes it. -/
def Conflicts (first second : BlockCopy) : Prop :=
  first.target = second.target ∨ first.target = second.source ∨ first.source = second.target
  deriving Decidable

end BlockCopy

/-- The transfer manager with the log of all it issued. `nextEvent` names the
events, and `interval` counts the synchronizations. -/
structure KVCacheTransferManager where
  pendingReads : Nat → Option Nat
  pendingWrites : Nat → Option Nat
  log : Streams.Log TransferStream BlockCopy
  nextEvent : Nat
  interval : Nat

namespace KVCacheTransferManager

def initial : KVCacheTransferManager where
  pendingReads := fun _ => none
  pendingWrites := fun _ => none
  log := []
  nextEvent := 0
  interval := 0

/-- The stream waits for a pending event, if there is one. -/
def wait (t : KVCacheTransferManager) (stream : TransferStream) (pending : Option Nat) :
    KVCacheTransferManager :=
  { t with log := t.log ++ (pending.map fun event => (stream, .wait event)).toList }

/-- A new event is recorded on the stream. -/
def record (t : KVCacheTransferManager) (stream : TransferStream) : KVCacheTransferManager :=
  { t with log := t.log ++ [(stream, .record t.nextEvent)], nextEvent := t.nextEvent + 1 }

/-- One copy for each pool. -/
def copies (numPools : Nat) (stream : TransferStream) (source target : KVCacheIndex)
    (interval : Nat) : Streams.Log TransferStream BlockCopy :=
  (List.range numPools).map fun pool => (stream, .work ⟨pool, source, target, interval⟩)

def copyBlock (t : KVCacheTransferManager) (numPools : Nat) (stream : TransferStream)
    (source target : KVCacheIndex) : KVCacheTransferManager :=
  { t with log := t.log ++ copies numPools stream source target t.interval }

/-- What `onboard` and `offload` have in common: the copy waits for the pending
write of its source and for the pending read and write of its target. -/
def transfer (t : KVCacheTransferManager) (numPools : Nat) (stream : TransferStream)
    (source target : KVCacheIndex) : KVCacheTransferManager :=
  let t := t.wait stream (t.pendingWrites source.get)
  let t := t.wait stream (t.pendingReads target.get)
  let t := { t with pendingReads := Function.update t.pendingReads target.get none }
  let t := t.wait stream (t.pendingWrites target.get)
  let t := { t with pendingWrites := Function.update t.pendingWrites target.get none }
  let t := t.copyBlock numPools stream source target
  let t := { t with pendingReads := Function.update t.pendingReads source.get (some t.nextEvent) }
  let t := t.record stream
  let t := { t with
    pendingWrites := Function.update t.pendingWrites target.get (some t.nextEvent) }
  t.record stream

def onboard (t : KVCacheTransferManager) (numPools : Nat) (offloadedBlock block : KVCacheIndex) :
    KVCacheTransferManager :=
  t.transfer numPools .onboard offloadedBlock block

def offload (t : KVCacheTransferManager) (numPools : Nat) (block offloadBlock : KVCacheIndex) :
    KVCacheTransferManager :=
  t.transfer numPools .offload block offloadBlock

/-- One stream waits for what another stream was given. -/
def waitFor (t : KVCacheTransferManager) (waiting awaited : TransferStream) :
    KVCacheTransferManager :=
  (t.record awaited).wait waiting (some t.nextEvent)

/-- `mPendingReads.clear()` and `mPendingWrites.clear()` -/
def clear (t : KVCacheTransferManager) : KVCacheTransferManager :=
  { t with
    pendingReads := fun _ => none
    pendingWrites := fun _ => none
    interval := t.interval + 1 }

def syncWithBufferManager (t : KVCacheTransferManager) : KVCacheTransferManager :=
  ((t.waitFor .offload .buffer).waitFor .onboard .buffer).clear

def syncTransfers (t : KVCacheTransferManager) : KVCacheTransferManager :=
  ((t.waitFor .buffer .offload).waitFor .buffer .onboard).clear

/-- The calls of the transfer manager, with the memory slots of the blocks. -/
inductive Call where
  | onboard (offloadedBlock block : KVCacheIndex)
  | offload (block offloadBlock : KVCacheIndex)
  | syncTransfers
  | syncWithBufferManager
  deriving DecidableEq, Repr

def step (numPools : Nat) (t : KVCacheTransferManager) : Call →
    Except Failure KVCacheTransferManager
  | .onboard offloadedBlock block => .ok (t.onboard numPools offloadedBlock block)
  | .offload block offloadBlock => .ok (t.offload numPools block offloadBlock)
  | .syncTransfers => .ok t.syncTransfers
  | .syncWithBufferManager => .ok t.syncWithBufferManager

/-- The pending read of the slot index a transfer reads, if there is one, was
recorded by the transfer's own stream or is waited for by the transfer. -/
def KeepsReads (t : KVCacheTransferManager) (stream : TransferStream)
    (source target : KVCacheIndex) : Prop :=
  source.get = target.get ∨ ∀ event ∈ t.pendingReads source.get, ∀ entry ∈ t.log,
    entry.2 = .record event → entry.1 = stream
  deriving Decidable

/-- No call records a read over the pending read of the other stream. -/
def Spares (t : KVCacheTransferManager) : Call → Prop
  | .onboard offloadedBlock block => t.KeepsReads .onboard offloadedBlock block
  | .offload block offloadBlock => t.KeepsReads .offload block offloadBlock
  | .syncTransfers => True
  | .syncWithBufferManager => True

instance (t : KVCacheTransferManager) (call : Call) : Decidable (t.Spares call) :=
  match call with
  | .onboard _ _ | .offload _ _ => inferInstanceAs (Decidable (KeepsReads _ _ _ _))
  | .syncTransfers | .syncWithBufferManager => isTrue trivial

/-! ## What a transfer issues -/

/-- The commands that a transfer puts before its copies. -/
def waits (t : KVCacheTransferManager) (stream : TransferStream) (source target : KVCacheIndex) :
    Streams.Log TransferStream BlockCopy :=
  ((t.pendingWrites source.get).map fun event => (stream, .wait event)).toList ++
    (((t.pendingReads target.get).map fun event => (stream, .wait event)).toList ++
      ((t.pendingWrites target.get).map fun event => (stream, .wait event)).toList)

/-- The copies of a transfer and the records after them. -/
def copied (t : KVCacheTransferManager) (numPools : Nat) (stream : TransferStream)
    (source target : KVCacheIndex) : Streams.Log TransferStream BlockCopy :=
  copies numPools stream source target t.interval ++
    [(stream, .record t.nextEvent), (stream, .record (t.nextEvent + 1))]

variable {t : KVCacheTransferManager} {numPools : Nat} {stream : TransferStream}
  {source target : KVCacheIndex}

theorem transfer_log : (t.transfer numPools stream source target).log =
    t.log ++ (t.waits stream source target ++ t.copied numPools stream source target) := by
  simp [transfer, wait, copyBlock, record, waits, copied, append_assoc]

theorem transfer_pendingReads : (t.transfer numPools stream source target).pendingReads =
    update (update t.pendingReads target.get none) source.get (some t.nextEvent) := rfl

theorem transfer_pendingWrites : (t.transfer numPools stream source target).pendingWrites =
    update t.pendingWrites target.get (some (t.nextEvent + 1)) := by
  simp [transfer, wait, copyBlock, record]

/-- The first position of the copies of a transfer. -/
def copyStart (t : KVCacheTransferManager) (stream : TransferStream)
    (source target : KVCacheIndex) : Nat :=
  t.log.length + (t.waits stream source target).length

variable {copy : BlockCopy} {other : TransferStream} {pos event : Nat}

theorem getElem?_transfer (place : Nat) : (t.transfer numPools stream source target).log[
    t.copyStart stream source target + place]? =
      (t.copied numPools stream source target)[place]? := by
  rw [transfer_log, ← append_assoc, copyStart, ← length_append,
    getElem?_append_right (Nat.le_add_right ..), Nat.add_sub_cancel_left]

/-- A copy in the log of a transfer was there before, or it is one of the transfer. -/
theorem work_of_transfer
    (found : (t.transfer numPools stream source target).log[pos]? = some (other, .work copy)) :
    t.log[pos]? = some (other, .work copy) ∨ t.copyStart stream source target ≤ pos ∧
        pos < t.copyStart stream source target + numPools ∧ other = stream ∧
        copy.source = source ∧ copy.target = target ∧ copy.interval = t.interval := by
  rcases Nat.lt_or_ge pos (t.copyStart stream source target) with before | begun
  · rw [transfer_log, ← append_assoc, getElem?_append_left (by rwa [length_append]),
      getElem?_append] at found
    split at found
    · exact .inl found
    · have waits := mem_of_getElem? found
      simp [KVCacheTransferManager.waits] at waits
  · obtain ⟨place, rfl⟩ := Nat.exists_eq_add_of_le begun
    rw [getElem?_transfer, copied, getElem?_append] at found
    split at found
    · simp only [copies, getElem?_map, Option.map_eq_some_iff] at found
      obtain ⟨pool, isPool, is⟩ := found
      cases is
      have lt := (List.getElem?_eq_some_iff.mp isPool).1
      rw [length_range] at lt
      exact .inr ⟨begun, Nat.add_lt_add_left lt _, rfl, rfl, rfl, rfl⟩
    · have recorded := mem_of_getElem? found
      simp at recorded

/-- The records of a transfer follow its copies. -/
theorem record_of_transfer :
    (t.transfer numPools stream source target).log[t.copyStart stream source target + numPools]? =
        some (stream, .record t.nextEvent) ∧ (t.transfer numPools stream source target).log[
          t.copyStart stream source target + numPools + 1]? =
        some (stream, .record (t.nextEvent + 1)) := by
  rw [Nat.add_assoc, getElem?_transfer, getElem?_transfer]
  simp [copied, copies]

/-- What a waited event covers runs before the copies and records of the transfer. -/
theorem before_of_pending {next : Nat} {command : Streams.Command BlockCopy}
    (covered : Streams.Covers t.log event pos)
    (pending : t.pendingWrites source.get = some event ∨ t.pendingReads target.get = some event ∨
      t.pendingWrites target.get = some event) (later : t.copyStart stream source target ≤ next)
    (atNext : (t.transfer numPools stream source target).log[next]? = some (stream, command)) :
    Streams.Before (t.transfer numPools stream source target).log pos next := by
  have waited : (stream, .wait event) ∈ t.waits stream source target := by
    rcases pending with writes | reads | writes
    · simp [waits, writes]
    · simp [waits, reads]
    · simp [waits, writes]
  rw [transfer_log] at atNext ⊢
  exact covered.before_of_wait waited later atNext

/-! ## Pending events cover the copies -/

/-- The copies since the last synchronization are covered by the pending events
of the indices they touch, and conflicting ones are ordered. -/
structure Ordered (t : KVCacheTransferManager) : Prop where
  interval_le : ∀ {position : Nat} {stream : TransferStream} {copy : BlockCopy},
    t.log[position]? = some (stream, .work copy) → copy.interval ≤ t.interval
  writes : ∀ {position : Nat} {stream : TransferStream} {copy : BlockCopy},
    t.log[position]? = some (stream, .work copy) → copy.interval = t.interval →
      ∃ event, t.pendingWrites copy.target.get = some event ∧ Streams.Covers t.log event position
  reads : ∀ {position : Nat} {stream : TransferStream} {copy : BlockCopy},
    t.log[position]? = some (stream, .work copy) → copy.interval = t.interval →
      ∃ event, (t.pendingReads copy.source.get = some event ∨
        t.pendingWrites copy.source.get = some event) ∧ Streams.Covers t.log event position
  ordered : ∀ {first second : Nat} {stream other : TransferStream} {earlier later : BlockCopy},
    t.log[first]? = some (stream, .work earlier) → t.log[second]? = some (other, .work later) →
      first < second → earlier.interval = later.interval → earlier.Conflicts later →
      Streams.Before t.log first second

theorem Ordered.initial : Ordered initial where
  interval_le found := by simp [KVCacheTransferManager.initial] at found
  writes found := by simp [KVCacheTransferManager.initial] at found
  reads found := by simp [KVCacheTransferManager.initial] at found
  ordered found := by simp [KVCacheTransferManager.initial] at found

/-- The last record of a transfer covers what the transfer waited for. -/
theorem covers_of_pending (covered : Streams.Covers t.log event pos)
    (pending : t.pendingWrites source.get = some event ∨ t.pendingReads target.get = some event ∨
      t.pendingWrites target.get = some event) :
    Streams.Covers (t.transfer numPools stream source target).log (t.nextEvent + 1) pos := by
  refine ⟨_, stream, record_of_transfer.2, ?_⟩
  apply before_of_pending covered pending (by omega) record_of_transfer.2

/-- Both records of a transfer cover its copies. -/
theorem covers_of_copy (bound : pos < t.copyStart stream source target + numPools)
    (found : (t.transfer numPools stream source target).log[pos]? = some (stream, .work copy)) :
    Streams.Covers (t.transfer numPools stream source target).log t.nextEvent pos ∧
      Streams.Covers (t.transfer numPools stream source target).log (t.nextEvent + 1) pos := by
  constructor
  · exact ⟨_, stream, record_of_transfer.1,
      Streams.before_of_stream bound found record_of_transfer.1⟩
  · exact ⟨_, stream, record_of_transfer.2,
      Streams.before_of_stream (by omega) found record_of_transfer.2⟩

/-- A pending read of the transfer's own stream is covered by its new record. -/
theorem covers_of_stream (covered : Streams.Covers t.log event pos)
    (own : ∀ entry ∈ t.log, entry.2 = .record event → entry.1 = stream) :
    Streams.Covers (t.transfer numPools stream source target).log t.nextEvent pos := by
  obtain ⟨recorded, other, atRecord, before⟩ := covered
  have same : other = stream := own _ (List.mem_of_getElem? atRecord) rfl
  subst same
  have bound : recorded < t.log.length := (List.getElem?_eq_some_iff.mp atRecord).1
  refine ⟨_, other, record_of_transfer.1, ?_⟩
  have kept : (t.transfer numPools other source target).log[recorded]? =
      some (other, .record event) := by
    rw [transfer_log]
    exact Streams.getElem?_append_of_some atRecord
  have next : Streams.Before (t.transfer numPools other source target).log recorded
      (t.copyStart other source target + numPools) :=
    Streams.before_of_stream (by unfold copyStart; omega) kept record_of_transfer.1
  have earlier : Streams.Before (t.transfer numPools other source target).log pos recorded := by
    rw [transfer_log]
    exact before.append _
  exact earlier.trans next

theorem covers_transfer (covered : Streams.Covers t.log event pos) :
    Streams.Covers (t.transfer numPools stream source target).log event pos := by
  rw [transfer_log]
  exact covered.append _

theorem Ordered.transfer_writes (inv : t.Ordered)
    (found : (t.transfer numPools stream source target).log[pos]? = some (other, .work copy))
    (current : copy.interval = t.interval) :
    ∃ event, (t.transfer numPools stream source target).pendingWrites copy.target.get = some event ∧
      Streams.Covers (t.transfer numPools stream source target).log event pos := by
  rw [transfer_pendingWrites]
  rcases work_of_transfer found with old | ⟨-, bound, rfl, -, rfl, -⟩
  · obtain ⟨event, pending, covered⟩ := inv.writes old current
    by_cases same : copy.target.get = target.get
    · rw [same] at pending ⊢
      exact ⟨_, update_self .., covers_of_pending covered (.inr (.inr pending))⟩
    · rw [update_of_ne same]
      exact ⟨event, pending, covers_transfer covered⟩
  · exact ⟨_, update_self .., (covers_of_copy bound found).2⟩

theorem Ordered.transfer_reads (inv : t.Ordered) (keeps : t.KeepsReads stream source target)
    (found : (t.transfer numPools stream source target).log[pos]? = some (other, .work copy))
    (current : copy.interval = t.interval) :
    ∃ event, ((t.transfer numPools stream source target).pendingReads copy.source.get = some event ∨
        (t.transfer numPools stream source target).pendingWrites copy.source.get = some event) ∧
      Streams.Covers (t.transfer numPools stream source target).log event pos := by
  rw [transfer_pendingReads, transfer_pendingWrites]
  rcases work_of_transfer found with old | ⟨-, bound, rfl, rfl, -, -⟩
  · obtain ⟨event, pending, covered⟩ := inv.reads old current
    by_cases same : copy.source.get = target.get
    · -- The read is waited for, so that the record of the write stands for it.
      rw [same] at pending ⊢
      exact ⟨_, .inr (update_self ..), covers_of_pending covered (.inr pending)⟩
    · rw [update_of_ne same]
      by_cases reread : copy.source.get = source.get
      · rcases pending with reads | writes
        · rw [reread] at reads same ⊢
          have own := keeps.resolve_left same event reads
          exact ⟨_, .inl (update_self ..), covers_of_stream covered own⟩
        · exact ⟨event, .inr writes, covers_transfer covered⟩
      · rw [update_of_ne reread, update_of_ne same]
        exact ⟨event, pending, covers_transfer covered⟩
  · exact ⟨_, .inl (update_self ..), (covers_of_copy bound found).1⟩

theorem Ordered.transfer_ordered (inv : t.Ordered) {first second : Nat}
    {firstStream secondStream : TransferStream} {earlier later : BlockCopy}
    (atFirst : (t.transfer numPools stream source target).log[first]? =
      some (firstStream, .work earlier))
    (atSecond : (t.transfer numPools stream source target).log[second]? =
      some (secondStream, .work later))
    (lt : first < second) (same : earlier.interval = later.interval)
    (conflict : earlier.Conflicts later) :
    Streams.Before (t.transfer numPools stream source target).log first second := by
  rcases work_of_transfer atSecond with old | ⟨begun, -, rfl, rfl, rfl, current⟩
  · rcases work_of_transfer atFirst with older | ⟨begun, -⟩
    · rw [transfer_log]
      exact (inv.ordered older old lt same conflict).append _
    · have bound : second < t.log.length := (List.getElem?_eq_some_iff.mp old).1
      unfold copyStart at begun
      omega
  · rcases work_of_transfer atFirst with old | ⟨-, -, rfl, -⟩
    · rcases conflict with targets | targetSource | sourceTarget
      · obtain ⟨event, pending, covered⟩ := inv.writes old (same.trans current)
        rw [targets] at pending
        exact before_of_pending covered (.inr (.inr pending)) begun atSecond
      · obtain ⟨event, pending, covered⟩ := inv.writes old (same.trans current)
        rw [targetSource] at pending
        exact before_of_pending covered (.inl pending) begun atSecond
      · obtain ⟨event, pending, covered⟩ := inv.reads old (same.trans current)
        rw [sourceTarget] at pending
        exact before_of_pending covered (.inr pending) begun atSecond
    · exact Streams.before_of_stream lt atFirst atSecond

theorem Ordered.transfer (inv : t.Ordered) (keeps : t.KeepsReads stream source target) :
    (t.transfer numPools stream source target).Ordered where
  interval_le found := by
    rcases work_of_transfer found with old | ⟨-, -, -, -, -, current⟩
    · exact inv.interval_le old
    · exact Nat.le_of_eq current
  writes found current := inv.transfer_writes found current
  reads found current := inv.transfer_reads keeps found current
  ordered atFirst atSecond lt same conflict :=
    inv.transfer_ordered atFirst atSecond lt same conflict

/-! ## Synchronizations -/

theorem work_of_waitFor {waiting awaited : TransferStream}
    (found : (t.waitFor waiting awaited).log[pos]? = some (other, .work copy)) :
    t.log[pos]? = some (other, .work copy) := by
  by_cases old : pos < t.log.length
  · simp only [waitFor, record, wait, append_assoc] at found
    rw [getElem?_append_left old] at found
    exact found
  · simp only [waitFor, record, wait, append_assoc] at found
    rw [getElem?_append_right (by omega)] at found
    have mem := mem_of_getElem? found
    simp at mem

/-- After two waits and a clear no copy belongs to the new interval. -/
theorem Ordered.sync (inv : t.Ordered) (first second third fourth : TransferStream) :
    ((t.waitFor first second).waitFor third fourth).clear.Ordered := by
  have older : ∀ {pos : Nat} {other : TransferStream} {copy : BlockCopy},
      ((t.waitFor first second).waitFor third fourth).clear.log[pos]? =
        some (other, .work copy) → copy.interval < t.interval + 1 := fun found =>
    Nat.lt_succ_of_le (inv.interval_le (work_of_waitFor (work_of_waitFor found)))
  refine ⟨fun found => Nat.le_of_lt (older found), fun found current => ?_, fun found current => ?_,
    fun atFirst atSecond lt same conflict => ?_⟩
  · exact absurd current (Nat.ne_of_lt (older found))
  · exact absurd current (Nat.ne_of_lt (older found))
  · have before := inv.ordered (work_of_waitFor (work_of_waitFor atFirst))
      (work_of_waitFor (work_of_waitFor atSecond)) lt same conflict
    simp only [clear, waitFor, record, wait, append_assoc]
    exact before.append _

theorem Ordered.step {call : Call} {next : KVCacheTransferManager} (inv : t.Ordered)
    (spares : t.Spares call) (stepped : t.step numPools call = .ok next) : next.Ordered := by
  cases call with
  | onboard source target | offload source target =>
    cases stepped
    exact inv.transfer spares
  | syncTransfers | syncWithBufferManager =>
    cases stepped
    exact inv.sync ..

/-- In a run in which no read is recorded over a pending read of the other
stream, two conflicting copies with no synchronization between them are ordered
as they were called. -/
theorem conflicting_copies_ordered {first second : Nat} {stream other : TransferStream}
    {earlier later : BlockCopy}
    (reached : Run.Reaches (fun t => step numPools t) Spares initial t)
    (atFirst : t.log[first]? = some (stream, .work earlier))
    (atSecond : t.log[second]? = some (other, .work later)) (lt : first < second)
    (same : earlier.interval = later.interval) (conflict : earlier.Conflicts later) :
    Streams.Before t.log first second := by
  have inv : t.Ordered := reached.invariant Ordered.initial
    fun _ _ _ inv spares stepped => inv.step spares stepped
  exact inv.ordered atFirst atSecond lt same conflict

/-- A block is onboarded and its secondary slot is then overwritten by an offload. -/
def reuseSlot : List Call :=
  [.onboard ⟨false, 0⟩ ⟨true, 1⟩, .offload ⟨true, 3⟩ ⟨false, 0⟩]

theorem reuseSlot_ordered : ∃ t, Run.Reaches (fun t => step 1 t) Spares initial t ∧
    Streams.Before t.log 0 4 := by
  obtain ⟨t, reached, read, written⟩ : ∃ t, Run.Reaches (fun t => step 1 t) Spares initial t ∧
      t.log[0]? = some (.onboard, .work ⟨0, ⟨false, 0⟩, ⟨true, 1⟩, 0⟩) ∧
      t.log[4]? = some (.offload, .work ⟨0, ⟨true, 3⟩, ⟨false, 0⟩, 0⟩) :=
    Run.exists_reaches reuseSlot (by decide +kernel)
  exact ⟨t, reached, conflicting_copies_ordered reached read written (by decide) rfl (by decide)⟩

/-- Between the two calls of `reuseSlot` the primary slot with the same index is
read on the other stream. -/
def readBothLevels : List Call :=
  [.onboard ⟨false, 0⟩ ⟨true, 1⟩, .offload ⟨true, 0⟩ ⟨false, 2⟩,
    .offload ⟨true, 3⟩ ⟨false, 0⟩]

/-- The read of secondary slot 0 by the first call and the write to it by the
third one are not ordered: the second call replaced the pending read. -/
theorem readBothLevels_unordered :
    ∃ t, Run.Reaches (fun t => step 1 t) (fun _ _ => True) initial t ∧
      t.log[0]? = some (.onboard, .work ⟨0, ⟨false, 0⟩, ⟨true, 1⟩, 0⟩) ∧
      t.log[7]? = some (.offload, .work ⟨0, ⟨true, 3⟩, ⟨false, 0⟩, 0⟩) ∧
      ¬ Streams.Before t.log 0 7 := by
  have traced : Run.trace (fun t => step 1 t) (fun _ _ => True) readBothLevels initial =
    some (((initial.onboard 1 ⟨false, 0⟩ ⟨true, 1⟩).offload 1 ⟨true, 0⟩ ⟨false, 2⟩).offload 1
      ⟨true, 3⟩ ⟨false, 0⟩) := rfl
  refine ⟨_, Run.reaches_of_trace traced, rfl, rfl, ?_⟩
  apply Streams.not_before_of_closed (fun position => decide (position < 3))
  · decide +kernel
  · rfl
  · rfl

end KVCacheTransferManager

end TrtLlm
