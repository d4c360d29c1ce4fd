import TrtLlm.Transfer.MessageSizes

/-!
# Staging in the MLA formatter

A buffer that is not a slice of the preallocated one is sent and received in pieces through a
staging buffer. The loop of the sender starts from the size of the data, that of the receiver from
the size of its staging buffer; with equal staging buffers they agree only if the data has that size
as well.
-/

namespace TrtLlm

namespace MLACacheFormatter

open CacheFormatter (readBuffer)

/-- The `while` loops over `remainSendSize` and `remainRecvSize`: the offset and the size of each
slice of the connection's buffer; nothing if the loop makes no progress. -/
def stagedSlices (needSize stagingSize : Nat) :
    Nat → Nat → Except ExchangeFailure (Option (List (Nat × Nat)))
  | _, 0 => return some []
  | 0, _ + 1 => return none
  | fuel + 1, remaining + 1 => do
      let size := min (remaining + 1) stagingSize
      -- otherwise the offset wraps around and `ITensor::slice` throws
      ensure (remaining + 1 ≤ needSize) .outOfRange
      let later ← stagedSlices needSize stagingSize fuel (remaining + 1 - size)
      return later.map ((needSize - (remaining + 1), size) :: ·)

/-- The size of `preAllocSendBuffer` or `preAllocRecvBuffer`. -/
def preAllocatedSize : Option Nat → Except ExchangeFailure Nat
  | some numberOfElements => return numberOfElements
  | none => throw .check

/-- The size of `sendBufferUsed`, if the data is staged. -/
def sendStaging (capacity : Option Nat) (buffers : List SplitBuffer)
    (bufferCoverTargetNum cacheIdx : Nat) : Except ExchangeFailure (Option Nat) := do
  if cacheIdx < bufferCoverTargetNum then
    return none
  if bufferCoverTargetNum = 0 then
    return some (← preAllocatedSize capacity)
  return some (← readBuffer buffers (cacheIdx % bufferCoverTargetNum)).size

/-- `sendBufferFun`: the slices of the buffer of a connection, one for each message. -/
def sendSlices (capacity : Option Nat) (buffers : List SplitBuffer)
    (bufferCoverTargetNum cacheIdx : Nat) :
    Except ExchangeFailure (Option (List (Nat × Nat))) := do
  let buffer ← readBuffer buffers cacheIdx
  match ← sendStaging capacity buffers bufferCoverTargetNum cacheIdx with
  | none => return some [(0, buffer.size)]
  | some staging => stagedSlices buffer.size staging buffer.size buffer.size

/-- The size of `recvBufferUsed`, if the data is staged. -/
def recvStaging (capacity : Option Nat) (buffers : List SplitBuffer)
    (targetNum bufferCoverTargetNum processIdx : Nat) : Except ExchangeFailure (Option Nat) := do
  let remainNoCoverTargetNum := targetNum - bufferCoverTargetNum
  if remainNoCoverTargetNum ≤ processIdx then
    return none
  if bufferCoverTargetNum = 0 then
    return some (← preAllocatedSize capacity)
  return some
    (← readBuffer buffers (processIdx % bufferCoverTargetNum + remainNoCoverTargetNum)).size

/-- `recvBufferFun`: the slices of the buffer of a picked connection, one for each message. -/
def recvSlices (capacity : Option Nat) (buffers : List SplitBuffer)
    (targetNum bufferCoverTargetNum processIdx : Nat) :
    Except ExchangeFailure (Option (List (Nat × Nat))) := do
  let buffer ← readBuffer buffers processIdx
  match ← recvStaging capacity buffers targetNum bufferCoverTargetNum processIdx with
  | none => return some [(0, buffer.size)]
  -- `remainRecvSize` starts from the size of `recvBufferUsed`
  | some staging => stagedSlices buffer.size staging staging staging

/-- The slices are disjoint and cover a buffer from a position on, each position once. -/
def Tiles (size : Nat) : Nat → List (Nat × Nat) → Prop
  | first, [] => first = size
  | first, slice :: rest => slice.1 = first ∧ Tiles size (first + slice.2) rest

section Staging

variable {needSize staging : Nat}

/-- The slices of a loop that starts inside the buffer cover the rest of it, and each fits into the
staging buffer. -/
theorem stagedSlices_tiles (pos : 0 < staging) {fuel left : Nat}
    (enough : left ≤ fuel) (lt : left ≤ needSize) :
    ∃ slices, stagedSlices needSize staging fuel left = .ok (some slices) ∧
      Tiles needSize (needSize - left) slices ∧ ∀ slice ∈ slices, slice.2 ≤ staging := by
  induction fuel generalizing left with
  | zero =>
    cases Nat.le_zero.mp enough
    exact ⟨[], rfl, rfl, fun slice mem => absurd mem List.not_mem_nil⟩
  | succ fuel ih =>
    cases left with
    | zero => exact ⟨[], rfl, rfl, fun slice mem => absurd mem List.not_mem_nil⟩
    | succ left =>
      obtain ⟨slices, looped, tiles, fits⟩ :=
        @ih (left + 1 - min (left + 1) staging) (by omega) (by omega)
      refine ⟨(needSize - (left + 1), min (left + 1) staging) :: slices, ?_, ⟨rfl, ?_⟩, ?_⟩
      · simp only [stagedSlices, ensure_of lt, looped]
        rfl
      · have next : needSize - (left + 1) + min (left + 1) staging =
          needSize - (left + 1 - min (left + 1) staging) := by omega
        rw [next]
        exact tiles
      · exact List.forall_mem_cons.mpr ⟨Nat.min_le_right _ _, fits⟩

/-- The receiver's loop takes one slice of the size of its staging buffer. -/
theorem eq_of_received_tiles {slices : List (Nat × Nat)}
    (received : stagedSlices needSize staging staging staging = .ok (some slices))
    (tiles : Tiles needSize 0 slices) : needSize = staging := by
  cases staging with
  | zero =>
    cases received
    exact Eq.symm tiles
  | succ size =>
    rw [stagedSlices, ensure_bind_eq_ok] at received
    obtain ⟨lt, received⟩ := received
    simp only [Nat.min_self, Nat.sub_self, stagedSlices] at received
    cases received
    obtain ⟨start, stop⟩ := tiles
    have stopped : 0 + (size + 1) = needSize := stop
    omega

end Staging

/-- Both sides exchange messages of the same sizes, the slices fill the buffers of the connection,
and none is larger than the staging buffer. -/
def Delivers (needSize staging : Nat)
    (sent received : Except ExchangeFailure (Option (List (Nat × Nat)))) : Prop :=
  ∃ sends receives, sent = .ok (some sends) ∧ received = .ok (some receives) ∧
    sends.map Prod.snd = receives.map Prod.snd ∧
    Tiles needSize 0 sends ∧ Tiles needSize 0 receives ∧
    ∀ slice ∈ sends ++ receives, slice.2 ≤ staging

theorem map_size_of_allocated {cap : Option Nat} {sizes : List Nat}
    {buffers : List SplitBuffer} {cover : Nat}
    (allocated : getOrAllocateBuffers cap sizes.length sizes = .ok (buffers, cover)) :
    buffers.map SplitBuffer.size = sizes := by
  obtain ⟨_, allocates, same⟩ :=
    CacheFormatter.getOrAllocateBuffers_eq cap (Nat.le_refl sizes.length) List.take_length
  cases allocates.symm.trans allocated
  exact same

/-- With staging buffers of equal size on both sides, data is delivered exactly if it has the size
of the staging buffer. -/
theorem staged_delivers_iff {sendCapacity recvCapacity : Option Nat}
    {sendSizes recvSizes : List Nat} {sendBuffers recvBuffers : List SplitBuffer}
    {sendCover recvCover cacheIdx processIdx needSize staging : Nat}
    (sends : getOrAllocateBuffers sendCapacity sendSizes.length sendSizes =
      .ok (sendBuffers, sendCover))
    (receives : getOrAllocateBuffers recvCapacity recvSizes.length recvSizes =
      .ok (recvBuffers, recvCover))
    (sendSize : sendSizes[cacheIdx]? = some needSize)
    (recvSize : recvSizes[processIdx]? = some needSize)
    (sendStaged : sendStaging sendCapacity sendBuffers sendCover cacheIdx = .ok (some staging))
    (recvStaged : recvStaging recvCapacity recvBuffers recvSizes.length recvCover processIdx =
      .ok (some staging)) :
    Delivers needSize staging (sendSlices sendCapacity sendBuffers sendCover cacheIdx)
        (recvSlices recvCapacity recvBuffers recvSizes.length recvCover processIdx) ↔
      needSize = staging := by
  obtain ⟨sendBuffer, sendRead, rfl⟩ :=
    CacheFormatter.readBuffer_of_size (map_size_of_allocated sends) sendSize
  obtain ⟨recvBuffer, recvRead, same⟩ :=
    CacheFormatter.readBuffer_of_size (map_size_of_allocated receives) recvSize
  have sent : sendSlices sendCapacity sendBuffers sendCover cacheIdx =
      stagedSlices sendBuffer.size staging sendBuffer.size sendBuffer.size := by
    simp only [sendSlices, sendRead, sendStaged, bind, Except.bind]
  have received : recvSlices recvCapacity recvBuffers recvSizes.length recvCover processIdx =
      stagedSlices sendBuffer.size staging staging staging := by
    simp only [recvSlices, recvRead, recvStaged, bind, Except.bind, same]
  rw [sent, received]
  constructor
  · rintro ⟨sends, receives, -, loop, -, -, tiles, -⟩
    exact eq_of_received_tiles loop tiles
  · intro equal
    rw [equal]
    rcases Nat.eq_zero_or_pos staging with zero | positive
    · subst zero
      exact ⟨[], [], rfl, rfl, rfl, rfl, rfl, fun slice mem => absurd mem List.not_mem_nil⟩
    · obtain ⟨slices, loop, tiles, fits⟩ :=
        @stagedSlices_tiles staging staging positive staging staging (Nat.le_refl _) (Nat.le_refl _)
      rw [Nat.sub_self] at tiles
      exact ⟨slices, slices, loop, loop, rfl, tiles, tiles,
        List.forall_mem_append.mpr ⟨fits, fits⟩⟩

/-- Two targets of which the preallocated buffers cover one: the sender stages the second one
through the first, the receiver the first one through the second. -/
theorem staged_delivers_oneCovered : ∃ sendBuffers recvBuffers,
    getOrAllocateBuffers (some 3) 2 [3, 3] = .ok (sendBuffers, 1) ∧
      getOrAllocateBuffers (some 4) 2 [3, 3] = .ok (recvBuffers, 1) ∧
      Delivers 3 3 (sendSlices (some 3) sendBuffers 1 1) (recvSlices (some 4) recvBuffers 2 1 0) :=
  ⟨[.slice 0 3, .dynamic 3], [.slice 0 3, .dynamic 3], rfl, rfl,
    (@staged_delivers_iff _ _ [3, 3] [3, 3] _ _ _ _ _ _ _ _ rfl rfl rfl rfl rfl rfl).mpr rfl⟩

/-- The preallocated buffers cover no target: the sender sends two messages, the receiver expects
one and puts it at the end of the destination. -/
theorem uncovered_receives_once :
    getOrAllocateBuffers (some 2) 1 [4] = .ok ([.dynamic 4], 0) ∧
      sendSlices (some 2) [.dynamic 4] 0 0 = .ok (some [(0, 2), (2, 2)]) ∧
      recvSlices (some 2) [.dynamic 4] 1 0 0 = .ok (some [(2, 2)]) :=
  ⟨rfl, rfl, rfl⟩

end MLACacheFormatter

end TrtLlm
