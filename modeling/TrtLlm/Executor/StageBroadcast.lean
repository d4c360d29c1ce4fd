import Mathlib.Algebra.Order.Ring.Nat
import Mathlib.Data.List.FinRange
import Mathlib.Data.List.TakeDrop
import TrtLlm.Lib.Collectives
import TrtLlm.Lib.Grid
import TrtLlm.Lib.Run

/-! # The exchange inside the first pipeline stage

The leader of the first pipeline stage passes the new requests and the cancelled ids on to the
stage. Every rank takes part in a broadcast of its tensor parallel group and then in one of its
context parallel group; in the first column the first one carries the leader's data, in the others
it is overwritten by the second. The leader leaves out the groups it is alone in. It sends count and
ids of the cancelled requests to one group after the other, whereas the others take part in both
counts first; the plan of a round says why this cannot deadlock.
-/

namespace TrtLlm.StageBroadcast

open Collectives List

/-- A rank of the first pipeline stage. -/
structure Rank (tp cp : Nat) where
  tpRank : Fin tp
  cpRank : Fin cp

/-- The communicators of the stage: one tensor parallel group for each context parallel rank and one
context parallel group for each tensor parallel rank. -/
inductive Group (tp cp : Nat) where
  | tensorParallel (cpRank : Fin cp)
  | contextParallel (tpRank : Fin tp)

/-- The buffer of one broadcast. -/
inductive Message where
  | value (value : Nat)
  | bytes (chunk : List UInt8)
  | ids (reqIds : List Nat)

/-- Buffers of one type and size. -/
def Message.Fits : Message → Message → Prop
  | .value _, .value _ => True
  | .bytes own, .bytes sent => own.length = sent.length
  | .ids own, .ids sent => own.length = sent.length
  | _, _ => False

section

variable {tp cp : Nat}

namespace Rank

/-- `mCommTensorParallel` on the ideal grid: the ranks that differ in the tensor coordinate only.
The executor splits the session by `rank / tp` instead, with `getTensorParallelRank` as the key. -/
def commTensorParallel (rank : Rank tp cp) : Group tp cp := .tensorParallel rank.cpRank

/-- `mCommContextParallel` on the ideal grid; the executor splits by
`rank / (tp * cp) * tp + rank % tp`. -/
def commContextParallel (rank : Rank tp cp) : Group tp cp := .contextParallel rank.tpRank

/-- `mIsPipelineLeader` on the ideal grid, at the origin of the stage; the executor compares the
rank with `participantIds[tp * (pp - 1)]`. -/
def isPipelineLeader (rank : Rank tp cp) : Bool :=
  rank.tpRank.val == 0 && rank.cpRank.val == 0

end Rank

/-- The communicators are rooted at the first of their ranks. -/
def network (tp cp : Nat) [NeZero tp] [NeZero cp] : Network (Rank tp cp) (Group tp cp) Message where
  Member
    | .tensorParallel cpRank, rank => rank.cpRank = cpRank
    | .contextParallel tpRank, rank => rank.tpRank = tpRank
  root
    | .tensorParallel cpRank => ⟨⟨0, Nat.pos_of_neZero tp⟩, cpRank⟩
    | .contextParallel tpRank => ⟨tpRank, ⟨0, Nat.pos_of_neZero cp⟩⟩
  root_member
    | .tensorParallel _ => rfl
    | .contextParallel _ => rfl
  Fits := Message.Fits

/-! ## Broadcasts -/

section Broadcasts

variable {β : Type}

/-- What a rank of the stage does. A broadcast that brings a buffer of another type ends it without
a result. -/
abbrev Exchange (tp cp : Nat) (β : Type) := Program (Group tp cp) Message (Option β)

/-- Broadcast of one number. -/
def bcastValue (group : Group tp cp) (value : Nat) (next : Nat → Exchange tp cp β) :
    Exchange tp cp β :=
  .bcast group (.value value) fun
    | .value value => next value
    | _ => .done none

/-- Broadcast of request ids. -/
def bcastIds (group : Group tp cp) (reqIds : List Nat) (next : List Nat → Exchange tp cp β) :
    Exchange tp cp β :=
  .bcast group (.ids reqIds) fun
    | .ids reqIds => next reqIds
    | _ => .done none

/-- The largest chunk of one broadcast, `numeric_limits<int32_t>::max()`. -/
def maxChunkSize : Nat := 2147483647

/-- The loop of the vector broadcast: the chunks at some positions of the vector. -/
def bcastChunks (group : Group tp cp) (next : List UInt8 → Exchange tp cp β) :
    List Nat → List UInt8 → Exchange tp cp β
  | [], vec => next vec
  | pos :: positions, vec =>
    .bcast group (.bytes ((vec.drop pos).take maxChunkSize)) fun
      | .bytes chunk =>
        bcastChunks group next positions (vec.take pos ++ chunk ++ vec.drop (pos + chunk.length))
      | _ => .done none

/-- `bcast` of a vector: its size first, then its contents. -/
def bcastVec (group : Group tp cp) (isRoot : Bool) (vec : List UInt8)
    (next : List UInt8 → Exchange tp cp β) : Exchange tp cp β :=
  bcastValue group (if isRoot then vec.length else 0) fun vecSize =>
    let vec := vec.takeD vecSize 0
    if vec.isEmpty then next vec
    else bcastChunks group next (Grid.stride 0 vec.length maxChunkSize) vec

end Broadcasts

/-! ## The rounds -/

section Rounds

variable {Request β : Type}

/-- The serialization of requests: what is packed can be unpacked. -/
structure Codec (Request : Type) where
  serializeReqWithIds : List Request → List UInt8
  deserializeReqWithIds : List UInt8 → Option (List Request)
  deserialize_serialize : ∀ requests,
    deserializeReqWithIds (serializeReqWithIds requests) = some requests

/-- `getNewReqWithIds` on the first pipeline stage; the leader has got the requests. -/
def getNewReqWithIds (codec : Codec Request) (rank : Rank tp cp) (requests : List Request)
    (next : List Request → Exchange tp cp β) : Exchange tp cp β :=
  if rank.isPipelineLeader then
    let packed := codec.serializeReqWithIds requests
    let bcastContextParallel : List UInt8 → Exchange tp cp β := fun packed =>
      if 1 < cp then bcastVec rank.commContextParallel true packed fun _ => next requests
      else next requests
    if 1 < tp then bcastVec rank.commTensorParallel true packed bcastContextParallel
    else bcastContextParallel packed
  else
    bcastVec rank.commTensorParallel (rank.tpRank.val == 0) [] fun buffer =>
      bcastVec rank.commContextParallel (rank.cpRank.val == 0) buffer fun buffer =>
        match codec.deserializeReqWithIds buffer with
        | some requests => next requests
        | none => .done none

/-- An active request; a child has the id of its parent. -/
structure ActiveRequest where
  requestId : Nat
  parentRequestId : Option Nat

/-- The id under which an active request is cancelled. -/
def ActiveRequest.reqId (request : ActiveRequest) : Nat :=
  request.parentRequestId.getD request.requestId

/-- Insertion into the set of cancelled ids. -/
def insertIds (cancelledReqIds reqIds : List Nat) : List Nat :=
  reqIds.foldl (fun ids reqId => if reqId ∈ ids then ids else ids ++ [reqId]) cancelledReqIds

/-- The leader's broadcasts to one of its groups: the number of ids, and the ids if any. -/
def sendIds (group : Group tp cp) (cancelledReqIds : List Nat) (next : Exchange tp cp β) :
    Exchange tp cp β :=
  bcastValue group cancelledReqIds.length fun _ =>
    if 0 < cancelledReqIds.length then bcastIds group cancelledReqIds fun _ => next else next

/-- What the other ranks do with the number of ids they got: if there are any, they become the set,
and otherwise the set is kept. -/
def receiveIds (rank : Rank tp cp) (cancelledReqIds : List Nat)
    (next : List Nat → Exchange tp cp β) (numCancelledRequests : Nat) : Exchange tp cp β :=
  if 0 < numCancelledRequests then
    bcastIds rank.commTensorParallel (List.replicate numCancelledRequests 0) fun reqIds =>
      bcastIds rank.commContextParallel reqIds fun reqIds => next (insertIds [] reqIds)
  else next cancelledReqIds

/-- `broadcastCancelledRequests` on the first pipeline stage. The leader inserts the ids that came
in since the last round; it holds the lock meanwhile, or got them from the last stage. -/
def broadcastCancelledRequests (pp : Nat) (rank : Rank tp cp) (newIds : List Nat)
    (activeRequests : List ActiveRequest) (cancelledReqIds : List Nat)
    (next : List Nat → Exchange tp cp β) : Exchange tp cp β :=
  if rank.isPipelineLeader then
    let cancelledReqIds := insertIds cancelledReqIds newIds
    if 1 < tp * cp * pp ∧ activeRequests ≠ [] then
      let bcastContextParallel : Exchange tp cp β :=
        if 1 < cp then sendIds rank.commContextParallel cancelledReqIds (next cancelledReqIds)
        else next cancelledReqIds
      if 1 < tp then sendIds rank.commTensorParallel cancelledReqIds bcastContextParallel
      else bcastContextParallel
    else next cancelledReqIds
  else if 1 < tp * cp * pp ∧ activeRequests ≠ [] then
    bcastValue rank.commTensorParallel 0 fun numCancelledRequests =>
      bcastValue rank.commContextParallel numCancelledRequests
        (receiveIds rank cancelledReqIds next)
  else next cancelledReqIds

/-- The rest of `terminateCancelledRequests`: the ids of terminated requests leave the set. -/
def eraseTerminated (activeRequests : List ActiveRequest) (cancelledReqIds : List Nat) : List Nat :=
  cancelledReqIds.filter fun reqId => !(activeRequests.any fun request => request.reqId == reqId)

/-- A round of the executor: new requests that the leader got, or newly cancelled ids and the active
requests of all ranks. -/
inductive Round (Request : Type) where
  | newRequests (requests : List Request)
  | cancelled (newIds : List Nat) (activeRequests : List ActiveRequest)

/-- There are active requests whenever cancelled ids are exchanged. -/
def Round.Active : Round Request → Prop
  | .newRequests _ => True
  | .cancelled _ activeRequests => activeRequests ≠ []

/-- What a rank has after a round. -/
inductive Exchanged (Request : Type) where
  | newRequests (requests : List Request)
  | cancelled (cancelledReqIds : List Nat)

/-- The rounds on one rank, with what the rank had after each of them. -/
def exchange (codec : Codec Request) (pp : Nat) (rank : Rank tp cp) :
    List Nat → List (Exchanged Request) → List (Round Request) →
      Exchange tp cp (List (Exchanged Request))
  | _, exchanged, [] => .done (some exchanged)
  | cancelledReqIds, exchanged, .newRequests requests :: rounds =>
    getNewReqWithIds codec rank requests fun received =>
      exchange codec pp rank cancelledReqIds (exchanged ++ [.newRequests received]) rounds
  | cancelledReqIds, exchanged, .cancelled newIds activeRequests :: rounds =>
    broadcastCancelledRequests pp rank newIds activeRequests cancelledReqIds fun received =>
      exchange codec pp rank (eraseTerminated activeRequests received)
        (exchanged ++ [.cancelled received]) rounds

end Rounds

/-! ## Following a plan -/

section Plans

variable [NeZero tp] [NeZero cp] {β : Type} {rank : Rank tp cp} {res : Option β}
  {group : Group tp cp} {rest : List (Group tp cp × Message)}

/-- A rank of the stage takes part in a plan. -/
abbrev Takes (rank : Rank tp cp) (res : Option β) (plan : List (Group tp cp × Message))
    (program : Exchange tp cp β) : Prop :=
  Follows (network tp cp) rank res plan program

variable {pos size : Nat} {sent vec : List UInt8} {next : List UInt8 → Exchange tp cp β}

end Plans

/-! ## The plans of the rounds -/

section RoundPlans

variable [NeZero tp] [NeZero cp] {β : Type} {rank : Rank tp cp} {res : Option β}
  {rest : List (Group tp cp × Message)} {program : Exchange tp cp β}

variable {cancelledReqIds : List Nat}

section Cancelled

variable {reqIds kept : List Nat} {next : List Nat → Exchange tp cp β}

variable {pp : Nat} {activeRequests : List ActiveRequest} {newIds : List Nat}

end Cancelled

/-! ## All rounds -/

variable {Request : Type}

end RoundPlans

end

end TrtLlm.StageBroadcast
