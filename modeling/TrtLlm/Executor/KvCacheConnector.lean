import Mathlib.Data.List.OfFn
import TrtLlm.KvCache.LlmRequest
import TrtLlm.Lib.Ranks

/-! # Requests that a connector saves or loads

The workers of a KV cache connector save and load requests, each at its own speed. In each round the
ranks exchange the ids that their workers have finished. A request is released on all ranks in the
first round in which all workers have reported it.
-/

namespace TrtLlm

open List

namespace KvCacheConnector

/-! ## Dictionaries of requests -/

/-- The keys of a dictionary from ids to requests. -/
def ids (table : List LlmRequest) : List RequestId := table.map (·.requestId)

/-- `table[req.request_id] = req` -/
def put (table : List LlmRequest) (req : LlmRequest) : List LlmRequest :=
  if req.requestId ∈ ids table then
    table.map fun other => if other.requestId = req.requestId then req else other
  else table ++ [req]

/-- `table.update(other)` -/
def update (table other : List LlmRequest) : List LlmRequest := other.foldl put table

/-- Why a call of the manager does not return. -/
inductive ConnectorFailure where
  /-- "Connector API is not supported for generation-only requests!" -/
  | generationOnly
  /-- "load_kv_async must be False when num_tokens is 0!" -/
  | asyncWithoutTokens
  /-- A key that is not in a dictionary. -/
  | keyError
  /-- `set.intersection` without arguments. -/
  | typeError
  deriving DecidableEq, Repr

/-- One of the two loops of `extract_by_id`: the requests that are taken, and the others. -/
def extract (taken table : List LlmRequest) :
    List RequestId → Except ConnectorFailure (List LlmRequest × List LlmRequest)
  | [] => .ok (taken, table)
  | reqId :: reqIds =>
    match table.find? fun req => req.requestId = reqId with
    | none => .error .keyError
    | some req =>
      extract (put taken req) (table.filter fun other => other.requestId ≠ reqId) reqIds

theorem ids_put (table : List LlmRequest) (req : LlmRequest) : ids (put table req) =
    if req.requestId ∈ ids table then ids table else ids table ++ [req.requestId] := by
  unfold put
  split
  · rw [ids, ids, map_map]
    refine map_congr_left fun other _ => ?_
    dsimp only [Function.comp]
    split
    · rename_i here
      exact here.symm
    · rfl
  · rw [ids, map_append]
    rfl

variable {reqId : RequestId} {table : List LlmRequest}

theorem mem_ids_put {req : LlmRequest} :
    reqId ∈ ids (put table req) ↔ reqId ∈ ids table ∨ reqId = req.requestId := by
  rw [ids_put]
  split
  · rename_i known
    exact ⟨.inl, fun found => found.elim id fun here => here ▸ known⟩
  · rw [mem_append, mem_singleton]

theorem nodup_ids_put (nodup : (ids table).Nodup) (req : LlmRequest) :
    (ids (put table req)).Nodup := by
  rw [ids_put]
  split
  · exact nodup
  · rename_i unknown
    exact (perm_append_singleton _ _).nodup_iff.mpr (nodup_cons.mpr ⟨unknown, nodup⟩)

theorem mem_ids_update {other : List LlmRequest} :
    reqId ∈ ids (update table other) ↔ reqId ∈ ids table ∨ reqId ∈ ids other := by
  induction other generalizing table with
  | nil => exact ⟨.inl, fun found => found.elim id fun none => nomatch none⟩
  | cons req other ih =>
    have later : ids (update table (req :: other)) = ids (update (put table req) other) := rfl
    have ids_cons : ids (req :: other) = req.requestId :: ids other := rfl
    rw [later, ih, mem_ids_put, or_assoc, ids_cons, mem_cons]

theorem nodup_ids_update (nodup : (ids table).Nodup) (other : List LlmRequest) :
    (ids (update table other)).Nodup :=
  foldl_invariant (fun table => (ids table).Nodup)
    (fun _ req _ nodup => nodup_ids_put nodup req) nodup

theorem mem_ids_filter {other : RequestId} :
    other ∈ ids (table.filter fun req => req.requestId ≠ reqId) ↔ other ∈ ids table ∧
        other ≠ reqId := by
  simp only [ids, mem_map, mem_filter, decide_eq_true_eq]
  constructor
  · rintro ⟨req, ⟨mem, ne⟩, rfl⟩
    exact ⟨⟨req, mem, rfl⟩, ne⟩
  · rintro ⟨⟨req, mem, rfl⟩, ne⟩
    exact ⟨req, ⟨mem, ne⟩, rfl⟩

/-- Ids that are in the dictionary are moved out of it. -/
theorem extract_spec {taken : List LlmRequest} {reqIds : List RequestId} (nodup : reqIds.Nodup)
    (known : ∀ reqId ∈ reqIds, reqId ∈ ids table) :
    ∃ taken' rest, extract taken table reqIds = .ok (taken', rest) ∧
      ((ids taken).Nodup → (ids taken').Nodup) ∧
      (∀ reqId, reqId ∈ ids taken' ↔ reqId ∈ ids taken ∨ reqId ∈ reqIds) ∧
      ((ids table).Nodup → (ids rest).Nodup) ∧
      ∀ reqId, reqId ∈ ids rest ↔ reqId ∈ ids table ∧ reqId ∉ reqIds := by
  induction reqIds generalizing taken table with
  | nil => exact ⟨taken, table, rfl, id, by simp, id, by simp⟩
  | cons reqId reqIds ih =>
    obtain ⟨others, nodup⟩ := nodup_cons.mp nodup
    obtain ⟨isKnown, known⟩ := forall_mem_cons.mp known
    obtain ⟨req, found⟩ : ∃ req, table.find? (fun req => req.requestId = reqId) = some req := by
      obtain ⟨req, mem, same⟩ := mem_map.mp isKnown
      exact Option.isSome_iff_exists.mp (find?_isSome.mpr ⟨req, mem, decide_eq_true same⟩)
    have sameId : req.requestId = reqId := by simpa using find?_some found
    have stillKnown : ∀ other ∈ reqIds,
        other ∈ ids (table.filter fun req => req.requestId ≠ reqId) := by
      intro other mem
      exact mem_ids_filter.mpr ⟨known other mem, fun same => others (same ▸ mem)⟩
    obtain ⟨taken', rest, extracted, takenNodup, takenIds, restNodup, restIds⟩ :=
      ih nodup stillKnown
    refine ⟨taken', rest, ?_, fun nodup => takenNodup (nodup_ids_put nodup req), fun other => ?_,
      fun nodup => restNodup (nodup.sublist (filter_sublist.map _)), fun other => ?_⟩
    · unfold extract
      rw [found]
      exact extracted
    · rw [takenIds, mem_ids_put, sameId, mem_cons, or_assoc]
    · rw [restIds, mem_ids_filter, mem_cons, not_or, and_assoc]

/-! ## The manager of a rank -/

/-- The two kinds of asynchronous work. -/
inductive Work where
  | saving
  | loading

structure AsyncRequests where
  saving : List LlmRequest := []
  loading : List LlmRequest := []

namespace AsyncRequests

/-- `saving_ids` or `loading_ids`. -/
def idsOf (requests : AsyncRequests) : Work → List RequestId
  | .saving => ids requests.saving
  | .loading => ids requests.loading

/-- `add_from`, without clearing the other object. -/
def addFrom (requests other : AsyncRequests) : AsyncRequests where
  saving := update requests.saving other.saving
  loading := update requests.loading other.loading

/-- `extract_by_id`: the extracted requests, and what is left. -/
def extractById (requests : AsyncRequests) (reqIds : Work → List RequestId) :
    Except ConnectorFailure (AsyncRequests × AsyncRequests) := do
  let (saving, restSaving) ← extract [] requests.saving (reqIds .saving)
  let (loading, restLoading) ← extract [] requests.loading (reqIds .loading)
  pure (⟨saving, loading⟩, ⟨restSaving, restLoading⟩)

variable {requests : AsyncRequests}

theorem mem_idsOf_addFrom {other : AsyncRequests} {work : Work} :
    reqId ∈ (requests.addFrom other).idsOf work ↔
      reqId ∈ requests.idsOf work ∨ reqId ∈ other.idsOf work := by
  cases work with
  | saving => exact mem_ids_update
  | loading => exact mem_ids_update

theorem nodup_idsOf_addFrom (nodup : ∀ work, (requests.idsOf work).Nodup) (other : AsyncRequests)
    (work : Work) : ((requests.addFrom other).idsOf work).Nodup := by
  cases work with
  | saving => exact nodup_ids_update (nodup .saving) _
  | loading => exact nodup_ids_update (nodup .loading) _

theorem extractById_spec {reqIds : Work → List RequestId} (nodup : ∀ work, (reqIds work).Nodup)
    (known : ∀ work, ∀ reqId ∈ reqIds work, reqId ∈ requests.idsOf work) :
    ∃ taken rest, requests.extractById reqIds = .ok (taken, rest) ∧
      (∀ work, (taken.idsOf work).Nodup) ∧
      (∀ work reqId, reqId ∈ taken.idsOf work ↔ reqId ∈ reqIds work) ∧
      ((∀ work, (requests.idsOf work).Nodup) → ∀ work, (rest.idsOf work).Nodup) ∧
      ∀ work reqId, reqId ∈ rest.idsOf work ↔ reqId ∈ requests.idsOf work ∧
          reqId ∉ reqIds work := by
  obtain ⟨saving, restSaving, savingIs, savingNodup, savingIds, restSavingNodup, restSavingIds⟩ :=
    extract_spec (nodup .saving) (known .saving)
  obtain ⟨loading, restLoading, loadingIs, loadingNodup, loadingIds, restLoadingNodup,
    restLoadingIds⟩ := extract_spec (nodup .loading) (known .loading)
  refine ⟨⟨saving, loading⟩, ⟨restSaving, restLoading⟩, ?_, fun work => ?_, fun work => ?_,
    fun nodup work => ?_, fun work => ?_⟩
  · unfold extractById
    rw [savingIs, loadingIs]
    rfl
  · cases work with
    | saving => exact savingNodup nodup_nil
    | loading => exact loadingNodup nodup_nil
  · cases work with
    | saving => exact fun reqId => (savingIds reqId).trans (by simp [ids])
    | loading => exact fun reqId => (loadingIds reqId).trans (by simp [ids])
  · cases work with
    | saving => exact restSavingNodup (nodup .saving)
    | loading => exact restLoadingNodup (nodup .loading)
  · cases work with
    | saving => exact restSavingIds
    | loading => exact restLoadingIds

end AsyncRequests

/-- `KvCacheConnectorManager`, without its worker and its scheduler. -/
structure KvCacheConnectorManager where
  newAsyncRequests : AsyncRequests := {}
  pendingAsyncRequests : AsyncRequests := {}
  localFinishedAsyncRequests : AsyncRequests := {}
  finishedAsyncLoadingRequests : List LlmRequest := []

/-- The calls between two rounds, with the answers that the scheduler has broadcast. -/
inductive Event where
  | getNumNewMatchedTokens (request : LlmRequest) (isGenerationOnlyRequest : Bool)
      (numTokens : Nat) (loadKvAsync : Bool)
  | takeScheduledRequestsPendingLoad (contextRequests : List LlmRequest)
  | requestFinished (req : LlmRequest) (savingAsync : Bool)

namespace KvCacheConnectorManager

def getNumNewMatchedTokens (manager : KvCacheConnectorManager) (request : LlmRequest)
    (isGenerationOnlyRequest : Bool) (numTokens : Nat) (loadKvAsync : Bool) :
    Except ConnectorFailure KvCacheConnectorManager :=
  if isGenerationOnlyRequest then .error .generationOnly
  else if numTokens = 0 ∧ loadKvAsync then .error .asyncWithoutTokens
  else if loadKvAsync then
    .ok { manager with
      newAsyncRequests.loading := put manager.newAsyncRequests.loading request }
  else .ok manager

/-- `take_scheduled_requests_pending_load`, without the requests that stay scheduled. -/
def takeScheduledRequestsPendingLoad (manager : KvCacheConnectorManager)
    (contextRequests : List LlmRequest) : KvCacheConnectorManager :=
  { manager with
    newAsyncRequests.loading := contextRequests.foldl (fun loading req =>
      if req.requestId ∈ ids loading then
        put loading { req with state := .disaggGenerationTransInProgress }
      else loading) manager.newAsyncRequests.loading }

def requestFinished (manager : KvCacheConnectorManager) (req : LlmRequest) (savingAsync : Bool) :
    KvCacheConnectorManager :=
  let manager := { manager with
    finishedAsyncLoadingRequests := manager.finishedAsyncLoadingRequests.filter fun other =>
      other.requestId ≠ req.requestId }
  if savingAsync then
    { manager with
      newAsyncRequests.saving := put manager.newAsyncRequests.saving
        { req with state := .disaggContextTransInProgress } }
  else manager

def handle (manager : KvCacheConnectorManager) :
    Event → Except ConnectorFailure KvCacheConnectorManager
  | .getNumNewMatchedTokens request isGenerationOnlyRequest numTokens loadKvAsync =>
    manager.getNumNewMatchedTokens request isGenerationOnlyRequest numTokens loadKvAsync
  | .takeScheduledRequestsPendingLoad contextRequests =>
    .ok (manager.takeScheduledRequestsPendingLoad contextRequests)
  | .requestFinished req savingAsync => .ok (manager.requestFinished req savingAsync)

/-- `get_finished` before the exchange of the ids, with what the worker reports. -/
def collectFinished (manager : KvCacheConnectorManager) (finished : Work → List RequestId) :
    Except ConnectorFailure KvCacheConnectorManager := do
  let pending := manager.pendingAsyncRequests.addFrom manager.newAsyncRequests
  let (newLocalFinished, pending) ← pending.extractById finished
  pure { manager with
    newAsyncRequests := {}
    pendingAsyncRequests := pending
    localFinishedAsyncRequests := manager.localFinishedAsyncRequests.addFrom newLocalFinished }

/-- `set.intersection` -/
def intersection : List (List RequestId) → Except ConnectorFailure (List RequestId)
  | [] => .error .typeError
  | first :: others => .ok (first.filter fun reqId => others.all (reqId ∈ ·))

/-- `get_finished` after the exchange: the requests that are finished on all ranks. -/
def releaseFinished (manager : KvCacheConnectorManager)
    (allResults : List (Work → List RequestId)) :
    Except ConnectorFailure (AsyncRequests × KvCacheConnectorManager) := do
  let intersectFinishedSaving ← intersection (allResults.map (· .saving))
  let intersectFinishedLoading ← intersection (allResults.map (· .loading))
  let (allFinished, localFinished) ← manager.localFinishedAsyncRequests.extractById fun
    | .saving => intersectFinishedSaving
    | .loading => intersectFinishedLoading
  let loaded := allFinished.loading.map fun req => { req with state := .contextInit }
  pure ({ allFinished with loading := loaded },
    { manager with
      localFinishedAsyncRequests := localFinished
      finishedAsyncLoadingRequests := update manager.finishedAsyncLoadingRequests loaded })

end KvCacheConnectorManager

/-! ## Rounds -/

/-- What happens on the ranks until the end of the next call of `get_finished`. -/
structure Round (ranks : Nat) where
  events : Fin ranks → List Event
  /-- What the worker of a rank reports in `get_finished`. -/
  finished : Fin ranks → Work → List RequestId

section Rounds

open KvCacheConnectorManager

variable {ranks : Nat}

/-- The events of a round, and `get_finished` with the exchange of the ids. -/
def getFinished (managers : Fin ranks → KvCacheConnectorManager) (round : Round ranks) :
    Except ConnectorFailure (Fin ranks → AsyncRequests × KvCacheConnectorManager) := do
  let managers ← Ranks.call fun rank => (round.events rank).foldlM handle (managers rank)
  let managers ← Ranks.call fun rank => (managers rank).collectFinished (round.finished rank)
  let allResults := List.ofFn fun rank => (managers rank).localFinishedAsyncRequests.idsOf
  Ranks.call fun rank => (managers rank).releaseFinished allResults

/-- The managers after some rounds. -/
def run (rounds : List (Round ranks)) :
    Except ConnectorFailure (Fin ranks → KvCacheConnectorManager) :=
  rounds.foldlM (fun managers round => do
    let released ← getFinished managers round
    pure fun rank => (released rank).2) fun _ => {}

end Rounds

/-- The request that starts asynchronous work in an event. -/
def Event.enters : Event → Work → Option RequestId
  | .getNumNewMatchedTokens request _ _ true, .loading => some request.requestId
  | .requestFinished req true, .saving => some req.requestId
  | _, _ => none

/-- The checks of `get_num_new_matched_tokens` hold. -/
def Event.Returns : Event → Prop
  | .getNumNewMatchedTokens _ isGenerationOnlyRequest numTokens loadKvAsync =>
    isGenerationOnlyRequest = false ∧ ¬(numTokens = 0 ∧ loadKvAsync = true)
  | _ => True

section History

variable {ranks : Nat}

/-- The requests that have started work on a rank in some rounds. -/
def entered (rounds : List (Round ranks)) (rank : Fin ranks) (work : Work) : List RequestId :=
  rounds.flatMap fun round => (round.events rank).filterMap (·.enters work)

/-- The requests that the worker of a rank has reported in some rounds. -/
def reported (rounds : List (Round ranks)) (rank : Fin ranks) (work : Work) : List RequestId :=
  rounds.flatMap fun round => round.finished rank work

/-- All workers have reported a request. -/
def Completed (rounds : List (Round ranks)) (work : Work) (reqId : RequestId) : Prop :=
  ∀ rank, reqId ∈ reported rounds rank work

/-- What can happen after some rounds: requests start work that have not done so before, and a
worker reports requests that were handed to it and that it has not reported. -/
structure Allowed (rounds : List (Round ranks)) (round : Round ranks) : Prop where
  returns : ∀ rank, ∀ event ∈ round.events rank, event.Returns
  fresh : ∀ rank work, ∀ reqId ∈ (round.events rank).filterMap (·.enters work),
    reqId ∉ entered rounds rank work
  distinct : ∀ rank work, (round.finished rank work).Nodup
  handedOver : ∀ rank work, ∀ reqId ∈ round.finished rank work,
    reqId ∈ entered (rounds ++ [round]) rank work
  once : ∀ rank work, ∀ reqId ∈ round.finished rank work, reqId ∉ reported rounds rank work

/-- The runs. -/
inductive Valid : List (Round ranks) → Prop where
  | start : Valid []
  | next {rounds : List (Round ranks)} {round : Round ranks} :
      Valid rounds → Allowed rounds round → Valid (rounds ++ [round])

variable {rounds : List (Round ranks)} {round : Round ranks}

theorem entered_concat (rank : Fin ranks) (work : Work) : entered (rounds ++ [round]) rank work =
    entered rounds rank work ++ (round.events rank).filterMap (·.enters work) := by
  rw [entered, flatMap_append, flatMap_singleton]
  rfl

theorem reported_concat (rank : Fin ranks) (work : Work) : reported (rounds ++ [round]) rank work =
    reported rounds rank work ++ round.finished rank work := by
  rw [reported, flatMap_append, flatMap_singleton]
  rfl

theorem Completed.concat {work : Work} (completed : Completed rounds work reqId) :
    Completed (rounds ++ [round]) work reqId := fun rank => by
  rw [reported_concat]
  exact mem_append_left _ (completed rank)

end History

/-! ## The tables of a rank -/

namespace KvCacheConnectorManager

/-- An event adds the request that starts work to the new ones, and keeps the other tables. -/
theorem handle_spec (manager : KvCacheConnectorManager) {event : Event} (returns : event.Returns) :
    ∃ next, manager.handle event = .ok next ∧
      next.pendingAsyncRequests = manager.pendingAsyncRequests ∧
      next.localFinishedAsyncRequests = manager.localFinishedAsyncRequests ∧
      ∀ work reqId, reqId ∈ next.newAsyncRequests.idsOf work ↔
        reqId ∈ manager.newAsyncRequests.idsOf work ∨ event.enters work = some reqId := by
  cases event with
  | getNumNewMatchedTokens request isGenerationOnlyRequest numTokens loadKvAsync =>
    obtain ⟨supported, hasTokens⟩ := returns
    unfold handle getNumNewMatchedTokens
    rw [supported]
    dsimp only
    rw [if_neg Bool.false_ne_true, if_neg hasTokens]
    cases loadKvAsync with
    | false =>
      refine ⟨manager, rfl, rfl, rfl, fun work reqId => ?_⟩
      cases work <;> simp [Event.enters]
    | true =>
      refine ⟨_, rfl, rfl, rfl, fun work reqId => ?_⟩
      cases work with
      | saving => simp [Event.enters, AsyncRequests.idsOf]
      | loading =>
        rw [Event.enters, Option.some_inj, eq_comm]
        exact mem_ids_put
  | takeScheduledRequestsPendingLoad contextRequests =>
    refine ⟨_, rfl, rfl, rfl, fun work reqId => ?_⟩
    cases work with
    | saving => simp [Event.enters, AsyncRequests.idsOf, takeScheduledRequestsPendingLoad]
    | loading =>
      have kept : ids (manager.takeScheduledRequestsPendingLoad
          contextRequests).newAsyncRequests.loading = ids manager.newAsyncRequests.loading := by
        refine foldl_invariant (fun loading =>
          ids loading = ids manager.newAsyncRequests.loading) (fun loading req _ same => ?_) rfl
        split
        · rename_i known
          rw [ids_put, if_pos known, same]
        · exact same
      simp [Event.enters, AsyncRequests.idsOf, kept]
  | requestFinished req savingAsync =>
    refine ⟨_, rfl, ?_, ?_, fun work reqId => ?_⟩
    · unfold requestFinished
      split <;> rfl
    · unfold requestFinished
      split <;> rfl
    · cases savingAsync with
      | false => cases work <;> simp [Event.enters, requestFinished]
      | true =>
        cases work with
        | saving =>
          rw [Event.enters, Option.some_inj, eq_comm]
          exact mem_ids_put
        | loading => simp [Event.enters, AsyncRequests.idsOf, requestFinished]

theorem foldlM_handle_spec (manager : KvCacheConnectorManager) {events : List Event}
    (returns : ∀ event ∈ events, event.Returns) : ∃ next, events.foldlM handle manager = .ok next ∧
      next.pendingAsyncRequests = manager.pendingAsyncRequests ∧
      next.localFinishedAsyncRequests = manager.localFinishedAsyncRequests ∧
      ∀ work reqId, reqId ∈ next.newAsyncRequests.idsOf work ↔
        reqId ∈ manager.newAsyncRequests.idsOf work ∨ reqId ∈ events.filterMap (·.enters work) := by
  induction events generalizing manager with
  | nil => exact ⟨manager, rfl, rfl, rfl, fun work reqId => by simp⟩
  | cons event events ih =>
    obtain ⟨first, others⟩ := forall_mem_cons.mp returns
    obtain ⟨next, handled, pending, localFinished, new⟩ := manager.handle_spec first
    obtain ⟨last, looped, pending', localFinished', new'⟩ := ih next others
    refine ⟨last, ?_, pending'.trans pending, localFinished'.trans localFinished,
      fun work reqId => ?_⟩
    · rw [foldlM_cons, handled]
      exact looped
    · rw [new', new, or_assoc, filterMap_cons]
      cases event.enters work with
      | none => simp
      | some other => simp [eq_comm]

/-- A rank between two rounds: its tables hold what the history says. -/
structure Tracks {ranks : Nat} (rounds : List (Round ranks)) (rank : Fin ranks)
    (manager : KvCacheConnectorManager) : Prop where
  new : ∀ work, manager.newAsyncRequests.idsOf work = []
  pending : ∀ work reqId, reqId ∈ manager.pendingAsyncRequests.idsOf work ↔
    reqId ∈ entered rounds rank work ∧ reqId ∉ reported rounds rank work
  localFinished : ∀ work reqId, reqId ∈ manager.localFinishedAsyncRequests.idsOf work ↔
    reqId ∈ reported rounds rank work ∧ ¬Completed rounds work reqId
  nodup : ∀ work, (manager.localFinishedAsyncRequests.idsOf work).Nodup
  handedOver : ∀ work, ∀ reqId ∈ reported rounds rank work, reqId ∈ entered rounds rank work

/-- A rank after the first half of `get_finished`. -/
structure Collected {ranks : Nat} (rounds : List (Round ranks)) (round : Round ranks)
    (rank : Fin ranks) (manager : KvCacheConnectorManager) : Prop where
  new : ∀ work, manager.newAsyncRequests.idsOf work = []
  pending : ∀ work reqId, reqId ∈ manager.pendingAsyncRequests.idsOf work ↔
    reqId ∈ entered (rounds ++ [round]) rank work ∧ reqId ∉ reported (rounds ++ [round]) rank work
  localFinished : ∀ work reqId, reqId ∈ manager.localFinishedAsyncRequests.idsOf work ↔
    reqId ∈ reported (rounds ++ [round]) rank work ∧ ¬Completed rounds work reqId
  nodup : ∀ work, (manager.localFinishedAsyncRequests.idsOf work).Nodup
  handedOver : ∀ work, ∀ reqId ∈ reported (rounds ++ [round]) rank work,
    reqId ∈ entered (rounds ++ [round]) rank work

section Halves

variable {ranks : Nat} {rounds : List (Round ranks)} {round : Round ranks} {rank : Fin ranks}
  {manager : KvCacheConnectorManager}

theorem Tracks.collect (tracks : Tracks rounds rank manager) (allowed : Allowed rounds round) :
    ∃ handled next, (round.events rank).foldlM handle manager = .ok handled ∧
      handled.collectFinished (round.finished rank) = .ok next ∧
        Collected rounds round rank next := by
  obtain ⟨handled, looped, pending, localFinished, new⟩ :=
    manager.foldlM_handle_spec (allowed.returns rank)
  -- what is pending now: everything that was handed over and not reported in an earlier round
  have outstanding : ∀ work reqId, reqId ∈
      (handled.pendingAsyncRequests.addFrom handled.newAsyncRequests).idsOf work ↔
      reqId ∈ entered (rounds ++ [round]) rank work ∧ reqId ∉ reported rounds rank work := by
    intro work reqId
    rw [AsyncRequests.mem_idsOf_addFrom, pending, new, tracks.new, tracks.pending, entered_concat,
      mem_append]
    constructor
    · rintro (⟨before, unreported⟩ | none | now)
      · exact ⟨.inl before, unreported⟩
      · cases none
      · refine ⟨.inr now, fun before => ?_⟩
        exact allowed.fresh rank work reqId now (tracks.handedOver work reqId before)
    · rintro ⟨before | now, unreported⟩
      · exact .inl ⟨before, unreported⟩
      · exact .inr (.inr now)
  obtain ⟨taken, rest, extracted, _, takenIds, _, restIds⟩ :=
    AsyncRequests.extractById_spec (allowed.distinct rank) fun work reqId mem =>
      (outstanding work reqId).mpr ⟨allowed.handedOver rank work reqId mem,
        allowed.once rank work reqId mem⟩
  have collects : handled.collectFinished (round.finished rank) = .ok { handled with
      newAsyncRequests := {}
      pendingAsyncRequests := rest
      localFinishedAsyncRequests := handled.localFinishedAsyncRequests.addFrom taken } := by
    unfold collectFinished
    dsimp only
    rw [extracted]
    rfl
  refine ⟨handled, _, looped, collects, ⟨fun work => ?_, fun work reqId => ?_, fun work reqId => ?_,
    fun work => ?_, fun work reqId mem => ?_⟩⟩
  · cases work <;> rfl
  · rw [restIds, outstanding, reported_concat, mem_append, not_or, and_assoc]
  · rw [AsyncRequests.mem_idsOf_addFrom, localFinished, tracks.localFinished, takenIds,
      reported_concat, mem_append, or_and_right]
    refine or_congr Iff.rfl ⟨fun now => ⟨now, fun completed => ?_⟩, And.left⟩
    exact allowed.once rank work reqId now (completed rank)
  · exact AsyncRequests.nodup_idsOf_addFrom (fun work => localFinished ▸ tracks.nodup work) taken
      work
  · rw [reported_concat, mem_append] at mem
    rcases mem with before | now
    · rw [entered_concat]
      exact mem_append_left _ (tracks.handedOver work reqId before)
    · exact allowed.handedOver rank work reqId now

theorem intersection_spec {sets : List (List RequestId)} (nonempty : sets ≠ [])
    (nodup : ∀ set ∈ sets, set.Nodup) : ∃ common, intersection sets = .ok common ∧ common.Nodup ∧
      ∀ reqId, reqId ∈ common ↔ ∀ set ∈ sets, reqId ∈ set := by
  cases sets with
  | nil => exact absurd rfl nonempty
  | cons first others =>
    refine ⟨_, rfl, (nodup first mem_cons_self).filter _, fun reqId => ?_⟩
    rw [mem_filter, all_eq_true, forall_mem_cons]
    simp only [decide_eq_true_eq]

/-- What a rank releases in a round. -/
structure Releases (rounds : List (Round ranks)) (round : Round ranks)
    (released : AsyncRequests) (manager : KvCacheConnectorManager) : Prop where
  distinct : ∀ work, (released.idsOf work).Nodup
  first : ∀ work reqId, reqId ∈ released.idsOf work ↔
    Completed (rounds ++ [round]) work reqId ∧ ¬Completed rounds work reqId
  loaded : ∀ req ∈ released.loading, req.state = .contextInit ∧
    req.requestId ∈ ids manager.finishedAsyncLoadingRequests

theorem Collected.release {managers : Fin ranks → KvCacheConnectorManager}
    (collected : ∀ rank, Collected rounds round rank (managers rank)) (rank : Fin ranks) :
    ∃ released next, (managers rank).releaseFinished (List.ofFn fun rank =>
        (managers rank).localFinishedAsyncRequests.idsOf) = .ok (released, next) ∧
      Releases rounds round released next ∧ Tracks (rounds ++ [round]) rank next := by
  have common : ∀ work, ∃ common, intersection ((List.ofFn fun rank =>
      (managers rank).localFinishedAsyncRequests.idsOf).map (· work)) = .ok common ∧ common.Nodup ∧
      ∀ reqId, reqId ∈ common ↔
        Completed (rounds ++ [round]) work reqId ∧ ¬Completed rounds work reqId := by
    intro work
    have nonempty : (List.ofFn fun rank =>
        (managers rank).localFinishedAsyncRequests.idsOf).map (· work) ≠ [] := by
      rw [map_ofFn, ne_eq, ofFn_eq_nil_iff]
      exact Nat.ne_of_gt (Nat.zero_lt_of_lt rank.isLt)
    obtain ⟨common, is, nodup, ids⟩ := intersection_spec nonempty (by
      rw [map_ofFn, forall_mem_ofFn_iff]
      exact fun other => (collected other).nodup work)
    refine ⟨common, is, nodup, fun reqId => ?_⟩
    rw [ids, map_ofFn, forall_mem_ofFn_iff]
    simp only [Function.comp, (collected _).localFinished]
    exact ⟨fun all => ⟨fun other => (all other).1, (all rank).2⟩,
      fun ⟨all, before⟩ other => ⟨all other, before⟩⟩
  choose finished isCommon nodup isFinished using common
  have split : (fun | .saving => finished .saving | .loading => finished .loading) = finished := by
    funext work
    cases work <;> rfl
  obtain ⟨taken, rest, extracted, takenNodup, takenIds, restNodup, restIds⟩ :=
    AsyncRequests.extractById_spec nodup fun work reqId mem =>
      ((collected rank).localFinished work reqId).mpr
        ((isFinished work reqId).mp mem |>.imp_left fun completed => completed rank)
  have loadedIds : ∀ work, ({ taken with
      loading := taken.loading.map fun req => { req with state := .contextInit } } :
      AsyncRequests).idsOf work = taken.idsOf work := by
    rintro (_ | _)
    · rfl
    · exact map_map
  refine ⟨{ taken with loading := taken.loading.map fun req => { req with state := .contextInit } },
    { managers rank with
      localFinishedAsyncRequests := rest
      finishedAsyncLoadingRequests := update (managers rank).finishedAsyncLoadingRequests
        (taken.loading.map fun req => { req with state := .contextInit }) }, ?_,
    ⟨fun work => ?_, fun work reqId => ?_, fun req mem => ?_⟩,
    ⟨(collected rank).new, (collected rank).pending, fun work reqId => ?_,
      restNodup (collected rank).nodup, (collected rank).handedOver⟩⟩
  · unfold releaseFinished
    rw [isCommon, isCommon]
    dsimp only [bind, Except.bind]
    rw [split, extracted]
    rfl
  · rw [loadedIds]
    exact takenNodup work
  · rw [← isFinished, ← takenIds, loadedIds]
  · refine ⟨?_, mem_ids_update.mpr (.inr (mem_map_of_mem mem))⟩
    obtain ⟨_, _, rfl⟩ := mem_map.mp mem
    rfl
  · rw [restIds, (collected rank).localFinished, isFinished]
    constructor
    · rintro ⟨⟨now, before⟩, unfinished⟩
      exact ⟨now, fun completed => unfinished ⟨completed, before⟩⟩
    · rintro ⟨now, uncompleted⟩
      exact ⟨⟨now, fun completed => uncompleted completed.concat⟩, fun ⟨completed, _⟩ =>
        uncompleted completed⟩

end Halves

end KvCacheConnectorManager

/-! ## Agreement -/

section Agreement

open KvCacheConnectorManager

variable {ranks : Nat} {rounds : List (Round ranks)}

/-- A round from a state in which all tables hold what the history says. -/
theorem getFinished_spec {round : Round ranks} {managers : Fin ranks → KvCacheConnectorManager}
    (tracks : ∀ rank, Tracks rounds rank (managers rank)) (allowed : Allowed rounds round) :
    ∃ released, getFinished managers round = .ok released ∧
      (∀ rank, Releases rounds round (released rank).1 (released rank).2) ∧
      ∀ rank, Tracks (rounds ++ [round]) rank (released rank).2 := by
  choose handled collected handles collects isCollected using fun rank =>
    (tracks rank).collect allowed
  choose released next releases isReleased isTracked using Collected.release isCollected
  refine ⟨fun rank => (released rank, next rank), ?_, isReleased, isTracked⟩
  unfold getFinished
  rw [Ranks.call_ok handles]
  dsimp only [bind, Except.bind]
  rw [Ranks.call_ok collects]
  exact Ranks.call_ok releases

theorem run_spec (valid : Valid rounds) :
    ∃ managers, run rounds = .ok managers ∧ ∀ rank, Tracks rounds rank (managers rank) := by
  induction valid with
  | start =>
    refine ⟨fun _ => {}, rfl, fun rank => ⟨fun work => ?_, fun work reqId => ?_,
      fun work reqId => ?_, fun work => ?_, fun work reqId none => nomatch none⟩⟩
    · cases work <;> rfl
    · cases work <;> simp [AsyncRequests.idsOf, ids, entered]
    · cases work <;> simp [AsyncRequests.idsOf, ids, reported]
    · cases work <;> exact nodup_nil
  | next valid allowed ih =>
    obtain ⟨managers, ran, tracks⟩ := ih
    obtain ⟨released, returned, _, tracks⟩ := getFinished_spec tracks allowed
    refine ⟨fun rank => (released rank).2, ?_, tracks⟩
    unfold run at ran ⊢
    rw [foldlM_append, ran]
    dsimp only [bind, Except.bind]
    rw [foldlM_cons, returned]
    rfl

/-- In a round after any run, every rank releases the requests that all workers have reported now
and had not all reported before. -/
theorem ranks_release_together {round : Round ranks} (valid : Valid rounds)
    (allowed : Allowed rounds round) : ∃ managers released, run rounds = .ok managers ∧
      getFinished managers round = .ok released ∧
      ∀ rank, Releases rounds round (released rank).1 (released rank).2 := by
  obtain ⟨managers, ran, tracks⟩ := run_spec valid
  obtain ⟨released, returned, releases, _⟩ := getFinished_spec tracks allowed
  exact ⟨managers, released, ran, returned, releases⟩

/-- A request that has finished and is saved. -/
def finishedRequest (requestId : RequestId) : LlmRequest where
  requestId := requestId
  uniqueTokens := []
  promptLen := 0

/-- A round in which some workers report that the request has been saved. -/
def savedBy (done : Fin 2 → Bool) (events : List Event) : Round 2 where
  events := fun _ => events
  finished := fun rank work =>
    match work with
    | .saving => if done rank then [7] else []
    | .loading => []

/-- The first worker reports the request in the first round, and the second one in the next. -/
theorem ranks_release_together_twoWorkers : ∃ managers released,
    run [savedBy (fun rank => rank == 0) [.requestFinished (finishedRequest 7) true]] =
      .ok managers ∧
    getFinished managers (savedBy (fun rank => rank == 1) []) = .ok released ∧
    ∀ rank, 7 ∈ (released rank).1.idsOf .saving := by
  have first : Allowed [] (savedBy (fun rank => rank == 0)
      [.requestFinished (finishedRequest 7) true]) := by
    refine ⟨?_, ?_, ?_, ?_, ?_⟩
    · rintro rank event member
      rw [List.mem_singleton.mp member]
      trivial
    · rintro rank (_ | _) reqId _ none <;> cases none
    · rintro rank (_ | _) <;> revert rank <;> decide
    · rintro rank (_ | _) <;> revert rank <;> decide
    · rintro rank (_ | _) reqId _ none <;> cases none
  have second : Allowed [savedBy (fun rank => rank == 0)
      [.requestFinished (finishedRequest 7) true]] (savedBy (fun rank => rank == 1) []) := by
    refine ⟨fun _ _ none => (nomatch none), fun _ _ _ none => (nomatch none), ?_, ?_, ?_⟩
    · rintro rank (_ | _) <;> revert rank <;> decide
    · rintro rank (_ | _) <;> revert rank <;> decide
    · rintro rank (_ | _) <;> revert rank <;> decide
  obtain ⟨managers, released, ran, returned, releases⟩ :=
    ranks_release_together (.next .start first) second
  refine ⟨managers, released, ran, returned, fun rank => ((releases rank).first _ _).mpr ⟨?_, ?_⟩⟩
  · unfold Completed
    decide
  · unfold Completed
    decide

end Agreement

end KvCacheConnector

end TrtLlm
