import TrtLlm.KvCache.DataStoring
import TrtLlm.KvCache.OneWindowCore

/-! # Serving requests

The cache manager together with the requests it serves and how far each is computed. Besides the
calls on the manager a run computes tokens, which writes their KV into blocks, moves on in prompts
and appends generated tokens.
-/

namespace TrtLlm

open KVCacheManager WindowBlockManager

namespace WindowBlockManager

/-- A kernel writes the KV of the token at a position into the block of one beam. -/
def writeBeam (config : WindowConfig) (sequence : SequenceBlocks) (position : Nat)
    (s : WindowBlockManager) (beamIdx : Nat) (kv : Option Kv) : WindowBlockManager :=
  match (sequence.beamBlocks beamIdx)[position / config.tokensPerBlock]? with
  | none => s
  | some block => s.writeToken block (position % config.tokensPerBlock) kv

/-- The token at a position of a sequence is computed. The first beam is that of the
request's own tokens; what the other beams hold there is not tracked. -/
def computeToken (config : WindowConfig) (s : WindowBlockManager) (requestId : RequestId)
    (position : Nat) (own : Kv) (others : Nat → Option Kv) : WindowBlockManager :=
  match s.sequences.lookup requestId with
  | none => s
  | some sequence =>
    let s := (List.range sequence.cacheBlockIds.length).foldl
      (fun s beamIdx => writeBeam config sequence position s beamIdx (others beamIdx)) s
    writeBeam config sequence position s 0 (some own)

end WindowBlockManager

/-- The manager, the requests as their owner last saw them, and the number of tokens of each
that are computed. -/
structure Serving where
  manager : KVCacheManager
  requests : RequestId → Option LlmRequest
  computed : RequestId → Nat

namespace Serving

/-- What happens in a run. -/
inductive Action where
  /-- A call on the manager. -/
  | call (op : Op)
  /-- The next token of a sequence is computed. -/
  | compute (requestId : RequestId) (others : Nat → Option Kv)
  /-- `moveToNextContextChunk` -/
  | advance (requestId : RequestId) (position : Nat)
  /-- A generated token is appended. -/
  | append (requestId : RequestId) (token : UniqueToken)

def initial (configs : List WindowConfig) : Serving where
  manager := KVCacheManager.initial configs
  requests := fun _ => none
  computed := fun _ => 0

/-- A new sequence has as much computed as it reuses. -/
def after (t : Serving) (op : Op) (m : KVCacheManager) (output : Output) : Serving :=
  match op with
  | .addSequence requestId _ _ _ _ =>
    { manager := m
      requests := Function.update t.requests requestId output.request
      computed := Function.update t.computed requestId
        (output.request.elim 0 LlmRequest.prepopulatedPromptLen) }
  | _ => { t with manager := m }

/-- The next token is written in every window. -/
def compute (t : Serving) (requestId : RequestId) (others : Nat → Option Kv) : Serving :=
  match t.requests requestId with
  | none => t
  | some request => { t with
      manager := { t.manager with
        windows := t.manager.windows.map fun (config, window) =>
          (config, window.computeToken config requestId (t.computed requestId)
            (request.kvAt (t.computed requestId)) others) }
      computed := Function.update t.computed requestId (t.computed requestId + 1) }

def modifyRequest (t : Serving) (requestId : RequestId) (change : LlmRequest → LlmRequest) :
    Serving :=
  { t with requests := Function.update t.requests requestId ((t.requests requestId).map change) }

/-- One step of a run with block reuse. -/
def step (platform : Platform) (t : Serving) : Action → Except Failure Serving
  | .call op => do
      let (m, output) ← t.manager.exec platform true op
      return t.after op m output
  | .compute requestId others => .ok (t.compute requestId others)
  | .advance requestId position => .ok (t.modifyRequest requestId fun request =>
    { request with contextCurrentPosition := position })
  | .append requestId token => .ok (t.modifyRequest requestId fun request =>
    { request with uniqueTokens := request.uniqueTokens ++ [token] })

/-- Every beam of a sequence has a block for a position that it has not detached. -/
def hasBlock (m : KVCacheManager) (requestId : RequestId) (position : Nat) : Bool :=
  (m.sequences.lookup requestId).any fun seq => m.windows.all fun (config, window) =>
    decide (seq.numFrontBlocksRemoved ≤ position / config.tokensPerBlock) &&
      (window.sequences.lookup requestId).any fun sequence =>
        (List.range seq.beamWidth).all fun beamIdx =>
          decide (position / config.tokensPerBlock < (sequence.beamBlocks beamIdx).length)

/-- The calls that the callers of the manager make. A request is added at the beginning of
its prompt, and its sequence is stored under it. -/
def ProperCall (t : Serving) : Op → Prop
  | .addSequence requestId _ _ request _ => ∀ known ∈ request,
      known.requestId = requestId ∧ known.uniqueTokens.length = known.promptLen ∧
        known.contextCurrentPosition = 0
  | .storeContextBlocks request => t.requests request.requestId = some request
  | .storeNewBlock request =>
    t.requests request.requestId = some request ∧ request.getContextRemainingLength = 0
  | .removeSequence requestId request => ∀ known ∈ request, t.requests requestId = some known
  | .storeBlocksForReuse _ _ | .unpinBlocksById _ | .removeToken _ => False
  | .addToken _ | .offloadBlock _ _ | .onboardBlock _ _ _ | .refreshBlocks | .flushEvents => True

instance (t : Serving) : (op : Op) → Decidable (t.ProperCall op)
  | .addSequence requestId _ _ request _ => inferInstanceAs (Decidable (∀ known ∈ request,
      known.requestId = requestId ∧ known.uniqueTokens.length = known.promptLen ∧
        known.contextCurrentPosition = 0))
  | .storeContextBlocks request =>
    inferInstanceAs (Decidable (t.requests request.requestId = some request))
  | .storeNewBlock request => inferInstanceAs (Decidable
      (t.requests request.requestId = some request ∧ request.getContextRemainingLength = 0))
  | .removeSequence requestId request =>
    inferInstanceAs (Decidable (∀ known ∈ request, t.requests requestId = some known))
  | .storeBlocksForReuse _ _ | .unpinBlocksById _ | .removeToken _ => isFalse id
  | .addToken _ | .offloadBlock _ _ | .onboardBlock _ _ _ | .refreshBlocks | .flushEvents =>
    isTrue trivial

/-- What a run keeps to: tokens are computed in order, each in a block that is there, a token is
generated once all before it are computed, and the context position does not pass them. -/
def Proper (t : Serving) : Action → Prop
  | .call op => t.ProperCall op
  | .compute requestId _ => (∃ request ∈ t.requests requestId,
      t.computed requestId < request.uniqueTokens.length) ∧
        hasBlock t.manager requestId (t.computed requestId) = true
  | .advance requestId position => position ≤ t.computed requestId
  | .append requestId _ =>
    ∀ request ∈ t.requests requestId, t.computed requestId = request.uniqueTokens.length

instance (t : Serving) : (action : Action) → Decidable (t.Proper action)
  | .call op => inferInstanceAs (Decidable (t.ProperCall op))
  | .compute requestId _ => inferInstanceAs (Decidable ((∃ request ∈ t.requests requestId,
      t.computed requestId < request.uniqueTokens.length) ∧
        hasBlock t.manager requestId (t.computed requestId) = true))
  | .advance requestId position => inferInstanceAs (Decidable (position ≤ t.computed requestId))
  | .append requestId _ => inferInstanceAs (Decidable
      (∀ request ∈ t.requests requestId, t.computed requestId = request.uniqueTokens.length))

end Serving

/-- The branches that leave a block with other contents than those it is known by; under a sliding
window also the taking of a block from a valid sequence that is not its owner, or the taker. -/
def Branch.spoils (sliding : Bool) : Branch → Bool
  | .overwroteSource _ | .relinked _ | .movedFree _ | .overwroteLinked _ => true
  | .tookListed _ => sliding
  | _ => false

namespace Serving

/-- A call takes none of the branches that spoil contents. -/
def Spares (platform : Platform) (sliding : Bool) (t : Serving) : Action → Prop
  | .call op => t.manager.Avoids platform true (Branch.spoils sliding) op
  | _ => True

instance (platform : Platform) (sliding : Bool) (t : Serving) :
    (action : Action) → Decidable (t.Spares platform sliding action)
  | .call op => inferInstanceAs (Decidable (t.manager.Avoids platform true
      (Branch.spoils sliding) op))
  | .compute _ _ | .advance _ _ | .append _ _ => isTrue trivial

end Serving

end TrtLlm
