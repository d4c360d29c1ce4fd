import TrtLlm.KvCache.EvictionPolicy

/-! # The reuse tree

Blocks with reusable contents form a tree below `mCachedBlocksRoot`: a node maps
the keys of its children to blocks, and each block in the tree points to its parent.
-/

namespace TrtLlm.WindowBlockManager

variable (s : WindowBlockManager)

/-- `mNextBlocks.find(blockKey)` -/
def findNext (node : Node) (blockKey : BlockKey) : Option BlockId :=
  ((s.nextBlocks node).find? fun entry => entry.1 = blockKey).map Prod.snd

/-- `addNextBlock`: an existing entry for the key is kept. -/
def addNextBlock (node : Node) (blockKey : BlockKey) (block : BlockId) : WindowBlockManager :=
  { s with
    nextBlocks := if (s.findNext node blockKey).isSome then s.nextBlocks
      else Function.update s.nextBlocks node (s.nextBlocks node ++ [(blockKey, block)]) }

/-- `removeNextBlock` -/
def removeNextBlock (node : Node) (blockKey : BlockKey) : WindowBlockManager :=
  { s with
    nextBlocks := Function.update s.nextBlocks node
      ((s.nextBlocks node).filter fun entry => entry.1 ≠ blockKey) }

def setPrevBlock (block : BlockId) (prevBlock : Option Node) : WindowBlockManager :=
  { s with prevBlock := Function.update s.prevBlock block prevBlock }

def setPrevBlockInSeq (block : BlockId) (prevBlock : Option Node) : WindowBlockManager :=
  { s with prevBlockInSeq := Function.update s.prevBlockInSeq block prevBlock }

/-- The result of `findMatchingBlock` when its block is not null. -/
structure BlockMatch where
  partialMatch : Bool
  numMatched : Nat
  block : BlockId
  deriving DecidableEq, Repr

/-- The loop over the children for the longest partial match; the first of several is kept. -/
def bestPartialMatch (copyOnPartialReuse : Bool) (blockKey : BlockKey) :
    List (BlockKey × BlockId) → Nat × Option BlockId → Nat × Option BlockId
  | [], best => best
  | (key, block) :: rest, best =>
    if copyOnPartialReuse || (!s.hasRefs block && s.isLeaf (.block block)) then
      if best.1 < key.partialMatch blockKey then
        bestPartialMatch copyOnPartialReuse blockKey rest
          (key.partialMatch blockKey, some block)
      else bestPartialMatch copyOnPartialReuse blockKey rest best
    else bestPartialMatch copyOnPartialReuse blockKey rest best

/-- `KVCacheBlock::findMatchingBlock` -/
def findMatchingBlock (platform : Platform) (node : Node) (blockKey : BlockKey)
    (enablePartialReuse copyOnPartialReuse : Bool) : Option BlockMatch :=
  if blockKey.uniqueTokens.isEmpty then none
  else
    match s.findNext node blockKey with
    | some block => some ⟨!s.isFull block, blockKey.uniqueTokens.length, block⟩
    | none =>
      if enablePartialReuse then
        match s.bestPartialMatch copyOnPartialReuse blockKey
            (platform.iterate (s.nextBlocks node)) (0, none) with
        | (numMatched, some block) => some ⟨true, numMatched, block⟩
        | (_, none) => none
      else none

/-- Unlink a block from its parent's child map, under the block's own key. -/
def unlinkFromParent (block : BlockId) : WindowBlockManager :=
  match s.prevBlock block with
  | none => s
  | some parent => (s.removeNextBlock parent (s.blockKey block)).setPrevBlock block none

/-- `KVCacheBlock::freeLeafBlock` -/
def freeLeafBlock (block : BlockId) : Except Failure WindowBlockManager :=
  if s.isLeaf (.block block) then .ok (s.unlinkFromParent block) else .error .notLeaf

/-- `KVCacheBlock::freeDescendantsRecursively`. On a cyclic child map the source
recurses without end; a chain of distinct blocks is never longer than `fuel`. -/
def freeDescendantsRecursively (platform : Platform) :
    Nat → WindowBlockManager → BlockId → Except Failure WindowBlockManager
  | 0, _, _ => .error .diverges
  | fuel + 1, s, block => do
      let s ← (platform.iterate (s.nextBlocks (.block block))).foldlM (fun s entry => do
        let s ← freeDescendantsRecursively platform fuel s entry.2
        pure (s.removeNextBlock (.block block) entry.1)) s
      pure (s.setPrevBlock block none)

/-- `KVCacheBlock::freeBlockAndAllDescendants` -/
def freeBlockAndAllDescendants (config : WindowConfig) (platform : Platform) (block : BlockId) :
    Except Failure WindowBlockManager :=
  freeDescendantsRecursively platform (config.numBlocks + 1) (s.unlinkFromParent block) block

end TrtLlm.WindowBlockManager
