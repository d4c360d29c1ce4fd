import TrtLlm.KvCache.TreeOperations

/-! # Coherence of the reuse tree

In every run in which no block of the tree is stored a second time under another
key, child maps and parent links agree and every block in the tree is below the root.
-/

namespace TrtLlm

open KVCacheManager WindowBlockManager

/-- A block that is in the tree gets a new key and parent. -/
def Branch.relinks : Branch → Bool
  | .relinked _ => true
  | _ => false

namespace WindowBlockManager

variable {cfg : WindowConfig} {s : WindowBlockManager}

/-- The two directions of the links agree, and free blocks come without links. -/
structure Coherent (config : WindowConfig) (s : WindowBlockManager) : Prop where
  entry : ∀ node key block, s.findNext node key = some block →
    s.blockKey block = key ∧ s.prevBlock block = some node
  linked : ∀ block node, s.prevBlock block = some node →
    s.findNext node (s.blockKey block) = some block
  rooted : ∀ block node, s.prevBlock block = some node → ∃ keys, Path s (.block block) keys
  taken : ∀ platform requestId priority durationMs block s',
    s.getFreeBlock config platform requestId priority durationMs = .ok (block, s') →
      (∀ node key, s'.findNext node key ≠ some block) ∧ s'.nextBlocks (.block block) = []

theorem TreeInv.findNext_of_mem (tree : TreeInv s) {node : Node} {key : BlockKey}
    {block : BlockId} (mem : (key, block) ∈ s.nextBlocks node) :
    s.findNext node key = some block := by
  cases found : s.findNext node key with
  | none => exact absurd mem (findNext_none found)
  | some other =>
    have pair := List.inj_on_of_nodup_map (tree.keys_nodup node) (mem_of_findNext found) mem rfl
    exact congrArg some (congrArg Prod.snd pair)

theorem TreeInv.coherent (tree : TreeInv s) : Coherent cfg s where
  entry _ _ _ found := tree.entry (mem_of_findNext found)
  linked _ _ linked := tree.findNext_of_mem (tree.linked linked)
  rooted _ _ linked := tree.rooted linked
  taken plat rid prio dur block s' took := by
    have got := tree.getFreeBlock took
    refine ⟨fun node key found => ?_, got.tree.leaf_of_unlinked got.unlinked⟩
    exact got.tree.notMem_of_unlinked got.unlinked (mem_of_findNext found)

end WindowBlockManager

theorem coherent_of_reaches (platform : Platform) (enableBlockReuse : Bool)
    (config : WindowConfig) {m : KVCacheManager}
    (reached : Run.Reaches (KVCacheManager.step platform enableBlockReuse)
      (fun m op => m.Avoids platform enableBlockReuse Branch.relinks op)
      (KVCacheManager.initial [config]) m) :
    ∃ window, m.windows = [(config, window)] ∧ Coherent config window := by
  let kept := fun m : KVCacheManager =>
    ∃ v : OneWindow, m = v.manager config ∧ TreeInv v.window
  have inv : kept m := by
    refine reached.invariant ⟨OneWindow.initial config, rfl, .initial config⟩ ?_
    rintro before op after ⟨v, rfl, tree⟩ avoids stepped
    simp only [KVCacheManager.step, Except.bind_eq_ok, Except.pure_eq_ok] at stepped
    obtain ⟨⟨m', output⟩, called, rfl⟩ := stepped
    unfold Avoids at avoids
    rw [called] at avoids
    obtain ⟨v', rfl, done⟩ := OneWindow.exec_step called
    refine ⟨v', rfl, done.tree tree fun block member => ?_⟩
    exact Bool.noConfusion (avoids (config, v'.window) List.mem_cons_self _ member)
  obtain ⟨v, rfl, tree⟩ := inv
  exact ⟨v.window, rfl, tree.coherent⟩

/-- A prompt of five tokens that has been processed up to a position. -/
def fiveTokens (requestId : RequestId) (position : Nat) : LlmRequest where
  requestId := requestId
  uniqueTokens := [⟨1, 0⟩, ⟨2, 0⟩, ⟨3, 0⟩, ⟨4, 0⟩, ⟨5, 0⟩]
  promptLen := 5
  contextCurrentPosition := position
  contextChunkSize := 5 - position

/-- Two sequences with the same prompt, one after the other. -/
def sharePrefix : List Op :=
  [.addSequence 1 5 1 (some (fiveTokens 1 0)), .storeContextBlocks (fiveTokens 1 5),
    .removeSequence 1 (some (fiveTokens 1 5)), .addSequence 2 5 1 (some (fiveTokens 2 0)),
    .addToken 2, .removeSequence 2 (some (fiveTokens 2 5))]

theorem coherent_sharePrefix : ∃ m,
    (Run.Reaches (KVCacheManager.step .plain true)
      (fun m op => m.Avoids .plain true Branch.relinks op) (KVCacheManager.initial [.fourBlocks])
      m ∧ (m.windows.any fun (_, window) => (window.prevBlock 1).isSome) = true) ∧
    ∃ window, m.windows = [(.fourBlocks, window)] ∧ Coherent .fourBlocks window := by
  refine Exists.imp (fun m checked => ⟨checked, ?_⟩)
    (Run.exists_reaches sharePrefix (by decide +kernel))
  exact coherent_of_reaches .plain true .fourBlocks checked.1

/-- The second sequence is removed before its last token is processed. Its usable
tokens end inside the second block, which it shares with the tree. -/
def removeBeforeEnd : List Op :=
  [.addSequence 1 5 1 (some (fiveTokens 1 0)), .removeSequence 1 (some (fiveTokens 1 5)),
    .addSequence 2 5 1 (some (fiveTokens 2 0)), .removeSequence 2 (some (fiveTokens 2 4))]

/-- Block 1 is then a child of block 0 under two keys, of which its own is the shorter. -/
theorem removeBeforeEnd_two_entries : ∃ m,
    Run.Reaches (KVCacheManager.step .plain true) (fun _ _ => True)
      (KVCacheManager.initial [.fourBlocks]) m ∧
    (m.windows.any fun (_, window) =>
      window.findNext (.block 0) { uniqueTokens := [⟨3, 0⟩, ⟨4, 0⟩] } = some 1 &&
        window.blockKey 1 = { uniqueTokens := [⟨3, 0⟩] }) = true :=
  Run.exists_reaches removeBeforeEnd (by decide +kernel)

end TrtLlm
