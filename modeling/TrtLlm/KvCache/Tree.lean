import TrtLlm.KvCache.Inversion

/-! # The reuse tree is a tree

Child maps and parent links agree, every block with a parent hangs below the root,
and a block without a parent has no children. Freeing a block with its descendants
is described by the set of blocks it takes out.
-/

namespace TrtLlm.WindowBlockManager

open List

open Function (update update_self update_of_ne update_eq_self)

variable {cfg : WindowConfig} {plat : Platform} {s s' : WindowBlockManager}
  {block : BlockId}

/-- The keys on the way from the root to a node, along the parent links. -/
inductive Path (s : WindowBlockManager) : Node → List BlockKey → Prop
  | root : Path s .root []
  | block {id : BlockId} {parent : Node} {keys : List BlockKey}
      (linked : s.prevBlock id = some parent) (above : Path s parent keys) :
      Path s (.block id) (keys ++ [s.blockKey id])

structure TreeInv (s : WindowBlockManager) : Prop where
  entry : ∀ {node key block}, (key, block) ∈ s.nextBlocks node →
    s.blockKey block = key ∧ s.prevBlock block = some node
  linked : ∀ {block node}, s.prevBlock block = some node →
    (s.blockKey block, block) ∈ s.nextBlocks node
  keys_nodup : ∀ node, ((s.nextBlocks node).map Prod.fst).Nodup
  leaf_of_unlinked : ∀ {block}, s.prevBlock block = none → s.nextBlocks (.block block) = []
  rooted : ∀ {block node}, s.prevBlock block = some node → ∃ keys, Path s (.block block) keys

variable {keys : List BlockKey} {node : Node} {key bkey : BlockKey} {removed : BlockId → Prop}

/-- A path goes through linked blocks only, so fewer links mean fewer paths. -/
theorem Path.mono (path : Path s' node keys) (fewer : ∀ {id par}, s'.prevBlock id = some par →
      s.prevBlock id = some par ∧ s'.blockKey id = s.blockKey id) : Path s node keys := by
  induction path with
  | root => exact .root
  | block linked _ ih =>
    obtain ⟨before, same⟩ := fewer linked
    rw [same]
    exact .block before ih

/-- The keys of a path are determined by its end. -/
theorem Path.unique {keys' : List BlockKey} (path : Path s node keys) (path' : Path s node keys') :
    keys = keys' := by
  induction path generalizing keys' with
  | root =>
    cases path'
    rfl
  | block linked above ih =>
    cases path' with
    | block linked' above' =>
      obtain rfl := Option.some.inj (linked.symm.trans linked')
      rw [ih above']

theorem TreeInv.congr (tree : TreeInv s) (children : s'.nextBlocks = s.nextBlocks)
    (parents : s'.prevBlock = s.prevBlock) (keys : s'.blockKey = s.blockKey) : TreeInv s' := by
  refine ⟨?_, ?_, ?_, ?_, ?_⟩
  · rw [children, parents, keys]
    exact tree.entry
  · rw [children, parents, keys]
    exact tree.linked
  · rw [children]
    exact tree.keys_nodup
  · rw [children, parents]
    exact tree.leaf_of_unlinked
  · intro block node linked
    rw [parents] at linked
    obtain ⟨path, found⟩ := tree.rooted linked
    exact ⟨path, found.mono fun before => ⟨by rw [parents]; exact before, by rw [keys]⟩⟩

/-- A node is in the tree. -/
def InTree (s : WindowBlockManager) (node : Node) : Prop := ∃ keys, Path s node keys

theorem TreeInv.inTree_of_entry (tree : TreeInv s) (mem : (key, block) ∈ s.nextBlocks node) :
    InTree s (.block block) :=
  tree.rooted (tree.entry mem).2

/-! ## Changes at blocks outside the tree -/

theorem ne_of_linked {id : BlockId} {par : Node} (linked : s.prevBlock id = some par)
    (unlinked : s.prevBlock block = none) : id ≠ block := by
  rintro rfl
  rw [unlinked] at linked
  cases linked

/-- A block without a parent is in no child map. -/
theorem TreeInv.notMem_of_unlinked (tree : TreeInv s) (unlinked : s.prevBlock block = none) :
    (key, block) ∉ s.nextBlocks node :=
  fun mem => ne_of_linked (tree.entry mem).2 unlinked rfl

theorem TreeInv.setBlockKey (tree : TreeInv s) (unlinked : s.prevBlock block = none)
    (bkey : BlockKey) (isFull : Bool) : TreeInv (s.setBlockKey block bkey isFull) := by
  have kept : ∀ {other : BlockId}, s.prevBlock other ≠ none →
      (s.setBlockKey block bkey isFull).blockKey other = s.blockKey other := by
    intro other linked
    have ne : other ≠ block := fun same => linked (same ▸ unlinked)
    exact update_of_ne ne _ _
  refine ⟨?_, ?_, tree.keys_nodup, tree.leaf_of_unlinked, ?_⟩
  · intro node key other mem
    obtain ⟨same, linked⟩ := tree.entry mem
    refine ⟨?_, linked⟩
    rw [kept (by rw [linked]; simp)]
    exact same
  · intro other node linked
    rw [kept (show s.prevBlock other ≠ none by rw [show s.prevBlock other = _ from linked]; simp)]
    exact tree.linked linked
  · intro other node linked
    obtain ⟨path, found⟩ := tree.rooted linked
    refine ⟨path, found.mono fun {id par} before => ⟨before, ?_⟩⟩
    exact (kept (by rw [before]; simp)).symm

theorem findNext_none (absent : s.findNext node bkey = none) :
    (bkey, block) ∉ s.nextBlocks node := by
  intro mem
  have unfound := find?_eq_none.mp (Option.map_eq_none_iff.mp absent) _ mem
  simp at unfound

theorem Path.inTree_linked {id : BlockId} (inTree : InTree s (.block id)) :
    ∃ par, s.prevBlock id = some par := by
  obtain ⟨keys, path⟩ := inTree
  cases path with
  | block linked _ => exact ⟨_, linked⟩

/-- Inserting a block keeps the paths there are. -/
theorem Path.insertBlock {root : Node} (path : Path s node keys)
    (unlinked : s.prevBlock block = none) : Path (insertBlock cfg s root bkey block) node keys := by
  refine path.mono fun linked => ?_
  have ne := ne_of_linked linked unlinked
  exact ⟨(update_of_ne ne _ _).trans linked, (update_of_ne ne _ _).symm⟩

/-- A block outside the tree is inserted below a node that has no child under the key. -/
theorem TreeInv.insertBlock (tree : TreeInv s) {root : Node}
    (unlinked : s.prevBlock block = none) (inTree : InTree s root)
    (absent : s.findNext root bkey = none) : TreeInv (insertBlock cfg s root bkey block) := by
  have children : (WindowBlockManager.insertBlock cfg s root bkey block).nextBlocks =
      update s.nextBlocks root (s.nextBlocks root ++ [(bkey, block)]) := by
    change (if (s.findNext root bkey).isSome then s.nextBlocks else _) = _
    rw [absent]
    rfl
  have parents : (WindowBlockManager.insertBlock cfg s root bkey block).prevBlock =
      update s.prevBlock block (some root) := rfl
  have keys : (WindowBlockManager.insertBlock cfg s root bkey block).blockKey =
      update s.blockKey block bkey := rfl
  obtain ⟨above, path⟩ := inTree
  refine ⟨?_, ?_, ?_, ?_, ?_⟩
  · intro node key other mem
    rw [parents, keys]
    rcases mem_children_insertBlock mem with before | ⟨rfl, same⟩
    · have ne : other ≠ block := by
        rintro rfl
        exact tree.notMem_of_unlinked unlinked before
      rw [update_of_ne ne, update_of_ne ne]
      exact tree.entry before
    · cases same
      rw [update_self, update_self]
      exact ⟨rfl, rfl⟩
  · intro other node linked
    rw [parents] at linked
    rw [keys, children]
    by_cases same : other = block
    · subst same
      rw [update_self] at linked ⊢
      cases linked
      rw [update_self]
      exact mem_append_right _ mem_cons_self
    · rw [update_of_ne same] at linked ⊢
      have before := tree.linked linked
      by_cases here : node = root
      · subst here
        rw [update_self]
        exact mem_append_left _ before
      · rw [update_of_ne here]
        exact before
  · intro node
    rw [children]
    by_cases here : node = root
    · subst here
      rw [update_self, map_append, nodup_append]
      refine ⟨tree.keys_nodup node, nodup_singleton _, ?_⟩
      rintro key mem _ new rfl
      obtain ⟨⟨_, other⟩, lt, rfl⟩ := mem_map.mp mem
      rw [map_singleton, mem_singleton] at new
      cases new
      exact findNext_none absent lt
    · rw [update_of_ne here]
      exact tree.keys_nodup node
  · intro other unlinked'
    rw [parents] at unlinked'
    have ne : other ≠ block := by
      rintro rfl
      rw [update_self] at unlinked'
      cases unlinked'
    rw [update_of_ne ne] at unlinked'
    have elsewhere : Node.block other ≠ root := by
      rintro rfl
      obtain ⟨par, linked⟩ := Path.inTree_linked ⟨above, path⟩
      exact ne_of_linked linked unlinked' rfl
    rw [children, update_of_ne elsewhere]
    exact tree.leaf_of_unlinked unlinked'
  · intro other node linked
    by_cases same : other = block
    · subst same
      exact ⟨_, .block (by rw [parents, update_self]) (path.insertBlock unlinked)⟩
    · rw [parents, update_of_ne same] at linked
      obtain ⟨below, found⟩ := tree.rooted linked
      exact ⟨below, found.insertBlock unlinked⟩

/-! ## Freeing descendants -/

/-- The blocks in `removed` lost their links, the other blocks kept theirs. The
children of `root`, whose map is cleared last, are not described. -/
structure Cleared (s : WindowBlockManager) (root : BlockId) (removed : BlockId → Prop)
    (s' : WindowBlockManager) : Prop where
  unlinked : ∀ {id}, removed id → s'.prevBlock id = none ∧ s'.nextBlocks (.block id) = []
  parent_kept : ∀ {id}, ¬removed id → s'.prevBlock id = s.prevBlock id
  children_kept : ∀ {node}, node ≠ .block root → (∀ id, node = .block id → ¬removed id) →
    s'.nextBlocks node = s.nextBlocks node
  fewer : ∀ {node entry}, entry ∈ s'.nextBlocks node → entry ∈ s.nextBlocks node
  below : ∀ {id}, removed id →
    ∃ parent key, (parent = root ∨ removed parent) ∧ (key, id) ∈ s.nextBlocks (.block parent)
  closed : ∀ {parent key id}, removed parent → parent ≠ root →
    (key, id) ∈ s.nextBlocks (.block parent) → removed id

/-- What freeing a block with its descendants takes out. -/
structure Pruned (s : WindowBlockManager) (root : BlockId) (removed : BlockId → Prop)
    (s' : WindowBlockManager) : Prop where
  self : removed root
  unlinked : ∀ {id}, removed id → s'.prevBlock id = none ∧ s'.nextBlocks (.block id) = []
  parent_kept : ∀ {id}, ¬removed id → s'.prevBlock id = s.prevBlock id
  children_kept : ∀ {node}, (∀ id, node = .block id → ¬removed id) →
    s'.nextBlocks node = s.nextBlocks node
  fewer : ∀ {node entry}, entry ∈ s'.nextBlocks node → entry ∈ s.nextBlocks node
  below : ∀ {id}, removed id → id = root ∨
    ∃ parent key, removed parent ∧ (key, id) ∈ s.nextBlocks (.block parent)
  closed : ∀ {parent key id}, removed parent → (key, id) ∈ s.nextBlocks (.block parent) →
    removed id

theorem Cleared.refl (s : WindowBlockManager) (root : BlockId) :
    Cleared s root (fun _ => False) s :=
  ⟨False.elim, fun _ => rfl, fun _ _ => rfl, id, False.elim, False.elim⟩

/-- One child after another is freed and taken out of the map of `root`. -/
theorem Cleared.child {root child : BlockId} {below : BlockId → Prop} {inner : WindowBlockManager}
    (cleared : Cleared s root removed s') (mem : (key, child) ∈ s.nextBlocks (.block root))
    (pruned : Pruned s' child below inner) : Cleared s root (fun id => removed id ∨ below id)
      (inner.removeNextBlock (.block root) key) := by
  have kept : ∀ {node}, node ≠ .block root →
      (inner.removeNextBlock (.block root) key).nextBlocks node = inner.nextBlocks node :=
    fun ne => update_of_ne ne _ _
  have empty : ∀ {id}, inner.nextBlocks (.block id) = [] →
      (inner.removeNextBlock (.block root) key).nextBlocks (.block id) = [] := by
    intro id before
    by_cases same : id = root
    · subst same
      change update inner.nextBlocks _ _ _ = _
      rw [update_self, before]
      rfl
    · rw [kept fun equal => same (Node.block.inj equal)]
      exact before
  refine ⟨?_, ?_, ?_, ?_, ?_, ?_⟩
  · intro id gone
    by_cases inside : below id
    · obtain ⟨parent, children⟩ := pruned.unlinked inside
      exact ⟨parent, empty children⟩
    · obtain ⟨parent, children⟩ := cleared.unlinked (gone.resolve_right inside)
      refine ⟨(pruned.parent_kept inside).trans parent, empty ?_⟩
      rw [pruned.children_kept fun other same => by cases same; exact inside]
      exact children
  · intro id stays
    rw [not_or] at stays
    exact (pruned.parent_kept stays.2).trans (cleared.parent_kept stays.1)
  · intro node ne stays
    rw [kept ne, pruned.children_kept fun id same gone => stays id same (.inr gone)]
    exact cleared.children_kept ne fun id same gone => stays id same (.inl gone)
  · intro node entry inside
    refine cleared.fewer (pruned.fewer ?_)
    by_cases same : node = .block root
    · subst same
      change entry ∈ update inner.nextBlocks _ _ _ at inside
      rw [update_self] at inside
      exact mem_of_mem_filter inside
    · rw [kept same] at inside
      exact inside
  · intro id gone
    rcases gone with before | inside
    · obtain ⟨parent, key', source, child'⟩ := cleared.below before
      exact ⟨parent, key', source.imp_right .inl, child'⟩
    · rcases pruned.below inside with rfl | ⟨parent, key', source, child'⟩
      · exact ⟨root, key, .inl rfl, mem⟩
      · exact ⟨parent, key', .inr (.inr source), cleared.fewer child'⟩
  · intro parent key' id gone ne child'
    by_cases before : removed parent
    · exact .inl (cleared.closed before ne child')
    · have inside : (key', id) ∈ s'.nextBlocks (.block parent) := by
        rw [cleared.children_kept (fun same => ne (Node.block.inj same))
          fun other same => by cases same; exact before]
        exact child'
      exact .inr (pruned.closed (gone.resolve_left before) inside)

/-- The loop over the children of `root`, where freeing a child prunes it. -/
theorem Cleared.loop (root : BlockId)
    {free : WindowBlockManager → BlockId → Except Failure WindowBlockManager}
    (prunes : ∀ {before child after}, free before child = .ok after →
      ∃ below, Pruned before child below after) {entries : List (BlockKey × BlockId)}
    {ends : WindowBlockManager} (children : ∀ entry ∈ entries, entry ∈ s.nextBlocks (.block root))
    (cleared : Cleared s root removed s') (looped : entries.foldlM (fun st entry => do
      let st ← free st entry.2
      pure (st.removeNextBlock (.block root) entry.1)) s' = .ok ends) :
    ∃ removed', Cleared s root removed' ends ∧ (∀ {id}, removed id → removed' id) ∧
      (∀ entry ∈ entries, removed' entry.2) ∧
      (∀ entry ∈ ends.nextBlocks (.block root), entry ∈ s'.nextBlocks (.block root)) ∧
      ∀ entry ∈ entries, ∀ other ∈ ends.nextBlocks (.block root), other.1 ≠ entry.1 := by
  induction entries generalizing removed s' with
  | nil =>
    simp only [foldlM_nil, Except.pure_eq_ok] at looped
    subst looped
    exact ⟨removed, cleared, id, fun _ mem => absurd mem not_mem_nil,
      fun _ => id, fun _ mem => absurd mem not_mem_nil⟩
  | cons entry rest ih =>
    obtain ⟨key, child⟩ := entry
    simp only [foldlM_cons, Except.bind_eq_ok, Except.pure_eq_ok] at looped
    obtain ⟨next, ⟨inner, freed, rfl⟩, continued⟩ := looped
    obtain ⟨below, pruned⟩ := prunes freed
    have mem := children (key, child) mem_cons_self
    obtain ⟨removed', done, keeps, covers, fewer, absent⟩ :=
      ih (forall_mem_cons.mp children).2
        (cleared.child mem pruned) (by simpa [Except.bind_eq_ok] using continued)
    have filtered : ∀ other ∈ (inner.removeNextBlock (.block root) key).nextBlocks (.block root),
        other ∈ s'.nextBlocks (.block root) ∧ other.1 ≠ key := by
      intro other lt
      change other ∈ update inner.nextBlocks _ _ _ at lt
      rw [update_self, mem_filter] at lt
      exact ⟨pruned.fewer lt.1, by simpa using lt.2⟩
    refine ⟨removed', done, fun gone => keeps (.inl gone), ?_, ?_, ?_⟩
    · intro entry lt
      rcases mem_cons.mp lt with rfl | later
      · exact keeps (.inr pruned.self)
      · exact covers entry later
    · exact fun entry lt => (filtered entry (fewer entry lt)).1
    · intro entry lt other left
      rcases mem_cons.mp lt with rfl | later
      · exact (filtered other (fewer other left)).2
      · exact absent entry later other left

theorem pruned_of_freeDescendants {fuel : Nat}
    (freed : freeDescendantsRecursively plat fuel s block = .ok s') :
    ∃ removed, Pruned s block removed s' := by
  induction fuel generalizing s s' block with
  | zero => cases freed
  | succ fuel ih =>
    simp only [freeDescendantsRecursively, Except.bind_eq_ok, Except.pure_eq_ok] at freed
    obtain ⟨looped, loop, rfl⟩ := freed
    have perm := plat.iterate_perm (s.nextBlocks (.block block))
    obtain ⟨removed, cleared, _, covers, fewer, absent⟩ := Cleared.loop block
      (fun called => ih called) (fun entry mem => perm.mem_iff.mp mem)
      (Cleared.refl s block) (by simpa [Except.bind_eq_ok] using loop)
    have childless : looped.nextBlocks (.block block) = [] := by
      refine eq_nil_iff_forall_not_mem.mpr fun entry mem => ?_
      exact absent entry (perm.mem_iff.mpr (fewer entry mem)) entry mem rfl
    refine ⟨fun id => removed id ∨ id = block, .inr rfl, ?_, ?_, ?_, cleared.fewer, ?_, ?_⟩
    · intro id gone
      by_cases same : id = block
      · subst same
        exact ⟨update_self _ _ _, childless⟩
      · obtain ⟨par, children⟩ := cleared.unlinked (gone.resolve_right same)
        exact ⟨(update_of_ne same _ _).trans par, children⟩
    · intro id stays
      rw [not_or] at stays
      exact (update_of_ne stays.2 _ _).trans (cleared.parent_kept stays.1)
    · intro node stays
      exact cleared.children_kept (fun same => stays block same (.inr rfl))
        fun id same gone => stays id same (.inl gone)
    · intro id gone
      rcases gone with before | rfl
      · obtain ⟨par, key, source, child⟩ := cleared.below before
        exact .inr ⟨par, key, source.symm, child⟩
      · exact .inl rfl
    · intro par key id gone child
      by_cases same : par = block
      · subst same
        exact .inl (covers (key, id) (perm.mem_iff.mpr child))
      · exact .inl (cleared.closed (gone.resolve_right same) same child)

/-! ## Taking a block out of the tree -/

theorem unlinkFromParent_prevBlock (s : WindowBlockManager) (block : BlockId) :
    (s.unlinkFromParent block).prevBlock = update s.prevBlock block none := by
  unfold unlinkFromParent
  cases par : s.prevBlock block with
  | none =>
    have same := update_eq_self block s.prevBlock
    rw [par] at same
    exact same.symm
  | some node => rfl

/-- Unlinking takes out the entry of the block and no other. -/
theorem TreeInv.mem_unlinkFromParent (tree : TreeInv s) {entry : BlockKey × BlockId} :
    entry ∈ (s.unlinkFromParent block).nextBlocks node ↔
      entry ∈ s.nextBlocks node ∧ entry.2 ≠ block := by
  obtain ⟨key, other⟩ := entry
  unfold unlinkFromParent
  cases par : s.prevBlock block with
  | none =>
    refine ⟨fun mem => ⟨mem, ?_⟩, And.left⟩
    rintro rfl
    exact tree.notMem_of_unlinked par mem
  | some above =>
    change (key, other) ∈ update s.nextBlocks above _ node ↔ _
    by_cases here : node = above
    · subst here
      rw [update_self, mem_filter]
      refine and_congr_right fun mem => ?_
      have atKey := (tree.entry mem).1
      have ne : key = s.blockKey block ↔ other = block := by
        constructor
        · rintro rfl
          have pair := inj_on_of_nodup_map (tree.keys_nodup node) mem (tree.linked par) rfl
          exact congrArg Prod.snd pair
        · rintro rfl
          exact atKey.symm
      simp [ne]
    · rw [update_of_ne here]
      refine ⟨fun mem => ⟨mem, ?_⟩, And.left⟩
      rintro rfl
      have linked := (tree.entry mem).2
      rw [par] at linked
      exact here (Option.some.inj linked).symm

theorem TreeInv.nodup_unlinkFromParent (tree : TreeInv s) (node : Node) :
    (((s.unlinkFromParent block).nextBlocks node).map Prod.fst).Nodup := by
  unfold unlinkFromParent
  cases s.prevBlock block with
  | none => exact tree.keys_nodup node
  | some above =>
    change ((update s.nextBlocks above _ node).map Prod.fst).Nodup
    by_cases here : node = above
    · subst here
      rw [update_self]
      exact (tree.keys_nodup node).sublist (filter_sublist.map _)
    · rw [update_of_ne here]
      exact tree.keys_nodup node

theorem unlinkFromParent_blockKey (s : WindowBlockManager) (block : BlockId) :
    (s.unlinkFromParent block).blockKey = s.blockKey := by
  unfold unlinkFromParent
  cases s.prevBlock block <;> rfl

/-- A tree stays a tree when a block is unlinked and it and its descendants are freed. -/
theorem TreeInv.prune (tree : TreeInv s)
    (pruned : Pruned (s.unlinkFromParent block) block removed s')
    (keys : s'.blockKey = s.blockKey) :
    TreeInv s' := by
  have parents : ∀ {id}, id ≠ block → (s.unlinkFromParent block).prevBlock id = s.prevBlock id :=
    fun ne => by rw [unlinkFromParent_prevBlock, update_of_ne ne]
  have stays : ∀ {id par}, s.prevBlock id = some par → ¬removed id →
      s'.prevBlock id = some par ∧ ∀ above, par = .block above → ¬removed above := by
    intro id par linked kept
    have ne : id ≠ block := fun same => kept (same ▸ pruned.self)
    refine ⟨by rw [pruned.parent_kept kept, parents ne, linked], ?_⟩
    rintro above rfl gone
    exact kept (pruned.closed gone (tree.mem_unlinkFromParent.mpr ⟨tree.linked linked, ne⟩))
  have reached : ∀ {node keys}, Path s node keys → (∀ id, node = .block id → ¬removed id) →
      Path s' node keys := by
    intro node keys' path kept
    induction path with
    | root => exact .root
    | @block id par above linked _ ih =>
      obtain ⟨linked', further⟩ := stays linked (kept id rfl)
      have same : s.blockKey id = s'.blockKey id := by rw [keys]
      rw [same]
      exact .block linked' (ih further)
  have linked_before : ∀ {id par}, s'.prevBlock id = some par →
      ¬removed id ∧ s.prevBlock id = some par := by
    intro id par linked
    have kept : ¬removed id := by
      intro gone
      rw [(pruned.unlinked gone).1] at linked
      cases linked
    have ne : id ≠ block := fun same => kept (same ▸ pruned.self)
    rw [pruned.parent_kept kept, parents ne] at linked
    exact ⟨kept, linked⟩
  refine ⟨?_, ?_, ?_, ?_, ?_⟩
  · intro node key child mem
    obtain ⟨before, ne⟩ := tree.mem_unlinkFromParent.mp (pruned.fewer mem)
    obtain ⟨same, linked⟩ := tree.entry before
    rw [keys]
    refine ⟨same, (stays linked ?_).1⟩
    intro gone
    rcases pruned.below gone with rfl | ⟨par, key', source, lt⟩
    · exact ne rfl
    · have linked' := (tree.entry (tree.mem_unlinkFromParent.mp lt).1).2
      obtain rfl := Option.some.inj (linked.symm.trans linked')
      rw [(pruned.unlinked source).2] at mem
      cases mem
  · intro child node linked
    obtain ⟨kept, before⟩ := linked_before linked
    have ne : child ≠ block := fun same => kept (same ▸ pruned.self)
    rw [pruned.children_kept (stays before kept).2, keys]
    exact tree.mem_unlinkFromParent.mpr ⟨tree.linked before, ne⟩
  · intro node
    by_cases gone : ∃ id, node = .block id ∧ removed id
    · obtain ⟨id, rfl, gone⟩ := gone
      rw [(pruned.unlinked gone).2]
      exact nodup_nil
    · rw [pruned.children_kept fun id same lt => gone ⟨id, same, lt⟩]
      exact tree.nodup_unlinkFromParent node
  · intro id unlinked
    by_cases gone : removed id
    · exact (pruned.unlinked gone).2
    · have ne : id ≠ block := fun same => gone (same ▸ pruned.self)
      rw [pruned.parent_kept gone, parents ne] at unlinked
      refine eq_nil_iff_forall_not_mem.mpr fun entry mem => ?_
      have before := (tree.mem_unlinkFromParent.mp (pruned.fewer mem)).1
      rw [tree.leaf_of_unlinked unlinked] at before
      cases before
  · intro id node linked
    obtain ⟨kept, before⟩ := linked_before linked
    obtain ⟨above, path⟩ := tree.rooted before
    exact ⟨above, reached path fun other same => by cases same; exact kept⟩

/-- Unlinking a leaf takes out that block only. -/
theorem Pruned.leaf (leaf : s.nextBlocks (.block block) = []) :
    Pruned (s.unlinkFromParent block) block (fun id => id = block) (s.unlinkFromParent block) := by
  have childless : (s.unlinkFromParent block).nextBlocks (.block block) = [] := by
    refine eq_nil_iff_forall_not_mem.mpr fun entry mem => ?_
    unfold unlinkFromParent at mem
    cases par : s.prevBlock block with
    | none =>
      rw [par] at mem
      rw [leaf] at mem
      cases mem
    | some above =>
      rw [par] at mem
      change entry ∈ update s.nextBlocks above _ (.block block) at mem
      by_cases here : Node.block block = above
      · subst here
        rw [update_self, leaf] at mem
        cases mem
      · rw [update_of_ne here, leaf] at mem
        cases mem
  refine ⟨rfl, ?_, fun _ => rfl, fun _ => rfl, id, .inl, ?_⟩
  · rintro id rfl
    rw [unlinkFromParent_prevBlock]
    exact ⟨update_self _ _ _, childless⟩
  · rintro par key id rfl mem
    rw [childless] at mem
    cases mem

theorem TreeInv.unlinkLeaf (tree : TreeInv s) (leaf : s.nextBlocks (.block block) = []) :
    TreeInv (s.unlinkFromParent block) :=
  tree.prune (.leaf leaf) (unlinkFromParent_blockKey s block)

/-- The links after a block was taken: those of a tree without the block and some others. -/
structure TreeTaken (s : WindowBlockManager) (block : BlockId) (s' : WindowBlockManager) :
    Prop where
  tree : TreeInv s'
  unlinked : s'.prevBlock block = none
  fewer : ∀ {id parent}, s'.prevBlock id = some parent → s.prevBlock id = some parent
  keys : s'.blockKey = s.blockKey

theorem TreeInv.freeChildren (tree : TreeInv s)
    (freed : s.freeChildren cfg plat block = .ok s') : TreeTaken s block s' := by
  have same := freeChildren_ok freed
  have notified : TreeInv (s.enqueueRemovedEvent cfg (s.blockInRadixTree block) block) :=
    tree.congr rfl rfl rfl
  obtain ⟨removed, pruned⟩ := pruned_of_freeDescendants freed
  have keys : s'.blockKey = s.blockKey := by
    rw [same]
    rfl
  refine ⟨notified.prune pruned keys, (pruned.unlinked pruned.self).1, ?_, keys⟩
  intro id par linked
  have kept : ¬removed id := by
    intro gone
    rw [(pruned.unlinked gone).1] at linked
    cases linked
  have ne : id ≠ block := fun same => kept (same ▸ pruned.self)
  rw [pruned.parent_kept kept, unlinkFromParent_prevBlock, update_of_ne ne] at linked
  exact linked

theorem TreeInv.chooseFreeBlock (tree : TreeInv s)
    (chose : s.chooseFreeBlock cfg plat = .ok (block, s')) :
    TreeInv s' ∧ s'.prevBlock = s.prevBlock ∧ s'.blockKey = s.blockKey := by
  obtain ⟨_, _, _, ⟨_, _, rfl⟩ | ⟨_, _, rfl⟩⟩ := chooseFreeBlock_ok chose
  · exact ⟨tree, rfl, rfl⟩
  · exact ⟨tree.congr rfl rfl rfl, rfl, rfl⟩

/-- A block that is taken is in no child map and has no children. -/
theorem TreeInv.getFreeBlock (tree : TreeInv s) {rid : RequestId}
    {prio : RetentionPriority} {dur : Option Nat}
    (took : s.getFreeBlock cfg plat rid prio dur = .ok (block, s')) : TreeTaken s block s' := by
  obtain ⟨chosen, pruned, chose, freed, rfl⟩ := getFreeBlock_ok took
  obtain ⟨kept, parents, keys⟩ := tree.chooseFreeBlock chose
  have marked : TreeInv (chosen.markTaken rid block) := kept.congr rfl rfl rfl
  have taken := marked.freeChildren freed
  refine ⟨taken.tree.congr rfl rfl rfl, taken.unlinked, ?_, taken.keys.trans keys⟩
  intro id par linked
  have before : chosen.prevBlock id = some par := taken.fewer linked
  rwa [parents] at before

/-- A node keeps its path, or it is out of the tree and has lost its children. -/
theorem TreeTaken.path_or_childless (taken : TreeTaken s block s') (path : Path s node keys) :
    Path s' node keys ∨ s'.nextBlocks node = [] := by
  cases children : s'.nextBlocks node with
  | nil => exact .inr rfl
  | cons entry rest =>
    have linked := (taken.tree.entry (children ▸ mem_cons_self)).2
    obtain ⟨below, climbs⟩ := taken.tree.rooted linked
    cases climbs with
    | block linked' above =>
      obtain rfl := Option.some.inj (linked.symm.trans linked')
      have before := above.mono fun linked => ⟨taken.fewer linked, by rw [taken.keys]⟩
      rw [before.unique path] at above
      exact .inl above

end TrtLlm.WindowBlockManager
