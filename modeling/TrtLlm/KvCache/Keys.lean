import TrtLlm.KvCache.Inversion

/-! # Keys and the tokens they stand for

The keys of a request cut its tokens into blocks: the key at an index has the tokens
of that block, and the keys before it have all tokens before. So the KV that a chain
of keys promises is the KV of the request's own tokens.
-/

namespace TrtLlm

open List

open Except (bind_eq_ok pure_eq_ok)

/-! ## Chopping -/

variable {allowPartial : Bool} {elementsPerBlock fuel idx token : Nat} {α : Type}
  {key : BlockKey} {parts : List (List UniqueToken)} {vec part : List α} {start : Nat}

theorem chopLoop_ne_nil (pos : 0 < elementsPerBlock)
    (mem : part ∈ chopLoop elementsPerBlock allowPartial fuel vec) : part ≠ [] := by
  induction fuel generalizing vec with
  | zero => cases mem
  | succ fuel ih =>
    cases vec with
    | nil => cases mem
    | cons first rest =>
      unfold chopLoop at mem
      split at mem
      · rcases mem_cons.mp mem with rfl | later
        · intro empty
          rw [take_eq_nil_iff] at empty
          rcases empty with zero | nil
          · omega
          · cases nil
        · exact ih later
      · cases mem

theorem mem_buildBlockKeysFrom {req : LlmRequest} (mem : key ∈ buildBlockKeysFrom req start parts) :
    key.uniqueTokens ∈ parts := by
  induction parts generalizing start with
  | nil => cases mem
  | cons part rest ih =>
    rcases mem_cons.mp mem with rfl | later
    · exact mem_cons_self
    · exact mem_cons_of_mem _ (ih later)


theorem chopLoop_getElem
    (found : (chopLoop elementsPerBlock allowPartial fuel vec)[idx]? = some part) :
    part = (vec.drop (idx * elementsPerBlock)).take elementsPerBlock ∧
      (allowPartial = false → part.length = elementsPerBlock) := by
  induction fuel generalizing vec idx with
  | zero => cases found
  | succ fuel ih =>
    cases vec with
    | nil => cases found
    | cons first rest =>
      unfold chopLoop at found
      split at found
      · rename_i fits
        cases idx with
        | zero =>
          cases found
          refine ⟨by simp, fun whole => ?_⟩
          rw [length_take]
          exact Nat.min_eq_left (fits.resolve_right (by simp [whole]))
        | succ idx =>
          obtain ⟨same, full⟩ := ih found
          refine ⟨?_, full⟩
          rw [same, drop_drop, Nat.add_one_mul, Nat.add_comm elementsPerBlock]
      · cases found

/-- With partial blocks no token is left over. -/
theorem length_le_chopLoop (pos : 0 < elementsPerBlock) (enough : vec.length ≤ fuel) :
    vec.length ≤ (chopLoop elementsPerBlock true fuel vec).length * elementsPerBlock := by
  induction fuel generalizing vec with
  | zero => omega
  | succ fuel ih =>
    cases vec with
    | nil => exact Nat.zero_le _
    | cons first rest =>
      have shorter : ((first :: rest).drop elementsPerBlock).length ≤ fuel := by
        rw [length_drop]
        omega
      have covered := ih shorter
      rw [length_drop] at covered
      rw [chopLoop, if_pos (.inr rfl)]
      rw [length_cons] at covered ⊢
      rw [length_cons, Nat.add_one_mul]
      omega

theorem buildBlockKeysFrom_getElem {req : LlmRequest}
    (found : (buildBlockKeysFrom req start parts)[idx]? = some key) :
    parts[idx]? = some key.uniqueTokens ∧ key.loraTaskId = req.loraTaskId ∧
      key.cacheSaltID = req.cacheSaltID := by
  induction parts generalizing start idx with
  | nil => cases found
  | cons part rest ih =>
    cases idx with
    | zero =>
      cases found
      exact ⟨rfl, rfl, rfl⟩
    | succ idx => exact ih found

/-! ## What keys promise -/

/-- The tokens of a chain of keys. -/
def tokensOf (keys : List BlockKey) : List UniqueToken := keys.flatMap BlockKey.uniqueTokens

/-- The KV of a token of a block that is stored under a key below a chain of keys. -/
def keyKv (above : List BlockKey) (blockKey : BlockKey) (token : Nat) : Kv where
  loraTaskId := blockKey.loraTaskId
  cacheSaltID := blockKey.cacheSaltID
  tokens := tokensOf above ++ blockKey.uniqueTokens.take (token + 1)

/-- The KV of a request's own token at a position. -/
def LlmRequest.kvAt (request : LlmRequest) (position : Nat) : Kv where
  loraTaskId := request.loraTaskId
  cacheSaltID := request.cacheSaltID
  tokens := request.uniqueTokens.take (position + 1)

/-- The keys cut the first `usable` tokens of a request into blocks. -/
structure Cuts (config : WindowConfig) (request : LlmRequest) (usable : Nat)
    (keys : List BlockKey) : Prop where
  lora : ∀ {index : Nat} {blockKey : BlockKey}, keys[index]? = some blockKey →
    blockKey.loraTaskId = request.loraTaskId ∧ blockKey.cacheSaltID = request.cacheSaltID
  tokens : ∀ {index : Nat} {blockKey : BlockKey}, keys[index]? = some blockKey →
    blockKey.uniqueTokens = ((request.uniqueTokens.take usable).drop
      (index * config.tokensPerBlock)).take config.tokensPerBlock

variable {cfg : WindowConfig} {req : LlmRequest} {usable : Nat} {keys : List BlockKey}

section

variable (cuts : Cuts cfg req usable keys)
include cuts

theorem Cuts.above (within : idx ≤ keys.length) : tokensOf (keys.take idx) =
      (req.uniqueTokens.take usable).take (idx * cfg.tokensPerBlock) := by
  induction idx with
  | zero => simp [tokensOf]
  | succ idx ih =>
    have found : keys[idx]? = some keys[idx] := getElem?_eq_getElem within
    rw [tokensOf, take_succ_eq_append_getElem within, flatMap_append, ← tokensOf,
      ih (Nat.le_of_succ_le within), Nat.add_one_mul, take_add, ← cuts.tokens found]
    simp

theorem Cuts.length_le (found : keys[idx]? = some key) :
    key.uniqueTokens.length ≤ cfg.tokensPerBlock := by
  rw [cuts.tokens found]
  exact length_take_le _ _

/-- The positions that a key covers are usable. -/
theorem Cuts.position_lt (found : keys[idx]? = some key) (lt : token < key.uniqueTokens.length) :
    idx * cfg.tokensPerBlock + token < usable := by
  rw [cuts.tokens found, length_take, length_drop, length_take] at lt
  omega

/-- The KV that the keys promise is the request's own. -/
theorem Cuts.keyKv_eq (found : keys[idx]? = some key) (lt : token < key.uniqueTokens.length) :
    keyKv (keys.take idx) key token = req.kvAt (idx * cfg.tokensPerBlock + token) := by
  have within : idx < keys.length := (List.getElem?_eq_some_iff.mp found).1
  have short := cuts.length_le found
  have usable_le := cuts.position_lt found lt
  obtain ⟨lora, salt⟩ := cuts.lora found
  have own : tokensOf (keys.take idx) ++ key.uniqueTokens.take (token + 1) =
      req.uniqueTokens.take (idx * cfg.tokensPerBlock + token + 1) := by
    have cut : key.uniqueTokens.take (token + 1) = ((req.uniqueTokens.take usable).drop
        (idx * cfg.tokensPerBlock)).take (token + 1) := by
      rw [cuts.tokens found, List.take_take, Nat.min_eq_left (Nat.le_trans lt short)]
    rw [cuts.above (Nat.le_of_lt within), cut, ← List.take_add, List.take_take,
      Nat.min_eq_left (by omega), Nat.add_assoc]
  unfold keyKv LlmRequest.kvAt
  rw [lora, salt, own]

end

/-! ## Partial matches -/

theorem BlockKey.mismatch_spec (tokens others : List UniqueToken) :
    BlockKey.mismatch tokens others ≤ tokens.length ∧
      BlockKey.mismatch tokens others ≤ others.length ∧
      tokens.take (BlockKey.mismatch tokens others) =
        others.take (BlockKey.mismatch tokens others) := by
  induction tokens generalizing others with
  | nil => simp [BlockKey.mismatch]
  | cons token tokens ih =>
    cases others with
    | nil => simp [BlockKey.mismatch]
    | cons other others =>
      unfold BlockKey.mismatch
      split
      · rename_i same
        obtain ⟨short, short', agree⟩ := ih others
        rw [take_succ_cons, take_succ_cons, same, agree]
        exact ⟨Nat.succ_le_succ short, Nat.succ_le_succ short', rfl⟩
      · simp

/-- Keys promise the same KV for the tokens in which they match. -/
theorem keyKv_of_partialMatch (above : List BlockKey) {other : BlockKey}
    (lt : token < other.partialMatch key) : keyKv above other token = keyKv above key token ∧
      token < other.uniqueTokens.length ∧ token < key.uniqueTokens.length := by
  unfold BlockKey.partialMatch at lt
  split at lt
  · rename_i compatible
    obtain ⟨lora, _, salt⟩ := compatible
    obtain ⟨short, short', agree⟩ := BlockKey.mismatch_spec other.uniqueTokens key.uniqueTokens
    have agreeHere := congrArg (List.take (token + 1)) agree
    rw [take_take, take_take, Nat.min_eq_left lt] at agreeHere
    refine ⟨?_, Nat.lt_of_lt_of_le lt short, Nat.lt_of_lt_of_le lt short'⟩
    unfold keyKv
    rw [lora, salt, agreeHere]
  · exact absurd lt (Nat.not_lt_zero _)

/-! ## The keys of the callers -/

namespace WindowBlockManager

variable {vec : List UniqueToken} {blockKeys : List BlockKey}

/-- The keys of a chopped vector are those of its blocks, none of which is empty. -/
theorem buildBlockKeys_ne_nil {usableSize : Nat}
    (chopped : chopVectorIntoBlocks vec usableSize cfg.tokensPerBlock allowPartial = .ok parts) :
    ∀ key ∈ buildBlockKeys parts req, key.uniqueTokens ≠ [] := by
  intro key mem
  have part := mem_buildBlockKeysFrom mem
  unfold chopVectorIntoBlocks at chopped
  split at chopped
  · cases chopped
    exact chopLoop_ne_nil cfg.tokensPerBlock_pos part
  · cases chopped

theorem reuseKeys_ne_nil (keys : reuseKeys cfg req allowPartial = .ok blockKeys) :
    ∀ key ∈ blockKeys, key.uniqueTokens ≠ [] := by
  simp only [reuseKeys, bind_eq_ok, pure_eq_ok] at keys
  obtain ⟨parts, chopped, rfl⟩ := keys
  exact buildBlockKeys_ne_nil chopped

theorem newBlockKeys_ne_nil (keys : newBlockKeys cfg req = .ok blockKeys) :
    ∀ key ∈ blockKeys, key.uniqueTokens ≠ [] := by
  simp only [newBlockKeys, bind_eq_ok, pure_eq_ok] at keys
  obtain ⟨parts, chopped, rfl⟩ := keys
  exact buildBlockKeys_ne_nil chopped


theorem cuts_buildBlockKeys (each : ∀ {idx part}, parts[idx]? = some part →
      part = ((req.uniqueTokens.take usable).drop (idx * cfg.tokensPerBlock)).take
        cfg.tokensPerBlock) : Cuts cfg req usable (buildBlockKeys parts req) where
  lora found := (buildBlockKeysFrom_getElem found).2
  tokens found := each (buildBlockKeysFrom_getElem found).1

theorem chopVectorIntoBlocks_getElem {part : List UniqueToken}
    (chopped : chopVectorIntoBlocks vec usable elementsPerBlock allowPartial = .ok parts)
    (found : parts[idx]? = some part) :
    part = ((vec.take usable).drop (idx * elementsPerBlock)).take elementsPerBlock ∧
      (allowPartial = false → part.length = elementsPerBlock) := by
  unfold chopVectorIntoBlocks at chopped
  split at chopped
  · cases chopped
    exact chopLoop_getElem found
  · cases chopped

theorem chopVectorIntoBlocks_covers (pos : 0 < elementsPerBlock)
    (chopped : chopVectorIntoBlocks vec usable elementsPerBlock true = .ok parts) :
    (vec.take usable).length ≤ parts.length * elementsPerBlock := by
  unfold chopVectorIntoBlocks at chopped
  split at chopped
  · cases chopped
    exact length_le_chopLoop pos (length_take_le _ _)
  · cases chopped

theorem reuseKeys_cuts (built : reuseKeys cfg req allowPartial = .ok keys) :
    Cuts cfg req req.getUsableUniqueTokenCountForReuse keys := by
  simp only [reuseKeys, bind_eq_ok, pure_eq_ok] at built
  obtain ⟨parts, chopped, rfl⟩ := built
  exact cuts_buildBlockKeys fun found => (chopVectorIntoBlocks_getElem chopped found).1

/-- Without partial blocks every key fills its block. -/
theorem reuseKeys_full (built : reuseKeys cfg req false = .ok keys)
    (found : keys[idx]? = some key) : key.uniqueTokens.length = cfg.tokensPerBlock := by
  simp only [reuseKeys, bind_eq_ok, pure_eq_ok] at built
  obtain ⟨parts, chopped, rfl⟩ := built
  exact (chopVectorIntoBlocks_getElem chopped (buildBlockKeysFrom_getElem found).1).2 rfl

theorem newBlockKeys_cuts (built : newBlockKeys cfg req = .ok keys) :
    Cuts cfg req (req.uniqueTokens.length - 1) keys := by
  simp only [newBlockKeys, bind_eq_ok, pure_eq_ok] at built
  obtain ⟨parts, chopped, rfl⟩ := built
  exact cuts_buildBlockKeys fun found => (chopVectorIntoBlocks_getElem chopped found).1

/-- Keys of whole blocks of tokens fill their blocks. -/
theorem newBlockKeys_full (built : newBlockKeys cfg req = .ok keys)
    (whole : (req.uniqueTokens.length - 1) % cfg.tokensPerBlock = 0)
    (found : keys[idx]? = some key) : key.uniqueTokens.length = cfg.tokensPerBlock := by
  have nonempty := newBlockKeys_ne_nil built key (mem_of_getElem? found)
  have cut := congrArg List.length ((newBlockKeys_cuts built).tokens found)
  rw [length_take, length_drop, length_take_of_le (Nat.sub_le _ _)] at cut
  have pos := length_pos_iff.mpr nonempty
  obtain ⟨count, exact⟩ := Nat.dvd_of_mod_eq_zero whole
  rw [exact, Nat.mul_comm cfg.tokensPerBlock count, ← Nat.sub_mul] at cut
  rcases Nat.eq_zero_or_pos (count - idx) with none | some
  · rw [none, Nat.zero_mul, Nat.min_zero] at cut
    omega
  · rw [cut]
    exact Nat.min_eq_left (Nat.le_mul_of_pos_left _ some)

/-- The empty key that is added for a prompt one token longer than its blocks cuts it too. -/
theorem promptKeys_cuts {inputLength : Nat} (built : promptKeys cfg req inputLength = .ok keys) :
    Cuts cfg req (inputLength - 1) keys := by
  simp only [promptKeys, bind_eq_ok, pure_eq_ok] at built
  obtain ⟨parts, chopped, rfl⟩ := built
  split
  · rename_i extra
    refine cuts_buildBlockKeys fun {idx part} found => ?_
    by_cases lt : idx < parts.length
    · rw [List.getElem?_append_left lt] at found
      exact (chopVectorIntoBlocks_getElem chopped found).1
    · have last : idx = parts.length ∧ part = [] := by
        rw [List.getElem?_append_right (Nat.le_of_not_lt lt)] at found
        obtain ⟨bound, rfl⟩ := List.getElem?_eq_some_iff.mp found
        simp only [List.length_singleton] at bound
        exact ⟨by omega, by simp⟩
      obtain ⟨rfl, rfl⟩ := last
      have covered := chopVectorIntoBlocks_covers cfg.tokensPerBlock_pos chopped
      rw [List.drop_eq_nil_of_le covered, List.take_nil]
  · exact cuts_buildBlockKeys fun found => (chopVectorIntoBlocks_getElem chopped found).1

end WindowBlockManager

end TrtLlm
