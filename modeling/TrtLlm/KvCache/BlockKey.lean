import TrtLlm.KvCache.LlmRequest

/-! # Block keys

A block of the reuse tree is found by its `BlockKey`: the tokens of the block with
everything else that decides the contents of the cache for them. This module has
the keys, their hash, and the chopping of a request's tokens into keys.
-/

namespace TrtLlm

/-- `MmKey`: the 32 hash bytes of a multimodal item and its offset in the block. -/
structure MmKey where
  hash : List UInt8
  startOffset : Nat
  deriving DecidableEq, Repr

structure BlockKey where
  usesExtraIds : Bool := false
  loraTaskId : Option UInt64 := none
  uniqueTokens : List UniqueToken := []
  extraKeys : List MmKey := []
  cacheSaltID : Option UInt64 := none
  deriving DecidableEq, Repr

namespace BlockKey

/-- Length of the common prefix, as `std::mismatch` finds it. -/
def mismatch : List UniqueToken → List UniqueToken → Nat
  | token :: tokens, other :: others =>
    if token = other then mismatch tokens others + 1 else 0
  | _, _ => 0

/-- `partialMatch`: tokens shared from the start when lora, multimodal data and salt agree. -/
def partialMatch (key other : BlockKey) : Nat :=
  if key.loraTaskId = other.loraTaskId ∧ key.extraKeys = other.extraKeys ∧
      key.cacheSaltID = other.cacheSaltID then
    mismatch key.uniqueTokens other.uniqueTokens
  else 0

end BlockKey

namespace BlockKeyHasher

/-- `seed ^= value + 0x9e3779b9 + (seed << 6) + (seed >> 2)` -/
def combine (seed value : UInt64) : UInt64 :=
  seed ^^^ (value + (seed <<< 6) + (seed >>> 2))

/-- The 64-bit finaliser applied to salts, extra ids, lora ids and offsets. -/
def mix64 (value : UInt64) : UInt64 :=
  let value := (value ^^^ (value >>> 30)) * 0xbf58476d1ce4e5b9
  let value := (value ^^^ (value >>> 27)) * 0x94d049bb133111eb
  (value ^^^ (value >>> 31)) + 0x9e3779b9

/-- The 32-bit finaliser applied to tokens and hash words; the sum wraps at 32 bits. -/
def mix32 (value : UInt32) : UInt64 :=
  let value := ((value >>> 16) ^^^ value) * 0x45d9f3b
  let value := ((value >>> 16) ^^^ value) * 0x45d9f3b
  (((value >>> 16) ^^^ value) + 0x9e3779b9).toUInt64

/-- The little-endian words of a multimodal hash. -/
def hashWords : List UInt8 → List UInt32
  | a :: b :: c :: d :: rest =>
    (a.toUInt32 ||| (b.toUInt32 <<< 8) ||| (c.toUInt32 <<< 16) ||| (d.toUInt32 <<< 24)) ::
      hashWords rest
  | _ => []

def hashToken (usesExtraIds : Bool) (seed : UInt64) (token : UniqueToken) : UInt64 :=
  let seed := combine seed (mix32 token.tokenId.toUInt32)
  if usesExtraIds then combine seed (mix64 token.tokenExtraId) else seed

def hashExtraKey (seed : UInt64) (extraKey : MmKey) : UInt64 :=
  combine ((hashWords extraKey.hash).foldl (fun seed word => combine seed (mix32 word)) seed)
    (mix64 extraKey.startOffset.toUInt64)

/-- `BlockKeyHasher::hash`: the salt enters the hash of a first block only. -/
def hash (blockKey : BlockKey) (parentHash : UInt64 := 0) : UInt64 :=
  let seed := blockKey.uniqueTokens.length.toUInt64 ^^^ (parentHash * 0xbf58476d1ce4e5b9)
  let seed := match blockKey.cacheSaltID with
    | some salt => if parentHash = 0 then combine seed (mix64 salt) else seed
    | none => seed
  let seed := blockKey.uniqueTokens.foldl (hashToken blockKey.usesExtraIds) seed
  let seed := match blockKey.loraTaskId with
    | some loraTaskId => combine seed (mix64 loraTaskId)
    | none => seed
  blockKey.extraKeys.foldl hashExtraKey seed

end BlockKeyHasher

/-! ## Chopping tokens into blocks -/

section Chop

variable {α : Type}

/-- The loop of `chopVectorIntoBlocks` over the usable part of the vector. -/
def chopLoop (elementsPerBlock : Nat) (allowPartial : Bool) : Nat → List α → List (List α)
  | 0, _ => []
  | _ + 1, [] => []
  | fuel + 1, rest@(_ :: _) =>
    if elementsPerBlock ≤ rest.length ∨ allowPartial then
      rest.take elementsPerBlock ::
        chopLoop elementsPerBlock allowPartial fuel (rest.drop elementsPerBlock)
    else []

/-- `chopVectorIntoBlocks`; the usable size is checked against the vector's. -/
def chopVectorIntoBlocks (vec : List α) (usableSize elementsPerBlock : Nat)
    (allowPartial : Bool) : Except Failure (List (List α)) :=
  if usableSize ≤ vec.length then
    .ok (chopLoop elementsPerBlock allowPartial usableSize (vec.take usableSize))
  else .error .usableSize

end Chop

/-- `getNthByte`: bytes of a hash word, most significant first. -/
def getNthByte (hashPart : UInt32) (byteIdx : UInt32) : UInt8 :=
  (hashPart >>> (24 - byteIdx * 8)).toUInt8

/-- The 32 bytes of a multimodal hash. The source checks the length 8 that the type has here. -/
def mmHashArray (mmHashVector : Vector UInt32 8) : List UInt8 :=
  mmHashVector.toList.flatMap fun hashPart =>
    [getNthByte hashPart 0, getNthByte hashPart 1, getNthByte hashPart 2, getNthByte hashPart 3]

/-- `generateBlockHashExtraKeys`: the multimodal items that overlap a span of tokens. -/
def generateBlockHashExtraKeys (request : LlmRequest) (startTokenIdx endTokenIdx : Nat) :
    List MmKey :=
  match request.multimodal with
  | none => []
  | some mm =>
    if mm.hashes.length = mm.positions.length ∧ mm.positions.length = mm.lengths.length then
      (mm.hashes.zip (mm.positions.zip mm.lengths)).filterMap fun item =>
        let startPos := item.2.1
        if startPos < endTokenIdx ∧ startTokenIdx < startPos + item.2.2 then
          some ⟨mmHashArray item.1, startTokenIdx - startPos⟩
        else none
    else []

/-- One key of `buildBlockKeys`, for the tokens that start at `currentTokenIdx`. -/
def blockKeyAt (request : LlmRequest) (currentTokenIdx : Nat) (uniqueTokens : List UniqueToken) :
    BlockKey where
  usesExtraIds := request.usesExtraIds
  loraTaskId := request.loraTaskId
  uniqueTokens := uniqueTokens
  extraKeys := generateBlockHashExtraKeys request currentTokenIdx
    (currentTokenIdx + uniqueTokens.length)
  cacheSaltID := request.cacheSaltID

def buildBlockKeysFrom (request : LlmRequest) : Nat → List (List UniqueToken) → List BlockKey
  | _, [] => []
  | currentTokenIdx, uniqueTokens :: rest =>
    blockKeyAt request currentTokenIdx uniqueTokens ::
      buildBlockKeysFrom request (currentTokenIdx + uniqueTokens.length) rest

/-- `buildBlockKeys` -/
def buildBlockKeys (blockedUniqueTokens : List (List UniqueToken)) (request : LlmRequest) :
    List BlockKey :=
  buildBlockKeysFrom request 0 blockedUniqueTokens

end TrtLlm
