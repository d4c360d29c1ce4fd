import TrtLlm.KvCache.EvictionOrder
import TrtLlm.KvCache.KVCacheTransferManager
import TrtLlm.KvCache.MaxAttentionWindow
import TrtLlm.KvCache.RadixCoherence
import TrtLlm.KvCache.RetentionConfig
import TrtLlm.KvCache.ReuseContents
import TrtLlm.KvCache.SlidingStore
import TrtLlm.Scheduler.SimulatedRelease
import TrtLlm.Scheduler.SlidingEstimate
import TrtLlm.Scheduler.TokenBudget
import TrtLlm.Transfer.AgentConnection
import TrtLlm.Transfer.CacheTransceiver
import TrtLlm.Transfer.MLAStaging
import TrtLlm.Transfer.TransferResources
import TrtLlm.Executor.AttentionDp
import TrtLlm.Executor.ContextWaiting
import TrtLlm.Executor.IntervalSet
import TrtLlm.Executor.KvCacheConnector
import TrtLlm.Executor.PauseResume
import TrtLlm.Executor.QueueAgreement
import TrtLlm.Executor.StageBroadcast
import TrtLlm.Executor.TerminationRing
import TrtLlm.Moe.WeightUpdate
import TrtLlm.Parallel.LoraLayers
