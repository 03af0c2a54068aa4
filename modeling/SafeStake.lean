import SafeStake.Mempool.Wire
import SafeStake.Mempool.Handler
import SafeStake.Mempool.Process
import SafeStake.Mempool.Lifecycle
import SafeStake.Mempool.Boot
import SafeStake.Mempool.Safety
import SafeStake.Mempool.Delivery
import SafeStake.Block.Fallback
import SafeStake.Block.Publish
import SafeStake.Block.Update
