import LlmqQuorums.Basic
import LlmqQuorums.Commitment
import LlmqQuorums.ScanCache
import LlmqQuorums.DataRequest
import LlmqQuorums.Quorum
import LlmqQuorums.QuorumManager
import LlmqQuorums.Node
import LlmqQuorums.RequestProtocol
import LlmqQuorums.Noninterference
import LlmqQuorums.Recovery
import LlmqQuorums.Absorption
import LlmqQuorums.CacheCoherence
import LlmqQuorums.Serving
import LlmqQuorums.MemberAccess
import LlmqQuorums.Rebuild
import LlmqQuorums.Connections
import LlmqQuorums.RecoveryThreads
import LlmqQuorums.Exchange
import LlmqQuorums.Wallet.Dump
import LlmqQuorums.Wallet.ImportMulti
import LlmqQuorums.Wallet.Backup
import LlmqQuorums.Wallet.Rpc
import LlmqQuorums.Wallet.Electrum
import LlmqQuorums.Wallet.Session
import LlmqQuorums.Rpc.Util
import LlmqQuorums.Rpc.Help
