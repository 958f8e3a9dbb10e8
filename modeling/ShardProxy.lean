import ShardProxy.Execution.Describe
import ShardProxy.Execution.RowStream
import ShardProxy.Main
import ShardProxy.Proofs.Routing.Layers
import ShardProxy.Proofs.Routing.Seeded
import ShardProxy.Proofs.Routing.Stages
import ShardProxy.Proofs.Routing.Coverage
import ShardProxy.Proofs.Routing.Separation
import ShardProxy.Proofs.Execution.Steps
import ShardProxy.Proofs.Execution.Callers
import ShardProxy.Proofs.Execution.Sequential
import ShardProxy.Proofs.Execution.Sharing
import ShardProxy.Proofs.Execution.Histories
import ShardProxy.Proofs.Execution.Quiet
import ShardProxy.Proofs.Execution.Schedules
import ShardProxy.Proofs.Execution.Completion
import ShardProxy.Proofs.Execution.Conservation
import ShardProxy.Proofs.Execution.Endings
import ShardProxy.Proofs.Execution.Shutdown
import ShardProxy.Proofs.Failures
import ShardProxy.Proofs.Routing.FirstFit
import ShardProxy.Proofs.Routing.TableOrder
import ShardProxy.Proofs.Routing.Fruitful
import ShardProxy.Proofs.Routing.Reads
import ShardProxy.Proofs.Execution.Blame
import ShardProxy.Proofs.Targets
import ShardProxy.Proofs.Previews
import ShardProxy.Proofs.Routing.Joins
import ShardProxy.Proofs.Routing.Overlaps
import ShardProxy.Registry
import ShardProxy.Proofs.Ownership
import ShardProxy.Proofs.Routing.Respelling
import ShardProxy.Proofs.Routing.Repetition
import ShardProxy.Proofs.Routing.Resending
import ShardProxy.Proofs.Routing.StageOrder
import ShardProxy.Proofs.Execution.Merging
import ShardProxy.Proofs.Execution.Totals
import ShardProxy.Proofs.Execution.Streaming
import ShardProxy.Proofs.Routing.Validation
import ShardProxy.Proofs.Rule.ReadingBack
import ShardProxy.Proofs.Routing.Readiness
import ShardProxy.Proofs.Routing.Weighing
