import Clawchain.Lib.OrdMap
import Clawchain.Lib.Shares
import Clawchain.Lib.Rotation
import Clawchain.Lib.Faulty
import Clawchain.Lib.Format
import Clawchain.Arena.Table.State
import Clawchain.Arena.Table.Engine
import Clawchain.Arena.Table.Award
import Clawchain.Arena.Table.Turn
import Clawchain.Arena.Table.Chips
import Clawchain.Arena.Table.Live
import Clawchain.Arena.Table.Queue
import Clawchain.Arena.Store
import Clawchain.Arena.Table.Actor
import Clawchain.Arena.Table.Drive
import Clawchain.Arena.Table.ExactlyOnce
import Clawchain.Arena.Table.Persist
import Clawchain.Arena.Gateway.Submit
import Clawchain.Arena.Gateway.Quiet
import Clawchain.Arena.Gateway.Acknowledge
import Clawchain.Arena.Gateway.Interleave
import Clawchain.Arena.Model
import Clawchain.Arena.Hub.Service
import Clawchain.Arena.Gateway.Retry
import Clawchain.Arena.App.State
import Clawchain.Arena.App.Field
import Clawchain.Arena.App.Barrier
import Clawchain.Arena.App.Runtime
import Clawchain.Arena.App.Writes
import Clawchain.Lib.Rfc3339
import Clawchain.Lib.Groups
import Clawchain.Chain.Settlement
import Clawchain.Chain.Reputation
import Clawchain.Chain.Poa
import Clawchain.Arena.Table.Stored
import Clawchain.Arena.Table.Restart
import Clawchain.Arena.Table.Stream
import Clawchain.Arena.Hub.Transition
import Clawchain.Chain.Challenges
import Clawchain.Chain.Settling
import Clawchain.Chain.PaidOnce
import Clawchain.Chain.Emission
import Clawchain.Arena.App.Calls
import Clawchain.Arena.App.Disqualified
import Clawchain.Arena.App.FieldLock
import Clawchain.Arena.App.Sweep
import Clawchain.Arena.App.View
import Clawchain.Arena.Gateway.Concurrent
import Clawchain.Arena.Table.AllIn
import Clawchain.Arena.Table.Ladder
import Clawchain.Arena.Table.Opening
import Clawchain.Chain.CommitReveal
import Clawchain.Chain.MapOrder
import Clawchain.Lib.Apportion
import Clawchain.Lib.Fallible
import Clawchain.Lib.Lifting
import Clawchain.Lib.Sorting
import Clawchain.Lib.Unions
import Clawchain.Mining.Anchor
import Clawchain.Mining.Batching
import Clawchain.Mining.Clusters
import Clawchain.Mining.Earned
import Clawchain.Mining.Final
import Clawchain.Mining.Late
import Clawchain.Mining.Resend
import Clawchain.Mining.Reveals
import Clawchain.Mining.Openings
import Clawchain.Mining.Interleaved
import Clawchain.Mining.Acknowledged
import Clawchain.Mining.Ending
import Clawchain.Mining.Risk
import Clawchain.Poker.Build
import Clawchain.Poker.Computed
import Clawchain.Poker.Feedback
import Clawchain.Poker.Payable
import Clawchain.Poker.Undisturbed
import Clawchain.Projection.Alone
import Clawchain.Projection.Effective
import Clawchain.Projection.Repeated
import Clawchain.Ranking.Canonical
import Clawchain.Ranking.Entrants
import Clawchain.Ranking.ReadOrder
import Clawchain.Arena.Hub.Prestart
import Clawchain.Arena.App.Ranks
import Clawchain.Arena.Rating.Completed
import Clawchain.Arena.Replay.Replayer
import Clawchain.Arena.App.TimeCap
import Clawchain.Arena.App.NeverSeated
import Clawchain.Arena.App.BustOrder
import Clawchain.Chain.Streaks
import Clawchain.Chain.Evaluation
import Clawchain.Chain.Counting
import Clawchain.Chain.Formulas
import Clawchain.Poker.Allocation
import Clawchain.Poker.Citations
import Clawchain.Mining.Merging
import Clawchain.Mining.Roots
import Clawchain.Mining.Artifacts
import Clawchain.Mining.Components
import Clawchain.Adapter.Confirmation
import Clawchain.Adapter.SignDoc
import Clawchain.Mining.Signatures
import Clawchain.Hands.Converge
import Clawchain.Hands.Consumer
import Clawchain.Hands.Checkpoints
import Clawchain.Hands.Evidence
import Clawchain.Hands.Drift
import Clawchain.Hands.Hud
import Clawchain.Hands.Replayed
import Clawchain.Lib.Adjacent
import Clawchain.Lib.Utf8
import Clawchain.Mining.Addresses
import Clawchain.Mining.Canonical
import Clawchain.Poker.Buckets
import Clawchain.Projection.HandOff
import Clawchain.Ranking.Died
import Clawchain.Ranking.Live
import Clawchain.Arena.App.Removal
import Clawchain.Arena.App.Policy
import Clawchain.Chain.Genesis
