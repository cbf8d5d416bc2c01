import Evalynx.Relational
import Evalynx.Transition
import Evalynx.Holding
import Evalynx.Commuting
import Evalynx.Checking
import Evalynx.Json
import Evalynx.JsonText
import Evalynx.JsonRoundTrip
import Evalynx.JsonOrder
import Evalynx.PyText
import Evalynx.PosixPath
import Evalynx.FileSystem
import Evalynx.ConfigHash
import Evalynx.Models
import Evalynx.Runners
import Evalynx.Columns
import Evalynx.Worker
import Evalynx.Service
import Evalynx.Lineage
import Evalynx.Transactions
import Evalynx.History
import Evalynx.Mirror
import Evalynx.Backfill
import Evalynx.World
import Evalynx.Jobs
import Evalynx.Statements
import Evalynx.Sessions
import Evalynx.Requests
import Evalynx.Attempts
import Evalynx.Interleaving
import Evalynx.Schedules
import Evalynx.SoloWargame
import Evalynx.Processing
import Evalynx.Fate
import Evalynx.Terminal
import Evalynx.Failures
import Evalynx.PayloadContract
import Evalynx.SoloWargameConfig
import Evalynx.ConfigGrammar
import Evalynx.MissionPath
import Evalynx.Resubmission
import Evalynx.Redelivery
import Evalynx.RunDetail
import Evalynx.ArtifactDirs
import Evalynx.Registry
import Evalynx.HashedRequest
import Evalynx.RowShape
import Evalynx.Clocked
import Evalynx.WorkerFrame
import Evalynx.RetryAvailability
import Evalynx.PayloadRejection
import Evalynx.ConfigRejection
import Evalynx.RequestIdentity
import Evalynx.Retrying
import Evalynx.RunBook
import Evalynx.BookedCalls
import Evalynx.ClientReads
import Evalynx.StoredTypes
import Evalynx.Potential
import Evalynx.Draining
import Evalynx.Executions
import Evalynx.Listing
import Evalynx.Growth
import Evalynx.Api
import Evalynx.ApiContract
import Evalynx.Migrations
import Evalynx.Outcomes
import Evalynx.StubRuns
import Evalynx.ThreadPool
import Evalynx.BackgroundQueue
import Evalynx.Settings
import Evalynx.LockOrder
import Evalynx.LockWaits
import Evalynx.Completing
